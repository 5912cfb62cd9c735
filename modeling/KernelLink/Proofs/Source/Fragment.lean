import KernelLink.Proofs.Number.Text
import KernelLink.Proofs.Source.Compose
import KernelLink.Proofs.Source.Declaration

/-!
# Scanning a fragment

The texts of fragments and the scanner know nothing of each other. What they agree on is stated
here: a fragment written for a declaration scans to that declaration and to nothing else. A body is
the one part that can be anything, so the agreement asks two things of it. Its comments have to be
closed, or they would swallow the brace behind it; and without comments its braces have to be
balanced, or the scanner would take another brace for that one.
-/

namespace KernelLink

/-! ## The texts of fragments -/

theorem toList_ended (lines : List String) :
    (ended lines).toList = ['\n'].intercalate (lines.map String.toList) ++ ['\n'] := by
  unfold ended
  rw [String.toList_append, String.toList_intercalate]
  rfl

theorem endsLine_ended (lines : List String) : EndsLine (ended lines).toList :=
  ⟨_, toList_ended lines⟩

theorem toList_importFragment (d : Declaration) : d.importFragment.text.toList =
    visibleMark ++ '\n' :: (d.returnType.toList ++ ' ' :: (d.name.toList ++
      '(' :: (listed (d.params.map fun p => trimBlanks p.type.toList) ++
        ')' :: [';', '\n']))) := by
  unfold Declaration.importFragment ended listed trimText visibleMark
  simp [String.toList_append, String.toList_intercalate, Function.comp_def]

theorem toList_definitionFragment (d : Declaration) (body : String) :
    (d.definitionFragment body).text.toList =
    visibleMark ++ '\n' :: (d.returnType.toList ++ ' ' :: (d.name.toList ++
      '(' :: (listed (d.params.map fun p => trimBlanks p.type.toList ++ ' ' :: p.name.toList) ++
        ')' :: ' ' :: '\x7b' :: '\n' :: (body.toList ++ '\n' :: '\x7d' :: ['\n'])))) := by
  unfold Declaration.definitionFragment ended listed trimText visibleMark
  simp [String.toList_append, String.toList_intercalate, Function.comp_def]

/-- What stands between the parentheses of a kernel. -/
def kernelArguments (buffers : List BufferParam) : List Char :=
  '\n' :: ((bufferLines buffers).toList ++ threadArguments.toList)

theorem toList_kernelFragment (name : String) (buffers : List BufferParam) (body : String) :
    (kernelFragment name buffers body).text.toList =
    kernelWord ++ ' ' :: ("void".toList ++ ' ' :: (name.toList ++
      '(' :: (kernelArguments buffers ++
        ')' :: '\n' :: '\x7b' :: '\n' :: (body.toList ++ '\n' :: '\x7d' :: ['\n'])))) := by
  unfold kernelFragment ended kernelArguments kernelWord
  simp [String.toList_append]

/-! ## Bodies -/

/-- What can stand as a body. -/
structure IsBody (body : String) : Prop where
  closes : ClosesComments body.toList
  balanced : Balanced '\x7b' '\x7d' (stripComments body.toList)

/-- A body as the scanner gives it back. -/
def scannedBody (body : String) : String :=
  String.ofList ('\n' :: (stripComments body.toList ++ ['\n']))

/-- A declaration without slashes and a body: its text without comments. -/
theorem IsBody.stripComments_eq {body : String} (h : IsBody body) {head : List Char}
    (hhead : '/' ∉ head) :
    Comment.after .code (head ++ (body.toList ++ '\n' :: '\x7d' :: ['\n'])) = .code ∧
      stripComments (head ++ (body.toList ++ '\n' :: '\x7d' :: ['\n'])) =
        head ++ (stripComments body.toList ++ '\n' :: '\x7d' :: ['\n']) := by
  -- The newline behind the body comes back to code, so the text is stripped in three parts.
  have hsplit : body.toList ++ '\n' :: '\x7d' :: ['\n'] =
      (body.toList ++ ['\n']) ++ ['\x7d', '\n'] := by simp
  have hcode := after_of_no_slash hhead
  have hline := after_line h.closes
  constructor
  · rw [hsplit, Comment.after_append, hcode, Comment.after_append, hline]
    rfl
  · rw [hsplit, stripComments_append hcode, stripComments_append hline,
      stripComments_line h.closes, (CommentFree.of_no_slash hhead).stripComments_eq,
      show stripComments ['\x7d', '\n'] = ['\x7d', '\n'] from rfl]
    simp

theorem endsLine_body (head body : List Char) :
    EndsLine (head ++ (body ++ '\n' :: '\x7d' :: ['\n'])) :=
  (EndsLine.append ⟨['\n', '\x7d'], rfl⟩ body).append head

/-- Behind a blank, a body is what its braces enclose. -/
theorem IsBody.readsBody {body : String} (h : IsBody body) {blank : Char}
    (hblank : isAsciiBlank blank) :
    ReadsBody (blank :: '\x7b' :: '\n' :: (stripComments body.toList ++ '\n' :: '\x7d' :: ['\n']))
      ('\n' :: (stripComments body.toList ++ ['\n'])) ['\n'] := by
  have hnewline : Balanced '\x7b' '\x7d' ['\n'] := Balanced.of_not_mem (by decide) (by decide)
  have hinside : Balanced '\x7b' '\x7d' ('\n' :: (stripComments body.toList ++ ['\n'])) :=
    hnewline.append (h.balanced.append hnewline)
  have hdrop : (blank :: '\x7b' :: '\n' ::
      (stripComments body.toList ++ '\n' :: '\x7d' :: ['\n'])).dropWhile isAsciiBlank =
        '\x7b' :: (('\n' :: (stripComments body.toList ++ ['\n'])) ++ '\x7d' :: ['\n']) := by
    rw [List.dropWhile_cons_of_pos hblank, List.dropWhile_cons_of_neg (by decide)]
    simp
  exact ⟨⟨_, hdrop⟩, by rw [hdrop]; exact hinside.enclosed?_eq (by decide) ['\n']⟩

/-! ## Visible functions -/

/-- What declarations have to be for their texts to be read at all. -/
structure Declaration.Spelled (d : Declaration) : Prop where
  returnType : IsWordType d.returnType
  name : isIdentifier d.name.toList
  types : ∀ p ∈ d.params, IsWordType p.type
  names : ∀ p ∈ d.params, isIdentifier p.name.toList

/-- What declarations have to be for their texts to be read back. -/
structure Declaration.WellFormed (d : Declaration) : Prop where
  returnType : IsDeclaredType d.returnType
  name : isIdentifier d.name.toList
  types : ∀ p ∈ d.params, IsDeclaredType p.type
  names : ∀ p ∈ d.params, isIdentifier p.name.toList
  /-- One parameter of type `void` is no parameter. -/
  notVoid : d.params.map (fun p => trimText p.type) ≠ ["void"]

/-- What the types of a declaration have to be to be read where no names stand. -/
structure Declaration.ReadsUnnamed (d : Declaration) : Prop where
  types : ∀ p ∈ d.params, KeepsLastToken p.type
  /-- One parameter of type `void` is no parameter. -/
  notVoid : d.params.map (fun p => trimText p.type) ≠ ["void"]

theorem Declaration.WellFormed.spelled {d : Declaration} (h : d.WellFormed) : d.Spelled :=
  ⟨h.returnType.isWordType, h.name, fun p hp => (h.types p hp).isWordType, h.names⟩

theorem Declaration.WellFormed.readsUnnamed {d : Declaration} (h : d.WellFormed) :
    d.ReadsUnnamed :=
  ⟨fun p hp => (h.types p hp).keepsLastToken, h.notVoid⟩

/-- Parameters as they are written: blanks at the ends are gone, and no delimiters are inside. -/
structure IsParameterText (p : List Char) : Prop where
  trimmed : Trimmed isBlank p
  plain : ∀ c ∈ p, c ≠ ',' ∧ c ≠ '(' ∧ c ≠ ')' ∧ c ≠ '/'

theorem IsWordType.isParameterText {type : String} (h : IsWordType type) :
    IsParameterText (trimBlanks type.toList) := by
  have hne : trimBlanks type.toList ≠ [] := by
    intro hnil
    have htokens := typeTokens_trimBlanks type.toList
    rw [hnil] at htokens
    exact h.tokens_ne_nil htokens.symm
  refine ⟨trimmed_trimWhile hne, fun c hc => ?_⟩
  obtain ⟨before, after, -, -, htrim⟩ := exists_trimWhile isBlank type.toList
  have hmem : c ∈ type.toList := by
    rw [htrim]
    exact List.mem_append_right _ (List.mem_append_left _ hc)
  refine ⟨?_, ?_, ?_, ?_⟩
  all_goals
    rintro rfl
    exact h.not_mem (by decide) (by decide) (by decide) hmem

theorem IsParameterText.named {type name : List Char} (h : IsParameterText type)
    (hname : isIdentifier name) : IsParameterText (type ++ ' ' :: name) := by
  have hword := isWordChar_of_mem_identifier hname
  refine ⟨h.trimmed.append (Trimmed.of_forall (isIdentifier.ne_nil hname) fun c hc =>
    (isWordChar_apart (hword c hc)).2) [' '], fun c hc => ?_⟩
  rcases List.mem_append.mp hc with hc | hc
  · exact h.plain c hc
  · rcases List.mem_cons.mp hc with rfl | hc
    · decide
    · refine ⟨?_, ?_, ?_, ?_⟩
      all_goals
        rintro rfl
        exact isIdentifier.not_mem hname (by decide) hc

theorem mem_listed {ps : List (List Char)} {c : Char} (h : c ∈ listed ps) :
    c = ',' ∨ c = ' ' ∨ ∃ p ∈ ps, c ∈ p := by
  induction ps with
  | nil => cases h
  | cons p rest ih =>
    cases rest with
    | nil =>
      rw [listed_singleton] at h
      exact .inr (.inr ⟨p, List.mem_cons_self, h⟩)
    | cons q rest =>
      rw [listed_cons, List.mem_append, List.mem_append, List.mem_cons, List.mem_singleton] at h
      rcases h with h | (h | h) | h
      · exact .inr (.inr ⟨p, List.mem_cons_self, h⟩)
      · exact .inl h
      · exact .inr (.inl h)
      · rcases ih h with h | h | ⟨r, hr, h⟩
        · exact .inl h
        · exact .inr (.inl h)
        · exact .inr (.inr ⟨r, List.mem_cons_of_mem _ hr, h⟩)

theorem paramTypes_signature (d : Declaration) :
    d.signature.paramTypes = d.params.map fun p => normalizeType p.type :=
  List.map_map

namespace Declaration

/-- The parameters as an import lists them: types alone. -/
def listedTypes (d : Declaration) : List (List Char) :=
  d.params.map fun p => trimBlanks p.type.toList

/-- The parameters as a definition lists them: types and names. -/
def listedNamed (d : Declaration) : List (List Char) :=
  d.params.map fun p => trimBlanks p.type.toList ++ ' ' :: p.name.toList

/-- The signature that is read off a parameter list. -/
def signatureFrom (d : Declaration) (ps : List (List Char)) : Signature :=
  ⟨normalizeType d.returnType, d.name, readParameters (listed ps)⟩

variable {d : Declaration} {ps : List (List Char)}

theorem signatureFrom_eq_iff :
    d.signatureFrom ps = d.signature ↔ readParameters (listed ps) = d.signature.paramTypes :=
  ⟨fun h => congrArg Signature.paramTypes h, fun h => by unfold signatureFrom; rw [h]; rfl⟩

theorem listedTypes_ne_void_iff : d.listedTypes ≠ ["void".toList] ↔
    d.params.map (fun p => trimText p.type) ≠ ["void"] := by
  have hmap : d.params.map (fun p => trimText p.type) = d.listedTypes.map String.ofList := by
    unfold listedTypes trimText
    rw [List.map_map]
    rfl
  have hinj : Function.Injective (List.map String.ofList) :=
    List.map_injective_iff.mpr fun _ _ h => String.ofList_inj.mp h
  rw [hmap, ← hinj.ne_iff, List.map_singleton, String.ofList_toList]

namespace Spelled

theorem listedTypes_texts (h : d.Spelled) : ∀ t ∈ d.listedTypes, IsParameterText t :=
  List.forall_mem_map.mpr fun p hp => (h.types p hp).isParameterText

theorem listedNamed_texts (h : d.Spelled) : ∀ t ∈ d.listedNamed, IsParameterText t :=
  List.forall_mem_map.mpr fun p hp => (h.types p hp).isParameterText.named (h.names p hp)

/-- Types alone are read one by one, but for a lone `void`. -/
theorem readParameters_listedTypes (h : d.Spelled)
    (hvoid : d.params.map (fun p => trimText p.type) ≠ ["void"]) :
    readParameters (listed d.listedTypes) = d.params.map fun p => parameterType p.type := by
  rw [readParameters_listed (fun t ht => (h.listedTypes_texts t ht).trimmed)
    (fun t ht hc => ((h.listedTypes_texts t ht).plain _ hc).1 rfl)
    (listedTypes_ne_void_iff.mpr hvoid)]
  unfold listedTypes
  rw [List.map_map]
  refine List.map_congr_left fun p _ => ?_
  rw [Function.comp_apply, parameterType_eq, parameterType_eq, String.toList_ofList,
    typeTokens_trimBlanks]

/-- **Which declarations are read back off their types alone.** -/
theorem signatureFrom_listedTypes_iff (h : d.Spelled) :
    d.signatureFrom d.listedTypes = d.signature ↔ d.ReadsUnnamed := by
  rw [signatureFrom_eq_iff, paramTypes_signature]
  by_cases hvoid : d.params.map (fun p => trimText p.type) = ["void"]
  · -- a lone `void` is read as no parameter at all
    refine ⟨fun heq => ?_, fun hreads => absurd hvoid hreads.notVoid⟩
    have hlisted : d.listedTypes = ["void".toList] :=
      not_not.mp fun hne => listedTypes_ne_void_iff.mp hne hvoid
    rw [hlisted, listed_singleton, show readParameters "void".toList = [] by decide] at heq
    have hnone : d.params = [] := List.map_eq_nil_iff.mp heq.symm
    rw [hnone] at hvoid
    cases hvoid
  · rw [h.readParameters_listedTypes hvoid, List.map_inj_left]
    have hiff : ∀ p ∈ d.params,
        (parameterType p.type = normalizeType p.type ↔ KeepsLastToken p.type) :=
      fun p hp => (h.types p hp).parameterType_eq_iff
    exact ⟨fun hall => ⟨fun p hp => (hiff p hp).mp (hall p hp), hvoid⟩,
      fun hreads p hp => (hiff p hp).mpr (hreads.types p hp)⟩

/-- Types with names behind them are read as declared. -/
theorem signatureFrom_listedNamed (h : d.Spelled) :
    d.signatureFrom d.listedNamed = d.signature := by
  have hvoid : d.listedNamed ≠ ["void".toList] := by
    intro hv
    have hspace : ∀ t ∈ d.listedNamed, ' ' ∈ t :=
      List.forall_mem_map.mpr fun p _ => List.mem_append_right _ List.mem_cons_self
    rw [hv] at hspace
    exact absurd (hspace _ (List.mem_singleton_self _)) (by decide)
  rw [signatureFrom_eq_iff, readParameters_listed
    (fun t ht => (h.listedNamed_texts t ht).trimmed)
    (fun t ht hc => ((h.listedNamed_texts t ht).plain _ hc).1 rfl) hvoid, paramTypes_signature]
  unfold listedNamed
  rw [List.map_map]
  refine List.map_congr_left fun p hp => ?_
  refine (h.types p hp).parameterType_named (h.names p hp) ?_
  rw [String.toList_ofList, typeTokens_named _ (h.names p hp), typeTokens_trimBlanks]

end Spelled

theorem not_mem_listed (h : ∀ p ∈ ps, IsParameterText p) {c : Char}
    (hc : c = '(' ∨ c = ')' ∨ c = '/') : c ∉ listed ps := by
  intro hmem
  rcases mem_listed hmem with rfl | rfl | ⟨p, hp, hcp⟩
  · revert hc; decide
  · revert hc; decide
  · obtain ⟨-, hopen, hclose, hslash⟩ := (h p hp).plain c hcp
    rcases hc with hc | hc | hc
    · exact hopen hc
    · exact hclose hc
    · exact hslash hc

namespace Spelled

/-- The head of a visible function is read as its declaration. -/
theorem readsSignature (hd : d.Spelled) (h : ∀ p ∈ ps, IsParameterText p)
    (following : List Char) :
    ReadsSignature
      ('\n' :: (d.returnType.toList ++ ' ' :: (d.name.toList ++
        '(' :: (listed ps ++ ')' :: following))))
      (normalizeType d.returnType) d.name (listed ps) following :=
  hd.returnType.readsSignature hd.name (by decide)
    (Balanced.of_not_mem (not_mem_listed h (.inl rfl)) (not_mem_listed h (.inr (.inl rfl))))
    following

/-- No comment starts in the head. -/
theorem slash_not_mem (hd : d.Spelled) (h : ∀ p ∈ ps, IsParameterText p) (rest : List Char)
    (hrest : '/' ∉ rest) :
    '/' ∉ visibleMark ++ '\n' :: (d.returnType.toList ++ ' ' :: (d.name.toList ++
      '(' :: (listed ps ++ ')' :: rest))) := by
  have hmark : '/' ∉ visibleMark := by decide
  have htype := hd.returnType.not_mem (c := '/') (by decide) (by decide) (by decide)
  have hname := isIdentifier.not_mem hd.name (c := '/') (by decide)
  have hlist := not_mem_listed h (.inr (.inr rfl))
  simp [hmark, htype, hname, hlist, hrest]

end Spelled

end Declaration

/-- A text that is one declaration, but for comments, scans to it. -/
theorem ScansTo.of_declaration {s stripped : List Char} {item : ScannedItem}
    (hcode : Comment.after .code s = .code) (hstrip : stripComments s = stripped)
    (hends : EndsLine stripped)
    (hread : declarationAt? [] false stripped = some (.ok (item, ['\n']))) :
    ScansTo s [item] := by
  subst hstrip
  exact .of_scanItems hcode hends (scanItems_declaration hread)

namespace Declaration

variable {d : Declaration}

/-- The head of a definition, up to its body. -/
def definitionHead (d : Declaration) : List Char :=
  visibleMark ++ '\n' :: (d.returnType.toList ++ ' ' :: (d.name.toList ++
    '(' :: (listed d.listedNamed ++ ')' :: [' ', '\x7b', '\n'])))

/-- Comments are stripped from the body alone, so the text is cut where the head ends. -/
theorem toList_definitionFragment_eq (d : Declaration) (body : String) :
    (d.definitionFragment body).text.toList =
      d.definitionHead ++ (body.toList ++ '\n' :: '\x7d' :: ['\n']) := by
  rw [toList_definitionFragment]
  unfold definitionHead listedNamed
  simp only [List.append_assoc, List.cons_append, List.nil_append]

theorem definitionHead_append (d : Declaration) (rest : List Char) : d.definitionHead ++ rest =
    visibleMark ++ '\n' :: (d.returnType.toList ++ ' ' :: (d.name.toList ++
      '(' :: (listed d.listedNamed ++ ')' :: ' ' :: '\x7b' :: '\n' :: rest))) := by
  unfold definitionHead
  simp only [List.append_assoc, List.cons_append, List.nil_append]

namespace Spelled

/-- An import scans to what its types are read as. -/
theorem scansTo_import (hd : d.Spelled) :
    ScansTo d.importFragment.text.toList [.visiblePrototype (d.signatureFrom d.listedTypes)] := by
  have htexts := hd.listedTypes_texts
  have hslash := hd.slash_not_mem htexts [';', '\n'] (by decide)
  unfold listedTypes at hslash
  rw [← toList_importFragment] at hslash
  refine .of_declaration (after_of_no_slash hslash)
    (CommentFree.of_no_slash hslash).stripComments_eq (endsLine_ended _) ?_
  rw [toList_importFragment, declarationAt?_visible]
  exact congrArg some
    (readVisible_eq_ok_iff.mpr (.prototype (hd.readsSignature htexts [';', '\n']) rfl))

theorem slash_not_mem_head (hd : d.Spelled) : '/' ∉ d.definitionHead :=
  hd.slash_not_mem hd.listedNamed_texts [' ', '\x7b', '\n'] (by decide)

/-- **A definition scans to its export.** -/
theorem scansTo_definition (hd : d.Spelled) {body : String} (hb : IsBody body) :
    ScansTo (d.definitionFragment body).text.toList
      [.visibleDefinition ⟨d.signature, scannedBody body⟩] := by
  obtain ⟨hcode, hstrip⟩ := hb.stripComments_eq hd.slash_not_mem_head
  rw [toList_definitionFragment_eq]
  refine .of_declaration hcode hstrip (endsLine_body _ _) ?_
  rw [definitionHead_append, declarationAt?_visible, ← hd.signatureFrom_listedNamed]
  exact congrArg some (readVisible_eq_ok_iff.mpr
    (.definition (hd.readsSignature hd.listedNamed_texts _) (hb.readsBody (by decide))))

/-- Whatever stands as the body, if a definition scans at all, its first export is the declared
one. -/
theorem exports_of_scanSource (hd : d.Spelled) {body : String} {s : ScannedSource}
    (h : scanSource (d.definitionFragment body).text = .ok s) :
    ∃ f rest, s.exports = f :: rest ∧ f.signature = d.signature := by
  have hslash := hd.slash_not_mem_head
  obtain ⟨tail, hstrip⟩ : ∃ tail, stripComments (d.definitionFragment body).text.toList =
      d.definitionHead ++ tail := by
    rw [toList_definitionFragment_eq, stripComments_append (after_of_no_slash hslash),
      (CommentFree.of_no_slash hslash).stripComments_eq]
    exact ⟨_, rfl⟩
  unfold scanSource at h
  dsimp only at h
  rw [hstrip] at h
  cases hitems : scanItems (d.definitionHead ++ tail) 0 false (d.definitionHead ++ tail) with
  | error fault => rw [hitems] at h; cases h
  | ok items =>
    rw [hitems] at h
    cases h
    -- The scan starts with the definition, and its header is read as it was written.
    have hne : d.definitionHead ++ tail ≠ [] := by rw [definitionHead_append]; exact nofun
    obtain ⟨item, after, rest, hread, rfl⟩ := scanItems_of_declarationAt? hne
      (by rw [definitionHead_append]; exact declarationAt?_visible _ _) hitems
    obtain ⟨body', rfl⟩ := (readVisible_eq_ok_iff.mp hread).of_brace
      (hd.readsSignature hd.listedNamed_texts _) rfl
    exact ⟨_, _, rfl, hd.signatureFrom_listedNamed⟩

end Spelled

namespace WellFormed

/-- **An import scans to its prototype.** -/
theorem scansTo_import (hd : d.WellFormed) :
    ScansTo d.importFragment.text.toList [.visiblePrototype d.signature] := by
  rw [← hd.spelled.signatureFrom_listedTypes_iff.mpr hd.readsUnnamed]
  exact hd.spelled.scansTo_import

end WellFormed

end Declaration

/-! ## Kernels -/

theorem toString_not_mem (n : Nat) {c : Char} (hc : c.isDigit = false) :
    c ∉ (toString n).toList := by
  intro hmem
  have hdigit := isDigit_of_mem_toString hmem
  rw [hc] at hdigit
  cases hdigit

/-- No delimiter of parameter lists, and no slash. -/
def IsPlain (s : List Char) : Prop := '(' ∉ s ∧ ')' ∉ s ∧ '/' ∉ s

instance (s : List Char) : Decidable (IsPlain s) := inferInstanceAs (Decidable (_ ∧ _))

namespace IsPlain

variable {s t : List Char}

theorem append (hs : IsPlain s) (ht : IsPlain t) : IsPlain (s ++ t) := by
  obtain ⟨ho, hc, hslash⟩ := hs
  obtain ⟨ho', hc', hslash'⟩ := ht
  exact ⟨by simp [ho, ho'], by simp [hc, hc'], by simp [hslash, hslash']⟩

theorem balanced (h : IsPlain s) : Balanced '(' ')' s := .of_not_mem h.1 h.2.1

theorem of_isIdentifier (h : isIdentifier s) : IsPlain s :=
  ⟨isIdentifier.not_mem h (by decide), isIdentifier.not_mem h (by decide),
    isIdentifier.not_mem h (by decide)⟩

theorem toString (n : Nat) : IsPlain (toString n).toList :=
  ⟨toString_not_mem n (by decide), toString_not_mem n (by decide), toString_not_mem n (by decide)⟩

end IsPlain

/-- A kernel's argument list is closed by its own parenthesis, whatever the attributes in it. -/
structure IsArgumentText (s : List Char) : Prop where
  balanced : Balanced '(' ')' s
  slash : '/' ∉ s

namespace IsArgumentText

variable {s t : List Char}

theorem of_isPlain (h : IsPlain s) : IsArgumentText s := ⟨h.balanced, h.2.2⟩

theorem append (hs : IsArgumentText s) (ht : IsArgumentText t) : IsArgumentText (s ++ t) :=
  ⟨hs.balanced.append ht.balanced, by
    rw [List.mem_append, not_or]
    exact ⟨hs.slash, ht.slash⟩⟩

theorem enclosed (h : IsArgumentText s) : IsArgumentText ('(' :: (s ++ [')'])) :=
  ⟨h.balanced.enclosed (by decide), by simp [h.slash]⟩

theorem line {b : BufferParam} (hb : isIdentifier b.name.toList) :
    IsArgumentText b.line.toList := by
  have hline : b.line.toList =
      "  ".toList ++ b.qualifier.toList ++ [' '] ++ b.element.spelling.toList ++ " *".toList ++
        b.name.toList ++ " [[buffer".toList ++ '(' :: ((toString b.index).toList ++ [')']) ++
        "]],\n".toList := by
    unfold BufferParam.line
    simp [String.toList_append]
  have hqualifier : IsPlain b.qualifier.toList := by
    unfold BufferParam.qualifier
    cases b.access <;> decide
  have helement : IsPlain b.element.spelling.toList := by
    cases b.element <;> decide
  rw [hline]
  refine append (append (of_isPlain ?_) (of_isPlain (.toString b.index)).enclosed)
    (of_isPlain (by decide))
  refine .append (.append (.append (.append (.append (.append ?_ hqualifier) ?_) helement) ?_)
    (.of_isIdentifier hb)) ?_
  all_goals decide

theorem kernelArguments {buffers : List BufferParam}
    (hb : ∀ b ∈ buffers, isIdentifier b.name.toList) :
    IsArgumentText (kernelArguments buffers) := by
  have hlines : IsArgumentText (bufferLines buffers).toList := by
    unfold bufferLines
    rw [String.toList_join]
    induction buffers with
    | nil => exact of_isPlain (by decide)
    | cons b buffers ih =>
      obtain ⟨hb, hbuffers⟩ := List.forall_mem_cons.mp hb
      rw [List.map_cons, List.flatMap_cons]
      exact (line hb).append (ih hbuffers)
  exact (of_isPlain (s := ['\n']) (by decide)).append
    (hlines.append (of_isPlain (by decide)))

end IsArgumentText

/-- The return type of every kernel. -/
theorem isDeclaredType_void : IsDeclaredType "void" :=
  ⟨[], "void".toList, [], by decide, nofun, by decide, nofun⟩

/-- **A kernel scans to itself.** -/
theorem scansTo_kernelFragment {name : String} {buffers : List BufferParam} {body : String}
    (hname : isIdentifier name.toList) (hbuffers : ∀ b ∈ buffers, isIdentifier b.name.toList)
    (hb : IsBody body) :
    ScansTo (kernelFragment name buffers body).text.toList
      [.kernel ⟨⟨"void", name, []⟩, scannedBody body⟩] := by
  have harguments := IsArgumentText.kernelArguments hbuffers
  have hslash : '/' ∉ kernelWord ++ ' ' :: ("void".toList ++ ' ' :: (name.toList ++
      '(' :: (kernelArguments buffers ++ ')' :: ['\n', '\x7b', '\n']))) := by
    simp only [List.mem_append, List.mem_cons, not_or]
    exact ⟨by decide, by decide, by decide, by decide, isIdentifier.not_mem hname (by decide),
      by decide, harguments.slash, by decide, by decide, by decide, by decide, by simp⟩
  obtain ⟨hcode, hstrip⟩ := hb.stripComments_eq hslash
  -- Again the head is cut off, and only the body behind it is stripped.
  have hsplit : ∀ rest,
      kernelWord ++ ' ' :: ("void".toList ++ ' ' :: (name.toList ++
        '(' :: (kernelArguments buffers ++ ')' :: '\n' :: '\x7b' :: '\n' :: rest))) =
      (kernelWord ++ ' ' :: ("void".toList ++ ' ' :: (name.toList ++
        '(' :: (kernelArguments buffers ++ ')' :: ['\n', '\x7b', '\n'])))) ++ rest := by
    intro rest
    simp only [List.append_assoc, List.cons_append, List.nil_append]
  rw [toList_kernelFragment, hsplit]
  refine .of_declaration hcode hstrip (endsLine_body _ _) ?_
  rw [← hsplit, declarationAt?_kernel]
  have hspace : isBlank ' ' := by decide
  have hsignature := isDeclaredType_void.isWordType.readsSignature hname hspace harguments.balanced
    ('\n' :: '\x7b' :: '\n' :: (stripComments body.toList ++ '\n' :: '\x7d' :: ['\n']))
  exact congrArg some (readKernel_eq_ok_iff.mpr (.intro hsignature (hb.readsBody (by decide))))

/-! ## Fixed fragments -/

/-- Fixed texts have no comments, and what they bind can be computed. -/
theorem ScansTo.of_fixed {text : String} {items : List ScannedItem} (hends : EndsLine text.toList)
    (h : '/' ∉ text.toList ∧ scanItems [] 0 false text.toList = .ok items) :
    ScansTo text.toList items := by
  have hstrip := (CommentFree.of_no_slash h.1).stripComments_eq
  exact @ScansTo.of_scanItems _ _ [] (after_of_no_slash h.1) (by rw [hstrip]; exact hends)
    (by rw [hstrip]; exact h.2)

theorem scansTo_preamble : ScansTo preambleFragment.text.toList [] := by
  refine .of_fixed (endsLine_ended _) ?_
  unfold preambleFragment
  simp only [toList_ended, List.map_cons, List.map_nil, String.reduceToList]
  decide +kernel

def copySymbol1d : ScannedItem := .intrinsic "air.simdgroup_async_copy_1d.p3i8.p1i8"
def waitSymbol : ScannedItem := .intrinsic "air.wait_simdgroup_events"
def copyInSymbol2d : ScannedItem := .intrinsic "air.simdgroup_async_copy_2d.p3i8.p1i8"
def copyOutSymbol2d : ScannedItem := .intrinsic "air.simdgroup_async_copy_2d.p1i8.p3i8"

theorem scansTo_events1d : ScansTo events1d.toList [copySymbol1d, waitSymbol] := by
  refine .of_fixed (endsLine_ended _) ?_
  unfold events1d
  simp only [toList_ended, List.map_cons, List.map_nil, String.reduceToList]
  decide +kernel

theorem scansTo_events2d : ScansTo events2d.toList [copyInSymbol2d, copyOutSymbol2d] := by
  refine .of_fixed (endsLine_ended _) ?_
  unfold events2d
  simp only [toList_ended, List.map_cons, List.map_nil, String.reduceToList]
  decide +kernel

end KernelLink
