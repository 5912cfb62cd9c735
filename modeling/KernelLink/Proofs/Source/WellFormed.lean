import KernelLink.Proofs.Source.OffsetScan
import KernelLink.Proofs.Text.Comment

/-!
# What a scan gives

A scan ends for every text, with declarations or with a fault, and it does so without any access out
of range. The declarations that it finds are well formed whatever the text is: names are words,
types are in their one spelling, and bodies are balanced pieces of the text without comments.
-/

namespace KernelLink

/-! ## Well-formed declarations -/

/-- A name that is a word and types in their one spelling. -/
structure Signature.Spelled (s : Signature) : Prop where
  name : s.name.toList ≠ [] ∧ ∀ c ∈ s.name.toList, isWordChar c
  returnType : s.returnType ≠ "" ∧ normalizeType s.returnType = s.returnType
  paramTypes : ∀ t ∈ s.paramTypes, normalizeType t = t

/-- A balanced piece of a text, without comments. -/
structure IsPieceOf (text body : List Char) : Prop where
  substring : body <:+: text
  commentFree : stripComments body = body
  balanced : Balanced '\x7b' '\x7d' body

/-- What holds of every function that is scanned. -/
structure ScannedFunction.WellFormed (text : List Char) (f : ScannedFunction) : Prop where
  signature : f.signature.Spelled
  body : IsPieceOf text f.body.toList

def ScannedItem.WellFormed (text : List Char) : ScannedItem → Prop
  | kernel f => f.WellFormed text
  | visibleDefinition f => f.WellFormed text
  | visiblePrototype s => s.Spelled
  | intrinsic _ => True

structure ScannedSource.WellFormed (text : List Char) (s : ScannedSource) : Prop where
  kernels : ∀ f ∈ s.kernels, f.WellFormed text
  exports : ∀ f ∈ s.exports, f.WellFormed text
  imports : ∀ i ∈ s.imports, i.Spelled

/-! ## What is read is well formed -/

/-- A header that is read has a word for a name and a type in its one spelling. -/
theorem spelled_of_readHeader? {header : List Char} {returnType name : String}
    {paramTypes : List String} (h : readHeader? header = some (returnType, name))
    (hparams : ∀ t ∈ paramTypes, normalizeType t = t) :
    (⟨returnType, name, paramTypes⟩ : Signature).Spelled := by
  obtain ⟨front, word, hheader, hlast⟩ := exists_lastWord (trimBlanks header)
  rw [readHeader?_eq hheader hlast] at h
  split at h
  · cases h
  · rename_i hsome
    rw [Bool.or_eq_true, Bool.or_eq_true, not_or, not_or, List.isEmpty_iff,
      List.isEmpty_iff] at hsome
    obtain ⟨⟨-, hname⟩, htype⟩ := hsome
    cases h
    obtain ⟨c, rest, hc, hblank⟩ := (trimmed_trimWhile htype).head
    refine ⟨?_, ⟨?_, normalizeType_normalizeType _⟩, hparams⟩
    · rw [String.toList_ofList]
      exact ⟨hname, hlast.word⟩
    · refine normalizeType_ne_empty hblank ?_
      rw [String.toList_ofList]
      change c ∈ trimWhile isBlank front
      rw [hc]
      exact List.mem_cons_self

theorem normalizeType_of_mem_readParameters {inside : List Char} {t : String}
    (h : t ∈ readParameters inside) : normalizeType t = t := by
  unfold readParameters at h
  dsimp only at h
  split at h
  · cases h
  · obtain ⟨part, -, rfl⟩ := List.mem_map.mp h
    exact normalizeType_parameterType _

section

variable {s rest following body after : List Char} {item : ScannedItem}

/-- A body is a piece of the text that it is read from. -/
theorem ReadsBody.isPieceOf (h : ReadsBody rest body after) (hrest : CommentFree rest) :
    IsPieceOf rest body := by
  obtain ⟨hspelled, hbalanced⟩ := h.spelled
  have hrest' : rest = rest.takeWhile isAsciiBlank ++ '\x7b' :: (body ++ '\x7d' :: after) := by
    rw [← hspelled, List.takeWhile_append_dropWhile]
  have hwithin : body <:+: rest := by
    rw [hrest']
    exact ((List.prefix_append body _).isInfix.trans (List.suffix_cons _ _).isInfix).trans
      (List.suffix_append _ _).isInfix
  rw [hrest'] at hrest
  exact ⟨hwithin, hrest.of_append_right.tail.of_append_left.stripComments_eq, hbalanced⟩

theorem IsPieceOf.mono {text : List Char} (h : IsPieceOf rest body) (hrest : rest <:+: text) :
    IsPieceOf text body :=
  ⟨h.substring.trans hrest, h.commentFree, h.balanced⟩

/-- **A declaration is well formed**, whatever it is read from. -/
theorem Declares.wellFormed {afterWord : Bool} (h : Declares afterWord s item after)
    (hs : CommentFree s) : item.WellFormed s := by
  -- A body is read from what is left behind a signature, and that is the end of the text.
  have hbody : ∀ {n} {following body : List Char}, following <:+ s.drop n →
      ReadsBody following body after → IsPieceOf s (String.ofList body).toList :=
    fun {n _ _} hfollowing hbody => by
      have hsuffix := hfollowing.trans (List.drop_suffix n s)
      rw [String.toList_ofList]
      exact (hbody.isPieceOf (hs.of_suffix hsuffix)).mono hsuffix.isInfix
  cases h with
  | intrinsic _ h =>
    obtain ⟨_⟩ := h
    trivial
  | visible _ h =>
    have hparams : ∀ {inside}, ∀ t ∈ readParameters inside, normalizeType t = t :=
      fun _ ht => normalizeType_of_mem_readParameters ht
    cases h with
    | prototype h _ => exact spelled_of_readHeader? h.header hparams
    | definition h h' =>
      exact ⟨spelled_of_readHeader? h.header hparams, hbody h.endsWith.suffix h'⟩
  | kernel _ h =>
    obtain ⟨h, h'⟩ := h
    exact ⟨spelled_of_readHeader? h.header nofun, hbody h.endsWith.suffix h'⟩

theorem ScannedItem.WellFormed.mono {text : List Char} (h : item.WellFormed rest)
    (hrest : rest <:+: text) : item.WellFormed text := by
  cases item with
  | kernel f => exact ⟨h.signature, h.body.mono hrest⟩
  | visibleDefinition f => exact ⟨h.signature, h.body.mono hrest⟩
  | visiblePrototype s => exact h
  | intrinsic symbol => trivial

end

/-- Every declaration that a scan finds is well formed. -/
theorem wellFormed_of_mem_scanItems {text : List Char} (afterWord : Bool) (s : List Char) :
    CommentFree s → ∀ items, scanItems text 0 afterWord s = .ok items →
      ∀ item ∈ items, item.WellFormed s := by
  induction afterWord, s using scan_induction text with
  | nil afterWord =>
    intro _ items hitems item hmem
    cases hitems
    cases hmem
  | pass afterWord c s hnone ih =>
    intro hs items hitems item hmem
    rw [scanItems_of_none hnone] at hitems
    exact (ih hs.tail items hitems item hmem).mono (List.suffix_cons c s).isInfix
  | fault afterWord s fault hfault =>
    intro _ items hitems
    rw [scanItems_of_fault hfault] at hitems
    cases hitems
  | declares afterWord s item after hdeclares ih =>
    intro hs items hitems item' hmem
    obtain ⟨d, hends, -⟩ := hdeclares.endsWith
    rw [scanItems_of_declares text hdeclares] at hitems
    cases hafter : scanItems text 0 false after with
    | error fault => rw [hafter] at hitems; cases hitems
    | ok rest =>
      rw [hafter] at hitems
      cases hitems
      rcases List.mem_cons.mp hmem with rfl | hmem
      · exact hdeclares.wellFormed hs
      · exact (ih (hs.of_suffix hends.suffix) rest hafter item' hmem).mono hends.suffix.isInfix

/-- **A text that scans has well-formed declarations.** -/
theorem wellFormed_of_scanSource {source : String} {s : ScannedSource}
    (h : scanSource source = .ok s) : s.WellFormed (stripComments source.toList) := by
  obtain ⟨items, hitems, rfl⟩ := exists_scanItems_of_scanSource h
  have hfree := commentFree_strip .code source.toList
  have hall := wellFormed_of_mem_scanItems false _ hfree items hitems
  refine ⟨fun f hf => ?_, fun f hf => ?_, fun i hi => ?_⟩
  · obtain ⟨item, hitem, hf⟩ := List.mem_filterMap.mp hf
    cases item with
    | kernel g => cases hf; exact hall _ hitem
    | _ => cases hf
  · obtain ⟨item, hitem, hf⟩ := List.mem_filterMap.mp hf
    cases item with
    | visibleDefinition g => cases hf; exact hall _ hitem
    | _ => cases hf
  · obtain ⟨item, hitem, hi⟩ := List.mem_filterMap.mp hi
    cases item with
    | visiblePrototype g => cases hi; exact hall _ hitem
    | _ => cases hi

/-! ## Every text -/

/-- From every place of a text reading has an outcome, and a result leads further into the text. -/
def Advances (text : List Char) (read : Nat → Guarded (ScannedItem × Nat)) : Prop :=
  ∀ pre rest, text = pre ++ rest → ∃ outcome, (read (encoded pre).length).run = some outcome ∧
    ∀ item next, outcome = .ok (item, next) →
      (encoded pre).length < next ∧ next ≤ (encoded text).length

/-- What is read up to a delimiter of its own leads further. -/
theorem advances_of_encoded {read : List Char → Nat → Guarded (ScannedItem × Nat)}
    {reads : List Char → List Char → Except ScanFault Scanned}
    (hread : ∀ pre rest, read (pre ++ rest) (encoded pre).length =
      .of ((reads (pre ++ rest) rest).map fun (item, after) => (item, offset (pre ++ rest) after)))
    (hends : ∀ text rest item after, reads text rest = .ok (item, after) →
      ∃ d, EndsWith d rest after) (text : List Char) : Advances text (read text) := by
  rintro pre rest rfl
  refine ⟨_, congrArg ExceptT.run (hread pre rest), fun item next hok => ?_⟩
  cases hresult : reads (pre ++ rest) rest with
  | error fault => rw [hresult] at hok; cases hok
  | ok parts =>
    obtain ⟨item', after⟩ := parts
    rw [hresult] at hok
    cases hok
    obtain ⟨d, hd⟩ := hends _ _ _ _ hresult
    obtain ⟨_, _, _, hfurther⟩ := hd.offset pre
    exact hfurther

/-- **Scanning is total and in range, and its results are well formed.** -/
theorem scan_total (source : String) :
    (scanOffsets source).run = some (scanSource source) ∧
    Advances (stripComments source.toList) (intrinsicAt (stripComments source.toList)) ∧
    Advances (stripComments source.toList) (visibleAt (stripComments source.toList)) ∧
    Advances (stripComments source.toList) (kernelAt (stripComments source.toList)) ∧
    ∀ s, scanSource source = .ok s → s.WellFormed (stripComments source.toList) := by
  refine ⟨scanOffsets_eq source, ?_, ?_, ?_, fun s => wellFormed_of_scanSource⟩
  · exact advances_of_encoded intrinsicAt_encoded
      (fun _ _ _ _ h => ⟨')', (readIntrinsic_eq_ok_iff.mp h).endsWith⟩) _
  · refine advances_of_encoded visibleAt_encoded (fun _ _ _ _ h => ?_) _
    exact (readVisible_eq_ok_iff.mp h).endsWith.elim (fun h => ⟨_, h⟩) fun h => ⟨_, h⟩
  · exact advances_of_encoded kernelAt_encoded
      (fun _ _ _ _ h => ⟨'\x7d', (readKernel_eq_ok_iff.mp h).endsWith⟩) _

/-- A kernel behind a line with characters of several bytes. -/
theorem scan_total_kernel :
    scanSource "constant float µ;\nkernel void f(uint tid) \x7b tid; \x7d" =
        .ok ⟨[⟨⟨"void", "f", []⟩, " tid; "⟩], [], [], []⟩ ∧
      (ScannedSource.mk [⟨⟨"void", "f", []⟩, " tid; "⟩] [] [] []).WellFormed
        (stripComments "constant float µ;\nkernel void f(uint tid) \x7b tid; \x7d".toList) := by
  have hscan : scanSource "constant float µ;\nkernel void f(uint tid) \x7b tid; \x7d" =
      .ok ⟨[⟨⟨"void", "f", []⟩, " tid; "⟩], [], [], []⟩ := by decide +kernel
  exact ⟨hscan, (scan_total _).2.2.2.2 _ hscan⟩

end KernelLink
