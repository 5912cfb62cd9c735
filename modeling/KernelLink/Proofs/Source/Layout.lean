import KernelLink.Proofs.Source.Declaration
import KernelLink.Proofs.Source.Steps
import KernelLink.Proofs.Text.Layout

/-!
# Scanning does not see layout

Every part of a declaration is found by looking for a character that is no layout, and what is found
is trimmed or cut into words. So a text and its common form are scanned in step: the same
declarations start at the same places, the same parts are missing, and what is left behind a
declaration on one side is the common form of what is left on the other. Bodies alone keep their
layout, and the symbols of intrinsics, of which only the number matters.
-/

namespace KernelLink

/-! ## Outcomes -/

/-- What was missing or not closed, wherever that was. -/
def ScanFault.kind : ScanFault → Char ⊕ Expectation
  | unbalanced opening _ => .inl opening
  | expected what _ => .inr what

/-- Both succeed, with results that are related, or both end with a fault of one kind. -/
inductive SameOutcome {α β : Type} (R : α → β → Prop) :
    Except ScanFault α → Except ScanFault β → Prop
  | ok {a b} (h : R a b) : SameOutcome R (.ok a) (.ok b)
  | fault {f f' : ScanFault} (h : f.kind = f'.kind) : SameOutcome R (.error f) (.error f')

namespace SameOutcome

variable {α β γ δ : Type} {R : α → β → Prop} {S : γ → δ → Prop} {x : Except ScanFault α}
  {y : Except ScanFault β}

theorem bind {f : α → Except ScanFault γ} {g : β → Except ScanFault δ} (h : SameOutcome R x y)
    (hfg : ∀ a b, x = .ok a → R a b → SameOutcome S (f a) (g b)) :
    SameOutcome S (x >>= f) (y >>= g) := by
  cases h with
  | ok h => exact hfg _ _ rfl h
  | fault h => exact .fault h

theorem map {f : α → γ} {g : β → δ} (h : SameOutcome R x y) (hfg : ∀ a b, R a b → S (f a) (g b)) :
    SameOutcome S (x.map f) (y.map g) := by
  cases h with
  | ok h => exact .ok (hfg _ _ h)
  | fault h => exact .fault h

/-- What is the same as one outcome is the same. -/
theorem join {T : α → γ → Prop} {S : γ → β → Prop} {z : Except ScanFault γ} (h : SameOutcome R x y)
    (h' : SameOutcome S z y) (hRS : ∀ a b c, R a b → S c b → T a c) : SameOutcome T x z := by
  cases h with
  | ok h => cases h' with
    | ok h' => exact .ok (hRS _ _ _ h h')
  | fault h => cases h' with
    | fault h' => exact .fault (h.trans h'.symm)

end SameOutcome

/-! ## Headers and parameters -/

theorem not_isLayout_of_isWordChar {c : Char} (h : isWordChar c) : isLayout c = false :=
  Bool.eq_false_iff.mpr fun hc => by
    have hblank := (isWordChar_apart h).2
    rw [isBlank_of_isLayout hc] at hblank
    cases hblank

theorem not_isWordChar_of_isLayout {c : Char} (h : isLayout c) : isWordChar c = false :=
  Bool.eq_false_iff.mpr fun hc => by
    rw [not_isLayout_of_isWordChar hc] at h
    cases h

/-- Types are read off tokens, and layout is no part of one. -/
theorem typeTokensFrom_collapseFrom {current : List Char} {inRun : Bool} {s : List Char}
    (h : inRun = true → current = []) :
    typeTokensFrom current (collapseFrom inRun s) = typeTokensFrom current s := by
  fun_induction collapseFrom inRun s generalizing current with
  | case1 => rfl
  | case2 c s hc ih =>
    rw [h rfl, ih fun _ => rfl]
    exact (typeTokens_cons_blank (isBlank_of_isLayout hc) s).symm
  | case3 inRun c s hc hrun ih =>
    have hblank := isBlank_of_isLayout hc
    rw [typeTokensFrom, typeTokensFrom, not_isPointerMark_of_isBlank hblank, hblank,
      ih fun _ => rfl]
    rfl
  | case4 inRun c s hc ih =>
    rw [typeTokensFrom, typeTokensFrom, ih (by simp), ih (by simp)]

theorem typeTokens_collapse (s : List Char) : typeTokens (collapse s) = typeTokens s :=
  typeTokensFrom_collapseFrom (by simp)

theorem LastWord.collapse {front name : List Char} (h : LastWord front name) :
    LastWord (KernelLink.collapse front) name ∧
      (KernelLink.collapse front).getLast?.any (127 < ·.toNat) =
        front.getLast?.any (127 < ·.toNat) := by
  rcases h.before with rfl | ⟨front, c, rfl, hc⟩
  · exact ⟨h, rfl⟩
  · obtain ⟨t, ht⟩ := exists_collapse_concat front c
    rw [ht, List.getLast?_concat, List.getLast?_concat]
    by_cases hlayout : isLayout c
    · rw [if_pos hlayout]
      refine ⟨⟨h.word, .inr ⟨t, ' ', rfl, by decide⟩⟩, ?_⟩
      simp only [isLayout, Bool.or_eq_true, decide_eq_true_eq] at hlayout
      rcases hlayout with ((rfl | rfl) | rfl) | rfl <;> rfl
    · rw [if_neg hlayout]
      exact ⟨⟨h.word, .inr ⟨t, c, rfl, hc⟩⟩, rfl⟩

/-- **A header is the same type and name on both sides.** -/
theorem readHeader?_collapse (header : List Char) :
    readHeader? (collapse header) = readHeader? header := by
  obtain ⟨front, name, hheader, hlast⟩ := exists_lastWord (trimBlanks header)
  obtain ⟨hlast', hany⟩ := hlast.collapse
  have hcollapsed : trimBlanks (collapse header) = collapse front ++ name := by
    rw [trimBlanks_collapse, hheader]
    exact collapseFrom_append_solid
      (fun c hc => not_isLayout_of_isWordChar (hlast.word c hc)) false front
  have htype : normalizeType (String.ofList (collapse (trimBlanks front))) =
      normalizeType (String.ofList (trimBlanks front)) := by
    unfold normalizeType
    rw [String.toList_ofList, String.toList_ofList, typeTokens_collapse]
  rw [readHeader?_eq hheader hlast, readHeader?_eq hcollapsed hlast', hany, trimBlanks_collapse,
    isEmpty_collapse, htype]

theorem parameterType_collapse (part : List Char) :
    parameterType (String.ofList (collapse part)) = parameterType (String.ofList part) := by
  rw [parameterType_eq, parameterType_eq, String.toList_ofList, String.toList_ofList,
    typeTokens_collapse]

/-- **So are the types of parameters.** -/
theorem readParameters_collapse (inside : List Char) :
    readParameters (collapse inside) = readParameters inside := by
  have hvoid : ∀ s, collapse s = "void".toList ↔ s = "void".toList := fun s => by
    constructor
    · intro h
      rw [← collapse_eq_self (s := s) (by rw [h]; decide), h]
    · rintro rfl
      rfl
  unfold readParameters
  dsimp only
  rw [trimBlanks_collapse, isEmpty_collapse]
  simp only [hvoid]
  split
  · rfl
  · obtain ⟨part, parts, hs, hcollapsed⟩ :=
      splitAtEach_collapseFrom (show isLayout ',' = false by decide) false (trimBlanks inside)
    have hparts : splitAtEach ',' (collapse (trimBlanks inside)) =
        (splitAtEach ',' (trimBlanks inside)).map collapse := by
      rw [hs, List.map_cons]
      exact hcollapsed
    rw [hparts, List.map_map]
    exact List.map_congr_left fun part _ => parameterType_collapse part

/-! ## Parts of a declaration -/

section

variable (text text' : List Char) {rest opened : List Char}

theorem collapse_cons_of_dropWhile {p : Char → Bool} {c : Char}
    (hp : ∀ d, isLayout d → p d) (h : rest.dropWhile p = c :: opened) :
    (collapse rest).dropWhile p = c :: collapse opened := by
  have hdrop := dropWhile_collapseFrom hp false rest
  rw [h, collapse_other (not_isLayout_of_not hp (not_of_dropWhile_eq_cons h))] at hdrop
  exact hdrop

theorem ne_parenthesis_of_isLayout (d : Char) (h : isLayout d) : decide (d ≠ '(') = true :=
  decide_eq_true (ne_of_isLayout h (by decide))

theorem readParameterList_collapse (rest : List Char) (missing : Expectation) :
    SameOutcome (fun (header, inside, after) (header', inside', after') =>
        header' = collapse header ∧ inside' = collapse inside ∧ after' = collapse after)
      (readParameterList text rest missing) (readParameterList text' (collapse rest) missing) := by
  unfold readParameterList
  rw [List.span_eq_takeWhile_dropWhile, List.span_eq_takeWhile_dropWhile]
  cases hopened : rest.dropWhile (· ≠ '(') with
  | nil =>
    have hnone := dropWhile_collapseFrom ne_parenthesis_of_isLayout false rest
    rw [hopened] at hnone
    rw [show (collapse rest).dropWhile (· ≠ '(') = [] from hnone]
    exact .fault rfl
  | cons c opened =>
    obtain rfl : c = '(' := by simpa using not_of_dropWhile_eq_cons hopened
    rw [collapse_cons_of_dropWhile ne_parenthesis_of_isLayout hopened]
    dsimp only
    rw [enclosed?_collapse (by decide) (by decide) (by decide)]
    cases enclosed? '(' ')' ('(' :: opened) with
    | none => exact .fault rfl
    | some parts =>
      exact .ok ⟨takeWhile_collapseFrom ne_parenthesis_of_isLayout false rest, rfl, rfl⟩

theorem readBody_collapse (opened : List Char) :
    SameOutcome
      (fun (body, after) (body', after') => body' = collapse body ∧ after' = collapse after)
      (readBody text ('\x7b' :: opened)) (readBody text' ('\x7b' :: collapse opened)) := by
  unfold readBody
  rw [enclosed?_collapse (by decide) (by decide) (by decide)]
  cases enclosed? '\x7b' '\x7d' ('\x7b' :: opened) with
  | none => exact .fault rfl
  | some parts => exact .ok ⟨rfl, rfl⟩

theorem readSignature_collapse (rest : List Char) (parameters header : Expectation) :
    SameOutcome (fun (type, name, inside, after) (type', name', inside', after') =>
        type' = type ∧ name' = name ∧ inside' = collapse inside ∧ after' = collapse after)
      (readSignature text rest parameters header)
      (readSignature text' (collapse rest) parameters header) := by
  have htake : (collapse rest).takeWhile (· ≠ '(') = collapse (rest.takeWhile (· ≠ '(')) :=
    takeWhile_collapseFrom ne_parenthesis_of_isLayout false rest
  have hdrop : (collapse rest).dropWhile (· ≠ '(') = collapse (rest.dropWhile (· ≠ '(')) :=
    dropWhile_collapseFrom ne_parenthesis_of_isLayout false rest
  unfold readSignature
  rw [List.span_eq_takeWhile_dropWhile, List.span_eq_takeWhile_dropWhile, htake, hdrop]
  cases hopened : rest.dropWhile (· ≠ '(') with
  | nil => exact .fault rfl
  | cons c opened =>
    -- Of the common form it only counts that something is left; the header is read first.
    obtain ⟨c', opened', hopened'⟩ : ∃ c' opened', collapse (c :: opened) = c' :: opened' :=
      List.exists_cons_of_ne_nil fun h => List.cons_ne_nil c opened (collapse_eq_nil_iff.mp h)
    rw [hopened']
    dsimp only
    rw [readHeader?_collapse]
    cases readHeader? (rest.takeWhile (· ≠ '(')) with
    | none => exact .fault rfl
    | some parts =>
      obtain ⟨type, name⟩ := parts
      refine (readParameterList_collapse text text' rest parameters).bind ?_
      rintro ⟨_, inside, after⟩ ⟨_, _, _⟩ - ⟨-, rfl, rfl⟩
      exact .ok ⟨rfl, rfl, rfl, rfl⟩

end

/-! ## Declarations -/

/-- A function with its body in the one form that all layouts of it have. -/
def ScannedFunction.layoutFree (f : ScannedFunction) : ScannedFunction :=
  { f with body := normalizeBody f.body }

/-- A declaration without its layout. -/
def ScannedItem.layoutFree : ScannedItem → ScannedItem
  | kernel f => kernel f.layoutFree
  | visibleDefinition f => visibleDefinition f.layoutFree
  | visiblePrototype s => visiblePrototype s
  | intrinsic _ => intrinsic ""

/-- The same declaration but for layout, with the same left behind it. -/
def SameScanned : Scanned → Scanned → Prop
  | (item, after), (item', after') => item.layoutFree = item'.layoutFree ∧ after' = collapse after

theorem normalizeBody_collapse {body : List Char} (h : CommentFree body) :
    normalizeBody (String.ofList (collapse body)) = normalizeBody (String.ofList body) := by
  unfold normalizeBody
  rw [String.toList_ofList, String.toList_ofList, h.stripComments_eq,
    h.collapse.stripComments_eq, words_collapse]

section

variable (text text' : List Char) {rest : List Char}

theorem readIntrinsic_collapse (rest : List Char) :
    SameOutcome SameScanned (readIntrinsic text rest) (readIntrinsic text' (collapse rest)) := by
  refine (readParameterList_collapse text text' rest .intrinsicSymbol).bind ?_
  rintro ⟨_, inside, after⟩ ⟨_, _, _⟩ - ⟨-, rfl, rfl⟩
  exact .ok ⟨rfl, rfl⟩

/-- A definition is the same but for the layout of its body. -/
theorem readDefinition_collapse {opened : List Char} (hopened : CommentFree opened)
    (item : String → ScannedItem)
    (hitem : ∀ body body', normalizeBody body = normalizeBody body' →
      (item body).layoutFree = (item body').layoutFree) :
    SameOutcome SameScanned
      (do
        let (body, after) ← readBody text ('\x7b' :: opened)
        .ok (item (String.ofList body), after))
      (do
        let (body, after) ← readBody text' ('\x7b' :: collapse opened)
        .ok (item (String.ofList body), after)) := by
  refine (readBody_collapse text text' opened).bind ?_
  rintro ⟨body, after⟩ ⟨_, _⟩ hread ⟨rfl, rfl⟩
  have henclosed := readBody_eq_ok_iff.mp hread
  obtain ⟨rfl, -⟩ := (enclosed?_cons_eq_some_iff (by decide)).mp henclosed
  exact .ok ⟨hitem _ _ (normalizeBody_collapse hopened.of_append_left).symm, rfl⟩

/-- What follows a parameter list is as free of comments as the text is. -/
theorem ReadsSignature.commentFree {returnType name : String} {inside following : List Char}
    (h : ReadsSignature rest returnType name inside following) (hrest : CommentFree rest) :
    CommentFree (following.dropWhile isAsciiBlank) :=
  hrest.of_suffix ((List.dropWhile_suffix _).trans h.endsWith.suffix)

theorem dropBlanks_collapse (s : List Char) :
    (collapse s).dropWhile isAsciiBlank = collapse (s.dropWhile isAsciiBlank) :=
  dropWhile_collapseFrom (fun _ => isAsciiBlank_of_isLayout) false s

theorem readVisible_collapse (hrest : CommentFree rest) :
    SameOutcome SameScanned (readVisible text rest) (readVisible text' (collapse rest)) := by
  refine (readSignature_collapse text text' rest .visibleParameters .visibleHeader).bind ?_
  rintro ⟨type, name, inside, after⟩ ⟨_, _, _, _⟩ hread ⟨rfl, rfl, rfl, rfl⟩
  have hfree := (readSignature_eq_ok_iff.mp hread).commentFree hrest
  dsimp only
  rw [readParameters_collapse, dropBlanks_collapse]
  split
  · rename_i hend
    rw [hend, collapse_other (by decide)]
    exact .ok ⟨rfl, rfl⟩
  · rename_i opened hopened
    rw [hopened] at hfree ⊢
    rw [collapse_other (by decide)]
    exact readDefinition_collapse text text' hfree.tail (fun body => .visibleDefinition ⟨_, body⟩)
      fun body body' h => congrArg (fun b => ScannedItem.visibleDefinition ⟨_, b⟩) h
  · -- Neither delimiter comes next in the text, so neither does in the common form.
    rename_i hend hopened
    split
    · rename_i hend'
      obtain ⟨_, h⟩ := exists_cons_of_collapse (by decide) hend'
      exact absurd h (hend _)
    · rename_i hopened'
      obtain ⟨_, h⟩ := exists_cons_of_collapse (by decide) hopened'
      exact absurd h (hopened _)
    · exact .fault rfl

theorem readKernel_collapse (hrest : CommentFree rest) :
    SameOutcome SameScanned (readKernel text rest) (readKernel text' (collapse rest)) := by
  refine (readSignature_collapse text text' rest .kernelParameters .kernelHeader).bind ?_
  rintro ⟨type, name, inside, after⟩ ⟨_, _, _, _⟩ hread ⟨rfl, rfl, rfl, rfl⟩
  have hfree := (readSignature_eq_ok_iff.mp hread).commentFree hrest
  dsimp only
  rw [dropBlanks_collapse]
  split
  · rename_i opened hopened
    rw [hopened] at hfree ⊢
    rw [collapse_other (by decide)]
    exact readDefinition_collapse text text' hfree.tail (fun body => .kernel ⟨_, body⟩)
      fun body body' h => congrArg (fun b => ScannedItem.kernel ⟨_, b⟩) h
  · rename_i hopened
    split
    · rename_i hopened'
      obtain ⟨_, h⟩ := exists_cons_of_collapse (by decide) hopened'
      exact absurd h (hopened _)
    · exact .fault rfl

end

/-! ## The scan -/

section

variable {word s : List Char}

/-- A word without layout starts at the same places. -/
theorem isPrefixOf_collapse (hword : ∀ c ∈ word, isLayout c = false) (s : List Char) :
    word.isPrefixOf (collapse s) = word.isPrefixOf s := by
  induction word generalizing s with
  | nil => rw [List.isPrefixOf_nil_left, List.isPrefixOf_nil_left]
  | cons c word ih =>
    obtain ⟨hc, hword⟩ := List.forall_mem_cons.mp hword
    cases s with
    | nil => rfl
    | cons d s =>
      by_cases hd : isLayout d
      · rw [collapse_layout hd, List.isPrefixOf_cons_cons, List.isPrefixOf_cons_cons,
          beq_eq_false_iff_ne.mpr (ne_of_isLayout rfl hc).symm,
          beq_eq_false_iff_ne.mpr (ne_of_isLayout hd hc).symm]
        rfl
      · rw [collapse_other (Bool.eq_false_iff.mpr hd), List.isPrefixOf_cons_cons,
          List.isPrefixOf_cons_cons, ih hword]

theorem drop_collapse (hword : ∀ c ∈ word, isLayout c = false) (h : word.isPrefixOf s) :
    (collapse s).drop word.length = collapse (s.drop word.length) := by
  obtain ⟨rest, rfl⟩ := List.isPrefixOf_iff_prefix.mp h
  rw [collapse_solid_append hword, List.drop_left, List.drop_left]

/-- And it ends at the same places, because layout is no part of a word. -/
theorem startsWithWord_collapse (hword : ∀ c ∈ word, isLayout c = false) (afterWord : Bool)
    (s : List Char) :
    startsWithWord word afterWord (collapse s) = startsWithWord word afterWord s := by
  have hhead : ∀ s, (collapse s).head?.any isWordChar = s.head?.any isWordChar := fun s => by
    cases s with
    | nil => rfl
    | cons c s =>
      by_cases hc : isLayout c
      · rw [collapse_layout hc, List.head?_cons, List.head?_cons, Option.any_some, Option.any_some,
          not_isWordChar_of_isLayout hc]
        rfl
      · rw [collapse_other (Bool.eq_false_iff.mpr hc)]
        rfl
  unfold startsWithWord
  rw [isPrefixOf_collapse hword]
  by_cases h : word.isPrefixOf s
  · rw [drop_collapse hword h, hhead]
  · rw [Bool.eq_false_iff.mpr h]
    rfl

end

/-- **At a place and at its common form the same declaration starts**, or none does. -/
theorem declarationAt?_collapse (text text' : List Char) (afterWord : Bool) {s : List Char}
    (hs : CommentFree s) :
    Option.Rel (SameOutcome SameScanned) (declarationAt? text afterWord s)
      (declarationAt? text' afterWord (collapse s)) := by
  have hsolid : ∀ {w : List Char}, w.all (!isLayout ·) → ∀ c ∈ w, isLayout c = false :=
    fun hw => by simpa using hw
  have hi := hsolid (show intrinsicWord.all (!isLayout ·) by decide)
  have hv := hsolid (show visibleMark.all (!isLayout ·) by decide)
  have hk := hsolid (show kernelWord.all (!isLayout ·) by decide)
  have hdrop : ∀ n, CommentFree (s.drop n) := fun n => hs.of_suffix (List.drop_suffix n s)
  unfold declarationAt?
  rw [startsWithWord_collapse hi, isPrefixOf_collapse hv, startsWithWord_collapse hk]
  split
  · exact .some (readIntrinsic_collapse text text' s)
  · split
    · rename_i hmark
      rw [drop_collapse hv hmark]
      exact .some (readVisible_collapse text text' (hdrop _))
    · split
      · rename_i hword
        rw [drop_collapse hk (isPrefixOf_of_startsWithWord hword)]
        exact .some (readKernel_collapse text text' (hdrop _))
      · exact .none

/-- No declaration starts with layout. -/
theorem declarationAt?_layout (text : List Char) (afterWord : Bool) {c : Char} (hc : isLayout c)
    (s : List Char) : declarationAt? text afterWord (c :: s) = none := by
  simp only [isLayout, Bool.or_eq_true, decide_eq_true_eq] at hc
  rcases hc with ((rfl | rfl) | rfl) | rfl <;> rfl

/-- The same declarations but for layout. -/
def SameItems (items items' : List ScannedItem) : Prop :=
  items.map ScannedItem.layoutFree = items'.map ScannedItem.layoutFree

section

variable {text s after : List Char} {afterWord : Bool} {item : ScannedItem}

theorem declarationAt?_collapse_none (text' : List Char) (hs : CommentFree s)
    (h : declarationAt? text afterWord s = none) :
    declarationAt? text' afterWord (collapse s) = none := by
  have hrel := declarationAt?_collapse text text' afterWord hs
  rw [h] at hrel
  cases hread : declarationAt? text' afterWord (collapse s) with
  | none => rfl
  | some read => rw [hread] at hrel; cases hrel

theorem declarationAt?_collapse_fault {fault : ScanFault} (text' : List Char) (hs : CommentFree s)
    (h : declarationAt? text afterWord s = some (.error fault)) :
    ∃ fault', declarationAt? text' afterWord (collapse s) = some (.error fault') ∧
      fault.kind = fault'.kind := by
  have hrel := declarationAt?_collapse text text' afterWord hs
  rw [h] at hrel
  cases hread : declarationAt? text' afterWord (collapse s) with
  | none => rw [hread] at hrel; cases hrel
  | some read =>
    rw [hread] at hrel
    cases hrel with
    | some hsame => cases hsame with
      | @fault _ fault' hkind => exact ⟨fault', rfl, hkind⟩

theorem Declares.collapse (h : Declares afterWord s item after) (hs : CommentFree s) :
    ∃ item', Declares afterWord (KernelLink.collapse s) item' (KernelLink.collapse after) ∧
      item.layoutFree = item'.layoutFree := by
  have hrel := declarationAt?_collapse [] [] afterWord hs
  rw [h.read] at hrel
  cases hread : declarationAt? [] afterWord (KernelLink.collapse s) with
  | none => rw [hread] at hrel; cases hrel
  | some read =>
    rw [hread] at hrel
    cases hrel with
    | some hsame => cases hsame with
      | @ok _ scanned hscanned =>
        obtain ⟨item', after'⟩ := scanned
        obtain ⟨hitem, rfl⟩ := hscanned
        exact ⟨item', declarationAt?_eq_ok_iff.mp hread, hitem⟩

/-- A declaration does not start with layout, so where one does no run has begun. -/
theorem collapseFrom_of_declarationAt? {read : Except ScanFault Scanned}
    (h : declarationAt? text afterWord s = some read) (inRun : Bool) :
    collapseFrom inRun s = collapse s := by
  cases s with
  | nil => rfl
  | cons c s =>
    have hc : isLayout c = false := Bool.eq_false_iff.mpr fun hc => by
      rw [declarationAt?_layout text afterWord hc] at h
      cases h
    rw [collapseFrom_other hc, collapse_other hc]

end

/-- **A text and its common form are scanned in step.** -/
theorem scanItems_collapseFrom (text text' : List Char) (afterWord : Bool) (s : List Char) :
    ∀ inRun, (inRun = true → afterWord = false) → CommentFree s →
      SameOutcome SameItems (scanItems text 0 afterWord s)
        (scanItems text' 0 afterWord (collapseFrom inRun s)) := by
  induction afterWord, s using scan_induction text with
  | nil afterWord => exact fun _ _ _ => .ok rfl
  | pass afterWord c s hnone ih =>
    intro inRun hrun hfree
    rw [scanItems_of_none hnone]
    by_cases hc : isLayout c
    · -- Of a run the common form passes over one space, and over nothing where it is in the run.
      have hword := not_isWordChar_of_isLayout hc
      have hnext := ih true (fun _ => hword) hfree.tail
      rw [hword] at hnext ⊢
      cases inRun with
      | true => rwa [collapseFrom_true_layout hc, hrun rfl]
      | false =>
        have hspace := scanItems_of_none
          (declarationAt?_layout text' afterWord (c := ' ') rfl (collapseFrom true s))
        rw [← collapse_layout hc, not_isWordChar_of_isLayout rfl] at hspace
        rw [← hspace] at hnext
        exact hnext
    · have hother := Bool.eq_false_iff.mpr hc
      have hnone' := declarationAt?_collapse_none text' hfree hnone
      rw [collapse_other hother] at hnone'
      rw [collapseFrom_other hother, scanItems_of_none hnone']
      exact ih false nofun hfree.tail
  | fault afterWord s fault hfault =>
    intro inRun _ hfree
    obtain ⟨fault', hfault', hkind⟩ := declarationAt?_collapse_fault text' hfree hfault
    rw [collapseFrom_of_declarationAt? hfault, scanItems_of_fault hfault,
      scanItems_of_fault hfault']
    exact .fault hkind
  | declares afterWord s item after hdeclares ih =>
    intro inRun _ hfree
    obtain ⟨item', hdeclares', hitem⟩ := hdeclares.collapse hfree
    obtain ⟨d, hends, -⟩ := hdeclares.endsWith
    have hafter := hfree.of_suffix hends.suffix
    rw [collapseFrom_of_declarationAt? (hdeclares.read text),
      scanItems_of_declares text hdeclares, scanItems_of_declares text' hdeclares']
    exact (ih false nofun hafter).map fun items items' h => congrArg₂ List.cons hitem h

/-! ## Results -/

/-- The same declarations: bodies are alike but for layout, and the symbols of intrinsics are only
counted. -/
structure ScannedSource.SameButLayout (x y : ScannedSource) : Prop where
  kernels : x.kernels.map ScannedFunction.layoutFree = y.kernels.map ScannedFunction.layoutFree
  exports : x.exports.map ScannedFunction.layoutFree = y.exports.map ScannedFunction.layoutFree
  imports : x.imports = y.imports
  intrinsics : x.intrinsics.length = y.intrinsics.length

section

variable {items items' : List ScannedItem}

/-- What is seen of each kind without its layout is the same. -/
theorem SameItems.map_ofKind {α : Type} (h : SameItems items items')
    (ofKind : ScannedItem → Option α) (seen : α → α)
    (hseen : ∀ item, (ofKind item).map seen = ofKind item.layoutFree) :
    (items.filterMap ofKind).map seen = (items'.filterMap ofKind).map seen := by
  have hview : ∀ items : List ScannedItem, (items.filterMap ofKind).map seen =
      (items.map ScannedItem.layoutFree).filterMap ofKind := fun items => by
    rw [List.map_filterMap, List.filterMap_map]
    exact congrArg (List.filterMap · items) (funext hseen)
  rw [hview, hview, h]

theorem SameItems.ofItems (h : SameItems items items') :
    (ScannedSource.ofItems items).SameButLayout (ScannedSource.ofItems items') where
  kernels := h.map_ofKind _ _ fun item => by cases item <;> rfl
  exports := h.map_ofKind _ _ fun item => by cases item <;> rfl
  imports := by
    have himports : (ScannedSource.ofItems items).imports.map id =
        (ScannedSource.ofItems items').imports.map id :=
      h.map_ofKind _ _ fun item => by cases item <;> rfl
    rwa [List.map_id, List.map_id] at himports
  intrinsics := by
    have hcount : (ScannedSource.ofItems items).intrinsics.map (fun _ => "") =
        (ScannedSource.ofItems items').intrinsics.map fun _ => "" :=
      h.map_ofKind _ _ fun item => by cases item <;> rfl
    have hlength := congrArg List.length hcount
    rwa [List.length_map, List.length_map] at hlength

end

/-- **Texts that differ in layout alone have the same declarations**, or the same fault. -/
theorem Relaid.sameOutcome {s s' : String} (hs : CommentFree s.toList)
    (h : Relaid s.toList s'.toList) :
    SameOutcome ScannedSource.SameButLayout (scanSource s) (scanSource s') := by
  have hs' := h.commentFree hs
  have hscan := scanItems_collapseFrom s.toList [] false _ false nofun hs
  have hscan' := scanItems_collapseFrom s'.toList [] false _ false nofun hs'
  rw [h.collapseFrom_eq] at hscan
  unfold scanSource
  rw [hs.stripComments_eq, hs'.stripComments_eq]
  exact (hscan.join hscan' fun _ _ _ hitems hitems' => hitems.trans hitems'.symm).map
    fun _ _ hitems => SameItems.ofItems hitems

end KernelLink
