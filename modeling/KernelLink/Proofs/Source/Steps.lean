import KernelLink.Proofs.Source.Scan
import KernelLink.Proofs.Text.Blank

/-!
# A scan, step by step

The scanner counts the characters that belong to the last declaration and passes over them one by
one. Seen from further away it does one of four things at a place of the text: it is at the end, no
declaration starts there and it goes on behind one character, a declaration is read and it goes on
behind all of it, or a fault ends the scan. These are the steps that facts about scans are proved
along. The last character of a declaration is its own delimiter, so behind it no word goes on.

The first of these facts is that scanning is compositional: a text of parts with lines between them
has the declarations of each, in turn.
-/

namespace KernelLink

/-! ## What a declaration consumes -/

/-- Only what comes behind `d` is left. -/
def EndsWith (d : Char) (rest after : List Char) : Prop := ∃ front, rest = front ++ d :: after

theorem EndsWith.append_left {d : Char} {rest after : List Char} (h : EndsWith d rest after)
    (front : List Char) : EndsWith d (front ++ rest) after := by
  obtain ⟨front', rfl⟩ := h
  exact ⟨front ++ front', (List.append_assoc _ _ _).symm⟩

theorem EndsWith.suffix {d : Char} {rest after : List Char} (h : EndsWith d rest after) :
    after <:+ rest := by
  obtain ⟨front, rfl⟩ := h
  exact (List.suffix_cons d after).trans (List.suffix_append front _)

theorem EndsWith.trans {d e : Char} {rest between after : List Char}
    (h : EndsWith d rest between) (h' : EndsWith e between after) : EndsWith e rest after := by
  obtain ⟨front, rfl⟩ := h
  exact (h'.append_left [d]).append_left front

theorem EndsWith.of_dropWhile {p : Char → Bool} {d : Char} {rest after : List Char}
    (h : EndsWith d (rest.dropWhile p) after) : EndsWith d rest after := by
  have hrest := h.append_left (rest.takeWhile p)
  rwa [List.takeWhile_append_dropWhile] at hrest

section

variable {rest inside following body after : List Char} {returnType name : String}
  {item : ScannedItem}

/-- A parameter list is what stands between its parentheses, and balanced. -/
theorem enclosed_parameters
    (h : enclosed? '(' ')' (rest.dropWhile (· ≠ '(')) = some (inside, after)) :
    rest.dropWhile (· ≠ '(') = '(' :: (inside ++ ')' :: after) ∧ Balanced '(' ')' inside := by
  cases hopened : rest.dropWhile (· ≠ '(') with
  | nil => rw [hopened] at h; cases h
  | cons c opened =>
    obtain rfl : c = '(' := by simpa using not_of_dropWhile_eq_cons hopened
    rw [hopened] at h
    obtain ⟨rfl, hbalanced⟩ := (enclosed?_cons_eq_some_iff (by decide)).mp h
    exact ⟨rfl, hbalanced⟩

theorem endsWith_parameters
    (h : enclosed? '(' ')' (rest.dropWhile (· ≠ '(')) = some (inside, after)) :
    EndsWith ')' rest after :=
  .of_dropWhile ⟨'(' :: inside, (enclosed_parameters h).1⟩

/-- A body is what stands between its braces, and balanced. -/
theorem ReadsBody.spelled (h : ReadsBody rest body after) :
    rest.dropWhile isAsciiBlank = '\x7b' :: (body ++ '\x7d' :: after) ∧
      Balanced '\x7b' '\x7d' body := by
  obtain ⟨⟨opened, hopened⟩, henclosed⟩ := h
  rw [hopened] at henclosed ⊢
  obtain ⟨rfl, hbalanced⟩ := (enclosed?_cons_eq_some_iff (by decide)).mp henclosed
  exact ⟨rfl, hbalanced⟩

theorem ReadsBody.endsWith (h : ReadsBody rest body after) : EndsWith '\x7d' rest after :=
  .of_dropWhile ⟨'\x7b' :: body, h.spelled.1⟩

theorem ReadsIntrinsic.endsWith (h : ReadsIntrinsic rest item after) :
    EndsWith ')' rest after := by
  obtain ⟨h⟩ := h
  exact endsWith_parameters h

theorem ReadsSignature.endsWith (h : ReadsSignature rest returnType name inside following) :
    EndsWith ')' rest following :=
  endsWith_parameters h.parameters

theorem ReadsVisible.endsWith (h : ReadsVisible rest item after) :
    EndsWith ';' rest after ∨ EndsWith '\x7d' rest after := by
  cases h with
  | prototype h hend => exact .inl (h.endsWith.trans (.of_dropWhile ⟨[], hend⟩))
  | definition h hbody => exact .inr (h.endsWith.trans hbody.endsWith)

theorem ReadsKernel.endsWith (h : ReadsKernel rest item after) : EndsWith '\x7d' rest after := by
  obtain ⟨h, hbody⟩ := h
  exact h.endsWith.trans hbody.endsWith

end

/-! ## Declarations -/

/-- The declaration that starts a text, and what follows it. -/
inductive Declares (afterWord : Bool) (s : List Char) : ScannedItem → List Char → Prop where
  | intrinsic {item after} (hword : startsWithWord intrinsicWord afterWord s)
      (h : ReadsIntrinsic s item after) : Declares afterWord s item after
  | visible {item after} (hmark : visibleMark.isPrefixOf s)
      (h : ReadsVisible (s.drop visibleMark.length) item after) : Declares afterWord s item after
  | kernel {item after} (hword : startsWithWord kernelWord afterWord s)
      (h : ReadsKernel (s.drop kernelWord.length) item after) : Declares afterWord s item after

section

variable {text s after : List Char} {afterWord : Bool} {item : ScannedItem}

/-- The three ways to start a declaration differ in their first characters. -/
theorem not_startsWith_of_mark (h : visibleMark.isPrefixOf s) :
    startsWithWord intrinsicWord afterWord s = false := by
  obtain ⟨rest, rfl⟩ := List.isPrefixOf_iff_prefix.mp h
  rfl

theorem not_startsWith_of_kernelWord (h : startsWithWord kernelWord afterWord s) :
    startsWithWord intrinsicWord afterWord s = false ∧ visibleMark.isPrefixOf s = false := by
  obtain ⟨rest, rfl⟩ := List.isPrefixOf_iff_prefix.mp (isPrefixOf_of_startsWithWord h)
  exact ⟨rfl, rfl⟩

/-- **What the scanner reads at a place is the declaration that starts there.** -/
theorem declarationAt?_eq_ok_iff :
    declarationAt? text afterWord s = some (.ok (item, after)) ↔
      Declares afterWord s item after := by
  unfold declarationAt?
  constructor
  · intro h
    split at h
    · rename_i hword
      exact .intrinsic hword (readIntrinsic_eq_ok_iff.mp (Option.some.inj h))
    · split at h
      · rename_i hmark
        exact .visible hmark (readVisible_eq_ok_iff.mp (Option.some.inj h))
      · split at h
        · rename_i hword
          exact .kernel hword (readKernel_eq_ok_iff.mp (Option.some.inj h))
        · cases h
  · intro h
    cases h with
    | intrinsic hword h => rw [if_pos hword, readIntrinsic_eq_ok_iff.mpr h]
    | visible hmark h =>
      rw [not_startsWith_of_mark hmark, if_neg Bool.false_ne_true, if_pos hmark,
        readVisible_eq_ok_iff.mpr h]
    | kernel hword h =>
      obtain ⟨hintrinsic, hmark⟩ := not_startsWith_of_kernelWord hword
      rw [hintrinsic, if_neg Bool.false_ne_true, hmark, if_neg Bool.false_ne_true, if_pos hword,
        readKernel_eq_ok_iff.mpr h]

theorem Declares.read (h : Declares afterWord s item after) (text : List Char) :
    declarationAt? text afterWord s = some (.ok (item, after)) :=
  declarationAt?_eq_ok_iff.mpr h

/-- A declaration ends with a character that is no part of a word. -/
theorem Declares.endsWith (h : Declares afterWord s item after) :
    ∃ d, EndsWith d s after ∧ isWordChar d = false := by
  have hdrop : ∀ {d n}, EndsWith d (s.drop n) after → EndsWith d s after := fun {d n} h => by
    have hs := h.append_left (s.take n)
    rwa [List.take_append_drop] at hs
  cases h with
  | intrinsic _ h => exact ⟨')', h.endsWith, by decide⟩
  | visible _ h =>
    rcases h.endsWith with h | h
    · exact ⟨';', hdrop h, by decide⟩
    · exact ⟨'\x7d', hdrop h, by decide⟩
  | kernel _ h => exact ⟨'\x7d', hdrop h.endsWith, by decide⟩

theorem Declares.length_lt (h : Declares afterWord s item after) : after.length < s.length := by
  obtain ⟨d, ⟨front, rfl⟩, -⟩ := h.endsWith
  rw [List.length_append, List.length_cons]
  omega

/-! ## Steps of a scan -/

theorem scanItems_skip (text front : List Char) (d : Char) (t : List Char) (afterWord : Bool) :
    scanItems text (front.length + 1) afterWord (front ++ d :: t) =
      scanItems text 0 (isWordChar d) t := by
  induction front generalizing afterWord with
  | nil => rw [List.nil_append, scanItems, if_pos (Nat.succ_pos _)]; rfl
  | cons c front ih =>
    rw [List.cons_append, scanItems, if_pos (Nat.succ_pos _), Nat.add_sub_cancel]
    exact ih (isWordChar c)

/-- Behind a declaration the scan goes on as if the text started there. -/
theorem scanItems_of_declares (text : List Char) (h : Declares afterWord s item after) :
    scanItems text 0 afterWord s = (scanItems text 0 false after).map (item :: ·) := by
  obtain ⟨d, ⟨front, rfl⟩, hd⟩ := h.endsWith
  have hread := h.read text
  -- All of the declaration but its first character is skipped.
  cases front with
  | nil =>
    rw [List.nil_append] at hread ⊢
    rw [scanItems_cons, hread, ← hd]
    dsimp only
    rw [Nat.sub_self]
  | cons c front =>
    rw [List.cons_append] at hread ⊢
    rw [scanItems_cons, hread]
    dsimp only
    have hskip : (front ++ d :: after).length - after.length = front.length + 1 := by
      rw [List.length_append, List.length_cons]; omega
    rw [hskip, scanItems_skip, hd]

theorem scanItems_of_fault {fault : ScanFault}
    (h : declarationAt? text afterWord s = some (.error fault)) :
    scanItems text 0 afterWord s = .error fault := by
  cases s with
  | nil => cases h
  | cons c s => rw [scanItems_cons, h]

theorem scanItems_of_none {c : Char} (h : declarationAt? text afterWord (c :: s) = none) :
    scanItems text 0 afterWord (c :: s) = scanItems text 0 (isWordChar c) s := by
  rw [scanItems_cons, h]

/-- **What every step of a scan keeps holds of the scan.** -/
theorem scan_induction {motive : Bool → List Char → Prop} (text : List Char)
    (nil : ∀ afterWord, motive afterWord [])
    (pass : ∀ afterWord c s, declarationAt? text afterWord (c :: s) = none →
      motive (isWordChar c) s → motive afterWord (c :: s))
    (fault : ∀ afterWord s fault, declarationAt? text afterWord s = some (.error fault) →
      motive afterWord s)
    (declares : ∀ afterWord s item after, Declares afterWord s item after →
      motive false after → motive afterWord s)
    (afterWord : Bool) (s : List Char) : motive afterWord s := by
  -- A declaration can be of any length, so the induction is on how much text is left.
  induction hn : s.length using Nat.strongRecOn generalizing afterWord s with
  | ind n ih =>
    subst hn
    cases hread : declarationAt? text afterWord s with
    | none =>
      cases s with
      | nil => exact nil afterWord
      | cons c s => exact pass afterWord c s hread (ih s.length (Nat.lt_succ_self _) _ s rfl)
    | some read =>
      cases read with
      | error f => exact fault afterWord s f hread
      | ok parts =>
        obtain ⟨item, after⟩ := parts
        have hdeclares := declarationAt?_eq_ok_iff.mp hread
        exact declares afterWord s item after hdeclares
          (ih after.length hdeclares.length_lt _ after rfl)

end

/-! ## Parts of a text -/

/-- Between the end of a text and what follows it a line ends too, unless nothing is left. -/
theorem LineBetween.of_append {front s t : List Char} (h : LineBetween (front ++ s) t) :
    s = [] ∨ LineBetween s t := by
  induction front with
  | nil => exact .inr h
  | cons c front ih =>
    rcases h.tail with ⟨hnil, -⟩ | h
    · exact .inl (List.append_eq_nil_iff.mp hnil).2
    · exact ih h

/-- **Scanning is compositional**: what scans on its own is scanned alike when more follows, and
what follows is scanned as if it came first. -/
theorem scanItems_append {text s t : List Char} {afterWord : Bool} {items : List ScannedItem}
    (hst : LineBetween s t) (h : scanItems text 0 afterWord s = .ok items) (text' : List Char) :
    scanItems text' 0 afterWord (s ++ t) = (scanItems text' 0 false t).map (items ++ ·) := by
  induction afterWord, s using scan_induction text generalizing items with
  | nil afterWord =>
    obtain ⟨rest, rfl⟩ := hst.resolve_left fun ⟨front, hfront⟩ => by cases front <;> cases hfront
    cases h
    rw [List.nil_append, map_nil_append, scanItems_newline, scanItems_newline]
  | pass afterWord c s hnone ih =>
    rw [scanItems_of_none hnone] at h
    have hnone' := (declarationAt?_append hst text').1 hnone
    rw [List.cons_append] at hnone' ⊢
    rw [scanItems_of_none hnone']
    rcases hst.tail with ⟨rfl, rfl⟩ | hst
    · cases h
      rw [List.nil_append, map_nil_append, show isWordChar '\n' = false by decide]
    · exact ih hst h
  | fault afterWord s fault hfault =>
    rw [scanItems_of_fault hfault] at h
    cases h
  | declares afterWord s item after hdeclares ih =>
    have hdeclares' : Declares afterWord (s ++ t) item (after ++ t) :=
      declarationAt?_eq_ok_iff.mp
        ((declarationAt?_append hst text').2 item after (hdeclares.read text))
    rw [scanItems_of_declares text hdeclares] at h
    rw [scanItems_of_declares text' hdeclares']
    cases hrest : scanItems text 0 false after with
    | error fault => rw [hrest] at h; cases h
    | ok rest =>
      rw [hrest] at h
      cases h
      obtain ⟨d, hends, -⟩ := hdeclares.endsWith
      obtain ⟨front, rfl⟩ := hends.suffix
      rcases hst.of_append with rfl | hst
      · cases hrest
        rfl
      · rw [ih hst hrest]
        exact @map_map_append [item] rest _

theorem exists_scanItems_of_scanSource {source : String} {s : ScannedSource}
    (h : scanSource source = .ok s) :
    ∃ items, scanItems (stripComments source.toList) 0 false (stripComments source.toList) =
      .ok items ∧ s = .ofItems items := by
  unfold scanSource at h
  dsimp only at h
  cases hitems : scanItems (stripComments source.toList) 0 false
      (stripComments source.toList) with
  | error fault => rw [hitems] at h; cases h
  | ok items =>
    rw [hitems] at h
    cases h
    exact ⟨items, rfl, rfl⟩

end KernelLink
