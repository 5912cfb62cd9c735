import KernelLink.Proofs.Text.Delimiter
import KernelLink.Source.Scan
import Mathlib.Data.List.Infix

/-!
# Scanning, part by part

A declaration is read up to its own last delimiter, so what follows cannot change it. And a text
that ends with a newline ends outside of any word, so no declaration starts across its end. Both
together are what makes scanning compositional.

The whole text takes part in a scan through line numbers alone, and those are in faults. What is
read is therefore described below without it.
-/

namespace KernelLink

/-! ## What is read -/

/-- The header and the parameter list that come first. -/
structure ReadsSignature (rest : List Char) (returnType name : String)
    (inside following : List Char) : Prop where
  header : readHeader? (rest.takeWhile (· ≠ '(')) = some (returnType, name)
  parameters : enclosed? '(' ')' (rest.dropWhile (· ≠ '(')) = some (inside, following)

/-- Only one header and one parameter list come first. -/
theorem ReadsSignature.unique {rest inside inside' following following' : List Char}
    {returnType returnType' name name' : String}
    (h : ReadsSignature rest returnType name inside following)
    (h' : ReadsSignature rest returnType' name' inside' following') :
    returnType = returnType' ∧ name = name' ∧ inside = inside' ∧ following = following' := by
  have hheader := h.header.symm.trans h'.header
  have hparameters := h.parameters.symm.trans h'.parameters
  rw [Option.some.injEq, Prod.mk.injEq] at hheader hparameters
  exact ⟨hheader.1, hheader.2, hparameters.1, hparameters.2⟩

/-- A body that comes first but for blanks. -/
structure ReadsBody (rest body after : List Char) : Prop where
  opened : ∃ opened, rest.dropWhile isAsciiBlank = '\x7b' :: opened
  enclosed : enclosed? '\x7b' '\x7d' (rest.dropWhile isAsciiBlank) = some (body, after)

/-- An intrinsic binding behind its word. -/
inductive ReadsIntrinsic (rest : List Char) : ScannedItem → List Char → Prop where
  | intro {inside after} (h : enclosed? '(' ')' (rest.dropWhile (· ≠ '(')) = some (inside, after)) :
      ReadsIntrinsic rest
        (.intrinsic (String.ofList (trimWhile (· = '"') (trimBlanks inside)))) after

/-- A visible function behind its mark. -/
inductive ReadsVisible (rest : List Char) : ScannedItem → List Char → Prop where
  | prototype {returnType name inside following after}
      (h : ReadsSignature rest returnType name inside following)
      (hend : following.dropWhile isAsciiBlank = ';' :: after) :
      ReadsVisible rest (.visiblePrototype ⟨returnType, name, readParameters inside⟩) after
  | definition {returnType name inside following body after}
      (h : ReadsSignature rest returnType name inside following)
      (hbody : ReadsBody following body after) :
      ReadsVisible rest
        (.visibleDefinition ⟨⟨returnType, name, readParameters inside⟩, String.ofList body⟩) after

/-- What is read off a header with a brace behind it is a definition. -/
theorem ReadsVisible.of_brace {rest inside following opened after : List Char}
    {returnType name : String} {item : ScannedItem} (h : ReadsVisible rest item after)
    (hsignature : ReadsSignature rest returnType name inside following)
    (hopened : following.dropWhile isAsciiBlank = '\x7b' :: opened) :
    ∃ body, item = .visibleDefinition ⟨⟨returnType, name, readParameters inside⟩, body⟩ := by
  cases h with
  | prototype h hend =>
    obtain ⟨-, -, -, rfl⟩ := h.unique hsignature
    rw [hopened] at hend
    cases hend
  | definition h _ =>
    obtain ⟨rfl, rfl, rfl, -⟩ := h.unique hsignature
    exact ⟨_, rfl⟩

/-- A kernel behind its word. -/
inductive ReadsKernel (rest : List Char) : ScannedItem → List Char → Prop where
  | intro {returnType name inside following body after}
      (h : ReadsSignature rest returnType name inside following)
      (hbody : ReadsBody following body after) :
      ReadsKernel rest (.kernel ⟨⟨returnType, name, []⟩, String.ofList body⟩) after

theorem readParameterList_eq_ok_iff {text rest header inside after : List Char}
    {missing : Expectation} :
    readParameterList text rest missing = .ok (header, inside, after) ↔
      rest.takeWhile (· ≠ '(') = header ∧
        enclosed? '(' ')' (rest.dropWhile (· ≠ '(')) = some (inside, after) := by
  unfold readParameterList
  rw [List.span_eq_takeWhile_dropWhile]
  cases hopened : rest.dropWhile (· ≠ '(') with
  | nil => exact ⟨nofun, nofun⟩
  | cons c opened =>
    dsimp only
    cases enclosed? '(' ')' (c :: opened) with
    | none => exact ⟨nofun, nofun⟩
    | some parts =>
      obtain ⟨inside', after'⟩ := parts
      simp

theorem readSignature_eq_ok_iff {text rest inside after : List Char} {returnType name : String}
    {parameters header : Expectation} :
    readSignature text rest parameters header = .ok (returnType, name, inside, after) ↔
      ReadsSignature rest returnType name inside after := by
  unfold readSignature
  rw [List.span_eq_takeWhile_dropWhile]
  -- The header is looked at only where a parenthesis follows; without one neither side holds.
  constructor
  · intro h
    split at h
    · cases h
    · rename_i front opened _ hspan
      cases hspan
      split at h
      · cases h
      · rename_i returnType' name' hheader
        cases hlist : readParameterList text rest parameters with
        | error fault => rw [hlist] at h; cases h
        | ok parts =>
          rw [hlist] at h
          cases h
          exact ⟨hheader, (readParameterList_eq_ok_iff.mp hlist).2⟩
  · rintro ⟨hheader, hparameters⟩
    have hlist : readParameterList text rest parameters =
        .ok (rest.takeWhile (· ≠ '('), inside, after) :=
      readParameterList_eq_ok_iff.mpr ⟨rfl, hparameters⟩
    cases hopened : rest.dropWhile (· ≠ '(') with
    | nil => rw [hopened] at hparameters; cases hparameters
    | cons c opened =>
      dsimp only
      rw [hheader, hlist]
      rfl

theorem readBody_eq_ok_iff {text opened body after : List Char} :
    readBody text opened = .ok (body, after) ↔
      enclosed? '\x7b' '\x7d' opened = some (body, after) := by
  unfold readBody
  cases enclosed? '\x7b' '\x7d' opened with
  | none => exact ⟨nofun, nofun⟩
  | some parts => simp

theorem readIntrinsic_eq_ok_iff {text rest after : List Char} {item : ScannedItem} :
    readIntrinsic text rest = .ok (item, after) ↔ ReadsIntrinsic rest item after := by
  unfold readIntrinsic
  constructor
  · intro h
    cases hlist : readParameterList text rest .intrinsicSymbol with
    | error fault => rw [hlist] at h; cases h
    | ok parts =>
      rw [hlist] at h
      cases h
      exact .intro (readParameterList_eq_ok_iff.mp hlist).2
  · rintro ⟨h⟩
    rw [readParameterList_eq_ok_iff.mpr ⟨rfl, h⟩]
    rfl

theorem ReadsBody.opens {rest body after : List Char} (h : ReadsBody rest body after) :
    ∃ opened, rest.dropWhile isAsciiBlank = '\x7b' :: opened ∧
      ∀ text, readBody text ('\x7b' :: opened) = .ok (body, after) := by
  obtain ⟨⟨opened, hopened⟩, henclosed⟩ := h
  exact ⟨opened, hopened, fun text => readBody_eq_ok_iff.mpr (hopened ▸ henclosed)⟩

theorem readVisible_eq_ok_iff {text rest after : List Char} {item : ScannedItem} :
    readVisible text rest = .ok (item, after) ↔ ReadsVisible rest item after := by
  unfold readVisible
  constructor
  · intro h
    cases hsig : readSignature text rest .visibleParameters .visibleHeader with
    | error fault => rw [hsig] at h; cases h
    | ok parts =>
      obtain ⟨returnType, name, inside, following⟩ := parts
      have hreads := readSignature_eq_ok_iff.mp hsig
      rw [hsig] at h
      dsimp only [bind, Except.bind] at h
      split at h
      · rename_i hend
        cases h
        exact .prototype hreads hend
      · rename_i opened hopened
        cases hbody : readBody text ('\x7b' :: opened) with
        | error fault => rw [hbody] at h; cases h
        | ok parts =>
          rw [hbody] at h
          cases h
          exact .definition hreads ⟨⟨opened, hopened⟩, hopened ▸ readBody_eq_ok_iff.mp hbody⟩
      · cases h
  · intro h
    cases h with
    | prototype h hend =>
      rw [readSignature_eq_ok_iff.mpr h]
      simp only [bind, Except.bind, hend]
    | definition h hbody =>
      obtain ⟨opened, hopened, hread⟩ := hbody.opens
      rw [readSignature_eq_ok_iff.mpr h]
      simp only [bind, Except.bind, hopened, hread]

theorem readKernel_eq_ok_iff {text rest after : List Char} {item : ScannedItem} :
    readKernel text rest = .ok (item, after) ↔ ReadsKernel rest item after := by
  unfold readKernel
  constructor
  · intro h
    cases hsig : readSignature text rest .kernelParameters .kernelHeader with
    | error fault => rw [hsig] at h; cases h
    | ok parts =>
      obtain ⟨returnType, name, inside, following⟩ := parts
      have hreads := readSignature_eq_ok_iff.mp hsig
      rw [hsig] at h
      dsimp only [bind, Except.bind] at h
      split at h
      · rename_i opened hopened
        cases hbody : readBody text ('\x7b' :: opened) with
        | error fault => rw [hbody] at h; cases h
        | ok parts =>
          rw [hbody] at h
          cases h
          exact .intro hreads ⟨⟨opened, hopened⟩, hopened ▸ readBody_eq_ok_iff.mp hbody⟩
      · cases h
  · rintro ⟨h, hbody⟩
    obtain ⟨opened, hopened, hread⟩ := hbody.opens
    rw [readSignature_eq_ok_iff.mpr h]
    simp only [bind, Except.bind, hopened, hread]

/-! ## What follows does not matter -/

section

variable {rest inside following body after : List Char} {returnType name : String}
  {item : ScannedItem}

theorem dropWhile_append_of_cons {p : Char → Bool} {s opened : List Char} {c : Char}
    (h : s.dropWhile p = c :: opened) (t : List Char) :
    (s ++ t).dropWhile p = c :: opened ++ t := by
  rw [List.dropWhile_append, h]
  rfl

theorem dropWhile_append_of_enclosed {p : Char → Bool} {o c : Char} {s : List Char}
    (h : enclosed? o c (s.dropWhile p) = some (inside, after)) (t : List Char) :
    (s ++ t).dropWhile p = s.dropWhile p ++ t := by
  cases hopened : s.dropWhile p with
  | nil => rw [hopened] at h; cases h
  | cons d opened => exact dropWhile_append_of_cons hopened t

theorem ReadsSignature.append (h : ReadsSignature rest returnType name inside following)
    (t : List Char) : ReadsSignature (rest ++ t) returnType name inside (following ++ t) := by
  obtain ⟨hheader, hparameters⟩ := h
  have hdrop := dropWhile_append_of_enclosed hparameters t
  refine ⟨?_, by rw [hdrop]; exact enclosed?_append hparameters t⟩
  -- What stands before the parenthesis is what is left when the rest is cancelled.
  have htake : (rest ++ t).takeWhile (· ≠ '(') = rest.takeWhile (· ≠ '(') := by
    have hsplit := List.takeWhile_append_dropWhile (p := (· ≠ '(')) (l := rest ++ t)
    rw [hdrop, ← List.append_assoc] at hsplit
    have hrest := List.takeWhile_append_dropWhile (p := (· ≠ '(')) (l := rest)
    exact List.append_cancel_right (List.append_cancel_right (hsplit.trans (by rw [hrest])) : _)
  rw [htake]
  exact hheader

theorem ReadsBody.append (h : ReadsBody rest body after) (t : List Char) :
    ReadsBody (rest ++ t) body (after ++ t) := by
  obtain ⟨⟨opened, hopened⟩, henclosed⟩ := h
  have hdrop := dropWhile_append_of_enclosed henclosed t
  exact ⟨⟨opened ++ t, by rw [hdrop, hopened]; rfl⟩,
    by rw [hdrop]; exact enclosed?_append henclosed t⟩

theorem ReadsIntrinsic.append (h : ReadsIntrinsic rest item after) (t : List Char) :
    ReadsIntrinsic (rest ++ t) item (after ++ t) := by
  obtain ⟨h⟩ := h
  refine .intro ?_
  rw [dropWhile_append_of_enclosed h]
  exact enclosed?_append h t

theorem ReadsVisible.append (h : ReadsVisible rest item after) (t : List Char) :
    ReadsVisible (rest ++ t) item (after ++ t) := by
  cases h with
  | prototype h hend => exact .prototype (h.append t) (dropWhile_append_of_cons hend t)
  | definition h hbody => exact .definition (h.append t) (hbody.append t)

theorem ReadsKernel.append (h : ReadsKernel rest item after) (t : List Char) :
    ReadsKernel (rest ++ t) item (after ++ t) := by
  obtain ⟨h, hbody⟩ := h
  exact .intro (h.append t) (hbody.append t)

end

/-! ## Where declarations start -/

/-- The text ends with a newline. -/
def EndsLine (s : List Char) : Prop := ∃ front, s = front ++ ['\n']

theorem endsLine_cons_iff {c : Char} {s : List Char} :
    EndsLine (c :: s) ↔ (s = [] ∧ c = '\n') ∨ EndsLine s := by
  constructor
  · rintro ⟨front, h⟩
    cases front with
    | nil =>
      cases h
      exact .inl ⟨rfl, rfl⟩
    | cons d front =>
      cases h
      exact .inr ⟨front, rfl⟩
  · rintro (⟨rfl, rfl⟩ | ⟨front, rfl⟩)
    · exact ⟨[], rfl⟩
    · exact ⟨c :: front, rfl⟩

theorem EndsLine.append {s : List Char} (h : EndsLine s) (front : List Char) :
    EndsLine (front ++ s) := by
  obtain ⟨front', rfl⟩ := h
  exact ⟨front ++ front', (List.append_assoc _ _ _).symm⟩

/-- Between the texts a line ends. -/
def LineBetween (s t : List Char) : Prop := EndsLine s ∨ ∃ rest, t = '\n' :: rest

theorem LineBetween.tail {c : Char} {s t : List Char} (h : LineBetween (c :: s) t) :
    (s = [] ∧ c = '\n') ∨ LineBetween s t := by
  rcases h with h | h
  · exact (endsLine_cons_iff.mp h).imp_right .inl
  · exact .inr (.inr h)

section

variable {word s t : List Char}

/-- A word without newlines that starts in a text ends there. -/
theorem length_le_of_starts (hst : LineBetween s t) (hword : '\n' ∉ word)
    (h : word <+: s ++ t) : word.length ≤ s.length := by
  by_contra hlong
  -- Otherwise the newline between the texts is a character of the word.
  rcases hst with ⟨front, rfl⟩ | ⟨rest, rfl⟩
  · have hline := List.prefix_of_prefix_length_le (List.prefix_append _ t) h (by omega)
    exact hword (hline.subset (List.mem_append_right _ (List.mem_singleton_self _)))
  · have hsplit : s ++ '\n' :: rest = (s ++ ['\n']) ++ rest := by simp
    have hle : (s ++ ['\n']).length ≤ word.length := by
      rw [List.length_append, List.length_singleton]; omega
    have hline := List.prefix_of_prefix_length_le (hsplit ▸ List.prefix_append _ rest) h hle
    exact hword (hline.subset (List.mem_append_right _ (List.mem_singleton_self _)))

theorem isPrefixOf_append (hst : LineBetween s t) (hword : '\n' ∉ word) :
    word.isPrefixOf (s ++ t) = word.isPrefixOf s := by
  rw [Bool.eq_iff_iff, List.isPrefixOf_iff_prefix, List.isPrefixOf_iff_prefix]
  constructor
  · intro h
    exact List.prefix_of_prefix_length_le h (List.prefix_append s t)
      (length_le_of_starts hst hword h)
  · exact fun h => h.trans (List.prefix_append s t)

/-- No word goes on across the end of a line. -/
theorem startsWithWord_append (hst : LineBetween s t) (hword : '\n' ∉ word) (afterWord : Bool) :
    startsWithWord word afterWord (s ++ t) = startsWithWord word afterWord s := by
  unfold startsWithWord
  rw [isPrefixOf_append hst hword]
  by_cases h : word.isPrefixOf s
  · have hprefix := List.isPrefixOf_iff_prefix.mp h
    rw [List.drop_append_of_le_length hprefix.length_le]
    by_cases hrest : s.drop word.length = []
    · -- The word is all of `s`, so it has no newline at its end and the other text starts with one.
      obtain ⟨rest, rfl⟩ := hst.resolve_left fun ⟨front, hs⟩ => by
        have hword' : word = s := hprefix.eq_of_length_le (List.drop_eq_nil_iff.mp hrest)
        exact hword (by rw [hword', hs]; simp)
      rw [hrest]
      rfl
    · rw [List.head?_append_of_ne_nil _ hrest]
  · rw [Bool.eq_false_iff.mpr h]
    rfl

theorem drop_append_of_isPrefixOf (h : word.isPrefixOf s) (t : List Char) :
    (s ++ t).drop word.length = s.drop word.length ++ t :=
  List.drop_append_of_le_length (List.isPrefixOf_iff_prefix.mp h).length_le

theorem isPrefixOf_of_startsWithWord {afterWord : Bool} (h : startsWithWord word afterWord s) :
    word.isPrefixOf s := by
  unfold startsWithWord at h
  rw [Bool.and_eq_true, Bool.and_eq_true] at h
  exact h.1.1

end

/-- A declaration that starts in a text is the one that starts there when another line follows. -/
theorem declarationAt?_append {text s t : List Char} {afterWord : Bool} (hst : LineBetween s t)
    (text' : List Char) :
    (declarationAt? text afterWord s = none → declarationAt? text' afterWord (s ++ t) = none) ∧
    ∀ item after, declarationAt? text afterWord s = some (.ok (item, after)) →
      declarationAt? text' afterWord (s ++ t) = some (.ok (item, after ++ t)) := by
  have hi : '\n' ∉ intrinsicWord := by decide
  have hv : '\n' ∉ visibleMark := by decide
  have hk : '\n' ∉ kernelWord := by decide
  unfold declarationAt?
  rw [startsWithWord_append hst hi, isPrefixOf_append hst hv, startsWithWord_append hst hk]
  -- Both texts take the same branch, and what is read there is read up to its own last delimiter.
  split
  · refine ⟨nofun, fun item after h => ?_⟩
    have hread := readIntrinsic_eq_ok_iff.mp (Option.some.inj h)
    rw [readIntrinsic_eq_ok_iff.mpr (hread.append t)]
  · split
    · rename_i hprefix
      refine ⟨nofun, fun item after h => ?_⟩
      have hread := readVisible_eq_ok_iff.mp (Option.some.inj h)
      rw [drop_append_of_isPrefixOf hprefix, readVisible_eq_ok_iff.mpr (hread.append t)]
    · split
      · rename_i hword
        refine ⟨nofun, fun item after h => ?_⟩
        have hread := readKernel_eq_ok_iff.mp (Option.some.inj h)
        rw [drop_append_of_isPrefixOf (isPrefixOf_of_startsWithWord hword),
          readKernel_eq_ok_iff.mpr (hread.append t)]
      · exact ⟨fun _ => rfl, nofun⟩

/-! ## The scan -/

theorem map_map_append {items items' : List ScannedItem}
    (x : Except ScanFault (List ScannedItem)) :
    (x.map (items' ++ ·)).map (items ++ ·) = x.map (items ++ items' ++ ·) := by
  cases x with
  | error fault => rfl
  | ok rest => exact congrArg Except.ok (List.append_assoc items items' rest).symm

theorem map_nil_append (x : Except ScanFault (List ScannedItem)) : x.map ([] ++ ·) = x := by
  cases x <;> rfl

theorem scanItems_cons (text : List Char) (afterWord : Bool) (c : Char) (s : List Char) :
    scanItems text 0 afterWord (c :: s) =
      match declarationAt? text afterWord (c :: s) with
      | none => scanItems text 0 (isWordChar c) s
      | some (.error fault) => .error fault
      | some (.ok (item, after)) =>
        (scanItems text (s.length - after.length) (isWordChar c) s).map (item :: ·) := by
  rw [scanItems.eq_def]
  exact if_neg (Nat.lt_irrefl 0)

/-- A scan that starts with a declaration starts with what it is read as. -/
theorem scanItems_of_declarationAt? {text s : List Char} {afterWord : Bool} (hs : s ≠ [])
    {read : Except ScanFault Scanned} (hd : declarationAt? text afterWord s = some read)
    {items : List ScannedItem} (h : scanItems text 0 afterWord s = .ok items) :
    ∃ item after rest, read = .ok (item, after) ∧ items = item :: rest := by
  obtain ⟨c, s, rfl⟩ := List.exists_cons_of_ne_nil hs
  rw [scanItems_cons, hd] at h
  cases read with
  | error fault => cases h
  | ok scanned =>
    obtain ⟨item, after⟩ := scanned
    dsimp only at h
    cases hrest : scanItems text (s.length - after.length) (isWordChar c) s with
    | error fault => rw [hrest] at h; cases h
    | ok rest =>
      rw [hrest] at h
      cases h
      exact ⟨item, after, rest, rfl, rfl⟩

/-- At the end of a line it does not matter what stands before. -/
theorem scanItems_newline (text : List Char) (afterWord : Bool) (s : List Char) :
    scanItems text 0 afterWord ('\n' :: s) = scanItems text 0 false s := by
  have hnone : declarationAt? text afterWord ('\n' :: s) = none := rfl
  rw [scanItems_cons, hnone]
  rfl

end KernelLink
