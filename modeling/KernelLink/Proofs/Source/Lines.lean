import KernelLink.Proofs.Source.Steps
import KernelLink.Proofs.Text.Lines

/-!
# The lines that faults name

A scan sees a text without its comments, and what it reports about a place is the number of a line.
Stripping is a projection that leaves every line where it is. So nothing that is reported changes
when the comments are taken out beforehand, and a reported line is a line of the text that was
given.
-/

namespace KernelLink

/-- The line that a fault names. -/
def ScanFault.line : ScanFault → Nat
  | unbalanced _ line => line
  | expected _ line => line

/-- Reading fails, if it does, with the line of a place of `rest`. -/
def FaultsWithin {α : Type} (text rest : List Char) (result : Except ScanFault α) : Prop :=
  ∀ fault, result = .error fault → ∃ place, place <:+ rest ∧ fault.line = lineAt text place

section

variable {α β : Type} {text rest place : List Char} {result : Except ScanFault α}

theorem FaultsWithin.ok (a : α) : FaultsWithin text rest (.ok a) := nofun

theorem FaultsWithin.unbalanced (opening : Char) (h : place <:+ rest) :
    FaultsWithin text rest (.error (.unbalanced opening (lineAt text place)) : Except _ α) := by
  rintro fault ⟨⟩
  exact ⟨place, h, rfl⟩

theorem FaultsWithin.expected (what : Expectation) (h : place <:+ rest) :
    FaultsWithin text rest (.error (.expected what (lineAt text place)) : Except _ α) := by
  rintro fault ⟨⟩
  exact ⟨place, h, rfl⟩

theorem FaultsWithin.bind {next : α → Except ScanFault β} (h : FaultsWithin text rest result)
    (hnext : ∀ a, result = .ok a → FaultsWithin text rest (next a)) :
    FaultsWithin text rest (result >>= next) := by
  intro fault hfault
  cases result with
  | error fault' =>
    cases hfault
    exact h _ rfl
  | ok a => exact hnext a rfl fault hfault

theorem FaultsWithin.map {f : α → β} (h : FaultsWithin text rest result) :
    FaultsWithin text rest (result.map f) := by
  intro fault hfault
  cases result with
  | error fault' =>
    cases hfault
    exact h _ rfl
  | ok a => cases hfault

theorem FaultsWithin.mono {rest' : List Char} (h : FaultsWithin text rest result)
    (hrest : rest <:+ rest') : FaultsWithin text rest' result := fun fault hfault => by
  obtain ⟨place, hplace, hline⟩ := h fault hfault
  exact ⟨place, hplace.trans hrest, hline⟩

/-! ## Reading -/

variable (text rest)

theorem faultsWithin_readParameterList (missing : Expectation) :
    FaultsWithin text rest (readParameterList text rest missing) := by
  unfold readParameterList
  rw [List.span_eq_takeWhile_dropWhile]
  have hopened : rest.dropWhile (· ≠ '(') <:+ rest := List.dropWhile_suffix _
  cases hrest : rest.dropWhile (· ≠ '(') with
  | nil => exact .expected missing List.suffix_rfl
  | cons c opened =>
    rw [hrest] at hopened
    dsimp only
    cases enclosed? '(' ')' (c :: opened) with
    | none => exact .unbalanced '(' hopened
    | some parts => exact .ok _

theorem faultsWithin_readBody : FaultsWithin text rest (readBody text rest) := by
  unfold readBody
  cases enclosed? '\x7b' '\x7d' rest with
  | none => exact .unbalanced '\x7b' List.suffix_rfl
  | some parts => exact .ok _

theorem faultsWithin_readSignature (parameters header : Expectation) :
    FaultsWithin text rest (readSignature text rest parameters header) := by
  unfold readSignature
  split
  · exact .expected parameters List.suffix_rfl
  · split
    · exact .expected header List.suffix_rfl
    · exact (faultsWithin_readParameterList text rest parameters).bind fun _ _ => .ok _

theorem faultsWithin_readIntrinsic : FaultsWithin text rest (readIntrinsic text rest) :=
  (faultsWithin_readParameterList text rest .intrinsicSymbol).bind fun _ _ => .ok _

/-- A body stands behind blanks in what follows the parameter list. -/
theorem opened_suffix {opened after : List Char} (h : after.dropWhile isAsciiBlank = opened)
    (hafter : after <:+ rest) : opened <:+ rest :=
  (h ▸ List.dropWhile_suffix isAsciiBlank).trans hafter

theorem faultsWithin_readVisible : FaultsWithin text rest (readVisible text rest) := by
  refine (faultsWithin_readSignature text rest _ _).bind fun parts hparts => ?_
  obtain ⟨returnType, name, inside, after⟩ := parts
  have hafter := (readSignature_eq_ok_iff.mp hparts).endsWith.suffix
  dsimp only
  split
  · exact .ok _
  · rename_i opened hopened
    exact ((faultsWithin_readBody text _).mono (opened_suffix rest hopened hafter)).bind
      fun _ _ => .ok _
  · exact .expected .visibleBody hafter

theorem faultsWithin_readKernel : FaultsWithin text rest (readKernel text rest) := by
  refine (faultsWithin_readSignature text rest _ _).bind fun parts hparts => ?_
  obtain ⟨returnType, name, inside, after⟩ := parts
  have hafter := (readSignature_eq_ok_iff.mp hparts).endsWith.suffix
  dsimp only
  split
  · rename_i opened hopened
    exact ((faultsWithin_readBody text _).mono (opened_suffix rest hopened hafter)).bind
      fun _ _ => .ok _
  · exact .expected .kernelBody hafter

variable {text rest}

theorem faultsWithin_declarationAt? {afterWord : Bool} {read : Except ScanFault Scanned}
    (h : declarationAt? text afterWord rest = some read) : FaultsWithin text rest read := by
  unfold declarationAt? at h
  split at h
  · cases h
    exact faultsWithin_readIntrinsic text rest
  · split at h
    · cases h
      exact (faultsWithin_readVisible text _).mono (List.drop_suffix _ _)
    · split at h
      · cases h
        exact (faultsWithin_readKernel text _).mono (List.drop_suffix _ _)
      · cases h

/-- **A scan fails, if it does, with the line of a place that it got to.** -/
theorem faultsWithin_scanItems (text : List Char) (afterWord : Bool) (s : List Char) :
    FaultsWithin text s (scanItems text 0 afterWord s) := by
  induction afterWord, s using scan_induction text with
  | nil afterWord => exact .ok _
  | pass afterWord c s hnone ih =>
    rw [scanItems_of_none hnone]
    exact ih.mono (List.suffix_cons c s)
  | fault afterWord s fault hfault =>
    rw [scanItems_of_fault hfault]
    rintro fault' ⟨⟩
    exact faultsWithin_declarationAt? hfault fault rfl
  | declares afterWord s item after hdeclares ih =>
    obtain ⟨d, hends, -⟩ := hdeclares.endsWith
    rw [scanItems_of_declares text hdeclares]
    exact (ih.mono hends.suffix).map

end

/-! ## Scanning and stripping -/

theorem lineAt_le (text rest : List Char) : lineAt text rest ≤ newlines text + 1 := by
  unfold lineAt
  omega

theorem scanSource_stripped (source : String) :
    scanSource (String.ofList (stripComments source.toList)) = scanSource source := by
  unfold scanSource
  rw [String.toList_ofList, stripComments_stripComments]

theorem line_le_of_scanSource {source : String} {fault : ScanFault}
    (h : scanSource source = .error fault) : fault.line ≤ newlines source.toList + 1 := by
  have hwithin : FaultsWithin (stripComments source.toList) (stripComments source.toList)
      (scanSource source) := (faultsWithin_scanItems _ false _).map
  obtain ⟨place, -, hline⟩ := hwithin fault h
  rw [hline, ← newlines_stripComments]
  exact lineAt_le _ _

/-- **Stripping is a projection that keeps lines.** However a text is read in parts, and there is a
way, each part leaves what it leaves on the line where it starts. -/
theorem stripping_keeps_lines (source : String) :
    let s := source.toList
    let text := stripComments s
    (¬['/', '/'] <:+: text ∧ ¬['/', '*'] <:+: text) ∧
    stripComments text = text ∧
    newlines text = newlines s ∧
    (∃ parts, Comment.Reads parts ∧ Comment.sources parts = s) ∧
    (∀ parts, Comment.Reads parts → Comment.sources parts = s → Comment.lefts parts = text ∧
      ∀ before p after, parts = before ++ p :: after →
        lineAt text (Comment.lefts (p :: after)) = lineAt s (Comment.sources (p :: after))) ∧
    normalizeBody (normalizeBody source) = normalizeBody source ∧
    scanSource (String.ofList text) = scanSource source ∧
    ∀ fault, scanSource source = .error fault → fault.line ≤ newlines s + 1 := by
  intro s text
  refine ⟨(commentFree_strip .code s).no_opening, stripComments_stripComments s,
    newlines_stripComments s, Comment.exists_parts s, fun parts hparts hs => ?_,
    normalizeBody_normalizeBody source, scanSource_stripped source,
    fun _ => line_le_of_scanSource⟩
  have htext : Comment.lefts parts = text := by
    rw [← Comment.strip_sources hparts, hs]
    rfl
  refine ⟨htext, ?_⟩
  rintro before p after rfl
  -- The newlines up to a part are those of whole parts.
  have hnewlines := hparts.newlines_left
  have hafter := Comment.newlines_lefts fun q hq =>
    hnewlines q (List.mem_append_right before hq)
  unfold lineAt
  rw [hafter, ← hs, ← htext, Comment.newlines_lefts hnewlines]

/-- Two comments that do not close where they seem to, and a brace that is never closed. -/
theorem stripping_keeps_lines_unbalanced :
    let source := "/*/\n**/kernel void f(uint t) \x7b // \x7d */\n/* \x7d"
    scanSource source = .error (.unbalanced '\x7b' 2) ∧
      (ScanFault.unbalanced '\x7b' 2).line ≤ newlines source.toList + 1 := by
  intro source
  have hscan : scanSource source = .error (.unbalanced '\x7b' 2) := by decide +kernel
  obtain ⟨-, -, -, -, -, -, -, hline⟩ := stripping_keeps_lines source
  exact ⟨hscan, hline _ hscan⟩

end KernelLink
