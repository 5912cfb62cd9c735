import KernelLink.Catalog
import KernelLink.Proofs.Source.Fragment

/-!
# The bodies of a catalog can stand between braces

Whatever the sizes and the constants are: bodies are put together from fixed pieces and numbers, the
pieces open no block comment, and numbers open nothing. Only one body has braces of its own.
-/

namespace KernelLink

/-- A piece of a line: it is left in code, and no brace is in it. -/
def IsChunk (s : String) : Prop :=
  Comment.after .code s.toList = .code ∧ '\x7b' ∉ s.toList ∧ '\x7d' ∉ s.toList

instance (s : String) : Decidable (IsChunk s) := inferInstanceAs (Decidable (_ ∧ _))

namespace IsChunk

variable {s t : String}

theorem append (hs : IsChunk s) (ht : IsChunk t) : IsChunk (s ++ t) := by
  obtain ⟨hcode, hopen, hclose⟩ := hs
  obtain ⟨hcode', hopen', hclose'⟩ := ht
  unfold IsChunk
  rw [String.toList_append, Comment.after_append, hcode]
  exact ⟨hcode', by simp [hopen, hopen'], by simp [hclose, hclose']⟩

/-- A text that is given by its characters is read off them. -/
theorem ofList {cs : List Char}
    (h : Comment.after .code cs = .code ∧ '\x7b' ∉ cs ∧ '\x7d' ∉ cs) :
    IsChunk (String.ofList cs) := by
  unfold IsChunk
  rw [String.toList_ofList]
  exact h

theorem of_isNumberChar (h : ∀ c ∈ s.toList, isNumberChar c) : IsChunk s := by
  have hnot : ∀ c, isNumberChar c = false → c ∉ s.toList := by
    intro c hc hmem
    have hnumber := h c hmem
    rw [hc] at hnumber
    cases hnumber
  exact ⟨after_of_no_slash (hnot '/' (by decide)), hnot '\x7b' (by decide), hnot '\x7d' (by decide)⟩

theorem toString (n : Nat) : IsChunk (toString n) :=
  .of_isNumberChar fun _ hc => isNumberChar_of_isDigit (isDigit_of_mem_toString hc)

theorem literalText (x : Double) : IsChunk x.literalText :=
  .of_isNumberChar (FloatStyle.isNumberChar_text _ _ _)

theorem spelling (e : Element) : IsChunk e.spelling := by
  cases e <;> decide

theorem literal (e : Element) (x : Double) : IsChunk (e.literal x) := by
  cases e with
  | f32 => exact (literalText x).append (by decide)
  | f16 => exact (literalText x).append (by decide)
  | i32 => exact .of_isNumberChar (isNumberChar_toString_int _)
  | u32 => exact (IsChunk.of_isNumberChar (isNumberChar_toString_int _)).append (by decide)

end IsChunk

/-- A line that a newline brings back to code, without braces. -/
def IsLine (s : String) : Prop :=
  ClosesComments s.toList ∧ '\x7b' ∉ s.toList ∧ '\x7d' ∉ s.toList

theorem IsChunk.isLine {s : String} (h : IsChunk s) : IsLine s :=
  ⟨fun star => by rw [h.1]; exact nofun, h.2⟩

theorem IsLine.ofList {cs : List Char} (h : ClosesComments cs ∧ '\x7b' ∉ cs ∧ '\x7d' ∉ cs) :
    IsLine (String.ofList cs) := by
  unfold IsLine
  rw [String.toList_ofList]
  exact h

theorem IsLine.append_line {s t : String} (hs : IsLine s) (ht : IsLine t) :
    IsLine (s ++ "\n" ++ t) := by
  obtain ⟨hcloses, hopen, hclose⟩ := hs
  obtain ⟨hcloses', hopen', hclose'⟩ := ht
  have htext : (s ++ "\n" ++ t).toList = (s.toList ++ ['\n']) ++ t.toList := by
    rw [String.toList_append, String.toList_append]; rfl
  unfold IsLine ClosesComments
  rw [htext, Comment.after_append, after_line hcloses]
  exact ⟨hcloses', by simp [hopen, hopen'], by simp [hclose, hclose']⟩

theorem isLine_linesOf {lines : List String} (h : ∀ line ∈ lines, IsLine line) :
    IsLine (linesOf lines) := by
  unfold linesOf
  induction lines with
  | nil => exact IsChunk.isLine (by decide)
  | cons line lines ih =>
    obtain ⟨hline, hlines⟩ := List.forall_mem_cons.mp h
    cases lines with
    | nil =>
      rw [String.intercalate_singleton]
      exact hline
    | cons next lines =>
      rw [String.intercalate_cons_cons]
      exact hline.append_line (ih hlines)

/-- Without braces there is nothing to balance. -/
theorem IsLine.balanced {s : String} (h : IsLine s) :
    Balanced '\x7b' '\x7d' (stripComments s.toList) := by
  obtain ⟨-, hopen, hclose⟩ := h
  have hnot : ∀ c, c ≠ '/' → c ≠ ' ' → c ∉ s.toList → c ∉ stripComments s.toList := by
    intro c hslash hspace hc hm
    rcases mem_strip hm with h | h | h
    · exact hslash h
    · exact hspace h
    · exact hc h
  exact .of_not_mem (hnot _ (by decide) (by decide) hopen) (hnot _ (by decide) (by decide) hclose)

theorem IsLine.isBody {s : String} (h : IsLine s) : IsBody s := ⟨h.1, h.balanced⟩

/-- One block, and something before it. -/
theorem isBody_block {s t : String} (hs : IsChunk s) (ht : IsChunk t) :
    IsBody (s ++ "\x7b" ++ t ++ "\x7d") := by
  have htext : (s ++ "\x7b" ++ t ++ "\x7d").toList =
      s.toList ++ (['\x7b'] ++ (t.toList ++ ['\x7d'])) := by
    simp [String.toList_append]
  have hopen : Comment.after .code ['\x7b'] = .code := rfl
  have hcode : Comment.after .code (s.toList ++ (['\x7b'] ++ (t.toList ++ ['\x7d']))) = .code := by
    rw [Comment.after_append, hs.1, Comment.after_append, hopen, Comment.after_append, ht.1]
    rfl
  constructor
  · intro star
    rw [htext, hcode]
    exact nofun
  · rw [htext, stripComments_append hs.1, stripComments_append hopen, stripComments_append ht.1]
    exact hs.isLine.balanced.append (ht.isLine.balanced.enclosed (by decide))

theorem isBody_linesOf {lines : List String} (h : ∀ line ∈ lines, IsLine line) :
    IsBody (linesOf lines) :=
  (isLine_linesOf h).isBody

/-! ## Kernels -/

theorem isBody_reverseBody (tile : Nat) {callee : String} (hcallee : IsChunk callee) :
    IsBody (reverseBody tile callee) := by
  have hn : IsChunk (toString tile) := .toString tile
  refine isBody_linesOf ?_
  simp only [List.forall_mem_cons]
  refine ⟨?_, ?_, ?_, ?_, ?_, ?_, ?_, ?_, ?_, ?_, ?_, nofun⟩
  all_goals
    refine IsChunk.isLine ?_
    repeat' with_reducible first | exact hn | exact hcallee | refine IsChunk.append ?_ ?_
    all_goals exact .ofList (by decide)

theorem isBody_roundtripBody (rows cols tileCols : Nat) {callee : String}
    (hcallee : IsChunk callee) : IsBody (roundtripBody rows cols tileCols callee) := by
  have hr : IsChunk (toString rows) := .toString rows
  have hc : IsChunk (toString cols) := .toString cols
  have ht : IsChunk (toString tileCols) := .toString tileCols
  have hn : IsChunk (toString (Size.wrap (rows * tileCols))) := .toString _
  refine isBody_linesOf ?_
  simp only [List.forall_mem_cons]
  refine ⟨?_, ?_, ?_, ?_, ?_, ?_, ?_, ?_, ?_, ?_, ?_, ?_, ?_, ?_, ?_, ?_, ?_, ?_, ?_, nofun⟩
  all_goals
    refine IsChunk.isLine ?_
    repeat' with_reducible first
      | exact hr | exact hc | exact ht | exact hn | exact hcallee | refine IsChunk.append ?_ ?_
    all_goals exact .ofList (by decide)

theorem isBody_gemmBody (tile : Nat) {callee : String} (hcallee : IsChunk callee) :
    IsBody (gemmBody tile callee) := by
  have hn : IsChunk (toString tile) := .toString tile
  refine isBody_linesOf ?_
  simp only [List.forall_mem_cons]
  refine ⟨?_, ?_, ?_, ?_, ?_, ?_, ?_, ?_, ?_, ?_, ?_, ?_, ?_, ?_, ?_, ?_, ?_, ?_, nofun⟩
  all_goals
    refine IsChunk.isLine ?_
    repeat' with_reducible first | exact hn | exact hcallee | refine IsChunk.append ?_ ?_
    all_goals exact .ofList (by decide)

/-- The only body with a comment of its own: its line ends in the comment, not in code. -/
theorem isBody_asyncCopyBody (elements : Nat) (element : Element) (scale : Double) :
    IsBody (asyncCopyBody elements element scale) := by
  have hn : IsChunk (toString elements) := .toString elements
  have ht : IsChunk element.spelling := .spelling element
  have hs : IsChunk (element.literal scale) := .literal element scale
  refine isBody_linesOf ?_
  simp only [List.forall_mem_cons]
  refine ⟨?_, ?_, .ofList ⟨by unfold ClosesComments; decide, by decide⟩,
    ?_, ?_, ?_, ?_, ?_, ?_, ?_, ?_, ?_, nofun⟩
  all_goals
    refine IsChunk.isLine ?_
    repeat' with_reducible first
      | exact hn | exact ht | exact hs | refine IsChunk.append ?_ ?_
    all_goals exact .ofList (by decide)

/-! ## Visible functions -/

theorem isBody_transformBody (t : Transform) : IsBody t.body := by
  have hs : IsChunk t.scale.literalText := .of_isNumberChar (FloatStyle.isNumberChar_text _ _ _)
  have hb : IsChunk t.bias.literalText := .of_isNumberChar (FloatStyle.isNumberChar_text _ _ _)
  refine (IsChunk.isLine ?_).isBody
  unfold Transform.body
  repeat' with_reducible first | exact hs | exact hb | refine IsChunk.append ?_ ?_
  all_goals exact .ofList (by decide)

theorem isBody_variantBody (v : Variant) : IsBody v.body := by
  have hexpression : IsChunk v.expression := by
    cases v <;> (unfold Variant.expression; exact .ofList (by decide))
  refine (IsChunk.isLine ?_).isBody
  exact IsChunk.append (.append (.ofList (by decide)) hexpression) (.ofList (by decide))

theorem isBody_tileScalingBody (p : TileScaling) : IsBody p.body := by
  have hn : IsChunk (toString p.lanes) := .toString p.lanes
  have hs : IsChunk p.scale.literalText := .of_isNumberChar (FloatStyle.isNumberChar_text _ _ _)
  have hbody : p.body = ("  if (simd_lane < " ++ toString p.lanes ++ ") ") ++ "\x7b" ++
      ("\n    tg[simd_lane] *= " ++ p.scale.literalText ++ "f;\n  ") ++ "\x7d" := by
    rw [← String.toList_inj]
    simp [TileScaling.body, linesOf, String.toList_append]
  rw [hbody]
  refine isBody_block ?_ ?_
  all_goals
    repeat' with_reducible first | exact hn | exact hs | refine IsChunk.append ?_ ?_
    all_goals exact .ofList (by decide)

end KernelLink
