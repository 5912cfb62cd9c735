import KernelLink.Proofs.Source.Compose
import Mathlib.Data.List.Pairwise

/-!
# How fragments are arranged

A composed text can be told in three ways. It is written fragment by fragment, in the order of a
stable sort by kind: a blank line goes in front of every fragment but the first, and a newline
behind every fragment that has none at its end. It is the fragments' lines with one more newline
between neighbours. And it is a function of what was pushed of each kind, because no two lists that
are sorted by kind have the same fragments of each kind in the same order.
-/

namespace KernelLink

/-! ## Sorting by kind -/

/-- The place of a kind among the kinds. -/
def FragmentKind.rank : FragmentKind → Nat
  | preamble => 0
  | intrinsics => 1
  | imports => 2
  | definitions => 3
  | kernel => 4

theorem FragmentKind.rank_injective : Function.Injective rank := by
  intro k k' h
  cases k <;> cases k' <;> first | rfl | cases h

/-- No fragment stands behind one of a later kind. -/
def SortedByKind (fragments : List Fragment) : Prop :=
  fragments.Pairwise fun f g => f.kind.rank ≤ g.kind.rank

/-- Both have the same fragments of each kind in the same order. -/
def SameOfEachKind (fragments fragments' : List Fragment) : Prop :=
  ∀ kind, fragments.filter (·.kind = kind) = fragments'.filter (·.kind = kind)

section

variable {fragments fragments' : List Fragment}

theorem SameOfEachKind.mem_iff (h : SameOfEachKind fragments fragments') {f : Fragment} :
    f ∈ fragments ↔ f ∈ fragments' := by
  have hf := congrArg (f ∈ ·) (h f.kind)
  simpa using hf

theorem SameOfEachKind.tail {f : Fragment}
    (h : SameOfEachKind (f :: fragments) (f :: fragments')) :
    SameOfEachKind fragments fragments' := by
  intro kind
  have hkind := h kind
  rw [List.filter_cons, List.filter_cons] at hkind
  split at hkind
  · exact (List.cons.inj hkind).2
  · exact hkind

/-- **There is one way to sort by kind and leave each kind as it is.** -/
theorem SortedByKind.unique (h : SortedByKind fragments) (h' : SortedByKind fragments')
    (hsame : SameOfEachKind fragments fragments') : fragments = fragments' := by
  induction fragments generalizing fragments' with
  | nil =>
    refine (List.eq_nil_iff_forall_not_mem.mpr fun f hf => ?_).symm
    cases hsame.mem_iff.mpr hf
  | cons f fragments ih =>
    cases fragments' with
    | nil => cases hsame.mem_iff.mp List.mem_cons_self
    | cons g fragments' =>
      obtain ⟨hf, htail⟩ := List.pairwise_cons.mp h
      obtain ⟨hg, htail'⟩ := List.pairwise_cons.mp h'
      -- each is among the others, so neither kind comes after the other
      have hfirst : ∀ {a b : Fragment} {l : List Fragment},
          (∀ c ∈ l, a.kind.rank ≤ c.kind.rank) → b ∈ a :: l → a.kind.rank ≤ b.kind.rank :=
        fun hl hb => (List.mem_cons.mp hb).elim (fun he => he ▸ Nat.le_refl _) (hl _)
      have hkind : f.kind = g.kind := FragmentKind.rank_injective (Nat.le_antisymm
        (hfirst hf (hsame.mem_iff.mpr List.mem_cons_self))
        (hfirst hg (hsame.mem_iff.mp List.mem_cons_self)))
      have hheads := hsame f.kind
      rw [List.filter_cons, if_pos (decide_eq_true rfl), List.filter_cons,
        if_pos (decide_eq_true hkind.symm)] at hheads
      obtain rfl : f = g := (List.cons.inj hheads).1
      rw [ih htail htail' hsame.tail]

end

section

variable (fragments : List Fragment)

/-- The fragments sorted by kind, and otherwise as they were pushed. -/
def stablySorted : List Fragment :=
  fragments.mergeSort fun f g => decide (f.kind.rank ≤ g.kind.rank)

private theorem rank_le_trans (f g h : Fragment) :
    decide (f.kind.rank ≤ g.kind.rank) → decide (g.kind.rank ≤ h.kind.rank) →
      decide (f.kind.rank ≤ h.kind.rank) := by
  simp only [decide_eq_true_eq]
  exact Nat.le_trans

private theorem rank_le_total (f g : Fragment) :
    decide (f.kind.rank ≤ g.kind.rank) || decide (g.kind.rank ≤ f.kind.rank) := by
  simp only [Bool.or_eq_true, decide_eq_true_eq]
  exact Nat.le_total _ _

theorem sortedByKind_stablySorted : SortedByKind (stablySorted fragments) :=
  (List.pairwise_mergeSort rank_le_trans rank_le_total fragments).imp of_decide_eq_true

/-- Sorting takes nothing out of the order within a kind. -/
theorem sameOfEachKind_stablySorted : SameOfEachKind (stablySorted fragments) fragments := by
  intro kind
  have hkinds : ∀ f ∈ fragments.filter (·.kind = kind), f.kind = kind := fun f hf =>
    of_decide_eq_true (List.mem_filter.mp hf).2
  have hsorted : (fragments.filter (·.kind = kind)).Pairwise
      fun f g => decide (f.kind.rank ≤ g.kind.rank) :=
    List.pairwise_of_forall_mem_list fun f hf g hg => by
      rw [hkinds f hf, hkinds g hg]
      exact decide_eq_true (Nat.le_refl _)
  have hsublist := (List.sublist_mergeSort rank_le_trans rank_le_total hsorted
    List.filter_sublist).filter (·.kind = kind)
  rw [List.filter_filter] at hsublist
  simp only [Bool.and_self] at hsublist
  exact (hsublist.eq_of_length
    ((List.mergeSort_perm fragments _).filter _).length_eq.symm).symm

theorem sortedByKind_ordered : SortedByKind (ordered fragments) := by
  have hkinds : ∀ {kind f}, f ∈ fragments.filter (·.kind = kind) → f.kind = kind := fun hf =>
    of_decide_eq_true (List.mem_filter.mp hf).2
  refine List.pairwise_flatMap.mpr ⟨fun kind _ => ?_, ?_⟩
  · refine List.pairwise_of_forall_mem_list fun f hf g hg => ?_
    rw [hkinds hf, hkinds hg]
  · have hall : FragmentKind.all.Pairwise fun k k' => k.rank ≤ k'.rank := by decide
    refine hall.imp fun {k k'} hle f hf g hg => ?_
    rwa [hkinds hf, hkinds hg]

theorem sameOfEachKind_ordered : SameOfEachKind (ordered fragments) fragments := by
  intro kind
  unfold ordered
  rw [List.filter_flatMap]
  -- of the five parts only that of the kind is left
  have hpart : ∀ kind', (fragments.filter (·.kind = kind')).filter (·.kind = kind) =
      if kind' = kind then fragments.filter (·.kind = kind) else [] := fun kind' => by
    rw [List.filter_filter]
    split
    · rename_i hk
      rw [hk]
      simp only [Bool.and_self]
    · rename_i hk
      refine List.filter_eq_nil_iff.mpr fun f _ hf => ?_
      simp only [Bool.and_eq_true, decide_eq_true_eq] at hf
      exact hk (hf.2.symm.trans hf.1)
  simp only [hpart]
  cases kind <;> simp [FragmentKind.all]

/-- **The order of composing is that of a stable sort.** -/
theorem ordered_eq_stablySorted : ordered fragments = stablySorted fragments :=
  (sortedByKind_ordered fragments).unique (sortedByKind_stablySorted fragments) fun kind =>
    (sameOfEachKind_ordered fragments kind).trans (sameOfEachKind_stablySorted fragments kind).symm

end

/-! ## Writing -/

/-- Writes one more fragment: behind a blank line, unless it is the first, and with a newline at its
end. -/
def writeFragment (written : String) (f : Fragment) : String :=
  (if written = "" then "" else written ++ "\n") ++ closeLine f.text

/-- What is written when the fragments stand in this order. -/
def layout (fragments : List Fragment) : String :=
  "\n".intercalate (fragments.map fun f => closeLine f.text)

theorem endsLine_closeLine (text : String) : EndsLine (closeLine text).toList := by
  unfold closeLine
  split
  · rename_i hlast
    exact List.getLast?_eq_some_iff.mp hlast
  · exact ⟨text.toList, String.toList_append⟩

theorem layout_cons_cons (f g : Fragment) (fragments : List Fragment) :
    layout (f :: g :: fragments) = closeLine f.text ++ "\n" ++ layout (g :: fragments) :=
  String.intercalate_cons_cons

theorem layout_append {before after : List Fragment} (hb : before ≠ []) (ha : after ≠ []) :
    layout (before ++ after) = layout before ++ "\n" ++ layout after := by
  unfold layout
  rw [List.map_append, String.intercalate_append_of_ne_nil (by simpa using hb) (by simpa using ha)]

theorem layout_singleton (f : Fragment) : layout [f] = closeLine f.text :=
  String.intercalate_singleton

/-- Whatever is written ends a line. -/
theorem endsLine_layout {fragments : List Fragment} (h : fragments ≠ []) :
    EndsLine (layout fragments).toList := by
  induction fragments with
  | nil => exact absurd rfl h
  | cons f fragments ih =>
    cases fragments with
    | nil =>
      rw [layout_singleton]
      exact endsLine_closeLine f.text
    | cons g fragments =>
      rw [layout_cons_cons, String.toList_append]
      exact (ih (List.cons_ne_nil g fragments)).append _

/-- One more fragment is one more in the layout. -/
theorem writeFragment_layout (before : List Fragment) (f : Fragment) :
    writeFragment (layout before) f = layout (before ++ [f]) := by
  unfold writeFragment
  by_cases hb : before = []
  · subst hb
    rw [if_pos (show layout [] = "" from String.intercalate_nil), List.nil_append,
      layout_singleton, String.empty_append]
  · have hwritten : layout before ≠ "" := fun h => by
      obtain ⟨front, hfront⟩ := endsLine_layout hb
      rw [h] at hfront
      exact List.append_ne_nil_of_right_ne_nil front (List.cons_ne_nil _ _) hfront.symm
    rw [if_neg hwritten, layout_append hb (List.cons_ne_nil f []), layout_singleton]

/-- **Fragments that are written one after the other are laid out one after the other.** -/
theorem foldl_writeFragment (before fragments : List Fragment) :
    fragments.foldl writeFragment (layout before) = layout (before ++ fragments) := by
  induction fragments generalizing before with
  | nil => rw [List.append_nil]; rfl
  | cons f fragments ih =>
    rw [List.foldl_cons, writeFragment_layout, ih, List.append_assoc]
    rfl

/-! ## Lines -/

/-- A fragment's text with a newline at its end: the one that it has, or one that is added. -/
inductive LineOf (text : String) : String → Prop where
  | own (h : EndsLine text.toList) : LineOf text text
  | added (h : ¬EndsLine text.toList) : LineOf text (text ++ "\n")

/-- The fragments' lines, with one more newline between neighbours. -/
inductive LaidOut : List Fragment → String → Prop where
  | none : LaidOut [] ""
  | one {f line} (h : LineOf f.text line) : LaidOut [f] line
  | more {f g fragments line rest} (h : LineOf f.text line) (hrest : LaidOut (g :: fragments) rest) :
      LaidOut (f :: g :: fragments) (line ++ "\n" ++ rest)

theorem lineOf_closeLine (text : String) : LineOf text (closeLine text) := by
  by_cases h : EndsLine text.toList
  · rw [closeLine_of_endsLine h]
    exact .own h
  · have hlast : ¬text.toList.getLast? = some '\n' := fun hlast =>
      h (List.getLast?_eq_some_iff.mp hlast)
    unfold closeLine
    rw [if_neg hlast]
    exact .added h

theorem laidOut_layout (fragments : List Fragment) : LaidOut fragments (layout fragments) := by
  induction fragments with
  | nil => exact .none
  | cons f fragments ih =>
    cases fragments with
    | nil =>
      rw [layout_singleton]
      exact .one (lineOf_closeLine f.text)
    | cons g fragments =>
      rw [layout_cons_cons]
      exact .more (lineOf_closeLine f.text) ih

/-- Every fragment starts a line of the layout. -/
theorem exists_line_of_layout (before : List Fragment) (f : Fragment) (after : List Fragment) :
    ∃ front rest, layout (before ++ f :: after) = front ++ closeLine f.text ++ rest ∧
      (front = "" ∨ EndsLine front.toList) := by
  obtain ⟨rest, hrest⟩ : ∃ rest, layout (f :: after) = closeLine f.text ++ rest := by
    cases after with
    | nil => exact ⟨"", by rw [layout_singleton, String.append_empty]⟩
    | cons g after => exact ⟨_, (layout_cons_cons f g after).trans String.append_assoc⟩
  by_cases hb : before = []
  · subst hb
    exact ⟨"", rest, by rw [List.nil_append, hrest, String.empty_append], .inl rfl⟩
  · refine ⟨layout before ++ "\n", rest, ?_, .inr ⟨_, String.toList_append⟩⟩
    rw [layout_append hb (List.cons_ne_nil f after), hrest, ← String.append_assoc]

theorem SameOfEachKind.ordered_eq {fragments fragments' : List Fragment}
    (h : SameOfEachKind fragments fragments') : ordered fragments = ordered fragments' :=
  congrArg FragmentKind.all.flatMap (funext h)

/-- **A composed text depends on the order within each kind only**, and is made of its fragments'
lines. -/
theorem composing_by_kind (label : String) (params : SourceParams) (fragments : List Fragment) :
    let source := compose label params fragments
    let written := stablySorted fragments
    SortedByKind written ∧ SameOfEachKind written fragments ∧
    source.text = written.foldl writeFragment "" ∧
    LaidOut written source.text ∧
    (∀ before f after, written = before ++ f :: after →
      ∃ front line rest, source.text = front ++ line ++ rest ∧ LineOf f.text line ∧
        (front = "" ∨ EndsLine front.toList) ∧ EndsLine line.toList) ∧
    ∀ fragments', SameOfEachKind fragments fragments' →
      compose label params fragments' = source := by
  intro source written
  have htext : source.text = layout written := by
    show layout (ordered fragments) = _
    rw [ordered_eq_stablySorted]
  refine ⟨sortedByKind_stablySorted fragments, sameOfEachKind_stablySorted fragments, ?_,
    htext ▸ laidOut_layout written, fun before f after hwritten => ?_, fun fragments' hsame => ?_⟩
  · rw [htext]
    exact (foldl_writeFragment [] written).symm
  · obtain ⟨front, rest, hplace, hfront⟩ := exists_line_of_layout before f after
    exact ⟨front, closeLine f.text, rest, by rw [htext, hwritten, hplace],
      lineOf_closeLine f.text, hfront, endsLine_closeLine f.text⟩
  · show KernelSource.mk label (layout (ordered fragments')) params = _
    rw [← hsame.ordered_eq]
    rfl

/-- A kernel that is pushed before what it needs, or between. -/
theorem composing_by_kind_interleaved :
    let kernel : Fragment := ⟨.kernel, "kernel void k() \x7b\x7d"⟩
    let first : Fragment := ⟨.definitions, "int a;\n"⟩
    let second : Fragment := ⟨.definitions, ""⟩
    SameOfEachKind [kernel, first, second] [first, kernel, second] ∧
      (compose "k" .standard [first, kernel, second]).text =
        (compose "k" .standard [kernel, first, second]).text ∧
      (compose "k" .standard [kernel, first, second]).text =
        "int a;\n\n\n\nkernel void k() \x7b\x7d\n" := by
  intro kernel first second
  have hsame : SameOfEachKind [kernel, first, second] [first, kernel, second] := by
    intro kind
    cases kind <;> rfl
  obtain ⟨-, -, -, -, -, hdepends⟩ := composing_by_kind "k" .standard [kernel, first, second]
  exact ⟨hsame, congrArg KernelSource.text (hdepends _ hsame), by decide⟩

end KernelLink
