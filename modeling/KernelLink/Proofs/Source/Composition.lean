import KernelLink.Proofs.Source.Compose
import KernelLink.Proofs.Source.Steps
import Mathlib.Tactic.Choose

/-!
# Fragments are scanned one by one

A composed text is its fragments with line breaks between them, and nothing that the scanner or the
comment reader begins in one fragment is finished in another: words end at a line's end, line
comments as well, and a declaration that is read at all is read up to its own last delimiter. Only a
block comment could go on. So fragments that scan on their own and close their block comments
compose to a text with the declarations of each, kind by kind, whatever the fragments are.
-/

namespace KernelLink

namespace ScannedSource

/-- The declarations of several texts, each kind in the order of the texts. -/
def concat (scans : List ScannedSource) : ScannedSource where
  kernels := scans.flatMap (·.kernels)
  exports := scans.flatMap (·.exports)
  imports := scans.flatMap (·.imports)
  intrinsics := scans.flatMap (·.intrinsics)

theorem ofItems_flatMap {α : Type} (xs : List α) (read : α → List ScannedItem) :
    ofItems (xs.flatMap read) = concat (xs.map fun x => ofItems (read x)) := by
  unfold concat ofItems
  simp only [List.filterMap_flatMap, List.flatMap_map]

end ScannedSource

/-- A text that closes its block comments does so before its last newline. -/
theorem ClosesComments.of_line {front : List Char} (h : ClosesComments (front ++ ['\n'])) :
    ClosesComments front := by
  intro star hblock
  refine h false ?_
  rw [Comment.after_append, hblock, Comment.after_cons, Comment.step, Bool.and_comm]
  rfl

/-- With its last line ended, a text that scans on its own can stand anywhere. -/
theorem ScansTo.closeLine {text : String} {items : List ScannedItem}
    (hcloses : ClosesComments text.toList)
    (h : scanItems (stripComments text.toList) 0 false (stripComments text.toList) = .ok items) :
    ScansTo (closeLine text).toList items := by
  unfold KernelLink.closeLine
  split
  · -- The newline is there already, and the scan is that of whole lines.
    rename_i hlast
    obtain ⟨front, hfront⟩ := List.getLast?_eq_some_iff.mp hlast
    rw [hfront] at hcloses h ⊢
    have hline := stripComments_line hcloses.of_line
    exact .of_scanItems (after_line hcloses.of_line) ⟨_, hline⟩ h
  · -- The newline is added, and the scan comes to its end in front of it.
    have hnewline : (text ++ "\n").toList = text.toList ++ ['\n'] := String.toList_append
    rw [hnewline]
    refine ⟨after_line hcloses, fun text' t => ?_⟩
    rw [stripComments_line hcloses, List.append_assoc, List.singleton_append,
      scanItems_append (.inr ⟨t, rfl⟩) h text', scanItems_newline]

/--
**Scanning is compositional.** Fragments that each scan, and do not end inside a block comment,
compose to a text that scans to the declarations of each, in the order in which fragments are
written: kinds in their order, and fragments of one kind as they were pushed.
-/
theorem scanSource_compose {fragments : List Fragment} {scanned : Fragment → ScannedSource}
    (hscans : ∀ f ∈ fragments, scanSource f.text = .ok (scanned f))
    (hcloses : ∀ f ∈ fragments, ClosesComments f.text.toList)
    (label : String) (params : SourceParams) :
    scanSource (compose label params fragments).text =
      .ok (.concat ((ordered fragments).map scanned)) := by
  choose! items hitems hscanned using fun f hf => exists_scanItems_of_scanSource (hscans f hf)
  have hread : ∀ f ∈ fragments, ScansTo (closeLine f.text).toList (items f) := fun f hf =>
    .closeLine (hcloses f hf) (hitems f hf)
  have hscan : scanSource (composedText (fragments.map id)) =
      .ok (.ofItems ((inKindOrder id fragments).flatMap items)) :=
    scanSource_composedText hread
  rw [List.map_id] at hscan
  have hconcat : ScannedSource.ofItems ((inKindOrder id fragments).flatMap items) =
      .concat ((ordered fragments).map scanned) := by
    rw [ScannedSource.ofItems_flatMap]
    refine congrArg _ (List.map_congr_left fun f hf => ?_)
    exact (hscanned f (mem_inKindOrder_iff.mp hf)).symm
  rw [← hconcat]
  exact hscan

/-- Texts without a newline at their end, one of them inside a line comment, pushed in another order
than they are written in. -/
theorem scanSource_compose_unended :
    let binding : Fragment := ⟨.intrinsics, "__asm(\"copy\")"⟩
    let prototype : Fragment := ⟨.imports, "[[visible]] float f(float); // of the kernel"⟩
    let kernel : Fragment := ⟨.kernel, "kernel void k(uint tid) \x7bf;\x7d /"⟩
    let scanned : Fragment → ScannedSource := fun f => match f.kind with
      | .intrinsics => ⟨[], [], [], ["copy"]⟩
      | .imports => ⟨[], [], [⟨"float", "f", ["float"]⟩], []⟩
      | _ => ⟨[⟨⟨"void", "k", []⟩, "f;"⟩], [], [], []⟩
    (∀ f ∈ [kernel, prototype, binding], scanSource f.text = .ok (scanned f)) ∧
      (∀ f ∈ [kernel, prototype, binding], ClosesComments f.text.toList) ∧
      scanSource (compose "k" .standard [kernel, prototype, binding]).text =
        .ok ⟨[⟨⟨"void", "k", []⟩, "f;"⟩], [], [⟨"float", "f", ["float"]⟩], ["copy"]⟩ := by
  intro binding prototype kernel scanned
  have hscans : ∀ f ∈ [kernel, prototype, binding], scanSource f.text = .ok (scanned f) := by
    simp only [List.forall_mem_cons]
    exact ⟨by decide +kernel, by decide +kernel, by decide +kernel, nofun⟩
  have hcloses : ∀ f ∈ [kernel, prototype, binding], ClosesComments f.text.toList := by
    unfold ClosesComments
    simp only [List.forall_mem_cons]
    exact ⟨by decide, by decide, by decide, nofun⟩
  exact ⟨hscans, hcloses, scanSource_compose hscans hcloses "k" .standard⟩

end KernelLink
