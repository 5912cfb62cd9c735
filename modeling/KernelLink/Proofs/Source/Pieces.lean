import KernelLink.Proofs.Source.Fragment

/-!
# Scanning undoes composing

Whatever is asked for, in whatever order, the scanner gives it back: the declarations of each kind
in the order in which they were pushed, with the signatures that they were declared with and with
bodies that differ in layout and comments alone.
-/

namespace KernelLink

/-- One fragment, as what it is written for. -/
inductive Piece where
  | preamble
  | events1d
  | events2d
  | prototype (d : Declaration)
  | definition (d : Declaration) (body : String)
  | kernel (name : String) (buffers : List BufferParam) (body : String)

namespace Piece

def fragment : Piece → Fragment
  | preamble => preambleFragment
  | events1d => eventsFragment1d
  | events2d => eventsFragment2d
  | prototype d => d.importFragment
  | definition d body => d.definitionFragment body
  | kernel name buffers body => kernelFragment name buffers body

/-- Names are identifiers, types are declared types, and bodies can stand between braces. -/
def WellFormed : Piece → Prop
  | prototype d => d.WellFormed
  | definition d body => d.WellFormed ∧ IsBody body
  | kernel name buffers body =>
    isIdentifier name.toList ∧ (∀ b ∈ buffers, isIdentifier b.name.toList) ∧ IsBody body
  | _ => True

def prototype? : Piece → Option Declaration
  | prototype d => some d
  | _ => none

def definition? : Piece → Option (Declaration × String)
  | definition d body => some (d, body)
  | _ => none

def kernel? : Piece → Option (String × String)
  | kernel name _ body => some (name, body)
  | _ => none

def isEvents : Piece → Bool
  | events1d => true
  | events2d => true
  | _ => false

/-- The declarations that the scanner finds. -/
def items : Piece → List ScannedItem
  | preamble => []
  | events1d => [copySymbol1d, waitSymbol]
  | events2d => [copySymbol1d, waitSymbol, copyInSymbol2d, copyOutSymbol2d]
  | prototype d => [.visiblePrototype d.signature]
  | definition d body => [.visibleDefinition ⟨d.signature, scannedBody body⟩]
  | kernel name _ body => [.kernel ⟨⟨"void", name, []⟩, scannedBody body⟩]

theorem toList_eventsFragment2d : eventsFragment2d.text.toList =
    (KernelLink.events1d.toList ++ ['\n']) ++ KernelLink.events2d.toList := by
  unfold eventsFragment2d
  rw [String.toList_append, String.toList_append]
  rfl

theorem endsLine (p : Piece) : EndsLine p.fragment.text.toList := by
  cases p with
  | events2d =>
    rw [show events2d.fragment.text.toList = _ from toList_eventsFragment2d]
    exact (endsLine_ended _).append _
  | _ => exact endsLine_ended _

/-- Every piece scans to what it was written for. -/
theorem scansTo {p : Piece} (h : p.WellFormed) : ScansTo p.fragment.text.toList p.items := by
  cases p with
  | preamble => exact scansTo_preamble
  | events1d => exact scansTo_events1d
  | events2d =>
    rw [show events2d.fragment.text.toList = _ from toList_eventsFragment2d]
    exact (scansTo_events1d.append .newline).append scansTo_events2d
  | prototype d => exact Declaration.WellFormed.scansTo_import h
  | definition d body => exact h.1.spelled.scansTo_definition h.2
  | kernel name buffers body => exact scansTo_kernelFragment h.1 h.2.1 h.2.2

/-! ## The scan of a list of pieces -/

variable {pieces : List Piece}

/-- What a composed text scans to. -/
def scanned (pieces : List Piece) : ScannedSource :=
  .ofItems ((inKindOrder fragment pieces).flatMap items)

theorem scanSource_eq_scanned (h : ∀ p ∈ pieces, p.WellFormed) :
    scanSource (composedText (pieces.map fragment)) = .ok (scanned pieces) :=
  scanSource_composedText fun p hp => by
    rw [closeLine_of_endsLine p.endsLine]
    exact scansTo (h p hp)

/-- What is selected of the items of one kind is selected in the order of pushing. -/
theorem filterMap_items {α β : Type} {select : ScannedItem → Option β} {asked : Piece → Option α}
    {given : α → β} (kind : FragmentKind) (hkind : ∀ p, p.fragment.kind ≠ kind → asked p = none)
    (hitems : ∀ p : Piece, p.items.filterMap select = ((asked p).map given).toList) :
    ((inKindOrder fragment pieces).flatMap items).filterMap select =
      (pieces.filterMap asked).map given := by
  rw [List.filterMap_flatMap, flatMap_inKindOrder kind, List.map_filterMap,
    List.filterMap_eq_flatMap_toList]
  · exact List.flatMap_congr fun p _ => hitems p
  · -- other kinds contribute nothing to what is selected
    intro p _ hp
    rw [hitems, hkind p hp]
    rfl

theorem imports_scanned (pieces : List Piece) :
    (scanned pieces).imports = (pieces.filterMap prototype?).map (·.signature) := by
  refine filterMap_items .imports (fun p hp => ?_) fun p => by cases p <;> rfl
  cases p with
  | prototype d => exact absurd rfl hp
  | _ => rfl

theorem exports_scanned (pieces : List Piece) : (scanned pieces).exports =
    (pieces.filterMap definition?).map fun d => ⟨d.1.signature, scannedBody d.2⟩ := by
  refine filterMap_items .definitions (fun p hp => ?_) fun p => by cases p <;> rfl
  cases p with
  | definition d body => exact absurd rfl hp
  | _ => rfl

theorem kernels_scanned (pieces : List Piece) : (scanned pieces).kernels =
    (pieces.filterMap kernel?).map fun k => ⟨⟨"void", k.1, []⟩, scannedBody k.2⟩ := by
  refine filterMap_items .kernel (fun p hp => ?_) fun p => by cases p <;> rfl
  cases p with
  | kernel name buffers body => exact absurd rfl hp
  | _ => rfl

theorem intrinsics_scanned_ne_nil_iff :
    (scanned pieces).intrinsics ≠ [] ↔ ∃ p ∈ pieces, p.isEvents := by
  unfold scanned ScannedSource.ofItems
  dsimp only
  rw [List.filterMap_flatMap, ne_eq, List.flatMap_eq_nil_iff, not_forall]
  simp only [mem_inKindOrder_iff, exists_prop, not_forall]
  refine exists_congr fun p => and_congr_right fun _ => ?_
  cases p <;> simp [items, isEvents, copySymbol1d, waitSymbol, copyInSymbol2d, copyOutSymbol2d]

/-- **Scanning undoes composing.** -/
theorem scanSource_undoes_composing (h : ∀ p ∈ pieces, p.WellFormed) :
    ∃ s, scanSource (composedText (pieces.map fragment)) = .ok s ∧
      s.imports = (pieces.filterMap prototype?).map (·.signature) ∧
      s.exports.map (fun f => (f.signature, normalizeBody f.body)) =
        (pieces.filterMap definition?).map (fun d => (d.1.signature, normalizeBody d.2)) ∧
      s.kernels.map (fun f => (f.signature, normalizeBody f.body)) =
        (pieces.filterMap kernel?).map (fun k => (⟨"void", k.1, []⟩, normalizeBody k.2)) ∧
      (s.intrinsics ≠ [] ↔ ∃ p ∈ pieces, p.isEvents) := by
  refine ⟨_, scanSource_eq_scanned h, imports_scanned pieces, ?_, ?_,
    intrinsics_scanned_ne_nil_iff⟩
  · rw [exports_scanned, List.map_map]
    exact List.map_congr_left fun d _ => Prod.ext rfl (normalizeBody_stripped d.2)
  · rw [kernels_scanned, List.map_map]
    exact List.map_congr_left fun k _ => Prod.ext rfl (normalizeBody_stripped k.2)

/-- A kernel, a definition and an import pushed in the wrong order; a comment holds a brace. -/
theorem scanSource_undoes_composing_shuffled :
    let d : Declaration := ⟨"float", "f", [⟨"threadgroup  float *", "x"⟩]⟩
    let pieces : List Piece := [kernel "k" [⟨"src", .f32, .read, 0⟩] " f(src); // \x7d",
      definition d "\treturn x[0];", preamble, prototype d]
    (∀ p ∈ pieces, p.WellFormed) ∧
      ∃ s, scanSource (composedText (pieces.map fragment)) = .ok s ∧
        s.imports = [⟨"float", "f", ["threadgroup float*"]⟩] ∧
        s.exports.map (fun f => (f.signature, normalizeBody f.body)) =
          [(⟨"float", "f", ["threadgroup float*"]⟩, "return x[0];")] ∧
        s.kernels.map (fun f => (f.signature, normalizeBody f.body)) =
          [(⟨"void", "k", []⟩, "f(src);")] ∧
        s.intrinsics = [] := by
  intro d pieces
  have hd : d.WellFormed := by
    refine ⟨⟨[], "float".toList, [], by decide, by decide, by decide, by decide⟩, by decide, ?_,
      by decide, by decide⟩
    exact List.forall_mem_singleton.mpr
      ⟨["threadgroup".toList], "float".toList, [['*']], by decide, by decide, by decide, by decide⟩
  have hkernel : IsBody " f(src); // \x7d" :=
    ⟨by unfold ClosesComments; decide, .of_not_mem (by decide) (by decide)⟩
  have hbody : IsBody "\treturn x[0];" :=
    ⟨by unfold ClosesComments; decide, .of_not_mem (by decide) (by decide)⟩
  have hwf : ∀ p ∈ pieces, p.WellFormed := by
    simp only [pieces, List.forall_mem_cons]
    exact ⟨⟨by decide, by decide, hkernel⟩, ⟨hd, hbody⟩, trivial, hd, nofun⟩
  obtain ⟨s, hs, himports, hexports, hkernels, hintrinsics⟩ := scanSource_undoes_composing hwf
  refine ⟨hwf, s, hs, himports.trans (by decide), hexports.trans (by decide),
    hkernels.trans (by decide), ?_⟩
  by_contra hne
  exact absurd (hintrinsics.mp hne) (by decide)

end Piece

end KernelLink
