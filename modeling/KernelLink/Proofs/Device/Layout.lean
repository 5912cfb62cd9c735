import KernelLink.Proofs.Device.Compilation
import KernelLink.Proofs.Source.Layout

/-!
# Libraries do not see layout

A registry finds behaviours by normalized bodies, and normalizing is done once for all layouts of a
body. What lowering asks of a scanned text besides is its names, its signatures and its imports, so
declarations that are the same but for layout have one library. Compiling and loading add conditions
of their own, and these only ask whether there are intrinsics or functions at all.
-/

namespace KernelLink

/-! ## Lowering -/

theorem find?_layoutFree (r : Registry Emulation) (name : String) (f : ScannedFunction) :
    r.find? name f.layoutFree.body = r.find? name f.body := by
  unfold Registry.find? FunctionKey.of
  exact congrArg (fun body => r.get? ⟨name, body⟩) (normalizeBody_normalizeBody f.body)

theorem bindKernel_layoutFree (r : Registry Emulation) (f : ScannedFunction) :
    r.bindKernel f.layoutFree = r.bindKernel f := by
  unfold Registry.bindKernel
  rw [find?_layoutFree]
  rfl

theorem bindExport_layoutFree (r : Registry Emulation) (f : ScannedFunction) :
    r.bindExport f.layoutFree = r.bindExport f := by
  unfold Registry.bindExport
  rw [find?_layoutFree]
  rfl

/-- Functions keep their names without layout, so they are bound in order as before. -/
theorem bindInOrder_layoutFree {β : Type} {behaviour : ScannedFunction → Except LowerFault β}
    (h : ∀ f, behaviour f.layoutFree = behaviour f) (seen : List String)
    (fs : List ScannedFunction) :
    bindInOrder behaviour seen (fs.map ScannedFunction.layoutFree) =
      bindInOrder behaviour seen fs := by
  induction fs generalizing seen with
  | nil => rfl
  | cons f fs ih =>
    have hname : f.layoutFree.name = f.name := rfl
    rw [List.map_cons, bindInOrder, bindInOrder, hname, h, ih]

/-- So functions that are the same without layout are bound alike. -/
theorem bindInOrder_eq_of_layoutFree {β : Type}
    {behaviour : ScannedFunction → Except LowerFault β}
    (h : ∀ f, behaviour f.layoutFree = behaviour f) {fs gs : List ScannedFunction}
    (hsame : fs.map ScannedFunction.layoutFree = gs.map ScannedFunction.layoutFree)
    (seen : List String) : bindInOrder behaviour seen fs = bindInOrder behaviour seen gs := by
  rw [← bindInOrder_layoutFree h, hsame, bindInOrder_layoutFree h]

namespace ScannedSource.SameButLayout

variable {x y : ScannedSource}

theorem names (h : x.SameButLayout y) :
    x.kernels.map (·.name) = y.kernels.map (·.name) := by
  have hnames := congrArg (List.map (·.name)) h.kernels
  rwa [List.map_map, List.map_map] at hnames

/-- **Lowering gives one library, or one fault.** -/
theorem lower_eq (h : x.SameButLayout y) (r : Registry Emulation) : lower r x = lower r y := by
  have hkernels := bindInOrder_eq_of_layoutFree (bindKernel_layoutFree r) h.kernels
  have hexports := bindInOrder_eq_of_layoutFree (bindExport_layoutFree r) h.exports
  rw [KernelLink.lower_eq, KernelLink.lower_eq, hkernels, h.names, hexports, h.imports]

theorem permits (h : x.SameButLayout y) {p : IntrinsicPolicy} {version : Option LanguageVersion} :
    p.Permits version x ↔ p.Permits version y := by
  unfold IntrinsicPolicy.Permits
  rw [← List.length_pos_iff, ← List.length_pos_iff, h.intrinsics]

theorem isEmpty_eq (h : x.SameButLayout y) : x.isEmpty = y.isEmpty := by
  have hkernels := congrArg List.isEmpty h.kernels
  have hexports := congrArg List.isEmpty h.exports
  rw [List.isEmpty_map, List.isEmpty_map] at hkernels hexports
  unfold ScannedSource.isEmpty
  rw [hkernels, hexports]

end ScannedSource.SameButLayout

/-! ## Devices -/

theorem Except.toOption_eq_of_ok_iff {ε α : Type} {x y : Except ε α}
    (h : ∀ a, x = .ok a ↔ y = .ok a) : x.toOption = y.toOption := by
  cases x with
  | ok a => rw [(h a).mp rfl]
  | error e => cases y with
    | ok b => cases (h b).mpr rfl
    | error e' => rfl

/-- A condition on what is scanned that does not see layout is met by both texts or by none. -/
theorem SameOutcome.exists_ok_iff {x y : Except ScanFault ScannedSource}
    (h : SameOutcome ScannedSource.SameButLayout x y) {p : ScannedSource → Prop}
    (hp : ∀ s s', s.SameButLayout s' → (p s ↔ p s')) :
    (∃ s, x = .ok s ∧ p s) ↔ ∃ s, y = .ok s ∧ p s := by
  cases h with
  | @ok s s' hs => simp [hp s s' hs]
  | fault _ => simp

/-- **Layout changes neither what is scanned nor what is made of it.** -/
theorem layout_does_not_matter {source source' : String}
    (hfree : stripComments source.toList = source.toList)
    (hrelaid : Relaid source.toList source'.toList) :
    SameOutcome ScannedSource.SameButLayout (scanSource source) (scanSource source') ∧
    ∀ d : HostDevice,
      (∀ version, (d.compile source version).toOption = (d.compile source' version).toOption) ∧
      (d.load source.toUTF8).toOption = (d.load source'.toUTF8).toOption := by
  have hscan := hrelaid.sameOutcome (commentFree_iff.mp hfree)
  refine ⟨hscan, fun d => ⟨fun version => ?_, ?_⟩⟩
  · refine Except.toOption_eq_of_ok_iff fun l => ?_
    rw [HostDevice.compile_eq_ok_iff, HostDevice.compile_eq_ok_iff]
    exact hscan.exists_ok_iff fun s s' h => by rw [h.permits, h.lower_eq]
  · refine Except.toOption_eq_of_ok_iff fun l => ?_
    rw [HostDevice.load_toUTF8, HostDevice.load_toUTF8, HostDevice.loadText_eq_ok_iff,
      HostDevice.loadText_eq_ok_iff]
    exact hscan.exists_ok_iff fun s s' h => by rw [h.isEmpty_eq, h.lower_eq]

/-- A kernel on one line and the same kernel over several. -/
theorem layout_does_not_matter_kernel :
    stripComments "kernel void f(uint tid) { tid; }".toList =
        "kernel void f(uint tid) { tid; }".toList ∧
      Relaid "kernel void f(uint tid) { tid; }".toList
        "kernel\n\nvoid \t f(uint\ntid)\r\n\x7b\n  tid; \x7d".toList ∧
      SameOutcome ScannedSource.SameButLayout (scanSource "kernel void f(uint tid) { tid; }")
        (scanSource "kernel\n\nvoid \t f(uint\ntid)\r\n\x7b\n  tid; \x7d") := by
  have hfree : stripComments "kernel void f(uint tid) { tid; }".toList =
      "kernel void f(uint tid) { tid; }".toList := by decide
  have hrelaid : Relaid "kernel void f(uint tid) { tid; }".toList
      "kernel\n\nvoid \t f(uint\ntid)\r\n\x7b\n  tid; \x7d".toList := by decide
  exact ⟨hfree, hrelaid, (layout_does_not_matter hfree hrelaid).1⟩

end KernelLink
