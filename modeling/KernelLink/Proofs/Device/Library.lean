import KernelLink.Device.Basic
import Mathlib.Data.List.Nodup

/-!
# What a library holds

A device makes a library out of text alone, compiled or loaded, and both ways end in lowering. So
whatever holds of a lowered library holds of every library that a device can hand out: its functions
bear the scanned names in order, no name is there twice, and each function behaves as the registry
says for its name and some body.

Kernels and visible functions are bound by one and the same walk over the scanned functions, which
only differs in what it looks for. The walk is taken out here and judged once.
-/

namespace KernelLink

/-- Where keys are distinct, a search by key finds every member. -/
theorem find?_eq_some_iff_of_nodup {α : Type} {l : List α} {key : α → String}
    (hn : (l.map key).Nodup) {k : String} {a : α} :
    l.find? (key · = k) = some a ↔ a ∈ l ∧ key a = k := by
  constructor
  · intro h
    exact ⟨List.mem_of_find?_eq_some h, by simpa using List.find?_some h⟩
  · rintro ⟨ha, hk⟩
    obtain ⟨b, hb⟩ : ∃ b, l.find? (key · = k) = some b :=
      Option.isSome_iff_exists.mp (List.find?_isSome.mpr ⟨a, ha, decide_eq_true hk⟩)
    have hkb : key b = k := by simpa using List.find?_some hb
    rw [hb, List.inj_on_of_nodup_map hn (List.mem_of_find?_eq_some hb) ha (hkb.trans hk.symm)]

theorem exists_left_of_mem {α β : Type} {R : α → β → Prop} {as : List α} {bs : List β}
    (h : List.Forall₂ R as bs) {b : β} (hb : b ∈ bs) : ∃ a ∈ as, R a b := by
  induction h with
  | nil => cases hb
  | cons hab _ ih =>
    rcases List.mem_cons.mp hb with rfl | hb
    · exact ⟨_, List.mem_cons_self, hab⟩
    · obtain ⟨a, ha, hab⟩ := ih hb
      exact ⟨a, List.mem_cons_of_mem _ ha, hab⟩

theorem exists_right_of_mem {α β : Type} {R : α → β → Prop} {as : List α} {bs : List β}
    (h : List.Forall₂ R as bs) {a : α} (ha : a ∈ as) : ∃ b ∈ bs, R a b :=
  exists_left_of_mem (List.Forall₂.flip h) ha

/-- The name of a scanned function. -/
def ScannedFunction.name (f : ScannedFunction) : String := f.signature.name

/-! ## Binding in order -/

section

variable {β : Type} {behaviour : ScannedFunction → Except LowerFault β} {seen : List String}
  {fs : List ScannedFunction} {bs : List β}

/-- Binds functions in order; `seen` holds the names defined before. -/
def bindInOrder (behaviour : ScannedFunction → Except LowerFault β) (seen : List String) :
    List ScannedFunction → Except LowerFault (List β)
  | [] => .ok []
  | f :: fs =>
    if seen.contains f.name then .error (.redefinition f.name)
    else match behaviour f with
      | .ok b => (bindInOrder behaviour (f.name :: seen) fs).map (b :: ·)
      | .error e => .error e

/-- The functions have names of their own, and none of those in `seen`. -/
structure FreshNames (seen : List String) (fs : List ScannedFunction) : Prop where
  nodup : (fs.map (·.name)).Nodup
  fresh : ∀ f ∈ fs, f.name ∉ seen

theorem FreshNames.nil (seen : List String) : FreshNames seen [] :=
  ⟨List.nodup_nil, fun _ hf => by cases hf⟩

theorem freshNames_cons_iff {f : ScannedFunction} :
    FreshNames seen (f :: fs) ↔ f.name ∉ seen ∧ FreshNames (f.name :: seen) fs := by
  constructor
  · rintro ⟨hn, hs⟩
    rw [List.map_cons, List.nodup_cons] at hn
    refine ⟨hs f List.mem_cons_self, hn.2, fun g hg hm => ?_⟩
    rcases List.mem_cons.mp hm with he | hm
    · exact hn.1 (List.mem_map.mpr ⟨g, hg, he⟩)
    · exact hs g (List.mem_cons_of_mem _ hg) hm
  · rintro ⟨hf, hn, hs⟩
    refine ⟨List.nodup_cons.mpr ⟨fun hm => ?_, hn⟩, fun g hg => ?_⟩
    · obtain ⟨g, hg, he⟩ := List.mem_map.mp hm
      exact hs g hg (he ▸ List.mem_cons_self)
    · rcases List.mem_cons.mp hg with rfl | hg
      · exact hf
      · exact fun hm => hs g hg (List.mem_cons_of_mem _ hm)

theorem bindInOrder_eq_ok_iff : bindInOrder behaviour seen fs = .ok bs ↔
    FreshNames seen fs ∧ List.Forall₂ (fun f b => behaviour f = .ok b) fs bs := by
  induction fs generalizing seen bs with
  | nil =>
    rw [List.forall₂_nil_left_iff]
    constructor
    · intro h
      cases h; exact ⟨.nil _, rfl⟩
    · rintro ⟨-, rfl⟩
      rfl
  | cons f fs ih =>
    rw [freshNames_cons_iff]
    unfold bindInOrder
    by_cases hf : f.name ∈ seen
    · rw [if_pos (List.contains_iff_mem.mpr hf)]
      exact ⟨fun h => (by cases h), fun h => absurd hf h.1.1⟩
    · rw [if_neg fun h => hf (List.contains_iff_mem.mp h)]
      constructor
      · intro h
        split at h
        · rename_i b hb
          cases hrest : bindInOrder behaviour (f.name :: seen) fs with
          | error e => rw [hrest] at h; cases h
          | ok rest =>
            rw [hrest] at h
            cases h
            obtain ⟨hfresh, hall⟩ := ih.mp hrest
            exact ⟨⟨hf, hfresh⟩, .cons hb hall⟩
        · cases h
      · rintro ⟨⟨-, hfresh⟩, hall⟩
        cases hall with
        | cons hb hrest => rw [hb, ih.mpr ⟨hfresh, hrest⟩]; rfl

end

/-! ## Kernels and visible functions -/

namespace Registry

variable (r : Registry Emulation)

/-- The kernel that a scanned kernel is bound to. -/
def bindKernel (f : ScannedFunction) : Except LowerFault LibraryKernel :=
  match r.find? f.name f.body with
  | some (.kernel k) => .ok ⟨f.name, k⟩
  | _ => .error (.unknownKernel f.name)

/-- The export that a scanned visible function is bound to. -/
def bindExport (f : ScannedFunction) : Except LowerFault LibraryExport :=
  match r.find? f.name f.body with
  | some (.callable c) => .ok ⟨f.signature, c⟩
  | _ => .error (.unknownVisible f.signature)

variable {r} {f : ScannedFunction}

theorem bindKernel_eq_ok_iff {k : LibraryKernel} : r.bindKernel f = .ok k ↔
    k.name = f.name ∧ r.find? f.name f.body = some (.kernel k.kernel) := by
  unfold bindKernel
  constructor
  · intro h
    split at h
    · rename_i k' hk
      cases h; exact ⟨rfl, hk⟩
    · cases h
  · rintro ⟨hn, hk⟩
    rw [hk]
    dsimp only
    rw [← hn]

theorem bindExport_eq_ok_iff {e : LibraryExport} : r.bindExport f = .ok e ↔
    e.signature = f.signature ∧ r.find? f.name f.body = some (.callable e.callable) := by
  unfold bindExport
  constructor
  · intro h
    split at h
    · rename_i c hc
      cases h; exact ⟨rfl, hc⟩
    · cases h
  · rintro ⟨hs, hc⟩
    rw [hc]
    dsimp only
    rw [← hs]

end Registry

variable {r : Registry Emulation} {s : ScannedSource} {l : Library}

theorem lowerKernels_eq_bindInOrder (seen : List String) (fs : List ScannedFunction) :
    lowerKernels r seen fs = bindInOrder r.bindKernel seen fs := by
  induction fs generalizing seen with
  | nil => rfl
  | cons f fs ih =>
    unfold lowerKernels bindInOrder
    dsimp only
    rw [ih]
    unfold Registry.bindKernel ScannedFunction.name
    cases r.find? f.signature.name f.body with
    | none => rfl
    | some e => cases e <;> rfl

theorem lowerExports_eq_bindInOrder (seen : List String) (fs : List ScannedFunction) :
    lowerExports r seen fs = bindInOrder r.bindExport seen fs := by
  induction fs generalizing seen with
  | nil => rfl
  | cons f fs ih =>
    unfold lowerExports bindInOrder
    dsimp only
    rw [ih]
    unfold Registry.bindExport ScannedFunction.name
    cases r.find? f.signature.name f.body with
    | none => rfl
    | some e => cases e <;> rfl

theorem lower_eq : lower r s =
    match bindInOrder r.bindKernel [] s.kernels with
    | .error e => .error e
    | .ok ks =>
      match bindInOrder r.bindExport (s.kernels.map (·.name)) s.exports with
      | .error e => .error e
      | .ok es => .ok ⟨ks, es, s.imports⟩ := by
  unfold lower
  rw [lowerKernels_eq_bindInOrder, lowerExports_eq_bindInOrder]
  cases bindInOrder r.bindKernel [] s.kernels with
  | error e => rfl
  | ok ks =>
    show (bindInOrder r.bindExport (s.kernels.map (·.name)) s.exports >>= fun es =>
      (.ok ⟨ks, es, s.imports⟩ : Except LowerFault Library)) = _
    cases bindInOrder r.bindExport (s.kernels.map (·.name)) s.exports <;> rfl

/-- Names are distinct when each walk meets none twice and the second none of the first. -/
theorem functionNames_nodup_iff : s.functionNames.Nodup ↔
    FreshNames [] s.kernels ∧ FreshNames (s.kernels.map (·.name)) s.exports := by
  have hnames : s.functionNames = s.kernels.map (·.name) ++ s.exports.map (·.name) :=
    List.map_append
  rw [hnames, List.nodup_append]
  constructor
  · rintro ⟨hk, he, hd⟩
    exact ⟨⟨hk, fun _ _ => List.not_mem_nil⟩, he,
      fun f hf hm => hd _ hm _ (List.mem_map.mpr ⟨f, hf, rfl⟩) rfl⟩
  · rintro ⟨hk, he⟩
    refine ⟨hk.nodup, he.nodup, fun a ha b hb hab => ?_⟩
    obtain ⟨f, hf, rfl⟩ := List.mem_map.mp hb
    exact he.fresh f hf (hab ▸ ha)

/-- **What lowering asks for, and what it gives.** -/
theorem lower_eq_ok_iff : lower r s = .ok l ↔
    s.functionNames.Nodup ∧
      List.Forall₂ (fun f k => r.bindKernel f = .ok k) s.kernels l.kernels ∧
      List.Forall₂ (fun f e => r.bindExport f = .ok e) s.exports l.exports ∧
      l.imports = s.imports := by
  rw [functionNames_nodup_iff, lower_eq]
  constructor
  · intro h
    split at h
    · cases h
    · rename_i ks hks
      split at h
      · cases h
      · rename_i es hes
        cases h
        obtain ⟨hf, hb⟩ := bindInOrder_eq_ok_iff.mp hks
        obtain ⟨hf', hb'⟩ := bindInOrder_eq_ok_iff.mp hes
        exact ⟨⟨hf, hf'⟩, hb, hb', rfl⟩
  · rintro ⟨⟨hf, hf'⟩, hb, hb', hi⟩
    rw [bindInOrder_eq_ok_iff.mpr ⟨hf, hb⟩]
    dsimp only
    rw [bindInOrder_eq_ok_iff.mpr ⟨hf', hb'⟩, ← hi]

/-! ## Libraries that a device makes -/

/-- The device makes the library out of some text, compiled in some version or loaded. -/
def HostDevice.Makes (d : HostDevice) (l : Library) : Prop :=
  (∃ source version, d.compile source version = .ok l) ∨ ∃ bytes, d.load bytes = .ok l

variable {d : HostDevice}

theorem lower_of_mapError {scanned : ScannedSource} {wrap : LowerFault → DeviceFault}
    (h : (lower d.registry scanned).mapError wrap = .ok l) : lower d.registry scanned = .ok l := by
  cases hl : lower d.registry scanned with
  | error e => rw [hl] at h; cases h
  | ok l' => rw [hl] at h; cases h; rfl

/-- What is compiled is a lowered scan. -/
theorem HostDevice.lower_of_compile {source : String} {version : Option LanguageVersion}
    (h : d.compile source version = .ok l) :
    ∃ s, scanSource source = .ok s ∧ lower d.registry s = .ok l := by
  unfold compile at h
  split at h
  · cases h
  · rename_i scanned hscan
    split at h
    · cases h
    · exact ⟨scanned, hscan, lower_of_mapError h⟩

/-- What is loaded is a lowered scan. -/
theorem HostDevice.lower_of_loadText {text : String} (h : d.loadText text = .ok l) :
    ∃ s, scanSource text = .ok s ∧ lower d.registry s = .ok l := by
  unfold loadText at h
  split at h
  · cases h
  · rename_i scanned hscan
    split at h
    · cases h
    · exact ⟨scanned, hscan, lower_of_mapError h⟩

/-- Whatever the way, the library is a lowered scan. -/
theorem HostDevice.Makes.exists_lower (h : d.Makes l) : ∃ s, lower d.registry s = .ok l := by
  rcases h with ⟨source, version, h⟩ | ⟨bytes, h⟩
  · exact (lower_of_compile h).imp fun _ hs => hs.2
  · unfold load at h
    split at h
    · exact (lower_of_loadText h).imp fun _ hs => hs.2
    · cases h

theorem map_name_of_bindKernel {fs : List ScannedFunction} {ks : List LibraryKernel}
    (h : List.Forall₂ (fun f k => r.bindKernel f = .ok k) fs ks) :
    ks.map (·.name) = fs.map (·.name) := by
  induction h with
  | nil => rfl
  | cons hk _ ih => rw [List.map_cons, List.map_cons, ih, (Registry.bindKernel_eq_ok_iff.mp hk).1]

theorem map_signature_of_bindExport {fs : List ScannedFunction} {es : List LibraryExport}
    (h : List.Forall₂ (fun f e => r.bindExport f = .ok e) fs es) :
    es.map (·.signature) = fs.map (·.signature) := by
  induction h with
  | nil => rfl
  | cons he _ ih => rw [List.map_cons, List.map_cons, ih, (Registry.bindExport_eq_ok_iff.mp he).1]

/-- A lowered library has the scanned names in their order. -/
theorem functionNames_of_lower (h : lower r s = .ok l) : l.functionNames = s.functionNames := by
  obtain ⟨-, hk, he, -⟩ := lower_eq_ok_iff.mp h
  have hsig := congrArg (List.map Signature.name) (map_signature_of_bindExport he)
  rw [List.map_map, List.map_map] at hsig
  unfold Library.functionNames ScannedSource.functionNames
  rw [map_name_of_bindKernel hk, List.map_append]
  exact congrArg _ hsig

namespace HostDevice.Makes

/-- No name is defined twice. -/
theorem functionNames_nodup (h : d.Makes l) : l.functionNames.Nodup := by
  obtain ⟨s, hs⟩ := h.exists_lower
  rw [functionNames_of_lower hs]
  exact (lower_eq_ok_iff.mp hs).1

/-- An export is what is found under its name. -/
theorem export?_eq_some_iff (h : d.Makes l) {name : String} {e : LibraryExport} :
    l.export? name = some e ↔ e ∈ l.exports ∧ e.signature.name = name :=
  find?_eq_some_iff_of_nodup (List.nodup_append.mp h.functionNames_nodup).2.1

end HostDevice.Makes

end KernelLink
