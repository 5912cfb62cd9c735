import KernelLink.Proofs.Catalog.Keys
import KernelLink.Proofs.Catalog.SelfHosting
import KernelLink.Proofs.Device.Same
import KernelLink.Proofs.Launch.Reference

/-!
# One key, one behaviour

A registry finds behaviour by the text of a body, so two entries with one key had better behave the
same. They do, since the parameters that an emulation closes over are written into its body, with
one exception: a constant that is written against a type of whole numbers is written without its
fraction, and the emulation scales by all of it.
-/

namespace KernelLink

/-! ## Numbers that stand for the same -/

namespace Single

variable {a b : Single}

theorem mul_congr (h : a.exact = b.exact) (x : Single) : x * a = x * b := by
  show ofExact (x.exact.mul a.exact) = ofExact (x.exact.mul b.exact)
  rw [h]

theorem add_congr (h : a.exact = b.exact) (x : Single) : x + a = x + b := by
  show ofExact (x.exact.add a.exact) = ofExact (x.exact.add b.exact)
  rw [h]

end Single

/-! ## Entries by what they are built from -/

/-- The parameters of a catalog entry, with one form for each way of building one. -/
inductive Recipe where
  | asyncCopy (params : SourceParams)
  | reverse (tile : Nat)
  | gemm (tile : Nat)
  | roundtrip (geometry : TileGeometry)
  | transform (f : Transform)
  | processTile (f : TileScaling)
  | variant (v : Variant)

namespace Recipe

def entry : Recipe → CatalogEntry
  | asyncCopy params => asyncCopyEntry params
  | reverse tile => reverseShell tile
  | gemm tile => gemmShell tile
  | roundtrip geometry => roundtripShell geometry
  | transform f => f.entry
  | processTile f => f.entry
  | variant v => v.entry

/-- What the entry registers. -/
def binding : Recipe → EmulationBinding
  | asyncCopy params =>
    ⟨asyncCopyName, asyncCopyBody params.elements params.element (copyScale params),
      .kernel (.stagedUnary asyncCopyName (max params.elements 1)
        (.scale (copyScale params).toSingle))⟩
  | reverse tile =>
    ⟨reverseName, reverseBody tile transformName,
      .kernel (.stagedUnary reverseName tile (.call transformName))⟩
  | gemm tile =>
    ⟨gemmName, gemmBody tile computeTileName, .kernel (.pairedTiles gemmName tile computeTileName)⟩
  | roundtrip g =>
    ⟨roundtripName, roundtripBody g.rows g.cols g.tileCols processTileName,
      .kernel (.tileRoundtrip roundtripName g processTileName)⟩
  | transform f => ⟨transformName, f.body, .callable (.unary f)⟩
  | processTile f => ⟨processTileName, f.body, .callable (.tile f)⟩
  | variant v => ⟨computeTileName, v.body, .callable (.pairTile v)⟩

/-- Every entry registers one function. -/
theorem emulations_entry (p : Recipe) : p.entry.emulations = [p.binding] := by
  cases p <;> rfl

theorem registerInto_entry (p : Recipe) (r : Registry Emulation) :
    p.entry.registerInto r = r.put p.binding.key p.binding.emulation := by
  unfold CatalogEntry.registerInto
  rw [p.emulations_entry]
  rfl

/-- Copies for a type of whole numbers that scale differently. -/
def Drifts : Recipe → Recipe → Prop
  | asyncCopy p, asyncCopy q => (p.element = .i32 ∨ p.element = .u32) ∧
    ∃ x, asyncCopyReference p x ≠ asyncCopyReference q x
  | _, _ => False

variable {p q : Recipe}

/-- Copies whose constants are written alike scale alike, or drift. -/
theorem scale_eq_of_literal_eq {s t : SourceParams}
    (hliteral : s.element.literal (copyScale s) = s.element.literal (copyScale t))
    (hdrifts : ¬(asyncCopy s).Drifts (asyncCopy t)) (x : Single) :
    x * (copyScale s).toSingle = x * (copyScale t).toSingle := by
  have hfraction {suffix : String}
      (h : (copyScale s).literalText ++ suffix = (copyScale t).literalText ++ suffix) :
      x * (copyScale s).toSingle = x * (copyScale t).toSingle := by
    have htext := congrArg String.toList h
    rw [String.toList_append, String.toList_append] at htext
    have hexact := Double.exact_eq_of_literalText_eq
      (String.toList_inj.mp (List.append_cancel_right htext))
    unfold Double.toSingle
    rw [hexact]
  have hwhole (h : s.element = .i32 ∨ s.element = .u32) :
      x * (copyScale s).toSingle = x * (copyScale t).toSingle := by
    by_contra hne
    exact hdrifts ⟨h, x, hne⟩
  cases hs : s.element with
  | f32 => exact hfraction (by rw [hs] at hliteral; exact hliteral)
  | f16 => exact hfraction (by rw [hs] at hliteral; exact hliteral)
  | i32 => exact hwhole (.inl hs)
  | u32 => exact hwhole (.inr hs)

/-- Entries that are built in the same way. -/
inductive Alike : Recipe → Recipe → Prop
  | asyncCopy (s t : SourceParams) : Alike (asyncCopy s) (asyncCopy t)
  | reverse (m n : Nat) : Alike (reverse m) (reverse n)
  | gemm (m n : Nat) : Alike (gemm m) (gemm n)
  | roundtrip (g g' : TileGeometry) : Alike (roundtrip g) (roundtrip g')
  | transform (f g : Transform) : Alike (transform f) (transform g)
  | processTile (f g : TileScaling) : Alike (processTile f) (processTile g)
  | variant (v w : Variant) : Alike (variant v) (variant w)

/-- Each way of building an entry has its own name for it. -/
theorem alike_of_name_eq (h : p.binding.name = q.binding.name) : p.Alike q := by
  cases p <;> cases q <;> first
    | constructor
    | exact absurd h (by dsimp only [binding]; decide)

/-- Bodies that are found under one key consist of the same words. -/
theorem bodyWords_eq_of_key_eq (h : p.binding.key = q.binding.key) :
    bodyWords p.binding.body = bodyWords q.binding.body :=
  bodyWords_eq_iff.mpr (congrArg FunctionKey.body h)

/-- **One key, one behaviour**, but for copies that drift. -/
theorem same_of_key_eq (h : p.binding.key = q.binding.key) (hdrifts : ¬p.Drifts q) :
    p.binding.emulation.Same q.binding.emulation := by
  have halike : p.Alike q := alike_of_name_eq (congrArg FunctionKey.name h)
  have hbody := bodyWords_eq_of_key_eq h
  cases halike with
  | asyncCopy s t =>
    obtain ⟨hn, -, hliteral⟩ := eq_of_asyncCopyBody_eq hbody
    have hscale := scale_eq_of_literal_eq hliteral hdrifts
    dsimp only [binding]
    rw [hn]
    exact .kernel (Kernel.same_of_scale hscale)
  | reverse m n =>
    obtain rfl := eq_of_reverseBody_eq hbody
    exact .refl _
  | gemm m n =>
    obtain rfl := eq_of_gemmBody_eq hbody
    exact .refl _
  | roundtrip g g' =>
    obtain ⟨hrows, hcols, htile⟩ := eq_of_roundtripBody_eq hbody
    cases g; cases g'
    cases hrows; cases hcols; cases htile
    exact .refl _
  | transform f g =>
    obtain ⟨hscale, hbias⟩ := Transform.exact_eq_of_body_eq hbody
    refine .callable (.unary fun x => ?_)
    unfold Transform.reference
    rw [Single.mul_congr hscale, Single.add_congr hbias]
  | processTile f g =>
    obtain ⟨hlanes, hscale⟩ := TileScaling.eq_of_body_eq hbody
    refine .callable (.tile fun memory lane => ?_)
    have hmul : (fun x : Single => x * f.scale) = fun x => x * g.scale :=
      funext (Single.mul_congr hscale)
    unfold TileScaling.apply
    rw [hlanes, hmul]
  | variant v w =>
    obtain rfl := Variant.eq_of_normalizeBody_eq (bodyWords_eq_iff.mp hbody)
    exact .refl _

/-! ## What drifting copies compute -/

/-- Registering the same behaviour again makes no difference. -/
theorem same_registerInto (h : p.binding.key = q.binding.key)
    (hsame : p.binding.emulation.Same q.binding.emulation) (r : Registry Emulation) :
    (p.entry.registerInto r).Same (q.entry.registerInto (p.entry.registerInto r)) := by
  intro key
  simp only [registerInto_entry, Registry.get?_put, ← h]
  split
  · exact .some hsame
  · cases r.get? key with
    | none => exact .none
    | some e => exact .some (.refl e)

end Recipe

/-- The text of a copy runs whatever copy is registered for it. -/
theorem HostDevice.runTexts_asyncCopy {d : HostDevice} {params : SourceParams} {tile : Nat}
    {factor : Single} (hfound : d.registry.find? asyncCopyName
      (asyncCopyBody params.elements params.element (copyScale params)) =
        some (.kernel (.stagedUnary asyncCopyName tile (.scale factor)))) (b : Bindings)
    (s : DispatchShape) (m : DeviceMemory) :
    d.runTexts (.artifact (asyncCopyEntry params).source.text.toUTF8, asyncCopyName) [] b s m =
      .ok (Pipeline.dispatch ⟨asyncCopyName, .stagedUnary asyncCopyName tile (.scale factor), [],
        d.options.maxThreads⟩ b s m) := by
  have hload : d.load (asyncCopyEntry params).source.text.toUTF8 =
      .ok ⟨[⟨asyncCopyName, .stagedUnary asyncCopyName tile (.scale factor)⟩], [], []⟩ :=
    @load_kernelEntry d (.stagedUnary asyncCopyName tile (.scale factor)) .events1d none
      (sourceAndDestination params.element) _ params rfl nofun
      (show isIdentifier asyncCopyName.toList by decide) (by cases params.element <;> decide)
      (isBody_asyncCopyBody ..) hfound
  unfold runTexts refer make
  dsimp only
  rw [hload]
  rfl

/-- A copy of one element gives what the copy scales it to. -/
theorem Pipeline.exists_dispatch_copy {p : Pipeline} {name : String} {tile : Nat} {factor : Single}
    (hk : p.kernel = .stagedUnary name tile (.scale factor)) (ht : 1 ≤ tile)
    (hmax : tile ≤ p.maxThreads) (x : Single) :
    ∃ m', p.dispatch .probe ⟨1, tile⟩ (.probe tile (fun _ => x) fun _ => x) =
        .ok (.completed, m') ∧
      (m'.words ⟨1⟩)[0]? = some (x * factor) := by
  have htile : p.kernel.tile? = some tile := by rw [hk]; rfl
  have hop : p.kernel.operation? p.linked = some fun y => y 0 * factor := by rw [hk]; rfl
  have hout : (p.kernel.output, BufferHandle.mk 1) ∈ Bindings.probe := by
    rw [hk]
    exact Bindings.mem_probe_iff.mpr ⟨show 1 < 3 by decide, rfl⟩
  have hgroups : DispatchShape.groupCount ⟨1, tile⟩ = 1 := by
    unfold DispatchShape.groupCount
    rw [if_neg (by dsimp only; omega), Nat.add_sub_cancel_left, Nat.div_self ht]
  have hstart : DispatchShape.tileStart ⟨1, tile⟩ tile 0 = 0 := by
    unfold DispatchShape.tileStart
    rw [Nat.zero_mul, Nat.zero_div, Nat.zero_mul]
  have hlen : DispatchShape.tileStart ⟨1, tile⟩ tile
      (DispatchShape.groupCount ⟨1, tile⟩ - 1) + tile ≤ tile := by
    rw [hgroups, hstart, Nat.zero_add]
  obtain ⟨m', hc⟩ := staged_probe_completes htile ht Nat.one_pos ⟨ht, hmax⟩ hop hlen
    (fun _ => x) fun _ => x
  obtain ⟨y, hy, hy'⟩ := staged_output htile ht Nat.one_pos ⟨ht, hmax⟩
    (Bindings.apart_probe _) hc hop hout Nat.one_pos
  have hpos := DispatchShape.stagedAt_lt (s := ⟨1, tile⟩) ht ht Nat.one_pos
  have hyx := Kernel.operation?_probe hop (Nat.lt_of_lt_of_le hpos hlen) hy
  rw [ite_self] at hyx
  exact ⟨m', hc, hy'.trans (congrArg some hyx)⟩

namespace Recipe

variable {s t : SourceParams}

/-- The text of a copy computes what was registered last under its key. -/
theorem exists_runTexts_copy (hkey : (asyncCopy s).binding.key = (asyncCopy t).binding.key)
    {tile : Nat} (htile : max t.elements 1 = tile) (options : HostOptions)
    (hmax : tile ≤ options.maxThreads) (r : Registry Emulation) (x : Single) :
    ∃ m', (HostDevice.mk options ((asyncCopy t).entry.registerInto r)).runTexts
        (.artifact (asyncCopyEntry s).source.text.toUTF8, asyncCopyName) [] .probe ⟨1, tile⟩
        (.probe tile (fun _ => x) fun _ => x) = .ok (.ok (.completed, m')) ∧
      (m'.words ⟨1⟩)[0]? = some (asyncCopyReference t x) := by
  have hfound : ((asyncCopy t).entry.registerInto r).find? asyncCopyName
      (asyncCopyBody s.elements s.element (copyScale s)) =
      some (.kernel (.stagedUnary asyncCopyName tile (.scale (copyScale t).toSingle))) := by
    rw [registerInto_entry, ← htile]
    exact (Registry.get?_put ..).trans (if_pos hkey)
  obtain ⟨m', hc, hx⟩ := Pipeline.exists_dispatch_copy
    (p := ⟨asyncCopyName, .stagedUnary asyncCopyName tile (.scale (copyScale t).toSingle), [],
      options.maxThreads⟩) rfl (by omega) hmax x
  refine ⟨m', ?_, hx⟩
  exact (HostDevice.runTexts_asyncCopy hfound _ _ _).trans (congrArg _ hc)

/-- Copies that drift are told apart by registering one over the other. -/
theorem not_drifts_of_runTexts_eq {p q : Recipe} (h : p.binding.key = q.binding.key)
    (hruns : ∀ options r,
      (HostDevice.mk options (q.entry.registerInto (p.entry.registerInto r))).runTexts =
        (HostDevice.mk options (p.entry.registerInto r)).runTexts) : ¬p.Drifts q := by
  intro hdrifts
  have hbody := bodyWords_eq_of_key_eq h
  cases p with
  | asyncCopy s =>
    cases q with
    | asyncCopy t =>
      obtain ⟨-, x, hne⟩ := hdrifts
      obtain ⟨helements, -, -⟩ := eq_of_asyncCopyBody_eq hbody
      have htile : max t.elements 1 = max s.elements 1 := by rw [helements]
      let options : HostOptions := { HostOptions.standard with maxThreads := max s.elements 1 }
      obtain ⟨m, hm, hmx⟩ :=
        exists_runTexts_copy (s := s) rfl rfl options (Nat.le_refl _) .empty x
      obtain ⟨m', hm', hmx'⟩ := exists_runTexts_copy h htile options (Nat.le_refl _)
        ((asyncCopy s).entry.registerInto .empty) x
      rw [hruns, hm] at hm'
      cases hm'
      exact hne (Option.some.inj (hmx.symm.trans hmx'))
    | _ => exact hdrifts
  | _ => exact hdrifts

theorem runTexts_registerInto {p q : Recipe} (h : p.binding.key = q.binding.key)
    (hsame : p.binding.emulation.Same q.binding.emulation) (options : HostOptions)
    (r : Registry Emulation) :
    (HostDevice.mk options (q.entry.registerInto (p.entry.registerInto r))).runTexts =
      (HostDevice.mk options (p.entry.registerInto r)).runTexts :=
  (HostDevice.runTexts_eq (same_registerInto h hsame r) options).symm

theorem not_drifts_of_same {p q : Recipe} (h : p.binding.key = q.binding.key)
    (hsame : p.binding.emulation.Same q.binding.emulation) : ¬p.Drifts q :=
  not_drifts_of_runTexts_eq h (runTexts_registerInto h hsame)

/--
**When the text determines the behaviour.** For two entries that register under one key, these are
the same: they behave the same on all groups and arguments; registering one over the other leaves
what all texts compute as it was; and they are not copies for a type of whole numbers whose scales
differ.
-/
theorem behaviour_of_key_eq {p q : Recipe} (h : p.binding.key = q.binding.key) :
    (p.binding.emulation.Same q.binding.emulation ↔ ¬p.Drifts q) ∧
    ((∀ options r,
      (HostDevice.mk options (q.entry.registerInto (p.entry.registerInto r))).runTexts =
        (HostDevice.mk options (p.entry.registerInto r)).runTexts) ↔ ¬p.Drifts q) :=
  ⟨⟨not_drifts_of_same h, same_of_key_eq h⟩, not_drifts_of_runTexts_eq h,
    fun hdrifts => runTexts_registerInto h (same_of_key_eq h hdrifts)⟩

/-- A transform whose scale is no number, in one of the ways of being none. -/
def noNumber (payload : UInt32) : Recipe := .transform ⟨⟨0x7fc00000 ||| payload⟩, .zero⟩

/-- All the ways of being no number are written alike, and behave alike. -/
theorem behaviour_of_key_eq_noNumber :
    (noNumber 0).binding.emulation ≠ (noNumber 1).binding.emulation ∧
      (noNumber 0).binding.key = (noNumber 1).binding.key ∧
      (noNumber 0).binding.emulation.Same (noNumber 1).binding.emulation := by
  have hkey : (noNumber 0).binding.key = (noNumber 1).binding.key := by rfl
  exact ⟨by decide, hkey, (behaviour_of_key_eq hkey).1.mpr id⟩

/-- A copy of one whole number. -/
def wholeCopy (scale : String) : SourceParams := ⟨1, .i32, [("scale", scale)]⟩

/-- A copy that scales by two and a half is written as one that scales by two. Registered over it,
it makes the same text turn three into seven and a half, which was six before. -/
theorem exists_one_key_two_behaviours : ∃ p q : Recipe, p.binding.key = q.binding.key ∧
    ¬p.binding.emulation.Same q.binding.emulation ∧
    ∃ text m m',
      (HostDevice.mk .standard (p.entry.registerInto .empty)).runTexts text [] .probe ⟨1, 1⟩
          (.probe 1 (fun _ => .ofNat 3) fun _ => .ofNat 3) = .ok (.ok (.completed, m)) ∧
        (m.words ⟨1⟩)[0]? = some (.ofNat 6) ∧
      (HostDevice.mk .standard (q.entry.registerInto (p.entry.registerInto .empty))).runTexts
          text [] .probe ⟨1, 1⟩
          (.probe 1 (fun _ => .ofNat 3) fun _ => .ofNat 3) = .ok (.ok (.completed, m')) ∧
        (m'.words ⟨1⟩)[0]? = some ⟨0x40f00000⟩ := by
  have hliteral : Element.i32.literal (copyScale (wholeCopy "2")) =
      Element.i32.literal (copyScale (wholeCopy "2.5")) := by decide +kernel
  have hkey : (asyncCopy (wholeCopy "2")).binding.key =
      (asyncCopy (wholeCopy "2.5")).binding.key := by
    show FunctionKey.of asyncCopyName (asyncCopyBody 1 .i32 (copyScale (wholeCopy "2"))) =
      FunctionKey.of asyncCopyName (asyncCopyBody 1 .i32 (copyScale (wholeCopy "2.5")))
    unfold asyncCopyBody
    rw [hliteral]
  have hsix : asyncCopyReference (wholeCopy "2") (.ofNat 3) = .ofNat 6 := by decide +kernel
  have hmore : asyncCopyReference (wholeCopy "2.5") (.ofNat 3) = ⟨0x40f00000⟩ := by decide +kernel
  obtain ⟨m, hm, hmx⟩ := exists_runTexts_copy (s := wholeCopy "2") rfl rfl .standard (by decide)
    .empty (.ofNat 3)
  obtain ⟨m', hm', hmx'⟩ := exists_runTexts_copy hkey rfl .standard (by decide)
    ((asyncCopy (wholeCopy "2")).entry.registerInto .empty) (.ofNat 3)
  rw [hsix] at hmx
  rw [hmore] at hmx'
  refine ⟨_, _, hkey, fun hsame => ?_, _, m, m', hm, hmx, hm', hmx'⟩
  refine not_drifts_of_same hkey hsame ⟨.inl rfl, .ofNat 3, ?_⟩
  rw [hsix, hmore]
  decide

end Recipe

end KernelLink
