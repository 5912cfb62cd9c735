import KernelLink.Proofs.Device.AllOrNothing
import KernelLink.Proofs.Exec.Alike
import KernelLink.Proofs.Launch.Validation

/-!
# The order of bindings

A launch lists its bindings in some order, but each of them names its index, so the order should not
matter. For the run it does not: the table has the same buffer at every index, and no group sees
more. Copying back goes binding by binding though, and a buffer that is bound at two indices is
written twice, with what the table has at the one and then with what it has at the other. Only one
of these can be what the kernel computed. So a buffer bound at the output index and at another one
keeps the output if and only if the output index comes last, and otherwise gets back what was copied
in.
-/

namespace KernelLink

namespace Bindings

/-- The index at which a buffer is bound last. -/
def last? : Bindings → BufferHandle → Option Nat
  | [], _ => none
  | (i, g) :: rest, h => (last? rest h).or (if g = h then some i else none)

/-- The buffer at `out` is bound there last: what is copied back from `out` is not overwritten. -/
def OutputLast (out : Nat) (b : Bindings) : Prop := ∃ h, b.last? h = some out

variable {b b' : Bindings} {h : BufferHandle} {i out : Nat}

theorem last?_cons (e : Nat × BufferHandle) :
    last? (e :: b) h = (last? b h).or (if e.2 = h then some e.1 else none) := rfl

theorem mem_of_last? (hb : b.last? h = some i) : (i, h) ∈ b := by
  induction b with
  | nil => cases hb
  | cons e rest ih =>
    rw [last?_cons] at hb
    cases hr : last? rest h with
    | some j =>
      rw [hr, Option.some_or] at hb
      exact List.mem_cons_of_mem _ (ih (hr.trans hb))
    | none =>
      rw [hr, Option.none_or] at hb
      by_cases he : e.2 = h
      · rw [if_pos he] at hb
        cases hb; subst he
        exact List.mem_cons_self
      · rw [if_neg he] at hb; cases hb

theorem not_mem_of_last?_eq_none (hb : b.last? h = none) (i : Nat) : (i, h) ∉ b := by
  induction b with
  | nil => exact List.not_mem_nil
  | cons e rest ih =>
    rw [last?_cons, Option.or_eq_none_iff] at hb
    intro hm
    rcases List.mem_cons.mp hm with rfl | hm
    · rw [if_pos rfl] at hb
      cases hb.2
    · exact ih hb.1 hm

/-- A buffer that is bound at one index only is bound there last. -/
theorem outputLast_of_apart (ha : b.Apart out) (hb : (out, h) ∈ b) : b.OutputLast out := by
  cases hl : b.last? h with
  | none => exact absurd hb (not_mem_of_last?_eq_none hl out)
  | some i =>
    rw [ha.output h hb i (mem_of_last? hl)] at hl
    exact ⟨h, hl⟩

theorem outputLast_iff_of_apart (ha : b.Apart out) : b.OutputLast out ↔ ∃ h, (out, h) ∈ b :=
  ⟨fun ⟨h, hl⟩ => ⟨h, mem_of_last? hl⟩, fun ⟨_, hb⟩ => outputLast_of_apart ha hb⟩

/-- What is seen at an index does not depend on the order. -/
theorem at?_of_perm (hn : (b.map Prod.fst).Nodup) (hb : b'.Perm b) (i : Nat) :
    b.at? i = b'.at? i := by
  have hn' : (b'.map Prod.fst).Nodup := (hb.map Prod.fst).nodup_iff.mpr hn
  refine Option.ext fun h => ?_
  rw [at?_eq_some_iff hn, at?_eq_some_iff hn', hb.mem_iff]

/-- Without repeated indices there is one buffer that can be bound at `out` last. -/
theorem last?_eq_some_iff (hn : (b.map Prod.fst).Nodup) (hb : b.OutputLast out) :
    b.last? h = some out ↔ (out, h) ∈ b := by
  constructor
  · exact mem_of_last?
  · intro hm
    obtain ⟨g, hg⟩ := hb
    rw [← eq_of_mem hn (mem_of_last? hg) hm, hg]

/-- If the output index comes last in both orders or in neither, it does so for the same buffer. -/
theorem last?_iff_of_perm (hn : (b.map Prod.fst).Nodup) (hb : b'.Perm b)
    (hlast : b.OutputLast out ↔ b'.OutputLast out) (h : BufferHandle) :
    b.last? h = some out ↔ b'.last? h = some out := by
  have hn' : (b'.map Prod.fst).Nodup := (hb.map Prod.fst).nodup_iff.mpr hn
  by_cases hout : b.OutputLast out
  · rw [last?_eq_some_iff hn hout, last?_eq_some_iff hn' (hlast.mp hout), hb.mem_iff]
  · have hout' := fun h' => hout (hlast.mpr h')
    exact ⟨fun hl => absurd ⟨h, hl⟩ hout, fun hl => absurd ⟨h, hl⟩ hout'⟩

theorem Apart.of_perm (ha : b.Apart out) (hb : b'.Perm b) : b'.Apart out where
  indices := (hb.map Prod.fst).nodup_iff.mpr ha.indices
  output h ho i hi := ha.output h (hb.mem_iff.mp ho) i (hb.mem_iff.mp hi)

end Bindings

namespace Pipeline

variable {p : Pipeline} {s : DispatchShape} {b b' : Bindings} {m m₁ m₂ : DeviceMemory}
  {t t' : BufferTable} {h : BufferHandle} {out : Nat}

/-! ## Runs on alike tables -/

theorem alike_table (hn : (b.map Prod.fst).Nodup) (hb : b'.Perm b) :
    (table m b).Alike (table m b') := by
  intro i
  rw [get?_table, get?_table, Bindings.at?_of_perm hn hb]

/-- Both runs stop in the same way, or both go through and leave alike tables. -/
inductive AlikeEnds {ε : Type} : Except ε BufferTable → Except ε BufferTable → Prop
  | error (e : ε) : AlikeEnds (.error e) (.error e)
  | ok {t t' : BufferTable} (h : t.Alike t') : AlikeEnds (.ok t) (.ok t')

theorem alikeEnds_runGroup (ht : t.Alike t') (g : GroupShape) :
    AlikeEnds (p.runGroup g t) (p.runGroup g t') := by
  have hstart : (p.groupStart t).Alike (p.groupStart t') := ⟨ht, rfl⟩
  obtain ⟨hresult, hstates⟩ := (p.kernel.built_run g p.linked).blind _ _ hstart
  rw [runGroup_eq, runGroup_eq]
  rcases hr : (p.kernel.run g p.linked).eval (p.groupStart t) with ⟨result, after⟩
  rcases hr' : (p.kernel.run g p.linked).eval (p.groupStart t') with ⟨result', after'⟩
  rw [hr, hr'] at hresult hstates
  obtain rfl : result = result' := hresult
  cases result with
  | error stop => exact .error stop
  | ok u => exact .ok hstates.buffers

theorem alikeEnds_runGroups (count index : Nat) (ht : t.Alike t') :
    AlikeEnds (p.runGroups s count index t) (p.runGroups s count index t') := by
  induction count generalizing index t t' with
  | zero => exact .ok ht
  | succ count ih =>
    have hgroup := alikeEnds_runGroup (p := p) ht (s.group index)
    rw [runGroups_succ, runGroups_succ]
    generalize p.runGroup (s.group index) t = r at hgroup
    generalize p.runGroup (s.group index) t' = r' at hgroup
    cases hgroup with
    | error stop => exact .error (index, stop)
    | ok ht => exact ih (index + 1) ht

/-! ## Copying back in some order -/

/-- A buffer ends with what the table holds at the index at which the buffer is bound last. -/
theorem words_writeBack_of_last? {i : Nat} {w : Array Single} (hl : b.last? h = some i)
    (hw : t.get? i = some w)
    (hs : ∀ j w, (j, h) ∈ b → t.get? j = some w → w.size = (m.words h).size) :
    (writeBack b t m).words h = w := by
  induction b generalizing m with
  | nil => cases hl
  | cons e rest ih =>
    rw [writeBack_cons]
    rw [Bindings.last?_cons] at hl
    have hsize := Pipeline.size_words_copied e fun w' he hw' =>
      hs e.1 w' (he ▸ List.mem_cons_self) hw'
    cases hr : Bindings.last? rest h with
    | some j =>
      rw [hr, Option.some_or] at hl
      cases hl
      refine ih hr fun j w' hj hw' => ?_
      rw [hsize]
      exact hs j w' (List.mem_cons_of_mem _ hj) hw'
    | none =>
      rw [hr, Option.none_or] at hl
      by_cases hg : e.2 = h
      · rw [if_pos hg] at hl
        cases hl; subst hg
        rw [words_writeBack_of_not_mem (Bindings.not_mem_of_last?_eq_none hr), hw]
        exact DeviceMemory.words_set_self (hs e.1 w List.mem_cons_self hw)
      · rw [if_neg hg] at hl; cases hl

/-- **What a buffer holds after a run that kept to one index**: the output, if its buffer is bound
there last, and what it held before otherwise. -/
theorem words_writeBack_of_frame (hn : (b.map Prod.fst).Nodup)
    (hf : BufferTable.Frame out (table m b) t) (h : BufferHandle) :
    (writeBack b t m).words h =
      if b.last? h = some out then (t.get? out).getD #[] else m.words h := by
  have hsizes : ∀ j w, (j, h) ∈ b → t.get? j = some w → w.size = (m.words h).size := by
    intro j w hj hw
    have hsize := hf.size j
    rw [hw, get?_table_of_mem hn hj] at hsize
    exact Option.some.inj hsize
  cases hl : b.last? h with
  | none =>
    rw [if_neg nofun]
    exact words_writeBack_of_not_mem (Bindings.not_mem_of_last?_eq_none hl)
  | some i =>
    have hmem := Bindings.mem_of_last? hl
    by_cases hi : i = out
    · subst hi
      obtain ⟨w, hw⟩ : ∃ w, t.get? i = some w := by
        have hsize := hf.size i
        rw [get?_table_of_mem hn hmem, Option.map_some, Option.map_eq_some_iff] at hsize
        exact hsize.imp fun _ => And.left
      rw [if_pos rfl, hw]
      exact words_writeBack_of_last? hl hw hsizes
    · rw [if_neg fun he => hi (Option.some.inj he)]
      have hw : t.get? i = some (m.words h) := by
        rw [hf.others i hi, get?_table_of_mem hn hmem]
      exact words_writeBack_of_last? hl hw hsizes

/-- Two orders of copying back alike tables leave the same contents if the output index comes last
in both or in neither, or if there was nothing new to copy. -/
theorem words_writeBack_perm_iff (hn : (b.map Prod.fst).Nodup) (hb : b'.Perm b)
    (hf : BufferTable.Frame out (table m b) t) (hf' : BufferTable.Frame out (table m b') t')
    (ht : t.Alike t') :
    (∀ h, (writeBack b t m).words h = (writeBack b' t' m).words h) ↔
      (b.OutputLast out ↔ b'.OutputLast out) ∨
        ((∀ h, (writeBack b t m).words h = m.words h) ∧
          ∀ h, (writeBack b' t' m).words h = m.words h) := by
  have hn' : (b'.map Prod.fst).Nodup := (hb.map Prod.fst).nodup_iff.mpr hn
  -- In an order in which the output index does not come last, nothing has changed.
  have hkept : ¬b.OutputLast out → ∀ h, (writeBack b t m).words h = m.words h := by
    intro hout h
    rw [words_writeBack_of_frame hn hf, if_neg fun hl => hout ⟨h, hl⟩]
  have hkept' : ¬b'.OutputLast out → ∀ h, (writeBack b' t' m).words h = m.words h := by
    intro hout h
    rw [words_writeBack_of_frame hn' hf', if_neg fun hl => hout ⟨h, hl⟩]
  constructor
  · intro hsame
    by_cases hout : b.OutputLast out
    · by_cases hout' : b'.OutputLast out
      · exact .inl ⟨fun _ => hout', fun _ => hout⟩
      · exact .inr ⟨fun h => (hsame h).trans (hkept' hout' h), hkept' hout'⟩
    · by_cases hout' : b'.OutputLast out
      · exact .inr ⟨hkept hout, fun h => (hsame h).symm.trans (hkept hout h)⟩
      · exact .inl ⟨fun h => absurd h hout, fun h => absurd h hout'⟩
  · rintro (hlast | ⟨hsame, hsame'⟩) h
    · rw [words_writeBack_of_frame hn hf, words_writeBack_of_frame hn' hf', ht out]
      exact if_congr (Bindings.last?_iff_of_perm hn hb hlast h) rfl rfl
    · rw [hsame h, hsame' h]

/-- **Reordered bindings end the command in the same way.** The buffers hold the same afterwards if
and only if the output index comes last for its buffer in both orders or in neither, or nothing has
changed. -/
theorem dispatch_perm (hn : (b.map Prod.fst).Nodup) (hb : b'.Perm b) (s : DispatchShape)
    (m : DeviceMemory) :
    (∃ e, p.dispatch b s m = .error e ∧ p.dispatch b' s m = .error e) ∨
    ∃ c m₁ m₂, p.dispatch b s m = .ok (c, m₁) ∧ p.dispatch b' s m = .ok (c, m₂) ∧
      ((∀ h, m₁.words h = m₂.words h) ↔
        (b.OutputLast p.kernel.output ↔ b'.OutputLast p.kernel.output) ∨
          ((∀ h, m₁.words h = m.words h) ∧ ∀ h, m₂.words h = m.words h)) := by
  have hunchanged : ∀ q : Prop, (∀ h, m.words h = m.words h) ↔
      q ∨ ((∀ h, m.words h = m.words h) ∧ ∀ h, m.words h = m.words h) :=
    fun q => ⟨fun h => .inr ⟨h, h⟩, fun _ _ => rfl⟩
  by_cases hs : p.Accepts s
  · have hends := alikeEnds_runGroups (p := p) (s := s) s.groupCount 0 (alike_table (m := m) hn hb)
    rw [dispatch_of_accepts hs, dispatch_of_accepts hs]
    generalize hr : p.runGroups s s.groupCount 0 (table m b) = r at hends
    generalize hr' : p.runGroups s s.groupCount 0 (table m b') = r' at hends
    cases hends with
    | error stopped =>
      obtain ⟨index, stop⟩ := stopped
      cases stop with
      | fault f => exact .inr ⟨_, m, m, rfl, rfl, hunchanged _⟩
      | emptyTile => exact .inl ⟨.emptyTile, rfl, rfl⟩
    | ok ht =>
      exact .inr ⟨.completed, _, _, rfl, rfl, words_writeBack_perm_iff hn hb
        (frame_runGroups _ _ hr) (frame_runGroups _ _ hr') ht⟩
  · rw [dispatch_of_not_accepts hs, dispatch_of_not_accepts hs]
    exact .inr ⟨_, m, m, rfl, rfl, hunchanged _⟩

/-- Where the buffer at the output index is bound at no other, the order makes no difference. -/
theorem dispatch_perm_of_apart (ha : b.Apart p.kernel.output) (hb : b'.Perm b) (s : DispatchShape)
    (m : DeviceMemory) :
    (∃ e, p.dispatch b s m = .error e ∧ p.dispatch b' s m = .error e) ∨
    ∃ c m₁ m₂, p.dispatch b s m = .ok (c, m₁) ∧ p.dispatch b' s m = .ok (c, m₂) ∧
      ∀ h, m₁.words h = m₂.words h := by
  rcases dispatch_perm (p := p) ha.indices hb s m with herror | ⟨c, m₁, m₂, h₁, h₂, hsame⟩
  · exact .inl herror
  · refine .inr ⟨c, m₁, m₂, h₁, h₂, hsame.mpr (.inl ?_)⟩
    rw [Bindings.outputLast_iff_of_apart ha, Bindings.outputLast_iff_of_apart (ha.of_perm hb)]
    exact exists_congr fun h => hb.mem_iff.symm

end Pipeline

namespace HostDevice

variable {d : HostDevice} {p : LinkedPipeline} {l : Launch} {s : DispatchShape} {b : Bindings}

/-- Validation does not look at the order. -/
theorem validate_of_perm (h : d.validate p l = .ok s) (hb : b.Perm l.bindings) :
    d.validate p { l with bindings := b } = .ok s := by
  obtain ⟨hs, hinvocations, hgroup, hwidest, hwidth, hindices⟩ := validate_eq_ok_iff.mp h
  exact validate_eq_ok_iff.mpr ⟨hs, hinvocations, hgroup, hwidest, hwidth,
    (hb.map Prod.fst).nodup_iff.mpr hindices⟩

/--
**When the order of bindings matters.** An accepted launch is accepted with its bindings in any
other order, and both end in the same way, with the same completion. They leave the same contents in
every buffer if and only if the output index is the last one of its buffer in both orders or in
neither, unless neither launch has changed anything. So only a buffer that is bound at the output
index and at another one can tell the orders apart.
-/
theorem reordered_launch (h : d.validate p l = .ok s) (hb : b.Perm l.bindings) (m : DeviceMemory) :
    d.validate p { l with bindings := b } = .ok s ∧
    ((∃ e, p.pipeline.dispatch l.bindings s m = .error e ∧ p.pipeline.dispatch b s m = .error e) ∨
    ∃ c m₁ m₂, p.pipeline.dispatch l.bindings s m = .ok (c, m₁) ∧
      p.pipeline.dispatch b s m = .ok (c, m₂) ∧
      ((∀ h, m₁.words h = m₂.words h) ↔
        (l.bindings.OutputLast p.pipeline.kernel.output ↔
          b.OutputLast p.pipeline.kernel.output) ∨
        ((∀ h, m₁.words h = m.words h) ∧ ∀ h, m₂.words h = m.words h))) := by
  obtain ⟨-, -, -, -, -, hindices⟩ := validate_eq_ok_iff.mp h
  exact ⟨validate_of_perm h hb, Pipeline.dispatch_perm hindices hb s m⟩

/-- Two orders of distinct buffers: both launches double the element. -/
theorem reordered_launch_doubling :
    let d : HostDevice := ⟨.standard, .empty⟩
    let p : LinkedPipeline := ⟨Pipeline.doubling, "doubling", []⟩
    let l : Launch := ⟨1, 1, [(0, ⟨0⟩), (1, ⟨2⟩)], some 1⟩
    d.validate p { l with bindings := [(1, ⟨2⟩), (0, ⟨0⟩)] } = .ok ⟨1, 1⟩ ∧
    ∃ c m₁ m₂, p.pipeline.dispatch l.bindings ⟨1, 1⟩ Pipeline.threeBuffers = .ok (c, m₁) ∧
      p.pipeline.dispatch [(1, ⟨2⟩), (0, ⟨0⟩)] ⟨1, 1⟩ Pipeline.threeBuffers = .ok (c, m₂) ∧
      ∀ h, m₁.words h = m₂.words h := by
  intro d p l
  have hvalid : d.validate p l = .ok ⟨1, 1⟩ := rfl
  obtain ⟨hvalid', hends⟩ := reordered_launch hvalid (b := [(1, ⟨2⟩), (0, ⟨0⟩)])
    (.swap _ _ []) Pipeline.threeBuffers
  have hdoubled : p.pipeline.dispatch l.bindings ⟨1, 1⟩ Pipeline.threeBuffers =
    .ok (.completed, _) := rfl
  rcases hends with ⟨e, herror, -⟩ | ⟨c, m₁, m₂, h₁, h₂, hsame⟩
  · rw [hdoubled] at herror
    cases herror
  · exact ⟨hvalid', c, m₁, m₂, h₁, h₂, hsame.mpr (.inl ⟨fun _ => ⟨⟨2⟩, rfl⟩, fun _ => ⟨⟨2⟩, rfl⟩⟩)⟩

/-- One buffer at both indices: in one order it is doubled, and in the other it is not. -/
theorem exists_order_that_loses_output :
    ∃ (d : HostDevice) (p : LinkedPipeline) (l : Launch) (b : Bindings) (s : DispatchShape)
      (m m₁ m₂ : DeviceMemory) (c : Completion) (h : BufferHandle),
      d.validate p l = .ok s ∧ b.Perm l.bindings ∧
      d.validate p { l with bindings := b } = .ok s ∧
      p.pipeline.dispatch l.bindings s m = .ok (c, m₁) ∧
      p.pipeline.dispatch b s m = .ok (c, m₂) ∧
      m₁.words h = #[.ofNat 10] ∧ m₂.words h = #[.ofNat 5] := by
  have hdoubled : Pipeline.doubling.dispatch [(0, ⟨1⟩), (1, ⟨1⟩)] ⟨1, 1⟩ Pipeline.threeBuffers =
    .ok (.completed, _) := rfl
  have hlost : Pipeline.doubling.dispatch [(1, ⟨1⟩), (0, ⟨1⟩)] ⟨1, 1⟩ Pipeline.threeBuffers =
    .ok (.completed, _) := rfl
  exact ⟨⟨.standard, .empty⟩, ⟨Pipeline.doubling, "doubling", []⟩,
    ⟨1, 1, [(0, ⟨1⟩), (1, ⟨1⟩)], some 1⟩, [(1, ⟨1⟩), (0, ⟨1⟩)], ⟨1, 1⟩, Pipeline.threeBuffers, _, _,
    .completed, ⟨1⟩, rfl, .swap _ _ [], rfl, hdoubled, hlost, rfl, rfl⟩

end HostDevice

end KernelLink
