import KernelLink.Proofs.Exec.Patch

/-!
# What the steps of a group do

One equation for each operation of a group: how it ends from a given state, fault and all, and
which state it leaves. After this module nobody opens an operation again. Stored values appear as
patches, so that whatever follows an operation can be put together with it.

Loops come with one rule. Given the states that a loop should pass through, it passes through all of
them if every step does its part, and it stops early if one of them does not.
-/

namespace KernelLink

namespace GroupM

variable {α β : Type} {x : GroupM α} {f : α → GroupM β} {s s' : GroupState}

/-- How a step ends from a state, and the state that it leaves. -/
def eval (x : GroupM α) (s : GroupState) : Except Stop α × GroupState := x.run s

/-- The step ends early, with a fault. -/
def Stops (x : GroupM α) (s : GroupState) : Prop := ∃ f s', x.eval s = (.error (.fault f), s')

@[simp] theorem eval_throw (e : Stop) : (throw e : GroupM α).eval s = (.error e, s) := rfl

@[simp] theorem eval_fault (f : Fault) : (fault f : GroupM α).eval s = (.error (.fault f), s) := rfl

@[simp] theorem eval_get : (get : GroupM GroupState).eval s = (.ok s, s) := rfl

@[simp] theorem eval_modify (f : GroupState → GroupState) :
    (modify f : GroupM Unit).eval s = (.ok (), f s) := rfl

theorem eval_bind : (x >>= f).eval s =
    match x.eval s with
    | (.ok a, s') => (f a).eval s'
    | (.error e, s') => (.error e, s') := by
  unfold eval
  rw [ExceptT.run_bind]
  show StateT.bind (ExceptT.run x) _ s = _
  unfold StateT.bind
  rcases ExceptT.run x s with ⟨_ | _, _⟩ <;> rfl

theorem eval_bind_of_ok {a : α} (h : x.eval s = (.ok a, s')) :
    (x >>= f).eval s = (f a).eval s' := by
  rw [eval_bind, h]

theorem eval_bind_of_error {e : Stop} (h : x.eval s = (.error e, s')) :
    (x >>= f).eval s = (.error e, s') := by
  rw [eval_bind, h]

/-- Nothing follows a stop. -/
theorem throw_bind (e : Stop) (f : α → GroupM β) : (throw e >>= f : GroupM β) = throw e := rfl

theorem fault_bind (e : Fault) (f : α → GroupM β) : (fault e >>= f : GroupM β) = fault e := rfl

theorem Stops.bind (h : Stops x s) : Stops (x >>= f) s := by
  obtain ⟨f, s', h⟩ := h
  exact ⟨f, s', eval_bind_of_error h⟩

theorem Stops.bind_of_ok {a : α} (h : x.eval s = (.ok a, s')) (hf : Stops (f a) s') :
    Stops (x >>= f) s := by
  obtain ⟨e, s'', hf⟩ := hf
  exact ⟨e, s'', by rw [eval_bind_of_ok h, hf]⟩

/-! ## Buffers -/

theorem eval_buffer (index : Nat) : (buffer index).eval s =
    match s.buffers.get? index with
    | some b => (.ok b, s)
    | none => (.error (.fault (.missingBinding index)), s) := by
  unfold buffer
  rw [eval_bind_of_ok eval_get]
  cases s.buffers.get? index <;> rfl

theorem eval_write (index offset : Nat) (value : Single) : (write index offset value).eval s =
    match s.buffers.get? index with
    | none => (.error (.fault (.missingBinding index)), s)
    | some b =>
      if offset < b.size then
        (.ok (), { s with buffers := s.buffers.patch index (.single offset value) })
      else (.error (.fault (.outOfBounds index offset (Size.wrap (offset + 1)) b.size)), s) := by
  unfold write
  rw [eval_bind, eval_buffer]
  cases s.buffers.get? index with
  | none => rfl
  | some b =>
    dsimp only
    by_cases h : offset < b.size
    · rw [if_pos h, if_pos h, eval_modify, BufferTable.update_modify]
    · rw [if_neg h, if_neg h, eval_fault]

theorem eval_copyIn (source start count offset : Nat) :
    (copyIn source start count offset).eval s =
      match s.buffers.get? source with
      | none => (.error (.fault (.missingBinding source)), s)
      | some b =>
        if start + count > b.size then
          (.error (.fault (.outOfBounds source start (Size.wrap (start + count)) b.size)), s)
        else if offset + count > s.threadgroup.size then
          (.error (.fault
            (.threadgroupOutOfBounds offset (Size.wrap (offset + count)) s.threadgroup.size)), s)
        else
          (.ok (), { s with
            threadgroup :=
              (Patch.block offset (b.extract start (start + count))).apply s.threadgroup }) := by
  unfold copyIn
  rw [eval_bind, eval_buffer]
  cases s.buffers.get? source with
  | none => rfl
  | some b =>
    dsimp only
    by_cases hb : start + count > b.size
    · rw [if_pos hb, if_pos hb, eval_bind_of_error (eval_fault _)]
    · rw [if_neg hb, if_neg hb, eval_bind_of_ok eval_get]
      by_cases ht : offset + count > s.threadgroup.size
      · rw [if_pos ht, if_pos ht, eval_bind_of_error (eval_fault _)]
      · rw [if_neg ht, if_neg ht, eval_modify, Patch.overwrite_eq_apply]

/-! ## Calls -/

theorem eval_callable (linked : Linked) (name : String) : (callable linked name).eval s =
    match linked.find? name with
    | some c => (.ok c, s)
    | none => (.error (.fault (.unresolvedCallable name)), s) := by
  unfold callable
  cases linked.find? name <;> rfl

theorem eval_callUnary (linked : Linked) (name : String) (value : Single) :
    (callUnary linked name value).eval s =
      match linked.find? name with
      | none => (.error (.fault (.unresolvedCallable name)), s)
      | some (.unary f) => (.ok (f.reference value), s)
      | some _ => (.error (.fault (.callingConvention name .unary)), s) := by
  unfold callUnary
  rw [eval_bind, eval_callable]
  cases linked.find? name with
  | none => rfl
  | some c => cases c <;> rfl

theorem eval_callTile (linked : Linked) (name : String) (lane : Nat) :
    (callTile linked name lane).eval s =
      match linked.find? name with
      | none => (.error (.fault (.unresolvedCallable name)), s)
      | some (.tile f) => (.ok (), { s with threadgroup := f.apply s.threadgroup lane })
      | some _ => (.error (.fault (.callingConvention name .tile)), s) := by
  unfold callTile
  rw [eval_bind, eval_callable]
  cases linked.find? name with
  | none => rfl
  | some c => cases c <;> rfl

theorem eval_callPairTile (linked : Linked) (name : String) (split output thread lane : Nat) :
    (callPairTile linked name split output thread lane).eval s =
      match linked.find? name with
      | none => (.error (.fault (.unresolvedCallable name)), s)
      | some (.pairTile f) =>
        if split > s.threadgroup.size then
          (.error (.fault (.threadgroupOutOfBounds 0 split s.threadgroup.size)), s)
        else
          match s.buffers.get? output with
          | none => (.error (.fault (.missingBinding output)), s)
          | some c =>
            if thread ≥ c.size then
              (.error (.fault (.outOfBounds output thread (Size.wrap (thread + 1)) c.size)), s)
            else
              (.ok (), { s with
                buffers := s.buffers.update output fun c =>
                  f.apply (s.threadgroup.extract 0 split)
                    (s.threadgroup.extract split s.threadgroup.size) c thread lane })
      | some _ => (.error (.fault (.callingConvention name .pairTile)), s) := by
  unfold callPairTile
  rw [eval_bind, eval_callable]
  cases linked.find? name with
  | none => rfl
  | some c =>
    cases c with
    | unary f => rfl
    | tile f => rfl
    | pairTile f =>
      dsimp only
      rw [eval_bind_of_ok eval_get]
      by_cases hs : split > s.threadgroup.size
      · rw [if_pos hs, if_pos hs, eval_bind_of_error (eval_fault _)]
      · rw [if_neg hs, if_neg hs, eval_bind, eval_buffer]
        cases s.buffers.get? output with
        | none => rfl
        | some c =>
          dsimp only
          by_cases hc : thread ≥ c.size
          · rw [if_pos hc, if_pos hc, eval_bind_of_error (eval_fault _)]
          · rw [if_neg hc, if_neg hc, eval_modify]

/-! ## Loops -/

section

variable {step : Nat → GroupM Unit} {states : Nat → GroupState} {good : Nat → Prop}

theorem forFrom_succ (count start : Nat) :
    forFrom step (count + 1) start = step start >>= fun _ => forFrom step count (start + 1) := rfl

/-- A loop whose steps all do their part passes through every one of the states. -/
theorem eval_forFrom (count start : Nat)
    (h : ∀ i, start ≤ i → i < start + count → (step i).eval (states i) = (.ok (), states (i + 1))) :
    (forFrom step count start).eval (states start) = (.ok (), states (start + count)) := by
  induction count generalizing start with
  | zero => rfl
  | succ count ih =>
    rw [forFrom_succ, eval_bind_of_ok (h start (Nat.le_refl _) (by omega)),
      ih (start + 1) fun i hi hi' => h i (by omega) (by omega)]
    rw [show start + 1 + count = start + (count + 1) by omega]

/-- A loop ends with the step that does not do its part. -/
theorem stops_forFrom (count start : Nat)
    (hgood : ∀ i, start ≤ i → i < start + count → good i →
      (step i).eval (states i) = (.ok (), states (i + 1)))
    (hbad : ∀ i, start ≤ i → i < start + count → ¬ good i → Stops (step i) (states i))
    (h : ∃ i, start ≤ i ∧ i < start + count ∧ ¬ good i) :
    Stops (forFrom step count start) (states start) := by
  induction count generalizing start with
  | zero => obtain ⟨i, h1, h2, -⟩ := h; omega
  | succ count ih =>
    rw [forFrom_succ]
    by_cases hs : good start
    · -- the first step is not the one, so a later one is
      obtain ⟨i, h1, h2, hi⟩ := h
      have hne : i ≠ start := fun he => hi (he ▸ hs)
      obtain ⟨f, s', hstop⟩ := ih (start + 1)
        (fun i h1 h2 => hgood i (by omega) (by omega))
        (fun i h1 h2 => hbad i (by omega) (by omega)) ⟨i, by omega, by omega, hi⟩
      refine ⟨f, s', ?_⟩
      rw [eval_bind_of_ok (hgood start (Nat.le_refl _) (by omega) hs), hstop]
    · exact (hbad start (Nat.le_refl _) (by omega) hs).bind

/-- A loop takes all of its steps, or those in front of the first that stops. How a step ends has to
be known only where it is taken. -/
theorem forFrom_cases (stopAt : Nat → Option Stop) (count start : Nat)
    (h : ∀ i, start ≤ i → i < start + count → (∀ j, start ≤ j → j < i → stopAt j = none) →
      (step i).eval (states i) =
        match stopAt i with
        | none => (.ok (), states (i + 1))
        | some e => (.error e, states i)) :
    ((∀ i, start ≤ i → i < start + count → stopAt i = none) ∧
      (forFrom step count start).eval (states start) = (.ok (), states (start + count))) ∨
    ∃ i e, start ≤ i ∧ i < start + count ∧ (∀ j, start ≤ j → j < i → stopAt j = none) ∧
      stopAt i = some e ∧
      (forFrom step count start).eval (states start) = (.error e, states i) := by
  induction count generalizing start with
  | zero => exact .inl ⟨fun i hi hi' => by omega, rfl⟩
  | succ count ih =>
    have hfirst := h start (Nat.le_refl _) (by omega) fun j hj hj' => by omega
    rw [forFrom_succ]
    cases hstop : stopAt start with
    | some e =>
      rw [hstop] at hfirst
      exact .inr ⟨start, e, Nat.le_refl _, by omega, fun j hj hj' => by omega, hstop,
        eval_bind_of_error hfirst⟩
    | none =>
      rw [hstop] at hfirst
      rw [eval_bind_of_ok hfirst]
      have hnone : ∀ {j}, start ≤ j → (start + 1 ≤ j → stopAt j = none) → stopAt j = none :=
        fun hj hlater => (Nat.eq_or_lt_of_le hj).elim (fun he => he ▸ hstop) hlater
      rcases ih (start + 1) fun i hi hi' hbefore =>
          h i (by omega) (by omega) fun j hj hj' => hnone hj fun hj => hbefore j hj hj' with
        ⟨hall, hrest⟩ | ⟨i, e, hi, hi', hbefore, he, hrest⟩
      · refine .inl ⟨fun i hi hi' => hnone hi fun hi => hall i hi (by omega), ?_⟩
        rw [hrest, show start + 1 + count = start + (count + 1) by omega]
      · exact .inr ⟨i, e, by omega, by omega,
          fun j hj hj' => hnone hj fun hj => hbefore j hj hj', he, hrest⟩

theorem forBelow_cases (count : Nat) (states : Nat → GroupState) (stopAt : Nat → Option Stop)
    (h : ∀ i, i < count → (∀ j, j < i → stopAt j = none) → (step i).eval (states i) =
      match stopAt i with
      | none => (.ok (), states (i + 1))
      | some e => (.error e, states i)) :
    ((∀ i, i < count → stopAt i = none) ∧
      (forBelow count step).eval (states 0) = (.ok (), states count)) ∨
    ∃ i e, i < count ∧ (∀ j, j < i → stopAt j = none) ∧ stopAt i = some e ∧
      (forBelow count step).eval (states 0) = (.error e, states i) := by
  rcases forFrom_cases stopAt count 0 fun i _ hi hbefore =>
      h i (by omega) fun j => hbefore j (Nat.zero_le _) with
    ⟨hall, hrun⟩ | ⟨i, e, -, hi, hbefore, he, hrun⟩
  · exact .inl ⟨fun i hi => hall i (Nat.zero_le _) (by omega), by rwa [Nat.zero_add] at hrun⟩
  · exact .inr ⟨i, e, by omega, fun j hj => hbefore j (Nat.zero_le _) hj, he, hrun⟩

theorem eval_forBelow (count : Nat) (step : Nat → GroupM Unit) (states : Nat → GroupState)
    (h : ∀ i, i < count → (step i).eval (states i) = (.ok (), states (i + 1))) :
    (forBelow count step).eval (states 0) = (.ok (), states count) := by
  unfold forBelow
  rw [eval_forFrom count 0 fun i _ hi => h i (by omega), Nat.zero_add]

theorem stops_forBelow {count : Nat} (states : Nat → GroupState) (good : Nat → Prop)
    (hgood : ∀ i, i < count → good i → (step i).eval (states i) = (.ok (), states (i + 1)))
    (hbad : ∀ i, i < count → ¬ good i → Stops (step i) (states i))
    (h : ∃ i, i < count ∧ ¬ good i) : Stops (forBelow count step) (states 0) := by
  obtain ⟨i, hi, hi'⟩ := h
  exact stops_forFrom count 0 (fun j _ hj => hgood j (by omega))
    (fun j _ hj => hbad j (by omega)) ⟨i, Nat.zero_le _, by omega, hi'⟩

end

end GroupM

end KernelLink
