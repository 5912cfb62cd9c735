import KernelLink.Proofs.Exec.Steps

/-!
# Two runs side by side

Some statements compare two runs: one with more checks than the other, or one on another table. Both
are told here once. Two steps relate if, from related states, they end in the same way and leave
related states; what the relation between the states is does not matter for putting steps together.
-/

namespace KernelLink

namespace GroupM

variable {α β : Type} {R : GroupState → GroupState → Prop} {x y : GroupM α} {f f' : α → GroupM β}

/-- From related states both steps end with the same result, and leave related states. -/
def Relates (R : GroupState → GroupState → Prop) (x y : GroupM α) : Prop :=
  ∀ s s', R s s' → (x.eval s).1 = (y.eval s').1 ∧ R (x.eval s).2 (y.eval s').2

theorem Relates.pure (a : α) : Relates R (Pure.pure a : GroupM α) (Pure.pure a) :=
  fun _ _ h => ⟨rfl, h⟩

theorem Relates.stop (e : Stop) : Relates R (throw e : GroupM α) (throw e) :=
  fun _ _ h => ⟨rfl, h⟩

theorem Relates.bind (hx : Relates R x y) (hf : ∀ a, Relates R (f a) (f' a)) :
    Relates R (x >>= f) (y >>= f') := by
  intro s s' h
  obtain ⟨hresult, hstates⟩ := hx s s' h
  rw [eval_bind, eval_bind]
  rcases hxs : x.eval s with ⟨result, s₁⟩
  rcases hys : y.eval s' with ⟨result', s₁'⟩
  rw [hxs, hys] at hresult hstates
  obtain rfl : result = result' := hresult
  cases result with
  | error e => exact ⟨rfl, hstates⟩
  | ok a => exact hf a s₁ s₁' hstates

/-- What the two read of their states are related states. -/
theorem Relates.get_bind {f f' : GroupState → GroupM β}
    (hf : ∀ s s', R s s' → Relates R (f s) (f' s')) : Relates R (get >>= f) (get >>= f') := by
  intro s s' h
  rw [eval_bind_of_ok eval_get, eval_bind_of_ok eval_get]
  exact hf s s' h s s' h

theorem Relates.modify {g g' : GroupState → GroupState} (h : ∀ s s', R s s' → R (g s) (g' s')) :
    Relates R (modify g : GroupM Unit) (modify g') := fun s s' hs => ⟨rfl, h s s' hs⟩

/-- A check that both make; what stands behind it is run if it is passed. -/
theorem Relates.check {c : Prop} [Decidable c] {e : Stop} {k k' : Unit → GroupM β}
    {z z' : GroupM β} (h : ¬c → Relates R z z') :
    Relates R (if c then throw e >>= k else z) (if c then throw e >>= k' else z') := by
  by_cases hc : c
  · rw [if_pos hc, if_pos hc]
    intro s s' hs
    rw [eval_bind_of_error (eval_throw e), eval_bind_of_error (eval_throw e)]
    exact ⟨rfl, hs⟩
  · rw [if_neg hc, if_neg hc]
    exact h hc

theorem Relates.forFrom {step step' : Nat → GroupM Unit} (count start : Nat)
    (h : ∀ i, start ≤ i → i < start + count → Relates R (step i) (step' i)) :
    Relates R (forFrom step count start) (forFrom step' count start) := by
  induction count generalizing start with
  | zero => exact .pure ()
  | succ count ih =>
    rw [forFrom_succ, forFrom_succ]
    exact (h start (Nat.le_refl _) (by omega)).bind fun _ =>
      ih (start + 1) fun i hi hi' => h i (by omega) (by omega)

theorem Relates.forBelow {step step' : Nat → GroupM Unit} {count : Nat}
    (h : ∀ i, i < count → Relates R (step i) (step' i)) :
    Relates R (forBelow count step) (forBelow count step') :=
  .forFrom count 0 fun i _ hi => h i (by omega)

end GroupM

end KernelLink
