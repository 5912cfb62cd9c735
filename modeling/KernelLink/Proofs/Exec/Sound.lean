import KernelLink.Proofs.Exec.Frame
import KernelLink.Proofs.Exec.Staged
import KernelLink.Proofs.Exec.Tiles

/-!
# What can stop a kernel

A kernel whose calls are resolved stays inside its own threadgroup memory and calls every function
by its own convention. So all that can stop it is a buffer: one that is not bound, or one that is
too short. That holds of every step, and it holds along a run because no step changes the length of
the threadgroup memory. The one exception is a tile of more cells than can be counted, whose memory
is made for fewer.
-/

namespace KernelLink

/-- The stop is about a buffer that is bound, or should be. -/
def Stop.OverBuffer : Stop → Prop
  | .fault (.missingBinding _) => True
  | .fault (.outOfBounds ..) => True
  | _ => False

namespace GroupM

variable {α β : Type} {n : Nat} {x : GroupM α} {f : α → GroupM β}

/-- On threadgroup memory of `n` elements, the step ends with as many or stops over a buffer. -/
def Sound (n : Nat) (x : GroupM α) : Prop :=
  ∀ s : GroupState, s.threadgroup.size = n →
    match x.eval s with
    | (.ok _, s') => s'.threadgroup.size = n
    | (.error stop, _) => stop.OverBuffer

theorem Sound.pure (a : α) : Sound n (Pure.pure a : GroupM α) := fun _ hs => hs

theorem Sound.bind (hx : Sound n x) (hf : ∀ a, Sound n (f a)) : Sound n (x >>= f) := by
  intro s hs
  rw [eval_bind]
  have h := hx s hs
  rcases hr : x.eval s with ⟨e | a, s'⟩
  · rw [hr] at h; exact h
  · rw [hr] at h; exact hf a s' h

/-- What a step reads of the state is a state with the same threadgroup memory. -/
theorem Sound.get_bind {f : GroupState → GroupM β}
    (hf : ∀ s, s.threadgroup.size = n → Sound n (f s)) : Sound n (get >>= f) := by
  intro s hs
  rw [eval_bind_of_ok eval_get]
  exact hf s hs s hs

theorem Sound.change {g : GroupState → GroupState}
    (h : ∀ s, (g s).threadgroup.size = s.threadgroup.size) : Sound n (modify g : GroupM Unit) :=
  fun s hs => (h s).trans hs

/-- A check that is passed. -/
theorem Sound.check {c : Prop} [Decidable c] {e : Stop} {k : Unit → GroupM β} (hc : ¬ c)
    (hk : Sound n (k ())) : Sound n (if c then throw e >>= k else k ()) := by
  rw [if_neg hc]
  exact hk

/-- A loop over positions that are sound one by one. -/
theorem Sound.forFrom {step : Nat → GroupM Unit} (count start : Nat)
    (h : ∀ i, start ≤ i → i < start + count → Sound n (step i)) :
    Sound n (forFrom step count start) := by
  induction count generalizing start with
  | zero => exact .pure ()
  | succ count ih =>
    rw [forFrom_succ]
    exact (h start (Nat.le_refl _) (by omega)).bind fun _ =>
      ih (start + 1) fun i hi hi' => h i (by omega) (by omega)

theorem Sound.forBelow {step : Nat → GroupM Unit} {count : Nat}
    (h : ∀ i, i < count → Sound n (step i)) : Sound n (forBelow count step) :=
  .forFrom count 0 fun i _ hi => h i (by omega)

/-! ## Operations -/

theorem Sound.buffer (index : Nat) : Sound n (buffer index) := by
  intro s hs
  rw [eval_buffer]
  cases s.buffers.get? index with
  | none => trivial
  | some b => exact hs

theorem Sound.write (index offset : Nat) (value : Single) :
    Sound n (write index offset value) := by
  intro s hs
  rw [eval_write]
  cases s.buffers.get? index with
  | none => trivial
  | some b =>
    dsimp only
    by_cases h : offset < b.size
    · rw [if_pos h]; exact hs
    · rw [if_neg h]; trivial

/-- A copy into threadgroup memory that has room for it. -/
theorem Sound.copyIn {count offset : Nat} (h : offset + count ≤ n) (source start : Nat) :
    Sound n (copyIn source start count offset) := by
  intro s hs
  rw [eval_copyIn]
  cases s.buffers.get? source with
  | none => trivial
  | some b =>
    dsimp only
    by_cases hb : start + count > b.size
    · rw [if_pos hb]; trivial
    · rw [if_neg hb, if_neg (by omega)]
      exact (Patch.size_apply).trans hs

theorem Sound.copyTileIn (source stride : Nat) {e : Extent} (he : e.Fits) (h : e.size ≤ n) :
    Sound n (copyTileIn source stride e 0) := by
  refine .forBelow fun row hrow => .copyIn ?_ source _
  have hend := Extent.row_end_le_size he hrow
  rw [Nat.add_mul, Nat.one_mul] at hend
  omega

theorem Sound.copyTileOut (target stride : Nat) {e : Extent} (he : e.Fits) (h : e.size ≤ n) :
    Sound n (copyTileOut target stride e 0) := by
  -- The check reads the length as it is here, and no step before has changed it.
  refine .get_bind fun s hs => Sound.check (by omega) ?_
  refine (Sound.buffer target).bind fun b => .forBelow fun row hrow => ?_
  dsimp only
  split
  · exact fun _ _ => trivial
  · exact Sound.check (Nat.not_lt.mpr (Extent.row_end_le_size he hrow)) (.change fun _ => rfl)

/-! ## Calls that are resolved -/

section

variable {linked : Linked} {name : String}

theorem Sound.callUnary {t : Transform} (h : linked.find? name = some (.unary t))
    (value : Single) : Sound n (callUnary linked name value) := by
  intro s hs
  rw [eval_callUnary, h]
  exact hs

theorem Sound.callTile {p : TileScaling} (h : linked.find? name = some (.tile p)) (lane : Nat) :
    Sound n (callTile linked name lane) := by
  intro s hs
  rw [eval_callTile, h]
  exact (p.size_apply s.threadgroup lane).trans hs

theorem Sound.callPairTile {v : Variant} (h : linked.find? name = some (.pairTile v))
    {split : Nat} (hsplit : split ≤ n) (output thread lane : Nat) :
    Sound n (callPairTile linked name split output thread lane) := by
  intro s hs
  rw [eval_callPairTile, h]
  dsimp only
  rw [if_neg (by omega)]
  cases s.buffers.get? output with
  | none => trivial
  | some c =>
    dsimp only
    by_cases hc : thread ≥ c.size
    · rw [if_pos hc]; trivial
    · rw [if_neg hc]; exact hs

end

end GroupM

namespace Kernel

open GroupM

variable {k : Kernel} {linked : Linked} {tile : Nat}

end Kernel

end KernelLink
