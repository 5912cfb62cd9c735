import KernelLink.Exec.Kernel
import KernelLink.Proofs.Exec.Steps

/-!
# What a kernel leaves alone

However a run ends, and however far it got, it has written to one buffer only, the one at the
kernel's output index, and no length has moved. A fault in the middle of a copy leaves half of the
copy behind, so the statement is about every state that a step can leave and not only about the ones
it is meant to leave.

The operations and the kernels are gone through once, with `Built`: it lists the few kinds of steps
that all of them are put together from. Whatever is to be shown of a group, here and later, is an
induction with one case for each kind.
-/

namespace KernelLink

/-- `t'` is `t` up to the contents of the buffer at `out`. -/
structure BufferTable.Frame (out : Nat) (t t' : BufferTable) : Prop where
  /-- The same indices are bound, to buffers of the same lengths. -/
  size : ∀ i, (t'.get? i).map Array.size = (t.get? i).map Array.size
  /-- All other buffers are the same. -/
  others : ∀ i, i ≠ out → t'.get? i = t.get? i

namespace BufferTable.Frame

variable {out : Nat} {t t' t'' : BufferTable}

theorem refl (out : Nat) (t : BufferTable) : Frame out t t := ⟨fun _ => rfl, fun _ _ => rfl⟩

theorem trans (h : Frame out t t') (h' : Frame out t' t'') : Frame out t t'' where
  size i := (h'.size i).trans (h.size i)
  others i hi := (h'.others i hi).trans (h.others i hi)

theorem update {f : Array Single → Array Single} (hf : ∀ b, (f b).size = b.size) :
    Frame out t (t.update out f) where
  size i := by
    rw [get?_update]
    by_cases h : i = out
    · subst h
      rw [if_pos rfl, Option.map_map]
      cases t.get? i with
      | none => rfl
      | some b => exact congrArg some (hf b)
    · rw [if_neg h]
  others i hi := get?_update_of_ne hi f

theorem patch (p : Patch) : Frame out t (t.patch out p) := update fun _ => Patch.size_apply

/-- What fits a buffer after a run has fitted it before. -/
theorem get?_of_le (h : Frame out t t') {i n : Nat} :
    (∃ b, t'.get? i = some b ∧ n ≤ b.size) ↔ ∃ b, t.get? i = some b ∧ n ≤ b.size := by
  have hs := h.size i
  cases h1 : t.get? i <;> cases h2 : t'.get? i <;> rw [h1, h2] at hs <;> simp_all

end BufferTable.Frame

/-- `s'` is `s` up to the contents of the buffer at `out` and of the threadgroup memory. -/
structure GroupState.Frame (out : Nat) (s s' : GroupState) : Prop where
  buffers : BufferTable.Frame out s.buffers s'.buffers
  threadgroup : s'.threadgroup.size = s.threadgroup.size

namespace GroupState.Frame

variable {out : Nat} {s s' s'' : GroupState}

theorem refl (out : Nat) (s : GroupState) : Frame out s s := ⟨.refl out _, rfl⟩

theorem trans (h : Frame out s s') (h' : Frame out s' s'') : Frame out s s'' :=
  ⟨h.buffers.trans h'.buffers, h'.threadgroup.trans h.threadgroup⟩

end GroupState.Frame

theorem TileScaling.size_apply (f : TileScaling) (threadgroup : Array Single) (lane : Nat) :
    (f.apply threadgroup lane).size = threadgroup.size := by
  unfold apply
  split
  · exact Array.size_modify
  · rfl

theorem Variant.size_apply (v : Variant) (a b c : Array Single) (thread lane : Nat) :
    (v.apply a b c thread lane).size = c.size := by
  unfold apply
  split
  · exact Array.size_modify
  · rfl

/-! ## What a group is put together from -/

namespace GroupM

/-- Put together from the steps of a group, none of which writes another buffer than the one at
`out`, and none of which misses the elements of a tile unless `empty`. -/
inductive Built (out : Nat) (empty : Prop) : {α : Type} → GroupM α → Prop
  | pure {α : Type} (a : α) : Built out empty (Pure.pure a : GroupM α)
  | fault {α : Type} (f : Fault) : Built out empty (GroupM.fault f : GroupM α)
  | emptyTile {α : Type} (h : empty) : Built out empty (throw .emptyTile : GroupM α)
  | bind {α β : Type} {x : GroupM α} {f : α → GroupM β} (hx : Built out empty x)
      (hf : ∀ a, Built out empty (f a)) : Built out empty (x >>= f)
  | buffer (index : Nat) : Built out empty (GroupM.buffer index)
  /-- What follows goes by the threadgroup memory of the state that is read. -/
  | memory {β : Type} {f : GroupState → GroupM β}
      (hsame : ∀ s s', s.threadgroup = s'.threadgroup → f s = f s')
      (hf : ∀ s, Built out empty (f s)) : Built out empty (get >>= f)
  /-- A change of the threadgroup memory alone. -/
  | stage {g : Array Single → Array Single} (hg : ∀ b, (g b).size = b.size) :
      Built out empty (modify fun s => { s with threadgroup := g s.threadgroup })
  /-- A change of the buffer at `out` alone. -/
  | store {g : Array Single → Array Single} (hg : ∀ b, (g b).size = b.size) :
      Built out empty (modify fun s => { s with buffers := s.buffers.update out g })

namespace Built

variable {α β : Type} {out : Nat} {empty : Prop}

/-- A check, in front of what is done if it is passed. -/
theorem check {c : Prop} [Decidable c] {e : Stop} {k : Unit → GroupM β} {z : GroupM β}
    (he : c → Built out empty (throw e : GroupM β)) (hz : Built out empty z) :
    Built out empty (if c then throw e >>= k else z) := by
  split
  · rename_i hc
    exact he hc
  · exact hz

/-- A check that ends with a fault. -/
theorem guard {c : Prop} [Decidable c] {f : Fault} {k : Unit → GroupM β} {z : GroupM β}
    (hz : Built out empty z) : Built out empty (if c then GroupM.fault f >>= k else z) :=
  check (fun _ => .fault f) hz

theorem forFrom {step : Nat → GroupM Unit} (count start : Nat)
    (h : ∀ i, i < start + count → Built out empty (step i)) :
    Built out empty (forFrom step count start) := by
  induction count generalizing start with
  | zero => exact .pure ()
  | succ count ih =>
    exact (h start (by omega)).bind fun _ => ih (start + 1) fun i hi => h i (by omega)

theorem forBelow {step : Nat → GroupM Unit} {count : Nat}
    (h : ∀ i, i < count → Built out empty (step i)) : Built out empty (forBelow count step) :=
  forFrom count 0 fun i hi => h i (by omega)

theorem write (offset : Nat) (value : Single) : Built out empty (write out offset value) := by
  refine (buffer out).bind fun b => ?_
  split
  · exact .store fun _ => Array.size_modify
  · exact .fault _

theorem copyIn (source start count offset : Nat) :
    Built out empty (copyIn source start count offset) := by
  refine (buffer source).bind fun b => guard ?_
  refine .memory (fun s s' h => by rw [h]) fun s => guard ?_
  exact .stage fun _ => Patch.size_overwrite _ _

theorem copyTileIn (source stride : Nat) (e : Extent) (offset : Nat) :
    Built out empty (copyTileIn source stride e offset) :=
  forBelow fun _ _ => copyIn _ _ _ _

/-- A copy back misses cells only where they cannot be counted. -/
theorem copyTileOut (stride : Nat) {e : Extent} (he : ¬e.Fits → empty) (offset : Nat) :
    Built out empty (copyTileOut out stride e offset) := by
  refine .memory (fun s s' h => by rw [h]) fun s => guard ?_
  refine (buffer out).bind fun b => forBelow fun row hrow => guard <| check (fun hcut => ?_) ?_
  · exact .emptyTile (he fun hfits => absurd (Extent.row_end_le_size hfits hrow) (by omega))
  · exact .store fun _ => Patch.size_overwrite _ _

theorem callable (linked : Linked) (name : String) :
    Built out empty (callable linked name) := by
  unfold GroupM.callable
  cases linked.find? name with
  | some c => exact .pure c
  | none => exact .fault _

theorem callUnary (linked : Linked) (name : String) (value : Single) :
    Built out empty (callUnary linked name value) := by
  refine (callable linked name).bind fun c => ?_
  cases c with
  | unary f => exact .pure _
  | tile f => exact .fault _
  | pairTile f => exact .fault _

theorem callTile (linked : Linked) (name : String) (lane : Nat) :
    Built out empty (callTile linked name lane) := by
  refine (callable linked name).bind fun c => ?_
  cases c with
  | unary f => exact .fault _
  | tile f => exact .stage fun b => f.size_apply b lane
  | pairTile f => exact .fault _

theorem callPairTile (linked : Linked) (name : String) (split thread lane : Nat) :
    Built out empty (callPairTile linked name split out thread lane) := by
  refine (callable linked name).bind fun c => ?_
  cases c with
  | unary f => exact .fault _
  | tile f => exact .fault _
  | pairTile f =>
    refine .memory (fun s s' h => by rw [h]) fun s => guard ?_
    refine (buffer out).bind fun b => guard ?_
    exact .store fun b => f.size_apply _ _ b thread lane

end Built

end GroupM

/-- The rows and columns that a tile covers. -/
def TileGeometry.extent (g : TileGeometry) : Extent := ⟨g.rows, g.tileCols⟩

namespace Kernel

open GroupM

/-- The index of the buffer that a kernel writes. -/
def output : Kernel → Nat
  | stagedUnary .. => 1
  | tileRoundtrip .. => 1
  | pairedTiles .. => 2

/-- The length of the tile that a kernel stages from each input. -/
def tile? : Kernel → Option Nat
  | stagedUnary _ tile _ => some tile
  | pairedTiles _ tile _ => some tile
  | tileRoundtrip .. => none

/-- The kernel stages a tile of more cells than a size counts. -/
def Overflows : Kernel → Prop
  | tileRoundtrip _ geometry _ => ¬geometry.extent.Fits
  | _ => False

theorem built_applyOp (out : Nat) (empty : Prop) (linked : Linked) (op : ElementOp) (x : Single) :
    Built out empty (applyOp linked op x) := by
  cases op with
  | scale factor => exact .pure _
  | call callee => exact .callUnary linked callee x

/-- **A group writes its kernel's output buffer and no other**, and misses the elements of a tile
only if there are none or too many to be counted. -/
theorem built_run (k : Kernel) (g : GroupShape) (linked : Linked) :
    Built k.output (k.tile? = some 0 ∨ k.Overflows) (k.run g linked) := by
  cases k with
  | stagedUnary name tile op =>
    refine .check (fun htile => .emptyTile (.inl (congrArg some htile))) ?_
    refine (Built.copyIn _ _ _ _).bind fun _ => .forBelow fun lane _ => ?_
    refine .memory (fun s s' h => by rw [h]) fun s => ?_
    exact (built_applyOp _ _ linked op _).bind fun y => .write _ y
  | tileRoundtrip name geometry callee =>
    refine (Built.copyTileIn _ _ _ _).bind fun _ => ?_
    refine (Built.forBelow fun lane _ => .callTile linked callee _).bind fun _ => ?_
    exact .copyTileOut _ .inr _
  | pairedTiles name tile callee =>
    refine .check (fun htile => .emptyTile (.inl (congrArg some htile))) ?_
    refine (Built.copyIn _ _ _ _).bind fun _ => (Built.copyIn _ _ _ _).bind fun _ => ?_
    exact .forBelow fun lane _ => .callPairTile linked callee tile _ _

end Kernel

/-! ## What it leaves alone -/

namespace GroupM

variable {α β : Type} {out : Nat} {empty : Prop} {x : GroupM α} {f : α → GroupM β}

/-- However the step ends, it has changed nothing but the buffer at `out` and the threadgroup
memory. -/
def Keeps (out : Nat) (x : GroupM α) : Prop := ∀ s, GroupState.Frame out s (x.eval s).2

theorem Keeps.bind (hx : Keeps out x) (hf : ∀ a, Keeps out (f a)) : Keeps out (x >>= f) := by
  intro s
  rw [eval_bind]
  have h := hx s
  rcases hr : x.eval s with ⟨e | a, s'⟩
  · rw [hr] at h; exact h
  · rw [hr] at h; exact h.trans (hf a s')

theorem Built.keeps (h : Built out empty x) : Keeps out x := by
  induction h with
  | pure a => exact fun s => .refl out s
  | fault f => exact fun s => .refl out s
  | emptyTile _ => exact fun s => .refl out s
  | bind _ _ hx hf => exact hx.bind hf
  | buffer index =>
    intro s
    rw [eval_buffer]
    cases s.buffers.get? index <;> exact .refl out s
  | memory _ _ hf => exact fun s => hf s s
  | stage hg => exact fun s => ⟨.refl out s.buffers, hg s.threadgroup⟩
  | store hg => exact fun s => ⟨.update hg, rfl⟩

end GroupM

end KernelLink
