import KernelLink.Proofs.Exec.Frame
import KernelLink.Proofs.Exec.Relates

/-!
# Tables in another order

A table lists its buffers in the order in which they were bound, and everything that a group does
with it goes by index. So on two tables that have the same buffer at every index, whatever their
order, a group does the same and leaves two such tables behind.
-/

namespace KernelLink

/-- The same buffer at every index. -/
def BufferTable.Alike (t t' : BufferTable) : Prop := ∀ i, t.get? i = t'.get? i

theorem BufferTable.Alike.update {t t' : BufferTable} (h : t.Alike t') (index : Nat)
    (f : Array Single → Array Single) : (t.update index f).Alike (t'.update index f) := by
  intro i
  rw [get?_update, get?_update, h i, h index]

/-- Alike tables, and the same threadgroup memory. -/
structure GroupState.Alike (s s' : GroupState) : Prop where
  buffers : s.buffers.Alike s'.buffers
  threadgroup : s.threadgroup = s'.threadgroup

namespace GroupM

variable {α : Type} {out : Nat} {empty : Prop} {x : GroupM α}

/-- The step does not see in which order the table is. -/
def Blind (x : GroupM α) : Prop := Relates GroupState.Alike x x

/-- **No group sees in which order its buffers were bound**: it looks them up, changes one of them,
and else goes by the threadgroup memory. -/
theorem Built.blind (h : Built out empty x) : Blind x := by
  induction h with
  | pure a => exact Relates.pure a
  | fault f => exact Relates.stop _
  | emptyTile _ => exact Relates.stop _
  | bind _ _ hx hf => exact Relates.bind hx hf
  | buffer index =>
    refine Relates.get_bind fun s s' h => ?_
    rw [h.buffers index]
    cases s'.buffers.get? index with
    | some b => exact .pure b
    | none => exact .stop _
  | memory hsame _ hf =>
    refine Relates.get_bind fun s s' h => ?_
    rw [hsame s s' h.threadgroup]
    exact hf s'
  | @stage g _ => exact Relates.modify fun _ _ h => ⟨h.buffers, congrArg g h.threadgroup⟩
  | @store g _ => exact Relates.modify fun _ _ h => ⟨h.buffers.update out g, h.threadgroup⟩

end GroupM

end KernelLink
