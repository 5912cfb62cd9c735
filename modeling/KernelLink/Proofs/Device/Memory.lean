import KernelLink.Device.Dispatch
import KernelLink.Proofs.Exec.Frame
import Mathlib.Data.List.Nodup

/-!
# Buffers in and out of a dispatch

A dispatch copies the bound buffers into a table and, when it completes, copies the table back.
This module says what the table holds at each index and what each buffer holds afterwards, for any
list of bindings: an index may be bound twice, and one buffer may be bound at two indices. Under
`Apart` none of that can touch the buffer that a kernel writes, and the two copies undo each other.
-/

namespace KernelLink

namespace DeviceMemory

variable {m : DeviceMemory} {h h' : BufferHandle} {w : Array Single}

theorem words_set_of_ne (hne : h' ≠ h) : (m.set h w).words h' = m.words h' := by
  have hidx : ¬ h.index = h'.index := by
    intro he
    cases h; cases h'
    exact hne (congrArg BufferHandle.mk he.symm)
  unfold words set
  rw [Array.getElem?_modify, if_neg hidx]

/-- Storing words of the same length reads back, even where no buffer was allocated. -/
theorem words_set_self (hw : w.size = (m.words h).size) : (m.set h w).words h = w := by
  unfold words set at *
  rw [Array.getElem?_modify, if_pos rfl]
  cases hb : m.buffers[h.index]? with
  | some b => rfl
  | none =>
    rw [hb] at hw
    exact (Array.eq_empty_of_size_eq_zero hw).symm

end DeviceMemory

namespace Bindings

/-- The buffer that a dispatch sees at an index: of two bound there the later. -/
def at? : Bindings → Nat → Option BufferHandle
  | [], _ => none
  | (j, h) :: rest, i => (at? rest i).or (if j = i then some h else none)

variable {b : Bindings} {i : Nat} {h : BufferHandle}

theorem at?_cons (j : Nat) (g : BufferHandle) :
    at? ((j, g) :: b) i = (at? b i).or (if j = i then some g else none) := rfl

theorem mem_of_at? (hb : at? b i = some h) : (i, h) ∈ b := by
  induction b with
  | nil => simp [at?] at hb
  | cons e rest ih =>
    obtain ⟨j, g⟩ := e
    rw [at?_cons] at hb
    cases hr : at? rest i with
    | some x =>
      rw [hr, Option.some_or] at hb
      exact List.mem_cons_of_mem _ (ih (hr.trans hb))
    | none =>
      rw [hr, Option.none_or] at hb
      by_cases hji : j = i
      · rw [if_pos hji] at hb
        cases hb; subst hji
        exact List.mem_cons_self
      · rw [if_neg hji] at hb; cases hb

theorem exists_at?_of_mem (hb : (i, h) ∈ b) : ∃ g, at? b i = some g := by
  induction b with
  | nil => cases hb
  | cons e rest ih =>
    obtain ⟨j, g⟩ := e
    rw [at?_cons]
    rcases List.mem_cons.mp hb with he | hr
    · cases he
      rw [if_pos rfl]
      cases at? rest i with
      | some x => exact ⟨x, rfl⟩
      | none => exact ⟨h, rfl⟩
    · obtain ⟨g, hg⟩ := ih hr
      exact ⟨g, by rw [hg]; rfl⟩

/-- Without repeated indices, one buffer is bound at an index. -/
theorem eq_of_mem {g : BufferHandle} (hn : (b.map Prod.fst).Nodup) (hg : (i, g) ∈ b)
    (hh : (i, h) ∈ b) : g = h :=
  (Prod.mk.inj (List.inj_on_of_nodup_map hn hg hh rfl)).2

/-- Without repeated indices, what is seen at an index is what is bound there. -/
theorem at?_eq_some_iff (hn : (b.map Prod.fst).Nodup) : at? b i = some h ↔ (i, h) ∈ b := by
  constructor
  · exact mem_of_at?
  · intro hm
    obtain ⟨g, hg⟩ := exists_at?_of_mem hm
    rw [hg, eq_of_mem hn (mem_of_at? hg) hm]

/--
No index is bound twice, and the buffer at `out` is bound at no other index. Any table of distinct
buffers is like this at every index.
-/
structure Apart (out : Nat) (b : Bindings) : Prop where
  indices : (b.map Prod.fst).Nodup
  output : ∀ h, (out, h) ∈ b → ∀ i, (i, h) ∈ b → i = out

theorem apart_of_nodup (hi : (b.map Prod.fst).Nodup) (hh : (b.map Prod.snd).Nodup) (out : Nat) :
    b.Apart out where
  indices := hi
  output _ ho _ hm := congrArg Prod.fst (List.inj_on_of_nodup_map hh hm ho rfl)

end Bindings

namespace Pipeline

variable {m : DeviceMemory} {b : Bindings} {t : BufferTable} {h : BufferHandle} {i : Nat}

/-- The table holds what is seen at each index. -/
theorem get?_table : (table m b).get? i = (b.at? i).map m.words := by
  -- the fold starts from any table, and a binding hides what was there before
  have key : ∀ t : BufferTable,
      (b.foldl (fun t e => t.bind e.1 (m.words e.2)) t).get? i
        = ((b.at? i).map m.words).or (t.get? i) := by
    induction b with
    | nil => intro t; rfl
    | cons e rest ih =>
      obtain ⟨j, g⟩ := e
      intro t
      rw [List.foldl_cons, ih, BufferTable.get?_bind, Bindings.at?_cons]
      cases Bindings.at? rest i with
      | some x => rfl
      | none =>
        by_cases hji : i = j
        · rw [if_pos hji, if_pos hji.symm]; rfl
        · rw [if_neg hji, if_neg (Ne.symm hji)]; rfl
  refine (key []).trans ?_
  cases (b.at? i).map m.words <;> rfl

theorem get?_table_of_mem (hn : (b.map Prod.fst).Nodup) (hm : (i, h) ∈ b) :
    (table m b).get? i = some (m.words h) := by
  rw [get?_table, (Bindings.at?_eq_some_iff hn).mpr hm]; rfl

/-- A buffer of the table is one that is bound. -/
theorem mem_of_get?_table {w : Array Single} (ht : (table m b).get? i = some w) :
    ∃ h, (i, h) ∈ b ∧ m.words h = w := by
  rw [get?_table, Option.map_eq_some_iff] at ht
  obtain ⟨h, hb, hw⟩ := ht
  exact ⟨h, Bindings.mem_of_at? hb, hw⟩

/-! ## Copying back -/

theorem writeBack_cons (e : Nat × BufferHandle) :
    writeBack (e :: b) t m = writeBack b t
      (match t.get? e.1 with
        | some words => m.set e.2 words
        | none => m) := rfl

theorem words_writeBack_of_not_mem (hn : ∀ i, (i, h) ∉ b) :
    (writeBack b t m).words h = m.words h := by
  induction b generalizing m with
  | nil => rfl
  | cons e rest ih =>
    obtain ⟨j, g⟩ := e
    have hg : h ≠ g := fun he => hn j (he ▸ List.mem_cons_self)
    rw [writeBack_cons, ih fun i hi => hn i (List.mem_cons_of_mem _ hi)]
    cases t.get? j with
    | none => rfl
    | some w => exact DeviceMemory.words_set_of_ne hg

/-- Copying back one binding keeps the length of a buffer, if it is copied in that length. -/
theorem size_words_copied (e : Nat × BufferHandle)
    (hs : ∀ w, e.2 = h → t.get? e.1 = some w → w.size = (m.words h).size) :
    ((match t.get? e.1 with
      | some words => m.set e.2 words
      | none => m).words h).size = (m.words h).size := by
  cases hj : t.get? e.1 with
  | none => rfl
  | some w =>
    by_cases hg : e.2 = h
    · have hw := hs w hg hj
      subst hg
      dsimp only
      rw [DeviceMemory.words_set_self hw, hw]
    · exact congrArg Array.size (DeviceMemory.words_set_of_ne (Ne.symm hg))

/-- The length of a buffer stays when the table has not moved the lengths at its indices. -/
theorem size_writeBack
    (hs : ∀ i w, (i, h) ∈ b → t.get? i = some w → w.size = (m.words h).size) :
    ((writeBack b t m).words h).size = (m.words h).size := by
  induction b generalizing m with
  | nil => rfl
  | cons e rest ih =>
    have hset := size_words_copied e fun w he hw => hs e.1 w (he ▸ List.mem_cons_self) hw
    rw [writeBack_cons]
    -- so the rest of the bindings still finds the same length
    rw [ih, hset]
    intro i w hi hw
    rw [hset]
    exact hs i w (List.mem_cons_of_mem _ hi) hw

/-- A buffer ends with what the table holds at its indices, as long as it is the same at each. -/
theorem words_writeBack {w : Array Single} (hb : ∃ i, (i, h) ∈ b)
    (ht : ∀ i, (i, h) ∈ b → t.get? i = some w) (hw : w.size = (m.words h).size) :
    (writeBack b t m).words h = w := by
  induction b generalizing m with
  | nil => obtain ⟨i, hi⟩ := hb; cases hi
  | cons e rest ih =>
    obtain ⟨j, g⟩ := e
    rw [writeBack_cons]
    have hrest : ∀ i, (i, h) ∈ rest → t.get? i = some w :=
      fun i hi => ht i (List.mem_cons_of_mem _ hi)
    by_cases hr : ∃ i, (i, h) ∈ rest
    · refine ih hr hrest ?_
      cases hj : t.get? j with
      | none => exact hw
      | some w' =>
        by_cases hg : h = g
        · subst hg
          rw [ht j List.mem_cons_self] at hj
          cases hj
          dsimp only
          rw [DeviceMemory.words_set_self hw]
        · dsimp only
          rw [DeviceMemory.words_set_of_ne hg]; exact hw
    · -- this is the last binding of the buffer
      obtain ⟨i, hi⟩ := hb
      rcases List.mem_cons.mp hi with he | hi
      · cases he
        rw [words_writeBack_of_not_mem fun i hi => hr ⟨i, hi⟩, ht _ List.mem_cons_self]
        exact DeviceMemory.words_set_self hw
      · exact absurd ⟨i, hi⟩ hr

/-! ## After a run that kept to one buffer -/

variable {out : Nat} {t' : BufferTable}

theorem size_writeBack_of_frame (hn : (b.map Prod.fst).Nodup)
    (hf : BufferTable.Frame out (table m b) t') :
    ((writeBack b t' m).words h).size = (m.words h).size := by
  refine size_writeBack fun i w hi hw => ?_
  have hs := hf.size i
  rw [hw, get?_table_of_mem hn hi] at hs
  exact Option.some.inj hs

theorem words_writeBack_output (ha : b.Apart out) (hf : BufferTable.Frame out (table m b) t')
    {w : Array Single} (ho : (out, h) ∈ b) (hw : t'.get? out = some w) :
    (writeBack b t' m).words h = w := by
  refine words_writeBack ⟨out, ho⟩ (fun i hi => ?_) ?_
  · rw [ha.output h ho i hi]; exact hw
  · -- the group kept the length, so the words fit where they came from
    have hs := hf.size out
    rw [hw, get?_table_of_mem ha.indices ho] at hs
    exact Option.some.inj hs

theorem words_writeBack_others (hn : (b.map Prod.fst).Nodup)
    (hf : BufferTable.Frame out (table m b) t') (ho : (out, h) ∉ b) :
    (writeBack b t' m).words h = m.words h := by
  by_cases hb : ∃ i, (i, h) ∈ b
  · refine words_writeBack hb (fun i hi => ?_) rfl
    have hi' : i ≠ out := fun he => ho (he ▸ hi)
    rw [hf.others i hi', get?_table_of_mem hn hi]
  · exact words_writeBack_of_not_mem fun i hi => hb ⟨i, hi⟩

end Pipeline

end KernelLink
