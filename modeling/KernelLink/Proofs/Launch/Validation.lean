import KernelLink.Launch
import Mathlib.Data.List.Nodup

/-!
# What validation accepts

A launch is validated check after check, and the first that does not hold is the fault. Read from
the other end, an accepted launch is one for which all of them hold, and then the shape that is
submitted is the launch's own.
-/

namespace KernelLink

theorem repeatedIndex?_eq_none_iff {b : Bindings} (seen : List Nat) :
    repeatedIndex? seen b = none ↔ (b.map Prod.fst).Nodup ∧ ∀ e ∈ b, e.1 ∉ seen := by
  induction b generalizing seen with
  | nil => simp [repeatedIndex?]
  | cons e rest ih =>
    obtain ⟨i, h⟩ := e
    rw [List.map_cons, List.nodup_cons]
    unfold repeatedIndex?
    by_cases hi : i ∈ seen
    · rw [if_pos (List.contains_iff_mem.mpr hi)]
      constructor
      · intro hf; cases hf
      · rintro ⟨-, hs⟩
        exact absurd hi (hs (i, h) List.mem_cons_self)
    · rw [if_neg (fun hc => hi (List.contains_iff_mem.mp hc)), ih]
      constructor
      · rintro ⟨hn, hs⟩
        refine ⟨⟨fun hm => ?_, hn⟩, fun e he => ?_⟩
        · obtain ⟨e, he, hei⟩ := List.mem_map.mp hm
          exact hs e he (hei ▸ List.mem_cons_self)
        · rcases List.mem_cons.mp he with rfl | he
          · exact hi
          · exact fun hm => hs e he (List.mem_cons_of_mem _ hm)
      · rintro ⟨⟨hni, hn⟩, hs⟩
        refine ⟨hn, fun e he hm => ?_⟩
        rcases List.mem_cons.mp hm with hei | hm
        · exact hni (List.mem_map.mpr ⟨e, he, hei⟩)
        · exact hs e (List.mem_cons_of_mem _ he) hm

namespace HostDevice

variable {d : HostDevice} {p : LinkedPipeline} {l : Launch}

/-- **An accepted launch is one that passes every check.** -/
theorem validate_eq_ok_iff {s : DispatchShape} : d.validate p l = .ok s ↔
    s = l.shape ∧ 0 < l.invocations ∧ 0 < l.groupSize ∧ l.groupSize ≤ d.widestGroup p ∧
      (∀ width, l.requiredGroup = some width → width = l.groupSize) ∧
      (l.bindings.map Prod.fst).Nodup := by
  have hfilter : l.requiredGroup.filter (· ≠ l.groupSize) = none ↔
      ∀ width, l.requiredGroup = some width → width = l.groupSize := by
    rw [Option.filter_eq_none_iff]
    simp
  have hindices : repeatedIndex? [] l.bindings = none ↔ (l.bindings.map Prod.fst).Nodup := by
    rw [repeatedIndex?_eq_none_iff]
    simp
  rw [← hfilter, ← hindices]
  -- one check after the other, in the order in which they are made
  unfold validate
  by_cases hi : l.invocations = 0
  · rw [if_pos hi]
    exact ⟨fun h => (by cases h), fun h => by omega⟩
  rw [if_neg hi]
  by_cases hg : l.groupSize = 0
  · rw [if_pos hg]
    exact ⟨fun h => (by cases h), fun h => by omega⟩
  rw [if_neg hg]
  by_cases hw : d.widestGroup p < l.groupSize
  · rw [if_pos hw]
    exact ⟨fun h => (by cases h), fun h => by omega⟩
  rw [if_neg hw]
  cases l.requiredGroup.filter (· ≠ l.groupSize) with
  | some width => exact ⟨fun h => (by cases h), fun h => by cases h.2.2.2.2.1⟩
  | none =>
    cases repeatedIndex? [] l.bindings with
    | some index => exact ⟨fun h => (by cases h), fun h => by cases h.2.2.2.2.2⟩
    | none =>
      constructor
      · intro h
        cases h
        exact ⟨rfl, by omega, by omega, by omega, rfl, rfl⟩
      · rintro ⟨rfl, -⟩
        rfl

/-- What becomes of a launch: it is refused, or crashes, or is completed or fails. -/
theorem execute_eq (m : DeviceMemory) : d.execute p l m =
    match d.validate p l with
    | .error fault => .error (.fault (.launch fault))
    | .ok shape =>
      match p.pipeline.dispatch l.bindings shape m with
      | .error crash => .error (.crash crash)
      | .ok (completion, m') =>
        match completion.status with
        | .completed => .ok (⟨p.pipeline.name, shape, completion⟩, m')
        | .failed code => .error (.fault (.command code (completion.detail.getD ""))) := by
  unfold execute submit
  cases d.validate p l with
  | error fault => rfl
  | ok shape =>
    dsimp only
    rcases p.pipeline.dispatch l.bindings shape m with crash | ⟨completion, m'⟩ <;> rfl

end HostDevice

end KernelLink
