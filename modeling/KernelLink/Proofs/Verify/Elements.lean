import KernelLink.Proofs.Number.Zero
import KernelLink.Proofs.Verify.Samples

/-!
# What an element report says

Every number in a report is a count of one thing: the indices at which the output has an element
close enough to the reference. The report is described here by that alone, without the walk that
makes it.
-/

namespace KernelLink

namespace Verifier

variable {ι : Type}

/-- The output has an element at the index, within tolerance of the reference of that input. -/
def Meets (v : Verifier) (output : Array Single) (inputs : List ι) (reference : ι → Single)
    (i : Nat) : Prop :=
  ∃ x, output[i]? = some x ∧ ∃ input, inputs[i]? = some input ∧
    (x - reference input).abs.le v.tolerance

section

variable {v : Verifier} {output : Array Single} {inputs : List ι} {text : ι → String}
  {reference : ι → Single} {i : Nat}

theorem accepts_iff {actual : Option Single} {expected : Single} : v.accepts actual expected ↔
    ∃ x, actual = some x ∧ (x - expected).abs.le v.tolerance := by
  unfold accepts
  rw [Option.any_eq_true]

theorem meets_iff {input : ι} (h : inputs[i]? = some input) :
    v.Meets output inputs reference i ↔ v.accepts output[i]? (reference input) := by
  unfold Meets
  rw [accepts_iff, h]
  simp

instance : DecidablePred (v.Meets output inputs reference) := fun i =>
  decidable_of_iff ((inputs[i]?).any fun input => v.accepts output[i]? (reference input)) <| by
    cases h : inputs[i]? with
    | none =>
      refine ⟨nofun, fun ⟨x, _, input, hinput, _⟩ => ?_⟩
      rw [h] at hinput
      cases hinput
    | some input => exact (meets_iff h).symm

/-! ## The checks -/

theorem getElem?_checks : (v.checks output inputs text reference)[i]? =
    (inputs[i]?).map fun input => v.check i (text input) (reference input) output[i]? := by
  unfold checks
  rw [List.getElem?_map, List.getElem?_zipIdx, Option.map_map]
  simp [Function.comp_def]

theorem length_checks : (v.checks output inputs text reference).length = inputs.length := by
  simp [checks]

theorem numbered_checks : Numbered (v.checks output inputs text reference) := by
  unfold Numbered
  rw [length_checks]
  unfold checks
  rw [List.map_map, List.range_eq_range', ← List.zipIdx_map_snd 0 inputs]
  rfl

/-- A check says whether its index meets the reference. -/
theorem meets_iff_matched {s : Sample}
    (h : (v.checks output inputs text reference)[i]? = some s) :
    v.Meets output inputs reference i ↔ s.matched := by
  rw [getElem?_checks] at h
  obtain ⟨input, hinput, rfl⟩ := Option.map_eq_some_iff.mp h
  exact meets_iff hinput

theorem countP_matched_checks : (v.checks output inputs text reference).countP (·.matched) =
    Nat.count (v.Meets output inputs reference) inputs.length := by
  rw [← count_length_eq_countP fun _ _ => meets_iff_matched, length_checks]

/-- The misses before an index. -/
theorem misses_take_checks (h : i ≤ inputs.length) :
    misses ((v.checks output inputs text reference).take i) =
      Nat.count (fun j => ¬ v.Meets output inputs reference j) i := by
  have hlength : ((v.checks output inputs text reference).take i).length = i := by
    rw [List.length_take, length_checks, Nat.min_eq_left h]
  have hmissed : ∀ j s, ((v.checks output inputs text reference).take i)[j]? = some s →
      (¬ v.Meets output inputs reference j ↔ (!s.matched) = true) := by
    intro j s hs
    rw [List.getElem?_take] at hs
    split at hs
    · rw [meets_iff_matched hs]
      simp
    · cases hs
  unfold misses
  rw [← count_length_eq_countP hmissed, hlength]

/-! ## The report -/

/-- The indices that a report shows: the first ones, the last one, and the first misses. -/
def Shows (v : Verifier) (output : Array Single) (inputs : List ι) (reference : ι → Single)
    (i : Nat) : Prop :=
  i < v.limits.head ∨ i = inputs.length - 1 ∨
    (¬ v.Meets output inputs reference i ∧
      Nat.count (fun j => ¬ v.Meets output inputs reference j) i < v.limits.mismatches)

instance : DecidablePred (v.Shows output inputs reference) := fun _ =>
  inferInstanceAs (Decidable (_ ∨ _ ∨ _))

/-- A sample is the check of an index that is shown. -/
theorem mem_samples_iff {s : Sample} : s ∈ (v.verify output inputs text reference).samples ↔
    ∃ i input, inputs[i]? = some input ∧ v.Shows output inputs reference i ∧
      s = v.check i (text input) (reference input) output[i]? := by
  have hkept : ∀ i input, inputs[i]? = some input →
      (Kept (fun i => decide (i < v.limits.head) || decide (i = inputs.length - 1))
          v.limits.mismatches (misses ((v.checks output inputs text reference).take i))
          (v.check i (text input) (reference input) output[i]?) ↔
        v.Shows output inputs reference i) := by
    intro i input hinput
    have hle : i ≤ inputs.length := Nat.le_of_lt (List.getElem?_eq_some_iff.mp hinput).1
    have hmissed : v.accepts output[i]? (reference input) = false ↔
        ¬ v.Meets output inputs reference i := by
      rw [meets_iff hinput, Bool.eq_false_iff]
    unfold Kept Shows check
    rw [misses_take_checks hle, hmissed, Bool.or_eq_true, decide_eq_true_iff, decide_eq_true_iff,
      or_assoc]
  unfold verify
  dsimp only
  rw [numbered_checks.mem_keepSamples_iff]
  constructor
  · rintro ⟨hs, h⟩
    rw [getElem?_checks] at hs
    obtain ⟨input, hinput, hcheck⟩ := Option.map_eq_some_iff.mp hs
    rw [← hcheck] at h
    exact ⟨s.index, input, hinput, (hkept s.index input hinput).mp h, hcheck.symm⟩
  · rintro ⟨i, input, hinput, hshows, rfl⟩
    refine ⟨?_, (hkept i input hinput).mpr hshows⟩
    exact getElem?_checks.trans (congrArg _ hinput)

theorem matched_verify : (v.verify output inputs text reference).matched =
    Nat.count (v.Meets output inputs reference) inputs.length :=
  countP_matched_checks

theorem passed_verify_iff : (v.verify output inputs text reference).passed ↔
    ∀ i < inputs.length, v.Meets output inputs reference i := by
  have hle := Nat.count_le (p := v.Meets output inputs reference) (n := inputs.length)
  have hmismatched : (v.verify output inputs text reference).mismatched =
      inputs.length - Nat.count (v.Meets output inputs reference) inputs.length :=
    congrArg (inputs.length - ·) matched_verify
  unfold VerificationReport.passed
  rw [decide_eq_true_iff, hmismatched, ← Nat.count_iff_forall]
  omega

theorem verdict_eq_allZero_iff {r : VerificationReport} :
    r.verdict = .allZero ↔ r.passed = false ∧ r.allZero := by
  unfold VerificationReport.verdict
  cases r.passed <;> cases r.allZero <;> decide

theorem allZero_verify_iff : (v.verify output inputs text reference).allZero ↔
    output ≠ #[] ∧ ∀ x ∈ output, x = ⟨0⟩ ∨ x = ⟨0x80000000⟩ := by
  unfold verify KernelLink.allZero
  dsimp only
  rw [Bool.and_eq_true, List.all_eq_true]
  simp only [Single.isZero_iff, Array.mem_toList_iff]
  simp

/-- The indices that are always shown are the first ones and one more. -/
theorem count_head_or_last_le (head last n : Nat) :
    Nat.count (fun i => i < head ∨ i = last) n ≤ head + 1 := by
  rw [Nat.count_eq_card_filter_range]
  have hsub : (Finset.range n).filter (fun i => i < head ∨ i = last) ⊆
      insert last (Finset.range head) := by
    intro i hi
    have hi := (Finset.mem_filter.mp hi).2
    rw [Finset.mem_insert, Finset.mem_range]
    exact hi.symm
  refine (Finset.card_le_card hsub).trans ((Finset.card_insert_le _ _).trans ?_)
  rw [Finset.card_range]

theorem length_samples_le : (v.verify output inputs text reference).samples.length ≤
    v.limits.head + v.limits.mismatches + 1 := by
  have hkeep := @length_keepSamples_le
    (fun i => decide (i < v.limits.head) || decide (i = inputs.length - 1)) v.limits.mismatches
    (v.checks output inputs text reference)
  have halways := (@numbered_checks _ v output inputs text reference).countP_index
    fun i => i < v.limits.head ∨ i = inputs.length - 1
  have hcount := count_head_or_last_le v.limits.head (inputs.length - 1) inputs.length
  rw [length_checks] at halways
  simp only [Bool.decide_or] at halways
  unfold verify
  dsimp only
  omega

theorem exists_missed_of_failed (hfail : (v.verify output inputs text reference).passed = false)
    (hroom : 0 < v.limits.mismatches) :
    ∃ s ∈ (v.verify output inputs text reference).samples, s.matched = false := by
  refine exists_missed_mem_keepSamples hroom ?_
  have hnot : ¬ ∀ i < inputs.length, v.Meets output inputs reference i := by
    rw [← @passed_verify_iff _ v output inputs text reference, hfail]
    exact Bool.false_ne_true
  push Not at hnot
  obtain ⟨i, hlt, hmiss⟩ := hnot
  have hinput := List.getElem?_eq_getElem hlt
  refine ⟨v.check i (text inputs[i]) (reference inputs[i]) output[i]?, ?_, ?_⟩
  · exact List.mem_of_getElem? (getElem?_checks.trans (congrArg _ hinput))
  · rw [meets_iff hinput] at hmiss
    exact Bool.eq_false_iff.mpr hmiss

/-- What a report says of an output. -/
structure Reports (v : Verifier) (output : Array Single) (inputs : List ι) (text : ι → String)
    (reference : ι → Single) (r : VerificationReport) : Prop where
  checked : r.checked = inputs.length
  matched : r.matched = Nat.count (v.Meets output inputs reference) inputs.length
  mismatched : r.mismatched = inputs.length - r.matched
  passed : r.passed ↔ ∀ i < inputs.length, v.Meets output inputs reference i
  allZero : r.verdict = .allZero ↔
    r.passed = false ∧ output ≠ #[] ∧ ∀ x ∈ output, x = ⟨0⟩ ∨ x = ⟨0x80000000⟩
  ordered : r.samples.Pairwise (·.index < ·.index)
  /-- Exactly the indices that are shown have a sample. -/
  sampled : ∀ i, (∃ s ∈ r.samples, s.index = i) ↔
    i < inputs.length ∧ v.Shows output inputs reference i
  /-- A sample carries what was compared, and with what result. -/
  carried : ∀ s ∈ r.samples, ∃ input, inputs[s.index]? = some input ∧ s.input = text input ∧
    s.expected = reference input ∧ s.actual = output[s.index]? ∧
    (s.matched ↔ v.Meets output inputs reference s.index)
  few : r.samples.length ≤ v.limits.head + v.limits.mismatches + 1
  /-- A failure is never reported without an example. -/
  illustrated : r.passed = false → 0 < v.limits.mismatches → ∃ s ∈ r.samples, s.matched = false

/-- **A report is exact**, and elements past the last input have no part in it but for the
all-zero flag. -/
theorem verify_reports (v : Verifier) (output : Array Single) (inputs : List ι) (text : ι → String)
    (reference : ι → Single) :
    v.Reports output inputs text reference (v.verify output inputs text reference) ∧
      ∀ (output' : Array Single) (flag : Bool), (∀ i < inputs.length, output'[i]? = output[i]?) →
        { v.verify output' inputs text reference with allZero := flag } =
          { v.verify output inputs text reference with allZero := flag } := by
  constructor
  · constructor
    case checked => rfl
    case matched => exact matched_verify
    case mismatched => rfl
    case passed => exact passed_verify_iff
    case allZero => rw [verdict_eq_allZero_iff, allZero_verify_iff]
    case ordered => exact numbered_checks.pairwise_keepSamples
    case sampled =>
      intro i
      constructor
      · rintro ⟨s, hs, rfl⟩
        obtain ⟨i, input, hinput, hshows, rfl⟩ := mem_samples_iff.mp hs
        exact ⟨(List.getElem?_eq_some_iff.mp hinput).1, hshows⟩
      · rintro ⟨hlt, hshows⟩
        exact ⟨_, mem_samples_iff.mpr ⟨i, _, List.getElem?_eq_getElem hlt, hshows, rfl⟩, rfl⟩
    case carried =>
      intro s hs
      obtain ⟨i, input, hinput, -, rfl⟩ := mem_samples_iff.mp hs
      exact ⟨input, hinput, rfl, rfl, rfl, (meets_iff hinput).symm⟩
    case few => exact length_samples_le
    case illustrated => exact exists_missed_of_failed
  · intro output' flag h
    have hchecks : v.checks output' inputs text reference =
        v.checks output inputs text reference := by
      refine List.ext_getElem? fun i => ?_
      rw [getElem?_checks, getElem?_checks]
      cases hinput : inputs[i]? with
      | none => rfl
      | some input => rw [h i (List.getElem?_eq_some_iff.mp hinput).1]
    unfold verify
    rw [hchecks]

/-- Three misses with room for one: of the two that are left, only the last index is shown. One
element too many changes nothing. -/
theorem verify_reports_crowded :
    let v : Verifier := ⟨.zero, ⟨1, 1⟩⟩
    let inputs := [1, 2, 3, 4]
    let output := #[Single.ofNat 1, .zero, .zero, .zero]
    let longer := output.push (.ofNat 5)
    (∀ i < inputs.length, longer[i]? = output[i]?) ∧
      { v.verify longer inputs toString .ofNat with allZero := false } =
        v.verify output inputs toString .ofNat ∧
      (v.verify output inputs toString .ofNat).passed = false ∧
      ∀ i, (∃ s ∈ (v.verify output inputs toString .ofNat).samples, s.index = i) ↔
        i = 0 ∨ i = 1 ∨ i = 3 := by
  intro v inputs output longer
  have hlonger : ∀ i < inputs.length, longer[i]? = output[i]? := by decide
  obtain ⟨hreports, htail⟩ := v.verify_reports output inputs toString .ofNat
  have hshown : ∀ i < inputs.length, v.Shows output inputs .ofNat i ↔ i = 0 ∨ i = 1 ∨ i = 3 := by
    decide
  refine ⟨hlonger, (htail longer false hlonger).trans (by rfl), ?_, fun i => ?_⟩
  · exact Bool.eq_false_iff.mpr fun h => absurd (hreports.passed.mp h) (by decide)
  · rw [hreports.sampled]
    constructor
    · exact fun ⟨hlt, hshows⟩ => (hshown i hlt).mp hshows
    · intro hi
      have hlt : i < inputs.length := by
        show i < 4
        omega
      exact ⟨hlt, (hshown i hlt).mpr hi⟩

end

end Verifier

end KernelLink
