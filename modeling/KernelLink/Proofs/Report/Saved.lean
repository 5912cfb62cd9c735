import KernelLink.Proofs.Json.Record
import KernelLink.Proofs.Machine.Reading
import KernelLink.Report.Saved

/-!
# Saved reports load again

A report is read back part by part from what was written for each part. What JSON cannot hold is
written as null: an actual value is then lost, and any other number makes the whole report
unreadable. Everything else comes back as it was.
-/

namespace KernelLink

open Json (ofFields ofNat ofString ofSingle ofOption Readable)

/-! ## What fits -/

/-- The greatest number of 128 bits. -/
def timeLimit : Nat := 0xffffffffffffffffffffffffffffffff

def Sample.Fits (s : Sample) : Prop := s.index ≤ Json.wordLimit

/-- Every count has 64 bits. -/
structure VerificationReport.Fits (v : VerificationReport) : Prop where
  checked : v.checked ≤ Json.wordLimit
  matched : v.matched ≤ Json.wordLimit
  mismatched : v.mismatched ≤ Json.wordLimit
  samples : ∀ s ∈ v.samples, s.Fits

structure TileReport.Fits (t : TileReport) : Prop where
  rows : t.rows ≤ Json.wordLimit
  cols : t.cols ≤ Json.wordLimit
  written : t.written ≤ Json.wordLimit
  expectedWritten : t.expectedWritten ≤ Json.wordLimit
  preserved : t.preserved ≤ Json.wordLimit
  expectedPreserved : t.expectedPreserved ≤ Json.wordLimit
  samples : ∀ s ∈ t.samples, s.Fits

structure CaseOutcome.Fits (c : CaseOutcome) : Prop where
  records : ∀ r ∈ c.records, r.atUnixMs ≤ timeLimit
  verification : ∀ v ∈ c.verification, v.Fits
  tile : ∀ t ∈ c.tile, t.Fits

/-- Counts have 64 bits and times have 128. -/
structure RunReport.Fits (r : RunReport) : Prop where
  generatedAt : r.header.generatedAtUnixMs ≤ timeLimit
  cases : ∀ c ∈ r.cases, c.Fits

/-! ## Numbers in reports -/

def Sample.numbers (s : Sample) : List Single := s.expected :: s.actual.toList

def VerificationReport.numbers (v : VerificationReport) : List Single :=
  v.tolerance :: v.maxAbsError :: v.samples.flatMap (·.numbers)

def TileReport.numbers (t : TileReport) : List Single := t.samples.flatMap (·.numbers)

def CaseOutcome.numbers (c : CaseOutcome) : List Single :=
  c.verification.toList.flatMap (·.numbers) ++ c.tile.toList.flatMap (·.numbers)

def RunReport.numbers (r : RunReport) : List Single := r.cases.flatMap (·.numbers)

/-- The text of the number is read back to the number. -/
def Single.ReadsBack (x : Single) : Prop :=
  (Json.read? (ofSingle x).save).bind Json.single? = some x

theorem Single.readsBack_iff {x : Single} : x.ReadsBack ↔ (ofSingle x).single? = some x := by
  unfold ReadsBack
  rw [Json.read?_save (Json.readable_ofSingle x), Option.bind_some]

/-- Each of the numbers that JSON can hold is read back. -/
def ReadBack (xs : List Single) : Prop := ∀ x ∈ xs, x.isFinite = true → x.ReadsBack

theorem ReadBack.of_subset {xs ys : List Single} (h : ReadBack ys) (hsub : xs ⊆ ys) : ReadBack xs :=
  fun x hx => h x (hsub hx)

theorem ReadBack.of_flatMap {α : Type} {numbers : α → List Single} {as : List α}
    (h : ReadBack (as.flatMap numbers)) {a : α} (ha : a ∈ as) : ReadBack (numbers a) :=
  h.of_subset fun _ hx => List.mem_flatMap.mpr ⟨a, ha, hx⟩

/-! ## What is kept -/

/-- Without an actual value that is not finite. -/
def Sample.kept (s : Sample) : Sample := { s with actual := s.actual.filter (·.isFinite) }

def VerificationReport.kept (v : VerificationReport) : VerificationReport :=
  { v with samples := v.samples.map (·.kept) }

def TileReport.kept (t : TileReport) : TileReport := { t with samples := t.samples.map (·.kept) }

def CaseOutcome.kept (c : CaseOutcome) : CaseOutcome :=
  { c with verification := c.verification.map (·.kept), tile := c.tile.map (·.kept) }

def RunReport.kept (r : RunReport) : RunReport := { r with cases := r.cases.map (·.kept) }

/-! ## What loads -/

def VerificationReport.loads (v : VerificationReport) : Bool :=
  v.tolerance.isFinite && v.maxAbsError.isFinite && v.samples.all (·.expected.isFinite)

def TileReport.loads (t : TileReport) : Bool := t.samples.all (·.expected.isFinite)

def CaseOutcome.loads (c : CaseOutcome) : Bool :=
  c.verification.all (·.loads) && c.tile.all (·.loads)

def RunReport.loads (r : RunReport) : Bool := r.cases.all (·.loads)

theorem VerificationReport.loads_iff {v : VerificationReport} : v.loads = true ↔
    v.tolerance.isFinite = true ∧ v.maxAbsError.isFinite = true ∧
      ∀ s ∈ v.samples, s.expected.isFinite = true := by
  simp [loads, and_assoc]

theorem TileReport.loads_iff {t : TileReport} :
    t.loads = true ↔ ∀ s ∈ t.samples, s.expected.isFinite = true := List.all_eq_true

theorem CaseOutcome.loads_iff {c : CaseOutcome} : c.loads = true ↔
    (∀ v ∈ c.verification, v.loads = true) ∧ ∀ t ∈ c.tile, t.loads = true := by
  simp [loads, Option.all_eq_true]

theorem RunReport.loads_iff {r : RunReport} : r.loads = true ↔
    ∀ c ∈ r.cases,
      (∀ v ∈ c.verification, v.tolerance.isFinite = true ∧ v.maxAbsError.isFinite = true ∧
        ∀ s ∈ v.samples, s.expected.isFinite = true) ∧
      ∀ t ∈ c.tile, ∀ s ∈ t.samples, s.expected.isFinite = true := by
  unfold loads
  simp only [List.all_eq_true, CaseOutcome.loads_iff, VerificationReport.loads_iff,
    TileReport.loads_iff]

/-! ## Reading numbers -/

theorem single?_ofSingle {x : Single} (h : x.isFinite = true → x.ReadsBack) :
    (ofSingle x).single? = if x.isFinite then some x else none := by
  cases hx : x.isFinite with
  | false =>
    rw [Json.ofSingle_of_not_isFinite hx]
    rfl
  | true =>
    exact Single.readsBack_iff.mp (h hx)

theorem nullable?_ofOption_ofSingle {x : Option Single} (h : ReadBack x.toList) :
    Json.nullable? Json.single? (ofOption ofSingle x) = some (x.filter (·.isFinite)) := by
  cases x with
  | none => rfl
  | some y =>
    have hread := single?_ofSingle (h y List.mem_cons_self)
    show Json.nullable? Json.single? (ofSingle y) = _
    cases hy : y.isFinite with
    | false =>
      rw [Json.ofSingle_of_not_isFinite hy]
      simp [Option.filter, hy, Json.nullable?]
    | true =>
      obtain ⟨n, hn⟩ := Json.ofSingle_of_isFinite hy
      rw [hy, hn] at hread
      rw [hn]
      simp [Option.filter, hy, Json.nullable?, hread]

/-! ## Parts of a report -/

theorem Sample.ofJson?_toJson {s : Sample} (h : s.Fits) (hnumbers : ReadBack s.numbers) :
    Sample.ofJson? s.toJson = if s.expected.isFinite then some s.kept else none := by
  show (do
    let index ← Json.count? (ofNat s.index)
    let expected ← (ofSingle s.expected).single?
    let actual ← Json.nullable? Json.single? (ofOption ofSingle s.actual)
    some (Sample.mk index s.input expected actual s.matched)) = _
  rw [Json.count?, Json.nat?_ofNat h, single?_ofSingle (hnumbers _ List.mem_cons_self),
    nullable?_ofOption_ofSingle (hnumbers.of_subset (List.subset_cons_self _ _))]
  cases s.expected.isFinite <;> rfl

theorem list?_samples {samples : List Sample} (h : ∀ s ∈ samples, s.Fits)
    (hnumbers : ReadBack (samples.flatMap (·.numbers))) :
    Json.list? Sample.ofJson? (.array (samples.map Sample.toJson)) =
      if samples.all (·.expected.isFinite) then some (samples.map (·.kept)) else none :=
  Json.list?_array_map fun s hs => Sample.ofJson?_toJson (h s hs) (hnumbers.of_flatMap hs)

theorem VerificationReport.ofJson?_toJson {v : VerificationReport} (h : v.Fits)
    (hnumbers : ReadBack v.numbers) :
    VerificationReport.ofJson? v.toJson = if v.loads then some v.kept else none := by
  show (do
    let checked ← Json.count? (ofNat v.checked)
    let matched ← Json.count? (ofNat v.matched)
    let mismatched ← Json.count? (ofNat v.mismatched)
    let tolerance ← (ofSingle v.tolerance).single?
    let maxAbsError ← (ofSingle v.maxAbsError).single?
    let samples ← Json.list? Sample.ofJson? (.array (v.samples.map Sample.toJson))
    some (VerificationReport.mk checked matched mismatched tolerance maxAbsError v.allZero samples)) =
      _
  have htolerance := single?_ofSingle (hnumbers v.tolerance List.mem_cons_self)
  have herror := single?_ofSingle
    (hnumbers v.maxAbsError (List.mem_cons_of_mem _ List.mem_cons_self))
  have hsamples := list?_samples h.samples (hnumbers.of_subset fun _ hx =>
    List.mem_cons_of_mem _ (List.mem_cons_of_mem _ hx))
  rw [Json.count?, Json.nat?_ofNat h.checked, Json.nat?_ofNat h.matched,
    Json.nat?_ofNat h.mismatched, htolerance, herror, hsamples]
  unfold loads
  cases v.tolerance.isFinite <;> cases v.maxAbsError.isFinite <;>
    cases v.samples.all (·.expected.isFinite) <;> rfl

theorem TileReport.ofJson?_toJson {t : TileReport} (h : t.Fits) (hnumbers : ReadBack t.numbers) :
    TileReport.ofJson? t.toJson = if t.loads then some t.kept else none := by
  show (do
    let rows ← Json.count? (ofNat t.rows)
    let cols ← Json.count? (ofNat t.cols)
    let written ← Json.count? (ofNat t.written)
    let expectedWritten ← Json.count? (ofNat t.expectedWritten)
    let preserved ← Json.count? (ofNat t.preserved)
    let expectedPreserved ← Json.count? (ofNat t.expectedPreserved)
    let samples ← Json.list? Sample.ofJson? (.array (t.samples.map Sample.toJson))
    some (TileReport.mk rows cols written expectedWritten preserved expectedPreserved t.allZero
      samples)) = _
  rw [Json.count?, Json.nat?_ofNat h.rows, Json.nat?_ofNat h.cols, Json.nat?_ofNat h.written,
    Json.nat?_ofNat h.expectedWritten, Json.nat?_ofNat h.preserved,
    Json.nat?_ofNat h.expectedPreserved, list?_samples h.samples hnumbers]
  unfold loads
  cases t.samples.all (·.expected.isFinite) <;> rfl

theorem StageRecord.ofJson?_toJson {r : StageRecord} (h : r.atUnixMs ≤ timeLimit) :
    StageRecord.ofJson? r.toJson = some r := by
  have htime : Json.time? (ofNat r.atUnixMs) = some r.atUnixMs := Json.nat?_ofNat h
  show (do
    let stage ← Json.choice? (named Stage.all Stage.savedName) (ofString r.stage.savedName)
    let outcome ← Json.choice? (named Outcome.all Outcome.savedName) (ofString r.outcome.savedName)
    let atUnixMs ← Json.time? (ofNat r.atUnixMs)
    some (StageRecord.mk r.case stage outcome r.detail atUnixMs)) = _
  rw [htime]
  obtain ⟨case, stage, outcome, detail, atUnixMs⟩ := r
  cases stage <;> cases outcome <;> rfl

theorem GeneratedSource.ofJson?_toJson (s : GeneratedSource) :
    GeneratedSource.ofJson? s.toJson = some s := rfl

theorem ReportHeader.ofJson?_toJson {h : ReportHeader} (hfits : h.generatedAtUnixMs ≤ timeLimit) :
    ReportHeader.ofJson? h.toJson = some h := by
  have htime : Json.time? (ofNat h.generatedAtUnixMs) = some h.generatedAtUnixMs :=
    Json.nat?_ofNat hfits
  have hparts : ReportHeader.ofJson? h.toJson = (do
      let generatedAtUnixMs ← Json.time? (ofNat h.generatedAtUnixMs)
      some { h with generatedAtUnixMs }) := by
    obtain ⟨title, device, backend, toolchain, generatedAtUnixMs⟩ := h
    cases toolchain <;> rfl
  rw [hparts, htime]
  rfl

theorem CaseOutcome.ofJson?_toJson {c : CaseOutcome} (h : c.Fits) (hnumbers : ReadBack c.numbers) :
    CaseOutcome.ofJson? c.toJson = if c.loads then some c.kept else none := by
  have hparts : CaseOutcome.ofJson? c.toJson = (do
      let status ← Json.choice? (named CaseStatus.all CaseStatus.savedName)
        (ofString c.status.savedName)
      let records ← Json.list? StageRecord.ofJson? (.array (c.records.map (·.toJson)))
      let verification ← Json.readPart VerificationReport.ofJson? VerificationReport.toJson
        c.verification
      let tile ← Json.readPart TileReport.ofJson? TileReport.toJson c.tile
      some (CaseOutcome.mk c.name status c.summary records verification tile)) := by
    obtain ⟨name, status, summary, records, verification, tile⟩ := c
    cases verification <;> cases tile <;> rfl
  have hstatus : Json.choice? (named CaseStatus.all CaseStatus.savedName)
      (ofString c.status.savedName) = some c.status := by
    cases c.status <;> rfl
  have hverifications := hnumbers.of_subset (List.subset_append_left _ _)
  have htiles := hnumbers.of_subset (List.subset_append_right _ _)
  have hverification : Json.readPart VerificationReport.ofJson? VerificationReport.toJson
      c.verification =
      if c.verification.all (·.loads) then some (c.verification.map (·.kept)) else none :=
    Json.readPart_eq (fun _ => nofun) fun v hv =>
      VerificationReport.ofJson?_toJson (h.verification v hv)
        (hverifications.of_flatMap (Option.mem_toList.mpr hv))
  have htile : Json.readPart TileReport.ofJson? TileReport.toJson c.tile =
      if c.tile.all (·.loads) then some (c.tile.map (·.kept)) else none :=
    Json.readPart_eq (fun _ => nofun) fun t ht =>
      TileReport.ofJson?_toJson (h.tile t ht) (htiles.of_flatMap (Option.mem_toList.mpr ht))
  rw [hparts, hstatus, hverification, htile,
    Json.list?_array_map_of_forall fun r hr => StageRecord.ofJson?_toJson (h.records r hr)]
  unfold loads
  cases c.verification.all (·.loads) <;> cases c.tile.all (·.loads) <;> rfl

theorem RunReport.ofJson?_toJson {r : RunReport} (h : r.Fits) (hnumbers : ReadBack r.numbers) :
    RunReport.ofJson? r.toJson = if r.loads then some r.kept else none := by
  show (do
    let header ← ReportHeader.ofJson? r.header.toJson
    let sources ← Json.list? GeneratedSource.ofJson? (.array (r.sources.map GeneratedSource.toJson))
    let cases ← Json.list? CaseOutcome.ofJson? (.array (r.cases.map CaseOutcome.toJson))
    some (RunReport.mk header sources cases)) = _
  rw [ReportHeader.ofJson?_toJson h.generatedAt,
    Json.list?_array_map_of_forall fun s _ => GeneratedSource.ofJson?_toJson s,
    Json.list?_array_map fun c hc =>
      CaseOutcome.ofJson?_toJson (h.cases c hc) (hnumbers.of_flatMap hc)]
  unfold loads
  cases r.cases.all (·.loads) <;> rfl

/-! ## The text of a report -/

@[simp]
theorem Sample.readable_toJson (s : Sample) : Readable s.toJson :=
  .object (by simp [Json.readable_ofOption])

@[simp]
theorem VerificationReport.readable_toJson (v : VerificationReport) : Readable v.toJson :=
  .object (by simp [Json.readable_array_map Sample.readable_toJson])

@[simp]
theorem TileReport.readable_toJson (t : TileReport) : Readable t.toJson :=
  .object (by simp [Json.readable_array_map Sample.readable_toJson])

@[simp]
theorem StageRecord.readable_toJson (r : StageRecord) : Readable r.toJson := .object (by simp)

@[simp]
theorem CaseOutcome.readable_toJson (c : CaseOutcome) : Readable c.toJson := by
  refine .object ?_
  cases c.verification <;> cases c.tile <;>
    simp [presentField, Json.readable_array_map StageRecord.readable_toJson]

@[simp]
theorem ReportHeader.readable_toJson (h : ReportHeader) : Readable h.toJson := by
  refine .object ?_
  cases h.toolchain <;> simp [presentField]

@[simp]
theorem GeneratedSource.readable_toJson (s : GeneratedSource) : Readable s.toJson :=
  .object (by simp)

theorem RunReport.readable_toJson (r : RunReport) : Readable r.toJson :=
  .object (by simp [Json.readable_array_map])

/-- **A saved report is read back but for what JSON cannot hold.** -/
theorem RunReport.load?_save {r : RunReport} (h : r.Fits) (hnumbers : ReadBack r.numbers) :
    RunReport.load? r.save = if r.loads then some r.kept else none := by
  unfold load? save
  rw [Json.read?_save r.readable_toJson, Option.bind_some, RunReport.ofJson?_toJson h hnumbers]

/-! ## Reports in files -/

/-- Reads the report that was saved in a file. -/
def RunReport.readFile? (t : FileTree) (base : Location) (p : Path) : Option RunReport :=
  match t.read base p with
  | .ok content => (String.fromUTF8? content).bind load?
  | .error _ => none

/-- **A report that was saved in a file is read back from it exactly when every tolerance, every
maximal error and every expected value is finite.** What is read is the report that was saved,
without the actual values that are not finite. -/
theorem RunReport.readFile?_of_saved {r : RunReport} {base : Location} {p : Path} {t t' : FileTree}
    (hfits : r.Fits) (hnumbers : ReadBack r.numbers)
    (hsaved : (FileM.writeInto base p r.save.toUTF8).run t = (.ok (), t')) :
    ((∃ loaded, readFile? t' base p = some loaded) ↔
      ∀ c ∈ r.cases,
        (∀ v ∈ c.verification, v.tolerance.isFinite = true ∧ v.maxAbsError.isFinite = true ∧
          ∀ s ∈ v.samples, s.expected.isFinite = true) ∧
        ∀ tile ∈ c.tile, ∀ s ∈ tile.samples, s.expected.isFinite = true) ∧
    ∀ loaded, readFile? t' base p = some loaded → loaded = r.kept := by
  have hread : readFile? t' base p = if r.loads then some r.kept else none := by
    unfold readFile?
    rw [FileM.read_writeInto hsaved]
    dsimp only
    rw [fromUTF8?_toUTF8, Option.bind_some, load?_save hfits hnumbers]
  rw [hread, ← loads_iff]
  cases r.loads with
  | false => exact ⟨⟨fun ⟨_, h⟩ => (nomatch h), nofun⟩, nofun⟩
  | true => exact ⟨⟨fun _ => rfl, fun _ => ⟨r.kept, rfl⟩⟩, fun _ h => (Option.some.inj h).symm⟩

/-- A report of one sample, whose actual value is not a number. -/
theorem RunReport.readFile?_of_saved_nan :
    let report (actual : Option Single) : RunReport :=
      ⟨⟨"nightly", "m1", "metal", none, 1700000000000⟩, [⟨"add", "kernel \"a\""⟩],
        [⟨"add", .fail, "1 of 1", [⟨"add", .verify, .fail, "tab\there", 1700000000001⟩],
          some ⟨1, 0, 1, ⟨0x3727c5ac⟩, ⟨0⟩, false, [⟨0, "1", ⟨0x3f800000⟩, actual, false⟩]⟩, none⟩]⟩
    let saved := (FileM.writeInto [] ⟨"report.json"⟩ (report (some ⟨0x7fc00000⟩)).save.toUTF8).run
      .empty
    saved.1 = .ok () ∧ readFile? saved.2 [] ⟨"report.json"⟩ = some (report none) := by
  intro report saved
  have hfits : (report (some ⟨0x7fc00000⟩)).Fits := by
    refine ⟨by decide, List.forall_mem_singleton.mpr
      ⟨List.forall_mem_singleton.mpr (by decide), ?_, nofun⟩⟩
    rintro v ⟨⟩
    exact ⟨by decide, by decide, by decide, List.forall_mem_singleton.mpr (Nat.zero_le _)⟩
  have hnumbers : ReadBack (report (some ⟨0x7fc00000⟩)).numbers := by
    simp only [ReadBack, Single.readsBack_iff]
    decide +kernel
  have hsaved : saved.1 = .ok () := by rfl
  have hread := RunReport.readFile?_of_saved hfits hnumbers (Prod.ext hsaved (Eq.refl saved.2))
  obtain ⟨loaded, hloaded⟩ := hread.1.mpr (by decide +kernel)
  exact ⟨hsaved, hloaded.trans (congrArg some (hread.2 loaded hloaded))⟩

end KernelLink
