import KernelLink.Proofs.Device.Compilation
import KernelLink.Proofs.Source.Steps
import KernelLink.Proofs.Text.Substitution
import KernelLink.Source.Compose

/-!
# Two ways to see an intrinsic

Whether a text binds intrinsics is asked in two ways. Scanning finds the bindings: it looks at every
place that is no part of a comment or of a declaration before it, and an intrinsic is bound where
the word stands there, with any blanks between it and its parenthesis. A source looks for the word
and the parenthesis next to each other, anywhere in its text. The scanner is the one that the policy
listens to. The two agree on a text without the word, and where a binding is written without a
blank; they disagree where the mark stands in a comment, in a body or at the end of a longer word
only, and where every binding has something between the word and the parenthesis.
-/

namespace KernelLink

/-! ## Places of a scan -/

/-- The places that a scan looks at, each with whether a word character stands before it. -/
inductive Visits (text : List Char) : Bool → List Char → Prop where
  | start : Visits text false text
  | pass {afterWord c s} (h : Visits text afterWord (c :: s))
      (hnone : declarationAt? text afterWord (c :: s) = none) : Visits text (isWordChar c) s
  | behind {afterWord s item after} (h : Visits text afterWord s)
      (hdeclares : Declares afterWord s item after) : Visits text false after

/-- The word of an intrinsic stands at a place that a scan looks at. -/
def BindsIntrinsic (text : List Char) : Prop :=
  ∃ afterWord rest, Visits text afterWord rest ∧ startsWithWord intrinsicWord afterWord rest

section

variable {text s : List Char} {afterWord : Bool} {items : List ScannedItem}

theorem Visits.suffix (h : Visits text afterWord s) : s <:+ text := by
  induction h with
  | start => exact List.suffix_rfl
  | pass _ _ ih => exact (List.suffix_cons _ _).trans ih
  | behind _ hdeclares ih =>
    obtain ⟨d, hends, -⟩ := hdeclares.endsWith
    exact hends.suffix.trans ih

/-- A scan that succeeds succeeds from every place that it looks at, with the last of its
declarations. -/
theorem Visits.scanItems_suffix (h : Visits text afterWord s)
    (hitems : scanItems text 0 false text = .ok items) :
    ∃ rest, scanItems text 0 afterWord s = .ok rest ∧ rest <:+ items := by
  induction h with
  | start => exact ⟨items, hitems, List.suffix_rfl⟩
  | pass _ hnone ih =>
    rwa [scanItems_of_none hnone] at ih
  | @behind afterWord s item after _ hdeclares ih =>
    obtain ⟨rest, hrest, hsuffix⟩ := ih
    rw [scanItems_of_declares text hdeclares] at hrest
    cases hafter : scanItems text 0 false after with
    | error fault => rw [hafter] at hrest; cases hrest
    | ok rest' =>
      rw [hafter] at hrest
      cases hrest
      exact ⟨rest', rfl, (List.suffix_cons item rest').trans hsuffix⟩

/-- The declaration of an intrinsic starts with the word, and with no other. -/
theorem Declares.startsWith_of_intrinsic {symbol : String} {after : List Char}
    (h : Declares afterWord s (.intrinsic symbol) after) :
    startsWithWord intrinsicWord afterWord s := by
  cases h with
  | intrinsic hword _ => exact hword
  | visible _ h => cases h
  | kernel _ h => cases h

/-- Every intrinsic that is found from a place on is found at a place that the scan looks at. -/
theorem exists_visits_of_mem {symbol : String} (afterWord : Bool) (s : List Char) :
    Visits text afterWord s → ∀ items, scanItems text 0 afterWord s = .ok items →
      .intrinsic symbol ∈ items → BindsIntrinsic text := by
  induction afterWord, s using scan_induction text with
  | nil afterWord =>
    intro _ items hitems hmem
    cases hitems
    cases hmem
  | pass afterWord c s hnone ih =>
    intro hvisits items hitems hmem
    rw [scanItems_of_none hnone] at hitems
    exact ih (hvisits.pass hnone) items hitems hmem
  | fault afterWord s fault hfault =>
    intro _ items hitems _
    rw [scanItems_of_fault hfault] at hitems
    cases hitems
  | declares afterWord s item after hdeclares ih =>
    intro hvisits items hitems hmem
    rw [scanItems_of_declares text hdeclares] at hitems
    cases hafter : scanItems text 0 false after with
    | error fault => rw [hafter] at hitems; cases hitems
    | ok rest =>
      rw [hafter] at hitems
      cases hitems
      rcases List.mem_cons.mp hmem with rfl | hmem
      · exact ⟨afterWord, s, hvisits, hdeclares.startsWith_of_intrinsic⟩
      · exact ih (hvisits.behind hdeclares) rest hafter hmem

/-- **A scan finds an intrinsic exactly where the word stands at a place that it looks at.** -/
theorem exists_intrinsic_mem_iff (hitems : scanItems text 0 false text = .ok items) :
    (∃ symbol, .intrinsic symbol ∈ items) ↔ BindsIntrinsic text := by
  constructor
  · rintro ⟨symbol, hmem⟩
    exact exists_visits_of_mem false text .start items hitems hmem
  · rintro ⟨afterWord, s, hvisits, hword⟩
    obtain ⟨rest, hrest, hsuffix⟩ := hvisits.scanItems_suffix hitems
    -- The word is read there, and the scan of the rest starts with what it is read as.
    have hread : declarationAt? text afterWord s = some (readIntrinsic text s) := if_pos hword
    have hne : s ≠ [] := by
      rintro rfl
      cases hword
    obtain ⟨item, after, rest', hok, rfl⟩ := scanItems_of_declarationAt? hne hread hrest
    obtain ⟨_⟩ := readIntrinsic_eq_ok_iff.mp hok
    exact ⟨_, hsuffix.subset List.mem_cons_self⟩

end

/-! ## The two detectors -/

theorem ScannedSource.bindsIntrinsics_iff_scan {source : String} {s : ScannedSource}
    (h : scanSource source = .ok s) :
    s.bindsIntrinsics ↔ BindsIntrinsic (stripComments source.toList) := by
  obtain ⟨items, hitems, rfl⟩ := exists_scanItems_of_scanSource h
  rw [← exists_intrinsic_mem_iff hitems, bindsIntrinsics_iff]
  constructor
  · intro hne
    obtain ⟨symbol, hmem⟩ := List.exists_mem_of_ne_nil _ hne
    obtain ⟨item, hitem, hsymbol⟩ := List.mem_filterMap.mp hmem
    cases item with
    | intrinsic symbol => exact ⟨symbol, hitem⟩
    | _ => cases hsymbol
  · rintro ⟨symbol, hmem⟩ hnil
    have hsymbol : symbol ∈ (ofItems items).intrinsics :=
      List.mem_filterMap.mpr ⟨_, hmem, rfl⟩
    rw [hnil] at hsymbol
    cases hsymbol

namespace KernelSource

variable {k : KernelSource}

theorem bindsIntrinsics_iff : k.bindsIntrinsics ↔ intrinsicMark.toList <:+: k.text.toList :=
  occurs_iff

/-- A text without the word has nothing for either of them. -/
theorem not_bindsIntrinsic (h : ¬intrinsicWord <:+: k.text.toList) :
    ¬BindsIntrinsic (stripComments k.text.toList) ∧ k.bindsIntrinsics = false := by
  constructor
  · rintro ⟨afterWord, rest, hvisits, hword⟩
    have hstarts := List.isPrefixOf_iff_prefix.mp (isPrefixOf_of_startsWithWord hword)
    exact h (infix_of_infix_strip (by simp [IsKeptCode, intrinsicWord])
      (hstarts.isInfix.trans hvisits.suffix.isInfix))
  · have hword : intrinsicWord <:+: intrinsicMark.toList := ⟨[], ['('], rfl⟩
    exact Bool.eq_false_iff.mpr fun hmark => h (hword.trans (bindsIntrinsics_iff.mp hmark))

/-- A binding without a blank is seen by both. -/
theorem bindsIntrinsics_of_visits {afterWord : Bool} {rest : List Char}
    (hvisits : Visits (stripComments k.text.toList) afterWord rest)
    (hmark : intrinsicMark.toList <+: rest) : k.bindsIntrinsics := by
  rw [bindsIntrinsics_iff]
  exact infix_of_infix_strip (by simp [IsKeptCode, intrinsicMark])
    (hmark.isInfix.trans hvisits.suffix.isInfix)

end KernelSource

/-! ## The policy -/

/-- What a text starts with, it starts with before more text as well. -/
theorem head?_toList_append {s : String} {c : Char} (h : s.toList.head? = some c) (t : String) :
    (s ++ t).toList.head? = some c := by
  rw [String.toList_append, List.head?_append, h]
  rfl

/-- Lowering has diagnostics of its own. -/
theorem LowerFault.message_ne_intrinsicsDiagnostic (fault : LowerFault) (symbols : List String) :
    fault.message ≠ HostDevice.intrinsicsDiagnostic symbols := by
  have hmessage : fault.message.toList.head? = some 'e' := by
    cases fault <;> exact head?_toList_append (head?_toList_append (by decide) _) _
  have hdiagnostic : (HostDevice.intrinsicsDiagnostic symbols).toList.head? = some 'p' :=
    head?_toList_append (head?_toList_append (head?_toList_append (by decide) _) _) _
  intro h
  rw [h, hdiagnostic] at hmessage
  cases hmessage

/-- **A compiler that rejects intrinsics refuses exactly the texts in which the scanner finds
one.** -/
theorem HostDevice.compile_refuses_iff {d : HostDevice} (hd : d.options.intrinsics = .reject)
    {source : String} {s : ScannedSource} (hscan : scanSource source = .ok s)
    (version : Option LanguageVersion) :
    d.compile source version = .error (.compile (intrinsicsDiagnostic s.intrinsics)) ↔
      s.bindsIntrinsics := by
  unfold compile
  cases hbinds : s.bindsIntrinsics with
  | true => simp [hscan, hd, hbinds, IntrinsicPolicy.allows]
  | false =>
    cases hlower : lower d.registry s with
    | ok l => simp [hscan, hbinds, hlower, Except.mapError]
    | error fault =>
      simp [hscan, hbinds, hlower, Except.mapError,
        fault.message_ne_intrinsicsDiagnostic s.intrinsics]

/-- **Where the two detectors agree.** -/
theorem intrinsic_detectors (k : KernelSource) {s : ScannedSource}
    (hscan : scanSource k.text = .ok s) :
    (s.bindsIntrinsics ↔ BindsIntrinsic (stripComments k.text.toList)) ∧
    (k.bindsIntrinsics = s.bindsIntrinsics ↔
      (KernelSource.intrinsicMark.toList <:+: k.text.toList ↔
        BindsIntrinsic (stripComments k.text.toList))) ∧
    (¬intrinsicWord <:+: k.text.toList → k.bindsIntrinsics = false ∧ s.bindsIntrinsics = false) ∧
    (∀ afterWord rest, Visits (stripComments k.text.toList) afterWord rest →
      startsWithWord intrinsicWord afterWord rest →
      KernelSource.intrinsicMark.toList <+: rest → k.bindsIntrinsics ∧ s.bindsIntrinsics) ∧
    ∀ d : HostDevice, d.options.intrinsics = .reject → ∀ version,
      (d.compile k.text version = .error (.compile (HostDevice.intrinsicsDiagnostic s.intrinsics)) ↔
        BindsIntrinsic (stripComments k.text.toList)) := by
  have hs := ScannedSource.bindsIntrinsics_iff_scan hscan
  refine ⟨hs, ?_, fun hword => ?_, fun afterWord rest hvisits hword hmark => ?_,
    fun d hd version => (HostDevice.compile_refuses_iff hd hscan version).trans hs⟩
  · rw [Bool.eq_iff_iff, KernelSource.bindsIntrinsics_iff, hs]
  · obtain ⟨hnone, hk⟩ := KernelSource.not_bindsIntrinsic hword
    exact ⟨hk, Bool.eq_false_iff.mpr fun h => hnone (hs.mp h)⟩
  · exact ⟨KernelSource.bindsIntrinsics_of_visits hvisits hmark,
      hs.mpr ⟨afterWord, rest, hvisits, hword⟩⟩

/-- A binding without a blank is seen by both. -/
theorem intrinsic_detectors_plain :
    scanSource "__asm(\"f\");\n" = .ok ⟨[], [], [], ["f"]⟩ ∧
      ∀ d : HostDevice, d.options.intrinsics = .reject → ∀ version,
        (d.compile "__asm(\"f\");\n" version =
            .error (.compile (HostDevice.intrinsicsDiagnostic ["f"])) ↔
          BindsIntrinsic (stripComments "__asm(\"f\");\n".toList)) := by
  have hscan : scanSource "__asm(\"f\");\n" = .ok ⟨[], [], [], ["f"]⟩ := by decide +kernel
  obtain ⟨-, -, -, -, hcompile⟩ :=
    intrinsic_detectors ⟨"plain", "__asm(\"f\");\n", .standard⟩ hscan
  exact ⟨hscan, hcompile⟩

/-- With a blank before the parenthesis the compiler refuses what the source does not report. In a
comment the source reports what the compiler does not see. -/
theorem exists_detectors_disagree :
    (∃ (k : KernelSource) (s : ScannedSource), scanSource k.text = .ok s ∧
      k.bindsIntrinsics = false ∧ s.bindsIntrinsics = true ∧
      ∀ d : HostDevice, d.options.intrinsics = .reject → ∀ version,
        d.compile k.text version =
          .error (.compile (HostDevice.intrinsicsDiagnostic s.intrinsics))) ∧
    ∃ (k : KernelSource) (s : ScannedSource), scanSource k.text = .ok s ∧
      k.bindsIntrinsics = true ∧ s.bindsIntrinsics = false := by
  have hblank : scanSource "__asm (\"f\")\n" = .ok ⟨[], [], [], ["f"]⟩ := by decide +kernel
  have hcomment : scanSource "// __asm(\n" = .ok ⟨[], [], [], []⟩ := by decide +kernel
  refine ⟨⟨⟨"blank", _, .standard⟩, _, hblank, by decide, rfl, fun d hd version => ?_⟩,
    ⟨"comment", _, .standard⟩, _, hcomment, by decide, rfl⟩
  exact (HostDevice.compile_refuses_iff hd hblank version).mpr rfl

end KernelLink
