import KernelLink.LanguageVersion
import KernelLink.Proofs.Number.Text
import KernelLink.Proofs.Source.TypeTokens
import Mathlib.Data.List.TakeDrop

/-!
# The grammar of language versions

A version is two numbers up to 255 with a point between them. Each of them is a run of digits, with
as many zeros in front as one likes, or a plus sign and such a run. A family name may stand in front
of it all, and blanks around it. Reading accepts these texts and no others, so what a version is
written as, with or without its family, is read back.
-/

namespace KernelLink

/-! ## Numbers up to a limit -/

theorem le_ofDigitChars (value : Nat) (ds : List Char) : value ≤ Nat.ofDigitChars 10 ds value := by
  induction ds generalizing value with
  | nil => exact Nat.le_refl value
  | cons c ds ih =>
    rw [Nat.ofDigitChars_cons]
    exact Nat.le_trans (by omega) (ih _)

/-- Digits are read as long as what they stand for is within the limit. -/
theorem readDigitsUpTo_eq_ok_iff {limit value n : Nat} {s : List Char} (hvalue : value ≤ limit) :
    readDigitsUpTo limit value s = .ok n ↔
      (∀ c ∈ s, c.isDigit) ∧ Nat.ofDigitChars 10 s value = n ∧ n ≤ limit := by
  induction s generalizing value with
  | nil =>
    simp only [readDigitsUpTo, Except.ok.injEq, Nat.ofDigitChars_nil]
    constructor
    · rintro rfl
      exact ⟨nofun, rfl, hvalue⟩
    · exact fun h => h.2.1
  | cons c s ih =>
    have hstep : 10 * value + digitsValue [c] = 10 * value + (c.toNat - '0'.toNat) := by
      rw [digitsValue_eq, Nat.ofDigitChars_cons, Nat.ofDigitChars_nil, Nat.mul_zero, Nat.zero_add]
    rw [readDigitsUpTo, List.forall_mem_cons, Nat.ofDigitChars_cons]
    by_cases hc : c.isDigit
    · rw [if_pos hc, hstep]
      dsimp only
      split
      · -- one digit too many, and further digits make the number no smaller
        rename_i hlarge
        refine ⟨nofun, fun ⟨_, hn, hlimit⟩ => ?_⟩
        have := le_ofDigitChars (10 * value + (c.toNat - '0'.toNat)) s
        omega
      · rename_i hwithin
        rw [ih (Nat.le_of_not_lt hwithin)]
        simp only [hc, true_and]
    · rw [if_neg hc]
      exact ⟨nofun, fun h => absurd h.1.1 hc⟩

/-- A run of digits that stands for a number. -/
structure IsRunOf (ds : List Char) (n : Nat) : Prop where
  nonempty : ds ≠ []
  digits : ∀ c ∈ ds, c.isDigit
  value : Nat.ofDigitChars 10 ds 0 = n

/-- A number as it may be written, with a plus sign in front of it or without. -/
inductive SpellsNumber : List Char → Nat → Prop where
  | plain {ds n} (h : IsRunOf ds n) : SpellsNumber ds n
  | plus {ds n} (h : IsRunOf ds n) : SpellsNumber ('+' :: ds) n

theorem readDigitsUpTo_eq_ok_iff_isRunOf {limit n : Nat} {s : List Char} (hs : s ≠ []) :
    readDigitsUpTo limit 0 s = .ok n ↔ IsRunOf s n ∧ n ≤ limit := by
  rw [readDigitsUpTo_eq_ok_iff (Nat.zero_le limit)]
  exact ⟨fun ⟨hdigits, hn, hlimit⟩ => ⟨⟨hs, hdigits, hn⟩, hlimit⟩,
    fun ⟨hrun, hlimit⟩ => ⟨hrun.digits, hrun.value, hlimit⟩⟩

theorem spellsNumber_plus_iff {s : List Char} {n : Nat} :
    SpellsNumber ('+' :: s) n ↔ IsRunOf s n := by
  refine ⟨fun h => ?_, .plus⟩
  cases h with
  | plain h => exact absurd (h.digits '+' List.mem_cons_self) (by decide)
  | plus h => exact h

theorem spellsNumber_iff_of_ne_plus {s : List Char} {n : Nat} (hs : ∀ ds, s ≠ '+' :: ds) :
    SpellsNumber s n ↔ IsRunOf s n := by
  refine ⟨fun h => ?_, .plain⟩
  cases h with
  | plain h => exact h
  | plus h => exact absurd rfl (hs _)

/-- **Reading up to a limit accepts the numbers up to that limit**, and no other texts. -/
theorem readUpTo_eq_ok_iff {limit n : Nat} {s : List Char} :
    readUpTo limit s = .ok n ↔ SpellsNumber s n ∧ n ≤ limit := by
  -- The reader tells apart no text at all, a sign alone, digits behind a sign, and digits.
  unfold readUpTo
  split
  · refine ⟨nofun, fun h => ?_⟩
    exact absurd rfl ((spellsNumber_iff_of_ne_plus fun _ hs => by cases hs).mp h.1).nonempty
  · exact ⟨nofun, fun h => absurd rfl (spellsNumber_plus_iff.mp h.1).nonempty⟩
  · rename_i s hne
    rw [spellsNumber_plus_iff, readDigitsUpTo_eq_ok_iff_isRunOf fun hs => hne (by rw [hs])]
  · rename_i s hempty hplus hplus'
    rw [spellsNumber_iff_of_ne_plus hplus', readDigitsUpTo_eq_ok_iff_isRunOf hempty]

namespace SpellsNumber

variable {s : List Char} {n : Nat}

theorem ne_nil (h : SpellsNumber s n) : s ≠ [] := by
  cases h with
  | plain h => exact h.nonempty
  | plus h => exact List.cons_ne_nil _ _

theorem mem (h : SpellsNumber s n) : ∀ c ∈ s, c = '+' ∨ c.isDigit := by
  cases h with
  | plain h => exact fun c hc => .inr (h.digits c hc)
  | plus h => exact List.forall_mem_cons.mpr ⟨.inl rfl, fun c hc => .inr (h.digits c hc)⟩

theorem ne_of_mem (h : SpellsNumber s n) {c d : Char} (hc : c ∈ s) (hplus : d ≠ '+')
    (hdigit : d.isDigit = false) : c ≠ d := by
  rintro rfl
  rcases h.mem c hc with he | he
  · exact hplus he
  · rw [hdigit] at he
    cases he

theorem not_isBlank (h : SpellsNumber s n) : ∀ c ∈ s, isBlank c = false := by
  intro c hc
  rcases h.mem c hc with rfl | hdigit
  · decide
  · have hword : isWordChar c := by
      unfold isWordChar Char.isAlphanum
      rw [hdigit, Bool.or_true, Bool.true_or]
    exact (isWordChar_apart hword).2

theorem toString (n : Nat) : SpellsNumber (toString n).toList n := by
  rw [Nat.toString_eq_ofList_toDigits, String.toList_ofList]
  exact .plain ⟨Nat.toDigits_ne_nil, fun _ hc => isDigit_of_mem_decimalDigits hc,
    Nat.ofDigitChars_ten_toDigits⟩

end SpellsNumber

/-! ## Cutting at a character -/

/-- What is cut off ends at the character. -/
theorem exists_of_span_ne {c d : Char} {s front behind : List Char}
    (h : s.span (· ≠ c) = (front, d :: behind)) : s = front ++ c :: behind := by
  rw [List.span_eq_takeWhile_dropWhile, Prod.mk.injEq] at h
  obtain ⟨rfl, hbehind⟩ := h
  obtain rfl : d = c := by simpa using not_of_dropWhile_eq_cons hbehind
  rw [← hbehind, List.takeWhile_append_dropWhile]

/-- A text is cut where the character stands for the first time. -/
theorem span_ne_append {c : Char} {front : List Char} (h : ∀ d ∈ front, d ≠ c)
    (behind : List Char) : (front ++ c :: behind).span (· ≠ c) = (front, c :: behind) := by
  have hfront : ∀ d ∈ front, decide (d ≠ c) := fun d hd => decide_eq_true (h d hd)
  rw [List.span_eq_takeWhile_dropWhile, List.takeWhile_append_of_pos hfront,
    List.dropWhile_append_of_pos hfront, List.takeWhile_cons_of_neg (by simp),
    List.dropWhile_cons_of_neg (by simp), List.append_nil]

/-! ## Versions -/

namespace LanguageVersion

/-- Two numbers with a point between them, behind a family name or behind nothing. -/
inductive Spells : List Char → LanguageVersion → Prop where
  | mk {family major minor v} (hfamily : family ∈ ["", "metal", "macos-metal"])
      (hmajor : SpellsNumber major v.major.toNat) (hminor : SpellsNumber minor v.minor.toNat) :
      Spells (family.toList ++ (major ++ '.' :: minor)) v

variable {s : List Char} {v : LanguageVersion}

theorem exists_family (s : List Char) :
    ∃ family ∈ ["", "metal", "macos-metal"], s = family.toList ++ dropFamily s := by
  have hfamilies : ∀ family ∈ families, family ∈ ["", "metal", "macos-metal"] := by decide
  unfold dropFamily
  split
  · rename_i family hfind
    have hfound := List.find?_some hfind
    obtain ⟨rest, rfl⟩ := List.isPrefixOf_iff_prefix.mp hfound
    refine ⟨family, hfamilies family (List.mem_of_find?_eq_some hfind), ?_⟩
    rw [← String.length_toList, List.drop_left]
  · exact ⟨"", List.mem_cons_self, rfl⟩

/-- Both names start with a letter that the text does not start with. -/
theorem dropFamily_cons {c : Char} (hc : c ≠ 'm') (s : List Char) :
    dropFamily (c :: s) = c :: s := by
  have hfamilies : ∀ family ∈ families, family.toList.head? = some 'm' := by decide
  have hnone : families.find? (fun family => family.toList.isPrefixOf (c :: s)) = none := by
    refine List.find?_eq_none.mpr fun family hfamily hstart => hc ?_
    obtain ⟨behind, hbehind⟩ := List.isPrefixOf_iff_prefix.mp hstart
    obtain ⟨rest, hrest⟩ := List.head?_eq_some_iff.mp (hfamilies family hfamily)
    rw [hrest, List.cons_append, List.cons.injEq] at hbehind
    exact hbehind.1.symm
  rw [dropFamily, hnone]

/-- Behind a family name, and behind none, nothing is taken for one. -/
theorem dropFamily_append {family : String} (hfamily : family ∈ ["", "metal", "macos-metal"])
    {c : Char} (hc : c ≠ 'm') (s : List Char) :
    dropFamily (family.toList ++ c :: s) = c :: s := by
  simp only [List.mem_cons, List.not_mem_nil, or_false] at hfamily
  rcases hfamily with rfl | rfl | rfl
  · exact dropFamily_cons hc s
  · rfl
  · rfl

theorem Spells.not_isBlank (h : Spells s v) : ∀ c ∈ s, isBlank c = false := by
  obtain ⟨hfamily, hmajor, hminor⟩ := h
  have hfamilies : ∀ family ∈ ["", "metal", "macos-metal"],
      family.toList.all fun c => !isBlank c := by decide
  simp only [List.mem_append, List.mem_cons]
  rintro c (hc | hc | rfl | hc)
  · simpa using List.all_eq_true.mp (hfamilies _ hfamily) c hc
  · exact hmajor.not_isBlank c hc
  · decide
  · exact hminor.not_isBlank c hc

theorem Spells.ne_nil (h : Spells s v) : s ≠ [] := by
  obtain ⟨-, -, -⟩ := h
  simp

/-- Nothing is in the way of a grammatical text: neither number holds a point, and no number starts
as a family name does. -/
theorem Spells.cut (h : Spells s v) : ∃ major minor,
    (dropFamily s).span (· ≠ '.') = (major, '.' :: minor) ∧
      SpellsNumber major v.major.toNat ∧ SpellsNumber minor v.minor.toNat := by
  obtain @⟨family, major, minor, _, hfamily, hmajor, hminor⟩ := h
  obtain ⟨c, rest, rfl⟩ := List.exists_cons_of_ne_nil hmajor.ne_nil
  have hc : c ≠ 'm' := hmajor.ne_of_mem List.mem_cons_self (by decide) (by decide)
  have hpoint : ∀ d ∈ c :: rest, d ≠ '.' := fun d hd => hmajor.ne_of_mem hd (by decide) (by decide)
  refine ⟨c :: rest, minor, ?_, hmajor, hminor⟩
  rw [List.cons_append, dropFamily_append hfamily hc, ← List.cons_append, span_ne_append hpoint]

/-- A version number as it is stored. -/
theorem readUpTo_eq_ok_toNat_iff {s : List Char} {n : UInt8} :
    readUpTo 255 s = .ok n.toNat ↔ SpellsNumber s n.toNat := by
  rw [readUpTo_eq_ok_iff]
  exact and_iff_left (Nat.le_of_lt_succ n.toNat_lt)

theorem read_eq_ok_iff {text : String} :
    read text = .ok v ↔ Spells (trimBlanks text.toList) v := by
  unfold read
  generalize trimBlanks text.toList = s
  dsimp only
  constructor
  · intro h
    obtain ⟨family, hfamily, hs⟩ := exists_family s
    split at h
    · cases h
    · rename_i major _ minor hspan
      rw [exists_of_span_ne hspan] at hs
      -- Both parts were read, so each of them is within the limit of what is stored.
      cases hmajor : readUpTo 255 major with
      | error fault => rw [hmajor] at h; cases h
      | ok m =>
        cases hminor : readUpTo 255 minor with
        | error fault => rw [hmajor, hminor] at h; cases h
        | ok n =>
          rw [hmajor, hminor] at h
          cases h
          obtain ⟨hmajor, hm⟩ := readUpTo_eq_ok_iff.mp hmajor
          obtain ⟨hminor, hn⟩ := readUpTo_eq_ok_iff.mp hminor
          have hm : m.toUInt8.toNat = m := Nat.mod_eq_of_lt (Nat.lt_succ_of_le hm)
          have hn : n.toUInt8.toNat = n := Nat.mod_eq_of_lt (Nat.lt_succ_of_le hn)
          rw [hs]
          exact .mk hfamily (hm.symm ▸ hmajor) (hn.symm ▸ hminor)
  · intro h
    obtain ⟨major, minor, hspan, hmajor, hminor⟩ := h.cut
    rw [hspan]
    dsimp only
    rw [readUpTo_eq_ok_toNat_iff.mpr hmajor, readUpTo_eq_ok_toNat_iff.mpr hminor]
    show Except.ok (LanguageVersion.mk (UInt8.ofNat v.major.toNat) (UInt8.ofNat v.minor.toNat)) =
      .ok v
    rw [UInt8.ofNat_toNat, UInt8.ofNat_toNat]

/-- Blanks around a version are all that the grammar does not see. -/
theorem Spells.read_eq (h : Spells s v) {text : String} {before after : List Char}
    (htext : text.toList = before ++ (s ++ after)) (hbefore : ∀ c ∈ before, isBlank c)
    (hafter : ∀ c ∈ after, isBlank c) : read text = .ok v := by
  have hs : Trimmed isBlank s := .of_forall h.ne_nil h.not_isBlank
  rw [read_eq_ok_iff, htext, trimBlanks, hs.trimWhile_append hbefore hafter]
  exact h

theorem read_display_behind {family : String} (hfamily : family ∈ ["", "metal", "macos-metal"])
    (v : LanguageVersion) : read (family ++ v.display) = .ok v := by
  have hspells : Spells (family ++ v.display).toList v := by
    have hdisplay : v.display.toList =
        (toString v.major.toNat).toList ++ '.' :: (toString v.minor.toNat).toList := by
      unfold display
      simp
    rw [String.toList_append, hdisplay]
    exact .mk hfamily (.toString _) (.toString _)
  have hbare : (family ++ v.display).toList = [] ++ ((family ++ v.display).toList ++ []) :=
    (List.append_nil _).symm
  exact hspells.read_eq hbare nofun nofun

/-- **A text is read as a version just if the grammar spells it so, blanks around it aside.** In
particular what a version is displayed as and its language option are read back. -/
theorem reads_its_grammar :
    (∀ text v, read text = .ok v ↔ ∃ before s after, text.toList = before ++ (s ++ after) ∧
      (∀ c ∈ before, isBlank c) ∧ (∀ c ∈ after, isBlank c) ∧ Spells s v) ∧
    ∀ v : LanguageVersion, read v.display = .ok v ∧ read v.stdFlag = .ok v := by
  refine ⟨fun text v => ⟨fun h => ?_, ?_⟩, fun v => ⟨?_, ?_⟩⟩
  · obtain ⟨before, after, hbefore, hafter, htext⟩ := exists_trimWhile isBlank text.toList
    exact ⟨before, _, after, htext, hbefore, hafter, read_eq_ok_iff.mp h⟩
  · rintro ⟨before, s, after, htext, hbefore, hafter, h⟩
    exact h.read_eq htext hbefore hafter
  · have h := read_display_behind (by decide : "" ∈ _) v
    rwa [String.empty_append] at h
  · exact read_display_behind (by decide) v

example : read " macos-metal+0003.255\n" = .ok ⟨3, 255⟩ := by decide

example : read "metal2.4.1" = .error (.minor "metal2.4.1" .notADigit) := by decide

end LanguageVersion

end KernelLink
