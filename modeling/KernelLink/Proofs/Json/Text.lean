import KernelLink.Json.Basic
import KernelLink.Json.Reader
import KernelLink.Proofs.Number.Reading

/-!
# JSON read back

What is printed is read back: the reader takes the indented form of a value apart into that value.
The blanks that indent it are skipped, an escape stands for the character that was escaped, and a
number ends where the next token begins. Every step of the reader takes at least one character of
the text, so the characters are fuel enough.
-/

namespace KernelLink

namespace Json

/-! ## Blanks -/

theorem skipBlanks_append {s : List Char} (h : ∀ c ∈ s, isJsonBlank c) (t : List Char) :
    skipBlanks (s ++ t) = skipBlanks t := by
  unfold skipBlanks
  rw [List.dropWhile_append_of_pos h]

theorem skipBlanks_of_head {c : Char} (h : isJsonBlank c = false) (s : List Char) :
    skipBlanks (c :: s) = c :: s :=
  List.dropWhile_cons_of_neg (by simp [h])

theorem toList_lineStart (level : Nat) :
    (lineStart level).toList = '\n' :: List.replicate (2 * level) ' ' := by
  unfold lineStart
  rw [String.toList_append]
  simp only [String.toList_ofList]
  rfl

theorem isJsonBlank_of_mem_lineStart {level : Nat} :
    ∀ c ∈ (lineStart level).toList, isJsonBlank c := by
  intro c hc
  rw [toList_lineStart] at hc
  rcases List.mem_cons.mp hc with rfl | hc
  · rfl
  · obtain ⟨-, rfl⟩ := List.mem_replicate.mp hc
    rfl

theorem one_le_length_lineStart (level : Nat) : 1 ≤ (lineStart level).toList.length := by
  rw [toList_lineStart]
  exact Nat.le_add_left 1 _

theorem skipBlanks_skipBlanks (s : List Char) : skipBlanks (skipBlanks s) = skipBlanks s := by
  unfold skipBlanks
  induction s with
  | nil => rfl
  | cons c s ih =>
    rw [List.dropWhile_cons]
    split
    · exact ih
    · rename_i hc
      exact List.dropWhile_cons_of_neg hc

theorem readValue_skipBlanks (fuel : Nat) (s : List Char) :
    readValue fuel (skipBlanks s) = readValue fuel s := by
  cases fuel with
  | zero => rw [readValue, readValue]
  | succ fuel => rw [readValue, readValue, skipBlanks_skipBlanks]

/-- The blanks at the start of a line are of no account to the value that stands there. -/
theorem readValue_lineStart (fuel level : Nat) (s : List Char) :
    readValue fuel ((lineStart level).toList ++ s) = readValue fuel s := by
  rw [← readValue_skipBlanks, skipBlanks_append isJsonBlank_of_mem_lineStart, readValue_skipBlanks]

theorem readItems_skipBlanks (fuel : Nat) (s : List Char) :
    readItems fuel (skipBlanks s) = readItems fuel s := by
  cases fuel with
  | zero => rw [readItems, readItems]
  | succ fuel => rw [readItems, readItems, readValue_skipBlanks]

theorem readFields_skipBlanks (fuel : Nat) (s : List Char) :
    readFields fuel (skipBlanks s) = readFields fuel s := by
  cases fuel with
  | zero => rw [readFields, readFields]
  | succ fuel => rw [readFields, readFields, skipBlanks_skipBlanks]

/-! ## Strings -/

theorem hexValue?_hexDigit : ∀ n < 16, hexValue? (hexDigit n) = some n := by decide

/-- A character is written by a short escape, by its code, or as it is. -/
theorem escapeChar_cases (c : Char) :
    (∃ e, e ≠ 'u' ∧ shortEscape? e = some c ∧ escapeChar c = ['\\', e]) ∨
    (c.toNat < 0x20 ∧ escapeChar c =
      ['\\', 'u', '0', '0', hexDigit (c.toNat / 16), hexDigit (c.toNat % 16)]) ∨
    c ≠ '"' ∧ c ≠ '\\' ∧ ¬c.toNat < 0x20 ∧ escapeChar c = [c] := by
  unfold escapeChar
  split
  · rename_i h; exact .inl ⟨'"', by decide, by rw [h]; rfl, rfl⟩
  split
  · rename_i h; exact .inl ⟨'\\', by decide, by rw [h]; rfl, rfl⟩
  split
  · rename_i h; exact .inl ⟨'n', by decide, by rw [h]; rfl, rfl⟩
  split
  · rename_i h; exact .inl ⟨'r', by decide, by rw [h]; rfl, rfl⟩
  split
  · rename_i h; exact .inl ⟨'t', by decide, by rw [h]; rfl, rfl⟩
  split
  · rename_i h; exact .inl ⟨'b', by decide, by rw [h]; rfl, rfl⟩
  split
  · rename_i h; exact .inl ⟨'f', by decide, by rw [h]; rfl, rfl⟩
  split
  · rename_i h; exact .inr (.inl ⟨h, rfl⟩)
  · rename_i hquote hslash _ _ _ _ _ h
    exact .inr (.inr ⟨hquote, hslash, h, rfl⟩)

/-- An escaped character is read as one piece, and the piece is the character. -/
theorem readPieces_escapeChar (c : Char) (s : List Char) :
    ∃ p, (∀ ps, joinPieces none (p :: ps) = (joinPieces none ps).map (c :: ·)) ∧
      readPieces (escapeChar c ++ s) = (readPieces s).map fun r => (p :: r.1, r.2) := by
  rcases escapeChar_cases c with ⟨e, hu, he, hc⟩ | ⟨hcontrol, hc⟩ | ⟨hquote, hslash, hcontrol, hc⟩
  · refine ⟨.char c, fun ps => rfl, ?_⟩
    rw [hc]
    show readPieces ('\\' :: e :: s) = _
    rw [readPieces]
    · rw [he]
      cases readPieces s <;> rfl
    · rintro a b c d s' rfl
      exact fun _ => hu rfl
  · refine ⟨.code c.toNat, fun ps => ?_, ?_⟩
    · have hhigh : isHighSurrogate c.toNat = false := by
        unfold isHighSurrogate
        simp
        omega
      have hlow : isLowSurrogate c.toNat = false := by
        unfold isLowSurrogate
        simp
        omega
      rw [joinPieces]
      simp only [hhigh, hlow]
      simp
    · have hcode : hexCode? '0' '0' (hexDigit (c.toNat / 16)) (hexDigit (c.toNat % 16)) =
          some c.toNat := by
        unfold hexCode?
        rw [hexValue?_hexDigit _ (by omega), hexValue?_hexDigit _ (by omega)]
        show some (((0 * 16 + 0) * 16 + c.toNat / 16) * 16 + c.toNat % 16) = some c.toNat
        congr 1
        omega
      rw [hc]
      show readPieces ('\\' :: 'u' :: '0' :: '0' :: _ :: _ :: s) = _
      rw [readPieces, hcode]
      cases readPieces s <;> rfl
  · refine ⟨.char c, fun ps => rfl, ?_⟩
    rw [hc]
    show readPieces (c :: s) = _
    rw [readPieces]
    · rw [if_neg (by simp [hslash, hcontrol])]
      cases readPieces s <;> rfl
    · exact hquote
    · exact fun _ _ _ _ _ h => absurd h hslash
    · exact fun _ _ h => absurd h hslash

/-- The pieces of a quoted text are its characters. -/
theorem readPieces_flatMap_escapeChar (s rest : List Char) :
    ∃ ps, readPieces (s.flatMap escapeChar ++ '"' :: rest) = some (ps, rest) ∧
      joinPieces none ps = some s := by
  induction s with
  | nil => exact ⟨[], rfl, rfl⟩
  | cons c s ih =>
    obtain ⟨ps, hread, hjoin⟩ := ih
    obtain ⟨p, hp, hpiece⟩ := readPieces_escapeChar c (s.flatMap escapeChar ++ '"' :: rest)
    refine ⟨p :: ps, ?_, ?_⟩
    · rw [List.flatMap_cons, List.append_assoc, hpiece, hread]
      rfl
    · rw [hp, hjoin]
      rfl

/-- **A string is read back**, whatever its characters are. -/
theorem readString_escaped (s : String) (rest : List Char) :
    readString (s.toList.flatMap escapeChar ++ '"' :: rest) = some (some s, rest) := by
  obtain ⟨ps, hread, hjoin⟩ := readPieces_flatMap_escapeChar s.toList rest
  unfold readString
  rw [hread]
  show some ((joinPieces none ps).map String.ofList, rest) = _
  rw [hjoin, Option.map_some, String.ofList_toList]

end Json

/-! ## Numbers -/

/-- A numeral that JSON can hold: no zero before other digits, and digits behind a point. -/
structure Numeral.InJson (n : Numeral) : Prop extends n.InDigits where
  whole_head : ∀ d ds, n.whole ≠ '0' :: d :: ds
  fraction_ne_nil : n.fraction ≠ some []

namespace Json

/-- No number goes on here. -/
def EndsNumber (s : List Char) : Prop :=
  ∀ c ∈ s.head?, c.isDigit = false ∧ c ≠ '.' ∧ c ≠ 'e' ∧ c ≠ 'E'

/-- The exponent of a numeral as JSON has it. -/
def exponentText (n : Numeral) : List Char :=
  match n.exponent with
  | some e => 'e' :: ((if e < 0 then ['-'] else ['+']) ++ decimalDigits e.natAbs)
  | none => []

theorem toList_text_plus (n : Numeral) : (n.text "+").toList =
    (if n.negative then ['-'] else []) ++ (n.whole ++ (n.pointText ++ exponentText n)) := by
  rw [toList_text]
  unfold Numeral.pointText exponentText
  simp only [List.append_assoc, Nat.toString_eq_ofList_toDigits, String.toList_ofList]
  rfl

theorem EndsNumber.head?_append {s : List Char} {n : Numeral} (h : EndsNumber s) :
    ∀ c ∈ (exponentText n ++ s).head?, c.isDigit = false ∧ c ≠ '.' := by
  unfold exponentText
  cases n.exponent with
  | none => exact fun c hc => ⟨(h c hc).1, (h c hc).2.1⟩
  | some e => rintro c ⟨⟩; decide

theorem readExponent?_exponentText (n : Numeral) {rest : List Char} (hrest : EndsNumber rest) :
    readExponent? (exponentText n ++ rest) = some (n.exponent, rest) := by
  unfold exponentText
  cases n.exponent with
  | some e => exact Numeral.readExponent?_append (.inr rfl) e fun c hc => (hrest c hc).1
  | none =>
    cases rest with
    | nil => rfl
    | cons c rest =>
      obtain ⟨-, -, he, he'⟩ := hrest c rfl
      show readExponent? (c :: rest) = _
      unfold readExponent?
      exact if_neg (not_or.mpr ⟨he, he'⟩)

theorem readFraction?_pointText {n : Numeral} (h : n.InJson) {s : List Char}
    (hs : ∀ c ∈ s.head?, c.isDigit = false ∧ c ≠ '.') :
    readFraction? (n.pointText ++ s) = some (n.fraction, s) := by
  unfold Numeral.pointText
  cases hfraction : n.fraction with
  | none =>
    show readFraction? s = _
    unfold readFraction?
    split
    · exact absurd rfl (hs '.' rfl).2
    · rfl
  | some ds =>
    have hne : ds ≠ [] := fun he => h.fraction_ne_nil (he ▸ hfraction)
    show (if (spanDigits (ds ++ s)).1.isEmpty then none
      else some (some (spanDigits (ds ++ s)).1, (spanDigits (ds ++ s)).2)) = _
    rw [spanDigits_append (h.fraction ds hfraction) fun c hc => (hs c hc).1,
      List.isEmpty_eq_false_iff.mpr hne, if_neg Bool.false_ne_true]

theorem readWhole?_append {n : Numeral} (h : n.InJson) {s : List Char}
    (hs : ∀ c ∈ s.head?, c.isDigit = false) : readWhole? (n.whole ++ s) = some (n.whole, s) := by
  unfold readWhole?
  rw [spanDigits_append h.whole hs]
  split
  · rename_i he
    exact absurd (congrArg Prod.fst he) h.nonempty
  · rename_i he
    exact absurd (congrArg Prod.fst he) (h.whole_head _ _)
  · rename_i he
    rw [← he]

theorem readNumber?_signed {n : Numeral} (h : n.InJson) (s : List Char) :
    readNumber? ((if n.negative then ['-'] else []) ++ (n.whole ++ s)) =
      (readWhole? (n.whole ++ s)).bind fun whole =>
        (readFraction? whole.2).bind fun fraction =>
          (readExponent? fraction.2).bind fun exponent =>
            some (⟨n.negative, whole.1, fraction.1, exponent.1⟩, exponent.2) := by
  cases n.negative with
  | true => rfl
  | false =>
    obtain ⟨c, whole, hwhole⟩ := List.exists_cons_of_ne_nil h.nonempty
    have hc : c.isDigit := h.whole c (hwhole ▸ List.mem_cons_self)
    have hminus : c ≠ '-' := by
      rintro rfl
      exact absurd hc (by decide)
    rw [hwhole]
    unfold readNumber?
    split
    rename_i negative s' hsplit
    split at hsplit
    · rename_i hhead
      exact absurd (List.cons.inj hhead).1 hminus
    · cases hsplit
      rfl

/-- **A number is read back**, up to where no number goes on. -/
theorem readNumber?_text {n : Numeral} (h : n.InJson) {rest : List Char} (hrest : EndsNumber rest) :
    readNumber? ((n.text "+").toList ++ rest) = some (n, rest) := by
  have hpoint : ∀ c ∈ (n.pointText ++ (exponentText n ++ rest)).head?, c.isDigit = false := by
    unfold Numeral.pointText
    cases n.fraction with
    | none => exact fun c hc => (hrest.head?_append c hc).1
    | some ds => rintro c ⟨⟩; rfl
  rw [toList_text_plus, List.append_assoc, List.append_assoc, List.append_assoc,
    readNumber?_signed h, readWhole?_append h hpoint, Option.bind_some,
    readFraction?_pointText h hrest.head?_append, Option.bind_some,
    readExponent?_exponentText n hrest, Option.bind_some]

/-! ## Values -/

/-- The values that are read back: their numbers are as JSON has them, and their strings are texts. -/
inductive Readable : Json → Prop
  | null : Readable .null
  | bool (b : Bool) : Readable (.bool b)
  | number {n : Numeral} (h : n.InJson) : Readable (.number n)
  | string (s : String) : Readable (.string (some s))
  | array {items : List Json} (h : ∀ v ∈ items, Readable v) : Readable (.array items)
  | object {fields : List (String × Json)} (h : ∀ f ∈ fields, Readable f.2) :
    Readable (ofFields fields)

/-- The characters that a value starts with. -/
def StartsValue (s : List Char) : Prop := ∃ c t, s = c :: t ∧ isJsonBlank c = false ∧ c ≠ ']'

/-- With a character of fuel for each of its own, a value is read back from its text, whatever
follows. -/
def ReadsBack (v : Json) : Prop := ∀ fuel level rest, (pretty level v).toList.length ≤ fuel →
  EndsNumber rest → readValue fuel ((pretty level v).toList ++ rest) = some (v, rest)

theorem toList_quoted (s : String) :
    (quoted s).toList = '"' :: (s.toList.flatMap escapeChar ++ ['"']) := by
  unfold quoted
  rw [String.toList_append, String.toList_append, List.append_assoc]
  simp only [String.toList_ofList]
  rfl

/-- The value has no parts. -/
def isScalar : Json → Bool
  | .array (_ :: _) | .object (_ :: _) => false
  | _ => true

/-- A value without parts has one text, wherever it stands. -/
theorem pretty_of_isScalar {v : Json} (level : Nat) (h : v.isScalar = true) :
    pretty level v = scalarText v := by
  rw [pretty]
  · rintro x xs rfl
    cases h
  · rintro f fs rfl
    cases h

theorem toList_scalar_null (level : Nat) : (pretty level .null).toList = "null".toList := by
  rw [pretty_of_isScalar level rfl]
  rfl

theorem toList_scalar_bool (level : Nat) (b : Bool) :
    (pretty level (.bool b)).toList = if b then "true".toList else "false".toList := by
  rw [pretty_of_isScalar level rfl]
  cases b <;> rfl

theorem toList_scalar_number (level : Nat) (n : Numeral) :
    (pretty level (.number n)).toList = (n.text "+").toList := by
  rw [pretty_of_isScalar level rfl]
  rfl

theorem toList_scalar_string (level : Nat) (s : String) :
    (pretty level (.string (some s))).toList = '"' :: (s.toList.flatMap escapeChar ++ ['"']) := by
  rw [pretty_of_isScalar level rfl]
  exact toList_quoted s

theorem toList_scalar_array (level : Nat) : (pretty level (.array [])).toList = ['[', ']'] := by
  rw [pretty_of_isScalar level rfl]
  rfl

theorem toList_scalar_object (level : Nat) :
    (pretty level (.object [])).toList = ['\x7b', '\x7d'] := by
  rw [pretty_of_isScalar level rfl]
  rfl

theorem toList_pretty_array (level : Nat) (v : Json) (vs : List Json) :
    (pretty level (.array (v :: vs))).toList =
      '[' :: ((prettyItems (level + 1) (v :: vs)).toList ++ ((lineStart level).toList ++ [']'])) := by
  rw [pretty, String.toList_append, String.toList_append, String.toList_append, List.append_assoc,
    List.append_assoc]
  rfl

theorem toList_pretty_object (level : Nat) (f : Option String × Json)
    (fs : List (Option String × Json)) : (pretty level (.object (f :: fs))).toList =
      '\x7b' :: ((prettyFields (level + 1) (f :: fs)).toList ++
        ((lineStart level).toList ++ ['\x7d'])) := by
  rw [pretty, String.toList_append, String.toList_append, String.toList_append, List.append_assoc,
    List.append_assoc]
  rfl

theorem toList_prettyItems_singleton (level : Nat) (v : Json) :
    (prettyItems level [v]).toList = (lineStart level).toList ++ (pretty level v).toList := by
  rw [prettyItems, String.toList_append]

theorem toList_prettyItems_cons (level : Nat) (v w : Json) (vs : List Json) :
    (prettyItems level (v :: w :: vs)).toList = (lineStart level).toList ++
      ((pretty level v).toList ++ ',' :: (prettyItems level (w :: vs)).toList) := by
  rw [prettyItems, String.toList_append, String.toList_append, String.toList_append,
    List.append_assoc, List.append_assoc]
  · rfl
  · exact List.cons_ne_nil _ _

/-- A field up to its value. -/
def keyText (level : Nat) (key : String) : List Char :=
  (lineStart level).toList ++ '"' :: (key.toList.flatMap escapeChar ++ '"' :: [':', ' '])

theorem toList_prettyFields_singleton (level : Nat) (key : String) (v : Json) :
    (prettyFields level [(some key, v)]).toList = keyText level key ++ (pretty level v).toList := by
  unfold keyText
  rw [prettyFields, String.toList_append, String.toList_append, String.toList_append,
    toList_quoted]
  simp

theorem toList_prettyFields_cons (level : Nat) (key : String) (v : Json)
    (f : Option String × Json) (fs : List (Option String × Json)) :
    (prettyFields level ((some key, v) :: f :: fs)).toList = keyText level key ++
      ((pretty level v).toList ++ ',' :: (prettyFields level (f :: fs)).toList) := by
  unfold keyText
  rw [prettyFields, String.toList_append, String.toList_append, String.toList_append,
    String.toList_append, String.toList_append, Option.getD_some, toList_quoted]
  · simp
  · exact List.cons_ne_nil _ _

/-- What a number starts with starts no other value. -/
theorem exists_head_text {n : Numeral} (h : n.InJson) :
    ∃ c t, (n.text "+").toList = c :: t ∧ (c = '-' ∨ c.isDigit) := by
  rw [toList_text_plus]
  cases n.negative with
  | true => exact ⟨'-', _, rfl, .inl rfl⟩
  | false =>
    obtain ⟨c, whole, hwhole⟩ := List.exists_cons_of_ne_nil h.nonempty
    rw [hwhole]
    exact ⟨c, _, rfl, .inr (h.whole c (hwhole ▸ List.mem_cons_self))⟩

theorem isJsonBlank_of_isDigit {c : Char} (h : c = '-' ∨ c.isDigit) : isJsonBlank c = false := by
  rw [Bool.eq_false_iff]
  intro hblank
  have hcases : c = ' ' ∨ c = '\t' ∨ c = '\n' ∨ c = '\r' := by
    simpa [isJsonBlank, or_assoc] using hblank
  rcases hcases with rfl | rfl | rfl | rfl <;> revert h <;> decide

theorem startsValue_pretty {v : Json} (h : Readable v) (level : Nat) :
    StartsValue (pretty level v).toList := by
  cases h with
  | null => exact ⟨'n', _, toList_scalar_null level, rfl, by decide⟩
  | bool b =>
    rw [toList_scalar_bool]
    cases b with
    | true => exact ⟨'t', _, rfl, rfl, by decide⟩
    | false => exact ⟨'f', _, rfl, rfl, by decide⟩
  | number h =>
    obtain ⟨c, t, htext, hc⟩ := exists_head_text h
    rw [toList_scalar_number]
    refine ⟨c, t, htext, isJsonBlank_of_isDigit hc, ?_⟩
    rintro rfl
    revert hc
    decide
  | string s => exact ⟨'"', _, toList_scalar_string level s, rfl, by decide⟩
  | @array items h =>
    cases items with
    | nil => exact ⟨'[', _, toList_scalar_array level, rfl, by decide⟩
    | cons v vs => exact ⟨'[', _, toList_pretty_array level v vs, rfl, by decide⟩
  | @object fields h =>
    cases fields with
    | nil => exact ⟨'\x7b', _, toList_scalar_object level, rfl, by decide⟩
    | cons f fs => exact ⟨'\x7b', _, toList_pretty_object level _ _, rfl, by decide⟩

theorem endsNumber_cons {c : Char} (h : c ∈ [',', '\n']) (s : List Char) :
    EndsNumber (c :: s) := by
  rintro _ ⟨⟩
  rcases List.mem_cons.mp h with rfl | h
  · decide
  · obtain rfl := List.mem_singleton.mp h
    decide

theorem endsNumber_lineStart (level : Nat) (s : List Char) :
    EndsNumber ((lineStart level).toList ++ s) := by
  rw [toList_lineStart]
  exact endsNumber_cons (by decide) _

/-- Items are read back, with the line that closes them. -/
theorem readItems_pretty (level closing : Nat) (rest : List Char) :
    ∀ (v : Json) (vs : List Json), (∀ w ∈ v :: vs, ReadsBack w) → ∀ fuel,
      (prettyItems level (v :: vs)).toList.length ≤ fuel →
        readItems fuel ((prettyItems level (v :: vs)).toList ++
          ((lineStart closing).toList ++ ']' :: rest)) = some (v :: vs, rest) := by
  intro v vs
  -- the line that an item stands on pays for the step that reads it
  have hline := one_le_length_lineStart level
  induction vs generalizing v with
  | nil =>
    intro h fuel hfuel
    rw [toList_prettyItems_singleton, List.length_append] at hfuel
    obtain ⟨fuel, rfl⟩ : ∃ n, fuel = n + 1 := ⟨fuel - 1, by omega⟩
    rw [toList_prettyItems_singleton, List.append_assoc, readItems, readValue_lineStart,
      h v List.mem_cons_self fuel level _ (by omega) (endsNumber_lineStart _ _)]
    dsimp only [bind, Option.bind]
    rw [skipBlanks_append isJsonBlank_of_mem_lineStart, skipBlanks_of_head rfl]
    rfl
  | cons w vs ih =>
    intro h fuel hfuel
    rw [toList_prettyItems_cons, List.length_append, List.length_append, List.length_cons] at hfuel
    obtain ⟨fuel, rfl⟩ : ∃ n, fuel = n + 1 := ⟨fuel - 1, by omega⟩
    rw [toList_prettyItems_cons, List.append_assoc, List.append_assoc, List.cons_append, readItems,
      readValue_lineStart,
      h v List.mem_cons_self fuel level _ (by omega) (endsNumber_cons (by decide) _)]
    dsimp only [bind, Option.bind]
    rw [skipBlanks_of_head rfl]
    show (readItems fuel ((prettyItems level (w :: vs)).toList ++
      ((lineStart closing).toList ++ ']' :: rest))).bind (fun r => some (v :: r.1, r.2)) = _
    rw [ih w (fun x hx => h x (List.mem_cons_of_mem _ hx)) fuel (by omega)]
    rfl

/-- A field is read up to its value. -/
theorem readFields_keyText (fuel level : Nat) (key : String) (s : List Char) :
    readFields (fuel + 1) (keyText level key ++ s) = (do
      let (value, s) ← readValue fuel s
      match skipBlanks s with
      | '\x7d' :: s => some ([(some key, value)], s)
      | ',' :: s => do
        let (fields, rest) ← readFields fuel s
        some ((some key, value) :: fields, rest)
      | _ => none) := by
  have htext : keyText level key ++ s = (lineStart level).toList ++
      '"' :: (key.toList.flatMap escapeChar ++ '"' :: ':' :: ' ' :: s) := by
    unfold keyText
    simp
  rw [htext, readFields, skipBlanks_append isJsonBlank_of_mem_lineStart, skipBlanks_of_head rfl]
  show (readString (key.toList.flatMap escapeChar ++ '"' :: ':' :: ' ' :: s) >>= _) = _
  rw [readString_escaped, ← readValue_skipBlanks fuel s]
  show (readValue fuel (' ' :: s) >>= _) = _
  rw [← readValue_skipBlanks fuel (' ' :: s)]
  rfl

/-- The fields of an object that have names. -/
def namedFields (fields : List (String × Json)) : List (Option String × Json) :=
  fields.map fun f => (some f.1, f.2)

/-- Fields are read back, with the line that closes them. -/
theorem readFields_pretty (level closing : Nat) (rest : List Char) :
    ∀ (f : String × Json) (fs : List (String × Json)), (∀ g ∈ f :: fs, ReadsBack g.2) → ∀ fuel,
      (prettyFields level (namedFields (f :: fs))).toList.length ≤ fuel →
        readFields fuel ((prettyFields level (namedFields (f :: fs))).toList ++
          ((lineStart closing).toList ++ '\x7d' :: rest)) = some (namedFields (f :: fs), rest) := by
  intro f fs
  have hkey : ∀ key, 1 ≤ (keyText level key).length := by
    intro key
    unfold keyText
    rw [List.length_append]
    exact Nat.le_add_right_of_le (one_le_length_lineStart level)
  induction fs generalizing f with
  | nil =>
    obtain ⟨key, v⟩ := f
    intro h fuel hfuel
    have hkey := hkey key
    have hv : ReadsBack v := h _ List.mem_cons_self
    show readFields fuel ((prettyFields level [(some key, v)]).toList ++ _) = _
    change (prettyFields level [(some key, v)]).toList.length ≤ fuel at hfuel
    rw [toList_prettyFields_singleton, List.length_append] at hfuel
    obtain ⟨fuel, rfl⟩ : ∃ n, fuel = n + 1 := ⟨fuel - 1, by omega⟩
    rw [toList_prettyFields_singleton, List.append_assoc, readFields_keyText,
      hv fuel level _ (by omega) (endsNumber_lineStart _ _)]
    dsimp only [bind, Option.bind]
    rw [skipBlanks_append isJsonBlank_of_mem_lineStart, skipBlanks_of_head rfl]
    rfl
  | cons g fs ih =>
    obtain ⟨key, v⟩ := f
    intro h fuel hfuel
    have hkey := hkey key
    have hv : ReadsBack v := h _ List.mem_cons_self
    show readFields fuel ((prettyFields level ((some key, v) :: namedFields (g :: fs))).toList ++ _) =
      _
    change (prettyFields level ((some key, v) :: namedFields (g :: fs))).toList.length ≤ fuel
      at hfuel
    have hcons : (prettyFields level ((some key, v) :: namedFields (g :: fs))).toList =
        keyText level key ++ ((pretty level v).toList ++
          ',' :: (prettyFields level (namedFields (g :: fs))).toList) :=
      toList_prettyFields_cons level key v _ _
    rw [hcons, List.length_append, List.length_append, List.length_cons] at hfuel
    obtain ⟨fuel, rfl⟩ : ∃ n, fuel = n + 1 := ⟨fuel - 1, by omega⟩
    rw [hcons, List.append_assoc, List.append_assoc, List.cons_append, readFields_keyText,
      hv fuel level _ (by omega) (endsNumber_cons (by decide) _)]
    dsimp only [bind, Option.bind]
    rw [skipBlanks_of_head rfl]
    show (readFields fuel ((prettyFields level (namedFields (g :: fs))).toList ++
      ((lineStart closing).toList ++ '\x7d' :: rest))).bind
        (fun r => some ((some key, v) :: r.1, r.2)) = _
    rw [ih g (fun x hx => h x (List.mem_cons_of_mem _ hx)) fuel (by omega)]
    rfl

/-- A value that starts like a number is read as one. -/
theorem readValue_of_isDigit {c : Char} (hc : c = '-' ∨ c.isDigit) (fuel : Nat) (s : List Char) :
    readValue (fuel + 1) (c :: s) = (readNumber? (c :: s)).map fun r => (.number r.1, r.2) := by
  have hne : ∀ d ∈ ['n', 't', 'f', '"', '[', '\x7b'], c ≠ d := by
    rintro d hd rfl
    simp only [List.mem_cons, List.not_mem_nil, or_false] at hd
    rcases hd with rfl | rfl | rfl | rfl | rfl | rfl <;> exact absurd hc (by decide)
  rw [readValue, skipBlanks_of_head (isJsonBlank_of_isDigit hc)]
  split
  · rename_i he
    exact absurd (List.cons.inj he).1 (hne 'n' (by decide))
  · rename_i he
    exact absurd (List.cons.inj he).1 (hne 't' (by decide))
  · rename_i he
    exact absurd (List.cons.inj he).1 (hne 'f' (by decide))
  · rename_i he
    exact absurd (List.cons.inj he).1 (hne '"' (by decide))
  · rename_i he
    exact absurd (List.cons.inj he).1 (hne '[' (by decide))
  · rename_i he
    exact absurd (List.cons.inj he).1 (hne '\x7b' (by decide))
  · cases readNumber? (c :: s) <;> rfl

theorem readValue_array_eq (fuel : Nat) (s : List Char) : readValue (fuel + 1) ('[' :: s) =
    match skipBlanks s with
    | ']' :: s => some (.array [], s)
    | s => (readItems fuel s).bind fun r => some (.array r.1, r.2) := by
  rw [readValue, skipBlanks_of_head rfl]
  rfl

theorem readValue_object_eq (fuel : Nat) (s : List Char) : readValue (fuel + 1) ('\x7b' :: s) =
    match skipBlanks s with
    | '\x7d' :: s => some (.object [], s)
    | s => (readFields fuel s).bind fun r => some (.object r.1, r.2) := by
  rw [readValue, skipBlanks_of_head rfl]
  rfl

/-- An array that does not close at once has items. -/
theorem readValue_array {fuel : Nat} {s : List Char} (hs : ∀ t, skipBlanks s ≠ ']' :: t) :
    readValue (fuel + 1) ('[' :: s) = (readItems fuel s).map fun r => (.array r.1, r.2) := by
  rw [readValue_array_eq, ← readItems_skipBlanks fuel s]
  generalize skipBlanks s = t at hs
  split
  · exact absurd rfl (hs _)
  · cases readItems fuel t <;> rfl

/-- An object that does not close at once has fields. -/
theorem readValue_object {fuel : Nat} {s : List Char} (hs : ∀ t, skipBlanks s ≠ '\x7d' :: t) :
    readValue (fuel + 1) ('\x7b' :: s) = (readFields fuel s).map fun r => (.object r.1, r.2) := by
  rw [readValue_object_eq, ← readFields_skipBlanks fuel s]
  generalize skipBlanks s = t at hs
  split
  · exact absurd rfl (hs _)
  · cases readFields fuel t <;> rfl

theorem skipBlanks_prettyItems_ne {level : Nat} {v : Json} (h : Readable v) (vs : List Json)
    (s t : List Char) : skipBlanks ((prettyItems level (v :: vs)).toList ++ s) ≠ ']' :: t := by
  have htext : ∃ u, (prettyItems level (v :: vs)).toList =
      (lineStart level).toList ++ ((pretty level v).toList ++ u) := by
    cases vs with
    | nil => exact ⟨[], by rw [toList_prettyItems_singleton, List.append_nil]⟩
    | cons w vs => exact ⟨_, toList_prettyItems_cons level v w vs⟩
  obtain ⟨u, hu⟩ := htext
  obtain ⟨c, r, hr, hblank, hc⟩ := startsValue_pretty h level
  rw [hu, hr, List.append_assoc, skipBlanks_append isJsonBlank_of_mem_lineStart, List.cons_append,
    List.cons_append, skipBlanks_of_head hblank]
  exact fun he => hc (List.cons.inj he).1

theorem skipBlanks_prettyFields_ne {level : Nat} (f : String × Json) (fs : List (String × Json))
    (s t : List Char) :
    skipBlanks ((prettyFields level (namedFields (f :: fs))).toList ++ s) ≠ '\x7d' :: t := by
  have htext : ∃ key u, (prettyFields level (namedFields (f :: fs))).toList =
      keyText level key ++ u := by
    obtain ⟨key, v⟩ := f
    cases fs with
    | nil => exact ⟨key, _, toList_prettyFields_singleton level key v⟩
    | cons g fs => exact ⟨key, _, toList_prettyFields_cons level key v _ (namedFields fs)⟩
  obtain ⟨key, u, hu⟩ := htext
  rw [hu, keyText, List.append_assoc, List.append_assoc,
    skipBlanks_append isJsonBlank_of_mem_lineStart, List.cons_append, skipBlanks_of_head rfl]
  exact fun he => absurd (List.cons.inj he).1 (by decide)

/-- A text of a value takes fuel. -/
theorem exists_fuel {v : Json} (h : Readable v) {fuel level : Nat}
    (hfuel : (pretty level v).toList.length ≤ fuel) : ∃ n, fuel = n + 1 := by
  obtain ⟨c, t, htext, -⟩ := startsValue_pretty h level
  rw [htext, List.length_cons] at hfuel
  exact ⟨fuel - 1, by omega⟩

theorem ReadsBack.number {n : Numeral} (h : n.InJson) : ReadsBack (.number n) := by
  intro fuel level rest hfuel hrest
  obtain ⟨fuel, rfl⟩ := exists_fuel (.number h) hfuel
  obtain ⟨c, t, htext, hc⟩ := exists_head_text h
  have hread := readNumber?_text h hrest
  rw [toList_scalar_number]
  rw [htext] at hread ⊢
  rw [List.cons_append, readValue_of_isDigit hc, ← List.cons_append, hread]
  rfl

theorem ReadsBack.string (s : String) : ReadsBack (.string (some s)) := by
  intro fuel level rest hfuel hrest
  obtain ⟨fuel, rfl⟩ := exists_fuel (.string s) hfuel
  rw [toList_scalar_string, List.cons_append, List.append_assoc, List.singleton_append, readValue,
    skipBlanks_of_head rfl]
  show (readString (s.toList.flatMap escapeChar ++ '"' :: rest) >>= _) = _
  rw [readString_escaped]
  rfl

theorem ReadsBack.array {items : List Json} (h : ∀ v ∈ items, Readable v)
    (ih : ∀ v ∈ items, ReadsBack v) : ReadsBack (.array items) := by
  intro fuel level rest hfuel hrest
  obtain ⟨fuel, rfl⟩ := exists_fuel (.array h) hfuel
  cases items with
  | nil =>
    rw [toList_scalar_array, readValue]
    rfl
  | cons v vs =>
    rw [toList_pretty_array] at hfuel ⊢
    rw [List.length_cons, List.length_append] at hfuel
    rw [List.cons_append, List.append_assoc, List.append_assoc, List.singleton_append,
      readValue_array (skipBlanks_prettyItems_ne (h v List.mem_cons_self) vs _),
      readItems_pretty _ _ _ v vs ih fuel (by omega)]
    rfl

theorem ReadsBack.object {fields : List (String × Json)} (h : ∀ f ∈ fields, Readable f.2)
    (ih : ∀ f ∈ fields, ReadsBack f.2) : ReadsBack (ofFields fields) := by
  intro fuel level rest hfuel hrest
  obtain ⟨fuel, rfl⟩ := exists_fuel (.object h) hfuel
  cases fields with
  | nil =>
    show readValue (fuel + 1) ((pretty level (.object [])).toList ++ rest) =
      some (.object [], rest)
    rw [toList_scalar_object, readValue]
    rfl
  | cons f fs =>
    have htext : (pretty level (ofFields (f :: fs))).toList =
        '\x7b' :: ((prettyFields (level + 1) (namedFields (f :: fs))).toList ++
          ((lineStart level).toList ++ ['\x7d'])) := toList_pretty_object level _ _
    rw [htext] at hfuel ⊢
    rw [List.length_cons, List.length_append] at hfuel
    rw [List.cons_append, List.append_assoc, List.append_assoc, List.singleton_append,
      readValue_object (skipBlanks_prettyFields_ne f fs _),
      readFields_pretty _ _ _ f fs ih fuel (by omega)]
    rfl

/-- **A value is read back from its text.** -/
theorem readsBack {v : Json} (h : Readable v) : ReadsBack v := by
  -- on the parts of the value; the fuel is what keeps the reader's recursion on the text going
  induction h with
  | null =>
    intro fuel level rest hfuel hrest
    obtain ⟨fuel, rfl⟩ := exists_fuel .null hfuel
    rw [toList_scalar_null, readValue]
    rfl
  | bool b =>
    intro fuel level rest hfuel hrest
    obtain ⟨fuel, rfl⟩ := exists_fuel (.bool b) hfuel
    rw [toList_scalar_bool, readValue]
    cases b <;> rfl
  | number h => exact .number h
  | string s => exact .string s
  | array h ih => exact .array h ih
  | object h ih => exact .object h ih

/-- **A saved value is read back.** -/
theorem read?_save {v : Json} (h : Readable v) : read? v.save = some v := by
  have hread := readsBack h (2 * (pretty 0 v).toList.length + 2) 0 [] (by omega) nofun
  rw [List.append_nil] at hread
  unfold read? save
  dsimp only
  rw [hread]
  rfl

end Json

end KernelLink
