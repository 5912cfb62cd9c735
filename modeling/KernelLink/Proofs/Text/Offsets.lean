import KernelLink.Proofs.Text.Delimiter
import KernelLink.Text.Blank
import KernelLink.Text.Bytes

/-!
# Byte offsets

A text is searched byte by byte, and cut at the offsets that are found. Reading from behind the end,
or cutting inside of a character, stops a program; here it has no result. ASCII characters are one
byte each, and all bytes of every other character are beyond ASCII. So looking for ASCII among the
bytes finds what looking for it among the characters does, at an offset where a character starts.
-/

namespace KernelLink

/-- The bytes of a character. -/
def encode (c : Char) : ByteText := (String.utf8EncodeChar c).map charOfByte

/-- The bytes of a text. -/
def encoded (s : List Char) : ByteText := s.flatMap encode

/-- The bytes from an offset on. -/
def bytesFrom? (bytes : ByteText) (pos : Nat) : Option ByteText :=
  if pos ≤ bytes.length then some (bytes.drop pos) else none

/-- The text from an offset on; nothing is there inside of a character and behind the end. -/
def textFrom? : List Char → Nat → Option (List Char)
  | s, 0 => some s
  | [], _ + 1 => none
  | c :: s, n + 1 => if c.utf8Size ≤ n + 1 then textFrom? s (n + 1 - c.utf8Size) else none

/-- The text between two offsets. -/
def textBetween? (text : List Char) (start stop : Nat) : Option (List Char) :=
  if start ≤ stop then do
    let rest ← textFrom? text start
    let after ← textFrom? text stop
    return rest.take (rest.length - after.length)
  else none

/-! ## Bytes of characters -/

section

variable {c : Char} {s t : List Char}

theorem toNat_charOfByte (b : UInt8) : (charOfByte b).toNat = b.toNat := by
  have hlt := b.toNat_lt
  unfold charOfByte
  rw [Char.ofNat, dif_pos (.inl (by omega))]
  rfl

theorem encode_of_ascii (h : c.toNat < 128) : encode c = [c] := by
  have hone : String.utf8EncodeChar c = [UInt8.ofNat c.toNat] := if_pos (Nat.le_of_lt_succ h)
  have hbyte : (UInt8.ofNat c.toNat).toNat = c.toNat :=
    UInt8.toNat_ofNat_of_lt' (Nat.lt_of_lt_of_le h (by decide))
  unfold encode
  rw [hone, List.map_singleton, charOfByte, hbyte, Char.ofNat_toNat]

/-- The bytes of other characters are all beyond ASCII. -/
theorem le_toNat_of_mem_encode (h : 128 ≤ c.toNat) {b : Char} (hb : b ∈ encode c) :
    128 ≤ b.toNat := by
  obtain ⟨byte, hbyte, rfl⟩ := List.mem_map.mp hb
  rw [toNat_charOfByte]
  have hmany : ¬c.val.toNat ≤ 0x7f := Nat.not_le.mpr h
  unfold String.utf8EncodeChar at hbyte
  dsimp only at hbyte
  rw [if_neg hmany] at hbyte
  -- Each byte is a few bits of the number below a marker, and every marker has the highest bit.
  have hmarked : ∀ n k, n < 64 → k ∈ [128, 192] ∨ n < 16 ∧ k ∈ [224, 240] →
      128 ≤ (UInt8.ofNat (n + k)).toNat := by
    intro n k hn hk
    simp only [List.mem_cons, List.not_mem_nil, or_false] at hk
    rw [UInt8.toNat_ofNat']
    omega
  split at hbyte
  · simp only [List.mem_cons, List.not_mem_nil, or_false] at hbyte
    rcases hbyte with rfl | rfl <;> exact hmarked _ _ (by omega) (by simp)
  · split at hbyte
    · simp only [List.mem_cons, List.not_mem_nil, or_false] at hbyte
      rcases hbyte with rfl | rfl | rfl <;> exact hmarked _ _ (by omega) (by simp; try omega)
    · simp only [List.mem_cons, List.not_mem_nil, or_false] at hbyte
      rcases hbyte with rfl | rfl | rfl | rfl <;> exact hmarked _ _ (by omega) (by simp; try omega)

theorem length_encode (c : Char) : (encode c).length = c.utf8Size := by
  rw [encode, List.length_map, String.length_utf8EncodeChar]

theorem encode_ne_nil (c : Char) : encode c ≠ [] :=
  List.ne_nil_of_length_pos (by rw [length_encode]; exact c.utf8Size_pos)

theorem encoded_append (s t : List Char) : encoded (s ++ t) = encoded s ++ encoded t :=
  List.flatMap_append

theorem encoded_cons (c : Char) (s : List Char) : encoded (c :: s) = encode c ++ encoded s := rfl

theorem encoded_singleton (c : Char) : encoded [c] = encode c := List.append_nil _

theorem encoded_cons_ascii (h : c.toNat < 128) (s : List Char) :
    encoded (c :: s) = c :: encoded s := by
  rw [encoded_cons, encode_of_ascii h]
  rfl

/-- ASCII text is its own bytes. -/
theorem encoded_of_ascii (h : ∀ c ∈ s, c.toNat < 128) : encoded s = s := by
  induction s with
  | nil => rfl
  | cons c s ih =>
    obtain ⟨hc, hs⟩ := List.forall_mem_cons.mp h
    rw [encoded_cons_ascii hc, ih hs]

end

/-! ## Positions -/

section

variable (pre s t : List Char)

theorem bytesFrom?_encoded :
    bytesFrom? (encoded (pre ++ s)) (encoded pre).length = some (encoded s) := by
  rw [bytesFrom?, encoded_append, if_pos (by rw [List.length_append]; omega), List.drop_left]

theorem textFrom?_encoded : textFrom? (pre ++ s) (encoded pre).length = some s := by
  induction pre with
  | nil => cases s <;> rfl
  | cons c pre ih =>
    have hlength : (encoded (c :: pre)).length = c.utf8Size + (encoded pre).length := by
      rw [encoded_cons, List.length_append, length_encode]
    obtain ⟨n, hn⟩ : ∃ n, c.utf8Size + (encoded pre).length = n + 1 :=
      ⟨_, (Nat.succ_pred_eq_of_pos (Nat.add_pos_left c.utf8Size_pos _)).symm⟩
    rw [List.cons_append, hlength, hn, textFrom?, if_pos (by omega), ← hn,
      Nat.add_sub_cancel_left, ih]

/-- **What stands between two positions can be cut out.** -/
theorem textBetween?_encoded :
    textBetween? (pre ++ (s ++ t)) (encoded pre).length (encoded (pre ++ s)).length = some s := by
  have hstop : textFrom? (pre ++ (s ++ t)) (encoded (pre ++ s)).length = some t := by
    rw [← List.append_assoc]
    exact textFrom?_encoded (pre ++ s) t
  unfold textBetween?
  rw [if_pos (by rw [encoded_append, List.length_append]; omega), textFrom?_encoded, hstop]
  simp

variable {d : Char} (hd : d.toNat < 128)

include hd

theorem length_encoded_concat : (encoded (pre ++ [d])).length = (encoded pre).length + 1 := by
  rw [encoded_append, encoded_singleton, encode_of_ascii hd, List.length_append,
    List.length_singleton]

/-- What stands behind an ASCII character can be cut out. -/
theorem textBetween?_behind :
    textBetween? (pre ++ d :: (s ++ t)) ((encoded pre).length + 1)
      (encoded (pre ++ d :: s)).length = some s := by
  have hcut := textBetween?_encoded (pre ++ [d]) s t
  rw [length_encoded_concat pre hd] at hcut
  simpa only [List.append_assoc, List.singleton_append] using hcut

end

/-- The offset of what is left of a text. -/
def offset (text rest : List Char) : Nat := (encoded text).length - (encoded rest).length

theorem offset_append (pre rest : List Char) :
    offset (pre ++ rest) rest = (encoded pre).length := by
  rw [offset, encoded_append, List.length_append, Nat.add_sub_cancel]

theorem offset_behind {d : Char} (hd : d.toNat < 128) (pre rest : List Char) :
    offset (pre ++ d :: rest) rest = (encoded pre).length + 1 := by
  rw [← length_encoded_concat pre hd, ← offset_append, List.append_assoc, List.singleton_append]

/-! ## Searching -/

/-- The bytes of a character are judged as the character is. -/
def Bytewise (p : Char → Bool) : Prop := ∀ c, ∀ b ∈ encode c, p b = p c

/-- What only ASCII meets no byte of another character meets. -/
theorem Bytewise.of_ascii {p : Char → Bool} (h : ∀ c, p c → c.toNat < 128) : Bytewise p := by
  intro c b hb
  by_cases hc : c.toNat < 128
  · rw [encode_of_ascii hc, List.mem_singleton] at hb
    rw [hb]
  · have hnot : ∀ d : Char, 128 ≤ d.toNat → p d = false := fun d hd =>
      Bool.eq_false_iff.mpr fun hp => absurd (h d hp) (Nat.not_lt.mpr hd)
    rw [hnot b (le_toNat_of_mem_encode (Nat.not_lt.mp hc) hb), hnot c (Nat.not_lt.mp hc)]

theorem Bytewise.not {p : Char → Bool} (h : Bytewise p) : Bytewise fun c => !p c :=
  fun c b hb => congrArg (!·) (h c b hb)

theorem bytewise_eq {d : Char} (hd : d.toNat < 128) : Bytewise fun c => c = d :=
  .of_ascii fun c hc => by rwa [of_decide_eq_true hc]

section

variable {p : Char → Bool}

/-- The first byte that meets a condition stands behind the characters before the first one that
does. -/
theorem findIdx?_encoded (hp : Bytewise p) {q : Char → Bool} (hq : ∀ c, q c = !p c)
    (s : List Char) :
    (encoded s).findIdx? p =
      if s.dropWhile q = [] then none else some (encoded (s.takeWhile q)).length := by
  induction s with
  | nil => rfl
  | cons c s ih =>
    rw [encoded_cons, List.findIdx?_append, ih]
    by_cases hc : p c
    · -- The search ends at the first byte of the character: none of its bytes differs from it.
      have hstop : ¬q c = true := by rw [hq, hc]; exact Bool.false_ne_true
      obtain ⟨b, rest, hb⟩ := List.exists_cons_of_ne_nil (encode_ne_nil c)
      have hfirst : p b = true := by rw [hp c b (by rw [hb]; exact List.mem_cons_self), hc]
      rw [hb, List.findIdx?_cons, if_pos hfirst, List.dropWhile_cons_of_neg hstop,
        if_neg (List.cons_ne_nil c s), List.takeWhile_cons_of_neg hstop]
      rfl
    · have hgo : q c = true := by rw [hq, Bool.eq_false_iff.mpr hc]; rfl
      have hnone : (encode c).findIdx? p = none :=
        List.findIdx?_eq_none_iff.mpr fun b hb => by rw [hp c b hb]; exact Bool.eq_false_iff.mpr hc
      rw [hnone, Option.none_or, List.dropWhile_cons_of_pos hgo, List.takeWhile_cons_of_pos hgo,
        encoded_cons, List.length_append]
      split
      · rfl
      · exact congrArg some (Nat.add_comm _ _)

/-- The first byte is judged as the first character is. -/
theorem head?_encoded_any (hp : Bytewise p) (s : List Char) :
    (encoded s).head?.any p = s.head?.any p := by
  cases s with
  | nil => rfl
  | cons c s =>
    obtain ⟨b, rest, hb⟩ := List.exists_cons_of_ne_nil (encode_ne_nil c)
    rw [encoded_cons, hb]
    exact hp c b (by rw [hb]; exact List.mem_cons_self)

/-- An ASCII character comes first as a byte exactly where it comes first. -/
theorem head?_encoded_eq_iff {c : Char} (hc : c.toNat < 128) {s : List Char} :
    (encoded s).head? = some c ↔ s.head? = some c := by
  have hany := head?_encoded_any (bytewise_eq hc) s
  have hiff : ∀ o : Option Char, o.any (fun d => d = c) = true ↔ o = some c := fun o => by
    cases o <;> simp
  rw [← hiff, ← hiff, hany]

theorem getLast?_encoded_any (hp : Bytewise p) (s : List Char) :
    (encoded s).getLast?.any p = s.getLast?.any p := by
  rcases List.eq_nil_or_concat s with rfl | ⟨front, c, rfl⟩
  · rfl
  · obtain ⟨bytes, b, hb⟩ := (List.eq_nil_or_concat (encode c)).resolve_left (encode_ne_nil c)
    rw [List.concat_eq_append] at hb ⊢
    rw [encoded_append, encoded_singleton, hb, ← List.append_assoc, List.getLast?_concat,
      List.getLast?_concat]
    exact hp c b (by rw [hb]; simp)

end

/-- An ASCII word starts the bytes where it starts the text. -/
theorem isPrefixOf_encoded {word : List Char} (hword : ∀ c ∈ word, c.toNat < 128) (s : List Char) :
    word.isPrefixOf (encoded s) = word.isPrefixOf s := by
  induction word generalizing s with
  | nil => rw [List.isPrefixOf_nil_left, List.isPrefixOf_nil_left]
  | cons c word ih =>
    obtain ⟨hc, hword⟩ := List.forall_mem_cons.mp hword
    cases s with
    | nil => rfl
    | cons d s =>
      by_cases hd : d.toNat < 128
      · rw [encoded_cons_ascii hd, List.isPrefixOf_cons_cons, List.isPrefixOf_cons_cons, ih hword]
      · obtain ⟨b, rest, hb⟩ := List.exists_cons_of_ne_nil (encode_ne_nil d)
        have hbyte : 128 ≤ b.toNat :=
          le_toNat_of_mem_encode (Nat.not_lt.mp hd) (by rw [hb]; exact List.mem_cons_self)
        have hne : ∀ e : Char, 128 ≤ e.toNat → (c == e) = false := fun e he =>
          beq_eq_false_iff_ne.mpr fun h => by rw [h] at hc; omega
        rw [encoded_cons, hb, List.cons_append, List.isPrefixOf_cons_cons,
          List.isPrefixOf_cons_cons, hne b hbyte, hne d (Nat.not_lt.mp hd)]
        rfl

theorem ne_of_mem_encode {c d b : Char} (hc : ¬c.toNat < 128) (hb : b ∈ encode c)
    (hd : d.toNat < 128) : b ≠ d := by
  rintro rfl
  exact absurd (le_toNat_of_mem_encode (Nat.not_lt.mp hc) hb) (Nat.not_le.mpr hd)

/-- Lines are counted alike. -/
theorem newlines_encoded (s : List Char) : newlines (encoded s) = newlines s := by
  unfold newlines
  induction s with
  | nil => rfl
  | cons c s ih =>
    by_cases hc : c.toNat < 128
    · rw [encoded_cons_ascii hc, List.count_cons, List.count_cons, ih]
    · have hnone : (encode c).count '\n' = 0 :=
        List.count_eq_zero.mpr fun hb => ne_of_mem_encode hc hb (by decide) rfl
      rw [encoded_cons, List.count_append, hnone, ih, Nat.zero_add,
        List.count_cons_of_ne fun h => hc (by rw [h]; decide)]

section

variable {opening closing : Char} (ho : opening.toNat < 128) (hc : closing.toNat < 128)

include ho hc

/-- **The delimiter that closes another one is the same.** -/
theorem closingFrom?_encoded (depth : Nat) (s : List Char) :
    closingFrom? opening closing depth (encoded s) =
      (closingFrom? opening closing depth s).map fun n => (encoded (s.take n)).length := by
  induction s generalizing depth with
  | nil => rfl
  | cons d s ih =>
    have hlength : ∀ n, (encoded ((d :: s).take (n + 1))).length =
        (encoded (s.take n)).length + (encode d).length := fun n => by
      rw [List.take_succ_cons, encoded_cons, List.length_append, Nat.add_comm]
    -- Whatever the depth behind the character, the search goes on with the rest of both.
    have hmap : ∀ depth, (closingFrom? opening closing depth (encoded s)).map
        (· + (encode d).length) = ((closingFrom? opening closing depth s).map (· + 1)).map fun n =>
          (encoded ((d :: s).take n)).length := fun depth => by
      rw [ih, Option.map_map, Option.map_map]
      exact congrArg (Option.map · _) (funext fun n => (hlength n).symm)
    by_cases hd : d.toNat < 128
    · rw [encode_of_ascii hd] at hmap
      rw [encoded_cons_ascii hd, closingFrom?.eq_def,
        closingFrom?.eq_def opening closing depth (d :: s)]
      dsimp only
      split
      · exact hmap _
      · split
        · split
          · rfl
          · rfl
          · exact hmap _
        · exact hmap _
    · have hother : ∀ b ∈ encode d, b ≠ opening ∧ b ≠ closing := fun b hb =>
        ⟨ne_of_mem_encode hd hb ho, ne_of_mem_encode hd hb hc⟩
      rw [encoded_cons, closingFrom?_append_other hother, closingFrom?_other
        (fun h => hd (by rw [h]; exact ho)) (fun h => hd (by rw [h]; exact hc))]
      exact hmap depth

end

end KernelLink
