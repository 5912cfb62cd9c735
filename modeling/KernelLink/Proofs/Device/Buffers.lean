import KernelLink.Launch

/-!
# Buffers and their bits

A word is its bits, and its four bytes are those bits again, so nothing is lost on the way into a
buffer and out of it: not the payload of a NaN, not the sign of a zero. Bytes that do not fill a
word are dropped when words are read, but no buffer ever holds any, because bytes that are not
whole words are not accepted.
-/

namespace KernelLink

/-! ## Words and bytes -/

namespace Single

theorem toNat_bits_ofBytes (a b c d : UInt8) : (ofBytes a b c d).bits.toNat =
    a.toNat + b.toNat * 0x100 + c.toNat * 0x10000 + d.toNat * 0x1000000 := by
  have ha := a.toNat_lt
  have hb := b.toNat_lt
  have hc := c.toNat_lt
  have hd := d.toNat_lt
  unfold ofBytes
  rw [Nat.toUInt32_eq, UInt32.toNat_ofNat', Nat.mod_eq_of_lt (by omega)]

theorem toBytes_ofBytes (a b c d : UInt8) : (ofBytes a b c d).toBytes = [a, b, c, d] := by
  have ha := a.toNat_lt
  have hb := b.toNat_lt
  have hc := c.toNat_lt
  have hd := d.toNat_lt
  have hbyte : ∀ (n : Nat) (byte : UInt8), n % 2 ^ 8 = byte.toNat → n.toUInt8 = byte := by
    intro n byte h
    rw [← UInt8.toNat_inj, Nat.toUInt8_eq, UInt8.toNat_ofNat', h]
  unfold toBytes
  dsimp only
  rw [toNat_bits_ofBytes, hbyte _ a (by omega), hbyte _ b (by omega), hbyte _ c (by omega),
    hbyte _ d (by omega)]

theorem ofBytes_toBytes (x : Single) :
    ofBytes x.bits.toNat.toUInt8 (x.bits.toNat / 0x100).toUInt8
      (x.bits.toNat / 0x10000).toUInt8 (x.bits.toNat / 0x1000000).toUInt8 = x := by
  have hx := x.bits.toNat_lt
  have hbyte : ∀ n : Nat, n.toUInt8.toNat = n % 2 ^ 8 := fun n => UInt8.toNat_ofNat'
  refine congrArg Single.mk (UInt32.toNat_inj.mp ((toNat_bits_ofBytes _ _ _ _).trans ?_))
  rw [hbyte, hbyte, hbyte, hbyte]
  omega

theorem length_toBytes (x : Single) : x.toBytes.length = 4 := rfl

end Single

theorem wordsOfBytes_toBytes_append (x : Single) (bytes : List UInt8) :
    wordsOfBytes (x.toBytes ++ bytes) = x :: wordsOfBytes bytes :=
  congrArg (· :: wordsOfBytes bytes) x.ofBytes_toBytes

theorem bytesOfWords_cons (x : Single) (words : List Single) :
    bytesOfWords (x :: words) = x.toBytes ++ bytesOfWords words := rfl

/-- **Words are read back from their bytes**, bit for bit. -/
theorem wordsOfBytes_bytesOfWords (words : List Single) :
    wordsOfBytes (bytesOfWords words) = words := by
  induction words with
  | nil => rfl
  | cons x words ih => rw [bytesOfWords_cons, wordsOfBytes_toBytes_append, ih]

theorem length_bytesOfWords (words : List Single) :
    (bytesOfWords words).length = 4 * words.length := by
  induction words with
  | nil => rfl
  | cons x words ih =>
    rw [bytesOfWords_cons, List.length_append, ih, x.length_toBytes, List.length_cons]
    omega

/-- **Bytes are read back from their words**, up to those that do not fill a word. -/
theorem exists_bytesOfWords_append (bytes : List UInt8) :
    ∃ rest, bytes = bytesOfWords (wordsOfBytes bytes) ++ rest ∧ rest.length < 4 := by
  fun_induction wordsOfBytes bytes with
  | case1 a b c d bytes ih =>
    obtain ⟨rest, hbytes, hlength⟩ := ih
    refine ⟨rest, ?_, hlength⟩
    rw [bytesOfWords_cons, Single.toBytes_ofBytes, List.append_assoc, ← hbytes]
    rfl
  | case2 bytes hshort =>
    refine ⟨bytes, rfl, Nat.lt_of_not_le fun hlength => ?_⟩
    match bytes, hlength with
    | a :: b :: c :: d :: bytes, _ => exact hshort a b c d bytes rfl

/-- The longest front part of whole words. -/
structure IsWholeWordsOf (whole bytes : List UInt8) : Prop where
  front : whole <+: bytes
  words : 4 ∣ whole.length
  longest : ∀ other, other <+: bytes → 4 ∣ other.length → other <+: whole

theorem isWholeWordsOf_bytesOfWords (bytes : List UInt8) :
    IsWholeWordsOf (bytesOfWords (wordsOfBytes bytes)) bytes := by
  obtain ⟨rest, hbytes, hrest⟩ := exists_bytesOfWords_append bytes
  have hlength := length_bytesOfWords (wordsOfBytes bytes)
  have hfront : bytesOfWords (wordsOfBytes bytes) <+: bytes := ⟨rest, hbytes.symm⟩
  refine ⟨hfront, ⟨_, hlength⟩, fun other hother ⟨count, hcount⟩ => ?_⟩
  refine List.prefix_of_prefix_length_le hother hfront ?_
  have hall := congrArg List.length hbytes
  rw [List.length_append] at hall
  have hle := hother.length_le
  omega

/-- Nothing is cut off whole words. -/
theorem bytesOfWords_wordsOfBytes {bytes : List UInt8} (h : 4 ∣ bytes.length) :
    bytesOfWords (wordsOfBytes bytes) = bytes := by
  have hwhole := isWholeWordsOf_bytesOfWords bytes
  exact hwhole.front.eq_of_length_le (hwhole.longest bytes List.prefix_rfl h).length_le

/-! ## Buffers -/

namespace DeviceMemory

variable {m m' : DeviceMemory} {h h' : BufferHandle} {w : Array Single}

/-- The buffer is allocated and holds the words. -/
def Holds (m : DeviceMemory) (h : BufferHandle) (w : Array Single) : Prop :=
  m.buffers[h.index]? = some w

theorem holds_iff : m.Holds h w ↔ h.index < m.buffers.size ∧ m.words h = w := by
  unfold Holds words
  constructor
  · intro hw
    obtain ⟨hlt, -⟩ := Array.getElem?_eq_some_iff.mp hw
    exact ⟨hlt, by rw [hw]; rfl⟩
  · rintro ⟨hlt, hw⟩
    rw [Array.getElem?_eq_getElem hlt] at hw ⊢
    exact congrArg some hw

theorem Holds.push (hw : m.Holds h w) (x : Array Single) : Holds ⟨m.buffers.push x⟩ h w := by
  obtain ⟨hlt, -⟩ := holds_iff.mp hw
  unfold Holds at hw ⊢
  rw [Array.getElem?_push, if_neg (by omega)]
  exact hw

theorem holds_push_self (m : DeviceMemory) (x : Array Single) :
    Holds ⟨m.buffers.push x⟩ ⟨m.buffers.size⟩ x := by
  unfold Holds
  rw [Array.getElem?_push, if_pos rfl]

/-- A handle that is allocated is not the next one. -/
theorem Holds.ne_next (hw : m.Holds h w) : h ≠ ⟨m.buffers.size⟩ := by
  obtain ⟨hlt, -⟩ := holds_iff.mp hw
  rintro rfl
  exact Nat.lt_irrefl _ hlt

/-- Whole words, and at least one, are allocated behind all other buffers. -/
theorem allocate_eq_ok_iff {bytes : List UInt8} : m.allocate bytes = .ok (m', h) ↔
    (bytes ≠ [] ∧ 4 ∣ bytes.length) ∧
      m' = ⟨m.buffers.push (wordsOfBytes bytes).toArray⟩ ∧ h = ⟨m.buffers.size⟩ := by
  unfold allocate
  by_cases hempty : bytes = []
  · simp [hempty]
  rw [if_neg (by simpa using hempty)]
  by_cases hwhole : bytes.length % 4 = 0
  · rw [if_neg fun hpartial => hpartial hwhole]
    constructor
    · intro heq
      obtain ⟨rfl, rfl⟩ := Prod.mk.inj (Except.ok.inj heq)
      exact ⟨⟨hempty, Nat.dvd_of_mod_eq_zero hwhole⟩, rfl, rfl⟩
    · rintro ⟨-, rfl, rfl⟩
      rfl
  · simp [hwhole, Nat.dvd_iff_mod_eq_zero]

/-- Values are put behind all other buffers. -/
theorem upload_of_ne_nil {values : List Single} (hne : values ≠ []) (m : DeviceMemory) :
    m.upload values = .ok (⟨m.buffers.push values.toArray⟩, ⟨m.buffers.size⟩) := by
  have hbytes : bytesOfWords values ≠ [] ∧ 4 ∣ (bytesOfWords values).length := by
    have hpos := List.length_pos_iff.mpr hne
    have hlength := length_bytesOfWords values
    exact ⟨List.ne_nil_of_length_pos (by omega), ⟨_, hlength⟩⟩
  have hallocate := (allocate_eq_ok_iff (m := m)).mpr ⟨hbytes, rfl, rfl⟩
  rw [upload, hallocate, wordsOfBytes_bytesOfWords]
  rfl

theorem exists_upload_iff {values : List Single} :
    (∃ r, m.upload values = .ok r) ↔ values ≠ [] := by
  refine ⟨?_, fun hne => ⟨_, upload_of_ne_nil hne m⟩⟩
  rintro ⟨r, hupload⟩ rfl
  cases hupload

/-- An upload fails for its values or appends them, whatever the memory. -/
theorem upload_cases (values : List Single) :
    (∃ fault, ∀ m : DeviceMemory, m.upload values = .error fault) ∨
      ∃ w, ∀ m : DeviceMemory, m.upload values = .ok (⟨m.buffers.push w⟩, ⟨m.buffers.size⟩) := by
  by_cases hne : values = []
  · exact .inl ⟨_, fun m => by rw [hne]; rfl⟩
  · exact .inr ⟨_, upload_of_ne_nil hne⟩

theorem values_eq (m : DeviceMemory) (h : BufferHandle) : m.values h = (m.words h).toList :=
  wordsOfBytes_bytesOfWords _

theorem words_push_self (m : DeviceMemory) (x : Array Single) :
    words ⟨m.buffers.push x⟩ ⟨m.buffers.size⟩ = x :=
  (holds_iff.mp (holds_push_self m x)).2

/-- **Buffers carry bits as they are**, from words and back and from bytes and back, and an
allocation leaves the other buffers alone. -/
theorem buffers_carry_bits (m : DeviceMemory) :
    (∀ values : List Single,
      wordsOfBytes (bytesOfWords values) = values ∧
      ((∃ r, m.upload values = .ok r) ↔ values ≠ []) ∧
      ∀ m' h, m.upload values = .ok (m', h) →
        m'.values h = values ∧ ∀ h' w, m.Holds h' w → h' ≠ h ∧ m'.Holds h' w) ∧
    ∀ bytes : List UInt8,
      IsWholeWordsOf (bytesOfWords (wordsOfBytes bytes)) bytes ∧
      ((∃ r, m.allocate bytes = .ok r) ↔ bytes ≠ [] ∧ 4 ∣ bytes.length) ∧
      ∀ m' h, m.allocate bytes = .ok (m', h) →
        m'.read h = bytes ∧ ∀ h' w, m.Holds h' w → h' ≠ h ∧ m'.Holds h' w := by
  refine ⟨fun values => ⟨wordsOfBytes_bytesOfWords values, exists_upload_iff, ?_⟩,
    fun bytes => ⟨isWholeWordsOf_bytesOfWords bytes, ?_, ?_⟩⟩
  · intro m' h hupload
    rw [upload_of_ne_nil (exists_upload_iff.mp ⟨_, hupload⟩)] at hupload
    obtain ⟨rfl, rfl⟩ := Prod.mk.inj (Except.ok.inj hupload)
    exact ⟨by rw [values_eq, words_push_self], fun h' w hw => ⟨hw.ne_next, hw.push _⟩⟩
  · constructor
    · rintro ⟨⟨m', h⟩, hallocate⟩
      exact (allocate_eq_ok_iff.mp hallocate).1
    · exact fun hbytes => ⟨_, allocate_eq_ok_iff.mpr ⟨hbytes, rfl, rfl⟩⟩
  · intro m' h hallocate
    obtain ⟨⟨-, hwhole⟩, rfl, rfl⟩ := allocate_eq_ok_iff.mp hallocate
    exact ⟨by rw [read, words_push_self, bytesOfWords_wordsOfBytes hwhole],
      fun h' w hw => ⟨hw.ne_next, hw.push _⟩⟩

/-- A NaN with a payload and a zero with a sign, behind another buffer. -/
theorem buffers_carry_bits_payload :
    let m : DeviceMemory := ⟨#[#[⟨0x3f800000⟩]]⟩
    let values : List Single := [⟨0x7fc12345⟩, ⟨0x80000000⟩, ⟨0xff800000⟩]
    ∃ m' h, m.upload values = .ok (m', h) ∧ m'.values h = values ∧
      h ≠ ⟨0⟩ ∧ m'.Holds ⟨0⟩ #[⟨0x3f800000⟩] := by
  intro m values
  obtain ⟨-, hupload, hread⟩ := (buffers_carry_bits m).1 values
  obtain ⟨⟨m', h⟩, hm'⟩ := hupload.mpr (List.cons_ne_nil _ _)
  obtain ⟨hvalues, hothers⟩ := hread m' h hm'
  obtain ⟨hne, hholds⟩ := hothers ⟨0⟩ #[⟨0x3f800000⟩] rfl
  exact ⟨m', h, hm', hvalues, hne.symm, hholds⟩

end DeviceMemory

end KernelLink
