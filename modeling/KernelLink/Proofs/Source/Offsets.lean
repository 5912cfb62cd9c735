import KernelLink.Proofs.Source.Declaration
import KernelLink.Proofs.Text.Offsets

/-!
# Scanning by byte offsets

The scanner again, as it runs on bytes: it keeps an offset, looks for delimiters from there, and
cuts names, types and bodies out of the text between the offsets it finds. Every access is checked.
To read from behind the end, to cut inside of a character or backwards, or to go on at an offset
that is not further on or not in the text leaves the scan without any result. At the offset of a
character each search has a result, and it is what the scanner of characters finds there.
-/

namespace KernelLink

/-- A result, a fault, or none of both where an access fails. -/
abbrev Guarded := ExceptT ScanFault Option

/-! ## Searching -/

section

variable (bytes : ByteText)

/-- The next place of a byte. -/
def findByte? (start : Nat) (needle : Char) : Option (Option Nat) := do
  let rest ← bytesFrom? bytes start
  return (rest.findIdx? (· = needle)).map (start + ·)

/-- The place of the delimiter that closes the one at `start`. -/
def findClosing? (start : Nat) (opening closing : Char) : Option (Option Nat) := do
  let rest ← bytesFrom? bytes start
  return (closing? opening closing rest).map (start + ·)

/-- Whether a word character stands before an offset. -/
def wordBefore? (pos : Nat) : Option Bool :=
  if pos = 0 then some false else (bytes[pos - 1]?).map isWordChar

/-- Whether a word stands at an offset that is not part of a longer one. -/
def wordAt? (word : ByteText) (pos : Nat) : Option Bool := do
  let rest ← bytesFrom? bytes pos
  if !word.isPrefixOf rest then return false
  let before ← wordBefore? bytes pos
  return !before && !(bytes[pos + word.length]?).any isWordChar

/-- The next place that is not blank, or the end. -/
def skipBlanks (start : Nat) : Nat :=
  match (bytes.drop (min start bytes.length)).findIdx? fun b => !isAsciiBlank b with
  | some n => start + n
  | none => bytes.length

/-- The line of an offset. -/
def lineOf (pos : Nat) : Nat := newlines (bytes.take (min pos bytes.length)) + 1

end

/-! ## Reading -/

/-- The characters of a text and where each of them starts. -/
def charIndices (pos : Nat) : List Char → List (Nat × Char)
  | [] => []
  | c :: s => (pos, c) :: charIndices (pos + c.utf8Size) s

/-- `readHeader?`, cutting at the offset behind the last character that is not part of a word. -/
def splitHeader? (header : List Char) : Option (Option (String × String)) := do
  let header := trimBlanks header
  let boundary := (charIndices 0 header).reverse.find? fun (_, c) => !isWordChar c
  if boundary.any fun (_, c) => 127 < c.toNat then return none
  let nameStart := match boundary with
    | some (index, c) => index + c.utf8Size
    | none => 0
  let name ← textBetween? header nameStart (encoded header).length
  let front ← textBetween? header 0 nameStart
  let returnType := trimBlanks front
  if name.isEmpty || returnType.isEmpty then return none
  return some (normalizeType (String.ofList returnType), String.ofList name)

section

variable (text : List Char)

/-- Reads an intrinsic binding from its word on. -/
def intrinsicAt (start : Nat) : Guarded (ScannedItem × Nat) := do
  let some opening ← findByte? (encoded text) start '('
    | throw (.expected .intrinsicSymbol (lineOf (encoded text) start))
  let some closing ← findClosing? (encoded text) opening '(' ')'
    | throw (.unbalanced '(' (lineOf (encoded text) opening))
  let inside ← textBetween? text (opening + 1) closing
  return (.intrinsic (String.ofList (trimWhile (· = '"') (trimBlanks inside))), closing + 1)

/-- Return type and name, and the offsets of the parentheses. -/
def signatureAt (start : Nat) (parameters header : Expectation) :
    Guarded (String × String × Nat × Nat) := do
  let some opening ← findByte? (encoded text) start '('
    | throw (.expected parameters (lineOf (encoded text) start))
  let front ← textBetween? text start opening
  let some (returnType, name) ← splitHeader? front
    | throw (.expected header (lineOf (encoded text) start))
  let some closing ← findClosing? (encoded text) opening '(' ')'
    | throw (.unbalanced '(' (lineOf (encoded text) opening))
  return (returnType, name, opening, closing)

/-- The body between the brace at an offset and the one that closes it, and the offset behind. -/
def bodyAt (opening : Nat) : Guarded (String × Nat) := do
  let some closing ← findClosing? (encoded text) opening '\x7b' '\x7d'
    | throw (.unbalanced '\x7b' (lineOf (encoded text) opening))
  let body ← textBetween? text (opening + 1) closing
  return (String.ofList body, closing + 1)

/-- Reads a visible function behind its mark. -/
def visibleAt (start : Nat) : Guarded (ScannedItem × Nat) := do
  let (returnType, name, opening, closing) ←
    signatureAt text start .visibleParameters .visibleHeader
  let inside ← textBetween? text (opening + 1) closing
  let signature : Signature := ⟨returnType, name, readParameters inside⟩
  let next := skipBlanks (encoded text) (closing + 1)
  if (encoded text)[next]? = some ';' then return (.visiblePrototype signature, next + 1)
  else if (encoded text)[next]? = some '\x7b' then
    let (body, stop) ← bodyAt text next
    return (.visibleDefinition ⟨signature, body⟩, stop)
  else throw (.expected .visibleBody (lineOf (encoded text) closing))

/-- Reads a kernel behind its word. -/
def kernelAt (start : Nat) : Guarded (ScannedItem × Nat) := do
  let (returnType, name, _, closing) ← signatureAt text start .kernelParameters .kernelHeader
  let next := skipBlanks (encoded text) (closing + 1)
  if (encoded text)[next]? = some '\x7b' then
    let (body, stop) ← bodyAt text next
    return (.kernel ⟨⟨returnType, name, []⟩, body⟩, stop)
  else throw (.expected .kernelBody (lineOf (encoded text) closing))

/-- One step: the declaration that is read at an offset, if one is, and where to go on. -/
def stepAt (pos : Nat) : Guarded (Option ScannedItem × Nat) := do
  if ← wordAt? (encoded text) intrinsicWord pos then
    let (item, next) ← intrinsicAt text pos
    return (some item, next)
  else if visibleMark.isPrefixOf (← bytesFrom? (encoded text) pos) then
    let (item, next) ← visibleAt text (pos + visibleMark.length)
    return (some item, next)
  else if ← wordAt? (encoded text) kernelWord pos then
    let (item, next) ← kernelAt text (pos + kernelWord.length)
    return (some item, next)
  else return (none, pos + 1)

/-- The declarations from an offset on. A step that does not lead further into the text, or leads
out of it, ends the scan without a result. -/
def scanFrom (pos : Nat) : Guarded (List ScannedItem) :=
  if pos < (encoded text).length then do
    let (item, next) ← stepAt text pos
    if _h : pos < next ∧ next ≤ (encoded text).length then
      return item.toList ++ (← scanFrom next)
    else ExceptT.mk none
  else return []
termination_by (encoded text).length - pos
decreasing_by omega

end

/-- `scanSource`, on bytes. -/
def scanOffsets (source : String) : Guarded ScannedSource :=
  .ofItems <$> scanFrom (stripComments source.toList) 0

/-! ## Accesses are in range -/

namespace Guarded

/-- A result or a fault, all accesses having been in range. -/
def of {α : Type} (x : Except ScanFault α) : Guarded α := ExceptT.mk (some x)

theorem of_map_bind {α β γ : Type} (a : α) (g : α → β) (f : β → Guarded γ) :
    of ((Except.ok a).map g) >>= f = f (g a) := rfl

theorem ok_bind {α β : Type} (a : α) (f : α → Except ScanFault β) :
    ((.ok a : Except ScanFault α) >>= f) = f a := rfl

theorem lift_some_bind {α β : Type} (a : α) (f : α → Guarded β) :
    (liftM (some a) : Guarded α) >>= f = f a := rfl

end Guarded

section

variable (pre rest : List Char)

theorem findByte?_encoded {needle : Char} (hneedle : needle.toNat < 128) :
    findByte? (encoded (pre ++ rest)) (encoded pre).length needle =
      some (if rest.dropWhile (· ≠ needle) = [] then none
        else some (encoded (pre ++ rest.takeWhile (· ≠ needle))).length) := by
  unfold findByte?
  rw [bytesFrom?_encoded, Option.bind_eq_bind, Option.bind_some,
    findIdx?_encoded (bytewise_eq hneedle) (q := (· ≠ needle)) (by simp)]
  split
  · rfl
  · rw [encoded_append, List.length_append]
    rfl

theorem findClosing?_encoded {opening closing : Char} (ho : opening.toNat < 128)
    (hc : closing.toNat < 128) (s : List Char) :
    findClosing? (encoded (pre ++ opening :: s)) (encoded pre).length opening closing =
      some ((enclosed? opening closing (opening :: s)).map fun parts =>
        (encoded (pre ++ opening :: parts.1)).length) := by
  unfold findClosing? enclosed? closing?
  rw [bytesFrom?_encoded, Option.bind_eq_bind, Option.bind_some, closingFrom?_encoded ho hc,
    closingFrom?_open, Option.map_map, Option.map_map, Option.map_map, Option.map_map]
  refine congrArg (fun f => some (Option.map f _)) (funext fun n => ?_)
  simp only [Function.comp_apply, List.take_succ_cons, List.drop_one, List.tail_cons,
    encoded_append, List.length_append]

theorem skipBlanks_encoded :
    skipBlanks (encoded (pre ++ rest)) (encoded pre).length =
      (encoded (pre ++ rest.takeWhile isAsciiBlank)).length := by
  have hblank : Bytewise isAsciiBlank := .of_ascii fun c hc => by
    simp only [isAsciiBlank, Bool.or_eq_true, decide_eq_true_eq] at hc
    rcases hc with (((rfl | rfl) | rfl) | rfl) | rfl <;> decide
  unfold skipBlanks
  rw [Nat.min_eq_left (by rw [encoded_append, List.length_append]; omega), encoded_append,
    List.drop_left, findIdx?_encoded hblank.not (q := isAsciiBlank) (by simp)]
  -- Where nothing but blanks is left, their length is that of the rest.
  have hsplit := congrArg (fun s => (encoded s).length)
    (List.takeWhile_append_dropWhile (p := isAsciiBlank) (l := rest))
  rw [encoded_append, List.length_append] at hsplit
  split
  · rename_i n hn
    split at hn
    · cases hn
    · cases hn
      rw [encoded_append, List.length_append]
  · rename_i hn
    split at hn
    · rename_i hnil
      rw [hnil] at hsplit
      rw [encoded_append, List.length_append, List.length_append, ← hsplit]
      rfl
    · cases hn

theorem lineOf_encoded :
    lineOf (encoded (pre ++ rest)) (encoded pre).length = newlines pre + 1 := by
  unfold lineOf
  rw [Nat.min_eq_left (by rw [encoded_append, List.length_append]; omega), encoded_append,
    List.take_left, newlines_encoded]

theorem lineAt_append : lineAt (pre ++ rest) rest = newlines pre + 1 := by
  unfold lineAt newlines
  rw [List.count_append, Nat.add_sub_cancel]

/-- The byte at an offset is an ASCII character exactly when the character there is. -/
theorem getElem?_encoded_eq_iff {c : Char} (hc : c.toNat < 128) :
    (encoded (pre ++ rest))[(encoded pre).length]? = some c ↔ ∃ t, rest = c :: t := by
  rw [encoded_append, List.getElem?_append_right (Nat.le_refl _), Nat.sub_self,
    ← List.head?_eq_getElem?, head?_encoded_eq_iff hc]
  cases rest <;> simp

/-- Whether a text ends with a word. -/
def endsInWord (s : List Char) : Bool := s.getLast?.any isWordChar

theorem bytewise_isWordChar : Bytewise isWordChar := .of_ascii fun _ => toNat_lt_of_isWordChar

theorem wordBefore?_encoded :
    wordBefore? (encoded (pre ++ rest)) (encoded pre).length = some (endsInWord pre) := by
  unfold wordBefore? endsInWord
  rw [← getLast?_encoded_any bytewise_isWordChar]
  split
  · rename_i hzero
    rw [List.length_eq_zero_iff.mp hzero]
    rfl
  · rename_i hpos
    rw [encoded_append, List.getElem?_append_left (by omega), ← List.getLast?_eq_getElem?,
      List.getLast?_eq_some_getLast fun hnil => hpos (by rw [hnil]; rfl)]
    rfl

theorem wordAt?_encoded {word : List Char} (hword : ∀ c ∈ word, c.toNat < 128) :
    wordAt? (encoded (pre ++ rest)) word (encoded pre).length =
      some (startsWithWord word (endsInWord pre) rest) := by
  unfold wordAt? startsWithWord
  rw [bytesFrom?_encoded, Option.bind_eq_bind, Option.bind_some, isPrefixOf_encoded hword]
  by_cases h : word.isPrefixOf rest
  · obtain ⟨t, rfl⟩ := List.isPrefixOf_iff_prefix.mp h
    have hafter : (encoded (pre ++ (word ++ t)))[(encoded pre).length + word.length]? =
        (encoded t).head? := by
      rw [encoded_append, encoded_append, encoded_of_ascii hword,
        List.getElem?_append_right (Nat.le_add_right _ _), Nat.add_sub_cancel_left,
        List.getElem?_append_right (Nat.le_refl _), Nat.sub_self, List.head?_eq_getElem?]
    rw [h, wordBefore?_encoded, hafter, head?_encoded_any bytewise_isWordChar, List.drop_left]
    rfl
  · rw [Bool.eq_false_iff.mpr h]
    rfl

end

/-! ## Headers -/

theorem charIndices_append (pos : Nat) (s t : List Char) :
    charIndices pos (s ++ t) = charIndices pos s ++ charIndices (pos + (encoded s).length) t := by
  induction s generalizing pos with
  | nil => rfl
  | cons c s ih =>
    rw [List.cons_append, charIndices, charIndices, ih, encoded_cons, List.length_append,
      length_encode, Nat.add_assoc]
    rfl

theorem mem_of_mem_charIndices {pos index : Nat} {c : Char} {s : List Char}
    (h : (index, c) ∈ charIndices pos s) : c ∈ s := by
  induction s generalizing pos with
  | nil => cases h
  | cons d s ih =>
    rcases List.mem_cons.mp h with heq | h
    · cases heq
      exact List.mem_cons_self
    · exact List.mem_cons_of_mem d (ih h)

/-- The last character that is not part of a word stands at the end of what is before the last
word. -/
theorem LastWord.boundary {front name : List Char} (h : LastWord front name) :
    ((charIndices 0 (front ++ name)).reverse.find? fun (_, c) => !isWordChar c) =
      front.getLast?.map fun c => ((encoded front.dropLast).length, c) := by
  have hname : ∀ pos, ((charIndices pos name).reverse.find? fun (_, c) => !isWordChar c) = none :=
    fun pos => List.find?_eq_none.mpr fun (_, c) hc => by
      simp [h.word c (mem_of_mem_charIndices (List.mem_reverse.mp hc))]
  rw [charIndices_append, List.reverse_append, List.find?_append, hname, Option.none_or]
  rcases h.before with rfl | ⟨front, c, rfl, hc⟩
  · rfl
  · rw [charIndices_append, List.reverse_append, List.getLast?_concat, List.dropLast_concat]
    simp [charIndices, hc]

/-- **Headers are cut where characters start.** -/
theorem splitHeader?_eq (header : List Char) : splitHeader? header = some (readHeader? header) := by
  obtain ⟨front, name, hheader, hlast⟩ := exists_lastWord (trimBlanks header)
  have hname : textBetween? (front ++ name) (encoded front).length
      (encoded (front ++ name)).length = some name := by
    have hcut := textBetween?_encoded front name []
    rwa [List.append_nil] at hcut
  have hfront : textBetween? (front ++ name) 0 (encoded front).length = some front :=
    textBetween?_encoded [] front name
  -- Behind the boundary character is where the front part ends.
  have hstart : (match front.getLast?.map fun c => ((encoded front.dropLast).length, c) with
      | some (index, c) => index + c.utf8Size
      | none => 0) = (encoded front).length := by
    rcases List.eq_nil_or_concat front with rfl | ⟨front, c, rfl⟩
    · rfl
    · rw [List.concat_eq_append, List.getLast?_concat, List.dropLast_concat, encoded_append,
        encoded_singleton, List.length_append, length_encode]
      rfl
  unfold splitHeader?
  dsimp only
  rw [readHeader?_eq hheader hlast, hheader, hlast.boundary, hstart, hname, hfront, Option.any_map,
    Bool.or_assoc]
  change (if front.getLast?.any (127 < ·.toNat) then some none
    else if name.isEmpty || (trimBlanks front).isEmpty then some none
    else some (some (normalizeType (String.ofList (trimBlanks front)), String.ofList name))) = _
  cases front.getLast?.any (127 < ·.toNat)
  · rw [Bool.false_or, if_neg Bool.false_ne_true]
    split <;> rfl
  · rfl

end KernelLink
