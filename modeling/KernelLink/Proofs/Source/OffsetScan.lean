import KernelLink.Proofs.Source.Offsets
import KernelLink.Proofs.Source.Steps

/-!
# Offsets lead through the whole text

Read at the offset of a character, a declaration is the one that the scanner of characters reads
there, and the scan goes on at the offset of what is left behind it. Between two characters it comes
to bytes at which nothing starts. So the scan of bytes has the outcome of the scan of characters.
-/

namespace KernelLink

/-! ## Declarations -/

section

variable {pre rest front opened : List Char}

/-- A text is cut where a character is first found. -/
theorem eq_append_of_dropWhile {p : Char → Bool} (hfront : rest.takeWhile p = front)
    (hopened : rest.dropWhile p = opened) : rest = front ++ opened := by
  rw [← hfront, ← hopened, List.takeWhile_append_dropWhile]

theorem readParameterList_eq (text : List Char) (missing : Expectation)
    (hfront : rest.takeWhile (· ≠ '(') = front)
    (hopened : rest.dropWhile (· ≠ '(') = '(' :: opened) :
    readParameterList text rest missing =
      match enclosed? '(' ')' ('(' :: opened) with
      | some (inside, after) => .ok (front, inside, after)
      | none => .error (.unbalanced '(' (lineAt text ('(' :: opened))) := by
  cases henclosed : enclosed? '(' ')' ('(' :: opened) <;>
    simp only [readParameterList, List.span_eq_takeWhile_dropWhile, hfront, hopened, henclosed]

/-- What stands between parentheses, and the offset behind them. -/
theorem list_encoded (pre front inside after : List Char) :
    textBetween? (pre ++ (front ++ '(' :: (inside ++ ')' :: after)))
        ((encoded (pre ++ front)).length + 1) (encoded (pre ++ front ++ '(' :: inside)).length =
          some inside ∧
      offset (pre ++ (front ++ '(' :: (inside ++ ')' :: after))) after =
        (encoded (pre ++ front ++ '(' :: inside)).length + 1 := by
  have hcut := textBetween?_behind (pre ++ front) inside (')' :: after)
    (show '('.toNat < 128 by decide)
  have hoffset := offset_behind (show ')'.toNat < 128 by decide) (pre ++ front ++ '(' :: inside)
    after
  rw [← List.append_assoc]
  exact ⟨hcut, by rwa [List.append_assoc, List.cons_append] at hoffset⟩

/-- The parenthesis that closes a list, as the offset of a byte. -/
theorem findList_encoded (pre front opened : List Char) :
    findClosing? (encoded (pre ++ (front ++ '(' :: opened))) (encoded (pre ++ front)).length
        '(' ')' =
        some ((enclosed? '(' ')' ('(' :: opened)).map fun parts =>
          (encoded (pre ++ front ++ '(' :: parts.1)).length) ∧
      lineOf (encoded (pre ++ (front ++ '(' :: opened))) (encoded (pre ++ front)).length =
        lineAt (pre ++ (front ++ '(' :: opened)) ('(' :: opened) := by
  rw [← List.append_assoc]
  exact ⟨findClosing?_encoded _ (by decide) (by decide) opened,
    (lineOf_encoded _ _).trans (lineAt_append _ _).symm⟩

theorem signatureAt_encoded (pre rest : List Char) (parameters header : Expectation) :
    signatureAt (pre ++ rest) (encoded pre).length parameters header =
      .of ((readSignature (pre ++ rest) rest parameters header).map fun (type, name, inside, _) =>
        (type, name, (encoded (pre ++ rest.takeWhile (· ≠ '('))).length,
          (encoded (pre ++ rest.takeWhile (· ≠ '(') ++ '(' :: inside)).length)) := by
  unfold signatureAt readSignature
  rw [findByte?_encoded _ _ (by decide), List.span_eq_takeWhile_dropWhile]
  generalize hfront : rest.takeWhile (· ≠ '(') = front
  cases hopened : rest.dropWhile (· ≠ '(') with
  | nil =>
    rw [lineOf_encoded, ← lineAt_append pre rest]
    rfl
  | cons c opened =>
    obtain rfl : c = '(' := by simpa using not_of_dropWhile_eq_cons hopened
    have hlist := fun text => readParameterList_eq text parameters hfront hopened
    obtain rfl := eq_append_of_dropWhile hfront hopened
    obtain ⟨hclosing, hline⟩ := findList_encoded pre front opened
    rw [if_neg (List.cons_ne_nil _ _), Guarded.lift_some_bind]
    dsimp only
    rw [textBetween?_encoded, Guarded.lift_some_bind, splitHeader?_eq, Guarded.lift_some_bind]
    cases readHeader? front with
    | none =>
      dsimp only
      rw [lineOf_encoded, ← lineAt_append pre (front ++ '(' :: opened)]
      rfl
    | some parts =>
      dsimp only
      rw [hclosing, Guarded.lift_some_bind, hlist, hline]
      cases enclosed? '(' ')' ('(' :: opened) with
      | none => rfl
      | some parts => rfl

theorem intrinsicAt_encoded (pre rest : List Char) :
    intrinsicAt (pre ++ rest) (encoded pre).length =
      .of ((readIntrinsic (pre ++ rest) rest).map fun (item, after) =>
        (item, offset (pre ++ rest) after)) := by
  unfold intrinsicAt readIntrinsic
  rw [findByte?_encoded _ _ (by decide)]
  generalize hfront : rest.takeWhile (· ≠ '(') = front
  cases hopened : rest.dropWhile (· ≠ '(') with
  | nil =>
    have hlist : readParameterList (pre ++ rest) rest .intrinsicSymbol =
        .error (.expected .intrinsicSymbol (lineAt (pre ++ rest) rest)) := by
      unfold readParameterList
      rw [List.span_eq_takeWhile_dropWhile, hopened]
    rw [lineOf_encoded, ← lineAt_append pre rest, hlist]
    rfl
  | cons c opened =>
    obtain rfl : c = '(' := by simpa using not_of_dropWhile_eq_cons hopened
    have hlist := fun text => readParameterList_eq text .intrinsicSymbol hfront hopened
    obtain rfl := eq_append_of_dropWhile hfront hopened
    obtain ⟨hclosing, hline⟩ := findList_encoded pre front opened
    rw [if_neg (List.cons_ne_nil _ _), Guarded.lift_some_bind]
    dsimp only
    rw [hclosing, Guarded.lift_some_bind, hlist, hline]
    cases henclosed : enclosed? '(' ')' ('(' :: opened) with
    | none => rfl
    | some parts =>
      obtain ⟨inside, after⟩ := parts
      obtain ⟨rfl, -⟩ := (enclosed?_cons_eq_some_iff (by decide)).mp henclosed
      obtain ⟨hcut, hoffset⟩ := list_encoded pre front inside after
      dsimp only [Option.map_some]
      rw [hcut, Guarded.lift_some_bind]
      exact congrArg (fun n => Guarded.of (.ok (_, n))) hoffset.symm

theorem bodyAt_encoded (pre opened : List Char) (item : String → ScannedItem) :
    (do
      let (body, stop) ← bodyAt (pre ++ '\x7b' :: opened) (encoded pre).length
      return (item body, stop)) =
      Guarded.of ((do
        let (body, after) ← readBody (pre ++ '\x7b' :: opened) ('\x7b' :: opened)
        .ok (item (String.ofList body), after)).map fun (item, after) =>
          (item, offset (pre ++ '\x7b' :: opened) after)) := by
  unfold bodyAt readBody
  rw [findClosing?_encoded _ (by decide) (by decide), Guarded.lift_some_bind, lineOf_encoded,
    ← lineAt_append pre ('\x7b' :: opened)]
  cases henclosed : enclosed? '\x7b' '\x7d' ('\x7b' :: opened) with
  | none => rfl
  | some parts =>
    obtain ⟨body, after⟩ := parts
    obtain ⟨rfl, -⟩ := (enclosed?_cons_eq_some_iff (by decide)).mp henclosed
    have hoffset := offset_behind (show '\x7d'.toNat < 128 by decide) (pre ++ '\x7b' :: body) after
    rw [List.append_assoc, List.cons_append] at hoffset
    dsimp only [Option.map_some]
    rw [textBetween?_behind _ _ _ (by decide), Guarded.lift_some_bind]
    exact congrArg (fun n => Guarded.of (.ok (item (String.ofList body), n))) hoffset.symm

/-- A signature leads to the offset behind its list. -/
theorem ReadsSignature.offsets {returnType name : String} {inside following : List Char}
    (h : ReadsSignature rest returnType name inside following) (pre : List Char) :
    ∃ done, pre ++ rest = done ++ following ∧
      (encoded done).length =
        (encoded (pre ++ rest.takeWhile (· ≠ '(') ++ '(' :: inside)).length + 1 ∧
      textBetween? (pre ++ rest) ((encoded (pre ++ rest.takeWhile (· ≠ '('))).length + 1)
        (encoded (pre ++ rest.takeWhile (· ≠ '(') ++ '(' :: inside)).length = some inside ∧
      lineOf (encoded (pre ++ rest))
        (encoded (pre ++ rest.takeWhile (· ≠ '(') ++ '(' :: inside)).length =
          lineAt (pre ++ rest) following := by
  have hopened := (enclosed_parameters h.parameters).1
  generalize hfront : rest.takeWhile (· ≠ '(') = front
  have hrest := eq_append_of_dropWhile hfront hopened
  have htext : pre ++ rest = (pre ++ front ++ '(' :: inside ++ [')']) ++ following := by
    rw [hrest]
    simp
  refine ⟨_, htext, length_encoded_concat _ (by decide), ?_, ?_⟩
  · rw [hrest]
    exact (list_encoded pre front inside following).1
  · have hone : ∀ s, newlines (s ++ [')']) = newlines s := fun s => by
      unfold newlines
      rw [List.count_append]
      rfl
    rw [htext, lineAt_append, List.append_assoc _ [')'], lineOf_encoded, hone]

section

variable (done following : List Char)

/-- Behind a list the blanks are passed over. -/
theorem eq_append_blanks : done ++ following =
    (done ++ following.takeWhile isAsciiBlank) ++ following.dropWhile isAsciiBlank := by
  rw [List.append_assoc, List.takeWhile_append_dropWhile]

/-- The byte behind the blanks is the character that stands there. -/
theorem getElem?_skipBlanks_eq_iff {c : Char} (hc : c.toNat < 128) :
    (encoded (done ++ following))[skipBlanks (encoded (done ++ following)) (encoded done).length]? =
      some c ↔ ∃ t, following.dropWhile isAsciiBlank = c :: t := by
  rw [skipBlanks_encoded, ← getElem?_encoded_eq_iff (done ++ following.takeWhile isAsciiBlank) _ hc,
    ← eq_append_blanks]

variable {following} in
theorem offset_skipBlanks {c : Char} {after : List Char} (hc : c.toNat < 128)
    (h : following.dropWhile isAsciiBlank = c :: after) :
    offset (done ++ following) after =
      skipBlanks (encoded (done ++ following)) (encoded done).length + 1 := by
  rw [skipBlanks_encoded, eq_append_blanks, h, offset_behind hc]

variable {following} in
theorem bodyAt_skipBlanks {opened : List Char}
    (h : following.dropWhile isAsciiBlank = '\x7b' :: opened) (item : String → ScannedItem) :
    (do
      let (body, stop) ← bodyAt (done ++ following)
        (skipBlanks (encoded (done ++ following)) (encoded done).length)
      return (item body, stop)) =
      Guarded.of ((do
        let (body, after) ← readBody (done ++ following) ('\x7b' :: opened)
        .ok (item (String.ofList body), after)).map fun (item, after) =>
          (item, offset (done ++ following) after)) := by
  rw [skipBlanks_encoded, eq_append_blanks, h]
  exact bodyAt_encoded _ opened item

end

theorem visibleAt_encoded (pre rest : List Char) :
    visibleAt (pre ++ rest) (encoded pre).length =
      .of ((readVisible (pre ++ rest) rest).map fun (item, after) =>
        (item, offset (pre ++ rest) after)) := by
  unfold visibleAt readVisible
  rw [signatureAt_encoded]
  cases hsig : readSignature (pre ++ rest) rest .visibleParameters .visibleHeader with
  | error fault => rfl
  | ok parts =>
    obtain ⟨returnType, name, inside, following⟩ := parts
    obtain ⟨done, htext, hdone, hcut, hline⟩ := (readSignature_eq_ok_iff.mp hsig).offsets pre
    rw [Guarded.of_map_bind]
    dsimp only
    rw [hcut, Guarded.lift_some_bind, hline, ← hdone, htext, Guarded.ok_bind]
    have hbyte := @getElem?_skipBlanks_eq_iff done following
    dsimp only
    -- The byte decides what follows, and it is the character that the scanner looks at.
    split
    · rename_i hbyte'
      obtain ⟨after, hend⟩ := (hbyte (by decide)).mp hbyte'
      rw [hend, ← offset_skipBlanks done (by decide) hend]
      rfl
    · rename_i hsemicolon
      split
      · rename_i hbyte'
        obtain ⟨opened, hopened⟩ := (hbyte (by decide)).mp hbyte'
        rw [hopened]
        exact bodyAt_skipBlanks done hopened fun body => .visibleDefinition ⟨_, body⟩
      · rename_i hbrace
        split
        · rename_i after hend
          exact absurd ((hbyte (by decide)).mpr ⟨after, hend⟩) hsemicolon
        · rename_i opened hopened
          exact absurd ((hbyte (by decide)).mpr ⟨opened, hopened⟩) hbrace
        · rfl

theorem kernelAt_encoded (pre rest : List Char) :
    kernelAt (pre ++ rest) (encoded pre).length =
      .of ((readKernel (pre ++ rest) rest).map fun (item, after) =>
        (item, offset (pre ++ rest) after)) := by
  unfold kernelAt readKernel
  rw [signatureAt_encoded]
  cases hsig : readSignature (pre ++ rest) rest .kernelParameters .kernelHeader with
  | error fault => rfl
  | ok parts =>
    obtain ⟨returnType, name, inside, following⟩ := parts
    obtain ⟨done, htext, hdone, -, hline⟩ := (readSignature_eq_ok_iff.mp hsig).offsets pre
    have hbyte := @getElem?_skipBlanks_eq_iff done following
    rw [Guarded.of_map_bind]
    dsimp only
    rw [hline, ← hdone, htext, Guarded.ok_bind]
    dsimp only
    split
    · rename_i hbrace
      obtain ⟨opened, hopened⟩ := (hbyte (by decide)).mp hbrace
      rw [hopened]
      exact bodyAt_skipBlanks done hopened fun body => .kernel ⟨_, body⟩
    · rename_i hbrace
      split
      · rename_i opened hopened
        exact absurd ((hbyte (by decide)).mpr ⟨opened, hopened⟩) hbrace
      · rfl

end

/-! ## The scan -/

/-- One step of the scan reads the declaration that starts there. -/
theorem stepAt_encoded (pre rest : List Char) :
    stepAt (pre ++ rest) (encoded pre).length =
      match declarationAt? (pre ++ rest) (endsInWord pre) rest with
      | none => .of (.ok (none, (encoded pre).length + 1))
      | some read =>
        .of (read.map fun (item, after) => (some item, offset (pre ++ rest) after)) := by
  have hascii : ∀ {word : List Char}, word.all (·.toNat < 128) → ∀ c ∈ word, c.toNat < 128 :=
    fun hword => by simpa using hword
  have hi := hascii (show intrinsicWord.all (·.toNat < 128) by decide)
  have hv := hascii (show visibleMark.all (·.toNat < 128) by decide)
  have hk := hascii (show kernelWord.all (·.toNat < 128) by decide)
  -- Behind a word that starts here the position is the one behind the word's characters.
  have hbehind : ∀ {word : List Char}, (∀ c ∈ word, c.toNat < 128) → word.isPrefixOf rest →
      ∃ rest', rest.drop word.length = rest' ∧ pre ++ rest = (pre ++ word) ++ rest' ∧
        (encoded pre).length + word.length = (encoded (pre ++ word)).length := by
    intro word hword h
    obtain ⟨rest', rfl⟩ := List.isPrefixOf_iff_prefix.mp h
    exact ⟨rest', List.drop_left, (List.append_assoc _ _ _).symm, by
      rw [encoded_append, encoded_of_ascii hword, List.length_append]⟩
  unfold stepAt declarationAt?
  rw [wordAt?_encoded _ _ hi, Guarded.lift_some_bind]
  split
  · rw [intrinsicAt_encoded]
    cases readIntrinsic (pre ++ rest) rest <;> rfl
  · rw [bytesFrom?_encoded, Guarded.lift_some_bind, isPrefixOf_encoded hv]
    split
    · rename_i hmark
      obtain ⟨rest', hdrop, htext, hpos⟩ := hbehind hv hmark
      rw [hdrop, htext, hpos, visibleAt_encoded]
      cases readVisible (pre ++ visibleMark ++ rest') rest' <;> rfl
    · rw [wordAt?_encoded _ _ hk, Guarded.lift_some_bind]
      split
      · rename_i hword
        obtain ⟨rest', hdrop, htext, hpos⟩ := hbehind hk (isPrefixOf_of_startsWithWord hword)
        rw [hdrop, htext, hpos, kernelAt_encoded]
        cases readKernel (pre ++ kernelWord ++ rest') rest' <;> rfl
      · rfl

section

variable {text : List Char} {pos : Nat}

/-- A step that leads further into the text is followed by the rest of the scan. -/
theorem scanFrom_of_step {item : Option ScannedItem} {next : Nat}
    {rest : Except ScanFault (List ScannedItem)} (h : stepAt text pos = .of (.ok (item, next)))
    (hnext : pos < next ∧ next ≤ (encoded text).length) (hrest : scanFrom text next = .of rest) :
    scanFrom text pos = .of (rest.map (item.toList ++ ·)) := by
  rw [scanFrom, if_pos (Nat.lt_of_lt_of_le hnext.1 hnext.2), h]
  change (if _h : pos < next ∧ next ≤ (encoded text).length then _ else _) = _
  rw [dif_pos hnext, hrest]
  cases rest <;> rfl

theorem scanFrom_of_fault {fault : ScanFault} (hpos : pos < (encoded text).length)
    (h : stepAt text pos = .of (.error fault)) : scanFrom text pos = .of (.error fault) := by
  rw [scanFrom, if_pos hpos, h]
  rfl

/-- Where nothing is read the scan goes on at the next byte. -/
theorem scanFrom_of_none {rest : Except ScanFault (List ScannedItem)}
    (hpos : pos < (encoded text).length) (h : stepAt text pos = .of (.ok (none, pos + 1)))
    (hrest : scanFrom text (pos + 1) = .of rest) : scanFrom text pos = .of rest := by
  rw [scanFrom_of_step h ⟨Nat.lt_succ_self pos, hpos⟩ hrest]
  cases rest <;> rfl

/-- A byte beyond ASCII starts nothing. -/
theorem stepAt_high {b : Char} {back : ByteText} (hbytes : (encoded text).drop pos = b :: back)
    (hb : 128 ≤ b.toNat) : stepAt text pos = .of (.ok (none, pos + 1)) := by
  have hfrom : bytesFrom? (encoded text) pos = some (b :: back) := by
    have hle : pos ≤ (encoded text).length := Nat.le_of_lt (Nat.lt_of_not_le fun hle => by
      rw [List.drop_eq_nil_of_le hle] at hbytes
      cases hbytes)
    rw [bytesFrom?, if_pos hle, hbytes]
  have hno : ∀ {c : Char} {word : List Char}, c.toNat < 128 →
      (c :: word).isPrefixOf (b :: back) = false := fun {c word} hc => by
    rw [List.isPrefixOf_cons_cons, beq_eq_false_iff_ne.mpr fun h => by rw [h] at hc; omega]
    rfl
  have hword : ∀ {c : Char} {word : List Char}, c.toNat < 128 →
      wordAt? (encoded text) (c :: word) pos = some false := fun hc => by
    unfold wordAt?
    rw [hfrom, Option.bind_eq_bind, Option.bind_some, hno hc]
    rfl
  unfold stepAt
  have hintrinsic : wordAt? (encoded text) intrinsicWord pos = some false :=
    hword (c := '_') (by decide)
  have hkernel : wordAt? (encoded text) kernelWord pos = some false := hword (c := 'k') (by decide)
  have hvisible : visibleMark.isPrefixOf (b :: back) = false := hno (c := '[') (by decide)
  rw [hintrinsic, hkernel, hfrom, Guarded.lift_some_bind, if_neg Bool.false_ne_true,
    Guarded.lift_some_bind, hvisible]
  rfl

theorem scanFrom_high {front back : ByteText} {rest : Except ScanFault (List ScannedItem)}
    (hbytes : (encoded text).drop pos = front ++ back) (hhigh : ∀ b ∈ front, 128 ≤ b.toNat)
    (hrest : scanFrom text (pos + front.length) = .of rest) : scanFrom text pos = .of rest := by
  induction front generalizing pos with
  | nil => exact hrest
  | cons b front ih =>
    obtain ⟨hb, hhigh⟩ := List.forall_mem_cons.mp hhigh
    have hpos : pos < (encoded text).length := Nat.lt_of_not_le fun hle => by
      rw [List.drop_eq_nil_of_le hle] at hbytes
      cases hbytes
    refine scanFrom_of_none hpos (stepAt_high hbytes hb) (ih ?_ hhigh ?_)
    · rw [← List.drop_drop, hbytes]
      rfl
    · rwa [Nat.add_assoc, Nat.add_comm 1]

end

/-- At an offset in front of some text there is another one behind it. -/
theorem length_encoded_lt (pre : List Char) {s : List Char} (hs : s ≠ []) :
    (encoded pre).length < (encoded (pre ++ s)).length := by
  obtain ⟨c, s, rfl⟩ := List.exists_cons_of_ne_nil hs
  have hc := List.length_pos_of_ne_nil (encode_ne_nil c)
  rw [encoded_append, encoded_cons, List.length_append, List.length_append]
  omega

/-- What is left behind a declaration starts further on in the text. -/
theorem EndsWith.offset {d : Char} {rest after : List Char} (h : EndsWith d rest after)
    (pre : List Char) : ∃ front, pre ++ rest = (pre ++ front ++ [d]) ++ after ∧
      KernelLink.offset (pre ++ rest) after = (encoded (pre ++ front ++ [d])).length ∧
      (encoded pre).length < KernelLink.offset (pre ++ rest) after ∧
      KernelLink.offset (pre ++ rest) after ≤ (encoded (pre ++ rest)).length := by
  obtain ⟨front, rfl⟩ := h
  have htext : pre ++ (front ++ d :: after) = (pre ++ front ++ [d]) ++ after := by simp
  have hoffset : KernelLink.offset (pre ++ (front ++ d :: after)) after =
      (encoded (pre ++ front ++ [d])).length := by
    rw [htext, offset_append]
  refine ⟨front, htext, hoffset, ?_, Nat.sub_le _ _⟩
  rw [hoffset, List.append_assoc]
  exact length_encoded_lt pre (List.append_ne_nil_of_right_ne_nil front (List.cons_ne_nil d []))

theorem endsInWord_concat (s : List Char) (c : Char) : endsInWord (s ++ [c]) = isWordChar c := by
  rw [endsInWord, List.getLast?_concat]
  rfl

/-- **Every access of a scan is in range**, and every step leads further into the text. -/
theorem scanFrom_encoded (text : List Char) (afterWord : Bool) (rest : List Char) :
    ∀ pre, text = pre ++ rest → endsInWord pre = afterWord →
      scanFrom text (encoded pre).length = .of (scanItems text 0 afterWord rest) := by
  induction afterWord, rest using scan_induction text with
  | nil afterWord =>
    intro pre htext _
    rw [scanFrom, if_neg (by rw [htext, List.append_nil]; exact Nat.lt_irrefl _)]
    rfl
  | pass afterWord c s hnone ih =>
    rintro pre htext rfl
    have hnext := ih (pre ++ [c]) (by rw [htext, List.append_assoc]; rfl) (endsInWord_concat pre c)
    rw [scanItems_of_none hnone]
    by_cases hc : c.toNat < 128
    · have hstep := stepAt_encoded pre (c :: s)
      rw [← htext, hnone] at hstep
      rw [length_encoded_concat pre hc] at hnext
      exact scanFrom_of_none (by rw [htext]; exact length_encoded_lt pre nofun) hstep hnext
    · -- No byte of the character starts anything.
      rw [encoded_append, encoded_singleton, List.length_append] at hnext
      have hbytes : (encoded text).drop (encoded pre).length = encode c ++ encoded s := by
        rw [htext, encoded_append, List.drop_left]
        rfl
      exact scanFrom_high hbytes (fun b hb => le_toNat_of_mem_encode (Nat.not_lt.mp hc) hb) hnext
  | fault afterWord s fault hfault =>
    rintro pre rfl rfl
    cases s with
    | nil => cases hfault
    | cons c s =>
      have hstep := stepAt_encoded pre (c :: s)
      rw [hfault] at hstep
      rw [scanItems_of_fault hfault]
      exact scanFrom_of_fault (length_encoded_lt pre nofun) hstep
  | declares afterWord s item after hdeclares ih =>
    rintro pre rfl rfl
    have hstep := stepAt_encoded pre s
    rw [hdeclares.read] at hstep
    -- Its last delimiter is in front of the next offset, which therefore is behind no word.
    obtain ⟨d, hends, hd⟩ := hdeclares.endsWith
    obtain ⟨front, htext, hoffset, hfurther⟩ := hends.offset pre
    have hnext := ih _ htext ((endsInWord_concat _ d).trans hd)
    rw [← hoffset] at hnext
    rw [scanItems_of_declares _ hdeclares]
    exact scanFrom_of_step hstep hfurther hnext

/-- **The scan of bytes is the scan of characters**, for every text. -/
theorem scanOffsets_eq (source : String) : (scanOffsets source).run = some (scanSource source) := by
  have hscan : scanFrom (stripComments source.toList) 0 =
      .of (scanItems (stripComments source.toList) 0 false (stripComments source.toList)) :=
    scanFrom_encoded _ false _ [] rfl rfl
  unfold scanOffsets scanSource
  dsimp only
  rw [hscan]
  cases scanItems (stripComments source.toList) 0 false (stripComments source.toList) <;> rfl

end KernelLink
