import KernelLink.Proofs.Catalog.Bindings

/-!
# What can be read off a key

A key has the words of a body and nothing of its layout. A body names its sizes at its beginning,
where a tile is declared, and its constant at its end; so both can be read off the words, and with
them the parameters that the body was written with. For a constant that is its text, which for some
element types says less than the constant.
-/

namespace KernelLink

/-! ## Words of a body -/

/-- The words of a body without its comments: what a key keeps of it. -/
def bodyWords (body : String) : List (List Char) := words (stripComments body.toList)

theorem bodyWords_eq_iff {body body' : String} :
    bodyWords body = bodyWords body' ↔ normalizeBody body = normalizeBody body' :=
  normalizeBody_eq_iff.symm

/-- The words of a first line without comments. -/
theorem bodyWords_line {line rest : String} (h : '/' ∉ line.toList) :
    bodyWords (line ++ "\n" ++ rest) = words line.toList ++ bodyWords rest := by
  have htext : (line ++ "\n" ++ rest).toList = line.toList ++ (['\n'] ++ rest.toList) := by
    simp [String.toList_append]
  have hnewline : Comment.after .code ['\n'] = .code := rfl
  unfold bodyWords
  rw [htext, stripComments_append (after_of_no_slash h), stripComments_append hnewline,
    (CommentFree.of_no_slash h).stripComments_eq]
  exact words_append_blank (by decide +kernel) _ _

/-- Without a slash there is no way out of a block comment. -/
theorem exists_after_block {s : List Char} (h : '/' ∉ s) (star : Bool) :
    ∃ star', Comment.after (.block star) s = .block star' := by
  induction s generalizing star with
  | nil => exact ⟨star, rfl⟩
  | cons c s ih =>
    rw [List.mem_cons, not_or] at h
    obtain ⟨hc, hs⟩ := h
    have hopen : (star && decide (c = '/')) = false := by simp [Ne.symm hc]
    rw [Comment.after_cons, Comment.step, hopen, if_neg Bool.false_ne_true]
    exact ih hs _

/-- The words of a last line without comments. That it does not stand in a comment of the lines
before it is seen from where the text ends. -/
theorem bodyWords_lastLine {lines line : String} (h : ClosesComments (lines ++ "\n" ++ line).toList)
    (hline : '/' ∉ line.toList) :
    bodyWords (lines ++ "\n" ++ line) = bodyWords lines ++ words line.toList := by
  have htext : (lines ++ "\n" ++ line).toList = (lines.toList ++ ['\n']) ++ line.toList := by
    simp [String.toList_append]
  have hcloses : ClosesComments lines.toList := by
    intro star hstar
    have hslash : '/' ∉ '\n' :: line.toList := by simp [hline]
    obtain ⟨star', hblock⟩ := exists_after_block hslash star
    refine h star' ?_
    rw [htext, List.append_assoc, Comment.after_append, hstar]
    exact hblock
  unfold bodyWords
  rw [htext, stripComments_append (after_line hcloses), stripComments_line hcloses,
    List.append_assoc, (CommentFree.of_no_slash hline).stripComments_eq]
  exact words_append_blank (by decide +kernel) _ _

theorem linesOf_cons (line next : String) (rest : List String) :
    linesOf (line :: next :: rest) = line ++ "\n" ++ linesOf (next :: rest) :=
  String.intercalate_cons_cons

theorem linesOf_getLast (first next : String) (rest : List String) :
    linesOf (first :: next :: rest) = linesOf (first :: (next :: rest).dropLast) ++ "\n" ++
      (next :: rest).getLast (List.cons_ne_nil _ _) := by
  induction rest generalizing first next with
  | nil => rfl
  | cons third rest ih =>
    rw [linesOf_cons, ih, List.dropLast_cons_cons, linesOf_cons, List.getLast_cons_cons]
    simp only [String.append_assoc]

/-! ## Lines of words -/

/-- A piece of a word: neither blanks nor slashes are in it. -/
def IsBare (s : List Char) : Prop := ∀ c ∈ s, isBlank c = false ∧ c ≠ '/'

instance (s : List Char) : Decidable (IsBare s) := List.decidableBAll _ _

namespace IsBare

variable {s t : List Char}

theorem append (hs : IsBare s) (ht : IsBare t) : IsBare (s ++ t) :=
  List.forall_mem_append.mpr ⟨hs, ht⟩

/-- A text that is given by its characters is read off them. -/
theorem ofList (h : IsBare s) : IsBare (String.ofList s).toList := by
  rwa [String.toList_ofList]

theorem of_isNumberChar (h : ∀ c ∈ s, isNumberChar c) : IsBare s := by
  intro c hc
  refine ⟨not_isBlank_of_isNumberChar (h c hc), ?_⟩
  rintro rfl
  exact absurd (h _ hc) (by decide)

theorem toString (n : Nat) : IsBare (toString n).toList :=
  of_isNumberChar fun _ hc => isNumberChar_of_isDigit (isDigit_of_mem_toString hc)

theorem literalText (x : Single) : IsBare x.literalText.toList :=
  of_isNumberChar (FloatStyle.isNumberChar_text _ _ _)

theorem literal (e : Element) (x : Double) : IsBare (e.literal x).toList := by
  have hsuffix {number suffix : String} (hnumber : ∀ c ∈ number.toList, isNumberChar c)
      (h : IsBare suffix.toList) : IsBare (number ++ suffix).toList := by
    rw [String.toList_append]
    exact (of_isNumberChar hnumber).append h
  cases e with
  | f32 => exact hsuffix (FloatStyle.isNumberChar_text _ _ _) (ofList (by decide))
  | f16 => exact hsuffix (FloatStyle.isNumberChar_text _ _ _) (ofList (by decide))
  | i32 => exact of_isNumberChar (isNumberChar_toString_int _)
  | u32 => exact hsuffix (isNumberChar_toString_int _) (ofList (by decide))

end IsBare

/-- A whole word without slashes. -/
def IsBareWord (w : List Char) : Prop := w ≠ [] ∧ IsBare w

instance (w : List Char) : Decidable (IsBareWord w) := inferInstanceAs (Decidable (_ ∧ _))

namespace IsBareWord

variable {s w : List Char}

theorem ofList (h : IsBareWord w) : IsBareWord (String.ofList w).toList := by
  rwa [String.toList_ofList]

theorem append_left (hs : IsBare s) (hw : IsBareWord w) : IsBareWord (s ++ w) :=
  ⟨List.append_ne_nil_of_right_ne_nil _ hw.1, hs.append hw.2⟩

theorem spelling (e : Element) : IsBareWord e.spelling.toList := by
  cases e <;> exact ofList (by decide)

theorem isWord (h : IsBareWord w) : IsWord w := ⟨h.1, fun c hc => (h.2 c hc).1⟩

theorem no_slash (h : IsBareWord w) : '/' ∉ w := fun hmem => (h.2 _ hmem).2 rfl

end IsBareWord

/-- Words without slashes. -/
def AreBare (ws : List (List Char)) : Prop := ∀ w ∈ ws, IsBareWord w

theorem areBare_nil : AreBare [] := List.forall_mem_nil _

theorem areBare_cons {w : List Char} {ws : List (List Char)} :
    AreBare (w :: ws) ↔ IsBareWord w ∧ AreBare ws := List.forall_mem_cons

theorem areBare_append {ws vs : List (List Char)} :
    AreBare (ws ++ vs) ↔ AreBare ws ∧ AreBare vs := List.forall_mem_append

theorem unwords_cons_cons (w v : List Char) (ws : List (List Char)) :
    unwords (w :: v :: ws) = w ++ ' ' :: unwords (v :: ws) := rfl

theorem unwords_append (w v : List Char) (ws vs : List (List Char)) :
    unwords (w :: ws ++ v :: vs) = unwords (w :: ws) ++ ' ' :: unwords (v :: vs) := by
  induction ws generalizing w with
  | nil => rw [List.singleton_append, unwords_cons_cons, unwords_singleton]
  | cons u ws ih =>
    rw [List.cons_append, List.cons_append, unwords_cons_cons, unwords_cons_cons,
      ← List.cons_append, ih, List.append_assoc, List.cons_append]

/-- A line of words without slashes, indented. -/
structure IsLineOf (line : String) (ws : List (List Char)) : Prop where
  text : ∃ indent : List Char, indent.all isBlank ∧ line.toList = indent ++ unwords ws
  bare : AreBare ws

namespace IsLineOf

variable {line lines next : String} {rest : List String} {ws : List (List Char)}

theorem words_eq (h : IsLineOf line ws) : words line.toList = ws := by
  obtain ⟨⟨indent, hindent, htext⟩, hbare⟩ := h
  rw [htext]
  clear htext
  induction indent with
  | nil => exact words_unwords fun w hw => (hbare w hw).isWord
  | cons c indent ih =>
    rw [List.all_cons, Bool.and_eq_true] at hindent
    rw [List.cons_append, words_cons_blank hindent.1]
    exact ih hindent.2

theorem no_slash (h : IsLineOf line ws) : '/' ∉ line.toList := by
  obtain ⟨⟨indent, hindent, htext⟩, hbare⟩ := h
  rw [htext, List.mem_append, not_or]
  refine ⟨fun hmem => absurd (List.all_eq_true.mp hindent _ hmem) (by decide), ?_⟩
  clear htext
  induction ws with
  | nil => exact List.not_mem_nil
  | cons w ws ih =>
    obtain ⟨hw, hws⟩ := areBare_cons.mp hbare
    cases ws with
    | nil =>
      rw [unwords_singleton]
      exact hw.no_slash
    | cons v ws =>
      rw [unwords_cons_cons, List.mem_append, List.mem_cons, not_or, not_or]
      exact ⟨hw.no_slash, by decide, ih hws⟩

theorem bodyWords_cons (h : IsLineOf line ws) :
    bodyWords (linesOf (line :: next :: rest)) = ws ++ bodyWords (linesOf (next :: rest)) := by
  rw [linesOf_cons, bodyWords_line h.no_slash, h.words_eq]

theorem bodyWords_last (h : IsLineOf line ws)
    (hcloses : ClosesComments (lines ++ "\n" ++ line).toList) :
    bodyWords (lines ++ "\n" ++ line) = bodyWords lines ++ ws := by
  rw [bodyWords_lastLine hcloses h.no_slash, h.words_eq]

end IsLineOf

theorem natText_inj {m n : Nat} (h : toString m = toString n) : m = n := by
  rw [Nat.toString_eq_ofList_toDigits, Nat.toString_eq_ofList_toDigits, String.ofList_inj] at h
  rw [← @Nat.ofDigitChars_toDigits 10 m (by omega) (by omega), h,
    Nat.ofDigitChars_toDigits (by omega) (by omega)]

/-- Sizes are told apart by their texts, whatever stands around them. -/
theorem size_eq_of_word_eq {before after : List Char} {m n : Nat}
    (h : before ++ ((toString m).toList ++ after) = before ++ ((toString n).toList ++ after)) :
    m = n :=
  natText_inj (String.toList_inj.mp (List.append_cancel_right (List.append_cancel_left h)))

/-! ## Kernels -/

/-- The words of a line that declares a tile. -/
def tileWords (type name : String) (n : Nat) : List (List Char) :=
  ["threadgroup".toList, type.toList, name.toList ++ ((toString n).toList ++ [']', ';'])]

/-- A line that declares a tile. -/
theorem isLineOf_tile {front type name : String}
    (hfront : front = "  threadgroup " ++ type ++ " " ++ name)
    (htype : IsBareWord type.toList) (hname : IsBare name.toList) (n : Nat) :
    IsLineOf (front ++ toString n ++ "];") (tileWords type name n) := by
  subst hfront
  refine ⟨⟨[' ', ' '], by decide, ?_⟩, ?_⟩
  · simp [tileWords, unwords_cons_cons, unwords_singleton]
  · unfold tileWords
    simp only [areBare_cons, areBare_nil, and_true]
    exact ⟨.ofList (by decide), htype, .append_left hname (.append_left (.toString n) (by decide))⟩

/-- Tiles of one name are told apart by their types and lengths. -/
theorem eq_of_tileWords_eq {type type' name : String} {n n' : Nat} {ws ws' : List (List Char)}
    (h : tileWords type name n ++ ws = tileWords type' name n' ++ ws') :
    type = type' ∧ n = n' ∧ ws = ws' := by
  unfold tileWords at h
  simp only [List.cons_append, List.nil_append, List.cons.injEq, true_and] at h
  exact ⟨String.toList_inj.mp h.1, size_eq_of_word_eq h.2.1, h.2.2⟩

theorem bodyWords_reverseBody (tile : Nat) (callee : String) : ∃ rest,
    bodyWords (reverseBody tile callee) = tileWords "float" "tg_buf[" tile ++ rest :=
  ⟨_, (isLineOf_tile (by decide) (.ofList (by decide)) (.ofList (by decide)) tile).bodyWords_cons⟩

theorem bodyWords_gemmBody (tile : Nat) (callee : String) : ∃ rest,
    bodyWords (gemmBody tile callee) = tileWords "float" "tg_a[" tile ++ rest :=
  ⟨_, (isLineOf_tile (by decide) (.ofList (by decide)) (.ofList (by decide)) tile).bodyWords_cons⟩

theorem bodyWords_asyncCopyBody (n : Nat) (e : Element) (x : Double) : ∃ rest,
    bodyWords (asyncCopyBody n e x) = tileWords e.spelling "tg_buf[" n ++ rest := by
  have hfront : "  threadgroup " ++ e.spelling ++ " tg_buf[" =
      "  threadgroup " ++ e.spelling ++ " " ++ "tg_buf[" := by
    rw [@String.append_assoc _ " " "tg_buf["]
    rfl
  exact ⟨_, (isLineOf_tile hfront (.spelling e) (.ofList (by decide)) n).bodyWords_cons⟩

/-- The last word of the body is the constant. -/
theorem getLast?_bodyWords_asyncCopyBody (n : Nat) (e : Element) (x : Double) :
    (bodyWords (asyncCopyBody n e x)).getLast? = some ((e.literal x).toList ++ [';']) := by
  have hline : IsLineOf
      ("  dst[tid] = tg_buf[simd_lane % " ++ toString n ++ "] * " ++ e.literal x ++ ";")
      (["dst[tid]".toList, ['='], "tg_buf[simd_lane".toList, ['%'],
        (toString n).toList ++ [']'], ['*']] ++ [(e.literal x).toList ++ [';']]) := by
    refine ⟨⟨[' ', ' '], by decide, ?_⟩, ?_⟩
    · simp [unwords_cons_cons, unwords_singleton]
    · simp only [areBare_append, areBare_cons, areBare_nil, and_true]
      exact ⟨⟨.ofList (by decide), by decide, .ofList (by decide), by decide,
        .append_left (.toString n) (by decide), by decide⟩,
        .append_left (.literal e x) (by decide)⟩
  have hcloses := (isBody_asyncCopyBody n e x).1
  obtain ⟨lines, hbody⟩ : ∃ lines, asyncCopyBody n e x = linesOf lines ++ "\n" ++
      ("  dst[tid] = tg_buf[simd_lane % " ++ toString n ++ "] * " ++ e.literal x ++ ";") := by
    unfold asyncCopyBody
    dsimp only
    rw [linesOf_getLast]
    simp only [List.getLast_cons_cons, List.getLast_singleton]
    exact ⟨_, rfl⟩
  rw [hbody] at hcloses ⊢
  rw [hline.bodyWords_last hcloses, ← List.append_assoc, List.getLast?_concat]

/-- A body says what it stages and how its constant is written. -/
theorem eq_of_asyncCopyBody_eq {n n' : Nat} {e e' : Element} {x x' : Double}
    (h : bodyWords (asyncCopyBody n e x) = bodyWords (asyncCopyBody n' e' x')) :
    n = n' ∧ e = e' ∧ e.literal x = e.literal x' := by
  have hlast := congrArg List.getLast? h
  obtain ⟨rest, hwords⟩ := bodyWords_asyncCopyBody n e x
  obtain ⟨rest', hwords'⟩ := bodyWords_asyncCopyBody n' e' x'
  rw [hwords, hwords'] at h
  obtain ⟨htype, rfl, -⟩ := eq_of_tileWords_eq h
  have hspelling : ∀ e e' : Element, e.spelling = e'.spelling → e = e' := by
    intro e e'
    cases e <;> cases e' <;> decide
  obtain rfl := hspelling _ _ htype
  refine ⟨rfl, rfl, ?_⟩
  rw [getLast?_bodyWords_asyncCopyBody, getLast?_bodyWords_asyncCopyBody,
    Option.some.injEq] at hlast
  exact String.toList_inj.mp (List.append_cancel_right hlast)

theorem eq_of_reverseBody_eq {n n' : Nat} {callee callee' : String}
    (h : bodyWords (reverseBody n callee) = bodyWords (reverseBody n' callee')) : n = n' := by
  obtain ⟨rest, hwords⟩ := bodyWords_reverseBody n callee
  obtain ⟨rest', hwords'⟩ := bodyWords_reverseBody n' callee'
  rw [hwords, hwords'] at h
  exact (eq_of_tileWords_eq h).2.1

theorem eq_of_gemmBody_eq {n n' : Nat} {callee callee' : String}
    (h : bodyWords (gemmBody n callee) = bodyWords (gemmBody n' callee')) : n = n' := by
  obtain ⟨rest, hwords⟩ := bodyWords_gemmBody n callee
  obtain ⟨rest', hwords'⟩ := bodyWords_gemmBody n' callee'
  rw [hwords, hwords'] at h
  exact (eq_of_tileWords_eq h).2.1

/-- The words of a line that says of one side of a copy how far apart its rows are, and what is
copied. -/
def strideWords (side : List (List Char)) (stride tileCols rows : Nat) : List (List Char) :=
  side ++ [(toString stride).toList ++ [','], ['1', ','],
    "ulong2(".toList ++ ((toString tileCols).toList ++ [',']), (toString rows).toList ++ [')', ',']]

theorem isLineOf_stride {front : String} {w : List Char} {ws : List (List Char)}
    (hfront : front.toList = List.replicate 6 ' ' ++ (unwords (w :: ws) ++ [' ']))
    (hbare : AreBare (w :: ws)) (stride tileCols rows : Nat) :
    IsLineOf (front ++ (toString stride ++ ", 1, " ++
        ("ulong2(" ++ toString tileCols ++ ", " ++ toString rows ++ ")")) ++ ",")
      (strideWords (w :: ws) stride tileCols rows) := by
  refine ⟨⟨List.replicate 6 ' ', by decide, ?_⟩, areBare_append.mpr ⟨hbare, ?_⟩⟩
  · unfold strideWords
    rw [unwords_append]
    simp [hfront, unwords_cons_cons, unwords_singleton]
  · simp only [areBare_cons, areBare_nil, and_true]
    exact ⟨.append_left (.toString _) (by decide), by decide,
      .append_left (.ofList (by decide)) (.append_left (.toString _) (by decide)),
      .append_left (.toString _) (by decide)⟩

theorem eq_of_strideWords_eq {side ws ws' : List (List Char)}
    {stride stride' tileCols tileCols' rows rows' : Nat}
    (h : strideWords side stride tileCols rows ++ ws =
      strideWords side stride' tileCols' rows' ++ ws') :
    stride = stride' ∧ tileCols = tileCols' ∧ rows = rows' ∧ ws = ws' := by
  unfold strideWords at h
  rw [List.append_assoc, List.append_assoc, List.append_cancel_left_eq] at h
  simp only [List.cons_append, List.nil_append, List.cons.injEq, true_and] at h
  obtain ⟨hstride, hcols, hrows, hrest⟩ := h
  exact ⟨@size_eq_of_word_eq [] _ _ _ hstride, size_eq_of_word_eq hcols,
    @size_eq_of_word_eq [] _ _ _ hrows, hrest⟩

def targetSide : List (List Char) := ["(threadgroup".toList, "void*)tile,".toList]

def sourceSide : List (List Char) := ["(const".toList, "device".toList, "void*)src,".toList]

/-- The body of the roundtrip up to the second side of its first copy. -/
theorem bodyWords_roundtripBody (callee : String) : ∃ front, ∀ rows cols tileCols, ∃ rest,
    bodyWords (roundtripBody rows cols tileCols callee) =
      tileWords "float" "tile[" (Size.wrap (rows * tileCols)) ++ (front ++
        (strideWords targetSide tileCols tileCols rows ++
          (strideWords sourceSide cols tileCols rows ++ rest))) := by
  have hbare : AreBare targetSide ∧ AreBare sourceSide := by
    unfold targetSide sourceSide
    simp only [areBare_cons, areBare_nil, and_true]
    exact ⟨⟨.ofList (by decide), .ofList (by decide)⟩, .ofList (by decide), .ofList (by decide),
      .ofList (by decide)⟩
  have htile (n : Nat) := @isLineOf_tile "  threadgroup float tile[" "float" "tile[" (by decide)
    (.ofList (by decide)) (.ofList (by decide)) n
  have htarget := @isLineOf_stride "      (threadgroup void*)tile, " _ _
    (by simp [unwords_cons_cons, unwords_singleton]) hbare.1
  have hsource := @isLineOf_stride "      (const device void*)src, " _ _
    (by simp [unwords_cons_cons, unwords_singleton]) hbare.2
  refine ⟨words "  thread _simdgroup_event_t* ev_in = __metal_simdgroup_async_copy_2d(".toList ++
    words "      sizeof(float), alignof(float),".toList, fun rows cols tileCols => ?_⟩
  have hblank : words "".toList = [] := rfl
  unfold roundtripBody
  dsimp only
  rw [(htile _).bodyWords_cons, linesOf_cons, bodyWords_line (by decide), hblank, List.nil_append,
    linesOf_cons, bodyWords_line (by simp), linesOf_cons, bodyWords_line (by simp),
    (htarget ..).bodyWords_cons, (hsource ..).bodyWords_cons]
  exact ⟨_, congrArg _ (List.append_assoc ..).symm⟩

theorem eq_of_roundtripBody_eq {rows rows' cols cols' tileCols tileCols' : Nat} {callee : String}
    (h : bodyWords (roundtripBody rows cols tileCols callee) =
      bodyWords (roundtripBody rows' cols' tileCols' callee)) :
    rows = rows' ∧ cols = cols' ∧ tileCols = tileCols' := by
  obtain ⟨front, hwords⟩ := bodyWords_roundtripBody callee
  obtain ⟨rest, hrest⟩ := hwords rows cols tileCols
  obtain ⟨rest', hrest'⟩ := hwords rows' cols' tileCols'
  rw [hrest, hrest'] at h
  obtain ⟨-, -, h⟩ := eq_of_tileWords_eq h
  rw [List.append_cancel_left_eq] at h
  obtain ⟨-, hcols, hrows, h⟩ := eq_of_strideWords_eq h
  exact ⟨hrows, (eq_of_strideWords_eq h).1, hcols⟩

/-! ## Visible functions -/

/-- A transform's body says what its constants stand for. -/
theorem Transform.exact_eq_of_body_eq {t u : Transform} (h : bodyWords t.body = bodyWords u.body) :
    t.scale.exact = u.scale.exact ∧ t.bias.exact = u.bias.exact := by
  unfold bodyWords at h
  rw [t.words_body, u.words_body] at h
  simp only [List.cons.injEq, true_and, and_true, List.append_left_inj] at h
  exact ⟨Single.exact_eq_of_literalText_eq (String.toList_inj.mp h.1),
    Single.exact_eq_of_literalText_eq (String.toList_inj.mp h.2)⟩

theorem TileScaling.bodyWords_body (p : TileScaling) :
    bodyWords p.body = ["if".toList, "(simd_lane".toList, ['<'],
      (toString p.lanes).toList ++ [')'], ['\x7b'], "tg[simd_lane]".toList, "*=".toList,
      p.scale.literalText.toList ++ ['f', ';'], ['\x7d']] := by
  have htest : IsLineOf ("  if (simd_lane < " ++ toString p.lanes ++ ") \x7b")
      ["if".toList, "(simd_lane".toList, ['<'], (toString p.lanes).toList ++ [')'],
        ['\x7b']] := by
    refine ⟨⟨[' ', ' '], by decide, ?_⟩, ?_⟩
    · simp [unwords_cons_cons, unwords_singleton]
    · simp only [areBare_cons, areBare_nil, and_true]
      exact ⟨.ofList (by decide), .ofList (by decide), by decide,
        .append_left (.toString _) (by decide), by decide⟩
  have hscale : IsLineOf ("    tg[simd_lane] *= " ++ p.scale.literalText ++ "f;")
      ["tg[simd_lane]".toList, "*=".toList, p.scale.literalText.toList ++ ['f', ';']] := by
    refine ⟨⟨List.replicate 4 ' ', by decide, ?_⟩, ?_⟩
    · simp [unwords_cons_cons, unwords_singleton]
    · simp only [areBare_cons, areBare_nil, and_true]
      exact ⟨.ofList (by decide), .ofList (by decide),
        .append_left (.literalText _) (by decide)⟩
  unfold body
  rw [htest.bodyWords_cons, hscale.bodyWords_cons]
  rfl

/-- A tile function's body says which lanes it takes and what its constant stands for. -/
theorem TileScaling.eq_of_body_eq {p q : TileScaling} (h : bodyWords p.body = bodyWords q.body) :
    p.lanes = q.lanes ∧ p.scale.exact = q.scale.exact := by
  rw [p.bodyWords_body, q.bodyWords_body] at h
  simp only [List.cons.injEq, true_and, and_true, List.append_left_inj] at h
  exact ⟨natText_inj (String.toList_inj.mp h.1),
    Single.exact_eq_of_literalText_eq (String.toList_inj.mp h.2)⟩

end KernelLink
