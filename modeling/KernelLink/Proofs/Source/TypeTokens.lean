import KernelLink.Proofs.Text.Blank
import KernelLink.Signature

/-!
# Types as tokens

A type's tokens say all there is about it. Blanks between them only keep words apart, and its one
spelling is written from the tokens alone. So two texts of the same tokens are the same type, the
one that a declaration was written from and the one that a scanner cut out of the text included.
-/

namespace KernelLink

/-! ## Cutting into tokens -/

theorem not_isPointerMark_of_isBlank {c : Char} (h : isBlank c) : isPointerMark c = false := by
  unfold isPointerMark
  by_cases hstar : c = '*'
  · subst hstar; revert h; decide
  · by_cases hamp : c = '&'
    · subst hamp; revert h; decide
    · simp [hstar, hamp]

theorem typeTokensFrom_append_blank {c : Char} (hc : isBlank c) (current s t : List Char) :
    typeTokensFrom current (s ++ c :: t) = typeTokensFrom current s ++ typeTokens t := by
  induction s generalizing current with
  | nil =>
    -- The blank ends the word that is kept, and what follows is cut as if it came first.
    rw [List.nil_append, typeTokensFrom, typeTokensFrom, not_isPointerMark_of_isBlank hc]
    simp only [hc, if_true, Bool.false_eq_true, if_false, typeTokens]
  | cons d s ih =>
    rw [List.cons_append, typeTokensFrom, typeTokensFrom]
    split
    · rw [ih, List.append_assoc, List.cons_append]
    · split
      · rw [ih, List.append_assoc]
      · exact ih _

/-- **Tokens are cut at every blank.** -/
theorem typeTokens_append_blank {c : Char} (hc : isBlank c) (s t : List Char) :
    typeTokens (s ++ c :: t) = typeTokens s ++ typeTokens t :=
  typeTokensFrom_append_blank hc [] s t

theorem typeTokens_cons_blank {c : Char} (hc : isBlank c) (s : List Char) :
    typeTokens (c :: s) = typeTokens s :=
  typeTokens_append_blank hc [] s

theorem typeTokens_blanks_append {blanks : List Char} (h : ∀ c ∈ blanks, isBlank c)
    (s : List Char) : typeTokens (blanks ++ s) = typeTokens s := by
  induction blanks with
  | nil => rfl
  | cons c blanks ih =>
    obtain ⟨hc, hblanks⟩ := List.forall_mem_cons.mp h
    rw [List.cons_append, typeTokens_cons_blank hc, ih hblanks]

theorem typeTokens_append_blanks {blanks : List Char} (h : ∀ c ∈ blanks, isBlank c)
    (s : List Char) : typeTokens (s ++ blanks) = typeTokens s := by
  cases blanks with
  | nil => rw [List.append_nil]
  | cons c blanks =>
    obtain ⟨hc, hblanks⟩ := List.forall_mem_cons.mp h
    have hnone : typeTokens blanks = [] := by
      have hb := typeTokens_blanks_append hblanks []
      rwa [List.append_nil] at hb
    rw [typeTokens_append_blank hc, hnone, List.append_nil]

theorem typeTokens_trimBlanks (s : List Char) : typeTokens (trimBlanks s) = typeTokens s := by
  obtain ⟨before, after, hbefore, hafter, hs⟩ := exists_trimWhile isBlank s
  have htokens := congrArg typeTokens hs
  rw [typeTokens_blanks_append hbefore, typeTokens_append_blanks hafter] at htokens
  exact htokens.symm

/-! ## What a token is -/

/-- A pointer mark on its own, or a run without blanks and marks. -/
inductive IsTypeToken : List Char → Prop where
  | mark {c} (h : isPointerMark c) : IsTypeToken [c]
  | word {w} (hne : w ≠ []) (h : ∀ c ∈ w, isPointerMark c = false ∧ isBlank c = false) :
      IsTypeToken w

/-- What is kept of a word that the text has not ended yet. -/
def IsPartialWord (w : List Char) : Prop := ∀ c ∈ w, isPointerMark c = false ∧ isBlank c = false

theorem IsPartialWord.nil : IsPartialWord [] := fun _ h => by cases h

theorem IsPartialWord.concat {w : List Char} {c : Char} (h : IsPartialWord w)
    (hmark : ¬ isPointerMark c) (hblank : ¬ isBlank c) : IsPartialWord (w ++ [c]) := by
  intro d hd
  rcases List.mem_append.mp hd with hd | hd
  · exact h d hd
  · rw [List.mem_singleton.mp hd]
    exact ⟨by simpa using hmark, by simpa using hblank⟩

theorem isTypeToken_of_flushed {current token : List Char} (h : IsPartialWord current)
    (ht : token ∈ if current.isEmpty then [] else [current]) : IsTypeToken token := by
  split at ht
  · cases ht
  · rename_i hne
    rw [List.mem_singleton.mp ht]
    exact .word (fun he => hne (List.isEmpty_iff.mpr he)) h

theorem isTypeToken_of_mem_from {current s token : List Char} (hcurrent : IsPartialWord current)
    (h : token ∈ typeTokensFrom current s) : IsTypeToken token := by
  -- What is kept of a word stays free of marks and blanks, whichever branch is taken.
  induction s generalizing current with
  | nil => exact isTypeToken_of_flushed hcurrent h
  | cons c s ih =>
    rw [typeTokensFrom] at h
    by_cases hmark : isPointerMark c
    · rw [if_pos hmark, List.mem_append, List.mem_cons] at h
      rcases h with h | rfl | h
      · exact isTypeToken_of_flushed hcurrent h
      · exact .mark hmark
      · exact ih .nil h
    · rw [if_neg hmark] at h
      by_cases hblank : isBlank c
      · rw [if_pos hblank, List.mem_append] at h
        rcases h with h | h
        · exact isTypeToken_of_flushed hcurrent h
        · exact ih .nil h
      · rw [if_neg hblank] at h
        exact ih (hcurrent.concat hmark hblank) h

theorem isTypeToken_of_mem {s token : List Char} (h : token ∈ typeTokens s) : IsTypeToken token :=
  isTypeToken_of_mem_from .nil h

/-- Only blanks are lost. -/
theorem exists_token_of_mem_from {current s : List Char} {c : Char} (hc : isBlank c = false)
    (h : c ∈ current ∨ c ∈ s) : ∃ token ∈ typeTokensFrom current s, c ∈ token := by
  -- A character stays in the current word until a mark, a blank or the end flushes it.
  have hflushed : ∀ w : List Char, c ∈ w → ∃ t ∈ (if w.isEmpty then [] else [w]), c ∈ t := by
    intro w hw
    rw [if_neg fun he => List.ne_nil_of_mem hw (List.isEmpty_iff.mp he)]
    exact ⟨w, List.mem_singleton_self w, hw⟩
  induction s generalizing current with
  | nil => exact hflushed current (h.resolve_right List.not_mem_nil)
  | cons d s ih =>
    rw [typeTokensFrom]
    rw [List.mem_cons] at h
    by_cases hmark : isPointerMark d
    · rw [if_pos hmark]
      rcases h with h | rfl | h
      · obtain ⟨t, ht, hct⟩ := hflushed current h
        exact ⟨t, List.mem_append_left _ ht, hct⟩
      · exact ⟨[c], List.mem_append_right _ List.mem_cons_self, List.mem_singleton_self c⟩
      · obtain ⟨t, ht, hct⟩ := @ih [] (.inr h)
        exact ⟨t, List.mem_append_right _ (List.mem_cons_of_mem _ ht), hct⟩
    · rw [if_neg hmark]
      by_cases hblank : isBlank d
      · rw [if_pos hblank]
        rcases h with h | rfl | h
        · obtain ⟨t, ht, hct⟩ := hflushed current h
          exact ⟨t, List.mem_append_left _ ht, hct⟩
        · rw [hc] at hblank; cases hblank
        · obtain ⟨t, ht, hct⟩ := @ih [] (.inr h)
          exact ⟨t, List.mem_append_right _ ht, hct⟩
      · rw [if_neg hblank]
        refine ih ?_
        rw [List.mem_append, List.mem_singleton]
        exact or_assoc.mpr h

theorem exists_token_of_mem {s : List Char} {c : Char} (hc : isBlank c = false) (h : c ∈ s) :
    ∃ token ∈ typeTokens s, c ∈ token :=
  exists_token_of_mem_from hc (.inr h)

/-! ## Writing tokens down -/

theorem typeTokensFrom_word {w : List Char} (h : IsPartialWord w) (current : List Char) :
    typeTokensFrom current w = if (current ++ w).isEmpty then [] else [current ++ w] := by
  induction w generalizing current with
  | nil => rw [List.append_nil]; rfl
  | cons c w ih =>
    obtain ⟨⟨hmark, hblank⟩, hw⟩ := List.forall_mem_cons.mp h
    rw [typeTokensFrom, hmark, hblank]
    simp only [Bool.false_eq_true, if_false]
    rw [ih hw, List.append_assoc, List.singleton_append]

theorem typeTokens_token {token : List Char} (h : IsTypeToken token) :
    typeTokens token = [token] := by
  cases h with
  | mark h =>
    unfold typeTokens
    rw [typeTokensFrom, if_pos h]
    rfl
  | word hne h =>
    have hw := typeTokensFrom_word h []
    rwa [List.nil_append, if_neg (fun he => hne (List.isEmpty_iff.mp he))] at hw

/-- Tokens with blanks between them are cut as they were. -/
theorem typeTokens_unwords {tokens : List (List Char)} (h : ∀ t ∈ tokens, IsTypeToken t) :
    typeTokens (unwords tokens) = tokens := by
  induction tokens with
  | nil => rfl
  | cons t tokens ih =>
    obtain ⟨ht, htokens⟩ := List.forall_mem_cons.mp h
    cases tokens with
    | nil =>
      rw [unwords_singleton, typeTokens_token ht]
    | cons u tokens =>
      have hcons : unwords (t :: u :: tokens) = t ++ ' ' :: unwords (u :: tokens) := rfl
      rw [hcons, typeTokens_append_blank (by decide), typeTokens_token ht, ih htokens]
      rfl

theorem normalizeType_unwords {tokens : List (List Char)} (h : ∀ t ∈ tokens, IsTypeToken t) :
    normalizeType (String.ofList (unwords tokens)) = String.ofList (spellTokens tokens) := by
  unfold normalizeType
  rw [String.toList_ofList, typeTokens_unwords h]

theorem mem_of_mem_dropParameterName {tokens : List (List Char)} {t : List Char}
    (h : t ∈ dropParameterName tokens) : t ∈ tokens := by
  unfold dropParameterName at h
  split at h
  · split at h
    · exact List.dropLast_subset _ h
    · exact h
  · exact h

/-- **A parameter's type depends on its tokens alone.** -/
theorem parameterType_eq (parameter : String) :
    parameterType parameter =
      String.ofList (spellTokens (dropParameterName (typeTokens parameter.toList))) :=
  normalizeType_unwords fun _ ht => isTypeToken_of_mem (mem_of_mem_dropParameterName ht)

/-! ## The one spelling -/

theorem typeTokensFrom_append_mark {m : Char} (hm : isPointerMark m) (current s t : List Char) :
    typeTokensFrom current (s ++ m :: t) = typeTokensFrom current s ++ [m] :: typeTokens t := by
  induction s generalizing current with
  | nil =>
    rw [List.nil_append, typeTokensFrom, typeTokensFrom, if_pos hm]
    rfl
  | cons d s ih =>
    rw [List.cons_append, typeTokensFrom, typeTokensFrom]
    split
    · rw [ih, List.append_assoc, List.cons_append]
    · split
      · rw [ih, List.append_assoc]
      · exact ih _

/-- Spelling one more token adds it to the tokens that are read back. -/
theorem typeTokens_spellToken {token : List Char} (h : IsTypeToken token) (spelled : List Char) :
    typeTokens (spellToken spelled token) = typeTokens spelled ++ [token] := by
  unfold spellToken
  split
  · rename_i hjoined
    rw [Bool.or_eq_true, List.isEmpty_iff] at hjoined
    rcases hjoined with hpointer | rfl
    · -- a mark cuts itself off from what stands before it
      unfold isPointerToken at hpointer
      rw [Bool.or_eq_true, decide_eq_true_eq, decide_eq_true_eq] at hpointer
      rcases hpointer with rfl | rfl <;> exact typeTokensFrom_append_mark rfl [] spelled []
    · rw [List.nil_append, typeTokens_token h]
      rfl
  · rw [typeTokens_append_blank (by decide), typeTokens_token h]

/-- **Spelled tokens are read back as they were.** -/
theorem typeTokens_spellTokens {tokens : List (List Char)} (h : ∀ t ∈ tokens, IsTypeToken t) :
    typeTokens (spellTokens tokens) = tokens := by
  have hfold : ∀ spelled, typeTokens (tokens.foldl spellToken spelled) =
      typeTokens spelled ++ tokens := by
    induction tokens with
    | nil => exact fun spelled => (List.append_nil _).symm
    | cons token tokens ih =>
      obtain ⟨htoken, htokens⟩ := List.forall_mem_cons.mp h
      intro spelled
      rw [List.foldl_cons, ih htokens, typeTokens_spellToken htoken, List.append_assoc]
      rfl
  exact hfold []

/-- What is spelled from tokens is spelled in the one way. -/
theorem normalizeType_spellTokens {tokens : List (List Char)} (h : ∀ t ∈ tokens, IsTypeToken t) :
    normalizeType (String.ofList (spellTokens tokens)) = String.ofList (spellTokens tokens) := by
  unfold normalizeType
  rw [String.toList_ofList, typeTokens_spellTokens h]

theorem normalizeType_normalizeType (type : String) :
    normalizeType (normalizeType type) = normalizeType type :=
  normalizeType_spellTokens fun _ ht => isTypeToken_of_mem ht

theorem normalizeType_parameterType (parameter : String) :
    normalizeType (parameterType parameter) = parameterType parameter := by
  rw [parameterType_eq]
  exact normalizeType_spellTokens fun _ ht => isTypeToken_of_mem (mem_of_mem_dropParameterName ht)

/-- A type with something in it has a spelling. -/
theorem normalizeType_ne_empty {type : String} {c : Char} (hc : isBlank c = false)
    (h : c ∈ type.toList) : normalizeType type ≠ "" := by
  intro hempty
  obtain ⟨token, htoken, -⟩ := exists_token_of_mem hc h
  have hback := typeTokens_spellTokens fun t ht => isTypeToken_of_mem (s := type.toList) ht
  have hspelled := congrArg String.toList hempty
  unfold normalizeType at hspelled
  rw [String.toList_ofList] at hspelled
  rw [hspelled] at hback
  rw [← hback] at htoken
  cases htoken

/-! ## Declared types -/

/-- A type as declarations write it: qualifiers, the type itself, then pointer marks. -/
def IsDeclaredType (type : String) : Prop :=
  ∃ qualifiers word marks, typeTokens type.toList = qualifiers ++ word :: marks ∧
    (∀ q ∈ qualifiers, String.ofList q ∈ typeQualifiers) ∧ isTypeWord word ∧
    ∀ m ∈ marks, isPointerToken m

theorem isIdentifier_of_isTypeWord {w : List Char} (h : isTypeWord w) : isIdentifier w := by
  unfold isTypeWord at h
  exact (Bool.and_eq_true _ _ ▸ h).1

theorem not_isTypeWord_of_qualifier {q : List Char} (h : String.ofList q ∈ typeQualifiers) :
    isTypeWord q = false := by
  unfold isTypeWord
  rw [List.contains_iff_mem.mpr h, Bool.not_true, Bool.and_false]

theorem isWordChar_of_isAlpha {c : Char} (h : c.isAlpha || c = '_') : isWordChar c := by
  unfold isWordChar Char.isAlphanum
  rw [Bool.or_eq_true] at h ⊢
  exact h.imp_left fun hc => by rw [hc, Bool.true_or]

theorem toNat_lt_of_isWordChar {c : Char} (h : isWordChar c) : c.toNat < 128 := by
  unfold isWordChar at h
  delta Char.isAlphanum Char.isAlpha Char.isUpper Char.isLower Char.isDigit at h
  simp only [Bool.or_eq_true, Bool.and_eq_true, decide_eq_true_eq, ge_iff_le,
    UInt32.le_iff_toNat_le] at h
  rcases h with ((⟨-, h⟩ | ⟨-, h⟩) | ⟨-, h⟩) | rfl
  · exact Nat.lt_of_le_of_lt h (by decide)
  · exact Nat.lt_of_le_of_lt h (by decide)
  · exact Nat.lt_of_le_of_lt h (by decide)
  · decide

/-- Word characters neither end words nor are marks. -/
theorem isWordChar_apart {c : Char} (h : isWordChar c) :
    isPointerMark c = false ∧ isBlank c = false := by
  have hall : ∀ n < 128, isWordChar (Char.ofNat n) →
      isPointerMark (Char.ofNat n) = false ∧ isBlank (Char.ofNat n) = false := by
    decide
  have hc := hall c.toNat (toNat_lt_of_isWordChar h)
  rw [Char.ofNat_toNat] at hc
  exact hc h

theorem isIdentifier.ne_nil {w : List Char} (h : isIdentifier w) : w ≠ [] := by
  rintro rfl
  cases h

theorem isWordChar_of_mem_identifier {w : List Char} (h : isIdentifier w) :
    ∀ c ∈ w, isWordChar c := by
  cases w with
  | nil => cases h
  | cons c w =>
    rw [isIdentifier, Bool.and_eq_true, List.all_eq_true] at h
    exact List.forall_mem_cons.mpr ⟨isWordChar_of_isAlpha h.1, h.2⟩

theorem isTypeToken_of_isIdentifier {w : List Char} (h : isIdentifier w) : IsTypeToken w :=
  .word (isIdentifier.ne_nil h) fun c hc => isWordChar_apart (isWordChar_of_mem_identifier h c hc)

/-- A name behind a type is one more token. -/
theorem typeTokens_named (type : List Char) {name : List Char} (h : isIdentifier name) :
    typeTokens (type ++ ' ' :: name) = typeTokens type ++ [name] := by
  rw [typeTokens_append_blank (by decide), typeTokens_token (isTypeToken_of_isIdentifier h)]

theorem not_isIdentifier_of_isPointerToken {m : List Char} (h : isPointerToken m) :
    isIdentifier m = false := by
  unfold isPointerToken at h
  rw [Bool.or_eq_true, decide_eq_true_eq, decide_eq_true_eq] at h
  rcases h with rfl | rfl <;> rfl

/-- The last token is no name: it is a mark, or no type word stands before it. -/
def KeepsLastToken (type : String) : Prop :=
  ∃ front last, typeTokens type.toList = front ++ [last] ∧
    (isPointerToken last ∨ ∀ t ∈ front, isTypeWord t = false)

theorem dropParameterName_concat (front : List (List Char)) (last : List Char) :
    dropParameterName (front ++ [last]) =
      if isIdentifier last && front.any isTypeWord then front else front ++ [last] := by
  unfold dropParameterName
  rw [List.getLast?_concat, List.dropLast_concat]

/-- A type without its last token is spelled otherwise. -/
theorem spellTokens_concat_ne {front : List (List Char)} {last : List Char} (h : last ≠ []) :
    spellTokens (front ++ [last]) ≠ spellTokens front := by
  have hconcat : spellTokens (front ++ [last]) = spellToken (spellTokens front) last := by
    unfold spellTokens
    rw [List.foldl_append]
    rfl
  have hlast : 0 < last.length := List.length_pos_iff.mpr h
  intro heq
  have hlength := congrArg List.length (hconcat.symm.trans heq)
  unfold spellToken at hlength
  split at hlength
  · rw [List.length_append] at hlength; omega
  · rw [List.length_append, List.length_cons] at hlength; omega

/-- A type of words with pointer marks behind them, one of the words a type by itself. -/
structure IsWordType (type : String) : Prop where
  tokens : ∀ t ∈ typeTokens type.toList, isIdentifier t ∨ isPointerToken t
  first : ∃ w rest, typeTokens type.toList = w :: rest ∧ isIdentifier w
  typed : ∃ w ∈ typeTokens type.toList, isTypeWord w

namespace IsWordType

variable {type : String}

theorem tokens_ne_nil (h : IsWordType type) : typeTokens type.toList ≠ [] := by
  obtain ⟨w, rest, htokens, -⟩ := h.first
  rw [htokens]
  exact List.cons_ne_nil w rest

/-- A type has letters, digits, underscores, marks and blanks. -/
theorem not_mem (h : IsWordType type) {c : Char} (hblank : isBlank c = false)
    (hmark : isPointerMark c = false) (hword : isWordChar c = false) : c ∉ type.toList := by
  intro hc
  obtain ⟨token, ht, hct⟩ := exists_token_of_mem hblank hc
  rcases h.tokens token ht with hidentifier | hpointer
  · have hc := isWordChar_of_mem_identifier hidentifier c hct
    rw [hword] at hc
    cases hc
  · unfold isPointerToken at hpointer
    rw [Bool.or_eq_true, decide_eq_true_eq, decide_eq_true_eq] at hpointer
    unfold isPointerMark at hmark
    rw [Bool.or_eq_false_iff, decide_eq_false_iff_not, decide_eq_false_iff_not] at hmark
    rcases hpointer with rfl | rfl
    · exact hmark.1 (List.mem_singleton.mp hct)
    · exact hmark.2 (List.mem_singleton.mp hct)

/-- A name behind a type is dropped. -/
theorem dropParameterName_named (h : IsWordType type) {name : List Char}
    (hname : isIdentifier name) :
    dropParameterName (typeTokens type.toList ++ [name]) = typeTokens type.toList := by
  obtain ⟨word, hmem, hw⟩ := h.typed
  have hany : (typeTokens type.toList).any isTypeWord := List.any_eq_true.mpr ⟨word, hmem, hw⟩
  rw [dropParameterName_concat, hname, hany, Bool.and_self, if_pos rfl]

/-- A type read with a name behind it is its one spelling. -/
theorem parameterType_named (h : IsWordType type) {name : List Char} (hname : isIdentifier name)
    {parameter : String}
    (hp : typeTokens parameter.toList = typeTokens type.toList ++ [name]) :
    parameterType parameter = normalizeType type := by
  rw [parameterType_eq, hp, h.dropParameterName_named hname]
  rfl

/-- **Which types are read back without a name behind them.** -/
theorem parameterType_eq_iff (h : IsWordType type) :
    parameterType type = normalizeType type ↔ KeepsLastToken type := by
  unfold KeepsLastToken
  obtain ⟨front, last, htokens⟩ := (List.eq_nil_or_concat _).resolve_left h.tokens_ne_nil
  rw [List.concat_eq_append] at htokens
  have hlast := h.tokens last (by rw [htokens]; simp)
  rw [parameterType_eq, normalizeType, htokens, dropParameterName_concat, String.ofList_inj]
  constructor
  · intro heq
    refine ⟨front, last, rfl, ?_⟩
    by_cases hmark : isPointerToken last
    · exact .inl hmark
    · -- the word is dropped unless nothing before it is a type
      have hword : isIdentifier last := hlast.resolve_right hmark
      by_cases hany : front.any isTypeWord
      · rw [hword, hany, Bool.and_self, if_pos rfl] at heq
        exact absurd heq.symm (spellTokens_concat_ne (isIdentifier.ne_nil hword))
      · exact .inr (by simpa using hany)
  · rintro ⟨front', last', heq, hkeeps⟩
    obtain ⟨rfl, rfl⟩ := List.concat_inj.mp (by simpa using heq)
    rcases hkeeps with hmark | hnone
    · rw [not_isIdentifier_of_isPointerToken hmark, Bool.false_and, if_neg Bool.false_ne_true]
    · rw [List.any_eq_false.mpr fun t ht => by rw [hnone t ht]; exact Bool.false_ne_true,
        Bool.and_false, if_neg Bool.false_ne_true]

end IsWordType

namespace IsDeclaredType

variable {type : String}

theorem isIdentifier_of_qualifier {q : List Char} (h : String.ofList q ∈ typeQualifiers) :
    isIdentifier q := by
  have hall : typeQualifiers.all fun q => isIdentifier q.toList := by decide
  have hq := List.all_eq_true.mp hall _ h
  rwa [String.toList_ofList] at hq

theorem isWordType (h : IsDeclaredType type) : IsWordType type := by
  obtain ⟨qualifiers, word, marks, htokens, hq, hw, hm⟩ := h
  have hword := isIdentifier_of_isTypeWord hw
  refine ⟨?_, ?_, ?_⟩
  · intro t ht
    rw [htokens, List.mem_append, List.mem_cons] at ht
    rcases ht with ht | rfl | ht
    · exact .inl (isIdentifier_of_qualifier (hq t ht))
    · exact .inl hword
    · exact .inr (hm t ht)
  · cases qualifiers with
    | nil => exact ⟨word, marks, htokens, hword⟩
    | cons q qualifiers =>
      exact ⟨q, _, htokens, isIdentifier_of_qualifier (hq q List.mem_cons_self)⟩
  · exact ⟨word, by rw [htokens]; simp, hw⟩

theorem keepsLastToken (h : IsDeclaredType type) : KeepsLastToken type := by
  obtain ⟨qualifiers, word, marks, htokens, hq, -, hm⟩ := h
  rcases List.eq_nil_or_concat marks with rfl | ⟨marks, m, rfl⟩
  · -- the type is the last word, but qualifiers alone are no type that it could name
    exact ⟨qualifiers, word, htokens, .inr fun q hmem => not_isTypeWord_of_qualifier (hq q hmem)⟩
  · rw [List.concat_eq_append] at htokens hm
    exact ⟨qualifiers ++ word :: marks, m, by rw [htokens, List.append_assoc, List.cons_append],
      .inl (hm m (List.mem_append_right _ (List.mem_singleton_self m)))⟩

end IsDeclaredType

end KernelLink
