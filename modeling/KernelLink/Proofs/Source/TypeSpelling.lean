import KernelLink.Proofs.Source.TypeTokens

/-!
# One spelling for each type

Blanks around the tokens of a type may come and go, as long as two words are not run together. Texts
that differ in nothing else have the same tokens, texts of the same tokens differ in nothing else,
and the normal form tells texts of other tokens apart. So comparing normal forms compares types.
-/

namespace KernelLink

/-! ## Where tokens are cut -/

/-- A character that no word runs across. -/
def IsBreak (c : Char) : Prop := isPointerMark c ∨ isBlank c

theorem typeTokens_blank {c : Char} (hc : isBlank c) : typeTokens [c] = [] :=
  typeTokens_append_blank hc [] []

/-- A break may be cut off on both sides. -/
theorem typeTokens_append_break {c : Char} (hc : IsBreak c) (s t : List Char) :
    typeTokens (s ++ c :: t) = typeTokens s ++ (typeTokens [c] ++ typeTokens t) := by
  rcases hc with hmark | hblank
  · rw [typeTokens_token (.mark hmark)]
    exact typeTokensFrom_append_mark hmark [] s t
  · rw [typeTokens_append_blank hblank, typeTokens_blank hblank, List.nil_append]

/-- No word runs from one text into the other. -/
def Cut (s t : List Char) : Prop := (∀ c ∈ s.getLast?, IsBreak c) ∨ ∀ c ∈ t.head?, IsBreak c

/-- What stands in front of a break does not matter behind it. -/
theorem Cut.behind {u v : List Char} (h : Cut u v) (s : List Char) {c : Char} (hc : IsBreak c) :
    Cut (s ++ c :: u) v := by
  refine h.imp_left fun hlast => ?_
  rcases List.eq_nil_or_concat u with rfl | ⟨front, d, rfl⟩
  · rw [List.getLast?_concat]
    rintro d ⟨⟩
    exact hc
  · rw [List.concat_eq_append] at hlast ⊢
    rw [List.getLast?_concat] at hlast
    rwa [← List.cons_append, ← List.append_assoc, List.getLast?_concat]

/-- **Tokens are cut wherever no word runs on.** -/
theorem Cut.typeTokens_append {s t : List Char} (h : Cut s t) :
    typeTokens (s ++ t) = typeTokens s ++ typeTokens t := by
  rcases h with hlast | hhead
  · rcases List.eq_nil_or_concat s with rfl | ⟨front, c, rfl⟩
    · rfl
    · rw [List.concat_eq_append] at hlast ⊢
      have hc : IsBreak c := hlast c (by rw [List.getLast?_concat]; rfl)
      have hfront : typeTokens (front ++ [c]) = typeTokens front ++ typeTokens [c] := by
        rw [typeTokens_append_break hc, show typeTokens [] = [] from rfl, List.append_nil]
      rw [List.append_assoc, List.singleton_append, typeTokens_append_break hc, hfront,
        List.append_assoc]
  · cases t with
    | nil => rw [List.append_nil, show typeTokens [] = [] from rfl, List.append_nil]
    | cons c t =>
      have hc : IsBreak c := hhead c rfl
      have ht : typeTokens (c :: t) = typeTokens [c] ++ typeTokens t :=
        typeTokens_append_break hc [] t
      rw [typeTokens_append_break hc, ht]

/-! ## The grammar of tokens -/

/-- The tokens that stand in a text, blanks around them aside. -/
inductive HasTokens : List Char → List (List Char) → Prop where
  | nil : HasTokens [] []
  | blank {c s tokens} (hc : isBlank c) (h : HasTokens s tokens) : HasTokens (c :: s) tokens
  | token {t s tokens} (ht : IsTypeToken t) (hcut : Cut t s) (h : HasTokens s tokens) :
      HasTokens (t ++ s) (t :: tokens)

theorem HasTokens.typeTokens_eq {s : List Char} {tokens : List (List Char)}
    (h : HasTokens s tokens) : typeTokens s = tokens := by
  induction h with
  | nil => rfl
  | blank hc _ ih => rw [typeTokens_cons_blank hc, ih]
  | token ht hcut _ ih =>
    rw [hcut.typeTokens_append, typeTokens_token ht, ih]
    rfl

/-- What is kept of a word is the word, where the text breaks. -/
theorem HasTokens.flush {current s : List Char} {tokens : List (List Char)}
    (hcurrent : IsPartialWord current) (hs : ∀ c ∈ s.head?, IsBreak c) (h : HasTokens s tokens) :
    HasTokens (current ++ s) ((if current.isEmpty then [] else [current]) ++ tokens) := by
  cases current with
  | nil => exact h
  | cons c current => exact .token (.word (List.cons_ne_nil c current) hcurrent) (.inr hs) h

/-- Cutting finds the tokens that stand in a text. -/
theorem hasTokens_typeTokensFrom {current : List Char} (hcurrent : IsPartialWord current)
    (s : List Char) : HasTokens (current ++ s) (typeTokensFrom current s) := by
  -- What is kept of a word stands in front of what is left of the text.
  induction s generalizing current with
  | nil =>
    have h := HasTokens.nil.flush hcurrent (fun _ hc => by cases hc)
    rw [List.append_nil, List.append_nil] at h
    rwa [List.append_nil]
  | cons c s ih =>
    have hrest : HasTokens s (typeTokensFrom [] s) := ih .nil
    have hbreak (hc : IsBreak c) : ∀ d ∈ (c :: s).head?, IsBreak d := by
      rintro d ⟨⟩
      exact hc
    rw [typeTokensFrom]
    by_cases hmark : isPointerMark c
    · rw [if_pos hmark]
      have htoken : HasTokens (c :: s) ([c] :: typeTokensFrom [] s) :=
        .token (.mark hmark) (.inl (by rintro d ⟨⟩; exact .inl hmark)) hrest
      exact htoken.flush hcurrent (hbreak (.inl hmark))
    · rw [if_neg hmark]
      by_cases hblank : isBlank c
      · rw [if_pos hblank]
        exact (hrest.blank hblank).flush hcurrent (hbreak (.inr hblank))
      · rw [if_neg hblank]
        have h := ih (hcurrent.concat hmark hblank)
        rwa [List.append_assoc, List.singleton_append] at h

theorem typeTokens_eq_iff {s : List Char} {tokens : List (List Char)} :
    typeTokens s = tokens ↔ HasTokens s tokens := by
  constructor
  · rintro rfl
    exact hasTokens_typeTokensFrom .nil s
  · exact HasTokens.typeTokens_eq

/-! ## Blanks that come and go -/

/-- Blanks that may stand between two texts. There may be none where no word runs on. -/
structure Gap (s t gap : List Char) : Prop where
  blank : ∀ c ∈ gap, isBlank c
  cut : gap = [] → Cut s t

theorem Gap.typeTokens_append {s t gap : List Char} (h : Gap s t gap) :
    typeTokens (s ++ (gap ++ t)) = typeTokens s ++ typeTokens t := by
  cases gap with
  | nil => exact (h.cut rfl).typeTokens_append
  | cons c gap =>
    obtain ⟨hc, hgap⟩ := List.forall_mem_cons.mp h.blank
    rw [List.cons_append, typeTokens_append_blank hc, typeTokens_blanks_append hgap]

/-- Texts that differ in the blanks around their tokens. -/
inductive Respaced : List Char → List Char → Prop where
  | gap {s t gap gap'} (h : Gap s t gap) (h' : Gap s t gap') :
      Respaced (s ++ (gap ++ t)) (s ++ (gap' ++ t))
  | trans {a b c} (h : Respaced a b) (h' : Respaced b c) : Respaced a c

namespace Respaced

variable {a b : List Char}

theorem refl (a : List Char) : Respaced a a := by
  have h : Gap a [] [] := ⟨nofun, fun _ => .inr nofun⟩
  have hsame := Respaced.gap h h
  rwa [List.append_nil, List.append_nil] at hsame

theorem symm (h : Respaced a b) : Respaced b a := by
  induction h with
  | gap h h' => exact .gap h' h
  | trans _ _ ih ih' => exact ih'.trans ih

theorem typeTokens_eq (h : Respaced a b) : typeTokens a = typeTokens b := by
  induction h with
  | gap h h' => rw [h.typeTokens_append, h'.typeTokens_append]
  | trans _ _ ih ih' => exact ih.trans ih'

/-- Nothing runs into a text from in front of a break. -/
theorem behind (h : Respaced a b) (s : List Char) {c : Char} (hc : IsBreak c) :
    Respaced (s ++ c :: a) (s ++ c :: b) := by
  have hgap {u v gap : List Char} (h : Gap u v gap) : Gap (s ++ c :: u) v gap :=
    ⟨h.blank, fun hnil => (h.cut hnil).behind s hc⟩
  induction h with
  | gap h h' =>
    -- what stands in front of the gap grows, and the gap is as good as it was
    have hbehind := Respaced.gap (hgap h) (hgap h')
    rwa [List.append_assoc, List.append_assoc, List.cons_append, List.cons_append] at hbehind
  | trans _ _ ih ih' => exact ih.trans ih'

end Respaced

/-- Every text can be respaced to its tokens with one space behind each. -/
theorem HasTokens.respaced {s : List Char} {tokens : List (List Char)} (h : HasTokens s tokens) :
    Respaced s (tokens.flatMap (· ++ [' '])) := by
  induction h with
  | nil => exact .refl []
  | @blank c s tokens hc h ih =>
    have hone : Gap [] s [c] := ⟨List.forall_mem_singleton.mpr hc, nofun⟩
    have hnone : Gap [] s [] := ⟨nofun, fun _ => .inl nofun⟩
    exact (Respaced.gap hone hnone).trans ih
  | @token t s tokens ht hcut h ih =>
    have hnone : Gap t s [] := ⟨nofun, fun _ => hcut⟩
    have hone : Gap t s [' '] := ⟨List.forall_mem_singleton.mpr (by decide), nofun⟩
    -- first a space behind the token, then whatever changes behind that space
    have hspace : Respaced (t ++ s) (t ++ ' ' :: s) := .gap hnone hone
    have hrest := ih.behind t (.inr (by decide : isBlank ' '))
    rw [List.flatMap_cons, List.append_assoc]
    exact hspace.trans hrest

/-- **Texts of the same tokens differ in blanks alone.** -/
theorem typeTokens_eq_typeTokens_iff {a b : List Char} :
    typeTokens a = typeTokens b ↔ Respaced a b := by
  constructor
  · -- both can be respaced to what the tokens make with a space behind each
    intro h
    have ha := (typeTokens_eq_iff.mp h).respaced
    have hb := (typeTokens_eq_iff.mp (rfl : typeTokens b = _)).respaced
    exact ha.trans hb.symm
  · exact Respaced.typeTokens_eq

/-! ## The normal form -/

theorem typeTokens_normalizeType (type : String) :
    typeTokens (normalizeType type).toList = typeTokens type.toList := by
  unfold normalizeType
  rw [String.toList_ofList, typeTokens_spellTokens fun _ ht => isTypeToken_of_mem ht]

theorem normalizeType_eq_iff {a b : String} :
    normalizeType a = normalizeType b ↔ typeTokens a.toList = typeTokens b.toList := by
  constructor
  · intro h
    rw [← typeTokens_normalizeType a, h, typeTokens_normalizeType]
  · intro h
    unfold normalizeType
    rw [h]

/-- **The normal form is canonical.** It is the same for texts of the same tokens and for no others,
which are the texts that differ in the blanks around their tokens; and it has those tokens itself,
so it is its own normal form. -/
theorem normalizeType_canonical (a b : String) :
    (normalizeType a = normalizeType b ↔ typeTokens a.toList = typeTokens b.toList) ∧
    (normalizeType a = normalizeType b ↔ Respaced a.toList b.toList) ∧
    (∀ tokens, typeTokens a.toList = tokens ↔ HasTokens a.toList tokens) ∧
    typeTokens (normalizeType a).toList = typeTokens a.toList ∧
    normalizeType (normalizeType a) = normalizeType a := by
  refine ⟨normalizeType_eq_iff, ?_, fun _ => typeTokens_eq_iff, typeTokens_normalizeType a,
    normalizeType_normalizeType a⟩
  rw [normalizeType_eq_iff, typeTokens_eq_typeTokens_iff]

example : normalizeType "\tdevice  float *\u00a0&" = "device float*&" := by decide

end KernelLink
