import KernelLink.Text.Blank

/-!
# Blanks around and between words

Splitting into words starts afresh at every blank, whatever stood before it. Everything about
`words` follows from that one equation. Trimming takes a run off each end and nothing else, so
whatever starts afresh at blanks does not see it.
-/

namespace KernelLink

/-! ## Words -/

theorem wordsFrom_append_blank {c : Char} (hc : isBlank c) (current s t : List Char) :
    wordsFrom current (s ++ c :: t) = wordsFrom current s ++ words t := by
  induction s generalizing current with
  | nil =>
    rw [List.nil_append, wordsFrom, wordsFrom, if_pos hc]
    cases current <;> rfl
  | cons d s ih =>
    rw [List.cons_append, wordsFrom, wordsFrom]
    split
    · split
      · exact ih []
      · rw [ih [], List.cons_append]
    · exact ih _

/-- **Words split at a blank.** -/
theorem words_append_blank {c : Char} (hc : isBlank c) (s t : List Char) :
    words (s ++ c :: t) = words s ++ words t :=
  wordsFrom_append_blank hc [] s t

theorem words_cons_blank {c : Char} (hc : isBlank c) (s : List Char) : words (c :: s) = words s :=
  words_append_blank hc [] s

theorem words_concat_blank {c : Char} (hc : isBlank c) (s : List Char) :
    words (s ++ [c]) = words s := by
  rw [words_append_blank hc, show words [] = [] from rfl, List.append_nil]

/-- A run without blanks. -/
structure IsWord (w : List Char) : Prop where
  ne_nil : w ≠ []
  solid : ∀ c ∈ w, isBlank c = false

theorem isWord_of_mem_from {current s w : List Char} (hcurrent : ∀ c ∈ current, isBlank c = false)
    (h : w ∈ wordsFrom current s) : IsWord w := by
  induction s generalizing current with
  | nil =>
    rw [wordsFrom] at h
    split at h
    · cases h
    · rename_i hne
      rw [List.mem_singleton.mp h]
      exact ⟨fun hnil => hne (List.isEmpty_iff.mpr hnil), hcurrent⟩
  | cons c s ih =>
    rw [wordsFrom] at h
    split at h
    · split at h
      · exact ih (fun _ hd => by cases hd) h
      · rename_i hne
        rcases List.mem_cons.mp h with rfl | h
        · exact ⟨fun hnil => hne (List.isEmpty_iff.mpr hnil), hcurrent⟩
        · exact ih (fun _ hd => by cases hd) h
    · rename_i hblank
      refine ih (fun d hd => ?_) h
      rcases List.mem_append.mp hd with hd | hd
      · exact hcurrent d hd
      · rw [List.mem_singleton.mp hd]
        simpa using hblank

theorem isWord_of_mem_words {s w : List Char} (h : w ∈ words s) : IsWord w :=
  isWord_of_mem_from (fun _ hd => by cases hd) h

theorem wordsFrom_solid {w : List Char} (h : ∀ c ∈ w, isBlank c = false) (current : List Char) :
    wordsFrom current w = if (current ++ w).isEmpty then [] else [current ++ w] := by
  induction w generalizing current with
  | nil => rw [List.append_nil]; rfl
  | cons c w ih =>
    obtain ⟨hc, hw⟩ := List.forall_mem_cons.mp h
    rw [wordsFrom, hc, if_neg Bool.false_ne_true, ih hw, List.append_assoc, List.singleton_append]

theorem unwords_singleton (w : List Char) : unwords [w] = w := List.append_nil w

theorem words_word {w : List Char} (h : IsWord w) : words w = [w] := by
  unfold words
  rw [wordsFrom_solid h.solid, List.nil_append,
    if_neg fun he => h.ne_nil (List.isEmpty_iff.mp he)]

/-- Words with single spaces between them are the words that they were. -/
theorem words_unwords {ws : List (List Char)} (h : ∀ w ∈ ws, IsWord w) :
    words (unwords ws) = ws := by
  induction ws with
  | nil => rfl
  | cons w ws ih =>
    obtain ⟨hw, hws⟩ := List.forall_mem_cons.mp h
    cases ws with
    | nil =>
      rw [unwords_singleton, words_word hw]
    | cons v ws =>
      have hcons : unwords (w :: v :: ws) = w ++ ' ' :: unwords (v :: ws) := rfl
      rw [hcons, words_append_blank (by decide), words_word hw, ih hws]
      rfl

/-! ## Trimming -/

section

variable {p : Char → Bool} {s t : List Char} {c : Char}

/-- Dropping stops at something that it keeps. -/
theorem not_of_dropWhile_eq_cons (h : s.dropWhile p = c :: t) : p c = false := by
  have hhead := List.head_dropWhile_not p (l := s) (by rw [h]; exact List.cons_ne_nil c t)
  simpa only [h, List.head_cons] using hhead

theorem dropEndWhile_cons (p : Char → Bool) (c : Char) (s : List Char) : dropEndWhile p (c :: s) =
    if (dropEndWhile p s).isEmpty && p c then [] else c :: dropEndWhile p s := rfl

/-- What is dropped is a run. -/
theorem exists_dropEndWhile (p : Char → Bool) (s : List Char) :
    ∃ after, (∀ c ∈ after, p c) ∧ s = dropEndWhile p s ++ after := by
  induction s with
  | nil => exact ⟨[], fun _ h => (by cases h), rfl⟩
  | cons c s ih =>
    obtain ⟨after, hafter, hs⟩ := ih
    rw [dropEndWhile_cons]
    split
    · -- nothing was kept behind `c`, so `c` joins the run
      rename_i hdrop
      rw [Bool.and_eq_true, List.isEmpty_iff] at hdrop
      rw [hdrop.1, List.nil_append] at hs
      exact ⟨c :: s, List.forall_mem_cons.mpr ⟨hdrop.2, hs ▸ hafter⟩, rfl⟩
    · exact ⟨after, hafter, by rw [List.cons_append, ← hs]⟩

theorem dropEndWhile_append_keep (hc : p c = false) (s t : List Char) :
    dropEndWhile p (s ++ c :: t) = s ++ c :: dropEndWhile p t := by
  induction s with
  | nil => rw [List.nil_append, dropEndWhile_cons, hc, Bool.and_false]; rfl
  | cons d s ih =>
    rw [List.cons_append, dropEndWhile_cons, ih]
    cases s <;> rfl

/-- A text that starts and ends with something that trimming keeps. -/
structure Trimmed (p : Char → Bool) (s : List Char) : Prop where
  head : ∃ c rest, s = c :: rest ∧ p c = false
  last : ∃ front c, s = front ++ [c] ∧ p c = false

theorem Trimmed.ne_nil (h : Trimmed p s) : s ≠ [] := by
  obtain ⟨c, rest, rfl, -⟩ := h.head
  exact List.cons_ne_nil c rest

/-- Only the ends matter. -/
theorem Trimmed.append (hs : Trimmed p s) (ht : Trimmed p t) (between : List Char) :
    Trimmed p (s ++ (between ++ t)) := by
  obtain ⟨c, rest, rfl, hc⟩ := hs.head
  obtain ⟨front, d, rfl, hd⟩ := ht.last
  exact ⟨⟨c, _, List.cons_append, hc⟩, ⟨c :: rest ++ (between ++ front), d, by simp, hd⟩⟩

theorem Trimmed.of_forall (hs : s ≠ []) (h : ∀ c ∈ s, p c = false) : Trimmed p s := by
  refine ⟨?_, s.dropLast, s.getLast hs, (List.dropLast_concat_getLast hs).symm,
    h _ (List.getLast_mem hs)⟩
  cases s with
  | nil => exact absurd rfl hs
  | cons c rest => exact ⟨c, rest, rfl, h c List.mem_cons_self⟩

theorem Trimmed.trimWhile_eq (h : Trimmed p s) : trimWhile p s = s := by
  obtain ⟨c, rest, hcs, hc⟩ := h.head
  obtain ⟨front, d, hds, hd⟩ := h.last
  have hdrop : s.dropWhile p = s := by
    rw [hcs, List.dropWhile_cons_of_neg (by rw [hc]; exact Bool.false_ne_true)]
  unfold trimWhile
  rw [hdrop, hds, dropEndWhile_append_keep hd]
  rfl

theorem dropEndWhile_run (h : ∀ c ∈ s, p c) : dropEndWhile p s = [] := by
  induction s with
  | nil => rfl
  | cons c s ih =>
    obtain ⟨hc, hs⟩ := List.forall_mem_cons.mp h
    rw [dropEndWhile_cons, ih hs, hc]
    rfl

/-- Runs around a text are all that is taken off. -/
theorem Trimmed.trimWhile_append (h : Trimmed p s) {before after : List Char}
    (hbefore : ∀ c ∈ before, p c) (hafter : ∀ c ∈ after, p c) :
    trimWhile p (before ++ (s ++ after)) = s := by
  obtain ⟨c, rest, hcs, hc⟩ := h.head
  obtain ⟨front, d, hds, hd⟩ := h.last
  have hdrop : (before ++ (s ++ after)).dropWhile p = s ++ after := by
    rw [List.dropWhile_append_of_pos hbefore, hcs, List.cons_append,
      List.dropWhile_cons_of_neg (by rw [hc]; exact Bool.false_ne_true)]
  unfold trimWhile
  rw [hdrop, hds, List.append_assoc, List.singleton_append, dropEndWhile_append_keep hd,
    dropEndWhile_run hafter]

/-- A run is taken off each end. -/
theorem exists_trimWhile (p : Char → Bool) (s : List Char) :
    ∃ before after, (∀ c ∈ before, p c) ∧ (∀ c ∈ after, p c) ∧
      s = before ++ (trimWhile p s ++ after) := by
  obtain ⟨after, hafter, hs⟩ := exists_dropEndWhile p (s.dropWhile p)
  refine ⟨s.takeWhile p, after, List.all_eq_true.mp List.all_takeWhile, hafter, ?_⟩
  unfold trimWhile
  rw [← hs, List.takeWhile_append_dropWhile]

/-- What is left after dropping ends with something kept. -/
theorem dropEndWhile_last (p : Char → Bool) (s : List Char) :
    dropEndWhile p s = [] ∨ ∃ front c, dropEndWhile p s = front ++ [c] ∧ p c = false := by
  induction s with
  | nil => exact .inl rfl
  | cons c s ih =>
    rw [dropEndWhile_cons]
    split
    · exact .inl rfl
    · -- `c` is kept for its own sake, or for what is kept behind it
      rename_i hkeep
      rcases ih with hs | ⟨front, d, hs, hd⟩
      · rw [hs, List.isEmpty_nil, Bool.true_and, Bool.not_eq_true] at hkeep
        exact .inr ⟨[], c, by rw [hs]; rfl, hkeep⟩
      · exact .inr ⟨c :: front, d, by rw [hs]; rfl, hd⟩

theorem trimmed_trimWhile (h : trimWhile p s ≠ []) : Trimmed p (trimWhile p s) := by
  refine ⟨?_, (dropEndWhile_last p (s.dropWhile p)).resolve_left h⟩
  unfold trimWhile at h ⊢
  cases hd : s.dropWhile p with
  | nil => rw [hd] at h; exact absurd rfl h
  | cons c rest =>
    have hc := not_of_dropWhile_eq_cons hd
    exact ⟨c, _, dropEndWhile_append_keep hc [] rest, hc⟩

end

end KernelLink
