import KernelLink.Proofs.Text.Blank
import KernelLink.Text.Comment

/-!
# Stripping comments, part by part

What a part of a text contributes depends on the text before it through the reader's state alone.
So a part that is entered and left in code can be stripped on its own, and stripping a text of such
parts is stripping each.

Stripped text has no comments left: a `/` is written only when what follows it opens none.
-/

namespace KernelLink

namespace Comment

/-- What is written before the end of the text is reached. -/
def emitted (q : State) : List Char → List Char
  | [] => []
  | c :: s => (step q c).2 ++ emitted (step q c).1 s

theorem after_cons (q : State) (c : Char) (s : List Char) :
    after q (c :: s) = after (step q c).1 s := rfl

theorem after_append (q : State) (s t : List Char) : after q (s ++ t) = after (after q s) t :=
  List.foldl_append

/-- **Stripping splits anywhere**, given the state there. -/
theorem strip_append (q : State) (s t : List Char) :
    strip q (s ++ t) = emitted q s ++ strip (after q s) t := by
  induction s generalizing q with
  | nil => rfl
  | cons c s ih =>
    rw [List.cons_append, strip, emitted, ih, List.append_assoc, after_cons]

theorem strip_eq_emitted (q : State) (s : List Char) :
    strip q s = emitted q s ++ finish (after q s) := by
  have hsplit := strip_append q s []
  rwa [List.append_nil] at hsplit

end Comment

open Comment

/-- The text ends outside of block comments. -/
def ClosesComments (s : List Char) : Prop := ∀ star, after .code s ≠ .block star

/-! ## Texts left in code -/

theorem stripComments_append {s : List Char} (h : after .code s = .code) (t : List Char) :
    stripComments (s ++ t) = stripComments s ++ stripComments t := by
  unfold stripComments
  rw [strip_append, strip_eq_emitted .code s, h, show finish .code = [] from rfl, List.append_nil]

/-- A newline ends everything but a block comment. -/
theorem step_newline {q : State} (h : ∀ star, q ≠ .block star) :
    step q '\n' = (.code, finish q ++ ['\n']) := by
  cases q with
  | code => rfl
  | slash => rfl
  | line => rfl
  | block star => exact absurd rfl (h star)

theorem after_line {s : List Char} (h : ClosesComments s) :
    after .code (s ++ ['\n']) = .code := by
  rw [after_append, after_cons, step_newline h]
  rfl

theorem stripComments_line {s : List Char} (h : ClosesComments s) :
    stripComments (s ++ ['\n']) = stripComments s ++ ['\n'] := by
  unfold stripComments
  rw [strip_append, strip_eq_emitted .code s, strip, step_newline h, List.append_assoc,
    List.append_assoc]
  rfl

/-! ## Texts without comments -/

/-- A text that opens no comment: what follows a `/` is neither another nor a `*`. -/
inductive CommentFree : List Char → Prop where
  | nil : CommentFree []
  | slash : CommentFree ['/']
  | code {c s} (hc : c ≠ '/') (hs : CommentFree s) : CommentFree (c :: s)
  | slashCode {c s} (hc : c ≠ '/') (hstar : c ≠ '*') (hs : CommentFree s) :
      CommentFree ('/' :: c :: s)

theorem CommentFree.of_no_slash {s : List Char} (h : '/' ∉ s) : CommentFree s := by
  induction s with
  | nil => exact .nil
  | cons c s ih =>
    rw [List.mem_cons, not_or] at h
    exact .code (Ne.symm h.1) (ih h.2)

theorem step_code {c : Char} (h : c ≠ '/') : step .code c = (.code, [c]) := if_neg h

theorem step_slash {c : Char} (h : c ≠ '/') (hstar : c ≠ '*') :
    step .slash c = (.code, ['/', c]) := by
  rw [step, if_neg h, if_neg hstar]

theorem CommentFree.stripComments_eq {s : List Char} (h : CommentFree s) : stripComments s = s := by
  unfold stripComments
  induction h with
  | nil => rfl
  | slash => rfl
  | code hc _ ih => rw [strip, step_code hc, ih]; rfl
  | slashCode hc hstar _ ih =>
    rw [strip, show step .code '/' = (.slash, []) from rfl, strip, step_slash hc hstar, ih]
    rfl

theorem CommentFree.closesComments {s : List Char} (h : CommentFree s) : ClosesComments s := by
  induction h with
  | nil => exact nofun
  | slash => exact nofun
  | code hc _ ih =>
    intro star
    rw [after_cons, step_code hc]
    exact ih star
  | slashCode hc hstar _ ih =>
    intro star
    rw [after_cons, show step .code '/' = (.slash, []) from rfl, after_cons, step_slash hc hstar]
    exact ih star

theorem after_of_no_slash {s : List Char} (h : '/' ∉ s) : after .code s = .code := by
  induction s with
  | nil => rfl
  | cons c s ih =>
    rw [List.mem_cons, not_or] at h
    rw [after_cons, step_code (Ne.symm h.1)]
    exact ih h.2

/-! ## Stripped texts -/

/-- What is written of a text from a state on, transition by transition. -/
inductive Comment.Strips : State → List Char → List Char → Prop where
  | finish (q : State) : Strips q [] (finish q)
  | code {c s t} (hc : c ≠ '/') (h : Strips .code s t) : Strips .code (c :: s) (c :: t)
  /-- A slash is held back until it is known what it opens. -/
  | hold {s t} (h : Strips .slash s t) : Strips .code ('/' :: s) t
  | openLine {s t} (h : Strips .line s t) : Strips .slash ('/' :: s) t
  | openBlock {s t} (h : Strips (.block false) s t) : Strips .slash ('*' :: s) t
  | release {c s t} (hc : c ≠ '/') (hstar : c ≠ '*') (h : Strips .code s t) :
      Strips .slash (c :: s) ('/' :: c :: t)
  | endLine {s t} (h : Strips .code s t) : Strips .line ('\n' :: s) ('\n' :: t)
  | inLine {c s t} (hc : c ≠ '\n') (h : Strips .line s t) : Strips .line (c :: s) t
  | endBlock {s t} (h : Strips .code s t) : Strips (.block true) ('/' :: s) (' ' :: t)
  | newline {star : Bool} {s t} (h : Strips (.block false) s t) :
      Strips (.block star) ('\n' :: s) ('\n' :: t)
  | inBlock {star : Bool} {c s t} (hc : c ≠ '\n') (hend : ¬(star ∧ c = '/'))
      (h : Strips (.block (c = '*')) s t) : Strips (.block star) (c :: s) t

/-- **Stripping takes these transitions**, one for each character. -/
theorem strips (q : State) (s : List Char) : Strips q s (strip q s) := by
  induction s generalizing q with
  | nil => exact .finish q
  | cons c s ih =>
    rw [strip]
    cases q with
    | code =>
      by_cases hc : c = '/'
      · subst hc
        exact .hold (ih .slash)
      · rw [step_code hc]
        exact .code hc (ih .code)
    | slash =>
      by_cases hc : c = '/'
      · subst hc
        exact .openLine (ih .line)
      · by_cases hstar : c = '*'
        · subst hstar
          exact .openBlock (ih (.block false))
        · rw [step_slash hc hstar]
          exact .release hc hstar (ih .code)
    | line =>
      by_cases hc : c = '\n'
      · subst hc
        exact .endLine (ih .code)
      · rw [step, if_neg hc]
        exact .inLine hc (ih .line)
    | block star =>
      by_cases hend : star ∧ c = '/'
      · obtain ⟨rfl, rfl⟩ := hend
        exact .endBlock (ih .code)
      · rw [step, if_neg (by simpa using hend)]
        by_cases hc : c = '\n'
        · subst hc
          exact .newline (ih (.block false))
        · dsimp only
          rw [if_neg hc]
          exact .inBlock hc hend (ih _)

namespace Comment.Strips

variable {q : State} {s t : List Char}

/-- A slash is written only when what follows it opens nothing. -/
theorem commentFree (h : Strips q s t) : CommentFree t := by
  induction h with
  | finish q =>
    cases q with
    | code => exact .nil
    | slash => exact .slash
    | line => exact .nil
    | block star => exact .code (by decide) .nil
  | code hc _ ih => exact .code hc ih
  | release hc hstar _ ih => exact .slashCode hc hstar ih
  | endLine _ ih => exact .code (by decide) ih
  | endBlock _ ih => exact .code (by decide) ih
  | newline _ ih => exact .code (by decide) ih
  | hold _ ih => exact ih
  | openLine _ ih => exact ih
  | openBlock _ ih => exact ih
  | inLine _ _ ih => exact ih
  | inBlock _ _ _ ih => exact ih

/-- What is written was read, or is a held back slash or the space for a block. -/
theorem subset (h : Strips q s t) : t ⊆ '/' :: ' ' :: s := by
  have hlater : ∀ {c s t}, t ⊆ '/' :: ' ' :: s → t ⊆ '/' :: ' ' :: c :: s := fun {c s t} ht =>
    List.Subset.trans ht
      (List.cons_subset_cons _ (List.cons_subset_cons _ (List.subset_cons_self c s)))
  have hread : ∀ {c s t}, t ⊆ '/' :: ' ' :: s → c :: t ⊆ '/' :: ' ' :: c :: s := fun ht =>
    List.cons_subset.mpr ⟨by simp, hlater ht⟩
  induction h with
  | finish q => cases q <;> simp [Comment.finish]
  | code _ _ ih => exact hread ih
  | release _ _ _ ih => exact List.cons_subset.mpr ⟨List.mem_cons_self, hread ih⟩
  | endLine _ ih => exact hread ih
  | endBlock _ ih => exact List.cons_subset.mpr ⟨by simp, hlater ih⟩
  | newline _ ih => exact hread ih
  | hold _ ih => exact hlater ih
  | openLine _ ih => exact hlater ih
  | openBlock _ ih => exact hlater ih
  | inLine _ _ ih => exact hlater ih
  | inBlock _ _ _ ih => exact hlater ih

end Comment.Strips

/-- **Stripping leaves no comment**, wherever it starts. -/
theorem commentFree_strip (q : State) (s : List Char) : CommentFree (strip q s) :=
  (strips q s).commentFree

/-- Stripping writes what was read, and besides it a held back slash or the space for a block. -/
theorem mem_strip {q : State} {s : List Char} {c : Char} (h : c ∈ strip q s) :
    c = '/' ∨ c = ' ' ∨ c ∈ s := by
  simpa using (strips q s).subset h

theorem stripComments_stripComments (s : List Char) :
    stripComments (stripComments s) = stripComments s :=
  (commentFree_strip .code s).stripComments_eq

/-- Bodies have one layout-free form when they have the same words. -/
theorem normalizeBody_eq_iff {body body' : String} : normalizeBody body = normalizeBody body' ↔
    words (stripComments body.toList) = words (stripComments body'.toList) := by
  unfold normalizeBody
  constructor
  · intro h
    have hwords := congrArg words (String.ofList_inj.mp h)
    rwa [words_unwords fun _ hw => isWord_of_mem_words hw,
      words_unwords fun _ hw => isWord_of_mem_words hw] at hwords
  · exact fun h => by rw [h]

theorem CommentFree.tail {c : Char} {s : List Char} (h : CommentFree (c :: s)) :
    CommentFree s := by
  cases h with
  | slash => exact .nil
  | code _ hs => exact hs
  | slashCode hc _ hs => exact .code hc hs

theorem CommentFree.of_append_right {s t : List Char} (h : CommentFree (s ++ t)) :
    CommentFree t := by
  induction s with
  | nil => exact h
  | cons c s ih => exact ih h.tail

theorem CommentFree.of_suffix {s t : List Char} (h : CommentFree s) (ht : t <:+ s) :
    CommentFree t := by
  obtain ⟨front, rfl⟩ := ht
  exact h.of_append_right

theorem CommentFree.of_append_left {s t : List Char} (h : CommentFree (s ++ t)) :
    CommentFree s := by
  induction s with
  | nil => exact .nil
  | cons c s ih =>
    have hs := ih h.tail
    by_cases hc : c = '/'
    · subst hc
      cases s with
      | nil => exact .slash
      | cons d s =>
        -- what a slash is followed by is the same in the longer text
        cases h with
        | code hslash _ => exact absurd rfl hslash
        | slashCode hd hstar _ => exact .slashCode hd hstar hs.tail
    · exact .code hc hs

/-- A blank between two texts keeps a slash from what it would open. -/
theorem CommentFree.append_space {s t : List Char} (hs : CommentFree s) (ht : CommentFree t) :
    CommentFree (s ++ ' ' :: t) := by
  induction hs with
  | nil => exact .code (by decide) ht
  | slash => exact .slashCode (by decide) (by decide) ht
  | code hc _ ih => exact .code hc ih
  | slashCode hc hstar _ ih => exact .slashCode hc hstar ih

theorem CommentFree.of_mem_from {current s w : List Char} (h : CommentFree (current ++ s))
    (hw : w ∈ wordsFrom current s) : CommentFree w := by
  induction s generalizing current with
  | nil =>
    rw [wordsFrom] at hw
    split at hw
    · cases hw
    · rw [List.mem_singleton.mp hw]
      exact h.of_append_left
  | cons c s ih =>
    rw [wordsFrom] at hw
    split at hw
    · split at hw
      · exact @ih [] h.of_append_right.tail hw
      · rcases List.mem_cons.mp hw with rfl | hw
        · exact h.of_append_left
        · exact @ih [] h.of_append_right.tail hw
    · exact ih (by rwa [List.append_assoc]) hw

theorem CommentFree.unwords {ws : List (List Char)} (h : ∀ w ∈ ws, CommentFree w) :
    CommentFree (unwords ws) := by
  induction ws with
  | nil => exact .nil
  | cons w ws ih =>
    obtain ⟨hw, hws⟩ := List.forall_mem_cons.mp h
    cases ws with
    | nil =>
      rw [unwords_singleton]
      exact hw
    | cons v ws => exact hw.append_space (ih hws)

/-- **A layout-free form is its own layout-free form**: its words open no comments, and between
them there are single spaces already. -/
theorem normalizeBody_normalizeBody (body : String) :
    normalizeBody (normalizeBody body) = normalizeBody body := by
  have hwords : ∀ w ∈ words (stripComments body.toList), CommentFree w := fun _ hw =>
    @CommentFree.of_mem_from [] _ _ (commentFree_strip .code _) hw
  rw [normalizeBody_eq_iff]
  unfold normalizeBody
  rw [String.toList_ofList, (CommentFree.unwords hwords).stripComments_eq,
    words_unwords fun _ hw => isWord_of_mem_words hw]

/-- Blank lines around a stripped body do not change its layout-free form. -/
theorem normalizeBody_stripped (body : String) :
    normalizeBody (String.ofList ('\n' :: (stripComments body.toList ++ ['\n']))) =
      normalizeBody body := by
  have hfree : CommentFree (stripComments body.toList) := commentFree_strip _ _
  have hstrip : stripComments ('\n' :: (stripComments body.toList ++ ['\n'])) =
      '\n' :: (stripComments body.toList ++ ['\n']) := by
    rw [← List.singleton_append, stripComments_append (s := ['\n']) rfl,
      stripComments_line hfree.closesComments, hfree.stripComments_eq]
    rfl
  have hblank : isBlank '\n' := by decide
  unfold normalizeBody
  rw [String.toList_ofList, hstrip, words_cons_blank hblank, words_concat_blank hblank]

/-! ## What is kept stood together -/

/-- A character that is written only where it stands in code. -/
def IsKeptCode (c : Char) : Prop := c ≠ '/' ∧ c ≠ ' ' ∧ c ≠ '\n'

namespace Comment.Strips

variable {q : State} {s t : List Char}

/-- **A place of the stripped text is a place of the text**, where it starts with a kept character:
what is left there is what is left of the text, stripped. -/
theorem exists_suffix (h : Strips q s t) {c : Char} {rest : List Char} (hc : IsKeptCode c)
    (hplace : c :: rest <:+ t) : ∃ s', s' <:+ s ∧ Strips .code s' (c :: rest) := by
  obtain ⟨hslash, hspace, hline⟩ := hc
  have hlater : ∀ {d s}, (∃ s', s' <:+ s ∧ Strips .code s' (c :: rest)) →
      ∃ s', s' <:+ d :: s ∧ Strips .code s' (c :: rest) := fun ⟨s', hs', h⟩ =>
    ⟨s', hs'.trans (List.suffix_cons _ _), h⟩
  have hbehind : ∀ {d t}, c ≠ d → c :: rest <:+ d :: t → c :: rest <:+ t := fun hd h =>
    (List.suffix_cons_iff.mp h).resolve_left fun heq => hd (List.cons.inj heq).1
  have hwritten : ∀ {d s t}, Strips .code (d :: s) (d :: t) → c :: rest <:+ d :: t →
      (c :: rest <:+ t → ∃ s', s' <:+ s ∧ Strips .code s' (c :: rest)) →
      ∃ s', s' <:+ d :: s ∧ Strips .code s' (c :: rest) := fun {d s t} h hplace ih => by
    rcases List.suffix_cons_iff.mp hplace with heq | hplace
    · exact ⟨d :: s, List.suffix_rfl, heq ▸ h⟩
    · exact hlater (ih hplace)
  induction h with
  | finish q =>
    -- The end writes a slash or a space.
    exfalso
    cases q with
    | code => exact absurd (List.suffix_nil.mp hplace) (List.cons_ne_nil c rest)
    | line => exact absurd (List.suffix_nil.mp hplace) (List.cons_ne_nil c rest)
    | slash => exact hslash (List.mem_singleton.mp (hplace.subset List.mem_cons_self))
    | block star => exact hspace (List.mem_singleton.mp (hplace.subset List.mem_cons_self))
  | code hd h ih => exact hwritten (.code hd h) hplace ih
  | release hd _ h ih => exact hwritten (.code hd h) (hbehind hslash hplace) ih
  | endLine _ ih => exact hlater (ih (hbehind hline hplace))
  | endBlock _ ih => exact hlater (ih (hbehind hspace hplace))
  | newline _ ih => exact hlater (ih (hbehind hline hplace))
  | hold _ ih => exact hlater (ih hplace)
  | openLine _ ih => exact hlater (ih hplace)
  | openBlock _ ih => exact hlater (ih hplace)
  | inLine _ _ ih => exact hlater (ih hplace)
  | inBlock _ _ _ ih => exact hlater (ih hplace)

/-- Outside of code something else comes first. -/
theorem not_isKeptCode (h : Strips q s t) (hq : q ≠ .code) : ∀ c ∈ t.head?, ¬IsKeptCode c := by
  induction h with
  | finish q =>
    cases q with
    | code => exact absurd rfl hq
    | line => exact nofun
    | slash => rintro _ ⟨⟩ hc; exact hc.1 rfl
    | block star => rintro _ ⟨⟩ hc; exact hc.2.1 rfl
  | code _ _ _ => exact absurd rfl hq
  | hold _ _ => exact absurd rfl hq
  | release _ _ _ _ => rintro _ ⟨⟩ hc; exact hc.1 rfl
  | endLine _ _ => rintro _ ⟨⟩ hc; exact hc.2.2 rfl
  | endBlock _ _ => rintro _ ⟨⟩ hc; exact hc.2.1 rfl
  | newline _ _ => rintro _ ⟨⟩ hc; exact hc.2.2 rfl
  | openLine _ ih => exact ih nofun
  | openBlock _ ih => exact ih nofun
  | inLine _ _ ih => exact ih nofun
  | inBlock _ _ _ ih => exact ih nofun

/-- Characters that are kept one behind the other were written so. -/
theorem prefix_of_kept {w : List Char} (hw : ∀ c ∈ w, IsKeptCode c) (h : Strips .code s t)
    (hstarts : w <+: t) : w <+: s := by
  induction w generalizing s t with
  | nil => exact List.nil_prefix
  | cons c w ih =>
    obtain ⟨hc, hw⟩ := List.forall_mem_cons.mp hw
    cases h with
    | finish => exact absurd (List.prefix_nil.mp hstarts) (List.cons_ne_nil c w)
    | code hd h =>
      obtain ⟨rfl, hrest⟩ := List.cons_prefix_cons.mp hstarts
      exact List.cons_prefix_cons.mpr ⟨rfl, ih hw h hrest⟩
    | hold h =>
      obtain ⟨rest, rfl⟩ := hstarts
      exact absurd hc (h.not_isKeptCode nofun c rfl)

end Comment.Strips

theorem infix_of_infix_strip {w s : List Char} (hw : ∀ c ∈ w, IsKeptCode c)
    (h : w <:+: stripComments s) : w <:+: s := by
  cases w with
  | nil => exact List.nil_infix
  | cons c w =>
    obtain ⟨front, rest, hstrip⟩ := h
    have hplace : c :: (w ++ rest) <:+ strip .code s := ⟨front, by
      rw [← List.cons_append, ← List.append_assoc, hstrip]; rfl⟩
    obtain ⟨s', hs', h⟩ := (strips .code s).exists_suffix (hw c List.mem_cons_self) hplace
    exact (h.prefix_of_kept hw ⟨rest, rfl⟩).isInfix.trans hs'.isInfix

end KernelLink
