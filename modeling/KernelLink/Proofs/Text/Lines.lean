import KernelLink.Proofs.Text.Comment
import Mathlib.Data.List.Infix

/-!
# Stripping, line by line

A text is characters of code and comments, one after the other, and there is one way to read it so:
a comment starts wherever two characters open one, a line comment goes up to its newline and a block
comment to the first `*/`. What is left of the text is what is left of each part. A character of
code is left as it is, a line comment leaves nothing, and a block comment leaves its newlines and a
space. No part loses or gains a newline, so whatever is left stands on the line where it stood.
-/

namespace KernelLink

namespace Comment

/-! ## Parts of a text -/

/-- A character of code, or a comment. -/
inductive Part where
  | code (c : Char)
  /-- What stands behind `//` on its line. -/
  | line (body : List Char)
  | block (inside : List Char)
  /-- A block comment that the end of the text closes. -/
  | unended (inside : List Char)

def Part.source : Part → List Char
  | code c => [c]
  | line body => '/' :: '/' :: body
  | block inside => '/' :: '*' :: (inside ++ ['*', '/'])
  | unended inside => '/' :: '*' :: inside

/-- What stripping leaves of a block comment. -/
def blockLeft (inside : List Char) : List Char := inside.filter (· = '\n') ++ [' ']

def Part.left : Part → List Char
  | code c => [c]
  | line _ => []
  | block inside => blockLeft inside
  | unended inside => blockLeft inside

def sources (parts : List Part) : List Char := parts.flatMap Part.source

def lefts (parts : List Part) : List Char := parts.flatMap Part.left

/-- With what follows it, the character opens a comment. -/
def Opens (c : Char) (rest : List Char) : Prop :=
  c = '/' ∧ (rest.head? = some '/' ∨ rest.head? = some '*')

/-- The parts that a text is read as. -/
inductive Reads : List Part → Prop where
  | nil : Reads []
  | code {c parts} (hopens : ¬Opens c (sources parts)) (h : Reads parts) : Reads (.code c :: parts)
  /-- A line comment goes up to a newline, or to the end. -/
  | line {body parts} (hbody : '\n' ∉ body) (hend : ∀ c ∈ (sources parts).head?, c = '\n')
      (h : Reads parts) : Reads (.line body :: parts)
  | block {inside parts} (hinside : ¬['*', '/'] <:+: inside) (h : Reads parts) :
      Reads (.block inside :: parts)
  | unended {inside} (hinside : ¬['*', '/'] <:+: inside) : Reads [.unended inside]

/-! ## What is left of each part -/

theorem strip_line {body rest : List Char} (hbody : '\n' ∉ body)
    (hend : ∀ c ∈ rest.head?, c = '\n') : strip .line (body ++ rest) = strip .code rest := by
  induction body with
  | nil =>
    cases rest with
    | nil => rfl
    | cons c rest =>
      obtain rfl : c = '\n' := hend c rfl
      rfl
  | cons c body ih =>
    rw [List.mem_cons, not_or] at hbody
    rw [List.cons_append, strip, step, if_neg (Ne.symm hbody.1)]
    exact ih hbody.2

/-- Inside a block only newlines are written, up to the first `*/`. -/
theorem strip_block {inside : List Char} (star : Bool)
    (hinside : ¬['*', '/'] <:+: inside) (hstar : star → inside.head? ≠ some '/')
    (rest : List Char) :
    ∃ star', strip (.block star) (inside ++ rest) =
      inside.filter (· = '\n') ++ strip (.block star') rest := by
  induction inside generalizing star with
  | nil => exact ⟨star, rfl⟩
  | cons c inside ih =>
    have hstays : ¬(star && c = '/') := fun h => by
      rw [Bool.and_eq_true, decide_eq_true_eq] at h
      exact hstar h.1 (h.2 ▸ rfl)
    obtain ⟨star', ih⟩ := ih (c = '*') (fun h => hinside (List.infix_cons h))
      fun hc hhead => by
        -- the star and the slash behind it would be the end
        obtain ⟨t, rfl⟩ := List.head?_eq_some_iff.mp hhead
        exact hinside ⟨[], t, by rw [of_decide_eq_true hc]; rfl⟩
    refine ⟨star', ?_⟩
    rw [List.cons_append, strip, step, if_neg hstays, List.filter_cons]
    dsimp only
    rw [ih]
    by_cases hline : c = '\n'
    · rw [if_pos hline, if_pos (decide_eq_true hline), hline]
      rfl
    · rw [if_neg hline, if_neg (by simpa using hline)]
      rfl

/-- **What is left of a text is what is left of its parts.** -/
theorem strip_sources {parts : List Part} (h : Reads parts) :
    strip .code (sources parts) = lefts parts := by
  induction h with
  | nil => rfl
  | @code c parts hopens _ ih =>
    show strip .code (c :: sources parts) = c :: lefts parts
    by_cases hc : c = '/'
    · subst hc
      rw [strip, show step .code '/' = (.slash, []) from rfl, ← ih]
      cases hrest : sources parts with
      | nil => rfl
      | cons d rest =>
        rw [hrest] at hopens
        have hslash : d ≠ '/' := fun hd => hopens ⟨rfl, .inl (hd ▸ rfl)⟩
        have hstar : d ≠ '*' := fun hd => hopens ⟨rfl, .inr (hd ▸ rfl)⟩
        rw [strip, step_slash hslash hstar, strip, step_code hslash]
        rfl
    · rw [strip, step_code hc, ih]
      rfl
  | @line body parts hbody hend _ ih =>
    show strip .line (body ++ sources parts) = lefts parts
    rw [strip_line hbody hend, ih]
  | @block inside parts hinside _ ih =>
    obtain ⟨star, hstrip⟩ := strip_block false hinside (absurd · Bool.false_ne_true)
      ('*' :: '/' :: sources parts)
    show strip (.block false) (inside ++ ['*', '/'] ++ sources parts) =
      blockLeft inside ++ lefts parts
    rw [List.append_assoc, ← ih]
    refine hstrip.trans ?_
    unfold blockLeft
    cases star <;> simp [strip, step]
  | @unended inside hinside =>
    obtain ⟨star, hstrip⟩ := strip_block false hinside (absurd · Bool.false_ne_true) []
    show strip (.block false) (inside ++ []) = blockLeft inside ++ []
    rw [hstrip, List.append_nil]
    rfl

/-! ## Every text has its parts -/

/-- A block comment ends at the first `*/`, or not at all. -/
theorem exists_block_end (s : List Char) :
    (∃ inside rest, s = inside ++ '*' :: '/' :: rest ∧ ¬['*', '/'] <:+: inside) ∨
      ¬['*', '/'] <:+: s := by
  induction s with
  | nil => exact .inr (by simp)
  | cons c s ih =>
    by_cases hends : ['*', '/'] <+: c :: s
    · obtain ⟨rest, hrest⟩ := hends
      exact .inl ⟨[], rest, hrest.symm, by simp⟩
    · rcases ih with ⟨inside, rest, rfl, hinside⟩ | hnone
      · refine .inl ⟨c :: inside, rest, rfl, fun h => ?_⟩
        rcases List.infix_cons_iff.mp h with h | h
        · exact hends (h.trans ⟨_, rfl⟩)
        · exact hinside h
      · refine .inr fun h => ?_
        exact (List.infix_cons_iff.mp h).elim hends hnone

/-- **Every text is read in parts.** -/
theorem exists_parts (s : List Char) : ∃ parts, Reads parts ∧ sources parts = s := by
  -- A comment can be of any length, so the induction is on how much text is left.
  induction hn : s.length using Nat.strongRecOn generalizing s with
  | ind n ih =>
    subst hn
    have hshorter : ∀ rest : List Char, rest.length < s.length →
        ∃ parts, Reads parts ∧ sources parts = rest := fun _ h => ih _ h _ rfl
    clear ih
    cases s with
    | nil => exact ⟨[], .nil, rfl⟩
    | cons c rest =>
      by_cases hopens : Opens c rest
      · obtain ⟨rfl, hline | hblock⟩ := hopens
        · obtain ⟨rest, rfl⟩ := List.head?_eq_some_iff.mp hline
          have hdrop : (rest.dropWhile (· ≠ '\n')).length ≤ rest.length :=
            (List.dropWhile_suffix _).length_le
          obtain ⟨parts, hparts, hsources⟩ := hshorter (rest.dropWhile (· ≠ '\n'))
            (by simp only [List.length_cons]; omega)
          refine ⟨.line (rest.takeWhile (· ≠ '\n')) :: parts, .line (fun hmem => ?_)
            (fun c hc => ?_) hparts, ?_⟩
          · simpa using List.all_eq_true.mp (List.all_takeWhile (p := (· ≠ '\n'))) _ hmem
          · obtain ⟨t, ht⟩ := List.head?_eq_some_iff.mp hc
            simpa using not_of_dropWhile_eq_cons (hsources.symm.trans ht)
          · show '/' :: '/' :: (rest.takeWhile (· ≠ '\n') ++ sources parts) = _
            rw [hsources, List.takeWhile_append_dropWhile]
        · obtain ⟨rest, rfl⟩ := List.head?_eq_some_iff.mp hblock
          rcases exists_block_end rest with ⟨inside, rest', rfl, hinside⟩ | hnone
          · obtain ⟨parts, hparts, rfl⟩ := hshorter rest'
              (by simp only [List.length_cons, List.length_append]; omega)
            refine ⟨.block inside :: parts, .block hinside hparts, ?_⟩
            show '/' :: '*' :: (inside ++ ['*', '/'] ++ sources parts) = _
            rw [List.append_assoc]
            rfl
          · exact ⟨[.unended rest], .unended hnone, List.append_nil _⟩
      · obtain ⟨parts, hparts, rfl⟩ := hshorter rest (Nat.lt_succ_self _)
        exact ⟨.code c :: parts, .code hopens hparts, rfl⟩

/-! ## Lines -/

theorem newlines_append (s t : List Char) : newlines (s ++ t) = newlines s + newlines t :=
  List.count_append

theorem newlines_blockLeft (inside : List Char) :
    newlines (blockLeft inside) = newlines inside := by
  unfold blockLeft
  rw [newlines_append, show newlines [' '] = 0 from rfl, Nat.add_zero]
  exact List.count_filter (by simp)

/-- No part loses or gains a newline. -/
theorem Reads.newlines_left {parts : List Part} (h : Reads parts) :
    ∀ p ∈ parts, newlines p.left = newlines p.source := by
  induction h with
  | nil => exact nofun
  | code _ _ ih => exact List.forall_mem_cons.mpr ⟨rfl, ih⟩
  | @line body _ hbody _ _ ih =>
    refine List.forall_mem_cons.mpr ⟨(List.count_eq_zero.mpr fun hmem => hbody ?_).symm, ih⟩
    simpa [Part.source] using hmem
  | @block inside _ _ _ ih =>
    refine List.forall_mem_cons.mpr ⟨?_, ih⟩
    show newlines (blockLeft inside) = newlines (['/', '*'] ++ (inside ++ ['*', '/']))
    rw [newlines_blockLeft, newlines_append, newlines_append]
    exact (Nat.zero_add _).symm
  | @unended inside _ =>
    refine List.forall_mem_cons.mpr ⟨?_, nofun⟩
    show newlines (blockLeft inside) = newlines (['/', '*'] ++ inside)
    rw [newlines_blockLeft, newlines_append]
    exact (Nat.zero_add _).symm

theorem newlines_lefts {parts : List Part}
    (h : ∀ p ∈ parts, newlines p.left = newlines p.source) :
    newlines (lefts parts) = newlines (sources parts) := by
  induction parts with
  | nil => rfl
  | cons p parts ih =>
    obtain ⟨hp, hparts⟩ := List.forall_mem_cons.mp h
    show newlines (p.left ++ lefts parts) = newlines (p.source ++ sources parts)
    rw [newlines_append, newlines_append, hp, ih hparts]

end Comment

open Comment

/-- **Stripping keeps the newlines.** -/
theorem newlines_stripComments (s : List Char) : newlines (stripComments s) = newlines s := by
  obtain ⟨parts, hparts, rfl⟩ := exists_parts s
  unfold stripComments
  rw [strip_sources hparts, newlines_lefts hparts.newlines_left]

/-- In a text without comments no two characters open one. -/
theorem CommentFree.no_opening {s : List Char} (h : CommentFree s) :
    ¬['/', '/'] <:+: s ∧ ¬['/', '*'] <:+: s := by
  have hplace : ∀ {d}, ['/', d] <:+: s → d ≠ '/' ∧ d ≠ '*' := fun {d} hd => by
    obtain ⟨front, rest, rfl⟩ := hd
    rw [List.append_assoc] at h
    cases h.of_append_right with
    | code hslash _ => exact absurd rfl hslash
    | slashCode hslash hstar _ => exact ⟨hslash, hstar⟩
  exact ⟨fun hd => (hplace hd).1 rfl, fun hd => (hplace hd).2 rfl⟩

end KernelLink
