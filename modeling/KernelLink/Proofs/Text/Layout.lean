import KernelLink.Proofs.Text.Comment
import KernelLink.Proofs.Text.Delimiter

/-!
# Layout

Texts that differ in layout alone have one form in common, in which every run of layout is a single
space. To show that something does not depend on layout it is enough to compare a text with that
form, and most of what is done with text can be done on either side: cutting at a character that is
no layout, finding what delimiters enclose, trimming. Words are the same on both sides.
-/

namespace KernelLink

/-- Space, tab, carriage return and newline. -/
def isLayout (c : Char) : Bool := c = ' ' || c = '\t' || c = '\r' || c = '\n'

/-- Every run of layout as a single space; `inRun` says that one has begun before the text. -/
def collapseFrom (inRun : Bool) : List Char → List Char
  | [] => []
  | c :: s =>
    if isLayout c then
      if inRun then collapseFrom true s else ' ' :: collapseFrom true s
    else c :: collapseFrom false s

def collapse (s : List Char) : List Char := collapseFrom false s

/-- The texts differ in their runs of layout alone. Runs next to each other are one run, so it does
not have to be said that runs are as long as they can be. -/
inductive Relaid : List Char → List Char → Prop
  | nil : Relaid [] []
  | char {c s s'} (hc : isLayout c = false) (h : Relaid s s') : Relaid (c :: s) (c :: s')
  | run {r r' s s'} (hr : r ≠ [] ∧ ∀ c ∈ r, isLayout c) (hr' : r' ≠ [] ∧ ∀ c ∈ r', isLayout c)
      (h : Relaid s s') : Relaid (r ++ s) (r' ++ s')

/-! ## Single steps -/

theorem isBlank_of_isLayout {c : Char} (h : isLayout c) : isBlank c := by
  simp only [isLayout, Bool.or_eq_true, decide_eq_true_eq] at h
  rcases h with ((rfl | rfl) | rfl) | rfl <;> decide

theorem isAsciiBlank_of_isLayout {c : Char} (h : isLayout c) : isAsciiBlank c := by
  simp only [isLayout, Bool.or_eq_true, decide_eq_true_eq] at h
  rcases h with ((rfl | rfl) | rfl) | rfl <;> decide

theorem ne_of_isLayout {c d : Char} (h : isLayout c) (hd : isLayout d = false) : c ≠ d := by
  rintro rfl
  rw [hd] at h
  cases h

section

variable {c : Char} {s t : List Char} {inRun : Bool}

theorem collapseFrom_other (hc : isLayout c = false) (inRun : Bool) (s : List Char) :
    collapseFrom inRun (c :: s) = c :: collapse s := by
  rw [collapseFrom, hc, if_neg Bool.false_ne_true]
  rfl

theorem collapse_other (hc : isLayout c = false) (s : List Char) :
    collapse (c :: s) = c :: collapse s :=
  collapseFrom_other hc false s

theorem collapse_layout (hc : isLayout c) (s : List Char) :
    collapse (c :: s) = ' ' :: collapseFrom true s := by
  rw [collapse, collapseFrom, if_pos hc, if_neg Bool.false_ne_true]

theorem collapseFrom_true_layout (hc : isLayout c) (s : List Char) :
    collapseFrom true (c :: s) = collapseFrom true s := by
  rw [collapseFrom, if_pos hc, if_pos rfl]

/-- **What is no layout cuts a text**, and nothing goes on behind it. -/
theorem collapseFrom_append_other (hc : isLayout c = false) (inRun : Bool) (s t : List Char) :
    collapseFrom inRun (s ++ c :: t) = collapseFrom inRun s ++ c :: collapse t := by
  fun_induction collapseFrom inRun s with
  | case1 inRun => exact collapseFrom_other hc inRun t
  | case2 d s hd ih => rw [List.cons_append, collapseFrom_true_layout hd, ih]
  | case3 inRun d s hd hrun ih =>
    rw [Bool.eq_false_iff.mpr hrun, List.cons_append, List.cons_append, ← ih]
    exact collapse_layout hd _
  | case4 inRun d s hd ih =>
    rw [List.cons_append, collapseFrom_other (Bool.eq_false_iff.mpr hd), List.cons_append, ← ih]
    rfl

/-- A word is not changed, and neither is what comes before it. -/
theorem collapseFrom_append_solid {w : List Char} (hw : ∀ d ∈ w, isLayout d = false)
    (inRun : Bool) (s : List Char) : collapseFrom inRun (s ++ w) = collapseFrom inRun s ++ w := by
  induction w generalizing s with
  | nil => rw [List.append_nil, List.append_nil]
  | cons d w ih =>
    obtain ⟨hd, hw⟩ := List.forall_mem_cons.mp hw
    have hone : collapseFrom inRun (s ++ [d]) = collapseFrom inRun s ++ [d] :=
      collapseFrom_append_other hd inRun s []
    rw [← List.singleton_append, ← List.append_assoc, ih hw, hone, List.append_assoc]

theorem collapse_solid_append {w : List Char} (hw : ∀ d ∈ w, isLayout d = false)
    (s : List Char) : collapse (w ++ s) = w ++ collapse s := by
  induction w with
  | nil => rfl
  | cons d w ih =>
    obtain ⟨hd, hw⟩ := List.forall_mem_cons.mp hw
    rw [List.cons_append, collapse_other hd, ih hw, List.cons_append]

theorem collapse_eq_nil_iff : collapse s = [] ↔ s = [] := by
  cases s with
  | nil => exact ⟨fun _ => rfl, fun _ => rfl⟩
  | cons c s =>
    by_cases hc : isLayout c
    · rw [collapse_layout hc]; exact ⟨nofun, nofun⟩
    · rw [collapse_other (Bool.eq_false_iff.mpr hc)]; exact ⟨nofun, nofun⟩

/-- What is no layout stands first on both sides, or on neither. -/
theorem exists_cons_of_collapse (hc : isLayout c = false) (h : collapse s = c :: t) :
    ∃ t', s = c :: t' := by
  cases s with
  | nil => cases h
  | cons d s =>
    by_cases hd : isLayout d
    · rw [collapse_layout hd] at h
      exact absurd (List.cons.inj h).1 (ne_of_isLayout rfl hc)
    · rw [collapse_other (Bool.eq_false_iff.mpr hd)] at h
      exact ⟨s, by rw [(List.cons.inj h).1]⟩

theorem isEmpty_collapse (s : List Char) : (collapse s).isEmpty = s.isEmpty := by
  rw [Bool.eq_iff_iff, List.isEmpty_iff, List.isEmpty_iff, collapse_eq_nil_iff]

/-- A text in which no space comes of a run has no run. -/
theorem collapse_eq_self (h : ' ' ∉ collapse s) : collapse s = s := by
  induction s with
  | nil => rfl
  | cons c s ih =>
    by_cases hc : isLayout c
    · rw [collapse_layout hc] at h
      exact absurd List.mem_cons_self h
    · rw [collapse_other (Bool.eq_false_iff.mpr hc)] at h ⊢
      rw [ih fun hmem => h (List.mem_cons_of_mem c hmem)]

end

/-! ## Runs -/

theorem collapseFrom_true_run {r : List Char} (h : ∀ c ∈ r, isLayout c) (s : List Char) :
    collapseFrom true (r ++ s) = collapseFrom true s := by
  induction r with
  | nil => rfl
  | cons c r ih =>
    obtain ⟨hc, hr⟩ := List.forall_mem_cons.mp h
    rw [List.cons_append, collapseFrom_true_layout hc, ih hr]

theorem collapse_run {r : List Char} (hne : r ≠ []) (h : ∀ c ∈ r, isLayout c) (s : List Char) :
    collapse (r ++ s) = ' ' :: collapseFrom true s := by
  obtain ⟨c, r, rfl⟩ := List.exists_cons_of_ne_nil hne
  obtain ⟨hc, hr⟩ := List.forall_mem_cons.mp h
  rw [List.cons_append, collapse_layout hc, collapseFrom_true_run hr]

/-- The last character is kept, or a space for it. -/
theorem exists_collapse_concat (s : List Char) (c : Char) :
    ∃ t, collapse (s ++ [c]) = t ++ [if isLayout c then ' ' else c] := by
  by_cases hc : isLayout c
  · rw [if_pos hc]
    -- The layout at the end is one run, and what stands before it ends with something else.
    obtain ⟨after, hafter, hs⟩ := exists_dropEndWhile isLayout s
    have hrun : collapse (after ++ [c]) = [' '] := by
      have hone := collapse_run (List.append_ne_nil_of_right_ne_nil after (List.cons_ne_nil c []))
        (List.forall_mem_append.mpr ⟨hafter, List.forall_mem_singleton.mpr hc⟩) []
      rwa [List.append_nil] at hone
    rcases dropEndWhile_last isLayout s with hkept | ⟨front, d, hkept, hd⟩
    · rw [hs, hkept, List.nil_append, hrun]
      exact ⟨[], rfl⟩
    · have happ := collapseFrom_append_other hd false front (after ++ [c])
      rw [hrun] at happ
      rw [hs, hkept, List.append_assoc, List.append_assoc, List.singleton_append]
      exact ⟨collapse front ++ [d], happ.trans (by rw [List.append_assoc]; rfl)⟩
  · rw [if_neg hc]
    exact ⟨collapse s, collapseFrom_append_solid
      (List.forall_mem_singleton.mpr (Bool.eq_false_iff.mpr hc)) false s⟩

/-! ## Cutting and trimming -/

section

variable {p : Char → Bool}

theorem takeWhile_collapseFrom (hp : ∀ c, isLayout c → p c) (inRun : Bool) (s : List Char) :
    (collapseFrom inRun s).takeWhile p = collapseFrom inRun (s.takeWhile p) := by
  fun_induction collapseFrom inRun s with
  | case1 => rfl
  | case2 c s hc ih =>
    rw [List.takeWhile_cons_of_pos (hp c hc), collapseFrom_true_layout hc, ih]
  | case3 inRun c s hc hrun ih =>
    rw [Bool.eq_false_iff.mpr hrun, List.takeWhile_cons_of_pos (hp c hc),
      List.takeWhile_cons_of_pos (hp ' ' (by decide)), ih]
    exact (collapse_layout hc _).symm
  | case4 inRun c s hc ih =>
    rw [List.takeWhile_cons, List.takeWhile_cons]
    split
    · rw [collapseFrom_other (Bool.eq_false_iff.mpr hc), ih]
      rfl
    · rfl

theorem dropWhile_collapseFrom (hp : ∀ c, isLayout c → p c) (inRun : Bool) (s : List Char) :
    (collapseFrom inRun s).dropWhile p = collapse (s.dropWhile p) := by
  fun_induction collapseFrom inRun s with
  | case1 => rfl
  | case2 c s hc ih => rw [List.dropWhile_cons_of_pos (hp c hc), ih]
  | case3 inRun c s hc hrun ih =>
    rw [List.dropWhile_cons_of_pos (hp c hc), List.dropWhile_cons_of_pos (hp ' ' (by decide)), ih]
  | case4 inRun c s hc ih =>
    rw [List.dropWhile_cons, List.dropWhile_cons]
    split
    · exact ih
    · exact (collapse_other (Bool.eq_false_iff.mpr hc) s).symm

theorem not_isLayout_of_not (hp : ∀ c, isLayout c → p c) {c : Char} (hc : p c = false) :
    isLayout c = false :=
  Bool.eq_false_iff.mpr fun h => by rw [hp c h] at hc; cases hc

/-- What is left after dropping is nothing on both sides, or on neither. -/
theorem isEmpty_collapseFrom_dropEndWhile (hp : ∀ c, isLayout c → p c) (inRun : Bool)
    (s : List Char) :
    (collapseFrom inRun (dropEndWhile p s)).isEmpty = (dropEndWhile p s).isEmpty := by
  rcases dropEndWhile_last p s with h | ⟨front, c, h, hc⟩
  · rw [h]; rfl
  · have hkept : ∀ t : List Char, (t ++ c :: []).isEmpty = false := fun t => by cases t <;> rfl
    rw [h, collapseFrom_append_other (not_isLayout_of_not hp hc)]
    exact (hkept _).trans (hkept front).symm

theorem dropEndWhile_collapseFrom (hp : ∀ c, isLayout c → p c) (inRun : Bool) (s : List Char) :
    dropEndWhile p (collapseFrom inRun s) = collapseFrom inRun (dropEndWhile p s) := by
  -- Whether a character is dropped depends on whether everything behind it is.
  fun_induction collapseFrom inRun s with
  | case1 => rfl
  | case2 c s hc ih =>
    rw [ih, dropEndWhile_cons]
    split
    · rename_i hdrop
      rw [Bool.and_eq_true, List.isEmpty_iff] at hdrop
      rw [hdrop.1]
    · rw [collapseFrom_true_layout hc]
  | case3 inRun c s hc hrun ih =>
    rw [Bool.eq_false_iff.mpr hrun, dropEndWhile_cons, dropEndWhile_cons, ih,
      isEmpty_collapseFrom_dropEndWhile hp, hp c hc, hp ' ' (by decide)]
    split
    · rfl
    · exact (collapse_layout hc _).symm
  | case4 inRun c s hc ih =>
    rw [dropEndWhile_cons, dropEndWhile_cons, ih, isEmpty_collapseFrom_dropEndWhile hp]
    split
    · rfl
    · exact (collapseFrom_other (Bool.eq_false_iff.mpr hc) inRun _).symm

theorem trimWhile_collapseFrom (hp : ∀ c, isLayout c → p c) (inRun : Bool) (s : List Char) :
    trimWhile p (collapseFrom inRun s) = collapse (trimWhile p s) := by
  unfold trimWhile
  rw [dropWhile_collapseFrom hp]
  exact dropEndWhile_collapseFrom hp false _

theorem trimBlanks_collapse (s : List Char) : trimBlanks (collapse s) = collapse (trimBlanks s) :=
  trimWhile_collapseFrom (fun _ => isBlank_of_isLayout) false s

end

/-! ## Words -/

theorem wordsFrom_collapseFrom {current : List Char} {inRun : Bool} {s : List Char}
    (h : inRun = true → current = []) :
    wordsFrom current (collapseFrom inRun s) = wordsFrom current s := by
  fun_induction collapseFrom inRun s generalizing current with
  | case1 => rfl
  | case2 c s hc ih =>
    rw [h rfl, ih fun _ => rfl]
    exact (words_cons_blank (isBlank_of_isLayout hc) s).symm
  | case3 inRun c s hc hrun ih =>
    rw [wordsFrom, wordsFrom, if_pos (isBlank_of_isLayout hc), if_pos (by decide),
      ih fun _ => rfl]
  | case4 inRun c s hc ih =>
    rw [wordsFrom, wordsFrom]
    split
    · rw [ih (by simp)]
    · exact ih (by simp)

/-- **Layout only separates words.** -/
theorem words_collapse (s : List Char) : words (collapse s) = words s :=
  wordsFrom_collapseFrom (by simp)

/-! ## Delimiters -/

section

variable {opening closing : Char} (ho : isLayout opening = false) (hc : isLayout closing = false)

include ho hc

theorem closingFrom?_collapseFrom (depth : Nat) (inRun : Bool) (s : List Char) :
    closingFrom? opening closing depth (collapseFrom inRun s) =
      (closingFrom? opening closing depth s).map fun n =>
        (collapseFrom inRun (s.take n)).length := by
  fun_induction collapseFrom inRun s generalizing depth with
  | case1 => rfl
  | case2 d s hd ih =>
    rw [closingFrom?_other (ne_of_isLayout hd ho) (ne_of_isLayout hd hc), ih, Option.map_map]
    refine congrArg (Option.map · _) (funext fun n => ?_)
    rw [Function.comp_apply, List.take_succ_cons, collapseFrom_true_layout hd]
  | case3 inRun d s hd hrun ih =>
    rw [Bool.eq_false_iff.mpr hrun, closingFrom?_other (ne_of_isLayout hd ho)
      (ne_of_isLayout hd hc), closingFrom?_other (ne_of_isLayout rfl ho) (ne_of_isLayout rfl hc),
      ih, Option.map_map, Option.map_map]
    refine congrArg (Option.map · _) (funext fun n => ?_)
    rw [Function.comp_apply, Function.comp_apply, List.take_succ_cons]
    exact congrArg List.length (collapse_layout hd (s.take n)).symm
  | case4 inRun d s hd ih =>
    have hnext : ∀ n, (collapseFrom inRun ((d :: s).take (n + 1))).length =
        (collapseFrom false (s.take n)).length + 1 := fun n => by
      rw [List.take_succ_cons, collapseFrom_other (Bool.eq_false_iff.mpr hd)]
      rfl
    -- Outside of runs both texts have the same character, so the depths stay the same as well.
    have hmap : ∀ depth, (closingFrom? opening closing depth (collapseFrom false s)).map (· + 1) =
        ((closingFrom? opening closing depth s).map (· + 1)).map fun n =>
          (collapseFrom inRun ((d :: s).take n)).length := fun depth => by
      rw [ih, Option.map_map, Option.map_map]
      exact congrArg (Option.map · _) (funext fun n => (hnext n).symm)
    rw [closingFrom?.eq_def, closingFrom?.eq_def opening closing depth (d :: s)]
    dsimp only
    split
    · exact hmap _
    · split
      · split
        · rfl
        · rfl
        · exact hmap _
      · exact hmap _

/-- **Delimiters enclose the same**, layout apart. -/
theorem enclosed?_collapse (hne : opening ≠ closing) (s : List Char) :
    enclosed? opening closing (opening :: collapse s) =
      (enclosed? opening closing (opening :: s)).map fun parts =>
        (collapse parts.1, collapse parts.2) := by
  unfold enclosed? closing?
  rw [closingFrom?_open, closingFrom?_open, Nat.zero_add, collapse,
    closingFrom?_collapseFrom ho hc]
  cases hclosing : closingFrom? opening closing 1 s with
  | none => rfl
  | some n =>
    obtain ⟨front, rest, rfl, rfl, -⟩ := closingFrom?_eq_some hne hclosing
    have hsplit := collapseFrom_append_other hc false front rest
    simp [hsplit, collapse]

end

/-- Separators cut a text at the same places. -/
theorem splitAtEach_collapseFrom {separator : Char} (h : isLayout separator = false)
    (inRun : Bool) (s : List Char) :
    ∃ part parts, splitAtEach separator s = part :: parts ∧
      splitAtEach separator (collapseFrom inRun s) =
        collapseFrom inRun part :: parts.map collapse := by
  fun_induction collapseFrom inRun s with
  | case1 => exact ⟨[], [], rfl, rfl⟩
  | case2 c s hc ih =>
    obtain ⟨part, parts, hs, hcollapsed⟩ := ih
    refine ⟨c :: part, parts, ?_, ?_⟩
    · rw [splitAtEach, if_neg (ne_of_isLayout hc h), hs]
    · rw [hcollapsed, collapseFrom_true_layout hc]
  | case3 inRun c s hc hrun ih =>
    obtain ⟨part, parts, hs, hcollapsed⟩ := ih
    refine ⟨c :: part, parts, ?_, ?_⟩
    · rw [splitAtEach, if_neg (ne_of_isLayout hc h), hs]
    · rw [Bool.eq_false_iff.mpr hrun, splitAtEach, if_neg (ne_of_isLayout rfl h), hcollapsed]
      exact congrArg (· :: _) (collapse_layout hc part).symm
  | case4 inRun c s hc ih =>
    obtain ⟨part, parts, hs, hcollapsed⟩ := ih
    rw [splitAtEach, splitAtEach, hs, hcollapsed]
    split
    · exact ⟨[], part :: parts, rfl, rfl⟩
    · refine ⟨c :: part, parts, rfl, ?_⟩
      rw [collapseFrom_other (Bool.eq_false_iff.mpr hc)]
      rfl

/-! ## Comments -/

theorem CommentFree.collapseFrom {s : List Char} (h : CommentFree s) (inRun : Bool) :
    CommentFree (collapseFrom inRun s) := by
  induction h generalizing inRun with
  | nil => exact .nil
  | slash => exact .slash
  | @code c s hc _ ih =>
    rw [KernelLink.collapseFrom]
    split
    · split
      · exact ih true
      · exact .code (by decide) (ih true)
    · exact .code hc (ih false)
  | @slashCode c s hc hstar _ ih =>
    rw [collapseFrom_other (by decide)]
    by_cases hlayout : isLayout c
    · rw [collapse_layout hlayout]
      exact .slashCode (by decide) (by decide) (ih true)
    · rw [collapse_other (Bool.eq_false_iff.mpr hlayout)]
      exact .slashCode hc hstar (ih false)

theorem CommentFree.collapse {s : List Char} (h : CommentFree s) :
    CommentFree (KernelLink.collapse s) :=
  h.collapseFrom false

theorem CommentFree.of_collapseFrom {inRun : Bool} {s : List Char}
    (h : CommentFree (KernelLink.collapseFrom inRun s)) : CommentFree s := by
  fun_induction KernelLink.collapseFrom inRun s with
  | case1 => exact .nil
  | case2 c s hc ih => exact .code (ne_of_isLayout hc (by decide)) (ih h)
  | case3 inRun c s hc _ ih => exact .code (ne_of_isLayout hc (by decide)) (ih h.tail)
  | case4 inRun c s hc ih =>
    have hs := ih h.tail
    by_cases hslash : c = '/'
    · subst hslash
      cases s with
      | nil => exact .slash
      | cons d s =>
        -- What opens a comment is no layout, so it stands behind the slash on both sides.
        by_cases hd : isLayout d
        · exact .slashCode (ne_of_isLayout hd (by decide)) (ne_of_isLayout hd (by decide)) hs.tail
        · rw [collapseFrom_other (Bool.eq_false_iff.mpr hd)] at h
          cases h with
          | code hne _ => exact absurd rfl hne
          | slashCode hne hstar _ => exact .slashCode hne hstar hs.tail
    · exact .code hslash hs

theorem commentFree_iff {s : List Char} : stripComments s = s ↔ CommentFree s :=
  ⟨fun h => h ▸ commentFree_strip .code s, CommentFree.stripComments_eq⟩

/-! ## The common form -/

theorem Relaid.collapseFrom_eq {s s' : List Char} (h : Relaid s s') (inRun : Bool) :
    collapseFrom inRun s = collapseFrom inRun s' := by
  induction h generalizing inRun with
  | nil => rfl
  | char hc _ ih =>
    rw [collapseFrom_other hc, collapseFrom_other hc]
    exact congrArg _ (ih false)
  | run hr hr' _ ih =>
    cases inRun with
    | true => rw [collapseFrom_true_run hr.2, collapseFrom_true_run hr'.2, ih true]
    | false =>
      have hs := collapse_run hr.1 hr.2
      have hs' := collapse_run hr'.1 hr'.2
      exact (hs _).trans ((congrArg _ (ih true)).trans (hs' _).symm)

theorem collapseFrom_true_eq (s : List Char) :
    collapseFrom true s = collapse (s.dropWhile isLayout) := by
  have hs := List.takeWhile_append_dropWhile (p := isLayout) (l := s)
  rw [← hs, collapseFrom_true_run (List.all_eq_true.mp List.all_takeWhile), hs]
  cases hrest : s.dropWhile isLayout with
  | nil => rfl
  | cons c rest =>
    have hc := not_of_dropWhile_eq_cons hrest
    rw [collapseFrom_other hc, collapse_other hc]

/-- **Texts differ in layout alone exactly when they have the common form.** -/
theorem relaid_iff {s s' : List Char} : Relaid s s' ↔ collapse s = collapse s' := by
  refine ⟨fun h => h.collapseFrom_eq false, fun h => ?_⟩
  induction hn : s.length using Nat.strongRecOn generalizing s s' with
  | ind n ih =>
    subst hn
    cases s with
    | nil => rw [collapse_eq_nil_iff.mp h.symm]; exact .nil
    | cons c s =>
      cases s' with
      | nil => exact absurd (collapse_eq_nil_iff.mp h) (List.cons_ne_nil c s)
      | cons c' s' =>
        by_cases hc : isLayout c <;> by_cases hc' : isLayout c'
        · -- Both texts start with a run, and behind the runs they have the common form again.
          rw [collapse_layout hc, collapse_layout hc', collapseFrom_true_eq,
            collapseFrom_true_eq] at h
          have hrest := ih _ (Nat.lt_succ_of_le (List.dropWhile_sublist _).length_le)
            (List.cons.inj h).2 rfl
          have hrun : ∀ {d : Char} {t : List Char}, isLayout d →
              d :: t.takeWhile isLayout ≠ [] ∧ ∀ e ∈ d :: t.takeWhile isLayout, isLayout e :=
            fun hd => ⟨nofun, List.forall_mem_cons.mpr ⟨hd, List.all_eq_true.mp List.all_takeWhile⟩⟩
          have hboth := Relaid.run (hrun (t := s) hc) (hrun (t := s') hc') hrest
          rwa [List.cons_append, List.cons_append, List.takeWhile_append_dropWhile,
            List.takeWhile_append_dropWhile] at hboth
        · rw [collapse_layout hc, collapse_other (Bool.eq_false_iff.mpr hc')] at h
          exact absurd (List.cons.inj h).1 (ne_of_isLayout rfl (Bool.eq_false_iff.mpr hc'))
        · rw [collapse_layout hc', collapse_other (Bool.eq_false_iff.mpr hc)] at h
          exact absurd (List.cons.inj h).1.symm (ne_of_isLayout rfl (Bool.eq_false_iff.mpr hc))
        · rw [collapse_other (Bool.eq_false_iff.mpr hc),
            collapse_other (Bool.eq_false_iff.mpr hc')] at h
          obtain ⟨rfl, hrest⟩ := List.cons.inj h
          exact .char (Bool.eq_false_iff.mpr hc) (ih s.length (Nat.lt_succ_self _) hrest rfl)

instance (s s' : List Char) : Decidable (Relaid s s') := decidable_of_iff _ relaid_iff.symm

/-- Layout opens no comment and closes none. -/
theorem Relaid.commentFree {s s' : List Char} (h : Relaid s s') (hs : CommentFree s) :
    CommentFree s' := by
  have hcollapsed := hs.collapse
  rw [relaid_iff.mp h] at hcollapsed
  exact hcollapsed.of_collapseFrom

end KernelLink
