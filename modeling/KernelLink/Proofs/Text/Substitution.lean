import KernelLink.Text.Search
import Mathlib.Data.List.Infix

/-!
# Replacing in turn, and replacing at once

Patterns that are replaced one after the other are looked for in what was put in before, and in what
that makes together with the text around it. Replacing all of them at once looks at the given text
only. Both give the same as long as no value can take part in an occurrence of a later pattern,
whatever stands around it. That is decided by the value and the pattern alone: an occurrence starts
inside of the value, or it starts in front of it and reaches it.
-/

namespace KernelLink

theorem occurs_iff {pattern s : List Char} : occurs pattern s ↔ pattern <:+: s := by
  induction s with
  | nil => rw [occurs, List.isEmpty_iff, List.infix_nil]
  | cons c s ih =>
    rw [occurs, Bool.or_eq_true, List.isPrefixOf_iff_prefix, ih, List.infix_cons_iff]

/-! ## Patterns that take in a part of a value -/

/-- Two texts agree as far as both of them go. -/
def agree (s t : List Char) : Bool := s.isPrefixOf t || t.isPrefixOf s

/-- Whether an occurrence of the pattern, in whatever text, can take in a part of the value. One
that takes in an empty value goes on at both sides of it. -/
def overlaps (pattern value : List Char) : Bool :=
  value.tails.any (fun rest => !rest.isEmpty && agree pattern rest) ||
    pattern.tail.tails.any fun rest => !rest.isEmpty && agree rest value

section

variable {pattern value rest before s t u : List Char}

theorem agree_iff : agree s t ↔ s <+: t ∨ t <+: s := by
  unfold agree
  rw [Bool.or_eq_true, List.isPrefixOf_iff_prefix, List.isPrefixOf_iff_prefix]

theorem overlaps_iff : overlaps pattern value ↔
    (∃ rest, rest <:+ value ∧ rest ≠ [] ∧ (pattern <+: rest ∨ rest <+: pattern)) ∨
      ∃ rest, rest <:+ pattern.tail ∧ rest ≠ [] ∧ (rest <+: value ∨ value <+: rest) := by
  unfold overlaps
  simp only [Bool.or_eq_true, List.any_eq_true, List.mem_tails, Bool.and_eq_true,
    Bool.not_eq_true', List.isEmpty_eq_false_iff, agree_iff]

/-- An occurrence that starts inside of the value. -/
theorem overlaps_of_inside (hrest : rest <:+ value) (hne : rest ≠ [])
    (h : pattern <+: rest ++ s) : overlaps pattern value :=
  overlaps_iff.mpr <| .inl
    ⟨rest, hrest, hne, List.prefix_or_prefix_of_prefix h (List.prefix_append rest s)⟩

/-- An occurrence that starts in front of the value and reaches it. -/
theorem overlaps_of_reaching (hbefore : before ≠ []) (hne : rest ≠ [])
    (h : rest <+: value ++ s) : overlaps (before ++ rest) value := by
  obtain ⟨c, before, rfl⟩ := List.exists_cons_of_ne_nil hbefore
  exact overlaps_iff.mpr <| .inr ⟨rest, List.suffix_append before rest, hne,
    List.prefix_or_prefix_of_prefix h (List.prefix_append value s)⟩

/-- What overlaps does so in some text: between a part from the front of the pattern and one from
its end. -/
theorem exists_around_of_overlaps (hpattern : pattern ≠ []) (h : overlaps pattern value) :
    ∃ before behind, before <+: pattern ∧ before ≠ pattern ∧ behind <:+ pattern ∧
      behind ≠ pattern ∧ pattern <:+: before ++ (value ++ behind) := by
  rcases overlaps_iff.mp h with ⟨rest, hrest, hne, hin | ⟨behind, rfl⟩⟩ |
      ⟨rest, hrest, hne, hmeet⟩
  · -- inside of the value altogether
    refine ⟨[], [], List.nil_prefix, hpattern.symm, List.nil_suffix, hpattern.symm, ?_⟩
    rw [List.nil_append, List.append_nil]
    exact hin.isInfix.trans hrest.isInfix
  · -- it starts inside of the value and goes on behind it
    refine ⟨[], behind, List.nil_prefix, hpattern.symm, List.suffix_append rest behind,
      fun he => hne (List.self_eq_append_left.mp he), ?_⟩
    obtain ⟨kept, rfl⟩ := hrest
    rw [List.nil_append, List.append_assoc]
    exact (List.suffix_append kept _).isInfix
  · -- it starts in front of the value
    obtain ⟨c, body, rfl⟩ := List.exists_cons_of_ne_nil hpattern
    obtain ⟨front, rfl⟩ : rest <:+ body := hrest
    have hbefore : c :: front ≠ c :: (front ++ rest) := fun he =>
      hne (List.self_eq_append_right.mp (List.cons.inj he).2)
    rcases hmeet with hreach | ⟨behind, rfl⟩
    · refine ⟨c :: front, [], List.prefix_append (c :: front) rest, hbefore, List.nil_suffix,
        List.cons_ne_nil _ _ |>.symm, ?_⟩
      rw [List.append_nil]
      exact (List.prefix_append_right_inj (c :: front)).mpr hreach |>.isInfix
    · refine ⟨c :: front, behind, List.prefix_append (c :: front) _, hbefore,
        ⟨c :: front ++ value, by rw [List.append_assoc]; rfl⟩, fun he => ?_, List.infix_rfl⟩
      have hlength := congrArg List.length he
      simp only [List.length_cons, List.length_append] at hlength
      omega

/-- In front of a value that it does not overlap, a pattern ends before the value starts. -/
theorem prefix_append_iff_of_not_overlaps (hv : overlaps pattern value = false) (hs : s ≠ []) :
    pattern <+: s ++ (value ++ t) ↔ pattern <+: s := by
  refine ⟨fun h => ?_, fun h => h.trans (List.prefix_append s _)⟩
  rcases List.prefix_or_prefix_of_prefix h (List.prefix_append s _) with hin | ⟨rest, rfl⟩
  · exact hin
  · -- the rest of the pattern reaches the value, unless there is no rest
    by_cases hrest : rest = []
    · rw [hrest, List.append_nil]
    · rw [overlaps_of_reaching hs hrest ((List.prefix_append_right_inj s).mp h)] at hv
      cases hv

/-- A value that it does not overlap hides no occurrence of a pattern. -/
theorem infix_of_infix_append (hv : overlaps pattern value = false)
    (h : pattern <:+: value ++ t) : pattern <:+: t := by
  have hrests : ∀ rest, rest <:+ value → pattern <:+: rest ++ t → pattern <:+: t := by
    intro rest
    induction rest with
    | nil => exact fun _ h => h
    | cons c rest ih =>
      intro hrest h
      rcases List.infix_cons_iff.mp h with hstart | hlater
      · rw [overlaps_of_inside hrest (List.cons_ne_nil c rest) hstart] at hv
        cases hv
      · exact ih ((List.suffix_cons c rest).trans hrest) hlater
  exact hrests value List.suffix_rfl h

end

/-! ## Replacing at once -/

/-- A pattern and the text that is put in its place. -/
structure Replacement where
  pattern : List Char
  value : List Char

/-- The first pattern of a table that a text starts with. -/
def findPattern? (table : List Replacement) (s : List Char) : Option Replacement :=
  table.find? fun e => e.pattern.isPrefixOf s

/-- Replaces every occurrence of the patterns of a table, first passing over `skip` characters of an
occurrence that was just replaced. -/
def substituteFrom (table : List Replacement) (skip : Nat) : List Char → List Char
  | [] => []
  | c :: s =>
    if skip > 0 then substituteFrom table (skip - 1) s
    else match findPattern? table (c :: s) with
      | some e => e.value ++ substituteFrom table (e.pattern.length - 1) s
      | none => c :: substituteFrom table 0 s

/-- Replaces every occurrence of the patterns of a table at once. What is put in is not looked
at. -/
def substitute (table : List Replacement) (s : List Char) : List Char := substituteFrom table 0 s

/-- No pattern is empty, and no two of them share a part of an occurrence. -/
structure Apart (table : List Replacement) : Prop where
  nonempty : ∀ e ∈ table, e.pattern ≠ []
  pairwise : table.Pairwise fun e f =>
    overlaps e.pattern f.pattern = false ∧ overlaps f.pattern e.pattern = false

section

variable {table table' : List Replacement} {e f : Replacement} {c : Char} {s t : List Char}

theorem findPattern?_eq_none_iff : findPattern? table s = none ↔ ∀ e ∈ table, ¬e.pattern <+: s := by
  unfold findPattern?
  simp only [List.find?_eq_none, List.isPrefixOf_iff_prefix]

theorem findPattern?_eq_some (h : findPattern? table s = some e) : e ∈ table ∧ e.pattern <+: s := by
  unfold findPattern? at h
  have hfound := List.find?_some h
  exact ⟨List.mem_of_find?_eq_some h, List.isPrefixOf_iff_prefix.mp hfound⟩

/-- The only pattern that a text can start with is found. -/
theorem Apart.findPattern?_append (h : Apart table) (he : e ∈ table) (t : List Char) :
    findPattern? table (e.pattern ++ t) = some e := by
  have hpairwise := h.pairwise
  have hne := h.nonempty e he
  clear h
  unfold findPattern?
  induction table with
  | nil => cases he
  | cons f table ih =>
    obtain ⟨hf, hpairwise⟩ := List.pairwise_cons.mp hpairwise
    rcases List.mem_cons.mp he with rfl | he
    · exact List.find?_cons_of_pos (List.isPrefixOf_iff_prefix.mpr (List.prefix_append _ t))
    · rw [List.find?_cons_of_neg, ih he hpairwise]
      rw [List.isPrefixOf_iff_prefix]
      intro hstart
      have hover := (hf e he).1
      rw [overlaps_of_inside List.suffix_rfl hne hstart] at hover
      cases hover

theorem Apart.single (h : e.pattern ≠ []) : Apart [e] where
  nonempty := List.forall_mem_singleton.mpr h
  pairwise := List.pairwise_singleton _ e

theorem Apart.tail (h : Apart (e :: table)) : Apart table where
  nonempty f hf := h.nonempty f (List.mem_cons_of_mem e hf)
  pairwise := (List.pairwise_cons.mp h.pairwise).2

theorem Apart.perm (h : Apart table) (hperm : table.Perm table') : Apart table' where
  nonempty f hf := h.nonempty f (hperm.mem_iff.mpr hf)
  pairwise := (hperm.pairwise_iff fun hfe => And.symm hfe).mp h.pairwise

/-- A text is taken apart into occurrences of patterns and what stands between them. -/
theorem Apart.induction {motive : List Char → Prop} (h : Apart table) (nil : motive [])
    (found : ∀ e ∈ table, ∀ t, motive t → motive (e.pattern ++ t))
    (other : ∀ c s, findPattern? table (c :: s) = none → motive s → motive (c :: s))
    (s : List Char) : motive s := by
  induction hlength : s.length using Nat.strong_induction_on generalizing s with
  | _ length ih =>
    subst hlength
    cases s with
    | nil => exact nil
    | cons c s =>
      cases hfind : findPattern? table (c :: s) with
      | none => exact other c s hfind (ih _ (Nat.lt_succ_self _) s rfl)
      | some e =>
        obtain ⟨he, t, ht⟩ := findPattern?_eq_some hfind
        rw [← ht]
        refine found e he t (ih t.length ?_ t rfl)
        have hpos := List.length_pos_iff.mpr (h.nonempty e he)
        rw [← ht, List.length_append]
        omega

theorem substituteFrom_append (table : List Replacement) (s t : List Char) :
    substituteFrom table s.length (s ++ t) = substitute table t := by
  induction s with
  | nil => rfl
  | cons c s ih =>
    rw [List.length_cons, List.cons_append, substituteFrom, if_pos (Nat.succ_pos _)]
    exact ih

theorem Apart.substitute_append (h : Apart table) (he : e ∈ table) (t : List Char) :
    substitute table (e.pattern ++ t) = e.value ++ substitute table t := by
  have hfind := h.findPattern?_append he t
  obtain ⟨c, rest, hpattern⟩ := List.exists_cons_of_ne_nil (h.nonempty e he)
  rw [hpattern, List.cons_append] at hfind ⊢
  rw [substitute, substituteFrom, if_neg (Nat.lt_irrefl 0), hfind]
  dsimp only
  rw [hpattern, List.length_cons, Nat.add_sub_cancel, substituteFrom_append]

theorem substitute_cons (h : findPattern? table (c :: s) = none) :
    substitute table (c :: s) = c :: substitute table s := by
  rw [substitute, substituteFrom, if_neg (Nat.lt_irrefl 0), h]
  rfl

/-- A text in which no pattern starts stays, whatever follows it. -/
theorem substitute_append_of_none
    (h : ∀ rest, rest <:+ s → rest ≠ [] → findPattern? table (rest ++ t) = none) :
    substitute table (s ++ t) = s ++ substitute table t := by
  induction s with
  | nil => rfl
  | cons c s ih =>
    have hnone : findPattern? table (c :: (s ++ t)) = none :=
      h (c :: s) List.suffix_rfl (List.cons_ne_nil c s)
    rw [List.cons_append, substitute_cons hnone,
      ih fun rest hrest => h rest (hrest.trans (List.suffix_cons c s)), List.cons_append]

theorem substitute_of_absent (h : ∀ e ∈ table, ¬e.pattern <:+: s) :
    substitute table s = s := by
  have hs : substitute table (s ++ []) = s ++ substitute table [] :=
    substitute_append_of_none fun rest hrest _ =>
      findPattern?_eq_none_iff.mpr fun e he hstart => by
        rw [List.append_nil] at hstart
        exact h e he (hstart.isInfix.trans hrest.isInfix)
  rwa [List.append_nil, show substitute table [] = [] from rfl, List.append_nil] at hs

/-- The order of the table does not matter. -/
theorem Apart.substitute_perm (h : Apart table) (hperm : table.Perm table') (s : List Char) :
    substitute table s = substitute table' s := by
  have h' := h.perm hperm
  induction s using h.induction with
  | nil => rfl
  | found e he t ih =>
    rw [h.substitute_append he, h'.substitute_append (hperm.mem_iff.mp he), ih]
  | other c s hnone ih =>
    have hnone' : findPattern? table' (c :: s) = none := findPattern?_eq_none_iff.mpr fun e he =>
      findPattern?_eq_none_iff.mp hnone e (hperm.mem_iff.mpr he)
    rw [substitute_cons hnone, substitute_cons hnone', ih]

/-- A pattern that does not occur does not matter. -/
theorem Apart.substitute_cons_of_absent (h : Apart (e :: table)) (he : ¬e.pattern <:+: s) :
    substitute (e :: table) s = substitute table s := by
  induction s using h.tail.induction with
  | nil => rfl
  | found f hf t ih =>
    rw [h.substitute_append (List.mem_cons_of_mem e hf), h.tail.substitute_append hf,
      ih fun hin => he (hin.trans (List.suffix_append _ t).isInfix)]
  | other c s hnone ih =>
    have hnone' : findPattern? (e :: table) (c :: s) = none :=
      findPattern?_eq_none_iff.mpr <| List.forall_mem_cons.mpr
        ⟨fun hstart => he hstart.isInfix, findPattern?_eq_none_iff.mp hnone⟩
    rw [substitute_cons hnone, substitute_cons hnone',
      ih fun hin => he (hin.trans (List.suffix_cons c s).isInfix)]

/-! ## Replacing in turn -/

theorem replaceFrom_eq (pattern value : List Char) (skip : Nat) (s : List Char) :
    replaceFrom pattern value skip s = substituteFrom [⟨pattern, value⟩] skip s := by
  induction s generalizing skip with
  | nil => rfl
  | cons c s ih =>
    rw [replaceFrom, substituteFrom, ih, ih, ih]
    unfold findPattern?
    rw [List.find?_singleton]
    split
    · rfl
    · split <;> rfl

theorem toList_replaceText (pattern value text : String) :
    (replaceText pattern value text).toList =
      substitute [⟨pattern.toList, value.toList⟩] text.toList := by
  rw [replaceText, String.toList_ofList, replaceFrom_eq]
  rfl

section

variable {pattern : List Char}

/-- Values that a pattern does not overlap leave it where it was at the front of a text. -/
theorem Apart.prefix_of_prefix_substitute (h : Apart table)
    (hv : ∀ e ∈ table, overlaps pattern e.value = false) {front : List Char} (hfront : front ≠ [])
    (hstart : pattern <+: front ++ substitute table s) : pattern <+: front ++ s := by
  induction s using h.induction generalizing front with
  | nil => exact hstart
  | found e he t _ =>
    rw [h.substitute_append he] at hstart
    exact ((prefix_append_iff_of_not_overlaps (hv e he) hfront).mp hstart).trans
      (List.prefix_append _ _)
  | other c s hnone ih =>
    rw [substitute_cons hnone] at hstart
    rw [List.append_cons] at hstart ⊢
    exact ih (List.append_ne_nil_of_left_ne_nil hfront [c]) hstart

/-- Values that a pattern does not overlap bring no occurrence of it about. -/
theorem Apart.infix_of_infix_substitute (h : Apart table)
    (hv : ∀ e ∈ table, overlaps pattern e.value = false)
    (hocc : pattern <:+: substitute table s) : pattern <:+: s := by
  induction s using h.induction with
  | nil => exact hocc
  | found e he t ih =>
    rw [h.substitute_append he] at hocc
    exact (ih (infix_of_infix_append (hv e he) hocc)).trans (List.suffix_append _ t).isInfix
  | other c s hnone ih =>
    rw [substitute_cons hnone] at hocc
    rcases List.infix_cons_iff.mp hocc with hstart | hlater
    · exact (h.prefix_of_prefix_substitute hv (List.cons_ne_nil c []) hstart).isInfix
    · exact (ih hlater).trans (List.suffix_cons c s).isInfix

/-- What no pattern overlaps stays as it is. -/
theorem substitute_append_of_not_overlaps (hs : ∀ e ∈ table, overlaps e.pattern s = false)
    (t : List Char) : substitute table (s ++ t) = s ++ substitute table t := by
  refine substitute_append_of_none fun rest hrest hne =>
    findPattern?_eq_none_iff.mpr fun e he hstart => ?_
  have hover := hs e he
  rw [overlaps_of_inside hrest hne hstart] at hover
  cases hover

end

/-- **Replacing one pattern first is replacing it with the others**, if they do not overlap what is
put in its place. -/
theorem Apart.substitute_substitute (h : Apart (e :: table))
    (hv : ∀ f ∈ table, overlaps f.pattern e.value = false) (s : List Char) :
    substitute table (substitute [e] s) = substitute (e :: table) s := by
  have hsingle : Apart [e] := .single (h.nonempty e List.mem_cons_self)
  induction s using h.induction with
  | nil => rfl
  | found f hf t ih =>
    rw [h.substitute_append hf, ← ih]
    rcases List.mem_cons.mp hf with rfl | hf
    · rw [hsingle.substitute_append List.mem_cons_self, substitute_append_of_not_overlaps hv]
    · -- the other pattern is left alone by the first pass
      have hover := ((List.pairwise_cons.mp h.pairwise).1 f hf).1
      rw [substitute_append_of_not_overlaps (List.forall_mem_singleton.mpr hover),
        h.tail.substitute_append hf]
  | other c s hnone ih =>
    obtain ⟨he, htable⟩ := List.forall_mem_cons.mp (findPattern?_eq_none_iff.mp hnone)
    have hfirst : findPattern? [e] (c :: s) = none :=
      findPattern?_eq_none_iff.mpr (List.forall_mem_singleton.mpr he)
    -- and the first pass makes no other pattern start here
    have hsecond : findPattern? table (c :: substitute [e] s) = none :=
      findPattern?_eq_none_iff.mpr fun f hf hstart => htable f hf <|
        hsingle.prefix_of_prefix_substitute (List.forall_mem_singleton.mpr (hv f hf))
          (List.cons_ne_nil c []) hstart
    rw [substitute_cons hnone, substitute_cons hfirst, substitute_cons hsecond, ih]

/-- **Replacing in turn is replacing at once**, if no pattern overlaps what is put in before its
turn. Patterns that do not occur do not count. -/
theorem Apart.foldl_substitute (h : Apart table)
    (hv : table.Pairwise fun e f => e.pattern <:+: s → overlaps f.pattern e.value = false) :
    table.foldl (fun s e => substitute [e] s) s = substitute table s := by
  induction table generalizing s with
  | nil => exact (substitute_of_absent (List.forall_mem_nil _)).symm
  | cons e table ih =>
    obtain ⟨he, hv⟩ := List.pairwise_cons.mp hv
    have hsingle : Apart [e] := .single (h.nonempty e List.mem_cons_self)
    rw [List.foldl_cons]
    by_cases hin : e.pattern <:+: s
    · have hover : ∀ f ∈ table, overlaps f.pattern e.value = false := fun f hf => he f hf hin
      rw [ih h.tail (hv.imp_of_mem fun {f g} hf _ hfg hocc => hfg <|
        hsingle.infix_of_infix_substitute (List.forall_mem_singleton.mpr (hover f hf)) hocc),
        h.substitute_substitute hover]
    · rw [substitute_of_absent (List.forall_mem_singleton.mpr hin), ih h.tail hv,
        h.substitute_cons_of_absent hin]

/-! ## What replacing changes -/

/-- A text that shares no part of an occurrence with a pattern is still there afterwards. -/
theorem Apart.infix_substitute (h : Apart table) {kept : List Char}
    (hkept : ∀ e ∈ table, overlaps e.pattern kept = false ∧ overlaps kept e.pattern = false)
    (hin : kept <:+: s) : kept <:+: substitute table s := by
  induction s using h.induction with
  | nil => exact hin
  | found e he t ih =>
    rw [h.substitute_append he]
    exact (ih (infix_of_infix_append (hkept e he).2 hin)).trans (List.suffix_append _ _).isInfix
  | other c s hnone ih =>
    rcases List.infix_cons_iff.mp hin with ⟨t, ht⟩ | hlater
    · rw [← ht, substitute_append_of_not_overlaps fun e he => (hkept e he).1]
      exact (List.prefix_append kept _).isInfix
    · rw [substitute_cons hnone]
      exact (ih hlater).trans (List.suffix_cons c _).isInfix

/-- Every occurrence changes the length by as much as the value is longer than the pattern. -/
theorem exists_length_substitute (he : e.pattern ≠ []) (s : List Char) :
    ∃ count, (e.pattern <:+: s → 0 < count) ∧
      (substitute [e] s).length + count * e.pattern.length = s.length + count * e.value.length := by
  have h : Apart [e] := .single he
  induction s using h.induction with
  | nil =>
    refine ⟨0, fun hin => absurd (List.infix_nil.mp hin) he, ?_⟩
    rw [Nat.zero_mul, Nat.zero_mul]
    rfl
  | found f hf t ih =>
    obtain rfl := List.mem_singleton.mp hf
    obtain ⟨count, -, hlength⟩ := ih
    refine ⟨count + 1, fun _ => Nat.succ_pos count, ?_⟩
    rw [h.substitute_append hf, List.length_append, List.length_append, Nat.succ_mul, Nat.succ_mul]
    omega
  | other c s hnone ih =>
    obtain ⟨count, hpos, hlength⟩ := ih
    refine ⟨count, fun hin => hpos ?_, ?_⟩
    · rcases List.infix_cons_iff.mp hin with hstart | hlater
      · exact absurd hstart (findPattern?_eq_none_iff.mp hnone e List.mem_cons_self)
      · exact hlater
    · rw [substitute_cons hnone, List.length_cons, List.length_cons]
      omega

/-- Replacing a pattern that occurs by anything else changes the text. -/
theorem substitute_ne_self (he : e.pattern ≠ []) (hvalue : e.value ≠ e.pattern)
    (hin : e.pattern <:+: s) : substitute [e] s ≠ s := by
  intro hsame
  obtain ⟨count, hpos, hcount⟩ := exists_length_substitute he s
  rw [hsame] at hcount
  have hlength : e.pattern.length = e.value.length :=
    Nat.eq_of_mul_eq_mul_left (hpos hin) (Nat.add_left_cancel hcount)
  clear hpos hcount
  -- with equal lengths the first occurrence is where the texts differ
  have h : Apart [e] := .single he
  induction s using h.induction with
  | nil => exact he (List.infix_nil.mp hin)
  | found f hf t _ =>
    obtain rfl := List.mem_singleton.mp hf
    rw [h.substitute_append hf] at hsame
    exact hvalue (List.append_inj hsame hlength.symm).1
  | other c s hnone ih =>
    rw [substitute_cons hnone] at hsame
    rcases List.infix_cons_iff.mp hin with hstart | hlater
    · exact findPattern?_eq_none_iff.mp hnone e List.mem_cons_self hstart
    · exact ih hlater (List.cons.inj hsame).2

theorem substitute_self (he : e.pattern ≠ []) (hvalue : e.value = e.pattern) (s : List Char) :
    substitute [e] s = s := by
  have h : Apart [e] := .single he
  induction s using h.induction with
  | nil => rfl
  | found f hf t ih =>
    rw [h.substitute_append hf, ih, List.mem_singleton.mp hf, hvalue]
  | other c s hnone ih => rw [substitute_cons hnone, ih]

end

end KernelLink
