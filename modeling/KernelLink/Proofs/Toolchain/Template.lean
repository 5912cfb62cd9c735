import KernelLink.LanguageVersion
import KernelLink.Proofs.Number.Text
import KernelLink.Proofs.Text.Substitution
import KernelLink.Settings.Basic

/-!
# What stands in the places of a command

The places of an argument are filled one kind after the other. What is filled in early is searched
again for the places that come later, so a path with a place in its name, or a language option that
completes one, changes the command. An argument that is the place for the inputs alone is not
searched: its paths stand as they are.

Filling all places of the argument at once is what the template says. This is what filling in turn
gives for every template if and only if neither the language option nor the inputs can take part in
a place that is filled after them. Language options of toolchains never do, and neither do absolute
paths without a brace.
-/

namespace KernelLink.CommandTemplate

/-! ## Filling at once -/

/-- The places of an argument, and what belongs there. -/
def places (language inputs output : List Char) : List Replacement :=
  [⟨languagePlace.toList, language⟩, ⟨inputPlace.toList, inputs⟩, ⟨outputPlace.toList, output⟩]

/-- One argument with all of its places filled at once. -/
def fillAtOnce (language : String) (inputs : List Path) (output : Path) (arg : String) : String :=
  String.ofList <| substitute
    (places language.toList (joinedInputs inputs).toList output.text.toList) arg.toList

/-- The arguments of a command, with all places of an argument filled at once. -/
def renderAtOnce (c : CommandTemplate) (language : String) (inputs : List Path) (output : Path) :
    List String :=
  c.args.flatMap fun arg =>
    if arg = inputPlace then inputs.map (·.text) else [fillAtOnce language inputs output arg]

/-- Wherever the value is put, it takes no part in an occurrence of the place. -/
def Inert (value place : String) : Prop := overlaps place.toList value.toList = false

instance (value place : String) : Decidable (Inert value place) :=
  inferInstanceAs (Decidable (_ = _))

/-- The texts of the places. -/
def marks : List (List Char) := [languagePlace.toList, inputPlace.toList, outputPlace.toList]

theorem languagePlace_mem : languagePlace.toList ∈ marks := by decide

theorem inputPlace_mem : inputPlace.toList ∈ marks := by decide

theorem outputPlace_mem : outputPlace.toList ∈ marks := by decide

theorem mark_ne_nil : ∀ mark ∈ marks, mark ≠ [] := by decide

theorem marks_apart : ∀ p ∈ marks, ∀ q ∈ marks, p ≠ q → overlaps p q = false := by decide

theorem mem_marks_of_mem_places {l i o : List Char} : ∀ e ∈ places l i o, e.pattern ∈ marks := by
  simp [places, marks]

theorem apart_places (language inputs output : List Char) :
    Apart (places language inputs output) where
  nonempty e he := mark_ne_nil e.pattern (mem_marks_of_mem_places e he)
  pairwise := by
    have hnodup : marks.Nodup := by decide
    have hpairwise : marks.Pairwise fun p q => overlaps p q = false ∧ overlaps q p = false :=
      hnodup.imp_of_mem fun hp hq hne =>
        ⟨marks_apart _ hp _ hq hne, marks_apart _ hq _ hp hne.symm⟩
    exact .of_map Replacement.pattern (fun _ _ h => h)
      (show ((places language inputs output).map Replacement.pattern).Pairwise _ from hpairwise)

variable {language : String} {inputs : List Path} {output : Path} {arg : String}

theorem fill_eq : fill language inputs output arg =
    String.ofList ((places language.toList (joinedInputs inputs).toList output.text.toList).foldl
      (fun s e => substitute [e] s) arg.toList) := by
  rw [← String.toList_inj, String.toList_ofList, fill, toList_replaceText, toList_replaceText,
    toList_replaceText]
  rfl

/-! ## Values that may be filled in -/

/-- An argument is filled as it says if what it has places for can take no part in later places. -/
theorem fill_eq_fillAtOnce
    (hlanguage : languagePlace.toList <:+: arg.toList →
      Inert language inputPlace ∧ Inert language outputPlace)
    (hinputs : inputPlace.toList <:+: arg.toList → Inert (joinedInputs inputs) outputPlace) :
    fill language inputs output arg = fillAtOnce language inputs output arg := by
  rw [fill_eq, fillAtOnce, (apart_places _ _ _).foldl_substitute]
  exact .cons (List.forall_mem_cons.mpr ⟨fun h => (hlanguage h).1,
      List.forall_mem_singleton.mpr fun h => (hlanguage h).2⟩)
    (.cons (List.forall_mem_singleton.mpr hinputs) (List.pairwise_singleton _ _))

/-- Inputs that are spelled like their own place are not filled in at all. -/
theorem fill_eq_fillAtOnce_of_joinedInputs_eq (hinputs : joinedInputs inputs = inputPlace)
    (hlanguage : Inert language outputPlace) :
    fill language inputs output arg = fillAtOnce language inputs output arg := by
  -- so they may as well come first, where they cannot take part in anything
  have hplaces := apart_places language.toList inputPlace.toList output.text.toList
  have hfirst := hplaces.perm (List.Perm.swap _ _ _)
  have hself := substitute_self (e := ⟨inputPlace.toList, inputPlace.toList⟩)
    (mark_ne_nil _ inputPlace_mem) rfl
  rw [fill_eq, fillAtOnce, hinputs, hplaces.substitute_perm (List.Perm.swap _ _ _),
    ← hfirst.foldl_substitute]
  · simp only [places, List.foldl_cons, List.foldl_nil, hself]
  · exact .cons (List.forall_mem_cons.mpr
      ⟨fun _ => marks_apart _ languagePlace_mem _ inputPlace_mem (by decide),
        List.forall_mem_singleton.mpr fun _ =>
          marks_apart _ outputPlace_mem _ inputPlace_mem (by decide)⟩)
      (.cons (List.forall_mem_singleton.mpr fun _ => hlanguage) (List.pairwise_singleton _ _))

theorem render_eq_renderAtOnce {c : CommandTemplate}
    (h : ∀ arg ∈ c.args, arg ≠ inputPlace →
      fill language inputs output arg = fillAtOnce language inputs output arg) :
    c.render language inputs output = c.renderAtOnce language inputs output := by
  refine List.flatMap_congr fun arg harg => ?_
  unfold renderArg
  split
  · rfl
  · rename_i hne
    rw [h arg harg hne]

theorem fill_eq_of_render {arg : String} (harg : arg ≠ inputPlace)
    (h : ∀ c output, render c language inputs output = renderAtOnce c language inputs output)
    (output : Path) : fill language inputs output arg = fillAtOnce language inputs output arg := by
  have hcommand := h ⟨"", [arg]⟩ output
  unfold render renderAtOnce renderArg at hcommand
  simpa [harg] using hcommand

/-! ## Values that may not -/

/-- Parts from the front of a place start no place in front of another one, not even behind a
blank. Parts from its end hold none. -/
theorem marks_parts : ∀ mark ∈ marks,
    (∀ before ∈ mark.inits, before ≠ mark → ∀ next ∈ marks, ∀ rest ∈ (' ' :: before).tails,
      rest ≠ [] → ∀ pattern ∈ marks, agree pattern (rest ++ next) = false) ∧
    ∀ behind ∈ mark.tails, behind ≠ mark → ∀ pattern ∈ marks, occurs pattern behind = false := by
  decide +kernel

/-- What a value of an argument stands between, so that a place overlaps it. -/
structure Around (before behind : List Char) : Prop where
  before : ∀ next ∈ marks, ∀ rest ∈ (' ' :: before).tails, rest ≠ [] → ∀ pattern ∈ marks,
    agree pattern (rest ++ next) = false
  behind : ∀ pattern ∈ marks, ¬pattern <:+: behind

theorem exists_around {mark value : List Char} (hmark : mark ∈ marks)
    (h : overlaps mark value) :
    ∃ before behind, Around before behind ∧ mark <:+: before ++ (value ++ behind) := by
  obtain ⟨before, behind, hbefore, hbefore', hbehind, hbehind', hin⟩ :=
    exists_around_of_overlaps (mark_ne_nil mark hmark) h
  obtain ⟨hfront, hend⟩ := marks_parts mark hmark
  refine ⟨before, behind, ⟨hfront before ((List.mem_inits _ _).mpr hbefore) hbefore',
    fun pattern hpattern hocc => ?_⟩, hin⟩
  have hoccurs := hend behind ((List.mem_tails _ _).mpr hbehind) hbehind' pattern hpattern
  rw [occurs_iff.mpr hocc] at hoccurs
  cases hoccurs

/-- An argument with one place, between two parts of another. -/
def argumentAround (before mark behind : List Char) : List Char :=
  ' ' :: before ++ (mark ++ behind)

section

variable {table : List Replacement} {before behind mark : List Char}

theorem Around.substitute_append (h : Around before behind)
    (htable : ∀ e ∈ table, e.pattern ∈ marks) (hmark : mark ∈ marks) :
    substitute table (argumentAround before mark behind) =
      ' ' :: before ++ substitute table (mark ++ behind) := by
  refine substitute_append_of_none fun rest hrest hne =>
    findPattern?_eq_none_iff.mpr fun e he hstart => ?_
  have hagree := h.before mark hmark rest ((List.mem_tails _ _).mpr hrest) hne e.pattern
    (htable e he)
  rw [← List.append_assoc] at hstart
  rw [agree_iff.mpr (List.prefix_or_prefix_of_prefix hstart (List.prefix_append _ behind))]
    at hagree
  cases hagree

theorem Around.substitute_behind (h : Around before behind)
    (htable : ∀ e ∈ table, e.pattern ∈ marks) : substitute table behind = behind :=
  substitute_of_absent fun e he => h.behind e.pattern (htable e he)

/-- Its own place is filled. -/
theorem Around.substitute_mark (h : Around before behind) (hapart : Apart table)
    (htable : ∀ e ∈ table, e.pattern ∈ marks) {e : Replacement} (he : e ∈ table) :
    substitute table (argumentAround before e.pattern behind) =
      argumentAround before e.value behind := by
  rw [h.substitute_append htable (htable e he), hapart.substitute_append he,
    h.substitute_behind htable]
  rfl

/-- Other places are not found in it. -/
theorem Around.substitute_other (h : Around before behind)
    (htable : ∀ e ∈ table, e.pattern ∈ marks) (hmark : mark ∈ marks)
    (hother : ∀ e ∈ table, overlaps e.pattern mark = false) :
    substitute table (argumentAround before mark behind) = argumentAround before mark behind := by
  rw [h.substitute_append htable hmark, substitute_append_of_not_overlaps hother,
    h.substitute_behind htable]
  rfl

end

section

variable {before behind : List Char}

theorem argumentAround_ne (mark : List Char) :
    String.ofList (argumentAround before mark behind) ≠ inputPlace := by
  rw [ne_eq, ← String.toList_inj, String.toList_ofList]
  exact fun he => absurd (List.cons.inj he).1 (by decide)

/-- The language option in its place, before and after the other places are filled. -/
theorem fill_around_language (language : String) (inputs : List Path) (output : Path)
    (h : Around before behind) :
    (fill language inputs output
        (String.ofList (argumentAround before languagePlace.toList behind))).toList =
      substitute [⟨outputPlace.toList, output.text.toList⟩]
        (substitute [⟨inputPlace.toList, (joinedInputs inputs).toList⟩]
          (argumentAround before language.toList behind)) ∧
    (fillAtOnce language inputs output
        (String.ofList (argumentAround before languagePlace.toList behind))).toList =
      argumentAround before language.toList behind := by
  have hsingle : Apart [⟨languagePlace.toList, language.toList⟩] :=
    .single (mark_ne_nil _ languagePlace_mem)
  have hfirst := h.substitute_mark hsingle (List.forall_mem_singleton.mpr languagePlace_mem)
    List.mem_cons_self
  have hall := h.substitute_mark (apart_places language.toList (joinedInputs inputs).toList
    output.text.toList) mem_marks_of_mem_places List.mem_cons_self
  constructor
  · rw [fill_eq, String.toList_ofList, String.toList_ofList]
    simp only [places, List.foldl_cons, List.foldl_nil, hfirst]
  · rw [fillAtOnce, String.toList_ofList, String.toList_ofList, hall]

/-- The inputs in their place, before and after the place for the output is filled. -/
theorem fill_around_inputs (language : String) (inputs : List Path) (output : Path)
    (h : Around before behind) :
    (fill language inputs output
        (String.ofList (argumentAround before inputPlace.toList behind))).toList =
      substitute [⟨outputPlace.toList, output.text.toList⟩]
        (argumentAround before (joinedInputs inputs).toList behind) ∧
    (fillAtOnce language inputs output
        (String.ofList (argumentAround before inputPlace.toList behind))).toList =
      argumentAround before (joinedInputs inputs).toList behind := by
  have hother : substitute [⟨languagePlace.toList, language.toList⟩]
      (argumentAround before inputPlace.toList behind) =
        argumentAround before inputPlace.toList behind :=
    h.substitute_other (List.forall_mem_singleton.mpr languagePlace_mem) inputPlace_mem
      (List.forall_mem_singleton.mpr <|
        marks_apart _ languagePlace_mem _ inputPlace_mem (by decide))
  have hsingle : Apart [⟨inputPlace.toList, (joinedInputs inputs).toList⟩] :=
    .single (mark_ne_nil _ inputPlace_mem)
  have hfirst := h.substitute_mark hsingle (List.forall_mem_singleton.mpr inputPlace_mem)
    List.mem_cons_self
  have hall := h.substitute_mark (apart_places language.toList (joinedInputs inputs).toList
    output.text.toList) mem_marks_of_mem_places (List.mem_cons_of_mem _ List.mem_cons_self)
  constructor
  · rw [fill_eq, String.toList_ofList, String.toList_ofList]
    simp only [places, List.foldl_cons, List.foldl_nil, hother, hfirst]
  · rw [fillAtOnce, String.toList_ofList, String.toList_ofList, hall]

/-- A long output shows wherever its place occurs. -/
theorem exists_output_ne {s : List Char} (h : outputPlace.toList <:+: s) (t : List Char) :
    ∃ output : Path, substitute [⟨outputPlace.toList, output.text.toList⟩] s ≠ t := by
  let long := List.replicate (t.length + 9) ' '
  refine ⟨⟨String.ofList long⟩, fun he => ?_⟩
  rw [String.toList_ofList] at he
  obtain ⟨count, hpos, hlength⟩ :=
    exists_length_substitute (e := ⟨outputPlace.toList, long⟩) (mark_ne_nil _ outputPlace_mem) s
  have hpattern : outputPlace.toList.length = 8 := by decide
  have hlong : long.length = t.length + 9 := List.length_replicate
  have hcount := Nat.le_mul_of_pos_left t.length (hpos h)
  rw [he, hpattern, hlong, Nat.mul_add] at hlength
  have := hpos h
  omega

end

section

variable (h : ∀ c output, render c language inputs output = renderAtOnce c language inputs output)
include h

theorem inert_language_output_of_render : Inert language outputPlace := by
  by_contra hover
  rw [Inert, Bool.not_eq_false] at hover
  obtain ⟨before, behind, haround, hin⟩ := exists_around outputPlace_mem hover
  have hapart : overlaps inputPlace.toList outputPlace.toList = false ∧
      overlaps outputPlace.toList inputPlace.toList = false := by decide
  -- the place for the output is made in the first pass, and left by the second one
  have hkept : outputPlace.toList <:+:
      substitute [⟨inputPlace.toList, (joinedInputs inputs).toList⟩]
        (argumentAround before language.toList behind) :=
    (Apart.single (mark_ne_nil _ inputPlace_mem)).infix_substitute
      (List.forall_mem_singleton.mpr hapart)
      (hin.trans (List.suffix_cons ' ' _).isInfix)
  obtain ⟨output, hne⟩ := exists_output_ne hkept (argumentAround before language.toList behind)
  obtain ⟨hfill, hatOnce⟩ := fill_around_language language inputs output haround
  rw [fill_eq_of_render (argumentAround_ne _) h, hatOnce] at hfill
  exact hne hfill.symm

theorem inert_inputs_output_of_render : Inert (joinedInputs inputs) outputPlace := by
  by_contra hover
  rw [Inert, Bool.not_eq_false] at hover
  obtain ⟨before, behind, haround, hin⟩ := exists_around outputPlace_mem hover
  obtain ⟨output, hne⟩ := exists_output_ne (hin.trans (List.suffix_cons ' ' _).isInfix)
    (argumentAround before (joinedInputs inputs).toList behind)
  obtain ⟨hfill, hatOnce⟩ := fill_around_inputs language inputs output haround
  rw [fill_eq_of_render (argumentAround_ne _) h, hatOnce] at hfill
  exact hne hfill.symm

theorem inert_language_input_of_render (hinputs : joinedInputs inputs ≠ inputPlace) :
    Inert language inputPlace := by
  by_contra hover
  rw [Inert, Bool.not_eq_false] at hover
  obtain ⟨before, behind, haround, hin⟩ := exists_around inputPlace_mem hover
  -- an output that is spelled like its own place shows what the second pass did
  obtain ⟨hfill, hatOnce⟩ := fill_around_language language inputs ⟨outputPlace⟩ haround
  rw [fill_eq_of_render (argumentAround_ne _) h, hatOnce, substitute_self
    (mark_ne_nil _ outputPlace_mem) rfl] at hfill
  have hvalue : (joinedInputs inputs).toList ≠ inputPlace.toList := fun he =>
    hinputs (String.toList_inj.mp he)
  exact substitute_ne_self (mark_ne_nil _ inputPlace_mem) hvalue
    (hin.trans (List.suffix_cons ' ' _).isInfix) hfill.symm

end

/-! ## Values that builds fill in -/

/-- A value without a brace takes no part in a place that does not have its first character. -/
theorem inert_of_head {value place : String} {c : Char} {rest : List Char}
    (hplace : place.toList.head? = some '\x7b') (hvalue : value.toList = c :: rest)
    (hc : c ∉ place.toList) (hbrace : '\x7b' ∉ value.toList) : Inert value place := by
  obtain ⟨body, hplace⟩ := List.head?_eq_some_iff.mp hplace
  rw [Inert, ← Bool.not_eq_true, overlaps_iff, hplace]
  rw [hplace] at hc
  rintro (⟨inner, hinner, hne, hmeet⟩ | ⟨inner, hinner, hne, hmeet⟩)
  · -- an occurrence inside of the value would start with a brace
    obtain ⟨d, inner, rfl⟩ := List.exists_cons_of_ne_nil hne
    have hd : d = '\x7b' := by
      rcases hmeet with ⟨_, hmeet⟩ | ⟨_, hmeet⟩
      · exact (List.cons.inj hmeet).1.symm
      · exact (List.cons.inj hmeet).1
    exact hbrace (hd ▸ hinner.subset List.mem_cons_self)
  · -- one that reaches the value would have its first character
    obtain ⟨d, inner, rfl⟩ := List.exists_cons_of_ne_nil hne
    have hd : d = c := by
      rw [hvalue] at hmeet
      rcases hmeet with ⟨_, hmeet⟩ | ⟨_, hmeet⟩
      · exact (List.cons.inj hmeet).1
      · exact (List.cons.inj hmeet).1.symm
    exact hc (hd ▸ List.mem_cons_of_mem _ (hinner.subset List.mem_cons_self))

theorem brace_not_mem_stdFlag (v : LanguageVersion) : '\x7b' ∉ v.stdFlag.toList := by
  have hdigits : ∀ n : Nat, '\x7b' ∉ (toString n).toList := fun n hmem =>
    absurd (isDigit_of_mem_toString hmem) (by decide)
  unfold LanguageVersion.stdFlag LanguageVersion.display
  simp only [String.toList_append, List.mem_append, not_or]
  exact ⟨by decide, ⟨hdigits _, by decide⟩, hdigits _⟩

/-- The language option of a toolchain may be filled in anywhere. -/
theorem inert_stdFlag (v : LanguageVersion) :
    Inert v.stdFlag inputPlace ∧ Inert v.stdFlag outputPlace := by
  have hvalue : v.stdFlag.toList = 'm' :: ("acos-metal" ++ v.display).toList := by
    unfold LanguageVersion.stdFlag
    rw [String.toList_append, String.toList_append]
    rfl
  exact ⟨inert_of_head (by decide) hvalue (by decide) (brace_not_mem_stdFlag v),
    inert_of_head (by decide) hvalue (by decide) (brace_not_mem_stdFlag v)⟩

theorem joinedInputs_cons (p : Path) (inputs : List Path) :
    ∃ rest, (joinedInputs (p :: inputs)).toList = p.text.toList ++ rest ∧
      ∀ c ∈ rest, c = ' ' ∨ ∃ q ∈ inputs, c ∈ q.text.toList := by
  induction inputs generalizing p with
  | nil => exact ⟨[], by simp [joinedInputs], fun c hc => absurd hc List.not_mem_nil⟩
  | cons q inputs ih =>
    obtain ⟨rest, hrest, hmem⟩ := ih q
    have hjoined : joinedInputs (p :: q :: inputs) = p.text ++ " " ++ joinedInputs (q :: inputs) :=
      String.intercalate_cons_cons
    refine ⟨' ' :: (q.text.toList ++ rest), ?_, fun c hc => ?_⟩
    · rw [hjoined, String.toList_append, String.toList_append, hrest, List.append_assoc]
      rfl
    · rw [List.mem_cons, List.mem_append] at hc
      rcases hc with rfl | hc | hc
      · exact .inl rfl
      · exact .inr ⟨q, List.mem_cons_self, hc⟩
      · exact (hmem c hc).imp_right fun ⟨r, hr, hcr⟩ => ⟨r, List.mem_cons_of_mem q hr, hcr⟩

/-- So may absolute paths without a brace. -/
theorem inert_joinedInputs (hne : inputs ≠ [])
    (hpaths : ∀ p ∈ inputs, p.isAbsolute ∧ '\x7b' ∉ p.text.toList) :
    Inert (joinedInputs inputs) outputPlace := by
  obtain ⟨p, inputs, rfl⟩ := List.exists_cons_of_ne_nil hne
  obtain ⟨⟨habsolute, hbrace⟩, hpaths⟩ := List.forall_mem_cons.mp hpaths
  obtain ⟨rest, hjoined, hmem⟩ := joinedInputs_cons p inputs
  obtain ⟨name, hname⟩ := List.head?_eq_some_iff.mp (of_decide_eq_true habsolute)
  have hvalue : (joinedInputs (p :: inputs)).toList = '/' :: (name ++ rest) := by
    rw [hjoined, hname, List.cons_append]
  refine inert_of_head (by decide) hvalue (by decide) ?_
  rw [hjoined, List.mem_append, not_or]
  refine ⟨hbrace, fun hrest => ?_⟩
  rcases hmem _ hrest with hblank | ⟨q, hq, hcq⟩
  · exact absurd hblank (by decide)
  · exact (hpaths q hq).2 hcq

/-- The standard commands give the inputs arguments of their own. -/
theorem not_infix_of_mem_standard {c : CommandTemplate}
    (hc : c ∈ [ToolchainSettings.standard.compiler, ToolchainSettings.standard.linker])
    (harg : arg ∈ c.args) (hne : arg ≠ inputPlace) : ¬inputPlace.toList <:+: arg.toList := by
  have hall : ∀ c ∈ [ToolchainSettings.standard.compiler, ToolchainSettings.standard.linker],
      ∀ arg ∈ c.args, arg ≠ inputPlace → occurs inputPlace.toList arg.toList = false := by
    decide
  rw [← occurs_iff, hall c hc arg harg hne]
  exact Bool.false_ne_true

/-- **What the places of a command hold.** An argument is filled as it says if what it has places
for may be filled in. For every template and output that is so exactly if the language option and
the inputs take no part in what is filled later. -/
theorem renders_at_once (language : String) (inputs : List Path) :
    (∀ c output,
      (∀ arg ∈ c.args, arg ≠ inputPlace →
        (languagePlace.toList <:+: arg.toList →
          Inert language inputPlace ∧ Inert language outputPlace) ∧
        (inputPlace.toList <:+: arg.toList → Inert (joinedInputs inputs) outputPlace)) →
      render c language inputs output = renderAtOnce c language inputs output) ∧
    ((∀ c output, render c language inputs output = renderAtOnce c language inputs output) ↔
      Inert language outputPlace ∧ Inert (joinedInputs inputs) outputPlace ∧
        (joinedInputs inputs = inputPlace ∨ Inert language inputPlace)) ∧
    (∀ v : LanguageVersion, Inert v.stdFlag inputPlace ∧ Inert v.stdFlag outputPlace) ∧
    (inputs ≠ [] → (∀ p ∈ inputs, p.isAbsolute ∧ '\x7b' ∉ p.text.toList) →
      Inert (joinedInputs inputs) outputPlace) ∧
    ∀ c ∈ [ToolchainSettings.standard.compiler, ToolchainSettings.standard.linker],
      ∀ (v : LanguageVersion) output,
        render c v.stdFlag inputs output = renderAtOnce c v.stdFlag inputs output := by
  refine ⟨fun c output h => render_eq_renderAtOnce fun arg harg hne =>
      fill_eq_fillAtOnce (h arg harg hne).1 (h arg harg hne).2,
    ⟨fun h => ⟨inert_language_output_of_render h, inert_inputs_output_of_render h,
      or_iff_not_imp_left.mpr (inert_language_input_of_render h)⟩, ?_⟩,
    inert_stdFlag, inert_joinedInputs, fun c hc v output => ?_⟩
  · rintro ⟨hlanguage, hinputs, hself | hinput⟩ c output
    · exact render_eq_renderAtOnce fun _ _ _ =>
        fill_eq_fillAtOnce_of_joinedInputs_eq hself hlanguage
    · exact render_eq_renderAtOnce fun _ _ _ =>
        fill_eq_fillAtOnce (fun _ => ⟨hinput, hlanguage⟩) fun _ => hinputs
  · exact render_eq_renderAtOnce fun arg harg hne =>
      fill_eq_fillAtOnce (fun _ => inert_stdFlag v) fun hin =>
        absurd hin (not_infix_of_mem_standard hc harg hne)

/-- An output that is spelled like a place is no matter, in whatever argument. -/
theorem renders_at_once_mixed :
    let c : CommandTemplate :=
      ⟨"cc", ["-std=\x7bstd\x7d", inputPlace, "-M\x7bstd\x7d:\x7binput\x7d:\x7boutput\x7d"]⟩
    let inputs : List Path := [⟨"/a/k.metal"⟩, ⟨"/b"⟩]
    c.render "metal3.0" inputs ⟨"\x7bstd\x7d"⟩ =
        c.renderAtOnce "metal3.0" inputs ⟨"\x7bstd\x7d"⟩ ∧
      c.render "metal3.0" inputs ⟨"\x7bstd\x7d"⟩ =
        ["-std=metal3.0", "/a/k.metal", "/b", "-Mmetal3.0:/a/k.metal /b:\x7bstd\x7d"] := by
  intro c inputs
  have hlanguage : Inert "metal3.0" inputPlace ∧ Inert "metal3.0" outputPlace := by decide
  obtain ⟨hrender, -, -, hinputs, -⟩ := renders_at_once "metal3.0" inputs
  exact ⟨hrender c _ fun _ _ _ =>
    ⟨fun _ => hlanguage, fun _ => hinputs (by decide) (by decide)⟩, by decide⟩

/-- The place for the output is filled in the path of an input, though not where the path is an
argument of its own. -/
theorem exists_value_filled_again :
    let c : CommandTemplate := ⟨"cc", [inputPlace, "--in=\x7binput\x7d"]⟩
    let input : Path := ⟨"/w/\x7boutput\x7d/k.metal"⟩
    c.render "macos-metal2.4" [input] ⟨"/k.air"⟩ =
        ["/w/\x7boutput\x7d/k.metal", "--in=/w//k.air/k.metal"] ∧
      c.renderAtOnce "macos-metal2.4" [input] ⟨"/k.air"⟩ =
        ["/w/\x7boutput\x7d/k.metal", "--in=/w/\x7boutput\x7d/k.metal"] := by
  decide

end KernelLink.CommandTemplate
