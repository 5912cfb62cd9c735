import KernelLink.Proofs.Source.Steps
import KernelLink.Proofs.Source.TypeTokens

/-!
# Reading back what is written

Headers and parameter lists are read by searching: for the parenthesis, for the name from the end,
for commas. On a written declaration every search finds what was written there, since names and
types have none of the characters that are searched for, and blanks around parts are not part of
them.
-/

namespace KernelLink

/-! ## Headers -/

section

variable {p : Char → Bool} {s : List Char} {c : Char}

/-- A run ends where the first other character stands. -/
theorem takeWhile_until (hs : ∀ d ∈ s, p d) (hc : p c = false) (t : List Char) :
    (s ++ c :: t).takeWhile p = s := by
  rw [List.takeWhile_append_of_pos hs,
    List.takeWhile_cons_of_neg (by rw [hc]; exact Bool.false_ne_true), List.append_nil]

theorem dropWhile_until (hs : ∀ d ∈ s, p d) (hc : p c = false) (t : List Char) :
    (s ++ c :: t).dropWhile p = c :: t := by
  rw [List.dropWhile_append_of_pos hs,
    List.dropWhile_cons_of_neg (by rw [hc]; exact Bool.false_ne_true)]

end

/-- The word at the end of a text, and what stands before it. -/
structure LastWord (front name : List Char) : Prop where
  word : ∀ c ∈ name, isWordChar c
  before : front = [] ∨ ∃ front' c, front = front' ++ [c] ∧ isWordChar c = false

theorem LastWord.takeWhile_reverse {front name : List Char} (h : LastWord front name) :
    ((front ++ name).reverse.takeWhile isWordChar).reverse = name := by
  have hname : ∀ c ∈ name.reverse, isWordChar c := fun c hc => h.word c (List.mem_reverse.mp hc)
  rw [List.reverse_append, List.takeWhile_append_of_pos hname]
  rcases h.before with rfl | ⟨front, c, rfl, hc⟩
  · rw [List.reverse_nil, List.takeWhile_nil, List.append_nil, List.reverse_reverse]
  · rw [List.reverse_concat, List.takeWhile_cons_of_neg (by rw [hc]; exact Bool.false_ne_true),
      List.append_nil, List.reverse_reverse]

theorem exists_lastWord (s : List Char) :
    ∃ front name, s = front ++ name ∧ LastWord front name := by
  obtain ⟨name, hname, hs⟩ := exists_dropEndWhile isWordChar s
  exact ⟨_, name, hs, hname, dropEndWhile_last isWordChar s⟩

/-- **A header is a type and the last word**, unless the word goes on to the left in a script that
names are not written in. -/
theorem readHeader?_eq {header front name : List Char} (hheader : trimBlanks header = front ++ name)
    (h : LastWord front name) :
    readHeader? header =
      if front.getLast?.any (127 < ·.toNat) || name.isEmpty || (trimBlanks front).isEmpty then none
      else some (normalizeType (String.ofList (trimBlanks front)), String.ofList name) := by
  have hfront : (front ++ name).take ((front ++ name).length - name.length) = front := by
    rw [List.length_append, Nat.add_sub_cancel, List.take_left' rfl]
  unfold readHeader?
  dsimp only
  rw [hheader, h.takeWhile_reverse, hfront]

/-- A type and a name are read as they are, whatever blanks stand before them. -/
theorem readHeader?_written {type name : List Char} (htype : typeTokens type ≠ [])
    (hname : isIdentifier name) :
    readHeader? (type ++ ' ' :: name) =
      some (String.ofList (spellTokens (typeTokens type)), String.ofList name) := by
  have hword := isWordChar_of_mem_identifier hname
  have hblank : ∀ c ∈ name, isBlank c = false := fun c hc => (isWordChar_apart (hword c hc)).2
  -- The header without the blanks before the type.
  have htokens : typeTokens (type.dropWhile isBlank) = typeTokens type := by
    have hblanks : ∀ c ∈ type.takeWhile isBlank, isBlank c :=
      List.all_eq_true.mp List.all_takeWhile
    rw [← typeTokens_blanks_append hblanks, List.takeWhile_append_dropWhile]
  have hne : type.dropWhile isBlank ≠ [] := by
    intro hnil
    rw [hnil] at htokens
    exact htype htokens.symm
  have htrim : trimBlanks (type ++ ' ' :: name) = type.dropWhile isBlank ++ ' ' :: name := by
    unfold trimBlanks trimWhile
    rw [List.dropWhile_append, if_neg (by simpa using hne)]
    obtain ⟨front, c, hlast, hc⟩ := (Trimmed.of_forall (isIdentifier.ne_nil hname) hblank).last
    rw [hlast, ← List.cons_append, ← List.append_assoc, dropEndWhile_append_keep hc]
    rfl
  have hlast : LastWord (type.dropWhile isBlank ++ [' ']) name :=
    ⟨hword, .inr ⟨_, ' ', rfl, by decide⟩⟩
  have hreturn : typeTokens (trimBlanks (type.dropWhile isBlank ++ [' '])) = typeTokens type := by
    rw [typeTokens_trimBlanks,
      typeTokens_append_blanks (List.forall_mem_singleton.mpr (by decide)), htokens]
  have hreturnNe : trimBlanks (type.dropWhile isBlank ++ [' ']) ≠ [] := by
    intro hnil
    rw [hnil] at hreturn
    exact htype hreturn.symm
  rw [readHeader?_eq (by rw [htrim, List.append_assoc, List.singleton_append]) hlast,
    List.getLast?_concat, List.isEmpty_eq_false_iff.mpr (isIdentifier.ne_nil hname),
    List.isEmpty_eq_false_iff.mpr hreturnNe]
  unfold normalizeType
  rw [String.toList_ofList, hreturn]
  rfl

theorem isIdentifier.not_mem {name : List Char} (h : isIdentifier name) {c : Char}
    (hc : isWordChar c = false) : c ∉ name := by
  intro hmem
  have hword := isWordChar_of_mem_identifier h c hmem
  rw [hc] at hword
  cases hword

/-- A declaration is read up to the end of its parameter list. -/
theorem IsWordType.readsSignature {type name : String} (htype : IsWordType type)
    (hname : isIdentifier name.toList) {blank : Char} (hblank : isBlank blank) {inside : List Char}
    (hinside : Balanced '(' ')' inside) (following : List Char) :
    ReadsSignature
      (blank :: (type.toList ++ ' ' :: (name.toList ++ '(' :: (inside ++ ')' :: following))))
      (normalizeType type) name inside following := by
  have hheader : ∀ c ∈ blank :: (type.toList ++ ' ' :: name.toList), (c ≠ '(' : Bool) := by
    intro c hc
    refine decide_eq_true fun hopen => ?_
    subst hopen
    rw [List.mem_cons, List.mem_append, List.mem_cons] at hc
    rcases hc with rfl | hc | hc | hc
    · revert hblank; decide
    · exact htype.not_mem (by decide) (by decide) (by decide) hc
    · revert hc; decide
    · exact isIdentifier.not_mem hname (by decide) hc
  have hrest :
      blank :: (type.toList ++ ' ' :: (name.toList ++ '(' :: (inside ++ ')' :: following))) =
        blank :: (type.toList ++ ' ' :: name.toList) ++ '(' :: (inside ++ ')' :: following) := by
    simp
  have htokens : typeTokens (blank :: type.toList) ≠ [] := by
    rw [typeTokens_cons_blank hblank]
    exact htype.tokens_ne_nil
  rw [hrest]
  constructor
  · rw [takeWhile_until hheader (by decide), ← List.cons_append,
      readHeader?_written htokens hname, typeTokens_cons_blank hblank, String.ofList_toList]
    rfl
  · rw [dropWhile_until hheader (by decide)]
    exact hinside.enclosed?_eq (by decide) following

/-! ## Parameter lists -/

theorem splitAtEach_of_not_mem {part : List Char} {c : Char} (h : c ∉ part) :
    splitAtEach c part = [part] := by
  induction part with
  | nil => rfl
  | cons d part ih =>
    rw [List.mem_cons, not_or] at h
    rw [splitAtEach, if_neg (Ne.symm h.1), ih h.2]

theorem splitAtEach_append {part : List Char} {c : Char} (h : c ∉ part) (t : List Char) :
    splitAtEach c (part ++ c :: t) = part :: splitAtEach c t := by
  induction part with
  | nil => rw [List.nil_append, splitAtEach, if_pos rfl]
  | cons d part ih =>
    rw [List.mem_cons, not_or] at h
    rw [List.cons_append, splitAtEach, if_neg (Ne.symm h.1), ih h.2]

/-- Parameters with commas between them. -/
def listed (parameters : List (List Char)) : List Char := [',', ' '].intercalate parameters

theorem listed_singleton (p : List Char) : listed [p] = p := List.append_nil p

theorem listed_cons (p q : List Char) (rest : List (List Char)) :
    listed (p :: q :: rest) = p ++ ([',', ' '] ++ listed (q :: rest)) := rfl

theorem cons_listed (c : Char) (p : List Char) (rest : List (List Char)) :
    c :: listed (p :: rest) = listed ((c :: p) :: rest) := by
  cases rest <;> rfl

/-- Every parameter but the first keeps the space before it. -/
theorem splitAtEach_listed {p : List Char} {rest : List (List Char)}
    (h : ∀ q ∈ p :: rest, ',' ∉ q) :
    splitAtEach ',' (listed (p :: rest)) = p :: rest.map (' ' :: ·) := by
  induction rest generalizing p with
  | nil =>
    rw [listed_singleton, splitAtEach_of_not_mem (h p List.mem_cons_self)]
    rfl
  | cons q rest ih =>
    obtain ⟨hp, hq, hrest⟩ : ',' ∉ p ∧ ',' ∉ q ∧ ∀ r ∈ rest, ',' ∉ r := by
      simpa only [List.forall_mem_cons] using h
    have hspace : ',' ∉ ' ' :: q := by simpa using hq
    -- The space behind the comma goes to the next parameter.
    have hcons : listed (p :: q :: rest) = p ++ ',' :: listed ((' ' :: q) :: rest) := by
      rw [← cons_listed]
      exact listed_cons p q rest
    rw [hcons, splitAtEach_append hp, ih (List.forall_mem_cons.mpr ⟨hspace, hrest⟩)]
    rfl

theorem trimmed_listed {p : List Char} {rest : List (List Char)}
    (h : ∀ q ∈ p :: rest, Trimmed isBlank q) : Trimmed isBlank (listed (p :: rest)) := by
  induction rest generalizing p with
  | nil =>
    rw [listed_singleton]
    exact h p List.mem_cons_self
  | cons q rest ih =>
    obtain ⟨hp, hrest⟩ := List.forall_mem_cons.mp h
    rw [listed_cons]
    exact hp.append (ih hrest) _

theorem parameterType_cons_blank {c : Char} (hc : isBlank c) (parameter : List Char) :
    parameterType (String.ofList (c :: parameter)) = parameterType (String.ofList parameter) := by
  rw [parameterType_eq, parameterType_eq, String.toList_ofList, String.toList_ofList,
    typeTokens_cons_blank hc]

/-- **A parameter list is read parameter by parameter.** -/
theorem readParameters_listed {parameters : List (List Char)}
    (htrim : ∀ p ∈ parameters, Trimmed isBlank p) (hcomma : ∀ p ∈ parameters, ',' ∉ p)
    (hvoid : parameters ≠ ["void".toList]) :
    readParameters (listed parameters) =
      parameters.map fun p => parameterType (String.ofList p) := by
  cases parameters with
  | nil => rfl
  | cons p rest =>
    have hlist := trimmed_listed htrim
    have hempty : (listed (p :: rest)).isEmpty = false :=
      List.isEmpty_eq_false_iff.mpr hlist.ne_nil
    -- A list that reads `void` as a whole is one parameter, since more of them have a comma.
    have hne : listed (p :: rest) ≠ "void".toList := by
      cases rest with
      | nil =>
        rw [listed_singleton]
        exact fun h => hvoid (by rw [h])
      | cons q rest =>
        intro h
        have hmem : ',' ∈ listed (p :: q :: rest) := by
          rw [listed_cons]
          exact List.mem_append_right _ List.mem_cons_self
        rw [h] at hmem
        revert hmem
        decide
    unfold readParameters
    dsimp only
    rw [show trimBlanks (listed (p :: rest)) = listed (p :: rest) from hlist.trimWhile_eq, hempty,
      Bool.false_or, if_neg (by simpa using hne), splitAtEach_listed hcomma, List.map_cons,
      List.map_cons, List.map_map]
    exact congrArg _ (List.map_congr_left fun q _ => parameterType_cons_blank (by decide) q)

/-! ## One declaration -/

/-- A text that is one declaration and a newline. -/
theorem scanItems_declaration {text s : List Char} {item : ScannedItem}
    (h : declarationAt? text false s = some (.ok (item, ['\n']))) :
    scanItems text 0 false s = .ok [item] := by
  rw [scanItems_of_declares text (declarationAt?_eq_ok_iff.mp h)]
  rfl

theorem declarationAt?_visible (text rest : List Char) :
    declarationAt? text false (visibleMark ++ rest) = some (readVisible text rest) := by
  have hintrinsic : startsWithWord intrinsicWord false (visibleMark ++ rest) = false := rfl
  have hprefix : visibleMark.isPrefixOf (visibleMark ++ rest) :=
    List.isPrefixOf_iff_prefix.mpr (List.prefix_append _ _)
  unfold declarationAt?
  rw [hintrinsic, if_neg Bool.false_ne_true, if_pos hprefix, List.drop_left]

theorem declarationAt?_kernel (text rest : List Char) :
    declarationAt? text false (kernelWord ++ ' ' :: rest) =
      some (readKernel text (' ' :: rest)) := by
  have hintrinsic : startsWithWord intrinsicWord false (kernelWord ++ ' ' :: rest) = false := rfl
  have hvisible : visibleMark.isPrefixOf (kernelWord ++ ' ' :: rest) = false := rfl
  have hkernel : startsWithWord kernelWord false (kernelWord ++ ' ' :: rest) = true := rfl
  unfold declarationAt?
  rw [hintrinsic, if_neg Bool.false_ne_true, hvisible, if_neg Bool.false_ne_true, if_pos hkernel,
    List.drop_left]

end KernelLink
