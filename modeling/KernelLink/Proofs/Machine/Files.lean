import KernelLink.Machine.Files
import KernelLink.Proofs.Source.Declaration

/-!
# Inside and outside of a directory

Two trees are the same outside of a location if removing the location makes them equal. A change at
or below the location is of no account then, and a path that is followed from outside finds the same
way in both trees, up to the location and no further. So what is written to a name inside of a
directory is inside of it, and whatever was done there is undone by removing the directory.
-/

namespace KernelLink

theorem splitAtEach_ne_nil (c : Char) (s : List Char) : splitAtEach c s ≠ [] := by
  cases s with
  | nil => exact List.cons_ne_nil _ _
  | cons x s =>
    rw [splitAtEach]
    split
    · exact List.cons_ne_nil _ _
    · split <;> exact List.cons_ne_nil _ _

/-- A separator keeps what stands before it and what stands behind it apart. -/
theorem splitAtEach_append_cons (c : Char) (s t : List Char) :
    splitAtEach c (s ++ c :: t) = splitAtEach c s ++ splitAtEach c t := by
  induction s with
  | nil =>
    show splitAtEach c (c :: t) = [] :: splitAtEach c t
    rw [splitAtEach, if_pos rfl]
  | cons x s ih =>
    rw [List.cons_append, splitAtEach, splitAtEach, ih]
    by_cases hx : x = c
    · rw [if_pos hx, if_pos hx]
      rfl
    · rw [if_neg hx, if_neg hx]
      cases hs : splitAtEach c s with
      | nil => exact absurd hs (splitAtEach_ne_nil c s)
      | cons part parts => rfl

/-! ## Names inside of directories -/

namespace Path

variable {p : Path} {name : String}

/-- A name that leads neither through a directory nor out of one. -/
structure PlainName (name : String) : Prop where
  nonempty : name ≠ ""
  slash : '/' ∉ name.toList
  up : name ≠ ".."

/-- The names that a path leads through. -/
def names (p : Path) : List String := p.pieces.filter (!·.isEmpty)

theorem PlainName.not_isAbsolute (h : PlainName name) : (Path.mk name).isAbsolute = false := by
  unfold isAbsolute
  cases hs : name.toList with
  | nil => rfl
  | cons c s =>
    have hc : c ≠ '/' := fun he => h.slash (by rw [hs, he]; exact List.mem_cons_self)
    simp [hc]

theorem join_of_plainName (h : PlainName name) (hp : p.isEmpty = false) :
    p.join name =
      if p.endsWithSlash then ⟨p.text ++ name⟩ else ⟨p.text ++ "/" ++ name⟩ := by
  unfold join
  rw [h.not_isAbsolute, hp]
  rfl

theorem isAbsolute_join (h : PlainName name) (hp : p.isEmpty = false) :
    (p.join name).isAbsolute = p.isAbsolute := by
  obtain ⟨c, s, htext⟩ : ∃ c s, p.text.toList = c :: s := by
    refine List.exists_cons_of_ne_nil fun he => ?_
    rw [String.toList_eq_nil_iff] at he
    unfold isEmpty at hp
    rw [he] at hp
    exact absurd hp (by decide)
  rw [join_of_plainName h hp]
  unfold isAbsolute
  split
  · rw [String.toList_append, htext]
    rfl
  · rw [String.toList_append, String.toList_append, htext]
    rfl

theorem filter_pieces_singleton (h : PlainName name) :
    ([name.toList].map String.ofList).filter (!·.isEmpty) = [name] := by
  rw [List.map_singleton, String.ofList_toList]
  have hne : name.isEmpty = false := by
    rw [← Bool.not_eq_true, String.isEmpty_iff]
    exact h.nonempty
  simp [hne]

/-- A name inside of a directory is one more name on the way. -/
theorem names_join (h : PlainName name) (hp : p.isEmpty = false) :
    (p.join name).names = p.names ++ [name] := by
  rw [join_of_plainName h hp]
  unfold names pieces
  split
  · rename_i hslash
    obtain ⟨s, hs⟩ : ∃ s, p.text.toList = s ++ ['/'] := by
      unfold endsWithSlash at hslash
      exact List.getLast?_eq_some_iff.mp (of_decide_eq_true hslash)
    -- the slash at the end separates nothing, and now it separates the name
    have hnothing : ([([] : List Char)].map String.ofList).filter (!·.isEmpty) = [] := by decide
    dsimp only
    rw [String.toList_append, hs, List.append_assoc, List.singleton_append,
      splitAtEach_append_cons, splitAtEach_append_cons, splitAtEach_of_not_mem h.slash]
    rw [List.map_append, List.map_append, List.filter_append, List.filter_append,
      filter_pieces_singleton h, splitAtEach, hnothing, List.append_nil]
  · dsimp only
    rw [String.toList_append, String.toList_append, List.append_assoc,
      show "/".toList = ['/'] from rfl, List.singleton_append, splitAtEach_append_cons,
      splitAtEach_of_not_mem h.slash, List.map_append, List.filter_append,
      filter_pieces_singleton h]

end Path

namespace FileTree

variable {t t' : FileTree} {base place place' l : Location} {node : FileNode}

/-! ## Removing -/

theorem get?_remove_outside (h : ¬place <+: l) : (t.remove place).get? l = t.get? l := by
  unfold get? remove
  dsimp only
  have hkeep : place.isPrefixOf l = false :=
    Bool.eq_false_iff.mpr fun he => h (List.isPrefixOf_iff_prefix.mp he)
  have hpred : (fun a : Location × FileNode =>
      decide ((!place.isPrefixOf a.1) = true ∧ decide (a.1 = l) = true)) =
        fun a => decide (a.1 = l) := by
    funext a
    by_cases ha : a.1 = l
    · simp [ha, hkeep]
    · simp [ha]
  rw [List.find?_filter, hpred]

theorem get?_remove_inside (h : place <+: l) (hl : l ≠ []) : (t.remove place).get? l = none := by
  unfold get? remove
  dsimp only
  have hgone : place.isPrefixOf l = true := List.isPrefixOf_iff_prefix.mpr h
  have hpred : (fun a : Location × FileNode =>
      decide ((!place.isPrefixOf a.1) = true ∧ decide (a.1 = l) = true)) = fun _ => false := by
    funext a
    by_cases ha : a.1 = l
    · simp [ha, hgone]
    · simp [ha]
  rw [if_neg (by simpa using hl), List.find?_filter, hpred]
  simp

/-- What is left after a removal was there before. -/
theorem get?_of_get?_remove (h : (t.remove place).get? l = some node) : t.get? l = some node := by
  by_cases hp : place <+: l
  · by_cases hl : l = []
    · subst hl
      exact h
    · rw [get?_remove_inside hp hl] at h
      cases h
  · rwa [get?_remove_outside hp] at h

/-- What is put inside of a location goes with it. -/
theorem remove_put (h : place <+: l) : (t.put l node).remove place = t.remove place := by
  have hkeep : ∀ a : Location × FileNode,
      (!place.isPrefixOf a.1 && decide (a.1 ≠ l)) = !place.isPrefixOf a.1 := by
    intro a
    by_cases ha : a.1 = l
    · rw [ha, List.isPrefixOf_iff_prefix.mpr h]
      rfl
    · simp [ha]
  unfold remove put
  dsimp only
  rw [List.filter_cons_of_neg (by simp [List.isPrefixOf_iff_prefix.mpr h]), List.filter_filter]
  simp only [hkeep]

/-- Every location below something that is not there is not there either, and has no permissions. -/
def Closed (t : FileTree) : Prop := ∀ place, t.get? place = none → t.remove place = t

/-- A tree with one file in its root. -/
theorem closed_of_root (name : String) (node : FileNode) : (mk [([name], node)] []).Closed := by
  intro place hplace
  have hnot : place.isPrefixOf [name] = false := by
    rw [Bool.eq_false_iff, ne_eq, List.isPrefixOf_iff_prefix]
    intro hprefix
    rcases List.prefix_cons_iff.mp hprefix with rfl | ⟨rest, rfl, hrest⟩
    · cases hplace
    · obtain rfl := List.prefix_nil.mp hrest
      simp [get?] at hplace
  unfold remove
  rw [List.filter_cons_of_pos (by rw [hnot]; rfl)]
  rfl

/-! ## Following a path through another tree -/

/-- What is in the first tree is in the second as well. -/
def Within (t t' : FileTree) : Prop := ∀ l node, t.get? l = some node → t'.get? l = some node

theorem within_of_remove_eq (h : t'.remove place = t) : t.Within t' :=
  fun _ _ hl => get?_of_get?_remove (h ▸ hl)

theorem descend_singleton {name : String} (hup : name ≠ "..")
    (h : t.descend place [name] = .ok place') : place <+: place' := by
  unfold descend at h
  split at h
  · cases h
    exact List.prefix_rfl
  · split at h
    · cases h
    · dsimp only at h
      rw [if_pos (by rfl)] at h
      cases h
      exact List.prefix_append _ _

/-- A way that can be gone in a tree can be gone in a larger one. -/
theorem descend_of_within (hw : t.Within t') {names : List String}
    (h : t.descend l names = .ok place) : t'.descend l names = .ok place := by
  induction names generalizing l with
  | nil => exact h
  | cons name rest ih =>
    rw [descend] at h ⊢
    split at h
    · rename_i hdot
      rw [if_pos hdot]
      exact ih h
    · rename_i hdot
      rw [if_neg hdot]
      split at h
      · rename_i hup
        rw [if_pos hup]
        exact ih h
      · rename_i hup
        rw [if_neg hup]
        split at h
        · cases h
        · rename_i hlong
          rw [if_neg hlong]
          dsimp only at h ⊢
          split at h
          · rename_i hlast
            rw [if_pos hlast]
            exact h
          · rename_i hlast
            rw [if_neg hlast]
            split at h
            · rename_i hdir
              rw [hw _ _ hdir]
              exact ih h
            · cases h
            · cases h

/-- A way to a place, and one plain name further, does not leave the place: the larger tree leads to
the place as the smaller one does. -/
theorem prefix_of_descend_concat (hw : t.Within t') {name : String} (hup : name ≠ "..")
    {names : List String} (h : t.descend l names = .ok place)
    (h' : t'.descend l (names ++ [name]) = .ok place') : place <+: place' := by
  induction names generalizing l with
  | nil =>
    cases h
    exact descend_singleton hup h'
  | cons first rest ih =>
    rw [List.cons_append, descend] at h'
    rw [descend] at h
    split at h
    · rename_i hdot
      rw [if_pos hdot] at h'
      exact ih h h'
    · rename_i hdot
      rw [if_neg hdot] at h'
      split at h
      · rename_i hback
        rw [if_pos hback] at h'
        exact ih h h'
      · rename_i hback
        rw [if_neg hback] at h'
        split at h
        · cases h
        · rename_i hlong
          rw [if_neg hlong] at h'
          dsimp only at h h'
          rw [if_neg (by simp)] at h'
          split at h
          · rename_i hlast
            -- the place itself is entered in the larger tree only
            obtain rfl := List.isEmpty_iff.mp hlast
            cases h
            split at h'
            · exact descend_singleton hup h'
            · cases h'
            · cases h'
          · split at h
            · rename_i hdir
              rw [hw _ _ hdir] at h'
              exact ih h h'
            · cases h
            · cases h

theorem locate_eq_ok_iff {p : Path} : t.locate base p = .ok place ↔
    p.text.toList.contains '\x00' = false ∧ p.isEmpty = false ∧
      ¬pathLimit < p.text.utf8ByteSize ∧
      t.descend (if p.isAbsolute then [] else base) p.names = .ok place := by
  unfold locate Path.names
  cases p.text.toList.contains '\x00' with
  | true => simp
  | false =>
    by_cases hempty : p.isEmpty = true
    · simp [hempty]
    · by_cases hlong : pathLimit < p.text.utf8ByteSize
      · simp [hempty, hlong]
      · simp [hempty, hlong]

theorem locate_of_within (hw : t.Within t') {p : Path} (h : t.locate base p = .ok place) :
    t'.locate base p = .ok place := by
  rw [locate_eq_ok_iff] at h ⊢
  exact ⟨h.1, h.2.1, h.2.2.1, descend_of_within hw h.2.2.2⟩

/-- A name inside of a directory is a location inside of it. -/
theorem prefix_of_locate_join (hw : t.Within t') {p : Path} {name : String}
    (hname : Path.PlainName name) (h : t.locate base p = .ok place)
    (h' : t'.locate base (p.join name) = .ok place') : place <+: place' := by
  obtain ⟨-, hempty, -, hdescend⟩ := locate_eq_ok_iff.mp h
  obtain ⟨-, -, -, hdescend'⟩ := locate_eq_ok_iff.mp h'
  rw [Path.isAbsolute_join hname hempty, Path.names_join hname hempty] at hdescend'
  exact prefix_of_descend_concat hw hname.up hdescend hdescend'

/-- Writing inside of a directory changes nothing outside of it. -/
theorem remove_write (hw : t.Within t') {p : Path} {name : String} {content : ByteArray}
    {t'' : FileTree} (hname : Path.PlainName name) (h : t.locate base p = .ok place)
    (h' : t'.write base (p.join name) content = .ok t'') :
    t''.remove place = t'.remove place := by
  unfold write at h'
  cases hl : t'.locate base (p.join name) with
  | error f => rw [hl] at h'; cases h'
  | ok target =>
    have hinside : place <+: target := prefix_of_locate_join hw hname h hl
    rw [hl] at h'
    dsimp only [bind, Except.bind] at h'
    split at h'
    · cases h'
    · split at h'
      · cases h'
      · cases h'
        exact remove_put hinside

theorem makeDirectory_of_error {p : Path} {f : FileFault} (h : t.locate base p = .error f) :
    t.makeDirectory base p = .error f := by
  unfold makeDirectory
  rw [h]
  rfl

theorem makeDirectory_of_some {p : Path} {node : FileNode} (h : t.locate base p = .ok place)
    (hg : t.get? place = some node) : t.makeDirectory base p = .error .alreadyExists := by
  unfold makeDirectory
  rw [h]
  dsimp only [bind, Except.bind]
  rw [hg]

theorem makeDirectory_of_none {p : Path} (h : t.locate base p = .ok place)
    (hg : t.get? place = none) : t.makeDirectory base p = .ok (t.put place .directory) := by
  unfold makeDirectory
  rw [h]
  dsimp only [bind, Except.bind]
  rw [hg]

end FileTree

/-! ## Steps that a fault ends -/

/-- Steps go on where the steps before them end, unless a fault ended those. -/
theorem run_bind {ε σ α β : Type} (m : ExceptT ε (StateM σ) α) (f : α → ExceptT ε (StateM σ) β)
    (t : σ) : (m >>= f).run t =
      match m.run t with
      | (.ok a, t') => (f a).run t'
      | (.error e, t') => (.error e, t') := by
  rw [ExceptT.run_bind]
  show StateT.bind (ExceptT.run m) _ t = _
  unfold StateT.bind
  rcases ExceptT.run m t with ⟨_ | _, _⟩ <;> rfl

end KernelLink
