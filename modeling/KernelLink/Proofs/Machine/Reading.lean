import KernelLink.Proofs.Machine.Files

/-!
# Reading back what was written

A path that is followed to a place goes through directories, and a file is written only to a place
that is none. So writing a file does not change the way to it, and what is read there is what was
written. Making directories takes nothing away, and removing does not change what is left.
-/

namespace KernelLink

theorem fromUTF8?_toUTF8 (s : String) : String.fromUTF8? s.toUTF8 = some s := by
  unfold String.fromUTF8?
  rw [String.toUTF8_eq_toByteArray, dif_pos s.isValidUTF8]
  rfl

namespace FileTree

variable {t t' : FileTree} {base place l : Location} {node : FileNode} {p : Path}
  {content : ByteArray}

/-! ## Larger trees -/

theorem Within.refl (t : FileTree) : t.Within t := fun _ _ h => h

theorem Within.trans {t'' : FileTree} (h : t.Within t') (h' : t'.Within t'') : t.Within t'' :=
  fun l node hl => h' l node (h l node hl)

theorem remove_within (t : FileTree) (place : Location) : (t.remove place).Within t :=
  within_of_remove_eq rfl

theorem lookup_eq_ok_iff : t.lookup base p = .ok node ↔
    ∃ place, t.locate base p = .ok place ∧ t.get? place = some node ∧
      (node.isDirectory = false → p.endsWithSlash = false) := by
  unfold lookup
  cases t.locate base p with
  | error f => simp [bind, Except.bind]
  | ok place =>
    cases hg : t.get? place with
    | none => simp [bind, Except.bind, hg]
    | some found =>
      cases found with
      | directory =>
        simp only [bind, Except.bind, hg, Except.ok.injEq, exists_eq_left', Option.some.injEq]
        refine ⟨fun h => ⟨h, ?_⟩, fun h => h.1⟩
        subst h
        exact nofun
      | file content =>
        simp only [bind, Except.bind, hg, Except.ok.injEq, exists_eq_left', Option.some.injEq]
        cases p.endsWithSlash with
        | false => simp
        | true =>
          refine ⟨nofun, fun h => ?_⟩
          obtain ⟨rfl, h⟩ := h
          cases h rfl

theorem read_eq_ok_iff :
    t.read base p = .ok content ↔ t.lookup base p = .ok (.file content) := by
  unfold read
  rcases t.lookup base p with f | ⟨_ | _⟩ <;> simp [bind, Except.bind]

theorem isFile_iff : t.isFile base p = true ↔ ∃ content, t.read base p = .ok content := by
  simp only [read_eq_ok_iff]
  unfold isFile
  rcases t.lookup base p with f | ⟨_ | _⟩ <;> simp

/-- What is found in a tree is found in a larger one. -/
theorem lookup_of_within (hw : t.Within t') (h : t.lookup base p = .ok node) :
    t'.lookup base p = .ok node := by
  obtain ⟨place, hplace, hg, hslash⟩ := lookup_eq_ok_iff.mp h
  exact lookup_eq_ok_iff.mpr ⟨place, locate_of_within hw hplace, hw _ _ hg, hslash⟩

theorem read_of_within (hw : t.Within t') (h : t.read base p = .ok content) :
    t'.read base p = .ok content :=
  read_eq_ok_iff.mpr (lookup_of_within hw (read_eq_ok_iff.mp h))

/-! ## Putting -/

theorem get?_put_self (h : place ≠ []) : (t.put place node).get? place = some node := by
  unfold get? put
  rw [if_neg (by simpa using h)]
  simp

theorem get?_put_of_ne (h : l ≠ place) : (t.put place node).get? l = t.get? l := by
  unfold get? put
  dsimp only
  have hpred : (fun a : Location × FileNode =>
      decide (decide (a.1 ≠ place) = true ∧ decide (a.1 = l) = true)) =
        fun a => decide (a.1 = l) := by
    funext a
    by_cases ha : a.1 = l
    · simp [ha, h]
    · simp [ha]
  rw [List.find?_cons_of_neg (by simpa using Ne.symm h), List.find?_filter, hpred]

theorem within_put (h : t.get? place = none) : t.Within (t.put place node) := by
  intro l found hl
  have hne : l ≠ place := by
    rintro rfl
    rw [h] at hl
    cases hl
  rwa [get?_put_of_ne hne]

/-- A way leads only through directories, so what is put in the place of something else is not on
it. -/
theorem descend_put (h : t.get? place ≠ some .directory) {names : List String} {found : Location}
    (hdescend : t.descend l names = .ok found) :
    (t.put place node).descend l names = .ok found := by
  induction names generalizing l with
  | nil => exact hdescend
  | cons name rest ih =>
    rw [descend] at hdescend ⊢
    split at hdescend
    · rename_i hdot
      rw [if_pos hdot]
      exact ih hdescend
    · rename_i hdot
      rw [if_neg hdot]
      split at hdescend
      · rename_i hup
        rw [if_pos hup]
        exact ih hdescend
      · rename_i hup
        rw [if_neg hup]
        split at hdescend
        · cases hdescend
        · rename_i hlong
          rw [if_neg hlong]
          dsimp only at hdescend ⊢
          split at hdescend
          · rename_i hlast
            rw [if_pos hlast]
            exact hdescend
          · rename_i hlast
            rw [if_neg hlast]
            split at hdescend
            · rename_i hdir
              have hne : l ++ [name] ≠ place := by
                rintro rfl
                exact h hdir
              rw [get?_put_of_ne hne, hdir]
              exact ih hdescend
            · cases hdescend
            · cases hdescend

theorem locate_put (h : t.get? place ≠ some .directory) {found : Location}
    (hlocate : t.locate base p = .ok found) : (t.put place node).locate base p = .ok found := by
  rw [locate_eq_ok_iff] at hlocate ⊢
  exact ⟨hlocate.1, hlocate.2.1, hlocate.2.2.1, descend_put h hlocate.2.2.2⟩

/-! ## Writing and copying -/

theorem write_eq_ok_iff : t.write base p content = .ok t' ↔
    ∃ place, t.locate base p = .ok place ∧ t.get? place ≠ some .directory ∧
      p.endsWithSlash = false ∧ t' = t.put place (.file content) := by
  unfold write
  cases t.locate base p with
  | error f => simp [bind, Except.bind]
  | ok place =>
    rcases hg : t.get? place with _ | ⟨_ | _⟩ <;> cases p.endsWithSlash <;>
      simp [bind, Except.bind, hg, eq_comm]

/-- **What was written is read back.** -/
theorem read_write (h : t.write base p content = .ok t') : t'.read base p = .ok content := by
  obtain ⟨place, hplace, hdir, hslash, rfl⟩ := write_eq_ok_iff.mp h
  have hroot : place ≠ [] := by
    rintro rfl
    exact hdir rfl
  exact read_eq_ok_iff.mpr (lookup_eq_ok_iff.mpr
    ⟨place, locate_put hdir hplace, get?_put_self hroot, fun _ => hslash⟩)

/-- Permissions are no part of what is read. -/
theorem within_permit (t : FileTree) (place : Location) (bits : Nat) :
    t.Within (t.permit place bits) := fun _ _ h => h

/-- A copy holds what it was made from. -/
theorem read_copy {source target : Path} (h : t.copy base source target = .ok t') :
    ∃ content, t.read base source = .ok content ∧ t'.read base target = .ok content := by
  unfold copy at h
  cases hfound : t.lookup base source with
  | error f => rw [hfound] at h; cases h
  | ok found =>
    rw [hfound] at h
    cases found with
    | directory => cases h
    | file content =>
      dsimp only [bind, Except.bind] at h
      cases hwrite : t.write base target content with
      | error f => rw [hwrite] at h; cases h
      | ok written =>
        rw [hwrite] at h
        dsimp only at h
        split at h
        · cases h
        · split at h
          · cases h
          · cases h
            refine ⟨content, read_eq_ok_iff.mpr hfound, ?_⟩
            exact read_of_within (within_permit _ _ _) (read_write hwrite)

theorem within_makeDirectory (h : t.makeDirectory base p = .ok t') : t.Within t' := by
  cases hplace : t.locate base p with
  | error f => rw [makeDirectory_of_error hplace] at h; cases h
  | ok place =>
    cases hg : t.get? place with
    | some node => rw [makeDirectory_of_some hplace hg] at h; cases h
    | none =>
      rw [makeDirectory_of_none hplace hg] at h
      cases h
      exact within_put hg

end FileTree

/-! ## Making directories -/

namespace FileM

variable {base : Location}

/-- The steps take nothing away. -/
def Grows {α : Type} (m : FileM α) : Prop := ∀ t : FileTree, t.Within (m.run t).2

theorem Grows.bind {α β : Type} {m : FileM α} {f : α → FileM β} (hm : Grows m)
    (hf : ∀ a, Grows (f a)) : Grows (m >>= f) := by
  intro t
  have hfirst := hm t
  rw [run_bind]
  rcases hr : m.run t with ⟨e | a, t'⟩
  · rw [hr] at hfirst
    exact hfirst
  · rw [hr] at hfirst
    exact hfirst.trans (hf a t')

theorem grows_pure {α : Type} (a : α) : Grows (pure a : FileM α) := fun t => .refl t

theorem run_get {t : FileTree} : (get : FileM FileTree).run t = (.ok t, t) := rfl

theorem grows_ensureDirectory (p : Path) : Grows (ensureDirectory base p) := by
  intro t
  unfold ensureDirectory
  rw [run_bind, run_get]
  dsimp only
  cases hmade : t.makeDirectory base p with
  | ok made => exact FileTree.within_makeDirectory hmade
  | error fault =>
    dsimp only
    rw [run_bind, run_get]
    dsimp only
    split <;> exact .refl t

theorem grows_ensureWithin (ps : List Path) : Grows (ensureWithin base ps) := by
  induction ps with
  | nil => exact grows_pure ()
  | cons p above ih =>
    intro t
    rw [ensureWithin]
    split
    · exact .refl t
    · rw [run_bind, run_get]
      dsimp only
      split
      · exact (ih.bind fun _ => grows_ensureDirectory p) t
      · exact grows_ensureDirectory p t

theorem grows_ensureParent (p : Path) : Grows (ensureParent base p) := by
  unfold ensureParent
  split
  · split
    · exact grows_pure ()
    · exact grows_ensureWithin _
  · exact grows_pure ()

theorem run_change {f : FileTree → Except FileFault FileTree} {t : FileTree} :
    (change f).run t =
      match f t with
      | .ok t' => (.ok (), t')
      | .error fault => (.error fault, t) := by
  show (change fun _ => f t).run t = _
  cases f t <;> rfl

/-- **What was written is read back**, whatever directories had to be made for it. -/
theorem read_writeInto {p : Path} {content : ByteArray} {t t' : FileTree}
    (h : (writeInto base p content).run t = (.ok (), t')) : t'.read base p = .ok content := by
  unfold writeInto at h
  rw [run_bind] at h
  generalize (ensureParent base p).run t = made at h
  obtain ⟨e | _, made⟩ := made
  · cases h
  · dsimp only at h
    rw [run_change] at h
    cases hwrite : made.write base p content with
    | error f => rw [hwrite] at h; cases h
    | ok written =>
      rw [hwrite] at h
      cases h
      exact FileTree.read_write hwrite

end FileM

end KernelLink
