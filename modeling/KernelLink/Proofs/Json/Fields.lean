import KernelLink.Proofs.Device.Library
import KernelLink.Proofs.Json.Record

/-!
# Records in part

A record need not name all of its fields, nor name them in order. Whatever part of the fields an
object names and in whatever order, a field that it names is read from what was written for it, and
one that it leaves out has its default. Fields are told apart by their names, so this asks for one
thing only: that no two of them share one.
-/

namespace KernelLink

namespace Json

variable {named : String → Bool} {all fields : List (String × Json)} {names : List String}
  {name : String} {v : Json} {r : Record}

/-- The fields that are named, in any order. -/
def InPart (named : String → Bool) (all fields : List (String × Json)) : Prop :=
  fields.Perm (all.filter fun f => named f.1)

theorem InPart.mem_iff (h : InPart named all fields) {f : String × Json} :
    f ∈ fields ↔ f ∈ all ∧ named f.1 = true := by
  rw [List.Perm.mem_iff h, List.mem_filter]

theorem InPart.nodup (h : InPart named all fields) (hn : (all.map Prod.fst).Nodup) :
    (fields.map Prod.fst).Nodup := by
  rw [(List.Perm.map Prod.fst h).nodup_iff]
  exact hn.sublist (List.filter_sublist.map Prod.fst)

/-- What an object of these fields holds for a name. -/
def slotOf (fields : List (String × Json)) (name : String) : Slot :=
  match fields.find? (·.1 = name) with
  | some (_, value) => .given value
  | none => .unnamed

theorem mapM_some_fields (fields : List (String × Json)) :
    ((fields.map fun (key, value) => (some key, value)).mapM fun (key, value) =>
      key.map (·, value)) = some fields := by
  induction fields with
  | nil => rfl
  | cons f fields ih =>
    rw [List.map_cons, List.mapM_cons, ih]
    rfl

theorem hasRepeated_eq_false (hn : (fields.map Prod.fst).Nodup) (names : List String) :
    hasRepeated names fields = false := by
  unfold hasRepeated
  rw [List.any_eq_false]
  intro name _ hrepeated
  -- Two fields of one name would count this name twice.
  have hcount : (fields.map Prod.fst).count name ≤ 1 := List.nodup_iff_count_le_one.mp hn name
  rw [List.count_eq_countP, List.countP_map, List.countP_eq_length_filter] at hcount
  have hfilter : (fields.filter ((· == name) ∘ Prod.fst)).length =
      (fields.filter fun f => f.1 = name).length := by
    congr 1
  rw [hfilter] at hcount
  have hless := of_decide_eq_true hrepeated
  omega

/-- An object whose fields have different names is a record. -/
theorem record?_ofFields (hn : (fields.map Prod.fst).Nodup) (names : List String) :
    (ofFields fields).record? names = some (names.map fun name => (name, slotOf fields name)) := by
  unfold ofFields record?
  dsimp only
  rw [mapM_some_fields]
  show (if hasRepeated names fields then none else _) = _
  rw [hasRepeated_eq_false hn, if_neg Bool.false_ne_true]
  rfl

theorem slot_map (slot : String → Slot) (hname : name ∈ names) :
    Record.slot (names.map fun name => (name, slot name)) name = slot name := by
  unfold Record.slot
  induction names with
  | nil => cases hname
  | cons first names ih =>
    rw [List.map_cons, List.find?_cons]
    by_cases hfirst : first = name
    · subst hfirst
      simp
    · simp only [hfirst, decide_false]
      exact ih ((List.mem_cons.mp hname).resolve_left (Ne.symm hfirst))

/-- A field is there with what was written for it if it is named, and is not there otherwise. -/
theorem slotOf_inPart (hn : (all.map Prod.fst).Nodup) (h : InPart named all fields)
    (hmem : (name, v) ∈ all) :
    slotOf fields name = if named name then .given v else .unnamed := by
  unfold slotOf
  by_cases hnamed : named name
  · have hfound : fields.find? (·.1 = name) = some (name, v) :=
      (find?_eq_some_iff_of_nodup (h.nodup hn)).mpr ⟨h.mem_iff.mpr ⟨hmem, hnamed⟩, rfl⟩
    rw [hfound, if_pos hnamed]
  · have hfound : fields.find? (·.1 = name) = none := by
      refine List.find?_eq_none.mpr fun f hf hkey => hnamed ?_
      rw [← of_decide_eq_true hkey]
      exact (h.mem_iff.mp hf).2
    rw [hfound, if_neg hnamed]

/-- The record has the named fields, and not the others. -/
def Record.Reads (named : String → Bool) (all : List (String × Json)) (r : Record) : Prop :=
  ∀ name v, (name, v) ∈ all → r.slot name = if named name then .given v else .unnamed

/-- **Part of the fields make a record**, if the names of all of them are known and different. -/
theorem exists_record (names : List String) (hnames : all.map Prod.fst = names) (hn : names.Nodup)
    (h : InPart named all fields) :
    ∃ r, (ofFields fields).record? names = some r ∧ r.Reads named all := by
  subst hnames
  refine ⟨_, record?_ofFields (h.nodup hn) _, fun name v hmem => ?_⟩
  rw [slot_map (slotOf fields) (List.mem_map.mpr ⟨(name, v), hmem, rfl⟩), slotOf_inPart hn h hmem]

variable {α : Type} {read : Json → Option α} {a fallback : α}

/-- A field that is read back is what it was if it is named, and its default otherwise. -/
theorem Record.Reads.defaulted (hr : r.Reads named all) (hmem : (name, v) ∈ all)
    (hread : read v = some a) (fallback : α) :
    r.defaulted name fallback read = some (if named name then a else fallback) := by
  unfold Record.defaulted
  rw [hr name v hmem]
  cases named name with
  | true => exact hread
  | false => rfl

/-- A field that has to be there and is. -/
theorem Record.Reads.required (hr : r.Reads named all) (hmem : (name, v) ∈ all)
    (hread : read v = some a) (hnamed : named name = true) : r.required name read = some a := by
  unfold Record.required
  rw [hr name v hmem, if_pos hnamed]
  exact hread

theorem readable_inPart (hall : ∀ f ∈ all, Readable f.2) (h : InPart named all fields) :
    Readable (ofFields fields) := .object fun f hf => hall f (h.mem_iff.mp hf).1

end Json

end KernelLink
