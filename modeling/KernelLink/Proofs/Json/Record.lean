import KernelLink.Json.Decode
import KernelLink.Proofs.Json.Numeral

/-!
# Values read back

The parts that records are made of: what is written for a number, a text, an option or a list can be
read again, and is read as what it was.
-/

namespace KernelLink

namespace Json

/-! ## What is written can be read -/

@[simp]
theorem readable_bool (b : Bool) : Readable (.bool b) := .bool b

@[simp]
theorem readable_ofNat (n : Nat) : Readable (ofNat n) := .number (Numeral.inJson_ofNat n)

@[simp]
theorem readable_ofString (s : String) : Readable (ofString s) := .string s

@[simp]
theorem readable_ofSingle (x : Single) : Readable (ofSingle x) := by
  unfold ofSingle
  cases h : x.jsonNumeral? with
  | none => exact .null
  | some n => exact .number (Single.inJson_of_jsonNumeral? h)

theorem readable_ofOption {α : Type} {encode : α → Json} (h : ∀ a, Readable (encode a)) :
    ∀ x, Readable (ofOption encode x)
  | none => .null
  | some a => h a

theorem readable_array_map {α : Type} {encode : α → Json} (h : ∀ x, Readable (encode x))
    (xs : List α) : Readable (.array (xs.map encode)) := by
  refine .array fun v hv => ?_
  obtain ⟨x, -, rfl⟩ := List.mem_map.mp hv
  exact h x

/-! ## Scalars -/

theorem nat?_ofNat {limit n : Nat} (h : n ≤ limit) : nat? limit (ofNat n) = some n := by
  unfold ofNat Numeral.ofNat nat?
  dsimp only
  rw [digitsValue_decimalDigits, if_pos h]

theorem ofSingle_of_isFinite {x : Single} (h : x.isFinite = true) :
    ∃ n, ofSingle x = .number n := by
  unfold Single.isFinite Exact.isFinite at h
  unfold ofSingle Single.jsonNumeral?
  cases hexact : x.exact with
  | finite s m e => exact ⟨_, rfl⟩
  | nan => rw [hexact] at h; cases h
  | infinite s => rw [hexact] at h; cases h

theorem ofSingle_of_not_isFinite {x : Single} (h : x.isFinite = false) : ofSingle x = .null := by
  unfold Single.isFinite Exact.isFinite at h
  unfold ofSingle Single.jsonNumeral?
  cases hexact : x.exact with
  | finite s m e => rw [hexact] at h; cases h
  | nan => rfl
  | infinite s => rfl

/-! ## Lists -/

/-- Items that are read back or refused, each as it is, make a list that is read back or refused. -/
theorem list?_array_map {α : Type} {read : Json → Option α} {write : α → Json} {kept : α → α}
    {fits : α → Bool} {xs : List α}
    (h : ∀ x ∈ xs, read (write x) = if fits x then some (kept x) else none) :
    list? read (.array (xs.map write)) =
      if xs.all fits then some (xs.map kept) else none := by
  show (xs.map write).mapM read = _
  induction xs with
  | nil => rfl
  | cons x xs ih =>
    rw [List.map_cons, List.mapM_cons, h x List.mem_cons_self,
      ih fun y hy => h y (List.mem_cons_of_mem _ hy), List.all_cons]
    cases fits x with
    | false => rfl
    | true => cases xs.all fits <;> rfl

/-- Items that are all read back as they were. -/
theorem list?_array_map_of_forall {α : Type} {read : Json → Option α} {write : α → Json}
    {xs : List α} (h : ∀ x ∈ xs, read (write x) = some x) :
    list? read (.array (xs.map write)) = some xs := by
  have hlist := @list?_array_map α read write id (fun _ => true) xs fun x hx => h x hx
  rwa [if_pos (List.all_eq_true.mpr fun _ _ => rfl), List.map_id] at hlist

/-! ## Parts that may be missing -/

/-- An optional value, written as null if it is not there. -/
theorem nullable?_ofOption {α : Type} {read : Json → Option α} {write : α → Json}
    (hnull : ∀ a, write a ≠ .null) (h : ∀ a, read (write a) = some a) (x : Option α) :
    nullable? read (ofOption write x) = some x := by
  cases x with
  | none => rfl
  | some a =>
    show nullable? read (write a) = _
    unfold nullable?
    split
    · rename_i he
      exact absurd he (hnull a)
    · rw [h a]
      rfl

/-- What is read of a part that is left out when it is missing. -/
def readPart {α : Type} (read : Json → Option α) (write : α → Json) : Option α → Option (Option α)
  | some a => nullable? read (write a)
  | none => some none

theorem readPart_eq {α : Type} {read : Json → Option α} {write : α → Json} {kept : α → α}
    {fits : α → Bool} {x : Option α} (hnull : ∀ a, write a ≠ .null)
    (h : ∀ a ∈ x, read (write a) = if fits a then some (kept a) else none) :
    readPart read write x = if x.all fits then some (x.map kept) else none := by
  cases x with
  | none => rfl
  | some a =>
    show nullable? read (write a) = _
    have hpart : nullable? read (write a) = (read (write a)).map some := by
      unfold nullable?
      split
      · rename_i he
        exact absurd he (hnull a)
      · rfl
    rw [hpart, h a rfl, Option.all_some]
    cases fits a <;> rfl

end Json

end KernelLink
