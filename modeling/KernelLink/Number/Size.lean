/-!
# Sizes

Lengths, offsets and indices are sizes, numbers of 64 bits. A sum or a product that has no room in a
size wraps round, and nothing reports it: what is left is a size like any other. No array is nearly
that long, so this shows where a size is asked for rather than measured, in the number of cells of a
tile and at the end of a range.
-/

namespace KernelLink.Size

/-- The first number that has no room in a size. -/
def limit : Nat := 0x10000000000000000

/-- What a size keeps of a number. -/
def wrap (n : Nat) : Nat := n % limit

theorem wrap_lt (n : Nat) : wrap n < limit := Nat.mod_lt n (by decide)

theorem wrap_of_lt {n : Nat} (h : n < limit) : wrap n = n := Nat.mod_eq_of_lt h

theorem wrap_le (n : Nat) : wrap n ≤ n := Nat.mod_le n limit

/-- A range lies in an array of the length: it ends neither before it starts nor behind the
array. -/
def Within (start stop length : Nat) : Prop := start ≤ stop ∧ stop ≤ length

instance (start stop length : Nat) : Decidable (Within start stop length) :=
  inferInstanceAs (Decidable (_ ∧ _))

/-- An end that wraps round comes before its start, so a range lies in an array exactly when it
would without wrapping round. -/
theorem within_wrap_iff {start count length : Nat} (hs : start < limit) (hc : count < limit)
    (hl : length < limit) :
    Within start (wrap (start + count)) length ↔ start + count ≤ length := by
  unfold Within
  by_cases h : start + count < limit
  · rw [wrap_of_lt h]
    omega
  · have hwrap : wrap (start + count) = start + count - limit := by
      unfold wrap
      rw [Nat.mod_eq_sub_mod (by omega), Nat.mod_eq_of_lt (by omega)]
    rw [hwrap]
    omega

end KernelLink.Size
