import Mathlib.Tactic.Common

/-- The largest value of a 64-bit unsigned word. -/
def U64_MAX : Nat := 18446744073709551615

namespace Word

/-- Unsigned 64-bit addition: the mathematical sum modulo `2 ^ 64`. -/
def add (a b : Nat) : Nat := (a + b) % (U64_MAX + 1)

/-- Unsigned 64-bit subtraction, wrapping below zero. -/
def sub (a b : Nat) : Nat := (a + (U64_MAX + 1 - b % (U64_MAX + 1))) % (U64_MAX + 1)

/-- An addition that stays in range is the mathematical one. -/
theorem add_eq {a b : Nat} (hfits : a + b ≤ U64_MAX) : add a b = a + b :=
  Nat.mod_eq_of_lt (by omega)

/-- A subtraction that does not borrow is the mathematical one. -/
theorem sub_eq {a b : Nat} (hle : b ≤ a) (hfits : a ≤ U64_MAX) : sub a b = a - b := by
  unfold sub
  rw [Nat.mod_eq_of_lt (show b < U64_MAX + 1 by omega)]
  have hshift : a + (U64_MAX + 1 - b) = (a - b) + (U64_MAX + 1) := by omega
  rw [hshift, Nat.add_mod_right]
  exact Nat.mod_eq_of_lt (by omega)

/-- The sum of two machine words that leaves room below the largest one is the
mathematical one. -/
theorem toNat_add {a b : UInt64} (hroom : b ≤ 0xFFFFFFFFFFFFFFFF - a) : (a + b).toNat = a.toNat + b.toNat := by
  have hroom := UInt64.le_iff_toNat_le.mp hroom
  have ha := a.toNat_lt
  rw [UInt64.toNat_sub_of_le _ _ (UInt64.le_iff_toNat_le.mpr (Nat.le_of_lt_succ ha))] at hroom
  have hmax : (0xFFFFFFFFFFFFFFFF : UInt64).toNat = 2 ^ 64 - 1 := rfl
  rw [UInt64.toNat_add, Nat.mod_eq_of_lt (by omega)]

end Word
