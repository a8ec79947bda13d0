import Mathlib.Data.Vector.Basic
import Mathlib.Tactic.Common

/-- A byte array of fixed size. -/
abbrev Bytes (n : Nat) := List.Vector UInt8 n

namespace Bytes

def zero (n : Nat) : Bytes n := List.Vector.replicate n 0

/-- The bitwise disjunction of all bytes is zero. -/
def is_zero (bytes : List UInt8) : Bool := bytes.foldl (· ||| ·) 0 == 0

private theorem foldl_or_eq_zero (bytes : List UInt8) (aggregate : UInt8) :
    bytes.foldl (· ||| ·) aggregate = 0 ↔ aggregate = 0 ∧ ∀ b ∈ bytes, b = 0 := by
  induction bytes generalizing aggregate with
  | nil => simp
  | cons b bytes ih =>
    rw [List.foldl_cons, ih, UInt8.or_eq_zero_iff]
    simp [and_assoc]

/-- The aggregate vanishes exactly when every byte does. -/
theorem is_zero_iff {bytes : List UInt8} : is_zero bytes = true ↔ ∀ b ∈ bytes, b = 0 := by
  simp [is_zero, foldl_or_eq_zero]

/-- The only array of a fixed size that passes the zero test is the zero one. -/
theorem is_zero_toList_iff {n : Nat} {bytes : Bytes n} : is_zero bytes.toList = true ↔ bytes = zero n := by
  rw [is_zero_iff]
  constructor
  · intro hall
    apply Subtype.ext
    exact List.eq_replicate_iff.mpr ⟨bytes.toList_length, hall⟩
  · rintro rfl b hb
    exact List.eq_of_mem_replicate (show b ∈ List.replicate n 0 from hb)

@[simp] theorem is_zero_zero (n : Nat) : is_zero (zero n).toList = true :=
  is_zero_toList_iff.mpr rfl

end Bytes
