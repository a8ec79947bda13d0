import Mathlib.Data.List.Basic
import Mathlib.Algebra.GroupWithZero.Nat
import Mathlib.Tactic.Common

namespace Window

variable {α : Type}

def window (offset length : Nat) (items : List α) : List α := (items.drop offset).take length

theorem length_window (offset length : Nat) (items : List α) :
    (window offset length items).length = min length (items.length - offset) := by
  simp [window]

/-- A window over two lists is a window over each of them. -/
theorem window_append (offset length : Nat) (items later : List α) :
    window offset length (items ++ later) =
      window offset length items ++ window (offset - items.length) (length - (items.length - offset)) later := by
  rw [window, window, window, List.drop_append, List.take_append, List.length_drop]

/-- What the window takes of the second list, as the overlap of two intervals:
nothing unless they meet, and otherwise from the larger start to the smaller
end. -/
theorem window_append_overlap (offset length : Nat) (items later : List α) :
    window offset length (items ++ later) = window offset length items ++
      if 0 < length ∧ offset < items.length + later.length ∧ items.length < offset + length then
        (later.drop (max items.length offset - items.length)).take
          (min (items.length + later.length) (offset + length) - max items.length offset)
      else [] := by
  rw [window_append]
  split_ifs with hmeet
  · have hdrop : max items.length offset - items.length = offset - items.length := by omega
    rw [hdrop, List.append_cancel_left_eq, window, List.take_eq_take_iff, List.length_drop]
    omega
  · have hnone : (window (offset - items.length) (length - (items.length - offset)) later).length = 0 := by
      rw [length_window]
      omega
    rw [List.length_eq_zero_iff.mp hnone]

/-- Windows of one size next to each other give the items back. -/
theorem flatten_windows (size count : Nat) (items : List α) :
    ((List.range count).map fun i => window (i * size) size items).flatten = items.take (count * size) := by
  induction count with
  | zero => simp
  | succ count ih =>
    rw [List.range_succ, List.map_append, List.flatten_append, ih, Nat.succ_mul, List.take_add]
    simp [window]

/-- The number of windows of one size that reach to the end. -/
def count (size : Nat) (items : List α) : Nat :=
  if items.length = 0 then 0 else (items.length - 1) / size + 1

/-- The windows reach to the end, and each of them starts before it. -/
theorem count_spec {size : Nat} (hsize : 0 < size) (items : List α) :
    items.length ≤ count size items * size ∧ ∀ i < count size items, i * size < items.length := by
  unfold count
  split
  · rename_i hempty
    exact ⟨Nat.le_trans (Nat.le_of_eq hempty) (Nat.zero_le _), fun i hi => absurd hi (Nat.not_lt_zero i)⟩
  · have hlast := Nat.lt_div_mul_add hsize (a := items.length - 1)
    refine ⟨by rw [Nat.add_mul, Nat.one_mul]; omega, fun i hi => ?_⟩
    have hstart := (Nat.le_div_iff_mul_le hsize).mp (Nat.le_of_lt_succ hi)
    omega

theorem eq_count {size turns : Nat} (hsize : 0 < size) {items : List α} (hend : items.length ≤ turns * size)
    (hstart : ∀ i < turns, i * size < items.length) : turns = count size items := by
  obtain ⟨hcover, hinside⟩ := count_spec hsize items
  rcases Nat.lt_trichotomy turns (count size items) with hless | heq | hmore
  · exact absurd (hinside turns hless) (Nat.not_lt.mpr hend)
  · exact heq
  · exact absurd (hstart _ hmore) (Nat.not_lt.mpr hcover)

end Window
