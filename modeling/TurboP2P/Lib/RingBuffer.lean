import Mathlib.Data.Nat.ModEq
import Mathlib.Tactic.Common

/-- A ring of `count` values in a circular array, the oldest of them at
`head`. -/
structure RingBuffer (α : Type) where
  cells : List α
  head : Nat
  count : Nat

namespace RingBuffer

variable {α : Type}

/-- The value `i` places after the oldest one. -/
def get [Inhabited α] (r : RingBuffer α) (i : Nat) : α :=
  r.cells.getD ((r.head + i) % r.cells.length) default

/-- The values of the ring, the oldest first. -/
def toList [Inhabited α] (r : RingBuffer α) : List α := (List.range r.count).map r.get

/-- Append one value; a full ring overwrites its oldest value. -/
def push (r : RingBuffer α) (a : α) : RingBuffer α :=
  if r.count < r.cells.length then
    { r with cells := r.cells.set ((r.head + r.count) % r.cells.length) a, count := r.count + 1 }
  else
    { r with cells := r.cells.set r.head a, head := (r.head + 1) % r.cells.length }

/-- The head and the count stay within the circular array. -/
structure Valid (r : RingBuffer α) : Prop where
  head_lt : r.head < r.cells.length
  count_le : r.count ≤ r.cells.length

@[simp] theorem length_toList [Inhabited α] (r : RingBuffer α) : r.toList.length = r.count := by
  simp [toList]

variable {i : Nat} {r : RingBuffer α}

theorem getElem?_toList [Inhabited α] (hi : i < r.count) : r.toList[i]? = some (r.get i) := by
  simp [toList, hi]

@[simp] theorem length_cells_push (r : RingBuffer α) (a : α) : (r.push a).cells.length = r.cells.length := by
  unfold push
  split <;> simp

theorem Valid.push (hvalid : r.Valid) (a : α) : (r.push a).Valid := by
  have hhead := hvalid.head_lt
  have hcount := hvalid.count_le
  by_cases hroom : r.count < r.cells.length
  · constructor <;> simp only [RingBuffer.push, if_pos hroom, List.length_set] <;> omega
  · constructor
    · simp only [RingBuffer.push, if_neg hroom, List.length_set]
      exact Nat.mod_lt _ (by omega)
    · simp only [RingBuffer.push, if_neg hroom, List.length_set]
      exact hcount

/-- Two offsets below the capacity fall on the same cell only if they are
equal. -/
theorem offset_injective {n h j : Nat} (hi : i < n) (hj : j < n) (heq : (h + i) % n = (h + j) % n) : i = j := by
  have hmod : i ≡ j [MOD n] := Nat.ModEq.add_left_cancel' h heq
  exact Nat.ModEq.eq_of_lt_of_lt hmod hi hj

/-- While the ring has room, appending keeps every value and adds the new one
at the end. -/
theorem get_push_room [Inhabited α] {a : α} (hroom : r.count < r.cells.length) (hi : i ≤ r.count) :
    (r.push a).get i = if i < r.count then r.get i else a := by
  have hpos : 0 < r.cells.length := by omega
  have hcell : (r.head + r.count) % r.cells.length < r.cells.length := Nat.mod_lt _ hpos
  simp only [push, if_pos hroom, get, List.length_set, List.getD_eq_getElem?_getD]
  by_cases hlt : i < r.count
  · have hne : (r.head + r.count) % r.cells.length ≠ (r.head + i) % r.cells.length := by
      intro heq
      have := offset_injective hroom (show i < r.cells.length by omega) heq
      omega
    rw [if_pos hlt, List.getElem?_set_ne hne]
  · have hie : i = r.count := by omega
    subst hie
    simp [hcell]

/-- Once the ring is full, appending drops the oldest value and shifts the
others by one place. -/
theorem get_push_full [Inhabited α] {a : α} (hvalid : r.Valid) (hfull : ¬ r.count < r.cells.length) (hi : i < r.count) :
    (r.push a).get i = if i + 1 < r.count then r.get (i + 1) else a := by
  have hcount := hvalid.count_le
  have hhead := hvalid.head_lt
  have hcell : ((r.head + 1) % r.cells.length + i) % r.cells.length = (r.head + (i + 1)) % r.cells.length := by
    rw [Nat.mod_add_mod, Nat.add_assoc, Nat.add_comm 1 i]
  simp only [push, if_neg hfull, get, List.length_set, List.getD_eq_getElem?_getD, hcell]
  by_cases hlt : i + 1 < r.count
  · have hne : r.head ≠ (r.head + (i + 1)) % r.cells.length := by
      intro heq
      have hzero : (r.head + 0) % r.cells.length = (r.head + (i + 1)) % r.cells.length := by
        rw [Nat.add_zero, Nat.mod_eq_of_lt hhead]
        exact heq
      have := offset_injective (show 0 < r.cells.length by omega) (show i + 1 < r.cells.length by omega) hzero
      omega
    rw [if_pos hlt, List.getElem?_set_ne hne]
  · have hwrap : r.head + (i + 1) = r.head + r.cells.length := by omega
    rw [if_neg hlt, hwrap, Nat.add_mod_right, Nat.mod_eq_of_lt hhead]
    simp [hhead]

/-- Appending adds the new value at the end and, in a full ring, drops the
oldest one. -/
theorem toList_push [Inhabited α] (hvalid : r.Valid) (a : α) :
    (r.push a).toList = (r.toList ++ [a]).drop (r.count + 1 - r.cells.length) := by
  have hcount := hvalid.count_le
  by_cases hroom : r.count < r.cells.length
  · have hdrop : r.count + 1 - r.cells.length = 0 := by omega
    have hnew : (r.push a).count = r.count + 1 := by simp [push, hroom]
    have hold : (List.range r.count).map (r.push a).get = r.toList := by
      refine List.map_congr_left fun i hi => ?_
      have hlt := List.mem_range.mp hi
      rw [get_push_room hroom hlt.le, if_pos hlt]
    rw [hdrop, List.drop_zero, toList, hnew, List.range_succ, List.map_append, hold]
    simp [get_push_room hroom]
  · have hdrop : r.count + 1 - r.cells.length = 1 := by omega
    have hnew : (r.push a).count = r.count := by simp [push, hroom]
    have hhead := hvalid.head_lt
    obtain ⟨n, hn⟩ : ∃ n, r.count = n + 1 := Nat.exists_eq_succ_of_ne_zero (by omega)
    have hold : (List.range n).map (r.push a).get = (List.range n).map (r.get ∘ Nat.succ) := by
      refine List.map_congr_left fun i hi => ?_
      have hlt : i + 1 < r.count := by simpa [hn] using hi
      rw [get_push_full hvalid hroom (by omega), if_pos hlt]
      rfl
    rw [hdrop, toList, toList, hnew, hn, List.range_succ, List.map_append, hold, ← List.range_succ,
      List.range_succ_eq_map]
    simp [get_push_full hvalid hroom, hn]

/-- Appending puts the new value behind what remains of the old ones. -/
theorem toList_push_eq [Inhabited α] (hvalid : r.Valid) (a : α) :
    (r.push a).toList = r.toList.drop (r.count + 1 - r.cells.length) ++ [a] := by
  have hhead := hvalid.head_lt
  rw [toList_push hvalid, List.drop_append_of_le_length]
  rw [length_toList]
  omega

/-- A ring that holds the end of a log, as much of it as fits, still does so
after a value is appended to both. -/
theorem Valid.toList_push_log [Inhabited α] {log : List α} (hvalid : r.Valid)
    (hlog : r.toList = log.drop (log.length - r.cells.length)) (a : α) :
    (r.push a).toList = (log ++ [a]).drop ((log ++ [a]).length - r.cells.length) := by
  have hhead := hvalid.head_lt
  have hcount := congrArg List.length hlog
  rw [length_toList, List.length_drop] at hcount
  rw [toList_push_eq hvalid, hlog, List.drop_drop, List.length_append, List.length_singleton,
    List.drop_append_of_le_length (by omega)]
  congr 2
  omega

/-- The empty ring over a fresh array. -/
theorem valid_replicate {n : Nat} (hpos : 0 < n) (a : α) : Valid ⟨List.replicate n a, 0, 0⟩ :=
  ⟨by simpa using hpos, by simp⟩

/-- A ring that starts at its first cell holds the first values of its
array. -/
theorem toList_append [Inhabited α] (values cells : List α) : toList ⟨values ++ cells, 0, values.length⟩ = values := by
  apply List.ext_getElem?
  intro i
  by_cases hi : i < values.length
  · have hcell : i < values.length + cells.length := by omega
    rw [getElem?_toList hi]
    simp [get, Nat.mod_eq_of_lt hcell, List.getElem?_append_left hi, hi]
  · rw [List.getElem?_eq_none (by simpa using hi), List.getElem?_eq_none (by omega)]

end RingBuffer
