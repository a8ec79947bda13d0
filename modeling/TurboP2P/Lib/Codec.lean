import TurboP2P.Lib.Bytes
import Mathlib.Data.Nat.Basic
import Mathlib.Tactic.Positivity
import Mathlib.Tactic.Ring

namespace Codec

variable (bytes : List UInt8) (width value : Nat)

/-- The `width` low bytes of a number, least significant first. -/
def le (value : Nat) : List UInt8 :=
  (List.range width).map fun i => UInt8.ofNat (value / 256 ^ i)

/-- The number that bytes spell, least significant first. -/
def le_value (bytes : List UInt8) : Nat :=
  bytes.foldr (fun b rest => b.toNat + 256 * rest) 0

/-- The `width` low bytes of a number, most significant first. -/
def be (value : Nat) : List UInt8 := (le width value).reverse

/-- The number that bytes spell, most significant first. -/
def be_value (bytes : List UInt8) : Nat :=
  bytes.foldl (fun value b => value * 256 + b.toNat) 0

@[simp] theorem length_le : (le width value).length = width := by
  simp [le]

@[simp] theorem length_be : (be width value).length = width := by
  simp [be]

theorem le_succ : le (width + 1) value = UInt8.ofNat value :: le width (value / 256) := by
  simp only [le, List.range_succ_eq_map, List.map_cons, List.map_map, pow_zero, Nat.div_one]
  congr 1
  refine List.map_congr_left fun i _ => ?_
  simp only [Function.comp_apply, Nat.div_div_eq_div_mul, pow_succ']

theorem le_value_cons (b : UInt8) (bytes : List UInt8) :
    le_value (b :: bytes) = b.toNat + 256 * le_value bytes := rfl

/-- Reading back what was written drops the bits above the width. -/
theorem le_value_le : le_value (le width value) = value % 256 ^ width := by
  induction width generalizing value with
  | zero => simp [le, le_value, Nat.mod_one]
  | succ width ih =>
    rw [le_succ, le_value_cons, ih, pow_succ', Nat.mod_mul, UInt8.toNat_ofNat']

theorem be_value_reverse : be_value bytes.reverse = le_value bytes := by
  simp only [be_value, le_value, List.foldl_reverse]
  congr 1
  funext b rest
  ring

theorem be_value_be : be_value (be width value) = value % 256 ^ width := by
  rw [be, be_value_reverse, le_value_le]

/-- Writing back what bytes spell returns them. -/
theorem le_le_value : le bytes.length (le_value bytes) = bytes := by
  induction bytes with
  | nil => rfl
  | cons b bytes ih =>
    have hlow := b.toNat_lt
    have hhead : UInt8.ofNat (le_value (b :: bytes)) = b := by
      rw [le_value_cons, ← UInt8.toNat_inj, UInt8.toNat_ofNat']
      omega
    have htail : le_value (b :: bytes) / 256 = le_value bytes := by
      rw [le_value_cons]
      omega
    rw [List.length_cons, le_succ, hhead, htail, ih]

theorem be_be_value : be bytes.length (be_value bytes) = bytes := by
  have hvalue : be_value bytes = le_value bytes.reverse := by rw [← be_value_reverse, List.reverse_reverse]
  have hread := le_le_value bytes.reverse
  rw [List.length_reverse] at hread
  rw [be, hvalue, hread, List.reverse_reverse]

theorem le_value_lt : le_value bytes < 256 ^ bytes.length := by
  have hread := le_value_le bytes.length (le_value bytes)
  rw [le_le_value] at hread
  rw [hread]
  exact Nat.mod_lt _ (by positivity)

theorem be_value_lt : be_value bytes < 256 ^ bytes.length := by
  have hlt := le_value_lt bytes.reverse
  rwa [← be_value_reverse, List.reverse_reverse, List.length_reverse] at hlt

/-- `n` bytes copied from the start of a buffer. -/
def take_bytes (n : Nat) (bytes : List UInt8) : Bytes n :=
  ⟨(bytes ++ List.replicate n 0).take n, by simp⟩

variable {n size : Nat} {α : Type}

/-- Copying a leading field returns it. -/
@[simp] theorem take_bytes_append (field : Bytes n) (rest : List UInt8) :
    take_bytes n (field.toList ++ rest) = field := by
  apply Subtype.ext
  change ((field.toList ++ rest) ++ List.replicate n 0).take n = field.toList
  rw [List.append_assoc]
  exact List.take_left' field.toList_length

theorem toList_take_bytes {bytes : List UInt8} (hlength : n ≤ bytes.length) :
    (take_bytes n bytes).toList = bytes.take n :=
  List.take_append_of_le_length hlength

/-- The records of a fixed size that follow each other in a buffer, each read
by `decode`. -/
def records {α : Type} (size : Nat) (decode : List UInt8 → α) (count : Nat) (bytes : List UInt8) : List α :=
  (List.range count).map fun i => decode (bytes.drop (i * size))

/-- What is read from each record of a sequence depends on that record
only. -/
theorem records_flatMap {β : Type} {read : List UInt8 → β} {encode : α → List UInt8} (f : α → β) {items : List α}
    (hsize : ∀ item ∈ items, (encode item).length = size)
    (hread : ∀ item ∈ items, ∀ rest, read (encode item ++ rest) = f item) (rest : List UInt8) :
    records size read items.length (items.flatMap encode ++ rest) = items.map f := by
  induction items with
  | nil => rfl
  | cons item items ih =>
    have hskip : ∀ i, ((item :: items).flatMap encode ++ rest).drop ((i + 1) * size) =
        (items.flatMap encode ++ rest).drop (i * size) := by
      intro i
      have hlength := hsize item (by simp)
      rw [List.flatMap_cons, List.append_assoc, List.drop_append, List.drop_eq_nil_of_le, List.nil_append,
        hlength, Nat.succ_mul, Nat.add_sub_cancel]
      rw [hlength, Nat.succ_mul]
      omega
    have htail := ih (fun later hlater => hsize later (by simp [hlater]))
      (fun later hlater => hread later (by simp [hlater]))
    simp only [records, List.length_cons, List.range_succ_eq_map, List.map_cons, List.map_map, Nat.zero_mul,
      List.drop_zero, Function.comp_def, Nat.succ_eq_add_one, hskip] at htail ⊢
    rw [htail, List.flatMap_cons, List.append_assoc, hread item (by simp)]

/-- Records of one size take their number times that size. -/
theorem length_flatMap_records (encode : α → List UInt8) (items : List α)
    (hsize : ∀ item ∈ items, (encode item).length = size) : (items.flatMap encode).length = items.length * size := by
  induction items with
  | nil => simp
  | cons item items ih =>
    rw [List.flatMap_cons, List.length_append, hsize item (by simp), List.length_cons, Nat.succ_mul,
      ih (fun later hlater => hsize later (by simp [hlater])), Nat.add_comm]

/-- Writing back the records that were read from a buffer returns its bytes. -/
theorem flatMap_records {read : List UInt8 → α} {encode : α → List UInt8} {bytes : List UInt8} (count : Nat)
    (hlength : count * size ≤ bytes.length)
    (hencode : ∀ i < count, size ≤ (bytes.drop (i * size)).length →
      encode (read (bytes.drop (i * size))) = (bytes.drop (i * size)).take size) :
    (records size read count bytes).flatMap encode = bytes.take (count * size) := by
  induction count with
  | zero => simp [records]
  | succ count ih =>
    rw [Nat.succ_mul] at hlength
    have hrest := ih (by omega) fun i hi => hencode i (Nat.lt_succ_of_lt hi)
    have hlast := hencode count (Nat.lt_succ_self count) (by rw [List.length_drop]; omega)
    simp only [records] at hrest ⊢
    rw [List.range_succ, List.map_append, List.flatMap_append, hrest, Nat.succ_mul, List.take_add]
    simp [hlast]

/-- Skipping past a leading field continues in what follows it. -/
theorem drop_append_field {field rest : List UInt8} {offset : Nat} (hpast : field.length ≤ offset) :
    (field ++ rest).drop offset = rest.drop (offset - field.length) := by
  rw [List.drop_append, List.drop_eq_nil_of_le hpast, List.nil_append]

/-- A field of a buffer and what follows it. -/
theorem drop_eq_field (bytes : List UInt8) (offset size : Nat) :
    bytes.drop offset = (bytes.drop offset).take size ++ bytes.drop (offset + size) := by
  rw [← List.drop_drop, List.take_append_drop]

def write_u16_le (value : UInt16) : List UInt8 := le 2 value.toNat
def write_u32_le (value : UInt32) : List UInt8 := le 4 value.toNat
def write_u64_le (value : UInt64) : List UInt8 := le 8 value.toNat
def write_u16_be (value : UInt16) : List UInt8 := be 2 value.toNat
def write_u32_be (value : UInt32) : List UInt8 := be 4 value.toNat
def write_u64_be (value : UInt64) : List UInt8 := be 8 value.toNat

def read_u16_le (input : List UInt8) : UInt16 := UInt16.ofNat (le_value (input.take 2))
def read_u32_le (input : List UInt8) : UInt32 := UInt32.ofNat (le_value (input.take 4))
def read_u64_le (input : List UInt8) : UInt64 := UInt64.ofNat (le_value (input.take 8))
def read_u16_be (input : List UInt8) : UInt16 := UInt16.ofNat (be_value (input.take 2))
def read_u32_be (input : List UInt8) : UInt32 := UInt32.ofNat (be_value (input.take 4))
def read_u64_be (input : List UInt8) : UInt64 := UInt64.ofNat (be_value (input.take 8))

@[simp] theorem length_write_u16_le (value : UInt16) : (write_u16_le value).length = 2 := length_le _ _
@[simp] theorem length_write_u32_le (value : UInt32) : (write_u32_le value).length = 4 := length_le _ _
@[simp] theorem length_write_u64_le (value : UInt64) : (write_u64_le value).length = 8 := length_le _ _
@[simp] theorem length_write_u16_be (value : UInt16) : (write_u16_be value).length = 2 := length_be _ _
@[simp] theorem length_write_u32_be (value : UInt32) : (write_u32_be value).length = 4 := length_be _ _
@[simp] theorem length_write_u64_be (value : UInt64) : (write_u64_be value).length = 8 := length_be _ _

section read_write

variable {width value : Nat} (rest : List UInt8)

/-- A number that fits is read back whatever follows it. -/
theorem le_value_take (hfits : value < 256 ^ width) : le_value ((le width value ++ rest).take width) = value := by
  rw [List.take_left' (length_le width value), le_value_le, Nat.mod_eq_of_lt hfits]

theorem be_value_take (hfits : value < 256 ^ width) : be_value ((be width value ++ rest).take width) = value := by
  rw [List.take_left' (length_be width value), be_value_be, Nat.mod_eq_of_lt hfits]

@[simp] theorem read_write_u16_le (value : UInt16) : read_u16_le (write_u16_le value ++ rest) = value := by
  rw [read_u16_le, write_u16_le, le_value_take rest (by simpa using value.toNat_lt), UInt16.ofNat_toNat]

@[simp] theorem read_write_u32_le (value : UInt32) : read_u32_le (write_u32_le value ++ rest) = value := by
  rw [read_u32_le, write_u32_le, le_value_take rest (by simpa using value.toNat_lt), UInt32.ofNat_toNat]

@[simp] theorem read_write_u64_le (value : UInt64) : read_u64_le (write_u64_le value ++ rest) = value := by
  rw [read_u64_le, write_u64_le, le_value_take rest (by simpa using value.toNat_lt), UInt64.ofNat_toNat]

@[simp] theorem read_write_u16_be (value : UInt16) : read_u16_be (write_u16_be value ++ rest) = value := by
  rw [read_u16_be, write_u16_be, be_value_take rest (by simpa using value.toNat_lt), UInt16.ofNat_toNat]

@[simp] theorem read_write_u32_be (value : UInt32) : read_u32_be (write_u32_be value ++ rest) = value := by
  rw [read_u32_be, write_u32_be, be_value_take rest (by simpa using value.toNat_lt), UInt32.ofNat_toNat]

@[simp] theorem read_write_u64_be (value : UInt64) : read_u64_be (write_u64_be value ++ rest) = value := by
  rw [read_u64_be, write_u64_be, be_value_take rest (by simpa using value.toNat_lt), UInt64.ofNat_toNat]

/-- The value of a field of a buffer is written back as the field. -/
theorem be_take {bytes : List UInt8} (hlength : width ≤ bytes.length) :
    be_value (bytes.take width) < 256 ^ width ∧ be width (be_value (bytes.take width)) = bytes.take width := by
  have htake := List.length_take_of_le hlength
  have hlt := be_value_lt (bytes.take width)
  have hwrite := be_be_value (bytes.take width)
  rw [htake] at hlt hwrite
  exact ⟨hlt, hwrite⟩

section field

variable {bytes : List UInt8} {offset : Nat}

theorem write_read_u32_be (hlength : 4 ≤ bytes.length) : write_u32_be (read_u32_be bytes) = bytes.take 4 := by
  obtain ⟨hlt, hwrite⟩ := be_take hlength
  rw [write_u32_be, read_u32_be, UInt32.toNat_ofNat_of_lt' hlt, hwrite]

theorem write_read_u64_be (hlength : 8 ≤ bytes.length) : write_u64_be (read_u64_be bytes) = bytes.take 8 := by
  obtain ⟨hlt, hwrite⟩ := be_take hlength
  rw [write_u64_be, read_u64_be, UInt64.toNat_ofNat_of_lt' hlt, hwrite]

theorem write_field_u16 (hlength : offset + 2 ≤ bytes.length) :
    write_u16_be (read_u16_be (bytes.drop offset)) = (bytes.drop offset).take 2 := by
  obtain ⟨hlt, hwrite⟩ := be_take (show 2 ≤ (bytes.drop offset).length by rw [List.length_drop]; omega)
  rw [write_u16_be, read_u16_be, UInt16.toNat_ofNat_of_lt' hlt, hwrite]

theorem write_field_u32 (hlength : offset + 4 ≤ bytes.length) :
    write_u32_be (read_u32_be (bytes.drop offset)) = (bytes.drop offset).take 4 :=
  write_read_u32_be (by rw [List.length_drop]; omega)

theorem write_field_u64 (hlength : offset + 8 ≤ bytes.length) :
    write_u64_be (read_u64_be (bytes.drop offset)) = (bytes.drop offset).take 8 :=
  write_read_u64_be (by rw [List.length_drop]; omega)

theorem toList_field {size : Nat} (hlength : offset + size ≤ bytes.length) :
    (take_bytes size (bytes.drop offset)).toList = (bytes.drop offset).take size :=
  toList_take_bytes (by rw [List.length_drop]; omega)

end field

/-- A word at the very end of a frame. -/
@[simp] theorem read_write_u32_le_last (value : UInt32) : read_u32_le (write_u32_le value) = value := by
  simpa using read_write_u32_le [] value

end read_write

end Codec
