import TurboP2P.Lib.Text

namespace Percent

/-- The upper case digit of a value below 16. -/
def upper_digit (nibble : UInt8) : UInt8 := if nibble < 10 then 48 + nibble else 55 + nibble

def escaped (byte : UInt8) : List UInt8 := [37, upper_digit (byte >>> 4), upper_digit (byte &&& 15)]

def encode_byte (keep : UInt8 → Bool) (byte : UInt8) : List UInt8 := if keep byte then [byte] else escaped byte

/-- The text of some bytes in which only the kept bytes stand for themselves. -/
def encode (keep : UInt8 → Bool) (bytes : List UInt8) : List UInt8 := bytes.flatMap (encode_byte keep)

/-- Reads escapes back. A percent sign with fewer than two bytes after it
stands for itself; two bytes that are no digits are refused. -/
def decode : List UInt8 → Option (List UInt8)
  | [] => some []
  | c :: rest =>
    match rest with
    | hi :: lo :: tail =>
      if c = 37 then
        match Text.hex_value hi, Text.hex_value lo with
        | some hi, some lo => (decode tail).map ((hi <<< 4 ||| lo) :: ·)
        | _, _ => none
      else (decode (hi :: lo :: tail)).map (c :: ·)
    | tail => (decode tail).map (c :: ·)

theorem hex_value_upper (byte : UInt8) :
    Text.hex_value (upper_digit (byte >>> 4)) = some (byte >>> 4) ∧
      Text.hex_value (upper_digit (byte &&& 15)) = some (byte &&& 15) ∧
      ((byte >>> 4) <<< 4) ||| (byte &&& 15) = byte :=
  Text.forall_byte (p := fun byte => Text.hex_value (upper_digit (byte >>> 4)) = some (byte >>> 4) ∧
    Text.hex_value (upper_digit (byte &&& 15)) = some (byte &&& 15) ∧ ((byte >>> 4) <<< 4) ||| (byte &&& 15) = byte)
    (by decide +kernel) byte

theorem decode_cons_ne {c : UInt8} (hc : c ≠ 37) (rest : List UInt8) :
    decode (c :: rest) = (decode rest).map (c :: ·) := by
  match rest with
  | [] => rfl
  | [_] => rfl
  | _ :: _ :: _ => rw [decode, if_neg hc]

theorem decode_escaped (byte : UInt8) (rest : List UInt8) :
    decode (escaped byte ++ rest) = (decode rest).map (byte :: ·) := by
  obtain ⟨hhi, hlo, hbyte⟩ := hex_value_upper byte
  simp [escaped, decode, hhi, hlo, hbyte]

section encode

variable {keep : UInt8 → Bool}

theorem encode_cons (keep : UInt8 → Bool) (byte : UInt8) (bytes : List UInt8) :
    encode keep (byte :: bytes) = encode_byte keep byte ++ encode keep bytes :=
  List.flatMap_cons

/-- What was encoded is read back. -/
theorem decode_encode (hkeep : keep 37 = false) (bytes : List UInt8) : decode (encode keep bytes) = some bytes := by
  induction bytes with
  | nil => rfl
  | cons byte bytes ih =>
    rw [encode_cons, encode_byte]
    split_ifs with hbyte
    · have hne : byte ≠ 37 := by
        rintro rfl
        rw [hkeep] at hbyte
        cases hbyte
      rw [List.singleton_append, decode_cons_ne hne, ih]
      rfl
    · rw [decode_escaped, ih]
      rfl

theorem encode_injective (hkeep : keep 37 = false) : Function.Injective (encode keep) := by
  intro left right hsame
  have hread := congrArg decode hsame
  rw [decode_encode hkeep, decode_encode hkeep] at hread
  exact Option.some.inj hread

/-- A byte of an encoded text is a kept one, a percent sign or a digit. -/
theorem not_mem_encode {c : UInt8} (hkeep : keep c = false) (hescaped : ∀ byte, c ∉ escaped byte)
    (bytes : List UInt8) : c ∉ encode keep bytes := by
  rw [encode, List.mem_flatMap]
  rintro ⟨byte, _, hmem⟩
  rw [encode_byte] at hmem
  split_ifs at hmem with hbyte
  · rw [← List.mem_singleton.mp hmem, hkeep] at hbyte
    cases hbyte
  · exact hescaped byte hmem

end encode

end Percent
