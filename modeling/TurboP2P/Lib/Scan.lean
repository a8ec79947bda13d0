import TurboP2P.Lib.Text
import Mathlib.Algebra.Group.Int.Defs

namespace Scan

/-- White space in the C locale. -/
def is_space (c : UInt8) : Bool := c = 32 ∨ (9 ≤ c ∧ c ≤ 13)

def is_digit (c : UInt8) : Bool := 48 ≤ c ∧ c ≤ 57

def is_hex_digit (c : UInt8) : Bool := (Text.hex_value c).isSome

/-- The value of digits in some base, the first one the most significant. -/
def digits_value (base : Nat) (digits : List UInt8) : Nat :=
  digits.foldl (fun value c => base * value + ((Text.hex_value c).getD 0).toNat) 0

/-- A number as `strtol` and `strtoul` find it: whether a minus sign stands
before it, its digits, and the text after them. -/
structure Number where
  negative : Bool
  magnitude : Nat
  rest : List UInt8

def digits (base : Nat) (is_digit : UInt8 → Bool) (negative : Bool) (text : List UInt8) : Option Number :=
  if text.takeWhile is_digit = [] then none
  else some ⟨negative, digits_value base (text.takeWhile is_digit), text.dropWhile is_digit⟩

/-- White space and one sign are passed over. -/
def signed (read : Bool → List UInt8 → Option Number) (text : List UInt8) : Option Number :=
  match text.dropWhile is_space with
  | 45 :: rest => read true rest
  | 43 :: rest => read false rest
  | rest => read false rest

def decimal_number : List UInt8 → Option Number := signed (digits 10 is_digit)

/-- In base 16 the digits may have `0x` before them. -/
def hex_number : List UInt8 → Option Number :=
  signed fun negative text =>
    match text with
    | 48 :: 120 :: c :: rest =>
      if is_hex_digit c then digits 16 is_hex_digit negative (c :: rest) else digits 16 is_hex_digit negative text
    | 48 :: 88 :: c :: rest =>
      if is_hex_digit c then digits 16 is_hex_digit negative (c :: rest) else digits 16 is_hex_digit negative text
    | _ => digits 16 is_hex_digit negative text

/-- The value of `strtol` with a 64-bit `long`. -/
def Number.long (number : Number) : Int :=
  if number.negative then max (-2 ^ 63) (-(number.magnitude : Int)) else min (2 ^ 63 - 1) number.magnitude

/-- The value of `strtoul` with a 64-bit `long`. -/
def Number.unsigned_long (number : Number) : Nat :=
  if number.magnitude ≥ 2 ^ 64 then 2 ^ 64 - 1
  else if number.negative then (2 ^ 64 - number.magnitude) % 2 ^ 64
  else number.magnitude

/-- The directives of a `scanf` format that are used here. -/
inductive Directive where
  | literal (text : List UInt8)
  /-- `%<width>[...]` -/
  | scanset (width : Nat) (allowed : UInt8 → Bool)
  /-- `%<width>s` -/
  | word (width : Nat)
  /-- `%d` -/
  | int
  /-- `%u` -/
  | unsigned
  /-- `%lx` -/
  | long_hex

inductive Value where
  | text (bytes : List UInt8)
  | int (value : Int)
  | nat (value : Nat)
  deriving DecidableEq

/-- The bytes that a scan set takes: as many as it allows, up to its width. -/
def span (width : Nat) (allowed : UInt8 → Bool) (input : List UInt8) : List UInt8 :=
  (input.takeWhile allowed).take width

/-- The values that `sscanf` assigns before the first directive that fails;
it returns their number. A number is read as a `long` and cut to the type
of its target. -/
def scan : List Directive → List UInt8 → List Value
  | [], _ => []
  | .literal text :: format, input => if text.isPrefixOf input then scan format (input.drop text.length) else []
  | .scanset width allowed :: format, input =>
    if span width allowed input = [] then []
    else .text (span width allowed input) :: scan format (input.drop (span width allowed input).length)
  | .word width :: format, input =>
    let input := input.dropWhile is_space
    let taken := span width (fun c => !is_space c) input
    if taken = [] then [] else .text taken :: scan format (input.drop taken.length)
  | .int :: format, input =>
    match decimal_number input with
    | none => []
    | some number => .int (Int.bmod number.long (2 ^ 32)) :: scan format number.rest
  | .unsigned :: format, input =>
    match decimal_number input with
    | none => []
    | some number => .nat (number.unsigned_long % 2 ^ 32) :: scan format number.rest
  | .long_hex :: format, input =>
    match hex_number input with
    | none => []
    | some number => .nat number.unsigned_long :: scan format number.rest

/-- The part of a text from the first place where a needle stands. -/
def strstr (needle text : List UInt8) : Option (List UInt8) := text.tails.find? fun tail => needle.isPrefixOf tail

/-- The non-empty parts of a text between separators. -/
def tokens (separator : UInt8) (text : List UInt8) : List (List UInt8) :=
  (text.splitOn separator).filter (· ≠ [])

end Scan
