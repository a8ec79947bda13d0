import Mathlib.Data.List.Sort
import TurboP2P.Gateway.Wire
import TurboP2P.Lib.Percent
import TurboP2P.Lib.Scan

open Text (ascii)
open Scan (is_space)
open turbop2p.m3_gateway (CString c_string ascii_lower)

namespace turbop2p.m3_gateway_sigv4

/-- The bytes that `uri_encode` keeps. -/
def unreserved (encode_slash : Bool) (c : UInt8) : Bool :=
  (65 ≤ c && c ≤ 90) || (97 ≤ c && c ≤ 122) || (48 ≤ c && c ≤ 57) || c = 45 || c = 95 || c = 46 || c = 126 ||
    (c = 47 && !encode_slash)

/-- `uri_encode` into a buffer of `cap` bytes, one of which is for the
terminator. -/
def uri_encode (encode_slash : Bool) (cap : Nat) (bytes : List UInt8) : Option (List UInt8) :=
  let out := Percent.encode (unreserved encode_slash) bytes
  if out.length < cap then some out else none

/-- `percent_decode` into a buffer of `cap` bytes: all bytes that are written
before the terminator. -/
def percent_decode (cap : Nat) (bytes : List UInt8) : Option (List UInt8) :=
  (Percent.decode bytes).filter fun out => out.length < cap

/-- `query_pair_t`: a parameter as the comparisons and the encoder see it, up
to the first terminator. -/
structure QueryPair where
  name : List UInt8
  value : List UInt8
  deriving DecidableEq

/-- The parts of a list that is separated by a byte, as the loops of this file
walk it: nothing after the last separator is no part. -/
def segments (separator : UInt8) (raw : List UInt8) : List (List UInt8) :=
  let parts := raw.splitOn separator
  if parts.getLast? = some [] then parts.dropLast else parts

/-- A segment up to its first equals sign. -/
def segment_name (segment : List UInt8) : List UInt8 := segment.takeWhile (· ≠ 61)

/-- What follows the first equals sign of a segment. -/
def segment_value (segment : List UInt8) : List UInt8 := (segment.dropWhile (· ≠ 61)).drop 1

def MAX_PAIRS : Nat := 64
def QUERY_BUF : Nat := 2048

/-- The loop of `query_parse`, with the used part `o` of the buffer and the
number of pairs so far. The strings of the pairs end at a decoded zero, and
so does the part of the buffer that they use. -/
def query_parse (o count : Nat) : List (List UInt8) → Option (List QueryPair)
  | [] => some []
  | segment :: rest =>
    if count ≥ MAX_PAIRS then none
    else
      match percent_decode (QUERY_BUF - o) (segment_name segment) with
      | none => none
      | some name =>
        let o := o + (c_string name).length + 1
        if o ≥ QUERY_BUF then none
        else
          match percent_decode (QUERY_BUF - o) (segment_value segment) with
          | none => none
          | some value =>
            let o := o + (c_string value).length + 1
            if o ≥ QUERY_BUF then none
            else (query_parse o (count + 1) rest).map (⟨c_string name, c_string value⟩ :: ·)

/-- `query_pair_cmp(a, b) <= 0`. -/
def query_pair_le (l r : QueryPair) : Prop := l.name < r.name ∨ l.name = r.name ∧ l.value ≤ r.value

instance : DecidableRel query_pair_le := fun l r =>
  inferInstanceAs (Decidable (l.name < r.name ∨ l.name = r.name ∧ l.value ≤ r.value))

/-- A parameter as the canonical query has it. -/
def QueryPair.text (pair : QueryPair) : List UInt8 :=
  Percent.encode (unreserved true) pair.name ++ 61 :: Percent.encode (unreserved true) pair.value

/-- Parameters joined by ampersands. -/
def joined (texts : List (List UInt8)) : List UInt8 := [38].intercalate texts

/-- The parameters whose name is not the excluded one. -/
def kept (exclude_name : Option CString) (pairs : List QueryPair) : List QueryPair :=
  pairs.filter fun pair => exclude_name.map (·.val) ≠ some pair.name

/-- `canonical_query_build` into a buffer of `cap` bytes. -/
def canonical_query_build (raw exclude_name : Option CString) (cap : Nat) : Option (List UInt8) :=
  match raw with
  | none => some []
  | some raw =>
    if raw.val = [] then some []
    else
      match query_parse 0 0 (segments 38 raw.val) with
      | none => none
      | some pairs =>
        let out := joined ((kept exclude_name (pairs.insertionSort query_pair_le)).map QueryPair.text)
        if out.length < cap then some out else none

/-- The loop of `header_value_normalize` after the leading blanks. -/
def squeeze (pending_space : Bool) : List UInt8 → List UInt8
  | [] => []
  | c :: rest =>
    if is_space c then squeeze true rest
    else (if pending_space then [32, c] else [c]) ++ squeeze false rest

/-- `header_value_normalize` without its bound. -/
def normalized (value : List UInt8) : List UInt8 := squeeze false (value.dropWhile is_space)

/-- `header_value_normalize` into the caller's buffer; `none` if the value does
not fit, which the caller sees from a length of zero with bytes written. -/
def header_value_normalize (value : List UInt8) : Option (List UInt8) :=
  if (normalized value).length < 1024 then some (normalized value) else none

/-- `m3_sigv4_header_lookup_fn` with its context. -/
abbrev Lookup := List UInt8 → Option CString

def header_line (name value : List UInt8) : List UInt8 := name.map ascii_lower ++ 58 :: value ++ [10]

/-- The loop of `build_canonical_headers` with the bytes written so far. -/
def build_canonical_headers (lookup : Lookup) (cap : Nat) (out : List UInt8) :
    List (List UInt8) → Option (List UInt8)
  | [] => some out
  | name :: rest =>
    if name.length = 0 ∨ name.length ≥ 128 then none
    else
      match lookup (name.map ascii_lower) with
      | none => none
      | some value =>
        match header_value_normalize value.val with
        | none => none
        | some value =>
          if out.length + name.length + 1 + value.length + 1 + 1 ≥ cap then none
          else build_canonical_headers lookup cap (out ++ header_line name value) rest

/-- The text that the verifier hashes, from its parts. -/
def request_text (method uri query headers signed_headers payload_hash : List UInt8) : List UInt8 :=
  method ++ 10 :: (uri ++ 10 :: (query ++ 10 :: (headers ++ (signed_headers ++ 10 :: payload_hash))))

/-- What `m3_sigv4_verify_core` reads of a request to build the canonical
request. -/
structure CanonicalInput where
  method : CString
  canonical_uri : CString
  raw_query : Option CString
  exclude_query_name : Option CString
  signed_headers : List UInt8
  payload_hash : Option (List UInt8)
  lookup : Lookup

/-- The payload hash of a request: given, or the header of this name. -/
def CanonicalInput.payload (input : CanonicalInput) : Option (List UInt8) :=
  match input.payload_hash with
  | some payload_hash => some payload_hash
  | none =>
    match input.lookup (ascii "x-amz-content-sha256") with
    | none => none
    | some payload_hash => if payload_hash.val = [] then none else some payload_hash.val

/-- The canonical request of `m3_sigv4_verify_core`; `none` where it returns
`MALFORMED_AUTH`. -/
def canonical_request (input : CanonicalInput) : Option (List UInt8) := do
  let canonical_uri_enc ← uri_encode false 1024 input.canonical_uri.val
  let canonical_query ← canonical_query_build input.raw_query input.exclude_query_name 2048
  let canonical_headers ← build_canonical_headers input.lookup 4096 [] (segments 59 input.signed_headers)
  if input.signed_headers.length ≥ 512 then none
  else
    let payload_hash ← input.payload
    let text := request_text input.method.val canonical_uri_enc canonical_query canonical_headers
      input.signed_headers payload_hash
    if text.length ≥ 8192 then none else some text

end turbop2p.m3_gateway_sigv4
