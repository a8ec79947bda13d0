import TurboP2P.Lib.Scan
import TurboP2P.Lib.Bytes
import TurboP2P.Lib.Machine
import Mathlib.Data.UInt

open Scan Text

namespace turbop2p.mesh

/-- The characters of a C string, without the terminator. -/
abbrev Str := List UInt8

/-- A received buffer read as a C string. The buffer is taken to end in a
terminator. -/
def c_string (data : List UInt8) : Str := data.takeWhile (· ≠ 0)

/-- What `strncpy` or `fmt` leaves in a cleared field of `size` characters. -/
def field (size : Nat) (text : Str) : Str := text.take (size - 1)

theorem field_eq_self {size : Nat} {text : Str} (hlength : text.length ≤ size - 1) : field size text = text :=
  List.take_of_length_le hlength

def UINT16_MAX : Nat := 65535
def UINT32_MAX : Nat := 4294967295

def CAP_ROUTED_CONTROL : UInt32 := 1
def CAP_SELECTED_PAIR_IP : UInt32 := 2
def CAP_STREAM_V1 : UInt32 := 16
def CAP_MULTI_NETWORK_V2 : UInt32 := 32
def CAP_NETWORK_FRAME_V2 : UInt32 := 64
def CAP_NETWORK_MEMBERSHIP_V1 : UInt32 := 128
def CAP_LOCAL_DEFAULT : UInt32 := 0
def PROTOCOL_MAJOR : UInt16 := 1

/-- `ip_str_to_uint32`: a number is not checked against 255, and what follows
the fourth one is not read. -/
def ip_str_to_uint32 (ip_str : Str) : UInt32 :=
  match scan [.unsigned, .literal (ascii "."), .unsigned, .literal (ascii "."), .unsigned, .literal (ascii "."),
    .unsigned] ip_str with
  | [.nat a, .nat b, .nat c, .nat d] =>
    (UInt32.ofNat a <<< 24) ||| (UInt32.ofNat b <<< 16) ||| (UInt32.ofNat c <<< 8) ||| UInt32.ofNat d
  | _ => 0

def uint32_to_ip_str (ip : UInt32) : Str :=
  decimal ((ip >>> 24) &&& 0xFF).toNat ++ ascii "." ++ decimal ((ip >>> 16) &&& 0xFF).toNat ++ ascii "." ++
    decimal ((ip >>> 8) &&& 0xFF).toNat ++ ascii "." ++ decimal (ip &&& 0xFF).toNat

def ip_is_unspecified (ip : Str) : Bool := ip = [] ∨ ip = ascii "0.0.0.0" ∨ ip = ascii "::"

def node_id_is_valid (node_id : Str) : Bool := node_id.length = 64 ∧ node_id.all is_hex_digit

def bytes_to_hex (key : Bytes 32) : Str := hex_encode key.toList

def hex_to_bytes (size : Nat) (hex : Str) : Option (List UInt8) :=
  if hex.length ≠ size * 2 then none else hex_decode hex

theorem bytes_to_hex_ne_nil (key : Bytes 32) : bytes_to_hex key ≠ [] := by
  rw [← List.length_pos_iff, bytes_to_hex, length_hex_encode, key.toList_length]
  decide

theorem hex_to_bytes_bytes_to_hex (key : Bytes 32) : hex_to_bytes 32 (bytes_to_hex key) = some key.toList := by
  have hlength : (bytes_to_hex key).length = 32 * 2 := by
    rw [bytes_to_hex, length_hex_encode, key.toList_length]
  rw [hex_to_bytes, if_neg (not_not.mpr hlength), bytes_to_hex, hex_decode_encode]

def parse_endpoint (endpoint : Str) : Option (Str × Int) :=
  match scan [.scanset 63 (· ≠ 58), .literal (ascii ":"), .int] endpoint with
  | [.text ip, .int port] => if port ≤ 0 then none else some (ip, port)
  | _ => none

def endpoint_is_routable (endpoint : Str) : Bool :=
  match parse_endpoint endpoint with
  | some (ip, _) => !ip_is_unspecified ip
  | none => false

/-- `mesh_parse_hello_capabilities`: zero unless a number of at most 32 bits
follows, up to the end or a colon. -/
def parse_hello_capabilities (payload : Str) : UInt32 :=
  match strstr (ascii ":caps=") payload with
  | none => 0
  | some caps =>
    match hex_number (caps.drop 6) with
    | none => 0
    | some number =>
      if (number.rest ≠ [] ∧ number.rest.head? ≠ some 58) ∨ number.unsigned_long > UINT32_MAX then 0
      else UInt32.ofNat number.unsigned_long

/-- What a HELLO says. An absent node id or address is empty, an absent
number zero. -/
structure Hello where
  virtual_ip : Str
  advertised_ip : Str
  advertised_port : Int
  node_id : Str
  protocol_major : Nat
  protocol_minor : Nat
  capabilities : UInt32

/-- A node id that is not valid counts as absent. -/
def hello_node_id (node_id : Str) : Str := if node_id_is_valid node_id then field 65 node_id else []

/-- The two forms with a protocol version refuse a version that is zero or
too large. -/
def hello_with_protocol (payload virtual_ip advertised_ip : Str) (advertised_port : Int) (node_id : Str)
    (major minor : Nat) : Option Hello :=
  if major = 0 ∨ major > UINT16_MAX ∨ minor > UINT16_MAX then none
  else
    some ⟨field 16 virtual_ip, field 64 advertised_ip, advertised_port, hello_node_id node_id, major, minor,
      parse_hello_capabilities payload⟩

def format_virtual_ip : List Directive := [.scanset 15 (· ≠ 58)]
def format_endpoint : List Directive := [.literal (ascii ":"), .scanset 63 (· ≠ 58), .literal (ascii ":"), .int]
def format_node : List Directive := [.literal (ascii ":node="), .scanset 64 is_hex_digit]
def format_protocol : List Directive := [.literal (ascii ":proto="), .unsigned, .literal (ascii "."), .unsigned]

/-- `mesh_parse_hello_message`: the five forms of a HELLO are tried in turn. -/
def parse_hello_message (payload : Str) : Option Hello :=
  match scan (format_virtual_ip ++ format_endpoint ++ format_node ++ format_protocol) payload with
  | [.text virtual_ip, .text advertised_ip, .int port, .text node_id, .nat major, .nat minor] =>
    hello_with_protocol payload virtual_ip advertised_ip port node_id major minor
  | _ =>
  match scan (format_virtual_ip ++ format_node ++ format_protocol) payload with
  | [.text virtual_ip, .text node_id, .nat major, .nat minor] =>
    hello_with_protocol payload virtual_ip [] 0 node_id major minor
  | _ =>
  match scan (format_virtual_ip ++ format_endpoint ++ format_node) payload with
  | .text virtual_ip :: .text advertised_ip :: .int port :: node =>
    let node_id := match node with
      | [.text node_id] => node_id
      | _ => []
    some ⟨field 16 virtual_ip, field 64 advertised_ip, port, hello_node_id node_id, 0, 0, 0⟩
  | _ =>
  match scan (format_virtual_ip ++ format_node) payload with
  | [.text virtual_ip, .text node_id] => some ⟨field 16 virtual_ip, [], 0, hello_node_id node_id, 0, 0, 0⟩
  | _ =>
  match scan (format_virtual_ip ++ format_endpoint) payload with
  | [.text virtual_ip, .text advertised_ip, .int port] =>
    if port > 0 then some ⟨field 16 virtual_ip, field 64 advertised_ip, port, [], 0, 0, 0⟩
    else some ⟨field 16 virtual_ip, [], 0, [], 0, 0, 0⟩
  | .text virtual_ip :: _ => some ⟨field 16 virtual_ip, [], 0, [], 0, 0, 0⟩
  | _ => none

/-- A parsed HELLO fits the fields of a peer: its address is written without
being cut and its major version without losing a bit. -/
structure Hello.Fits (hello : Hello) : Prop where
  virtual_ip : hello.virtual_ip.length ≤ 15
  protocol_major : hello.protocol_major ≤ UINT16_MAX

theorem length_field_le (size : Nat) (text : Str) : (field size text).length ≤ size - 1 := List.length_take_le _ _

theorem fits_of_hello_with_protocol {payload virtual_ip advertised_ip node_id : Str} {port : Int} {major minor : Nat}
    {hello : Hello}
    (hhello : hello_with_protocol payload virtual_ip advertised_ip port node_id major minor = some hello) :
    hello.Fits := by
  obtain ⟨hversion, hhello⟩ := guard_passed hhello
  obtain rfl := Option.some.inj hhello
  have hmajor : major ≤ UINT16_MAX := by omega
  exact ⟨length_field_le 16 virtual_ip, hmajor⟩

theorem fits_of_parse_hello_message {payload : Str} {hello : Hello}
    (hparse : parse_hello_message payload = some hello) : hello.Fits := by
  have hplain : ∀ (virtual_ip advertised_ip node_id : Str) (port : Int),
      Hello.Fits ⟨field 16 virtual_ip, advertised_ip, port, node_id, 0, 0, 0⟩ :=
    fun virtual_ip _ _ _ => ⟨length_field_le 16 virtual_ip, Nat.zero_le _⟩
  rw [parse_hello_message] at hparse
  split at hparse
  · exact fits_of_hello_with_protocol hparse
  split at hparse
  · exact fits_of_hello_with_protocol hparse
  split at hparse
  · obtain rfl := Option.some.inj hparse
    exact hplain _ _ _ _
  split at hparse
  · obtain rfl := Option.some.inj hparse
    exact hplain _ _ _ _
  split at hparse
  · split at hparse
    · obtain rfl := Option.some.inj hparse
      exact hplain _ _ _ _
    · obtain rfl := Option.some.inj hparse
      exact hplain _ _ _ _
  · obtain rfl := Option.some.inj hparse
    exact hplain _ _ _ _
  · cases hparse

end turbop2p.mesh
