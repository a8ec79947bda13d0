import TurboP2P.Control.Primitives
import TurboP2P.Lib.Codec
import TurboP2P.Lib.Text
import Mathlib.Data.UInt

open Codec turbop2p.mesh_control

namespace turbop2p.mesh_control_agent_sync

def VERSION_V1 : UInt16 := 1
def HEADER_SIZE_V1 : Nat := 148
def HELLO_PAYLOAD_SIZE_V1 : Nat := 184
def MAX_PAYLOAD_V1 : Nat := MAX_FRAME_SIZE_V1 - HEADER_SIZE_V1

def MAGIC_V1 : List UInt8 := Text.ascii "TSYN"

/-- `mesh_control_agent_sync_kind_v1_t`. -/
inductive Kind where
  | HELLO
  | HELLO_ACK
  | CLAIM_REQUEST
  | COMMAND
  | RECEIPT
  | HEARTBEAT
  | CLOSE
  | ERROR
  deriving DecidableEq

def Kind.code : Kind → UInt16
  | HELLO => 1
  | HELLO_ACK => 2
  | CLAIM_REQUEST => 3
  | COMMAND => 4
  | RECEIPT => 5
  | HEARTBEAT => 6
  | CLOSE => 7
  | ERROR => 8

/-- The codes that `kind_valid` accepts. -/
def Kind.of_code (code : UInt16) : Option Kind :=
  [HELLO, HELLO_ACK, CLAIM_REQUEST, COMMAND, RECEIPT, HEARTBEAT, CLOSE, ERROR].find? (·.code = code)

/-- `mesh_control_agent_sync_message_v1_t`, without the digest that only the
decoder reads. -/
structure Message where
  kind : Kind
  flags : UInt32 := 0
  status : UInt32 := 0
  node_id : Bytes 32
  session_id : Id
  session_generation : UInt64
  request_token : UInt64
  message_id : Id
  lease_generation : UInt64
  sent_at_ms : UInt64
  payload : List UInt8
  deriving DecidableEq

/-- The cryptographic function that is called here. -/
structure Crypto where
  blake2b_256 : List UInt8 → Bytes 32

/-- `message_shape_valid` of a message with a valid kind. -/
def message_shape_valid (message : Message) : Bool :=
  if bytes_are_zero message.node_id ∨ bytes_are_zero message.session_id ∨ message.request_token = 0 ∨
      message.sent_at_ms = 0 ∨ message.payload.length > MAX_PAYLOAD_V1 then false
  else
    match message.kind with
    | .HELLO =>
      message.session_generation = 0 ∧ message.lease_generation = 0 ∧ bytes_are_zero message.message_id ∧
        message.payload.length = HELLO_PAYLOAD_SIZE_V1
    | .HELLO_ACK | .CLAIM_REQUEST | .HEARTBEAT | .CLOSE =>
      message.session_generation ≠ 0 ∧ message.lease_generation = 0 ∧ bytes_are_zero message.message_id ∧
        message.payload = []
    | .COMMAND | .RECEIPT =>
      message.session_generation ≠ 0 ∧ message.lease_generation ≠ 0 ∧ ¬bytes_are_zero message.message_id ∧
        message.payload ≠ []
    | .ERROR =>
      message.session_generation ≠ 0 ∧ message.lease_generation = 0 ∧ bytes_are_zero message.message_id

def payload_digest (crypto : Crypto) (payload : List UInt8) : Bytes 32 :=
  if payload = [] then Bytes.zero 32 else crypto.blake2b_256 payload

/-- `mesh_control_agent_sync_encode_v1` into a buffer of some size. -/
def encode_v1 (crypto : Crypto) (message : Message) (output_capacity : Nat) : Option (List UInt8) :=
  if ¬message_shape_valid message then none
  else if output_capacity < HEADER_SIZE_V1 + message.payload.length then none
  else
    some (MAGIC_V1 ++ (write_u16_be VERSION_V1 ++ (write_u16_be message.kind.code ++ (write_u32_be message.flags ++
      (write_u32_be message.status ++ (message.node_id.toList ++ (message.session_id.toList ++
      (write_u64_be message.session_generation ++ (write_u64_be message.request_token ++
      (message.message_id.toList ++ (write_u64_be message.lease_generation ++ (write_u64_be message.sent_at_ms ++
      (write_u32_be (UInt32.ofNat message.payload.length) ++ ((payload_digest crypto message.payload).toList ++
      message.payload))))))))))))))

def decode_v1 (crypto : Crypto) (frame : List UInt8) : Option Message :=
  if frame.length < HEADER_SIZE_V1 ∨ frame.length > MAX_FRAME_SIZE_V1 then none
  else if frame.take 4 ≠ MAGIC_V1 ∨ read_u16_be (frame.drop 4) ≠ VERSION_V1 then none
  else
    let payload_size := (read_u32_be (frame.drop 112)).toNat
    if payload_size > MAX_PAYLOAD_V1 ∨ frame.length ≠ HEADER_SIZE_V1 + payload_size then none
    else
      match Kind.of_code (read_u16_be (frame.drop 6)) with
      | none => none
      | some kind =>
        let decoded : Message :=
          { kind
            flags := read_u32_be (frame.drop 8)
            status := read_u32_be (frame.drop 12)
            node_id := take_bytes 32 (frame.drop 16)
            session_id := take_bytes 16 (frame.drop 48)
            session_generation := read_u64_be (frame.drop 64)
            request_token := read_u64_be (frame.drop 72)
            message_id := take_bytes 16 (frame.drop 80)
            lease_generation := read_u64_be (frame.drop 96)
            sent_at_ms := read_u64_be (frame.drop 104)
            payload := frame.drop 148 }
        if ¬message_shape_valid decoded then none
        else if payload_digest crypto decoded.payload ≠ take_bytes 32 (frame.drop 116) then none
        else some decoded

variable {crypto : Crypto} {message : Message}

theorem shape_valid_of_decode {frame : List UInt8} (hdecode : decode_v1 crypto frame = some message) :
    message_shape_valid message := by
  iterate 3 obtain ⟨_, hdecode⟩ := guard_passed hdecode
  split at hdecode
  · cases hdecode
  · obtain ⟨hshape, hdecode⟩ := guard_passed hdecode
    obtain ⟨_, hdecode⟩ := guard_passed hdecode
    obtain rfl := Option.some.inj hdecode
    exact not_not.mp hshape

theorem payload_le_of_shape (hshape : message_shape_valid message) : message.payload.length ≤ MAX_PAYLOAD_V1 := by
  obtain ⟨hcommon, _⟩ := guard_passed hshape
  omega

/-- `mesh_control_agent_sync_hello_v1_t`. -/
structure Hello where
  certificate_serial : UInt64
  not_before_ms : UInt64
  expires_at_ms : UInt64
  nonce : Bytes 32
  tls_certificate_sha256 : Bytes 32
  management_public_key : Bytes 32
  signature : Bytes 64

def hello_decode_v1 (payload : List UInt8) : Option Hello :=
  if payload.length ≠ HELLO_PAYLOAD_SIZE_V1 then none
  else
    some
      { certificate_serial := read_u64_be payload, not_before_ms := read_u64_be (payload.drop 8)
        expires_at_ms := read_u64_be (payload.drop 16), nonce := take_bytes 32 (payload.drop 24)
        tls_certificate_sha256 := take_bytes 32 (payload.drop 56)
        management_public_key := take_bytes 32 (payload.drop 88), signature := take_bytes 64 (payload.drop 120) }

/-- A message with its digest field, which the encoder does not read. -/
structure Digested where
  message : Message
  payload_digest : Bytes 32
  deriving DecidableEq

/-- What `mesh_control_agent_sync_decode_v1` fills in. -/
def decode_digested (crypto : Crypto) (frame : List UInt8) : Option Digested :=
  (decode_v1 crypto frame).map fun message => ⟨message, take_bytes 32 (frame.drop 116)⟩

def Hello.bytes (hello : Hello) : List UInt8 :=
  write_u64_be hello.certificate_serial ++ (write_u64_be hello.not_before_ms ++ (write_u64_be hello.expires_at_ms ++
    (hello.nonce.toList ++ (hello.tls_certificate_sha256.toList ++ (hello.management_public_key.toList ++
    hello.signature.toList)))))

def hello_encode_v1 (hello : Hello) (output_capacity : Nat) : Option (List UInt8) :=
  if output_capacity < HELLO_PAYLOAD_SIZE_V1 then none else some hello.bytes

theorem hello_decode_bytes (hello : Hello) : hello_decode_v1 hello.bytes = some hello := by
  have hlength : hello.bytes.length = HELLO_PAYLOAD_SIZE_V1 := by simp [Hello.bytes, HELLO_PAYLOAD_SIZE_V1]
  have hlast : take_bytes 64 hello.signature.toList = hello.signature := by
    simpa using take_bytes_append hello.signature []
  rw [hello_decode_v1, if_neg (not_not.mpr hlength)]
  simp [Hello.bytes, drop_append_field, hlast]

theorem hello_bytes_decode {payload : List UInt8} {hello : Hello} (hdecode : hello_decode_v1 payload = some hello) :
    hello.bytes = payload := by
  obtain ⟨hlength, hdecode⟩ := guard_passed hdecode
  obtain rfl := Option.some.inj hdecode
  rw [not_not, HELLO_PAYLOAD_SIZE_V1] at hlength
  have hlast : (payload.drop 120).take 64 = payload.drop 120 :=
    List.take_of_length_le (by rw [List.length_drop, hlength])
  have hserial : write_u64_be (read_u64_be payload) = payload.take 8 := write_read_u64_be (by omega)
  simp only [Hello.bytes]
  rw [hserial, write_field_u64 (by omega), write_field_u64 (by omega), toList_field (by omega), toList_field (by omega),
    toList_field (by omega), toList_field (by omega), hlast, ← drop_eq_field, ← drop_eq_field, ← drop_eq_field,
    ← drop_eq_field, ← drop_eq_field, List.take_append_drop]

theorem kind_of_code (kind : Kind) : Kind.of_code kind.code = some kind := by
  cases kind <;> rfl

theorem code_of_kind {code : UInt16} {kind : Kind} (hkind : Kind.of_code code = some kind) : kind.code = code := by
  simpa using List.find?_some hkind

variable {frame : List UInt8} {output_capacity : Nat}

theorem decode_encode (hencode : encode_v1 crypto message output_capacity = some frame) :
    decode_digested crypto frame = some ⟨message, payload_digest crypto message.payload⟩ := by
  obtain ⟨hshape, hencode⟩ := guard_passed hencode
  obtain ⟨_, hencode⟩ := guard_passed hencode
  obtain rfl := Option.some.inj hencode
  rw [not_not] at hshape
  have hsize := payload_le_of_shape hshape
  have hmax : HEADER_SIZE_V1 + MAX_PAYLOAD_V1 = MAX_FRAME_SIZE_V1 := rfl
  have hnumber := UInt32.toNat_ofNat_of_lt' (Nat.lt_of_le_of_lt hsize (show MAX_PAYLOAD_V1 < UInt32.size by decide))
  have hmagic : MAGIC_V1.length = 4 := rfl
  simp only [HEADER_SIZE_V1] at hmax
  simp only [decode_digested, decode_v1]
  simp [drop_append_field, hmagic, hnumber, kind_of_code, hshape, HEADER_SIZE_V1]
  omega

theorem encode_decode (hdecode : decode_v1 crypto frame = some message) (hfits : frame.length ≤ output_capacity) :
    encode_v1 crypto message output_capacity = some frame := by
  have hshape := shape_valid_of_decode hdecode
  obtain ⟨_, hdecode⟩ := guard_passed hdecode
  obtain ⟨hheader, hdecode⟩ := guard_passed hdecode
  obtain ⟨hsizes, hdecode⟩ := guard_passed hdecode
  simp only [not_or, not_not] at hheader hsizes
  split at hdecode
  · cases hdecode
  · rename_i kind hkind
    obtain ⟨_, hdecode⟩ := guard_passed hdecode
    obtain ⟨hdigest, hdecode⟩ := guard_passed hdecode
    obtain rfl := Option.some.inj hdecode
    obtain ⟨_, hlength⟩ := hsizes
    simp only [HEADER_SIZE_V1] at hlength
    have hpayload : (frame.drop 148).length = (read_u32_be (frame.drop 112)).toNat := by
      rw [List.length_drop]
      omega
    rw [encode_v1, if_neg (not_not.mpr hshape), if_neg (by simp only [hpayload, HEADER_SIZE_V1]; omega)]
    simp only [not_not.mp hdigest, hpayload, UInt32.ofNat_toNat, code_of_kind hkind, ← hheader.1, ← hheader.2]
    rw [write_field_u16 (by omega), write_field_u16 (by omega), write_field_u32 (by omega), write_field_u32 (by omega),
      toList_field (by omega), toList_field (by omega), write_field_u64 (by omega), write_field_u64 (by omega),
      toList_field (by omega), write_field_u64 (by omega), write_field_u64 (by omega), write_field_u32 (by omega),
      toList_field (by omega)]
    iterate 13 rw [← drop_eq_field]
    rw [List.take_append_drop]

/-- A frame is exactly what the encoder writes for the message that is decoded
from it, and the decoder gives the message back, with the digest of its
payload in the digest field. The hello codec gives everything back. -/
theorem sync_round_trip (crypto : Crypto) :
    (∀ (value : Digested) (output_capacity : Nat) (frame : List UInt8),
      encode_v1 crypto value.message output_capacity = some frame →
      decode_digested crypto frame =
        some { value with payload_digest := payload_digest crypto value.message.payload }) ∧
    (∀ (frame : List UInt8) (value : Digested), decode_digested crypto frame = some value →
      ∀ output_capacity, frame.length ≤ output_capacity →
        encode_v1 crypto value.message output_capacity = some frame) ∧
    (∀ (hello : Hello) (output_capacity : Nat) (payload : List UInt8),
      hello_encode_v1 hello output_capacity = some payload → hello_decode_v1 payload = some hello) ∧
    ∀ (payload : List UInt8) (hello : Hello), hello_decode_v1 payload = some hello →
      ∀ output_capacity, payload.length ≤ output_capacity → hello_encode_v1 hello output_capacity = some payload := by
  refine ⟨fun value output_capacity frame hencode => decode_encode hencode,
    fun frame value hdecode output_capacity hfits => ?_, fun hello output_capacity payload hencode => ?_,
    fun payload hello hdecode output_capacity hfits => ?_⟩
  · obtain ⟨message, hmessage, rfl⟩ := Option.map_eq_some_iff.mp hdecode
    exact encode_decode hmessage hfits
  · obtain ⟨_, hencode⟩ := guard_passed hencode
    exact Option.some.inj hencode ▸ hello_decode_bytes hello
  · have hlength := (guard_passed hdecode).1
    rw [hello_encode_v1, if_neg (by omega), hello_bytes_decode hdecode]

/-- A close with some digest in its digest field. -/
def sample_close : Digested where
  message :=
    { kind := .CLOSE, node_id := List.Vector.replicate 32 1, session_id := List.Vector.replicate 16 1
      session_generation := 1, request_token := 1, message_id := Bytes.zero 16, lease_generation := 0, sent_at_ms := 1
      payload := [] }
  payload_digest := List.Vector.replicate 32 1

/-- A close has no payload to digest. -/
def sample_crypto : Crypto := ⟨fun _ => Bytes.zero 32⟩

/-- The encoder accepts it, and the decoder returns another digest. -/
theorem digest_field_not_returned :
    ∃ frame value, encode_v1 sample_crypto sample_close.message 148 = some frame ∧
      decode_digested sample_crypto frame = some value ∧ value ≠ sample_close := by
  have hencode : (encode_v1 sample_crypto sample_close.message 148).isSome := rfl
  obtain ⟨frame, hframe⟩ := Option.isSome_iff_exists.mp hencode
  refine ⟨frame, _, hframe, decode_encode hframe, fun heq => ?_⟩
  have hdigest : Bytes.zero 32 = List.Vector.replicate 32 1 := congrArg Digested.payload_digest heq
  exact absurd hdigest (by decide)

end turbop2p.mesh_control_agent_sync
