import TurboP2P.Object.Receipt

open Codec
open turbop2p.m3_object_manifest (ChunkCid)

namespace turbop2p.m3_chunk_mesh

/-- `m3_chunk_mesh_result_t`. A client hands on the codes of the store node
too, so that a result is any code; `OK` to `OVERFLOW` are the module's own. -/
abbrev Result := Int32

def OK : Result := 0
def INVALID_ARG : Result := -1
def CORRUPT : Result := -2
def AUTH_FAILED : Result := -3
def RESOURCE_EXHAUSTED : Result := -4
def NETWORK : Result := -5
def TIMEOUT : Result := -6
def NOT_READY : Result := -8
def OVERFLOW : Result := -9

def MAX_PAYLOAD : Nat := 61440
def FRAME_MAX : Nat := MAX_PAYLOAD + 512
def CLAIMS_SIZE : Nat := 168
def FRAME_PAYLOAD_OFFSET : Nat := 336

def OP_PUT : UInt8 := 1
def OP_GET : UInt8 := 2
def FRAME_REQUEST : UInt8 := 1
def FRAME_RESPONSE : UInt8 := 2

/-- `FRAME_MAGIC`: `M3CHNK1` and a zero byte. -/
def FRAME_MAGIC : List UInt8 := [77, 51, 67, 72, 78, 75, 49, 0]

/-- `m3_chunk_capability_claims_v1_t`, with the byte of the wire as its
operation. -/
structure Claims where
  tenant_id : Bytes 32
  cid : ChunkCid
  operation : UInt8
  range_offset : UInt64
  range_length : UInt64
  audience_node_id : Bytes 32
  request_id : Bytes 16
  issued_at_ms : UInt64
  expires_at_ms : UInt64
  deriving DecidableEq

def claims_bytes (claims : Claims) : List UInt8 :=
  claims.tenant_id.toList ++ ([claims.cid.hash_algorithm] ++ (List.replicate 7 0 ++
    (write_u64_be claims.cid.size ++ (claims.cid.digest.toList ++ ([claims.operation] ++ (List.replicate 7 0 ++
    (write_u64_be claims.range_offset ++ (write_u64_be claims.range_length ++ (claims.audience_node_id.toList ++
    (claims.request_id.toList ++ (write_u64_be claims.issued_at_ms ++ write_u64_be claims.expires_at_ms)))))))))))

def claims_encode_v1 (claims : Claims) : Bytes 168 :=
  ⟨claims_bytes claims, by simp [claims_bytes]⟩

def claims_decode_v1 (bytes : Bytes 168) : Except Result Claims :=
  let input := bytes.toList
  if !Bytes.is_zero ((input.drop 33).take 7) ∨ !Bytes.is_zero ((input.drop 81).take 7) then .error CORRUPT
  else
    .ok
      { tenant_id := take_bytes 32 input
        cid :=
          { hash_algorithm := (input.drop 32).headD 0, size := read_u64_be (input.drop 40)
            digest := take_bytes 32 (input.drop 48) }
        operation := (input.drop 80).headD 0
        range_offset := read_u64_be (input.drop 88)
        range_length := read_u64_be (input.drop 96)
        audience_node_id := take_bytes 32 (input.drop 104)
        request_id := take_bytes 16 (input.drop 136)
        issued_at_ms := read_u64_be (input.drop 152)
        expires_at_ms := read_u64_be (input.drop 160) }

/-- The fields of a frame that a message carries. -/
structure Frame where
  type : UInt8
  operation : UInt8
  status : Int32
  correlation_id : Bytes 16
  claims : Bytes 168
  signature : Bytes 64
  channel_public_key : Bytes 32
  signer_public_key : Bytes 32
  payload : List UInt8
  deriving DecidableEq

def Frame.bytes (frame : Frame) : List UInt8 :=
  FRAME_MAGIC ++ (write_u16_be 1 ++ ([frame.type] ++ ([frame.operation] ++ (write_u32_be frame.status.toUInt32 ++
    (frame.correlation_id.toList ++ (write_u32_be 168 ++ (write_u32_be (UInt32.ofNat frame.payload.length) ++
    (frame.claims.toList ++ (frame.signature.toList ++ (frame.channel_public_key.toList ++
    (frame.signer_public_key.toList ++ frame.payload)))))))))))

/-- `m3_chunk_mesh_frame_encode_v1` into a buffer of `FRAME_MAX` bytes. -/
def frame_encode_v1 (frame : Frame) : Except Result (List UInt8) :=
  if (frame.type ≠ FRAME_REQUEST ∧ frame.type ≠ FRAME_RESPONSE) ∨
      (frame.operation ≠ OP_PUT ∧ frame.operation ≠ OP_GET) then .error INVALID_ARG
  else if frame.payload.length > MAX_PAYLOAD then .error OVERFLOW
  else if FRAME_PAYLOAD_OFFSET + frame.payload.length > FRAME_MAX then .error RESOURCE_EXHAUSTED
  else .ok frame.bytes

/-- `m3_chunk_mesh_frame_decode_v1`. The type and the operation are handed on
as they stand in the frame. -/
def frame_decode_v1 (input : List UInt8) : Except Result Frame :=
  if input.length < FRAME_PAYLOAD_OFFSET ∨ input.take 8 ≠ FRAME_MAGIC ∨ read_u16_be (input.drop 8) ≠ 1 then
    .error CORRUPT
  else if (read_u32_be (input.drop 32)).toNat ≠ CLAIMS_SIZE ∨ (read_u32_be (input.drop 36)).toNat > MAX_PAYLOAD then
    .error CORRUPT
  else if input.length ≠ FRAME_PAYLOAD_OFFSET + (read_u32_be (input.drop 36)).toNat then .error CORRUPT
  else
    .ok
      { type := (input.drop 10).headD 0, operation := (input.drop 11).headD 0
        status := (read_u32_be (input.drop 12)).toInt32, correlation_id := take_bytes 16 (input.drop 16)
        claims := take_bytes 168 (input.drop 40), signature := take_bytes 64 (input.drop 208)
        channel_public_key := take_bytes 32 (input.drop 272), signer_public_key := take_bytes 32 (input.drop 304)
        payload := input.drop 336 }

/-- The claims of a request arrive at the store as they were encoded. -/
theorem claims_decode_encode (claims : Claims) : claims_decode_v1 (claims_encode_v1 claims) = .ok claims := by
  have htoList : (claims_encode_v1 claims).toList = claims_bytes claims := rfl
  have hexpires : read_u64_be (write_u64_be claims.expires_at_ms ++ []) = claims.expires_at_ms :=
    read_write_u64_be _ claims.expires_at_ms
  rw [List.append_nil] at hexpires
  simp [claims_decode_v1, htoList, claims_bytes, drop_append_field, Bytes.is_zero, hexpires]

variable {bytes : List UInt8} {frame : Frame}

theorem frame_encode_v1_eq_ok (hok : frame_encode_v1 frame = .ok bytes) :
    frame.payload.length ≤ MAX_PAYLOAD ∧ bytes = frame.bytes := by
  obtain ⟨_, hok⟩ := guard_passed hok
  obtain ⟨hpayload, hok⟩ := guard_passed hok
  obtain ⟨_, hok⟩ := guard_passed hok
  exact ⟨Nat.le_of_not_gt hpayload, (Except.ok.inj hok).symm⟩

theorem Frame.length_bytes (frame : Frame) : frame.bytes.length = FRAME_PAYLOAD_OFFSET + frame.payload.length := by
  simp [Frame.bytes, FRAME_MAGIC, FRAME_PAYLOAD_OFFSET]
  omega

/-- Decoding reads back every frame that can be encoded. -/
theorem frame_decode_encode (hok : frame_encode_v1 frame = .ok bytes) :
    frame_decode_v1 bytes = .ok frame := by
  obtain ⟨hpayload, rfl⟩ := frame_encode_v1_eq_ok hok
  have hlength := frame.length_bytes
  have hsize : (read_u32_be (frame.bytes.drop 36)).toNat = frame.payload.length := by
    have hfits : frame.payload.length < 2 ^ 32 := by
      simp only [MAX_PAYLOAD] at hpayload
      omega
    simp [Frame.bytes, FRAME_MAGIC, drop_append_field]
    omega
  have hclaims : read_u32_be (frame.bytes.drop 32) = 168 := by
    simp [Frame.bytes, FRAME_MAGIC, drop_append_field]
  have hmagic : frame.bytes.take 8 = FRAME_MAGIC := by
    simp [Frame.bytes, FRAME_MAGIC]
  have hversion : read_u16_be (frame.bytes.drop 8) = 1 := by
    simp [Frame.bytes, FRAME_MAGIC]
  unfold frame_decode_v1
  rw [if_neg (by simp [hmagic, hversion, hlength]), if_neg (by simp [hclaims, hsize, CLAIMS_SIZE, hpayload]),
    if_neg (by rw [hsize, hlength]; simp)]
  simp [Frame.bytes, FRAME_MAGIC, drop_append_field]

end turbop2p.m3_chunk_mesh
