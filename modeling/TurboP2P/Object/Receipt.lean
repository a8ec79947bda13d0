import TurboP2P.Object.Manifest

open Codec
open turbop2p.m3_object_manifest (ChunkCid cid_is_valid)

namespace turbop2p.m3_chunk_receipt

/-- `m3_chunk_receipt_result_t`. -/
inductive Result where
  | OK
  | INVALID_ARG
  | CORRUPT
  | CRYPTO_FAILED
  | AUTH_FAILED
  | EXPIRED
  | STORE_MISMATCH
  | CID_MISMATCH
  | REQUEST_MISMATCH
  deriving DecidableEq

/-- `m3_chunk_receipt_v1_t`. -/
structure Receipt where
  store_node_id : Bytes 32
  cid : ChunkCid
  request_id : Bytes 16
  issued_at_ms : UInt64
  signature : Bytes 64
  deriving DecidableEq

/-- `RECEIPT_MAGIC`: `M3RCPT1` and a zero byte. -/
def RECEIPT_MAGIC : List UInt8 := [77, 51, 82, 67, 80, 84, 49, 0]

def receipt_is_well_formed (receipt : Receipt) : Bool :=
  !Bytes.is_zero receipt.store_node_id.toList && cid_is_valid receipt.cid &&
    !Bytes.is_zero receipt.request_id.toList && receipt.issued_at_ms ≠ 0

def validate_v1 (receipt : Receipt) : Result :=
  if receipt_is_well_formed receipt then .OK else .INVALID_ARG

/-- `encode_body`: the part of a receipt that the store signs. -/
def encode_body (receipt : Receipt) : List UInt8 :=
  RECEIPT_MAGIC ++ receipt.store_node_id.toList ++ [receipt.cid.hash_algorithm] ++ List.replicate 7 0 ++
    write_u64_be receipt.cid.size ++ receipt.cid.digest.toList ++ receipt.request_id.toList ++
    write_u64_be receipt.issued_at_ms

def encode_v1 (receipt : Receipt) : Except Result (List UInt8) :=
  if validate_v1 receipt ≠ .OK then .error (validate_v1 receipt)
  else .ok (encode_body receipt ++ receipt.signature.toList)

def ENCODED_SIZE : Nat := 176

/-- `decode_body`, which leaves the signature zero. -/
def decode_body (input : List UInt8) : Except Result Receipt :=
  if !Bytes.is_zero ((input.drop 41).take 7) then .error .CORRUPT
  else
    let receipt : Receipt :=
      { store_node_id := take_bytes 32 (input.drop 8)
        cid :=
          { hash_algorithm := (input.drop 40).headD 0, size := read_u64_be (input.drop 48)
            digest := take_bytes 32 (input.drop 56) }
        request_id := take_bytes 16 (input.drop 88)
        issued_at_ms := read_u64_be (input.drop 104)
        signature := Bytes.zero 64 }
    if !receipt_is_well_formed receipt then .error .CORRUPT else .ok receipt

def decode_v1 (bytes : List UInt8) : Except Result Receipt :=
  if bytes.length ≠ ENCODED_SIZE ∨ bytes.take 8 ≠ RECEIPT_MAGIC then .error .CORRUPT
  else (decode_body bytes).map fun receipt => { receipt with signature := take_bytes 64 (bytes.drop 112) }

/-- `m3_chunk_receipt_verify_v1`, with the signature check of the crypto
library as `ed25519_verify`. -/
def verify_v1 (ed25519_verify : Bytes 32 → List UInt8 → Bytes 64 → Bool) (public_key : Bytes 32)
    (receipt : Receipt) : Result :=
  if validate_v1 receipt ≠ .OK then validate_v1 receipt
  else if ed25519_verify public_key (encode_body receipt) receipt.signature then .OK
  else .AUTH_FAILED

def digest_v1 (sha256 : List UInt8 → Bytes 32) (receipt : Receipt) : Except Result (Bytes 32) :=
  (encode_v1 receipt).map sha256

def check_binding_v1 (receipt : Receipt) (store_node_id : Bytes 32) (cid : ChunkCid) (request_id : Bytes 16)
    (now_ms max_age_ms : UInt64) : Result :=
  if validate_v1 receipt ≠ .OK then validate_v1 receipt
  else if receipt.store_node_id ≠ store_node_id then .STORE_MISMATCH
  else if receipt.cid ≠ cid then .CID_MISMATCH
  else if receipt.request_id ≠ request_id then .REQUEST_MISMATCH
  else if max_age_ms ≠ 0 ∧ (now_ms < receipt.issued_at_ms ∨ now_ms - receipt.issued_at_ms > max_age_ms) then .EXPIRED
  else .OK

variable {receipt : Receipt} {bytes : List UInt8}

theorem validate_v1_ok_iff : validate_v1 receipt = .OK ↔ receipt_is_well_formed receipt = true := by
  simp [validate_v1]

theorem encode_v1_eq_ok (hok : encode_v1 receipt = .ok bytes) :
    receipt_is_well_formed receipt = true ∧ bytes = encode_body receipt ++ receipt.signature.toList := by
  obtain ⟨hvalid, hok⟩ := guard_passed hok
  exact ⟨validate_v1_ok_iff.mp (not_not.mp hvalid), (Except.ok.inj hok).symm⟩

@[simp] theorem length_encode_body (receipt : Receipt) : (encode_body receipt).length = 112 := by
  simp [encode_body, RECEIPT_MAGIC]

/-- A receipt that is encoded has the size that the decoder expects. -/
theorem length_encode_v1 (hok : encode_v1 receipt = .ok bytes) : bytes.length = ENCODED_SIZE := by
  rw [(encode_v1_eq_ok hok).2]
  simp [ENCODED_SIZE]

/-- Decoding reads back every receipt that can be encoded. -/
theorem decode_encode_v1 (hok : encode_v1 receipt = .ok bytes) : decode_v1 bytes = .ok receipt := by
  have hlength := length_encode_v1 hok
  obtain ⟨hvalid, rfl⟩ := encode_v1_eq_ok hok
  have hmagic : (encode_body receipt ++ receipt.signature.toList).take 8 = RECEIPT_MAGIC := by
    simp [encode_body, RECEIPT_MAGIC]
  have hbody : decode_body (encode_body receipt ++ receipt.signature.toList) =
      .ok { receipt with signature := Bytes.zero 64 } := by
    have hkept : receipt_is_well_formed { receipt with signature := Bytes.zero 64 } = true := hvalid
    simp [decode_body, encode_body, RECEIPT_MAGIC, drop_append_field, Bytes.is_zero, hkept]
  have hsignature : take_bytes 64 receipt.signature.toList = receipt.signature := by
    simpa using take_bytes_append receipt.signature []
  simp [decode_v1, hlength, hmagic, hbody, hsignature, Except.map]

/-- A receipt that is bound to a store is well formed and names this store,
so the store's id is not zero. -/
theorem check_binding_v1_ok {store_node_id : Bytes 32} {cid : ChunkCid} {request_id : Bytes 16}
    {now_ms max_age_ms : UInt64} (hok : check_binding_v1 receipt store_node_id cid request_id now_ms max_age_ms = .OK) :
    receipt_is_well_formed receipt = true ∧ receipt.store_node_id = store_node_id ∧ receipt.cid = cid ∧
      receipt.request_id = request_id := by
  unfold check_binding_v1 at hok
  by_cases hvalid : validate_v1 receipt = .OK
  · rw [if_neg (not_not.mpr hvalid)] at hok
    obtain ⟨hstore, hok⟩ := guard_passed hok
    obtain ⟨hcid, hok⟩ := guard_passed hok
    obtain ⟨hrequest, _⟩ := guard_passed hok
    exact ⟨validate_v1_ok_iff.mp hvalid, not_not.mp hstore, not_not.mp hcid, not_not.mp hrequest⟩
  · rw [if_pos hvalid] at hok
    exact absurd hok hvalid

end turbop2p.m3_chunk_receipt
