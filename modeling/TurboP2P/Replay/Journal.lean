import TurboP2P.Lib.SlotTable
import TurboP2P.Lib.Text
import TurboP2P.Object.Manifest

open Codec
open Text (ascii)
open turbop2p.m3_object_manifest (ChunkCid HASH_ALGORITHM_SHA256)

namespace turbop2p.m3_chunk_replay

def MAX_ENTRIES : Nat := 4096

/-- `m3_chunk_replay_result_t`. -/
inductive Result where
  | OK
  | INVALID_ARG
  | INVALID_ACCESS
  | EXPIRED
  | CONFLICT
  | NOT_FOUND
  | RESOURCE_EXHAUSTED
  | CRYPTO_FAILED
  deriving DecidableEq

def OPERATION_READ : UInt32 := 1
def OPERATION_PUT : UInt32 := 2

/-- `m3_chunk_authorized_access_v1_t`. -/
structure Access where
  tenant_id : Bytes 32
  cid : ChunkCid
  operation : UInt32
  range_offset : UInt64
  range_length : UInt64
  audience_node_id : Bytes 32
  request_id : Bytes 16
  expires_at_ms : UInt64
  deriving DecidableEq

inductive EntryState where
  | IN_PROGRESS
  | COMPLETED
  deriving DecidableEq

/-- `m3_chunk_replay_entry_v1_t`; a free entry is a free slot of the table. -/
structure Entry where
  request_id : Bytes 16
  access_digest : Bytes 32
  expires_at_ms : UInt64
  state : EntryState
  result_code : Int32
  deriving DecidableEq

/-- `m3_chunk_replay_journal_v1_t`; the capacity is the length of the table. -/
structure Journal where
  entries : SlotTable Entry
  max_ttl_ms : UInt64

inductive BeginKind where
  | NEW
  | IN_PROGRESS
  | COMPLETED
  deriving DecidableEq

/-- `m3_chunk_replay_begin_v1_t`. -/
structure Begin where
  kind : BeginKind
  result_code : Int32
  deriving DecidableEq

def access_is_valid (access : Access) : Bool :=
  access.cid.hash_algorithm = HASH_ALGORITHM_SHA256 && !Bytes.is_zero access.cid.digest.toList &&
    !Bytes.is_zero access.tenant_id.toList && !Bytes.is_zero access.audience_node_id.toList &&
    !Bytes.is_zero access.request_id.toList && access.expires_at_ms ≠ 0 && access.range_offset ≤ access.cid.size &&
    access.range_length ≤ access.cid.size - access.range_offset &&
    (access.operation = OPERATION_READ ||
      (access.operation = OPERATION_PUT && access.range_offset = 0 && access.range_length = access.cid.size))

/-- What the digest of an access covers. -/
def access_bytes (access : Access) : List UInt8 :=
  ascii "TurboNet-M3-Chunk-Authorized-Access-v1" ++ (access.tenant_id.toList ++ ([access.cid.hash_algorithm] ++
    (write_u64_be access.cid.size ++ (access.cid.digest.toList ++ (write_u32_be access.operation ++
    (write_u64_be access.range_offset ++ (write_u64_be access.range_length ++ (access.audience_node_id.toList ++
    (access.request_id.toList ++ write_u64_be access.expires_at_ms)))))))))

/-- The outcomes of the calls that compute a digest. -/
structure HashIo where
  created : Bool
  digested : Bool

def find_entry (entries : SlotTable Entry) (request_id : Bytes 16) : Option (Nat × Entry) :=
  entries.find fun entry => entry.request_id = request_id

/-- An entry that a sweep removes. -/
def Entry.expired (now_ms : UInt64) (entry : Entry) : Bool := now_ms ≥ entry.expires_at_ms

/-- `m3_chunk_replay_journal_sweep_v1`: the number of entries removed and the
table. -/
def sweep (entries : SlotTable Entry) (now_ms : UInt64) : Nat × SlotTable Entry :=
  ((entries.live.filter (·.expired now_ms)).length, entries.clear (·.expired now_ms))

section requests

variable (sha256 : List UInt8 → Bytes 32)

def hash_access (hash : HashIo) (access : Access) : Except Result (Bytes 32) :=
  if !access_is_valid access then .error .INVALID_ACCESS
  else if hash.created = false then .error .RESOURCE_EXHAUSTED
  else if hash.digested = false then .error .CRYPTO_FAILED
  else .ok (sha256 (access_bytes access))

def Access.entry (access : Access) (digest : Bytes 32) : Entry :=
  { request_id := access.request_id, access_digest := digest, expires_at_ms := access.expires_at_ms
    state := .IN_PROGRESS, result_code := 0 }

/-- `m3_chunk_replay_begin_request_v1`: the result, `out_begin` if it is set and
the journal. -/
def begin_request_v1 (hash : HashIo) (journal : Journal) (access : Access) (now_ms : UInt64) :
    (Result × Option Begin) × Journal :=
  if !access_is_valid access then ((.INVALID_ACCESS, none), journal)
  else if now_ms ≥ access.expires_at_ms then ((.EXPIRED, none), journal)
  else if access.expires_at_ms - now_ms > journal.max_ttl_ms then ((.INVALID_ACCESS, none), journal)
  else
    match hash_access sha256 hash access with
    | .error result => ((result, none), journal)
    | .ok digest =>
      let entries := (sweep journal.entries now_ms).2
      let swept := { journal with entries := entries }
      match find_entry entries access.request_id with
      | some (_, entry) =>
        if entry.access_digest ≠ digest then ((.CONFLICT, none), swept)
        else
          let kind := match entry.state with
            | .COMPLETED => BeginKind.COMPLETED
            | .IN_PROGRESS => .IN_PROGRESS
          ((.OK, some { kind := kind, result_code := entry.result_code }), swept)
      | none =>
        match entries.free with
        | none => ((.RESOURCE_EXHAUSTED, none), swept)
        | some slot =>
          ((.OK, some { kind := .NEW, result_code := 0 }),
            { journal with entries := entries.set slot (some (access.entry digest)) })

def complete_request_v1 (hash : HashIo) (journal : Journal) (access : Access) (result_code : Int32) : Result × Journal :=
  match hash_access sha256 hash access with
  | .error result => (result, journal)
  | .ok digest =>
    match find_entry journal.entries access.request_id with
    | none => (.NOT_FOUND, journal)
    | some (slot, entry) =>
      if entry.access_digest ≠ digest then (.CONFLICT, journal)
      else
        match entry.state with
        | .COMPLETED => (if entry.result_code = result_code then .OK else .CONFLICT, journal)
        | .IN_PROGRESS =>
          (.OK, { journal with
            entries := journal.entries.set slot (some { entry with state := .COMPLETED, result_code := result_code }) })

end requests

end turbop2p.m3_chunk_replay
