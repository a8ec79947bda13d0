import TurboP2P.Lib.Durable
import TurboP2P.Replay.Journal

open Codec
open Durable (Disk Replaced)
open turbop2p.m3_chunk_replay (Access Begin BeginKind Entry EntryState HashIo Journal MAX_ENTRIES begin_request_v1
  complete_request_v1 find_entry sweep)

namespace turbop2p.m3_chunk_replay_store

/-- `m3_chunk_replay_store_result_t`, with `M3_CHUNK_REPLAY_STORE_IO` as
`IO_FAILED`. -/
inductive Result where
  | OK
  | INVALID_ARG
  | LOCKED
  | IO_FAILED
  | CORRUPT
  | RESOURCE_EXHAUSTED
  | CONFLICT
  | EXPIRED
  | NOT_FOUND
  | CRYPTO_FAILED
  deriving DecidableEq

def MAGIC : List UInt8 := [77, 51, 82, 80, 76, 89, 49, 0]
def VERSION : UInt32 := 1
def HEADER_SIZE : Nat := 80
def RECORD_SIZE : Nat := 72
def HEADER_DIGEST_OFFSET : Nat := 40
def HEADER_RESERVED_OFFSET : Nat := 72

/-- `m3_chunk_replay_store_v1_t` while it is open. -/
structure Store where
  journal : Journal
  generation : UInt64

/-- The file of a store and its temporary file, `store->temp_path`. -/
abbrev File := Disk UInt8

def state_code : EntryState → UInt8
  | .IN_PROGRESS => 1
  | .COMPLETED => 2

/-- The record of a slot; that of a free one is zero. -/
def record : Option Entry → List UInt8
  | none => List.replicate RECORD_SIZE 0
  | some entry =>
    [state_code entry.state, 0, 0, 0] ++ (entry.request_id.toList ++ (entry.access_digest.toList ++
      (write_u64_be entry.expires_at_ms ++ (write_u32_be entry.result_code.toUInt32 ++ List.replicate 8 0))))

/-- The bytes of a snapshot with some digest in its header. -/
def frame (journal : Journal) (generation : UInt64) (digest : Bytes 32) : List UInt8 :=
  MAGIC ++ (write_u32_be VERSION ++ (write_u32_be (UInt32.ofNat HEADER_SIZE) ++ (write_u32_be (UInt32.ofNat RECORD_SIZE) ++
    (write_u32_be (UInt32.ofNat journal.entries.length) ++ (write_u64_be journal.max_ttl_ms ++
    (write_u64_be generation ++ (digest.toList ++ (List.replicate 8 0 ++ journal.entries.flatMap record))))))))

/-- The outcomes of the calls that write a snapshot; `written` is how many bytes
`write_all` writes before a write fails. -/
structure PersistIo where
  calloc : Bool
  digested : Bool
  opened : Bool
  written : Nat
  fsync : Bool
  closed : Bool
  replaced : Replaced
  unlinked : Bool

/-- The outcomes of the calls that open a store. `lstat` and `lstat_exact` are
those of `turbo_fs_lstat` for a file that is there, in the open call itself and in
`read_exact_file`. -/
structure OpenIo where
  calloc : Bool
  opened : Bool
  locked : Bool
  lstat : Bool
  lstat_exact : Bool
  malloc : Bool
  read_exact : Bool
  digested : Bool
  persist : PersistIo

section snapshots

variable (sha256 : List UInt8 → Bytes 32)

/-- `calculate_digest`: the digest covers the snapshot with its own field
cleared. -/
def calculate_digest (bytes : List UInt8) : Bytes 32 :=
  sha256 (bytes.take HEADER_DIGEST_OFFSET ++ (List.replicate 32 0 ++ bytes.drop HEADER_RESERVED_OFFSET))

/-- What `encode_snapshot` writes. -/
def snapshot (journal : Journal) (generation : UInt64) : List UInt8 :=
  frame journal generation (calculate_digest sha256 (frame journal generation (Bytes.zero 32)))

/-- What follows the label `cleanup` of `persist_snapshot` if the call has
failed. -/
def cleanup (io : PersistIo) (file : File) : File := if io.unlinked then file.unlink else file

/-- `persist_snapshot`: the result, `out_commit_uncertain`, the store and its
file. -/
def persist_snapshot (io : PersistIo) (store : Store) (file : File) : (Result × Bool) × Store × File :=
  if store.generation = 0xffffffffffffffff then ((.INVALID_ARG, false), store, file)
  else if io.calloc = false then ((.RESOURCE_EXHAUSTED, false), store, file)
  else if io.digested = false then ((.CRYPTO_FAILED, false), store, file)
  else if io.opened = false then ((.IO_FAILED, false), store, cleanup io file)
  else
    let next_generation := store.generation + 1
    let bytes := snapshot sha256 store.journal next_generation
    let file := file.write (bytes.take io.written)
    if io.written < bytes.length then ((.IO_FAILED, false), store, cleanup io file)
    else if io.fsync = false then ((.IO_FAILED, false), store, cleanup io file)
    else if io.closed = false then ((.IO_FAILED, false), store, cleanup io file.sync)
    else
      let file := file.sync.rename io.replaced
      match io.replaced with
      | .FAILED => ((.IO_FAILED, false), store, cleanup io file)
      | .COMMIT_UNCERTAIN => ((.IO_FAILED, true), { store with generation := next_generation }, cleanup io file)
      | .DURABLE => ((.OK, false), { store with generation := next_generation }, file)

/-- What `decode_snapshot` has read: the table, and how many entries are in
progress and how many have expired. -/
structure Loaded where
  entries : SlotTable Entry
  recovered : Nat
  expired : Nat

def record_entry (bytes : List UInt8) (state : EntryState) : Entry :=
  { request_id := take_bytes 16 (bytes.drop 4), access_digest := take_bytes 32 (bytes.drop 20)
    expires_at_ms := read_u64_be (bytes.drop 52), state, result_code := .ofUInt32 (read_u32_be (bytes.drop 60)) }

def record_reserved_is_zero (bytes : List UInt8) : Bool :=
  Bytes.is_zero ((bytes.drop 1).take 3) && Bytes.is_zero ((bytes.drop 64).take 8)

/-- The checks on a record that is not free. -/
def record_is_valid (bytes : List UInt8) (entry : Entry) : Bool :=
  record_reserved_is_zero bytes && !Bytes.is_zero entry.request_id.toList && !Bytes.is_zero entry.access_digest.toList &&
    entry.expires_at_ms ≠ 0 && (entry.state = .COMPLETED || entry.result_code = 0)

/-- The loop of `decode_snapshot` over the records. -/
def decode_records (now_ms : UInt64) : Nat → List UInt8 → Loaded → Except Result Loaded
  | 0, _, loaded => .ok loaded
  | count + 1, bytes, loaded =>
    let rest := bytes.drop RECORD_SIZE
    if bytes.head? = some 0 then
      if Bytes.is_zero (bytes.take RECORD_SIZE) then
        decode_records now_ms count rest { loaded with entries := loaded.entries ++ [none] }
      else .error .CORRUPT
    else if bytes.head? = some 1 ∨ bytes.head? = some 2 then
      let entry := record_entry bytes (if bytes.head? = some 1 then .IN_PROGRESS else .COMPLETED)
      if !record_is_valid bytes entry then .error .CORRUPT
      else if entry.expired now_ms then
        decode_records now_ms count rest
          { loaded with entries := loaded.entries ++ [none], expired := loaded.expired + 1 }
      else if (find_entry loaded.entries entry.request_id).isSome then .error .CORRUPT
      else
        decode_records now_ms count rest
          { loaded with
            entries := loaded.entries ++ [some entry]
            recovered := if entry.state = .IN_PROGRESS then loaded.recovered + 1 else loaded.recovered }
    else .error .CORRUPT

/-- `decode_snapshot`: the generation and what the records give. -/
def decode_snapshot (digested : Bool) (capacity : Nat) (max_ttl_ms : UInt64) (bytes : List UInt8) (now_ms : UInt64) :
    Except Result (UInt64 × Loaded) :=
  if bytes.take 8 ≠ MAGIC ∨ read_u32_be (bytes.drop 8) ≠ VERSION ∨
      read_u32_be (bytes.drop 12) ≠ UInt32.ofNat HEADER_SIZE ∨ read_u32_be (bytes.drop 16) ≠ UInt32.ofNat RECORD_SIZE ∨
      (read_u32_be (bytes.drop 20)).toNat ≠ capacity ∨ read_u64_be (bytes.drop 24) ≠ max_ttl_ms ∨
      !Bytes.is_zero ((bytes.drop HEADER_RESERVED_OFFSET).take 8) then .error .CORRUPT
  else if read_u64_be (bytes.drop 32) = 0 then .error .CORRUPT
  else if digested = false then .error .CRYPTO_FAILED
  else if take_bytes 32 (bytes.drop HEADER_DIGEST_OFFSET) ≠ calculate_digest sha256 bytes then .error .CORRUPT
  else
    (decode_records now_ms capacity (bytes.drop HEADER_SIZE) { entries := [], recovered := 0, expired := 0 }).map
      (read_u64_be (bytes.drop 32), ·)

/-- `m3_chunk_replay_store_open_v1` on an absolute path that fits into its
buffers: the result with `out_recovered_in_progress`, the store if it is
open and the file. -/
def open_v1 (io : OpenIo) (file : File) (capacity : Nat) (max_ttl_ms now_ms : UInt64) :
    (Result × Nat) × Option Store × File :=
  if capacity = 0 ∨ capacity > MAX_ENTRIES ∨ max_ttl_ms = 0 then ((.INVALID_ARG, 0), none, file)
  else if io.calloc = false then ((.RESOURCE_EXHAUSTED, 0), none, file)
  else if io.opened = false then ((.IO_FAILED, 0), none, file)
  else if io.locked = false then ((.LOCKED, 0), none, file)
  else
    -- a file whose status cannot be read is taken for one that is not there
    match if io.lstat then file.visible else none with
    | some bytes =>
      if io.lstat_exact = false then ((.NOT_FOUND, 0), none, file)
      else if bytes.length ≠ HEADER_SIZE + capacity * RECORD_SIZE then ((.CORRUPT, 0), none, file)
      else if io.malloc = false then ((.RESOURCE_EXHAUSTED, 0), none, file)
      else if io.read_exact = false then ((.IO_FAILED, 0), none, file)
      else
        match decode_snapshot sha256 io.digested capacity max_ttl_ms bytes now_ms with
        | .error result => ((result, 0), none, file)
        | .ok (generation, loaded) =>
          let store : Store :=
            { journal := { entries := loaded.entries, max_ttl_ms := max_ttl_ms }, generation := generation }
          if loaded.expired > 0 then
            match persist_snapshot sha256 io.persist store file with
            | ((.OK, _), store, file) => ((.OK, loaded.recovered), some store, file)
            | ((result, _), _, file) => ((result, loaded.recovered), none, file)
          else ((.OK, loaded.recovered), some store, file)
    | none =>
      let store : Store :=
        { journal := { entries := List.replicate capacity none, max_ttl_ms := max_ttl_ms }, generation := 0 }
      match persist_snapshot sha256 io.persist store file with
      | ((.OK, _), store, file) => ((.OK, 0), some store, file)
      | ((result, _), _, file) => ((result, 0), none, file)

def map_replay_result : m3_chunk_replay.Result → Result
  | .OK => .OK
  | .CONFLICT => .CONFLICT
  | .EXPIRED => .EXPIRED
  | .NOT_FOUND => .NOT_FOUND
  | .RESOURCE_EXHAUSTED => .RESOURCE_EXHAUSTED
  | .CRYPTO_FAILED => .CRYPTO_FAILED
  | .INVALID_ARG => .INVALID_ARG
  | .INVALID_ACCESS => .INVALID_ARG

/-- The entry of a request that could not be persisted is taken back. -/
def forget_entry (entries : SlotTable Entry) (request_id : Bytes 16) : SlotTable Entry :=
  match find_entry entries request_id with
  | some (slot, entry) => if entry.state = .IN_PROGRESS then entries.set slot none else entries
  | none => entries

/-- `m3_chunk_replay_store_begin_v1` on an open store: the result, `out_begin` if
it is set, the store and its file. -/
def begin_v1 (hash : HashIo) (io : PersistIo) (store : Store) (file : File) (access : Access) (now_ms : UInt64) :
    (Result × Option Begin) × Store × File :=
  match begin_request_v1 sha256 hash store.journal access now_ms with
  | ((.OK, some out_begin), journal) =>
    let store := { store with journal := journal }
    if out_begin.kind ≠ .NEW then ((.OK, some out_begin), store, file)
    else
      match persist_snapshot sha256 io store file with
      | ((.OK, _), store, file) => ((.OK, some out_begin), store, file)
      | ((result, true), store, file) => ((result, none), store, file)
      | ((result, false), store, file) =>
        let entries := forget_entry store.journal.entries access.request_id
        ((result, none), { store with journal := { store.journal with entries := entries } }, file)
  | ((result, _), journal) => ((map_replay_result result, none), { store with journal := journal }, file)

/-- `m3_chunk_replay_store_complete_v1` on an open store. -/
def complete_v1 (hash : HashIo) (io : PersistIo) (store : Store) (file : File) (access : Access) (result_code : Int32) :
    Result × Store × File :=
  let was_completed := (find_entry store.journal.entries access.request_id).any fun found => found.2.state = .COMPLETED
  match complete_request_v1 sha256 hash store.journal access result_code with
  | (result, journal) =>
    let store := { store with journal := journal }
    if map_replay_result result ≠ .OK ∨ was_completed then (map_replay_result result, store, file)
    else
      match persist_snapshot sha256 io store file with
      | ((result, _), store, file) => (result, store, file)

/-- `m3_chunk_replay_store_sweep_v1` on an open store: the result with
`out_removed`, the store and its file. -/
def sweep_v1 (io : PersistIo) (store : Store) (file : File) (now_ms : UInt64) : (Result × Nat) × Store × File :=
  let (removed, entries) := sweep store.journal.entries now_ms
  let store := { store with journal := { store.journal with entries := entries } }
  if removed = 0 then ((.OK, 0), store, file)
  else
    match persist_snapshot sha256 io store file with
    | ((result, _), store, file) => ((result, removed), store, file)

end snapshots

end turbop2p.m3_chunk_replay_store
