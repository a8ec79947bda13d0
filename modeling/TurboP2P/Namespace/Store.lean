import TurboP2P.Lib.SlotTable
import TurboP2P.Object.Manifest

open turbop2p.m3_object_manifest (ManifestV2)

namespace turbop2p.m3_namespace_local_store

/-- `m3_namespace_local_result_t`. -/
inductive Result where
  | OK
  | INVALID_ARG
  | INVALID_STATE
  | OUT_OF_ORDER
  | RESOURCE_EXHAUSTED
  | CORRUPT
  | NOT_FOUND
  | CONFLICT
  deriving DecidableEq

/-- `M3_CHUNK_CAPABILITY_TENANT_ID_SIZE` bytes. -/
abbrev TenantId := Bytes 32

/-- `m3_namespace_local_entry_s`; an unoccupied entry is an empty slot of the
table. -/
structure Entry where
  tombstoned : Bool
  tenant_id : TenantId
  bucket : List UInt8
  object_key : List UInt8
  manifest_bytes : List UInt8
  committed_index : UInt64
  deriving DecidableEq

/-- `m3_namespace_local_store_v1_t`; the capacity is the length of the
table. -/
structure Store where
  entries : SlotTable Entry
  count : Nat
  max_bucket_bytes : Nat
  max_object_key_bytes : Nat
  max_manifest_bytes : Nat
  max_object_bytes : UInt64
  max_chunks : Nat
  applied_index : UInt64
  is_open : Bool
  deriving DecidableEq

def MAX_PLACEMENTS_PER_CHUNK : Nat := 8

/-- The name of an object: what `entry_matches` compares. -/
structure Key where
  tenant_id : TenantId
  bucket : List UInt8
  object_key : List UInt8
  deriving DecidableEq

def Entry.key (entry : Entry) : Key :=
  { tenant_id := entry.tenant_id, bucket := entry.bucket, object_key := entry.object_key }

def key_is_valid (bytes : List UInt8) (maximum : Nat) : Bool :=
  bytes.length > 0 ∧ bytes.length ≤ maximum ∧ 0 ∉ bytes

def find_entry (store : Store) (key : Key) : Option (Nat × Entry) :=
  store.entries.find fun entry => entry.key = key

/-- The limit on placements that is handed to the manifest decoder; the
product is taken in `size_t`. -/
def max_placements (store : Store) : Nat :=
  store.max_chunks * MAX_PLACEMENTS_PER_CHUNK % (U64_MAX + 1)

/-- The checks of an object name that every command and every lookup make. -/
def name_is_valid (store : Store) (key : Key) : Bool :=
  !Bytes.is_zero key.tenant_id.toList && key_is_valid key.bucket store.max_bucket_bytes &&
    key_is_valid key.object_key store.max_object_key_bytes

/-- `m3_namespace_local_store_init_v1` on a cleared store. -/
def store_init_v1 (capacity max_bucket_bytes max_object_key_bytes max_manifest_bytes : Nat)
    (max_object_bytes : UInt64) (max_chunks : Nat) (calloc : Bool) : Result × Option Store :=
  if capacity = 0 ∨ max_bucket_bytes = 0 ∨ max_object_key_bytes = 0 ∨ max_manifest_bytes = 0 ∨
      max_object_bytes = 0 ∨ max_chunks = 0 then (.INVALID_ARG, none)
  else if calloc = false then (.RESOURCE_EXHAUSTED, none)
  else
    (.OK, some
      { entries := List.replicate capacity none, count := 0, max_bucket_bytes, max_object_key_bytes, max_manifest_bytes
        max_object_bytes, max_chunks, applied_index := 0, is_open := true })

section apply

variable (sha256 : List UInt8 → Bytes 32)

/-- `m3_object_manifest_decode_v2` under the limits of a store. -/
def decode_manifest (store : Store) (manifest_bytes : List UInt8) :
    Except m3_object_manifest.Result ManifestV2 :=
  m3_object_manifest.decode_v2 sha256 manifest_bytes store.max_object_bytes store.max_chunks (max_placements store)

/-- `m3_namespace_local_store_apply_put_v1`, with `malloc` as the outcome of
its allocations. -/
def apply_put_v1 (malloc : Bool) (store : Store) (committed_index : UInt64) (key : Key)
    (manifest_bytes : List UInt8) : Result × Store :=
  if store.is_open = false ∨ !name_is_valid store key ∨ manifest_bytes.length = 0 ∨
      manifest_bytes.length > store.max_manifest_bytes ∨ committed_index = 0 then (.INVALID_ARG, store)
  else if committed_index ≤ store.applied_index then (.OUT_OF_ORDER, store)
  else
    match decode_manifest sha256 store manifest_bytes with
    | .error _ => (.CORRUPT, store)
    | .ok _ =>
      match find_entry store key with
      | some (slot, entry) =>
        if malloc = false then (.RESOURCE_EXHAUSTED, store)
        else
          (.OK,
            { store with
              entries := store.entries.set slot (some
                { entry with manifest_bytes, committed_index, tombstoned := false })
              applied_index := committed_index })
      | none =>
        match store.entries.free with
        | none => (.RESOURCE_EXHAUSTED, store)
        | some slot =>
          if malloc = false then (.RESOURCE_EXHAUSTED, store)
          else
            (.OK,
              { store with
                entries := store.entries.set slot (some
                  { tombstoned := false, tenant_id := key.tenant_id, bucket := key.bucket, object_key := key.object_key
                    manifest_bytes, committed_index })
                count := store.count + 1
                applied_index := committed_index })

/-- `m3_namespace_local_store_apply_update_placement_v1`, with `malloc` as the
outcome of its allocation. -/
def apply_update_placement_v1 (malloc : Bool) (store : Store) (committed_index : UInt64) (key : Key)
    (manifest_bytes : List UInt8) : Result × Store :=
  if store.is_open = false ∨ !name_is_valid store key ∨ manifest_bytes.length = 0 ∨
      manifest_bytes.length > store.max_manifest_bytes ∨ committed_index = 0 then (.INVALID_ARG, store)
  else if committed_index ≤ store.applied_index then (.OUT_OF_ORDER, store)
  else
    match decode_manifest sha256 store manifest_bytes with
    | .error _ => (.CORRUPT, store)
    | .ok incoming =>
      match find_entry store key with
      | none => (.NOT_FOUND, store)
      | some (slot, entry) =>
        if entry.tombstoned then (.NOT_FOUND, store)
        else
          match decode_manifest sha256 store entry.manifest_bytes with
          | .error _ => (.CORRUPT, store)
          | .ok stored =>
            if incoming.object_cid.size ≠ stored.object_cid.size ∨
                incoming.object_cid.digest ≠ stored.object_cid.digest then (.CONFLICT, store)
            else if malloc = false then (.RESOURCE_EXHAUSTED, store)
            else
              (.OK,
                { store with
                  entries := store.entries.set slot (some
                    { entry with manifest_bytes, committed_index, tombstoned := false })
                  applied_index := committed_index })

end apply

def apply_tombstone_v1 (store : Store) (committed_index : UInt64) (key : Key) : Result × Store :=
  if store.is_open = false ∨ !name_is_valid store key ∨ committed_index = 0 then (.INVALID_ARG, store)
  else if committed_index ≤ store.applied_index then (.OUT_OF_ORDER, store)
  else
    match find_entry store key with
    | some (slot, entry) =>
      (.OK,
        { store with
          entries := store.entries.set slot (some
            { entry with manifest_bytes := [], committed_index, tombstoned := true })
          applied_index := committed_index })
    | none => (.OK, { store with applied_index := committed_index })

/-- `m3_namespace_lookup_result_t`. -/
inductive LookupResult where
  | OK
  | NOT_FOUND
  | DENIED
  | STALE
  | UNAVAILABLE
  | CORRUPT
  | INVALID_ARG
  | RESOURCE_EXHAUSTED
  deriving DecidableEq

/-- `m3_namespace_lookup_request_v1_t`. -/
structure LookupRequest where
  key : Key
  require_linearizable : Bool
  deriving DecidableEq

/-- `m3_namespace_lookup_response_v1_t`. -/
structure LookupResponse where
  manifest_bytes : List UInt8
  applied_index : UInt64
  linearizable : Bool
  deriving DecidableEq

/-- `local_lookup_start`: its result and, if it calls the completion callback,
the arguments of that call. -/
def local_lookup_start (store : Store) (request : LookupRequest) :
    LookupResult × Option (LookupResult × Option LookupResponse) :=
  if store.is_open = false ∨ request.require_linearizable = false ∨ store.applied_index = 0 ∨
      !name_is_valid store request.key then (.INVALID_ARG, none)
  else
    match find_entry store request.key with
    | none => (.OK, some (.NOT_FOUND, none))
    | some (_, entry) =>
      if entry.tombstoned then (.OK, some (.NOT_FOUND, none))
      else
        (.OK, some (.OK, some
          { manifest_bytes := entry.manifest_bytes, applied_index := store.applied_index, linearizable := true }))

/-- The arguments of a call of `m3_namespace_list_cb`. -/
structure Listed where
  bucket : List UInt8
  object_key : List UInt8
  manifest_bytes : List UInt8
  deriving DecidableEq

def Entry.listed (entry : Entry) : Listed :=
  { bucket := entry.bucket, object_key := entry.object_key, manifest_bytes := entry.manifest_bytes }

/-- The entries that a list call reports; a null bucket or a null key prefix is
`none`. -/
def Entry.list_matches (tenant_id : TenantId) (bucket prefix_bytes : Option (List UInt8)) (entry : Entry) : Bool :=
  !entry.tombstoned && entry.tenant_id = tenant_id && bucket.all (fun bucket => entry.bucket = bucket) &&
    prefix_bytes.all (fun bytes => bytes.isPrefixOf entry.object_key)

/-- `m3_namespace_local_store_list_v1` with the calls of its callback. -/
def list_v1 (store : Store) (tenant_id : TenantId) (bucket prefix_bytes : Option (List UInt8)) :
    Result × List Listed :=
  if store.is_open = false ∨ Bytes.is_zero tenant_id.toList then (.INVALID_ARG, [])
  else if bucket.any fun bucket => !key_is_valid bucket store.max_bucket_bytes then (.INVALID_ARG, [])
  else if prefix_bytes.any fun bytes => bytes.length > store.max_object_key_bytes then (.INVALID_ARG, [])
  else (.OK, (store.entries.live.filter (·.list_matches tenant_id bucket prefix_bytes)).map (·.listed))

end turbop2p.m3_namespace_local_store
