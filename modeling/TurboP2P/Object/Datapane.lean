import TurboP2P.Object.Receipt

open Codec
open turbop2p.m3_object_manifest (ChunkCid ManifestV2 Placement)
open turbop2p.m3_chunk_receipt (Receipt verify_v1 check_binding_v1)

namespace turbop2p.m3_gateway_datapane

/-- `m3_gateway_datapane_result_t`. -/
inductive Result where
  | OK
  | INVALID_ARG
  | RESOURCE_EXHAUSTED
  | NOT_AVAILABLE
  | INSUFFICIENT_REPLICAS
  | CRYPTO_FAILED
  | NOT_FOUND
  | CORRUPT
  | DIGEST_MISMATCH
  | IO_FAILED
  | INTERNAL
  | NETWORK_FAILED
  deriving DecidableEq

/-- `m3_chunk_operation_v1_t`. -/
inductive Operation where
  | READ
  | PUT
  deriving DecidableEq

/-- `m3_chunk_capability_claims_v1_t`. -/
structure Claims where
  tenant_id : Bytes 32
  cid : ChunkCid
  operation : Operation
  range_offset : UInt64
  range_length : UInt64
  audience_node_id : Bytes 32
  request_id : Bytes 16
  issued_at_ms : UInt64
  expires_at_ms : UInt64
  deriving DecidableEq

/-- `m3_chunk_access_request_v1_t`. -/
structure AccessRequest where
  tenant_id : Bytes 32
  cid : ChunkCid
  operation : Operation
  range_offset : UInt64
  range_length : UInt64
  local_node_id : Bytes 32
  request_id : Bytes 16
  now_ms : UInt64
  deriving DecidableEq

/-- `m3_chunk_capability_policy_v1_t`. -/
structure Policy where
  max_ttl_ms : UInt64
  max_read_bytes : UInt64
  max_put_bytes : UInt64
  deriving DecidableEq

/-- The two transports of a store: the handle of a store in the same process
and the authenticated client of a remote one. -/
inductive Transport where
  | store
  | mesh
  deriving DecidableEq

/-- `m3_gateway_datapane_store_v1_t`. -/
structure Store where
  node_id : Bytes 32
  public_key : Bytes 32
  transport : Transport
  deriving DecidableEq

/-- `m3_gateway_datapane_v1_t`; the number of stores is the length of the
list. -/
structure Datapane where
  stores : List Store
  tenant_id : Bytes 32
  target_replicas : Nat
  min_durable_replicas : Nat
  policy : Policy
  request_seq : UInt64
  deriving DecidableEq

def MAX_STORES : Nat := 8

/-- The world behind the data plane: the crypto library and what the stores
answer to each request. A store may fail or answer anything. -/
structure Backend where
  sha256 : List UInt8 → Bytes 32
  ed25519_verify : Bytes 32 → List UInt8 → Bytes 64 → Bool
  store_put : Store → Claims → AccessRequest → List UInt8 → Option Receipt
  store_read : Store → Claims → AccessRequest → Option (List UInt8)
  mesh_put : Store → Claims → List UInt8 → Option Receipt
  mesh_read : Store → Claims → Option (List UInt8)

/-- `next_request_id`: the sequence number, the chunk, the store and a tag. -/
def request_id (sequence : UInt64) (chunk_index store_index : Nat) : Bytes 16 :=
  take_bytes 16 (write_u64_be sequence ++ [UInt8.ofNat chunk_index, UInt8.ofNat store_index, 0x5a, 0, 0, 0, 0, 0])

variable (datapane : Datapane) (store : Store)

/-- The claims that the data plane issues for a range of a chunk. -/
def build_claims (cid : ChunkCid) (operation : Operation)
    (range_offset range_length : UInt64) (request_id : Bytes 16) (now_ms : UInt64) : Claims :=
  { tenant_id := datapane.tenant_id, cid, operation, range_offset, range_length, audience_node_id := store.node_id
    request_id, issued_at_ms := now_ms, expires_at_ms := now_ms + datapane.policy.max_ttl_ms }

/-- The request that goes with the claims. -/
def build_request (cid : ChunkCid) (operation : Operation)
    (range_offset range_length : UInt64) (request_id : Bytes 16) (now_ms : UInt64) : AccessRequest :=
  { tenant_id := datapane.tenant_id, cid, operation, range_offset, range_length, local_node_id := store.node_id
    request_id, now_ms }

def build_put_claims (cid : ChunkCid) (request_id : Bytes 16) (now_ms : UInt64) : Claims :=
  build_claims datapane store cid .PUT 0 cid.size request_id now_ms

def build_put_request (cid : ChunkCid) (request_id : Bytes 16) (now_ms : UInt64) : AccessRequest :=
  build_request datapane store cid .PUT 0 cid.size request_id now_ms

section chunk

variable (backend : Backend)

variable (datapane : Datapane)

/-- The answer of a store to a put, by its transport. -/
def send_put (store : Store) (cid : ChunkCid) (request_id : Bytes 16) (bytes : List UInt8)
    (now_ms : UInt64) : Except Result Receipt :=
  let claims := build_put_claims datapane store cid request_id now_ms
  match store.transport with
  | .mesh => ((backend.mesh_put store claims bytes).map Except.ok).getD (.error .NETWORK_FAILED)
  | .store =>
    ((backend.store_put store claims (build_put_request datapane store cid request_id now_ms) bytes).map
      Except.ok).getD (.error .NOT_AVAILABLE)

/-- `m3_gateway_datapane_put_chunk_v1`: only a verified receipt that is bound to
the store, the chunk and the request counts. -/
def put_chunk_v1 (store_index : Nat) (cid : ChunkCid) (bytes : List UInt8) (now_ms : UInt64) :
    Except Result Receipt × Datapane :=
  match datapane.stores[store_index]? with
  | none => (.error .INVALID_ARG, datapane)
  | some store =>
    let request_id := request_id datapane.request_seq 0 store_index
    let advanced := { datapane with request_seq := datapane.request_seq + 1 }
    match send_put backend datapane store cid request_id bytes now_ms with
    | .error result => (.error result, advanced)
    | .ok receipt =>
      if verify_v1 backend.ed25519_verify store.public_key receipt ≠ .OK ∨
          check_binding_v1 receipt store.node_id cid request_id now_ms datapane.policy.max_ttl_ms ≠ .OK then
        (.error .CORRUPT, advanced)
      else (.ok receipt, advanced)

def find_store (node_id : Bytes 32) : Option Store :=
  datapane.stores.find? fun store => store.node_id = node_id

/-- The stores that the placements name for a chunk, at most `MAX_STORES` of
them; an entry is absent if the store is not registered. -/
def replicas (manifest : ManifestV2) (chunk_index : Nat) : List (Option Store) :=
  ((manifest.placements.filter fun placement => placement.chunk_index.toNat = chunk_index).take MAX_STORES).map
    fun placement => find_store datapane placement.store_node_id

/-- The answer of a store to a read, by its transport. -/
def send_read (store : Store) (cid : ChunkCid) (offset length : UInt64) (request_id : Bytes 16)
    (now_ms : UInt64) : Option (List UInt8) :=
  let claims := build_claims datapane store cid .READ offset length request_id now_ms
  match store.transport with
  | .mesh => backend.mesh_read store claims
  | .store => backend.store_read store claims (build_request datapane store cid .READ offset length request_id now_ms)

/-- The loop of `m3_gateway_datapane_read_chunk_v1` over the replicas from
number `i` on. -/
def read_replicas (chunk_index : Nat) (cid : ChunkCid) (offset length now_ms : UInt64) :
    Datapane → Nat → List (Option Store) → Except Result (List UInt8) × Datapane
  | datapane, _, [] => (.error .NOT_AVAILABLE, datapane)
  | datapane, i, none :: rest => read_replicas chunk_index cid offset length now_ms datapane (i + 1) rest
  | datapane, i, some store :: rest =>
    let request_id := request_id datapane.request_seq chunk_index i
    let advanced := { datapane with request_seq := datapane.request_seq + 1 }
    match send_read backend datapane store cid offset length request_id now_ms with
    | none => read_replicas chunk_index cid offset length now_ms advanced (i + 1) rest
    | some bytes =>
      if bytes.length = length.toNat then (.ok bytes, advanced)
      else read_replicas chunk_index cid offset length now_ms advanced (i + 1) rest

def read_chunk_v1 (manifest : ManifestV2) (chunk_index : Nat) (cid : ChunkCid)
    (chunk_offset length now_ms : UInt64) : Except Result (List UInt8) × Datapane :=
  if manifest.chunks.length ≤ chunk_index ∨ length = 0 ∨ chunk_offset > cid.size ∨ length > cid.size - chunk_offset then
    (.error .INVALID_ARG, datapane)
  else
    read_replicas backend chunk_index cid chunk_offset length now_ms datapane 0
      (replicas datapane manifest chunk_index)

theorem put_chunk_v1_after (store_index : Nat) (cid : ChunkCid) (bytes : List UInt8) (now_ms : UInt64) :
    ∃ sequence, (put_chunk_v1 backend datapane store_index cid bytes now_ms).2 =
      { datapane with request_seq := sequence } := by
  unfold put_chunk_v1
  split
  · exact ⟨datapane.request_seq, rfl⟩
  · dsimp only
    refine ⟨datapane.request_seq + 1, ?_⟩
    split
    · rfl
    · split <;> rfl

theorem put_chunk_v1_stores (store_index : Nat) (cid : ChunkCid) (bytes : List UInt8) (now_ms : UInt64) :
    (put_chunk_v1 backend datapane store_index cid bytes now_ms).2.stores = datapane.stores := by
  obtain ⟨sequence, hafter⟩ := put_chunk_v1_after backend datapane store_index cid bytes now_ms
  rw [hafter]

section

variable {backend : Backend} {datapane : Datapane} {store_index : Nat} {cid : ChunkCid} {bytes : List UInt8}
  {now_ms : UInt64} {receipt : Receipt}
  (hok : (put_chunk_v1 backend datapane store_index cid bytes now_ms).1 = .ok receipt)

include hok

/-- A receipt that counts was given by a registered store for the request of this
put, is signed by the store and is bound to it, the chunk and the request. -/
theorem put_chunk_v1_verified :
    ∃ store, datapane.stores[store_index]? = some store ∧
      send_put backend datapane store cid (request_id datapane.request_seq 0 store_index) bytes now_ms = .ok receipt ∧
      verify_v1 backend.ed25519_verify store.public_key receipt = .OK ∧
      check_binding_v1 receipt store.node_id cid (request_id datapane.request_seq 0 store_index) now_ms
        datapane.policy.max_ttl_ms = .OK := by
  unfold put_chunk_v1 at hok
  split at hok
  · cases hok
  · rename_i store hstore
    dsimp only at hok
    split at hok
    · cases hok
    · rename_i answer hanswer
      split at hok
      · cases hok
      · rename_i hchecked
        cases hok
        simp only [not_or, not_not] at hchecked
        exact ⟨store, hstore, hanswer, hchecked.1, hchecked.2⟩

/-- A chunk is only ever published to a registered store, and its receipt is
well formed and names this store and chunk. -/
theorem put_chunk_v1_ok :
    ∃ store, datapane.stores[store_index]? = some store ∧
      m3_chunk_receipt.receipt_is_well_formed receipt = true ∧ receipt.store_node_id = store.node_id ∧
      receipt.cid = cid := by
  obtain ⟨store, hstore, _, _, hbinding⟩ := put_chunk_v1_verified hok
  obtain ⟨hformed, hid, hcid, _⟩ := m3_chunk_receipt.check_binding_v1_ok hbinding
  exact ⟨store, hstore, hformed, hid, hcid⟩

end

theorem read_replicas_after (chunk_index : Nat) (cid : ChunkCid) (offset length now_ms : UInt64)
    (datapane : Datapane) (i : Nat) (replicas : List (Option Store)) :
    ∃ sequence, (read_replicas backend chunk_index cid offset length now_ms datapane i replicas).2 =
      { datapane with request_seq := sequence } := by
  induction replicas generalizing datapane i with
  | nil => exact ⟨datapane.request_seq, rfl⟩
  | cons replica rest ih =>
    cases replica with
    | none => exact ih datapane (i + 1)
    | some store =>
      simp only [read_replicas]
      split
      · exact ih _ (i + 1)
      · split
        · exact ⟨_, rfl⟩
        · exact ih _ (i + 1)

theorem read_chunk_v1_after (manifest : ManifestV2) (chunk_index : Nat) (cid : ChunkCid)
    (chunk_offset length now_ms : UInt64) :
    ∃ sequence, (read_chunk_v1 backend datapane manifest chunk_index cid chunk_offset length now_ms).2 =
      { datapane with request_seq := sequence } := by
  unfold read_chunk_v1
  split
  · exact ⟨datapane.request_seq, rfl⟩
  · exact read_replicas_after backend chunk_index cid chunk_offset length now_ms datapane 0 _

theorem read_chunk_v1_stores (manifest : ManifestV2) (chunk_index : Nat) (cid : ChunkCid)
    (chunk_offset length now_ms : UInt64) :
    (read_chunk_v1 backend datapane manifest chunk_index cid chunk_offset length now_ms).2.stores =
      datapane.stores := by
  obtain ⟨sequence, hafter⟩ := read_chunk_v1_after backend datapane manifest chunk_index cid chunk_offset length now_ms
  rw [hafter]

end chunk

end turbop2p.m3_gateway_datapane
