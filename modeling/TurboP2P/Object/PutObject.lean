import TurboP2P.Chunk.Store
import TurboP2P.Object.Datapane
import TurboP2P.Object.ManifestV2

open FileTree (File)
open turbop2p.m3_object_manifest (ChunkCid HASH_ALGORITHM_SHA256 ManifestV2 Placement VERSION_2 encode_v2)
open turbop2p.m3_chunk_receipt (Receipt digest_v1)
open turbop2p.m3_chunk_store (cid_calculate_v1)

namespace turbop2p.m3_gateway_datapane

section setup

def policy_is_valid (policy : Policy) : Bool :=
  policy.max_ttl_ms > 0 ∧ policy.max_read_bytes > 0 ∧ policy.max_put_bytes > 0

def init_v1 (tenant_id : Bytes 32) (target_replicas min_durable_replicas : Nat) (policy : Policy) :
    Except Result Datapane :=
  if Bytes.is_zero tenant_id.toList ∨ target_replicas = 0 ∨ target_replicas > MAX_STORES ∨ min_durable_replicas = 0 ∨
      min_durable_replicas > target_replicas ∨ !policy_is_valid policy then .error .INVALID_ARG
  else
    .ok { stores := [], tenant_id := tenant_id, target_replicas := target_replicas,
          min_durable_replicas := min_durable_replicas, policy := policy, request_seq := 0 }

/-- The end of both registrations: a store is known by its node id, and there
are `MAX_STORES` slots. -/
def add_store (datapane : Datapane) (store : Store) (connected : Result) : Result × Datapane :=
  if datapane.stores.any fun other => other.node_id = store.node_id then (.INVALID_ARG, datapane)
  else if datapane.stores.length ≥ MAX_STORES then (.RESOURCE_EXHAUSTED, datapane)
  else if connected ≠ .OK then (connected, datapane)
  else (.OK, { datapane with stores := datapane.stores ++ [store] })

def register_store_v1 (datapane : Datapane) (store_node_id public_key : Bytes 32) : Result × Datapane :=
  if Bytes.is_zero store_node_id.toList ∨ Bytes.is_zero public_key.toList then (.INVALID_ARG, datapane)
  else add_store datapane { node_id := store_node_id, public_key := public_key, transport := .store } .OK

/-- A data plane with its `mesh_attached` flag. -/
structure Plane where
  datapane : Datapane
  mesh_attached : Bool

/-- The outcomes of the calls of `m3_gateway_datapane_attach_mesh_v1`. -/
structure AttachIo where
  router_init : Bool
  public_from_private : Bool

/-- `m3_gateway_datapane_attach_mesh_v1`; without a public key the whole data
plane is cleared. -/
def attach_mesh_v1 (io : AttachIo) (plane : Plane) (private_key : List UInt8) : Result × Plane :=
  if plane.mesh_attached ∨ Bytes.is_zero private_key then (.INVALID_ARG, plane)
  else if io.router_init = false then (.INTERNAL, plane)
  else if io.public_from_private = false then
    (.INTERNAL,
      { datapane := { stores := [], tenant_id := Codec.take_bytes 32 [], target_replicas := 0,
                      min_durable_replicas := 0, policy := ⟨0, 0, 0⟩, request_seq := 0 }
        mesh_attached := false })
  else (.OK, { plane with mesh_attached := true })

/-- The outcomes of the calls of `m3_gateway_datapane_register_mesh_store_v1`. -/
structure ConnectIo where
  client_connect : Bool
  router_add_client : Bool

def register_mesh_store_v1 (io : ConnectIo) (plane : Plane) (store_node_id public_key : Bytes 32) (host : List UInt8)
    (port : Int) : Result × Datapane :=
  if plane.mesh_attached = false ∨ host = [] ∨ port ≤ 0 ∨ port > 65535 ∨ Bytes.is_zero store_node_id.toList ∨
      Bytes.is_zero public_key.toList then (.INVALID_ARG, plane.datapane)
  else
    add_store plane.datapane { node_id := store_node_id, public_key := public_key, transport := .mesh }
      (if io.client_connect = false then .NETWORK_FAILED
       else if io.router_add_client = false then .INTERNAL
       else .OK)

end setup

def MAX_OBJECT_BYTES : UInt64 := 64 * 1024 * 1024 * 1024

def MAX_CHUNKS : Nat := 4096

/-- The outcomes of the calls of `m3_gateway_datapane_put_object_v1` other than
those to the stores: by chunk, and for the receipts by chunk and store. -/
structure ObjectIo where
  allocated : Bool
  sha256_init : Bool
  cid_calculate : Nat → Bool
  receipt_digest : Nat → Nat → Bool
  sha256_update : Nat → Bool
  sha256_final : Bool
  encode : Bool

section object

variable (backend : Backend) (io : ObjectIo) (now_ms : UInt64)

/-- The loop of `publish_chunk` over the stores from number `s` on. -/
def publish_stores (chunk_index : Nat) (cid : ChunkCid) (bytes : List UInt8) :
    Datapane → Nat → List Store → List Placement → List Placement × Datapane
  | datapane, _, [], placements => (placements, datapane)
  | datapane, s, store :: rest, placements =>
    match put_chunk_v1 backend datapane s cid bytes now_ms with
    | (.error _, datapane) => publish_stores chunk_index cid bytes datapane (s + 1) rest placements
    | (.ok receipt, datapane) =>
      match digest_v1 backend.sha256 receipt with
      | .error _ => publish_stores chunk_index cid bytes datapane (s + 1) rest placements
      | .ok digest =>
        if io.receipt_digest chunk_index s = false then
          publish_stores chunk_index cid bytes datapane (s + 1) rest placements
        else
          let placement : Placement :=
            { chunk_index := UInt32.ofNat chunk_index, store_node_id := store.node_id, receipt_digest := digest }
          publish_stores chunk_index cid bytes datapane (s + 1) rest (placements ++ [placement])

def publish_chunk (datapane : Datapane) (write_target chunk_index : Nat) (cid : ChunkCid) (bytes : List UInt8) :
    Except Result (List Placement) × Datapane :=
  let (placements, after) :=
    publish_stores backend io now_ms chunk_index cid bytes datapane 0 (datapane.stores.take write_target) []
  if placements.length ≥ datapane.min_durable_replicas then (.ok placements, after)
  else (.error .INSUFFICIENT_REPLICAS, after)

/-- The variables of the loop of `m3_gateway_datapane_put_object_v1`: `hashed` is
what the digest of the object covers. -/
structure ObjectProgress where
  datapane : Datapane
  chunks : List ChunkCid
  placements : List Placement
  total : UInt64
  hashed : List UInt8

def chunk_take (body : File) (max_chunk_bytes : UInt64) (i : Nat) : Nat :=
  let take := body.val.length - i * max_chunk_bytes.toNat
  if take > max_chunk_bytes.toNat then max_chunk_bytes.toNat else take

/-- The loop of `m3_gateway_datapane_put_object_v1` over the chunks with these
numbers. -/
def put_object_chunks (body : File) (max_chunk_bytes : UInt64) (write_target : Nat) :
    List Nat → ObjectProgress → Except Result ObjectProgress × Datapane
  | [], progress => (.ok progress, progress.datapane)
  | i :: rest, progress =>
    let take := chunk_take body max_chunk_bytes i
    let chunk := body.window (i * max_chunk_bytes.toNat) take
    let cid := cid_calculate_v1 backend.sha256 chunk
    if io.cid_calculate i = false then (.error .CRYPTO_FAILED, progress.datapane)
    else
      match publish_chunk backend io now_ms progress.datapane write_target i cid chunk.val with
      | (.error result, datapane) => (.error result, datapane)
      | (.ok placements, datapane) =>
        if io.sha256_update i = false then (.error .CRYPTO_FAILED, datapane)
        else
          put_object_chunks body max_chunk_bytes write_target rest
            { datapane, chunks := progress.chunks ++ [cid], placements := progress.placements ++ placements
              total := progress.total + UInt64.ofNat take, hashed := progress.hashed ++ cid.digest.toList }

def chunk_count (body : File) (max_chunk_bytes : UInt64) : Nat :=
  if body.val.length = 0 then 0 else (body.val.length - 1) / max_chunk_bytes.toNat + 1

def write_target (datapane : Datapane) : Nat :=
  if datapane.target_replicas < datapane.stores.length then datapane.target_replicas else datapane.stores.length

/-- The part of `m3_gateway_datapane_put_object_v1` after its loop. -/
def encode_object (max_placements : Nat) (progress : ObjectProgress) : Except Result (List UInt8 × UInt64) :=
  if io.sha256_final = false then .error .CRYPTO_FAILED
  else
    let manifest : ManifestV2 :=
      { version := VERSION_2
        object_cid :=
          { hash_algorithm := HASH_ALGORITHM_SHA256, size := progress.total, digest := backend.sha256 progress.hashed }
        chunks := progress.chunks
        placements := progress.placements }
    match encode_v2 backend.sha256 manifest MAX_OBJECT_BYTES MAX_CHUNKS max_placements with
    | .error _ => .error .INTERNAL
    | .ok bytes => if io.encode = false then .error .INTERNAL else .ok (bytes, progress.total)

/-- `m3_gateway_datapane_put_object_v1`: the manifest bytes and the size of the
object. -/
def put_object_v1 (datapane : Datapane) (body : File) (max_chunk_bytes : UInt64) :
    Except Result (List UInt8 × UInt64) × Datapane :=
  if datapane.stores = [] ∨ max_chunk_bytes = 0 then (.error .INVALID_ARG, datapane)
  else
    let count := chunk_count body max_chunk_bytes
    let target := write_target datapane
    let max_placements := count * target % 2 ^ 64
    if count > MAX_CHUNKS ∨ (max_placements > 0 ∧ max_placements / target ≠ count) then
      (.error .RESOURCE_EXHAUSTED, datapane)
    else if count > 0 ∧ io.allocated = false then (.error .RESOURCE_EXHAUSTED, datapane)
    else if io.sha256_init = false then (.error .CRYPTO_FAILED, datapane)
    else
      match put_object_chunks backend io now_ms body max_chunk_bytes target (List.range count)
        { datapane := datapane, chunks := [], placements := [], total := 0, hashed := [] } with
      | (.error result, datapane) => (.error result, datapane)
      | (.ok progress, datapane) => (encode_object backend io max_placements progress, datapane)

end object

/-- The calls on a data plane; what the stores answer may change from call to
call. -/
inductive Event where
  | register_store (store_node_id public_key : Bytes 32)
  | attach_mesh (io : AttachIo) (private_key : List UInt8)
  | register_mesh_store (io : ConnectIo) (store_node_id public_key : Bytes 32) (host : List UInt8) (port : Int)
  | put_chunk (backend : Backend) (store_index : Nat) (cid : ChunkCid) (bytes : List UInt8) (now_ms : UInt64)
  | put_object (backend : Backend) (io : ObjectIo) (now_ms : UInt64) (body : File) (max_chunk_bytes : UInt64)
  | read_chunk (backend : Backend) (manifest : ManifestV2) (chunk_index : Nat) (cid : ChunkCid)
      (chunk_offset length now_ms : UInt64)

def Event.after (plane : Plane) : Event → Plane
  | .register_store store_node_id public_key =>
    { plane with datapane := (register_store_v1 plane.datapane store_node_id public_key).2 }
  | .attach_mesh io private_key => (attach_mesh_v1 io plane private_key).2
  | .register_mesh_store io store_node_id public_key host port =>
    { plane with datapane := (register_mesh_store_v1 io plane store_node_id public_key host port).2 }
  | .put_chunk backend store_index cid bytes now_ms =>
    { plane with datapane := (put_chunk_v1 backend plane.datapane store_index cid bytes now_ms).2 }
  | .put_object backend io now_ms body max_chunk_bytes =>
    { plane with datapane := (put_object_v1 backend io now_ms plane.datapane body max_chunk_bytes).2 }
  | .read_chunk backend manifest chunk_index cid chunk_offset length now_ms =>
    { plane with
      datapane := (read_chunk_v1 backend plane.datapane manifest chunk_index cid chunk_offset length now_ms).2 }

/-- A data plane from its initialisation on. -/
def reached (start : Datapane) (events : List Event) : Datapane :=
  (Machine.run Event.after { datapane := start, mesh_attached := false } events).datapane

end turbop2p.m3_gateway_datapane
