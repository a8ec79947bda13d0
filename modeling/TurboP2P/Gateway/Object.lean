import TurboP2P.Chunk.Store
import TurboP2P.Gateway.List
import TurboP2P.Namespace.Snapshot

open Codec
open FileTree (File Path Tree)
open Text (ascii)
open turbop2p.m3_chunk_store (OpenIo ReadIo cid_calculate_v1 open_v1 put_bytes_v1 read_range_v1)
open turbop2p.m3_namespace_local_store (Files Key LoadOutcomes LookupRequest PersistOutcomes Store apply_put_v1 load_v1
  local_lookup_start persist_v1 store_init_v1)
open turbop2p.m3_object_manifest (ChunkCid HASH_ALGORITHM_SHA256 ManifestV1 VERSION encode_v1)

namespace turbop2p.m3_gateway

def MAX_CHUNK_BYTES : UInt64 := 64 * 1024 * 1024

/-- `sizeof` a pointer. -/
def POINTER_SIZE : Nat := 8

/-- What a gateway keeps on disk: the tree of its chunk store and the file of its
namespace. -/
structure Disk where
  tree : Tree
  files : Files

/-- `m3_gateway_t` without raft and without a data plane. -/
structure LocalGateway where
  chunk_store : m3_chunk_store.Store
  namespace_store : Store
  applied_index : UInt64
  max_chunk_bytes : UInt64
  store_root : Path
  chunk_store_open : chunk_store.is_open = true
  chunk_store_limit : chunk_store.max_chunk_bytes = max_chunk_bytes
  max_chunk_bytes_ne_zero : max_chunk_bytes ≠ 0

/-- The gateway as the list handlers see it. -/
def LocalGateway.gateway (gateway : LocalGateway) : Gateway :=
  { initialized := true, namespace_store := gateway.namespace_store, node := none, node_lookup_not_leader := false
    node_lookup_leader_id := 0 }

def path_bytes (path : Path) : List UInt8 := path.flatMap (47 :: ·)

theorem open_v1_store {max_path : Nat} {io : OpenIo} {tree after : Tree} {root : Path} {max_chunk_bytes : UInt64}
    {result : m3_chunk_store.Result} {store : m3_chunk_store.Store}
    (hopen : open_v1 max_path io tree root max_chunk_bytes = ((result, after), some store)) :
    store.is_open = true ∧ store.max_chunk_bytes = max_chunk_bytes ∧ max_chunk_bytes ≠ 0 := by
  obtain ⟨hzero, hopen⟩ := guard_passed hopen
  split at hopen
  · obtain ⟨_, hopen⟩ := guard_passed hopen
    obtain ⟨_, hopen⟩ := guard_passed hopen
    obtain ⟨_, hopen⟩ := guard_passed hopen
    obtain rfl := Option.some.inj (Prod.mk.inj hopen).2
    exact ⟨rfl, rfl, hzero⟩
  · exact nomatch (Prod.mk.inj hopen).2

/-- The outcomes of the system calls of `m3_gateway_init_v1`. -/
structure InitIo where
  chunk_store : OpenIo
  calloc : Bool
  load : LoadOutcomes

section objects

variable (sha256 : List UInt8 → Bytes 32) (max_path : Nat)

/-- `m3_gateway_init_v1`; `credential` says that the credential is complete. -/
def init_v1 (io : InitIo) (disk : Disk) (store_root : Path) (max_chunk_bytes : UInt64) (credential : Bool)
    (namespace_capacity : Nat) : Option LocalGateway × Disk :=
  if store_root = [] ∨ credential = false ∨ max_chunk_bytes = 0 ∨ max_chunk_bytes > MAX_CHUNK_BYTES then (none, disk)
  else
    match hopen : open_v1 max_path io.chunk_store disk.tree store_root max_chunk_bytes with
    | ((_, tree), none) => (none, { disk with tree := tree })
    | ((_, tree), some chunk_store) =>
      match store_init_v1 namespace_capacity MAX_BUCKET_BYTES MAX_OBJECT_KEY_BYTES MAX_MANIFEST_BYTES MAX_OBJECT_BYTES
        MAX_CHUNKS io.calloc with
      | (_, none) => (none, { disk with tree := tree })
      | (_, some namespace_store) =>
        match load_v1 sha256 max_path io.load disk.files namespace_store (path_bytes store_root) namespace_capacity with
        | (.OK, namespace_store) =>
          (some
            { chunk_store, namespace_store, applied_index := namespace_store.applied_index, max_chunk_bytes, store_root
              chunk_store_open := (open_v1_store hopen).1, chunk_store_limit := (open_v1_store hopen).2.1
              max_chunk_bytes_ne_zero := (open_v1_store hopen).2.2 },
            { disk with tree := tree })
        | _ => (none, { disk with tree := tree })

/-- `chunk_list_t`. -/
structure ChunkList where
  cids : List ChunkCid
  capacity : Nat

def chunk_list_push (realloc : Bool) (list : ChunkList) (cid : ChunkCid) : Option ChunkList :=
  if list.cids.length ≥ list.capacity then
    let new_capacity := if list.capacity = 0 then 8 else list.capacity * 2
    if new_capacity > MAX_CHUNKS ∨ realloc = false then none
    else some { cids := list.cids ++ [cid], capacity := new_capacity }
  else some { list with cids := list.cids ++ [cid] }

/-- The outcomes of the calls of a put: those of the loop by the offset of the
chunk. -/
structure PutIo where
  cid_calculate : Nat → Bool
  put_bytes : Nat → m3_chunk_store.PutIo
  sha256_update : Nat → Bool
  realloc : Nat → Bool
  encode : Bool
  apply_put : Bool
  persist : PersistOutcomes

/-- The variables of the loop of `put_object_prepare`; `hashed` is what the digest
of the object covers. -/
structure PutProgress where
  tree : Tree
  chunks : ChunkList
  total : UInt64
  offset : Nat
  hashed : List UInt8

/-- The loop of `put_object_prepare`, with a bound on its turns that it does not
reach: every turn advances by at least one byte. -/
def put_object_chunks (io : PutIo) (gateway : LocalGateway) (body : File) :
    Nat → PutProgress → Option PutProgress × Tree
  | 0, progress => (some progress, progress.tree)
  | turns + 1, progress =>
    if progress.offset ≥ body.val.length then (some progress, progress.tree)
    else
      let take := body.val.length - progress.offset
      let take := if take > gateway.max_chunk_bytes.toNat then gateway.max_chunk_bytes.toNat else take
      let chunk := body.window progress.offset take
      let cid := cid_calculate_v1 sha256 chunk
      if io.cid_calculate progress.offset = false then (none, progress.tree)
      else
        match put_bytes_v1 sha256 max_path (io.put_bytes progress.offset) gateway.chunk_store progress.tree cid chunk with
        | ((.OK, _), tree) =>
          if io.sha256_update progress.offset = false then (none, tree)
          else
            match chunk_list_push (io.realloc progress.offset) progress.chunks cid with
            | none => (none, tree)
            | some chunks =>
              put_object_chunks io gateway body turns
                { tree, chunks, total := progress.total + UInt64.ofNat take, offset := progress.offset + take
                  hashed := progress.hashed ++ cid.digest.toList }
        | (_, tree) => (none, tree)

/-- The manifest that `put_object_prepare` encodes. Its `object_digest` is a
pointer, so `sizeof(object_digest)` bytes of the digest are those of a
pointer. -/
def put_object_manifest (progress : PutProgress) : ManifestV1 :=
  { version := VERSION
    object_cid :=
      { hash_algorithm := HASH_ALGORITHM_SHA256, size := progress.total
        digest := take_bytes 32 ((sha256 progress.hashed).toList.take POINTER_SIZE) }
    chunks := progress.chunks.cids }

variable (io : PutIo) (gateway : LocalGateway)

/-- `put_object_prepare` without a data plane: the digest of the object and the
bytes of the manifest, or the result of the call. -/
def put_object_prepare (tree : Tree) (body : File) :
    Except Int (Bytes 32 × List UInt8) × Tree :=
  match put_object_chunks sha256 max_path io gateway body body.val.length
    { tree := tree, chunks := { cids := [], capacity := 0 }, total := 0, offset := 0, hashed := [] } with
  | (none, tree) => (.error 2, tree)
  | (some progress, tree) =>
    match encode_v1 sha256 (put_object_manifest sha256 progress) MAX_OBJECT_BYTES MAX_CHUNKS with
    | .error _ => (.error (-1), tree)
    | .ok manifest_bytes =>
      if io.encode = false then (.error (-1), tree) else (.ok (sha256 progress.hashed, manifest_bytes), tree)

def object_name (bucket object : CString) : Key :=
  { tenant_id := TENANT_ID, bucket := bucket.val, object_key := object.val }

/-- `gateway_meta_put` on the local namespace. -/
def gateway_meta_put (bucket object : CString) (manifest_bytes : List UInt8) :
    Bool × LocalGateway :=
  let applied_index := gateway.applied_index + 1
  match apply_put_v1 sha256 io.apply_put gateway.namespace_store applied_index (object_name bucket object)
    manifest_bytes with
  | (.OK, namespace_store) =>
    (true, { gateway with namespace_store := namespace_store, applied_index := applied_index })
  | (_, namespace_store) =>
    (false, { gateway with namespace_store := namespace_store, applied_index := applied_index })

/-- `m3_gateway_put_object_start_v1`: the result and, if it is zero, the ETag. -/
def put_object_start_v1 (disk : Disk) (bucket object : CString) (body : File) :
    Except Int (List UInt8) × LocalGateway × Disk :=
  match put_object_prepare sha256 max_path io gateway disk.tree body with
  | (.error rc, tree) => (.error rc, gateway, { disk with tree := tree })
  | (.ok (object_digest, manifest_bytes), tree) =>
    match gateway_meta_put sha256 io gateway bucket object manifest_bytes with
    | (false, gateway) => (.error (-1), gateway, { disk with tree := tree })
    | (true, gateway) =>
      match persist_v1 max_path io.persist disk.files gateway.namespace_store (path_bytes gateway.store_root) with
      | (.OK, files) => (.ok (gateway_etag_quoted object_digest), gateway, { tree := tree, files := files })
      | (_, files) => (.error (-1), gateway, { tree := tree, files := files })

/-- `m3_gateway_put_object_v1`; without raft there is nothing to wait for. -/
def put_object_v1 (disk : Disk) (bucket object : CString) (body : File) :
    Except Int (List UInt8) × LocalGateway × Disk :=
  put_object_start_v1 sha256 max_path io gateway disk bucket object body

/-- `strtoull` on a string that starts with a digit: the number, unless it is out
of range, and the rest of the string. -/
def strtoull_digits (digits : Nat) : List UInt8 → Option (UInt64 × List UInt8)
  | [] => if digits < 2 ^ 64 then some (UInt64.ofNat digits, []) else none
  | c :: rest =>
    if 48 ≤ c ∧ c ≤ 57 then strtoull_digits (digits * 10 + (c - 48).toNat) rest
    else if digits < 2 ^ 64 then some (UInt64.ofNat digits, c :: rest)
    else none

/-- A number of a range header and what follows it. -/
def range_number (text : List UInt8) : Option (UInt64 × List UInt8) :=
  if text.head?.all fun c => c < 48 ∨ c > 57 then none else strtoull_digits 0 text

def parse_byte_range (header : List UInt8) (total : UInt64) : Option (UInt64 × UInt64) :=
  if total = 0 ∨ header.take 6 ≠ ascii "bytes=" ∨ 44 ∈ header.drop 6 then none
  else
    let bounds : Option (UInt64 × UInt64) :=
      match header.drop 6 with
      | 45 :: rest =>
        match range_number rest with
        | some (suffix, []) =>
          if suffix = 0 then none
          else
            let suffix := if suffix > total then total else suffix
            some (total - suffix, total - 1)
        | _ => none
      | text =>
        match range_number text with
        | some (start, 45 :: rest) =>
          if rest = [] then some (start, total - 1)
          else
            match range_number rest with
            | some (last, []) => if last > total - 1 then none else some (start, last)
            | _ => none
        | _ => none
    match bounds with
    | none => none
    | some (start, last) => if start > total - 1 ∨ start > last then none else some (start, last)

/-- The outcomes of the calls of a read: `read` by chunk and by the bytes of the
chunk that have been read. -/
structure GetIo where
  malloc : Bool
  read : Nat → Nat → ReadIo

/-- The inner loop of `m3_gateway_read_object_v1` over a chunk, with a bound on its
turns that it does not reach. -/
def read_chunk (io : Nat → ReadIo) (gateway : LocalGateway) (tree : Tree) (cid : ChunkCid)
    (chunk_offset chunk_len : UInt64) : Nat → UInt64 → List UInt8 → Option (List UInt8)
  | 0, _, buffer => some buffer
  | turns + 1, done, buffer =>
    if done ≥ chunk_len then some buffer
    else
      let take := chunk_len - done
      let take := if take > gateway.max_chunk_bytes then gateway.max_chunk_bytes else take
      match read_range_v1 sha256 max_path (io done.toNat) gateway.chunk_store tree cid (chunk_offset + done) take with
      | (.OK, read) =>
        if read.length = 0 then none
        else
          read_chunk io gateway tree cid chunk_offset chunk_len turns (done + UInt64.ofNat read.length) (buffer ++ read)
      | _ => none

/-- The outer loop of `m3_gateway_read_object_v1` over the chunks from number `i`
on. -/
def read_chunks (io : GetIo) (gateway : LocalGateway) (tree : Tree) (range_start range_end : UInt64) :
    List ChunkCid → Nat → UInt64 → List UInt8 → Option (List UInt8)
  | [], _, _, buffer => some buffer
  | cid :: rest, i, pos, buffer =>
    let chunk_start := pos
    let chunk_end := pos + cid.size - 1
    let pos := chunk_end + 1
    if chunk_end < range_start ∨ chunk_start > range_end then
      read_chunks io gateway tree range_start range_end rest (i + 1) pos buffer
    else
      let read_start := if chunk_start > range_start then chunk_start else range_start
      let read_end := if chunk_end < range_end then chunk_end else range_end
      let chunk_len := read_end - read_start + 1
      match read_chunk sha256 max_path (io.read i) gateway tree cid (read_start - chunk_start) chunk_len chunk_len.toNat 0
        buffer with
      | none => none
      | some buffer => read_chunks io gateway tree range_start range_end rest (i + 1) pos buffer

/-- `m3_gateway_read_object_v1` without a data plane. -/
def read_object_v1 (io : GetIo) (gateway : LocalGateway) (tree : Tree) (manifest_bytes : List UInt8)
    (range_start range_end : UInt64) : Option (List UInt8) :=
  match gateway_decode sha256 manifest_bytes with
  | .error _ => none
  | .ok manifest =>
    if range_start > range_end ∨ range_end ≥ manifest.object_cid.size ∨ io.malloc = false then none
    else read_chunks sha256 max_path io gateway tree range_start range_end manifest.chunks 0 0 []

def no_such_key : Reply := send_s3_error 404 "NoSuchKey" "The specified key does not exist."

/-- `serve_manifest_object`; a header that is set stays set in an error reply. -/
def serve_manifest_object (io : GetIo) (gateway : LocalGateway) (tree : Tree) (manifest_bytes : List UInt8)
    (range_header : Option CString) : Reply :=
  match gateway_decode sha256 manifest_bytes with
  | .error _ => no_such_key
  | .ok manifest =>
    let total := manifest.object_cid.size
    let etag := (ascii "ETag", gateway_etag_quoted manifest.object_cid.digest)
    let serve (status : Nat) (headers : List (List UInt8 × List UInt8)) (range_start range_end : UInt64) : Reply :=
      if total > 0 then
        match read_object_v1 sha256 max_path io gateway tree manifest_bytes range_start range_end with
        | none => { send_s3_error 507 "InsufficientStorage" "Out of memory." with headers := headers ++ [etag] }
        | some buffer =>
          { status := status, headers := headers ++ [etag], content_type := ascii "application/octet-stream",
            body := buffer }
      else
        { status := status, headers := headers ++ [etag], content_type := ascii "application/octet-stream", body := [] }
    match range_header.filter (·.val ≠ []) with
    | none => serve 200 [] 0 (if total > 0 then total - 1 else 0)
    | some header =>
      match parse_byte_range header.val total with
      | none =>
        { send_s3_error 416 "InvalidRange" "The requested range is not satisfiable." with
          headers := [(ascii "Content-Range", ascii "bytes */" ++ Text.decimal total.toNat)] }
      | some (range_start, range_end) =>
        serve 206
          [(ascii "Content-Range", ascii "bytes " ++ Text.decimal range_start.toNat ++ ascii "-" ++
            Text.decimal range_end.toNat ++ ascii "/" ++ Text.decimal total.toNat)]
          range_start range_end

/-- The lookup of an object, which calls its completion at once on the local
namespace: the bytes of the manifest, if there is one. -/
def lookup_manifest (bucket object : CString) : Option (List UInt8) :=
  match local_lookup_start gateway.namespace_store
    { key := object_name bucket object, require_linearizable := true } with
  | (.OK, some (.OK, some response)) => some response.manifest_bytes
  | _ => none

/-- A plain GET of an object from its lookup on. -/
def get_object (io : GetIo) (gateway : LocalGateway) (tree : Tree) (bucket object : CString)
    (range_header : Option CString) : Reply :=
  match lookup_manifest gateway bucket object with
  | none => no_such_key
  | some manifest_bytes => serve_manifest_object sha256 max_path io gateway tree manifest_bytes range_header

/-- A HEAD of an object from its lookup on: `head_lookup_complete`. -/
def head_object (bucket object : CString) : Reply :=
  match lookup_manifest gateway bucket object with
  | none => no_such_key
  | some manifest_bytes =>
    match gateway_decode sha256 manifest_bytes with
    | .error _ => no_such_key
    | .ok manifest =>
      { status := 200
        headers := [(ascii "ETag", gateway_etag_quoted manifest.object_cid.digest)]
        content_type := ascii "application/octet-stream"
        body := [] }

end objects

end turbop2p.m3_gateway
