import TurboP2P.Lib.FileTree
import TurboP2P.Lib.Text
import TurboP2P.Object.Manifest

open turbop2p.m3_object_manifest (ChunkCid HASH_ALGORITHM_SHA256)
open FileTree (EntryType File Name Node Path Readdir Reads Tree)
open Text (ascii)

namespace turbop2p.m3_chunk_store

/-- `m3_chunk_store_result_t`, with `M3_CHUNK_STORE_IO` as `IO_FAILED`. -/
inductive Result where
  | OK
  | INVALID_ARG
  | IO_FAILED
  | NOT_FOUND
  | CORRUPT
  | DIGEST_MISMATCH
  | RESOURCE_EXHAUSTED
  | LOCKED
  | CSPRNG_FAILED
  | ABORTED
  deriving DecidableEq

def IO_BLOCK : Nat := 32 * 1024

/-- `m3_chunk_store_v1_t`; the lock is held while it is open. -/
structure Store where
  root : Path
  max_chunk_bytes : UInt64
  is_open : Bool
  deriving DecidableEq

def Store.layout_path (store : Store) : Path := store.root ++ [ascii "v1"]

def Store.chunks_path (store : Store) : Path := store.layout_path ++ [ascii "chunks"]

def Store.temp_path (store : Store) : Path := store.layout_path ++ [ascii "tmp"]

def Store.lock_path (store : Store) : Path := store.layout_path ++ [ascii ".store.lock"]

def cid_is_valid (cid : ChunkCid) : Bool := cid.hash_algorithm = HASH_ALGORITHM_SHA256

/-- `turbo_fs_path_join`: a path is written with a separator in front of every
name and has to fit into a buffer of `max_path` bytes. -/
def join_path (max_path : Nat) (base : Path) (component : Name) : Option Path :=
  let path := base ++ [component]
  if (path.map fun name => name.length + 1).sum < max_path then some path else none

/-- The outcomes of the calls that read a file. The reads may be short, and
`read_fails` says that one of them fails. -/
structure ReadIo where
  opened : Bool
  hash_created : Bool
  reads : Reads IO_BLOCK
  read_fails : Bool
  hash_finished : Bool
  closed : Bool

/-- All calls succeed. -/
def ReadIo.Succeeds (io : ReadIo) : Prop :=
  io.opened = true ∧ io.hash_created = true ∧ io.read_fails = false ∧ io.hash_finished = true ∧ io.closed = true

/-- The local variables of `read_verify_range`: `copied` is what it has copied
to the buffer and `hashed` what the digest covers. -/
structure Progress where
  position : UInt64
  copied : List UInt8
  hashed : List UInt8

/-- One turn of the loop of `read_verify_range`. -/
def read_block (offset length : UInt64) (progress : Progress) (block : List UInt8) : Option Progress :=
  let block_end := progress.position + UInt64.ofNat block.length
  let range_end := offset + length
  if block_end < progress.position then none
  else
    let copied :=
      if length > 0 ∧ block_end > offset ∧ progress.position < range_end then
        let copy_start := if progress.position > offset then progress.position else offset
        let copy_end := if block_end < range_end then block_end else range_end
        let copy_size := (copy_end - copy_start).toNat
        let block_offset := (copy_start - progress.position).toNat
        progress.copied ++ (block.drop block_offset).take copy_size
      else progress.copied
    some { position := block_end, copied := copied, hashed := progress.hashed ++ block }

/-- `bytes_to_hex` of the digest gives the names of a chunk: the first two
digits are those of its shard. -/
def shard_name (digest : Bytes 32) : Name := (Text.hex_encode digest.toList).take 2

def file_name (digest : Bytes 32) : Name := (Text.hex_encode digest.toList).drop 2 ++ ascii ".chunk"

section operations

variable (sha256 : List UInt8 → Bytes 32) (max_path : Nat)

/-- `read_verify_range`: the result and, if it is `OK`, the bytes in the
buffer. -/
def read_verify_range (io : ReadIo) (tree : Tree) (path : Path) (cid : ChunkCid) (offset length : UInt64) :
    Result × List UInt8 :=
  match tree.lookup path with
  | none => (.NOT_FOUND, [])
  | some (.file content) =>
    if content.size ≠ cid.size then (.CORRUPT, [])
    else if io.opened = false then (.IO_FAILED, [])
    else if io.hash_created = false then (.RESOURCE_EXHAUSTED, [])
    else
      match (io.reads.blocks content.val).foldlM (read_block offset length) ⟨0, [], []⟩ with
      | none => (.CORRUPT, [])
      | some progress =>
        if io.read_fails ∨ progress.position ≠ cid.size ∨ progress.copied.length ≠ length.toNat then (.CORRUPT, [])
        else if io.hash_finished = false then (.RESOURCE_EXHAUSTED, [])
        else if sha256 progress.hashed ≠ cid.digest then (.CORRUPT, [])
        else if io.closed = false then (.IO_FAILED, [])
        else (.OK, progress.copied)
  | some _ => (.CORRUPT, [])

/-- `build_chunk_path`: the paths of the shard and of the chunk. -/
def build_chunk_path (store : Store) (cid : ChunkCid) : Option (Path × Path) :=
  if store.is_open = false ∨ !cid_is_valid cid then none
  else
    match join_path max_path store.chunks_path (shard_name cid.digest) with
    | none => none
    | some shard_path => (join_path max_path shard_path (file_name cid.digest)).map (shard_path, ·)

/-- `ensure_directory`, with the outcome of the call that makes it. -/
def ensure_directory (mkdir : Bool) (tree : Tree) (path : Path) : Result × Tree :=
  match tree.lookup path with
  | some .directory => (.OK, tree)
  | some _ => (.CORRUPT, tree)
  | none => if mkdir then (.OK, tree.insert path .directory) else (.IO_FAILED, tree)

/-- The outcomes of the calls that open a store. -/
structure OpenIo where
  mkdir : Path → Bool
  opened : Bool
  locked : Bool

/-- The directories of a store, each made if it is missing. -/
def ensure_directories (io : OpenIo) : List Path → Tree → Result × Tree
  | [], tree => (.OK, tree)
  | path :: rest, tree =>
    if (path.map fun name => name.length + 1).sum ≥ max_path then (.INVALID_ARG, tree)
    else
      match ensure_directory (io.mkdir path) tree path with
      | (.OK, tree) => ensure_directories io rest tree
      | failed => failed

/-- `m3_chunk_store_open_v1` with the absolute path of its root. -/
def open_v1 (io : OpenIo) (tree : Tree) (root : Path) (max_chunk_bytes : UInt64) : (Result × Tree) × Option Store :=
  let store : Store := { root := root, max_chunk_bytes := max_chunk_bytes, is_open := true }
  if max_chunk_bytes = 0 then ((.INVALID_ARG, tree), none)
  else
    match ensure_directories max_path io [store.root, store.layout_path, store.chunks_path, store.temp_path] tree with
    | (.OK, tree) =>
      if (store.lock_path.map fun name => name.length + 1).sum ≥ max_path then ((.INVALID_ARG, tree), none)
      else if io.opened = false then ((.IO_FAILED, tree), none)
      else
        let tree := if store.lock_path ∈ tree then tree else tree.insert store.lock_path (.file ⟨[], by simp⟩)
        if io.locked = false then ((.LOCKED, tree), none) else ((.OK, tree), some store)
    | failed => (failed, none)

def cid_calculate_v1 (bytes : File) : ChunkCid :=
  { hash_algorithm := HASH_ALGORITHM_SHA256, size := bytes.size, digest := sha256 bytes.val }

/-- The outcomes of the calls of a put: `write_fails` is the number of bytes
after which a write fails. -/
structure PutIo where
  hash_bytes : Bool
  mkdir : Bool
  random : Option (Bytes 16)
  opened : Bool
  write_fails : Option Nat
  fsync : Bool
  closed : Bool
  renamed : Bool
  unlinked : Bool
  verify : ReadIo

def temp_name (digest : Bytes 32) (random : Bytes 16) : Name :=
  Text.hex_encode digest.toList ++ ascii "-" ++ Text.hex_encode random.toList ++ ascii ".tmp"

/-- The label `cleanup` of a put. -/
def cleanup (unlinked : Bool) (tree : Tree) (temp_path : Path) (result : Result) : (Result × Bool) × Tree :=
  ((result, false), if unlinked then tree.erase temp_path else tree)

/-- The part of a put that writes and publishes the temporary file. -/
def publish (io : PutIo) (tree : Tree) (temp_path chunk_path : Path) (cid : ChunkCid) (bytes : File) :
    (Result × Bool) × Tree :=
  if io.opened = false then ((.IO_FAILED, false), tree)
  else
    match io.write_fails with
    | some written =>
      cleanup io.unlinked (tree.insert temp_path (.file (bytes.take written))) temp_path .IO_FAILED
    | none =>
      let tree := tree.insert temp_path (.file bytes)
      if io.fsync = false ∨ io.closed = false then cleanup io.unlinked tree temp_path .IO_FAILED
      else if io.renamed = false then
        match read_verify_range sha256 io.verify tree chunk_path cid 0 0 with
        | (.OK, _) => ((.OK, false), if io.unlinked then tree.erase temp_path else tree)
        | _ => cleanup io.unlinked tree temp_path .IO_FAILED
      else
        let tree := (tree.erase temp_path).insert chunk_path (.file bytes)
        match read_verify_range sha256 io.verify tree chunk_path cid 0 0 with
        | (.OK, _) => ((.OK, true), tree)
        | (result, _) => cleanup io.unlinked tree temp_path result

/-- `m3_chunk_store_put_bytes_v1`: the result, `out_created` and the tree. -/
def put_bytes_v1 (io : PutIo) (store : Store) (tree : Tree) (expected_cid : ChunkCid) (bytes : File) :
    (Result × Bool) × Tree :=
  if store.is_open = false ∨ !cid_is_valid expected_cid ∨ expected_cid.size ≠ bytes.size then
    ((.INVALID_ARG, false), tree)
  else if bytes.size > store.max_chunk_bytes then ((.RESOURCE_EXHAUSTED, false), tree)
  else if io.hash_bytes = false then ((.RESOURCE_EXHAUSTED, false), tree)
  else if cid_calculate_v1 sha256 bytes ≠ expected_cid then ((.DIGEST_MISMATCH, false), tree)
  else
    match build_chunk_path max_path store expected_cid with
    | none => ((.INVALID_ARG, false), tree)
    | some (shard_path, chunk_path) =>
      match tree.lookup chunk_path with
      | some _ => (((read_verify_range sha256 io.verify tree chunk_path expected_cid 0 0).1, false), tree)
      | none =>
        match ensure_directory io.mkdir tree shard_path with
        | (.OK, tree) =>
          match io.random with
          | none => ((.CSPRNG_FAILED, false), tree)
          | some random =>
            match join_path max_path store.temp_path (temp_name expected_cid.digest random) with
            | none => ((.INVALID_ARG, false), tree)
            | some temp_path => publish sha256 io tree temp_path chunk_path expected_cid bytes
        | (result, tree) => ((result, false), tree)

def read_range_v1 (io : ReadIo) (store : Store) (tree : Tree) (cid : ChunkCid) (offset length : UInt64) :
    Result × List UInt8 :=
  if store.is_open = false ∨ !cid_is_valid cid ∨ cid.size > store.max_chunk_bytes ∨ offset > cid.size ∨
      length > cid.size - offset then (.INVALID_ARG, [])
  else
    match build_chunk_path max_path store cid with
    | none => (.INVALID_ARG, [])
    | some (_, chunk_path) => read_verify_range sha256 io tree chunk_path cid offset length

/-- The outcomes of the calls of a deletion. -/
structure DeleteIo where
  unlinked : Bool
  rmdir : Bool

/-- `m3_chunk_store_delete_v1`; only an empty shard can be removed. -/
def delete_v1 (io : DeleteIo) (store : Store) (tree : Tree) (cid : ChunkCid) : Result × Tree :=
  if store.is_open = false ∨ !cid_is_valid cid then (.INVALID_ARG, tree)
  else
    match build_chunk_path max_path store cid with
    | none => (.INVALID_ARG, tree)
    | some (shard_path, chunk_path) =>
      match tree.lookup chunk_path with
      | none => (.NOT_FOUND, tree)
      | some (.file content) =>
        if content.size ≠ cid.size then (.CORRUPT, tree)
        else if io.unlinked = false then (.IO_FAILED, tree)
        else
          let tree := tree.erase chunk_path
          (.OK, if io.rmdir ∧ FileTree.children tree shard_path = [] then tree.erase shard_path else tree)
      | some _ => (.CORRUPT, tree)

def parse_chunk_name (shard name : Name) (size : UInt64) : Option ChunkCid :=
  if shard.length ≠ 2 then none
  else if name.length ≠ 68 ∨ name.drop 62 ≠ ascii ".chunk" then none
  else
    (Text.hex_decode (shard ++ name.take 62)).map fun digest =>
      { hash_algorithm := HASH_ALGORITHM_SHA256, size, digest := Codec.take_bytes 32 digest }

def entry_is_directory (tree : Tree) (path : Path) (type : EntryType) : Option Bool :=
  match type with
  | .DIRECTORY => some true
  | .FILE => some false
  | .OTHER => (tree.lookup path).map (· = .directory)

/-- The outcomes of the calls of an enumeration: which directories can be opened,
in which order their entries are read, and after how many of them
`turbo_fs_readdir` fails, if it does. -/
structure EnumerateIo where
  opendir : Path → Bool
  readdir : Readdir
  readdir_fails : Path → Option Nat

/-- The entries that the loop over a directory sees: it ends in the same way after
the last one and after a failure. -/
def EnumerateIo.entries (io : EnumerateIo) (tree : Tree) (path : Path) : List (Name × EntryType) :=
  match io.readdir_fails path with
  | none => io.readdir.entries tree path
  | some count => (io.readdir.entries tree path).take count

/-- The loop over the entries of a shard, with the calls of the callback so
far. -/
def enumerate_shard (tree : Tree) (callback : ChunkCid → Bool) (shard_path : Path) (shard : Name) :
    List (Name × EntryType) → List ChunkCid → Result × List ChunkCid
  | [], seen => (.OK, seen)
  | (name, type) :: rest, seen =>
    match join_path max_path shard_path name with
    | none => (.IO_FAILED, seen)
    | some chunk_path =>
      if entry_is_directory tree chunk_path type ≠ some false then
        enumerate_shard tree callback shard_path shard rest seen
      else
        match tree.lookup chunk_path with
        | some (.file content) =>
          match parse_chunk_name shard name content.size with
          | none => (.CORRUPT, seen)
          | some cid =>
            if callback cid then enumerate_shard tree callback shard_path shard rest (seen ++ [cid])
            else (.ABORTED, seen ++ [cid])
        | _ => (.CORRUPT, seen)

/-- The loop over the shards. -/
def enumerate_shards (io : EnumerateIo) (tree : Tree) (callback : ChunkCid → Bool) (chunks_path : Path) :
    List (Name × EntryType) → List ChunkCid → Result × List ChunkCid
  | [], seen => (.OK, seen)
  | (shard, type) :: rest, seen =>
    if shard.length ≠ 2 then enumerate_shards io tree callback chunks_path rest seen
    else
      match join_path max_path chunks_path shard with
      | none => enumerate_shards io tree callback chunks_path rest seen
      | some shard_path =>
        if entry_is_directory tree shard_path type ≠ some true then
          enumerate_shards io tree callback chunks_path rest seen
        else if io.opendir shard_path = false then (.IO_FAILED, seen)
        else
          match enumerate_shard max_path tree callback shard_path shard (io.entries tree shard_path) seen with
          | (.OK, seen) => enumerate_shards io tree callback chunks_path rest seen
          | failed => failed

/-- `m3_chunk_store_enumerate_v1`: the result and the chunk ids that the callback
is called with; it goes on as long as the callback says so. -/
def enumerate_v1 (io : EnumerateIo) (store : Store) (tree : Tree) (callback : ChunkCid → Bool) :
    Result × List ChunkCid :=
  if store.is_open = false then (.INVALID_ARG, [])
  else if io.opendir store.chunks_path = false then (.IO_FAILED, [])
  else enumerate_shards max_path io tree callback store.chunks_path (io.entries tree store.chunks_path) []

end operations

end turbop2p.m3_chunk_store
