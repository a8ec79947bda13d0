import TurboP2P.Lib.Codec
import TurboP2P.Lib.Machine
import TurboP2P.Lib.Word

open Codec

namespace turbop2p.m3_object_manifest

/-- `m3_object_manifest_result_t`. -/
inductive Result where
  | OK
  | INVALID_ARG
  | CORRUPT
  | INTEGRITY
  | RESOURCE_EXHAUSTED
  | CRYPTO_FAILED
  deriving DecidableEq

/-- `m3_chunk_cid_v1_t`. -/
structure ChunkCid where
  hash_algorithm : UInt8
  size : UInt64
  digest : Bytes 32
  deriving DecidableEq

/-- `m3_object_manifest_v1_t`. -/
structure ManifestV1 where
  version : UInt32
  object_cid : ChunkCid
  chunks : List ChunkCid
  deriving DecidableEq

/-- `m3_object_manifest_placement_v1_t`. -/
structure Placement where
  chunk_index : UInt32
  store_node_id : Bytes 32
  receipt_digest : Bytes 32
  deriving DecidableEq

/-- `m3_object_manifest_v2_t`. -/
structure ManifestV2 where
  version : UInt32
  object_cid : ChunkCid
  chunks : List ChunkCid
  placements : List Placement
  deriving DecidableEq

def VERSION : UInt32 := 1
def VERSION_2 : UInt32 := 2
def HASH_ALGORITHM_SHA256 : UInt8 := 1
def MANIFEST_HEADER_SIZE : Nat := 104
def MANIFEST_RECORD_SIZE : Nat := 48
def V2_HEADER_SIZE : Nat := 128
def V2_PLACEMENT_RECORD_SIZE : Nat := 80

/-- `MANIFEST_MAGIC`: `M3MNF1` and two zero bytes. -/
def MANIFEST_MAGIC : List UInt8 := [77, 51, 77, 78, 70, 49, 0, 0]

/-- `MANIFEST_MAGIC_V2`: `M3MNF2` and two zero bytes. -/
def MANIFEST_MAGIC_V2 : List UInt8 := [77, 51, 77, 78, 70, 50, 0, 0]

def zero_at (bytes : List UInt8) (offset size : Nat) : Bool :=
  Bytes.is_zero ((bytes.drop offset).take size)

def cid_is_valid (cid : ChunkCid) : Bool :=
  cid.hash_algorithm = HASH_ALGORITHM_SHA256 ∧ !Bytes.is_zero cid.digest.toList

/-- The loop that adds up the chunk sizes: refuses an invalid chunk and an
overflow of the total. -/
def chunk_total (total : UInt64) : List ChunkCid → Option UInt64
  | [] => some total
  | cid :: rest =>
    if !cid_is_valid cid ∨ cid.size > 0xffffffffffffffff - total then none
    else chunk_total (total + cid.size) rest

/-- The checks of identity, bounds and sizes that both versions make. -/
def content_valid (object_cid : ChunkCid) (chunks : List ChunkCid) (max_object_bytes : UInt64)
    (max_chunks : Nat) : Bool :=
  cid_is_valid object_cid ∧ max_object_bytes ≠ 0 ∧ object_cid.size ≤ max_object_bytes ∧ max_chunks ≠ 0 ∧
    chunks.length ≤ max_chunks ∧ chunks.length ≤ 0xffffffff ∧ chunk_total 0 chunks = some object_cid.size

def validate_v1 (manifest : ManifestV1) (max_object_bytes : UInt64) (max_chunks : Nat) : Result :=
  if manifest.version ≠ VERSION ∨
      !content_valid manifest.object_cid manifest.chunks max_object_bytes max_chunks then .INVALID_ARG
  else .OK

/-- The loop over the placements: each names a chunk of the object, carries a
store and a receipt and repeats no earlier pair of chunk and store. -/
def placements_valid (chunk_count : Nat) (earlier : List Placement) : List Placement → Bool
  | [] => true
  | placement :: rest =>
    placement.chunk_index.toNat < chunk_count && !Bytes.is_zero placement.store_node_id.toList &&
      !Bytes.is_zero placement.receipt_digest.toList &&
      earlier.all (fun other => !(placement.chunk_index = other.chunk_index ∧
        placement.store_node_id = other.store_node_id)) &&
      placements_valid chunk_count (earlier ++ [placement]) rest

def validate_v2 (manifest : ManifestV2) (max_object_bytes : UInt64) (max_chunks max_placements : Nat) : Result :=
  if manifest.version ≠ VERSION_2 ∨
      !content_valid manifest.object_cid manifest.chunks max_object_bytes max_chunks ∨
      manifest.placements.length > max_placements ∨
      !placements_valid manifest.chunks.length [] manifest.placements then .INVALID_ARG
  else .OK

/-- Both chunk records and the object record of a header: algorithm, reserved
bytes, size and digest. -/
def encode_cid (cid : ChunkCid) : List UInt8 :=
  [cid.hash_algorithm] ++ List.replicate 7 0 ++ (write_u64_be cid.size ++ cid.digest.toList)

def decode_cid (record : List UInt8) : ChunkCid :=
  { hash_algorithm := record.getD 0 0, size := read_u64_be (record.drop 8), digest := take_bytes 32 (record.drop 16) }

def decode_placement (record : List UInt8) : Placement :=
  { chunk_index := read_u32_be record, store_node_id := take_bytes 32 (record.drop 8)
    receipt_digest := take_bytes 32 (record.drop 40) }

/-- The size of a version 1 encoding, zero if it overflows. -/
def encoded_size (chunk_count : Nat) : Nat :=
  if chunk_count > (U64_MAX - MANIFEST_HEADER_SIZE) / MANIFEST_RECORD_SIZE then 0
  else MANIFEST_HEADER_SIZE + chunk_count * MANIFEST_RECORD_SIZE

def encoded_size_v2 (chunk_count placement_count : Nat) : Nat :=
  if chunk_count > (U64_MAX - V2_HEADER_SIZE) / MANIFEST_RECORD_SIZE then 0
  else
    let total := V2_HEADER_SIZE + chunk_count * MANIFEST_RECORD_SIZE
    if placement_count > (U64_MAX - total) / V2_PLACEMENT_RECORD_SIZE then 0
    else total + placement_count * V2_PLACEMENT_RECORD_SIZE

def placement_compare (left right : Placement) : Ordering :=
  if left.chunk_index ≠ right.chunk_index then
    if left.chunk_index < right.chunk_index then .lt else .gt
  else if left.store_node_id.toList < right.store_node_id.toList then .lt
  else if right.store_node_id.toList < left.store_node_id.toList then .gt
  else .eq

/-- Every placement comes strictly after the one before it. -/
def placements_ordered : List Placement → Bool
  | first :: second :: rest => placement_compare first second = .lt && placements_ordered (second :: rest)
  | _ => true

section codec

variable (sha256 : List UInt8 → Bytes 32)

/-- `calculate_envelope_digest_at`, with the digest function of the crypto
library as `sha256`: the digest of all bytes with the digest field
cleared. -/
def envelope_digest_at (bytes : List UInt8) (digest_offset : Nat) : Bytes 32 :=
  sha256 (bytes.take digest_offset ++ List.replicate 32 0 ++ bytes.drop (digest_offset + 32))

/-- The version 1 bytes with a given envelope digest. -/
def frame_v1 (manifest : ManifestV1) (digest : List UInt8) : List UInt8 :=
  MANIFEST_MAGIC ++ (write_u32_be VERSION ++ (write_u32_be 104 ++ (write_u32_be 48 ++
    (write_u32_be (UInt32.ofNat manifest.chunks.length) ++ (encode_cid manifest.object_cid ++
    (digest ++ manifest.chunks.flatMap encode_cid))))))

def encode_v1 (manifest : ManifestV1) (max_object_bytes : UInt64) (max_chunks : Nat) :
    Except Result (List UInt8) :=
  if validate_v1 manifest max_object_bytes max_chunks ≠ .OK then
    .error (validate_v1 manifest max_object_bytes max_chunks)
  else if encoded_size manifest.chunks.length = 0 then .error .RESOURCE_EXHAUSTED
  else .ok (frame_v1 manifest (envelope_digest_at sha256 (frame_v1 manifest (List.replicate 32 0)) 72).toList)

def ManifestV1.of_frame (bytes : List UInt8) : ManifestV1 :=
  { version := VERSION, object_cid := decode_cid (bytes.drop 24)
    chunks := records MANIFEST_RECORD_SIZE decode_cid (read_u32_be (bytes.drop 20)).toNat
      (bytes.drop MANIFEST_HEADER_SIZE) }

def records_reserved_zero (count : Nat) (bytes : List UInt8) : Bool :=
  (records MANIFEST_RECORD_SIZE (fun record => zero_at record 1 7) count bytes).all id

def decode_v1 (bytes : List UInt8) (max_object_bytes : UInt64) (max_chunks : Nat) : Except Result ManifestV1 :=
  if bytes.length < MANIFEST_HEADER_SIZE ∨ max_object_bytes = 0 ∨ max_chunks = 0 then .error .INVALID_ARG
  else if bytes.take 8 ≠ MANIFEST_MAGIC ∨ read_u32_be (bytes.drop 8) ≠ VERSION ∨
      read_u32_be (bytes.drop 12) ≠ 104 ∨ read_u32_be (bytes.drop 16) ≠ 48 ∨ !zero_at bytes 25 7 then
    .error .CORRUPT
  else
    let chunk_count := (read_u32_be (bytes.drop 20)).toNat
    if chunk_count > max_chunks ∨ encoded_size chunk_count = 0 ∨ bytes.length ≠ encoded_size chunk_count then
      .error .CORRUPT
    else if envelope_digest_at sha256 bytes 72 ≠ take_bytes 32 (bytes.drop 72) then .error .INTEGRITY
    else if !records_reserved_zero chunk_count (bytes.drop MANIFEST_HEADER_SIZE) then .error .CORRUPT
    else if validate_v1 (.of_frame bytes) max_object_bytes max_chunks ≠ .OK then .error .CORRUPT
    else .ok (.of_frame bytes)

def placement_segment (bytes : List UInt8) : List UInt8 :=
  bytes.drop (V2_HEADER_SIZE + (read_u32_be (bytes.drop 20)).toNat * MANIFEST_RECORD_SIZE)

def ManifestV2.of_frame (bytes : List UInt8) : ManifestV2 :=
  { version := VERSION_2, object_cid := decode_cid (bytes.drop 32)
    chunks := records MANIFEST_RECORD_SIZE decode_cid (read_u32_be (bytes.drop 20)).toNat
      (bytes.drop V2_HEADER_SIZE)
    placements := records V2_PLACEMENT_RECORD_SIZE decode_placement (read_u32_be (bytes.drop 28)).toNat
      (placement_segment bytes) }

def placements_reserved_zero (count : Nat) (bytes : List UInt8) : Bool :=
  (records V2_PLACEMENT_RECORD_SIZE (fun record => zero_at record 4 4 && zero_at record 72 8) count bytes).all id

/-- The part of `m3_object_manifest_decode_v2` that reads a version 2 frame. -/
def decode_placed (bytes : List UInt8) (max_object_bytes : UInt64) (max_chunks max_placements : Nat) :
    Except Result ManifestV2 :=
  if bytes.length < V2_HEADER_SIZE ∨ bytes.take 8 ≠ MANIFEST_MAGIC_V2 ∨ read_u32_be (bytes.drop 8) ≠ VERSION_2 ∨
      read_u32_be (bytes.drop 12) ≠ 128 ∨ read_u32_be (bytes.drop 16) ≠ 48 ∨ read_u32_be (bytes.drop 24) ≠ 80 ∨
      !zero_at bytes 33 7 ∨ !zero_at bytes 112 16 then
    .error .CORRUPT
  else
    let chunk_count := (read_u32_be (bytes.drop 20)).toNat
    let placement_count := (read_u32_be (bytes.drop 28)).toNat
    if chunk_count > max_chunks ∨ placement_count > max_placements ∨
        encoded_size_v2 chunk_count placement_count = 0 ∨
        bytes.length ≠ encoded_size_v2 chunk_count placement_count then
      .error .CORRUPT
    else if envelope_digest_at sha256 bytes 80 ≠ take_bytes 32 (bytes.drop 80) then .error .INTEGRITY
    else if !records_reserved_zero chunk_count (bytes.drop V2_HEADER_SIZE) then .error .CORRUPT
    else if !placements_reserved_zero placement_count (placement_segment bytes) then .error .CORRUPT
    else if !placements_ordered (ManifestV2.of_frame bytes).placements then .error .CORRUPT
    else if validate_v2 (.of_frame bytes) max_object_bytes max_chunks max_placements ≠ .OK then .error .CORRUPT
    else .ok (.of_frame bytes)

/-- `m3_object_manifest_decode_v2`: version 1 bytes decode to a version 2 view
without placements. -/
def decode_v2 (bytes : List UInt8) (max_object_bytes : UInt64) (max_chunks max_placements : Nat) :
    Except Result ManifestV2 :=
  if bytes.length < MANIFEST_HEADER_SIZE ∨ max_object_bytes = 0 ∨ max_chunks = 0 then .error .INVALID_ARG
  else if read_u32_be (bytes.drop 8) = VERSION then
    (decode_v1 sha256 bytes max_object_bytes max_chunks).map fun manifest =>
      { version := VERSION_2, object_cid := manifest.object_cid, chunks := manifest.chunks, placements := [] }
  else decode_placed sha256 bytes max_object_bytes max_chunks max_placements

end codec

@[simp] theorem length_encode_cid (cid : ChunkCid) : (encode_cid cid).length = MANIFEST_RECORD_SIZE := by
  simp [encode_cid, MANIFEST_RECORD_SIZE]

@[simp] theorem decode_encode_cid (cid : ChunkCid) (rest : List UInt8) : decode_cid (encode_cid cid ++ rest) = cid := by
  simp [decode_cid, encode_cid]

theorem encode_cid_reserved (cid : ChunkCid) (rest : List UInt8) : zero_at (encode_cid cid ++ rest) 1 7 = true := by
  simp [zero_at, encode_cid, Bytes.is_zero]

theorem records_reserved_zero_encode (chunks : List ChunkCid) (rest : List UInt8) :
    records_reserved_zero chunks.length (chunks.flatMap encode_cid ++ rest) = true := by
  have hrecords : records MANIFEST_RECORD_SIZE (zero_at · 1 7) chunks.length _ = chunks.map fun _ => true :=
    records_flatMap (fun _ => true) (fun cid _ => length_encode_cid cid) (fun cid _ => encode_cid_reserved cid) rest
  simp [records_reserved_zero, hrecords]

section frame_v1

variable (manifest : ManifestV1) (digest : Bytes 32)

/-- Everything in front of the digest field. -/
def header_v1 : List UInt8 :=
  MANIFEST_MAGIC ++ (write_u32_be VERSION ++ (write_u32_be 104 ++ (write_u32_be 48 ++
    (write_u32_be (UInt32.ofNat manifest.chunks.length) ++ encode_cid manifest.object_cid))))

theorem frame_v1_eq (field : List UInt8) :
    frame_v1 manifest field = header_v1 manifest ++ (field ++ manifest.chunks.flatMap encode_cid) := by
  simp [frame_v1, header_v1]

@[simp] theorem length_header_v1 : (header_v1 manifest).length = 72 := by
  simp [header_v1, MANIFEST_MAGIC, MANIFEST_RECORD_SIZE]

theorem length_frame_v1 :
    (frame_v1 manifest digest.toList).length =
      MANIFEST_HEADER_SIZE + manifest.chunks.length * MANIFEST_RECORD_SIZE := by
  rw [frame_v1_eq, List.length_append, List.length_append,
    length_flatMap_records encode_cid manifest.chunks (fun cid _ => length_encode_cid cid)]
  simp [MANIFEST_HEADER_SIZE]
  omega

theorem envelope_digest_frame_v1 (sha256 : List UInt8 → Bytes 32) :
    envelope_digest_at sha256 (frame_v1 manifest digest.toList) 72 =
      envelope_digest_at sha256 (frame_v1 manifest (List.replicate 32 0)) 72 := by
  simp [envelope_digest_at, frame_v1_eq, drop_append_field]

/-- The fields of a frame as the decoder finds them. -/
theorem frame_v1_fields :
    let bytes := frame_v1 manifest digest.toList
    bytes.take 8 = MANIFEST_MAGIC ∧ read_u32_be (bytes.drop 8) = VERSION ∧ read_u32_be (bytes.drop 12) = 104 ∧
      read_u32_be (bytes.drop 16) = 48 ∧
      read_u32_be (bytes.drop 20) = UInt32.ofNat manifest.chunks.length ∧
      bytes.drop 24 = encode_cid manifest.object_cid ++ (digest.toList ++ manifest.chunks.flatMap encode_cid) ∧
      bytes.drop 72 = digest.toList ++ manifest.chunks.flatMap encode_cid ∧
      bytes.drop MANIFEST_HEADER_SIZE = manifest.chunks.flatMap encode_cid ++ [] := by
  simp [frame_v1, MANIFEST_MAGIC, MANIFEST_HEADER_SIZE, MANIFEST_RECORD_SIZE, drop_append_field]

end frame_v1

variable {manifest : ManifestV1} {max_chunks : Nat} {max_object_bytes : UInt64}

theorem validate_v1_ok_iff :
    validate_v1 manifest max_object_bytes max_chunks = .OK ↔
      manifest.version = VERSION ∧
        content_valid manifest.object_cid manifest.chunks max_object_bytes max_chunks = true := by
  unfold validate_v1
  split <;> rename_i hguard
  · simp only [reduceCtorEq, false_iff, not_and]
    intro hversion hcontent
    simp [hversion, hcontent] at hguard
  · simpa using hguard

theorem content_valid_chunk_count {object_cid : ChunkCid} {chunks : List ChunkCid}
    (hcontent : content_valid object_cid chunks max_object_bytes max_chunks = true) : chunks.length ≤ 0xffffffff := by
  simp only [content_valid, decide_eq_true_eq] at hcontent
  exact hcontent.2.2.2.2.2.1

def Placement.key (placement : Placement) : UInt32 × Bytes 32 := (placement.chunk_index, placement.store_node_id)

/-- Different placements of one chunk are on different stores. -/
theorem nodup_stores {placements : List Placement} (hkeys : (placements.map Placement.key).Nodup) (i : Nat) :
    ((placements.filter fun placement => placement.chunk_index.toNat = i).map Placement.store_node_id).Nodup := by
  refine List.pairwise_map.mpr (((List.pairwise_map.mp hkeys).filter _).imp_of_mem ?_)
  intro placement other hplacement hother hkey hstore
  have hchunk := (List.mem_filter.mp hplacement).2
  have hother_chunk := (List.mem_filter.mp hother).2
  simp only [decide_eq_true_eq] at hchunk hother_chunk
  exact hkey (Prod.ext (UInt32.toNat_inj.mp (hchunk.trans hother_chunk.symm)) hstore)

structure Placement.Valid (chunk_count : Nat) (placement : Placement) : Prop where
  chunk : placement.chunk_index.toNat < chunk_count
  store : Bytes.is_zero placement.store_node_id.toList = false
  receipt : Bytes.is_zero placement.receipt_digest.toList = false

theorem placements_valid_iff {chunk_count : Nat} {earlier placements : List Placement} :
    placements_valid chunk_count earlier placements = true ↔
      (∀ placement ∈ placements, placement.Valid chunk_count) ∧ (placements.map Placement.key).Nodup ∧
        ∀ placement ∈ placements, ∀ other ∈ earlier, placement.key ≠ other.key := by
  induction placements generalizing earlier with
  | nil => simp [placements_valid]
  | cons placement rest ih =>
    simp only [placements_valid, Bool.and_eq_true, decide_eq_true_eq, Bool.not_eq_true', List.all_eq_true,
      decide_eq_false_iff_not, ih, List.forall_mem_append, List.forall_mem_singleton]
    constructor
    · rintro ⟨⟨⟨⟨hchunk, hstore⟩, hreceipt⟩, hhead⟩, hvalid, hnodup, hearlier⟩
      refine ⟨List.forall_mem_cons.mpr ⟨⟨hchunk, hstore, hreceipt⟩, hvalid⟩, ?_, ?_⟩
      · refine List.nodup_cons.mpr ⟨fun hmem => ?_, hnodup⟩
        obtain ⟨other, hother, hkey⟩ := List.mem_map.mp hmem
        exact (hearlier other hother).2 hkey
      · refine List.forall_mem_cons.mpr ⟨fun other hother hkey => ?_, fun other hother => (hearlier other hother).1⟩
        exact hhead other hother (Prod.mk.inj hkey)
    · rintro ⟨hvalid, hnodup, hearlier⟩
      obtain ⟨hplacement, hvalid⟩ := List.forall_mem_cons.mp hvalid
      obtain ⟨hfresh, hnodup⟩ := List.nodup_cons.mp hnodup
      obtain ⟨hhead, hearlier⟩ := List.forall_mem_cons.mp hearlier
      refine ⟨⟨⟨⟨hplacement.chunk, hplacement.store⟩, hplacement.receipt⟩, fun other hother hsame => ?_⟩, hvalid,
        hnodup, fun other hother => ⟨hearlier other hother, fun hkey => ?_⟩⟩
      · exact hhead other hother (Prod.ext hsame.1 hsame.2)
      · exact hfresh (List.mem_map.mpr ⟨other, hother, hkey⟩)

theorem validate_v2_ok_iff {manifest : ManifestV2} {max_placements : Nat} :
    validate_v2 manifest max_object_bytes max_chunks max_placements = .OK ↔
      manifest.version = VERSION_2 ∧
        content_valid manifest.object_cid manifest.chunks max_object_bytes max_chunks = true ∧
        manifest.placements.length ≤ max_placements ∧
        (∀ placement ∈ manifest.placements, placement.Valid manifest.chunks.length) ∧
        (manifest.placements.map Placement.key).Nodup := by
  have hplacements : placements_valid manifest.chunks.length [] manifest.placements = true ↔ _ := placements_valid_iff
  unfold validate_v2
  split <;> rename_i hguard
  · simp only [reduceCtorEq, false_iff]
    rintro ⟨hversion, hcontent, hlength, hvalid, hnodup⟩
    have hall := hplacements.mpr ⟨hvalid, hnodup, by simp⟩
    simp [hversion, hcontent, hall, Nat.not_lt.mpr hlength] at hguard
  · simp only [not_or, not_not, Bool.not_eq_true', Bool.not_eq_false] at hguard
    obtain ⟨hversion, hcontent, hlength, hall⟩ := hguard
    obtain ⟨hvalid, hnodup, _⟩ := hplacements.mp hall
    simp [hversion, hcontent, Nat.not_lt.mp hlength, hnodup]
    exact hvalid

/-- What the version 2 decoder has checked of the bytes it accepts. -/
structure AcceptedFrameV2 (sha256 : List UInt8 → Bytes 32) (bytes : List UInt8) (max_object_bytes : UInt64)
    (max_chunks max_placements : Nat) : Prop where
  magic : bytes.take 8 = MANIFEST_MAGIC_V2
  version : read_u32_be (bytes.drop 8) = VERSION_2
  header_size : read_u32_be (bytes.drop 12) = 128
  record_size : read_u32_be (bytes.drop 16) = 48
  placement_size : read_u32_be (bytes.drop 24) = 80
  object_reserved : zero_at bytes 33 7 = true
  reserved : zero_at bytes 112 16 = true
  size : encoded_size_v2 (read_u32_be (bytes.drop 20)).toNat (read_u32_be (bytes.drop 28)).toNat ≠ 0
  length : bytes.length = encoded_size_v2 (read_u32_be (bytes.drop 20)).toNat (read_u32_be (bytes.drop 28)).toNat
  digest : envelope_digest_at sha256 bytes 80 = take_bytes 32 (bytes.drop 80)
  chunks : records_reserved_zero (read_u32_be (bytes.drop 20)).toNat (bytes.drop V2_HEADER_SIZE) = true
  placements : placements_reserved_zero (read_u32_be (bytes.drop 28)).toNat (placement_segment bytes) = true
  ordered : placements_ordered (ManifestV2.of_frame bytes).placements = true
  valid : validate_v2 (.of_frame bytes) max_object_bytes max_chunks max_placements = .OK

section decoded

variable {sha256 : List UInt8 → Bytes 32} {bytes : List UInt8} {max_placements : Nat}

theorem decode_placed_ok {manifest : ManifestV2}
    (hdecode : decode_placed sha256 bytes max_object_bytes max_chunks max_placements = .ok manifest) :
    AcceptedFrameV2 sha256 bytes max_object_bytes max_chunks max_placements ∧ manifest = .of_frame bytes := by
  obtain ⟨hheader, hdecode⟩ := guard_passed hdecode
  obtain ⟨hsizes, hdecode⟩ := guard_passed hdecode
  obtain ⟨hdigest, hdecode⟩ := guard_passed hdecode
  obtain ⟨hchunks, hdecode⟩ := guard_passed hdecode
  obtain ⟨hplacements, hdecode⟩ := guard_passed hdecode
  obtain ⟨hordered, hdecode⟩ := guard_passed hdecode
  obtain ⟨hvalid, hdecode⟩ := guard_passed hdecode
  simp only [not_or, not_not, Bool.not_eq_true', Bool.not_eq_false] at hheader hsizes hdigest hvalid
  simp only [Bool.not_eq_true', Bool.not_eq_false] at hchunks hplacements hordered
  obtain ⟨_, hmagic, h8, h12, h16, h24, h33, h112⟩ := hheader
  obtain ⟨_, _, hsize, hlength⟩ := hsizes
  exact ⟨⟨hmagic, h8, h12, h16, h24, h33, h112, hsize, hlength, hdigest, hchunks, hplacements, hordered, hvalid⟩,
    (Except.ok.inj hdecode).symm⟩

theorem decode_v1_ok
    (hdecode : decode_v1 sha256 bytes max_object_bytes max_chunks = .ok manifest) :
    read_u32_be (bytes.drop 8) = VERSION ∧ validate_v1 manifest max_object_bytes max_chunks = .OK ∧
      manifest = .of_frame bytes := by
  obtain ⟨_, hdecode⟩ := guard_passed hdecode
  obtain ⟨hheader, hdecode⟩ := guard_passed hdecode
  iterate 3 obtain ⟨_, hdecode⟩ := guard_passed hdecode
  obtain ⟨hvalid, hdecode⟩ := guard_passed hdecode
  simp only [not_or, not_not] at hheader hvalid
  obtain rfl := Except.ok.inj hdecode
  exact ⟨hheader.2.1, hvalid, rfl⟩

/-- What the decoder returns is valid, whichever version it has read. -/
theorem decode_v2_valid {decoded : ManifestV2}
    (hdecode : decode_v2 sha256 bytes max_object_bytes max_chunks max_placements = .ok decoded) :
    validate_v2 decoded max_object_bytes max_chunks max_placements = .OK := by
  obtain ⟨_, hdecode⟩ := guard_passed hdecode
  split at hdecode
  · obtain ⟨manifest, hmanifest, rfl⟩ := except_map_eq_ok.mp hdecode
    have hcontent := (validate_v1_ok_iff.mp (decode_v1_ok hmanifest).2.1).2
    exact validate_v2_ok_iff.mpr ⟨rfl, hcontent, by simp, by simp, by simp⟩
  · obtain ⟨haccepted, rfl⟩ := decode_placed_ok hdecode
    exact haccepted.valid

end decoded

/-- Reading the fields of a frame gives the manifest back. -/
theorem of_frame_frame_v1 {digest : Bytes 32} (hversion : manifest.version = VERSION)
    (hcount : manifest.chunks.length ≤ 0xffffffff) :
    ManifestV1.of_frame (frame_v1 manifest digest.toList) = manifest := by
  obtain ⟨_, _, _, _, hchunks, hobject, _, hbody⟩ := frame_v1_fields manifest digest
  have hlength := UInt32.toNat_ofNat_of_lt' (Nat.lt_succ_of_le hcount)
  have hread := records_flatMap id (fun cid _ => length_encode_cid cid)
    (fun (cid : ChunkCid) (_ : cid ∈ manifest.chunks) => decode_encode_cid cid) []
  simp only [ManifestV1.of_frame, hchunks, hobject, hbody, hlength, hread, decode_encode_cid, List.map_id]
  rw [← hversion]

/-- A frame of a valid manifest with the right envelope digest is decoded. -/
theorem decode_frame_v1 {sha256 : List UInt8 → Bytes 32} {digest : Bytes 32}
    (hvalid : validate_v1 manifest max_object_bytes max_chunks = .OK)
    (hsize : encoded_size manifest.chunks.length ≠ 0)
    (hdigest : envelope_digest_at sha256 (frame_v1 manifest digest.toList) 72 = digest) :
    decode_v1 sha256 (frame_v1 manifest digest.toList) max_object_bytes max_chunks = .ok manifest := by
  obtain ⟨hversion, hcontent⟩ := validate_v1_ok_iff.mp hvalid
  simp only [content_valid, decide_eq_true_eq] at hcontent
  obtain ⟨_, hobject, _, hlimit, hchunks, hcount, _⟩ := hcontent
  obtain ⟨hmagic, h8, h12, h16, h20, h24, h72, hbody⟩ := frame_v1_fields manifest digest
  have hlength := length_frame_v1 manifest digest
  have hencoded : encoded_size manifest.chunks.length =
      MANIFEST_HEADER_SIZE + manifest.chunks.length * MANIFEST_RECORD_SIZE :=
    (guard_passed rfl (Ne.symm hsize)).2.symm
  have hnumber := UInt32.toNat_ofNat_of_lt' (Nat.lt_succ_of_le hcount)
  have hreserved : zero_at (frame_v1 manifest digest.toList) 25 7 = true := by
    have hzero := encode_cid_reserved manifest.object_cid (digest.toList ++ manifest.chunks.flatMap encode_cid)
    rw [← h24] at hzero
    simpa [zero_at] using hzero
  have hrecords := records_reserved_zero_encode manifest.chunks []
  simp only [decode_v1, hmagic, h8, h12, h16, h20, h72, hbody, hnumber, hlength, hencoded, hreserved, hrecords,
    hdigest, of_frame_frame_v1 hversion hcount, hvalid, take_bytes_append, hobject, hlimit]
  simp [MANIFEST_HEADER_SIZE, hchunks]

/-- A manifest that the version 1 encoder accepts is decoded again under the
same limits. -/
theorem decode_encode_v1 {sha256 : List UInt8 → Bytes 32} {bytes : List UInt8}
    (hencode : encode_v1 sha256 manifest max_object_bytes max_chunks = .ok bytes) :
    decode_v1 sha256 bytes max_object_bytes max_chunks = .ok manifest := by
  unfold encode_v1 at hencode
  by_cases hvalid : validate_v1 manifest max_object_bytes max_chunks = .OK
  · rw [if_neg (not_not.mpr hvalid)] at hencode
    obtain ⟨hsize, hbytes⟩ := guard_passed hencode
    rw [← Except.ok.inj hbytes]
    exact decode_frame_v1 hvalid hsize (envelope_digest_frame_v1 manifest _ sha256)
  · simp [hvalid] at hencode

end turbop2p.m3_object_manifest
