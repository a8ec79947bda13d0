import TurboP2P.Chunk.Enumerate
import TurboP2P.Gateway.Listing
import TurboP2P.Gateway.Object
import TurboP2P.Namespace.Reload

open Codec
open FileTree (File Path Tree)
open Text (ascii)
open Window (window)
open turbop2p.m3_chunk_store (Fits Holds Operation ReadIo Stored cid_calculate_v1 names)
open turbop2p.m3_namespace_local_store (Key WellFormed local_lookup_start)
open turbop2p.m3_object_manifest (ChunkCid HASH_ALGORITHM_SHA256 ManifestV2 VERSION_2)

namespace turbop2p.m3_gateway

theorem LocalGateway.max_chunk_bytes_pos (gateway : LocalGateway) : 0 < gateway.max_chunk_bytes.toNat :=
  Nat.pos_of_ne_zero fun hzero => gateway.max_chunk_bytes_ne_zero (UInt64.toNat_inj.mp hzero)

def LocalGateway.pieces (gateway : LocalGateway) (body : File) : List File :=
  body.pieces gateway.max_chunk_bytes.toNat

section put

variable {sha256 : List UInt8 → Bytes 32} {max_path : Nat} {io : PutIo} {gateway : LocalGateway} {body : File}

/-- A chunk that the gateway has put and can read. -/
structure Readable (max_path : Nat) (gateway : LocalGateway) (cid : ChunkCid) : Prop where
  size : cid.size ≤ gateway.max_chunk_bytes
  fits : Fits max_path (gateway.chunk_store.chunks_path ++ names cid.digest)

/-- The loop of a put after `count` turns. -/
structure Stores (sha256 : List UInt8 → Bytes 32) (max_path : Nat) (gateway : LocalGateway) (body : File) (count : Nat)
    (progress : PutProgress) : Prop where
  offset : progress.offset = min (count * gateway.max_chunk_bytes.toNat) body.val.length
  starts : ∀ i < count, i * gateway.max_chunk_bytes.toNat < body.val.length
  cids : progress.chunks.cids = (List.range count).map fun i =>
    cid_calculate_v1 sha256 (body.window (i * gateway.max_chunk_bytes.toNat) gateway.max_chunk_bytes.toNat)
  total : progress.total = UInt64.ofNat progress.offset
  hashed : progress.hashed = progress.chunks.cids.flatMap (·.digest.toList)
  stored : ∀ cid ∈ progress.chunks.cids, Stored sha256 gateway.chunk_store progress.tree cid
  readable : ∀ cid ∈ progress.chunks.cids, Readable max_path gateway cid

theorem chunk_list_push_cids {realloc : Bool} {list after : ChunkList} {cid : ChunkCid}
    (hpush : chunk_list_push realloc list cid = some after) : after.cids = list.cids ++ [cid] := by
  unfold chunk_list_push at hpush
  split at hpush
  · obtain ⟨_, hpush⟩ := guard_passed hpush
    rw [← Option.some.inj hpush]
  · rw [← Option.some.inj hpush]

variable {count : Nat} {progress : PutProgress}

/-- A turn stores the next piece of the body. -/
theorem Stores.turn (hstores : Stores sha256 max_path gateway body count progress)
    (hmore : progress.offset < body.val.length) {take : Nat}
    (htake : take = min (body.val.length - progress.offset) gateway.max_chunk_bytes.toNat) {created : Bool}
    {tree : Tree}
    (hput : m3_chunk_store.put_bytes_v1 sha256 max_path (io.put_bytes progress.offset) gateway.chunk_store
      progress.tree (cid_calculate_v1 sha256 (body.window progress.offset take)) (body.window progress.offset take) =
        ((.OK, created), tree))
    {chunks : ChunkList}
    (hpush : chunks.cids = progress.chunks.cids ++ [cid_calculate_v1 sha256 (body.window progress.offset take)]) :
    Stores sha256 max_path gateway body (count + 1)
      { tree, chunks, total := progress.total + UInt64.ofNat take, offset := progress.offset + take
        hashed := progress.hashed ++ (cid_calculate_v1 sha256 (body.window progress.offset take)).digest.toList } := by
  have hoffset : progress.offset = count * gateway.max_chunk_bytes.toNat := by
    have heq := hstores.offset
    omega
  have hpiece : body.window progress.offset take =
      body.window (count * gateway.max_chunk_bytes.toNat) gateway.max_chunk_bytes.toNat := by
    refine Subtype.ext ?_
    change window _ _ _ = window _ _ _
    rw [← hoffset, htake, window, window, List.take_eq_take_iff, List.length_drop]
    omega
  obtain ⟨hsize, hfits⟩ := m3_chunk_store.put_ok_admitted hput
  have hresult : (Operation.put (io.put_bytes progress.offset) (cid_calculate_v1 sha256 (body.window progress.offset take))
      (body.window progress.offset take)).result sha256 max_path gateway.chunk_store progress.tree = .OK := by
    rw [Operation.result, hput]
  have hafter : (Operation.put (io.put_bytes progress.offset) (cid_calculate_v1 sha256 (body.window progress.offset take))
      (body.window progress.offset take)).after sha256 max_path gateway.chunk_store progress.tree = tree := by
    rw [Operation.after, hput]
  refine ⟨?_, ?_, ?_, ?_, ?_, ?_, ?_⟩
  · rw [Nat.succ_mul]
    dsimp only
    omega
  · intro i hi
    obtain hlt | rfl := Nat.lt_succ_iff_lt_or_eq.mp hi
    · exact hstores.starts i hlt
    · omega
  · rw [List.range_succ, List.map_append, ← hstores.cids, hpush, hpiece]
    rfl
  · rw [hstores.total, ← UInt64.ofNat_add]
  · rw [hpush, List.flatMap_append, hstores.hashed]
    simp
  · intro cid hcid
    rw [hpush, List.mem_append, List.mem_singleton] at hcid
    obtain hold | rfl := hcid
    · obtain ⟨content, hholds⟩ := hstores.stored cid hold
      exact ⟨content, hafter ▸ m3_chunk_store.holds_after hholds (by simp)⟩
    · exact hafter ▸ (m3_chunk_store.stored_after_put hresult).2
  · intro cid hcid
    rw [hpush, List.mem_append, List.mem_singleton] at hcid
    obtain hold | rfl := hcid
    · exact hstores.readable cid hold
    · exact ⟨gateway.chunk_store_limit ▸ hsize, hfits⟩

/-- The loop ends with all pieces of the body. -/
theorem put_object_chunks_stores {turns : Nat} {final : PutProgress} {tree : Tree}
    (hstores : Stores sha256 max_path gateway body count progress)
    (hturns : body.val.length ≤ progress.offset + turns)
    (hchunks : put_object_chunks sha256 max_path io gateway body turns progress = (some final, tree)) :
    tree = final.tree ∧ body.val.length ≤ final.offset ∧ ∃ count, Stores sha256 max_path gateway body count final := by
  induction turns generalizing count progress with
  | zero =>
    obtain ⟨hfinal, rfl⟩ := Prod.mk.inj hchunks
    obtain rfl := Option.some.inj hfinal
    exact ⟨rfl, hturns, count, hstores⟩
  | succ turns ih =>
    rw [put_object_chunks] at hchunks
    split at hchunks
    · rename_i hend
      obtain ⟨hfinal, rfl⟩ := Prod.mk.inj hchunks
      obtain rfl := Option.some.inj hfinal
      exact ⟨rfl, hend, count, hstores⟩
    · rename_i hmore
      have hmore : progress.offset < body.val.length := Nat.not_le.mp hmore
      have hpositive := gateway.max_chunk_bytes_pos
      dsimp only at hchunks
      generalize htake : (if body.val.length - progress.offset > gateway.max_chunk_bytes.toNat then
        gateway.max_chunk_bytes.toNat else body.val.length - progress.offset) = take at hchunks
      have htake : take = min (body.val.length - progress.offset) gateway.max_chunk_bytes.toNat := by
        rw [← htake]
        split <;> omega
      obtain ⟨_, hchunks⟩ := guard_passed hchunks
      split at hchunks
      · rename_i created tree' hput
        obtain ⟨_, hchunks⟩ := guard_passed hchunks
        split at hchunks
        · simp at hchunks
        · rename_i chunks hpush
          refine ih (hstores.turn hmore htake hput (chunk_list_push_cids hpush)) ?_ hchunks
          dsimp only
          omega
      · simp at hchunks

/-- The digest that a put answers with: that of the digests of the chunks. -/
def object_digest (sha256 : List UInt8 → Bytes 32) (gateway : LocalGateway) (body : File) : Bytes 32 :=
  sha256 ((gateway.pieces body).flatMap fun piece => (sha256 piece.val).toList)

/-- The manifest that a put commits. -/
def object_manifest (sha256 : List UInt8 → Bytes 32) (gateway : LocalGateway) (body : File) : ManifestV2 :=
  { version := VERSION_2
    object_cid :=
      { hash_algorithm := HASH_ALGORITHM_SHA256, size := body.size
        digest := take_bytes 32 ((object_digest sha256 gateway body).toList.take POINTER_SIZE) }
    chunks := (gateway.pieces body).map (cid_calculate_v1 sha256)
    placements := [] }

theorem Stores.complete (hstores : Stores sha256 max_path gateway body count progress)
    (hend : body.val.length ≤ progress.offset) :
    progress.chunks.cids = (gateway.pieces body).map (cid_calculate_v1 sha256) ∧ progress.total = body.size ∧
      sha256 progress.hashed = object_digest sha256 gateway body := by
  have hoffset := hstores.offset
  have hcount : count = Window.count gateway.max_chunk_bytes.toNat body.val :=
    Window.eq_count gateway.max_chunk_bytes_pos (by omega) hstores.starts
  have hcids : progress.chunks.cids = (gateway.pieces body).map (cid_calculate_v1 sha256) := by
    rw [hstores.cids, LocalGateway.pieces, File.pieces, List.map_map, hcount]
    rfl
  refine ⟨hcids, ?_, ?_⟩
  · rw [hstores.total, File.size]
    congr 1
    omega
  · rw [hstores.hashed, hcids, List.flatMap_map, object_digest]
    rfl

theorem put_object_prepare_ok {tree after : Tree} {digest : Bytes 32} {manifest_bytes : List UInt8}
    (hprepare : put_object_prepare sha256 max_path io gateway tree body = (.ok (digest, manifest_bytes), after)) :
    digest = object_digest sha256 gateway body ∧
      gateway_decode sha256 manifest_bytes = .ok (object_manifest sha256 gateway body) ∧
      ∀ cid ∈ (object_manifest sha256 gateway body).chunks,
        Stored sha256 gateway.chunk_store after cid ∧ Readable max_path gateway cid := by
  unfold put_object_prepare at hprepare
  split at hprepare
  · simp at hprepare
  · rename_i progress tree' hchunks
    have hstart : Stores sha256 max_path gateway body 0
        { tree := tree, chunks := { cids := [], capacity := 0 }, total := 0, offset := 0, hashed := [] } :=
      ⟨by simp, by simp, rfl, rfl, rfl, by simp, by simp⟩
    obtain ⟨htree, hend, count, hstores⟩ := put_object_chunks_stores hstart (by simp) hchunks
    obtain ⟨hcids, htotal, hhashed⟩ := hstores.complete hend
    split at hprepare
    · simp at hprepare
    · rename_i encoded hencode
      obtain ⟨_, hprepare⟩ := guard_passed hprepare
      obtain ⟨⟨rfl, rfl⟩, rfl⟩ := hprepare
      have hdecode := m3_object_manifest.decode_encode_v1 hencode
      refine ⟨hhashed, ?_, fun cid hcid => ?_⟩
      · refine (m3_object_manifest.decode_v2_version_1 (m3_object_manifest.decode_v1_ok hdecode).1).mpr ⟨_, hdecode, ?_⟩
        simp [object_manifest, put_object_manifest, hhashed, htotal, hcids]
      · have hcid : cid ∈ progress.chunks.cids := hcids ▸ hcid
        exact ⟨htree ▸ hstores.stored cid hcid, hstores.readable cid hcid⟩

end put

section commit

variable {sha256 : List UInt8 → Bytes 32} {max_path : Nat} {io : PutIo} {gateway after : LocalGateway}
  {bucket object : CString} {manifest_bytes : List UInt8}

/-- A put that is taken up is found by the lookups that follow. -/
theorem gateway_meta_put_ok
    (hput : gateway_meta_put sha256 io gateway bucket object manifest_bytes = (true, after)) :
    (∃ namespace_store, after = { gateway with
        namespace_store := namespace_store, applied_index := gateway.applied_index + 1 }) ∧
      lookup_manifest after bucket object = some manifest_bytes ∧
      ∀ config, WellFormed sha256 config gateway.namespace_store → WellFormed sha256 config after.namespace_store := by
  unfold gateway_meta_put at hput
  dsimp only at hput
  split at hput
  · rename_i namespace_store happly
    obtain rfl := (Prod.mk.inj hput).2
    obtain ⟨hadmitted, _, _, hwritten⟩ := m3_namespace_local_store.put_ok happly
    obtain ⟨slot, hfind⟩ := hwritten.find_self
    have hindex : namespace_store.applied_index ≠ 0 := by
      rw [hwritten.applied_index]
      exact (m3_namespace_raft.index_fresh hadmitted.order).1
    have hopen : namespace_store.is_open = true ∧
        m3_namespace_local_store.name_is_valid namespace_store (object_name bucket object) = true := by
      cases hwritten <;> exact ⟨hadmitted.is_open, hadmitted.name⟩
    have hlookup : m3_namespace_local_store.find_entry namespace_store (object_name bucket object) =
        some (slot, (object_name bucket object).entry false manifest_bytes (gateway.applied_index + 1)) := hfind
    refine ⟨⟨namespace_store, rfl⟩, ?_, fun config hwell => ?_⟩
    · simp [lookup_manifest, m3_namespace_local_store.local_lookup_start, hopen, hindex, hlookup, Key.entry]
    · have hexecute := hwell.execute
        (.put io.apply_put (gateway.applied_index + 1) (object_name bucket object) manifest_bytes)
      rwa [m3_namespace_local_store.Operation.execute, happly] at hexecute
  · simp at hput

theorem lookup_manifest_eq_some (hlookup : lookup_manifest gateway bucket object = some manifest_bytes) :
    ∃ slot entry, m3_namespace_local_store.find_entry gateway.namespace_store (object_name bucket object) =
      some (slot, entry) ∧ entry.manifest_bytes = manifest_bytes := by
  unfold lookup_manifest local_lookup_start at hlookup
  cases hfind : m3_namespace_local_store.find_entry gateway.namespace_store (object_name bucket object) with
  | none =>
    rw [hfind] at hlookup
    split at hlookup
    · rename_i heq
      obtain ⟨_, heq⟩ := guard_passed heq
      simp at heq
    · cases hlookup
  | some found =>
    refine ⟨found.1, found.2, rfl, ?_⟩
    rw [hfind] at hlookup
    split at hlookup
    · rename_i response heq
      obtain ⟨_, heq⟩ := guard_passed heq
      obtain ⟨_, heq⟩ := guard_passed heq
      simp only [Prod.mk.injEq, Option.some.injEq, true_and] at heq
      rw [← Option.some.inj hlookup, ← heq]
    · cases hlookup

/-- What a gateway reports of an object: the ETag of a HEAD, that of a GET that
is served and the row of every page that lists the object. -/
structure Reports (sha256 : List UInt8 → Bytes 32) (max_path : Nat) (gateway : LocalGateway) (bucket object : CString)
    (object_cid : ChunkCid) : Prop where
  head : (head_object sha256 gateway bucket object).headers.lookup (ascii "ETag") =
    some (gateway_etag_quoted object_cid.digest)
  get : ∀ io tree range_header, (get_object sha256 max_path io gateway tree bucket object range_header).status < 300 →
    (get_object sha256 max_path io gateway tree bucket object range_header).headers.lookup (ascii "ETag") =
      some (gateway_etag_quoted object_cid.digest)
  list : ∀ config verify strtoull request prefix_bytes marker max_keys, MetadataConfig config →
    WellFormed sha256 config gateway.namespace_store →
    Accepted verify strtoull gateway.gateway request bucket.val prefix_bytes max_keys →
    query_value request.marker_raw = some marker →
    ∃ next rows, (handle_list_objects sha256 verify strtoull gateway.gateway request).1 =
        reply 200 (Text.render (page_elements bucket.val prefix_bytes marker max_keys next sha256 rows)) ∧
      ∀ row ∈ rows, row.object_key = object.val →
        row_elements sha256 row = contents_elements object.val object_cid

variable {manifest : ManifestV2}

theorem serve_manifest_object_etag (hdecode : gateway_decode sha256 manifest_bytes = .ok manifest) (io : GetIo)
    (tree : Tree) (range_header : Option CString)
    (hserved : (serve_manifest_object sha256 max_path io gateway tree manifest_bytes range_header).status < 300) :
    (serve_manifest_object sha256 max_path io gateway tree manifest_bytes range_header).headers.lookup (ascii "ETag") =
      some (gateway_etag_quoted manifest.object_cid.digest) := by
  have hrange : (ascii "ETag" == ascii "Content-Range") = false := by decide +kernel
  have hheaders : ∀ range etag : List UInt8,
      [(ascii "Content-Range", range), (ascii "ETag", etag)].lookup (ascii "ETag") = some etag := by
    intro range etag
    simp [List.lookup_cons, hrange]
  unfold serve_manifest_object at *
  rw [hdecode] at hserved ⊢
  dsimp only at *
  split at hserved
  · split_ifs
    · split <;> simp
    · simp
  · split at hserved
    · simp at hserved
    · split_ifs
      · split <;> exact hheaders _ _
      · exact hheaders _ _

theorem reports_of_lookup (hlookup : lookup_manifest gateway bucket object = some manifest_bytes)
    (hdecode : gateway_decode sha256 manifest_bytes = .ok manifest) :
    Reports sha256 max_path gateway bucket object manifest.object_cid where
  head := by simp [head_object, hlookup, hdecode]
  get io tree range_header hserved := by
    unfold get_object at *
    rw [hlookup] at *
    exact serve_manifest_object_etag hdecode io tree range_header hserved
  list config verify strtoull request prefix_bytes marker max_keys hconfig hwell haccepted hmarker := by
    refine ⟨_, _, handle_list_objects_accepted hconfig hwell haccepted hmarker, fun row hrow hkey => ?_⟩
    have hlisted := List.mem_of_mem_filter (List.mem_of_mem_take hrow)
    obtain ⟨slot, entry, hholds, _, hname, _, rfl⟩ := mem_enumeration_iff.mp hlisted
    have hname : entry.key = object_name bucket object := by rw [hname, object_name, ← hkey]; rfl
    obtain ⟨slot', entry', hfind, rfl⟩ := lookup_manifest_eq_some hlookup
    obtain ⟨_, rfl⟩ : slot' = slot ∧ entry' = entry := by
      have hsame := (hname ▸ hwell.find_entry_key hholds).symm.trans hfind
      simpa [eq_comm] using hsame
    rw [row_elements, ← hkey]
    simp [m3_namespace_local_store.Entry.listed, hdecode]

end commit

section read

variable {sha256 : List UInt8 → Bytes 32} {max_path : Nat} {gateway : LocalGateway} {tree : Tree}

/-- A piece of a body that can be read back from its chunk. -/
structure Held (sha256 : List UInt8 → Bytes 32) (max_path : Nat) (gateway : LocalGateway) (tree : Tree) (piece : File) :
    Prop where
  nonempty : 0 < piece.val.length
  readable : Readable max_path gateway (cid_calculate_v1 sha256 piece)
  holds : Holds sha256 gateway.chunk_store tree (cid_calculate_v1 sha256 piece) piece

/-- A range of a chunk is read with one call, since no chunk is larger than the
gateway allows. -/
theorem read_chunk_held {piece : File} (hheld : Held sha256 max_path gateway tree piece) {io : Nat → ReadIo}
    (hio : ∀ done, (io done).Succeeds) {chunk_offset chunk_len : UInt64} (hlen : 0 < chunk_len.toNat)
    (hinside : chunk_offset.toNat + chunk_len.toNat ≤ piece.val.length) (buffer : List UInt8) :
    read_chunk sha256 max_path io gateway tree (cid_calculate_v1 sha256 piece) chunk_offset chunk_len chunk_len.toNat 0
      buffer = some (buffer ++ window chunk_offset.toNat chunk_len.toNat piece.val) := by
  have hsize : (cid_calculate_v1 sha256 piece).size.toNat = piece.val.length := piece.size_toNat
  have hlimit := UInt64.le_iff_toNat_le.mp hheld.readable.size
  have hread : m3_chunk_store.read_range_v1 sha256 max_path (io 0) gateway.chunk_store tree (cid_calculate_v1 sha256 piece)
      chunk_offset chunk_len = (.OK, window chunk_offset.toNat chunk_len.toNat piece.val) :=
    m3_chunk_store.read_range_held gateway.chunk_store_open hheld.holds
      (gateway.chunk_store_limit.symm ▸ hheld.readable.size) hheld.readable.fits (hio 0) (by omega)
  have hwhole : ¬ chunk_len > gateway.max_chunk_bytes := by
    rw [gt_iff_lt, UInt64.lt_iff_toNat_lt]
    omega
  have hlength : (window chunk_offset.toNat chunk_len.toNat piece.val).length = chunk_len.toNat := by
    rw [Window.length_window]
    omega
  have hstarted : ¬ (0 : UInt64) ≥ chunk_len := by
    rw [ge_iff_le, UInt64.le_iff_toNat_le, UInt64.toNat_zero]
    omega
  obtain ⟨turns, hturns⟩ := Nat.exists_eq_succ_of_ne_zero (Nat.ne_of_gt hlen)
  have hdone : ∀ turns buffer, read_chunk sha256 max_path io gateway tree (cid_calculate_v1 sha256 piece) chunk_offset
      chunk_len turns chunk_len buffer = some buffer := by
    rintro (_ | turns) buffer
    · rfl
    · rw [read_chunk, if_pos (UInt64.le_refl _)]
  rw [hturns, read_chunk, if_neg hstarted]
  simp only [UInt64.sub_zero, UInt64.add_zero, UInt64.toNat_zero, if_neg hwhole, hread, ← hturns]
  rw [if_neg (by omega), hlength, UInt64.ofNat_toNat, UInt64.zero_add, hdone]

section ranges

variable {io : GetIo} {range_start range_end : UInt64} {pos : UInt64} {before : List UInt8} {piece : File}

/-- The window of a body that a range is, given by its first and its last byte. -/
def range_window (range_start range_end : UInt64) (body : List UInt8) : List UInt8 :=
  window range_start.toNat (range_end.toNat - range_start.toNat + 1) body

theorem chunk_end_toNat (hheld : Held sha256 max_path gateway tree piece)
    (hbody : before.length + piece.val.length < 2 ^ 64) (hpos : pos.toNat = before.length) :
    (pos + (cid_calculate_v1 sha256 piece).size - 1).toNat = before.length + piece.val.length - 1 := by
  have hnonempty := hheld.nonempty
  have hsum : (pos + (cid_calculate_v1 sha256 piece).size).toNat = before.length + piece.val.length := by
    rw [UInt64.toNat_add, hpos]
    change (before.length + piece.size.toNat) % 2 ^ 64 = _
    rw [File.size_toNat, Nat.mod_eq_of_lt hbody]
  rw [UInt64.toNat_sub_of_le _ _ (UInt64.le_iff_toNat_le.mpr ?_), hsum]
  · rfl
  · rw [hsum]
    exact Nat.le_add_left_of_le hnonempty

variable (hio : ∀ i done, (io.read i done).Succeeds) (hrange : range_start ≤ range_end)

include hio hrange

/-- A turn of the loop over the chunks, behind the bytes `before` of a body. -/
theorem read_chunks_turn (hheld : Held sha256 max_path gateway tree piece)
    (hbody : before.length + piece.val.length < 2 ^ 64) (hpos : pos.toNat = before.length) (rest : List ChunkCid) (i : Nat) :
    read_chunks sha256 max_path io gateway tree range_start range_end (cid_calculate_v1 sha256 piece :: rest) i pos
        (range_window range_start range_end before) =
      read_chunks sha256 max_path io gateway tree range_start range_end rest (i + 1)
        (pos + (cid_calculate_v1 sha256 piece).size - 1 + 1) (range_window range_start range_end (before ++ piece.val)) := by
  have hnonempty := hheld.nonempty
  have hend := chunk_end_toNat hheld hbody hpos
  rw [UInt64.le_iff_toNat_le] at hrange
  rw [read_chunks]
  dsimp only
  generalize pos + (cid_calculate_v1 sha256 piece).size - 1 = chunk_end at *
  rw [range_window, range_window, Window.window_append_overlap]
  by_cases hskip : chunk_end < range_start ∨ pos > range_end
  · rw [if_pos hskip, if_neg, List.append_nil]
    rw [gt_iff_lt, UInt64.lt_iff_toNat_lt, UInt64.lt_iff_toNat_lt] at hskip
    omega
  · rw [if_neg hskip]
    rw [gt_iff_lt, UInt64.lt_iff_toNat_lt, UInt64.lt_iff_toNat_lt] at hskip
    have hstart : (if pos > range_start then pos else range_start).toNat = max before.length range_start.toNat := by
      simp only [gt_iff_lt, UInt64.lt_iff_toNat_lt, hpos]
      split <;> omega
    have hstop : (if chunk_end < range_end then chunk_end else range_end).toNat =
        min (before.length + piece.val.length - 1) range_end.toNat := by
      simp only [UInt64.lt_iff_toNat_lt, hend]
      split <;> omega
    generalize (if pos > range_start then pos else range_start) = read_start at *
    generalize (if chunk_end < range_end then chunk_end else range_end) = read_end at *
    have hoffset : (read_start - pos).toNat = max before.length range_start.toNat - before.length := by
      rw [UInt64.toNat_sub_of_le _ _ (UInt64.le_iff_toNat_le.mpr (by omega)), hstart, hpos]
    have hlen : (read_end - read_start + 1).toNat =
        min (before.length + piece.val.length) (range_start.toNat + (range_end.toNat - range_start.toNat + 1)) -
          max before.length range_start.toNat := by
      rw [UInt64.toNat_add, UInt64.toNat_sub_of_le _ _ (UInt64.le_iff_toNat_le.mpr (by omega)), hstart, hstop]
      change (_ + 1) % 2 ^ 64 = _
      omega
    rw [read_chunk_held hheld (hio i) (by omega) (by omega), if_pos (by omega), hlen, hoffset]
    rfl

/-- The whole loop gives the range of the body. -/
theorem read_chunks_held {pieces : List File} (hpieces : ∀ piece ∈ pieces, Held sha256 max_path gateway tree piece) {i : Nat}
    (hbody : (before ++ (pieces.map Subtype.val).flatten).length < 2 ^ 64) (hpos : pos.toNat = before.length) :
    read_chunks sha256 max_path io gateway tree range_start range_end (pieces.map (cid_calculate_v1 sha256)) i pos
        (range_window range_start range_end before) =
      some (range_window range_start range_end (before ++ (pieces.map Subtype.val).flatten)) := by
  induction pieces generalizing i before pos with
  | nil => simp [read_chunks]
  | cons piece pieces ih =>
    obtain ⟨hheld, hrest⟩ := List.forall_mem_cons.mp hpieces
    have hnonempty := hheld.nonempty
    have hflatten : before ++ ((piece :: pieces).map Subtype.val).flatten =
        (before ++ piece.val) ++ (pieces.map Subtype.val).flatten := by simp
    rw [hflatten] at hbody ⊢
    have hbefore : before.length + piece.val.length < 2 ^ 64 := by
      rw [List.length_append, List.length_append] at hbody
      omega
    rw [List.map_cons, read_chunks_turn hio hrange hheld hbefore hpos]
    refine ih hrest hbody ?_
    rw [UInt64.toNat_add, chunk_end_toNat hheld hbefore hpos, List.length_append]
    change (_ + 1) % 2 ^ 64 = _
    omega

end ranges

theorem read_object_held {io : GetIo} (hmalloc : io.malloc = true) (hio : ∀ i done, (io.read i done).Succeeds)
    {body : File} (hpieces : ∀ piece ∈ gateway.pieces body, Held sha256 max_path gateway tree piece)
    {manifest_bytes : List UInt8} (hdecode : gateway_decode sha256 manifest_bytes = .ok (object_manifest sha256 gateway body))
    {range_start range_end : UInt64} (hrange : range_start ≤ range_end) (hend : range_end.toNat < body.val.length) :
    read_object_v1 sha256 max_path io gateway tree manifest_bytes range_start range_end =
      some (range_window range_start range_end body.val) := by
  have hflatten := body.flatten_pieces gateway.max_chunk_bytes_pos
  have hbody : ([] ++ ((gateway.pieces body).map Subtype.val).flatten).length < 2 ^ 64 := by
    rw [List.nil_append, LocalGateway.pieces, hflatten]
    exact body.property
  have hsize : ¬ range_end ≥ body.size := by
    rw [ge_iff_le, UInt64.le_iff_toNat_le, File.size_toNat]
    omega
  have hloop := read_chunks_held hio hrange hpieces hbody (i := 0) (show (0 : UInt64).toNat = ([] : List UInt8).length from rfl)
  have hempty : range_window range_start range_end [] = [] := by simp [range_window, window]
  rw [List.nil_append, LocalGateway.pieces, hflatten, hempty] at hloop
  unfold read_object_v1
  rw [hdecode]
  dsimp only
  rw [if_neg (by simp [object_manifest, hsize, hmalloc, UInt64.not_lt.mpr hrange])]
  exact hloop

end read

section etags

/-- The digest can be read off an ETag. -/
theorem gateway_etag_quoted_injective : Function.Injective gateway_etag_quoted := by
  intro digest digest' hetag
  have hdigits := List.append_cancel_right (List.cons.inj hetag).2
  have hbytes := congrArg Text.hex_decode hdigits
  rw [Text.hex_decode_encode, Text.hex_decode_encode] at hbytes
  exact List.Vector.toList_injective (Option.some.inj hbytes)

/-- A digest of which only the bytes of a pointer are copied. -/
theorem pointer_bytes_eq_iff (digest : Bytes 32) :
    digest = take_bytes 32 (digest.toList.take POINTER_SIZE) ↔ digest.toList.drop POINTER_SIZE = List.replicate 24 0 := by
  have hcopied : (take_bytes 32 (digest.toList.take POINTER_SIZE)).toList =
      digest.toList.take POINTER_SIZE ++ List.replicate 24 0 := by
    change (digest.toList.take POINTER_SIZE ++ List.replicate 32 0).take 32 = _
    rw [List.take_append]
    simp [POINTER_SIZE]
  rw [← List.Vector.toList_injective.eq_iff, hcopied]
  conv_lhs => lhs; rw [← List.take_append_drop POINTER_SIZE digest.toList]
  rw [List.append_cancel_left_eq]

/-- An object that has been put is found with its manifest, and what a HEAD, a
GET and a list report is the id in that manifest. Its digest has only the
first bytes of the digest in the ETag of the put, as many as a pointer has,
so the ETags agree exactly if the other bytes are zero. Every range of the
object is read as it was put while its chunks stay there. -/
theorem put_object_etag_iff (sha256 : List UInt8 → Bytes 32) (max_path : Nat) (io : PutIo) (gateway : LocalGateway)
    (disk : Disk) (bucket object : CString) (body : File) {etag : List UInt8} {after : LocalGateway} {disk' : Disk}
    (hput : put_object_v1 sha256 max_path io gateway disk bucket object body = (.ok etag, after, disk')) :
    ∃ manifest_bytes manifest, lookup_manifest after bucket object = some manifest_bytes ∧
      gateway_decode sha256 manifest_bytes = .ok manifest ∧
      Reports sha256 max_path after bucket object manifest.object_cid ∧
      etag = gateway_etag_quoted (object_digest sha256 gateway body) ∧
      (etag = gateway_etag_quoted manifest.object_cid.digest ↔
        (object_digest sha256 gateway body).toList.drop POINTER_SIZE = List.replicate 24 0) ∧
      (∀ config, WellFormed sha256 config gateway.namespace_store → WellFormed sha256 config after.namespace_store) ∧
      (∀ cid ∈ manifest.chunks, Stored sha256 after.chunk_store disk'.tree cid) ∧
      ∀ tree, (∀ cid ∈ manifest.chunks, Stored sha256 after.chunk_store tree cid) →
        (∀ piece ∈ gateway.pieces body, ∀ content,
          Holds sha256 after.chunk_store tree (cid_calculate_v1 sha256 piece) content → content = piece) →
        ∀ get_io : GetIo, get_io.malloc = true → (∀ i done, (get_io.read i done).Succeeds) →
        ∀ range_start range_end : UInt64, range_start ≤ range_end → range_end.toNat < body.val.length →
          read_object_v1 sha256 max_path get_io after tree manifest_bytes range_start range_end =
            some (window range_start.toNat (range_end.toNat - range_start.toNat + 1) body.val) := by
  unfold put_object_v1 put_object_start_v1 at hput
  split at hput
  · simp at hput
  · rename_i digest manifest_bytes tree hprepare
    obtain ⟨rfl, hdecode, hchunks⟩ := put_object_prepare_ok hprepare
    split at hput
    · simp at hput
    · rename_i committed hmeta
      obtain ⟨⟨namespace_store, rfl⟩, hlookup, hwell⟩ := gateway_meta_put_ok hmeta
      split at hput
      · obtain ⟨rfl, rfl, rfl⟩ := hput
        refine ⟨manifest_bytes, object_manifest sha256 gateway body, hlookup, hdecode, reports_of_lookup hlookup hdecode,
          rfl, ?_, hwell, fun cid hcid => (hchunks cid hcid).1, ?_⟩
        · rw [gateway_etag_quoted_injective.eq_iff]
          exact pointer_bytes_eq_iff _
        · intro tree hstored hunique get_io hmalloc hreads range_start range_end hrange hend
          have hdecode : gateway_decode sha256 manifest_bytes = .ok (object_manifest sha256
              { gateway with namespace_store := namespace_store, applied_index := gateway.applied_index + 1 } body) :=
            hdecode
          refine read_object_held hmalloc hreads (fun piece hpiece => ?_) hdecode hrange hend
          have hcid : cid_calculate_v1 sha256 piece ∈ (object_manifest sha256 gateway body).chunks :=
            List.mem_map_of_mem hpiece
          obtain ⟨content, hholds⟩ := hstored _ hcid
          obtain rfl := hunique piece hpiece content hholds
          obtain ⟨hsize, hfits⟩ := (hchunks _ hcid).2
          exact ⟨(File.length_pieces gateway.max_chunk_bytes_pos hpiece).1, ⟨hsize, hfits⟩, hholds⟩
      · simp at hput

def empty_digest : Bytes 32 :=
  ⟨[0xe3, 0xb0, 0xc4, 0x42, 0x98, 0xfc, 0x1c, 0x14, 0x9a, 0xfb, 0xf4, 0xc8, 0x99, 0x6f, 0xb9, 0x24,
    0x27, 0xae, 0x41, 0xe4, 0x64, 0x9b, 0x93, 0x4c, 0xa4, 0x95, 0x99, 0x1b, 0x78, 0x52, 0xb8, 0x55], rfl⟩

/-- A gateway on an empty disk. -/
def sample_init (sha256 : List UInt8 → Bytes 32) : Option LocalGateway × Disk :=
  init_v1 sha256 256
    { chunk_store := { mkdir := fun _ => true, opened := true, locked := true }, calloc := true, load := .success }
    { tree := ∅, files := fun _ => none } [ascii "m3"] 4 true 2

def sample_put_io : PutIo :=
  { cid_calculate := fun _ => true, put_bytes := fun _ => m3_chunk_store.bytewise_put, sha256_update := fun _ => true,
    realloc := fun _ => true, encode := true, apply_put := true, persist := .success }

/-- A put of an object `o` into the bucket `b` of that gateway. -/
def sample_put (sha256 : List UInt8 → Bytes 32) (body : File) (gateway : LocalGateway) :
    Except Int (List UInt8) × LocalGateway × Disk :=
  put_object_v1 sha256 256 sample_put_io gateway (sample_init sha256).2 ⟨[98], sample_bucket_clean⟩ ⟨[111], by decide⟩ body

def sample_head (sha256 : List UInt8 → Bytes 32) (gateway : LocalGateway) : Option (List UInt8) :=
  (head_object sha256 gateway ⟨[98], sample_bucket_clean⟩ ⟨[111], by decide⟩).headers.lookup (ascii "ETag")

/-- With a digest that ends with zeros the ETags agree. -/
theorem three_bytes_etag :
    ∃ gateway etag after disk', (sample_init fun _ => take_bytes 32 [1]).1 = some gateway ∧
      sample_put (fun _ => take_bytes 32 [1]) m3_chunk_store.three_bytes gateway = (.ok etag, after, disk') ∧
      sample_head (fun _ => take_bytes 32 [1]) after = some etag := by
  have hrun : (sample_init fun _ => take_bytes 32 [1]).1.map (fun gateway =>
      (sample_put (fun _ => take_bytes 32 [1]) m3_chunk_store.three_bytes gateway).1) =
        some (.ok (gateway_etag_quoted (take_bytes 32 [1]))) := by decide +kernel
  obtain ⟨gateway, hgateway, hresult⟩ := Option.map_eq_some_iff.mp hrun
  obtain ⟨manifest_bytes, manifest, _, _, hreports, _, hetag, _⟩ := put_object_etag_iff _ _ _ _ _ _ _ _
    (Prod.ext hresult rfl : sample_put _ _ gateway = (_, _, _))
  refine ⟨gateway, _, _, _, hgateway, Prod.ext hresult rfl, ?_⟩
  rw [hetag.mpr rfl]
  exact hreports.head

/-- The empty object: its ETag is not the one that a HEAD reports. -/
theorem empty_object_etag_differs :
    ∃ gateway etag after disk', (sample_init fun _ => empty_digest).1 = some gateway ∧
      sample_put (fun _ => empty_digest) ⟨[], by decide⟩ gateway = (.ok etag, after, disk') ∧
      sample_head (fun _ => empty_digest) after ≠ some etag := by
  have hrun : (sample_init fun _ => empty_digest).1.map (fun gateway =>
      ((sample_put (fun _ => empty_digest) ⟨[], by decide⟩ gateway).1,
        sample_head (fun _ => empty_digest) (sample_put (fun _ => empty_digest) ⟨[], by decide⟩ gateway).2.1)) =
        some (.ok (gateway_etag_quoted empty_digest),
          some (gateway_etag_quoted (take_bytes 32 (empty_digest.toList.take 8)))) := by decide +kernel
  obtain ⟨gateway, hgateway, hresult⟩ := Option.map_eq_some_iff.mp hrun
  obtain ⟨hput, hhead⟩ := Prod.mk.inj hresult
  refine ⟨gateway, _, _, _, hgateway, Prod.ext hput rfl, ?_⟩
  rw [hhead]
  decide +kernel

end etags

end turbop2p.m3_gateway
