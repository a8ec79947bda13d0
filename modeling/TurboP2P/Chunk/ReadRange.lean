import TurboP2P.Chunk.Store

open turbop2p.m3_object_manifest (ChunkCid HASH_ALGORITHM_SHA256)
open FileTree (File Name Node Path Reads Tree)
open Text (ascii)
open Window (window)

namespace turbop2p.m3_chunk_store

section blocks

variable {offset length : UInt64} (hrange : offset.toNat + length.toNat < 2 ^ 64)

/-- The loop after it has read some bytes. -/
def Progress.after (offset length : UInt64) (bytes : List UInt8) : Progress :=
  { position := UInt64.ofNat bytes.length, copied := window offset.toNat length.toNat bytes, hashed := bytes }

include hrange

/-- A turn of the loop advances over its block, wherever the window lies. -/
theorem read_block_after {bytes block : List UInt8} (hbytes : (bytes ++ block).length < 2 ^ 64) :
    read_block offset length (.after offset length bytes) block = some (.after offset length (bytes ++ block)) := by
  rw [List.length_append] at hbytes
  have hposition : (UInt64.ofNat bytes.length).toNat = bytes.length := Nat.mod_eq_of_lt (by omega)
  have hblock : (UInt64.ofNat block.length).toNat = block.length := Nat.mod_eq_of_lt (by omega)
  have hend : (UInt64.ofNat bytes.length + UInt64.ofNat block.length).toNat = bytes.length + block.length := by
    rw [UInt64.toNat_add, hposition, hblock, Nat.mod_eq_of_lt hbytes]
  have hlast : (offset + length).toNat = offset.toNat + length.toNat := by
    rw [UInt64.toNat_add, Nat.mod_eq_of_lt hrange]
  have hforward : ¬ UInt64.ofNat bytes.length + UInt64.ofNat block.length < UInt64.ofNat bytes.length := by
    rw [UInt64.lt_iff_toNat_lt, hend, hposition]
    omega
  have hnext : UInt64.ofNat bytes.length + UInt64.ofNat block.length = UInt64.ofNat (bytes ++ block).length := by
    rw [← UInt64.toNat_inj, hend, List.length_append]
    exact (Nat.mod_eq_of_lt hbytes).symm
  unfold Progress.after read_block
  dsimp only
  rw [if_neg hforward, Window.window_append_overlap, ← hnext]
  have hmeet : (length > 0 ∧ UInt64.ofNat bytes.length + UInt64.ofNat block.length > offset ∧
      UInt64.ofNat bytes.length < offset + length) ↔ (0 < length.toNat ∧ offset.toNat < bytes.length + block.length ∧
        bytes.length < offset.toNat + length.toNat) := by
    simp only [gt_iff_lt, UInt64.lt_iff_toNat_lt, hend, hposition, hlast]
    rfl
  by_cases hcopy : length > 0 ∧ UInt64.ofNat bytes.length + UInt64.ofNat block.length > offset ∧
      UInt64.ofNat bytes.length < offset + length
  · have hstart : (if UInt64.ofNat bytes.length > offset then UInt64.ofNat bytes.length else offset).toNat =
        max bytes.length offset.toNat := by
      simp only [gt_iff_lt, UInt64.lt_iff_toNat_lt, hposition]
      split <;> omega
    have hstop : (if UInt64.ofNat bytes.length + UInt64.ofNat block.length < offset + length then
        UInt64.ofNat bytes.length + UInt64.ofNat block.length else offset + length).toNat =
        min (bytes.length + block.length) (offset.toNat + length.toNat) := by
      simp only [UInt64.lt_iff_toNat_lt, hend, hlast]
      split <;> omega
    have hmeets := hmeet.mp hcopy
    rw [if_pos hcopy, if_pos hmeets, UInt64.toNat_sub_of_le, UInt64.toNat_sub_of_le, hstart, hstop, hposition]
    · rw [UInt64.le_iff_toNat_le, hstart, hposition]
      omega
    · rw [UInt64.le_iff_toNat_le, hstart, hstop]
      omega
  · rw [if_neg hcopy, if_neg (hmeet.not.mp hcopy), List.append_nil]

/-- The whole loop covers the file, however its reads are split. -/
theorem read_blocks_after {bytes : List UInt8} {blocks : List (List UInt8)}
    (hbytes : (bytes ++ blocks.flatten).length < 2 ^ 64) :
    blocks.foldlM (read_block offset length) (.after offset length bytes) =
      some (.after offset length (bytes ++ blocks.flatten)) := by
  induction blocks generalizing bytes with
  | nil => simp
  | cons block blocks ih =>
    rw [List.flatten_cons, ← List.append_assoc] at hbytes ⊢
    have hblock : (bytes ++ block).length < 2 ^ 64 := by
      rw [List.length_append] at hbytes
      omega
    rw [List.foldlM_cons, read_block_after hrange hblock]
    exact ih hbytes

theorem foldlM_read_block (reads : Reads IO_BLOCK) (content : File) :
    (reads.blocks content.val).foldlM (read_block offset length) ⟨0, [], []⟩ =
      some (.after offset length content.val) := by
  have hstart : (⟨0, [], []⟩ : Progress) = .after offset length [] := by
    simp [Progress.after, Window.window]
  have hblocks : ([] ++ (reads.blocks content.val).flatten).length < 2 ^ 64 := by
    rw [List.nil_append, reads.flatten]
    exact content.property
  rw [hstart, read_blocks_after hrange hblocks, List.nil_append, reads.flatten]

end blocks

section ranges

variable {sha256 : List UInt8 → Bytes 32} {max_path : Nat} {io : ReadIo} {tree : Tree} {path : Path} {cid : ChunkCid}
  {offset length : UInt64} {bytes : List UInt8}

/-- A file that verifies has the size and the digest of the chunk id, and gives
the window that was asked for. -/
theorem of_read_verify_range (hrange : offset.toNat + length.toNat < 2 ^ 64)
    (hok : read_verify_range sha256 io tree path cid offset length = (.OK, bytes)) :
    io.Succeeds ∧ ∃ content, tree.lookup path = some (.file content) ∧ content.size = cid.size ∧
      sha256 content.val = cid.digest ∧ bytes = window offset.toNat length.toNat content.val := by
  unfold read_verify_range at hok
  split at hok
  · cases hok
  · rename_i content hfile
    obtain ⟨hsize, hok⟩ := guard_passed hok
    obtain ⟨hopened, hok⟩ := guard_passed hok
    obtain ⟨hcreated, hok⟩ := guard_passed hok
    rw [foldlM_read_block hrange] at hok
    obtain ⟨hread, hok⟩ := guard_passed hok
    obtain ⟨hfinished, hok⟩ := guard_passed hok
    obtain ⟨hdigest, hok⟩ := guard_passed hok
    obtain ⟨hclosed, hok⟩ := guard_passed hok
    simp only [not_or, Bool.not_eq_true, not_not, Bool.not_eq_false] at *
    exact ⟨⟨hopened, hcreated, hread.1, hfinished, hclosed⟩, content, hfile, hsize, hdigest, (Prod.mk.inj hok).2.symm⟩
  · cases hok

/-- A file with the right size and digest verifies, and a window inside it is
read in full. -/
theorem read_verify_range_file {content : File} (hio : io.Succeeds) (hfile : tree.lookup path = some (.file content))
    (hsize : content.size = cid.size) (hdigest : sha256 content.val = cid.digest)
    (hinside : offset.toNat + length.toNat ≤ cid.size.toNat) :
    read_verify_range sha256 io tree path cid offset length = (.OK, window offset.toNat length.toNat content.val) := by
  obtain ⟨hopened, hcreated, hreads, hfinished, hclosed⟩ := hio
  have hrange : offset.toNat + length.toNat < 2 ^ 64 := Nat.lt_of_le_of_lt hinside cid.size.toNat_lt
  have hlength : (window offset.toNat length.toNat content.val).length = length.toNat := by
    rw [← hsize, File.size_toNat] at hinside
    rw [Window.length_window]
    omega
  have hposition : UInt64.ofNat content.val.length = cid.size := hsize
  unfold read_verify_range
  simp [foldlM_read_block hrange, Progress.after, *]

end ranges

section paths

variable {max_path : Nat} {store : Store} {cid : ChunkCid} {shard_path chunk_path : Path}

/-- A path that fits into the buffers. -/
def Fits (max_path : Nat) (path : Path) : Prop := (path.map fun name => name.length + 1).sum < max_path

theorem join_path_eq_some {base : Path} {component : Name} {path : Path} :
    join_path max_path base component = some path ↔ Fits max_path path ∧ path = base ++ [component] := by
  unfold join_path Fits
  dsimp only
  split
  · rename_i hfits
    rw [Option.some_inj, eq_comm (a := path)]
    exact ⟨fun heq => ⟨heq ▸ hfits, heq⟩, And.right⟩
  · rename_i hfits
    simp only [reduceCtorEq, false_iff, not_and]
    rintro hpath rfl
    exact hfits hpath

theorem Fits.of_append {base rest : Path} (hfits : Fits max_path (base ++ rest)) : Fits max_path base := by
  unfold Fits at *
  rw [List.map_append, List.sum_append] at hfits
  omega

/-- The names of a chunk below the directory of the chunks. -/
def names (digest : Bytes 32) : Path := [shard_name digest, file_name digest]

theorem build_chunk_path_eq_some :
    build_chunk_path max_path store cid = some (shard_path, chunk_path) ↔
      store.is_open = true ∧ cid_is_valid cid = true ∧ Fits max_path (store.chunks_path ++ names cid.digest) ∧
        shard_path = store.chunks_path ++ [shard_name cid.digest] ∧
        chunk_path = store.chunks_path ++ names cid.digest := by
  have hnames : store.chunks_path ++ names cid.digest =
      store.chunks_path ++ [shard_name cid.digest] ++ [file_name cid.digest] := by simp [names]
  unfold build_chunk_path
  constructor
  · intro hpaths
    obtain ⟨hguard, hpaths⟩ := guard_passed hpaths
    split at hpaths
    · cases hpaths
    · rename_i shard hshard
      simp only [Option.map_eq_some_iff, join_path_eq_some, Prod.mk.injEq] at hpaths
      obtain ⟨chunk, ⟨hfits, rfl⟩, rfl, rfl⟩ := hpaths
      obtain ⟨-, rfl⟩ := join_path_eq_some.mp hshard
      obtain ⟨hopen, hvalid⟩ : store.is_open = true ∧ cid_is_valid cid = true := by simpa using hguard
      exact ⟨hopen, hvalid, hnames ▸ hfits, rfl, hnames.symm⟩
  · rintro ⟨hopen, hvalid, hfits, rfl, rfl⟩
    rw [hnames] at hfits ⊢
    rw [if_neg (by simp [hopen, hvalid]), join_path_eq_some.mpr ⟨hfits.of_append, rfl⟩]
    simp [join_path_eq_some.mpr ⟨hfits, rfl⟩]

theorem length_shard_name (digest : Bytes 32) : (shard_name digest).length = 2 := by
  simp [shard_name]

theorem parse_chunk_name_names (digest : Bytes 32) (size : UInt64) :
    parse_chunk_name (shard_name digest) (file_name digest) size =
      some { hash_algorithm := HASH_ALGORITHM_SHA256, size := size, digest := digest } := by
  have hdigits : ((Text.hex_encode digest.toList).drop 2).length = 62 := by simp
  have hsuffix : (ascii ".chunk").length = 6 := by decide
  have hname : (file_name digest).length = 68 := by rw [file_name, List.length_append, hdigits, hsuffix]
  have hdrop : (file_name digest).drop 62 = ascii ".chunk" := by rw [file_name, List.drop_left' hdigits]
  have htake : (file_name digest).take 62 = (Text.hex_encode digest.toList).drop 2 := by
    rw [file_name, List.take_left' hdigits]
  have hdigest : Codec.take_bytes 32 digest.toList = digest := by simpa using Codec.take_bytes_append digest []
  unfold parse_chunk_name
  rw [if_neg (by simp [length_shard_name]), if_neg (by simp [hname, hdrop]), htake, shard_name, List.take_append_drop,
    Text.hex_decode_encode, Option.map_some, hdigest]

theorem names_injective : Function.Injective names := by
  intro digest digest' hnames
  obtain ⟨hshard, hfile⟩ : shard_name digest = shard_name digest' ∧ file_name digest = file_name digest' := by
    simpa [names] using hnames
  have hparse := parse_chunk_name_names digest 0
  rw [hshard, hfile, parse_chunk_name_names digest' 0] at hparse
  simpa using hparse.symm

end paths

end turbop2p.m3_chunk_store
