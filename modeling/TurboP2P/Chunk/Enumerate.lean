import TurboP2P.Chunk.History

open turbop2p.m3_object_manifest (ChunkCid)
open FileTree (EntryType File Name Node Path Readdir Tree)
open Window (window)

namespace turbop2p.m3_chunk_store

section listing

variable {sha256 : List UInt8 → Bytes 32} {max_path : Nat} {store : Store} {P : File → Prop} {tree : Tree}
  {io : EnumerateIo} {callback : ChunkCid → Bool} {shard name : Name} {type : EntryType} {cid : ChunkCid}

def chunk_at (sha256 : List UInt8 → Bytes 32) : Option Node → Option ChunkCid
  | some (.file content) => some (cid_calculate_v1 sha256 content)
  | _ => none

theorem chunk_at_eq_some {node : Option Node} :
    chunk_at sha256 node = some cid ↔ ∃ content, node = some (.file content) ∧ cid_calculate_v1 sha256 content = cid := by
  unfold chunk_at
  split <;> simp_all

theorem sublist_entries (io : EnumerateIo) (tree : Tree) (path : Path) :
    (io.entries tree path).Sublist (io.readdir.entries tree path) := by
  unfold EnumerateIo.entries
  split
  · exact .refl _
  · exact List.take_sublist _ _

/-- The names that are read in a directory, in their order. -/
def names_in (io : EnumerateIo) (tree : Tree) (path : Path) : List Name := (io.entries tree path).map Prod.fst

variable {path : Path}

theorem mem_of_entry (hentry : (name, type) ∈ io.readdir.entries tree path) : path ++ [name] ∈ tree := by
  rw [← FileTree.mem_children, ← (io.readdir.names tree path).mem_iff]
  exact List.mem_map_of_mem hentry

theorem mem_names_in (hreaddir : io.readdir_fails path = none) (hname : path ++ [name] ∈ tree) :
    name ∈ names_in io tree path := by
  rw [names_in, EnumerateIo.entries, hreaddir]
  exact (io.readdir.names tree path).mem_iff.mpr (FileTree.mem_children.mpr hname)

theorem nodup_names_in (path : Path) : (names_in io tree path).Nodup :=
  ((io.readdir.names tree path).nodup_iff.mpr (FileTree.nodup_children tree path)).sublist
    ((sublist_entries io tree path).map Prod.fst)

/-- The chunk ids of the files with these names in a shard. -/
def shard_chunks (sha256 : List UInt8 → Bytes 32) (store : Store) (tree : Tree) (shard : Name) (names : List Name) :
    List ChunkCid :=
  names.filterMap fun name => chunk_at sha256 (store.view tree [shard, name])

theorem entry_is_directory_file {content : File} (hfile : tree.lookup (path ++ [name]) = some (.file content))
    (hentry : (name, type) ∈ io.readdir.entries tree path) :
    entry_is_directory tree (path ++ [name]) type = some false := by
  cases type with
  | FILE => rfl
  | OTHER => simp [entry_is_directory, hfile]
  | DIRECTORY =>
    have hdirectory := io.readdir.directory tree path name hentry
    rw [hfile] at hdirectory
    cases hdirectory

theorem entry_is_directory_iff (hentry : (name, type) ∈ io.readdir.entries tree path) :
    entry_is_directory tree (path ++ [name]) type = some true ↔ tree.lookup (path ++ [name]) = some .directory := by
  cases type with
  | FILE =>
    obtain ⟨content, hfile⟩ := io.readdir.file tree path name hentry
    simp [entry_is_directory, hfile]
  | OTHER => simp [entry_is_directory]
  | DIRECTORY => simp [entry_is_directory, io.readdir.directory tree path name hentry]

section

variable (htree : Consistent sha256 max_path store P (store.view tree))

include htree

variable {entries : List (Name × EntryType)}

theorem enumerate_shard_eq (hcallback : ∀ cid, callback cid = true)
    (hentries : ∀ entry ∈ entries, entry ∈ io.readdir.entries tree (store.chunks_path ++ [shard]))
    (seen : List ChunkCid) :
    enumerate_shard max_path tree callback (store.chunks_path ++ [shard]) shard entries seen =
      (.OK, seen ++ shard_chunks sha256 store tree shard (entries.map Prod.fst)) := by
  induction entries generalizing seen with
  | nil => simp [enumerate_shard, shard_chunks]
  | cons entry entries ih =>
    obtain ⟨name, type⟩ := entry
    have hentry := hentries _ List.mem_cons_self
    have hpath : store.chunks_path ++ [shard] ++ [name] = store.chunks_path ++ [shard, name] := by simp
    have hmem : store.chunks_path ++ [shard] ++ [name] ∈ tree := mem_of_entry hentry
    obtain ⟨node, hnode⟩ := Option.isSome_iff_exists.mp (AList.lookup_isSome.mpr hmem)
    rw [hpath] at hnode
    obtain ⟨_, content, rfl, hnames, _, hfits, _⟩ := htree.chunk hnode
    obtain ⟨rfl, rfl⟩ : shard = shard_name (sha256 content.val) ∧ name = file_name (sha256 content.val) := by
      simpa [names] using hnames
    have hchunk : chunk_at sha256 (store.view tree (names (sha256 content.val))) = some (cid_calculate_v1 sha256 content) :=
      chunk_at_eq_some.mpr ⟨content, hnode, rfl⟩
    have hstep : shard_chunks sha256 store tree (shard_name (sha256 content.val))
        (file_name (sha256 content.val) :: entries.map Prod.fst) = cid_calculate_v1 sha256 content ::
          shard_chunks sha256 store tree (shard_name (sha256 content.val)) (entries.map Prod.fst) :=
      List.filterMap_cons_some hchunk
    rw [enumerate_shard, join_path_eq_some.mpr ⟨hpath ▸ hfits, rfl⟩, List.map_cons, hstep]
    dsimp only
    rw [entry_is_directory_file (hpath ▸ hnode) hentry, if_neg (by simp), hpath, hnode]
    dsimp only
    rw [parse_chunk_name_names]
    dsimp only
    rw [if_pos (hcallback _), ih (fun entry hmem => hentries entry (List.mem_cons_of_mem _ hmem)), List.append_assoc]
    rfl

theorem shard_chunks_eq_nil
    (hshard : ¬ (shard.length = 2 ∧ Fits max_path (store.chunks_path ++ [shard]) ∧ store.view tree [shard] = some .directory))
    (below : List Name) :
    shard_chunks sha256 store tree shard below = [] := by
  refine List.filterMap_eq_nil_iff.mpr fun name _ => ?_
  by_contra hsome
  obtain ⟨cid, hcid⟩ := Option.ne_none_iff_exists'.mp hsome
  obtain ⟨content, hfile, _⟩ := chunk_at_eq_some.mp hcid
  obtain ⟨hdirectory, stored, _, hnames, _, hfits, _⟩ := htree.chunk hfile
  obtain ⟨rfl, rfl⟩ : shard = shard_name (sha256 stored.val) ∧ name = file_name (sha256 stored.val) := by
    simpa [names] using hnames
  rw [← List.singleton_append, ← List.append_assoc] at hfits
  exact hshard ⟨length_shard_name _, hfits.of_append, hdirectory⟩

theorem enumerate_shards_eq (hcallback : ∀ cid, callback cid = true)
    (hopendir : ∀ path, tree.lookup path = some .directory → io.opendir path = true)
    (hentries : ∀ entry ∈ entries, entry ∈ io.readdir.entries tree store.chunks_path) (seen : List ChunkCid) :
    enumerate_shards max_path io tree callback store.chunks_path entries seen =
      (.OK, seen ++ (entries.map Prod.fst).flatMap fun shard =>
        shard_chunks sha256 store tree shard (names_in io tree (store.chunks_path ++ [shard]))) := by
  induction entries generalizing seen with
  | nil => simp [enumerate_shards]
  | cons entry entries ih =>
    obtain ⟨shard, type⟩ := entry
    have hentry := hentries _ List.mem_cons_self
    have ih := ih fun entry hmem => hentries entry (List.mem_cons_of_mem _ hmem)
    have hskip : ¬ (shard.length = 2 ∧ Fits max_path (store.chunks_path ++ [shard]) ∧
        store.view tree [shard] = some .directory) →
        enumerate_shards max_path io tree callback store.chunks_path entries seen = (.OK, seen ++
          ((shard :: entries.map Prod.fst).flatMap fun shard =>
            shard_chunks sha256 store tree shard (names_in io tree (store.chunks_path ++ [shard])))) := by
      intro hshard
      rw [ih, List.flatMap_cons, shard_chunks_eq_nil htree hshard, List.nil_append]
    rw [enumerate_shards, List.map_cons]
    split_ifs with hlength
    · exact hskip fun hshard => hlength hshard.1
    · split
      · rename_i hlong
        refine hskip fun hshard => ?_
        rw [join_path_eq_some.mpr ⟨hshard.2.1, rfl⟩] at hlong
        cases hlong
      · rename_i shard_path hjoin
        obtain ⟨_, rfl⟩ := join_path_eq_some.mp hjoin
        split_ifs with hnot hclosed
        · exact hskip fun hshard => hnot ((entry_is_directory_iff hentry).mpr hshard.2.2)
        · rw [not_not, entry_is_directory_iff hentry] at hnot
          rw [hopendir _ hnot] at hclosed
          cases hclosed
        · rw [enumerate_shard_eq htree hcallback fun _ hmem => (sublist_entries io tree _).mem hmem]
          dsimp only
          rw [ih, List.flatMap_cons, List.append_assoc, names_in]

end

/-- The chunk ids in the order in which the directories are read. -/
def stored_chunks (sha256 : List UInt8 → Bytes 32) (io : EnumerateIo) (store : Store) (tree : Tree) : List ChunkCid :=
  (names_in io tree store.chunks_path).flatMap fun shard =>
    shard_chunks sha256 store tree shard (names_in io tree (store.chunks_path ++ [shard]))

variable (htree : Consistent sha256 max_path store P (store.view tree))

include htree

theorem enumerate_v1_eq (hopen : store.is_open = true) (hcallback : ∀ cid, callback cid = true)
    (hopendir : ∀ path, tree.lookup path = some .directory → io.opendir path = true) :
    enumerate_v1 max_path io store tree callback = (.OK, stored_chunks sha256 io store tree) := by
  have hroot := htree.root
  rw [Store.view, List.append_nil] at hroot
  unfold enumerate_v1
  rw [if_neg (by simp [hopen]), if_neg (by simp [hopendir _ hroot]),
    enumerate_shards_eq htree hcallback hopendir fun _ hmem => (sublist_entries io tree _).mem hmem, List.nil_append]
  rfl

theorem mem_shard_chunks {below : List Name} :
    cid ∈ shard_chunks sha256 store tree shard below ↔
      ∃ name ∈ below, [shard, name] = names cid.digest ∧ Stored sha256 store tree cid := by
  simp only [shard_chunks, List.mem_filterMap, chunk_at_eq_some]
  constructor
  · rintro ⟨name, hname, content, hfile, rfl⟩
    obtain ⟨_, stored, hstored, hnames, _⟩ := htree.chunk hfile
    cases hstored
    exact ⟨name, hname, hnames, content, hnames ▸ hfile, rfl⟩
  · rintro ⟨name, hname, hnames, content, hfile, hcid⟩
    exact ⟨name, hname, content, hnames ▸ hfile, hcid⟩

theorem stored_of_mem (hcid : cid ∈ stored_chunks sha256 io store tree) : Stored sha256 store tree cid := by
  simp only [stored_chunks, List.mem_flatMap, mem_shard_chunks htree] at hcid
  obtain ⟨_, _, _, _, _, hstored⟩ := hcid
  exact hstored

/-- If every directory is read to its end, every stored chunk is seen. -/
theorem mem_stored_chunks (hreaddir : ∀ path, tree.lookup path = some .directory → io.readdir_fails path = none)
    (hstored : Stored sha256 store tree cid) : cid ∈ stored_chunks sha256 io store tree := by
  have ⟨content, hfile, _⟩ := hstored
  obtain ⟨hdirectory, _⟩ := htree.chunk hfile
  have hroot := htree.root
  rw [Store.view, List.append_nil] at hroot
  simp only [stored_chunks, List.mem_flatMap, mem_shard_chunks htree]
  refine ⟨shard_name cid.digest, mem_names_in (hreaddir _ hroot) ?_, file_name cid.digest,
    mem_names_in (hreaddir _ hdirectory) ?_, rfl, hstored⟩
  · rw [← AList.lookup_isSome]
    exact Option.isSome_iff_exists.mpr ⟨_, hdirectory⟩
  · rw [← AList.lookup_isSome, List.append_assoc]
    exact Option.isSome_iff_exists.mpr ⟨_, hfile⟩

theorem nodup_stored_chunks : (stored_chunks sha256 io store tree).Nodup := by
  refine List.nodup_flatMap.mpr ⟨fun shard _ => ?_, ?_⟩
  · refine List.Nodup.filterMap (fun name name' cid hname hname' => ?_) (nodup_names_in _)
    have hcid : ∀ {name}, cid ∈ chunk_at sha256 (store.view tree [shard, name]) → [shard, name] = names cid.digest := by
      intro name hname
      obtain ⟨content, hfile, rfl⟩ := chunk_at_eq_some.mp hname
      obtain ⟨_, stored, hstored, hnames, _⟩ := htree.chunk hfile
      cases hstored
      exact hnames
    simpa using (hcid hname).trans (hcid hname').symm
  · refine (nodup_names_in _).imp fun {shard shard'} hne => ?_
    intro cid hmem hmem'
    obtain ⟨name, _, hnames, _⟩ := (mem_shard_chunks htree).mp hmem
    obtain ⟨name', _, hnames', _⟩ := (mem_shard_chunks htree).mp hmem'
    exact hne (List.cons.inj (hnames.trans hnames'.symm)).1

end listing

/-- A chunk store that is opened over an empty directory, after any calls on it.
What a read answers with `OK` is the window of the one content with the size
and the digest of the chunk id; a chunk that was put with `OK` can be read until
it is deleted, whatever windows and however the reads are split; and an
enumeration lists stored chunk ids, each once, and all of them if no directory
fails to be read. These are the ids that were put with `OK` and not deleted
since, as long as no put fails to read its chunk back. -/
theorem chunk_store_runs {sha256 : List UInt8 → Bytes 32} {max_path : Nat} {io : OpenIo} {tree opened : Tree}
    {root : Path} {max_chunk_bytes : UInt64} {store : Store}
    (hopen : open_v1 max_path io tree root max_chunk_bytes = ((.OK, opened), some store))
    (hvacant : Vacant store tree) (operations : List Operation)
    (hcollision : Set.InjOn (fun content : File => sha256 content.val) { content | content ∈ contents operations }) :
    (∀ io cid offset length bytes,
      read_range_v1 sha256 max_path io store (reached sha256 max_path store opened operations) cid offset length =
        (.OK, bytes) →
      ∃! content, content ∈ contents operations ∧ cid_calculate_v1 sha256 content = cid ∧
        bytes = window offset.toNat length.toNat content.val ∧ bytes.length = length.toNat) ∧
    (∀ cid bytes, Kept (history sha256 max_path store opened operations) cid bytes →
      ∀ io offset length, ReadIo.Succeeds io → offset.toNat + length.toNat ≤ cid.size.toNat →
        read_range_v1 sha256 max_path io store (reached sha256 max_path store opened operations) cid offset length =
          (.OK, window offset.toNat length.toNat bytes.val)) ∧
    (∀ io callback, (∀ path, (reached sha256 max_path store opened operations).lookup path = some .directory →
        io.opendir path = true) → (∀ cid, callback cid = true) →
      ∃ cids, enumerate_v1 max_path io store (reached sha256 max_path store opened operations) callback = (.OK, cids) ∧
        cids.Nodup ∧
        (∀ cid ∈ cids, Stored sha256 store (reached sha256 max_path store opened operations) cid) ∧
        ((∀ path, (reached sha256 max_path store opened operations).lookup path = some .directory →
            io.readdir_fails path = none) →
          ∀ cid, cid ∈ cids ↔ Stored sha256 store (reached sha256 max_path store opened operations) cid)) ∧
    ((∀ io cid bytes, .put io cid bytes ∈ operations → io.verify.Succeeds) →
      ∀ cid, Stored sha256 store (reached sha256 max_path store opened operations) cid ↔
        ∃ bytes, Kept (history sha256 max_path store opened operations) cid bytes) := by
  obtain ⟨hisopen, _, hempty⟩ := view_open hopen hvacant
  have htree : Consistent sha256 max_path store (· ∈ contents operations)
      (store.view (reached sha256 max_path store opened operations)) :=
    consistent_reached (fun P => consistent_open hopen hvacant) operations
  have hsame : ∀ {content other : File}, content ∈ contents operations → other ∈ contents operations →
      cid_calculate_v1 sha256 content = cid_calculate_v1 sha256 other → content = other := by
    intro content other hcontent hother hcid
    exact hcollision hcontent hother (congrArg ChunkCid.digest hcid)
  refine ⟨?_, ?_, ?_, ?_⟩
  · intro io cid offset length bytes hread
    obtain ⟨content, hcontent, hcid, hbytes⟩ := of_read_range htree hread
    refine ⟨content, ⟨hcontent, hcid, hbytes⟩, fun other hother => ?_⟩
    exact hsame hother.1 hcontent (hother.2.1.trans hcid.symm)
  · intro cid bytes hkept io offset length hio hinside
    obtain ⟨hcid, content, hholds⟩ := stored_of_kept hkept
    obtain ⟨_, stored, hstored, _, _, _, hcontent⟩ := htree.chunk hholds.1
    cases hstored
    rw [hsame (mem_contents_of_kept hkept) hcontent (hcid.trans hholds.2.symm)]
    exact htree.read_range hisopen hholds hio hinside
  · intro io callback hopendir hcallback
    exact ⟨_, enumerate_v1_eq htree hisopen hcallback hopendir, nodup_stored_chunks htree,
      fun cid => stored_of_mem htree, fun hreaddir cid => ⟨stored_of_mem htree, mem_stored_chunks htree hreaddir⟩⟩
  · intro hverify cid
    exact ⟨kept_of_stored hempty hverify, fun ⟨bytes, hkept⟩ => (stored_of_kept hkept).2⟩

/-- Reads that succeed, one byte at a time. -/
def bytewise_read : ReadIo :=
  { opened := true, hash_created := true, reads := .bytewise (by decide), read_fails := false, hash_finished := true,
    closed := true }

/-- A put whose system calls succeed. -/
def bytewise_put : PutIo :=
  { hash_bytes := true, mkdir := true, random := some (Codec.take_bytes 16 []), opened := true, write_fails := none,
    fsync := true, closed := true, renamed := true, unlinked := true, verify := bytewise_read }

def three_bytes : File := ⟨[1, 2, 3], by decide⟩

theorem three_bytes_read :
    let sha256 := Codec.take_bytes 32
    let store : Store := { root := [], max_chunk_bytes := 16, is_open := true }
    let opening := open_v1 256 { mkdir := fun _ => true, opened := true, locked := true } ∅ [] 16
    let cid := cid_calculate_v1 sha256 three_bytes
    opening = ((.OK, opening.1.2), some store) ∧
      read_range_v1 sha256 256 bytewise_read store
        (reached sha256 256 store opening.1.2 [.put bytewise_put cid three_bytes]) cid 1 2 = (.OK, [2, 3]) := by
  intro sha256 store opening cid
  have hopen : opening = ((.OK, opening.1.2), some store) := rfl
  have hone : Set.InjOn (fun content : File => sha256 content.val)
      { content | content ∈ contents [.put bytewise_put cid three_bytes] } := by
    intro content hcontent other hother _
    exact (List.mem_singleton.mp hcontent).trans (List.mem_singleton.mp hother).symm
  have hkept : Kept (history sha256 256 store opening.1.2 [.put bytewise_put cid three_bytes]) cid three_bytes := by
    refine ⟨[], bytewise_put, [], ?_, by simp⟩
    rfl
  obtain ⟨_, hread, _⟩ := chunk_store_runs hopen (fun path _ => by simp) [.put bytewise_put cid three_bytes] hone
  exact ⟨hopen, hread _ _ hkept bytewise_read 1 2 ⟨rfl, rfl, rfl, rfl, rfl⟩ (by decide)⟩

end turbop2p.m3_chunk_store
