import TurboP2P.Chunk.ReadRange

open turbop2p.m3_object_manifest (ChunkCid HASH_ALGORITHM_SHA256)
open FileTree (File Name Node Path Tree)
open Text (ascii)
open Window (window)

namespace turbop2p.m3_chunk_store

section view

variable {store : Store} {tree : Tree} {path : Path} {node : Node}

/-- The nodes below the directory of the chunks. -/
def Store.view (store : Store) (tree : Tree) (path : Path) : Option Node := tree.lookup (store.chunks_path ++ path)

theorem chunks_path_append_ne (store : Store) (path below : Path) :
    store.chunks_path ++ path ≠ store.temp_path ++ below := by
  have hnames : ascii "chunks" ≠ ascii "tmp" := by decide
  simp [Store.chunks_path, Store.temp_path, hnames]

theorem view_insert_temp (below : Path) : store.view (tree.insert (store.temp_path ++ below) node) = store.view tree :=
  funext fun path => AList.lookup_insert_ne (chunks_path_append_ne store path below)

theorem view_erase_temp (below : Path) : store.view (tree.erase (store.temp_path ++ below)) = store.view tree :=
  funext fun path => AList.lookup_erase_ne (chunks_path_append_ne store path below)

theorem view_insert : store.view (tree.insert (store.chunks_path ++ path) node) =
    Function.update (store.view tree) path (some node) := by
  funext other
  by_cases hpath : other = path
  · subst hpath
    rw [Function.update_self]
    exact AList.lookup_insert tree
  · rw [Function.update_of_ne hpath]
    exact AList.lookup_insert_ne (by simpa using hpath)

theorem view_erase : store.view (tree.erase (store.chunks_path ++ path)) =
    Function.update (store.view tree) path none := by
  funext other
  by_cases hpath : other = path
  · subst hpath
    rw [Function.update_self]
    exact AList.lookup_erase _ tree
  · rw [Function.update_of_ne hpath]
    exact AList.lookup_erase_ne (by simpa using hpath)

variable {mkdir : Bool}

variable {after : Tree}

/-- After `ensure_directory` the directory is there and nothing else has
changed. -/
theorem lookup_ensure_directory (hok : ensure_directory mkdir tree path = (.OK, after)) (other : Path) :
    after.lookup other = if other = path then some .directory else tree.lookup other := by
  unfold ensure_directory at hok
  split at hok
  · rename_i hlookup
    cases hok
    split_ifs with hpath
    · rw [hpath, hlookup]
    · rfl
  · cases hok
  · split at hok
    · cases hok
      split_ifs with hpath
      · rw [hpath, AList.lookup_insert]
      · exact AList.lookup_insert_ne hpath
    · cases hok

theorem view_ensure_directory (hok : ensure_directory mkdir tree (store.chunks_path ++ path) = (.OK, after)) :
    store.view after = Function.update (store.view tree) path (some .directory) := by
  funext other
  rw [Store.view, lookup_ensure_directory hok, Function.update_apply]
  simp [Store.view]

theorem ensure_directory_failed {result : Result}
    (hfailed : ensure_directory mkdir tree path = (result, after)) (hresult : result ≠ .OK) : after = tree := by
  unfold ensure_directory at hfailed
  split at hfailed
  · cases hfailed
    exact absurd rfl hresult
  · cases hfailed
    rfl
  · split at hfailed
    · cases hfailed
      exact absurd rfl hresult
    · cases hfailed
      rfl

end view

variable {below : Path} {content : File} {size : UInt64}

section outcomes

variable {sha256 : List UInt8 → Bytes 32} {max_path : Nat} {store : Store} {tree after : Tree} {cid : ChunkCid}

/-- The chunk that a store keeps under a chunk id. -/
def Holds (sha256 : List UInt8 → Bytes 32) (store : Store) (tree : Tree) (cid : ChunkCid) (content : File) : Prop :=
  store.view tree (names cid.digest) = some (.file content) ∧ cid_calculate_v1 sha256 content = cid

def Stored (sha256 : List UInt8 → Bytes 32) (store : Store) (tree : Tree) (cid : ChunkCid) : Prop :=
  ∃ content, Holds sha256 store tree cid content

variable {created : Bool} {result : Result} {bytes : File}

theorem view_cleanup {unlinked : Bool} {failure : Result}
    (hcleanup : cleanup unlinked tree (store.temp_path ++ below) failure = ((result, created), after)) :
    store.view after = store.view tree ∧ result = failure := by
  cases hcleanup
  cases unlinked with
  | false => exact ⟨rfl, rfl⟩
  | true => exact ⟨view_erase_temp below, rfl⟩

variable {io : PutIo}

/-- The publication of a chunk that is not there yet: either nothing below the
directory of the chunks changes and it fails, or the chunk appears and it
fails only if it cannot be read back. -/
theorem publish_cases (hnew : store.view tree (names cid.digest) = none) (hsize : bytes.size = cid.size)
    (hdigest : sha256 bytes.val = cid.digest)
    (hpublish : publish sha256 io tree (store.temp_path ++ below)
      (store.chunks_path ++ names cid.digest) cid bytes = ((result, created), after)) :
    (store.view after = store.view tree ∧ result ≠ .OK) ∨
      (store.view after = Function.update (store.view tree) (names cid.digest) (some (.file bytes)) ∧
        (io.verify.Succeeds → result = .OK)) := by
  have hfailed : ∀ {unlinked} {written : File} {failure}, failure ≠ .OK →
      cleanup unlinked (tree.insert (store.temp_path ++ below) (.file written)) (store.temp_path ++ below) failure =
        ((result, created), after) →
      store.view after = store.view tree ∧ result ≠ .OK := by
    intro unlinked written failure hfailure hcleanup
    obtain ⟨hview, rfl⟩ := view_cleanup hcleanup
    exact ⟨hview.trans (view_insert_temp below), hfailure⟩
  unfold publish at hpublish
  split at hpublish
  · cases hpublish
    exact .inl ⟨rfl, by decide⟩
  · split at hpublish
    · exact .inl (hfailed (by decide) hpublish)
    · dsimp only at hpublish
      split at hpublish
      · exact .inl (hfailed (by decide) hpublish)
      · split at hpublish
        · -- The rename failed, so the file that it would have replaced is still missing.
          split at hpublish
          · rename_i copied hread
            obtain ⟨_, content, hfile, _⟩ := of_read_verify_range (by decide) hread
            have htemp : store.view (tree.insert (store.temp_path ++ below) (.file bytes)) = store.view tree :=
              view_insert_temp below
            have hview := congrFun htemp (names cid.digest)
            rw [hnew] at hview
            cases hview.symm.trans hfile
          · exact .inl (hfailed (by decide) hpublish)
        · have hview : store.view ((tree.insert (store.temp_path ++ below) (.file bytes)).erase
              (store.temp_path ++ below) |>.insert (store.chunks_path ++ names cid.digest) (.file bytes)) =
              Function.update (store.view tree) (names cid.digest) (some (.file bytes)) := by
            rw [view_insert, view_erase_temp, view_insert_temp]
          split at hpublish
          · cases hpublish
            exact .inr ⟨hview, fun _ => rfl⟩
          · rename_i failure copied hunread hread
            obtain ⟨hafter, rfl⟩ := view_cleanup hpublish
            refine .inr ⟨hafter.trans hview, fun hverify => ?_⟩
            rw [read_verify_range_file hverify (AList.lookup_insert _) hsize hdigest (by simp)] at hread
            exact (Prod.mk.inj hread).1.symm

/-- What a put can do. It answers `OK` only if the chunk is there afterwards, and
it changes nothing below the directory of the chunks but the chunk and its
shard. -/
theorem put_cases (hput : put_bytes_v1 sha256 max_path io store tree cid bytes = ((result, created), after)) :
    ((store.view after = store.view tree ∨
        store.view after = Function.update (store.view tree) [shard_name cid.digest] (some .directory)) ∧
      (result = .OK → cid_calculate_v1 sha256 bytes = cid ∧ Stored sha256 store tree cid)) ∨
      (cid_calculate_v1 sha256 bytes = cid ∧ bytes.size ≤ store.max_chunk_bytes ∧
        Fits max_path (store.chunks_path ++ names cid.digest) ∧ store.view tree (names cid.digest) = none ∧
        store.view after = Function.update (Function.update (store.view tree) [shard_name cid.digest]
          (some .directory)) (names cid.digest) (some (.file bytes)) ∧
        (io.verify.Succeeds → result = .OK)) := by
  unfold put_bytes_v1 at hput
  split at hput
  · cases hput
    exact .inl ⟨.inl rfl, by simp⟩
  split at hput
  · cases hput
    exact .inl ⟨.inl rfl, by simp⟩
  split at hput
  · cases hput
    exact .inl ⟨.inl rfl, by simp⟩
  split at hput
  · cases hput
    exact .inl ⟨.inl rfl, by simp⟩
  rename_i hlarge _ hcid
  rw [gt_iff_lt, UInt64.not_lt] at hlarge
  rw [not_not] at hcid
  have hsize : bytes.size = cid.size := congrArg ChunkCid.size hcid
  have hdigest : sha256 bytes.val = cid.digest := congrArg ChunkCid.digest hcid
  split at hput
  · cases hput
    exact .inl ⟨.inl rfl, by simp⟩
  · rename_i shard_path chunk_path hpaths
    obtain ⟨_, _, hfits, rfl, rfl⟩ := build_chunk_path_eq_some.mp hpaths
    split at hput
    · -- The chunk is there already, so it is only verified.
      obtain ⟨hresult, rfl⟩ := Prod.mk.inj hput
      refine .inl ⟨.inl rfl, fun hok => ⟨hcid, ?_⟩⟩
      obtain ⟨hresult, -⟩ := Prod.mk.inj hresult
      obtain ⟨_, content, hfile, hcontent, hhash, _⟩ := of_read_verify_range (by decide)
        (Prod.ext (hresult.trans hok) rfl)
      refine ⟨content, hfile, ?_⟩
      rw [← hcid, cid_calculate_v1, cid_calculate_v1, hcontent, hhash, hsize, hdigest]
    · rename_i hmissing
      split at hput
      · rename_i made hmade
        have hview := view_ensure_directory hmade
        split at hput
        · cases hput
          exact .inl ⟨.inr hview, by simp⟩
        · split at hput
          · cases hput
            exact .inl ⟨.inr hview, by simp⟩
          · rename_i temp htemp
            obtain ⟨-, rfl⟩ := join_path_eq_some.mp htemp
            have hnew : store.view made (names cid.digest) = none := by
              rw [hview, Function.update_of_ne (by simp [names])]
              exact hmissing
            obtain ⟨hsame, hfailed⟩ | ⟨hpublished, hverified⟩ := publish_cases hnew hsize hdigest hput
            · exact .inl ⟨.inr (hsame.trans hview), fun hok => absurd hok hfailed⟩
            · exact .inr ⟨hcid, hlarge, hfits, hmissing, hview ▸ hpublished, hverified⟩
      · rename_i hfailed hmade
        cases hput
        exact .inl ⟨.inl (by rw [ensure_directory_failed hmade hfailed]), fun hok => absurd hok hfailed⟩

/-- A put that answers `OK` has checked its arguments. -/
theorem put_ok_admitted
    (hput : put_bytes_v1 sha256 max_path io store tree cid bytes = ((.OK, created), after)) :
    bytes.size ≤ store.max_chunk_bytes ∧ Fits max_path (store.chunks_path ++ names cid.digest) := by
  obtain ⟨_, hput⟩ := guard_passed hput
  obtain ⟨hlarge, hput⟩ := guard_passed hput
  obtain ⟨_, hput⟩ := guard_passed hput
  obtain ⟨_, hput⟩ := guard_passed hput
  rw [gt_iff_lt, UInt64.not_lt] at hlarge
  split at hput
  · cases hput
  · rename_i hpaths
    exact ⟨hlarge, (build_chunk_path_eq_some.mp hpaths).2.2.1⟩

/-- What a deletion can do. -/
theorem delete_cases {io : DeleteIo} (hdelete : delete_v1 max_path io store tree cid = (result, after)) :
    (result ≠ .OK ∧ after = tree) ∨
      (result = .OK ∧ cid_is_valid cid = true ∧
        (∃ content, store.view tree (names cid.digest) = some (.file content) ∧ content.size = cid.size) ∧
        (store.view after = Function.update (store.view tree) (names cid.digest) none ∨
          (∀ name, Function.update (store.view tree) (names cid.digest) none [shard_name cid.digest, name] = none) ∧
            store.view after = Function.update (Function.update (store.view tree) (names cid.digest) none)
              [shard_name cid.digest] none)) := by
  unfold delete_v1 at hdelete
  split at hdelete
  · cases hdelete
    exact .inl ⟨by decide, rfl⟩
  split at hdelete
  · cases hdelete
    exact .inl ⟨by decide, rfl⟩
  · rename_i shard_path chunk_path hpaths
    obtain ⟨_, hvalid, _, rfl, rfl⟩ := build_chunk_path_eq_some.mp hpaths
    split at hdelete
    · cases hdelete
      exact .inl ⟨by decide, rfl⟩
    · rename_i content hfile
      split at hdelete
      · cases hdelete
        exact .inl ⟨by decide, rfl⟩
      split at hdelete
      · cases hdelete
        exact .inl ⟨by decide, rfl⟩
      rename_i hsize _
      rw [not_not] at hsize
      cases hdelete
      refine .inr ⟨rfl, hvalid, ⟨content, hfile, hsize⟩, ?_⟩
      split
      · rename_i hempty
        refine .inr ⟨fun name => ?_, by rw [view_erase, view_erase]⟩
        rw [← view_erase, Store.view, AList.lookup_eq_none, ← List.singleton_append, ← List.append_assoc,
          ← FileTree.mem_children, hempty.2]
        exact List.not_mem_nil
      · exact .inl view_erase
    · cases hdelete
      exact .inl ⟨by decide, rfl⟩

end outcomes

section invariant

variable {sha256 : List UInt8 → Bytes 32} {max_path : Nat} {store : Store} {P : File → Prop}
  {view : Path → Option Node}

/-- What lies below the directory of the chunks: every node of a shard is a file
whose names are the digest of its content. `P` says where the contents come
from. -/
structure Consistent (sha256 : List UInt8 → Bytes 32) (max_path : Nat) (store : Store) (P : File → Prop)
    (view : Path → Option Node) : Prop where
  root : view [] = some .directory
  chunk : ∀ {shard name node}, view [shard, name] = some node → view [shard] = some .directory ∧
    ∃ content, node = .file content ∧ [shard, name] = names (sha256 content.val) ∧
      content.size ≤ store.max_chunk_bytes ∧ Fits max_path (store.chunks_path ++ [shard, name]) ∧ P content

variable (hview : Consistent sha256 max_path store P view)

include hview

/-- A shard is written that is a directory or has no chunks. -/
theorem Consistent.set_shard {shard : Name} {node : Option Node}
    (hnode : node = some .directory ∨ ∀ name, view [shard, name] = none) :
    Consistent sha256 max_path store P (Function.update view [shard] node) where
  root := by
    exact hview.root
  chunk {other name found} hfound := by
    rw [Function.update_of_ne (by simp)] at hfound
    obtain ⟨hshard, hcontent⟩ := hview.chunk hfound
    refine ⟨?_, hcontent⟩
    by_cases hother : other = shard
    · rw [hother] at hfound ⊢
      rw [Function.update_self]
      exact hnode.resolve_right fun hempty => by simp [hempty] at hfound
    · rw [Function.update_of_ne (by simpa using hother)]
      exact hshard

theorem Consistent.add_chunk (hshard : view [shard_name (sha256 content.val)] = some .directory)
    (hsize : content.size ≤ store.max_chunk_bytes)
    (hfits : Fits max_path (store.chunks_path ++ names (sha256 content.val))) (hcontent : P content) :
    Consistent sha256 max_path store P
      (Function.update view (names (sha256 content.val)) (some (.file content))) where
  root := by
    exact hview.root
  chunk {shard name node} hnode := by
    rw [Function.update_of_ne (a := [shard]) (by simp [names])]
    by_cases hnames : [shard, name] = names (sha256 content.val)
    · rw [hnames, Function.update_self, Option.some_inj] at hnode
      obtain ⟨rfl, rfl⟩ : shard = shard_name (sha256 content.val) ∧ name = file_name (sha256 content.val) := by
        simpa [names] using hnames
      exact ⟨hshard, content, hnode.symm, rfl, hsize, hfits, hcontent⟩
    · rw [Function.update_of_ne hnames] at hnode
      exact hview.chunk hnode

theorem Consistent.remove_chunk (digest : Bytes 32) :
    Consistent sha256 max_path store P (Function.update view (names digest) none) where
  root := by
    exact hview.root
  chunk {shard name node} hnode := by
    rw [Function.update_of_ne (a := [shard]) (by simp [names])]
    by_cases hnames : [shard, name] = names digest
    · rw [hnames, Function.update_self] at hnode
      cases hnode
    · rw [Function.update_of_ne hnames] at hnode
      exact hview.chunk hnode

end invariant

section operations

variable (sha256 : List UInt8 → Bytes 32) (max_path : Nat) (store : Store)

/-- The calls on an open store, each with the outcomes of its system calls. -/
inductive Operation where
  | put (io : PutIo) (cid : ChunkCid) (bytes : File)
  | read_range (io : ReadIo) (cid : ChunkCid) (offset length : UInt64)
  | delete (io : DeleteIo) (cid : ChunkCid)

def Operation.result (tree : Tree) : Operation → Result
  | .put io cid bytes => (put_bytes_v1 sha256 max_path io store tree cid bytes).1.1
  | .read_range io cid offset length => (read_range_v1 sha256 max_path io store tree cid offset length).1
  | .delete io cid => (delete_v1 max_path io store tree cid).1

def Operation.after (tree : Tree) : Operation → Tree
  | .put io cid bytes => (put_bytes_v1 sha256 max_path io store tree cid bytes).2
  | .read_range _ _ _ _ => tree
  | .delete io cid => (delete_v1 max_path io store tree cid).2

def reached (tree : Tree) (operations : List Operation) : Tree :=
  Machine.run (Operation.after sha256 max_path store) tree operations

/-- The calls of a run with their results. -/
def history (tree : Tree) : List Operation → List (Operation × Result)
  | [] => []
  | operation :: rest =>
    (operation, operation.result sha256 max_path store tree) ::
      history (operation.after sha256 max_path store tree) rest

def contents (operations : List Operation) : List File :=
  operations.filterMap fun
    | .put _ _ bytes => some bytes
    | _ => none

theorem mem_contents {operations : List Operation} :
    content ∈ contents operations ↔ ∃ io cid, .put io cid content ∈ operations := by
  simp only [contents, List.mem_filterMap]
  constructor
  · rintro ⟨operation, hmem, hcontent⟩
    cases operation with
    | put io cid bytes =>
      obtain rfl : bytes = content := by simpa using hcontent
      exact ⟨io, cid, hmem⟩
    | _ => cases hcontent
  · rintro ⟨io, cid, hmem⟩
    exact ⟨_, hmem, rfl⟩

theorem history_concat (tree : Tree) (operations : List Operation) (operation : Operation) :
    history sha256 max_path store tree (operations ++ [operation]) =
      history sha256 max_path store tree operations ++
        [(operation, operation.result sha256 max_path store (reached sha256 max_path store tree operations))] := by
  induction operations generalizing tree with
  | nil => rfl
  | cons first operations ih => exact congrArg (List.cons _) (ih _)

theorem map_fst_history (tree : Tree) (operations : List Operation) :
    (history sha256 max_path store tree operations).map Prod.fst = operations := by
  induction operations generalizing tree with
  | nil => rfl
  | cons operation operations ih => exact congrArg (List.cons operation) (ih _)

/-- The calls say that a chunk is there: it was put with `OK` and not deleted with
`OK` since. -/
def Kept (log : List (Operation × Result)) (cid : ChunkCid) (bytes : File) : Prop :=
  ∃ before io after, log = before ++ (.put io cid bytes, .OK) :: after ∧ ∀ io, (.delete io cid, .OK) ∉ after

theorem kept_concat {log : List (Operation × Result)} {entry : Operation × Result} {cid : ChunkCid} {bytes : File} :
    Kept (log ++ [entry]) cid bytes ↔ (∃ io, entry = (.put io cid bytes, .OK)) ∨
      Kept log cid bytes ∧ ∀ io, entry ≠ (.delete io cid, .OK) := by
  constructor
  · rintro ⟨before, io, after, hlog, hkept⟩
    rcases List.eq_nil_or_concat' after with rfl | ⟨front, last, rfl⟩
    · exact .inl ⟨io, (List.append_inj' hlog rfl).2 |> List.cons.inj |>.1⟩
    · rw [← List.cons_append, ← List.append_assoc] at hlog
      obtain ⟨rfl, hlast⟩ := List.append_inj' hlog rfl
      obtain rfl : entry = last := (List.cons.inj hlast).1
      refine .inr ⟨⟨before, io, front, rfl, fun io hmem => hkept io (List.mem_append_left _ hmem)⟩, fun io heq => ?_⟩
      exact hkept io (heq ▸ List.mem_append_right _ (List.mem_singleton_self _))
  · rintro (⟨io, rfl⟩ | ⟨⟨before, io, after, rfl, hkept⟩, hentry⟩)
    · exact ⟨log, io, [], rfl, by simp⟩
    · refine ⟨before, io, after ++ [entry], by simp, fun io hmem => ?_⟩
      rcases List.mem_append.mp hmem with hafter | hlast
      · exact hkept io hafter
      · exact hentry io (List.mem_singleton.mp hlast).symm

end operations

section steps

variable {sha256 : List UInt8 → Bytes 32} {max_path : Nat} {store : Store} {P : File → Prop} {tree : Tree}
  {operation : Operation} {cid : ChunkCid}

theorem names_ne_shard (digest : Bytes 32) (shard : Name) : names digest ≠ [shard] := by
  simp [names]

theorem cid_eq_of_content {other : ChunkCid} (hcid : cid_calculate_v1 sha256 content = cid)
    (hvalid : cid_is_valid other = true) (hsize : content.size = other.size)
    (hdigest : cid.digest = other.digest) :
    cid = other := by
  subst hcid
  obtain ⟨algorithm, size, digest⟩ := other
  obtain rfl : algorithm = HASH_ALGORITHM_SHA256 := by simpa [cid_is_valid] using hvalid
  simp only [cid_calculate_v1] at *
  rw [hsize, hdigest]

theorem consistent_after (htree : Consistent sha256 max_path store P (store.view tree))
    (hputs : ∀ io cid bytes, operation = .put io cid bytes → P bytes) :
    Consistent sha256 max_path store P (store.view (operation.after sha256 max_path store tree)) := by
  cases operation with
  | read_range io cid offset length => exact htree
  | put io cid bytes =>
    rw [Operation.after]
    rcases hput : put_bytes_v1 sha256 max_path io store tree cid bytes with ⟨⟨result, created⟩, after⟩
    obtain ⟨hsame | hmade, _⟩ | ⟨rfl, hsize, hfits, _, hpublished, _⟩ := put_cases hput
    · exact hsame ▸ htree
    · exact hmade ▸ htree.set_shard (.inl rfl)
    · exact hpublished ▸ (htree.set_shard (.inl rfl)).add_chunk (Function.update_self _ _ _) hsize hfits (hputs io _ bytes rfl)
  | delete io cid =>
    rw [Operation.after]
    rcases hdelete : delete_v1 max_path io store tree cid with ⟨result, after⟩
    obtain ⟨_, rfl⟩ | ⟨_, _, _, hremoved | ⟨hempty, hremoved⟩⟩ := delete_cases hdelete
    · exact htree
    · exact hremoved ▸ htree.remove_chunk _
    · exact hremoved ▸ (htree.remove_chunk _).set_shard (.inr hempty)

/-- A chunk stays there until it is deleted. -/
theorem holds_after (hholds : Holds sha256 store tree cid content)
    (hkept : ∀ io, (operation, operation.result sha256 max_path store tree) ≠ (.delete io cid, .OK)) :
    Holds sha256 store (operation.after sha256 max_path store tree) cid content := by
  obtain ⟨hfile, hcid⟩ := hholds
  refine ⟨?_, hcid⟩
  cases operation with
  | read_range io other offset length => exact hfile
  | put io other bytes =>
    rw [Operation.after]
    rcases hput : put_bytes_v1 sha256 max_path io store tree other bytes with ⟨⟨result, created⟩, after⟩
    obtain ⟨hsame | hmade, _⟩ | ⟨_, _, _, hmissing, hpublished, _⟩ := put_cases hput
    · rw [hsame, hfile]
    · rw [hmade, Function.update_of_ne (names_ne_shard _ _), hfile]
    · have hother : names cid.digest ≠ names other.digest := by
        intro heq
        rw [← heq, hfile] at hmissing
        cases hmissing
      rw [hpublished, Function.update_of_ne hother, Function.update_of_ne (names_ne_shard _ _), hfile]
  | delete io other =>
    rw [Operation.after]
    rcases hdelete : delete_v1 max_path io store tree other with ⟨result, after⟩
    obtain ⟨_, rfl⟩ | ⟨hok, hvalid, ⟨deleted, hdeleted, hsize⟩, hremoved⟩ := delete_cases hdelete
    · exact hfile
    · have hother : names cid.digest ≠ names other.digest := by
        intro heq
        rw [← heq, hfile] at hdeleted
        cases hdeleted
        have hcids : cid = other := cid_eq_of_content hcid hvalid hsize (names_injective heq)
        refine hkept io (Prod.ext (by rw [hcids]) ?_)
        rw [Operation.result, hdelete]
        exact hok
      obtain hremoved | ⟨_, hremoved⟩ := hremoved
      · rw [hremoved, Function.update_of_ne hother, hfile]
      · rw [hremoved, Function.update_of_ne (names_ne_shard _ _), Function.update_of_ne hother, hfile]

/-- A put that answers `OK` leaves its chunk there. -/
theorem stored_after_put {io : PutIo} {bytes : File}
    (hok : (Operation.put io cid bytes).result sha256 max_path store tree = .OK) :
    cid_calculate_v1 sha256 bytes = cid ∧
      Stored sha256 store ((Operation.put io cid bytes).after sha256 max_path store tree) cid := by
  rw [Operation.result] at hok
  rw [Operation.after]
  rcases hput : put_bytes_v1 sha256 max_path io store tree cid bytes with ⟨⟨result, created⟩, after⟩
  rw [hput] at hok
  obtain ⟨hview, hstored⟩ | ⟨hcid, _, _, _, hpublished, _⟩ := put_cases hput
  · obtain ⟨hcid, content, hfile, hcontent⟩ := hstored hok
    refine ⟨hcid, content, ?_, hcontent⟩
    obtain hsame | hmade := hview
    · rw [hsame, hfile]
    · rw [hmade, Function.update_of_ne (names_ne_shard _ _), hfile]
  · exact ⟨hcid, bytes, by rw [hpublished, Function.update_self], hcid⟩

/-- What is there after a call was there before and has not been deleted, or the
call put it there. -/
theorem stored_of_after (hstored : Stored sha256 store (operation.after sha256 max_path store tree) cid) :
    (Stored sha256 store tree cid ∧
      ∀ io, (operation, operation.result sha256 max_path store tree) ≠ (.delete io cid, .OK)) ∨
      ∃ io bytes, operation = .put io cid bytes ∧
        (io.verify.Succeeds → operation.result sha256 max_path store tree = .OK) := by
  obtain ⟨content, hfile, hcid⟩ := hstored
  cases operation with
  | read_range io other offset length => exact .inl ⟨⟨content, hfile, hcid⟩, by simp⟩
  | put io other bytes =>
    rw [Operation.after] at hfile
    rw [Operation.result]
    rcases hput : put_bytes_v1 sha256 max_path io store tree other bytes with ⟨⟨result, created⟩, after⟩
    rw [hput] at hfile
    obtain ⟨hsame | hmade, _⟩ | ⟨hother, _, _, _, hpublished, hverified⟩ := put_cases hput
    · exact .inl ⟨⟨content, hsame ▸ hfile, hcid⟩, by simp⟩
    · rw [hmade, Function.update_of_ne (names_ne_shard _ _)] at hfile
      exact .inl ⟨⟨content, hfile, hcid⟩, by simp⟩
    · rw [hpublished] at hfile
      by_cases heq : names cid.digest = names other.digest
      · rw [heq, Function.update_self] at hfile
        cases hfile
        obtain rfl : cid = other := hcid.symm.trans hother
        exact .inr ⟨io, content, rfl, hverified⟩
      · rw [Function.update_of_ne heq, Function.update_of_ne (names_ne_shard _ _)] at hfile
        exact .inl ⟨⟨content, hfile, hcid⟩, by simp⟩
  | delete io other =>
    rw [Operation.after] at hfile
    rw [Operation.result]
    rcases hdelete : delete_v1 max_path io store tree other with ⟨result, after⟩
    rw [hdelete] at hfile
    obtain ⟨hfailed, rfl⟩ | ⟨_, _, _, hremoved⟩ := delete_cases hdelete
    · refine .inl ⟨⟨content, hfile, hcid⟩, fun io' heq => hfailed (Prod.mk.inj heq).2⟩
    · have hfile : Function.update (store.view tree) (names other.digest) none (names cid.digest) =
          some (.file content) := by
        obtain hremoved | ⟨_, hremoved⟩ := hremoved
        · rw [← hremoved, hfile]
        · rw [← hfile, hremoved, Function.update_of_ne (names_ne_shard _ _)]
      have hother : names cid.digest ≠ names other.digest := by
        intro heq
        rw [heq, Function.update_self] at hfile
        cases hfile
      rw [Function.update_of_ne hother] at hfile
      refine .inl ⟨⟨content, hfile, hcid⟩, fun io' heq => hother ?_⟩
      cases heq
      rfl

end steps

section opening

variable {sha256 : List UInt8 → Bytes 32} {max_path : Nat} {P : File → Prop} {tree after : Tree} {io : OpenIo}

theorem lookup_ensure_directories {paths : List Path}
    (hok : ensure_directories max_path io paths tree = (.OK, after)) (other : Path) :
    after.lookup other = if other ∈ paths then some .directory else tree.lookup other := by
  induction paths generalizing tree with
  | nil =>
    cases hok
    simp
  | cons path paths ih =>
    obtain ⟨_, hok⟩ := guard_passed hok
    split at hok
    · rename_i made hmade
      rw [ih hok, lookup_ensure_directory hmade]
      split_ifs <;> grind
    · rename_i hfailed
      exact absurd hok (hfailed after)

/-- Nothing lies below the directory of the chunks. -/
def Vacant (store : Store) (tree : Tree) : Prop := ∀ path, path ≠ [] → store.chunks_path ++ path ∉ tree

theorem lock_path_ne (store : Store) (path : Path) : store.chunks_path ++ path ≠ store.lock_path := by
  have hnames : ascii "chunks" ≠ ascii ".store.lock" := by decide
  simp [Store.chunks_path, Store.lock_path, hnames]

variable {root : Path} {max_chunk_bytes : UInt64} {store : Store}
  (hopen : open_v1 max_path io tree root max_chunk_bytes = ((.OK, after), some store))

include hopen

/-- A store that is opened over a directory without chunks is empty. -/
theorem view_open (hvacant : Vacant store tree) :
    store.is_open = true ∧ store.view after [] = some .directory ∧
      ∀ shard name, store.view after [shard, name] = none := by
  unfold open_v1 at hopen
  dsimp only at hopen
  obtain ⟨_, hopen⟩ := guard_passed hopen
  split at hopen
  · rename_i made hmade
    iterate 3 obtain ⟨_, hopen⟩ := guard_passed hopen
    simp only [Prod.mk.injEq, true_and, Option.some_inj] at hopen
    obtain ⟨hafter, hstore⟩ := hopen
    have hroot : root = store.root := hstore ▸ rfl
    rw [hstore, hroot] at hmade
    rw [hstore] at hafter
    have hview : ∀ path, store.view after path = made.lookup (store.chunks_path ++ path) := by
      intro path
      rw [← hafter, Store.view]
      split_ifs
      · rfl
      · exact AList.lookup_insert_ne (lock_path_ne store path)
    refine ⟨hstore ▸ rfl, ?_, ?_⟩
    · rw [hview, lookup_ensure_directories hmade]
      simp
    · intro shard name
      have hdeep : store.chunks_path ++ [shard, name] ∉
          [store.root, store.layout_path, store.chunks_path, store.temp_path] := by
        simp [Store.chunks_path, Store.temp_path, Store.layout_path]
      rw [hview, lookup_ensure_directories hmade, if_neg hdeep, AList.lookup_eq_none]
      exact hvacant _ (by simp)
  · exact nomatch (Prod.mk.inj hopen).2

theorem consistent_open (hvacant : Vacant store tree) :
    Consistent sha256 max_path store P (store.view after) where
  root := (view_open hopen hvacant).2.1
  chunk {shard name node} hnode := by
    rw [(view_open hopen hvacant).2.2] at hnode
    cases hnode

end opening

section runs

variable {sha256 : List UInt8 → Bytes 32} {max_path : Nat} {store : Store} {P : File → Prop} {tree : Tree}
  {cid : ChunkCid} {operations : List Operation}

/-- All that a run leaves in the store comes from its puts. -/
theorem consistent_reached (htree : ∀ P, Consistent sha256 max_path store P (store.view tree))
    (operations : List Operation) :
    Consistent sha256 max_path store (· ∈ contents operations)
      (store.view (reached sha256 max_path store tree operations)) := by
  refine Machine.run_invariant_of_mem (P := fun tree =>
    Consistent sha256 max_path store (· ∈ contents operations) (store.view tree)) (htree _) ?_
  intro tree operation hmem htree
  refine consistent_after htree ?_
  rintro io cid bytes rfl
  exact mem_contents.mpr ⟨io, cid, hmem⟩

theorem reached_concat (operations : List Operation) (operation : Operation) :
    reached sha256 max_path store tree (operations ++ [operation]) =
      operation.after sha256 max_path store (reached sha256 max_path store tree operations) :=
  Machine.run_append _ _ _ _

section

variable {bytes : File} (hkept : Kept (history sha256 max_path store tree operations) cid bytes)

include hkept

theorem mem_contents_of_kept : bytes ∈ contents operations := by
  obtain ⟨before, io, after, hlog, _⟩ := hkept
  have hmem : (Operation.put io cid bytes, Result.OK) ∈ history sha256 max_path store tree operations := by
    rw [hlog]
    exact List.mem_append_right _ List.mem_cons_self
  rw [mem_contents, ← map_fst_history sha256 max_path store tree operations]
  exact ⟨io, cid, List.mem_map_of_mem hmem⟩

/-- A chunk that was put with `OK` is there until it is deleted. -/
theorem stored_of_kept :
    cid_calculate_v1 sha256 bytes = cid ∧ Stored sha256 store (reached sha256 max_path store tree operations) cid := by
  induction operations using List.reverseRecOn with
  | nil =>
    obtain ⟨before, io, after, hlog, _⟩ := hkept
    simp [history] at hlog
  | append_singleton operations operation ih =>
    rw [history_concat, kept_concat] at hkept
    rw [reached_concat]
    obtain ⟨io, hput⟩ | ⟨hkept, hlast⟩ := hkept
    · obtain ⟨rfl, hok⟩ := Prod.mk.inj hput
      exact stored_after_put hok
    · obtain ⟨hcid, content, hholds⟩ := ih hkept
      exact ⟨hcid, content, holds_after hholds hlast⟩

end

/-- Unless a put fails to read its chunk back, a chunk is there only if a put of
it was answered `OK`. -/
theorem kept_of_stored (hvacant : ∀ shard name, store.view tree [shard, name] = none)
    (hverify : ∀ io cid bytes, .put io cid bytes ∈ operations → io.verify.Succeeds)
    (hstored : Stored sha256 store (reached sha256 max_path store tree operations) cid) :
    ∃ bytes, Kept (history sha256 max_path store tree operations) cid bytes := by
  induction operations using List.reverseRecOn with
  | nil =>
    obtain ⟨content, hfile, _⟩ := hstored
    cases (hvacant _ _).symm.trans hfile
  | append_singleton operations operation ih =>
    rw [reached_concat] at hstored
    rw [history_concat]
    obtain ⟨hbefore, hlast⟩ | ⟨io, bytes, rfl, hok⟩ := stored_of_after hstored
    · obtain ⟨bytes, hkept⟩ := ih (fun io cid bytes hmem => hverify io cid bytes (List.mem_append_left _ hmem)) hbefore
      exact ⟨bytes, kept_concat.mpr (.inr ⟨hkept, hlast⟩)⟩
    · have hsucceeds := hverify io cid bytes (List.mem_append_right _ (List.mem_singleton_self _))
      exact ⟨bytes, kept_concat.mpr (.inl ⟨io, by rw [hok hsucceeds]⟩)⟩

end runs

section reading

variable {sha256 : List UInt8 → Bytes 32} {max_path : Nat} {store : Store} {P : File → Prop} {tree : Tree}
  {cid : ChunkCid} {io : ReadIo} {offset length : UInt64}

theorem inside_of_not_gt (hoffset : ¬ offset > size) (hlength : ¬ length > size - offset) :
    offset.toNat + length.toNat ≤ size.toNat := by
  rw [gt_iff_lt, UInt64.not_lt] at hoffset hlength
  have hsub := UInt64.toNat_sub_of_le _ _ hoffset
  rw [UInt64.le_iff_toNat_le] at hoffset hlength
  omega

theorem not_gt_of_inside (hinside : offset.toNat + length.toNat ≤ size.toNat) :
    ¬ offset > size ∧ ¬ length > size - offset := by
  have hoffset : offset ≤ size := by
    rw [UInt64.le_iff_toNat_le]
    omega
  have hsub := UInt64.toNat_sub_of_le _ _ hoffset
  rw [gt_iff_lt, UInt64.not_lt, gt_iff_lt, UInt64.not_lt]
  refine ⟨hoffset, ?_⟩
  rw [UInt64.le_iff_toNat_le]
  omega

/-- What a read answers with `OK` is the window of a content that has the size
and the digest of the chunk id. -/
theorem of_read_range (htree : Consistent sha256 max_path store P (store.view tree)) {bytes : List UInt8}
    (hread : read_range_v1 sha256 max_path io store tree cid offset length = (.OK, bytes)) :
    ∃ content, P content ∧ cid_calculate_v1 sha256 content = cid ∧
      bytes = window offset.toNat length.toNat content.val ∧ bytes.length = length.toNat := by
  obtain ⟨hguard, hread⟩ := guard_passed hread
  simp only [not_or] at hguard
  obtain ⟨_, hvalid, _, hoffset, hlength⟩ := hguard
  have hinside := inside_of_not_gt hoffset hlength
  split at hread
  · cases hread
  · rename_i chunk_path hpaths
    obtain ⟨_, hvalid, _, rfl, rfl⟩ := build_chunk_path_eq_some.mp hpaths
    have hrange : offset.toNat + length.toNat < 2 ^ 64 := Nat.lt_of_le_of_lt hinside cid.size.toNat_lt
    obtain ⟨_, content, hfile, hsize, hdigest, hbytes⟩ := of_read_verify_range hrange hread
    obtain ⟨_, stored, hstored, _, _, _, hcontent⟩ := htree.chunk hfile
    cases hstored
    refine ⟨content, hcontent, cid_eq_of_content rfl hvalid hsize hdigest, hbytes, ?_⟩
    rw [← hsize, File.size_toNat] at hinside
    rw [hbytes, Window.length_window]
    omega

/-- Every window of a chunk that is there can be read. -/
theorem read_range_held (hopen : store.is_open = true) (hholds : Holds sha256 store tree cid content)
    (hsize : cid.size ≤ store.max_chunk_bytes) (hfits : Fits max_path (store.chunks_path ++ names cid.digest))
    (hio : io.Succeeds) (hinside : offset.toNat + length.toNat ≤ cid.size.toNat) :
    read_range_v1 sha256 max_path io store tree cid offset length =
      (.OK, window offset.toNat length.toNat content.val) := by
  obtain ⟨hfile, rfl⟩ := hholds
  obtain ⟨hoffset, hlength⟩ := not_gt_of_inside hinside
  have hsmall : ¬ (cid_calculate_v1 sha256 content).size > store.max_chunk_bytes := by
    rw [gt_iff_lt, UInt64.not_lt]
    exact hsize
  have hvalid : cid_is_valid (cid_calculate_v1 sha256 content) = true := rfl
  unfold read_range_v1
  rw [if_neg (by simp only [hopen, hvalid, hsmall, hoffset, hlength]; simp),
    build_chunk_path_eq_some.mpr ⟨hopen, hvalid, hfits, rfl, rfl⟩]
  exact read_verify_range_file hio hfile rfl rfl hinside

theorem Consistent.read_range (htree : Consistent sha256 max_path store P (store.view tree))
    (hopen : store.is_open = true) (hholds : Holds sha256 store tree cid content) (hio : io.Succeeds)
    (hinside : offset.toNat + length.toNat ≤ cid.size.toNat) :
    read_range_v1 sha256 max_path io store tree cid offset length =
      (.OK, window offset.toNat length.toNat content.val) := by
  obtain ⟨_, stored, hstored, _, hsize, hfits, _⟩ := htree.chunk hholds.1
  cases hstored
  have hsize : cid.size ≤ store.max_chunk_bytes := hholds.2 ▸ hsize
  exact read_range_held hopen hholds hsize hfits hio hinside

end reading

end turbop2p.m3_chunk_store
