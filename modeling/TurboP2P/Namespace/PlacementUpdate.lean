import TurboP2P.Namespace.History

open turbop2p.m3_object_manifest

namespace turbop2p.m3_namespace_local_store

variable {manifest : ManifestV2}

section frame

variable {sha256 : List UInt8 → Bytes 32} {store after : Store} {entry : Entry}

variable {key : Key}

section

variable (hwritten : Written store entry after)

include hwritten

theorem Written.decode_manifest_eq (bytes : List UInt8) :
    decode_manifest sha256 after bytes = decode_manifest sha256 store bytes := by
  cases hwritten <;> rfl

theorem Written.object_self (hlive : entry.tombstoned = false)
    (hdecode : decode_manifest sha256 store entry.manifest_bytes = .ok manifest) :
    object sha256 after entry.key = some manifest := by
  obtain ⟨slot, hfind⟩ := hwritten.find_self
  exact object_eq_some hfind hlive ((hwritten.decode_manifest_eq _).trans hdecode)

theorem Written.object_other (hkey : key ≠ entry.key) :
    object sha256 after key = object sha256 store key := by
  simp [object, hwritten.find_other hkey, hwritten.decode_manifest_eq]

end

/-- A call leaves every object alone that it does not name. -/
theorem execute_object_other {operation : Operation} (hkey : key ≠ operation.key) :
    object sha256 (operation.execute sha256 store).2 key = object sha256 store key := by
  by_cases hok : (operation.execute sha256 store).1 = .OK
  swap
  · rw [execute_refused hok]
  have hpair : operation.execute sha256 store = (.OK, (operation.execute sha256 store).2) := Prod.ext hok rfl
  obtain ⟨index, _, ⟨_, hafter⟩ | ⟨tombstoned, bytes, hwritten, _⟩⟩ := execute_ok hpair
  · rw [hafter]
    rfl
  · exact hwritten.object_other hkey

theorem object_cid_valid (hobject : object sha256 store key = some manifest) :
    cid_is_valid manifest.object_cid = true := by
  unfold object at hobject
  cases hfind : find_entry store key with
  | none => simp [hfind] at hobject
  | some found =>
    simp only [hfind] at hobject
    split at hobject
    · simp at hobject
    · cases hdecode : decode_manifest sha256 store found.2.manifest_bytes with
      | error result => simp [hdecode, Except.toOption] at hobject
      | ok decoded =>
        simp only [hdecode, Except.toOption, Option.some.injEq] at hobject
        subst hobject
        have hcontent := (validate_v2_ok_iff.mp (decode_v2_valid hdecode)).2.1
        simp only [content_valid, decide_eq_true_eq] at hcontent
        exact hcontent.1

/-- Valid ids that agree in what a placement update compares are equal. -/
theorem cid_eq {left right : ChunkCid} (hleft : cid_is_valid left = true) (hright : cid_is_valid right = true)
    (hsize : left.size = right.size) (hdigest : left.digest = right.digest) : left = right := by
  simp only [cid_is_valid, decide_eq_true_eq] at hleft hright
  cases left
  cases right
  simp_all

end frame

section update

variable {sha256 : List UInt8 → Bytes 32} {store after : Store} {malloc : Bool} {committed_index : UInt64} {key : Key}
  {manifest_bytes : List UInt8}
  (hok : apply_update_placement_v1 sha256 malloc store committed_index key manifest_bytes = (.OK, after))

include hok

/-- The object keeps its id under a placement update and has the incoming
manifest afterwards. -/
theorem update_placement_object :
    ∃ stored incoming, object sha256 store key = some stored ∧
      decode_manifest sha256 store manifest_bytes = .ok incoming ∧ object sha256 after key = some incoming ∧
      incoming.object_cid = stored.object_cid := by
  obtain ⟨_, _, ⟨incoming, stored, hincoming, hstored, hsize, hdigest⟩, hwritten⟩ := update_placement_ok hok
  have hobject : object sha256 after key = some incoming := hwritten.object_self rfl hincoming
  exact ⟨stored, incoming, hstored, hincoming, hobject,
    cid_eq (object_cid_valid hobject) (object_cid_valid hstored) hsize hdigest⟩

/-- All that a placement update touches is the manifest and the index of one
entry and the index of the store. -/
theorem update_placement_store :
    ∃ slot entry, store.entries.Holds slot entry ∧ entry.key = key ∧ entry.tombstoned = false ∧
      after =
        { store with
          entries := store.entries.set slot (some
            { entry with manifest_bytes := manifest_bytes, committed_index := committed_index })
          applied_index := committed_index } := by
  obtain ⟨_, _, ⟨_, stored, _, hstored, _⟩, hwritten⟩ := update_placement_ok hok
  unfold object at hstored
  cases hwritten with
  | inserted slot hfree hfresh =>
    rw [Key.entry_key] at hfresh
    simp [hfresh] at hstored
  | replaced slot entry hfind =>
    rw [Key.entry_key] at hfind
    obtain ⟨hholds, rfl⟩ := find_entry_eq_some hfind
    simp only [hfind] at hstored
    have hlive : entry.tombstoned = false := by
      by_contra htombstoned
      simp [htombstoned] at hstored
    refine ⟨slot, entry, hholds, rfl, hlive, ?_⟩
    simp [Key.entry, Entry.key, hlive]

end update

section history

variable (sha256 : List UInt8 → Bytes 32)

/-- Only a put or a deletion of an object changes its chunk list or its
existence. -/
def ChunksKept (store : Store) (operation : Operation) : Prop :=
  ∀ key, contents sha256 (operation.execute sha256 store).2 key ≠ contents sha256 store key →
    (operation.execute sha256 store).1 = .OK ∧ operation.is_update = false ∧ operation.key = key

/-- A placement update that succeeds brings the chunk list that is stored. -/
def CarriesChunks (store : Store) : Operation → Prop
  | .update_placement malloc committed_index key manifest_bytes =>
    (apply_update_placement_v1 sha256 malloc store committed_index key manifest_bytes).1 = .OK →
      ∀ stored incoming, object sha256 store key = some stored →
        decode_manifest sha256 store manifest_bytes = .ok incoming → incoming.chunks = stored.chunks
  | _ => True

variable {sha256}

theorem chunksKept_iff (store : Store) (operation : Operation) :
    ChunksKept sha256 store operation ↔ CarriesChunks sha256 store operation := by
  by_cases hok : (operation.execute sha256 store).1 = .OK
  swap
  · have hkept : ChunksKept sha256 store operation := by
      intro key hchanged
      rw [execute_refused hok] at hchanged
      exact absurd rfl hchanged
    refine iff_of_true hkept ?_
    cases operation with
    | update_placement malloc index key bytes => exact fun hupdate => absurd hupdate hok
    | _ => trivial
  have hother : ∀ key, contents sha256 (operation.execute sha256 store).2 key ≠ contents sha256 store key →
      operation.key = key := by
    intro key hchanged
    by_contra hkey
    exact hchanged (congrArg _ (execute_object_other (Ne.symm hkey)))
  cases operation with
  | put malloc index key bytes => exact iff_of_true (fun other hchanged => ⟨hok, rfl, hother other hchanged⟩) trivial
  | tombstone index key => exact iff_of_true (fun other hchanged => ⟨hok, rfl, hother other hchanged⟩) trivial
  | update_placement malloc index key bytes =>
    have hpair : apply_update_placement_v1 sha256 malloc store index key bytes =
      (.OK, (Operation.execute sha256 store (.update_placement malloc index key bytes)).2) := Prod.ext hok rfl
    obtain ⟨stored, incoming, hstored, hincoming, hafter, hcid⟩ := update_placement_object hpair
    constructor
    · intro hkept _ stored' incoming' hstored' hincoming'
      obtain rfl := Option.some.inj (hstored.symm.trans hstored')
      obtain rfl := Except.ok.inj (hincoming.symm.trans hincoming')
      by_contra hchunks
      have hchanged := hkept key (by simp [contents, hafter, hstored, hchunks])
      simp [Operation.is_update] at hchanged
    · intro hcarries other hchanged
      obtain rfl : key = other := hother other hchanged
      have hchunks := hcarries hok stored incoming hstored hincoming
      exact absurd (by simp [contents, hafter, hstored, hcid, hchunks]) hchanged

/-- A placement update that fails changes nothing; one that succeeds rewrites
the entry of its object and keeps the object id. It is the only call besides
put and deletion that can change a chunk list, and does so exactly if the
incoming manifest has another one than the stored manifest. -/
theorem update_placement_frame (sha256 : List UInt8 → Bytes 32) (config : Config) (operations : List Operation) :
    (∀ malloc committed_index key manifest_bytes, let store := reached sha256 config operations
      let outcome := apply_update_placement_v1 sha256 malloc store committed_index key manifest_bytes
      (outcome.1 ≠ .OK → outcome.2 = store) ∧
        (outcome.1 = .OK →
          (∃ slot entry, store.entries.Holds slot entry ∧ entry.key = key ∧ entry.tombstoned = false ∧
            outcome.2 =
              { store with
                entries := store.entries.set slot (some
                  { entry with manifest_bytes := manifest_bytes, committed_index := committed_index })
                applied_index := committed_index }) ∧
          ∃ stored updated, object sha256 store key = some stored ∧ object sha256 outcome.2 key = some updated ∧
            updated.object_cid = stored.object_cid)) ∧
      (Log.Throughout (Operation.execute sha256) (ChunksKept sha256) config.fresh operations ↔
        Log.Throughout (Operation.execute sha256) (CarriesChunks sha256) config.fresh operations) := by
  refine ⟨fun malloc index key bytes => ⟨fun hrefused => ?_, fun hok => ⟨?_, ?_⟩⟩, ?_⟩
  · exact execute_refused
      (show (Operation.execute sha256 _ (.update_placement malloc index key bytes)).1 ≠ .OK from hrefused)
  · exact update_placement_store (Prod.ext hok rfl)
  · obtain ⟨stored, updated, hstored, _, hupdated, hcid⟩ := update_placement_object (Prod.ext hok rfl)
    exact ⟨stored, updated, hstored, hupdated, hcid⟩
  · exact Log.throughout_congr (fun _ _ => True) (fun store operation _ _ => chunksKept_iff store operation)
      (fun _ _ _ _ _ => trivial) trivial

end history

section replaced_chunks

def sized_cid (size : UInt64) : ChunkCid :=
  { hash_algorithm := HASH_ALGORITHM_SHA256, size, digest := List.Vector.replicate 32 1 }

/-- An object of two bytes in the given chunks, without placements. -/
def two_bytes (chunks : List ChunkCid) : ManifestV2 :=
  { version := VERSION_2, object_cid := sized_cid 2, chunks, placements := [] }

variable (sha256 : List UInt8 → Bytes 32)

theorem decode_two_bytes {store : Store} {chunks : List ChunkCid} (hobject : store.max_object_bytes = 1024)
    (hchunks : store.max_chunks = 4) (hvalid : validate_v2 (two_bytes chunks) 1024 4 32 = .OK)
    (hsize : encoded_size_v2 chunks.length 0 ≠ 0) :
    decode_manifest sha256 store (sealed_frame_v2 sha256 (two_bytes chunks)) = .ok (two_bytes chunks) := by
  have hlimit : max_placements store = 32 := by
    rw [max_placements, hchunks]
    rfl
  rw [decode_manifest, hobject, hchunks, hlimit]
  exact decode_frame_v2 hvalid hsize (by simp [two_bytes]) rfl (envelope_digest_frame_v2 _ _ sha256)

theorem length_two_bytes (chunks : List ChunkCid) :
    (sealed_frame_v2 sha256 (two_bytes chunks)).length = 128 + chunks.length * 48 :=
  length_frame_v2 (two_bytes chunks) _

/-- The two bytes are stored as two chunks, and a placement update of the same
object replaces them by one chunk. -/
theorem update_placement_replaces_chunks :
    two_bytes [sized_cid 1, sized_cid 1] ≠ two_bytes [sized_cid 2] ∧
      ∀ sha256 : List UInt8 → Bytes 32,
        let store := reached sha256 small_config
          [.put true 1 small_key (sealed_frame_v2 sha256 (two_bytes [sized_cid 1, sized_cid 1]))]
        let outcome := apply_update_placement_v1 sha256 true store 2 small_key
          (sealed_frame_v2 sha256 (two_bytes [sized_cid 2]))
        outcome.1 = .OK ∧
          contents sha256 store small_key = some (sized_cid 2, [sized_cid 1, sized_cid 1]) ∧
          contents sha256 outcome.2 small_key = some (sized_cid 2, [sized_cid 2]) := by
  refine ⟨by decide +kernel, fun sha256 => ?_⟩
  have hfirst := length_two_bytes sha256 [sized_cid 1, sized_cid 1]
  have hsecond := length_two_bytes sha256 [sized_cid 2]
  have hstored : ∀ bytes index, decode_manifest sha256 (small_store bytes index)
      (sealed_frame_v2 sha256 (two_bytes [sized_cid 1, sized_cid 1])) = .ok (two_bytes [sized_cid 1, sized_cid 1]) :=
    fun bytes index => decode_two_bytes sha256 rfl rfl (by decide +kernel) (by decide)
  have hincoming : ∀ bytes index, decode_manifest sha256 (small_store bytes index)
      (sealed_frame_v2 sha256 (two_bytes [sized_cid 2])) = .ok (two_bytes [sized_cid 2]) :=
    fun bytes index => decode_two_bytes sha256 rfl rfl (by decide +kernel) (by decide)
  generalize sealed_frame_v2 sha256 (two_bytes [sized_cid 1, sized_cid 1]) = first at hfirst hstored ⊢
  generalize sealed_frame_v2 sha256 (two_bytes [sized_cid 2]) = second at hsecond hincoming ⊢
  have hput := reached_small sha256 (by simp [hfirst]) (hstored first 1)
  have hupdate : apply_update_placement_v1 sha256 true (small_store first 1) 2 small_key second =
      (.OK, small_store second 2) := by
    simp only [apply_update_placement_v1, small_store_name, small_store_find, hsecond, hincoming]
    simp only [Key.entry, hstored]
    rfl
  have hbefore : object sha256 (small_store first 1) small_key = some (two_bytes [sized_cid 1, sized_cid 1]) :=
    object_eq_some (small_store_find first 1) rfl (hstored first 1)
  have hafter : object sha256 (small_store second 2) small_key = some (two_bytes [sized_cid 2]) :=
    object_eq_some (small_store_find second 2) rfl (hincoming second 2)
  simp only [hput, hupdate, contents, hbefore, hafter]
  exact ⟨trivial, rfl, rfl⟩

end replaced_chunks

end turbop2p.m3_namespace_local_store
