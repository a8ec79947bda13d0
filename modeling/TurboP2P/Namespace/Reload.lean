import TurboP2P.Namespace.Snapshot
import TurboP2P.Namespace.PlacementUpdate

open Codec
open turbop2p.m3_object_manifest (sealed_frame_v2)

namespace turbop2p.m3_namespace_local_store

/-- The largest record that the limits allow. -/
def Config.max_record (config : Config) : Nat :=
  LOCAL_RECORD_PAYLOAD_OFFSET + config.max_bucket_bytes.toNat + config.max_object_key_bytes.toNat +
    config.max_manifest_bytes.toNat

/-- The size of the largest file that the limits allow is a 64-bit number. -/
def Config.FileFits (config : Config) : Prop :=
  config.capacity.toNat * config.max_record + LOCAL_HEADER_SIZE ≤ U64_MAX

instance (config : Config) : Decidable config.FileFits := inferInstanceAs (Decidable (_ ≤ _))

variable {a b max_path : Nat} {files : Files} {root : List UInt8}

section bounds

theorem u64_add_checked_eq (hb : b ≤ U64_MAX) :
    u64_add_checked a b = if a + b ≤ U64_MAX then some (a + b) else none := by
  unfold u64_add_checked
  by_cases hfits : a + b ≤ U64_MAX
  · rw [if_neg (by omega), if_pos hfits]
  · rw [if_pos (by omega), if_neg hfits]

theorem u64_mul_add_checked_eq {add : Nat} (hadd : add ≤ U64_MAX) :
    u64_mul_add_checked a b add = if a * b + add ≤ U64_MAX then some (a * b + add) else none := by
  unfold u64_mul_add_checked
  by_cases hproduct : a * b ≤ U64_MAX
  · have hdiv : ¬ (a ≠ 0 ∧ b > U64_MAX / a) := by
      rintro ⟨ha, hb⟩
      have hle := (Nat.le_div_iff_mul_le (Nat.pos_of_ne_zero ha)).mpr (Nat.mul_comm a b ▸ hproduct)
      omega
    rw [if_neg hdiv]
    by_cases hfits : a * b + add ≤ U64_MAX
    · rw [if_neg (by omega), if_pos hfits]
    · rw [if_pos (by omega), if_neg hfits]
  · have hdiv : a ≠ 0 ∧ b > U64_MAX / a := by
      have ha : a ≠ 0 := by
        rintro rfl
        simp at hproduct
      refine ⟨ha, ?_⟩
      by_contra hle
      have hmul := (Nat.le_div_iff_mul_le (Nat.pos_of_ne_zero ha)).mp (Nat.le_of_not_lt hle)
      exact hproduct (Nat.mul_comm a b ▸ hmul)
    rw [if_pos hdiv, if_neg (by omega)]

theorem u64_toNat_le (word : UInt64) : word.toNat ≤ U64_MAX := by
  have hlt := word.toNat_lt
  simp only [U64_MAX]
  omega

/-- The loader finds a bound for the file size exactly if the limits allow
one. -/
theorem worst_total_fresh (config : Config) :
    worst_total config.fresh =
      if config.FileFits then some (config.capacity.toNat * config.max_record + LOCAL_HEADER_SIZE) else none := by
  have hcapacity : 1 ≤ config.capacity.toNat := by
    have hne : config.capacity.toNat ≠ (0 : UInt64).toNat := fun heq =>
      config.capacity_pos (UInt64.toNat_inj.mp heq)
    simpa [Nat.one_le_iff_ne_zero] using hne
  have hrecord : config.max_record ≤ config.capacity.toNat * config.max_record := Nat.le_mul_of_pos_left _ hcapacity
  have hlength : config.fresh.entries.length = config.capacity.toNat := List.length_replicate
  have hbind : ∀ (c : Prop) [Decidable c] (size : Nat) (rest : Nat → Option Nat),
      ((if c then some size else none) >>= rest) = if c then rest size else none := by
    intro c _ size rest
    split <;> rfl
  simp only [worst_total, hlength]
  simp only [Config.fresh, u64_add_checked_eq (u64_toNat_le _),
    u64_mul_add_checked_eq (show LOCAL_HEADER_SIZE ≤ U64_MAX by decide), hbind]
  by_cases hfits : config.FileFits
  · rw [if_pos hfits]
    unfold Config.FileFits at hfits
    unfold Config.max_record at hfits hrecord ⊢
    rw [if_pos (by omega), if_pos (by omega), if_pos (by omega), if_pos hfits]
  · rw [if_neg hfits]
    unfold Config.FileFits Config.max_record at hfits
    rw [if_neg hfits, ite_self, ite_self, ite_self]

end bounds

section snapshot

variable {sha256 : List UInt8 → Bytes 32} {config : Config} {store : Store}

@[simp] theorem length_snapshot_header (store : Store) : (snapshot_header store).length = 56 := by
  simp [snapshot_header, LOCAL_MAGIC]

theorem length_snapshot (store : Store) :
    (snapshot store).length = LOCAL_HEADER_SIZE + (store.entries.live.flatMap Entry.record).length := by
  simp only [snapshot, List.length_append, length_snapshot_header, length_write_u64_be, LOCAL_HEADER_SIZE]
  omega

/-- The fields of a state file as the loader finds them. -/
theorem snapshot_fields (store : Store) :
    (snapshot store).take 8 = LOCAL_MAGIC ∧ read_u32_be ((snapshot store).drop 8) = LOCAL_VERSION ∧
      read_u32_be ((snapshot store).drop 12) = 0 ∧
      read_u64_be ((snapshot store).drop 16) = store.applied_index ∧
      read_u64_be ((snapshot store).drop 24) = UInt64.ofNat store.entries.live.length ∧
      read_u64_be ((snapshot store).drop 32) = UInt64.ofNat store.max_bucket_bytes ∧
      read_u64_be ((snapshot store).drop 40) = UInt64.ofNat store.max_object_key_bytes ∧
      read_u64_be ((snapshot store).drop 48) = UInt64.ofNat store.max_manifest_bytes := by
  simp [snapshot, snapshot_header, LOCAL_MAGIC, drop_append_field]

/-- The parts of a state file that its checksum covers, and the checksum. -/
theorem snapshot_sealed (store : Store) :
    (snapshot store).take 56 = snapshot_header store ∧
      (snapshot store).drop LOCAL_HEADER_SIZE = store.entries.live.flatMap Entry.record ∧
      read_u64_be ((snapshot store).drop 56) =
        snapshot_checksum (snapshot_header store) (store.entries.live.flatMap Entry.record) := by
  refine ⟨?_, ?_, ?_⟩
  · rw [snapshot, List.take_append_of_le_length (by simp), List.take_of_length_le (by simp)]
  · simp [snapshot, LOCAL_HEADER_SIZE, drop_append_field]
  · simp [snapshot]

/-- A well-formed store has at most as many entries as slots. -/
theorem length_live_le (entries : SlotTable Entry) : entries.live.length ≤ entries.length :=
  List.reduceOption_length_le entries

theorem flatMap_record_le {entries : List Entry} {bound : Nat}
    (hentries : ∀ entry ∈ entries, entry.record.length ≤ bound) :
    (entries.flatMap Entry.record).length ≤ entries.length * bound := by
  induction entries with
  | nil => simp
  | cons entry rest ih =>
    obtain ⟨hentry, hrest⟩ := List.forall_mem_cons.mp hentries
    have htail := ih hrest
    rw [List.flatMap_cons, List.length_append, List.length_cons, Nat.succ_mul]
    omega

/-- No file is larger than the limits allow. -/
theorem length_snapshot_le (hwell : WellFormed sha256 config store) :
    (snapshot store).length ≤ config.capacity.toNat * config.max_record + LOCAL_HEADER_SIZE := by
  have hrecords : (store.entries.live.flatMap Entry.record).length ≤ store.entries.live.length * config.max_record := by
    refine flatMap_record_le fun entry hentry => ?_
    obtain ⟨slot, hholds⟩ := SlotTable.mem_live_iff.mp hentry
    have hvalid := hwell.valid slot entry hholds
    obtain ⟨_, hbucket, hkey⟩ := name_is_valid_iff.mp hvalid.name
    have hbucket : entry.bucket.length ≤ config.max_bucket_bytes.toNat := (key_is_valid_iff.mp hbucket).2.1
    have hkey : entry.object_key.length ≤ config.max_object_key_bytes.toNat := (key_is_valid_iff.mp hkey).2.1
    have hmanifest := hvalid.fits
    rw [length_record, Config.max_record]
    omega
  have hcount : store.entries.live.length ≤ config.capacity.toNat := hwell.limits.capacity ▸ length_live_le store.entries
  have hmul := Nat.mul_le_mul_right config.max_record hcount
  rw [length_snapshot]
  omega

/-- The loaded table: the same entries in the same slots. -/
theorem loaded_entries (hwell : WellFormed sha256 config store) (applied_index : UInt64) :
    (store.entries.live.map (Entry.reindexed applied_index)).map some ++
        config.fresh.entries.drop store.entries.live.length =
      store.entries.map (Option.map (Entry.reindexed applied_index)) := by
  conv_rhs => rw [← hwell.packed.eq_append]
  simp [Config.fresh, hwell.limits.capacity]

def LoadOutcomes.success : LoadOutcomes :=
  { stat := true, opened := true, malloc := true, read_exact := true, closed := true, malloc_entries := true }

/-- Loading the state file of a well-formed store restores it up to the index of
the last change of each entry, provided that the loader can bound the file
size. -/
theorem load_snapshot (hwell : WellFormed sha256 config store) {size : Nat}
    (hsize : snapshot_size LOCAL_HEADER_SIZE store.entries.live = some size) {state_path : List UInt8}
    (hpath : join_path max_path root LOCAL_STATE_FILE = some state_path)
    (hfile : files state_path = some (snapshot store)) :
    load_v1 sha256 max_path .success files config.fresh root config.capacity.toNat =
      if config.FileFits then
        (.OK, { store with entries := store.entries.map (Option.map (Entry.reindexed store.applied_index)) })
      else (.CORRUPT, config.fresh) := by
  have hroot : root ≠ [] := by
    rintro rfl
    simp [join_path] at hpath
  have hcapacity : config.capacity.toNat ≠ 0 := by
    intro hzero
    exact config.capacity_pos (UInt64.toNat_inj.mp hzero)
  obtain ⟨hrecordable, hlength, hmax⟩ := snapshot_size_eq_some hsize (by decide)
  rw [← length_snapshot] at hlength
  have hlow : LOCAL_HEADER_SIZE ≤ (snapshot store).length := length_snapshot store ▸ Nat.le_add_right _ _
  have hlimits := hwell.limits
  have hcount : store.entries.live.length ≤ config.capacity.toNat := hlimits.capacity ▸ length_live_le store.entries
  have hnumber : (UInt64.ofNat store.entries.live.length).toNat = store.entries.live.length :=
    UInt64.toNat_ofNat_of_lt' (Nat.lt_of_le_of_lt hcount config.capacity.toNat_lt)
  have hindexed : ¬ (store.applied_index = 0 ∧ store.entries.live.length ≠ 0) := by
    rintro ⟨hzero, hne⟩
    obtain ⟨entry, hentry⟩ := List.exists_mem_of_length_pos (Nat.pos_of_ne_zero hne)
    obtain ⟨slot, hholds⟩ := SlotTable.mem_live_iff.mp hentry
    exact hwell.indexed slot entry hholds hzero
  have hvalid : ∀ entry ∈ store.entries.live, entry.Valid sha256 config ∧ entry.Recordable := by
    intro entry hentry
    obtain ⟨slot, hholds⟩ := SlotTable.mem_live_iff.mp hentry
    exact ⟨hwell.valid slot entry hholds, hrecordable entry hentry⟩
  obtain ⟨hmagic, h8, h12, h16, h24, h32, h40, h48⟩ := snapshot_fields store
  obtain ⟨htake, hdrop, h56⟩ := snapshot_sealed store
  unfold load_v1
  rw [if_neg (by simp [Config.fresh, hroot, hcapacity]), if_neg (by simp [Config.fresh])]
  simp only [hpath, hfile, LoadOutcomes.success, Bool.true_eq_false, if_false]
  rw [if_neg (by omega), worst_total_fresh]
  by_cases hfits : config.FileFits
  swap
  · simp [if_neg hfits]
  simp only [if_pos hfits, h16, h24, h32, h40, h48, hdrop, htake, h56, hnumber]
  rw [if_neg (Nat.not_lt.mpr (length_snapshot_le hwell)), if_neg (by simp [hmagic, h8, h12]), if_neg]
  · rw [check_records_live hvalid, load_records_live hrecordable]
    simp only [Bool.not_true, Bool.false_eq_true, if_false, ne_eq, not_true_eq_false, List.length_map]
    rw [loaded_entries hwell]
    obtain ⟨hopen, _, hbucket, hkey, hmanifest, hobject, hchunks⟩ := hlimits
    simp [Config.fresh, hopen, hbucket, hkey, hmanifest, hobject, hchunks, hwell.count]
  · simpa [hlimits.max_bucket_bytes, hlimits.max_object_key_bytes, hlimits.max_manifest_bytes, Config.fresh, hcount]
      using hindexed

end snapshot

/-- Two stores that no lookup and no list call can tell apart. -/
structure SameAnswers (left right : Store) : Prop where
  applied_index : left.applied_index = right.applied_index
  lookup : ∀ request, local_lookup_start left request = local_lookup_start right request
  list : ∀ tenant_id bucket prefix_bytes,
    list_v1 left tenant_id bucket prefix_bytes = list_v1 right tenant_id bucket prefix_bytes

section reload

variable {sha256 : List UInt8 → Bytes 32} {config : Config} {store : Store}

/-- Neither a lookup nor a list call shows the index of the last change of an
entry. -/
theorem sameAnswers_reindexed (store : Store) (applied_index : UInt64) :
    SameAnswers { store with entries := store.entries.map (Option.map (Entry.reindexed applied_index)) } store where
  applied_index := rfl
  lookup := fun request => by
    have hfind : find_entry { store with entries := store.entries.map (Option.map (Entry.reindexed applied_index)) }
        request.key = (find_entry store request.key).map fun found => (found.1, found.2.reindexed applied_index) :=
      SlotTable.find_map (f := Entry.reindexed applied_index) (fun _ => rfl) store.entries
    simp only [local_lookup_start, hfind]
    cases find_entry store request.key with
    | none => rfl
    | some found => rfl
  list := fun tenant_id bucket prefix_bytes => by
    have hmatches : (Entry.list_matches tenant_id bucket prefix_bytes) ∘ Entry.reindexed applied_index =
        Entry.list_matches tenant_id bucket prefix_bytes := rfl
    simp only [list_v1, SlotTable.live_map, List.filter_map, hmatches, List.map_map]
    rfl

/-- A persist call that succeeds leaves the state file of the store. -/
theorem persist_ok {outcomes : PersistOutcomes} {after : Files}
    (hok : persist_v1 max_path outcomes files store root = (.OK, after)) :
    ∃ state_path size, join_path max_path root LOCAL_STATE_FILE = some state_path ∧
      snapshot_size LOCAL_HEADER_SIZE store.entries.live = some size ∧ after state_path = some (snapshot store) := by
  obtain ⟨_, hok⟩ := guard_passed hok
  cases hstate : join_path max_path root LOCAL_STATE_FILE with
  | none => simp [hstate] at hok
  | some state_path =>
    cases htemp : join_path max_path root LOCAL_TEMP_FILE with
    | none => simp [hstate, htemp] at hok
    | some temp_path =>
      cases hsize : snapshot_size LOCAL_HEADER_SIZE store.entries.live with
      | none => simp [hstate, htemp, hsize] at hok
      | some size =>
        simp only [hstate, htemp, hsize] at hok
        iterate 5 obtain ⟨_, hok⟩ := guard_passed hok
        refine ⟨state_path, size, rfl, rfl, ?_⟩
        rw [← (Prod.mk.inj hok).2]
        exact if_pos rfl

/-- A store that was persisted is loaded into a fresh store with the same
answers to every lookup and every list call, exactly if the size of the
largest file that its limits allow is a 64-bit number. -/
theorem persist_load_iff (sha256 : List UInt8 → Bytes 32) (config : Config) (operations : List Operation)
    (max_path : Nat) (outcomes : PersistOutcomes) (files : Files) (root : List UInt8)
    (hpersist : (persist_v1 max_path outcomes files (reached sha256 config operations) root).1 = .OK) :
    (∃ loaded, load_v1 sha256 max_path .success
        (persist_v1 max_path outcomes files (reached sha256 config operations) root).2 config.fresh root
        config.capacity.toNat = (.OK, loaded) ∧ SameAnswers loaded (reached sha256 config operations)) ↔
      config.FileFits := by
  obtain ⟨state_path, size, hpath, hsize, hfile⟩ := persist_ok (Prod.ext hpersist rfl)
  rw [load_snapshot (reached_wellFormed sha256 config operations) hsize hpath hfile]
  by_cases hfits : config.FileFits
  · rw [if_pos hfits]
    exact iff_of_true ⟨_, rfl, sameAnswers_reindexed _ _⟩ hfits
  · rw [if_neg hfits]
    exact iff_of_false (by simp) hfits

def PersistOutcomes.success : PersistOutcomes :=
  { malloc := true, opened := true, written := true, fsync := true, closed := true, renamed := true }

/-- An object of two chunks is put. -/
def one_put : List Operation :=
  [.put true 1 small_key (sealed_frame_v2 (fun _ => Bytes.zero 32) (two_bytes [sized_cid 1, sized_cid 1]))]

/-- The object survives a restart of a store of small limits. -/
theorem small_store_reloaded :
    (reached (fun _ => Bytes.zero 32) small_config one_put).entries.live.length = 1 ∧
      ∃ loaded, load_v1 (fun _ => Bytes.zero 32) 64 .success (persist_v1 64 .success (fun _ => none)
          (reached (fun _ => Bytes.zero 32) small_config one_put) [47]).2 small_config.fresh [47] 2 = (.OK, loaded) ∧
        SameAnswers loaded (reached (fun _ => Bytes.zero 32) small_config one_put) :=
  ⟨by decide +kernel, (persist_load_iff (fun _ => Bytes.zero 32) small_config one_put 64 .success (fun _ => none) [47]
    (by decide +kernel)).mpr (by decide)⟩

/-- Limits without a bound on the manifest size. -/
def unbounded_config : Config :=
  { small_config with max_manifest_bytes := 0xffffffffffffffff, max_manifest_bytes_pos := by decide }

/-- Without a bound on the manifest size the object is persisted and not
loaded. -/
theorem unbounded_store_not_reloaded :
    let store := reached (fun _ => Bytes.zero 32) unbounded_config one_put
    let persisted := persist_v1 64 .success (fun _ => none) store [47]
    store.entries.live.length = 1 ∧ persisted.1 = .OK ∧
      (load_v1 (fun _ => Bytes.zero 32) 64 .success persisted.2 unbounded_config.fresh [47] 2).1 = .CORRUPT := by
  decide +kernel

end reload

end turbop2p.m3_namespace_local_store
