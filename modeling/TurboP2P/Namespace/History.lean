import TurboP2P.Namespace.Outcome
import TurboP2P.Object.ManifestV2

open turbop2p.m3_object_manifest (ChunkCid ManifestV2)
open turbop2p.m3_namespace_raft (Effect put_effect update_placement_effect tombstone_effect)
open SlotTable

namespace turbop2p.m3_namespace_local_store

/-- The limits that `m3_namespace_local_store_init_v1` accepts. -/
structure Config where
  capacity : UInt64
  max_bucket_bytes : UInt64
  max_object_key_bytes : UInt64
  max_manifest_bytes : UInt64
  max_object_bytes : UInt64
  max_chunks : UInt64
  capacity_pos : capacity ≠ 0
  max_bucket_bytes_pos : max_bucket_bytes ≠ 0
  max_object_key_bytes_pos : max_object_key_bytes ≠ 0
  max_manifest_bytes_pos : max_manifest_bytes ≠ 0
  max_object_bytes_pos : max_object_bytes ≠ 0
  max_chunks_pos : max_chunks ≠ 0

/-- The store that an initialisation with these limits leaves. -/
def Config.fresh (config : Config) : Store :=
  { entries := List.replicate config.capacity.toNat none, count := 0, max_bucket_bytes := config.max_bucket_bytes.toNat
    max_object_key_bytes := config.max_object_key_bytes.toNat, max_manifest_bytes := config.max_manifest_bytes.toNat
    max_object_bytes := config.max_object_bytes, max_chunks := config.max_chunks.toNat, applied_index := 0
    is_open := true }

/-- Every store that is initialised is a fresh one. -/
theorem store_init_v1_ok {capacity max_bucket_bytes max_object_key_bytes max_manifest_bytes max_object_bytes
    max_chunks : UInt64} {calloc : Bool} {store : Store}
    (hinit : store_init_v1 capacity.toNat max_bucket_bytes.toNat max_object_key_bytes.toNat max_manifest_bytes.toNat
      max_object_bytes max_chunks.toNat calloc = (.OK, some store)) :
    ∃ config : Config, store = config.fresh := by
  have hzero : ∀ limit : UInt64, limit.toNat = 0 ↔ limit = 0 := fun limit => UInt64.toNat_inj (b := 0)
  obtain ⟨hlimits, hinit⟩ := guard_passed hinit
  obtain ⟨_, hinit⟩ := guard_passed hinit
  simp only [hzero, not_or] at hlimits
  obtain ⟨hcapacity, hbucket, hkey, hmanifest, hobject, hchunks⟩ := hlimits
  cases hinit
  exact ⟨⟨_, _, _, _, _, _, hcapacity, hbucket, hkey, hmanifest, hobject, hchunks⟩, rfl⟩

/-- A call that changes a store, with the outcome of its allocations. -/
inductive Operation where
  | put (malloc : Bool) (committed_index : UInt64) (key : Key) (manifest_bytes : List UInt8)
  | update_placement (malloc : Bool) (committed_index : UInt64) (key : Key) (manifest_bytes : List UInt8)
  | tombstone (committed_index : UInt64) (key : Key)
  deriving DecidableEq

/-- The object that a call names. -/
def Operation.key : Operation → Key
  | .put _ _ key _ => key
  | .update_placement _ _ key _ => key
  | .tombstone _ key => key

def Operation.is_update : Operation → Bool
  | .update_placement .. => true
  | _ => false

def Key.entry (key : Key) (tombstoned : Bool) (manifest_bytes : List UInt8) (committed_index : UInt64) : Entry :=
  { tombstoned, tenant_id := key.tenant_id, bucket := key.bucket, object_key := key.object_key, manifest_bytes
    committed_index }

@[simp] theorem Key.entry_key (key : Key) (tombstoned : Bool) (manifest_bytes : List UInt8) (committed_index : UInt64) :
    (key.entry tombstoned manifest_bytes committed_index).key = key := rfl

/-- How a store takes up an entry: in its first free slot if the object is new
and in the slot of the object otherwise. -/
inductive Written (store : Store) (entry : Entry) : Store → Prop
  | inserted (slot : Nat) (hfree : store.entries.free = some slot) (hfresh : find_entry store entry.key = none) :
      Written store entry
        { store with
          entries := store.entries.set slot (some entry), count := store.count + 1
          applied_index := entry.committed_index }
  | replaced (slot : Nat) (old : Entry) (hfind : find_entry store entry.key = some (slot, old)) :
      Written store entry
        { store with entries := store.entries.set slot (some entry), applied_index := entry.committed_index }

/-- What every call that is answered with `OK` has passed. -/
structure Admitted (store : Store) (committed_index : UInt64) (key : Key) : Prop where
  is_open : store.is_open = true
  name : name_is_valid store key = true
  order : store.applied_index < committed_index

section operations

variable (sha256 : List UInt8 → Bytes 32)

def Operation.execute (store : Store) : Operation → Result × Store
  | .put malloc committed_index key manifest_bytes =>
    apply_put_v1 sha256 malloc store committed_index key manifest_bytes
  | .update_placement malloc committed_index key manifest_bytes =>
    apply_update_placement_v1 sha256 malloc store committed_index key manifest_bytes
  | .tombstone committed_index key => apply_tombstone_v1 store committed_index key

def reached (config : Config) (operations : List Operation) : Store :=
  Machine.run (fun store operation => (Operation.execute sha256 store operation).2) config.fresh operations

/-- The manifest of an object, if the object exists. -/
def object (store : Store) (key : Key) : Option ManifestV2 :=
  match find_entry store key with
  | none => none
  | some (_, entry) =>
    if entry.tombstoned then none
    else (decode_manifest sha256 store entry.manifest_bytes).toOption

/-- The object id and the chunk list of an object, if it exists. -/
def contents (store : Store) (key : Key) : Option (ChunkCid × List ChunkCid) :=
  (object sha256 store key).map fun manifest => (manifest.object_cid, manifest.chunks)

end operations

section written

variable {store after : Store} {entry : Entry}

variable {slot : Nat} {manifest : ManifestV2} {bytes : List UInt8}

variable {key : Key} {sha256 : List UInt8 → Bytes 32}

theorem find_entry_eq_some (hfind : find_entry store key = some (slot, entry)) :
    store.entries.Holds slot entry ∧ entry.key = key := by
  obtain ⟨hholds, hkey, _⟩ := find_eq_some hfind
  exact ⟨hholds, by simpa using hkey⟩

theorem find_entry_eq_none (hfind : find_entry store key = none) (hholds : store.entries.Holds slot entry) :
    entry.key ≠ key := by
  simpa using find_eq_none.mp hfind slot entry hholds

theorem object_eq_some (hfind : find_entry store key = some (slot, entry)) (hlive : entry.tombstoned = false)
    (hdecode : decode_manifest sha256 store entry.manifest_bytes = .ok manifest) :
    object sha256 store key = some manifest := by
  simp [object, hfind, hlive, hdecode, Except.toOption]

theorem key_is_valid_iff {maximum : Nat} :
    key_is_valid bytes maximum = true ↔ 0 < bytes.length ∧ bytes.length ≤ maximum ∧ 0 ∉ bytes := by
  simp [key_is_valid]

theorem name_is_valid_iff :
    name_is_valid store key = true ↔ Bytes.is_zero key.tenant_id.toList = false ∧
      key_is_valid key.bucket store.max_bucket_bytes = true ∧
      key_is_valid key.object_key store.max_object_key_bytes = true := by
  simp [name_is_valid, and_assoc]

theorem manifest_length_ne_zero (hdecode : decode_manifest sha256 store bytes = .ok manifest) : bytes.length ≠ 0 := by
  intro hzero
  simp [decode_manifest, m3_object_manifest.decode_v2, hzero, m3_object_manifest.MANIFEST_HEADER_SIZE] at hdecode

variable (hwritten : Written store entry after)

include hwritten

/-- The entry that was written is found under its name. -/
theorem Written.find_self : ∃ slot, find_entry after entry.key = some (slot, entry) := by
  cases hwritten with
  | inserted slot hfree hfresh =>
    refine ⟨slot, find_set_matched (lt_of_free hfree) (by simp) ?_⟩
    exact fun j b _ hb => find_eq_none.mp hfresh j b hb
  | replaced slot old hfind =>
    obtain ⟨hholds, _, hbefore⟩ := find_eq_some hfind
    exact ⟨slot, find_set_matched hholds.lt (by simp) hbefore⟩

/-- Other objects keep their slots and their entries. -/
theorem Written.find_other (hkey : key ≠ entry.key) : find_entry after key = find_entry store key := by
  cases hwritten with
  | inserted slot hfree _ =>
    refine find_set_unmatched (fun a ha => absurd ha (not_holds_of_free hfree)) ?_
    simpa using hkey.symm
  | replaced slot old hfind =>
    obtain ⟨hholds, hold⟩ := find_entry_eq_some hfind
    refine find_set_unmatched (fun a ha => ?_) ?_
    · rw [ha.unique hholds]
      simpa [hold] using hkey.symm
    · simpa using hkey.symm

end written

section accepted

variable {sha256 : List UInt8 → Bytes 32} {malloc : Bool} {store after : Store} {committed_index : UInt64} {key : Key}
  {manifest_bytes : List UInt8}

/-- The found entry with the fields that a call overwrites is the entry that
the call would write for a new object. -/
theorem Written.of_found {slot : Nat} {entry : Entry} (hfind : find_entry store key = some (slot, entry))
    (tombstoned : Bool) (bytes : List UInt8) :
    Written store (key.entry tombstoned bytes committed_index)
      { store with
        entries := store.entries.set slot (some
          { entry with manifest_bytes := bytes, committed_index := committed_index, tombstoned := tombstoned })
        applied_index := committed_index } := by
  obtain ⟨_, rfl⟩ := find_entry_eq_some hfind
  exact .replaced slot entry hfind

theorem put_ok (hok : apply_put_v1 sha256 malloc store committed_index key manifest_bytes = (.OK, after)) :
    Admitted store committed_index key ∧ manifest_bytes.length ≤ store.max_manifest_bytes ∧
      (∃ manifest, decode_manifest sha256 store manifest_bytes = .ok manifest) ∧
      Written store (key.entry false manifest_bytes committed_index) after := by
  obtain ⟨hargs, hok⟩ := guard_passed hok
  obtain ⟨horder, hok⟩ := guard_passed hok
  simp only [not_or, Bool.not_eq_true', Bool.not_eq_false, Nat.not_lt] at hargs
  refine ⟨⟨hargs.1, hargs.2.1, UInt64.not_le.mp horder⟩, hargs.2.2.2.1, ?_⟩
  cases hdecode : decode_manifest sha256 store manifest_bytes with
  | error result => simp [hdecode] at hok
  | ok manifest =>
    refine ⟨⟨manifest, rfl⟩, ?_⟩
    simp only [hdecode] at hok
    cases hfind : find_entry store key with
    | some found =>
      simp only [hfind] at hok
      obtain ⟨_, hok⟩ := guard_passed hok
      rw [← (Prod.mk.inj hok).2]
      exact .of_found hfind false manifest_bytes
    | none =>
      cases hfree : store.entries.free with
      | none => simp [hfind, hfree] at hok
      | some slot =>
        simp only [hfind, hfree] at hok
        obtain ⟨_, hok⟩ := guard_passed hok
        rw [← (Prod.mk.inj hok).2]
        exact .inserted slot hfree hfind

/-- A placement update that succeeds finds its object and has compared the two
object ids. -/
theorem update_placement_ok
    (hok : apply_update_placement_v1 sha256 malloc store committed_index key manifest_bytes = (.OK, after)) :
    Admitted store committed_index key ∧ manifest_bytes.length ≤ store.max_manifest_bytes ∧
      (∃ incoming stored, decode_manifest sha256 store manifest_bytes = .ok incoming ∧
        object sha256 store key = some stored ∧ incoming.object_cid.size = stored.object_cid.size ∧
        incoming.object_cid.digest = stored.object_cid.digest) ∧
      Written store (key.entry false manifest_bytes committed_index) after := by
  obtain ⟨hargs, hok⟩ := guard_passed hok
  obtain ⟨horder, hok⟩ := guard_passed hok
  simp only [not_or, Bool.not_eq_true', Bool.not_eq_false, Nat.not_lt] at hargs
  refine ⟨⟨hargs.1, hargs.2.1, UInt64.not_le.mp horder⟩, hargs.2.2.2.1, ?_⟩
  cases hdecode : decode_manifest sha256 store manifest_bytes with
  | error result => simp [hdecode] at hok
  | ok incoming =>
    cases hfind : find_entry store key with
    | none => simp [hdecode, hfind] at hok
    | some found =>
      simp only [hdecode, hfind] at hok
      obtain ⟨htombstoned, hok⟩ := guard_passed hok
      cases hstored : decode_manifest sha256 store found.2.manifest_bytes with
      | error result => simp [hstored] at hok
      | ok stored =>
        simp only [hstored] at hok
        obtain ⟨hcid, hok⟩ := guard_passed hok
        obtain ⟨_, hok⟩ := guard_passed hok
        have hobject : object sha256 store key = some stored :=
          object_eq_some hfind (by simpa using htombstoned) hstored
        simp only [not_or, not_not] at hcid
        rw [← (Prod.mk.inj hok).2]
        exact ⟨⟨incoming, stored, rfl, hobject, hcid.1, hcid.2⟩, .of_found hfind false manifest_bytes⟩

/-- A deletion that succeeds only advances the index if it finds no object. -/
theorem tombstone_ok (hok : apply_tombstone_v1 store committed_index key = (.OK, after)) :
    Admitted store committed_index key ∧
      ((find_entry store key = none ∧ after = { store with applied_index := committed_index }) ∨
        Written store (key.entry true [] committed_index) after) := by
  obtain ⟨hargs, hok⟩ := guard_passed hok
  obtain ⟨horder, hok⟩ := guard_passed hok
  simp only [not_or, Bool.not_eq_true', Bool.not_eq_false] at hargs
  refine ⟨⟨hargs.1, hargs.2.1, UInt64.not_le.mp horder⟩, ?_⟩
  cases hfind : find_entry store key with
  | none =>
    simp only [hfind] at hok
    exact .inl ⟨rfl, (Prod.mk.inj hok).2.symm⟩
  | some found =>
    simp only [hfind] at hok
    rw [← (Prod.mk.inj hok).2]
    exact .inr (.of_found hfind true [])

variable {operation : Operation}

/-- A call that does not return `OK` changes nothing. -/
theorem execute_refused (hrefused : (operation.execute sha256 store).1 ≠ .OK) :
    (operation.execute sha256 store).2 = store := by
  have hunchanged : ∀ {index : UInt64} {outcome : Result × Store}, Effect store index outcome → outcome.1 ≠ .OK →
      outcome.2 = store := by
    intro index outcome heffect hresult
    cases heffect with
    | rejected result _ => rfl
    | _ => exact absurd rfl hresult
  cases operation with
  | put malloc index key bytes => exact hunchanged (put_effect sha256 malloc key bytes) hrefused
  | update_placement malloc index key bytes => exact hunchanged (update_placement_effect sha256 malloc key bytes) hrefused
  | tombstone index key => exact hunchanged (tombstone_effect key) hrefused

/-- A call that returns `OK` advances the index and writes at most one entry,
which carries the name of its object. -/
theorem execute_ok (hok : operation.execute sha256 store = (.OK, after)) :
    ∃ committed_index, Admitted store committed_index operation.key ∧
      ((find_entry store operation.key = none ∧ after = { store with applied_index := committed_index }) ∨
        ∃ tombstoned bytes, Written store (operation.key.entry tombstoned bytes committed_index) after ∧
          bytes.length ≤ store.max_manifest_bytes ∧ (tombstoned = true → bytes = []) ∧
          (tombstoned = false → ∃ manifest, decode_manifest sha256 store bytes = .ok manifest)) := by
  cases operation with
  | put malloc index key bytes =>
    obtain ⟨hadmitted, hfits, hdecode, hwritten⟩ := put_ok hok
    exact ⟨index, hadmitted, .inr ⟨false, bytes, hwritten, hfits, by simp, fun _ => hdecode⟩⟩
  | update_placement malloc index key bytes =>
    obtain ⟨hadmitted, hfits, ⟨incoming, _, hdecode, _⟩, hwritten⟩ := update_placement_ok hok
    exact ⟨index, hadmitted, .inr ⟨false, bytes, hwritten, hfits, by simp, fun _ => ⟨incoming, hdecode⟩⟩⟩
  | tombstone index key =>
    obtain ⟨hadmitted, habsent | hwritten⟩ := tombstone_ok hok
    · exact ⟨index, hadmitted, .inl habsent⟩
    · exact ⟨index, hadmitted, .inr ⟨true, [], hwritten, by simp, by simp, by simp⟩⟩

end accepted

/-- The limits of a store are those it was initialised with. -/
structure HasLimits (config : Config) (store : Store) : Prop where
  is_open : store.is_open = true
  capacity : store.entries.length = config.capacity.toNat
  max_bucket_bytes : store.max_bucket_bytes = config.max_bucket_bytes.toNat
  max_object_key_bytes : store.max_object_key_bytes = config.max_object_key_bytes.toNat
  max_manifest_bytes : store.max_manifest_bytes = config.max_manifest_bytes.toNat
  max_object_bytes : store.max_object_bytes = config.max_object_bytes
  max_chunks : store.max_chunks = config.max_chunks.toNat

/-- An entry names an object within the limits and holds a manifest that
decodes, or none at all once the object is deleted. -/
structure Entry.Valid (sha256 : List UInt8 → Bytes 32) (config : Config) (entry : Entry) : Prop where
  name : name_is_valid config.fresh entry.key = true
  fits : entry.manifest_bytes.length ≤ config.max_manifest_bytes.toNat
  deleted : entry.tombstoned = true → entry.manifest_bytes = []
  decodes : entry.tombstoned = false →
    ∃ manifest, decode_manifest sha256 config.fresh entry.manifest_bytes = .ok manifest

/-- What holds of every store that calls can lead to. -/
structure WellFormed (sha256 : List UInt8 → Bytes 32) (config : Config) (store : Store) : Prop where
  limits : HasLimits config store
  distinct : SlotTable.Distinct Entry.key store.entries
  packed : store.entries.Packed
  count : store.count = store.entries.live.length
  valid : ∀ slot entry, store.entries.Holds slot entry → entry.Valid sha256 config
  indexed : ∀ slot entry, store.entries.Holds slot entry → store.applied_index ≠ 0

section wellformed

variable {sha256 : List UInt8 → Bytes 32} {config : Config} {store after : Store}

variable {entry : Entry}

section

variable (hlimits : HasLimits config store)

include hlimits

theorem HasLimits.name_is_valid_eq (key : Key) : name_is_valid store key = name_is_valid config.fresh key := by
  simp [name_is_valid, hlimits.max_bucket_bytes, hlimits.max_object_key_bytes, Config.fresh]

theorem HasLimits.decode_manifest_eq (bytes : List UInt8) :
    decode_manifest sha256 store bytes = decode_manifest sha256 config.fresh bytes := by
  simp [decode_manifest, max_placements, hlimits.max_object_bytes, hlimits.max_chunks, Config.fresh]

theorem HasLimits.written (hwritten : Written store entry after) : HasLimits config after := by
  cases hwritten <;> exact ⟨hlimits.is_open, (List.length_set ..).trans hlimits.capacity, hlimits.max_bucket_bytes,
      hlimits.max_object_key_bytes, hlimits.max_manifest_bytes, hlimits.max_object_bytes, hlimits.max_chunks⟩

end

theorem Written.applied_index (hwritten : Written store entry after) :
    after.applied_index = entry.committed_index := by
  cases hwritten <;> rfl

theorem WellFormed.fresh (sha256 : List UInt8 → Bytes 32) (config : Config) :
    WellFormed sha256 config config.fresh where
  limits := ⟨rfl, List.length_replicate, rfl, rfl, rfl, rfl, rfl⟩
  distinct := fun i j a b ha => absurd ha (not_holds_replicate_none _ i a)
  packed := fun i j a _ ha => absurd ha (not_holds_replicate_none _ j a)
  count := by simp [Config.fresh, live]
  valid := fun i a ha => absurd ha (not_holds_replicate_none _ i a)
  indexed := fun i a ha => absurd ha (not_holds_replicate_none _ i a)

section

variable (hwell : WellFormed sha256 config store)

include hwell

theorem WellFormed.written (hwritten : Written store entry after) (hvalid : entry.Valid sha256 config)
    (hindex : entry.committed_index ≠ 0) :
    WellFormed sha256 config after := by
  have hlimits := hwell.limits.written hwritten
  have hafter := hwritten.applied_index
  cases hwritten with
  | inserted slot hfree hfresh =>
    have hlength := (live_insert_perm entry (free_eq_some hfree).1).length_eq
    exact ⟨hlimits, hwell.distinct.insert (lt_of_free hfree) fun j b hb => find_entry_eq_none hfresh hb,
      hwell.packed.insert hfree entry, by simpa [hwell.count] using hlength.symm,
      holds_set_forall hwell.valid (lt_of_free hfree) hvalid, fun _ _ _ => hafter ▸ hindex⟩
  | replaced slot old hfind =>
    obtain ⟨hold, hkey⟩ := find_entry_eq_some hfind
    exact ⟨hlimits, hwell.distinct.replace hold hkey.symm, hwell.packed.replace hold entry,
      hwell.count.trans (length_live_replace entry hold).symm, holds_set_forall hwell.valid hold.lt hvalid,
      fun _ _ _ => hafter ▸ hindex⟩

theorem WellFormed.execute (operation : Operation) : WellFormed sha256 config (operation.execute sha256 store).2 := by
  by_cases hok : (operation.execute sha256 store).1 = .OK
  swap
  · rwa [execute_refused hok]
  have hpair : operation.execute sha256 store = (.OK, (operation.execute sha256 store).2) := Prod.ext hok rfl
  obtain ⟨index, hadmitted, ⟨hfresh, hafter⟩ | ⟨tombstoned, bytes, hwritten, hfits, hdeleted, hdecodes⟩⟩ :=
    execute_ok hpair
  · rw [hafter]
    have hlimits := hwell.limits
    refine ⟨⟨hlimits.is_open, hlimits.capacity, hlimits.max_bucket_bytes, hlimits.max_object_key_bytes,
      hlimits.max_manifest_bytes, hlimits.max_object_bytes, hlimits.max_chunks⟩, hwell.distinct, hwell.packed,
      hwell.count, hwell.valid, fun _ _ _ => ?_⟩
    exact (m3_namespace_raft.index_fresh hadmitted.order).1
  · refine hwell.written hwritten ⟨?_, ?_, hdeleted, fun hlive => ?_⟩ (m3_namespace_raft.index_fresh hadmitted.order).1
    · exact (hwell.limits.name_is_valid_eq _).symm.trans hadmitted.name
    · exact hwell.limits.max_manifest_bytes ▸ hfits
    · obtain ⟨manifest, hdecode⟩ := hdecodes hlive
      exact ⟨manifest, (hwell.limits.decode_manifest_eq bytes).symm.trans hdecode⟩

theorem WellFormed.find_entry_key {slot : Nat} (hholds : store.entries.Holds slot entry) :
    find_entry store entry.key = some (slot, entry) := by
  cases hfind : find_entry store entry.key with
  | none => exact absurd rfl (find_entry_eq_none hfind hholds)
  | some found =>
    obtain ⟨hfound, hkey⟩ := find_entry_eq_some hfind
    obtain rfl : found.1 = slot := hwell.distinct found.1 slot found.2 entry hfound hholds hkey
    rw [← hfound.unique hholds]

end

/-- What a list call answers. -/
theorem list_v1_eq_ok {tenant_id : TenantId} {bucket prefix_bytes : Option (List UInt8)} {items : List Listed} :
    list_v1 store tenant_id bucket prefix_bytes = (.OK, items) ↔
      (store.is_open = true ∧ Bytes.is_zero tenant_id.toList = false) ∧
        (∀ name ∈ bucket, key_is_valid name store.max_bucket_bytes = true) ∧
        (∀ bytes ∈ prefix_bytes, bytes.length ≤ store.max_object_key_bytes) ∧
        items = (store.entries.live.filter (·.list_matches tenant_id bucket prefix_bytes)).map (·.listed) := by
  unfold list_v1
  constructor
  · intro hlist
    obtain ⟨hargs, hlist⟩ := guard_passed hlist
    obtain ⟨hbucket, hlist⟩ := guard_passed hlist
    obtain ⟨hfront, hlist⟩ := guard_passed hlist
    refine ⟨by simpa using hargs, ?_, ?_, (Prod.mk.inj hlist).2.symm⟩
    · simpa [Option.any_eq_true] using hbucket
    · simpa [Option.any_eq_true] using hfront
  · rintro ⟨hargs, hbucket, hfront, rfl⟩
    rw [if_neg (by simpa using hargs), if_neg (by simpa [Option.any_eq_true] using hbucket),
      if_neg (by simpa [Option.any_eq_true] using hfront)]

theorem reached_wellFormed (sha256 : List UInt8 → Bytes 32) (config : Config) (operations : List Operation) :
    WellFormed sha256 config (reached sha256 config operations) :=
  Machine.run_invariant (WellFormed.fresh sha256 config) (fun _ operation hwell => hwell.execute operation) operations

end wellformed

section small

/-- Small limits. -/
def small_config : Config :=
  { capacity := 2, max_bucket_bytes := 16, max_object_key_bytes := 16, max_manifest_bytes := 1024
    max_object_bytes := 1024, max_chunks := 4, capacity_pos := by decide, max_bucket_bytes_pos := by decide
    max_object_key_bytes_pos := by decide, max_manifest_bytes_pos := by decide, max_object_bytes_pos := by decide
    max_chunks_pos := by decide }

def small_key : Key :=
  { tenant_id := List.Vector.replicate 32 1, bucket := [98], object_key := [107] }

/-- A store of small limits that holds one object. -/
def small_store (manifest_bytes : List UInt8) (index : UInt64) : Store :=
  { small_config.fresh with
    entries := [some (small_key.entry false manifest_bytes index), none], count := 1, applied_index := index }

theorem small_store_find (manifest_bytes : List UInt8) (index : UInt64) :
    find_entry (small_store manifest_bytes index) small_key = some (0, small_key.entry false manifest_bytes index) := by
  simp [find_entry, small_store, find]

theorem small_store_name (manifest_bytes : List UInt8) (index : UInt64) :
    name_is_valid (small_store manifest_bytes index) small_key = true :=
  show name_is_valid small_config.fresh small_key = true by decide +kernel

/-- The store is reached by a put. -/
theorem reached_small (sha256 : List UInt8 → Bytes 32) {manifest_bytes : List UInt8} {manifest : ManifestV2}
    (hlength : 0 < manifest_bytes.length ∧ manifest_bytes.length ≤ 1024)
    (hdecode : decode_manifest sha256 small_config.fresh manifest_bytes = .ok manifest) :
    reached sha256 small_config [.put true 1 small_key manifest_bytes] = small_store manifest_bytes 1 := by
  have hname : name_is_valid small_config.fresh small_key = true := by decide +kernel
  have hfind : find_entry small_config.fresh small_key = none := by decide +kernel
  have hfree : small_config.fresh.entries.free = some 0 := by decide +kernel
  have hfits : ¬ manifest_bytes.length > small_config.fresh.max_manifest_bytes := Nat.not_lt.mpr hlength.2
  simp only [reached, Machine.run, List.foldl_cons, List.foldl_nil, Operation.execute, apply_put_v1, hname, hfits,
    hlength.1.ne', hdecode, hfind, hfree]
  rfl

end small

end turbop2p.m3_namespace_local_store
