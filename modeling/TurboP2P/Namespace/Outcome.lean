import TurboP2P.Namespace.Raft

open turbop2p.m3_namespace_local_store
open turbop2p.turboraft (TurboResult Proposal)

namespace turbop2p.m3_namespace_raft

section executable

variable (sha256 : List UInt8 → Bytes 32)

/-- The manifest of a command fits the store and decodes under its limits. -/
def Command.ManifestFits (command : Command) (store : Store) : Prop :=
  command.manifest.length ≤ store.max_manifest_bytes ∧
    ∃ incoming, decode_manifest sha256 store command.manifest = .ok incoming

/-- The object of a command is present and has the object id that the command
brings. -/
def Command.ObjectMatches (command : Command) (store : Store) : Prop :=
  ∃ slot entry incoming stored, find_entry store command.key = some (slot, entry) ∧ entry.tombstoned = false ∧
    decode_manifest sha256 store command.manifest = .ok incoming ∧
    decode_manifest sha256 store entry.manifest_bytes = .ok stored ∧
    incoming.object_cid.size = stored.object_cid.size ∧ incoming.object_cid.digest = stored.object_cid.digest

/-- The command names an object within the store's limits, its manifest is one
the store can read, and a placement update still finds its object
version. -/
def Command.Executable (command : Command) (store : Store) : Prop :=
  name_is_valid store command.key = true ∧
    match command.type with
    | .PUT => command.ManifestFits sha256 store
    | .UPDATE_PLACEMENT => command.ManifestFits sha256 store ∧ command.ObjectMatches sha256 store
    | .TOMBSTONE => True
    | .other _ => False

end executable

/-- A new object finds a free slot. -/
def Command.HasRoom (command : Command) (store : Store) : Prop :=
  command.type = .PUT → find_entry store command.key = none → ∃ slot, store.entries.free = some slot

section execute

variable {sha256 : List UInt8 → Bytes 32} {store : Store} {committed_index : UInt64} {command : Command}

theorem index_fresh (hindex : store.applied_index < committed_index) :
    committed_index ≠ 0 ∧ ¬ committed_index ≤ store.applied_index := by
  refine ⟨?_, UInt64.not_le.mpr hindex⟩
  rintro rfl
  simp at hindex

variable (hopen : store.is_open = true) (hindex : store.applied_index < committed_index)

include hopen hindex

theorem put_ok_iff (hnonempty : command.manifest ≠ [])
    (hroom : find_entry store command.key = none → ∃ slot, store.entries.free = some slot) :
    (apply_put_v1 sha256 true store committed_index command.key command.manifest).1 = .OK ↔
      name_is_valid store command.key = true ∧ command.ManifestFits sha256 store := by
  obtain ⟨hne, horder⟩ := index_fresh hindex
  have hlength : command.manifest.length ≠ 0 := by simpa using hnonempty
  unfold apply_put_v1 Command.ManifestFits
  by_cases hname : name_is_valid store command.key = true
  swap
  · simp [hname]
  by_cases hfits : command.manifest.length ≤ store.max_manifest_bytes
  swap
  · simp [hfits, Nat.lt_of_not_le hfits]
  simp only [hopen, hname, hlength, hne, horder, hfits, Nat.not_lt.mpr hfits, Bool.not_true, Bool.true_eq_false,
    Bool.false_eq_true, or_self, if_false, true_and]
  cases hdecode : decode_manifest sha256 store command.manifest with
  | error result => simp
  | ok incoming =>
    cases hfind : find_entry store command.key with
    | some found => simp
    | none =>
      obtain ⟨slot, hslot⟩ := hroom hfind
      simp [hslot]

theorem update_placement_ok_iff (hnonempty : command.manifest ≠ []) :
    (apply_update_placement_v1 sha256 true store committed_index command.key command.manifest).1 = .OK ↔
      name_is_valid store command.key = true ∧ command.ManifestFits sha256 store ∧
        command.ObjectMatches sha256 store := by
  obtain ⟨hne, horder⟩ := index_fresh hindex
  have hlength : command.manifest.length ≠ 0 := by simpa using hnonempty
  unfold apply_update_placement_v1 Command.ManifestFits Command.ObjectMatches
  by_cases hname : name_is_valid store command.key = true
  swap
  · simp [hname]
  by_cases hfits : command.manifest.length ≤ store.max_manifest_bytes
  swap
  · simp [hfits, Nat.lt_of_not_le hfits]
  simp only [hopen, hname, hlength, hne, horder, hfits, Nat.not_lt.mpr hfits, Bool.not_true, Bool.true_eq_false,
    Bool.false_eq_true, or_self, if_false, true_and]
  cases hdecode : decode_manifest sha256 store command.manifest with
  | error result => simp
  | ok incoming =>
    cases hfind : find_entry store command.key with
    | none => simp
    | some found =>
      obtain ⟨slot, entry⟩ := found
      by_cases htombstoned : entry.tombstoned = true
      · simp [htombstoned]
      · cases hstored : decode_manifest sha256 store entry.manifest_bytes with
        | error result => simp [htombstoned, hstored]
        | ok stored =>
          by_cases hsize : incoming.object_cid.size = stored.object_cid.size <;>
            by_cases hdigest : incoming.object_cid.digest = stored.object_cid.digest <;>
              simp [htombstoned, hstored, hsize, hdigest]

theorem tombstone_ok_iff :
    (apply_tombstone_v1 store committed_index command.key).1 = .OK ↔ name_is_valid store command.key = true := by
  obtain ⟨hne, horder⟩ := index_fresh hindex
  unfold apply_tombstone_v1
  by_cases hname : name_is_valid store command.key = true
  · cases hfind : find_entry store command.key <;> simp [hopen, hname, hne, horder]
  · simp [hname]

/-- A command of the right shape at a fresh index that finds room succeeds
exactly when it is executable. -/
theorem Command.execute_ok_iff (hshape : shape_valid command.type command.manifest_bytes = true)
    (hroom : command.HasRoom store) :
    (command.execute sha256 store committed_index).1 = .OK ↔ command.Executable sha256 store := by
  have hmanifest := shape_valid_manifest hshape
  have hnonempty : command.type ≠ .TOMBSTONE → command.manifest ≠ [] := by
    cases hop : command.type <;> simp_all [shape_valid, ← hmanifest]
  unfold Command.execute Command.Executable
  cases hop : command.type with
  | PUT => exact put_ok_iff hopen hindex (hnonempty (by simp [hop])) (hroom hop)
  | UPDATE_PLACEMENT => exact update_placement_ok_iff hopen hindex (hnonempty (by simp [hop]))
  | TOMBSTONE => simpa using tombstone_ok_iff hopen hindex
  | other code => simp [shape_valid, hop] at hshape

end execute

/-- What a namespace command can do to a store: it is refused and changes
nothing, only publishes its index, fills a free slot or rewrites the entry
of its object. -/
inductive Effect (store : Store) (committed_index : UInt64) : Result × Store → Prop
  | rejected (result : Result) (hresult : result ≠ .OK) : Effect store committed_index (result, store)
  | skipped : Effect store committed_index (.OK, { store with applied_index := committed_index })
  | inserted (slot : Nat) (entry : Entry) (hfree : store.entries.free = some slot)
      (hfresh : find_entry store entry.key = none) :
      Effect store committed_index
        (.OK,
          { store with
            entries := store.entries.set slot (some entry), count := store.count + 1
            applied_index := committed_index })
  | rewritten (slot : Nat) (old new : Entry) (hholds : store.entries.Holds slot old) (hkey : new.key = old.key) :
      Effect store committed_index
        (.OK,
          { store with entries := store.entries.set slot (some new), applied_index := committed_index })

variable {entry : turboraft.Entry} {result : Result}

section effect

variable {store : Store} {committed_index : UInt64}

theorem Effect.guard {c : Prop} [Decidable c] {rest : Result × Store} (hresult : result ≠ .OK)
    (hrest : Effect store committed_index rest) :
    Effect store committed_index (if c then (result, store) else rest) :=
  guard_cases (fun _ => .rejected result hresult) fun _ => hrest

variable (sha256 : List UInt8 → Bytes 32)

theorem put_effect (malloc : Bool) (key : Key) (manifest_bytes : List UInt8) :
    Effect store committed_index (apply_put_v1 sha256 malloc store committed_index key manifest_bytes) := by
  refine .guard (by simp) (.guard (by simp) ?_)
  split
  · exact .rejected _ (by simp)
  · cases hfind : find_entry store key with
    | some found =>
      obtain ⟨slot, entry⟩ := found
      exact .guard (by simp) (.rewritten slot entry _ (SlotTable.find_eq_some hfind).1 rfl)
    | none =>
      cases hfree : store.entries.free with
      | none => exact .rejected _ (by simp)
      | some slot => exact .guard (by simp) (.inserted slot _ hfree hfind)

theorem update_placement_effect (malloc : Bool) (key : Key) (manifest_bytes : List UInt8) :
    Effect store committed_index
      (apply_update_placement_v1 sha256 malloc store committed_index key manifest_bytes) := by
  refine .guard (by simp) (.guard (by simp) ?_)
  split
  · exact .rejected _ (by simp)
  · cases hfind : find_entry store key with
    | none => exact .rejected _ (by simp)
    | some found =>
      obtain ⟨slot, entry⟩ := found
      refine .guard (by simp) ?_
      split
      · exact .rejected _ (by simp)
      · exact .guard (by simp) (.guard (by simp) (.rewritten slot entry _ (SlotTable.find_eq_some hfind).1 rfl))

theorem tombstone_effect (key : Key) : Effect store committed_index (apply_tombstone_v1 store committed_index key) := by
  refine .guard (by simp) (.guard (by simp) ?_)
  cases hfind : find_entry store key with
  | some found =>
    obtain ⟨slot, entry⟩ := found
    exact .rewritten slot entry _ (SlotTable.find_eq_some hfind).1 rfl
  | none => exact .skipped

theorem Command.execute_effect (command : Command) (store : Store)
    (committed_index : UInt64) : Effect store committed_index (command.execute sha256 store committed_index) := by
  unfold Command.execute
  cases command.type with
  | PUT => exact put_effect sha256 true _ _
  | UPDATE_PLACEMENT => exact update_placement_effect sha256 true _ _
  | _ => exact tombstone_effect _

variable {outcome : Result × Store} (heffect : Effect store committed_index outcome)

include heffect

theorem Effect.is_open : outcome.2.is_open = store.is_open := by
  cases heffect <;> rfl

/-- A command that succeeds publishes its index. -/
theorem Effect.applied_index (hok : outcome.1 = .OK) : outcome.2.applied_index = committed_index := by
  cases heffect with
  | rejected result hresult => exact absurd hok hresult
  | _ => rfl

end effect

/-- The bytes of a command that the service has accepted from a caller of
`m3_namespace_raft_propose_v1`. -/
def Accepted (max_entry_bytes : Nat) (data : List UInt8) : Prop :=
  ∃ service adapter command_id command,
    ∃ proposal ∈ (raft_propose_v1 max_entry_bytes service adapter command_id command).2, proposal.data = data

/-- Whatever the service accepts decodes to a command of the right shape. -/
theorem Accepted.decode {max_entry_bytes : Nat} {data : List UInt8} (haccepted : Accepted max_entry_bytes data) :
    ∃ command, shape_valid command.type command.manifest_bytes = true ∧
      command_decode_v1 max_entry_bytes data = .ok command := by
  obtain ⟨service, adapter, command_id, command, proposal, hmem, rfl⟩ := haccepted
  unfold raft_propose_v1 at hmem
  split at hmem
  · simp at hmem
  · by_cases hshape : shape_valid command.type command.manifest_bytes = true
    · cases hchecked : checked_frame_size max_entry_bytes command.key.bucket.length
          command.key.object_key.length command.manifest.length with
      | none => simp [command_encode_v1, hshape, hchecked] at hmem
      | some size =>
        have hfits := (checked_frame_size_some hchecked).2.2
        simp only [command_encode_v1, hshape, hchecked, Nat.not_lt.mpr hfits, Bool.not_true, Bool.false_eq_true,
          if_false] at hmem
        refine ⟨command, hshape, ?_⟩
        rw [turboraft.eq_of_mem_accepted hmem]
        exact decode_frame hshape hchecked
    · simp [command_encode_v1, hshape] at hmem

/-- A caller can get every command of the right shape and size accepted. -/
theorem accepted_frame {max_entry_bytes size : Nat} {command : Command}
    (hshape : shape_valid command.type command.manifest_bytes = true)
    (hchecked : checked_frame_size max_entry_bytes command.key.bucket.length command.key.object_key.length
      command.manifest.length = some size) : Accepted max_entry_bytes command.frame := by
  let store : Store :=
    { entries := [], count := 0, max_bucket_bytes := 0, max_object_key_bytes := 0, max_manifest_bytes := 0,
      max_object_bytes := 0, max_chunks := 0, applied_index := 0, is_open := true }
  let adapter : Adapter :=
    { store := store, service := true, pending := [], pending_count := 0, next_read_sequence := 0, is_open := true }
  have hfits := (checked_frame_size_some hchecked).2.2
  refine ⟨fun _ => .OK, adapter, 1, command, { command_id := 1, data := command.frame }, ?_, rfl⟩
  simp [raft_propose_v1, adapter, command_encode_v1, hshape, hchecked, Nat.not_lt.mpr hfits,
    turboraft.propose_with_receipt]

section run

variable (sha256 : List UInt8 → Bytes 32) (max_entry_bytes : Nat)

/-- The entry's command can be carried out by the time it commits. -/
def EntryExecutable (adapter : Adapter) (entry : turboraft.Entry) : Prop :=
  ∃ command, command_decode_v1 max_entry_bytes entry.data = .ok command ∧
    command.Executable sha256 adapter.store

/-- The entry does not exhaust the table. -/
def EntryHasRoom (adapter : Adapter) (entry : turboraft.Entry) : Prop :=
  ∀ command, command_decode_v1 max_entry_bytes entry.data = .ok command → command.HasRoom adapter.store

variable {sha256 max_entry_bytes}

theorem map_store_result_ok_iff : map_store_result result = .OK ↔ result = .OK := by
  cases result <;> simp [map_store_result]

section

variable {adapter : Adapter} (hopen : adapter.store.is_open = true)

include hopen

/-- An accepted entry at a fresh index succeeds exactly when its command can be
carried out. -/
theorem apply_entry_ok_iff (hindex : adapter.store.applied_index < entry.index)
    (haccepted : Accepted max_entry_bytes entry.data) (hroom : EntryHasRoom max_entry_bytes adapter entry) :
    (apply_entry sha256 max_entry_bytes adapter entry).1 = .OK ↔
      EntryExecutable sha256 max_entry_bytes adapter entry := by
  obtain ⟨command, hshape, hdecode⟩ := haccepted.decode
  simp [apply_entry, EntryExecutable, hdecode, map_store_result_ok_iff,
    Command.execute_ok_iff hopen hindex hshape (hroom command hdecode)]

theorem apply_entry_next (haccepted : Accepted max_entry_bytes entry.data)
    (hok : (apply_entry sha256 max_entry_bytes adapter entry).1 = .OK) :
    (apply_entry sha256 max_entry_bytes adapter entry).2.store.is_open = true ∧
      (apply_entry sha256 max_entry_bytes adapter entry).2.store.applied_index = entry.index := by
  obtain ⟨command, _, hdecode⟩ := haccepted.decode
  have heffect := command.execute_effect sha256 adapter.store entry.index
  simp only [apply_entry, hdecode, map_store_result_ok_iff] at hok ⊢
  exact ⟨heffect.is_open.trans hopen, heffect.applied_index hok⟩

end

theorem apply_entry_is_open (adapter : Adapter) (entry : turboraft.Entry) :
    (apply_entry sha256 max_entry_bytes adapter entry).2.is_open = adapter.is_open := by
  unfold apply_entry
  split <;> rfl

/-- An adapter over a newly initialised store. -/
def fresh_adapter (capacity max_bucket_bytes max_object_key_bytes max_manifest_bytes : Nat)
    (max_object_bytes : UInt64) (max_chunks max_pending_reads : Nat) : Option Adapter := do
  let store ← (store_init_v1 capacity max_bucket_bytes max_object_key_bytes max_manifest_bytes max_object_bytes
    max_chunks true).2
  (adapter_create_v1 store max_pending_reads true).2

/-- The adapters that initialisation can produce. -/
abbrev FreshAdapter :=
  { adapter : Adapter // ∃ capacity max_bucket_bytes max_object_key_bytes max_manifest_bytes max_object_bytes
      max_chunks max_pending_reads,
      fresh_adapter capacity max_bucket_bytes max_object_key_bytes max_manifest_bytes max_object_bytes max_chunks
        max_pending_reads = some adapter }

/-- The state that every fresh adapter starts from. -/
structure Adapter.Initial (adapter : Adapter) : Prop where
  is_open : adapter.is_open = true
  store_open : adapter.store.is_open = true
  applied_index : adapter.store.applied_index = 0
  pending : adapter.pending = List.replicate adapter.pending.length none
  pending_count : adapter.pending_count = 0
  next_read_sequence : adapter.next_read_sequence = 0

theorem FreshAdapter.initial (adapter : FreshAdapter) : adapter.1.Initial := by
  obtain ⟨adapter, capacity, max_bucket_bytes, max_object_key_bytes, max_manifest_bytes, max_object_bytes, max_chunks,
    max_pending_reads, hfresh⟩ := adapter
  unfold fresh_adapter store_init_v1 at hfresh
  split at hfresh
  · simp at hfresh
  · simp only [Bool.true_eq_false, if_false, Option.bind_eq_bind, Option.bind_some, adapter_create_v1,
      false_or] at hfresh
    split at hfresh
    · simp at hfresh
    · cases hfresh
      exact ⟨rfl, rfl, rfl, by simp, rfl, rfl⟩

/-- On every committed log of accepted namespace commands that leaves room in
the table, `apply_batch` always succeeds exactly when every command can be
carried out. -/
theorem apply_batch_ok_iff (adapter : FreshAdapter) (log : turboraft.CommittedLog (Accepted max_entry_bytes))
    (hroom : Log.Throughout (apply_entry sha256 max_entry_bytes) (EntryHasRoom max_entry_bytes) adapter.1
      log.entries) :
    (∀ answer ∈ Machine.answers (apply_batch sha256 max_entry_bytes) adapter.1 log.batches, answer = .OK) ↔
      Log.Throughout (apply_entry sha256 max_entry_bytes) (EntryExecutable sha256 max_entry_bytes) adapter.1
        log.entries := by
  have hinitial := adapter.initial
  exact turboraft.committed_ok_iff (fun adapter => adapter.store.is_open = true)
    (fun adapter => adapter.store.applied_index) log apply_entry_is_open
    (fun _ _ hopen hindex haccepted hroom => apply_entry_ok_iff hopen hindex haccepted hroom)
    (fun _ _ hopen _ haccepted hok => apply_entry_next hopen haccepted hok) hinitial.is_open hinitial.store_open
    hinitial.applied_index hroom

end run

section empty_object

open m3_object_manifest

/-- An object without chunks. -/
def empty_object : ManifestV1 :=
  { version := VERSION
    object_cid :=
      { hash_algorithm := HASH_ALGORITHM_SHA256, size := 0, digest := List.Vector.replicate 32 1 }
    chunks := [] }

/-- The empty object as every version 2 reader sees it. -/
def empty_object_view : ManifestV2 :=
  { version := VERSION_2, object_cid := empty_object.object_cid, chunks := [], placements := [] }

/-- The name that the empty object is stored under. -/
def sample_key : Key :=
  { tenant_id := List.Vector.replicate 32 1, bucket := [98], object_key := [107] }

def object_command (type : CommandType) (manifest_bytes : Option (List UInt8)) : Command :=
  { type, key := sample_key, manifest_bytes }

def sample_adapter : FreshAdapter :=
  ⟨{ store :=
      { entries := List.replicate 2 none, count := 0, max_bucket_bytes := 16, max_object_key_bytes := 16
        max_manifest_bytes := 1024, max_object_bytes := 1024, max_chunks := 4, applied_index := 0, is_open := true }
     service := false
     pending := List.replicate 2 none
     pending_count := 0
     next_read_sequence := 0
     is_open := true }, 2, 16, 16, 1024, 1024, 4, 2, rfl⟩

/-- The store once the empty object has been written or deleted. -/
def object_store (tombstoned : Bool) (manifest_bytes : List UInt8) (index : UInt64) : Store :=
  { sample_adapter.1.store with
    entries :=
      [some
        { tombstoned, tenant_id := sample_key.tenant_id, bucket := sample_key.bucket
          object_key := sample_key.object_key, manifest_bytes, committed_index := index }, none]
    count := 1
    applied_index := index }

/-- Small commands of the right shape are accepted and decode to themselves. -/
theorem object_command_accepted {type : CommandType} {manifest_bytes : Option (List UInt8)}
    (hshape : shape_valid type manifest_bytes = true) (hsize : (manifest_bytes.getD []).length ≤ 104) :
    Accepted 512 (object_command type manifest_bytes).frame ∧
      command_decode_v1 512 (object_command type manifest_bytes).frame = .ok (object_command type manifest_bytes) := by
  have hchecked : checked_frame_size 512 1 1 (manifest_bytes.getD []).length =
      some (COMMAND_HEADER_SIZE + 1 + 1 + (manifest_bytes.getD []).length) := by
    unfold checked_frame_size
    rw [if_neg (by omega), if_neg (by simp only [COMMAND_HEADER_SIZE]; omega)]
  exact ⟨accepted_frame hshape hchecked, decode_frame hshape hchecked⟩

theorem tombstone_accepted :
    Accepted 512 (object_command .TOMBSTONE none).frame ∧
      command_decode_v1 512 (object_command .TOMBSTONE none).frame = .ok (object_command .TOMBSTONE none) :=
  object_command_accepted rfl (by simp)

variable (sha256 : List UInt8 → Bytes 32)

def empty_object_bytes : List UInt8 :=
  frame_v1 empty_object (envelope_digest_at sha256 (frame_v1 empty_object (List.replicate 32 0)) 72).toList

theorem length_empty_object_bytes : (empty_object_bytes sha256).length = 104 :=
  length_frame_v1 empty_object _

theorem empty_object_bytes_ne_nil : empty_object_bytes sha256 ≠ [] := by
  intro hnil
  have hlength := length_empty_object_bytes sha256
  simp [hnil] at hlength

theorem put_accepted :
    Accepted 512 (object_command .PUT (some (empty_object_bytes sha256))).frame ∧
      command_decode_v1 512 (object_command .PUT (some (empty_object_bytes sha256))).frame =
        .ok (object_command .PUT (some (empty_object_bytes sha256))) :=
  object_command_accepted (by simp [shape_valid, empty_object_bytes_ne_nil sha256])
    (length_empty_object_bytes sha256).le

theorem update_accepted :
    Accepted 512 (object_command .UPDATE_PLACEMENT (some (empty_object_bytes sha256))).frame ∧
      command_decode_v1 512 (object_command .UPDATE_PLACEMENT (some (empty_object_bytes sha256))).frame =
        .ok (object_command .UPDATE_PLACEMENT (some (empty_object_bytes sha256))) :=
  object_command_accepted (by simp [shape_valid, empty_object_bytes_ne_nil sha256])
    (length_empty_object_bytes sha256).le

theorem decode_empty_object (store : Store) (hobject : store.max_object_bytes = 1024) (hchunks : store.max_chunks = 4) :
    decode_manifest sha256 store (empty_object_bytes sha256) = .ok empty_object_view := by
  have hdecode : m3_object_manifest.decode_v1 sha256 (empty_object_bytes sha256) 1024 4 = .ok empty_object :=
    decode_frame_v1 (by decide +kernel) (by decide) (envelope_digest_frame_v1 empty_object _ sha256)
  obtain ⟨_, hversion, _⟩ := frame_v1_fields empty_object
    (envelope_digest_at sha256 (frame_v1 empty_object (List.replicate 32 0)) 72)
  have hlength := length_empty_object_bytes sha256
  unfold empty_object_bytes at hdecode hlength ⊢
  simp only [decode_manifest, m3_object_manifest.decode_v2, hobject, hchunks, hversion, hlength, hdecode]
  rfl

theorem execute_put :
    (object_command .PUT (some (empty_object_bytes sha256))).execute sha256 sample_adapter.1.store 1 =
      (.OK, object_store false (empty_object_bytes sha256) 1) := by
  have hlength := length_empty_object_bytes sha256
  have hobject := decode_empty_object sha256 sample_adapter.1.store rfl rfl
  have hname : name_is_valid sample_adapter.1.store sample_key = true := by decide +kernel
  have hfind : find_entry sample_adapter.1.store sample_key = none := by decide +kernel
  have hfree : sample_adapter.1.store.entries.free = some 0 := by decide +kernel
  have hfits : ¬ 104 > sample_adapter.1.store.max_manifest_bytes := by decide
  have horder : ¬ (1 : UInt64) ≤ sample_adapter.1.store.applied_index := by decide
  have hopen : sample_adapter.1.store.is_open = true := rfl
  simp only [Command.execute, Command.manifest, object_command, Option.getD_some, apply_put_v1, hlength, hname, hfits,
    horder, hopen, hobject, hfind, hfree]
  rfl

theorem execute_tombstone (manifest_bytes : List UInt8) :
    (object_command .TOMBSTONE none).execute sha256 (object_store false manifest_bytes 1) 2 =
      (.OK, object_store true [] 2) :=
  rfl

/-- What a command does to a store it does to every adapter of this store. -/
theorem apply_object_command {command : Command} {store next : Store} {index : UInt64}
    {result : m3_namespace_local_store.Result}
    (hdecode : command_decode_v1 512 command.frame = .ok command)
    (hexecute : command.execute sha256 store index = (result, next)) (adapter : Adapter)
    (hstore : adapter.store = store) :
    apply_entry sha256 512 adapter ⟨index, command.frame⟩ =
      (map_store_result result, { adapter with store := next }) := by
  subst hstore
  simp [apply_entry, hdecode, hexecute]

end empty_object

end turbop2p.m3_namespace_raft
