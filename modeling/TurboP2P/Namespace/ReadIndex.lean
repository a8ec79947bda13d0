import TurboP2P.Namespace.Outcome
import TurboP2P.Namespace.PendingReads

open turbop2p.m3_namespace_local_store
open turbop2p.turboraft (TurboResult)
open SlotTable

namespace turbop2p.m3_namespace_raft

/-- `tr_raft_read_state_t`: the answer of the raft service to a read request. -/
structure ReadState where
  context_id : UInt64
  index : UInt64
  deriving DecidableEq

/-- The call of a completion callback. -/
structure Completion where
  callback : Nat
  result : LookupResult
  response : Option LookupResponse
  deriving DecidableEq

/-- `complete_linearizable_lookup`: the slot is cleared before the callback
runs, and the response carries the index of the read state. -/
def complete_linearizable_lookup (adapter : Adapter) (slot : Nat) (pending : PendingRead) (safe_index : UInt64)
    (result : LookupResult) (response : Option LookupResponse) : Completion × Adapter :=
  match result, response with
  | .OK, some response =>
    ({ callback := pending.callback, result := .OK
       response := some { response with applied_index := safe_index, linearizable := true } }, release adapter slot)
  | result, _ => ({ callback := pending.callback, result := result, response := none }, release adapter slot)

/-- The body of the loop of `m3_namespace_raft_adapter_poll_v1`: the read state
is answered from the local store, and calling the callback is the last
thing that a round does. -/
def poll_entry (adapter : Adapter) (read_state : ReadState) : TurboResult × Option Completion × Adapter :=
  match find_pending_by_context adapter read_state.context_id with
  | none => (.EPROTO, none, adapter)
  | some (slot, pending) =>
    let lookup := local_lookup_start adapter.store { key := pending.key, require_linearizable := true }
    if lookup.1 ≠ .OK then
      (.OK, some { callback := pending.callback, result := lookup.1, response := none }, release adapter slot)
    else
      match lookup.2 with
      | none => (.EPROTO, none, adapter)
      | some (result, response) =>
        let completed := complete_linearizable_lookup adapter slot pending read_state.index result response
        (.OK, some completed.1, completed.2)

/-- A completed lookup, with the index that the store had applied when it was
evaluated. -/
structure Report where
  completion : Completion
  evaluated_at : UInt64
  deriving DecidableEq

/-- An adapter with its history: lookups are numbered as they are started, and
the number of a lookup stands for its callback. -/
structure World where
  adapter : Adapter
  lookups : Nat
  accepted : List Nat
  reports : List Report
  deriving DecidableEq

/-- The calls that can interleave. A poll is cut into its rounds, each of which
takes one read state: whatever a callback does happens between two
rounds. -/
inductive Event where
  | bind
  | lookup (request : LookupRequest) (read_index : TurboResult)
  | apply (entries : List turboraft.Entry)
  | poll (read_state : ReadState)

inductive Answer where
  | turbo (result : TurboResult)
  | lookup (result : LookupResult)
  deriving DecidableEq

section run

variable (sha256 : List UInt8 → Bytes 32) (max_entry_bytes : Nat)

def World.step (world : World) (event : Event) : Answer × World :=
  match event with
  | .bind =>
    let bound := bind_service_v1 world.adapter
    (.turbo bound.1, { world with adapter := bound.2 })
  | .lookup request read_index =>
    let started := lookup_start max_entry_bytes (fun _ => read_index) world.adapter request (some world.lookups)
    (.lookup started.1,
      { world with
        adapter := started.2, lookups := world.lookups + 1
        accepted := if started.1 = .OK then world.accepted ++ [world.lookups] else world.accepted })
  | .apply entries =>
    let applied := apply_batch sha256 max_entry_bytes world.adapter entries
    (.turbo applied.1, { world with adapter := applied.2 })
  | .poll read_state =>
    let polled := poll_entry world.adapter read_state
    (.turbo polled.1,
      { world with
        adapter := polled.2.2
        reports := world.reports ++ polled.2.1.toList.map fun completion =>
          { completion, evaluated_at := world.adapter.store.applied_index } })

def World.run (world : World) (events : List Event) : World :=
  Machine.run (fun world event => (world.step sha256 max_entry_bytes event).2) world events

/-- The loop of `m3_namespace_raft_adapter_poll_v1` over the read states that
the service hands out until it answers `stop`, each with the calls that the
callback makes. -/
def poll_rounds (stop : TurboResult) :
    World → List (ReadState × List Event) → Nat → (TurboResult × Nat) × World
  | world, [], completed => if stop = .ENOENT then ((.OK, completed), world) else ((stop, 0), world)
  | world, (read_state, calls) :: rest, completed =>
    let polled := world.step sha256 max_entry_bytes (.poll read_state)
    if polled.1 = .turbo .OK then
      poll_rounds stop (polled.2.run sha256 max_entry_bytes calls) rest (completed + 1)
    else (((poll_entry world.adapter read_state).1, 0), polled.2)

/-- `m3_namespace_raft_adapter_poll_v1`, with the count that it reports. -/
def poll_v1 (stop : TurboResult) (world : World) (taken : List (ReadState × List Event)) :
    (TurboResult × Nat) × World :=
  if world.adapter.is_open = false ∨ world.adapter.service = false then ((.EINVAL, 0), world)
  else poll_rounds sha256 max_entry_bytes stop world taken 0

theorem poll_rounds_run (stop : TurboResult) (world : World) (taken : List (ReadState × List Event)) (completed : Nat) :
    ∃ events, (poll_rounds sha256 max_entry_bytes stop world taken completed).2 =
      world.run sha256 max_entry_bytes events := by
  induction taken generalizing world completed with
  | nil =>
    unfold poll_rounds
    split <;> exact ⟨[], rfl⟩
  | cons round rest ih =>
    obtain ⟨read_state, calls⟩ := round
    simp only [poll_rounds]
    split
    · obtain ⟨events, hevents⟩ := ih ((world.step sha256 max_entry_bytes (.poll read_state)).2.run sha256
        max_entry_bytes calls) (completed + 1)
      refine ⟨.poll read_state :: calls ++ events, ?_⟩
      rw [hevents]
      exact (Machine.run_append _ _ calls events).symm
    · exact ⟨[.poll read_state], rfl⟩

/-- A poll call is a run of its rounds and of the calls that its callbacks
make. -/
theorem poll_v1_run (stop : TurboResult) (world : World) (taken : List (ReadState × List Event)) :
    ∃ events, (poll_v1 sha256 max_entry_bytes stop world taken).2 = world.run sha256 max_entry_bytes events := by
  unfold poll_v1
  split
  · exact ⟨[], rfl⟩
  · exact poll_rounds_run sha256 max_entry_bytes stop world taken 0

end run

/-- The local lookup either refuses the request, or it calls back once. -/
theorem local_lookup_start_cases (store : Store) (request : LookupRequest) :
    local_lookup_start store request = (.INVALID_ARG, none) ∨
      local_lookup_start store request = (.OK, some (.NOT_FOUND, none)) ∨
      ∃ response, local_lookup_start store request = (.OK, some (.OK, some response)) := by
  unfold local_lookup_start
  split
  · exact .inl rfl
  · split
    · exact .inr (.inl rfl)
    · split
      · exact .inr (.inl rfl)
      · exact .inr (.inr ⟨_, rfl⟩)

def PendingRead.Answered (pending : PendingRead) (store : Store) : Prop :=
  ∃ response, local_lookup_start store { key := pending.key, require_linearizable := true } =
    (.OK, some (.OK, some response))

/-- A round of a poll that completes a pending read. -/
structure Completes (adapter : Adapter) (read_state : ReadState) (slot : Nat) (pending : PendingRead)
    (completion : Completion) : Prop where
  round : poll_entry adapter read_state = (.OK, some completion, release adapter slot)
  callback : completion.callback = pending.callback
  reported : ∀ response, completion.response = some response →
    response.linearizable = true ∧ response.applied_index = read_state.index
  answered : completion.response.isSome ↔ pending.Answered adapter.store

variable {adapter : Adapter} {read_state : ReadState}

/-- A round completes the pending read of its context and no other. -/
theorem poll_entry_completes {slot : Nat} {pending : PendingRead}
    (hfind : find_pending_by_context adapter read_state.context_id = some (slot, pending)) :
    ∃ completion, Completes adapter read_state slot pending completion := by
  rcases local_lookup_start_cases adapter.store { key := pending.key, require_linearizable := true } with
    hlookup | hlookup | ⟨response, hlookup⟩
  · refine ⟨{ callback := pending.callback, result := .INVALID_ARG, response := none }, ?_, rfl, by simp, ?_⟩
    · simp only [poll_entry, hfind, hlookup]
      rfl
    · simp [PendingRead.Answered, hlookup]
  · refine ⟨{ callback := pending.callback, result := .NOT_FOUND, response := none }, ?_, rfl, by simp, ?_⟩
    · simp only [poll_entry, hfind, hlookup]
      rfl
    · simp [PendingRead.Answered, hlookup]
  · refine ⟨{ callback := pending.callback, result := .OK
              response := some { response with applied_index := read_state.index, linearizable := true } },
      ?_, rfl, by simp, ?_⟩
    · simp only [poll_entry, hfind, hlookup]
      rfl
    · simp [PendingRead.Answered, hlookup]

theorem poll_entry_unknown (hfind : find_pending_by_context adapter read_state.context_id = none) :
    poll_entry adapter read_state = (.EPROTO, none, adapter) := by
  simp [poll_entry, hfind]

/-- Applying commands does not touch the pending reads. -/
theorem apply_batch_pending (sha256 : List UInt8 → Bytes 32) (max_entry_bytes : Nat) (adapter : Adapter)
    (entries : List turboraft.Entry) :
    (apply_batch sha256 max_entry_bytes adapter entries).2.pending = adapter.pending ∧
      (apply_batch sha256 max_entry_bytes adapter entries).2.pending_count = adapter.pending_count := by
  have hkeep : ∀ adapter entry, (apply_entry sha256 max_entry_bytes adapter entry).2.pending = adapter.pending ∧
      (apply_entry sha256 max_entry_bytes adapter entry).2.pending_count = adapter.pending_count := by
    intro adapter entry
    unfold apply_entry
    split <;> exact ⟨rfl, rfl⟩
  exact ⟨turboraft.apply_entries_keeps (fun adapter entry => (hkeep adapter entry).1) entries,
    turboraft.apply_entries_keeps (fun adapter entry => (hkeep adapter entry).2) entries⟩

/-- The pending table is in order, and every accepted lookup is either still
pending or has called back once. -/
structure World.Inv (world : World) : Prop where
  pending : world.adapter.PendingInv
  outcomes : world.accepted.Perm (world.reports.map (·.completion.callback) ++
    world.adapter.pending.live.map PendingRead.callback)
  once : world.accepted.Nodup
  started : ∀ callback ∈ world.accepted, callback < world.lookups

section run

variable (sha256 : List UInt8 → Bytes 32) (max_entry_bytes : Nat)

section

variable {world : World} (hinv : world.Inv)

include hinv

theorem lookup_keeps_inv (request : LookupRequest) (read_index : TurboResult) :
    (world.step sha256 max_entry_bytes (.lookup request read_index)).2.Inv := by
  obtain ⟨hpending, htable⟩ := lookup_start_inv max_entry_bytes (fun _ => read_index) hinv.pending request world.lookups
  have hlater : ∀ callback ∈ world.accepted, callback < world.lookups + 1 :=
    fun callback hmem => Nat.lt_succ_of_lt (hinv.started callback hmem)
  simp only [World.step]
  split at htable
  case isTrue hok =>
    simp only [hok, if_true]
    refine ⟨hpending, ?_, ?_, ?_⟩
    · have hadded := (List.perm_append_singleton _ _).trans (hinv.outcomes.cons world.lookups)
      exact hadded.trans (List.perm_middle.symm.trans (htable.symm.append_left _))
    · refine List.nodup_append.mpr ⟨hinv.once, by simp, ?_⟩
      intro callback hmem other hother
      have hlt := hinv.started callback hmem
      simp only [List.mem_singleton] at hother
      omega
    · simpa [or_imp, forall_and] using hlater
  case isFalse hok =>
    simp only [hok, if_false]
    exact ⟨hpending, htable ▸ hinv.outcomes, hinv.once, hlater⟩

theorem poll_keeps_inv (read_state : ReadState) : (world.step sha256 max_entry_bytes (.poll read_state)).2.Inv := by
  simp only [World.step]
  cases hfind : find_pending_by_context world.adapter read_state.context_id with
  | none =>
    rw [poll_entry_unknown hfind]
    exact ⟨hinv.pending, by simpa using hinv.outcomes, hinv.once, hinv.started⟩
  | some found =>
    obtain ⟨completion, hcompletes⟩ := poll_entry_completes hfind
    obtain ⟨hreleased, hperm⟩ := release_inv hinv.pending (find_eq_some hfind).1
    rw [hcompletes.round]
    refine ⟨hreleased, ?_, hinv.once, hinv.started⟩
    have hmoved := hperm.symm.map PendingRead.callback
    simpa [hcompletes.callback] using hinv.outcomes.trans (hmoved.append_left _)

/-- No call of the adapter breaks the invariant. -/
theorem World.Inv.step (event : Event) : (world.step sha256 max_entry_bytes event).2.Inv := by
  cases event with
  | bind =>
    simp only [World.step, bind_service_v1]
    split
    · exact hinv
    · exact ⟨⟨hinv.pending.capacity, hinv.pending.count, hinv.pending.contexts⟩, hinv.outcomes, hinv.once, hinv.started⟩
  | lookup request read_index => exact lookup_keeps_inv sha256 max_entry_bytes hinv request read_index
  | apply entries =>
    obtain ⟨hpending, hcount⟩ := apply_batch_pending sha256 max_entry_bytes world.adapter entries
    refine ⟨⟨?_, ?_, ?_⟩, ?_, hinv.once, hinv.started⟩
    · simpa [World.step, hpending] using hinv.pending.capacity
    · simpa [World.step, hpending, hcount] using hinv.pending.count
    · simpa [World.step, hpending] using hinv.pending.contexts
    · simpa [World.step, hpending] using hinv.outcomes
  | poll read_state => exact poll_keeps_inv sha256 max_entry_bytes hinv read_state

theorem World.Inv.run (events : List Event) : (world.run sha256 max_entry_bytes events).Inv :=
  Machine.run_invariant hinv (fun _ event hinv => hinv.step sha256 max_entry_bytes event) events

end

/-- A response that is reported as linearizable at an index comes from a store
that has applied this index. -/
def Report.Linearizable (report : Report) : Prop :=
  ∀ response, report.completion.response = some response → response.linearizable = true →
    response.applied_index ≤ report.evaluated_at

/-- A read state for an object that is present is taken only when the store
has caught up with it. -/
def World.ReadApplied (world : World) (event : Event) : Prop :=
  match event with
  | .poll read_state =>
    ∀ slot pending, find_pending_by_context world.adapter read_state.context_id = some (slot, pending) →
      pending.Answered world.adapter.store → read_state.index ≤ world.adapter.store.applied_index
  | _ => True

/-- The reports of one call are linearizable exactly when its read state was
applied. -/
theorem step_linearizable_iff (world : World) (event : Event) :
    (∀ report ∈ (world.step sha256 max_entry_bytes event).2.reports, report.Linearizable) ↔
      (∀ report ∈ world.reports, report.Linearizable) ∧ world.ReadApplied event := by
  cases event with
  | poll read_state =>
    simp only [World.step, World.ReadApplied]
    cases hfind : find_pending_by_context world.adapter read_state.context_id with
    | none => simp [poll_entry_unknown hfind]
    | some found =>
      obtain ⟨slot, pending⟩ := found
      obtain ⟨completion, hcompletes⟩ := poll_entry_completes hfind
      have hreport : Report.Linearizable ⟨completion, world.adapter.store.applied_index⟩ ↔
          (pending.Answered world.adapter.store → read_state.index ≤ world.adapter.store.applied_index) := by
        rw [← hcompletes.answered]
        cases hresponse : completion.response with
        | none => simp [Report.Linearizable, hresponse]
        | some response =>
          obtain ⟨hlinearizable, hindex⟩ := hcompletes.reported response hresponse
          simp [Report.Linearizable, hresponse, hlinearizable, hindex]
      simp [hcompletes.round, or_imp, forall_and, hreport]
  | _ => simp [World.step, World.ReadApplied]

theorem run_linearizable_iff (world : World) (events : List Event) :
    (∀ report ∈ (world.run sha256 max_entry_bytes events).reports, report.Linearizable) ↔
      (∀ report ∈ world.reports, report.Linearizable) ∧
        Log.Throughout (World.step sha256 max_entry_bytes) World.ReadApplied world events := by
  induction events generalizing world with
  | nil => simp [World.run, Machine.run, Log.Throughout]
  | cons event rest ih =>
    have hstep := step_linearizable_iff sha256 max_entry_bytes world event
    have hrest := ih (world.step sha256 max_entry_bytes event).2
    rw [hstep, and_assoc] at hrest
    exact hrest

end run

/-- The adapters that creation over an open store can produce. -/
abbrev CreatedAdapter :=
  { adapter : Adapter // ∃ store max_pending_reads,
      (adapter_create_v1 store max_pending_reads true).2 = some adapter }

/-- A new adapter, before any lookup. -/
def CreatedAdapter.world (adapter : CreatedAdapter) : World :=
  { adapter := adapter.1, lookups := 0, accepted := [], reports := [] }

theorem CreatedAdapter.inv (adapter : CreatedAdapter) : adapter.world.Inv := by
  obtain ⟨adapter, store, max_pending_reads, hcreated⟩ := adapter
  unfold adapter_create_v1 at hcreated
  split at hcreated
  · simp at hcreated
  · simp only [Bool.true_eq_false, if_false, Option.some.injEq] at hcreated
    subst hcreated
    have hlive : live (List.replicate max_pending_reads (none : Option PendingRead)) = [] := by
      simp [live]
    refine ⟨⟨?_, ?_, ?_⟩, ?_, List.nodup_nil, by simp [CreatedAdapter.world]⟩
    · simp only [CreatedAdapter.world, List.length_replicate]
      omega
    · simp [CreatedAdapter.world, hlive]
    · intro i j a b ha
      exact absurd ha (not_holds_replicate_none max_pending_reads i a)
    · simp [CreatedAdapter.world, hlive]

/-- In every interleaving of lookups, applied commands and poll rounds from a
new adapter: the lookups that are reported as linearizable were evaluated on
a store that had applied their index exactly when no read state of a present
object was taken ahead of the store. Every accepted lookup calls back at
most once, the pending count is that of the active slots, and their context
ids are distinct, whatever the order. A poll call with all its rounds goes on
with such a run. -/
theorem lookups_linearizable_iff (sha256 : List UInt8 → Bytes 32) (max_entry_bytes : Nat) (adapter : CreatedAdapter)
    (events : List Event) :
    let world := adapter.world.run sha256 max_entry_bytes events
    ((∀ report ∈ world.reports, report.Linearizable) ↔
        Log.Throughout (World.step sha256 max_entry_bytes) World.ReadApplied adapter.world events) ∧
      (world.reports.map fun report => report.completion.callback).Nodup ∧
      (∀ report ∈ world.reports, report.completion.callback ∈ world.accepted) ∧
      world.adapter.pending_count = world.adapter.pending.live.length ∧
      (world.adapter.pending.live.Pairwise fun read later => read.context_id ≠ later.context_id) ∧
      ∀ stop taken, ∃ more, (poll_v1 sha256 max_entry_bytes stop world taken).2 =
        adapter.world.run sha256 max_entry_bytes (events ++ more) := by
  intro world
  have hinv : world.Inv := adapter.inv.run sha256 max_entry_bytes events
  have hlinearizable := run_linearizable_iff sha256 max_entry_bytes adapter.world events
  have honce := hinv.outcomes.nodup_iff.mp hinv.once
  refine ⟨hlinearizable.trans (and_iff_right (by simp [CreatedAdapter.world])), (List.nodup_append.mp honce).1, ?_,
    hinv.pending.count, distinct_iff_pairwise.mp hinv.pending.contexts, ?_⟩
  · intro report hreport
    exact hinv.outcomes.mem_iff.mpr (List.mem_append_left _ (List.mem_map_of_mem hreport))
  · intro stop taken
    obtain ⟨more, hmore⟩ := poll_v1_run sha256 max_entry_bytes stop world taken
    exact ⟨more, hmore.trans (Machine.run_append _ _ events more).symm⟩

/-- No accepted lookup is lost: each is reported once or still pending. -/
theorem lookups_never_lost (sha256 : List UInt8 → Bytes 32) (max_entry_bytes : Nat) (adapter : CreatedAdapter)
    (events : List Event) :
    let world := adapter.world.run sha256 max_entry_bytes events
    world.accepted.Perm (world.reports.map (·.completion.callback) ++
      world.adapter.pending.live.map PendingRead.callback) ∧ world.accepted.Nodup := by
  intro world
  have hinv : world.Inv := adapter.inv.run sha256 max_entry_bytes events
  exact ⟨hinv.outcomes, hinv.once⟩

section stale_read

variable (sha256 : List UInt8 → Bytes 32)

/-- An object is written at index 1 and its deletion commits at index 2. The
read state of a lookup arrives before the deletion is applied. -/
def stale_read : List Event :=
  [.apply [⟨1, (object_command .PUT (some (empty_object_bytes sha256))).frame⟩], .bind,
    .lookup { key := sample_key, require_linearizable := true } .OK,
    .poll { context_id := 0x4d33000000000001, index := 2 },
    .apply [⟨2, (object_command .TOMBSTONE none).frame⟩]]

def sample_world : World := CreatedAdapter.world ⟨sample_adapter.1, sample_adapter.1.store, 2, rfl⟩

/-- What the caller of the lookup is told, from a store at index 1. -/
def stale_report : Report :=
  { completion :=
      { callback := 0, result := .OK
        response := some
          { manifest_bytes := empty_object_bytes sha256, applied_index := 2, linearizable := true } }
    evaluated_at := 1 }

/-- The object has been written. -/
def written_world : World :=
  { sample_world with
    adapter :=
      { sample_world.adapter with store := object_store false (empty_object_bytes sha256) 1 } }

/-- The lookup has been answered. -/
def read_world : World :=
  { adapter :=
      { (written_world sha256).adapter with service := true, next_read_sequence := 1 }
    lookups := 1
    accepted := [0]
    reports := [stale_report sha256] }

theorem stale_read_put :
    sample_world.step sha256 512
        (.apply [⟨1, (object_command .PUT (some (empty_object_bytes sha256))).frame⟩]) =
      (.turbo .OK, written_world sha256) := by
  have hput := apply_object_command sha256 (put_accepted sha256).2 (execute_put sha256) sample_world.adapter rfl
  have hopen : sample_world.adapter.is_open = true := rfl
  simp only [World.step, apply_batch, turboraft.apply_entries, Log.apply, hput, hopen]
  rfl

theorem stale_read_tombstone :
    ((read_world sha256).step sha256 512 (.apply [⟨2, (object_command .TOMBSTONE none).frame⟩])).1 = .turbo .OK := by
  rfl

/-- The lookup is pending. -/
def pending_adapter : Adapter :=
  { (written_world sha256).adapter with
    service := true, pending := [some { context_id := 0x4d33000000000001, key := sample_key, callback := 0 }, none]
    pending_count := 1, next_read_sequence := 1 }

theorem stale_read_lookup :
    lookup_start 512 (fun _ => .OK) { (written_world sha256).adapter with service := true }
      { key := sample_key, require_linearizable := true } (some 0) = (.OK, pending_adapter sha256) := by
  have hpending : (written_world sha256).adapter.pending = [none, none] := rfl
  have hcount : (written_world sha256).adapter.pending_count = 0 := rfl
  have hsequence : (written_world sha256).adapter.next_read_sequence = 0 := rfl
  have hopen : (written_world sha256).adapter.is_open = true := rfl
  have hnext : next_sequence 0 = 1 := by decide
  have hadd : Word.add 0 1 = 1 := by decide
  have hid : READ_CONTEXT_PREFIX ||| 1 = 0x4d33000000000001 := by decide
  simp [lookup_start, hpending, hcount, hopen, sample_key, free, allocate_context_id, allocate_attempts,
    find_pending_by_context, find, hnext, hsequence, hid, hadd, occupy, pending_adapter]

theorem stale_read_poll :
    poll_entry (pending_adapter sha256) { context_id := 0x4d33000000000001, index := 2 } =
      (.OK, some (stale_report sha256).completion, (read_world sha256).adapter) := by
  have hfind : find_pending_by_context (pending_adapter sha256) 0x4d33000000000001 =
      some (0, { context_id := 0x4d33000000000001, key := sample_key, callback := 0 }) := by
    simp [find_pending_by_context, pending_adapter, find]
  have hlookup : local_lookup_start (pending_adapter sha256).store
      { key := sample_key, require_linearizable := true } =
        (.OK, some (.OK, some ⟨empty_object_bytes sha256, 1, true⟩)) := rfl
  have hcount : Word.sub 1 1 = 0 := by decide
  simp only [poll_entry, hfind, hlookup]
  simp only [complete_linearizable_lookup, release, pending_adapter, hcount]
  rfl

/-- The deleted object is reported as present at the index of its deletion. -/
theorem lookup_ahead_of_store :
    (∃ adapter : CreatedAdapter, adapter.world = sample_world) ∧
      ∀ sha256, Machine.answers (World.step sha256 512) sample_world (stale_read sha256) =
          [.turbo .OK, .turbo .OK, .lookup .OK, .turbo .OK, .turbo .OK] ∧
        (sample_world.run sha256 512 (stale_read sha256)).reports = [stale_report sha256] ∧
        ¬ (stale_report sha256).Linearizable := by
  refine ⟨⟨_, rfl⟩, fun sha256 => ?_⟩
  have hbind : (written_world sha256).step sha256 512 .bind = (.turbo .OK,
        { written_world sha256 with adapter := { (written_world sha256).adapter with service := true } }) := rfl
  have hlookup : World.step sha256 512
        { written_world sha256 with adapter := { (written_world sha256).adapter with service := true } }
        (.lookup { key := sample_key, require_linearizable := true } .OK) =
      (.lookup .OK, ⟨pending_adapter sha256, 1, [0], []⟩) := by
    have hnumber : (written_world sha256).lookups = 0 := rfl
    simp only [World.step, hnumber, stale_read_lookup]
    rfl
  have hpoll : World.step sha256 512 ⟨pending_adapter sha256, 1, [0], []⟩
      (.poll { context_id := 0x4d33000000000001, index := 2 }) = (.turbo .OK, read_world sha256) := by
    simp only [World.step, stale_read_poll]
    rfl
  refine ⟨?_, ?_, ?_⟩
  · simp [stale_read, Machine.answers, stale_read_put, hbind, hlookup, hpoll, stale_read_tombstone]
  · simp only [stale_read, World.run, Machine.run, List.foldl_cons, List.foldl_nil, stale_read_put, hbind, hlookup,
      hpoll]
    rfl
  · intro hlinearizable
    have hahead : (2 : UInt64) ≤ 1 := hlinearizable _ rfl rfl
    exact absurd hahead (by decide)

end stale_read

end turbop2p.m3_namespace_raft
