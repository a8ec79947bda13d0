import TurboP2P.Flow.Outcome
import TurboP2P.Lease.Outcome
import TurboP2P.Namespace.Outcome

namespace turbop2p.turboraft

/-- For each of the three replicated state machines and every log of accepted
commands that exhausts no capacity, the `apply_batch` callbacks all return
`TURBO_OK` exactly when every command is still executable in the state in
which it commits: a command that has lost a race stops the log. -/
theorem committed_entries_ok_iff (sha256 : List UInt8 → Bytes 32) (max_entry_bytes : Nat) :
    (∀ (adapter : mesh_task_lease.FreshAdapter) (log : CommittedLog mesh_task_lease.Accepted),
      Log.Throughout mesh_task_lease.apply_entry mesh_task_lease.EntryHasRoom adapter.1 log.entries →
      ((∀ answer ∈ Machine.answers mesh_task_lease.apply_batch adapter.1 log.batches, answer = .OK) ↔
        Log.Throughout mesh_task_lease.apply_entry mesh_task_lease.EntryExecutable adapter.1 log.entries)) ∧
    (∀ (adapter : mesh_flow_ruleset_raft.FreshAdapter) (log : CommittedLog mesh_flow_ruleset_raft.Accepted),
      Log.Throughout mesh_flow_ruleset_raft.apply_entry mesh_flow_ruleset_raft.EntryHasRoom adapter.1 log.entries →
      ((∀ answer ∈ Machine.answers mesh_flow_ruleset_raft.apply_batch adapter.1 log.batches, answer = .OK) ↔
        Log.Throughout mesh_flow_ruleset_raft.apply_entry mesh_flow_ruleset_raft.EntryExecutable adapter.1
          log.entries)) ∧
    (∀ (adapter : m3_namespace_raft.FreshAdapter) (log : CommittedLog (m3_namespace_raft.Accepted max_entry_bytes)),
      Log.Throughout (m3_namespace_raft.apply_entry sha256 max_entry_bytes)
        (m3_namespace_raft.EntryHasRoom max_entry_bytes) adapter.1 log.entries →
      ((∀ answer ∈ Machine.answers (m3_namespace_raft.apply_batch sha256 max_entry_bytes) adapter.1 log.batches,
          answer = .OK) ↔
        Log.Throughout (m3_namespace_raft.apply_entry sha256 max_entry_bytes)
          (m3_namespace_raft.EntryExecutable sha256 max_entry_bytes) adapter.1 log.entries)) :=
  ⟨mesh_task_lease.apply_batch_ok_iff, mesh_flow_ruleset_raft.apply_batch_ok_iff,
    m3_namespace_raft.apply_batch_ok_iff⟩

/-- Three entries that commit in batches of their own. -/
theorem accepted_one_by_one {Accepted : List UInt8 → Prop} {first second third : Entry} (hfirst : Accepted first.data)
    (hsecond : Accepted second.data) (hthird : Accepted third.data) :
    ∀ entry ∈ [[first], [second], [third]].flatten, Accepted entry.data := by
  simp [hfirst, hsecond, hthird]

section lease_race

open mesh_task_lease

/-- A lease command of `worker` about one task, with its other fields clear. -/
def task_command (operation : Operation) (worker : UInt8) (deadline now expires : UInt64) : Command :=
  { operation, command_id := List.Vector.replicate 16 1, request_digest := List.Vector.replicate 32 2
    holder_node_id := List.Vector.replicate 32 worker, task_deadline_ms := deadline, observed_now_ms := now
    lease_expires_at_ms := expires, expected_fencing_token := 0, result_code := 0, terminal_state := .NONE }

def lease_adapter : FreshAdapter :=
  ⟨{ store :=
      { entries := List.replicate 4 none, count := 0, max_lease_duration_ms := 50, applied_index := 0, is_open := true }
     service := false
     is_open := true }, 4, 50, rfl⟩

/-- A task is registered, then two workers race to acquire it. -/
def acquire_race : CommittedLog Accepted where
  batches :=
    [[⟨1, (task_command .REGISTER 0 100 0 0).frame⟩], [⟨2, (task_command .ACQUIRE 3 0 10 20).frame⟩],
      [⟨3, (task_command .ACQUIRE 4 0 10 20).frame⟩]]
  nonempty := by simp
  positive := by simp
  increasing := by simp
  accepted := accepted_one_by_one (accepted_frame (by decide +kernel)) (accepted_frame (by decide +kernel))
    (accepted_frame (by decide +kernel))

end lease_race

section ruleset_race

open mesh_flow_ruleset_raft

/-- A command of a snapshot without rules. -/
def empty_snapshot (operation : Operation) (policy_epoch : UInt64) : Command :=
  { operation, policy_epoch, total_rule_count := 0, rule_offset := 0, default_action := .DENY, rules := [] }

theorem empty_snapshot_accepted {policy_epoch : UInt64} (hepoch : policy_epoch ≠ 0) :
    Accepted (empty_snapshot .BEGIN policy_epoch).frame ∧ Accepted (empty_snapshot .COMMIT policy_epoch).frame := by
  have hcommands : snapshot_commands policy_epoch .DENY [] =
      [empty_snapshot .BEGIN policy_epoch, empty_snapshot .COMMIT policy_epoch] := by
    simp [snapshot_commands, chunk_commands, empty_snapshot]
  have hvalid : ∀ command ∈ snapshot_commands policy_epoch .DENY [], command_valid command = true := by
    simp [hcommands, empty_snapshot, command_valid, hepoch, mesh_flow_ruleset.action_valid]
  exact ⟨accepted_frame hepoch (by simp) hvalid (by simp [hcommands]),
    accepted_frame hepoch (by simp) hvalid (by simp [hcommands])⟩

def ruleset_adapter : FreshAdapter :=
  ⟨{ store :=
      { active :=
          { rules := [], capacity := 4, policy_epoch := 0, applied_index := 0, default_action := .DENY
            is_open := true }
        staging_rules := []
        capacity := 4
        expected_rule_count := 0
        received_rule_count := 0
        staging_epoch := 0
        last_log_index := 0
        staging_default_action := .DENY
        staging := false
        is_open := true }
     service := false
     require := none
     publish := none
     published_index := 0
     publish_pending := false
     is_open := true }, 4, .DENY, none, rfl⟩

/-- Two clients propose a snapshot each, and the one with the lower epoch
commits last. -/
def snapshot_race : CommittedLog Accepted where
  batches :=
    [[⟨1, (empty_snapshot .BEGIN 2).frame⟩], [⟨2, (empty_snapshot .COMMIT 2).frame⟩],
      [⟨3, (empty_snapshot .BEGIN 1).frame⟩]]
  nonempty := by simp
  positive := by simp
  increasing := by simp
  accepted := accepted_one_by_one (empty_snapshot_accepted (by decide)).1 (empty_snapshot_accepted (by decide)).2
    (empty_snapshot_accepted (by decide)).1

end ruleset_race

section namespace_race

open m3_namespace_raft m3_namespace_local_store

variable (sha256 : List UInt8 → Bytes 32)

/-- A placement update loses the race against a deletion of its object. -/
def update_race : CommittedLog (m3_namespace_raft.Accepted 512) where
  batches :=
    [[⟨1, (object_command .PUT (some (empty_object_bytes sha256))).frame⟩],
      [⟨2, (object_command .TOMBSTONE none).frame⟩],
      [⟨3, (object_command .UPDATE_PLACEMENT (some (empty_object_bytes sha256))).frame⟩]]
  nonempty := by simp
  positive := by simp
  increasing := by simp
  accepted := accepted_one_by_one (put_accepted sha256).1 tombstone_accepted.1 (update_accepted sha256).1

/-- The update finds the object deleted. -/
theorem execute_update_raced :
    (object_command .UPDATE_PLACEMENT (some (empty_object_bytes sha256))).execute sha256 (object_store true [] 2) 3 =
      (.NOT_FOUND, object_store true [] 2) := by
  have hlength := length_empty_object_bytes sha256
  have hobject := decode_empty_object sha256 (object_store true [] 2) rfl rfl
  have hname : name_is_valid (object_store true [] 2) sample_key = true := by decide +kernel
  have hfits : ¬ 104 > (object_store true [] 2).max_manifest_bytes := by decide
  have horder : ¬ (3 : UInt64) ≤ (object_store true [] 2).applied_index := by decide
  have hopen : (object_store true [] 2).is_open = true := rfl
  simp only [Command.execute, Command.manifest, object_command, Option.getD_some, apply_update_placement_v1, hlength,
    hname, hfits, horder, hopen, hobject]
  rfl

theorem update_race_answers :
    Machine.answers (m3_namespace_raft.apply_batch sha256 512) sample_adapter.1 (update_race sha256).batches =
      [.OK, .OK, .EPROTO] := by
  have hput := apply_object_command sha256 (put_accepted sha256).2 (execute_put sha256) sample_adapter.1 rfl
  have htombstone := apply_object_command sha256 tombstone_accepted.2
    (execute_tombstone sha256 (empty_object_bytes sha256))
  have hupdate := apply_object_command sha256 (update_accepted sha256).2 (execute_update_raced sha256)
  have hopen : sample_adapter.1.is_open = true := rfl
  simp [update_race, Machine.answers, m3_namespace_raft.apply_batch, apply_entries, Log.apply, hput, htombstone,
    hupdate, hopen, map_store_result]

theorem update_race_has_room :
    Log.Throughout (m3_namespace_raft.apply_entry sha256 512) (m3_namespace_raft.EntryHasRoom 512) sample_adapter.1
      (update_race sha256).entries := by
  have hfree : sample_adapter.1.store.entries.free = some 0 := by decide +kernel
  have htype : ∀ type manifest_bytes, (object_command type manifest_bytes).type = type := fun _ _ => rfl
  simp [CommittedLog.entries, update_race, Log.Throughout, m3_namespace_raft.EntryHasRoom,
    m3_namespace_raft.Command.HasRoom, (put_accepted sha256).2, tombstone_accepted.2, (update_accepted sha256).2,
    htype, hfree]

end namespace_race

/-- Three accepted logs without capacity pressure whose last command has lost a
race: another worker holds the task, a newer snapshot is active, the object
was deleted. Each replica answers `TURBO_EPROTO`. -/
theorem lost_race_fails_replica :
    (Log.Throughout mesh_task_lease.apply_entry mesh_task_lease.EntryHasRoom lease_adapter.1 acquire_race.entries ∧
      Machine.answers mesh_task_lease.apply_batch lease_adapter.1 acquire_race.batches = [.OK, .OK, .EPROTO]) ∧
    (Log.Throughout mesh_flow_ruleset_raft.apply_entry mesh_flow_ruleset_raft.EntryHasRoom ruleset_adapter.1
        snapshot_race.entries ∧
      Machine.answers mesh_flow_ruleset_raft.apply_batch ruleset_adapter.1 snapshot_race.batches =
        [.OK, .OK, .EPROTO]) ∧
    ∀ sha256 : List UInt8 → Bytes 32,
      Log.Throughout (m3_namespace_raft.apply_entry sha256 512) (m3_namespace_raft.EntryHasRoom 512)
          m3_namespace_raft.sample_adapter.1 (update_race sha256).entries ∧
        Machine.answers (m3_namespace_raft.apply_batch sha256 512) m3_namespace_raft.sample_adapter.1
          (update_race sha256).batches = [.OK, .OK, .EPROTO] :=
  ⟨⟨by decide +kernel, by decide +kernel⟩, ⟨by decide +kernel, by decide +kernel⟩,
    fun sha256 => ⟨update_race_has_room sha256, update_race_answers sha256⟩⟩

/-- The last command of each race is not executable when it commits. -/
theorem committed_entries_ok_iff_races :
    ¬ Log.Throughout mesh_task_lease.apply_entry mesh_task_lease.EntryExecutable lease_adapter.1
        acquire_race.entries ∧
    ¬ Log.Throughout mesh_flow_ruleset_raft.apply_entry mesh_flow_ruleset_raft.EntryExecutable ruleset_adapter.1
        snapshot_race.entries ∧
    ¬ Log.Throughout (m3_namespace_raft.apply_entry (fun _ => List.Vector.replicate 32 0) 512)
        (m3_namespace_raft.EntryExecutable (fun _ => List.Vector.replicate 32 0) 512)
        m3_namespace_raft.sample_adapter.1 (update_race fun _ => List.Vector.replicate 32 0).entries := by
  obtain ⟨hlease, hruleset, hnamespace⟩ := committed_entries_ok_iff (fun _ => List.Vector.replicate 32 0) 512
  refine ⟨?_, ?_, ?_⟩
  · rw [← hlease lease_adapter acquire_race (by decide +kernel)]
    decide +kernel
  · rw [← hruleset ruleset_adapter snapshot_race (by decide +kernel)]
    decide +kernel
  · rw [← hnamespace m3_namespace_raft.sample_adapter (update_race _) (update_race_has_room _), update_race_answers]
    decide

end turbop2p.turboraft
