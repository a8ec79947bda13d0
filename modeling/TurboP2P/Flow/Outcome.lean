import TurboP2P.Flow.Raft

open turbop2p.mesh_flow_ruleset
open turbop2p.turboraft (TurboResult Proposal)

namespace turbop2p.mesh_flow_ruleset_raft

/-- The raft layer admits no rule that the ruleset would refuse. -/
theorem rule_valid_of_raft {rule : Rule} (hvalid : rule_valid rule = true) :
    mesh_flow_ruleset.rule_valid rule = true := by
  have haction := rule_valid_action hvalid
  obtain ⟨hfields, hproto⟩ := guard_passed hvalid
  simp only [not_or, ne_eq, not_not] at hfields
  obtain ⟨hid, hsrc, hdst, hsrcnet, hdstnet, hdir, hmask, _, hsrcport, hdstport⟩ := hfields
  unfold mesh_flow_ruleset.rule_valid
  rw [if_neg (by simp [hid, haction, hsrc, hdst, hdir, hmask, hsrcport, hdstport]), if_neg]
  · simp [hsrcnet, hdstnet]
  · rintro ⟨hports, _, htcp, hudp⟩
    simp [hports, htcp, hudp] at hproto

/-- What holds of an open staging transaction. -/
structure Staged (store : Store) : Prop where
  epoch : store.active.policy_epoch < store.staging_epoch
  action : action_valid store.staging_default_action = true
  expected : store.expected_rule_count ≤ store.capacity
  received : store.staging_rules.length = store.received_rule_count
  rules : ∀ rule ∈ store.staging_rules, rule_valid rule = true

structure Inv (store : Store) : Prop where
  is_open : store.is_open = true
  active_open : store.active.is_open = true
  capacity : store.active.capacity = store.capacity
  applied : store.active.applied_index ≤ store.last_log_index
  staged : store.staging = true → Staged store

/-- The command continues the transaction that the store is staging, or opens
one that supersedes it; a commit also needs distinct rule ids. -/
def Command.Executable (command : Command) (store : Store) : Prop :=
  match command.operation with
  | .BEGIN =>
    store.active.policy_epoch < command.policy_epoch ∧
      (store.staging = true → store.staging_epoch < command.policy_epoch)
  | .CHUNK =>
    store.staging = true ∧ command.policy_epoch = store.staging_epoch ∧
      command.total_rule_count.toNat = store.expected_rule_count ∧
      command.rule_offset.toNat = store.received_rule_count
  | .COMMIT =>
    store.staging = true ∧ command.policy_epoch = store.staging_epoch ∧
      command.total_rule_count.toNat = store.expected_rule_count ∧
      store.received_rule_count = store.expected_rule_count ∧
      store.staging_rules.Pairwise fun rule later => rule.rule_id ≠ later.rule_id
  | .other _ => False

/-- The announced rules fit the store. -/
def Command.HasRoom (command : Command) (store : Store) : Prop :=
  command.operation = .BEGIN → command.total_rule_count.toNat ≤ store.capacity

section executable

variable {command : Command} {store : Store} {committed_index : UInt64}

/-- The replacement at the end of a complete transaction is refused only for a
repeated rule id. -/
theorem Staged.apply_replace_ok_iff (hstaged : Staged store) (hinv : Inv store)
    (hindex : store.last_log_index < committed_index)
    (hcomplete : store.received_rule_count = store.expected_rule_count) :
    (apply_replace_v1 store.active committed_index store.staging_epoch store.staging_default_action
        (store.staging_rules.take store.expected_rule_count)).1 = .OK ↔
      store.staging_rules.Pairwise fun rule later => rule.rule_id ≠ later.rule_id := by
  have hall : store.staging_rules.take store.expected_rule_count = store.staging_rules :=
    List.take_of_length_le (by rw [hstaged.received, hcomplete])
  have hfits : store.staging_rules.length ≤ store.active.capacity := by
    rw [hinv.capacity, hstaged.received, hcomplete]
    exact hstaged.expected
  have hvalid : rules_valid [] store.staging_rules = true ↔
      store.staging_rules.Pairwise fun rule later => rule.rule_id ≠ later.rule_id := by
    rw [rules_valid_nil_iff]
    exact and_iff_right fun rule hrule => rule_valid_of_raft (hstaged.rules rule hrule)
  rw [hall, mesh_flow_ruleset.apply_replace_ok_iff, ← hvalid]
  simp [hinv.active_open, UInt64.lt_of_le_of_lt hinv.applied hindex, hstaged.epoch, hstaged.action, hfits]

/-- A valid command at a fresh index that fits the store succeeds exactly when
it is executable. -/
theorem Command.execute_ok_iff (hinv : Inv store) (hindex : store.last_log_index < committed_index)
    (hvalid : command_valid command = true) (hroom : command.HasRoom store) :
    (command.execute store committed_index).1 = .OK ↔ command.Executable store := by
  unfold Command.execute Command.Executable
  cases hop : command.operation with
  | BEGIN =>
    have hfits : ¬ command.total_rule_count.toNat > store.capacity := Nat.not_lt.mpr (hroom hop)
    simp only [apply_begin, hfits, false_or]
    split <;> rename_i hguard
    · simp only [reduceCtorEq, false_iff]
      rintro ⟨hactive, hstaging⟩
      rcases hguard with hle | ⟨hstage, hle⟩
      · exact UInt64.not_le.mpr hactive hle
      · exact UInt64.not_le.mpr (hstaging hstage) hle
    · simp only [not_or, UInt64.not_le, not_and] at hguard
      simpa using hguard
  | CHUNK =>
    simp only [apply_chunk]
    split <;> rename_i hguard
    · simp only [reduceCtorEq, false_iff]
      rintro ⟨hstage, hepoch, htotal, hoffset⟩
      simp [hstage, hepoch, htotal, hoffset] at hguard
    · simpa using hguard
  | COMMIT =>
    simp only [apply_commit]
    split <;> rename_i hguard
    · simp only [reduceCtorEq, false_iff]
      rintro ⟨hstage, hepoch, htotal, hcomplete, _⟩
      simp [hstage, hepoch, htotal, hcomplete] at hguard
    · simp only [ne_eq, not_or, Bool.not_eq_false, not_not] at hguard
      obtain ⟨hstage, hepoch, htotal, hcomplete⟩ := hguard
      rw [← (hinv.staged hstage).apply_replace_ok_iff hinv hindex hcomplete]
      split <;> simp_all
  | other code => simp [command_valid, hop] at hvalid

/-- A command that succeeds keeps the invariant. -/
theorem Inv.execute (hinv : Inv store) (hindex : store.last_log_index < committed_index)
    (hvalid : command_valid command = true) (hok : (command.execute store committed_index).1 = .OK) :
    Inv { (command.execute store committed_index).2 with last_log_index := committed_index } := by
  have hle : store.active.applied_index ≤ committed_index := UInt64.le_of_lt (UInt64.lt_of_le_of_lt hinv.applied hindex)
  unfold Command.execute at hok ⊢
  cases hop : command.operation with
  | BEGIN =>
    have haction : action_valid command.default_action = true := by
      simp only [command_valid, hop, Bool.if_false_left, Bool.and_eq_true, decide_eq_true_eq] at hvalid
      exact hvalid.2.2.2
    simp only [hop, apply_begin] at hok ⊢
    split at hok <;> rename_i hguard
    · cases hok
    · rw [if_neg hguard]
      simp only [not_or, gt_iff_lt, Nat.not_lt, UInt64.not_le] at hguard
      exact ⟨hinv.is_open, hinv.active_open, hinv.capacity, hle, fun _ => ⟨hguard.2.1, haction, hguard.1, rfl, by simp⟩⟩
  | CHUNK =>
    simp only [hop, apply_chunk] at hok ⊢
    split at hok <;> rename_i hguard
    · cases hok
    · rw [if_neg hguard]
      simp only [not_or, Bool.not_eq_false] at hguard
      have hstaged := hinv.staged hguard.1
      refine ⟨hinv.is_open, hinv.active_open, hinv.capacity, hle,
        fun _ => ⟨hstaged.epoch, hstaged.action, hstaged.expected, ?_, ?_⟩⟩
      · simp [hstaged.received]
      · simp only [List.mem_append]
        rintro rule (hrule | hrule)
        · exact hstaged.rules rule hrule
        · exact (command_valid_rules hvalid).2 rule hrule
  | COMMIT =>
    simp only [hop, apply_commit] at hok ⊢
    split at hok <;> rename_i hguard
    · cases hok
    · rw [if_neg hguard]
      split at hok <;> rename_i hreplace
      · exact absurd hok hreplace
      · rw [if_neg hreplace]
        rw [apply_replace_ok (not_not.mp hreplace)]
        exact ⟨hinv.is_open, hinv.active_open, hinv.capacity, UInt64.le_refl committed_index, by simp⟩
  | other code => simp [command_valid, hop] at hvalid

end executable

/-- The bytes of a command that the service has accepted from a caller of
`mesh_flow_ruleset_raft_propose_snapshot_v1`, whether or not the rest of
its snapshot was accepted. -/
def Accepted (data : List UInt8) : Prop :=
  ∃ service adapter first_command_id policy_epoch default_action rules receipt_capacity,
    ∃ proposal ∈ (propose_snapshot_v1 service adapter first_command_id policy_epoch default_action rules
      receipt_capacity).2, proposal.data = data

variable {command_id : UInt64} {proposal : Proposal} {service : Proposal → TurboResult} {commands : List Command}

theorem propose_command_accepted {command : Command}
    (hmem : proposal ∈ (propose_command service command_id command).2) :
    command_valid command = true ∧ proposal.data = command.frame := by
  unfold propose_command at hmem
  by_cases hvalid : command_valid command = true
  · refine ⟨hvalid, ?_⟩
    by_cases hsize : MAX_COMMAND_SIZE < HEADER_SIZE + command.rules.length * RULE_SIZE
    · simp [encode_v1, hvalid, hsize] at hmem
    · simp only [encode_v1, hvalid, hsize, Bool.not_true, Bool.false_eq_true, if_false] at hmem
      rw [turboraft.eq_of_mem_accepted hmem]
  · simp [encode_v1, hvalid] at hmem

/-- Only valid commands of the list are ever accepted. -/
theorem propose_commands_accepted (hmem : proposal ∈ (propose_commands service command_id commands).2) :
    ∃ command, command_valid command = true ∧ proposal.data = command.frame := by
  induction commands generalizing command_id with
  | nil => simp [propose_commands] at hmem
  | cons command rest ih =>
    simp only [propose_commands] at hmem
    split at hmem
    · exact ⟨command, propose_command_accepted hmem⟩
    · rcases List.mem_append.mp hmem with hfirst | hlater
      · exact ⟨command, propose_command_accepted hfirst⟩
      · exact ih hlater

/-- Whatever the service accepts decodes to a valid command. -/
theorem Accepted.decode {data : List UInt8} (haccepted : Accepted data) :
    ∃ command, command_valid command = true ∧ decode_v1 data = .ok command := by
  obtain ⟨service, adapter, first_command_id, policy_epoch, default_action, rules, receipt_capacity, proposal,
    hmem, rfl⟩ := haccepted
  simp only [propose_snapshot_v1] at hmem
  split at hmem
  · simp at hmem
  · obtain ⟨command, hvalid, hframe⟩ := propose_commands_accepted hmem
    exact ⟨command, hvalid, hframe ▸ decode_frame hvalid⟩

/-- A service that refuses nothing accepts every command of a valid list. -/
theorem propose_commands_complete (command_id : UInt64) (hvalid : ∀ command ∈ commands, command_valid command = true)
    {command : Command} (hmem : command ∈ commands) :
    ∃ proposal ∈ (propose_commands (fun _ => .OK) command_id commands).2, proposal.data = command.frame := by
  induction commands generalizing command_id with
  | nil => simp at hmem
  | cons first rest ih =>
    have hfirst := hvalid first (by simp)
    have hsize : ¬ MAX_COMMAND_SIZE < HEADER_SIZE + first.rules.length * RULE_SIZE := by
      have hcount := (command_valid_rules hfirst).1
      simp only [MAX_COMMAND_SIZE, RULE_SIZE]
      omega
    have hpropose : propose_command (fun _ => .OK) command_id first =
        (.OK, [{ command_id := command_id, data := first.frame }]) := by
      simp [propose_command, encode_v1, hfirst, hsize, turboraft.propose_with_receipt]
    simp only [propose_commands, hpropose, ne_eq, not_true_eq_false, if_false, List.singleton_append]
    rcases List.mem_cons.mp hmem with rfl | hlater
    · exact ⟨_, List.mem_cons_self, rfl⟩
    · have hrest : ∀ later ∈ rest, command_valid later = true := fun later hin => hvalid later (by simp [hin])
      obtain ⟨proposal, hproposal, hdata⟩ := ih (command_id + 1) hrest hlater
      exact ⟨proposal, List.mem_cons_of_mem _ hproposal, hdata⟩

/-- A caller can get every command of a snapshot accepted whose commands are
all valid. -/
theorem accepted_frame {policy_epoch : UInt64} {default_action : Action} {rules : List Rule} {command : Command}
    (hepoch : policy_epoch ≠ 0) (hrules : rules.length ≤ MAX_RULES)
    (hvalid : ∀ command ∈ snapshot_commands policy_epoch default_action rules, command_valid command = true)
    (hmem : command ∈ snapshot_commands policy_epoch default_action rules) : Accepted command.frame := by
  let active : Ruleset :=
    { rules := [], capacity := 0, policy_epoch := 0, applied_index := 0, default_action := .DENY, is_open := true }
  let store : Store :=
    { active := active, staging_rules := [], capacity := 0, expected_rule_count := 0, received_rule_count := 0,
      staging_epoch := 0, last_log_index := 0, staging_default_action := .DENY, staging := false, is_open := true }
  let adapter : Adapter :=
    { store := store, service := true, require := none, publish := none, published_index := 0,
      publish_pending := false, is_open := true }
  obtain ⟨proposal, hproposal, hdata⟩ := propose_commands_complete 1 hvalid hmem
  refine ⟨fun _ => .OK, adapter, 1, policy_epoch, default_action, rules, MAX_TRANSACTION_ENTRIES, proposal, ?_, hdata⟩
  have hreceipts : 2 + (rules.length + MAX_CHUNK_RULES - 1) / MAX_CHUNK_RULES ≤ MAX_TRANSACTION_ENTRIES := by
    simp only [MAX_RULES, MAX_CHUNK_RULES, MAX_TRANSACTION_ENTRIES] at hrules ⊢
    omega
  have hnumber : ¬ (1 : UInt64).toNat >
      18446744073709551615 - (2 + (rules.length + MAX_CHUNK_RULES - 1) / MAX_CHUNK_RULES - 1) := by
    simp only [MAX_TRANSACTION_ENTRIES] at hreceipts
    simp only [UInt64.reduceToNat]
    omega
  have hproposed : propose_snapshot_v1 (fun _ => .OK) adapter 1 policy_epoch default_action rules
      MAX_TRANSACTION_ENTRIES =
        propose_commands (fun _ => .OK) 1 (snapshot_commands policy_epoch default_action rules) := by
    refine if_neg ?_
    simp only [not_or]
    exact ⟨by simp [adapter], by simp [adapter], by decide, hepoch, Nat.not_lt.mpr hrules,
      Nat.not_lt.mpr hreceipts, Nat.not_lt.mpr hreceipts, hnumber⟩
  rwa [hproposed]

/-- The entry's command fits the transaction in progress and the publisher, if
there is one, is ready for it. -/
def EntryExecutable (adapter : Adapter) (entry : turboraft.Entry) : Prop :=
  ∃ command, decode_v1 entry.data = .ok command ∧ command.Executable adapter.store ∧
    required adapter command entry.index = .OK

/-- The entry announces no more rules than the store can hold. -/
def EntryHasRoom (adapter : Adapter) (entry : turboraft.Entry) : Prop :=
  ∀ command, decode_v1 entry.data = .ok command → command.HasRoom adapter.store

instance (adapter : Adapter) (entry : turboraft.Entry) : Decidable (EntryHasRoom adapter entry) :=
  match hdecode : decode_v1 entry.data with
  | .ok command =>
    decidable_of_iff (command.operation = .BEGIN → command.total_rule_count.toNat ≤ adapter.store.capacity)
      (by simp [EntryHasRoom, hdecode, Command.HasRoom])
  | .error _ => isTrue (by simp [EntryHasRoom, hdecode])

section apply_entry

variable {adapter : Adapter} {entry : turboraft.Entry} {command : Command}

theorem apply_v1_eq (hinv : Inv adapter.store) (hindex : adapter.store.last_log_index < entry.index)
    (hdecode : decode_v1 entry.data = .ok command) :
    apply_v1 adapter.store entry.index entry.data =
      if (command.execute adapter.store entry.index).1 ≠ .OK then command.execute adapter.store entry.index
      else (.OK, { (command.execute adapter.store entry.index).2 with last_log_index := entry.index }) := by
  have hne : entry.index ≠ 0 := by
    intro hzero
    simp [hzero] at hindex
  simp [apply_v1, hinv.is_open, hne, UInt64.not_le.mpr hindex, hdecode]

@[simp] theorem publish_committed_store (adapter : Adapter) : (publish_committed adapter).store = adapter.store := by
  unfold publish_committed
  split
  · rfl
  · split <;> rfl

@[simp] theorem publish_committed_is_open (adapter : Adapter) :
    (publish_committed adapter).is_open = adapter.is_open := by
  unfold publish_committed
  split
  · rfl
  · split <;> rfl

theorem map_ruleset_result_ok_iff {result : Result} : map_ruleset_result result = .OK ↔ result = .OK := by
  cases result <;> simp [map_ruleset_result]

/-- An accepted entry at a fresh index succeeds exactly when its command is
executable and the publisher is ready. -/
theorem apply_entry_ok_iff (hinv : Inv adapter.store) (hindex : adapter.store.last_log_index < entry.index)
    (haccepted : Accepted entry.data) (hroom : EntryHasRoom adapter entry) :
    (apply_entry adapter entry).1 = .OK ↔ EntryExecutable adapter entry := by
  obtain ⟨command, hvalid, hdecode⟩ := haccepted.decode
  have hexecute := Command.execute_ok_iff hinv hindex hvalid (hroom command hdecode)
  simp only [apply_entry, EntryExecutable, hdecode, apply_v1_eq hinv hindex hdecode, Except.ok.injEq,
    exists_eq_left', ← hexecute]
  by_cases hrequired : required adapter command entry.index = .OK
  · by_cases hok : (command.execute adapter.store entry.index).1 = .OK
    · by_cases hcommit : command.operation = .COMMIT <;> simp [hrequired, hok, hcommit]
    · simp [hrequired, hok, map_ruleset_result_ok_iff]
  · simp [hrequired]

/-- An accepted entry that succeeds keeps the invariant and moves the log index
to its own. -/
theorem apply_entry_next (hinv : Inv adapter.store) (hindex : adapter.store.last_log_index < entry.index)
    (haccepted : Accepted entry.data) (hok : (apply_entry adapter entry).1 = .OK) :
    Inv (apply_entry adapter entry).2.store ∧ (apply_entry adapter entry).2.store.last_log_index = entry.index := by
  obtain ⟨command, hvalid, hdecode⟩ := haccepted.decode
  simp only [apply_entry, hdecode, apply_v1_eq hinv hindex hdecode] at hok ⊢
  by_cases hrequired : required adapter command entry.index = .OK
  · by_cases hexecute : (command.execute adapter.store entry.index).1 = .OK
    · have hnext := hinv.execute hindex hvalid hexecute
      by_cases hcommit : command.operation = .COMMIT <;> simpa [hrequired, hexecute, hcommit] using hnext
    · simp [hrequired, hexecute, map_ruleset_result_ok_iff] at hok
  · simp [hrequired] at hok

theorem apply_entry_is_open (adapter : Adapter) (entry : turboraft.Entry) :
    (apply_entry adapter entry).2.is_open = adapter.is_open := by
  simp only [apply_entry]
  repeat' split
  all_goals simp

end apply_entry

/-- An adapter over a newly initialised ruleset, with or without a
publisher. -/
def fresh_adapter (capacity : Nat) (default_action : Action)
    (publisher : Option ((UInt64 → TurboResult) × (Ruleset → TurboResult))) : Option Adapter := do
  let active ← (init_v1 capacity default_action true).2
  let store ← (store_init_v1 active true).2
  let adapter ← (adapter_create_v1 store true).2
  match publisher with
  | none => some adapter
  | some (require, publish) => some (set_publisher_v1 adapter require publish).2

/-- The adapters that initialisation can produce. -/
abbrev FreshAdapter :=
  { adapter : Adapter // ∃ capacity default_action publisher,
      fresh_adapter capacity default_action publisher = some adapter }

theorem FreshAdapter.spec (adapter : FreshAdapter) :
    adapter.1.is_open = true ∧ Inv adapter.1.store ∧ adapter.1.store.last_log_index = 0 := by
  obtain ⟨adapter, capacity, default_action, publisher, hfresh⟩ := adapter
  unfold fresh_adapter init_v1 at hfresh
  split at hfresh <;> rename_i hvalid
  · simp at hfresh
  · simp only [not_or] at hvalid
    simp only [Bool.true_eq_false, if_false, Option.bind_eq_bind, Option.bind_some, store_init_v1,
      hvalid.1, or_self, adapter_create_v1] at hfresh
    cases publisher with
    | none =>
      cases hfresh
      exact ⟨rfl, ⟨rfl, rfl, rfl, UInt64.le_refl 0, by simp⟩, rfl⟩
    | some callbacks =>
      cases hfresh
      exact ⟨rfl, ⟨rfl, rfl, rfl, UInt64.le_refl 0, by simp [set_publisher_v1]⟩, rfl⟩

/-- On every committed log of accepted ruleset commands that fit the store,
`apply_batch` always succeeds exactly when every command finds the
transaction it belongs to. -/
theorem apply_batch_ok_iff (adapter : FreshAdapter) (log : turboraft.CommittedLog Accepted)
    (hroom : Log.Throughout apply_entry EntryHasRoom adapter.1 log.entries) :
    (∀ answer ∈ Machine.answers apply_batch adapter.1 log.batches, answer = .OK) ↔
      Log.Throughout apply_entry EntryExecutable adapter.1 log.entries := by
  obtain ⟨hopen, hinv, hfresh⟩ := adapter.spec
  exact turboraft.committed_ok_iff (fun adapter => Inv adapter.store)
    (fun adapter => adapter.store.last_log_index) log apply_entry_is_open
    (fun _ _ hinv hindex haccepted hroom => apply_entry_ok_iff hinv hindex haccepted hroom)
    (fun _ _ hinv hindex haccepted hok => apply_entry_next hinv hindex haccepted hok) hopen hinv hfresh hroom

end turbop2p.mesh_flow_ruleset_raft
