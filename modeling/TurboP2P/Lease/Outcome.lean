import TurboP2P.Lease.Raft

open turbop2p.turboraft (TurboResult)
open SlotTable

namespace turbop2p.mesh_task_lease

/-- What a lease command can do to a store: it is refused and changes nothing,
repeats a registration, registers a task in a free slot or rewrites the
entry of its task. -/
inductive Effect (store : Store) (committed_index : UInt64) : Outcome → Prop
  | rejected (result : Result) (hresult : result ≠ .OK) : Effect store committed_index (reject store result)
  | repeated (slot : Nat) (entry : Entry) (hholds : store.entries.Holds slot entry) :
      Effect store committed_index
        { result := .OK, out_entry := some entry, store := { store with applied_index := committed_index } }
  | registered (slot : Nat) (entry : Entry) (hfree : store.entries.free = some slot)
      (hfresh : find_entry store entry.command_id = none) :
      Effect store committed_index (commit { store with count := store.count + 1 } committed_index slot entry)
  | updated (slot : Nat) (old new : Entry) (hholds : store.entries.Holds slot old)
      (hkey : new.command_id = old.command_id) :
      Effect store committed_index (commit store committed_index slot new)

variable {rest : Nat → Entry → Outcome}

section cases

variable {store : Store} {committed_index : UInt64} {command_id : CommandId} {request_digest : Digest}
  {P : Outcome → Prop} (hrejected : ∀ result, result ≠ .OK → P (reject store result))

include hrejected

theorem validated_cases {arguments_valid : Bool} {rest : Outcome}
    (hrest : store.applied_index < committed_index → arguments_valid = true → P rest) :
    P (validated store committed_index command_id request_digest arguments_valid rest) := by
  unfold validated
  split <;> rename_i hrefused
  · refine hrejected _ ?_
    split <;> rename_i hvalid
    · simp
    · exact hvalid
  · simp only [not_or, ne_eq, not_not] at hrefused
    refine hrest ?_ (by simpa using hrefused.2)
    have hvalid := hrefused.1
    obtain ⟨_, hvalid⟩ := guard_passed hvalid
    obtain ⟨_, hvalid⟩ := guard_passed hvalid
    obtain ⟨horder, _⟩ := guard_passed hvalid
    exact UInt64.not_le.mp horder

theorem with_identity_cases
    (hrest : ∀ slot entry, find_entry store command_id = some (slot, entry) → P (rest slot entry)) :
    P (with_identity store command_id request_digest rest) := by
  unfold with_identity
  cases hfind : find_entry store command_id with
  | none => exact hrejected _ (by simp)
  | some found =>
    obtain ⟨slot, entry⟩ := found
    exact guard_cases (fun _ => hrest slot entry hfind) fun _ => hrejected _ (by simp)

/-- What holds of a refusal, of a repeated and of a new registration and of a
rewritten entry holds of the outcome of every command. A leased entry has
the index of the command as its token, and no token is older than before or
newer than the command. -/
theorem Command.execute_cases (command : Command)
    (hrepeated : command.operation = .REGISTER → store.applied_index < committed_index →
      ∀ slot entry, store.entries.Holds slot entry →
        P { result := .OK, out_entry := some entry, store := { store with applied_index := committed_index } })
    (hregistered : command.operation = .REGISTER → store.applied_index < committed_index →
      ∀ slot entry, store.entries.free = some slot → find_entry store entry.command_id = none → entry.state = .READY →
        entry.fencing_token = 0 → P (commit { store with count := store.count + 1 } committed_index slot entry))
    (hupdated : store.applied_index < committed_index →
      ∀ slot old new, find_entry store command.command_id = some (slot, old) → new.command_id = old.command_id →
        (new.state = .LEASED → new.fencing_token = committed_index) →
        (new.fencing_token = old.fencing_token ∨ new.fencing_token = committed_index) →
        P (commit store committed_index slot new)) :
    P (command.execute store committed_index) := by
  have hguard : ∀ {c : Prop} [Decidable c] {result : Result} {rest : Outcome}, (c → result ≠ .OK) → P rest →
      P (if c then reject store result else rest) :=
    fun hresult hrest => guard_cases (fun hc => hrejected _ (hresult hc)) fun _ => hrest
  unfold Command.execute
  cases hop : command.operation with
  | REGISTER =>
    refine validated_cases hrejected fun hindex _ => ?_
    cases hfind : find_entry store command.command_id with
    | some found => exact hguard (by simp) (hrepeated hop hindex found.1 found.2 (find_eq_some hfind).1)
    | none =>
      refine hguard (by simp) ?_
      cases hfree : store.entries.free with
      | none => exact hrejected _ (by simp)
      | some slot => exact hregistered hop hindex slot _ hfree hfind rfl rfl
  | ACQUIRE =>
    refine validated_cases hrejected fun hindex _ => with_identity_cases hrejected fun slot entry hfind => ?_
    refine hguard (by simp) (hguard (by simp) (hguard (by simp) ?_))
    exact hupdated hindex slot entry _ hfind rfl (fun _ => rfl) (.inr rfl)
  | RENEW =>
    refine validated_cases hrejected fun hindex _ => with_identity_cases hrejected fun slot entry hfind => ?_
    exact hguard id (hguard (by simp) (hupdated hindex slot entry _ hfind rfl (fun _ => rfl) (.inr rfl)))
  | EXPIRE =>
    refine validated_cases hrejected fun hindex _ => with_identity_cases hrejected fun slot entry hfind => ?_
    refine hguard (by simp) (guard_cases (fun _ => ?_) fun _ => hguard (by simp) ?_)
    · exact hupdated hindex slot entry _ hfind rfl nofun (.inl rfl)
    · exact hupdated hindex slot entry _ hfind rfl nofun (.inl rfl)
  | COMPLETE =>
    refine validated_cases hrejected fun hindex hvalid => with_identity_cases hrejected fun slot entry hfind => ?_
    refine hguard id (hupdated hindex slot entry _ hfind rfl (fun hleased => ?_) (.inl rfl))
    have hstate : command.terminal_state = .LEASED := hleased
    simp [terminal_state_valid, hstate] at hvalid
  | other code => exact hrejected _ (by simp)

end cases

theorem Command.execute_effect (command : Command) (store : Store) (committed_index : UInt64) :
    Effect store committed_index (command.execute store committed_index) :=
  command.execute_cases .rejected (fun _ _ => .repeated) (fun _ _ slot entry hfree hfresh _ _ =>
    .registered slot entry hfree hfresh) fun _ slot old new hfind hkey _ _ =>
      .updated slot old new (find_eq_some hfind).1 hkey

variable {result : Result} {outcome : Outcome} {entry : Entry}

/-- Malformed bytes are refused as an invalid argument. -/
theorem decode_error {input : List UInt8} (hdecode : decode_v1 input = .error result) : result = .INVALID_ARG := by
  unfold decode_v1 at hdecode
  split at hdecode
  · exact (Except.error.inj hdecode).symm
  · split at hdecode
    · exact (Except.error.inj hdecode).symm
    · cases hdecode

theorem raft_apply_effect (store : Store) (committed_index : UInt64) (command_data : List UInt8) :
    Effect store committed_index (raft_apply_v1 store committed_index command_data) := by
  unfold raft_apply_v1
  cases hdecode : decode_v1 command_data with
  | error result => exact .rejected result (by simp [decode_error hdecode])
  | ok command => exact command.execute_effect store committed_index

/-- The invariant of an open store: the counter counts the occupied slots. -/
structure Inv (store : Store) : Prop where
  is_open : store.is_open = true
  count : store.count = store.entries.live.length

variable {command : Command} {store : Store}

/-- Every effect keeps the invariant. -/
theorem Inv.effect {committed_index : UInt64} (hinv : Inv store)
    (heffect : Effect store committed_index outcome) : Inv outcome.store := by
  cases heffect with
  | rejected result hresult => exact hinv
  | repeated slot entry hholds => exact ⟨hinv.is_open, hinv.count⟩
  | registered slot entry hfree hfresh =>
    refine ⟨hinv.is_open, ?_⟩
    rw [hinv.count]
    exact (live_insert_perm _ (free_eq_some hfree).1).length_eq.symm
  | updated slot old new hholds hkey =>
    refine ⟨hinv.is_open, ?_⟩
    change store.count = _
    rw [hinv.count]
    exact (length_live_replace _ hholds).symm

/-- A command that succeeds publishes its index. -/
theorem Effect.applied_index {committed_index : UInt64}
    (heffect : Effect store committed_index outcome) (hok : outcome.result = .OK) :
    outcome.store.applied_index = committed_index := by
  cases heffect with
  | rejected result hresult => exact absurd hok hresult
  | _ => rfl

/-- The caller of a command is the live holder of the task's lease. -/
structure Command.HoldsLease (command : Command) (entry : Entry) : Prop where
  leased : entry.state = .LEASED
  token : entry.fencing_token = command.expected_fencing_token
  holder : entry.holder_node_id = command.holder_node_id
  lease_live : command.observed_now_ms < entry.lease_expires_at_ms
  task_live : command.observed_now_ms < entry.task_deadline_ms

/-- The lease that a command asks for fits the task's deadline and the store's
limit. -/
structure Command.IntervalFits (command : Command) (store : Store) (entry : Entry) : Prop where
  nonempty : command.observed_now_ms < command.lease_expires_at_ms
  deadline : command.lease_expires_at_ms ≤ entry.task_deadline_ms
  duration : command.lease_expires_at_ms - command.observed_now_ms ≤ store.max_lease_duration_ms

/-- The command has not lost a race: the store is still in a state in which it
can be carried out. -/
def Command.Executable (command : Command) (store : Store) : Prop :=
  match command.operation with
  | .REGISTER =>
    ∀ slot entry, find_entry store command.command_id = some (slot, entry) →
      entry.request_digest = command.request_digest ∧ entry.task_deadline_ms = command.task_deadline_ms
  | .ACQUIRE =>
    ∃ slot entry, find_entry store command.command_id = some (slot, entry) ∧
      entry.request_digest = command.request_digest ∧ entry.state = .READY ∧ command.IntervalFits store entry
  | .RENEW =>
    ∃ slot entry, find_entry store command.command_id = some (slot, entry) ∧
      entry.request_digest = command.request_digest ∧ command.HoldsLease entry ∧
      entry.lease_expires_at_ms < command.lease_expires_at_ms ∧ command.IntervalFits store entry
  | .EXPIRE =>
    ∃ slot entry, find_entry store command.command_id = some (slot, entry) ∧
      entry.request_digest = command.request_digest ∧ (entry.state = .READY ∨ entry.state = .LEASED) ∧
      (entry.task_deadline_ms ≤ command.observed_now_ms ∨
        entry.state = .LEASED ∧ entry.fencing_token = command.expected_fencing_token ∧
          entry.lease_expires_at_ms ≤ command.observed_now_ms)
  | .COMPLETE =>
    ∃ slot entry, find_entry store command.command_id = some (slot, entry) ∧
      entry.request_digest = command.request_digest ∧ command.HoldsLease entry
  | .other _ => False

/-- A registration of a new task finds the table not yet full. -/
def Command.HasRoom (command : Command) (store : Store) : Prop :=
  command.operation = .REGISTER → find_entry store command.command_id = none → store.count ≠ store.capacity

@[simp] theorem reject_result (store : Store) (result : Result) : (reject store result).result = result := rfl

@[simp] theorem commit_result (store : Store) (committed_index : UInt64) (slot : Nat) (entry : Entry) :
    (commit store committed_index slot entry).result = .OK := rfl

theorem with_identity_ok_iff {command_id : CommandId} {request_digest : Digest} {P : Entry → Prop}
    (hrest : ∀ slot entry, (rest slot entry).result = .OK ↔ P entry) :
    (with_identity store command_id request_digest rest).result = .OK ↔
      ∃ slot entry, find_entry store command_id = some (slot, entry) ∧ entry.request_digest = request_digest ∧
        P entry := by
  unfold with_identity
  cases hfind : find_entry store command_id with
  | none => simp
  | some found =>
    obtain ⟨slot, entry⟩ := found
    by_cases hdigest : entry.request_digest = request_digest <;> simp [hdigest, hrest]

/-- A refusal under a condition succeeds exactly when the condition fails and
the rest succeeds. -/
theorem guard_ok_iff {c : Prop} [Decidable c] {rest : Outcome} (hresult : c → result ≠ .OK) :
    (if c then reject store result else rest).result = .OK ↔ ¬ c ∧ rest.result = .OK := by
  by_cases hc : c
  · simp [hc, hresult hc]
  · simp [hc]

theorem validate_live_holder_ok_iff (htoken : command.expected_fencing_token ≠ 0) (hnow : command.observed_now_ms ≠ 0) :
    validate_live_holder entry command.holder_node_id command.expected_fencing_token command.observed_now_ms =
      .OK ↔ command.HoldsLease entry := by
  unfold validate_live_holder
  constructor
  · intro hok
    obtain ⟨hleased, hok⟩ := guard_passed hok
    obtain ⟨hfence, hok⟩ := guard_passed hok
    obtain ⟨hlive, _⟩ := guard_passed hok
    simp only [htoken, hnow, false_or, not_or, not_not, ge_iff_le, UInt64.not_le] at hleased hfence hlive
    exact ⟨hleased, hfence.1, hfence.2, hlive.1, hlive.2⟩
  · rintro ⟨hleased, htoken', hholder, hlease, htask⟩
    simp [hleased, htoken', hholder, htoken, hnow, UInt64.not_le.mpr hlease, UInt64.not_le.mpr htask]

theorem interval_valid_iff (hnow : command.observed_now_ms ≠ 0) :
    interval_valid store entry command.observed_now_ms command.lease_expires_at_ms = true ↔
      command.IntervalFits store entry := by
  simp only [interval_valid, ne_eq, hnow, not_false_eq_true, true_and, decide_eq_true_eq]
  exact ⟨fun h => ⟨h.1, h.2.1, h.2.2⟩, fun h => ⟨h.nonempty, h.deadline, h.duration⟩⟩

section executable

variable {command : Command} {store : Store} {committed_index : UInt64}

/-- A fresh index and a canonical command pass the opening checks. -/
theorem validated_eq (hopen : store.is_open = true) (hindex : store.applied_index < committed_index)
    (hcanonical : command_is_canonical command = true) (rest : Outcome) :
    validated store committed_index command.command_id command.request_digest true rest = rest := by
  have hids : ¬ (Bytes.is_zero command.command_id.toList = true ∨
      Bytes.is_zero command.request_digest.toList = true) := by
    intro hzero
    simp [command_is_canonical, hzero] at hcanonical
  have hvalid : validate_command store committed_index command.command_id command.request_digest = .OK := by
    have hne : committed_index ≠ 0 := by
      rintro rfl
      simp at hindex
    have horder : ¬ committed_index ≤ store.applied_index := UInt64.not_le.mpr hindex
    simp [validate_command, hopen, hne, hids, horder]
  simp [validated, hvalid]

/-- A canonical command at a fresh index succeeds exactly when it has not lost
a race and the table has room for it. -/
theorem Command.execute_ok_iff (hinv : Inv store) (hindex : store.applied_index < committed_index)
    (hcanonical : command_is_canonical command = true) :
    (command.execute store committed_index).result = .OK ↔ command.Executable store ∧ command.HasRoom store := by
  have hchecked := validated_eq hinv.is_open hindex hcanonical
  unfold Command.execute Command.Executable Command.HasRoom
  cases hop : command.operation
  all_goals simp only [command_is_canonical, hop, Bool.if_false_left, Bool.and_eq_true, decide_eq_true_eq,
    Bool.false_eq_true, and_false] at hcanonical
  all_goals simp only [reduceCtorEq, false_implies, and_true]
  case REGISTER =>
    simp only [register_v1, hcanonical, ne_eq, not_false_eq_true, decide_true, hchecked]
    cases hfind : find_entry store command.command_id with
    | some found =>
      rw [guard_ok_iff (by simp)]
      simp [Prod.ext_iff]
    | none =>
      rw [guard_ok_iff (by simp)]
      have hfree : store.count ≠ store.capacity → ∃ slot, store.entries.free = some slot := by
        intro hroom
        by_contra hfull
        have hnone : store.entries.free = none := Option.eq_none_iff_forall_ne_some.mpr (by simpa using hfull)
        exact hroom (hinv.count.trans (length_live_of_full hnone))
      constructor
      · rintro ⟨hroom, _⟩
        simpa using hroom
      · rintro ⟨_, hroom⟩
        obtain ⟨slot, hslot⟩ := hfree (hroom trivial rfl)
        simpa [hslot] using hroom trivial rfl
  case ACQUIRE =>
    simp only [acquire_v1, hcanonical, hchecked]
    refine with_identity_ok_iff fun slot entry => ?_
    rw [guard_ok_iff (by simp), guard_ok_iff (by simp), guard_ok_iff (by simp), ← interval_valid_iff hcanonical.2.2.2.1]
    constructor
    · rintro ⟨_, hready, hinterval, _⟩
      exact ⟨by simpa using hready, by simpa using hinterval⟩
    · rintro ⟨hready, hinterval⟩
      simp [hready, hinterval]
  case RENEW =>
    simp only [renew_v1, hcanonical, hchecked]
    refine with_identity_ok_iff fun slot entry => ?_
    rw [guard_ok_iff id, guard_ok_iff (by simp), ← interval_valid_iff hcanonical.2.2.2.1,
      ← validate_live_holder_ok_iff hcanonical.2.2.2.2.2.1 hcanonical.2.2.2.1]
    simp
  case EXPIRE =>
    simp only [expire_v1, hcanonical, hchecked, ne_eq, not_false_eq_true, decide_true]
    refine with_identity_ok_iff fun slot entry => ?_
    rw [guard_ok_iff (by simp)]
    by_cases hdeadline : entry.task_deadline_ms ≤ command.observed_now_ms
    · simp [hdeadline, or_iff_not_imp_left]
    · rw [if_neg hdeadline, guard_ok_iff (by simp)]
      simp [hdeadline, or_iff_not_imp_left, eq_comm]
  case COMPLETE =>
    simp only [complete_v1, hcanonical, hchecked, Bool.and_self]
    refine with_identity_ok_iff fun slot entry => ?_
    rw [guard_ok_iff id, ← validate_live_holder_ok_iff hcanonical.2.2.2.2.2.2 hcanonical.2.2.2.2.1]
    simp

end executable

/-- The bytes of a command that the service has accepted from a caller of
`mesh_task_lease_raft_propose_v1`. -/
def Accepted (data : List UInt8) : Prop :=
  ∃ service adapter command_id command,
    ∃ proposal ∈ (raft_propose_v1 service adapter command_id command).2, proposal.data = data

/-- Whatever the service accepts decodes to a canonical command. -/
theorem Accepted.decode {data : List UInt8} (haccepted : Accepted data) :
    ∃ command, command_is_canonical command = true ∧ decode_v1 data = .ok command := by
  obtain ⟨service, adapter, command_id, command, proposal, hmem, rfl⟩ := haccepted
  unfold raft_propose_v1 at hmem
  split at hmem
  · simp at hmem
  · by_cases hcanonical : command_is_canonical command = true
    · have hproposal : proposal.data = command.frame := by
        simp only [encode_v1, hcanonical, Bool.not_true, Bool.false_eq_true, lt_self_iff_false, or_self,
          if_false] at hmem
        rw [turboraft.eq_of_mem_accepted hmem]
      exact ⟨command, hcanonical, hproposal ▸ decode_frame hcanonical⟩
    · simp [encode_v1, hcanonical] at hmem

/-- A caller can get every canonical command accepted. -/
theorem accepted_frame (hcanonical : command_is_canonical command = true) :
    Accepted command.frame := by
  let adapter : Adapter :=
    { store := { entries := [], count := 0, max_lease_duration_ms := 0, applied_index := 0, is_open := true }
      service := true
      is_open := true }
  refine ⟨fun _ => .OK, adapter, 1, command, { command_id := 1, data := command.frame }, ?_, rfl⟩
  simp [raft_propose_v1, adapter, encode_v1, hcanonical, turboraft.propose_with_receipt]

/-- The entry's command has not lost a race by the time it commits. -/
def EntryExecutable (adapter : Adapter) (entry : turboraft.Entry) : Prop :=
  ∃ command, decode_v1 entry.data = .ok command ∧ command.Executable adapter.store

/-- The entry does not exhaust the table. -/
def EntryHasRoom (adapter : Adapter) (entry : turboraft.Entry) : Prop :=
  ∀ command, decode_v1 entry.data = .ok command → command.HasRoom adapter.store

instance (adapter : Adapter) (entry : turboraft.Entry) : Decidable (EntryHasRoom adapter entry) :=
  match hdecode : decode_v1 entry.data with
  | .ok command =>
    decidable_of_iff (command.operation = .REGISTER → find_entry adapter.store command.command_id = none →
      adapter.store.count ≠ adapter.store.capacity) (by simp [EntryHasRoom, hdecode, Command.HasRoom])
  | .error _ => isTrue (by simp [EntryHasRoom, hdecode])

theorem map_lease_result_ok_iff : map_lease_result result = .OK ↔ result = .OK := by
  cases result <;> simp [map_lease_result]

/-- An accepted entry at a fresh index succeeds exactly when it has not lost a
race. -/
theorem apply_entry_ok_iff {adapter : Adapter} {entry : turboraft.Entry} (hinv : Inv adapter.store)
    (hindex : adapter.store.applied_index < entry.index) (haccepted : Accepted entry.data)
    (hroom : EntryHasRoom adapter entry) :
    (apply_entry adapter entry).1 = .OK ↔ EntryExecutable adapter entry := by
  obtain ⟨command, hcanonical, hdecode⟩ := haccepted.decode
  have hfits := hroom command hdecode
  simp [apply_entry, map_lease_result_ok_iff, raft_apply_v1, EntryExecutable, hdecode,
    Command.execute_ok_iff hinv hindex hcanonical, hfits]

/-- An adapter over a newly initialised store. -/
def fresh_adapter (capacity : Nat) (max_lease_duration_ms : UInt64) : Option Adapter := do
  let store ← (store_init_v1 capacity max_lease_duration_ms true).2
  (adapter_create_v1 store true).2

/-- The adapters that initialisation can produce. -/
abbrev FreshAdapter :=
  { adapter : Adapter // ∃ capacity max_lease_duration_ms,
      fresh_adapter capacity max_lease_duration_ms = some adapter }

theorem FreshAdapter.spec (adapter : FreshAdapter) :
    adapter.1.is_open = true ∧ Inv adapter.1.store ∧ adapter.1.store.applied_index = 0 := by
  obtain ⟨adapter, capacity, max_lease_duration_ms, hfresh⟩ := adapter
  unfold fresh_adapter store_init_v1 at hfresh
  split at hfresh
  · simp at hfresh
  · simp only [Bool.true_eq_false, if_false, Option.bind_eq_bind, Option.bind_some, adapter_create_v1,
      Option.some.injEq] at hfresh
    subst hfresh
    exact ⟨rfl, ⟨rfl, by simp [live]⟩, rfl⟩

/-- On every committed log of accepted lease commands that leaves room in the
table, `apply_batch` always succeeds exactly when no command has lost a
race. -/
theorem apply_batch_ok_iff (adapter : FreshAdapter) (log : turboraft.CommittedLog Accepted)
    (hroom : Log.Throughout apply_entry EntryHasRoom adapter.1 log.entries) :
    (∀ answer ∈ Machine.answers apply_batch adapter.1 log.batches, answer = .OK) ↔
      Log.Throughout apply_entry EntryExecutable adapter.1 log.entries := by
  obtain ⟨hopen, hinv, hfresh⟩ := adapter.spec
  refine turboraft.committed_ok_iff (fun adapter => Inv adapter.store)
    (fun adapter => adapter.store.applied_index) log (fun _ _ => rfl)
    (fun _ _ hinv hindex haccepted hroom => apply_entry_ok_iff hinv hindex haccepted hroom)
    (fun adapter entry hinv _ _ hok => ?_) hopen hinv hfresh hroom
  have heffect := raft_apply_effect adapter.store entry.index entry.data
  exact ⟨hinv.effect heffect, heffect.applied_index (map_lease_result_ok_iff.mp hok)⟩

end turbop2p.mesh_task_lease
