import TurboP2P.Lib.Bytes
import TurboP2P.Lib.SlotTable

namespace turbop2p.mesh_task_lease

/-- `mesh_task_lease_result_t`. -/
inductive Result where
  | OK
  | INVALID_ARG
  | INVALID_STATE
  | NOT_FOUND
  | CONFLICT
  | BUSY
  | FENCED
  | OUT_OF_ORDER
  | RESOURCE_EXHAUSTED
  deriving DecidableEq

/-- `mesh_task_state_v1_t`; `NONE` is the code zero of a cleared field and
`other` stands for every further code without a name. -/
inductive TaskState where
  | NONE
  | READY
  | LEASED
  | SUCCEEDED
  | FAILED
  | CANCELLED
  | EXPIRED
  | other (code : UInt32)
  deriving DecidableEq

/-- `MESH_MGMT_EXECUTION_ID_SIZE` bytes. -/
abbrev CommandId := Bytes 16

/-- `MESH_MGMT_EXECUTION_DIGEST_SIZE` bytes; node ids have the same size. -/
abbrev Digest := Bytes 32

def MAX_TASKS : Nat := 1024

/-- `mesh_task_lease_entry_v1_t`; an unoccupied entry is an empty slot of the
table. -/
structure Entry where
  command_id : CommandId
  request_digest : Digest
  holder_node_id : Digest
  state : TaskState
  result_code : Int32
  task_deadline_ms : UInt64
  lease_expires_at_ms : UInt64
  lease_generation : UInt64
  fencing_token : UInt64
  registered_index : UInt64
  mutation_index : UInt64
  deriving DecidableEq

/-- `mesh_task_lease_store_v1_t`; the capacity is the length of the table. -/
structure Store where
  entries : SlotTable Entry
  count : Nat
  max_lease_duration_ms : UInt64
  applied_index : UInt64
  is_open : Bool
  deriving DecidableEq

def Store.capacity (store : Store) : Nat := store.entries.length

/-- What a command returns: its result, the entry it copies out (cleared unless
the result is `OK`) and the store it leaves. -/
structure Outcome where
  result : Result
  out_entry : Option Entry
  store : Store
  deriving DecidableEq

variable (store : Store) (committed_index : UInt64) (command_id : CommandId) (request_digest : Digest)

/-- The outcome of a command that is refused. -/
def reject (result : Result) : Outcome :=
  { result, out_entry := none, store }

/-- Writes an entry back and publishes the command's index. -/
def commit (slot : Nat) (entry : Entry) : Outcome :=
  { result := .OK, out_entry := some { entry with mutation_index := committed_index }
    store :=
      { store with
        entries := store.entries.set slot (some { entry with mutation_index := committed_index })
        applied_index := committed_index } }

def terminal_state_valid (state : TaskState) : Bool :=
  state = .SUCCEEDED ∨ state = .FAILED ∨ state = .CANCELLED

def find_entry (command_id : CommandId) : Option (Nat × Entry) :=
  store.entries.find fun entry => entry.command_id = command_id

def validate_command (request_digest : Digest) : Result :=
  if store.is_open = false then .INVALID_STATE
  else if committed_index = 0 ∨ Bytes.is_zero command_id.toList ∨ Bytes.is_zero request_digest.toList then
    .INVALID_ARG
  else if committed_index ≤ store.applied_index then .OUT_OF_ORDER
  else .OK

/-- The opening of every command: refuses it if `validate_command` does or if
its own arguments are not valid. -/
def validated (arguments_valid : Bool) (rest : Outcome) : Outcome :=
  if validate_command store committed_index command_id request_digest ≠ .OK ∨ arguments_valid = false then
    reject store (if validate_command store committed_index command_id request_digest = .OK then .INVALID_ARG
      else validate_command store committed_index command_id request_digest)
  else rest

/-- `find_entry` followed by `validate_identity`: continues with the entry of
the command if it carries the request digest. -/
def with_identity (rest : Nat → Entry → Outcome) : Outcome :=
  match find_entry store command_id with
  | none => reject store .NOT_FOUND
  | some (slot, entry) =>
    if entry.request_digest = request_digest then rest slot entry else reject store .CONFLICT

def interval_valid (entry : Entry) (now_ms expires_at_ms : UInt64) : Bool :=
  now_ms ≠ 0 ∧ now_ms < expires_at_ms ∧ expires_at_ms ≤ entry.task_deadline_ms ∧
    expires_at_ms - now_ms ≤ store.max_lease_duration_ms

def clear_holder (entry : Entry) : Entry :=
  { entry with holder_node_id := Bytes.zero 32, lease_expires_at_ms := 0 }

/-- `mesh_task_lease_store_init_v1` on a cleared store. -/
def store_init_v1 (capacity : Nat) (max_lease_duration_ms : UInt64) (calloc : Bool) : Result × Option Store :=
  if capacity = 0 ∨ capacity > MAX_TASKS ∨ max_lease_duration_ms = 0 then (.INVALID_ARG, none)
  else if calloc = false then (.RESOURCE_EXHAUSTED, none)
  else
    (.OK, some
      { entries := List.replicate capacity none, count := 0, max_lease_duration_ms, applied_index := 0
        is_open := true })

def register_v1 (task_deadline_ms : UInt64) : Outcome :=
  validated store committed_index command_id request_digest (task_deadline_ms ≠ 0) <|
    match find_entry store command_id with
    | some (_, entry) =>
      if entry.request_digest ≠ request_digest ∨ entry.task_deadline_ms ≠ task_deadline_ms then
        reject store .CONFLICT
      else
        { result := .OK, out_entry := some entry, store := { store with applied_index := committed_index } }
    | none =>
      if store.count = store.capacity then reject store .RESOURCE_EXHAUSTED
      else
        match store.entries.free with
        | none => reject store .RESOURCE_EXHAUSTED
        | some slot =>
          commit { store with count := store.count + 1 } committed_index slot
            { command_id, request_digest, holder_node_id := Bytes.zero 32, state := .READY, result_code := 0
              task_deadline_ms, lease_expires_at_ms := 0, lease_generation := 0, fencing_token := 0
              registered_index := committed_index, mutation_index := committed_index }

def acquire_v1 (holder_node_id : Digest) (observed_now_ms lease_expires_at_ms : UInt64) : Outcome :=
  validated store committed_index command_id request_digest (!Bytes.is_zero holder_node_id.toList) <|
    with_identity store command_id request_digest fun slot entry =>
      if entry.state = .LEASED then reject store .BUSY
      else if entry.state ≠ .READY then reject store .INVALID_STATE
      else if !interval_valid store entry observed_now_ms lease_expires_at_ms then reject store .INVALID_ARG
      else
        commit store committed_index slot
          { entry with
            holder_node_id, state := .LEASED, lease_expires_at_ms, lease_generation := entry.lease_generation + 1
            fencing_token := committed_index }

def validate_live_holder (entry : Entry) (holder_node_id : Digest)
    (expected_fencing_token observed_now_ms : UInt64) : Result :=
  if entry.state ≠ .LEASED then .INVALID_STATE
  else if expected_fencing_token = 0 ∨ entry.fencing_token ≠ expected_fencing_token ∨
      entry.holder_node_id ≠ holder_node_id then .FENCED
  else if observed_now_ms = 0 ∨ observed_now_ms ≥ entry.lease_expires_at_ms ∨
      observed_now_ms ≥ entry.task_deadline_ms then .FENCED
  else .OK

def renew_v1
    (holder_node_id : Digest) (expected_fencing_token observed_now_ms lease_expires_at_ms : UInt64) : Outcome :=
  validated store committed_index command_id request_digest (!Bytes.is_zero holder_node_id.toList) <|
    with_identity store command_id request_digest fun slot entry =>
      if validate_live_holder entry holder_node_id expected_fencing_token observed_now_ms ≠ .OK then
        reject store (validate_live_holder entry holder_node_id expected_fencing_token observed_now_ms)
      else if lease_expires_at_ms ≤ entry.lease_expires_at_ms ∨
          !interval_valid store entry observed_now_ms lease_expires_at_ms then
        reject store .INVALID_ARG
      else
        commit store committed_index slot
          { entry with lease_expires_at_ms, fencing_token := committed_index }

def expire_v1 (expected_fencing_token observed_now_ms : UInt64) : Outcome :=
  validated store committed_index command_id request_digest (observed_now_ms ≠ 0) <|
    with_identity store command_id request_digest fun slot entry =>
      if entry.state ≠ .READY ∧ entry.state ≠ .LEASED then reject store .INVALID_STATE
      else if observed_now_ms ≥ entry.task_deadline_ms then
        commit store committed_index slot (clear_holder { entry with state := .EXPIRED })
      else if entry.state ≠ .LEASED ∨ expected_fencing_token ≠ entry.fencing_token ∨
          observed_now_ms < entry.lease_expires_at_ms then
        reject store .FENCED
      else
        commit store committed_index slot (clear_holder { entry with state := .READY })

def complete_v1 (holder_node_id : Digest) (expected_fencing_token observed_now_ms : UInt64) (terminal_state : TaskState)
    (result_code : Int32) : Outcome :=
  validated store committed_index command_id request_digest
    (terminal_state_valid terminal_state && !Bytes.is_zero holder_node_id.toList) <|
    with_identity store command_id request_digest fun slot entry =>
      if validate_live_holder entry holder_node_id expected_fencing_token observed_now_ms ≠ .OK then
        reject store (validate_live_holder entry holder_node_id expected_fencing_token observed_now_ms)
      else
        commit store committed_index slot
          (clear_holder { entry with state := terminal_state, result_code })

end turbop2p.mesh_task_lease
