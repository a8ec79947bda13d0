import TurboP2P.Lease.Store
import TurboP2P.Lib.Codec
import TurboP2P.Raft.Service

open Codec
open turbop2p.turboraft (TurboResult Proposal propose_with_receipt)

namespace turbop2p.mesh_task_lease

/-- `mesh_task_lease_raft_operation_v1_t`. -/
inductive Operation where
  | REGISTER
  | ACQUIRE
  | RENEW
  | EXPIRE
  | COMPLETE
  | other (code : UInt8)
  deriving DecidableEq

def Operation.code : Operation → UInt8
  | .REGISTER => 1
  | .ACQUIRE => 2
  | .RENEW => 3
  | .EXPIRE => 4
  | .COMPLETE => 5
  | .other code => code

def Operation.of_code (code : UInt8) : Operation :=
  if code = 1 then .REGISTER
  else if code = 2 then .ACQUIRE
  else if code = 3 then .RENEW
  else if code = 4 then .EXPIRE
  else if code = 5 then .COMPLETE
  else .other code

def TaskState.code : TaskState → UInt32
  | .NONE => 0
  | .READY => 1
  | .LEASED => 2
  | .SUCCEEDED => 3
  | .FAILED => 4
  | .CANCELLED => 5
  | .EXPIRED => 6
  | .other code => code

def TaskState.of_code (code : UInt32) : TaskState :=
  if code = 0 then .NONE
  else if code = 1 then .READY
  else if code = 2 then .LEASED
  else if code = 3 then .SUCCEEDED
  else if code = 4 then .FAILED
  else if code = 5 then .CANCELLED
  else if code = 6 then .EXPIRED
  else .other code

/-- `mesh_task_lease_raft_command_v1_t`. -/
structure Command where
  operation : Operation
  command_id : CommandId
  request_digest : Digest
  holder_node_id : Digest
  task_deadline_ms : UInt64
  observed_now_ms : UInt64
  lease_expires_at_ms : UInt64
  expected_fencing_token : UInt64
  result_code : Int32
  terminal_state : TaskState
  deriving DecidableEq

def COMMAND_VERSION : UInt8 := 1
def COMMAND_SIZE : Nat := 8 + 16 + 2 * 32 + 4 * 8 + 2 * 4

/-- `MESH_TASK_LEASE_RAFT_MAGIC`: `MTL1`. -/
def MAGIC : List UInt8 := [77, 84, 76, 49]

def command_is_canonical (command : Command) : Bool :=
  if Bytes.is_zero command.command_id.toList ∨ Bytes.is_zero command.request_digest.toList then false
  else
    match command.operation with
    | .REGISTER =>
      Bytes.is_zero command.holder_node_id.toList ∧ command.task_deadline_ms ≠ 0 ∧
        command.observed_now_ms = 0 ∧ command.lease_expires_at_ms = 0 ∧
        command.expected_fencing_token = 0 ∧ command.result_code = 0 ∧ command.terminal_state = .NONE
    | .ACQUIRE =>
      !Bytes.is_zero command.holder_node_id.toList ∧ command.task_deadline_ms = 0 ∧
        command.observed_now_ms ≠ 0 ∧ command.lease_expires_at_ms ≠ 0 ∧
        command.expected_fencing_token = 0 ∧ command.result_code = 0 ∧ command.terminal_state = .NONE
    | .RENEW =>
      !Bytes.is_zero command.holder_node_id.toList ∧ command.task_deadline_ms = 0 ∧
        command.observed_now_ms ≠ 0 ∧ command.lease_expires_at_ms ≠ 0 ∧
        command.expected_fencing_token ≠ 0 ∧ command.result_code = 0 ∧ command.terminal_state = .NONE
    | .EXPIRE =>
      Bytes.is_zero command.holder_node_id.toList ∧ command.task_deadline_ms = 0 ∧
        command.observed_now_ms ≠ 0 ∧ command.lease_expires_at_ms = 0 ∧
        command.expected_fencing_token ≠ 0 ∧ command.result_code = 0 ∧ command.terminal_state = .NONE
    | .COMPLETE =>
      terminal_state_valid command.terminal_state ∧ !Bytes.is_zero command.holder_node_id.toList ∧
        command.task_deadline_ms = 0 ∧ command.observed_now_ms ≠ 0 ∧ command.lease_expires_at_ms = 0 ∧
        command.expected_fencing_token ≠ 0
    | .other _ => false

/-- The bytes that the encoder writes, field by field. -/
def Command.frame (command : Command) : List UInt8 :=
  MAGIC ++ [COMMAND_VERSION, command.operation.code, 0, 0] ++ (command.command_id.toList ++
    (command.request_digest.toList ++ (command.holder_node_id.toList ++
    (write_u64_le command.task_deadline_ms ++ (write_u64_le command.observed_now_ms ++
    (write_u64_le command.lease_expires_at_ms ++ (write_u64_le command.expected_fencing_token ++
    (write_u32_le command.result_code.toUInt32 ++ write_u32_le command.terminal_state.code))))))))

def encode_v1 (command : Command) (output_capacity : Nat) : Except Result (List UInt8) :=
  if !command_is_canonical command ∨ output_capacity < COMMAND_SIZE then .error .INVALID_ARG
  else .ok command.frame

/-- The fields that the decoder reads at their offsets. -/
def Command.of_frame (input : List UInt8) : Command :=
  { operation := .of_code (input.getD 5 0), command_id := take_bytes 16 (input.drop 8)
    request_digest := take_bytes 32 (input.drop 24), holder_node_id := take_bytes 32 (input.drop 56)
    task_deadline_ms := read_u64_le (input.drop 88), observed_now_ms := read_u64_le (input.drop 96)
    lease_expires_at_ms := read_u64_le (input.drop 104), expected_fencing_token := read_u64_le (input.drop 112)
    result_code := (read_u32_le (input.drop 120)).toInt32, terminal_state := .of_code (read_u32_le (input.drop 124)) }

def decode_v1 (input : List UInt8) : Except Result Command :=
  if input.length ≠ COMMAND_SIZE ∨ input.take 4 ≠ MAGIC ∨ input.getD 4 0 ≠ COMMAND_VERSION ∨
      input.getD 6 0 ≠ 0 ∨ input.getD 7 0 ≠ 0 then
    .error .INVALID_ARG
  else if !command_is_canonical (.of_frame input) then .error .INVALID_ARG
  else .ok (.of_frame input)

/-- The transition that a decoded command asks for. -/
def Command.execute (store : Store) (committed_index : UInt64) (command : Command) : Outcome :=
  match command.operation with
  | .REGISTER =>
    register_v1 store committed_index command.command_id command.request_digest command.task_deadline_ms
  | .ACQUIRE =>
    acquire_v1 store committed_index command.command_id command.request_digest command.holder_node_id
      command.observed_now_ms command.lease_expires_at_ms
  | .RENEW =>
    renew_v1 store committed_index command.command_id command.request_digest command.holder_node_id
      command.expected_fencing_token command.observed_now_ms command.lease_expires_at_ms
  | .EXPIRE =>
    expire_v1 store committed_index command.command_id command.request_digest command.expected_fencing_token
      command.observed_now_ms
  | .COMPLETE =>
    complete_v1 store committed_index command.command_id command.request_digest command.holder_node_id
      command.expected_fencing_token command.observed_now_ms command.terminal_state command.result_code
  | .other _ => reject store .INVALID_ARG

def raft_apply_v1 (store : Store) (committed_index : UInt64) (command_data : List UInt8) : Outcome :=
  match decode_v1 command_data with
  | .error result => reject store result
  | .ok command => command.execute store committed_index

/-- `mesh_task_lease_raft_adapter_s`; `service` tells whether one is bound. -/
structure Adapter where
  store : Store
  service : Bool
  is_open : Bool
  deriving DecidableEq

def map_lease_result (result : Result) : TurboResult :=
  match result with
  | .OK => .OK
  | .RESOURCE_EXHAUSTED => .ENOMEM
  | _ => .EPROTO

/-- The body of the loop of `apply_batch`. -/
def apply_entry (adapter : Adapter) (entry : turboraft.Entry) : TurboResult × Adapter :=
  let outcome := raft_apply_v1 adapter.store entry.index entry.data
  (map_lease_result outcome.result, { adapter with store := outcome.store })

def apply_batch (adapter : Adapter) (entries : List turboraft.Entry) : TurboResult × Adapter :=
  turboraft.apply_entries Adapter.is_open apply_entry adapter entries

def adapter_create_v1 (store : Store) (calloc : Bool) : TurboResult × Option Adapter :=
  if store.is_open = false then (.EINVAL, none)
  else if calloc = false then (.ENOMEM, none)
  else
    (.OK, some
      { store, service := false, is_open := true })

/-- `mesh_task_lease_raft_propose_v1`, with the proposals that the service has
accepted. -/
def raft_propose_v1 (service : Proposal → TurboResult) (adapter : Adapter) (command_id : UInt64)
    (command : Command) : TurboResult × List Proposal :=
  if adapter.is_open = false ∨ adapter.service = false ∨ command_id = 0 then (.EINVAL, [])
  else
    match encode_v1 command COMMAND_SIZE with
    | .error result => (map_lease_result result, [])
    | .ok bytes =>
      propose_with_receipt service
        { command_id, data := bytes }

@[simp] theorem length_frame (command : Command) : command.frame.length = COMMAND_SIZE := by
  simp [Command.frame, MAGIC, COMMAND_SIZE]

variable {command : Command} (hcanonical : command_is_canonical command = true)

include hcanonical

/-- Reading the fields of a frame gives the command back. -/
theorem of_frame_frame : Command.of_frame command.frame = command := by
  have hoperation : Operation.of_code command.operation.code = command.operation := by
    cases hop : command.operation with
    | other code => simp [command_is_canonical, hop] at hcanonical
    | _ => rfl
  have hterminal : TaskState.of_code command.terminal_state.code = command.terminal_state := by
    cases hstate : command.terminal_state with
    | other code =>
      cases hop : command.operation <;> simp [command_is_canonical, terminal_state_valid, hop, hstate] at hcanonical
    | _ => rfl
  simp [Command.of_frame, Command.frame, MAGIC, drop_append_field, hoperation, hterminal]

/-- Every canonical command survives its encoding. -/
theorem decode_frame : decode_v1 command.frame = .ok command := by
  have hheader : command.frame.take 4 = MAGIC ∧ command.frame.getD 4 0 = COMMAND_VERSION ∧
      command.frame.getD 6 0 = 0 ∧ command.frame.getD 7 0 = 0 := by
    simp [Command.frame, MAGIC]
  obtain ⟨hmagic, hversion, hfirst, hsecond⟩ := hheader
  simp only [decode_v1, length_frame, hmagic, hversion, hfirst, hsecond, of_frame_frame hcanonical, hcanonical]
  simp

end turbop2p.mesh_task_lease
