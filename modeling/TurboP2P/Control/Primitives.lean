import TurboP2P.Lib.Bytes
import TurboP2P.Lib.Machine

namespace turbop2p.mesh_control

/-- `mesh_control_result_t`. -/
inductive Result where
  | OK
  | INVALID_ARG
  | INVALID_STATE
  | CONFLICT
  | RESOURCE_EXHAUSTED
  | CLOSED
  | EMPTY
  | UNAUTHORIZED
  | STALE_EPOCH
  | UNSUPPORTED
  | UNKNOWN_COMMIT
  | TIMEOUT
  | PROVIDER_UNAVAILABLE
  deriving DecidableEq

/-- `mesh_control_message_kind_v1_t`; `other` stands for every code without a
name. -/
inductive MessageKind where
  | HELLO
  | INTENT
  | OBSERVATION
  | OPERATION
  | EVENT
  | RECEIPT
  | other (code : Nat)
  deriving DecidableEq

/-- `mesh_control_resource_kind_v1_t`. -/
inductive ResourceKind where
  | NONE
  | NODE
  | NETWORK
  | FUNCTION
  | SERVICE
  | ROUTE
  | RELEASE
  | other (code : Nat)
  deriving DecidableEq

/-- `mesh_control_operation_state_v1_t`. -/
inductive OperationState where
  | SUBMITTED
  | ACCEPTED
  | RUNNING
  | SUCCEEDED
  | FAILED
  | REJECTED
  | EXPIRED
  | INTERRUPTED
  | other (code : Nat)
  deriving DecidableEq

/-- `mesh_control_desired_action_v1_t`. -/
inductive DesiredAction where
  | APPLY
  | DELETE
  | other (code : Nat)
  deriving DecidableEq

def SCHEMA_V1 : Nat := 1
def MAX_FRAME_SIZE_V1 : Nat := 64 * 1024
def OUTBOX_MAX_RETAINED_BYTES_V1 : Nat := 64 * 1024 * 1024

/-- `MESH_CONTROL_ID_SIZE` bytes. -/
abbrev Id := Bytes 16

/-- `MESH_CONTROL_DIGEST_SIZE` bytes; node ids have the same size. -/
abbrev Digest := Bytes 32

/-- `mesh_control_envelope_v1_t`, without the fields that neither the envelope
check nor the control state reads. -/
structure Envelope where
  schema_version : Nat
  kind : MessageKind
  message_id : Id
  request_id : Id
  mesh_id : Digest
  origin_principal : Digest
  target_node_id : Digest
  resource_kind : ResourceKind
  reserved : Nat
  resource_id : Digest
  epoch : Nat
  sequence : Nat
  issued_at_ms : Nat
  expires_at_ms : Nat
  precondition_epoch : Nat
  payload_digest : Digest
  payload_size : Nat
  deriving DecidableEq

def message_kind_valid : MessageKind → Bool
  | .HELLO | .INTENT | .OBSERVATION | .OPERATION | .EVENT | .RECEIPT => true
  | .other _ => false

def resource_kind_valid : ResourceKind → Bool
  | .NODE | .NETWORK | .FUNCTION | .SERVICE | .ROUTE | .RELEASE => true
  | .NONE | .other _ => false

def operation_state_valid : OperationState → Bool
  | .other _ => false
  | _ => true

def bytes_are_zero {n : Nat} (bytes : Bytes n) : Bool := Bytes.is_zero bytes.toList

/-- `mesh_control_envelope_validate_v1` on a non-null envelope. -/
def envelope_validate_v1 (envelope : Envelope) : Result :=
  let is_hello := envelope.kind == .HELLO
  let requires_target := envelope.kind == .INTENT || envelope.kind == .OPERATION
  if envelope.schema_version != SCHEMA_V1 || !message_kind_valid envelope.kind ||
      envelope.reserved != 0 || bytes_are_zero envelope.message_id ||
      bytes_are_zero envelope.mesh_id || bytes_are_zero envelope.origin_principal ||
      envelope.sequence == 0 || envelope.issued_at_ms == 0 ||
      envelope.expires_at_ms ≤ envelope.issued_at_ms ||
      MAX_FRAME_SIZE_V1 < envelope.payload_size then
    .INVALID_ARG
  else if requires_target && bytes_are_zero envelope.target_node_id then
    .INVALID_ARG
  else if is_hello && (envelope.resource_kind != .NONE || !bytes_are_zero envelope.resource_id ||
      envelope.precondition_epoch != 0) then
    .INVALID_ARG
  else if !is_hello && (!resource_kind_valid envelope.resource_kind ||
      bytes_are_zero envelope.resource_id || envelope.epoch == 0) then
    .INVALID_ARG
  else if (envelope.payload_size == 0) != bytes_are_zero envelope.payload_digest then
    .INVALID_ARG
  else
    .OK

def operation_state_is_terminal_v1 : OperationState → Bool
  | .SUCCEEDED | .FAILED | .REJECTED | .EXPIRED | .INTERRUPTED => true
  | .SUBMITTED | .ACCEPTED | .RUNNING | .other _ => false

def operation_transition_allowed_v1 (source target : OperationState) : Bool :=
  if !operation_state_valid source || !operation_state_valid target then
    false
  else if source == target then
    true
  else if operation_state_is_terminal_v1 source then
    false
  else
    match source with
    | .SUBMITTED => target == .ACCEPTED || target == .REJECTED || target == .EXPIRED
    | .ACCEPTED =>
      target == .RUNNING || target == .SUCCEEDED || target == .FAILED || target == .REJECTED ||
        target == .EXPIRED || target == .INTERRUPTED
    | .RUNNING => operation_state_is_terminal_v1 target
    | _ => false

/-- What a validated intent guarantees about the fields that the control state
copies into its records. -/
structure Envelope.WellFormedIntent (envelope : Envelope) : Prop where
  message_id : bytes_are_zero envelope.message_id = false
  resource_kind : resource_kind_valid envelope.resource_kind = true
  resource_id : bytes_are_zero envelope.resource_id = false
  epoch : envelope.epoch ≠ 0
  payload : envelope.payload_size = 0 ↔ bytes_are_zero envelope.payload_digest = true

theorem envelope_validate_intent {envelope : Envelope} (hkind : envelope.kind = .INTENT)
    (hvalid : envelope_validate_v1 envelope = .OK) : envelope.WellFormedIntent := by
  obtain ⟨hheader, hvalid⟩ := guard_passed hvalid
  obtain ⟨_, hvalid⟩ := guard_passed hvalid
  obtain ⟨_, hvalid⟩ := guard_passed hvalid
  obtain ⟨hresource, hvalid⟩ := guard_passed hvalid
  obtain ⟨hpayload, _⟩ := guard_passed hvalid
  simp only [Bool.or_eq_true, not_or, Bool.not_eq_true] at hheader
  simp only [hkind, Bool.and_eq_true, Bool.or_eq_true, not_and, not_or, Bool.not_eq_true] at hresource
  obtain ⟨⟨hresource_kind, hresource_id⟩, hepoch⟩ := hresource (by decide)
  refine ⟨hheader.1.1.1.1.1.1.2, by simpa using hresource_kind, hresource_id, by simpa using hepoch, ?_⟩
  simp only [bne_iff_ne, ne_eq, not_not] at hpayload
  rw [← hpayload, beq_iff_eq]

/-- The states of an operation from its acceptance on. -/
def operation_started : OperationState → Bool
  | .SUBMITTED | .other _ => false
  | _ => true

variable {source target : OperationState}

/-- No edge leads back to the submitted state. -/
theorem started_transition (hstarted : operation_started source = true)
    (hallowed : operation_transition_allowed_v1 source target = true) : operation_started target = true := by
  cases source <;> cases target <;> simp_all [operation_started, operation_transition_allowed_v1, operation_state_valid,
      operation_state_is_terminal_v1]

/-- A started operation that is not terminal may succeed. -/
theorem succeeded_transition (hstarted : operation_started source = true)
    (hlive : operation_state_is_terminal_v1 source = false) :
    operation_transition_allowed_v1 source .SUCCEEDED = true := by
  cases source <;> simp_all [operation_started, operation_transition_allowed_v1, operation_state_valid,
      operation_state_is_terminal_v1]

/-- No edge leaves a terminal state, other than the trivial one. -/
theorem terminal_transition (hterminal : operation_state_is_terminal_v1 source = true)
    (hallowed : operation_transition_allowed_v1 source target = true) : target = source := by
  unfold operation_transition_allowed_v1 at hallowed
  by_contra hne
  have hbeq : (source == target) = false := by simpa using Ne.symm hne
  simp [hbeq, hterminal] at hallowed

end turbop2p.mesh_control
