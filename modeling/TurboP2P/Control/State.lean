import TurboP2P.Control.Primitives
import TurboP2P.Lib.SlotTable
import TurboP2P.Lib.Word

open turbop2p.mesh_control

namespace turbop2p.mesh_control_state

def MAX_RESOURCES_V1 : Nat := 4096
def MAX_OPERATIONS_V1 : Nat := 4096
def MAX_EVENTS_V1 : Nat := 8192
def MAX_DESIRED_DOCUMENT_SIZE_V1 : Nat := MAX_FRAME_SIZE_V1
def MAX_RETAINED_DOCUMENT_BYTES_V1 : Nat := OUTBOX_MAX_RETAINED_BYTES_V1

/-- `mesh_control_presence_v1_t`. -/
inductive Presence where
  | ABSENT
  | PRESENT
  | other (code : Nat)
  deriving DecidableEq

/-- `mesh_control_state_config_v1_t`. -/
structure Config where
  resource_capacity : Nat
  operation_capacity : Nat
  event_capacity : Nat
  terminal_retention_ms : Nat
  desired_document_max_bytes : Nat
  desired_document_retained_bytes : Nat
  deriving DecidableEq

/-- `mesh_control_resource_status_v1_t`. -/
structure ResourceStatus where
  resource_kind : ResourceKind
  resource_id : Digest
  desired_epoch : Nat
  observed_epoch : Nat
  desired_presence : Presence
  observed_presence : Presence
  desired_digest : Digest
  observed_digest : Digest
  deriving DecidableEq

/-- `mesh_control_operation_v1_t`. -/
structure Operation where
  operation_id : Id
  request_id : Id
  message_id : Id
  resource_kind : ResourceKind
  action : DesiredAction
  resource_id : Digest
  desired_digest : Digest
  desired_epoch : Nat
  created_at_ms : Nat
  updated_at_ms : Nat
  state : OperationState
  deriving DecidableEq

/-- `mesh_control_event_v1_t`. -/
structure Event where
  cursor : Nat
  operation_id : Id
  resource_kind : ResourceKind
  operation_state : OperationState
  resource_id : Digest
  desired_epoch : Nat
  recorded_at_ms : Nat
  deriving DecidableEq

/-- The zeroed cell of a freshly allocated event array. -/
instance : Inhabited Event :=
  ⟨⟨0, Bytes.zero 16, .NONE, .other 0, Bytes.zero 32, 0, 0⟩⟩

/-- An occupied `mesh_control_resource_slot_v1_t`. -/
structure ResourceSlot where
  status : ResourceStatus
  desired_document : List UInt8
  desired_document_size : Nat
  deriving DecidableEq

/-- An occupied `mesh_control_operation_slot_v1_t`. -/
structure OperationSlot where
  terminal_expires_at_ms : Nat
  operation : Operation
  deriving DecidableEq

/-- `struct mesh_control_state_impl_v1`. A slot whose `occupied` flag is clear
is `none`. -/
structure Impl where
  config : Config
  resources : SlotTable ResourceSlot
  operations : SlotTable OperationSlot
  events : List Event
  event_count : Nat
  event_head : Nat
  next_cursor : Nat
  snapshot_generation : Nat
  retained_document_bytes : Nat
  deriving DecidableEq

def bytes_zero {n : Nat} (bytes : Bytes n) : Bool := Bytes.is_zero bytes.toList

def presence_valid : Presence → Bool
  | .ABSENT | .PRESENT => true
  | .other _ => false

def saturating_add (left right : Nat) : Nat :=
  if U64_MAX - left < right then U64_MAX else left + right

def mutation_with_event_available (impl : Impl) : Bool :=
  impl.snapshot_generation != U64_MAX && impl.next_cursor != U64_MAX

variable (impl : Impl)

def find_resource (resource_kind : ResourceKind) (resource_id : Digest) :
    Option (Nat × ResourceSlot) :=
  impl.resources.find fun slot =>
    slot.status.resource_kind == resource_kind && slot.status.resource_id == resource_id

def find_operation (operation_id : Id) : Option (Nat × OperationSlot) :=
  impl.operations.find fun slot => slot.operation.operation_id == operation_id

def find_request (request_id : Id) : Option (Nat × OperationSlot) :=
  impl.operations.find fun slot => slot.operation.request_id == request_id

/-- The event record written for a change of `operation`. -/
def event_of (operation : Operation) (now_ms : Nat) : Event :=
  { cursor := impl.next_cursor, operation_id := operation.operation_id, resource_kind := operation.resource_kind
    operation_state := operation.state, resource_id := operation.resource_id, desired_epoch := operation.desired_epoch
    recorded_at_ms := now_ms }

def append_event (operation : Operation) (now_ms : Nat) : Impl :=
  let event := event_of impl operation now_ms
  if impl.event_count < impl.config.event_capacity then
    let index := (impl.event_head + impl.event_count) % impl.config.event_capacity
    { impl with
      events := impl.events.set index event, event_count := impl.event_count + 1
      next_cursor := Word.add impl.next_cursor 1 }
  else
    { impl with
      events := impl.events.set impl.event_head event, event_head := (impl.event_head + 1) % impl.config.event_capacity
      next_cursor := Word.add impl.next_cursor 1 }

def operation_binding_equal (operation : Operation) (envelope : Envelope) (action : DesiredAction) :
    Bool :=
  operation.resource_kind == envelope.resource_kind && operation.action == action &&
    operation.desired_epoch == envelope.epoch && operation.resource_id == envelope.resource_id &&
    operation.desired_digest == envelope.payload_digest

/-- The configurations that `mesh_control_state_init_v1` accepts. -/
def config_valid (config : Config) : Bool :=
  !(config.resource_capacity == 0 || MAX_RESOURCES_V1 < config.resource_capacity ||
    config.operation_capacity == 0 || MAX_OPERATIONS_V1 < config.operation_capacity ||
    config.event_capacity == 0 || MAX_EVENTS_V1 < config.event_capacity ||
    config.terminal_retention_ms == 0 || config.desired_document_max_bytes == 0 ||
    MAX_DESIRED_DOCUMENT_SIZE_V1 < config.desired_document_max_bytes ||
    config.desired_document_retained_bytes < config.desired_document_max_bytes ||
    MAX_RETAINED_DOCUMENT_BYTES_V1 < config.desired_document_retained_bytes)

/-- The state that a successful initialization leaves behind. -/
def initial (config : Config) : Impl :=
  { config
    resources := List.replicate config.resource_capacity none
    operations := List.replicate config.operation_capacity none
    events := List.replicate config.event_capacity default
    event_count := 0
    event_head := 0
    next_cursor := 1
    snapshot_generation := 1
    retained_document_bytes := 0 }

/-- `mesh_control_state_init_v1` on an empty handle; `calloc` tells whether the
allocations succeed. -/
def init_v1 (config : Option Config) (calloc : Bool) : Result × Option Impl :=
  match config with
  | none => (.INVALID_ARG, none)
  | some config =>
    if !config_valid config then (.INVALID_ARG, none)
    else if !calloc then (.RESOURCE_EXHAUSTED, none)
    else (.OK, some (initial config))

/-- A retained operation that a sweep at `now_ms` removes. -/
def expired (now_ms : Nat) (slot : OperationSlot) : Bool :=
  operation_state_is_terminal_v1 slot.operation.state && slot.terminal_expires_at_ms ≤ now_ms

/-- `mesh_control_state_sweep_v1`: the number of removed operations and the
state after the sweep. -/
def sweep_v1 (now_ms : Nat) : Nat × Impl :=
  if impl.snapshot_generation = U64_MAX then (0, impl)
  else
    let removed := impl.operations.countP fun slot => slot.any (expired now_ms)
    let swept := { impl with operations := impl.operations.clear (expired now_ms) }
    if removed != 0 then
      (removed, { swept with snapshot_generation := Word.add impl.snapshot_generation 1 })
    else
      (removed, swept)

/-- The cleared slot of a resource that is submitted for the first time. -/
def fresh_resource (envelope : Envelope) : ResourceSlot :=
  { status :=
      { resource_kind := envelope.resource_kind, resource_id := envelope.resource_id, desired_epoch := 0
        observed_epoch := 0, desired_presence := .other 0, observed_presence := .ABSENT, desired_digest := Bytes.zero 32
        observed_digest := Bytes.zero 32 }
    desired_document := []
    desired_document_size := 0 }

/-- The operation that an accepted submission creates. -/
def accepted_operation (envelope : Envelope) (action : DesiredAction) (now_ms : Nat) : Operation :=
  { operation_id := envelope.message_id, request_id := envelope.request_id, message_id := envelope.message_id
    resource_kind := envelope.resource_kind, action, resource_id := envelope.resource_id
    desired_digest := envelope.payload_digest, desired_epoch := envelope.epoch, created_at_ms := now_ms
    updated_at_ms := now_ms, state := .ACCEPTED }

/-- The desired part of a resource slot after an accepted submission. -/
def submitted_resource (slot : ResourceSlot) (envelope : Envelope) (action : DesiredAction)
    (preserve_document : Bool) (document : List UInt8) (document_size : Nat) : ResourceSlot :=
  let status :=
    { slot.status with
      desired_epoch := envelope.epoch, desired_presence := if action == .APPLY then .PRESENT else .ABSENT
      desired_digest := if action == .APPLY then envelope.payload_digest else Bytes.zero 32 }
  if preserve_document then { slot with status := status }
  else
    { status, desired_document := document.take document_size, desired_document_size := document_size }

/-- The writes of an accepted submission into resource slot `i` and operation
slot `j`, once every check has passed. -/
def commit_submission (i : Nat) (slot : ResourceSlot) (j : Nat) (envelope : Envelope)
    (action : DesiredAction) (preserve_document : Bool) (document : List UInt8)
    (document_size previous_document_size now_ms : Nat) : Impl :=
  let operation := accepted_operation envelope action now_ms
  let resource := submitted_resource slot envelope action preserve_document document document_size
  let written :=
    { impl with
      resources := impl.resources.set i (some resource)
      retained_document_bytes :=
        if preserve_document then impl.retained_document_bytes
        else Word.add (Word.sub impl.retained_document_bytes previous_document_size) document_size
      operations := impl.operations.set j (some { terminal_expires_at_ms := 0, operation }) }
  let logged := append_event written operation now_ms
  { logged with snapshot_generation := Word.add logged.snapshot_generation 1 }

/-- The envelope's epochs do not continue those of the resource. -/
def epoch_conflict (resource : Option (Nat × ResourceSlot)) (envelope : Envelope) : Bool :=
  match resource with
  | some (_, slot) =>
    envelope.precondition_epoch != slot.status.desired_epoch ||
      envelope.epoch ≤ slot.status.desired_epoch
  | none => envelope.precondition_epoch != 0

/-- The slot that a submission writes: the resource's own one, or else the
first free one. -/
def target_resource (envelope : Envelope) : Option (Nat × ResourceSlot) :=
  match find_resource impl envelope.resource_kind envelope.resource_id with
  | some found => some found
  | none => impl.resources.free.map fun i => (i, fresh_resource envelope)

/-- The part of `mesh_control_state_submit_document_v1` after its argument
check and its sweep; `malloc` tells whether the document copy can be
allocated. -/
def submit_swept (envelope : Envelope) (action : DesiredAction)
    (document : List UInt8) (document_size now_ms : Nat) (malloc : Bool) :
    Result × Option Operation × Impl :=
  match find_request impl envelope.request_id with
  | some (_, slot) =>
    if !operation_binding_equal slot.operation envelope action then (.CONFLICT, none, impl)
    else (.OK, some slot.operation, impl)
  | none =>
    let resource := find_resource impl envelope.resource_kind envelope.resource_id
    let previous_document_size := resource.elim 0 fun found => found.2.desired_document_size
    let preserve_document := action == .DELETE && document_size == 0 && resource.isSome
    if impl.config.desired_document_max_bytes < document_size then
      (.RESOURCE_EXHAUSTED, none, impl)
    else if !preserve_document &&
        Word.sub impl.config.desired_document_retained_bytes document_size <
          Word.sub impl.retained_document_bytes previous_document_size then
      (.RESOURCE_EXHAUSTED, none, impl)
    else
      match target_resource impl envelope, impl.operations.free with
      | some (i, slot), some j =>
        if !mutation_with_event_available impl then (.INVALID_STATE, none, impl)
        else if epoch_conflict resource envelope then
          (.CONFLICT, none, impl)
        else if document_size != 0 && !malloc then (.RESOURCE_EXHAUSTED, none, impl)
        else
          (.OK, some (accepted_operation envelope action now_ms),
            commit_submission impl i slot j envelope action preserve_document document document_size
              previous_document_size now_ms)
      | _, _ => (.RESOURCE_EXHAUSTED, none, impl)

/-- The argument check of `mesh_control_state_submit_document_v1` on a non-null
envelope. -/
def submit_arguments_valid (envelope : Envelope) (action : DesiredAction)
    (document : Option (List UInt8)) (document_size now_ms : Nat) (out_operation : Bool) : Bool :=
  !(!out_operation || envelope.kind != .INTENT || (action != .APPLY && action != .DELETE) ||
    (document_size != 0 && document.isNone) || envelope_validate_v1 envelope != .OK ||
    bytes_zero envelope.request_id || now_ms < envelope.issued_at_ms ||
    envelope.expires_at_ms ≤ now_ms)

/-- `mesh_control_state_submit_document_v1`. A null pointer argument is `none`;
`out_operation` tells whether the output pointer is non-null. -/
def submit_document_v1 (envelope : Option Envelope) (action : DesiredAction)
    (document : Option (List UInt8)) (document_size now_ms : Nat) (out_operation malloc : Bool) :
    Result × Option Operation × Impl :=
  match envelope with
  | none => (.INVALID_ARG, none, impl)
  | some envelope =>
    if !submit_arguments_valid envelope action document document_size now_ms out_operation then
      (.INVALID_ARG, none, impl)
    else
      submit_swept (sweep_v1 impl now_ms).2 envelope action (document.getD []) document_size now_ms
        malloc

/-- The part of `mesh_control_state_validate_document_v1` after its argument
check. -/
def validate_checked (envelope : Envelope) (action : DesiredAction) (document_size : Nat) : Result :=
  match find_request impl envelope.request_id with
  | some (_, slot) =>
    if operation_binding_equal slot.operation envelope action then .OK else .CONFLICT
  | none =>
    let resource := find_resource impl envelope.resource_kind envelope.resource_id
    let previous_document_size := resource.elim 0 fun found => found.2.desired_document_size
    let preserve_document := action == .DELETE && document_size == 0 && resource.isSome
    if impl.config.desired_document_max_bytes < document_size then .RESOURCE_EXHAUSTED
    else if !preserve_document &&
        Word.sub impl.config.desired_document_retained_bytes document_size <
          Word.sub impl.retained_document_bytes previous_document_size then
      .RESOURCE_EXHAUSTED
    else if (resource.isNone && impl.resources.free.isNone) || impl.operations.free.isNone then
      .RESOURCE_EXHAUSTED
    else if !mutation_with_event_available impl then .INVALID_STATE
    else if epoch_conflict resource envelope then
      .CONFLICT
    else .OK

def validate_document_v1 (envelope : Option Envelope) (action : DesiredAction)
    (document : Option (List UInt8)) (document_size now_ms : Nat) : Result :=
  match envelope with
  | none => .INVALID_ARG
  | some envelope =>
    if (action != .APPLY && action != .DELETE) || (document_size != 0 && document.isNone) ||
        envelope_validate_v1 envelope != .OK || bytes_zero envelope.request_id ||
        now_ms < envelope.issued_at_ms || envelope.expires_at_ms ≤ now_ms then
      .INVALID_ARG
    else
      validate_checked impl envelope action document_size

/-- The writes of an accepted transition of the operation in slot `j`. -/
def commit_transition (j : Nat) (slot : OperationSlot) (next_state : OperationState) (now_ms : Nat) : Impl :=
  let operation := { slot.operation with state := next_state, updated_at_ms := now_ms }
  let terminal_expires_at_ms :=
    if operation_state_is_terminal_v1 next_state then
      saturating_add now_ms impl.config.terminal_retention_ms
    else slot.terminal_expires_at_ms
  let written :=
    { impl with operations := impl.operations.set j (some { terminal_expires_at_ms, operation }) }
  let logged := append_event written operation now_ms
  { logged with snapshot_generation := Word.add logged.snapshot_generation 1 }

def transition_operation_v1 (operation_id : Option Id) (next_state : OperationState) (now_ms : Nat) : Result × Impl :=
  match operation_id with
  | none => (.INVALID_ARG, impl)
  | some operation_id =>
    if bytes_zero operation_id then (.INVALID_ARG, impl)
    else
      match find_operation impl operation_id with
      | none => (.EMPTY, impl)
      | some (j, slot) =>
        if !operation_transition_allowed_v1 slot.operation.state next_state then
          (.INVALID_STATE, impl)
        else if slot.operation.state = next_state then (.OK, impl)
        else if !mutation_with_event_available impl then (.INVALID_STATE, impl)
        else (.OK, commit_transition impl j slot next_state now_ms)

/-- The observed part of a resource slot after an observation. -/
def observed_resource (slot : ResourceSlot) (observed_epoch : Nat) (presence : Presence)
    (digest : Digest) : ResourceSlot :=
  { slot with
    status :=
      { slot.status with observed_epoch, observed_presence := presence, observed_digest := digest } }

/-- The first live operation that an observation of the desired state
completes. -/
def matching_operation (resource_kind : ResourceKind) (resource_id : Digest)
    (observed_epoch : Nat) : Option (Nat × OperationSlot) :=
  impl.operations.find fun slot =>
    slot.operation.resource_kind == resource_kind && slot.operation.desired_epoch == observed_epoch &&
      !operation_state_is_terminal_v1 slot.operation.state && slot.operation.resource_id == resource_id

/-- The operation that an observation completes: none unless it agrees with
the desired state of the resource. -/
def completed_operation (slot : ResourceSlot) (resource_kind : ResourceKind)
    (resource_id : Digest) (observed_epoch : Nat) (presence : Presence) (digest : Digest) :
    Option (Nat × OperationSlot) :=
  let completes_desired :=
    observed_epoch == slot.status.desired_epoch && presence == slot.status.desired_presence &&
      digest == slot.status.desired_digest
  if completes_desired then matching_operation impl resource_kind resource_id observed_epoch
  else none

/-- The writes of an accepted observation of the resource in slot `i`. -/
def commit_observation (i : Nat) (slot : ResourceSlot)
    (completed : Option (Nat × OperationSlot)) (observed_epoch : Nat) (presence : Presence)
    (digest : Digest) (now_ms : Nat) : Impl :=
  let observed :=
    { impl with resources := impl.resources.set i (some (observed_resource slot observed_epoch presence digest)) }
  let logged :=
    match completed with
    | none => observed
    | some (j, found) =>
      let operation := { found.operation with state := .SUCCEEDED, updated_at_ms := now_ms }
      let terminal_expires_at_ms := saturating_add now_ms impl.config.terminal_retention_ms
      append_event
        { observed with operations := observed.operations.set j (some { terminal_expires_at_ms, operation }) }
        operation now_ms
  { logged with snapshot_generation := Word.add logged.snapshot_generation 1 }

def observe_v1 (resource_kind : ResourceKind) (resource_id : Option Digest)
    (observed_epoch : Nat) (presence : Presence) (digest : Option Digest) (now_ms : Nat) :
    Result × Impl :=
  match resource_id, digest with
  | some resource_id, some digest =>
    if bytes_zero resource_id || observed_epoch == 0 ||
        (presence != .ABSENT && presence != .PRESENT) ||
        (presence == .PRESENT && bytes_zero digest) ||
        (presence == .ABSENT && !bytes_zero digest) then
      (.INVALID_ARG, impl)
    else
      match find_resource impl resource_kind resource_id with
      | none => (.EMPTY, impl)
      | some (i, slot) =>
        if observed_epoch < slot.status.observed_epoch ||
            slot.status.desired_epoch < observed_epoch then
          (.CONFLICT, impl)
        else if observed_epoch == slot.status.observed_epoch &&
            presence == slot.status.observed_presence && slot.status.observed_digest == digest then
          (.OK, impl)
        else
          let completed :=
            completed_operation impl slot resource_kind resource_id observed_epoch presence digest
          if impl.snapshot_generation == U64_MAX ||
              (completed.isSome && impl.next_cursor == U64_MAX) then
            (.INVALID_STATE, impl)
          else
            (.OK, commit_observation impl i slot completed observed_epoch presence digest now_ms)
  | _, _ => (.INVALID_ARG, impl)

/-- The mutating calls of the control state with their arguments. -/
inductive Call where
  | submit_document (envelope : Option Envelope) (action : DesiredAction)
      (document : Option (List UInt8)) (document_size now_ms : Nat) (out_operation malloc : Bool)
  | transition_operation (operation_id : Option Id) (next_state : OperationState) (now_ms : Nat)
  | observe (resource_kind : ResourceKind) (resource_id : Option Digest) (observed_epoch : Nat)
      (presence : Presence) (digest : Option Digest) (now_ms : Nat)
  | sweep (now_ms : Nat)

/-- The state after one mutating call. -/
def apply (impl : Impl) : Call → Impl
  | .submit_document envelope action document document_size now_ms out_operation malloc =>
    (submit_document_v1 impl envelope action document document_size now_ms out_operation malloc).2.2
  | .transition_operation operation_id next_state now_ms =>
    (transition_operation_v1 impl operation_id next_state now_ms).2
  | .observe resource_kind resource_id observed_epoch presence digest now_ms =>
    (observe_v1 impl resource_kind resource_id observed_epoch presence digest now_ms).2
  | .sweep now_ms => (sweep_v1 impl now_ms).2

end turbop2p.mesh_control_state
