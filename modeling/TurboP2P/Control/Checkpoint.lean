import TurboP2P.Control.Query

open turbop2p.mesh_control

namespace turbop2p.mesh_control_state

/-- `mesh_control_state_resource_record_v1_t`; a null document is `none`. -/
structure ResourceRecord where
  status : ResourceStatus
  document : Option (List UInt8)
  document_size : Nat
  deriving DecidableEq

/-- `mesh_control_state_operation_record_v1_t`. -/
structure OperationRecord where
  operation : Operation
  terminal_expires_at_ms : Nat
  deriving DecidableEq

/-- `mesh_control_state_checkpoint_info_v1_t`. -/
structure CheckpointInfo where
  snapshot_generation : Nat
  next_event_cursor : Nat
  resource_count : Nat
  operation_count : Nat
  event_count : Nat
  deriving DecidableEq

/-- The outputs of `mesh_control_state_export_v1`. -/
structure Checkpoint where
  info : CheckpointInfo
  resources : List ResourceRecord
  operations : List OperationRecord
  events : List Event
  deriving DecidableEq

/-- The exported form of an occupied resource slot. -/
def ResourceSlot.record (slot : ResourceSlot) : ResourceRecord :=
  { status := slot.status, document := slot.document_pointer, document_size := slot.desired_document_size }

/-- The exported form of an occupied operation slot. -/
def OperationSlot.record (slot : OperationSlot) : OperationRecord :=
  { operation := slot.operation, terminal_expires_at_ms := slot.terminal_expires_at_ms }

def export_v1 (impl : Impl) (resources : Bool) (resource_capacity : Nat) (operations : Bool)
    (operation_capacity : Nat) (events : Bool) (event_capacity : Nat) (out_info : Bool) :
    Result × Option Checkpoint :=
  if !out_info || (resource_capacity != 0 && !resources) || (operation_capacity != 0 && !operations) ||
      (event_capacity != 0 && !events) then
    (.INVALID_ARG, none)
  else
    let info : CheckpointInfo :=
      { snapshot_generation := impl.snapshot_generation, next_event_cursor := impl.next_cursor
        resource_count := impl.resources.occupied, operation_count := impl.operations.occupied
        event_count := impl.event_count }
    if resource_capacity < info.resource_count || operation_capacity < info.operation_count ||
        event_capacity < info.event_count then
      (.RESOURCE_EXHAUSTED, some ⟨info, [], [], []⟩)
    else
      (.OK, some
        { info
          resources := impl.resources.live.map (·.record)
          operations := impl.operations.live.map (·.record)
          events := retained_events impl })

def resource_record_valid (record : ResourceRecord) (config : Config) : Bool :=
  let status := record.status
  !(!resource_kind_valid status.resource_kind || bytes_zero status.resource_id ||
    status.desired_epoch == 0 || status.desired_epoch < status.observed_epoch ||
    !presence_valid status.desired_presence || !presence_valid status.observed_presence ||
    (status.desired_presence == .PRESENT) != !bytes_zero status.desired_digest ||
    (status.observed_presence == .PRESENT) != !bytes_zero status.observed_digest ||
    (status.observed_presence == .PRESENT && status.observed_epoch == 0) ||
    config.desired_document_max_bytes < record.document_size ||
    (record.document_size != 0 && record.document.isNone))

def operation_record_valid (record : OperationRecord) : Bool :=
  let operation := record.operation
  if bytes_zero operation.operation_id || bytes_zero operation.request_id ||
      bytes_zero operation.message_id || operation.operation_id != operation.message_id ||
      !resource_kind_valid operation.resource_kind ||
      (operation.action != .APPLY && operation.action != .DELETE) ||
      bytes_zero operation.resource_id || bytes_zero operation.desired_digest ||
      operation.desired_epoch == 0 || operation.updated_at_ms < operation.created_at_ms ||
      !operation_state_valid operation.state then
    false
  else if operation_state_is_terminal_v1 operation.state then record.terminal_expires_at_ms != 0
  else record.terminal_expires_at_ms == 0

def event_record_valid (event : Event) : Bool :=
  event.cursor != 0 && !bytes_zero event.operation_id && resource_kind_valid event.resource_kind &&
    operation_state_valid event.operation_state && !bytes_zero event.resource_id &&
    event.desired_epoch != 0

/-- The first record of the resource exists and is at or beyond the epoch. -/
def record_bound (resources : List ResourceRecord) (resource_kind : ResourceKind) (resource_id : Digest)
    (desired_epoch : Nat) : Bool :=
  match resources.find? fun record =>
      record.status.resource_kind == resource_kind && record.status.resource_id == resource_id with
  | none => false
  | some record => desired_epoch ≤ record.status.desired_epoch

def records_unique {α : Type} (same : α → α → Bool) : List α → Bool
  | [] => true
  | record :: records => !records.any (same record) && records_unique same records

def checkpoint_inputs_unique_and_bound (resources : List ResourceRecord)
    (operations : List OperationRecord) (events : List Event) : Bool :=
  records_unique (fun left right => left.status.resource_kind == right.status.resource_kind &&
      left.status.resource_id == right.status.resource_id) resources &&
    records_unique (fun left right => left.operation.operation_id == right.operation.operation_id ||
      left.operation.request_id == right.operation.request_id) operations &&
    operations.all (fun record => record_bound resources record.operation.resource_kind
      record.operation.resource_id record.operation.desired_epoch) &&
    events.all fun event => record_bound resources event.resource_kind event.resource_id event.desired_epoch

/-- The checking loop over the resource records: it adds up the document bytes
and fails if a record is invalid or the budget is exceeded. -/
def import_resources_loop (config : Config) : Nat → List ResourceRecord → Option Nat
  | retained_document_bytes, [] => some retained_document_bytes
  | retained_document_bytes, record :: records =>
    if !resource_record_valid record config ||
        Word.sub config.desired_document_retained_bytes record.document_size < retained_document_bytes then
      none
    else
      import_resources_loop config (Word.add retained_document_bytes record.document_size) records

/-- The checking loop over the event records from position `index` on. -/
def import_events_loop (info : CheckpointInfo) : Nat → List Event → Bool
  | _, [] => true
  | index, event :: events =>
    let expected_cursor := Word.add (Word.sub info.next_event_cursor info.event_count) index
    event_record_valid event && event.cursor == expected_cursor && import_events_loop info (index + 1) events

def ResourceRecord.slot (record : ResourceRecord) : ResourceSlot :=
  { status := record.status
    desired_document :=
      if record.document_size = 0 then [] else (record.document.getD []).take record.document_size
    desired_document_size := record.document_size }

def OperationRecord.slot (record : OperationRecord) : OperationSlot :=
  { terminal_expires_at_ms := record.terminal_expires_at_ms, operation := record.operation }

/-- Write the entries over the beginning of the array. -/
def overwrite {α : Type} (cells entries : List α) : List α := entries ++ cells.drop entries.length

/-- `mesh_control_state_import_v1`. The arrays hold at least as many records as
`info` announces; `calloc` and `malloc` tell whether the document table and
the document copies can be allocated. -/
def import_v1 (impl : Impl) (info : Option CheckpointInfo) (resources : Option (List ResourceRecord))
    (operations : Option (List OperationRecord)) (events : Option (List Event)) (calloc malloc : Bool) :
    Result × Impl :=
  match info with
  | none => (.INVALID_ARG, impl)
  | some info =>
    if info.snapshot_generation == 0 || info.snapshot_generation == U64_MAX ||
        info.next_event_cursor == 0 || info.next_event_cursor == U64_MAX ||
        impl.config.resource_capacity < info.resource_count ||
        impl.config.operation_capacity < info.operation_count ||
        impl.config.event_capacity < info.event_count ||
        (info.resource_count != 0 && resources.isNone) ||
        (info.operation_count != 0 && operations.isNone) || (info.event_count != 0 && events.isNone) ||
        impl.resources.occupied != 0 || impl.operations.occupied != 0 || impl.event_count != 0 then
      (.INVALID_ARG, impl)
    else
      let resources := (resources.getD []).take info.resource_count
      let operations := (operations.getD []).take info.operation_count
      let events := (events.getD []).take info.event_count
      match import_resources_loop impl.config 0 resources with
      | none => (.INVALID_ARG, impl)
      | some retained_document_bytes =>
        if !operations.all operation_record_valid then (.INVALID_ARG, impl)
        else if info.next_event_cursor ≤ info.event_count then (.INVALID_ARG, impl)
        else if !import_events_loop info 0 events then (.INVALID_ARG, impl)
        else if !checkpoint_inputs_unique_and_bound resources operations events then (.INVALID_ARG, impl)
        else if info.resource_count != 0 && !calloc then (.RESOURCE_EXHAUSTED, impl)
        else if (resources.any fun record => record.document_size != 0) && !malloc then
          (.RESOURCE_EXHAUSTED, impl)
        else
          (.OK,
            { impl with
              resources := overwrite impl.resources (resources.map fun record => some record.slot)
              operations := overwrite impl.operations (operations.map fun record => some record.slot)
              events := overwrite impl.events events, event_count := info.event_count, event_head := 0
              next_cursor := info.next_event_cursor, snapshot_generation := info.snapshot_generation
              retained_document_bytes })

/-- Export the state into arrays as large as its tables and import the result
into a fresh state with the same configuration. -/
def restore (impl : Impl) (calloc malloc : Bool) : Result × Impl :=
  match export_v1 impl true impl.config.resource_capacity true impl.config.operation_capacity true
    impl.config.event_capacity true with
  | (.OK, some checkpoint) =>
    import_v1 (initial impl.config) (some checkpoint.info) (some checkpoint.resources)
      (some checkpoint.operations) (some checkpoint.events) calloc malloc
  | (result, _) => (result, initial impl.config)

end turbop2p.mesh_control_state
