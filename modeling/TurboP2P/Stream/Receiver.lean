import TurboP2P.Control.Primitives
import TurboP2P.Lib.Codec
import TurboP2P.Lib.Word
import Mathlib.Data.UInt
import Mathlib.Data.FinEnum

open turbop2p.mesh_control (Id bytes_are_zero)

namespace turbop2p.mesh_stream_session

def UINT64_MAX : UInt64 := 0xFFFFFFFFFFFFFFFF
def CONTENT_TYPE_MAX : Nat := 64

/-- `mesh_stream_session_result_t`. -/
inductive Result where
  | OK
  | NEED_MORE
  | INVALID_ARG
  | INVALID_FRAME
  | INVALID_SCHEMA
  | INVALID_STATE
  | BINDING_MISMATCH
  | OUT_OF_ORDER
  | FLOW_CONTROL
  | RESOURCE_EXHAUSTED
  | STALE_PREPARATION
  | UNAUTHORIZED
  deriving DecidableEq

/-- `mesh_stream_frame_type_t`. -/
inductive FrameType where
  | OPEN
  | ACCEPT
  | DATA
  | WINDOW_UPDATE
  | CANCEL
  | CLOSE
  deriving DecidableEq

/-- `mesh_stream_session_state_t`. -/
inductive State where
  | AWAIT_OPEN
  | AWAIT_ACCEPT_SEND
  | ACTIVE
  | END_RECEIVED
  | CANCELLED
  | CLOSED
  deriving DecidableEq

/-- A frame as `mesh_stream_frame_decode` delivers it: only data has a
payload. -/
structure Frame where
  type : FrameType
  end_stream : Bool
  stream_id : Id
  stream_epoch : UInt64
  sequence : UInt64
  offset : UInt64
  metadata : List UInt8
  payload_len : UInt64
  payload_empty : type ≠ .DATA → payload_len = 0

/-- `mesh_stream_open_v1_t`, without the content type. -/
structure Open where
  stream_class : UInt8
  total_size_known : Bool
  total_size : UInt64
  deriving DecidableEq

/-- `mesh_stream_receiver_config_v1_t`, without the bound of the codec. -/
structure Config where
  stream_id : Id
  stream_epoch : UInt64
  initial_receive_window : UInt64
  max_receive_window : UInt64
  max_total_size : UInt64
  allowed_class_mask : UInt32
  allow_unknown_total_size : Bool
  deriving DecidableEq

/-- `mesh_stream_receiver_session_v1_t`. -/
structure Session where
  config : Config
  state : State := .AWAIT_OPEN
  next_receive_sequence : UInt64 := 0
  committed_offset : UInt64 := 0
  receive_limit : UInt64
  next_control_sequence : UInt64 := 0
  generation : UInt64 := 0
  total_size : UInt64 := 0
  stream_class : UInt8 := 0
  total_size_known : Bool := false
  deriving DecidableEq

/-- `mesh_stream_receive_preparation_v1_t`. -/
structure Preparation where
  generation : UInt64
  frame_type : FrameType
  end_stream : Bool
  sequence : UInt64
  offset : UInt64
  payload_len : UInt64
  opened : Open := ⟨0, false, 0⟩
  reason_code : UInt16 := 0
  deriving DecidableEq

/-- `mesh_stream_control_preparation_v1_t`; the frame has no flags, metadata or
payload. -/
structure ControlPreparation where
  frame_type : FrameType
  stream_id : Id
  stream_epoch : UInt64
  sequence : UInt64
  offset : UInt64
  generation : UInt64
  previous_limit : UInt64
  grant : UInt64 := 0
  deriving DecidableEq

/-- `read_tlv`: the type and the value of a field, and what follows it. -/
def read_tlv (metadata : List UInt8) : Option (UInt16 × List UInt8 × List UInt8) :=
  let length := (Codec.read_u16_be (metadata.drop 2)).toNat
  if metadata.length < 4 ∨ length > metadata.length - 4 then none
  else some (Codec.read_u16_be metadata, (metadata.drop 4).take length, metadata.drop (4 + length))

def content_type_is_valid (value : List UInt8) : Bool :=
  value ≠ [] ∧ value.length ≤ CONTENT_TYPE_MAX ∧ ∀ byte ∈ value, 0x21 ≤ byte ∧ byte ≤ 0x7e

def parse_open (metadata : List UInt8) : Option Open :=
  match read_tlv metadata with
  | some (1, [stream_class], rest) =>
    match read_tlv rest with
    | some (2, total, rest) =>
      let opened : Open :=
        if Codec.read_u64_be total = UINT64_MAX then ⟨stream_class, false, 0⟩
        else ⟨stream_class, true, Codec.read_u64_be total⟩
      if total.length ≠ 8 then none
      else if rest = [] then some opened
      else
        match read_tlv rest with
        | some (3, content_type, []) => if content_type_is_valid content_type then some opened else none
        | _ => none
    | _ => none
  | _ => none

def parse_reason (metadata : List UInt8) : Option UInt16 :=
  match read_tlv metadata with
  | some (1, value, []) => if value.length = 2 then some (Codec.read_u16_be value) else none
  | _ => none

def class_is_allowed (config : Config) (stream_class : UInt8) : Bool :=
  1 ≤ stream_class ∧ stream_class ≤ 4 ∧ config.allowed_class_mask &&& (1 <<< (stream_class.toUInt32 - 1)) ≠ 0

variable (session : Session)

def validate_open (frame : Frame) : Except Result Open :=
  if session.state ≠ .AWAIT_OPEN then .error .INVALID_STATE
  else if frame.sequence ≠ 0 ∨ frame.offset ≠ 0 then .error .OUT_OF_ORDER
  else
    match parse_open frame.metadata with
    | none => .error .INVALID_SCHEMA
    | some opened =>
      if ¬class_is_allowed session.config opened.stream_class ∨
          (¬opened.total_size_known ∧ ¬session.config.allow_unknown_total_size) then .error .UNAUTHORIZED
      else if opened.total_size_known ∧ opened.total_size > session.config.max_total_size then
        .error .RESOURCE_EXHAUSTED
      else .ok opened

def validate_data (frame : Frame) : Result :=
  let end_offset := frame.offset + frame.payload_len
  if session.state ≠ .ACTIVE then .INVALID_STATE
  else if session.next_receive_sequence = UINT64_MAX then .RESOURCE_EXHAUSTED
  else if frame.sequence ≠ session.next_receive_sequence ∨ frame.offset ≠ session.committed_offset then .OUT_OF_ORDER
  else if frame.payload_len > UINT64_MAX - frame.offset then .RESOURCE_EXHAUSTED
  else if end_offset > session.receive_limit then .FLOW_CONTROL
  else if end_offset > session.config.max_total_size then .RESOURCE_EXHAUSTED
  else if session.total_size_known ∧ end_offset > session.total_size then .RESOURCE_EXHAUSTED
  else if frame.end_stream ∧ session.total_size_known ∧ end_offset ≠ session.total_size then .INVALID_SCHEMA
  else .OK

/-- The states in which a stream can be cancelled. -/
def can_cancel (state : State) : Bool := state = .AWAIT_ACCEPT_SEND ∨ state = .ACTIVE ∨ state = .END_RECEIVED

def validate_terminal_control (frame : Frame) : Except Result UInt16 :=
  if session.next_receive_sequence = UINT64_MAX then .error .RESOURCE_EXHAUSTED
  else if frame.sequence ≠ session.next_receive_sequence ∨ frame.offset ≠ session.committed_offset then
    .error .OUT_OF_ORDER
  else
    match parse_reason frame.metadata with
    | none => .error .INVALID_SCHEMA
    | some reason_code =>
      if frame.type = .CLOSE then
        if session.state = .END_RECEIVED then .ok reason_code else .error .INVALID_STATE
      else if can_cancel session.state then .ok reason_code
      else .error .INVALID_STATE

def init_v1 (config : Config) : Except Result Session :=
  if bytes_are_zero config.stream_id ∨ config.stream_epoch = 0 ∨ config.initial_receive_window = 0 ∨
      config.max_receive_window < config.initial_receive_window ∨
      config.max_total_size < config.initial_receive_window ∨ config.allowed_class_mask = 0 ∨
      config.allowed_class_mask &&& ~~~0x0f ≠ 0 then .error .INVALID_ARG
  else .ok { config, receive_limit := config.initial_receive_window }

/-- `mesh_stream_receiver_prepare_v1` on what the codec makes of the bytes. -/
def prepare_v1 (decoded : Except Result Frame) : Except Result Preparation :=
  if session.state = .CANCELLED ∨ session.state = .CLOSED then .error .INVALID_STATE
  else
    match decoded with
    | .error result => .error result
    | .ok frame =>
      let preparation : Preparation :=
        { generation := session.generation, frame_type := frame.type, end_stream := frame.end_stream
          sequence := frame.sequence, offset := frame.offset, payload_len := frame.payload_len }
      if frame.stream_id ≠ session.config.stream_id ∨ frame.stream_epoch ≠ session.config.stream_epoch then
        .error .BINDING_MISMATCH
      else
        match frame.type with
        | .OPEN => (validate_open session frame).map fun opened => { preparation with opened }
        | .DATA => if validate_data session frame = .OK then .ok preparation else .error (validate_data session frame)
        | .CANCEL | .CLOSE =>
          (validate_terminal_control session frame).map fun reason_code => { preparation with reason_code }
        | .ACCEPT | .WINDOW_UPDATE => .error .INVALID_STATE

def receive_preparation_matches (preparation : Preparation) : Bool :=
  let current := decide (preparation.sequence = session.next_receive_sequence ∧
    preparation.offset = session.committed_offset)
  preparation.generation = session.generation &&
    match preparation.frame_type with
    | .OPEN =>
      session.state = .AWAIT_OPEN ∧ preparation.sequence = 0 ∧ preparation.offset = 0 ∧ preparation.payload_len = 0
    | .DATA =>
      session.state = .ACTIVE ∧ current ∧ preparation.payload_len ≤ session.receive_limit - session.committed_offset
    | .CANCEL => can_cancel session.state ∧ current
    | .CLOSE => session.state = .END_RECEIVED ∧ current
    | _ => false

/-- What a commit makes of a session. -/
def receive (preparation : Preparation) : Session :=
  let next : Session :=
    { session with next_receive_sequence := session.next_receive_sequence + 1, generation := session.generation + 1 }
  match preparation.frame_type with
  | .OPEN =>
    { next with
      stream_class := preparation.opened.stream_class, total_size_known := preparation.opened.total_size_known
      total_size := preparation.opened.total_size
      receive_limit :=
        if preparation.opened.total_size_known ∧ session.receive_limit > preparation.opened.total_size then
          preparation.opened.total_size
        else session.receive_limit
      next_receive_sequence := 1, state := .AWAIT_ACCEPT_SEND }
  | .DATA =>
    { next with
      committed_offset := session.committed_offset + preparation.payload_len
      state := if preparation.end_stream then .END_RECEIVED else session.state }
  | .CANCEL => { next with state := .CANCELLED }
  | _ => { next with state := .CLOSED }

def commit_v1 (preparation : Preparation) : Result × Session :=
  if ¬receive_preparation_matches session preparation then (.STALE_PREPARATION, session)
  else (.OK, receive session preparation)

def prepare_control_frame (frame_type : FrameType) (offset grant : UInt64) : ControlPreparation :=
  { frame_type, stream_id := session.config.stream_id, stream_epoch := session.config.stream_epoch
    sequence := session.next_control_sequence, offset, generation := session.generation
    previous_limit := session.receive_limit, grant }

def prepare_accept_v1 (session : Session) : Except Result ControlPreparation :=
  if session.state ≠ .AWAIT_ACCEPT_SEND then .error .INVALID_STATE
  else if session.next_control_sequence = UINT64_MAX then .error .RESOURCE_EXHAUSTED
  else .ok (prepare_control_frame session .ACCEPT session.receive_limit 0)

def prepare_window_v1 (grant : UInt64) : Except Result ControlPreparation :=
  let new_limit := session.receive_limit + grant
  if grant = 0 then .error .INVALID_ARG
  else if session.state ≠ .ACTIVE then .error .INVALID_STATE
  else if session.next_control_sequence = UINT64_MAX then .error .RESOURCE_EXHAUSTED
  else if grant > session.config.max_receive_window - (session.receive_limit - session.committed_offset) then
    .error .FLOW_CONTROL
  else if grant > UINT64_MAX - session.receive_limit then .error .RESOURCE_EXHAUSTED
  else if new_limit > session.config.max_total_size then .error .RESOURCE_EXHAUSTED
  else if session.total_size_known ∧ new_limit > session.total_size then .error .RESOURCE_EXHAUSTED
  else .ok (prepare_control_frame session .WINDOW_UPDATE new_limit grant)

def commit_control_v1 (preparation : ControlPreparation) : Result × Session :=
  let next : Session :=
    { session with next_control_sequence := session.next_control_sequence + 1, generation := session.generation + 1 }
  if preparation.generation ≠ session.generation ∨ preparation.sequence ≠ session.next_control_sequence ∨
      session.next_control_sequence = UINT64_MAX ∨ preparation.previous_limit ≠ session.receive_limit ∨
      preparation.stream_id ≠ session.config.stream_id ∨ preparation.stream_epoch ≠ session.config.stream_epoch then
    (.STALE_PREPARATION, session)
  else
    match preparation.frame_type with
    | .ACCEPT =>
      if session.state ≠ .AWAIT_ACCEPT_SEND ∨ preparation.offset ≠ session.receive_limit ∨ preparation.grant ≠ 0 then
        (.STALE_PREPARATION, session)
      else (.OK, { next with state := .ACTIVE })
    | .WINDOW_UPDATE =>
      if session.state ≠ .ACTIVE ∨ preparation.grant = 0 ∨ preparation.grant > UINT64_MAX - session.receive_limit ∨
          preparation.grant >
            session.config.max_receive_window - (session.receive_limit - session.committed_offset) ∨
          preparation.offset ≠ session.receive_limit + preparation.grant ∨
          preparation.offset > session.config.max_total_size ∨
          (session.total_size_known ∧ preparation.offset > session.total_size) then (.STALE_PREPARATION, session)
      else (.OK, { next with receive_limit := preparation.offset })
    | _ => (.STALE_PREPARATION, session)

end turbop2p.mesh_stream_session
