import TurboP2P.Namespace.Store
import TurboP2P.Raft.Service

open Codec
open turbop2p.m3_namespace_local_store
open turbop2p.turboraft (TurboResult Proposal propose_with_receipt)

namespace turbop2p.m3_namespace_raft

/-- `m3_namespace_raft_command_type_t`. -/
inductive CommandType where
  | PUT
  | TOMBSTONE
  | UPDATE_PLACEMENT
  | other (code : UInt8)
  deriving DecidableEq

def CommandType.code : CommandType → UInt8
  | .PUT => 1
  | .TOMBSTONE => 2
  | .UPDATE_PLACEMENT => 3
  | .other code => code

def CommandType.of_code (code : UInt8) : CommandType :=
  if code = 1 then .PUT
  else if code = 2 then .TOMBSTONE
  else if code = 3 then .UPDATE_PLACEMENT
  else .other code

/-- `m3_namespace_raft_command_v1_t`; `manifest_bytes` is absent if the pointer
is null. -/
structure Command where
  type : CommandType
  key : Key
  manifest_bytes : Option (List UInt8)
  deriving DecidableEq

/-- The manifest of a command as bytes, none for a null pointer. -/
def Command.manifest (command : Command) : List UInt8 := command.manifest_bytes.getD []

def COMMAND_VERSION : UInt8 := 1
def COMMAND_HEADER_SIZE : Nat := 12 + 32

/-- `COMMAND_MAGIC`: `M3NS`. -/
def COMMAND_MAGIC : List UInt8 := [77, 51, 78, 83]

/-- A `PUT` and an `UPDATE_PLACEMENT` carry a manifest, a `TOMBSTONE` carries
none. -/
def shape_valid (type : CommandType) (manifest_bytes : Option (List UInt8)) : Bool :=
  match type with
  | .PUT => manifest_bytes.isSome && manifest_bytes ≠ some []
  | .UPDATE_PLACEMENT => manifest_bytes.isSome && manifest_bytes ≠ some []
  | .TOMBSTONE => manifest_bytes.isNone
  | .other _ => false

section codec

-- `TR_RAFT_MAX_ENTRY_BYTES` is a constant of the raft library.
variable (max_entry_bytes : Nat)

def checked_frame_size (bucket_size object_key_size manifest_size : Nat) : Option Nat :=
  if bucket_size = 0 ∨ object_key_size = 0 ∨ bucket_size > 0xffff ∨ object_key_size > 0xffff ∨
      manifest_size > 0xffff then none
  else if COMMAND_HEADER_SIZE + bucket_size + object_key_size + manifest_size > max_entry_bytes then none
  else some (COMMAND_HEADER_SIZE + bucket_size + object_key_size + manifest_size)

/-- The bytes that the encoder writes, field by field. -/
def Command.frame (command : Command) : List UInt8 :=
  COMMAND_MAGIC ++ [COMMAND_VERSION, command.type.code] ++ (write_u16_be (UInt16.ofNat command.key.bucket.length) ++
    (write_u16_be (UInt16.ofNat command.key.object_key.length) ++
    (write_u16_be (UInt16.ofNat command.manifest.length) ++ (command.key.tenant_id.toList ++
    (command.key.bucket ++ (command.key.object_key ++ command.manifest))))))

def command_encode_v1 (command : Command) (output_capacity : Nat) : Except TurboResult (List UInt8) :=
  if !shape_valid command.type command.manifest_bytes then .error .EINVAL
  else
    match checked_frame_size max_entry_bytes command.key.bucket.length command.key.object_key.length
        command.manifest.length with
    | none => .error .EINVAL
    | some size => if output_capacity < size then .error .EINVAL else .ok command.frame

/-- The fields that the decoder reads; the variable parts follow each other
behind the header. -/
def Command.of_frame (bytes : List UInt8) : Command :=
  let bucket_size := (read_u16_be (bytes.drop 6)).toNat
  let object_key_size := (read_u16_be (bytes.drop 8)).toNat
  let manifest_size := (read_u16_be (bytes.drop 10)).toNat
  { type := .of_code (bytes.getD 5 0)
    key :=
      { tenant_id := take_bytes 32 (bytes.drop 12), bucket := (bytes.drop COMMAND_HEADER_SIZE).take bucket_size
        object_key := (bytes.drop (COMMAND_HEADER_SIZE + bucket_size)).take object_key_size }
    manifest_bytes :=
      if manifest_size = 0 then none
      else some ((bytes.drop (COMMAND_HEADER_SIZE + bucket_size + object_key_size)).take manifest_size) }

def command_decode_v1 (bytes : List UInt8) : Except TurboResult Command :=
  if bytes.length < COMMAND_HEADER_SIZE ∨ bytes.length > max_entry_bytes ∨ bytes.take 4 ≠ COMMAND_MAGIC ∨
      bytes.getD 4 0 ≠ COMMAND_VERSION then .error .EPROTO
  else if !shape_valid (.of_code (bytes.getD 5 0)) (Command.of_frame bytes).manifest_bytes ∨
      checked_frame_size max_entry_bytes (read_u16_be (bytes.drop 6)).toNat (read_u16_be (bytes.drop 8)).toNat
        (read_u16_be (bytes.drop 10)).toNat ≠ some bytes.length then .error .EPROTO
  else .ok (.of_frame bytes)

end codec

/-- `m3_namespace_pending_read_v1_t`; `callback` stands for the completion
callback and its user data. -/
structure PendingRead where
  context_id : UInt64
  key : Key
  callback : Nat
  deriving DecidableEq

/-- `m3_namespace_raft_adapter_s`; the capacity of the pending table is its
length and `service` tells whether one is bound. -/
structure Adapter where
  store : Store
  service : Bool
  pending : SlotTable PendingRead
  pending_count : Nat
  next_read_sequence : UInt64
  is_open : Bool
  deriving DecidableEq

def MAX_PENDING_READS : Nat := 1024

def adapter_create_v1 (store : Store) (max_pending_reads : Nat) (calloc : Bool) : TurboResult × Option Adapter :=
  if store.is_open = false ∨ max_pending_reads = 0 ∨ max_pending_reads > MAX_PENDING_READS then (.EINVAL, none)
  else if calloc = false then (.ENOMEM, none)
  else
    (.OK, some
      { store, service := false, pending := List.replicate max_pending_reads none, pending_count := 0
        next_read_sequence := 0, is_open := true })

def map_store_result (result : Result) : TurboResult :=
  match result with
  | .OK => .OK
  | .INVALID_ARG => .EINVAL
  | .RESOURCE_EXHAUSTED => .ENOMEM
  | _ => .EPROTO

section apply

variable (sha256 : List UInt8 → Bytes 32) (max_entry_bytes : Nat)

/-- The transition that a decoded command asks for, where allocations
succeed. -/
def Command.execute (store : Store) (committed_index : UInt64) (command : Command) : Result × Store :=
  match command.type with
  | .PUT => apply_put_v1 sha256 true store committed_index command.key command.manifest
  | .UPDATE_PLACEMENT =>
    apply_update_placement_v1 sha256 true store committed_index command.key command.manifest
  | _ => apply_tombstone_v1 store committed_index command.key

/-- The body of the loop of `apply_batch`. -/
def apply_entry (adapter : Adapter) (entry : turboraft.Entry) : TurboResult × Adapter :=
  match command_decode_v1 max_entry_bytes entry.data with
  | .error result => (result, adapter)
  | .ok command =>
    let executed := command.execute sha256 adapter.store entry.index
    (map_store_result executed.1, { adapter with store := executed.2 })

def apply_batch (adapter : Adapter) (entries : List turboraft.Entry) : TurboResult × Adapter :=
  turboraft.apply_entries Adapter.is_open (apply_entry sha256 max_entry_bytes) adapter entries

end apply

/-- `m3_namespace_raft_propose_v1`, with the proposals that the service has
accepted. -/
def raft_propose_v1 (max_entry_bytes : Nat) (service : Proposal → TurboResult) (adapter : Adapter)
    (command_id : UInt64) (command : Command) : TurboResult × List Proposal :=
  if adapter.is_open = false ∨ adapter.service = false ∨ command_id = 0 then (.EINVAL, [])
  else
    match command_encode_v1 max_entry_bytes command max_entry_bytes with
    | .error result => (result, [])
    | .ok bytes =>
      propose_with_receipt service
        { command_id, data := bytes }

/-- The sizes of a checked frame fit their two-byte fields. -/
theorem checked_frame_size_some {max_entry_bytes bucket_size object_key_size manifest_size size : Nat}
    (hchecked : checked_frame_size max_entry_bytes bucket_size object_key_size manifest_size = some size) :
    (bucket_size ≤ 0xffff ∧ object_key_size ≤ 0xffff ∧ manifest_size ≤ 0xffff) ∧
      size = COMMAND_HEADER_SIZE + bucket_size + object_key_size + manifest_size ∧ size ≤ max_entry_bytes := by
  obtain ⟨hfields, hchecked⟩ := guard_passed hchecked
  obtain ⟨hfits, hsize⟩ := guard_passed hchecked
  have hsize := Option.some.inj hsize
  omega

theorem shape_valid_type {type : CommandType} {manifest_bytes : Option (List UInt8)}
    (hshape : shape_valid type manifest_bytes = true) : CommandType.of_code type.code = type := by
  cases type with
  | other code => simp [shape_valid] at hshape
  | _ => rfl

/-- A null pointer stands for the empty manifest and for no other. -/
theorem shape_valid_manifest {command : Command}
    (hshape : shape_valid command.type command.manifest_bytes = true) :
    (if command.manifest.length = 0 then none else some command.manifest) = command.manifest_bytes := by
  unfold Command.manifest
  cases hbytes : command.manifest_bytes with
  | none => rfl
  | some manifest =>
    cases manifest with
    | nil => cases htype : command.type <;> simp [shape_valid, hbytes, htype] at hshape
    | cons b rest => simp

section frame

variable {max_entry_bytes : Nat} {command : Command}

theorem length_frame (command : Command) :
    command.frame.length = COMMAND_HEADER_SIZE + command.key.bucket.length + command.key.object_key.length +
      command.manifest.length := by
  simp [Command.frame, COMMAND_MAGIC, COMMAND_HEADER_SIZE]
  omega

/-- The fixed part of a frame as the decoder finds it. -/
theorem frame_fields (command : Command) :
    command.frame.take 4 = COMMAND_MAGIC ∧ command.frame.getD 4 0 = COMMAND_VERSION ∧
      command.frame.getD 5 0 = command.type.code ∧
      read_u16_be (command.frame.drop 6) = UInt16.ofNat command.key.bucket.length ∧
      read_u16_be (command.frame.drop 8) = UInt16.ofNat command.key.object_key.length ∧
      read_u16_be (command.frame.drop 10) = UInt16.ofNat command.manifest.length ∧
      take_bytes 32 (command.frame.drop 12) = command.key.tenant_id ∧
      command.frame.drop COMMAND_HEADER_SIZE = command.key.bucket ++ (command.key.object_key ++ command.manifest) := by
  simp [Command.frame, COMMAND_MAGIC, COMMAND_HEADER_SIZE, drop_append_field]

theorem toNat_ofNat_size {size : Nat} (hsize : size ≤ 0xffff) : (UInt16.ofNat size).toNat = size :=
  UInt16.toNat_ofNat_of_lt' (by simp [UInt16.size]; omega)

variable (hshape : shape_valid command.type command.manifest_bytes = true) {size : Nat}
  (hchecked : checked_frame_size max_entry_bytes command.key.bucket.length command.key.object_key.length
    command.manifest.length = some size)

include hshape hchecked

theorem of_frame_frame : Command.of_frame command.frame = command := by
  obtain ⟨⟨hbucket, hkey, hmanifest⟩, _⟩ := checked_frame_size_some hchecked
  obtain ⟨_, _, htype, h6, h8, h10, htenant, hbody⟩ := frame_fields command
  simp only [Command.of_frame, htype, h6, h8, h10, htenant, toNat_ofNat_size hbucket, toNat_ofNat_size hkey,
    toNat_ofNat_size hmanifest, shape_valid_type hshape, ← List.drop_drop, hbody, List.take_left, List.drop_left,
    List.take_length, shape_valid_manifest hshape]

/-- Every command that the encoder accepts survives its encoding. -/
theorem decode_frame : command_decode_v1 max_entry_bytes command.frame = .ok command := by
  obtain ⟨⟨hbucket, hkey, hmanifest⟩, hsize, hfits⟩ := checked_frame_size_some hchecked
  obtain ⟨hmagic, hversion, htype, h6, h8, h10, _, _⟩ := frame_fields command
  have hlength : command.frame.length = size := (length_frame command).trans hsize.symm
  have hheader : COMMAND_HEADER_SIZE ≤ size := by omega
  simp only [command_decode_v1, hlength, hmagic, hversion, htype, h6, h8, h10, toNat_ofNat_size hbucket,
    toNat_ofNat_size hkey, toNat_ofNat_size hmanifest, hchecked, shape_valid_type hshape,
    of_frame_frame hshape hchecked, hshape]
  simp [hheader, hfits]

end frame

end turbop2p.m3_namespace_raft
