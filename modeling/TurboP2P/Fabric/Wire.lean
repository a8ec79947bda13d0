import TurboP2P.Lib.Codec
import TurboP2P.Lib.Machine

open Codec

namespace turbop2p.mesh_multi_network

/-- The codes of `mesh_error_t` that the module returns. -/
inductive Result where
  | OK
  | INVALID_ARG
  | NO_MEMORY
  | NETWORK
  | NOT_FOUND
  | ALREADY_EXISTS
  | TIMEOUT
  | CLOSED
  | UNSUPPORTED
  | UNAUTHORIZED
  | CONFLICT
  | RESOURCE_EXHAUSTED
  | STALE_EPOCH
  | BUSY
  deriving DecidableEq

abbrev NodeId := Bytes 32
abbrev NetworkUid := Bytes 16

def TICKET_VERSION : UInt16 := 1
def TICKET_WIRE_SIZE : Nat := 300
def FRAME_MAX : Nat := 64 * 1024
def FRAME_VERSION : UInt8 := 2
def FRAME_HEADER_SIZE : Nat := 136
def FRAME_KIND_OPEN : UInt8 := 1
def FRAME_KIND_DATA : UInt8 := 2
def FRAME_KIND_CLOSE : UInt8 := 3
def FRAME_FAMILY_IPV4 : UInt8 := 4
def FRAME_DIRECT_HOP_LIMIT : UInt8 := 1

def ROLE_MEMBER : UInt32 := 1
def ROLE_SUBNET_ROUTER : UInt32 := 2
def ROLE_EXIT : UInt32 := 4
def ROLE_NETWORK_GATEWAY : UInt32 := 8
def ROLE_KNOWN_MASK : UInt32 := ROLE_MEMBER ||| ROLE_SUBNET_ROUTER ||| ROLE_EXIT ||| ROLE_NETWORK_GATEWAY

/-- `MESH_NETWORK_TICKET_MAGIC`: `MTK1`. -/
def TICKET_MAGIC : List UInt8 := [77, 84, 75, 49]

/-- `MESH_NETWORK_FRAME_MAGIC`: `TMN2`. -/
def FRAME_MAGIC : List UInt8 := [84, 77, 78, 50]

/-- `mesh_network_issuer_v1_t`. -/
structure Issuer where
  key_id : Bytes 32
  public_key : Bytes 32
  deriving DecidableEq

/-- `mesh_network_membership_ticket_v1_t`. -/
structure Ticket where
  mesh_id : Bytes 32
  network_uid : NetworkUid
  membership_id : Bytes 16
  managed_node_id : NodeId
  node_public_key_digest : Bytes 32
  network_generation : UInt64
  membership_generation : UInt64
  node_key_epoch : UInt64
  policy_epoch : UInt64
  ipv4_address : UInt32
  ipv4_prefix_length : UInt8
  roles : UInt32
  issued_at_unix_s : UInt64
  not_before_unix_s : UInt64
  not_after_unix_s : UInt64
  issuer_key_id : Bytes 32
  signature : Bytes 64
  deriving DecidableEq

/-- `mesh_network_frame_view_v2_t`. -/
structure FrameView where
  kind : UInt8
  network_uid : NetworkUid
  generation : UInt64
  policy_epoch : UInt64
  source_node_id : NodeId
  destination_node_id : NodeId
  sequence : UInt64
  hop_limit : UInt8
  address_family : UInt8
  source_ipv4 : UInt32
  destination_ipv4 : UInt32
  payload : List UInt8
  deriving DecidableEq

/-- The functions of the cryptographic libraries. -/
structure Crypto where
  sha256 : List UInt8 → Option (Bytes 32)
  ed25519_verify : Bytes 32 → List UInt8 → Bytes 64 → Bool

/-- `mesh_network_ticket_encode_body`: the bytes that an issuer signs. -/
def ticket_encode_body (ticket : Ticket) : List UInt8 :=
  TICKET_MAGIC ++ (write_u16_be TICKET_VERSION ++ (write_u16_be (UInt16.ofNat TICKET_WIRE_SIZE) ++
    (ticket.mesh_id.toList ++ (ticket.network_uid.toList ++ (ticket.membership_id.toList ++
    (ticket.managed_node_id.toList ++ (ticket.node_public_key_digest.toList ++
    (write_u64_be ticket.network_generation ++ (write_u64_be ticket.membership_generation ++
    (write_u64_be ticket.node_key_epoch ++ (write_u64_be ticket.policy_epoch ++ (write_u32_be ticket.ipv4_address ++
    ([ticket.ipv4_prefix_length] ++ (List.replicate 3 0 ++ (write_u32_be ticket.roles ++
    (write_u64_be ticket.issued_at_unix_s ++ (write_u64_be ticket.not_before_unix_s ++
    (write_u64_be ticket.not_after_unix_s ++ ticket.issuer_key_id.toList))))))))))))))))))

def membership_ticket_encode_v1 (ticket : Ticket) : List UInt8 :=
  ticket_encode_body ticket ++ ticket.signature.toList

def ticket_decode (wire : List UInt8) : Except Result Ticket :=
  if wire.length ≠ TICKET_WIRE_SIZE ∨ wire.take 4 ≠ TICKET_MAGIC ∨ read_u16_be (wire.drop 4) ≠ TICKET_VERSION ∨
      read_u16_be (wire.drop 6) ≠ UInt16.ofNat TICKET_WIRE_SIZE then .error .INVALID_ARG
  else if !Bytes.is_zero ((wire.drop 173).take 3) then .error .INVALID_ARG
  else
    .ok
      { mesh_id := take_bytes 32 (wire.drop 8), network_uid := take_bytes 16 (wire.drop 40)
        membership_id := take_bytes 16 (wire.drop 56), managed_node_id := take_bytes 32 (wire.drop 72)
        node_public_key_digest := take_bytes 32 (wire.drop 104), network_generation := read_u64_be (wire.drop 136)
        membership_generation := read_u64_be (wire.drop 144), node_key_epoch := read_u64_be (wire.drop 152)
        policy_epoch := read_u64_be (wire.drop 160), ipv4_address := read_u32_be (wire.drop 168)
        ipv4_prefix_length := (wire.drop 172).headD 0, roles := read_u32_be (wire.drop 176)
        issued_at_unix_s := read_u64_be (wire.drop 180), not_before_unix_s := read_u64_be (wire.drop 188)
        not_after_unix_s := read_u64_be (wire.drop 196), issuer_key_id := take_bytes 32 (wire.drop 204)
        signature := take_bytes 64 (wire.drop 236) }

def public_key_digest_v1 (crypto : Crypto) (public_key : Bytes 32) : Option (Bytes 32) :=
  crypto.sha256 public_key.toList

def ticket_is_current (ticket : Ticket) (now_unix_s : UInt64) : Bool :=
  ticket.not_before_unix_s ≤ now_unix_s ∧ now_unix_s ≤ ticket.not_after_unix_s

def membership_ticket_verify_v1 (crypto : Crypto) (ticket : Ticket) (issuer : Issuer) (now_unix_s : UInt64) : Result :=
  if ticket.ipv4_address = 0 ∨ ticket.ipv4_prefix_length > 32 ∨ ticket.network_generation = 0 ∨
      ticket.membership_generation = 0 ∨ ticket.node_key_epoch = 0 ∨ ticket.policy_epoch = 0 ∨
      ticket.issued_at_unix_s = 0 ∨ ticket.not_before_unix_s < ticket.issued_at_unix_s ∨
      ticket.not_after_unix_s < ticket.not_before_unix_s ∨ now_unix_s < ticket.not_before_unix_s ∨
      now_unix_s > ticket.not_after_unix_s ∨ ticket.roles &&& ROLE_MEMBER = 0 ∨
      ticket.roles &&& ~~~ROLE_KNOWN_MASK ≠ 0 ∨ Bytes.is_zero ticket.network_uid.toList ∨
      Bytes.is_zero ticket.membership_id.toList ∨ Bytes.is_zero ticket.managed_node_id.toList ∨
      ticket.issuer_key_id ≠ issuer.key_id then .UNAUTHORIZED
  else if crypto.ed25519_verify issuer.public_key (ticket_encode_body ticket) ticket.signature then .OK
  else .UNAUTHORIZED

def FrameView.bytes (view : FrameView) : List UInt8 :=
  FRAME_MAGIC ++ ([FRAME_VERSION] ++ ([view.kind] ++ (List.replicate 2 0 ++
    (write_u16_be (UInt16.ofNat FRAME_HEADER_SIZE) ++ (List.replicate 2 0 ++
    (write_u32_be (UInt32.ofNat view.payload.length) ++ (view.network_uid.toList ++ (write_u64_be view.generation ++
    (write_u64_be view.policy_epoch ++ (view.source_node_id.toList ++ (view.destination_node_id.toList ++
    (write_u64_be view.sequence ++ ([view.hop_limit] ++ ([view.address_family] ++ (List.replicate 2 0 ++
    (write_u32_be view.source_ipv4 ++ (write_u32_be view.destination_ipv4 ++ (List.replicate 4 0 ++
    view.payload))))))))))))))))))

/-- `mesh_network_frame_encode` into a buffer of the frame's own size. -/
def frame_encode (view : FrameView) : Except Result (List UInt8) :=
  if view.payload.length > 4294967295 then .error .INVALID_ARG
  else if FRAME_HEADER_SIZE + view.payload.length > FRAME_MAX then .error .RESOURCE_EXHAUSTED
  else .ok view.bytes

def frame_decode (frame : List UInt8) : Except Result FrameView :=
  if frame.length < FRAME_HEADER_SIZE ∨ frame.length > FRAME_MAX ∨ frame.take 4 ≠ FRAME_MAGIC ∨
      (frame.drop 4).headD 0 ≠ FRAME_VERSION ∨ !Bytes.is_zero ((frame.drop 6).take 2) ∨
      read_u16_be (frame.drop 8) ≠ UInt16.ofNat FRAME_HEADER_SIZE ∨ !Bytes.is_zero ((frame.drop 10).take 2) then
    .error .INVALID_ARG
  else if !Bytes.is_zero ((frame.drop 122).take 2) then .error .INVALID_ARG
  else if !Bytes.is_zero ((frame.drop 132).take 4) then .error .INVALID_ARG
  else if (read_u32_be (frame.drop 12)).toNat ≠ frame.length - FRAME_HEADER_SIZE then .error .INVALID_ARG
  else if Bytes.is_zero (take_bytes 16 (frame.drop 16)).toList ∨
      Bytes.is_zero (take_bytes 32 (frame.drop 48)).toList then .error .INVALID_ARG
  else
    .ok
      { kind := (frame.drop 5).headD 0, network_uid := take_bytes 16 (frame.drop 16)
        generation := read_u64_be (frame.drop 32), policy_epoch := read_u64_be (frame.drop 40)
        source_node_id := take_bytes 32 (frame.drop 48), destination_node_id := take_bytes 32 (frame.drop 80)
        sequence := read_u64_be (frame.drop 112), hop_limit := (frame.drop 120).headD 0
        address_family := (frame.drop 121).headD 0, source_ipv4 := read_u32_be (frame.drop 124)
        destination_ipv4 := read_u32_be (frame.drop 128), payload := frame.drop 136 }

def ipv4_packet_valid (packet : List UInt8) (expected_source expected_destination : UInt32) : Bool :=
  if packet.length < 20 ∨ packet.headD 0 >>> 4 ≠ 4 then false
  else
    let header_len := (packet.headD 0 &&& 0x0f).toNat * 4
    let total_len := (read_u16_be (packet.drop 2)).toNat
    if header_len < 20 ∨ header_len > packet.length ∨ total_len < header_len ∨ total_len ≠ packet.length then false
    else read_u32_be (packet.drop 12) = expected_source ∧ read_u32_be (packet.drop 16) = expected_destination

/-- What a ticket that passes verification shows: its issuer signed it, it has
an address and the time is in its validity. -/
structure Ticket.Verified (crypto : Crypto) (ticket : Ticket) (issuer : Issuer) (now_unix_s : UInt64) : Prop where
  address : ticket.ipv4_address ≠ 0
  current : ticket_is_current ticket now_unix_s = true
  node : Bytes.is_zero ticket.managed_node_id.toList = false
  key : ticket.issuer_key_id = issuer.key_id
  signed : crypto.ed25519_verify issuer.public_key (ticket_encode_body ticket) ticket.signature = true

theorem membership_ticket_verify_v1_eq_ok {crypto : Crypto} {ticket : Ticket} {issuer : Issuer} {now_unix_s : UInt64}
    (hok : membership_ticket_verify_v1 crypto ticket issuer now_unix_s = .OK) :
    ticket.Verified crypto issuer now_unix_s := by
  obtain ⟨hfields, hok⟩ := guard_passed hok
  simp only [not_or, Bool.not_eq_true] at hfields
  obtain ⟨haddress, -, -, -, -, -, -, -, -, hbefore, hafter, -, -, -, -, hnode, hkey⟩ := hfields
  refine ⟨haddress, ?_, hnode, not_not.mp hkey, ?_⟩
  · simp only [ticket_is_current, decide_eq_true_eq]
    exact ⟨UInt64.not_lt.mp hbefore, UInt64.not_lt.mp hafter⟩
  · by_contra hsigned
    rw [if_neg hsigned] at hok
    cases hok

theorem ipv4_packet_valid_source {packet : List UInt8} {expected_source expected_destination : UInt32}
    (hvalid : ipv4_packet_valid packet expected_source expected_destination = true) :
    read_u32_be (packet.drop 12) = expected_source ∧ read_u32_be (packet.drop 16) = expected_destination := by
  obtain ⟨_, hvalid⟩ := guard_passed hvalid
  obtain ⟨_, hvalid⟩ := guard_passed hvalid
  exact of_decide_eq_true hvalid

end turbop2p.mesh_multi_network
