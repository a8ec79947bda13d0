import TurboP2P.Fabric.Calls

open Codec

namespace turbop2p.mesh_multi_network

/-- What an OPEN frame writes into the record of its binding. -/
def Ticket.bind (ticket : Ticket) (binding : Binding) (restart : Bool) : Binding :=
  { binding with
    ipv4_address := ticket.ipv4_address, membership_generation := ticket.membership_generation
    node_key_epoch := ticket.node_key_epoch, not_after_unix_s := ticket.not_after_unix_s, roles := ticket.roles
    last_rx_sequence := if restart then 0 else binding.last_rx_sequence
    next_tx_sequence := if restart then 0 else binding.next_tx_sequence, active := true, open_sent := true }

def new_binding (record : Nat) (network : NetworkUid) (node_id : NodeId) : Binding :=
  { record, network, node_id, ipv4_address := 0, membership_generation := 0, node_key_epoch := 0, not_after_unix_s := 0
    roles := 0, last_rx_sequence := 0, next_tx_sequence := 0, active := false, open_sent := false }

variable (crypto : Crypto) (env : Env) (fabric : Fabric)

/-- The checks of an OPEN frame before its ticket is read. -/
def open_refused (network : Network) (node_id : NodeId) (frame : FrameView) : Bool :=
  network.lifecycle ≠ .ACTIVE ∨ !peer_authorized network node_id ∨ frame.payload.length ≠ TICKET_WIRE_SIZE ∨
    frame.generation ≠ network.generation ∨ frame.policy_epoch ≠ network.policy_epoch ∨
    frame.address_family ≠ FRAME_FAMILY_IPV4 ∨ frame.sequence ≠ 0 ∨ frame.hop_limit ≠ 0 ∨
    frame.source_node_id ≠ node_id ∨ frame.destination_node_id ≠ fabric.local_node_id

/-- The checks of the ticket of an OPEN frame. -/
def ticket_refused (network : Network) (node_id : NodeId) (frame : FrameView) (ticket : Ticket) : Bool :=
  match find_issuer fabric ticket.issuer_key_id with
  | none => true
  | some issuer =>
    membership_ticket_verify_v1 crypto ticket issuer env.now_unix_s ≠ .OK ∨ ticket.mesh_id ≠ fabric.mesh_id ∨
      ticket.network_uid ≠ network.uid ∨ ticket.network_generation ≠ network.generation ∨
      ticket.policy_epoch ≠ network.policy_epoch ∨ ticket.managed_node_id ≠ node_id ∨
      public_key_digest_v1 crypto node_id ≠ some ticket.node_public_key_digest ∨
      frame.source_ipv4 ≠ ticket.ipv4_address ∨ frame.destination_ipv4 ≠ 0 ∨
      !prefix_contains network.local_membership.ipv4_address network.local_membership.ipv4_prefix_length
        ticket.ipv4_address

def accept_open (authenticated_node_id : NodeId) (frame : FrameView) :
    Result × Fabric × Sent :=
  match find fabric frame.network_uid with
  | none => (.UNAUTHORIZED, fabric, [])
  | some network =>
    if open_refused fabric network authenticated_node_id frame then (.UNAUTHORIZED, fabric, [])
    else
      match ticket_decode frame.payload with
      | .error _ => (.UNAUTHORIZED, fabric, [])
      | .ok ticket =>
        if ticket_refused crypto env fabric network authenticated_node_id frame ticket then (.UNAUTHORIZED, fabric, [])
        else if (find_binding fabric network.uid none ticket.ipv4_address).any
            fun owner => owner.node_id ≠ authenticated_node_id then (.CONFLICT, fabric, [])
        else
          match find_binding fabric network.uid (some authenticated_node_id) 0 with
          | some binding =>
            if ticket.membership_generation < binding.membership_generation ∨
                ticket.node_key_epoch < binding.node_key_epoch then (.STALE_EPOCH, fabric, [])
            else if ticket.membership_generation = binding.membership_generation ∧
                ticket.node_key_epoch = binding.node_key_epoch ∧
                (binding.ipv4_address ≠ ticket.ipv4_address ∨ binding.roles ≠ ticket.roles) then
              (.CONFLICT, fabric, [])
            else
              let epoch_advanced := ticket.membership_generation > binding.membership_generation ∨
                ticket.node_key_epoch > binding.node_key_epoch
              (.OK, fabric.set_binding (ticket.bind binding epoch_advanced),
                if binding.open_sent then [] else (send_open_to_peer env fabric network authenticated_node_id).2)
          | none =>
            if fabric.binding_count ≥ fabric.max_bindings then
              (.RESOURCE_EXHAUSTED, { fabric with capacity_rejections := fabric.capacity_rejections + 1 }, [])
            else if env.memory = false then (.NO_MEMORY, fabric, [])
            else
              (.OK,
                { fabric with
                  bindings := ticket.bind (new_binding fabric.allocated network.uid authenticated_node_id) true ::
                    fabric.bindings
                  binding_count := fabric.binding_count + 1
                  allocated := fabric.allocated + 1 },
                (send_open_to_peer env fabric network authenticated_node_id).2)

/-- A packet that was handed to `on_packet_received`, with the frame and the
record of the binding under which it came. -/
structure Delivery where
  network : NetworkUid
  node_id : NodeId
  packet : List UInt8
  sequence : UInt64
  binding : Binding
  now_unix_s : UInt64
  deriving DecidableEq

def calls (callback : List (Env × Call)) : Fabric × Sent :=
  callback.foldl (fun state next =>
    ((call crypto next.1 state.1 next.2).1, state.2 ++ (call crypto next.1 state.1 next.2).2)) (fabric, [])

/-- The checks of a DATA frame against the binding of its sender. -/
def data_refused (network : Network) (binding : Binding) (node_id : NodeId) (frame : FrameView) :
    Bool :=
  binding.active = false ∨ frame.generation ≠ network.generation ∨ frame.policy_epoch ≠ network.policy_epoch ∨
    frame.address_family ≠ FRAME_FAMILY_IPV4 ∨ frame.hop_limit ≠ FRAME_DIRECT_HOP_LIMIT ∨ frame.sequence = 0 ∨
    frame.source_node_id ≠ node_id ∨ frame.destination_node_id ≠ fabric.local_node_id ∨
    frame.source_ipv4 ≠ binding.ipv4_address ∨
    (frame.destination_ipv4 ≠ network.local_membership.ipv4_address ∧
      accepts_gateway_destination fabric network frame.destination_ipv4 = false) ∨
    frame.payload.length > fabric.max_packet_size ∨ frame.payload.length > network.mtu.toNat ∨
    ipv4_packet_valid frame.payload binding.ipv4_address frame.destination_ipv4 = false

/-- What a call of the module leaves: its result, the state, the frames that
it sent and the packets that it delivered. -/
structure Outcome where
  result : Result
  fabric : Fabric
  sent : Sent
  delivered : List Delivery

/-- `mesh_network_accept_data`. `callback` is what the receiver of the packet
does before it returns. -/
def accept_data (callback : List (Env × Call)) (fabric : Fabric)
    (authenticated_node_id : NodeId) (frame : FrameView) : Outcome :=
  match find fabric frame.network_uid with
  | none => ⟨.NOT_FOUND, fabric, [], []⟩
  | some network =>
    if network.lifecycle ≠ .ACTIVE then ⟨.NOT_FOUND, fabric, [], []⟩
    else
      let rejected := { network with rejected_frames := network.rejected_frames + 1 }
      match find_binding fabric network.uid (some authenticated_node_id) 0 with
      | none => ⟨.UNAUTHORIZED, fabric.set_network rejected, [], []⟩
      | some binding =>
        if env.now_unix_s > binding.not_after_unix_s ∨
            ticket_is_current network.local_membership env.now_unix_s = false then
          ⟨.UNAUTHORIZED,
            (remove_bindings fabric (some network.uid) (some authenticated_node_id)).set_network rejected, [], []⟩
        else if data_refused fabric network binding authenticated_node_id frame then
          ⟨.UNAUTHORIZED, fabric.set_network rejected, [], []⟩
        else if frame.sequence ≤ binding.last_rx_sequence then
          ⟨.STALE_EPOCH, fabric.set_network { network with replay_drops := network.replay_drops + 1 }, [], []⟩
        else if network.authorize_packet ∧ env.authorize .PACKET_IN binding.node_id frame.payload = false then
          ⟨.UNAUTHORIZED, fabric, [], []⟩
        else
          let routed := frame.destination_ipv4 ≠ network.local_membership.ipv4_address
          let accepted := (fabric.set_binding { binding with last_rx_sequence := frame.sequence }).set_network
            { network with
              packets_rx := network.packets_rx + 1, bytes_rx := network.bytes_rx + UInt64.ofNat frame.payload.length
              routed_packets_rx := if routed then network.routed_packets_rx + 1 else network.routed_packets_rx }
          if network.on_packet_received then
            let entered := { accepted with dispatch_depth := accepted.dispatch_depth + 1 }
            let returned := calls crypto entered callback
            ⟨.OK, { returned.1 with dispatch_depth := returned.1.dispatch_depth - 1 }, returned.2,
              [⟨network.uid, binding.node_id, frame.payload, frame.sequence, binding, env.now_unix_s⟩]⟩
          else ⟨.OK, accepted, [], []⟩

def accept_close (authenticated_node_id : NodeId) (frame : FrameView) : Result × Fabric :=
  match find fabric frame.network_uid with
  | none => (.UNAUTHORIZED, fabric)
  | some network =>
    if frame.payload.length ≠ 0 ∨ frame.sequence ≠ 0 ∨ frame.generation ≠ network.generation ∨
        frame.policy_epoch ≠ network.policy_epoch ∨ frame.source_node_id ≠ authenticated_node_id ∨
        frame.destination_node_id ≠ fabric.local_node_id then (.UNAUTHORIZED, fabric)
    else (.OK, remove_bindings fabric (some network.uid) (some authenticated_node_id))

/-- A decoded frame goes to the handler of its kind. -/
def accept_frame (callback : List (Env × Call)) (fabric : Fabric)
    (authenticated_node_id : NodeId) (view : FrameView) : Outcome :=
  if view.kind = FRAME_KIND_OPEN then
    let opened := accept_open crypto env fabric authenticated_node_id view
    ⟨opened.1,
      if opened.1 = .UNAUTHORIZED then { opened.2.1 with unauthorized_opens := opened.2.1.unauthorized_opens + 1 }
      else opened.2.1, opened.2.2, []⟩
  else if view.kind = FRAME_KIND_DATA then accept_data crypto env callback fabric authenticated_node_id view
  else if view.kind = FRAME_KIND_CLOSE then
    let closed := accept_close fabric authenticated_node_id view
    ⟨closed.1, closed.2, [], []⟩
  else ⟨.INVALID_ARG, fabric, [], []⟩

def Fabric.reject (fabric : Fabric) : Fabric := { fabric with rejected_frames := fabric.rejected_frames + 1 }

/-- `mesh_multi_network_offer_message_v2`. A message without the magic is not
for this module; its outcome here is that nothing changes. -/
def offer_message_v2 (callback : List (Env × Call)) (fabric : Fabric)
    (authenticated_node_id : NodeId) (frame : List UInt8) : Outcome :=
  if frame.length < 4 ∨ frame.take 4 ≠ FRAME_MAGIC then ⟨.OK, fabric, [], []⟩
  else if fabric.lifecycle ≠ .RUNNING then ⟨.OK, fabric.reject, [], []⟩
  else
    match frame_decode frame with
    | .error _ => ⟨.OK, fabric.reject, [], []⟩
    | .ok view =>
      let outcome := accept_frame crypto env callback fabric authenticated_node_id view
      if outcome.result ≠ .OK then { outcome with fabric := outcome.fabric.reject } else outcome

/-- A step of a fabric: a call, or a message from an authenticated node. -/
inductive Input where
  | api (request : Call)
  | message (node_id : NodeId) (frame : List UInt8) (callback : List (Env × Call))

def step (fabric : Fabric) : Input → Outcome
  | .api request => ⟨.OK, (call crypto env fabric request).1, (call crypto env fabric request).2, []⟩
  | .message node_id frame callback => offer_message_v2 crypto env callback fabric node_id frame

end turbop2p.mesh_multi_network
