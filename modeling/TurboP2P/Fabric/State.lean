import TurboP2P.Fabric.Wire
import Mathlib.Data.List.Sort
import Mathlib.Data.FinEnum

open Codec

namespace turbop2p.mesh_multi_network

def NETWORK_HARD_LIMIT : Nat := 64
def BINDING_HARD_LIMIT : Nat := 4096
def ISSUER_HARD_LIMIT : Nat := 64
def PEER_HARD_LIMIT : Nat := 256
def ROUTE_HARD_LIMIT : Nat := 256
def NAME_MAX : Nat := 63
def MTU_MIN : UInt16 := 576
def MTU_MAX : UInt16 := 9000

def ROUTE_SUBNET : UInt8 := 1
def ROUTE_EXIT : UInt8 := 2

/-- `mesh_network_lifecycle_v2_t`, and any other value that a caller writes
into a specification. -/
inductive Lifecycle where
  | ACTIVE
  | DRAINING
  | TOMBSTONED
  | OTHER
  deriving DecidableEq

/-- `mesh_network_attach_mode_v2_t`, and any other value. -/
inductive AttachMode where
  | USERSPACE
  | OS_SHARED
  | OS_ISOLATED
  | OTHER
  deriving DecidableEq

/-- `mesh_fabric_lifecycle_v2_t`. -/
inductive FabricLifecycle where
  | CREATED
  | RUNNING
  | DRAINING
  | CLOSED
  deriving DecidableEq

/-- `mesh_network_packet_direction_v2_t`. -/
inductive Direction where
  | PACKET_IN
  | PACKET_OUT
  deriving DecidableEq

/-- `mesh_network_route_v2_t`. -/
structure Route where
  destination_network : UInt32
  prefix_length : UInt8
  kind : UInt8
  metric : UInt16
  next_hop_node_id : NodeId
  deriving DecidableEq

/-- `mesh_network_spec_v2_t`. A callback is given or absent. -/
structure Spec where
  network_uid : NetworkUid
  name : List UInt8
  generation : UInt64
  policy_epoch : UInt64
  mtu : UInt16
  lifecycle : Lifecycle
  attach_mode : AttachMode
  local_membership : Ticket
  authorized_peer_node_ids : List NodeId
  authorize_packet : Bool
  on_packet_received : Bool
  route_epoch : UInt64
  routes : List Route
  deriving DecidableEq

/-- `mesh_network_binding_v2_t`. `record` names the allocated record, which
the C code names by its address; the networks of a fabric differ in their
identities, so that the identity stands for the pointer to the network. -/
structure Binding where
  record : Nat
  network : NetworkUid
  node_id : NodeId
  ipv4_address : UInt32
  membership_generation : UInt64
  node_key_epoch : UInt64
  not_after_unix_s : UInt64
  roles : UInt32
  last_rx_sequence : UInt64
  next_tx_sequence : UInt64
  active : Bool
  open_sent : Bool
  deriving DecidableEq

/-- `mesh_network_state_v2_t`. -/
structure Network where
  uid : NetworkUid
  name : List UInt8
  generation : UInt64
  policy_epoch : UInt64
  mtu : UInt16
  lifecycle : Lifecycle
  attach_mode : AttachMode
  local_membership : Ticket
  authorized_peer_node_ids : List NodeId
  route_epoch : UInt64
  routes : List Route
  authorize_packet : Bool
  on_packet_received : Bool
  packets_tx : UInt64
  packets_rx : UInt64
  bytes_tx : UInt64
  bytes_rx : UInt64
  rejected_frames : UInt64
  replay_drops : UInt64
  routed_packets_tx : UInt64
  routed_packets_rx : UInt64
  route_misses : UInt64
  deriving DecidableEq

/-- `mesh_fabric_t`. The lists stand in the order of their links. `allocated`
is the number of binding records that were allocated so far. -/
structure Fabric where
  mesh_id : Bytes 32
  local_node_id : NodeId
  issuers : List Issuer
  networks : List Network
  bindings : List Binding
  network_count : Nat
  binding_count : Nat
  max_networks : Nat
  max_bindings : Nat
  max_packet_size : Nat
  lifecycle : FabricLifecycle
  dispatch_depth : Nat
  rejected_frames : UInt64
  unauthorized_opens : UInt64
  capacity_rejections : UInt64
  allocated : Nat
  deriving DecidableEq

/-- What the surroundings of a call decide: the clock, whether its allocations
succeed, the answer for a frame that is handed to the underlay (a failed
allocation of the frame's buffer included), the connected peers that the
underlay visits, and the answers of the packet authorizer. -/
structure Env where
  now_unix_s : UInt64
  memory : Bool
  send : NodeId → List UInt8 → Result
  peers : List NodeId
  authorize : Direction → NodeId → List UInt8 → Bool

/-- The frames that the underlay took, each with its destination. -/
abbrev Sent := List (NodeId × List UInt8)

def find (fabric : Fabric) (uid : NetworkUid) : Option Network :=
  fabric.networks.find? fun network => network.uid = uid

def find_issuer (fabric : Fabric) (key_id : Bytes 32) : Option Issuer :=
  fabric.issuers.find? fun issuer => issuer.key_id = key_id

/-- What `find_binding` looks for: a binding of the network with the node if
one is given and else with the address. -/
def Binding.sought (network : NetworkUid) (node_id : Option NodeId) (ipv4_address : UInt32) (binding : Binding) :
    Bool :=
  decide (binding.network = network) &&
    match node_id with
    | some node_id => decide (binding.node_id = node_id)
    | none => decide (ipv4_address ≠ 0 ∧ binding.ipv4_address = ipv4_address)

def find_binding (fabric : Fabric) (network : NetworkUid) (node_id : Option NodeId) (ipv4_address : UInt32) :
    Option Binding :=
  fabric.bindings.find? (Binding.sought network node_id ipv4_address)

variable {fabric : Fabric} {uid : NetworkUid} {address : UInt32}

theorem find_eq_some {network : Network} (hfind : find fabric uid = some network) :
    network ∈ fabric.networks ∧ network.uid = uid := by
  have huid := List.find?_some hfind
  exact ⟨List.mem_of_find?_eq_some hfind, by simpa using huid⟩

theorem find_issuer_eq_some {key_id : Bytes 32} {issuer : Issuer} (hfind : find_issuer fabric key_id = some issuer) :
    issuer ∈ fabric.issuers :=
  List.mem_of_find?_eq_some hfind

variable {binding : Binding} {node_id : NodeId}

theorem find_binding_node (hfind : find_binding fabric uid (some node_id) address = some binding) :
    binding ∈ fabric.bindings ∧ binding.network = uid ∧ binding.node_id = node_id := by
  have hsought := List.find?_some hfind
  simp only [Binding.sought, Bool.and_eq_true, decide_eq_true_eq] at hsought
  exact ⟨List.mem_of_find?_eq_some hfind, hsought⟩

theorem find_binding_node_none (hfind : find_binding fabric uid (some node_id) address = none) :
    ∀ binding ∈ fabric.bindings, binding.network = uid → binding.node_id ≠ node_id := by
  intro binding hbinding hnetwork hnode
  have hsought := List.find?_eq_none.mp hfind binding hbinding
  simp [Binding.sought, hnetwork, hnode] at hsought

theorem find_binding_address (hfind : find_binding fabric uid none address = some binding) :
    binding ∈ fabric.bindings ∧ binding.network = uid ∧ binding.ipv4_address = address := by
  have hsought := List.find?_some hfind
  simp only [Binding.sought, Bool.and_eq_true, decide_eq_true_eq] at hsought
  exact ⟨List.mem_of_find?_eq_some hfind, hsought.1, hsought.2.2⟩

theorem find_binding_address_none (hne : address ≠ 0) (hfind : find_binding fabric uid none address = none) :
    ∀ binding ∈ fabric.bindings, binding.network = uid → binding.ipv4_address ≠ address := by
  intro binding hbinding hnetwork haddress
  have hsought := List.find?_eq_none.mp hfind binding hbinding
  simp [Binding.sought, hnetwork, haddress, hne] at hsought

variable (env : Env) (fabric : Fabric) (network : Network)

def peer_authorized (node_id : NodeId) : Bool :=
  node_id ∈ network.authorized_peer_node_ids

def prefix_mask (prefix_length : UInt8) : UInt32 :=
  if prefix_length = 0 then 0 else 0xFFFFFFFF <<< (32 - prefix_length.toUInt32)

def prefix_contains (network_address : UInt32) (prefix_length : UInt8) (candidate : UInt32) : Bool :=
  if prefix_length > 32 then false
  else network_address &&& prefix_mask prefix_length = candidate &&& prefix_mask prefix_length

def route_required_role (route : Route) : UInt32 :=
  if route.kind = ROUTE_SUBNET then ROLE_SUBNET_ROUTER
  else if route.kind = ROUTE_EXIT then ROLE_EXIT
  else 0

/-- `mesh_network_route_compare`: `left` stands at or before `right` in the
order of the comparison. -/
def route_le (left right : Route) : Bool :=
  if left.destination_network ≠ right.destination_network then
    left.destination_network < right.destination_network
  else if left.prefix_length ≠ right.prefix_length then left.prefix_length > right.prefix_length
  else if left.metric ≠ right.metric then left.metric < right.metric
  else if left.next_hop_node_id ≠ right.next_hop_node_id then
    left.next_hop_node_id.toList < right.next_hop_node_id.toList
  else left.kind ≤ right.kind

def route_is_better (candidate : Route) : Option Route → Bool
  | none => true
  | some current =>
    if candidate.prefix_length ≠ current.prefix_length then candidate.prefix_length > current.prefix_length
    else if candidate.metric ≠ current.metric then candidate.metric < current.metric
    else candidate.next_hop_node_id.toList < current.next_hop_node_id.toList

/-- The checks that `mesh_network_routes_validate` makes of one route after
the routes that precede it. -/
def route_validate (spec : Spec) (previous : List Route) (route : Route) : Result :=
  if route.prefix_length > 32 ∨ route_required_role route = 0 then .INVALID_ARG
  else if route.destination_network ≠ route.destination_network &&& prefix_mask route.prefix_length ∨
      (route.kind = ROUTE_EXIT ∧ (route.prefix_length ≠ 0 ∨ route.destination_network ≠ 0)) ∨
      (route.kind = ROUTE_SUBNET ∧ route.prefix_length = 0) ∨ Bytes.is_zero route.next_hop_node_id.toList then
    .INVALID_ARG
  else if route.next_hop_node_id = fabric.local_node_id ∧
      spec.local_membership.roles &&& route_required_role route = 0 then .UNAUTHORIZED
  else if route.next_hop_node_id ≠ fabric.local_node_id ∧
      route.next_hop_node_id ∉ spec.authorized_peer_node_ids then .UNAUTHORIZED
  else if previous.any fun seen =>
      seen.destination_network = route.destination_network ∧ seen.prefix_length = route.prefix_length ∧
        seen.next_hop_node_id = route.next_hop_node_id then .INVALID_ARG
  else .OK

def routes_validate_from (fabric : Fabric) (spec : Spec) : List Route → List Route → Result
  | _, [] => .OK
  | previous, route :: rest =>
    match route_validate fabric spec previous route with
    | .OK => routes_validate_from fabric spec (previous ++ [route]) rest
    | result => result

def routes_validate (spec : Spec) : Result :=
  if spec.route_epoch = 0 ∨ spec.routes.length > ROUTE_HARD_LIMIT then .INVALID_ARG
  else routes_validate_from fabric spec [] spec.routes

/-- `mesh_network_routes_copy`: the routes in the order of `route_compare`. -/
def routes_copy (spec : Spec) : List Route := spec.routes.insertionSort fun left right => route_le left right

def accepts_gateway_destination (destination : UInt32) : Bool :=
  network.routes.any fun route =>
    route.next_hop_node_id = fabric.local_node_id ∧
      network.local_membership.roles &&& route_required_role route ≠ 0 ∧
      prefix_contains route.destination_network route.prefix_length destination

def name_valid (name : List UInt8) : Bool :=
  name.length ≠ 0 ∧ name.length ≤ NAME_MAX ∧ ∀ ch ∈ name, ¬(ch < 0x20 ∨ ch = 0x7f ∨ ch = 47 ∨ ch = 92)

/-- The check of the peer list that `attach` and `apply_snapshot` make. -/
def peers_valid (local_node_id : NodeId) : List NodeId → List NodeId → Bool
  | _, [] => true
  | previous, peer :: rest =>
    if Bytes.is_zero peer.toList ∨ peer = local_node_id ∨ peer ∈ previous then false
    else peers_valid local_node_id (previous ++ [peer]) rest

def validate_local_ticket (crypto : Crypto) (env : Env) (fabric : Fabric) (spec : Spec) : Result :=
  match find_issuer fabric spec.local_membership.issuer_key_id with
  | none => .UNAUTHORIZED
  | some issuer =>
    if membership_ticket_verify_v1 crypto spec.local_membership issuer env.now_unix_s ≠ .OK ∨
        spec.local_membership.mesh_id ≠ fabric.mesh_id ∨ spec.local_membership.network_uid ≠ spec.network_uid ∨
        spec.local_membership.network_generation ≠ spec.generation ∨
        spec.local_membership.policy_epoch ≠ spec.policy_epoch ∨
        spec.local_membership.managed_node_id ≠ fabric.local_node_id ∨
        public_key_digest_v1 crypto fabric.local_node_id ≠ some spec.local_membership.node_public_key_digest then
      .UNAUTHORIZED
    else .OK

/-- The record of a network is written in its place. -/
def Fabric.set_network (fabric : Fabric) (network : Network) : Fabric :=
  { fabric with networks := fabric.networks.map fun old => if old.uid = network.uid then network else old }

def Fabric.set_binding (fabric : Fabric) (binding : Binding) : Fabric :=
  { fabric with bindings := fabric.bindings.map fun old => if old.record = binding.record then binding else old }

/-- A binding that `remove_bindings` unlinks: `none` stands for any network or
any node. -/
def Binding.selected (network : Option NetworkUid) (node_id : Option NodeId) (binding : Binding) : Bool :=
  (network = none ∨ network = some binding.network) ∧ (node_id = none ∨ node_id = some binding.node_id)

def remove_bindings (network : Option NetworkUid) (node_id : Option NodeId) : Fabric :=
  { fabric with
    bindings := fabric.bindings.filter fun binding => !binding.selected network node_id
    binding_count := fabric.binding_count - fabric.bindings.countP (·.selected network node_id) }

def send_frame (destination_node_id : NodeId) (view : FrameView) : Result × Sent :=
  match frame_encode view with
  | .error result => (result, [])
  | .ok frame =>
    (env.send destination_node_id frame,
      if env.send destination_node_id frame = .OK then [(destination_node_id, frame)] else [])

def open_frame (destination_node_id : NodeId) : FrameView :=
  { kind := FRAME_KIND_OPEN, network_uid := network.uid, generation := network.generation
    policy_epoch := network.policy_epoch, source_node_id := fabric.local_node_id, destination_node_id, sequence := 0
    hop_limit := 0, address_family := FRAME_FAMILY_IPV4, source_ipv4 := network.local_membership.ipv4_address
    destination_ipv4 := 0, payload := membership_ticket_encode_v1 network.local_membership }

def send_open_to_peer (destination_node_id : NodeId) :
    Result × Sent :=
  if peer_authorized network destination_node_id = false ∨ network.lifecycle ≠ .ACTIVE ∨
      ticket_is_current network.local_membership env.now_unix_s = false then
    (if network.lifecycle = .ACTIVE then .UNAUTHORIZED else .CLOSED, [])
  else send_frame env destination_node_id (open_frame fabric network destination_node_id)

/-- `mesh_internal_visit_v2_peers` with `mesh_network_peer_visit_send_open`. -/
def visit_send_open (network : Network) : Sent :=
  if fabric.lifecycle = .RUNNING then env.peers.flatMap fun peer => (send_open_to_peer env fabric network peer).2
  else []

def close_frame (binding : Binding) : FrameView :=
  { kind := FRAME_KIND_CLOSE, network_uid := network.uid, generation := network.generation
    policy_epoch := network.policy_epoch, source_node_id := fabric.local_node_id, destination_node_id := binding.node_id
    sequence := 0, hop_limit := 0, address_family := FRAME_FAMILY_IPV4
    source_ipv4 := network.local_membership.ipv4_address, destination_ipv4 := binding.ipv4_address, payload := [] }

def send_close (binding : Binding) : Sent :=
  if binding.active then (send_frame env binding.node_id (close_frame fabric network binding)).2 else []

/-- The CLOSE frames to the peers that are bound in a network. -/
def send_closes (network : Network) : Sent :=
  fabric.bindings.flatMap fun binding =>
    if binding.network = network.uid then send_close env fabric network binding else []

end turbop2p.mesh_multi_network
