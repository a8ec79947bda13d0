import TurboP2P.Fabric.State

open Codec

namespace turbop2p.mesh_multi_network

/-- The configuration of `mesh_fabric_create_v2`. The identities of the mesh
and of the node come from the underlay. -/
structure Config where
  mesh_id : Bytes 32
  local_node_id : NodeId
  trusted_issuers : List Issuer
  max_networks : Nat
  max_peer_network_bindings : Nat
  max_packet_size : Nat

def fabric_create_v2 (config : Config) : Except Result Fabric :=
  if config.trusted_issuers.length = 0 ∨ config.trusted_issuers.length > ISSUER_HARD_LIMIT ∨
      config.max_networks = 0 ∨ config.max_networks > NETWORK_HARD_LIMIT ∨ config.max_peer_network_bindings = 0 ∨
      config.max_peer_network_bindings > BINDING_HARD_LIMIT ∨ config.max_packet_size < 20 ∨
      config.max_packet_size > FRAME_MAX - FRAME_HEADER_SIZE then .error .INVALID_ARG
  else if config.trusted_issuers.any fun issuer =>
      Bytes.is_zero issuer.key_id.toList || Bytes.is_zero issuer.public_key.toList then .error .INVALID_ARG
  else
    .ok
      { mesh_id := config.mesh_id, local_node_id := config.local_node_id, issuers := config.trusted_issuers
        networks := [], bindings := [], network_count := 0, binding_count := 0, max_networks := config.max_networks
        max_bindings := config.max_peer_network_bindings, max_packet_size := config.max_packet_size
        lifecycle := .CREATED, dispatch_depth := 0, rejected_frames := 0, unauthorized_opens := 0
        capacity_rejections := 0, allocated := 0 }

/-- `mesh_fabric_start_v2`; `mesh_start` is the answer of the underlay. -/
def fabric_start_v2 (mesh_start : Result) (fabric : Fabric) : Result × Fabric :=
  if fabric.lifecycle ≠ .CREATED then (if fabric.lifecycle = .CLOSED then .CLOSED else .BUSY, fabric)
  else if mesh_start = .OK then (.OK, { fabric with lifecycle := .RUNNING })
  else (mesh_start, fabric)

variable (env : Env) (fabric : Fabric)

def fabric_stop_v2 (fabric : Fabric) : Fabric × Sent :=
  if fabric.lifecycle = .CLOSED ∨ fabric.dispatch_depth ≠ 0 then (fabric, [])
  else
    let sent := fabric.bindings.flatMap fun binding =>
      match find fabric binding.network with
      | some network => send_close env fabric network binding
      | none => []
    let unbound := remove_bindings fabric none none
    ({ unbound with
        networks := unbound.networks.map fun network => { network with lifecycle := .TOMBSTONED }
        lifecycle := .CLOSED }, sent)

/-- The checks of a specification that `attach` and `apply_snapshot` share. -/
def spec_invalid (spec : Spec) : Bool :=
  !name_valid spec.name ∨ spec.generation = 0 ∨ spec.policy_epoch = 0 ∨ spec.mtu < MTU_MIN ∨ spec.mtu > MTU_MAX ∨
    spec.lifecycle ≠ .ACTIVE ∨ spec.authorized_peer_node_ids.length > PEER_HARD_LIMIT ∨ spec.attach_mode = .OTHER

def Spec.network (spec : Spec) : Network :=
  { uid := spec.network_uid, name := spec.name, generation := spec.generation, policy_epoch := spec.policy_epoch
    mtu := spec.mtu, lifecycle := spec.lifecycle, attach_mode := spec.attach_mode
    local_membership := spec.local_membership, authorized_peer_node_ids := spec.authorized_peer_node_ids
    route_epoch := spec.route_epoch, routes := routes_copy spec, authorize_packet := spec.authorize_packet
    on_packet_received := spec.on_packet_received, packets_tx := 0, packets_rx := 0, bytes_tx := 0, bytes_rx := 0
    rejected_frames := 0, replay_drops := 0, routed_packets_tx := 0, routed_packets_rx := 0, route_misses := 0 }

def attach_network_v2 (crypto : Crypto) (env : Env) (fabric : Fabric) (spec : Spec) : Result × Fabric × Sent :=
  if spec_invalid spec ∨ Bytes.is_zero spec.network_uid.toList then (.INVALID_ARG, fabric, [])
  else if fabric.dispatch_depth ≠ 0 then (.BUSY, fabric, [])
  else if spec.attach_mode ≠ .USERSPACE then (.UNSUPPORTED, fabric, [])
  else if fabric.lifecycle = .DRAINING ∨ fabric.lifecycle = .CLOSED then (.CLOSED, fabric, [])
  else if fabric.network_count ≥ fabric.max_networks then
    (.RESOURCE_EXHAUSTED, { fabric with capacity_rejections := fabric.capacity_rejections + 1 }, [])
  else if find fabric spec.network_uid ≠ none then (.ALREADY_EXISTS, fabric, [])
  else if validate_local_ticket crypto env fabric spec ≠ .OK then (.UNAUTHORIZED, fabric, [])
  else if peers_valid fabric.local_node_id [] spec.authorized_peer_node_ids = false then (.INVALID_ARG, fabric, [])
  else if routes_validate fabric spec ≠ .OK then (routes_validate fabric spec, fabric, [])
  else if fabric.networks.any fun existing => existing.name = spec.name then (.CONFLICT, fabric, [])
  else if env.memory = false then (.NO_MEMORY, fabric, [])
  else
    (.OK,
      { fabric with networks := spec.network :: fabric.networks, network_count := fabric.network_count + 1 },
      visit_send_open env fabric spec.network)

/-- A network after a snapshot: its counters and its place are kept. -/
def Spec.snapshot (spec : Spec) (network : Network) : Network :=
  { network with
    authorized_peer_node_ids := spec.authorized_peer_node_ids, routes := routes_copy spec
    route_epoch := spec.route_epoch, local_membership := spec.local_membership, generation := spec.generation
    policy_epoch := spec.policy_epoch, mtu := spec.mtu, attach_mode := spec.attach_mode, name := spec.name
    authorize_packet := spec.authorize_packet, on_packet_received := spec.on_packet_received }

/-- `mesh_network_apply_snapshot_v2` on the handle of the network `uid`. -/
def apply_snapshot_v2 (crypto : Crypto) (env : Env) (fabric : Fabric) (uid : NetworkUid)
    (expected_generation : UInt64) (spec : Spec) : Result × Fabric × Sent :=
  match find fabric uid with
  | none => (.INVALID_ARG, fabric, [])
  | some network =>
    if network.uid ≠ spec.network_uid ∨ spec_invalid spec then (.INVALID_ARG, fabric, [])
    else if fabric.dispatch_depth ≠ 0 then (.BUSY, fabric, [])
    else if spec.attach_mode ≠ .USERSPACE then (.UNSUPPORTED, fabric, [])
    else if fabric.lifecycle = .DRAINING ∨ fabric.lifecycle = .CLOSED ∨ network.lifecycle ≠ .ACTIVE then
      (.CLOSED, fabric, [])
    else if expected_generation ≠ network.generation ∨ spec.generation ≤ network.generation then
      (.STALE_EPOCH, fabric, [])
    else if validate_local_ticket crypto env fabric spec ≠ .OK then (.UNAUTHORIZED, fabric, [])
    else if peers_valid fabric.local_node_id [] spec.authorized_peer_node_ids = false then (.INVALID_ARG, fabric, [])
    else if routes_validate fabric spec ≠ .OK then (routes_validate fabric spec, fabric, [])
    else if fabric.networks.any fun other => other.uid ≠ uid ∧ other.name = spec.name then (.CONFLICT, fabric, [])
    else if env.memory = false then (.NO_MEMORY, fabric, [])
    else
      let closed := send_closes env fabric network
      let unbound := remove_bindings fabric (some uid) none
      (.OK, unbound.set_network (spec.snapshot network), closed ++ visit_send_open env fabric (spec.snapshot network))

def detach_network_v2 (uid : NetworkUid) (drain_timeout_ms : UInt64) :
    Result × Fabric × Sent :=
  if drain_timeout_ms = 0 then (.INVALID_ARG, fabric, [])
  else if fabric.dispatch_depth ≠ 0 then (.BUSY, fabric, [])
  else
    match find fabric uid with
    | none => (.NOT_FOUND, fabric, [])
    | some network =>
      let unbound := remove_bindings fabric (some uid) none
      (.OK,
        { unbound with
          networks := unbound.networks.filter fun other => other.uid ≠ uid
          network_count := unbound.network_count - 1 },
        send_closes env fabric network)

/-- The state of the loop of `mesh_network_resolve_gateway`. -/
structure Resolution where
  best : Option (Route × Binding)
  saw_route : Bool
  saw_local : Bool
  saw_unauthorized : Bool

/-- One turn of the loop of `mesh_network_resolve_gateway`. -/
def resolve_route (network : Network) (destination : UInt32) (now_unix_s : UInt64)
    (seen : Resolution) (route : Route) : Resolution :=
  if prefix_contains route.destination_network route.prefix_length destination = false then seen
  else if route.next_hop_node_id = fabric.local_node_id then { seen with saw_route := true, saw_local := true }
  else
    match find_binding fabric network.uid (some route.next_hop_node_id) 0 with
    | none => { seen with saw_route := true }
    | some binding =>
      if binding.active = false ∨ now_unix_s > binding.not_after_unix_s then { seen with saw_route := true }
      else if binding.roles &&& route_required_role route = 0 then
        { seen with saw_route := true, saw_unauthorized := true }
      else if route_is_better route (seen.best.map Prod.fst) then
        { seen with saw_route := true, best := some (route, binding) }
      else { seen with saw_route := true }

def resolve_gateway (network : Network) (destination : UInt32) (now_unix_s : UInt64) :
    Except Result (Route × Binding) :=
  let seen := network.routes.foldl (resolve_route fabric network destination now_unix_s) ⟨none, false, false, false⟩
  match seen.best with
  | some found => .ok found
  | none =>
    if seen.saw_unauthorized then .error .UNAUTHORIZED
    else if seen.saw_local ∧ seen.saw_route then .error .UNSUPPORTED
    else .error .NOT_FOUND

def lookup_route_v2 (network : Network) (destination_ipv4 : UInt32) : Except Result Route :=
  if network.lifecycle = .TOMBSTONED then .error .CLOSED
  else
    match network.routes.foldl (fun best candidate =>
        if prefix_contains candidate.destination_network candidate.prefix_length destination_ipv4 ∧
            route_is_better candidate best then some candidate else best) none with
    | none => .error .NOT_FOUND
    | some route => .ok route

def data_frame (network : Network) (binding : Binding) (packet : List UInt8) : FrameView :=
  { kind := FRAME_KIND_DATA, network_uid := network.uid, generation := network.generation
    policy_epoch := network.policy_epoch, source_node_id := fabric.local_node_id, destination_node_id := binding.node_id
    sequence := binding.next_tx_sequence + 1, hop_limit := FRAME_DIRECT_HOP_LIMIT, address_family := FRAME_FAMILY_IPV4
    source_ipv4 := read_u32_be (packet.drop 12), destination_ipv4 := read_u32_be (packet.drop 16), payload := packet }

/-- The binding that a packet takes, and the route if it is not the direct
one. -/
def packet_binding (network : Network) (destination : UInt32) (now_unix_s : UInt64) :
    Except Result (Binding × Option Route) :=
  match (find_binding fabric network.uid none destination).filter (·.active) with
  | some binding => .ok (binding, none)
  | none => (resolve_gateway fabric network destination now_unix_s).map fun found => (found.2, some found.1)

/-- `mesh_network_send_packet_v2` on the handle of the network `uid`. -/
def send_packet_v2 (uid : NetworkUid) (packet : List UInt8) (deadline_after_ms : UInt64) : Result × Fabric × Sent :=
  match find fabric uid with
  | none => (.INVALID_ARG, fabric, [])
  | some network =>
    if deadline_after_ms = 0 then (.TIMEOUT, fabric, [])
    else if network.lifecycle ≠ .ACTIVE ∨ fabric.lifecycle ≠ .RUNNING then (.CLOSED, fabric, [])
    else if ticket_is_current network.local_membership env.now_unix_s = false then (.UNAUTHORIZED, fabric, [])
    else if packet.length < 20 ∨ packet.length > fabric.max_packet_size ∨ packet.length > network.mtu.toNat then
      (.INVALID_ARG, fabric, [])
    else if ipv4_packet_valid packet network.local_membership.ipv4_address (read_u32_be (packet.drop 16)) = false ∨
        read_u32_be (packet.drop 12) ≠ network.local_membership.ipv4_address then (.INVALID_ARG, fabric, [])
    else
      match packet_binding fabric network (read_u32_be (packet.drop 16)) env.now_unix_s with
      | .error result => (result, fabric.set_network { network with route_misses := network.route_misses + 1 }, [])
      | .ok (binding, route) =>
        if env.now_unix_s > binding.not_after_unix_s then
          (.UNAUTHORIZED, remove_bindings fabric (some uid) (some binding.node_id), [])
        else if route = none ∧ read_u32_be (packet.drop 16) ≠ binding.ipv4_address then (.INVALID_ARG, fabric, [])
        else if network.authorize_packet ∧ env.authorize .PACKET_OUT binding.node_id packet = false then
          (.UNAUTHORIZED, fabric, [])
        else if binding.next_tx_sequence = 0xFFFFFFFFFFFFFFFF then (.STALE_EPOCH, fabric, [])
        else
          let counted := fabric.set_binding { binding with next_tx_sequence := binding.next_tx_sequence + 1 }
          let sent := send_frame env binding.node_id (data_frame fabric network binding packet)
          if sent.1 = .OK then
            (.OK,
              counted.set_network
                { network with
                  packets_tx := network.packets_tx + 1, bytes_tx := network.bytes_tx + UInt64.ofNat packet.length
                  routed_packets_tx := if route.isSome then network.routed_packets_tx + 1
                    else network.routed_packets_tx },
              sent.2)
          else (sent.1, counted, sent.2)

def peer_ready_v2 (authenticated_node_id : NodeId) : Sent :=
  if fabric.lifecycle ≠ .RUNNING then []
  else fabric.networks.flatMap fun network => (send_open_to_peer env fabric network authenticated_node_id).2

def peer_closed_v2 (authenticated_node_id : NodeId) : Fabric :=
  remove_bindings fabric none (some authenticated_node_id)

/-- A call from the owner of the fabric or from the underlay. -/
inductive Call where
  | start (mesh_start : Result)
  | stop
  | attach (spec : Spec)
  | apply_snapshot (uid : NetworkUid) (expected_generation : UInt64) (spec : Spec)
  | detach (uid : NetworkUid) (drain_timeout_ms : UInt64)
  | send_packet (uid : NetworkUid) (packet : List UInt8) (deadline_after_ms : UInt64)
  | peer_ready (node_id : NodeId)
  | peer_closed (node_id : NodeId)

/-- The state after a call and the frames that it sent. -/
def call (crypto : Crypto) (env : Env) (fabric : Fabric) : Call → Fabric × Sent
  | .start mesh_start => ((fabric_start_v2 mesh_start fabric).2, [])
  | .stop => fabric_stop_v2 env fabric
  | .attach spec => (attach_network_v2 crypto env fabric spec).2
  | .apply_snapshot uid expected_generation spec => (apply_snapshot_v2 crypto env fabric uid expected_generation spec).2
  | .detach uid drain_timeout_ms => (detach_network_v2 env fabric uid drain_timeout_ms).2
  | .send_packet uid packet deadline_after_ms => (send_packet_v2 env fabric uid packet deadline_after_ms).2
  | .peer_ready node_id => (fabric, peer_ready_v2 env fabric node_id)
  | .peer_closed node_id => (peer_closed_v2 fabric node_id, [])

end turbop2p.mesh_multi_network
