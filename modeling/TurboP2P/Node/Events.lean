import TurboP2P.Node.State

open Scan Text

namespace turbop2p.mesh

/-- The three capabilities that a peer needs for network frames. -/
def CAP_NETWORK : UInt32 := CAP_MULTI_NETWORK_V2 ||| CAP_NETWORK_FRAME_V2 ||| CAP_NETWORK_MEMBERSHIP_V1

/-- What a node passes on in the name of a peer: to the multi-network fabric
under a node id, to the packet path under the peer itself. -/
inductive Attribution where
  | ready (node_id : List UInt8)
  | closed (node_id : List UInt8)
  | frame (node_id : List UInt8) (data : List UInt8)
  | packet (ref : Nat) (data : List UInt8)
  deriving DecidableEq

section ice

/-- `mesh_ice_on_state_changed`. A peer without a connection is announced by
its first selected pair; `selected` is the remote end of that pair. -/
def ice_on_state_changed (new_state : IceState) (selected : Option Str) (peer : Peer) : Peer :=
  let peer := { peer with ice_agent := peer.ice_agent.map fun _ => new_state }
  match if new_state = .CONNECTED ∨ new_state = .COMPLETED then selected else none with
  | some remote_endpoint =>
    if peer.p2p_peer = none then
      { peer with
        real_ip := field 64 remote_endpoint, advertised_real_ip := field 64 remote_endpoint
        is_connected := true, announced := true }
    else peer
  | none =>
    if (new_state = .FAILED ∨ new_state = .DISCONNECTED ∨ new_state = .CLOSED) ∧ peer.p2p_peer = none then
      { peer with is_connected := false, announced := false }
    else peer

def ice_init_peer (env : Env) (config : Config) (peer : Peer) : Peer :=
  if ¬config.ice_enabled ∨ peer.ice_agent.isSome ∨ ¬env.agent then peer else { peer with ice_agent := some .NEW }

/-- `mesh_ice_destroy_peer`, which closes an agent before it is freed. -/
def ice_destroy_peer (peer : Peer) : Peer :=
  if peer.ice_agent = none then peer else { ice_on_state_changed .CLOSED none peer with ice_agent := none }

/-- `mesh_ice_handle_auth`; of the credentials only the capabilities are
kept. -/
def ice_handle_auth (transport : Transport) (config : Config) (payload : Str) (peer : Peer) : Peer :=
  if peer.ice_agent = none then peer
  else
    match scan [.scanset 15 (· ≠ 58), .literal (ascii ":"), .scanset 31 (· ≠ 58), .literal (ascii ":"),
      .scanset 63 (· ≠ 58), .literal (ascii ":caps="), .long_hex] payload with
    | [.text _, .text _, .text _, .nat capabilities] =>
      if capabilities ≤ UINT32_MAX then
        peer_refresh_negotiated_capabilities transport config { peer with capabilities := UInt32.ofNat capabilities }
      else peer
    | _ => peer

def find_or_create_signal_peer (env : Env) (mesh : Mesh) (p2p_peer : Option Nat) (virtual_ip : Str) :
    Option Nat × Mesh :=
  if virtual_ip = [] then (none, mesh)
  else if ¬policy_allows_virtual_ip mesh.toConfig virtual_ip then (none, mesh)
  else
    match p2p_peer.bind (find_peer_by_p2p mesh) with
    | some peer => (some peer.ref, mesh)
    | none =>
      match find_peer_any_virtual mesh virtual_ip with
      | some peer => (some peer.ref, mesh)
      | none =>
        match peer_create_virtual env mesh virtual_ip with
        | (none, mesh) => (none, mesh)
        | (some ref, mesh) =>
          match route_find env mesh virtual_ip with
          | (none, mesh) => (some ref, mesh)
          | (some route, mesh) =>
            if route.dest_real_ip = [] then (some ref, mesh)
            else
              (some ref, update_peer mesh ref fun peer =>
                { peer with advertised_real_ip := route.dest_real_ip, real_ip := route.dest_real_ip })

/-- One ICE signal for a virtual address: its peer gets an agent, which then
handles the signal. -/
def ice_signal (env : Env) (mesh : Mesh) (p2p_peer : Option Nat) (virtual_ip : Str) (handle : Peer → Peer) : Mesh :=
  match find_or_create_signal_peer env mesh p2p_peer virtual_ip with
  | (none, mesh) => mesh
  | (some ref, mesh) => update_peer mesh ref fun peer => handle (ice_init_peer env mesh.toConfig peer)

/-- `mesh_handle_control_payload`; `none` if the message is no ICE signal. A
candidate and the end of the candidates change nothing else of a peer. -/
def handle_control_payload (transport : Transport) (env : Env) (mesh : Mesh) (p2p_peer : Option Nat) (msg : Str) :
    Option Mesh :=
  if (ascii "MESH_ICE_AUTH:").isPrefixOf msg then
    let payload := msg.drop 14
    let virtual_ip := payload.takeWhile (· ≠ 58)
    if 58 ∉ payload ∨ virtual_ip.length ≥ 16 then some mesh
    else some (ice_signal env mesh p2p_peer virtual_ip (ice_handle_auth transport mesh.toConfig payload))
  else if (ascii "MESH_ICE_CANDIDATE:").isPrefixOf msg then
    let payload := msg.drop 19
    let virtual_ip := payload.takeWhile (· ≠ 58)
    if 58 ∉ payload ∨ virtual_ip.length ≥ 16 then some mesh
    else some (ice_signal env mesh p2p_peer virtual_ip id)
  else if (ascii "MESH_ICE_EOC:").isPrefixOf msg then
    let payload := msg.drop 13
    if payload = [] ∨ payload.length ≥ 16 then some mesh
    else some (ice_signal env mesh p2p_peer payload id)
  else none

/-- An agent that has ended is replaced; one that is under way is left
alone. -/
def ice_retry_peer (env : Env) (config : Config) (peer : Peer) : Peer :=
  let peer :=
    if peer.ice_agent = some .FAILED ∨ peer.ice_agent = some .DISCONNECTED ∨ peer.ice_agent = some .CLOSED then
      ice_destroy_peer peer
    else peer
  if peer.ice_agent.isSome ∨ peer.is_connected then peer else ice_init_peer env config peer

def try_routed_ice_connect (env : Env) (mesh : Mesh) (virtual_ip : Str) (force : Bool) : Mesh :=
  if ¬mesh.ice_enabled ∨ virtual_ip = [] ∨ virtual_ip = mesh.virtual_ip ∨ ¬policy_allows_virtual_ip mesh.toConfig virtual_ip ∨
      (find_peer_internal mesh virtual_ip).isSome then mesh
  else
    match route_find env mesh virtual_ip with
    | (none, mesh) => mesh
    | (some route, mesh) =>
      if ¬((find_peer mesh route.next_hop).any Peer.is_connected) then mesh
      else if ¬force ∧ route.direct_connect_after_ms > env.now_ms then mesh
      else
        let mesh := update_route mesh virtual_ip fun route =>
          { route with direct_connect_after_ms := env.now_ms + DIRECT_RETRY_MS }
        match find_or_create_signal_peer env mesh none virtual_ip with
        | (none, mesh) => mesh
        | (some ref, mesh) => update_peer mesh ref (ice_retry_peer env mesh.toConfig)

end ice

section message

variable (transport : Transport) (env : Env) (mesh : Mesh)

def announce (config : Config) (hello : Hello) (peer : Peer) : Peer :=
  peer_refresh_negotiated_capabilities transport config
    { peer with
      virtual_ip := field 16 hello.virtual_ip
      peer_id := if hello.node_id ≠ [] then field 65 hello.node_id else peer.peer_id
      protocol_major := UInt16.ofNat hello.protocol_major, protocol_minor := UInt16.ofNat hello.protocol_minor
      capabilities := hello.capabilities
      advertised_real_ip :=
        if hello.advertised_ip ≠ [] ∧ hello.advertised_port > 0 ∧ ¬ip_is_unspecified hello.advertised_ip then
          real_ip_of (hello.advertised_ip, hello.advertised_port)
        else peer.advertised_real_ip
      announced := true }

/-- An accepted peer that can use a selected pair gets an ICE agent, another
one loses it. -/
def accept_hello (config : Config) (hello : Hello) (peer : Peer) : Peer :=
  let accepted := announce transport config hello peer
  if peer_has_capability accepted CAP_SELECTED_PAIR_IP then ice_init_peer env config accepted
  else ice_destroy_peer accepted

/-- The node id under which the fabric knows a peer, if it may use network
frames. -/
def network_node_id (config : Config) (peer : Peer) : Option (List UInt8) :=
  if config.multi_network_fabric ∧ peer_has_capability peer CAP_NETWORK then hex_to_bytes 32 peer.peer_id else none

/-- The MESH_HELLO branch of `mesh_on_p2p_message`. A HELLO that is refused
costs its peer the connection. -/
def on_hello (p2p_peer : Nat) (payload : Str) :
    Mesh × List Attribution :=
  match parse_hello_message payload with
  | none => (mesh, [])
  | some hello =>
    match find_peer_by_p2p mesh p2p_peer with
    | none => (mesh, [])
    | some peer =>
      if ¬p2p_peer_id_matches transport p2p_peer hello.node_id then (peer_remove mesh peer.ref, [])
      else if ¬policy_allows_virtual_ip mesh.toConfig hello.virtual_ip then (peer_remove mesh peer.ref, [])
      else if ¬peer_acl_allows_node_id mesh.toConfig hello.node_id then (peer_remove mesh peer.ref, [])
      else if ¬peer_protocol_major_allowed mesh.toConfig hello.protocol_major then (peer_remove mesh peer.ref, [])
      else if (find_peer_by_virtual_except mesh hello.virtual_ip peer.ref).isSome then (peer_remove mesh peer.ref, [])
      else
        (update_peer (route_delete mesh (field 16 hello.virtual_ip)) peer.ref
            (accept_hello transport env mesh.toConfig hello),
          ((network_node_id mesh.toConfig (announce transport mesh.toConfig hello peer)).map Attribution.ready).toList)

/-- The MESH_CTRL branch. A message for another node is only sent on. -/
def on_control (p2p_peer : Nat) (dst : Str) : Mesh :=
  let dst_virtual_ip := dst.takeWhile (· ≠ 58)
  if 58 ∉ dst ∨ ¬((find_peer_by_p2p mesh p2p_peer).any fun peer => peer_has_capability peer CAP_ROUTED_CONTROL) ∨
      dst_virtual_ip.length ≥ 16 then mesh
  else if dst_virtual_ip = mesh.virtual_ip then
    (handle_control_payload transport env mesh none (dst.drop (dst_virtual_ip.length + 1))).getD mesh
  else mesh

/-- One entry of a MESH_ROUTES message. -/
def learn_route (next_hop : Peer) (mesh : Mesh) (token : Str) : Mesh :=
  match scan [.scanset 15 (· ≠ 58), .literal (ascii ":"), .int, .literal (ascii "|"), .word 63] token with
  | .text ip :: .int hops :: real =>
    if hops > 0 ∧ ip ≠ mesh.virtual_ip ∧ ip ≠ next_hop.virtual_ip then
      route_add_or_update env mesh ip next_hop (UInt8.ofNat (hops % 256).toNat)
        (match real with
          | [.text dest_real_ip] => some dest_real_ip
          | _ => none)
    else mesh
  | _ => mesh

/-- The MESH_ROUTES branch. -/
def on_routes (p2p_peer : Nat) (routes : Str) : Mesh :=
  match find_peer_by_p2p mesh p2p_peer with
  | none => mesh
  | some next_hop =>
    if ¬next_hop.announced then mesh
    else (tokens 44 (field 1024 routes)).foldl (learn_route env next_hop) mesh

/-- `mesh_on_p2p_message` of a node without a management router. -/
def on_p2p_message (p2p_peer : Nat) (data : List UInt8) :
    Mesh × List Attribution :=
  let msg := c_string data
  if data = [] then (mesh, [])
  else if (ascii "TMN2").isPrefixOf data then
    match find_peer_by_p2p mesh p2p_peer with
    | none => (mesh, [])
    | some peer =>
      if ¬peer.announced then (mesh, [])
      else (mesh, ((network_node_id mesh.toConfig peer).map fun node_id => Attribution.frame node_id data).toList)
  else if (ascii "MESH_HELLO:").isPrefixOf msg then on_hello transport env mesh p2p_peer (msg.drop 11)
  else if (ascii "MESH_CTRL:").isPrefixOf msg then (on_control transport env mesh p2p_peer (msg.drop 10), [])
  else if (ascii "MESH_ROUTES:").isPrefixOf msg then (on_routes env mesh p2p_peer (msg.drop 12), [])
  else
    match handle_control_payload transport env mesh (some p2p_peer) msg with
    | some mesh => (mesh, [])
    | none =>
      match find_peer_by_p2p mesh p2p_peer with
      | none => (mesh, [])
      | some peer => if ¬peer.announced then (mesh, []) else (mesh, [.packet peer.ref data])

end message

def on_p2p_peer_disconnected (mesh : Mesh) (p2p_peer : Nat) : Mesh × List Attribution :=
  match find_peer_by_p2p mesh p2p_peer with
  | none => (mesh, [])
  | some peer =>
    (peer_remove mesh peer.ref,
      if mesh.multi_network_fabric ∧ peer.peer_id ≠ [] then ((hex_to_bytes 32 peer.peer_id).map .closed).toList else [])

/-- The entries that `mesh_discover_routes` finds for one peer. -/
def discover_routes_via (env : Env) (next_hop : Peer) (mesh : Mesh) (token : Str) : Mesh :=
  match scan [.scanset 15 (· ≠ 58), .literal (ascii ":"), .int] token with
  | [.text ip, .int hops] =>
    if ip ≠ mesh.virtual_ip then route_add_or_update env mesh ip next_hop (UInt8.ofNat (hops % 256).toNat) none
    else mesh
  | _ => mesh

/-- `mesh_discover_routes`; `cached` is what the DHT holds for an address. -/
def discover_routes (env : Env) (mesh : Mesh) (cached : Str → Option Str) : Mesh :=
  mesh.peers.foldl (fun mesh peer =>
    if ¬peer.is_connected then mesh
    else
      match cached peer.virtual_ip with
      | none => mesh
      | some value => (tokens 44 value).foldl (discover_routes_via env peer) mesh) mesh

/-- `mesh_disconnect_peer`. A connection is only asked to close. -/
def disconnect_peer (env : Env) (mesh : Mesh) (ref : Nat) : Mesh :=
  match find_peer mesh ref with
  | none => mesh
  | some peer =>
    let mesh := update_route (route_expire_stale env mesh) peer.virtual_ip fun route =>
      { route with direct_connect_after_ms := env.now_ms + DIRECT_RETRY_MS }
    if peer.p2p_peer.isSome then mesh else peer_remove mesh ref

/-- What happens to a node. -/
inductive Event where
  | connected (p2p_peer : Nat)
  | disconnected (p2p_peer : Nat)
  | message (p2p_peer : Nat) (data : List UInt8)
  | ice_state (ref : Nat) (new_state : IceState) (selected : Option Str)
  | routed_ice (virtual_ip : Str) (force : Bool)
  | discover (cached : Str → Option Str)
  | disconnect (ref : Nat)

/-- One event, with what the node passes on because of it. -/
def step (transport : Transport) (mesh : Mesh) : Env × Event → Mesh × List Attribution
  | (env, .connected p2p_peer) => (peer_create transport env mesh p2p_peer, [])
  | (_, .disconnected p2p_peer) => on_p2p_peer_disconnected mesh p2p_peer
  | (env, .message p2p_peer data) => on_p2p_message transport env mesh p2p_peer data
  | (_, .ice_state ref new_state selected) =>
    -- The callback is the agent's: a peer without one does not hear of a state.
    (update_peer mesh ref fun peer =>
      if peer.ice_agent = none then peer else ice_on_state_changed new_state selected peer, [])
  | (env, .routed_ice virtual_ip force) => (try_routed_ice_connect env mesh virtual_ip force, [])
  | (env, .discover cached) => (discover_routes env mesh cached, [])
  | (env, .disconnect ref) => (disconnect_peer env mesh ref, [])

end turbop2p.mesh
