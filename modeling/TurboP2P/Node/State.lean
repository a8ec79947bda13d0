import TurboP2P.Node.Hello

open Scan Text

namespace turbop2p.mesh

def LEARNED_ROUTE_TTL_MS : UInt64 := 60000
def DIRECT_RETRY_MS : UInt64 := 5000

/-- `ice_state_t`; `NEW` is the state of a new agent, which the source does not
name. -/
inductive IceState where
  | NEW
  | GATHERING
  | CONNECTING
  | CONNECTED
  | COMPLETED
  | FAILED
  | DISCONNECTED
  | CLOSED
  deriving DecidableEq

/-- `mesh_peer_acl_entry_t` -/
structure AclEntry where
  network_ip : UInt32
  mask : UInt32

/-- `mesh_peer_t`. A peer is named by `ref`, as the source names it by its
pointer, and a p2p connection by its handle; of the ICE agent only the
state is kept. -/
structure Peer where
  ref : Nat
  virtual_ip : Str
  real_ip : Str
  advertised_real_ip : Str := []
  peer_id : Str := []
  protocol_major : UInt16 := 0
  protocol_minor : UInt16 := 0
  capabilities : UInt32 := 0
  negotiated_capabilities : UInt32 := 0
  p2p_peer : Option Nat := none
  is_connected : Bool := false
  announced : Bool := false
  transport_authenticated : Bool := false
  ice_agent : Option IceState := none
  deriving DecidableEq

/-- `mesh_route_t` -/
structure Route where
  dest_ip : Str
  dest_real_ip : Str
  next_hop_virtual_ip : Str
  next_hop : Nat
  hop_count : UInt8
  expires_at_ms : UInt64
  direct_connect_after_ms : UInt64 := 0

/-- The part of `mesh_network_t` that is set up before the node runs, with its
admission policy. -/
structure Config where
  virtual_ip : Str
  peer_allow_cidrs : List AclEntry
  peer_allow_node_ids : List Str
  peer_protocol_major : Nat
  ice_enabled : Bool
  stream_enabled : Bool
  multi_network_fabric : Bool

/-- `mesh_network_t`, with its peers and its learned routes. -/
structure Mesh extends Config where
  peers : List Peer := []
  routes : List Route := []
  next_ref : Nat := 0

/-- What the p2p layer knows of a connection: the remote address, and the
static key that its handshake authenticated. -/
structure Transport where
  get_address : Nat → Option (Str × Int)
  remote_noise_static : Nat → Option (Bytes 32)

/-- What one call reads from its surroundings: the clock, whether the
allocation of a record for an address succeeds, and whether an ICE agent
can be created. -/
structure Env where
  now_ms : UInt64
  memory : Str → Bool
  agent : Bool

section policy

def cidr_entries_allow_ip (entries : List AclEntry) (ip : UInt32) : Bool :=
  if entries = [] then true
  else if ip = 0 then false
  else entries.any fun entry => ip &&& entry.mask = entry.network_ip

/-- `mesh_policy_allows_virtual_ip`, the same for every action. -/
def policy_allows_virtual_ip (config : Config) (virtual_ip : Str) : Bool :=
  if virtual_ip = [] then false else cidr_entries_allow_ip config.peer_allow_cidrs (ip_str_to_uint32 virtual_ip)

def peer_acl_allows_node_id (config : Config) (node_id : Str) : Bool :=
  if config.peer_allow_node_ids = [] then true
  else if node_id = [] then false
  else config.peer_allow_node_ids.any (· = node_id)

def peer_protocol_major_allowed (config : Config) (protocol_major : Nat) : Bool :=
  if config.peer_protocol_major = 0 then true
  else if protocol_major = 0 then false
  else protocol_major = config.peer_protocol_major

def p2p_peer_id_matches (transport : Transport) (p2p_peer : Nat) (node_id : Str) : Bool :=
  if node_id = [] then false
  else
    match transport.remote_noise_static p2p_peer with
    | none => false
    | some key => bytes_to_hex key = node_id

def p2p_peer_identity_is_verified (transport : Transport) (p2p_peer : Option Nat) (node_id : Str) : Bool :=
  match p2p_peer with
  | none => false
  | some p2p_peer =>
    if ¬node_id_is_valid node_id then false
    else
      match transport.remote_noise_static p2p_peer with
      | none => false
      | some key => bytes_to_hex key = node_id

theorem p2p_peer_id_matches_iff {transport : Transport} {p2p_peer : Nat} {node_id : Str} :
    p2p_peer_id_matches transport p2p_peer node_id = true ↔
      ∃ key, transport.remote_noise_static p2p_peer = some key ∧ node_id = bytes_to_hex key := by
  rw [p2p_peer_id_matches]
  constructor
  · intro hmatches
    obtain ⟨_, hmatches⟩ := guard_passed hmatches
    cases hkey : transport.remote_noise_static p2p_peer with
    | none => simp [hkey] at hmatches
    | some key => exact ⟨key, rfl, by simpa [hkey, eq_comm] using hmatches⟩
  · rintro ⟨key, hkey, rfl⟩
    simp [hkey, bytes_to_hex_ne_nil]

end policy

section capabilities

def local_capabilities (config : Config) : UInt32 :=
  CAP_LOCAL_DEFAULT ||| (if config.ice_enabled then CAP_SELECTED_PAIR_IP else 0) |||
    (if config.stream_enabled then CAP_STREAM_V1 else 0) |||
    (if config.multi_network_fabric then CAP_MULTI_NETWORK_V2 ||| CAP_NETWORK_FRAME_V2 ||| CAP_NETWORK_MEMBERSHIP_V1
      else 0)

def peer_has_capability (peer : Peer) (capability : UInt32) : Bool :=
  peer.negotiated_capabilities &&& capability = capability

def peer_stream_binding_is_valid (transport : Transport) (config : Config) (peer : Peer) : Bool :=
  config.stream_enabled ∧ peer.transport_authenticated ∧ peer.announced ∧ peer.is_connected ∧
    peer.protocol_major = PROTOCOL_MAJOR ∧ p2p_peer_identity_is_verified transport peer.p2p_peer peer.peer_id

def peer_refresh_negotiated_capabilities (transport : Transport) (config : Config) (peer : Peer) : Peer :=
  let negotiated := local_capabilities config &&& peer.capabilities
  if negotiated &&& CAP_STREAM_V1 ≠ 0 ∧ ¬peer_stream_binding_is_valid transport config peer then
    { peer with negotiated_capabilities := negotiated &&& ~~~CAP_STREAM_V1 }
  else { peer with negotiated_capabilities := negotiated }

end capabilities

section peers

variable (mesh : Mesh)

def update_peer (ref : Nat) (write : Peer → Peer) : Mesh :=
  { mesh with peers := mesh.peers.map fun peer => if peer.ref = ref then write peer else peer }

def find_peer_by_p2p (p2p_peer : Nat) : Option Peer :=
  mesh.peers.find? fun peer => peer.p2p_peer = some p2p_peer

def find_peer_by_real (real_ip : Str) : Option Peer := mesh.peers.find? fun peer => peer.real_ip = real_ip

def find_peer_any_virtual (virtual_ip : Str) : Option Peer :=
  mesh.peers.find? fun peer => peer.virtual_ip = virtual_ip

def find_peer_internal (virtual_ip : Str) : Option Peer :=
  mesh.peers.find? fun peer => peer.announced ∧ peer.is_connected ∧ peer.virtual_ip = virtual_ip

def find_peer_by_virtual_except (virtual_ip : Str) (skip : Nat) : Option Peer :=
  mesh.peers.find? fun peer =>
    peer.ref ≠ skip ∧ peer.announced ∧ peer.is_connected ∧ peer.virtual_ip = virtual_ip

def find_peer (ref : Nat) : Option Peer := mesh.peers.find? fun peer => peer.ref = ref

end peers

section routes

def route_expire_stale (env : Env) (mesh : Mesh) : Mesh :=
  { mesh with routes := mesh.routes.filter fun route => ¬(route.expires_at_ms ≠ 0 ∧ route.expires_at_ms ≤ env.now_ms) }

/-- `mesh_route_find`, which drops the expired routes first. -/
def route_find (env : Env) (mesh : Mesh) (dest_ip : Str) : Option Route × Mesh :=
  let mesh := route_expire_stale env mesh
  (mesh.routes.find? (·.dest_ip = dest_ip), mesh)

def route_delete (mesh : Mesh) (dest_ip : Str) : Mesh :=
  { mesh with routes := mesh.routes.eraseP (·.dest_ip = dest_ip) }

def route_delete_via_peer (mesh : Mesh) (ref : Nat) : Mesh :=
  { mesh with routes := mesh.routes.filter (·.next_hop ≠ ref) }

def update_route (mesh : Mesh) (dest_ip : Str) (write : Route → Route) : Mesh :=
  { mesh with
    routes := match mesh.routes.span (·.dest_ip ≠ dest_ip) with
      | (before, route :: after) => before ++ write route :: after
      | (before, []) => before }

/-- `mesh_route_add_or_update`. Only a better route replaces the next hop; a
new real address is taken over from any announcement. -/
def route_add_or_update (env : Env) (mesh : Mesh) (dest_ip : Str) (next_hop : Peer) (hop_count : UInt8)
    (dest_real_ip : Option Str) : Mesh :=
  let dest_real_ip := dest_real_ip.filter endpoint_is_routable
  let expires_at_ms := env.now_ms + LEARNED_ROUTE_TTL_MS
  if ¬policy_allows_virtual_ip mesh.toConfig dest_ip then mesh
  else if (find_peer_internal mesh dest_ip).isSome then route_delete mesh dest_ip
  else
    match route_find env mesh dest_ip with
    | (some route, mesh) =>
      if hop_count < route.hop_count then
        update_route mesh dest_ip fun route =>
          { route with
            next_hop := next_hop.ref, next_hop_virtual_ip := field 16 next_hop.virtual_ip, hop_count, expires_at_ms
            dest_real_ip := (dest_real_ip.map (field 64)).getD route.dest_real_ip }
      else
        match dest_real_ip.filter (· ≠ route.dest_real_ip) with
        | some dest_real_ip =>
          update_route mesh dest_ip fun route => { route with dest_real_ip := field 64 dest_real_ip, expires_at_ms }
        | none =>
          if route.next_hop = next_hop.ref ∧ route.hop_count = hop_count then
            update_route mesh dest_ip fun route =>
              { route with next_hop_virtual_ip := field 16 next_hop.virtual_ip, expires_at_ms }
          else mesh
    | (none, mesh) =>
      if ¬env.memory dest_ip then mesh
      else
        { mesh with
          routes :=
            { dest_ip := field 16 dest_ip, dest_real_ip := (dest_real_ip.map (field 64)).getD []
              next_hop_virtual_ip := field 16 next_hop.virtual_ip, next_hop := next_hop.ref, hop_count
              expires_at_ms } :: mesh.routes }

end routes

section life

/-- The text of a remote address. -/
def real_ip_of (address : Str × Int) : Str :=
  field 64 (address.1 ++ ascii ":" ++ (if address.2 < 0 then ascii "-" else []) ++ decimal address.2.natAbs)

/-- `mesh_peer_create`, called when a connection is up. The peer of the same
connection, or of the same remote address, is used again; both keep what
their last HELLO said. -/
def peer_create (transport : Transport) (env : Env) (mesh : Mesh) (p2p_peer : Nat) : Mesh :=
  match transport.get_address p2p_peer with
  | none => mesh
  | some address =>
    match find_peer_by_p2p mesh p2p_peer with
    | some peer =>
      update_peer mesh peer.ref fun peer => { peer with is_connected := true, transport_authenticated := true }
    | none =>
      match find_peer_by_real mesh (real_ip_of address) with
      | some peer =>
        update_peer mesh peer.ref fun peer =>
          { peer with
            p2p_peer := some p2p_peer, is_connected := true, transport_authenticated := true
            real_ip := real_ip_of address }
      | none =>
        if ¬env.memory (real_ip_of address) then mesh
        else
          { mesh with
            peers :=
              { ref := mesh.next_ref, virtual_ip := field 16 address.1, real_ip := real_ip_of address
                p2p_peer := some p2p_peer, is_connected := true, transport_authenticated := true } :: mesh.peers
            next_ref := mesh.next_ref + 1 }

/-- `mesh_peer_create_virtual`: a peer without a connection, for ICE. -/
def peer_create_virtual (env : Env) (mesh : Mesh) (virtual_ip : Str) : Option Nat × Mesh :=
  if virtual_ip = [] then (none, mesh)
  else if ¬env.memory virtual_ip then (none, mesh)
  else
    match route_find env mesh virtual_ip with
    | (route, mesh) =>
      let dest_real_ip := (route.map Route.dest_real_ip).getD []
      let peer : Peer :=
        { ref := mesh.next_ref, virtual_ip := field 16 virtual_ip
          real_ip := if dest_real_ip ≠ [] then dest_real_ip else field 64 (ascii "relay:" ++ virtual_ip)
          advertised_real_ip := dest_real_ip }
      (some peer.ref, { mesh with peers := peer :: mesh.peers, next_ref := mesh.next_ref + 1 })

/-- `mesh_peer_remove`. The retired peer is out of reach. -/
def peer_remove (mesh : Mesh) (ref : Nat) : Mesh :=
  let mesh := route_delete_via_peer mesh ref
  { mesh with peers := mesh.peers.filter (·.ref ≠ ref) }

end life

end turbop2p.mesh
