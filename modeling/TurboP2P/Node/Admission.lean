import TurboP2P.Node.Refines

open Scan Text

namespace turbop2p.mesh

def run (transport : Transport) (mesh : Mesh) (inputs : List (Env × Event)) : Mesh :=
  Machine.run (fun mesh input => (step transport mesh input).1) mesh inputs

/-- No event of a run disturbs the node. -/
def Calm (transport : Transport) : Mesh → List (Env × Event) → Prop
  | _, [] => True
  | mesh, input :: inputs => Undisturbed transport mesh input.2 ∧ Calm transport (step transport mesh input).1 inputs

theorem moves_run {transport : Transport} {mesh : Mesh} {inputs : List (Env × Event)}
    (hcalm : Calm transport mesh inputs) : Moves transport mesh (run transport mesh inputs) := by
  induction inputs generalizing mesh with
  | nil => exact .refl
  | cons input inputs ih => exact (moves_step hcalm.1).trans (ih hcalm.2)

theorem sound_of_no_peers (transport : Transport) {mesh : Mesh} (hpeers : mesh.peers = []) : Sound transport mesh := by
  have hmembers : mesh.roster.members = [] := by rw [Mesh.roster, hpeers, List.map_nil]
  exact
    { fresh := by simp [hmembers], refs := by simp [hmembers], connected := by simp [hmembers]
      admitted := by simp [hmembers], sole := by simp [hmembers], apart := by simp [hmembers] }

/-- What a message is passed on as is in the name of the node that its
connection authenticated. -/
def SentBy (transport : Transport) (mesh : Mesh) (p2p_peer : Nat) : Attribution → Prop
  | .ready node_id | .closed node_id | .frame node_id _ =>
    ∃ key, transport.remote_noise_static p2p_peer = some key ∧ node_id = key.toList
  | .packet ref _ => ∃ peer ∈ mesh.peers, peer.ref = ref ∧ peer.p2p_peer = some p2p_peer ∧
    ∃ key, transport.remote_noise_static p2p_peer = some key ∧ peer.peer_id = bytes_to_hex key

section attribution

variable {transport : Transport} {env : Env} {mesh : Mesh} {p2p_peer : Nat}

theorem admitted_of_announced (hsound : Sound transport mesh) {peer : Peer} (hpeer : peer ∈ mesh.peers)
    (hannounced : peer.announced) (hp2p : peer.p2p_peer = some p2p_peer) :
    Admitted transport mesh.toConfig p2p_peer peer.virtual_ip peer.peer_id peer.protocol_major :=
  hsound.admitted peer.standing (List.mem_map_of_mem hpeer) hannounced p2p_peer hp2p

theorem mem_network_node_id {config : Config} {peer : Peer} {node_id : List UInt8} {key : Bytes 32}
    (hkey : peer.peer_id = bytes_to_hex key) (hmem : node_id ∈ network_node_id config peer) : node_id = key.toList := by
  rw [network_node_id, hkey, hex_to_bytes_bytes_to_hex] at hmem
  have hsome : (if config.multi_network_fabric ∧ peer_has_capability peer CAP_NETWORK then some key.toList else none) =
      some node_id := hmem
  split at hsome
  · exact (Option.some.inj hsome).symm
  · cases hsome

theorem sent_by_on_hello (payload : Str) :
    ∀ attribution ∈ (on_hello transport env mesh p2p_peer payload).2, SentBy transport mesh p2p_peer attribution := by
  have houtcome := on_hello_outcome transport env mesh p2p_peer payload
  generalize on_hello transport env mesh p2p_peer payload = outcome at houtcome ⊢
  cases houtcome with
  | ignored => exact fun _ hmem => absurd hmem List.not_mem_nil
  | refused => exact fun _ hmem => absurd hmem List.not_mem_nil
  | accepted hello peer hfits hadmitted hfound hfree =>
    obtain ⟨key, hstatic, hkey⟩ := hadmitted.identity
    have hpeer_id : (announce transport mesh.toConfig hello peer).peer_id = bytes_to_hex key :=
      (congrArg Standing.peer_id (standing_announce mesh.toConfig peer hfits ⟨key, hkey⟩)).trans hkey
    intro attribution hmem
    obtain ⟨node_id, hnode_id, rfl⟩ := Option.map_eq_some_iff.mp (Option.mem_toList.mp hmem)
    exact ⟨key, hstatic, mem_network_node_id hpeer_id hnode_id⟩

/-- Whatever a sound node passes on for a message is in the name of the
message's authenticated sender. -/
theorem sent_by_on_p2p_message (hsound : Sound transport mesh) (data : List UInt8) :
    ∀ attribution ∈ (on_p2p_message transport env mesh p2p_peer data).2,
      SentBy transport mesh p2p_peer attribution := by
  let P : List Attribution → Prop := fun attributed => ∀ attribution ∈ attributed,
    SentBy transport mesh p2p_peer attribution
  have hnone : P [] := fun _ hmem => absurd hmem List.not_mem_nil
  change P _
  refine guard_under (fun _ => hnone) fun _ => guard_under (fun _ => ?_) fun _ => ?_
  · split
    · exact hnone
    next peer hfound =>
      obtain ⟨hpeer, hp2p⟩ := mem_of_find_peer_by_p2p hfound
      refine guard_under (fun _ => hnone) fun hannounced attribution hmem => ?_
      obtain ⟨key, hstatic, hkey⟩ := (admitted_of_announced hsound hpeer (not_not.mp hannounced) hp2p).identity
      obtain ⟨node_id, hnode_id, rfl⟩ := Option.map_eq_some_iff.mp (Option.mem_toList.mp hmem)
      exact ⟨key, hstatic, mem_network_node_id hkey hnode_id⟩
  refine guard_under (fun _ => sent_by_on_hello _) fun _ => ?_
  refine guard_under (fun _ => hnone) fun _ => guard_under (fun _ => hnone) fun _ => ?_
  split
  · exact hnone
  · split
    · exact hnone
    next peer hfound =>
      obtain ⟨hpeer, hp2p⟩ := mem_of_find_peer_by_p2p hfound
      refine guard_under (fun _ => hnone) fun hannounced attribution hmem => ?_
      obtain rfl := List.mem_singleton.mp hmem
      exact ⟨peer, hpeer, rfl, hp2p, (admitted_of_announced hsound hpeer (not_not.mp hannounced) hp2p).identity⟩

end attribution

/-- An address as `uint32_to_ip_str` writes it. -/
def Canonical (virtual_ip : Str) : Prop := uint32_to_ip_str (ip_str_to_uint32 virtual_ip) = virtual_ip

/-- Two peers are reached at different addresses; so are their texts, and so
are the numbers if both are written as the node itself writes them. -/
def DistinctAddresses (left right : Peer) : Prop :=
  left.announced → left.is_connected → right.announced → right.is_connected →
    left.virtual_ip ≠ right.virtual_ip ∧ (Canonical left.virtual_ip → Canonical right.virtual_ip →
      ip_str_to_uint32 left.virtual_ip ≠ ip_str_to_uint32 right.virtual_ip)

theorem distinct_addresses_of_sound {transport : Transport} {mesh : Mesh} (hsound : Sound transport mesh) :
    mesh.peers.Pairwise DistinctAddresses := by
  have hrefs : mesh.peers.Pairwise fun left right => left.ref ≠ right.ref := by
    have hnodup := hsound.refs
    rwa [Mesh.roster, List.map_map, List.Nodup, List.pairwise_map] at hnodup
  refine hrefs.imp_of_mem fun {left right} hleft hright href hannounced _ hannounced' _ => ?_
  have hapart : left.virtual_ip ≠ right.virtual_ip := hsound.apart left.standing (List.mem_map_of_mem hleft)
    right.standing (List.mem_map_of_mem hright) href hannounced hannounced'
  refine ⟨hapart, fun hcanonical hcanonical' hsame => hapart ?_⟩
  rw [← hcanonical, hsame, hcanonical']

/-- After every calm run from a node without peers, each announced peer with a
connection has the identity that this connection authenticated, and an
address, a node id and a version that the policy allows; whatever a
message is passed on as is in the name of its authenticated sender; and
announced peers have different addresses. -/
theorem announced_peers_authentic (transport : Transport) (mesh : Mesh) (inputs : List (Env × Event))
    (hpeers : mesh.peers = []) (hcalm : Calm transport mesh inputs) :
    (∀ peer ∈ (run transport mesh inputs).peers, peer.announced → ∀ p2p_peer, peer.p2p_peer = some p2p_peer →
      Admitted transport mesh.toConfig p2p_peer peer.virtual_ip peer.peer_id peer.protocol_major) ∧
    (∀ env p2p_peer data,
      ∀ attribution ∈ (on_p2p_message transport env (run transport mesh inputs) p2p_peer data).2,
        SentBy transport (run transport mesh inputs) p2p_peer attribution) ∧
    (run transport mesh inputs).peers.Pairwise DistinctAddresses := by
  have hmoves := moves_run hcalm
  have hsound := hmoves.sound (sound_of_no_peers transport hpeers)
  refine ⟨fun peer hpeer hannounced p2p_peer hp2p => ?_, fun env p2p_peer data => sent_by_on_p2p_message hsound data,
    distinct_addresses_of_sound hsound⟩
  rw [← hmoves.config]
  exact admitted_of_announced hsound hpeer hannounced hp2p

section samples

def sample_key (byte : UInt8) : Bytes 32 := List.Vector.replicate 32 byte

/-- Connections 1 and 2 come from one remote address, connection 3 from
another; each authenticates another key. -/
def sample_transport : Transport where
  get_address p2p_peer := some (ascii (if p2p_peer = 3 then "192.0.2.9" else "192.0.2.1"), 4000)
  remote_noise_static p2p_peer := some (sample_key (UInt8.ofNat p2p_peer))

def sample_mesh : Mesh where
  virtual_ip := ascii "10.0.0.1"
  peer_allow_cidrs := [⟨0x0A000000, 0xFF000000⟩]
  peer_allow_node_ids := [bytes_to_hex (sample_key 1), bytes_to_hex (sample_key 3)]
  peer_protocol_major := 1
  ice_enabled := true
  stream_enabled := false
  multi_network_fabric := true

def sample_env : Env where
  now_ms := 1000
  memory _ := true
  agent := true

/-- The HELLO of the node of a connection. -/
def sample_hello (p2p_peer : Nat) (virtual_ip : String) : Event :=
  .message p2p_peer (ascii "MESH_HELLO:" ++ ascii virtual_ip ++ ascii ":node=" ++
    bytes_to_hex (sample_key (UInt8.ofNat p2p_peer)) ++ ascii ":proto=1.0:caps=e0")

def sample_run (events : List Event) : Mesh := run sample_transport sample_mesh (events.map (sample_env, ·))

/-- What a run leaves of its peers: connection, identity and address of the
announced ones. -/
def sample_announced (events : List Event) : List (Option Nat × Str × Str) :=
  ((sample_run events).peers.filter fun peer => peer.announced ∧ peer.is_connected).map
    fun peer => (peer.p2p_peer, peer.peer_id, peer.virtual_ip)

theorem first_hello_authentic :
    Calm sample_transport sample_mesh ([.connected 1, sample_hello 1 "10.0.0.2"].map (sample_env, ·)) ∧
    sample_announced [.connected 1, sample_hello 1 "10.0.0.2"] =
      [(some 1, bytes_to_hex (sample_key 1), ascii "10.0.0.2")] ∧
    ∀ peer ∈ (sample_run [.connected 1, sample_hello 1 "10.0.0.2"]).peers, peer.announced → ∀ p2p_peer,
      peer.p2p_peer = some p2p_peer → Admitted sample_transport sample_mesh.toConfig p2p_peer peer.virtual_ip
        peer.peer_id peer.protocol_major := by
  have hcalm : Calm sample_transport sample_mesh ([.connected 1, sample_hello 1 "10.0.0.2"].map (sample_env, ·)) :=
    And.intro (fun _ _ _ _ hreal => nomatch hreal) (And.intro trivial trivial)
  exact ⟨hcalm, by decide +kernel, (announced_peers_authentic sample_transport sample_mesh _ rfl hcalm).1⟩

/-- Four runs. The peer of node 1 is taken over by a connection of node 2 from
the same remote address, whose frame then counts as one of node 1. A peer
that ICE announced is given a connection that never said HELLO. Two peers
have one address, because ICE brings up the second one, or because the
second HELLO writes the address in another way. -/
theorem peers_taken_over :
    (sample_announced [.connected 1, sample_hello 1 "10.0.0.2", .connected 2] =
        [(some 2, bytes_to_hex (sample_key 1), ascii "10.0.0.2")] ∧
      sample_transport.remote_noise_static 2 = some (sample_key 2) ∧ sample_key 1 ≠ sample_key 2 ∧
      (on_p2p_message sample_transport sample_env
          (sample_run [.connected 1, sample_hello 1 "10.0.0.2", .connected 2]) 2 (ascii "TMN2")).2 =
        [.frame (sample_key 1).toList (ascii "TMN2")]) ∧
    sample_announced [.connected 1, sample_hello 1 "10.0.0.2",
        .message 1 (ascii "MESH_ROUTES:10.0.0.9:1|192.0.2.9:4000"), .routed_ice (ascii "10.0.0.9") true,
        .ice_state 1 .CONNECTED (some (ascii "192.0.2.9:4000")), .connected 3] =
      [(some 3, [], ascii "10.0.0.9"), (some 1, bytes_to_hex (sample_key 1), ascii "10.0.0.2")] ∧
    sample_announced [.connected 1, sample_hello 1 "10.0.0.2", .message 1 (ascii "MESH_ROUTES:10.0.0.9:1"),
        .routed_ice (ascii "10.0.0.9") true, .connected 3, sample_hello 3 "10.0.0.9",
        .ice_state 1 .CONNECTED (some (ascii "198.51.100.7:5000"))] =
      [(some 3, bytes_to_hex (sample_key 3), ascii "10.0.0.9"), (none, [], ascii "10.0.0.9"),
        (some 1, bytes_to_hex (sample_key 1), ascii "10.0.0.2")] ∧
    sample_announced [.connected 1, sample_hello 1 "10.0.0.2", .connected 3, sample_hello 3 "10.0.0.02"] =
      [(some 3, bytes_to_hex (sample_key 3), ascii "10.0.0.02"),
        (some 1, bytes_to_hex (sample_key 1), ascii "10.0.0.2")] ∧
    ip_str_to_uint32 (ascii "10.0.0.02") = ip_str_to_uint32 (ascii "10.0.0.2") := by
  decide +kernel

end samples

end turbop2p.mesh
