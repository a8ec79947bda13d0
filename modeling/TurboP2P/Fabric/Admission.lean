import TurboP2P.Fabric.Delivery

open Codec

namespace turbop2p.mesh_multi_network

/-- A packet that a network received: the fabric at that time, the node that
the underlay had authenticated and what was handed on. -/
structure Received where
  fabric : Fabric
  sender : Option NodeId
  delivery : Delivery

/-- A fabric and all the packets that its networks received so far. -/
structure World where
  fabric : Fabric
  received : List Received

def Input.sender : Input → Option NodeId
  | .api _ => none
  | .message node_id _ _ => some node_id

def World.step (crypto : Crypto) (world : World) (input : Env × Input) : World :=
  let outcome := mesh_multi_network.step crypto input.1 world.fabric input.2
  ⟨outcome.fabric, world.received ++ outcome.delivered.map fun delivery => ⟨world.fabric, input.2.sender, delivery⟩⟩

/-- The packet is for the local node or for a route that ends at it. -/
def AddressedToLocal (fabric : Fabric) (network : Network) (destination : UInt32) : Prop :=
  destination = network.local_membership.ipv4_address ∨
    ∃ route ∈ network.routes, route.next_hop_node_id = fabric.local_node_id ∧ route.matches destination = true

/-- What a received packet shows. -/
structure Received.Authorised (crypto : Crypto) (received : Received) : Prop where
  authenticated : received.sender = some received.delivery.node_id
  member : ∃ network, find received.fabric received.delivery.network = some network ∧
    received.delivery.node_id ∈ network.authorized_peer_node_ids ∧
    (∃ ticket opened_at,
      Admits crypto received.fabric.identity network.standing received.delivery.node_id ticket opened_at ∧
      received.delivery.now_unix_s ≤ ticket.not_after_unix_s ∧
      read_u32_be (received.delivery.packet.drop 12) = ticket.ipv4_address) ∧
    AddressedToLocal received.fabric network (read_u32_be (received.delivery.packet.drop 16))

/-- Two packets came under one record of a binding and in one membership
generation and key epoch of it. -/
def SameBinding (left right : Delivery) : Prop :=
  left.binding.record = right.binding.record ∧
    left.binding.membership_generation = right.binding.membership_generation ∧
    left.binding.node_key_epoch = right.binding.node_key_epoch

/-- The record of the binding of a packet once the packet was accepted. -/
def Delivery.after (delivery : Delivery) : Binding :=
  { delivery.binding with last_rx_sequence := delivery.sequence }

section runs

variable {crypto : Crypto} {env : Env} {fabric : Fabric}

theorem data_accepted_source {node_id : NodeId} {frame : FrameView} {network : Network} {binding : Binding}
    (haccepted : DataAccepted env fabric node_id frame network binding) :
    read_u32_be (frame.payload.drop 12) = binding.ipv4_address ∧
      AddressedToLocal fabric network (read_u32_be (frame.payload.drop 16)) := by
  have hfields := of_decide_eq_false haccepted.checked
  iterate 9 obtain ⟨_, hfields⟩ := not_or.mp hfields
  obtain ⟨hrouted, hfields⟩ := not_or.mp hfields
  obtain ⟨_, hfields⟩ := not_or.mp hfields
  obtain ⟨_, hvalid⟩ := not_or.mp hfields
  obtain ⟨hsource, hdestination⟩ := ipv4_packet_valid_source (by simpa using hvalid)
  refine ⟨hsource, ?_⟩
  rw [hdestination]
  by_cases hlocal : frame.destination_ipv4 = network.local_membership.ipv4_address
  · exact .inl hlocal
  · have hgateway : accepts_gateway_destination fabric network frame.destination_ipv4 = true := by
      by_contra hnot
      exact hrouted ⟨hlocal, by simpa using hnot⟩
    obtain ⟨route, hroute, hlocal⟩ := List.any_eq_true.mp hgateway
    obtain ⟨hhop, _, hmatches⟩ := of_decide_eq_true hlocal
    exact .inr ⟨route, hroute, hhop, hmatches⟩

variable {delivery : Delivery} {input : Input}

/-- A packet that a fabric with the invariant hands on is authorised. -/
theorem delivered_authorised (hinv : fabric.Inv crypto)
    (hdelivered : delivery ∈ (step crypto env fabric input).delivered) :
    Received.Authorised crypto ⟨fabric, input.sender, delivery⟩ := by
  obtain ⟨node_id, bytes, callback, view, network, binding, rfl, haccepted, rfl, -⟩ := step_delivered hinv hdelivered
  obtain ⟨hmem, huid, hnode⟩ := find_binding_node haccepted.bound
  obtain ⟨standing, hstanding, hmember⟩ := hinv.members binding hmem
  have hnetwork : network.standing ∈ fabric.registry.standings := List.mem_map_of_mem (find_eq_some haccepted.found).1
  obtain rfl := hinv.eq_of_uid hstanding hnetwork (hmember.network.trans huid)
  obtain ⟨hsource, hdestination⟩ := data_accepted_source haccepted
  obtain ⟨ticket, opened_at, hadmits, haddress, hexpiry⟩ := hmember.ticket
  refine ⟨congrArg some hnode.symm, network, ?_, hmember.authorized, ⟨ticket, opened_at, hadmits, ?_, ?_⟩, hdestination⟩
  · rw [(find_eq_some haccepted.found).2]
    exact haccepted.found
  · rw [hexpiry]
    exact haccepted.current
  · rw [haddress]
    exact hsource

/-- The record that a fabric holds for the binding of an accepted packet is a
later state of the one that the packet left. -/
def Recorded (fabric : Fabric) (delivery : Delivery) : Prop :=
  delivery.binding.record < fabric.allocated ∧
    ∀ binding ∈ fabric.bindings, binding.record = delivery.binding.record → Advances delivery.after binding

theorem Recorded.of_refines {fabric' : Fabric} (hrecorded : Recorded fabric delivery)
    (hrefines : Refines crypto fabric fabric') : Recorded fabric' delivery := by
  have hfollows := Registry.Steps.follows hrefines
  refine ⟨hrecorded.1.trans_le hfollows.allocated, fun binding hbinding hrecord => ?_⟩
  rcases hfollows.bindings binding hbinding with hnew | ⟨before, hbefore, hadvances⟩
  · have hold := hrecorded.1
    rw [← hrecord] at hold
    exact absurd hnew (Nat.not_le_of_gt hold)
  · exact (hrecorded.2 before hbefore (hadvances.record.symm.trans hrecord)).trans hadvances

theorem delivered_recorded (hinv : fabric.Inv crypto)
    (hdelivered : delivery ∈ (step crypto env fabric input).delivered) :
    Recorded (step crypto env fabric input).fabric delivery := by
  obtain ⟨node_id, bytes, callback, view, network, binding, rfl, haccepted, rfl, -, hrefines⟩ :=
    step_delivered hinv hdelivered
  refine Recorded.of_refines ⟨?_, ?_⟩ hrefines
  · exact hinv.records binding (find_binding_node haccepted.bound).1
  · intro after hafter hrecord
    obtain ⟨old, -, rfl⟩ := List.mem_map.mp hafter
    split at hrecord
    · rename_i hsame
      rw [if_pos hsame]
      exact .refl _
    · rename_i hother
      exact absurd hrecord hother

/-- The invariant of a fabric and of the packets it received. -/
structure World.Inv (crypto : Crypto) (world : World) : Prop where
  fabric : world.fabric.Inv crypto
  authorised : ∀ received ∈ world.received, received.Authorised crypto
  recorded : ∀ received ∈ world.received, Recorded world.fabric received.delivery
  increasing : world.received.Pairwise fun earlier later =>
    SameBinding earlier.delivery later.delivery → earlier.delivery.sequence < later.delivery.sequence

theorem World.Inv.step {world : World} (hworld : world.Inv crypto) (input : Env × Input) :
    (world.step crypto input).Inv crypto := by
  have hrefines : Refines crypto world.fabric (world.step crypto input).fabric := refines_step hworld.fabric input.2
  refine ⟨hrefines.inv hworld.fabric, ?_, ?_, ?_⟩
  · intro received hreceived
    rcases List.mem_append.mp hreceived with hold | hnew
    · exact hworld.authorised received hold
    · obtain ⟨delivery, hdelivery, rfl⟩ := List.mem_map.mp hnew
      exact delivered_authorised hworld.fabric hdelivery
  · intro received hreceived
    rcases List.mem_append.mp hreceived with hold | hnew
    · exact (hworld.recorded received hold).of_refines hrefines
    · obtain ⟨delivery, hdelivery, rfl⟩ := List.mem_map.mp hnew
      exact delivered_recorded hworld.fabric hdelivery
  · refine List.pairwise_append.mpr ⟨hworld.increasing, ?_, ?_⟩
    · cases hdelivered : (mesh_multi_network.step crypto input.1 world.fabric input.2).delivered with
      | nil => exact .nil
      | cons delivery rest =>
        obtain ⟨_, _, _, _, _, _, _, _, _, hsingle, _⟩ := step_delivered hworld.fabric (hdelivered ▸ List.mem_cons_self)
        rw [hdelivered] at hsingle
        rw [hsingle]
        exact List.pairwise_singleton _ _
    · intro earlier hearlier later hlater hsame
      obtain ⟨delivery, hdelivery, rfl⟩ := List.mem_map.mp hlater
      obtain ⟨node_id, bytes, callback, view, network, binding, -, haccepted, rfl, -⟩ :=
        step_delivered hworld.fabric hdelivery
      obtain ⟨-, hadvances⟩ := hworld.recorded earlier hearlier
      have hafter := hadvances binding (find_binding_node haccepted.bound).1 hsame.1.symm
      exact UInt64.lt_of_le_of_lt (hafter.sequence hsame.2.1 hsame.2.2) haccepted.sequence

theorem World.Inv.start (hinv : fabric.Inv crypto) : World.Inv crypto ⟨fabric, []⟩ :=
  ⟨hinv, fun _ hnone => absurd hnone List.not_mem_nil, fun _ hnone => absurd hnone List.not_mem_nil, .nil⟩

theorem fabric_create_inv (crypto : Crypto) {config : Config} (hcreate : fabric_create_v2 config = .ok fabric) :
    fabric.Inv crypto ∧ fabric.max_bindings = config.max_peer_network_bindings ∧ fabric.bindings = [] := by
  obtain ⟨_, hcreate⟩ := guard_passed hcreate
  obtain ⟨_, hcreate⟩ := guard_passed hcreate
  cases hcreate
  exact ⟨⟨.nil, nofun, rfl, Nat.zero_le _, nofun, nofun, .nil⟩, rfl, rfl⟩

end runs

/-- What holds in every run of a fabric. Each received packet is authorised,
and the sequences under one binding increase; the bindings are counted and
bounded, and in one network their nodes and addresses differ. Nobody is
bound to the address of the local node if the issuers give no address to
two nodes. -/
theorem fabric_admits_members (crypto : Crypto) (config : Config) (fabric : Fabric)
    (hcreate : fabric_create_v2 config = .ok fabric) (inputs : List (Env × Input)) :
    let world := Machine.run (World.step crypto) ⟨fabric, []⟩ inputs
    (∀ received ∈ world.received, received.Authorised crypto) ∧
      (world.received.Pairwise fun earlier later =>
        SameBinding earlier.delivery later.delivery → earlier.delivery.sequence < later.delivery.sequence) ∧
      world.fabric.binding_count = world.fabric.bindings.length ∧
      world.fabric.bindings.length ≤ config.max_peer_network_bindings ∧
      (world.fabric.bindings.Pairwise fun left right => left.network = right.network →
        left.node_id ≠ right.node_id ∧ left.ipv4_address ≠ right.ipv4_address) ∧
      (AddressesUnique crypto fabric.identity →
        ∀ network ∈ world.fabric.networks, ∀ binding ∈ world.fabric.bindings, binding.network = network.uid →
          binding.ipv4_address ≠ network.local_membership.ipv4_address) := by
  intro world
  obtain ⟨hinv, hmax, -⟩ := fabric_create_inv crypto hcreate
  have hworld : world.Inv crypto ∧ world.fabric.identity = fabric.identity :=
    Machine.run_invariant (P := fun world : World => world.Inv crypto ∧ world.fabric.identity = fabric.identity)
      ⟨.start hinv, rfl⟩
      (fun world input hworld => ⟨hworld.1.step input,
        (Registry.Steps.follows (refines_step hworld.1.fabric input.2)).identity.trans hworld.2⟩) inputs
  obtain ⟨⟨hfabric, hauthorised, -, hincreasing⟩, hidentity⟩ := hworld
  have hcapacity := hfabric.capacity
  have hbound : world.fabric.max_bindings = config.max_peer_network_bindings :=
    (congrArg Identity.max_bindings hidentity).trans hmax
  refine ⟨hauthorised, hincreasing, hfabric.count, hbound ▸ hcapacity, hfabric.distinct.imp fun hapart => hapart.2, ?_⟩
  intro hunique network hnetwork binding hbinding hsame
  have hunique' : AddressesUnique crypto world.fabric.identity := by
    rw [hidentity]
    exact hunique
  exact Registry.Inv.local_address_free hfabric hunique' (List.mem_map_of_mem hnetwork) hbinding hsame

section samples

/-- The node whose identity repeats one byte. -/
def sample_node (byte : UInt8) : NodeId := List.Vector.replicate 32 byte

def sample_uid : NetworkUid := List.Vector.replicate 16 1

/-- The identity stands for its own digest. An issuer signs for a node when
`issues` says so. -/
def sample_crypto (issues : List UInt8 → Bool) : Crypto :=
  { sha256 := fun bytes => some (take_bytes 32 bytes), ed25519_verify := fun _ body _ => issues body }

/-- An issuer that gives a node the address with the byte of its identity. -/
def issues_by_node (body : List UInt8) : Bool :=
  (body.drop 72).take 32 = List.replicate 32 ((body.drop 171).headD 0)

def sample_config : Config :=
  { mesh_id := sample_node 8, local_node_id := sample_node 1, trusted_issuers := [⟨sample_node 9, sample_node 9⟩]
    max_networks := 4, max_peer_network_bindings := 4, max_packet_size := 1500 }

/-- A ticket for the address `10.0.0.host`. -/
def sample_ticket (node : UInt8) (host : UInt32) (membership_generation : UInt64) : Ticket :=
  { mesh_id := sample_node 8, network_uid := sample_uid, membership_id := List.Vector.replicate 16 node
    managed_node_id := sample_node node, node_public_key_digest := sample_node node, network_generation := 1
    membership_generation, node_key_epoch := 1, policy_epoch := 1, ipv4_address := 0x0A000000 + host
    ipv4_prefix_length := 24, roles := ROLE_MEMBER ||| ROLE_SUBNET_ROUTER ||| ROLE_EXIT, issued_at_unix_s := 1
    not_before_unix_s := 1, not_after_unix_s := 1000, issuer_key_id := sample_node 9
    signature := List.Vector.replicate 64 0 }

def sample_spec (routes : List Route) : Spec :=
  { network_uid := sample_uid, name := [110], generation := 1, policy_epoch := 1, mtu := 1500, lifecycle := .ACTIVE
    attach_mode := .USERSPACE, local_membership := sample_ticket 1 1 1, authorized_peer_node_ids := [sample_node 2]
    authorize_packet := false, on_packet_received := true, route_epoch := 1, routes }

def sample_env : Env :=
  { now_unix_s := 100, memory := true, send := fun _ _ => .OK, peers := [], authorize := fun _ _ _ => true }

/-- An IPv4 header without options and without payload. -/
def sample_packet (source destination : UInt32) : List UInt8 :=
  [0x45, 0, 0, 20] ++ List.replicate 8 0 ++ write_u32_be source ++ write_u32_be destination

def sample_frame (kind : UInt8) (source_ipv4 destination_ipv4 : UInt32) (sequence : UInt64) (hop_limit : UInt8)
    (payload : List UInt8) : List UInt8 :=
  FrameView.bytes
    { kind, network_uid := sample_uid, generation := 1, policy_epoch := 1, source_node_id := sample_node 2
      destination_node_id := sample_node 1, sequence, hop_limit, address_family := FRAME_FAMILY_IPV4, source_ipv4
      destination_ipv4, payload }

/-- The peer opens the network with a ticket. -/
def sample_open (ticket : Ticket) : Env × Input :=
  (sample_env, .message (sample_node 2)
    (sample_frame FRAME_KIND_OPEN ticket.ipv4_address 0 0 0 (membership_ticket_encode_v1 ticket)) [])

/-- The peer sends a packet from the address `10.0.0.2` to the local node. -/
def sample_data (sequence : UInt64) : Env × Input :=
  (sample_env, .message (sample_node 2)
    (sample_frame FRAME_KIND_DATA 0x0A000002 0x0A000001 sequence 1 (sample_packet 0x0A000002 0x0A000001)) [])

def sample_start (routes : List Route) : List (Env × Input) :=
  [(sample_env, .api (.start .OK)), (sample_env, .api (.attach (sample_spec routes)))]

def sample_fabric : Fabric := (fabric_create_v2 sample_config).toOption.getD
  { mesh_id := sample_node 0, local_node_id := sample_node 0, issuers := [], networks := [], bindings := [],
    network_count := 0, binding_count := 0, max_networks := 0, max_bindings := 0, max_packet_size := 0,
    lifecycle := .CLOSED, dispatch_depth := 0, rejected_frames := 0, unauthorized_opens := 0,
    capacity_rejections := 0, allocated := 0 }

def sample_run (issues : List UInt8 → Bool) (inputs : List (Env × Input)) : World :=
  Machine.run (World.step (sample_crypto issues)) ⟨sample_fabric, []⟩ inputs

theorem issues_by_node_unique : AddressesUnique (sample_crypto issues_by_node) sample_fabric.identity := by
  have hissued : ∀ standing node ticket opened_at,
      Admits (sample_crypto issues_by_node) sample_fabric.identity standing node ticket opened_at →
      node.toList = List.replicate 32 (((write_u32_be ticket.ipv4_address).drop 3).headD 0) := by
    intro standing node ticket opened_at hadmits
    obtain ⟨issuer, -, hverified⟩ := hadmits.signed
    have hsigned := of_decide_eq_true hverified.signed
    have hnode : ((ticket_encode_body ticket).drop 72).take 32 = ticket.managed_node_id.toList := by
      simp [ticket_encode_body, TICKET_MAGIC, drop_append_field]
    have hhost : ((ticket_encode_body ticket).drop 171).headD 0 =
        ((write_u32_be ticket.ipv4_address).drop 3).headD 0 := by
      simp [ticket_encode_body, TICKET_MAGIC, drop_append_field]
    rw [hnode, hhost, hadmits.node] at hsigned
    exact hsigned
  intro standing left_node right_node left right opened_at opened_at' hleft hright haddress
  apply Subtype.ext
  have hnodes := hissued standing left_node left opened_at hleft
  rw [haddress] at hnodes
  exact hnodes.trans (hissued standing right_node right opened_at' hright).symm

/-- The fabric after the peer opened with a ticket for the address of the
local node. -/
def sample_conflict : Fabric :=
  (sample_run (fun _ => true) (sample_start [] ++ [sample_open (sample_ticket 2 1 1)])).fabric

/-- A peer with a ticket for the address of the local node is bound to it; and
a ticket of a later membership generation lets the sequences of a record
start again. -/
theorem local_address_bound :
    sample_conflict.networks.map (fun network => (network.uid, network.local_membership.ipv4_address)) =
        [(sample_uid, 0x0A000001)] ∧
      sample_conflict.bindings.map (fun binding => (binding.network, binding.ipv4_address)) =
        [(sample_uid, 0x0A000001)] ∧
      (sample_run (fun _ => true) (sample_start [] ++ [sample_open (sample_ticket 2 2 1), sample_data 5,
        sample_open (sample_ticket 2 2 2), sample_data 1])).received.map
          (fun received => (received.delivery.binding.record, received.delivery.sequence)) = [(0, 5), (0, 1)] := by
  decide +kernel

/-- A packet of a peer that opened with its ticket is received, and the peer is not
bound to the local address. -/
theorem member_packet_received :
    let world := sample_run issues_by_node (sample_start [] ++ [sample_open (sample_ticket 2 2 1), sample_data 5])
    world.received.map (fun received => (received.sender, received.delivery.sequence)) = [(some (sample_node 2), 5)] ∧
      (∀ received ∈ world.received, received.Authorised (sample_crypto issues_by_node)) ∧
      ∀ network ∈ world.fabric.networks, ∀ binding ∈ world.fabric.bindings, binding.network = network.uid →
        binding.ipv4_address ≠ network.local_membership.ipv4_address := by
  obtain ⟨hauthorised, -, -, -, -, hfree⟩ := fabric_admits_members (sample_crypto issues_by_node) sample_config
    sample_fabric rfl (sample_start [] ++ [sample_open (sample_ticket 2 2 1), sample_data 5])
  exact ⟨by decide +kernel, hauthorised, hfree issues_by_node_unique⟩

end samples

end turbop2p.mesh_multi_network
