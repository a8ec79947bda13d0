import TurboP2P.Fabric.Registry
import TurboP2P.Fabric.Route

open Codec

namespace turbop2p.mesh_multi_network

def Network.standing (network : Network) : Standing :=
  { uid := network.uid, generation := network.generation, policy_epoch := network.policy_epoch
    local_membership := network.local_membership, authorized_peer_node_ids := network.authorized_peer_node_ids }

def Fabric.identity (fabric : Fabric) : Identity :=
  { mesh_id := fabric.mesh_id, local_node_id := fabric.local_node_id, issuers := fabric.issuers
    max_bindings := fabric.max_bindings }

def Fabric.registry (fabric : Fabric) : Registry :=
  { identity := fabric.identity, standings := fabric.networks.map Network.standing, bindings := fabric.bindings
    binding_count := fabric.binding_count, allocated := fabric.allocated }

/-- The invariant of a fabric is that of its registry. -/
def Fabric.Inv (crypto : Crypto) (fabric : Fabric) : Prop := fabric.registry.Inv crypto

/-- A later state of a fabric, as its registry sees it. -/
def Refines (crypto : Crypto) (fabric fabric' : Fabric) : Prop := fabric.registry.Steps crypto fabric'.registry

section refinement

variable {crypto : Crypto} {env : Env} {fabric fabric' fabric'' : Fabric}

theorem Refines.of_eq (heq : fabric'.registry = fabric.registry) : Refines crypto fabric fabric' := by
  unfold Refines
  rw [heq]
  exact .refl

theorem Refines.refl : Refines crypto fabric fabric := .of_eq rfl

theorem Refines.trans (hleft : Refines crypto fabric fabric') (hright : Refines crypto fabric' fabric'') :
    Refines crypto fabric fabric'' :=
  Relation.ReflTransGen.trans hleft hright

theorem Refines.inv (hrefines : Refines crypto fabric fabric') (hinv : fabric.Inv crypto) : fabric'.Inv crypto :=
  Registry.Steps.inv hrefines hinv

variable {c : Prop} {rest : Result × Fabric × Sent} {network updated : Network} {binding : Binding}

/-- An early exit of a function and the rest of it. -/
theorem Refines.guard [Decidable c] {exit : Result × Fabric × Sent} (hexit : c → Refines crypto fabric exit.2.1)
    (hrest : ¬c → Refines crypto fabric rest.2.1) : Refines crypto fabric (if c then exit else rest).2.1 :=
  guard_cases (P := fun outcome : Result × Fabric × Sent => Refines crypto fabric outcome.2.1) hexit hrest

/-- An early exit that leaves the fabric as it is. -/
theorem Refines.exit [Decidable c] {result : Result} {sent : Sent} (hrest : ¬c → Refines crypto fabric rest.2.1) :
    Refines crypto fabric (if c then (result, fabric, sent) else rest).2.1 :=
  .guard (fun _ => .refl) hrest

/-- Writing a network writes its standing. -/
theorem registry_set_network_eq (fabric : Fabric) (network : Network) :
    (fabric.set_network network).registry =
      { fabric.registry with
        standings := fabric.registry.standings.map fun other =>
          if other.uid = network.standing.uid then network.standing else other } := by
  have hmap : (fabric.networks.map fun old => if old.uid = network.uid then network else old).map Network.standing =
      (fabric.networks.map Network.standing).map fun other =>
        if other.uid = network.standing.uid then network.standing else other := by
    rw [List.map_map, List.map_map]
    exact List.map_congr_left fun old _ => apply_ite Network.standing ..
  unfold Fabric.registry Fabric.set_network
  rw [hmap]
  rfl

/-- A change of the counters of a network is not seen in the registry. -/
theorem registry_set_network (hinv : fabric.Inv crypto) (hmem : network ∈ fabric.networks)
    (hstanding : updated.standing = network.standing) : (fabric.set_network updated).registry = fabric.registry := by
  have hnetwork : network.standing ∈ fabric.registry.standings := List.mem_map_of_mem hmem
  have hmap : (fabric.registry.standings.map fun other =>
      if other.uid = network.standing.uid then network.standing else other) = fabric.registry.standings := by
    rw [List.map_congr_left, List.map_id]
    intro other hother
    split
    · rename_i huid
      exact (Registry.Inv.eq_of_uid hinv hother hnetwork huid).symm
    · rfl
  rw [registry_set_network_eq, hstanding, hmap]

theorem refines_set_network (hinv : fabric.Inv crypto) (hmem : network ∈ fabric.networks)
    (hstanding : updated.standing = network.standing) : Refines crypto fabric (fabric.set_network updated) :=
  .of_eq (registry_set_network hinv hmem hstanding)

theorem refines_remove_bindings (fabric : Fabric) (network : Option NetworkUid) (node_id : Option NodeId) :
    Refines crypto fabric (remove_bindings fabric network node_id) :=
  .single (.unbind (Binding.selected network node_id))

/-- Nobody is bound in a network whose bindings were removed. -/
theorem remove_bindings_unbound (fabric : Fabric) (uid : NetworkUid) :
    ∀ binding ∈ (remove_bindings fabric (some uid) none).bindings, binding.network ≠ uid := by
  intro binding hbinding
  have hkept := (List.mem_filter.mp hbinding).2
  intro hsame
  simp [Binding.selected, hsame] at hkept

/-- A binding whose sequences move on and that is otherwise unchanged. -/
theorem refines_set_binding (hinv : fabric.Inv crypto) {updated : Binding} (hmem : binding ∈ fabric.bindings)
    (hadvances : Advances binding updated) (hnetwork : updated.network = binding.network)
    (hnode : updated.node_id = binding.node_id) (haddress : updated.ipv4_address = binding.ipv4_address)
    (hexpiry : updated.not_after_unix_s = binding.not_after_unix_s) :
    Refines crypto fabric (fabric.set_binding updated) := by
  refine .single (.update binding updated hmem hadvances hnetwork hnode ?_ ?_)
  · obtain ⟨standing, hstanding, hmember⟩ := hinv.members binding hmem
    refine ⟨standing, hstanding, hmember.network.trans hnetwork.symm, hnode ▸ hmember.authorized, ?_⟩
    rw [hnode, haddress, hexpiry]
    exact hmember.ticket
  · intro other hother hsame hne
    have hapart := hinv.apart hother hmem fun heq => hne (congrArg Binding.node_id heq)
    exact haddress ▸ (hapart.2 hsame).2

theorem peers_valid_apart {local_node_id : NodeId} {previous peers : List NodeId}
    (hvalid : peers_valid local_node_id previous peers = true) : local_node_id ∉ peers := by
  induction peers generalizing previous with
  | nil => exact List.not_mem_nil
  | cons peer peers ih =>
    obtain ⟨hpeer, hvalid⟩ := guard_passed hvalid
    rw [List.mem_cons, not_or]
    exact ⟨fun hsame => hpeer (.inr (.inl hsame.symm)), ih hvalid⟩

theorem validate_local_ticket_admits {spec : Spec} (hok : validate_local_ticket crypto env fabric spec = .OK)
    (hpeers : peers_valid fabric.local_node_id [] spec.authorized_peer_node_ids = true) :
    LocalMember crypto fabric.identity spec.network.standing := by
  refine ⟨⟨env.now_unix_s, ?_⟩, peers_valid_apart hpeers⟩
  unfold validate_local_ticket at hok
  split at hok
  · cases hok
  · rename_i issuer hissuer
    obtain ⟨hfields, _⟩ := guard_passed hok
    simp only [not_or, not_not] at hfields
    obtain ⟨hverified, hmesh, huid, hgeneration, hpolicy, hnode, _⟩ := hfields
    exact ⟨⟨issuer, find_issuer_eq_some hissuer, membership_ticket_verify_v1_eq_ok hverified⟩, hmesh, huid,
      hgeneration, hpolicy, hnode⟩

theorem refines_attach (spec : Spec) : Refines crypto fabric (attach_network_v2 crypto env fabric spec).2.1 := by
  refine .exit fun _ => .exit fun _ => .exit fun _ => .exit fun _ => .guard (fun _ => .of_eq rfl) fun _ => ?_
  refine .exit fun hnew => .exit fun hticket => .exit fun hpeers => .exit fun _ => .exit fun _ => .exit fun _ => ?_
  refine .single (.attach spec.network.standing ?_ ?_)
  · intro other hother huid
    obtain ⟨network, hnetwork, rfl⟩ := List.mem_map.mp hother
    have hnone := List.find?_eq_none.mp (not_not.mp hnew) network hnetwork
    exact hnone (decide_eq_true huid)
  · exact validate_local_ticket_admits (not_not.mp hticket) (by simpa using hpeers)

theorem refines_apply_snapshot (uid : NetworkUid) (expected_generation : UInt64) (spec : Spec) :
    Refines crypto fabric (apply_snapshot_v2 crypto env fabric uid expected_generation spec).2.1 := by
  unfold apply_snapshot_v2
  cases hfind : find fabric uid with
  | none => exact .refl
  | some network =>
    refine .exit fun hspec => .exit fun _ => .exit fun _ => .exit fun _ => .exit fun _ => ?_
    refine .exit fun hticket => .exit fun hpeers => .exit fun _ => .exit fun _ => .exit fun _ => ?_
    have huid : network.uid = spec.network_uid := not_not.mp (not_or.mp hspec).1
    have hsame : uid = spec.network_uid := (find_eq_some hfind).2.symm.trans huid
    have hstanding : (spec.snapshot network).standing = spec.network.standing := by
      simp only [Spec.snapshot, Network.standing, Spec.network, huid]
    have hlocal := validate_local_ticket_admits (not_not.mp hticket) (by simpa using hpeers)
    have hunbound := remove_bindings_unbound fabric uid
    refine (refines_remove_bindings fabric (some uid) none).trans ?_
    unfold Refines
    rw [registry_set_network_eq, hstanding]
    exact .single (.replace spec.network.standing hlocal (hsame ▸ hunbound))

theorem refines_detach (uid : NetworkUid) (drain_timeout_ms : UInt64) :
    Refines crypto fabric (detach_network_v2 env fabric uid drain_timeout_ms).2.1 := by
  refine .exit fun _ => .exit fun _ => ?_
  cases hfind : find fabric uid with
  | none => exact .refl
  | some network =>
    refine (refines_remove_bindings fabric (some uid) none).trans ?_
    have hdetach : Registry.Step crypto (remove_bindings fabric (some uid) none).registry _ :=
      .detach uid (remove_bindings_unbound fabric uid)
    have hfilter : (remove_bindings fabric (some uid) none).registry.standings.filter (fun other => other.uid ≠ uid) =
        (fabric.networks.filter fun other => other.uid ≠ uid).map Network.standing :=
      List.filter_map ..
    rw [hfilter] at hdetach
    exact .single hdetach

theorem packet_binding_mem {destination : UInt32} {now_unix_s : UInt64} {route : Option Route}
    (hok : packet_binding fabric network destination now_unix_s = .ok (binding, route)) :
    binding ∈ fabric.bindings ∧ binding.network = network.uid := by
  unfold packet_binding at hok
  split at hok
  · rename_i direct hdirect
    obtain ⟨hfind, -⟩ := Option.filter_eq_some_iff.mp hdirect
    cases hok
    obtain ⟨hmem, hnetwork, -⟩ := find_binding_address hfind
    exact ⟨hmem, hnetwork⟩
  · obtain ⟨⟨used, found⟩, hresolve, hpair⟩ := except_map_eq_ok.mp hok
    cases hpair
    obtain ⟨-, husable, -⟩ := resolve_gateway_eq_ok hresolve
    obtain ⟨hmem, hnetwork, -⟩ := find_binding_node (gateway_binding_eq_some husable).2.1
    exact ⟨hmem, hnetwork⟩

theorem refines_send_packet (hinv : fabric.Inv crypto) (uid : NetworkUid) (packet : List UInt8)
    (deadline_after_ms : UInt64) :
    Refines crypto fabric (send_packet_v2 env fabric uid packet deadline_after_ms).2.1 := by
  unfold send_packet_v2
  cases hfind : find fabric uid with
  | none => exact .refl
  | some network =>
    have hmem := (find_eq_some hfind).1
    refine .exit fun _ => .exit fun _ => .exit fun _ => .exit fun _ => .exit fun _ => ?_
    cases hbinding : packet_binding fabric network (read_u32_be (packet.drop 16)) env.now_unix_s with
    | error result => exact refines_set_network hinv hmem rfl
    | ok found =>
      obtain ⟨binding, route⟩ := found
      refine .guard (fun _ => refines_remove_bindings fabric _ _) fun _ => ?_
      refine .exit fun _ => .exit fun _ => .exit fun _ => ?_
      have hcounted : Refines crypto fabric
          (fabric.set_binding { binding with next_tx_sequence := binding.next_tx_sequence + 1 }) :=
        refines_set_binding hinv (packet_binding_mem hbinding).1
          ⟨rfl, UInt64.le_refl _, UInt64.le_refl _, fun _ _ => UInt64.le_refl _⟩ rfl rfl rfl rfl
      refine .guard (fun _ => ?_) fun _ => hcounted
      exact hcounted.trans (refines_set_network (hcounted.inv hinv) hmem rfl)

theorem refines_stop : Refines crypto fabric (fabric_stop_v2 env fabric).1 := by
  unfold fabric_stop_v2
  split
  · exact .refl
  refine (refines_remove_bindings fabric none none).trans (.of_eq ?_)
  unfold Fabric.registry
  rw [List.map_map]
  rfl

/-- A call of the owner or of the underlay changes the registry by its steps
only. -/
theorem refines_call (hinv : fabric.Inv crypto) (request : Call) :
    Refines crypto fabric (call crypto env fabric request).1 := by
  cases request with
  | start mesh_start =>
    unfold call fabric_start_v2
    dsimp only
    split
    · exact .refl
    split
    · exact .of_eq rfl
    · exact .refl
  | stop => exact refines_stop
  | attach spec => exact refines_attach spec
  | apply_snapshot uid expected_generation spec => exact refines_apply_snapshot uid expected_generation spec
  | detach uid drain_timeout_ms => exact refines_detach uid drain_timeout_ms
  | send_packet uid packet deadline_after_ms => exact refines_send_packet hinv uid packet deadline_after_ms
  | peer_ready node_id => exact .refl
  | peer_closed node_id => exact refines_remove_bindings fabric none (some node_id)

theorem refines_calls (hinv : fabric.Inv crypto) (callback : List (Env × Call)) :
    Refines crypto fabric (calls crypto fabric callback).1 := by
  have hfold : ∀ state : Fabric × Sent, Refines crypto fabric state.1 → Refines crypto fabric
      (callback.foldl (fun state next => ((call crypto next.1 state.1 next.2).1,
        state.2 ++ (call crypto next.1 state.1 next.2).2)) state).1 := by
    induction callback with
    | nil => exact fun _ hstate => hstate
    | cons next callback ih =>
      intro state hstate
      exact ih _ (hstate.trans (refines_call (hstate.inv hinv) next.2))
  exact hfold (fabric, []) (.refl)

end refinement

end turbop2p.mesh_multi_network
