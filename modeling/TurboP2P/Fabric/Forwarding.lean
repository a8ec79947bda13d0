import TurboP2P.Fabric.Admission

open Codec

namespace turbop2p.mesh_multi_network

variable {fabric : Fabric} {network : Network} {env : Env}

theorem packet_binding_error {destination : UInt32} {now_unix_s : UInt64} {result : Result}
    (herror : packet_binding fabric network destination now_unix_s = .error result) : result ≠ .OK := by
  unfold packet_binding at herror
  split at herror
  · cases herror
  · unfold resolve_gateway at herror
    dsimp only at herror
    split at herror
    · cases herror
    · split at herror
      · cases herror
        simp
      · split at herror
        · cases herror
          simp
        · cases herror
          simp

theorem send_frame_eq_ok {node_id : NodeId} {view : FrameView} (hok : (send_frame env node_id view).1 = .OK) :
    (send_frame env node_id view).2 = [(node_id, view.bytes)] := by
  unfold send_frame frame_encode at hok ⊢
  by_cases hlong : view.payload.length > 4294967295
  · simp [hlong] at hok
  · by_cases hlarge : FRAME_HEADER_SIZE + view.payload.length > FRAME_MAX
    · simp [hlong, hlarge] at hok
    · simp only [if_neg hlong, if_neg hlarge] at hok ⊢
      rw [if_pos hok]

/-- A packet that was sent went to the node of the binding that was chosen. -/
theorem send_packet_eq_ok {uid : NetworkUid} {packet : List UInt8} {deadline_after_ms : UInt64}
    (hfind : find fabric uid = some network)
    (hsent : (send_packet_v2 env fabric uid packet deadline_after_ms).1 = .OK) :
    ∃ binding route, packet_binding fabric network (read_u32_be (packet.drop 16)) env.now_unix_s =
        .ok (binding, route) ∧
      (send_packet_v2 env fabric uid packet deadline_after_ms).2.2 =
        [(binding.node_id, (data_frame fabric network binding packet).bytes)] := by
  unfold send_packet_v2 at hsent ⊢
  rw [hfind] at hsent ⊢
  dsimp only at hsent ⊢
  iterate 5
    obtain ⟨hnext, hsent⟩ := guard_fst hsent
    rw [hnext]
  cases hbinding : packet_binding fabric network (read_u32_be (packet.drop 16)) env.now_unix_s with
  | error result =>
    rw [hbinding] at hsent
    exact absurd hsent (packet_binding_error hbinding)
  | ok found =>
    obtain ⟨binding, route⟩ := found
    refine ⟨binding, route, rfl, ?_⟩
    rw [hbinding] at hsent
    dsimp only at hsent ⊢
    iterate 4
      obtain ⟨hnext, hsent⟩ := guard_fst hsent
      rw [hnext]
    by_cases hframe : (send_frame env binding.node_id (data_frame fabric network binding packet)).1 = .OK
    · rw [if_pos hframe]
      exact send_frame_eq_ok hframe
    · rw [if_neg hframe] at hsent
      exact absurd hsent hframe

/-- The route of a packet that is sent without a direct binding. It is a
usable route, and among the usable ones it has the longest mask, then the
lowest metric and then the smallest node. It is a longest match of all the
routes exactly if one of the longest matches is usable, that is, exactly if its
mask is that of the route which `lookup_route_v2` finds. -/
theorem sent_route_longest_iff (env : Env) (fabric : Fabric) (uid : NetworkUid) (network : Network)
    (packet : List UInt8) (deadline_after_ms : UInt64) (hfind : find fabric uid = some network)
    (hsent : (send_packet_v2 env fabric uid packet deadline_after_ms).1 = .OK)
    (hrouted : (find_binding fabric uid none (read_u32_be (packet.drop 16))).filter (·.active) = none) :
    ∃ route binding, route ∈ network.routes ∧
      gateway_binding fabric network (read_u32_be (packet.drop 16)) env.now_unix_s route = some binding ∧
      (send_packet_v2 env fabric uid packet deadline_after_ms).2.2 =
        [(route.next_hop_node_id, (data_frame fabric network binding packet).bytes)] ∧
      (∀ other ∈ network.routes,
        gateway_binding fabric network (read_u32_be (packet.drop 16)) env.now_unix_s other ≠ none →
        other.prefix_length ≤ route.prefix_length ∧ (other.prefix_length = route.prefix_length →
          route.metric ≤ other.metric ∧ (other.metric = route.metric →
            ¬other.next_hop_node_id.toList < route.next_hop_node_id.toList))) ∧
      (LongestMatch network (read_u32_be (packet.drop 16)) route ↔
        ∃ longest, LongestMatch network (read_u32_be (packet.drop 16)) longest ∧
          gateway_binding fabric network (read_u32_be (packet.drop 16)) env.now_unix_s longest ≠ none) ∧
      ∀ found, lookup_route_v2 network (read_u32_be (packet.drop 16)) = .ok found →
        (LongestMatch network (read_u32_be (packet.drop 16)) route ↔ route.prefix_length = found.prefix_length) := by
  obtain ⟨binding, used, hbinding, hframe⟩ := send_packet_eq_ok hfind hsent
  have huid := (find_eq_some hfind).2
  unfold packet_binding at hbinding
  rw [huid, hrouted] at hbinding
  obtain ⟨⟨route, gateway⟩, hresolve, hpair⟩ := except_map_eq_ok.mp hbinding
  cases hpair
  obtain ⟨hmem, husable, hall⟩ := resolve_gateway_eq_ok hresolve
  obtain ⟨hmatches, hhop, -⟩ := gateway_binding_eq_some husable
  have hbest : ∀ other ∈ network.routes,
      gateway_binding fabric network (read_u32_be (packet.drop 16)) env.now_unix_s other ≠ none →
      other.prefix_length ≤ route.prefix_length ∧ (other.prefix_length = route.prefix_length →
        route.metric ≤ other.metric ∧ (other.metric = route.metric →
          ¬other.next_hop_node_id.toList < route.next_hop_node_id.toList)) := by
    intro other hother hgateway
    have hnot := hall other hother hgateway
    rw [Bool.eq_false_iff, ne_eq, route_before_iff, not_or] at hnot
    refine ⟨UInt8.not_lt.mp hnot.1, fun hlength => ?_⟩
    have hmetric : ¬_ := fun hlower => hnot.2 ⟨hlength, hlower⟩
    rw [not_or] at hmetric
    exact ⟨UInt16.not_lt.mp hmetric.1, fun hsame hnode => hmetric.2 ⟨hsame, hnode⟩⟩
  refine ⟨route, gateway, hmem, husable, ?_, hbest, ⟨?_, ?_⟩, fun found hfound => ⟨?_, ?_⟩⟩
  · rw [hframe, (find_binding_node hhop).2.2]
  · exact fun hlongest => ⟨route, hlongest, by simp [husable]⟩
  · rintro ⟨longest, ⟨hlongest, hmatch, hmask⟩, hgateway⟩
    refine ⟨hmem, hmatches, fun other hother hcovers => ?_⟩
    exact UInt8.le_trans (hmask other hother hcovers) (hbest longest hlongest hgateway).1
  · rintro ⟨-, -, hmask⟩
    obtain ⟨hfound_mem, hfound_matches, hfound_mask⟩ := lookup_route_eq_ok hfound
    exact UInt8.le_antisymm (hfound_mask route hmem hmatches) (hmask found hfound_mem hfound_matches)
  · intro hlength
    obtain ⟨-, -, hfound_mask⟩ := lookup_route_eq_ok hfound
    exact ⟨hmem, hmatches, fun other hother hcovers => hlength ▸ hfound_mask other hother hcovers⟩

section samples

/-- The subnet `10.1.0.0/16` behind the local node or the peer, and the exit
behind the peer. -/
def subnet_route : Route := ⟨0x0A010000, 16, ROUTE_SUBNET, 1, sample_node 1⟩
def peer_subnet_route : Route := ⟨0x0A010000, 16, ROUTE_SUBNET, 1, sample_node 2⟩
def exit_route : Route := ⟨0, 0, ROUTE_EXIT, 1, sample_node 2⟩

/-- A fabric with some routes in which the peer is bound. -/
def routed_fabric (routes : List Route) : Fabric :=
  (sample_run (fun _ => true) (sample_start routes ++ [sample_open (sample_ticket 2 2 1)])).fabric

def routed_network (routes : List Route) : Network :=
  (find (routed_fabric routes) sample_uid).getD (sample_spec routes).network

def subnet_packet : List UInt8 := sample_packet 0x0A000001 0x0A010203

/-- A packet that the subnet route of the local node matches is forwarded over
the exit route. -/
theorem subnet_packet_leaves_by_exit :
    lookup_route_v2 (routed_network [subnet_route, exit_route]) 0x0A010203 = .ok subnet_route ∧
      LongestMatch (routed_network [subnet_route, exit_route]) 0x0A010203 subnet_route ∧
      (send_packet_v2 sample_env (routed_fabric [subnet_route, exit_route]) sample_uid subnet_packet 1).1 = .OK ∧
      (send_packet_v2 sample_env (routed_fabric [subnet_route, exit_route]) sample_uid subnet_packet 1).2.2.map
        Prod.fst = [exit_route.next_hop_node_id] ∧
      exit_route.prefix_length < subnet_route.prefix_length := by
  decide +kernel

/-- If the subnet is behind the peer, both routes can be used, and the packet takes
the longer one. -/
theorem peer_subnet_longest :
    let routes := [exit_route, peer_subnet_route]
    (∀ route ∈ routes, gateway_binding (routed_fabric routes) (routed_network routes) 0x0A010203
        sample_env.now_unix_s route ≠ none) ∧
      ∃ route, route.prefix_length = 16 ∧ LongestMatch (routed_network routes) 0x0A010203 route ∧
        (send_packet_v2 sample_env (routed_fabric routes) sample_uid subnet_packet 1).2.2.map Prod.fst =
          [route.next_hop_node_id] := by
  intro routes
  have hdestination : read_u32_be (subnet_packet.drop 16) = 0x0A010203 := by decide +kernel
  have husable : ∀ route ∈ routes, gateway_binding (routed_fabric routes) (routed_network routes) 0x0A010203
      sample_env.now_unix_s route ≠ none := by decide +kernel
  have hlongest : LongestMatch (routed_network routes) 0x0A010203 peer_subnet_route := by decide +kernel
  obtain ⟨route, binding, -, -, hframe, -, hiff, hlookup⟩ := sent_route_longest_iff sample_env (routed_fabric routes)
    sample_uid (routed_network routes) subnet_packet 1 (by decide +kernel) (by decide +kernel) (by decide +kernel)
  rw [hdestination] at hiff hlookup
  have hroute := hiff.mpr ⟨peer_subnet_route, hlongest, husable peer_subnet_route (by simp [routes])⟩
  refine ⟨husable, route, (hlookup peer_subnet_route (by decide +kernel)).mp hroute, hroute, ?_⟩
  rw [hframe]
  rfl

end samples

end turbop2p.mesh_multi_network
