import TurboP2P.Node.Roster

open Scan Text

namespace turbop2p.mesh

def Peer.standing (peer : Peer) : Standing :=
  ⟨peer.ref, peer.p2p_peer, peer.is_connected, peer.announced, peer.virtual_ip, peer.peer_id, peer.protocol_major⟩

def Mesh.roster (mesh : Mesh) : Roster := ⟨mesh.peers.map Peer.standing, mesh.next_ref⟩

/-- A connection may announce an address, an identity and a version: the
identity is the one that the connection authenticated, and the policy
allows all three. -/
structure Admitted (transport : Transport) (config : Config) (p2p_peer : Nat) (virtual_ip peer_id : Str)
    (major : UInt16) : Prop where
  identity : ∃ key, transport.remote_noise_static p2p_peer = some key ∧ peer_id = bytes_to_hex key
  address : policy_allows_virtual_ip config virtual_ip
  node : peer_acl_allows_node_id config peer_id
  version : peer_protocol_major_allowed config major.toNat

/-- A node whose peers are sound under its own policy. -/
abbrev Sound (transport : Transport) (mesh : Mesh) : Prop := mesh.roster.Sound (Admitted transport mesh.toConfig)

/-- The configuration stays and the roster changes step by step. -/
structure Moves (transport : Transport) (before after : Mesh) : Prop where
  config : after.toConfig = before.toConfig
  steps : Sound transport before → Roster.Steps (Admitted transport before.toConfig) before.roster after.roster

section moves

variable {transport : Transport} {before middle after mesh : Mesh}

theorem Moves.sound (hmoves : Moves transport before after) (hsound : Sound transport before) :
    Sound transport after := by
  rw [Sound, hmoves.config]
  exact hsound.steps (hmoves.steps hsound)

theorem Moves.trans (hfirst : Moves transport before middle) (hsecond : Moves transport middle after) :
    Moves transport before after where
  config := hsecond.config.trans hfirst.config
  steps hsound := (hfirst.steps hsound).trans (hfirst.config ▸ hsecond.steps (hfirst.sound hsound))

/-- A change of the routes alone is none of the roster. -/
theorem Moves.of_roster_eq (hconfig : after.toConfig = before.toConfig) (hroster : after.roster = before.roster) :
    Moves transport before after :=
  ⟨hconfig, fun _ => hroster ▸ .refl⟩

theorem Moves.refl : Moves transport mesh mesh := .of_roster_eq rfl rfl

/-- Pointers tell peers apart. -/
theorem eq_of_ref_eq (hsound : Sound transport mesh) {left right : Peer} (hleft : left ∈ mesh.peers)
    (hright : right ∈ mesh.peers) (href : left.ref = right.ref) : left = right := by
  have hnodup : (mesh.peers.map Peer.ref).Nodup := by
    have hrefs := hsound.refs
    rwa [Mesh.roster, List.map_map] at hrefs
  exact List.inj_on_of_nodup_map hnodup hleft hright href

variable {ref : Nat} {write : Peer → Peer}

/-- A write to one peer that the roster allows. -/
theorem Moves.update
    (hwrite : Sound transport mesh → ∀ peer ∈ mesh.peers, peer.ref = ref →
      mesh.roster.Write (Admitted transport mesh.toConfig) peer.standing (write peer).standing) :
    Moves transport mesh (update_peer mesh ref write) := by
  refine ⟨rfl, fun hsound => .single (.write ref _ ?_ ?_)⟩
  · simp only [Mesh.roster, update_peer, List.map_map]
    refine List.map_congr_left fun peer hpeer => ?_
    by_cases href : peer.ref = ref
    · simpa [href] using (hwrite hsound peer hpeer href).ref_eq
    · simp [href]
  · intro standing hstanding
    simp only [update_peer, List.map_map] at hstanding
    obtain ⟨peer, hpeer, rfl⟩ := List.mem_map.mp hstanding
    by_cases href : peer.ref = ref
    · refine .inr ⟨peer.standing, List.mem_map_of_mem hpeer, href, ?_⟩
      simpa [href] using hwrite hsound peer hpeer href
    · refine .inl (List.mem_map.mpr ⟨peer, hpeer, ?_⟩)
      simp [href]

/-- A write that leaves the standing of a peer alone. -/
theorem Moves.update_same (hwrite : ∀ peer, (write peer).standing = peer.standing) :
    Moves transport mesh (update_peer mesh ref write) :=
  .update fun _ peer _ _ => hwrite peer ▸ .same

theorem Moves.remove (ref : Nat) : Moves transport mesh (peer_remove mesh ref) := by
  refine ⟨rfl, fun _ => .single ?_⟩
  have hroster : (peer_remove mesh ref).roster =
      { mesh.roster with members := mesh.roster.members.filter (·.ref ≠ ref) } := by
    simp only [Mesh.roster, peer_remove, route_delete_via_peer, List.filter_map]
    rfl
  rw [hroster]
  exact .remove ref

end moves

section found

variable {mesh : Mesh} {peer : Peer} {p2p_peer : Nat}

theorem mem_of_find_peer_by_p2p (hfound : find_peer_by_p2p mesh p2p_peer = some peer) :
    peer ∈ mesh.peers ∧ peer.p2p_peer = some p2p_peer :=
  ⟨List.mem_of_find?_eq_some hfound, by simpa using List.find?_some hfound⟩

theorem unlisted_of_find_peer_by_p2p (hnone : find_peer_by_p2p mesh p2p_peer = none) :
    mesh.roster.Unlisted p2p_peer := by
  intro standing hstanding
  obtain ⟨other, hother, rfl⟩ := List.mem_map.mp hstanding
  simpa [Peer.standing] using List.find?_eq_none.mp hnone other hother

theorem free_of_find_peer_by_virtual_except {virtual_ip : Str} {ref : Nat}
    (hnone : find_peer_by_virtual_except mesh virtual_ip ref = none) : mesh.roster.Free ref virtual_ip := by
  intro standing hstanding href hannounced hconnected hsame
  obtain ⟨other, hother, rfl⟩ := List.mem_map.mp hstanding
  have hskipped := List.find?_eq_none.mp hnone other hother
  exact hskipped (by simpa using ⟨href, hannounced, hconnected, hsame⟩)

end found

variable {found : Mesh} {new_state : IceState} {selected : Option Str}

section routes

variable {transport : Transport} {env : Env} {mesh : Mesh}

theorem moves_route_find {dest_ip : Str} {route : Option Route}
    (hfind : route_find env mesh dest_ip = (route, found)) : Moves transport mesh found := by
  obtain rfl : (route_find env mesh dest_ip).2 = found := congrArg Prod.snd hfind
  exact .of_roster_eq rfl rfl

theorem moves_route_add_or_update (dest_ip : Str) (next_hop : Peer) (hop_count : UInt8) (dest_real_ip : Option Str) :
    Moves transport mesh (route_add_or_update env mesh dest_ip next_hop hop_count dest_real_ip) := by
  refine guard_cases (fun _ => .refl) fun _ => guard_cases (fun _ => .of_roster_eq rfl rfl) fun _ => ?_
  rcases hfind : route_find env mesh dest_ip with ⟨_ | route, found⟩
  · have hfound : Moves transport mesh found := moves_route_find hfind
    exact guard_cases (fun _ => hfound) fun _ => hfound.trans (.of_roster_eq rfl rfl)
  · have hfound : Moves transport mesh found := moves_route_find hfind
    refine guard_cases (fun _ => hfound.trans (.of_roster_eq rfl rfl)) fun _ => ?_
    cases (dest_real_ip.filter endpoint_is_routable).filter (· ≠ route.dest_real_ip) with
    | some _ => exact hfound.trans (.of_roster_eq rfl rfl)
    | none => exact guard_cases (fun _ => hfound.trans (.of_roster_eq rfl rfl)) fun _ => hfound

theorem moves_learn_route (next_hop : Peer) (token : Str) :
    Moves transport mesh (learn_route env next_hop mesh token) := by
  rw [learn_route]
  split
  · exact guard_cases (fun _ => moves_route_add_or_update _ _ _ _) fun _ => .refl
  · exact .refl

theorem moves_discover_routes_via (next_hop : Peer) (token : Str) :
    Moves transport mesh (discover_routes_via env next_hop mesh token) := by
  rw [discover_routes_via]
  split
  · exact guard_cases (fun _ => moves_route_add_or_update _ _ _ _) fun _ => .refl
  · exact .refl

theorem Moves.foldl {α : Type} {move : Mesh → α → Mesh} (hmove : ∀ mesh item, Moves transport mesh (move mesh item))
    (items : List α) : Moves transport mesh (items.foldl move mesh) := by
  induction items generalizing mesh with
  | nil => exact .refl
  | cons item items ih => exact (hmove mesh item).trans ih

theorem moves_on_routes (p2p_peer : Nat) (routes : Str) : Moves transport mesh (on_routes env mesh p2p_peer routes) := by
  rw [on_routes]
  cases find_peer_by_p2p mesh p2p_peer with
  | none => exact .refl
  | some next_hop =>
    exact guard_cases (fun _ => .refl) fun _ => .foldl (fun _ => moves_learn_route next_hop) _

theorem moves_discover_routes (cached : Str → Option Str) : Moves transport mesh (discover_routes env mesh cached) := by
  refine .foldl (fun mesh peer => ?_) _
  refine guard_cases (fun _ => .refl) fun _ => ?_
  cases cached peer.virtual_ip with
  | none => exact .refl
  | some value => exact .foldl (fun _ => moves_discover_routes_via peer) _

end routes

section ice

variable {transport : Transport} {env : Env} {mesh : Mesh}

@[simp] theorem standing_ice_init_peer (env : Env) (config : Config) (peer : Peer) :
    (ice_init_peer env config peer).standing = peer.standing := by
  rw [ice_init_peer]
  split <;> rfl

@[simp] theorem standing_peer_refresh (transport : Transport) (config : Config) (peer : Peer) :
    (peer_refresh_negotiated_capabilities transport config peer).standing = peer.standing := by
  rw [peer_refresh_negotiated_capabilities]
  split <;> rfl

@[simp] theorem standing_ice_handle_auth (transport : Transport) (config : Config) (payload : Str) (peer : Peer) :
    (ice_handle_auth transport config payload peer).standing = peer.standing := by
  rw [ice_handle_auth]
  split
  · rfl
  split
  · split
    · exact standing_peer_refresh transport config _
    · rfl
  · rfl

/-- A new peer that is not announced and has no connection yet, or one that
no other peer has. -/
theorem Moves.add {peer : Peer} (href : peer.ref = mesh.next_ref) (hquiet : peer.announced = false)
    (hunlisted : ∀ p2p_peer, peer.p2p_peer = some p2p_peer → peer.is_connected ∧ mesh.roster.Unlisted p2p_peer) :
    Moves transport mesh { mesh with peers := peer :: mesh.peers, next_ref := mesh.next_ref + 1 } :=
  ⟨rfl, fun _ => .single (.add peer.standing href hquiet hunlisted)⟩

variable {virtual_ip : Str} {Admits : Nat → Str → Str → UInt16 → Prop} {roster : Roster}

variable {ref : Option Nat}

theorem moves_peer_create_virtual {created : Mesh}
    (hcreate : peer_create_virtual env mesh virtual_ip = (ref, created)) : Moves transport mesh created := by
  obtain rfl : (peer_create_virtual env mesh virtual_ip).2 = created := congrArg Prod.snd hcreate
  refine guard_under (fun _ => .refl) fun _ => ?_
  refine guard_under (fun _ => .refl) fun _ => ?_
  rcases hfind : route_find env mesh virtual_ip with ⟨route, found⟩
  exact (moves_route_find hfind).trans (.add rfl rfl (by simp))

variable {p2p_peer : Option Nat}

theorem moves_find_or_create_signal_peer
    (hfind : find_or_create_signal_peer env mesh p2p_peer virtual_ip = (ref, found)) : Moves transport mesh found := by
  obtain rfl : (find_or_create_signal_peer env mesh p2p_peer virtual_ip).2 = found := congrArg Prod.snd hfind
  refine guard_under (fun _ => .refl) fun _ => ?_
  refine guard_under (fun _ => .refl) fun _ => ?_
  cases p2p_peer.bind (find_peer_by_p2p mesh) with
  | some peer => exact .refl
  | none =>
    cases find_peer_any_virtual mesh virtual_ip with
    | some peer => exact .refl
    | none =>
      rcases hcreate : peer_create_virtual env mesh virtual_ip with ⟨_ | ref, created⟩
      · exact moves_peer_create_virtual hcreate
      · have hcreated : Moves transport mesh created := moves_peer_create_virtual hcreate
        dsimp only
        rcases hroute : route_find env created virtual_ip with ⟨_ | route, found⟩
        · exact hcreated.trans (moves_route_find hroute)
        · have hfound := hcreated.trans (moves_route_find hroute)
          refine guard_under (fun _ => hfound) fun _ => ?_
          exact hfound.trans (.update_same fun _ => rfl)

theorem moves_ice_signal {handle : Peer → Peer} (hhandle : ∀ peer, (handle peer).standing = peer.standing) :
    Moves transport mesh (ice_signal env mesh p2p_peer virtual_ip handle) := by
  rw [ice_signal]
  rcases hfind : find_or_create_signal_peer env mesh p2p_peer virtual_ip with ⟨_ | ref, found⟩
  · exact moves_find_or_create_signal_peer hfind
  · refine (moves_find_or_create_signal_peer hfind).trans (.update_same fun peer => ?_)
    rw [hhandle, standing_ice_init_peer]

theorem moves_handle_control_payload {msg : Str} {handled : Mesh}
    (hhandle : handle_control_payload transport env mesh p2p_peer msg = some handled) :
    Moves transport mesh handled := by
  suffices hall : ∀ after ∈ handle_control_payload transport env mesh p2p_peer msg, Moves transport mesh after from
    hall handled hhandle
  let P : Option Mesh → Prop := fun outcome => ∀ after ∈ outcome, Moves transport mesh after
  have hsome : ∀ {after : Mesh}, Moves transport mesh after → P (some after) := by
    rintro after hafter _ ⟨⟩
    exact hafter
  have hmesh : P (some mesh) := hsome (.refl)
  refine guard_cases (P := P) (fun _ => guard_cases (P := P) (fun _ => hmesh) fun _ => ?_) fun _ => ?_
  · exact hsome (moves_ice_signal (standing_ice_handle_auth transport mesh.toConfig _))
  refine guard_cases (P := P) (fun _ => guard_cases (P := P) (fun _ => hmesh) fun _ => ?_) fun _ => ?_
  · exact hsome (moves_ice_signal fun _ => rfl)
  refine guard_cases (P := P) (fun _ => guard_cases (P := P) (fun _ => hmesh) fun _ => ?_) fun _ => ?_
  · exact hsome (moves_ice_signal fun _ => rfl)
  · exact fun _ hnone => absurd hnone (by simp)

/-- A state that ends the agent of a peer without a connection takes the peer
down. -/
theorem write_ice_closed (peer : Peer) (hstate : new_state ≠ .CONNECTED ∧ new_state ≠ .COMPLETED) :
    roster.Write Admits peer.standing (ice_on_state_changed new_state selected peer).standing := by
  rw [ice_on_state_changed, if_neg (by simp [hstate])]
  refine guard_under (fun hdown => ?_) fun _ => .same
  exact .down hdown.2

theorem write_ice_destroy_peer (peer : Peer) : roster.Write Admits peer.standing (ice_destroy_peer peer).standing := by
  exact guard_under (fun _ => .same) fun _ => write_ice_closed peer (by simp)

theorem write_ice_retry_peer (config : Config) (peer : Peer) :
    roster.Write Admits peer.standing (ice_retry_peer env config peer).standing := by
  have hended : ∀ ended : Peer, roster.Write Admits peer.standing ended.standing →
      roster.Write Admits peer.standing
        (if ended.ice_agent.isSome ∨ ended.is_connected then ended else ice_init_peer env config ended).standing := by
    intro ended hwrite
    refine guard_under (fun _ => hwrite) fun _ => ?_
    rwa [standing_ice_init_peer]
  exact hended _ (guard_under (fun _ => write_ice_destroy_peer peer) fun _ => .same)

theorem moves_try_routed_ice_connect (virtual_ip : Str) (force : Bool) :
    Moves transport mesh (try_routed_ice_connect env mesh virtual_ip force) := by
  refine guard_cases (fun _ => .refl) fun _ => ?_
  rcases hroute : route_find env mesh virtual_ip with ⟨_ | route, routed⟩
  · exact moves_route_find hroute
  have hrouted : Moves transport mesh routed := moves_route_find hroute
  have hmarked : ∀ write, Moves transport mesh (update_route routed virtual_ip write) :=
    fun _ => hrouted.trans (.of_roster_eq rfl rfl)
  refine guard_cases (fun _ => hrouted) fun _ => guard_cases (fun _ => hrouted) fun _ => ?_
  dsimp only
  split
  next found hfind => exact (hmarked _).trans (moves_find_or_create_signal_peer hfind)
  next ref found hfind =>
    refine ((hmarked _).trans (moves_find_or_create_signal_peer hfind)).trans (.update fun _ peer _ _ => ?_)
    exact write_ice_retry_peer found.toConfig peer

end ice

section events

variable {transport : Transport} {env : Env} {mesh : Mesh}

/-- What keeps a node sound. A connection never comes from the remote address
of an announced peer that has another one, and ICE never brings up a peer
whose address another peer has announced. -/
def Undisturbed (transport : Transport) (mesh : Mesh) : Event → Prop
  | .connected p2p_peer => find_peer_by_p2p mesh p2p_peer = none →
    ∀ address, transport.get_address p2p_peer = some address →
    ∀ peer, find_peer_by_real mesh (real_ip_of address) = some peer → peer.announced = false
  | .ice_state ref new_state selected => (new_state = .CONNECTED ∨ new_state = .COMPLETED) → selected.isSome →
    ∀ peer ∈ mesh.peers, peer.ref = ref → peer.p2p_peer = none → peer.announced = false →
      find_peer_by_virtual_except mesh peer.virtual_ip ref = none
  | _ => True

variable {p2p_peer : Nat} {peer : Peer}

theorem moves_connected (hcalm : Undisturbed transport mesh (.connected p2p_peer)) :
    Moves transport mesh (peer_create transport env mesh p2p_peer) := by
  rw [peer_create]
  split
  · exact .refl
  next address haddress =>
    split
    · exact .update fun _ peer _ _ => .resume
    next hfound =>
      split
      next peer hreal =>
        refine .update fun hsound other hother href => ?_
        obtain rfl := eq_of_ref_eq hsound hother (List.mem_of_find?_eq_some hreal) href
        exact .attach p2p_peer (hcalm hfound address haddress other hreal) (unlisted_of_find_peer_by_p2p hfound)
      next hreal =>
        refine guard_cases (fun _ => .refl) fun _ => .add rfl rfl ?_
        rintro attached ⟨⟩
        exact ⟨rfl, unlisted_of_find_peer_by_p2p hfound⟩

theorem moves_ice_state {ref : Nat} (hcalm : Undisturbed transport mesh (.ice_state ref new_state selected)) :
    Moves transport mesh (step transport mesh (env, .ice_state ref new_state selected)).1 := by
  refine .update fun hsound peer hpeer href => ?_
  subst href
  refine guard_under (fun _ => .same) fun _ => ?_
  by_cases hstate : new_state = .CONNECTED ∨ new_state = .COMPLETED
  · rw [ice_on_state_changed, if_pos hstate]
    cases hselected : selected with
    | none =>
      refine guard_under (fun hdown => .down hdown.2) fun _ => .same
    | some remote_endpoint =>
      refine guard_under (fun hnone => ?_) fun _ => .same
      refine .up hnone ?_
      cases hannounced : peer.announced with
      | false =>
        have hnobody := hcalm hstate (by simp [hselected]) peer hpeer rfl hnone hannounced
        exact free_of_find_peer_by_virtual_except hnobody
      | true =>
        exact fun other hother hdistinct hother_announced _ =>
          hsound.apart other hother peer.standing (List.mem_map_of_mem hpeer) hdistinct hother_announced hannounced
  · exact write_ice_closed peer (not_or.mp hstate)

variable {hello : Hello}

/-- A HELLO that passes every check admits its connection. -/
theorem admitted_of_hello {payload : Str} (hparse : parse_hello_message payload = some hello)
    (hidentity : p2p_peer_id_matches transport p2p_peer hello.node_id)
    (haddress : policy_allows_virtual_ip mesh.toConfig hello.virtual_ip)
    (hnode : peer_acl_allows_node_id mesh.toConfig hello.node_id)
    (hversion : peer_protocol_major_allowed mesh.toConfig hello.protocol_major) :
    Admitted transport mesh.toConfig p2p_peer hello.virtual_ip hello.node_id (UInt16.ofNat hello.protocol_major) := by
  have hmajor : (UInt16.ofNat hello.protocol_major).toNat = hello.protocol_major :=
    UInt16.toNat_ofNat_of_lt' (Nat.lt_succ_of_le (fits_of_parse_hello_message hparse).protocol_major)
  exact ⟨p2p_peer_id_matches_iff.mp hidentity, haddress, hnode, hmajor.symm ▸ hversion⟩

theorem standing_announce (config : Config) (peer : Peer) (hfits : hello.Fits)
    (hidentity : ∃ key, hello.node_id = bytes_to_hex key) :
    (announce transport config hello peer).standing =
      { peer.standing with
        announced := true, virtual_ip := hello.virtual_ip, peer_id := hello.node_id
        protocol_major := UInt16.ofNat hello.protocol_major } := by
  obtain ⟨key, hkey⟩ := hidentity
  have hlength : hello.node_id.length ≤ 65 - 1 := by
    rw [hkey, bytes_to_hex, length_hex_encode, key.toList_length]
  have haddress : hello.virtual_ip.length ≤ 16 - 1 := hfits.virtual_ip
  have hnonempty : hello.node_id ≠ [] := hkey ▸ bytes_to_hex_ne_nil key
  rw [announce, standing_peer_refresh]
  simp [Peer.standing, field_eq_self hlength, field_eq_self haddress, hnonempty]

/-- An agent that is closed takes nothing from a peer with a connection. -/
theorem standing_ice_destroy_peer (hpeer : peer.p2p_peer = some p2p_peer) :
    (ice_destroy_peer peer).standing = peer.standing := by
  rw [ice_destroy_peer]
  split
  · rfl
  · simp [ice_on_state_changed, hpeer, Peer.standing]

theorem standing_accept_hello (env : Env) (config : Config) (hpeer : peer.p2p_peer = some p2p_peer) :
    (accept_hello transport env config hello peer).standing = (announce transport config hello peer).standing := by
  have hkept : (announce transport config hello peer).p2p_peer = some p2p_peer :=
    (congrArg Standing.p2p_peer (standing_peer_refresh transport config _)).trans hpeer
  rw [accept_hello]
  split
  · rw [standing_ice_init_peer]
  · rw [standing_ice_destroy_peer hkept]

/-- What a HELLO does: nothing, the end of its peer, or the admission of its
peer under what it says. -/
inductive HelloOutcome (transport : Transport) (env : Env) (mesh : Mesh) (p2p_peer : Nat) :
    Mesh × List Attribution → Prop where
  | ignored : HelloOutcome transport env mesh p2p_peer (mesh, [])
  | refused (ref : Nat) : HelloOutcome transport env mesh p2p_peer (peer_remove mesh ref, [])
  | accepted (hello : Hello) (peer : Peer) (hfits : hello.Fits)
    (hadmitted : Admitted transport mesh.toConfig p2p_peer hello.virtual_ip hello.node_id
      (UInt16.ofNat hello.protocol_major))
    (hfound : find_peer_by_p2p mesh p2p_peer = some peer)
    (hfree : find_peer_by_virtual_except mesh hello.virtual_ip peer.ref = none) :
    HelloOutcome transport env mesh p2p_peer
      (update_peer (route_delete mesh (field 16 hello.virtual_ip)) peer.ref
          (accept_hello transport env mesh.toConfig hello),
        ((network_node_id mesh.toConfig (announce transport mesh.toConfig hello peer)).map Attribution.ready).toList)

theorem on_hello_outcome (transport : Transport) (env : Env) (mesh : Mesh) (p2p_peer : Nat) (payload : Str) :
    HelloOutcome transport env mesh p2p_peer (on_hello transport env mesh p2p_peer payload) := by
  rw [on_hello]
  split
  · exact .ignored
  next hello hparse =>
    split
    · exact .ignored
    next peer hfound =>
      refine guard_cases (fun _ => .refused peer.ref) fun hidentity => ?_
      refine guard_cases (fun _ => .refused peer.ref) fun haddress => ?_
      refine guard_cases (fun _ => .refused peer.ref) fun hnode => ?_
      refine guard_cases (fun _ => .refused peer.ref) fun hversion => ?_
      refine guard_cases (fun _ => .refused peer.ref) fun hfree => ?_
      refine .accepted hello peer (fits_of_parse_hello_message hparse) ?_ hfound (by simpa using hfree)
      exact admitted_of_hello hparse (not_not.mp hidentity) (not_not.mp haddress) (not_not.mp hnode)
        (not_not.mp hversion)

theorem moves_on_hello (p2p_peer : Nat) (payload : Str) :
    Moves transport mesh (on_hello transport env mesh p2p_peer payload).1 := by
  have houtcome := on_hello_outcome transport env mesh p2p_peer payload
  generalize on_hello transport env mesh p2p_peer payload = outcome at houtcome ⊢
  cases houtcome with
  | ignored => exact .refl
  | refused ref => exact .remove ref
  | accepted hello peer hfits hadmitted hfound hfree =>
    have hmem : peer ∈ mesh.peers ∧ peer.p2p_peer = some p2p_peer := mem_of_find_peer_by_p2p hfound
    have hroutes : Moves transport mesh (route_delete mesh (field 16 hello.virtual_ip)) := .of_roster_eq rfl rfl
    refine hroutes.trans (.update fun hsound other hother href => ?_)
    obtain rfl : other = peer := eq_of_ref_eq hsound hother hmem.1 href
    obtain ⟨key, _, hkey⟩ := hadmitted.identity
    rw [standing_accept_hello env mesh.toConfig hmem.2, standing_announce mesh.toConfig other hfits ⟨key, hkey⟩]
    exact .join p2p_peer hmem.2 _ _ _ hadmitted (free_of_find_peer_by_virtual_except hfree)

theorem moves_on_control (p2p_peer : Nat) (dst : Str) :
    Moves transport mesh (on_control transport env mesh p2p_peer dst) := by
  refine guard_cases (fun _ => .refl) fun _ => guard_cases (fun _ => ?_) fun _ => .refl
  cases hhandle : handle_control_payload transport env mesh none (dst.drop ((dst.takeWhile (· ≠ 58)).length + 1)) with
  | none => exact .refl
  | some handled => exact moves_handle_control_payload hhandle

theorem moves_on_p2p_message (p2p_peer : Nat) (data : List UInt8) :
    Moves transport mesh (on_p2p_message transport env mesh p2p_peer data).1 := by
  refine guard_under (fun _ => .refl) fun _ => guard_under (fun _ => ?_) fun _ => ?_
  · cases find_peer_by_p2p mesh p2p_peer with
    | none => exact .refl
    | some peer => exact guard_under (fun _ => .refl) fun _ => .refl
  refine guard_under (fun _ => moves_on_hello p2p_peer _) fun _ => ?_
  refine guard_under (fun _ => moves_on_control p2p_peer _) fun _ => ?_
  refine guard_under (fun _ => moves_on_routes p2p_peer _) fun _ => ?_
  cases hhandle : handle_control_payload transport env mesh (some p2p_peer) (c_string data) with
  | some handled => exact moves_handle_control_payload hhandle
  | none =>
    cases find_peer_by_p2p mesh p2p_peer with
    | none => exact .refl
    | some peer => exact guard_under (fun _ => .refl) fun _ => .refl

/-- Every event that does not disturb a node moves its roster. -/
theorem moves_step {event : Event} (hcalm : Undisturbed transport mesh event) :
    Moves transport mesh (step transport mesh (env, event)).1 := by
  cases event with
  | connected p2p_peer => exact moves_connected hcalm
  | disconnected p2p_peer =>
    rw [step, on_p2p_peer_disconnected]
    cases find_peer_by_p2p mesh p2p_peer with
    | none => exact .refl
    | some peer => exact .remove peer.ref
  | message p2p_peer data => exact moves_on_p2p_message p2p_peer data
  | ice_state ref new_state selected => exact moves_ice_state hcalm
  | routed_ice virtual_ip force => exact moves_try_routed_ice_connect virtual_ip force
  | discover cached => exact moves_discover_routes cached
  | disconnect ref =>
    change Moves transport mesh (disconnect_peer env mesh ref)
    rw [disconnect_peer]
    cases find_peer mesh ref with
    | none => exact .refl
    | some peer =>
      have hroutes : ∀ write, Moves transport mesh
          (update_route (route_expire_stale env mesh) peer.virtual_ip write) := fun _ => .of_roster_eq rfl rfl
      exact guard_cases (fun _ => hroutes _) fun _ => (hroutes _).trans (.remove ref)

end events

end turbop2p.mesh
