import TurboP2P.Fabric.Refines

open Codec

namespace turbop2p.mesh_multi_network

section frames

variable {crypto : Crypto} {env : Env} {fabric : Fabric} {network : Network} {node_id : NodeId} {frame : FrameView}

theorem ticket_accepted {ticket : Ticket}
    (haccepted : ticket_refused crypto env fabric network node_id frame ticket = false) :
    ticket.ipv4_address ≠ 0 ∧ Admits crypto fabric.identity network.standing node_id ticket env.now_unix_s := by
  unfold ticket_refused at haccepted
  cases hissuer : find_issuer fabric ticket.issuer_key_id with
  | none => simp [hissuer] at haccepted
  | some issuer =>
    rw [hissuer] at haccepted
    have hfields := of_decide_eq_false haccepted
    simp only [not_or, not_not] at hfields
    obtain ⟨hverify, hmesh, huid, hgeneration, hpolicy, hnode, _⟩ := hfields
    have hverified := membership_ticket_verify_v1_eq_ok hverify
    exact ⟨hverified.address, ⟨issuer, find_issuer_eq_some hissuer, hverified⟩, hmesh, huid, hgeneration, hpolicy, hnode⟩

theorem open_authorized (hopen : open_refused fabric network node_id frame = false) :
    node_id ∈ network.authorized_peer_node_ids := by
  have hfields := of_decide_eq_false hopen
  have hpeer := (not_or.mp (not_or.mp hfields).2).1
  simpa [peer_authorized] using hpeer

theorem address_free (hinv : fabric.Inv crypto) {uid : NetworkUid} {address : UInt32} (hne : address ≠ 0)
    (howner : (find_binding fabric uid none address).any (fun owner => owner.node_id ≠ node_id) = false) :
    ∀ other ∈ fabric.bindings, other.network = uid → other.node_id ≠ node_id → other.ipv4_address ≠ address := by
  intro other hother hnetwork hnode haddress
  cases hfind : find_binding fabric uid none address with
  | none => exact find_binding_address_none hne hfind other hother hnetwork haddress
  | some owner =>
    rw [hfind] at howner
    have howned : owner.node_id = node_id := by simpa using howner
    obtain ⟨hmem, huid, howns⟩ := find_binding_address hfind
    have hapart := hinv.apart hother hmem fun heq => hnode (heq ▸ howned)
    exact (hapart.2 (hnetwork.trans huid.symm)).2 (haddress.trans howns.symm)

theorem refines_accept_open (hinv : fabric.Inv crypto) (node_id : NodeId) (frame : FrameView) :
    Refines crypto fabric (accept_open crypto env fabric node_id frame).2.1 := by
  unfold accept_open
  cases hfind : find fabric frame.network_uid with
  | none => exact .refl
  | some network =>
    refine .exit fun hopen => ?_
    cases hdecode : ticket_decode frame.payload with
    | error result => exact .refl
    | ok ticket =>
      refine .exit fun hticket => .exit fun howner => ?_
      rw [Bool.not_eq_true] at hopen hticket howner
      obtain ⟨haddress, hadmits⟩ := ticket_accepted hticket
      have hfree := address_free hinv haddress howner
      have hstanding : network.standing ∈ fabric.registry.standings := List.mem_map_of_mem (find_eq_some hfind).1
      have hpeer := open_authorized hopen
      cases hbinding : find_binding fabric network.uid (some node_id) 0 with
      | none =>
        refine .guard (fun _ => .of_eq rfl) fun hroom => .exit fun _ => ?_
        refine .single (.bind _ rfl (Nat.lt_of_not_ge hroom) ⟨network.standing, hstanding, rfl, hpeer, ?_⟩ ?_)
        · exact ⟨ticket, env.now_unix_s, hadmits, rfl, rfl⟩
        · intro other hother hnetwork
          have hnode := find_binding_node_none hbinding other hother hnetwork
          exact ⟨hnode, hfree other hother hnetwork hnode⟩
      | some binding =>
        obtain ⟨hmem, huid, hnode⟩ := find_binding_node hbinding
        refine .exit fun hstale => .exit fun _ => ?_
        obtain ⟨hmembership, hkey⟩ := not_or.mp hstale
        rw [UInt64.not_lt] at hmembership hkey
        refine .single (.update binding _ hmem ⟨rfl, hmembership, hkey, fun hsame hsame' => ?_⟩ rfl rfl
          ⟨network.standing, hstanding, huid.symm, hnode ▸ hpeer, ?_⟩ ?_)
        · have hkept : ¬(ticket.membership_generation > binding.membership_generation ∨
              ticket.node_key_epoch > binding.node_key_epoch) := by
            rintro (hlater | hlater)
            · exact UInt64.ne_of_lt hlater hsame
            · exact UInt64.ne_of_lt hlater hsame'
          simp [Ticket.bind, hkept]
        · exact ⟨ticket, env.now_unix_s, hnode ▸ hadmits, rfl, rfl⟩
        · intro other hother hnetwork hother'
          exact hfree other hother (hnetwork.trans huid) (hnode ▸ hother')

/-- The fabric after a DATA frame was accepted and before it is handed on. -/
def accepted_data (fabric : Fabric) (network : Network) (binding : Binding) (frame : FrameView) : Fabric :=
  (fabric.set_binding { binding with last_rx_sequence := frame.sequence }).set_network
    { network with
      packets_rx := network.packets_rx + 1, bytes_rx := network.bytes_rx + UInt64.ofNat frame.payload.length
      routed_packets_rx := if frame.destination_ipv4 ≠ network.local_membership.ipv4_address then
        network.routed_packets_rx + 1 else network.routed_packets_rx }

/-- A DATA frame that passes every check, the one of its sequence included. -/
structure DataAccepted (env : Env) (fabric : Fabric) (node_id : NodeId) (frame : FrameView) (network : Network)
    (binding : Binding) : Prop where
  found : find fabric frame.network_uid = some network
  bound : find_binding fabric network.uid (some node_id) 0 = some binding
  current : env.now_unix_s ≤ binding.not_after_unix_s
  checked : data_refused fabric network binding node_id frame = false
  sequence : binding.last_rx_sequence < frame.sequence

/-- What `accept_data` can do: count, drop an expired binding, or accept a
frame that passes every check. -/
inductive DataOutcome (crypto : Crypto) (env : Env) (callback : List (Env × Call)) (fabric : Fabric) (node_id : NodeId)
    (frame : FrameView) : Outcome → Prop where
  | kept (result : Result) : DataOutcome crypto env callback fabric node_id frame ⟨result, fabric, [], []⟩
  | counted (result : Result) (network counted : Network) (hmem : network ∈ fabric.networks)
      (hstanding : counted.standing = network.standing) :
      DataOutcome crypto env callback fabric node_id frame ⟨result, fabric.set_network counted, [], []⟩
  | expired (result : Result) (network counted : Network) (hmem : network ∈ fabric.networks)
      (hstanding : counted.standing = network.standing) :
      DataOutcome crypto env callback fabric node_id frame
        ⟨result, (remove_bindings fabric (some network.uid) (some node_id)).set_network counted, [], []⟩
  | accepted (network : Network) (binding : Binding) (haccepted : DataAccepted env fabric node_id frame network binding) :
      DataOutcome crypto env callback fabric node_id frame ⟨.OK, accepted_data fabric network binding frame, [], []⟩
  | delivered (network : Network) (binding : Binding) (haccepted : DataAccepted env fabric node_id frame network binding)
      (entered returned : Fabric) (hentered : entered.registry = (accepted_data fabric network binding frame).registry)
      (hreturned : returned.registry = (calls crypto entered callback).1.registry) :
      DataOutcome crypto env callback fabric node_id frame
        ⟨.OK, returned, (calls crypto entered callback).2,
          [⟨network.uid, binding.node_id, frame.payload, frame.sequence, binding, env.now_unix_s⟩]⟩

theorem accept_data_outcome (crypto : Crypto) (env : Env) (callback : List (Env × Call)) (fabric : Fabric)
    (node_id : NodeId) (frame : FrameView) :
    DataOutcome crypto env callback fabric node_id frame (accept_data crypto env callback fabric node_id frame) := by
  unfold accept_data
  cases hfind : find fabric frame.network_uid with
  | none => exact .kept _
  | some network =>
    have hmem := (find_eq_some hfind).1
    refine guard_cases (fun _ => .kept _) fun _ => ?_
    cases hbinding : find_binding fabric network.uid (some node_id) 0 with
    | none => exact .counted _ network _ hmem rfl
    | some binding =>
      refine guard_cases (fun _ => .expired _ network _ hmem rfl) fun hcurrent => ?_
      refine guard_cases (fun _ => .counted _ network _ hmem rfl) fun hchecked => ?_
      refine guard_cases (fun _ => .counted _ network _ hmem rfl) fun hsequence => ?_
      refine guard_cases (fun _ => .kept _) fun _ => ?_
      have haccepted : DataAccepted env fabric node_id frame network binding :=
        ⟨hfind, hbinding, UInt64.not_lt.mp (not_or.mp hcurrent).1, by simpa using hchecked, UInt64.not_le.mp hsequence⟩
      refine guard_cases (fun _ => ?_) fun _ => .accepted network binding haccepted
      exact .delivered network binding haccepted _ _ rfl rfl

theorem refines_accepted_data (hinv : fabric.Inv crypto) {binding : Binding}
    (haccepted : DataAccepted env fabric node_id frame network binding) :
    Refines crypto fabric (accepted_data fabric network binding frame) := by
  have hsequence : Refines crypto fabric (fabric.set_binding { binding with last_rx_sequence := frame.sequence }) :=
    refines_set_binding hinv (find_binding_node haccepted.bound).1
      ⟨rfl, UInt64.le_refl _, UInt64.le_refl _, fun _ _ => UInt64.le_of_lt haccepted.sequence⟩ rfl rfl rfl rfl
  exact hsequence.trans (refines_set_network (hsequence.inv hinv) (find_eq_some haccepted.found).1 rfl)

theorem refines_accept_data (hinv : fabric.Inv crypto) (callback : List (Env × Call)) (node_id : NodeId)
    (frame : FrameView) : Refines crypto fabric (accept_data crypto env callback fabric node_id frame).fabric := by
  have houtcome := accept_data_outcome crypto env callback fabric node_id frame
  generalize accept_data crypto env callback fabric node_id frame = outcome at houtcome ⊢
  cases houtcome with
  | kept result => exact .refl
  | counted result network counted hmem hstanding => exact refines_set_network hinv hmem hstanding
  | expired result network counted hmem hstanding =>
    have hremoved : Refines crypto fabric (remove_bindings fabric (some network.uid) (some node_id)) :=
      refines_remove_bindings fabric _ _
    exact hremoved.trans (refines_set_network (hremoved.inv hinv) hmem hstanding)
  | accepted network binding haccepted => exact refines_accepted_data hinv haccepted
  | delivered network binding haccepted entered returned hentered hreturned =>
    have hstep := (refines_accepted_data hinv haccepted).trans (.of_eq hentered)
    exact hstep.trans ((refines_calls (hstep.inv hinv) callback).trans (.of_eq hreturned))

theorem refines_accept_close (node_id : NodeId) (frame : FrameView) :
    Refines crypto fabric (accept_close fabric node_id frame).2 := by
  unfold accept_close
  cases hfind : find fabric frame.network_uid with
  | none => exact .refl
  | some network =>
    exact guard_under (fun _ => .refl) fun _ => refines_remove_bindings fabric _ _

theorem refines_accept_frame (hinv : fabric.Inv crypto) (callback : List (Env × Call)) (node_id : NodeId)
    (view : FrameView) : Refines crypto fabric (accept_frame crypto env callback fabric node_id view).fabric := by
  refine guard_under (fun _ => ?_) fun _ => ?_
  · have hopened : Refines crypto fabric (accept_open crypto env fabric node_id view).2.1 :=
      refines_accept_open hinv node_id view
    refine hopened.trans (.of_eq ?_)
    dsimp only
    split <;> rfl
  refine guard_under (fun _ => refines_accept_data hinv callback node_id view) fun _ => ?_
  exact guard_under (fun _ => refines_accept_close node_id view) fun _ => .refl

/-- A message is refused as a whole or is handled as the frame that it
encodes, up to the count of the rejected frames. -/
theorem offer_message_cases (crypto : Crypto) (env : Env) (callback : List (Env × Call)) (fabric : Fabric)
    (node_id : NodeId) (frame : List UInt8) :
    (∃ refused, refused.registry = fabric.registry ∧
      offer_message_v2 crypto env callback fabric node_id frame = ⟨.OK, refused, [], []⟩) ∨
    ∃ view handled, frame_decode frame = .ok view ∧
      handled.registry = (accept_frame crypto env callback fabric node_id view).fabric.registry ∧
      offer_message_v2 crypto env callback fabric node_id frame =
        { accept_frame crypto env callback fabric node_id view with fabric := handled } := by
  unfold offer_message_v2
  by_cases hmagic : frame.length < 4 ∨ frame.take 4 ≠ FRAME_MAGIC
  · rw [if_pos hmagic]
    exact .inl ⟨fabric, rfl, rfl⟩
  rw [if_neg hmagic]
  by_cases hrunning : fabric.lifecycle ≠ .RUNNING
  · rw [if_pos hrunning]
    exact .inl ⟨fabric.reject, rfl, rfl⟩
  rw [if_neg hrunning]
  cases hdecode : frame_decode frame with
  | error result => exact .inl ⟨fabric.reject, rfl, rfl⟩
  | ok view =>
    dsimp only
    split
    · exact .inr ⟨view, (accept_frame crypto env callback fabric node_id view).fabric.reject, rfl, rfl, rfl⟩
    · exact .inr ⟨view, (accept_frame crypto env callback fabric node_id view).fabric, rfl, rfl, rfl⟩

/-- Every step of a fabric changes its registry by the registry's steps. -/
theorem refines_step (hinv : fabric.Inv crypto) (input : Input) :
    Refines crypto fabric (step crypto env fabric input).fabric := by
  cases input with
  | api request => exact refines_call hinv request
  | message node_id frame callback =>
    change Refines crypto fabric (offer_message_v2 crypto env callback fabric node_id frame).fabric
    rcases offer_message_cases crypto env callback fabric node_id frame with
      ⟨refused, hregistry, heq⟩ | ⟨view, handled, -, hregistry, heq⟩
    · rw [heq]
      exact .of_eq hregistry
    · rw [heq]
      exact (refines_accept_frame hinv callback node_id view).trans (.of_eq hregistry)

/-- A delivered packet came in a DATA frame that passed every check. -/
theorem step_delivered (hinv : fabric.Inv crypto) {input : Input} {delivery : Delivery}
    (hdelivered : delivery ∈ (step crypto env fabric input).delivered) :
    ∃ node_id bytes callback view network binding, input = .message node_id bytes callback ∧
      DataAccepted env fabric node_id view network binding ∧
      delivery = ⟨network.uid, binding.node_id, view.payload, view.sequence, binding, env.now_unix_s⟩ ∧
      (step crypto env fabric input).delivered = [delivery] ∧
      Refines crypto (accepted_data fabric network binding view) (step crypto env fabric input).fabric := by
  cases input with
  | api request => exact absurd hdelivered List.not_mem_nil
  | message node_id bytes callback =>
    refine ⟨node_id, bytes, callback, ?_⟩
    change delivery ∈ (offer_message_v2 crypto env callback fabric node_id bytes).delivered at hdelivered
    change ∃ view network binding, _ ∧ _ ∧ _ ∧
      (offer_message_v2 crypto env callback fabric node_id bytes).delivered = [delivery] ∧
      Refines crypto _ (offer_message_v2 crypto env callback fabric node_id bytes).fabric
    rcases offer_message_cases crypto env callback fabric node_id bytes with
      ⟨refused, -, heq⟩ | ⟨view, handled, -, hregistry, heq⟩
    · rw [heq] at hdelivered
      exact absurd hdelivered List.not_mem_nil
    · rw [heq] at hdelivered ⊢
      have hdata : accept_frame crypto env callback fabric node_id view =
          accept_data crypto env callback fabric node_id view := by
        unfold accept_frame at hdelivered ⊢
        split at hdelivered
        · exact absurd hdelivered List.not_mem_nil
        · rename_i hopen
          rw [if_neg hopen]
          split at hdelivered
          · rename_i hkind
            rw [if_pos hkind]
          · split at hdelivered
            · exact absurd hdelivered List.not_mem_nil
            · exact absurd hdelivered List.not_mem_nil
      rw [hdata] at hdelivered hregistry ⊢
      refine ⟨view, ?_⟩
      have houtcome := accept_data_outcome crypto env callback fabric node_id view
      generalize accept_data crypto env callback fabric node_id view = outcome at houtcome hdelivered hregistry ⊢
      cases houtcome with
      | kept | counted | expired | accepted => exact absurd hdelivered List.not_mem_nil
      | delivered network binding haccepted entered returned hentered hreturned =>
        obtain rfl := List.mem_singleton.mp hdelivered
        refine ⟨network, binding, rfl, haccepted, rfl, rfl, ?_⟩
        have hentered' : Refines crypto (accepted_data fabric network binding view) entered := .of_eq hentered
        have hinv' := hentered'.inv ((refines_accepted_data hinv haccepted).inv hinv)
        exact hentered'.trans ((refines_calls hinv' callback).trans (.of_eq (hregistry.trans hreturned)))

end frames

end turbop2p.mesh_multi_network
