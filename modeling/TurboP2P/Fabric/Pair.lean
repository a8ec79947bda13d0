import TurboP2P.Fabric.Admission
import TurboP2P.Fabric.Link

namespace turbop2p.mesh_multi_network

/-- A fabric and the frames of its partner that are on the way to it, in the
order in which they were sent. -/
structure Party where
  fabric : Fabric
  inbox : List (List UInt8)

/-- Two fabrics that are connected by the underlay. -/
structure Pair where
  a : Party
  b : Party

inductive Side where
  | a
  | b

/-- What happens at one of the parties. A frame of the partner arrives or is
lost; a message of a third node has arbitrary contents. -/
inductive Event where
  | api (request : Call)
  | arrive (callback : List (Env × Call))
  | lose
  | foreign (node_id : NodeId) (frame : List UInt8) (callback : List (Env × Call))

/-- A step of a party: what it sends to its partner is put on the way. -/
def Party.handle (crypto : Crypto) (env : Env) (party partner : Party) (input : Input) : Party × Party :=
  let outcome := step crypto env party.fabric input
  ({ party with fabric := outcome.fabric },
    { partner with
      inbox := partner.inbox ++
        (outcome.sent.filter fun frame => frame.1 = partner.fabric.local_node_id).map Prod.snd })

def Party.event (crypto : Crypto) (env : Env) (party partner : Party) : Event → Party × Party
  | .api request => party.handle crypto env partner (.api request)
  | .arrive callback =>
    match party.inbox with
    | [] => (party, partner)
    | frame :: rest =>
      Party.handle crypto env { party with inbox := rest } partner
        (.message partner.fabric.local_node_id frame callback)
  | .lose => ({ party with inbox := party.inbox.tail }, partner)
  | .foreign node_id frame callback =>
    if node_id = partner.fabric.local_node_id then (party, partner)
    else party.handle crypto env partner (.message node_id frame callback)

/-- One step of the two parties. -/
def Pair.step (crypto : Crypto) (pair : Pair) (action : Side × Env × Event) : Pair :=
  match action.1 with
  | .a => ⟨(pair.a.event crypto action.2.1 pair.b action.2.2).1, (pair.a.event crypto action.2.1 pair.b action.2.2).2⟩
  | .b => ⟨(pair.b.event crypto action.2.1 pair.a action.2.2).2, (pair.b.event crypto action.2.1 pair.a action.2.2).1⟩

/-- The sequences of the DATA frames of a network that are on the way to a
party. -/
def Party.incoming (party : Party) (uid : NetworkUid) : List UInt64 := party.inbox.filterMap (data_sequence uid)

/-- The binding of `peer` is created in a step or restarted by newer epochs. -/
def restarted (uid : NetworkUid) (peer : NodeId) (fabric fabric' : Fabric) : Bool :=
  fabric'.bindings.any fun after => after.network = uid ∧ after.node_id = peer ∧
    ∀ before ∈ fabric.bindings, before.network = uid → before.node_id = peer →
      ¬(after.record = before.record ∧ after.membership_generation = before.membership_generation ∧
        after.node_key_epoch = before.node_key_epoch)

/-- Nothing that `a` sent in the network has reached `b` under its present
binding or is on the way. -/
def unused (uid : NetworkUid) (pair : Pair) : Bool :=
  pair.b.incoming uid = [] ∧ ∀ binding ∈ pair.b.fabric.bindings, binding.network = uid →
    binding.node_id = pair.a.fabric.local_node_id → binding.last_rx_sequence = 0

/-- Whenever `a` starts its binding for `b` afresh, the direction from `a` to
`b` is unused. -/
def clean (crypto : Crypto) (uid : NetworkUid) : Pair → List (Side × Env × Event) → Bool
  | _, [] => true
  | pair, action :: actions =>
    (!restarted uid pair.b.fabric.local_node_id pair.a.fabric (pair.step crypto action).a.fabric || unused uid pair) &&
      clean crypto uid (pair.step crypto action) actions

section ordering

variable {crypto : Crypto} {uid : NetworkUid} {env : Env} {pair : Pair}

theorem Sends.mono {lower first last : UInt64} {sequences : List UInt64} (hlower : lower ≤ first)
    (hsends : Sends first sequences last) : Sends lower sequences last := by
  cases sequences with
  | nil => exact UInt64.le_trans hlower hsends
  | cons sequence rest => exact ⟨UInt64.lt_of_le_of_lt hlower hsends.1, hsends.2⟩

theorem Sends.tail {first sequence last : UInt64} {rest : List UInt64} (hsends : Sends first (sequence :: rest) last) :
    Sends first rest last :=
  hsends.2.mono (UInt64.le_of_lt hsends.1)

/-- The DATA frames from `a` to `b` are in order: those on the way follow what
`b` received and do not pass the send counter of `a`. -/
structure Ordered (crypto : Crypto) (uid : NetworkUid) (pair : Pair) : Prop where
  a_inv : pair.a.fabric.Inv crypto
  b_inv : pair.b.fabric.Inv crypto
  on_the_way : ∀ sender, Holds pair.a.fabric uid pair.b.fabric.local_node_id sender →
    Sends 0 (pair.b.incoming uid) sender.next_tx_sequence
  received : ∀ sender, Holds pair.a.fabric uid pair.b.fabric.local_node_id sender →
    ∀ receiver, Holds pair.b.fabric uid pair.a.fabric.local_node_id receiver →
      Sends receiver.last_rx_sequence (pair.b.incoming uid) sender.next_tx_sequence

theorem incoming_handle (party partner : Party) (input : Input) :
    (party.handle crypto env partner input).2.incoming uid =
      partner.incoming uid ++ data_sent uid partner.fabric.local_node_id (step crypto env party.fabric input).sent := by
  unfold Party.handle Party.incoming data_sent
  rw [List.filterMap_append, List.filterMap_map, List.filterMap_filter]
  congr 1
  refine List.filterMap_congr fun frame _ => ?_
  by_cases hpeer : frame.1 = partner.fabric.local_node_id <;> simp [hpeer]

theorem local_node_step {fabric : Fabric} (hinv : fabric.Inv crypto) (input : Input) :
    (step crypto env fabric input).fabric.local_node_id = fabric.local_node_id :=
  congrArg Identity.local_node_id (Registry.Steps.follows (refines_step hinv input)).identity

/-- A binding that does not continue an old one was created or restarted. -/
theorem restarted_of_holds {peer : NodeId} {fabric fabric' : Fabric} {after : Binding}
    (hafter : Holds fabric' uid peer after) (hnew : ∀ before, Holds fabric uid peer before → ¬Continues before after) :
    restarted uid peer fabric fabric' = true := by
  refine List.any_eq_true.mpr ⟨after, hafter.1, decide_eq_true ⟨hafter.2.1, hafter.2.2, ?_⟩⟩
  exact fun before hbefore hnetwork hnode => hnew before ⟨hbefore, hnetwork, hnode⟩

section

variable (hordered : Ordered crypto uid pair)

include hordered

/-- A step of `a` keeps the order, if it restarts its binding only when the
direction is unused. -/
theorem Ordered.sender (input : Input) (inbox : List (List UInt8))
    (hclean : restarted uid pair.b.fabric.local_node_id pair.a.fabric
      (step crypto env pair.a.fabric input).fabric = true → unused uid pair = true) :
    Ordered crypto uid ⟨(Party.handle crypto env ⟨pair.a.fabric, inbox⟩ pair.b input).1,
      (Party.handle crypto env ⟨pair.a.fabric, inbox⟩ pair.b input).2⟩ := by
  have hstep : LinkStep uid pair.b.fabric.local_node_id pair.a.fabric (step crypto env pair.a.fabric input).fabric _ _ :=
    link_step hordered.a_inv input
  have hlocal : (step crypto env pair.a.fabric input).fabric.local_node_id = pair.a.fabric.local_node_id :=
    local_node_step hordered.a_inv input
  refine ⟨(refines_step hordered.a_inv input).inv hordered.a_inv, hordered.b_inv, ?_, ?_⟩
  · intro sender hsender
    rw [incoming_handle]
    rcases hstep sender hsender with ⟨hnone, hzero, -, hnew⟩ | ⟨before, hbefore, -, hsends, -⟩
    · obtain ⟨hincoming, -⟩ := of_decide_eq_true (hclean (restarted_of_holds hsender hnew))
      rw [hnone, hincoming, hzero]
      exact UInt64.le_refl _
    · exact (hordered.on_the_way before hbefore).append hsends
  · intro sender hsender receiver hreceiver
    rw [incoming_handle]
    have hholds : Holds pair.b.fabric uid pair.a.fabric.local_node_id receiver := hlocal ▸ hreceiver
    rcases hstep sender hsender with ⟨hnone, hzero, -, hnew⟩ | ⟨before, hbefore, -, hsends, -⟩
    · obtain ⟨hincoming, hfresh⟩ := of_decide_eq_true (hclean (restarted_of_holds hsender hnew))
      rw [hnone, hincoming, hzero, hfresh receiver hholds.1 hholds.2.1 hholds.2.2]
      exact UInt64.le_refl _
    · exact (hordered.received before hbefore receiver hholds).append hsends

/-- A step of `b` keeps the order. What it receives as DATA frame from `a` is
the first one on the way. -/
theorem Ordered.receiver (input : Input) (inbox : List (List UInt8))
    (hincoming : pair.b.incoming uid = (input.data_received uid pair.a.fabric.local_node_id).toList ++
      inbox.filterMap (data_sequence uid)) :
    Ordered crypto uid ⟨(Party.handle crypto env ⟨pair.b.fabric, inbox⟩ pair.a input).2,
      (Party.handle crypto env ⟨pair.b.fabric, inbox⟩ pair.a input).1⟩ := by
  have hstep : LinkStep uid pair.a.fabric.local_node_id pair.b.fabric (step crypto env pair.b.fabric input).fabric _ _ :=
    link_step hordered.b_inv input
  have hlocal : (step crypto env pair.b.fabric input).fabric.local_node_id = pair.b.fabric.local_node_id :=
    local_node_step hordered.b_inv input
  have hrest : ∀ first last, Sends first (pair.b.incoming uid) last →
      Sends first (inbox.filterMap (data_sequence uid)) last := by
    intro first last hsends
    rw [hincoming] at hsends
    cases hreceived : input.data_received uid pair.a.fabric.local_node_id with
    | none => simpa [hreceived] using hsends
    | some sequence =>
      rw [hreceived] at hsends
      exact Sends.tail hsends
  refine ⟨hordered.a_inv, (refines_step hordered.b_inv input).inv hordered.b_inv, ?_, ?_⟩
  · intro sender hsender
    exact hrest _ _ (hordered.on_the_way sender (hlocal ▸ hsender))
  · intro sender hsender receiver hreceiver
    have hholds : Holds pair.a.fabric uid pair.b.fabric.local_node_id sender := hlocal ▸ hsender
    rcases hstep receiver hreceiver with ⟨-, -, hzero, -⟩ | ⟨before, hbefore, -, -, hsame | hreceived⟩
    · rw [hzero]
      exact hrest _ _ (hordered.on_the_way sender hholds)
    · rw [hsame]
      exact hrest _ _ (hordered.received sender hholds before hbefore)
    · have hsends := hordered.received sender hholds before hbefore
      rw [hincoming, hreceived] at hsends
      exact hsends.2

theorem Ordered.lose_b : Ordered crypto uid ⟨pair.a, { pair.b with inbox := pair.b.inbox.tail }⟩ := by
  have hrest : ∀ first last, Sends first (pair.b.incoming uid) last →
      Sends first (pair.b.inbox.tail.filterMap (data_sequence uid)) last := by
    intro first last hsends
    unfold Party.incoming at hsends
    cases hinbox : pair.b.inbox with
    | nil => simpa [hinbox] using hsends
    | cons frame rest =>
      rw [hinbox, List.filterMap_cons] at hsends
      cases hsequence : data_sequence uid frame with
      | none => simpa [hsequence] using hsends
      | some sequence =>
        rw [hsequence] at hsends
        exact Sends.tail hsends
  exact ⟨hordered.a_inv, hordered.b_inv, fun sender hsender => hrest _ _ (hordered.on_the_way sender hsender),
    fun sender hsender receiver hreceiver => hrest _ _ (hordered.received sender hsender receiver hreceiver)⟩

/-- Every step of the pair keeps the order, if `a` restarts its binding only
when the direction is unused. -/
theorem Ordered.step (action : Side × Env × Event)
    (hclean : restarted uid pair.b.fabric.local_node_id pair.a.fabric (pair.step crypto action).a.fabric = true →
      unused uid pair = true) :
    Ordered crypto uid (pair.step crypto action) := by
  obtain ⟨side, env, event⟩ := action
  cases side with
  | a =>
    cases event with
    | api request => exact hordered.sender (.api request) pair.a.inbox hclean
    | arrive callback =>
      unfold Pair.step Party.event at hclean ⊢
      cases hinbox : pair.a.inbox with
      | nil => exact hordered
      | cons frame rest =>
        rw [hinbox] at hclean
        exact hordered.sender (.message pair.b.fabric.local_node_id frame callback) rest hclean
    | lose => exact ⟨hordered.a_inv, hordered.b_inv, hordered.on_the_way, hordered.received⟩
    | foreign node_id frame callback =>
      unfold Pair.step Party.event at hclean ⊢
      dsimp only at hclean ⊢
      by_cases hpartner : node_id = pair.b.fabric.local_node_id
      · rw [if_pos hpartner]
        exact hordered
      · rw [if_neg hpartner] at hclean ⊢
        exact hordered.sender (.message node_id frame callback) pair.a.inbox hclean
  | b =>
    cases event with
    | api request => exact hordered.receiver (.api request) pair.b.inbox rfl
    | arrive callback =>
      unfold Pair.step Party.event
      cases hinbox : pair.b.inbox with
      | nil => exact hordered
      | cons frame rest =>
        refine hordered.receiver (.message pair.a.fabric.local_node_id frame callback) rest ?_
        unfold Party.incoming Input.data_received
        dsimp only
        rw [hinbox, List.filterMap_cons, if_pos rfl]
        cases data_sequence uid frame <;> rfl
    | lose => exact hordered.lose_b
    | foreign node_id frame callback =>
      unfold Pair.step Party.event
      dsimp only
      by_cases hpartner : node_id = pair.a.fabric.local_node_id
      · rw [if_pos hpartner]
        exact hordered
      · rw [if_neg hpartner]
        refine hordered.receiver (.message node_id frame callback) pair.b.inbox ?_
        unfold Input.data_received
        dsimp only
        rw [if_neg hpartner]
        rfl

end

theorem Ordered.run (actions : List (Side × Env × Event)) {pair : Pair} (hordered : Ordered crypto uid pair)
    (hclean : clean crypto uid pair actions = true) :
    Ordered crypto uid (Machine.run (Pair.step crypto) pair actions) := by
  induction actions generalizing pair with
  | nil => exact hordered
  | cons action actions ih =>
    simp only [clean, Bool.and_eq_true, Bool.or_eq_true, Bool.not_eq_true'] at hclean
    refine ih (hordered.step action fun hrestarted => ?_) hclean.2
    exact hclean.1.resolve_left (by simp [hrestarted])

end ordering

/-- Two fabrics that were just created. -/
def created (a b : Fabric) : Pair := ⟨⟨a, []⟩, ⟨b, []⟩⟩

/-- The DATA frames from `a` to `b` are not taken for replayed ones. In every
run in which `a` starts its binding for `b` afresh only when `b` has
received nothing under its binding and no DATA frame is on the way, no
DATA frame that reaches `b` while `a` has a binding for it is rejected as
replayed. -/
theorem data_not_replayed (crypto : Crypto) (config config' : Config) (a b : Fabric) (uid : NetworkUid)
    (ha : fabric_create_v2 config = .ok a) (hb : fabric_create_v2 config' = .ok b)
    (actions : List (Side × Env × Event)) (hclean : clean crypto uid (created a b) actions = true) :
    let pair := Machine.run (Pair.step crypto) (created a b) actions
    ∀ sender frame rest view env callback, Holds pair.a.fabric uid pair.b.fabric.local_node_id sender →
      pair.b.inbox = frame :: rest → frame_decode frame = .ok view → view.kind = FRAME_KIND_DATA →
      view.network_uid = uid →
      (offer_message_v2 crypto env callback pair.b.fabric pair.a.fabric.local_node_id frame).result ≠ .STALE_EPOCH := by
  intro pair sender frame rest view env callback hsender hinbox hdecode hkind huid hstale
  have hstart : Ordered crypto uid (created a b) := by
    obtain ⟨hinv, -, hbindings⟩ := fabric_create_inv crypto ha
    refine ⟨hinv, (fabric_create_inv crypto hb).1, fun sender hsender => ?_, fun sender hsender => ?_⟩
    · exact absurd (hbindings ▸ hsender.1) List.not_mem_nil
    · exact absurd (hbindings ▸ hsender.1) List.not_mem_nil
  have hordered : Ordered crypto uid pair := hstart.run actions hclean
  rcases offer_message_cases crypto env callback pair.b.fabric pair.a.fabric.local_node_id frame with
    ⟨refused, -, heq⟩ | ⟨decoded, handled, hdecoded, -, heq⟩
  · rw [heq] at hstale
    cases hstale
  · obtain rfl : view = decoded := Except.ok.inj (hdecode.symm.trans hdecoded)
    rw [heq] at hstale
    unfold accept_frame at hstale
    rw [if_neg (by rw [hkind]; decide), if_pos hkind] at hstale
    obtain ⟨receiver, hreceiver, hpassed⟩ := accept_data_stale hstale
    have hsends := hordered.received sender hsender receiver (huid ▸ hreceiver)
    have hsequence : data_sequence uid frame = some view.sequence := by
      simp [data_sequence, hdecode, hkind, huid]
    unfold Party.incoming at hsends
    rw [hinbox, List.filterMap_cons, hsequence] at hsends
    exact UInt64.not_lt.mpr hpassed hsends.1

section samples

/-- The two parties with nodes 1 and 2. -/
def sample_pair : Pair := created sample_fabric { sample_fabric with local_node_id := sample_node 2 }

def partner_spec : Spec :=
  { sample_spec [] with local_membership := sample_ticket 2 2 1, authorized_peer_node_ids := [sample_node 1] }

def at_a (event : Event) : Side × Env × Event := (.a, sample_env, event)
def at_b (event : Event) : Side × Env × Event := (.b, sample_env, event)

/-- Both parties attach the network and open it to each other. -/
def opening : List (Side × Env × Event) :=
  [at_a (.api (.start .OK)), at_a (.api (.attach (sample_spec []))), at_b (.api (.start .OK)),
    at_b (.api (.attach partner_spec)), at_a (.api (.peer_ready (sample_node 2))), at_b (.arrive []), at_a (.arrive []),
    at_b (.arrive [])]

def send_data : Side × Env × Event :=
  at_a (.api (.send_packet sample_uid (sample_packet 0x0A000001 0x0A000002) 1))

/-- After a packet arrived, `a` sees its connection closed and `b` sees it
ready again; both hold bindings at the end. -/
def reopening : List (Side × Env × Event) :=
  opening ++ [send_data, at_b (.arrive []), at_a (.api (.peer_closed (sample_node 2))),
    at_b (.api (.peer_ready (sample_node 1))), at_a (.arrive []), at_b (.arrive [])]

def run_pair (actions : List (Side × Env × Event)) : Pair :=
  Machine.run (Pair.step (sample_crypto fun _ => true)) sample_pair actions

/-- Both parties hold an active binding for each other after they opened the
network again; the next packet of `a` is rejected as replayed. -/
theorem reopened_data_replayed :
    (run_pair reopening).a.fabric.bindings.map (fun binding => (binding.node_id, binding.active)) =
        [(sample_node 2, true)] ∧
      (run_pair reopening).b.fabric.bindings.map (fun binding => (binding.node_id, binding.active)) =
        [(sample_node 1, true)] ∧
      (run_pair reopening).b.inbox = [] ∧
      (run_pair (reopening ++ [send_data])).b.inbox.map (fun frame => (offer_message_v2 (sample_crypto fun _ => true)
        sample_env [] (run_pair (reopening ++ [send_data])).b.fabric (sample_node 1) frame).result) =
        [.STALE_EPOCH] := by
  decide +kernel

/-- The first packet after both parties opened the network is not. -/
theorem first_data_not_replayed :
    ∃ frame, (run_pair (opening ++ [send_data])).b.inbox = [frame] ∧
      (offer_message_v2 (sample_crypto fun _ => true) sample_env [] (run_pair (opening ++ [send_data])).b.fabric
        (run_pair (opening ++ [send_data])).a.fabric.local_node_id frame).result ≠ .STALE_EPOCH := by
  have hclean : clean (sample_crypto fun _ => true) sample_uid sample_pair (opening ++ [send_data]) = true := by
    decide +kernel
  have hrun : ((run_pair (opening ++ [send_data])).a.fabric.bindings.map fun binding =>
        (binding.network, binding.node_id)) = [(sample_uid, (run_pair (opening ++ [send_data])).b.fabric.local_node_id)] ∧
      ((run_pair (opening ++ [send_data])).b.inbox.map fun frame =>
        (frame_decode frame).map fun view => (view.kind, view.network_uid)) = [.ok (FRAME_KIND_DATA, sample_uid)] := by
    decide +kernel
  have hnot := data_not_replayed (sample_crypto fun _ => true) sample_config
    { sample_config with local_node_id := sample_node 2 } sample_fabric
    { sample_fabric with local_node_id := sample_node 2 } sample_uid rfl rfl (opening ++ [send_data]) hclean
  generalize hpair : run_pair (opening ++ [send_data]) = pair at hrun ⊢
  rw [show Machine.run (Pair.step (sample_crypto fun _ => true))
    (created sample_fabric { sample_fabric with local_node_id := sample_node 2 }) (opening ++ [send_data]) = pair
    from hpair] at hnot
  obtain ⟨hbindings, hframes⟩ := hrun
  obtain ⟨frame, hinbox, hframe⟩ := List.map_eq_singleton_iff.mp hframes
  obtain ⟨sender, hsenders, hsender⟩ := List.map_eq_singleton_iff.mp hbindings
  obtain ⟨view, hdecode, hview⟩ := except_map_eq_ok.mp hframe
  obtain ⟨hkind, huid⟩ := Prod.mk.inj hview
  obtain ⟨hnetwork, hnode⟩ := Prod.mk.inj hsender
  have hholds : Holds pair.a.fabric sample_uid pair.b.fabric.local_node_id sender := by
    refine ⟨?_, hnetwork, hnode⟩
    rw [hsenders]
    exact List.mem_cons_self
  exact ⟨frame, hinbox, hnot sender frame [] view sample_env [] hholds hinbox hdecode hkind huid⟩

end samples

end turbop2p.mesh_multi_network
