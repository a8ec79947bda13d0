import TurboP2P.Fabric.Delivery

open Codec

namespace turbop2p.mesh_multi_network

def data_sequence (uid : NetworkUid) (frame : List UInt8) : Option UInt64 :=
  match frame_decode frame with
  | .error _ => none
  | .ok view => if view.kind = FRAME_KIND_DATA ∧ view.network_uid = uid then some view.sequence else none

def data_sent (uid : NetworkUid) (peer : NodeId) (sent : Sent) : List UInt64 :=
  sent.filterMap fun frame => if frame.1 = peer then data_sequence uid frame.2 else none

/-- `binding` is the one that a fabric holds for a peer in a network. -/
def Holds (fabric : Fabric) (uid : NetworkUid) (peer : NodeId) (binding : Binding) : Prop :=
  binding ∈ fabric.bindings ∧ binding.network = uid ∧ binding.node_id = peer

/-- The same record in the same membership generation and key epoch. -/
def Continues (before after : Binding) : Prop :=
  after.record = before.record ∧ after.membership_generation = before.membership_generation ∧
    after.node_key_epoch = before.node_key_epoch

/-- Sequences that increase between two values of the send counter. -/
def Sends (first : UInt64) : List UInt64 → UInt64 → Prop
  | [], last => first ≤ last
  | sequence :: rest, last => first < sequence ∧ Sends sequence rest last

variable {left right : List UInt64}

theorem Sends.append {first middle last : UInt64} (hleft : Sends first left middle) (hright : Sends middle right last) :
    Sends first (left ++ right) last := by
  induction left generalizing first with
  | nil =>
    cases right with
    | nil => exact UInt64.le_trans hleft hright
    | cons sequence rest => exact ⟨UInt64.lt_of_le_of_lt hleft hright.1, hright.2⟩
  | cons sequence left ih => exact ⟨hleft.1, ih hleft.2⟩

/-- What a fabric does with a binding that it neither creates nor restarts: it
sends DATA frames in order, and its receive sequence stays or is the one
of the DATA frame that it received. -/
def LinkKept (uid : NetworkUid) (peer : NodeId) (fabric fabric' : Fabric) (received : Option UInt64)
    (sent : List UInt64) : Prop :=
  ∀ after, Holds fabric' uid peer after → ∃ before, Holds fabric uid peer before ∧ Continues before after ∧
    Sends before.next_tx_sequence sent after.next_tx_sequence ∧
    (after.last_rx_sequence = before.last_rx_sequence ∨ received = some after.last_rx_sequence)

theorem LinkKept.trans {uid : NetworkUid} {peer : NodeId} {first second third : Fabric} {received : Option UInt64}
    (hleft : LinkKept uid peer first second received left) (hright : LinkKept uid peer second third none right) :
    LinkKept uid peer first third received (left ++ right) := by
  intro last hlast
  obtain ⟨middle, hmiddle, hcontinues, hsends, hreceive⟩ := hright last hlast
  obtain ⟨before, hbefore, hcontinues', hsends', hreceive'⟩ := hleft middle hmiddle
  have hsame : last.last_rx_sequence = middle.last_rx_sequence := hreceive.resolve_right nofun
  refine ⟨before, hbefore, ⟨hcontinues.1.trans hcontinues'.1, hcontinues.2.1.trans hcontinues'.2.1,
    hcontinues.2.2.trans hcontinues'.2.2⟩, hsends'.append hsends, ?_⟩
  rw [hsame]
  exact hreceive'

section frames

variable {uid : NetworkUid} {peer : NodeId} {env : Env} {fabric fabric' : Fabric}

variable {view : FrameView}

theorem frame_decode_bytes {decoded : FrameView} (hok : frame_decode view.bytes = .ok decoded) :
    decoded.kind = view.kind ∧ decoded.network_uid = view.network_uid ∧ decoded.sequence = view.sequence := by
  iterate 5 obtain ⟨_, hok⟩ := guard_passed hok
  cases hok
  simp [FrameView.bytes, FRAME_MAGIC, drop_append_field]

/-- Only the DATA frames of the network carry a sequence. -/
theorem data_sequence_bytes {sequence : UInt64} (hsome : data_sequence uid view.bytes = some sequence) :
    view.kind = FRAME_KIND_DATA ∧ view.network_uid = uid ∧ view.sequence = sequence := by
  unfold data_sequence at hsome
  cases hdecode : frame_decode view.bytes with
  | error result =>
    rw [hdecode] at hsome
    cases hsome
  | ok decoded =>
    rw [hdecode] at hsome
    obtain ⟨hkind, huid, hsequence⟩ := frame_decode_bytes hdecode
    rw [Option.ite_none_right_eq_some] at hsome
    obtain ⟨⟨hdata, hnetwork⟩, hsame⟩ := hsome
    exact ⟨hkind.symm.trans hdata, huid.symm.trans hnetwork, hsequence.symm.trans (Option.some.inj hsame)⟩

/-- At most the frame itself is handed to the underlay. -/
theorem send_frame_sent (env : Env) (node_id : NodeId) (view : FrameView) :
    (send_frame env node_id view).2 = [] ∨ (send_frame env node_id view).2 = [(node_id, view.bytes)] := by
  unfold send_frame
  cases hencode : frame_encode view with
  | error result => exact .inl rfl
  | ok bytes =>
    obtain ⟨_, hencode⟩ := guard_passed hencode
    obtain ⟨_, hencode⟩ := guard_passed hencode
    cases hencode
    dsimp only
    split
    · exact .inr rfl
    · exact .inl rfl

/-- No DATA frame is among the frames that were sent. -/
def Quiet (sent : Sent) : Prop := ∀ frame ∈ sent, ∀ uid, data_sequence uid frame.2 = none

theorem Quiet.data_sent {sent : Sent} (hquiet : Quiet sent) (uid : NetworkUid) (peer : NodeId) :
    data_sent uid peer sent = [] := by
  refine List.filterMap_eq_nil_iff.mpr fun frame hframe => ?_
  rw [hquiet frame hframe uid, ite_self]

theorem quiet_nil : Quiet [] := fun _ hmem => absurd hmem List.not_mem_nil

theorem Quiet.append {left right : Sent} (hleft : Quiet left) (hright : Quiet right) : Quiet (left ++ right) := by
  intro frame hframe
  rcases List.mem_append.mp hframe with hframe | hframe
  · exact hleft frame hframe
  · exact hright frame hframe

theorem quiet_flatMap {α : Type} {items : List α} {send : α → Sent} (hquiet : ∀ item, Quiet (send item)) :
    Quiet (items.flatMap send) := by
  intro frame hframe
  obtain ⟨item, -, hmem⟩ := List.mem_flatMap.mp hframe
  exact hquiet item frame hmem

theorem quiet_send_frame {node_id : NodeId} (hkind : view.kind ≠ FRAME_KIND_DATA) :
    Quiet (send_frame env node_id view).2 := by
  intro frame hframe uid
  rcases send_frame_sent env node_id view with hnone | hone
  · rw [hnone] at hframe
    exact absurd hframe List.not_mem_nil
  · rw [hone] at hframe
    rw [List.mem_singleton.mp hframe, Option.eq_none_iff_forall_ne_some]
    intro sequence hsome
    exact hkind (data_sequence_bytes hsome).1

variable (fabric : Fabric) (network : Network)

theorem quiet_send_open (node_id : NodeId) :
    Quiet (send_open_to_peer env fabric network node_id).2 := by
  exact guard_under (fun _ => quiet_nil) fun _ => quiet_send_frame (show FRAME_KIND_OPEN ≠ FRAME_KIND_DATA by decide)

theorem quiet_visit_send_open : Quiet (visit_send_open env fabric network) :=
  guard_cases (P := Quiet) (fun _ => quiet_flatMap fun _ => quiet_send_open fabric network _) fun _ => quiet_nil

theorem quiet_send_close (binding : Binding) :
    Quiet (send_close env fabric network binding) :=
  guard_cases (P := Quiet) (fun _ => quiet_send_frame (show FRAME_KIND_CLOSE ≠ FRAME_KIND_DATA by decide))
    fun _ => quiet_nil

theorem quiet_send_closes : Quiet (send_closes env fabric network) :=
  quiet_flatMap fun binding => guard_cases (P := Quiet) (fun _ => quiet_send_close fabric network binding)
    fun _ => quiet_nil

end frames

section calls

variable {crypto : Crypto} {uid : NetworkUid} {peer : NodeId} {env : Env} {fabric fabric' : Fabric}

variable {sent : Sent} {binding : Binding}

/-- A call that sends no DATA frame and adds or changes no binding. -/
theorem LinkKept.of_subset (hsubset : ∀ binding ∈ fabric'.bindings, binding ∈ fabric.bindings) (hquiet : Quiet sent)
    (received : Option UInt64) : LinkKept uid peer fabric fabric' received (data_sent uid peer sent) := by
  intro after hafter
  rw [hquiet.data_sent]
  exact ⟨after, ⟨hsubset after hafter.1, hafter.2⟩, ⟨rfl, rfl, rfl⟩, UInt64.le_refl _, .inl rfl⟩

/-- What a call leaves, with the binding of the peer kept. -/
abbrev Kept (uid : NetworkUid) (peer : NodeId) (fabric : Fabric) (outcome : Result × Fabric × Sent) : Prop :=
  LinkKept uid peer fabric outcome.2.1 none (data_sent uid peer outcome.2.2)

theorem Kept.quiet {result : Result} (hsubset : ∀ binding ∈ fabric'.bindings, binding ∈ fabric.bindings)
    (hquiet : Quiet sent) : Kept uid peer fabric (result, fabric', sent) :=
  LinkKept.of_subset hsubset hquiet none

theorem Kept.same (result : Result) : Kept uid peer fabric (result, fabric, []) :=
  .quiet (fun _ hmem => hmem) quiet_nil

theorem mem_remove_bindings {network : Option NetworkUid} {node_id : Option NodeId} :
    ∀ binding ∈ (remove_bindings fabric network node_id).bindings, binding ∈ fabric.bindings :=
  fun _ hmem => List.mem_of_mem_filter hmem

theorem kept_attach (spec : Spec) : Kept uid peer fabric (attach_network_v2 crypto env fabric spec) := by
  refine guard_cases (fun _ => .same _) fun _ => guard_cases (fun _ => .same _) fun _ => ?_
  refine guard_cases (fun _ => .same _) fun _ => guard_cases (fun _ => .same _) fun _ => ?_
  refine guard_cases (fun _ => .quiet (fun _ hmem => hmem) quiet_nil) fun _ => ?_
  iterate 3 refine guard_cases (fun _ => .same _) fun _ => guard_cases (fun _ => .same _) fun _ => ?_
  exact .quiet (fun _ hmem => hmem) (quiet_visit_send_open fabric spec.network)

theorem kept_apply_snapshot (network_uid : NetworkUid) (expected_generation : UInt64) (spec : Spec) :
    Kept uid peer fabric (apply_snapshot_v2 crypto env fabric network_uid expected_generation spec) := by
  unfold apply_snapshot_v2
  cases hfind : find fabric network_uid with
  | none => exact .same _
  | some network =>
    iterate 5 refine guard_cases (fun _ => .same _) fun _ => guard_cases (fun _ => .same _) fun _ => ?_
    exact .quiet mem_remove_bindings ((quiet_send_closes fabric network).append (quiet_visit_send_open fabric _))

theorem kept_detach (network_uid : NetworkUid) (drain_timeout_ms : UInt64) :
    Kept uid peer fabric (detach_network_v2 env fabric network_uid drain_timeout_ms) := by
  refine guard_cases (fun _ => .same _) fun _ => guard_cases (fun _ => .same _) fun _ => ?_
  cases hfind : find fabric network_uid with
  | none => exact .same _
  | some network => exact .quiet mem_remove_bindings (quiet_send_closes fabric network)

theorem mem_set_binding {after : Binding} (hafter : after ∈ (fabric.set_binding binding).bindings) :
    after = binding ∨ after ∈ fabric.bindings ∧ after.record ≠ binding.record := by
  obtain ⟨old, hold, rfl⟩ := List.mem_map.mp hafter
  by_cases hrecord : old.record = binding.record
  · exact .inl (if_pos hrecord)
  · rw [if_neg hrecord]
    exact .inr ⟨hold, hrecord⟩

theorem Holds.unique (hinv : fabric.Inv crypto) {left right : Binding} (hleft : Holds fabric uid peer left)
    (hright : Holds fabric uid peer right) : left = right := by
  by_contra hne
  have hapart := hinv.apart hleft.1 hright.1 hne
  exact (hapart.2 (hleft.2.1.trans hright.2.1.symm)).1 (hleft.2.2.trans hright.2.2.symm)

theorem data_sent_send_frame (uid : NetworkUid) (peer node_id : NodeId) (view : FrameView) :
    data_sent uid peer (send_frame env node_id view).2 = [] ∨
      node_id = peer ∧ view.network_uid = uid ∧
        data_sent uid peer (send_frame env node_id view).2 = [view.sequence] := by
  rcases send_frame_sent env node_id view with hnone | hone
  · rw [hnone]
    exact .inl rfl
  · rw [hone, data_sent, List.filterMap_cons, List.filterMap_nil]
    by_cases hnode : node_id = peer
    · simp only [if_pos hnode]
      cases hsequence : data_sequence uid view.bytes with
      | none => exact .inl rfl
      | some sequence =>
        obtain ⟨-, huid, rfl⟩ := data_sequence_bytes hsequence
        exact .inr ⟨hnode, huid, rfl⟩
    · simp only [if_neg hnode]
      exact .inl trivial

/-- Sending a DATA frame under a binding counts it there. -/
theorem kept_counted (hinv : fabric.Inv crypto) {network : Network} (packet : List UInt8)
    (hmem : binding ∈ fabric.bindings) (hnetwork : binding.network = network.uid)
    (hroom : binding.next_tx_sequence ≠ 0xFFFFFFFFFFFFFFFF) :
    LinkKept uid peer fabric (fabric.set_binding { binding with next_tx_sequence := binding.next_tx_sequence + 1 })
      none (data_sent uid peer (send_frame env binding.node_id (data_frame fabric network binding packet)).2) := by
  intro after hafter
  have hlt : binding.next_tx_sequence < binding.next_tx_sequence + 1 := by
    rw [UInt64.lt_iff_toNat_lt]
    have hbound := binding.next_tx_sequence.toNat_lt
    have hne : binding.next_tx_sequence.toNat ≠ 18446744073709551615 := fun h => hroom (UInt64.toNat_inj.mp h)
    simp only [UInt64.toNat_add, UInt64.toNat_one]
    omega
  rcases mem_set_binding hafter.1 with rfl | ⟨hother, hrecord⟩
  · refine ⟨binding, ⟨hmem, hafter.2⟩, ⟨rfl, rfl, rfl⟩, ?_, .inl rfl⟩
    rcases data_sent_send_frame uid peer binding.node_id (data_frame fabric network binding packet) with
      hnone | ⟨-, -, hone⟩
    · rw [hnone]
      exact UInt64.le_of_lt hlt
    · rw [hone]
      exact ⟨hlt, UInt64.le_refl _⟩
  · refine ⟨after, ⟨hother, hafter.2⟩, ⟨rfl, rfl, rfl⟩, ?_, .inl rfl⟩
    rcases data_sent_send_frame uid peer binding.node_id (data_frame fabric network binding packet) with
      hnone | ⟨hnode, huid, -⟩
    · rw [hnone]
      exact UInt64.le_refl _
    · have hsame := Holds.unique hinv ⟨hother, hafter.2⟩ ⟨hmem, hnetwork.trans huid, hnode⟩
      exact absurd (congrArg Binding.record hsame) hrecord

theorem kept_send_packet (hinv : fabric.Inv crypto) (network_uid : NetworkUid) (packet : List UInt8)
    (deadline_after_ms : UInt64) :
    Kept uid peer fabric (send_packet_v2 env fabric network_uid packet deadline_after_ms) := by
  unfold send_packet_v2
  cases hfind : find fabric network_uid with
  | none => exact .same _
  | some network =>
    refine guard_cases (fun _ => .same _) fun _ => guard_cases (fun _ => .same _) fun _ => ?_
    refine guard_cases (fun _ => .same _) fun _ => guard_cases (fun _ => .same _) fun _ => ?_
    refine guard_cases (fun _ => .same _) fun _ => ?_
    cases hbinding : packet_binding fabric network (read_u32_be (packet.drop 16)) env.now_unix_s with
    | error result => exact .quiet (fun _ hmem => hmem) quiet_nil
    | ok found =>
      obtain ⟨binding, route⟩ := found
      obtain ⟨hmem, hnetwork⟩ := packet_binding_mem hbinding
      refine guard_cases (fun _ => .quiet mem_remove_bindings quiet_nil) fun _ => ?_
      refine guard_cases (fun _ => .same _) fun _ => guard_cases (fun _ => .same _) fun _ => ?_
      refine guard_cases (fun _ => .same _) fun hroom => ?_
      have hcounted : LinkKept uid peer fabric _ none (data_sent uid peer (send_frame env binding.node_id _).2) :=
        kept_counted hinv packet hmem hnetwork hroom
      exact guard_cases (fun _ => hcounted) fun _ => hcounted

theorem kept_stop : LinkKept uid peer fabric (fabric_stop_v2 env fabric).1 none
    (data_sent uid peer (fabric_stop_v2 env fabric).2) := by
  refine guard_cases (P := fun outcome : Fabric × Sent => LinkKept uid peer fabric outcome.1
    none (data_sent uid peer outcome.2)) (fun _ => .of_subset (fun _ hmem => hmem) quiet_nil none) fun _ => ?_
  refine .of_subset mem_remove_bindings (quiet_flatMap fun binding => ?_) none
  cases find fabric binding.network with
  | none => exact quiet_nil
  | some network => exact quiet_send_close fabric network binding

theorem kept_call (hinv : fabric.Inv crypto) (request : Call) :
    LinkKept uid peer fabric (call crypto env fabric request).1 none
      (data_sent uid peer (call crypto env fabric request).2) := by
  cases request with
  | start mesh_start =>
    refine .of_subset (fun binding hbinding => ?_) quiet_nil none
    have hbindings : (fabric_start_v2 mesh_start fabric).2.bindings = fabric.bindings := by
      unfold fabric_start_v2
      split
      · rfl
      · split <;> rfl
    exact hbindings ▸ hbinding
  | stop => exact kept_stop
  | attach spec => exact kept_attach spec
  | apply_snapshot network_uid expected_generation spec => exact kept_apply_snapshot network_uid expected_generation spec
  | detach network_uid drain_timeout_ms => exact kept_detach network_uid drain_timeout_ms
  | send_packet network_uid packet deadline_after_ms => exact kept_send_packet hinv network_uid packet deadline_after_ms
  | peer_ready node_id =>
    refine .of_subset (fun _ hmem => hmem) (guard_cases (P := Quiet) (fun _ => quiet_nil) fun _ => ?_) none
    exact quiet_flatMap fun network => quiet_send_open fabric network node_id
  | peer_closed node_id => exact .of_subset mem_remove_bindings quiet_nil none

theorem kept_calls (hinv : fabric.Inv crypto) (callback : List (Env × Call)) :
    LinkKept uid peer fabric (calls crypto fabric callback).1 none
      (data_sent uid peer (calls crypto fabric callback).2) := by
  have hfold : ∀ state : Fabric × Sent, Refines crypto fabric state.1 →
      LinkKept uid peer fabric state.1 none (data_sent uid peer state.2) →
      LinkKept uid peer fabric (callback.foldl (fun state next => ((call crypto next.1 state.1 next.2).1,
          state.2 ++ (call crypto next.1 state.1 next.2).2)) state).1 none
        (data_sent uid peer (callback.foldl (fun state next => ((call crypto next.1 state.1 next.2).1,
          state.2 ++ (call crypto next.1 state.1 next.2).2)) state).2) := by
    induction callback with
    | nil => exact fun _ _ hkept => hkept
    | cons next callback ih =>
      intro state hrefines hkept
      have hinv' := hrefines.inv hinv
      refine ih _ (hrefines.trans (refines_call hinv' next.2)) ?_
      have hcall : LinkKept uid peer state.1 (call crypto next.1 state.1 next.2).1 none
        (data_sent uid peer (call crypto next.1 state.1 next.2).2) := kept_call hinv' next.2
      have hstep := hkept.trans hcall
      rwa [data_sent, data_sent, ← List.filterMap_append] at hstep
  exact hfold (fabric, []) (.refl) (.of_subset (fun _ hmem => hmem) quiet_nil none)

end calls

section messages

variable {crypto : Crypto} {uid : NetworkUid} {peer : NodeId} {env : Env} {fabric fabric' : Fabric}

/-- What a fabric does with the binding of a peer in one step: it keeps it, or
it creates it or restarts it with both sequences at zero and without
sending DATA frames. -/
def LinkStep (uid : NetworkUid) (peer : NodeId) (fabric fabric' : Fabric) (received : Option UInt64)
    (sent : List UInt64) : Prop :=
  ∀ after, Holds fabric' uid peer after →
    (sent = [] ∧ after.next_tx_sequence = 0 ∧ after.last_rx_sequence = 0 ∧
      ∀ before, Holds fabric uid peer before → ¬Continues before after) ∨
    ∃ before, Holds fabric uid peer before ∧ Continues before after ∧
      Sends before.next_tx_sequence sent after.next_tx_sequence ∧
      (after.last_rx_sequence = before.last_rx_sequence ∨ received = some after.last_rx_sequence)

theorem LinkKept.step {received : Option UInt64} {sent : List UInt64}
    (hkept : LinkKept uid peer fabric fabric' received sent) : LinkStep uid peer fabric fabric' received sent :=
  fun after hafter => .inr (hkept after hafter)

theorem LinkStep.of_subset {sent : Sent} (hsubset : ∀ binding ∈ fabric'.bindings, binding ∈ fabric.bindings)
    (hquiet : Quiet sent) (received : Option UInt64) :
    LinkStep uid peer fabric fabric' received (data_sent uid peer sent) :=
  (LinkKept.of_subset hsubset hquiet received).step

/-- What `accept_open` leaves. -/
abbrev Opened (uid : NetworkUid) (peer : NodeId) (fabric : Fabric) (outcome : Result × Fabric × Sent) : Prop :=
  LinkStep uid peer fabric outcome.2.1 none (data_sent uid peer outcome.2.2)

theorem Opened.same (result : Result) : Opened uid peer fabric (result, fabric, []) :=
  .of_subset (fun _ hmem => hmem) quiet_nil none

theorem link_accept_open (hinv : fabric.Inv crypto) (node_id : NodeId) (frame : FrameView) :
    Opened uid peer fabric (accept_open crypto env fabric node_id frame) := by
  unfold accept_open
  cases hfind : find fabric frame.network_uid with
  | none => exact .same _
  | some network =>
    refine guard_cases (fun _ => .same _) fun _ => ?_
    cases hdecode : ticket_decode frame.payload with
    | error result => exact .same _
    | ok ticket =>
      refine guard_cases (fun _ => .same _) fun _ => guard_cases (fun _ => .same _) fun _ => ?_
      cases hbinding : find_binding fabric network.uid (some node_id) 0 with
      | none =>
        refine guard_cases (fun _ => .of_subset (fun _ hmem => hmem) quiet_nil none) fun _ => ?_
        refine guard_cases (fun _ => .same _) fun _ => ?_
        intro after hafter
        rw [(quiet_send_open fabric network node_id).data_sent]
        rcases List.mem_cons.mp hafter.1 with rfl | hold
        · refine .inl ⟨rfl, rfl, rfl, fun before hbefore hcontinues => ?_⟩
          exact Nat.ne_of_gt (hinv.records before hbefore.1) hcontinues.1
        · exact .inr ⟨after, ⟨hold, hafter.2⟩, ⟨rfl, rfl, rfl⟩, UInt64.le_refl _, .inl rfl⟩
      | some binding =>
        refine guard_cases (fun _ => .same _) fun hstale => guard_cases (fun _ => .same _) fun _ => ?_
        have hquiet : Quiet (if binding.open_sent = true then []
            else (send_open_to_peer env fabric network node_id).2) :=
          guard_cases (P := Quiet) (fun _ => quiet_nil) fun _ => quiet_send_open fabric network node_id
        intro after hafter
        rw [hquiet.data_sent]
        rcases mem_set_binding hafter.1 with rfl | ⟨hold, -⟩
        · have hbefore : Holds fabric uid peer binding := ⟨(find_binding_node hbinding).1, hafter.2⟩
          by_cases hadvanced : ticket.membership_generation > binding.membership_generation ∨
              ticket.node_key_epoch > binding.node_key_epoch
          · refine .inl ⟨rfl, by simp [Ticket.bind, hadvanced], by simp [Ticket.bind, hadvanced], ?_⟩
            intro before hholds hcontinues
            obtain rfl := hholds.unique hinv hbefore
            rcases hadvanced with hlater | hlater
            · exact UInt64.ne_of_lt hlater hcontinues.2.1.symm
            · exact UInt64.ne_of_lt hlater hcontinues.2.2.symm
          · obtain ⟨hmembership, hkey⟩ := not_or.mp hstale
            obtain ⟨hmembership', hkey'⟩ := not_or.mp hadvanced
            rw [gt_iff_lt, UInt64.not_lt] at hmembership' hkey'
            rw [UInt64.not_lt] at hmembership hkey
            refine .inr ⟨binding, hbefore, ⟨rfl, UInt64.le_antisymm hmembership' hmembership,
              UInt64.le_antisymm hkey' hkey⟩, ?_, .inl (by simp [Ticket.bind, hadvanced])⟩
            simp only [Ticket.bind, hadvanced, decide_false, Bool.false_eq_true, if_false]
            exact UInt64.le_refl _
        · exact .inr ⟨after, ⟨hold, hafter.2⟩, ⟨rfl, rfl, rfl⟩, UInt64.le_refl _, .inl rfl⟩

def offered (uid : NetworkUid) (peer node_id : NodeId) (view : FrameView) : Option UInt64 :=
  if node_id = peer ∧ view.network_uid = uid then some view.sequence else none

variable {binding : Binding} {frame : FrameView} {node_id : NodeId}

theorem link_accepted_data {network : Network} (haccepted : DataAccepted env fabric node_id frame network binding) :
    LinkKept uid peer fabric (accepted_data fabric network binding frame) (offered uid peer node_id frame) [] := by
  intro after hafter
  obtain ⟨hmem, hnetwork, hnode⟩ := find_binding_node haccepted.bound
  have huid := (find_eq_some haccepted.found).2
  rcases mem_set_binding hafter.1 with rfl | ⟨hold, -⟩
  · refine ⟨binding, ⟨hmem, hafter.2⟩, ⟨rfl, rfl, rfl⟩, UInt64.le_refl _, .inr ?_⟩
    have hframe : node_id = peer ∧ frame.network_uid = uid :=
      ⟨hnode.symm.trans hafter.2.2, (huid.symm.trans hnetwork.symm).trans hafter.2.1⟩
    exact if_pos hframe
  · exact ⟨after, ⟨hold, hafter.2⟩, ⟨rfl, rfl, rfl⟩, UInt64.le_refl _, .inl rfl⟩

theorem Holds.of_registry (heq : fabric'.registry = fabric.registry) (hholds : Holds fabric' uid peer binding) :
    Holds fabric uid peer binding := by
  have hbindings : fabric'.bindings = fabric.bindings := congrArg Registry.bindings heq
  exact ⟨hbindings ▸ hholds.1, hholds.2⟩

theorem link_accept_data (hinv : fabric.Inv crypto) (callback : List (Env × Call)) (node_id : NodeId)
    (frame : FrameView) :
    LinkKept uid peer fabric (accept_data crypto env callback fabric node_id frame).fabric
      (offered uid peer node_id frame)
      (data_sent uid peer (accept_data crypto env callback fabric node_id frame).sent) := by
  have houtcome := accept_data_outcome crypto env callback fabric node_id frame
  generalize accept_data crypto env callback fabric node_id frame = outcome at houtcome ⊢
  cases houtcome with
  | kept result => exact .of_subset (fun _ hmem => hmem) quiet_nil _
  | counted => exact .of_subset (fun _ hmem => hmem) quiet_nil _
  | expired => exact .of_subset mem_remove_bindings quiet_nil _
  | accepted network binding haccepted => exact link_accepted_data haccepted
  | delivered network binding haccepted entered returned hentered hreturned =>
    have hinv' : entered.Inv crypto := ((refines_accepted_data hinv haccepted).trans (.of_eq hentered)).inv hinv
    have hentered' : LinkKept uid peer fabric entered (offered uid peer node_id frame) [] :=
      fun after hafter => link_accepted_data haccepted after (hafter.of_registry hentered)
    have hcalls := hentered'.trans (kept_calls hinv' callback)
    exact fun after hafter => hcalls after (hafter.of_registry hreturned)

def Input.data_received (uid : NetworkUid) (peer : NodeId) : Input → Option UInt64
  | .api _ => none
  | .message node_id frame _ => if node_id = peer then data_sequence uid frame else none

theorem link_step (hinv : fabric.Inv crypto) (input : Input) :
    LinkStep uid peer fabric (step crypto env fabric input).fabric (input.data_received uid peer)
      (data_sent uid peer (step crypto env fabric input).sent) := by
  cases input with
  | api request => exact (kept_call hinv request).step
  | message node_id bytes callback =>
    change LinkStep uid peer fabric (offer_message_v2 crypto env callback fabric node_id bytes).fabric _
      (data_sent uid peer (offer_message_v2 crypto env callback fabric node_id bytes).sent)
    rcases offer_message_cases crypto env callback fabric node_id bytes with
      ⟨refused, hregistry, heq⟩ | ⟨view, handled, hdecode, hregistry, heq⟩
    · have hbindings : refused.bindings = fabric.bindings := congrArg Registry.bindings hregistry
      rw [heq]
      exact .of_subset (fun binding hmem => hbindings ▸ hmem) quiet_nil _
    · rw [heq]
      suffices hframe : LinkStep uid peer fabric (accept_frame crypto env callback fabric node_id view).fabric
          (Input.data_received uid peer (.message node_id bytes callback))
          (data_sent uid peer (accept_frame crypto env callback fabric node_id view).sent) from
        fun after hafter => hframe after (hafter.of_registry hregistry)
      unfold accept_frame
      by_cases hopen : view.kind = FRAME_KIND_OPEN
      · rw [if_pos hopen]
        intro after hafter
        have hholds : Holds (accept_open crypto env fabric node_id view).2.1 uid peer after := by
          dsimp only at hafter
          split at hafter <;> exact hafter
        rcases link_accept_open hinv node_id view after hholds with hrestart | ⟨before, hbefore, hcontinues, hsends, hreceive⟩
        · exact .inl hrestart
        · exact .inr ⟨before, hbefore, hcontinues, hsends, .inl (hreceive.resolve_right nofun)⟩
      rw [if_neg hopen]
      by_cases hdata : view.kind = FRAME_KIND_DATA
      · rw [if_pos hdata]
        intro after hafter
        obtain ⟨before, hbefore, hcontinues, hsends, hreceive⟩ := link_accept_data hinv callback node_id view after hafter
        refine .inr ⟨before, hbefore, hcontinues, hsends, hreceive.imp_right fun hoffered => ?_⟩
        unfold offered at hoffered
        rw [Option.ite_none_right_eq_some] at hoffered
        obtain ⟨⟨hnode, huid⟩, hsequence⟩ := hoffered
        simp only [Input.data_received, if_pos hnode, data_sequence, hdecode, hdata, huid, and_self, if_true]
        exact hsequence
      rw [if_neg hdata]
      by_cases hclose : view.kind = FRAME_KIND_CLOSE
      · rw [if_pos hclose]
        refine .of_subset (fun binding hmem => ?_) quiet_nil _
        unfold accept_close at hmem
        split at hmem
        · exact hmem
        · split at hmem
          · exact hmem
          · exact mem_remove_bindings binding hmem
      · rw [if_neg hclose]
        exact .of_subset (fun _ hmem => hmem) quiet_nil _

/-- A DATA frame that is rejected as replayed has a sequence that the binding
of its sender has passed. -/
theorem accept_data_stale {callback : List (Env × Call)}
    (hstale : (accept_data crypto env callback fabric node_id frame).result = .STALE_EPOCH) :
    ∃ binding, Holds fabric frame.network_uid node_id binding ∧ frame.sequence ≤ binding.last_rx_sequence := by
  unfold accept_data at hstale
  cases hfind : find fabric frame.network_uid with
  | none => simp [hfind] at hstale
  | some network =>
    rw [hfind] at hstale
    rw [apply_ite Outcome.result] at hstale
    obtain ⟨-, hstale⟩ := guard_passed hstale
    cases hbinding : find_binding fabric network.uid (some node_id) 0 with
    | none => simp [hbinding] at hstale
    | some binding =>
      rw [hbinding] at hstale
      rw [apply_ite Outcome.result] at hstale
      obtain ⟨-, hstale⟩ := guard_passed hstale
      rw [apply_ite Outcome.result] at hstale
      obtain ⟨-, hstale⟩ := guard_passed hstale
      by_cases hsequence : frame.sequence ≤ binding.last_rx_sequence
      · obtain ⟨hmem, hnetwork, hnode⟩ := find_binding_node hbinding
        exact ⟨binding, ⟨hmem, hnetwork.trans (find_eq_some hfind).2, hnode⟩, hsequence⟩
      · rw [if_neg hsequence, apply_ite Outcome.result] at hstale
        obtain ⟨-, hstale⟩ := guard_passed hstale
        rw [apply_ite Outcome.result] at hstale
        simp at hstale

end messages

end turbop2p.mesh_multi_network
