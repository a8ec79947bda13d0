import TurboP2P.Fabric.Frames
import Mathlib.Logic.Relation

namespace turbop2p.mesh_multi_network

/-- What a fabric is created with and keeps. -/
structure Identity where
  mesh_id : Bytes 32
  local_node_id : NodeId
  issuers : List Issuer
  max_bindings : Nat

/-- The part of a network on which the admission of its members depends. -/
structure Standing where
  uid : NetworkUid
  generation : UInt64
  policy_epoch : UInt64
  local_membership : Ticket
  authorized_peer_node_ids : List NodeId

/-- A fabric as a registry of networks and of the members that are bound in
them: what is left when packets, counters and callbacks are forgotten. -/
structure Registry where
  identity : Identity
  standings : List Standing
  bindings : List Binding
  binding_count : Nat
  allocated : Nat

/-- `ticket` was signed by a trusted issuer for a node in the present
generation and policy of a network, and was valid at the time `opened_at`. -/
structure Admits (crypto : Crypto) (identity : Identity) (standing : Standing) (node_id : NodeId) (ticket : Ticket)
    (opened_at : UInt64) : Prop where
  signed : ∃ issuer ∈ identity.issuers, ticket.Verified crypto issuer opened_at
  mesh : ticket.mesh_id = identity.mesh_id
  network : ticket.network_uid = standing.uid
  generation : ticket.network_generation = standing.generation
  policy : ticket.policy_epoch = standing.policy_epoch
  node : ticket.managed_node_id = node_id

/-- The local node is admitted to a network by its own ticket and is not one
of the peers. -/
structure LocalMember (crypto : Crypto) (identity : Identity) (standing : Standing) : Prop where
  admitted : ∃ opened_at, Admits crypto identity standing identity.local_node_id standing.local_membership opened_at
  apart : identity.local_node_id ∉ standing.authorized_peer_node_ids

/-- A binding is that of an authorised peer and has its data from a ticket
that admits the peer. -/
structure Member (crypto : Crypto) (identity : Identity) (standing : Standing) (binding : Binding) : Prop where
  network : standing.uid = binding.network
  authorized : binding.node_id ∈ standing.authorized_peer_node_ids
  ticket : ∃ ticket opened_at, Admits crypto identity standing binding.node_id ticket opened_at ∧
    ticket.ipv4_address = binding.ipv4_address ∧ ticket.not_after_unix_s = binding.not_after_unix_s

/-- Two bindings have different records and, in one network, different nodes
and addresses. -/
def Apart (left right : Binding) : Prop :=
  left.record ≠ right.record ∧
    (left.network = right.network → left.node_id ≠ right.node_id ∧ left.ipv4_address ≠ right.ipv4_address)

variable {binding left right : Binding} {standing : Standing}

theorem Apart.symm (hapart : Apart left right) : Apart right left :=
  ⟨hapart.1.symm, fun hnetwork => ⟨(hapart.2 hnetwork.symm).1.symm, (hapart.2 hnetwork.symm).2.symm⟩⟩

instance : Std.Symm Apart := ⟨fun _ _ => Apart.symm⟩

/-- A later state of one record: its epochs never go back and, within one
membership generation and key epoch, neither does its receive sequence. -/
structure Advances (before after : Binding) : Prop where
  record : after.record = before.record
  membership : before.membership_generation ≤ after.membership_generation
  key : before.node_key_epoch ≤ after.node_key_epoch
  sequence : before.membership_generation = after.membership_generation →
    before.node_key_epoch = after.node_key_epoch → before.last_rx_sequence ≤ after.last_rx_sequence

theorem Advances.refl (binding : Binding) : Advances binding binding :=
  ⟨rfl, UInt64.le_refl _, UInt64.le_refl _, fun _ _ => UInt64.le_refl _⟩

theorem Advances.trans {first second third : Binding} (hleft : Advances first second) (hright : Advances second third) :
    Advances first third := by
  refine ⟨hright.record.trans hleft.record, UInt64.le_trans hleft.membership hright.membership,
    UInt64.le_trans hleft.key hright.key, fun hmembership hkey => ?_⟩
  have hsame : first.membership_generation = second.membership_generation :=
    UInt64.le_antisymm hleft.membership (hmembership ▸ hright.membership)
  have hsame' : first.node_key_epoch = second.node_key_epoch := UInt64.le_antisymm hleft.key (hkey ▸ hright.key)
  exact UInt64.le_trans (hleft.sequence hsame hsame')
    (hright.sequence (hsame.symm.trans hmembership) (hsame'.symm.trans hkey))

/-- What one change of a registry can be. A network is replaced or detached
only when nobody is bound in it. -/
inductive Registry.Step (crypto : Crypto) (r : Registry) : Registry → Prop where
  | attach (standing : Standing) (hfresh : ∀ other ∈ r.standings, other.uid ≠ standing.uid)
      (hlocal : LocalMember crypto r.identity standing) :
      Step crypto r { r with standings := standing :: r.standings }
  | replace (standing : Standing) (hlocal : LocalMember crypto r.identity standing)
      (hunbound : ∀ binding ∈ r.bindings, binding.network ≠ standing.uid) :
      Step crypto r
        { r with standings := r.standings.map fun other => if other.uid = standing.uid then standing else other }
  | detach (uid : NetworkUid) (hunbound : ∀ binding ∈ r.bindings, binding.network ≠ uid) :
      Step crypto r { r with standings := r.standings.filter fun other => other.uid ≠ uid }
  | unbind (selected : Binding → Bool) :
      Step crypto r
        { r with
          bindings := r.bindings.filter fun binding => !selected binding
          binding_count := r.binding_count - r.bindings.countP selected }
  | update (binding updated : Binding) (hmem : binding ∈ r.bindings) (hadvances : Advances binding updated)
      (hnetwork : updated.network = binding.network) (hnode : updated.node_id = binding.node_id)
      (hmember : ∃ standing ∈ r.standings, Member crypto r.identity standing updated)
      (haddress : ∀ other ∈ r.bindings, other.network = binding.network → other.node_id ≠ binding.node_id →
        other.ipv4_address ≠ updated.ipv4_address) :
      Step crypto r
        { r with bindings := r.bindings.map fun old => if old.record = updated.record then updated else old }
  | bind (binding : Binding) (hrecord : binding.record = r.allocated) (hroom : r.binding_count < r.identity.max_bindings)
      (hmember : ∃ standing ∈ r.standings, Member crypto r.identity standing binding)
      (hfree : ∀ other ∈ r.bindings, other.network = binding.network →
        other.node_id ≠ binding.node_id ∧ other.ipv4_address ≠ binding.ipv4_address) :
      Step crypto r
        { r with bindings := binding :: r.bindings, binding_count := r.binding_count + 1, allocated := r.allocated + 1 }

/-- Any number of changes. -/
def Registry.Steps (crypto : Crypto) : Registry → Registry → Prop := Relation.ReflTransGen (Registry.Step crypto)

structure Registry.Inv (crypto : Crypto) (r : Registry) : Prop where
  uids : r.standings.Pairwise fun left right => left.uid ≠ right.uid
  local_members : ∀ standing ∈ r.standings, LocalMember crypto r.identity standing
  count : r.binding_count = r.bindings.length
  capacity : r.bindings.length ≤ r.identity.max_bindings
  members : ∀ binding ∈ r.bindings, ∃ standing ∈ r.standings, Member crypto r.identity standing binding
  records : ∀ binding ∈ r.bindings, binding.record < r.allocated
  distinct : r.bindings.Pairwise Apart

section invariant

variable {crypto : Crypto} {r r' : Registry}

section

variable (hinv : r.Inv crypto)

include hinv

theorem Registry.Inv.apart (hleft : left ∈ r.bindings) (hright : right ∈ r.bindings) (hne : left ≠ right) : Apart left right :=
  hinv.distinct.forall hleft hright hne

theorem Registry.Inv.eq_of_uid {left right : Standing} (hleft : left ∈ r.standings) (hright : right ∈ r.standings)
    (huid : left.uid = right.uid) : left = right := by
  by_contra hne
  have : Std.Symm fun left right : Standing => left.uid ≠ right.uid := ⟨fun _ _ => Ne.symm⟩
  exact hinv.uids.forall hleft hright hne huid

theorem Registry.Inv.attach (hfresh : ∀ other ∈ r.standings, other.uid ≠ standing.uid)
    (hlocal : LocalMember crypto r.identity standing) :
    Registry.Inv crypto { r with standings := standing :: r.standings } where
  uids := List.pairwise_cons.mpr ⟨fun other hother => (hfresh other hother).symm, hinv.uids⟩
  local_members := List.forall_mem_cons.mpr ⟨hlocal, hinv.local_members⟩
  count := hinv.count
  capacity := hinv.capacity
  members := fun binding hbinding => by
    obtain ⟨other, hother, hmember⟩ := hinv.members binding hbinding
    exact ⟨other, List.mem_cons_of_mem standing hother, hmember⟩
  records := hinv.records
  distinct := hinv.distinct

theorem Registry.Inv.replace (hlocal : LocalMember crypto r.identity standing)
    (hunbound : ∀ binding ∈ r.bindings, binding.network ≠ standing.uid) :
    Registry.Inv crypto
      { r with standings := r.standings.map fun other => if other.uid = standing.uid then standing else other } where
  uids := by
    have huid : ∀ other : Standing, (if other.uid = standing.uid then standing else other).uid = other.uid := by
      intro other
      split
      · rename_i hsame
        exact hsame.symm
      · rfl
    refine List.pairwise_map.mpr (hinv.uids.imp ?_)
    intro left right hne
    rwa [huid, huid]
  local_members := by
    intro other hother
    obtain ⟨old, hold, rfl⟩ := List.mem_map.mp hother
    split
    · exact hlocal
    · exact hinv.local_members old hold
  count := hinv.count
  capacity := hinv.capacity
  members := fun binding hbinding => by
    obtain ⟨old, hold, hmember⟩ := hinv.members binding hbinding
    have hother : old.uid ≠ standing.uid := hmember.network ▸ hunbound binding hbinding
    exact ⟨old, List.mem_map.mpr ⟨old, hold, if_neg hother⟩, hmember⟩
  records := hinv.records
  distinct := hinv.distinct

theorem Registry.Inv.detach {uid : NetworkUid} (hunbound : ∀ binding ∈ r.bindings, binding.network ≠ uid) :
    Registry.Inv crypto { r with standings := r.standings.filter fun other => other.uid ≠ uid } where
  uids := hinv.uids.filter _
  local_members := fun standing hstanding => hinv.local_members standing (List.mem_of_mem_filter hstanding)
  count := hinv.count
  capacity := hinv.capacity
  members := fun binding hbinding => by
    obtain ⟨old, hold, hmember⟩ := hinv.members binding hbinding
    have hother : old.uid ≠ uid := hmember.network ▸ hunbound binding hbinding
    exact ⟨old, List.mem_filter.mpr ⟨hold, decide_eq_true hother⟩, hmember⟩
  records := hinv.records
  distinct := hinv.distinct

theorem Registry.Inv.unbind (selected : Binding → Bool) :
    Registry.Inv crypto
      { r with
        bindings := r.bindings.filter fun binding => !selected binding
        binding_count := r.binding_count - r.bindings.countP selected } where
  uids := hinv.uids
  local_members := hinv.local_members
  count := by
    have hsplit := List.length_eq_countP_add_countP selected (l := r.bindings)
    have hkept : (r.bindings.filter fun binding => !selected binding).length =
        r.bindings.countP fun binding => decide ¬selected binding = true := by
      rw [← List.countP_eq_length_filter]
      exact List.countP_congr fun binding _ => by simp
    change r.binding_count - r.bindings.countP selected = _
    rw [hkept, hinv.count]
    omega
  capacity := Nat.le_trans (List.length_filter_le _ _) hinv.capacity
  members := fun binding hbinding => hinv.members binding (List.mem_of_mem_filter hbinding)
  records := fun binding hbinding => hinv.records binding (List.mem_of_mem_filter hbinding)
  distinct := hinv.distinct.filter _

theorem Registry.Inv.update {updated : Binding} (hmem : binding ∈ r.bindings)
    (hrecord : updated.record = binding.record) (hnetwork : updated.network = binding.network)
    (hnode : updated.node_id = binding.node_id)
    (hmember : ∃ standing ∈ r.standings, Member crypto r.identity standing updated)
    (haddress : ∀ other ∈ r.bindings, other.network = binding.network → other.node_id ≠ binding.node_id →
      other.ipv4_address ≠ updated.ipv4_address) :
    Registry.Inv crypto
      { r with bindings := r.bindings.map fun old => if old.record = updated.record then updated else old } where
  uids := hinv.uids
  local_members := hinv.local_members
  count := hinv.count.trans (List.length_map _).symm
  capacity := (List.length_map _).trans_le hinv.capacity
  members := by
    intro other hother
    obtain ⟨old, hold, rfl⟩ := List.mem_map.mp hother
    split
    · exact hmember
    · exact hinv.members old hold
  records := by
    intro other hother
    obtain ⟨old, hold, rfl⟩ := List.mem_map.mp hother
    split
    · rw [hrecord]
      exact hinv.records binding hmem
    · exact hinv.records old hold
  distinct := by
    have hother : ∀ other ∈ r.bindings, other.record ≠ updated.record → Apart updated other := by
      intro other hother hne
      have hapart := hinv.apart hmem hother fun heq => hne (heq ▸ hrecord.symm)
      refine ⟨hne.symm, fun hsame => ?_⟩
      have hnodes := (hapart.2 (hnetwork.symm.trans hsame)).1
      exact ⟨hnode ▸ hnodes, (haddress other hother (hsame.symm.trans hnetwork) hnodes.symm).symm⟩
    refine List.pairwise_map.mpr (hinv.distinct.imp_of_mem ?_)
    intro left right hleft hright hapart
    by_cases hl : left.record = updated.record
    · have hr : right.record ≠ updated.record := fun hr => hapart.1 (hl.trans hr.symm)
      rw [if_pos hl, if_neg hr]
      exact hother right hright hr
    · by_cases hr : right.record = updated.record
      · rw [if_neg hl, if_pos hr]
        exact (hother left hleft hl).symm
      · rwa [if_neg hl, if_neg hr]

theorem Registry.Inv.bind (hrecord : binding.record = r.allocated)
    (hroom : r.binding_count < r.identity.max_bindings)
    (hmember : ∃ standing ∈ r.standings, Member crypto r.identity standing binding)
    (hfree : ∀ other ∈ r.bindings, other.network = binding.network →
      other.node_id ≠ binding.node_id ∧ other.ipv4_address ≠ binding.ipv4_address) :
    Registry.Inv crypto
      { r with
        bindings := binding :: r.bindings, binding_count := r.binding_count + 1, allocated := r.allocated + 1 } where
  uids := hinv.uids
  local_members := hinv.local_members
  count := by
    change r.binding_count + 1 = r.bindings.length + 1
    rw [hinv.count]
  capacity := by
    rw [hinv.count] at hroom
    exact hroom
  members := List.forall_mem_cons.mpr ⟨hmember, hinv.members⟩
  records := by
    refine List.forall_mem_cons.mpr ⟨?_, fun other hother => Nat.lt_succ_of_lt (hinv.records other hother)⟩
    rw [hrecord]
    exact Nat.lt_succ_self _
  distinct := by
    refine List.pairwise_cons.mpr ⟨fun other hother => ⟨?_, fun hsame => ?_⟩, hinv.distinct⟩
    · rw [hrecord]
      exact Nat.ne_of_gt (hinv.records other hother)
    · obtain ⟨hnode, haddress⟩ := hfree other hother hsame.symm
      exact ⟨hnode.symm, haddress.symm⟩

end

/-- Every change keeps the invariant. -/
theorem Registry.Step.inv (hstep : Registry.Step crypto r r') (hinv : r.Inv crypto) : r'.Inv crypto := by
  cases hstep with
  | attach standing hfresh hlocal => exact hinv.attach hfresh hlocal
  | replace standing hlocal hunbound => exact hinv.replace hlocal hunbound
  | detach uid hunbound => exact hinv.detach hunbound
  | unbind selected => exact hinv.unbind selected
  | update binding updated hmem hadvances hnetwork hnode hmember haddress =>
    exact hinv.update hmem hadvances.record hnetwork hnode hmember haddress
  | bind binding hrecord hroom hmember hfree => exact hinv.bind hrecord hroom hmember hfree

/-- A later registry: every record of a binding is either new or a later
state of an old one. -/
structure Follows (r r' : Registry) : Prop where
  identity : r'.identity = r.identity
  allocated : r.allocated ≤ r'.allocated
  bindings : ∀ after ∈ r'.bindings, r.allocated ≤ after.record ∨ ∃ before ∈ r.bindings, Advances before after

theorem Follows.of_subset (hidentity : r'.identity = r.identity) (hallocated : r'.allocated = r.allocated)
    (hsubset : ∀ binding ∈ r'.bindings, binding ∈ r.bindings) : Follows r r' where
  identity := hidentity
  allocated := hallocated.ge
  bindings := fun binding hbinding => .inr ⟨binding, hsubset binding hbinding, .refl binding⟩

theorem Follows.trans {r'' : Registry} (hleft : Follows r r') (hright : Follows r' r'') : Follows r r'' where
  identity := hright.identity.trans hleft.identity
  allocated := hleft.allocated.trans hright.allocated
  bindings := by
    intro last hlast
    rcases hright.bindings last hlast with hnew | ⟨middle, hmiddle, hadvances⟩
    · exact .inl (hleft.allocated.trans hnew)
    · rcases hleft.bindings middle hmiddle with hnew | ⟨first, hfirst, hbefore⟩
      · exact .inl (hadvances.record ▸ hnew)
      · exact .inr ⟨first, hfirst, hbefore.trans hadvances⟩

theorem Registry.Step.follows (hstep : Registry.Step crypto r r') : Follows r r' := by
  cases hstep with
  | attach | replace | detach => exact .of_subset rfl rfl fun _ hbinding => hbinding
  | unbind selected => exact .of_subset rfl rfl fun _ hbinding => List.mem_of_mem_filter hbinding
  | update binding updated hmem hadvances =>
    refine ⟨rfl, Nat.le_refl _, fun after hafter => .inr ?_⟩
    obtain ⟨old, hold, rfl⟩ := List.mem_map.mp hafter
    split
    · exact ⟨binding, hmem, hadvances⟩
    · exact ⟨old, hold, .refl old⟩
  | bind binding hrecord =>
    refine ⟨rfl, Nat.le_succ _, List.forall_mem_cons.mpr ⟨.inl hrecord.ge, ?_⟩⟩
    exact fun old hold => .inr ⟨old, hold, .refl old⟩

theorem Registry.Steps.inv (hsteps : Registry.Steps crypto r r') (hinv : r.Inv crypto) : r'.Inv crypto := by
  induction hsteps with
  | refl => exact hinv
  | tail _ hstep ih => exact hstep.inv ih

theorem Registry.Steps.follows (hsteps : Registry.Steps crypto r r') : Follows r r' := by
  induction hsteps with
  | refl => exact .of_subset rfl rfl fun _ hbinding => hbinding
  | tail _ hstep ih => exact ih.trans hstep.follows

end invariant

/-- No two nodes have tickets of the trusted issuers for one address in one
generation of a network. -/
def AddressesUnique (crypto : Crypto) (identity : Identity) : Prop :=
  ∀ standing left_node right_node left right opened_at opened_at',
    Admits crypto identity standing left_node left opened_at →
    Admits crypto identity standing right_node right opened_at' → left.ipv4_address = right.ipv4_address →
    left_node = right_node

/-- With such issuers nobody is bound to the address of the local node. -/
theorem Registry.Inv.local_address_free {crypto : Crypto} {r : Registry} (hinv : r.Inv crypto)
    (hunique : AddressesUnique crypto r.identity) (hstanding : standing ∈ r.standings)
    (hbinding : binding ∈ r.bindings) (hnetwork : binding.network = standing.uid) :
    binding.ipv4_address ≠ standing.local_membership.ipv4_address := by
  intro haddress
  obtain ⟨other, hother, hmember⟩ := hinv.members binding hbinding
  obtain rfl := hinv.eq_of_uid hother hstanding (hmember.network.trans hnetwork)
  obtain ⟨⟨opened_at, hadmitted⟩, hapart⟩ := hinv.local_members other hother
  obtain ⟨ticket, opened_at', hadmits, hticket, -⟩ := hmember.ticket
  have hsame := hunique other _ _ _ _ _ _ hadmits hadmitted (hticket.trans haddress)
  exact hapart (hsame ▸ hmember.authorized)

end turbop2p.mesh_multi_network
