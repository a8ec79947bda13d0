import TurboP2P.Node.Events
import Mathlib.Logic.Relation

namespace turbop2p.mesh

/-- What others can tell of a peer: the connection it is reached by, whether it
is announced, and under which address, identity and version. -/
structure Standing where
  ref : Nat
  p2p_peer : Option Nat
  is_connected : Bool
  announced : Bool
  virtual_ip : Str
  peer_id : Str
  protocol_major : UInt16

/-- A node as the list of its peers' standings. -/
structure Roster where
  members : List Standing
  next_ref : Nat

section roster

variable (Admits : Nat → Str → Str → UInt16 → Prop)

/-- No other announced peer has an address. -/
def Roster.Free (roster : Roster) (ref : Nat) (virtual_ip : Str) : Prop :=
  ∀ other ∈ roster.members, other.ref ≠ ref → other.announced → other.is_connected → other.virtual_ip ≠ virtual_ip

/-- No peer has a connection. -/
def Roster.Unlisted (roster : Roster) (p2p_peer : Nat) : Prop :=
  ∀ other ∈ roster.members, other.p2p_peer ≠ some p2p_peer

/-- What can be written to one peer. Only a peer that is not announced is
given a connection, and an address is announced only if it is free. -/
inductive Roster.Write (roster : Roster) (member : Standing) : Standing → Prop where
  | same : Roster.Write roster member member
  | resume : Roster.Write roster member { member with is_connected := true }
  | attach (p2p_peer : Nat) (hquiet : member.announced = false) (hunlisted : roster.Unlisted p2p_peer) :
    Roster.Write roster member { member with p2p_peer := some p2p_peer, is_connected := true }
  | join (p2p_peer : Nat) (hpeer : member.p2p_peer = some p2p_peer) (virtual_ip peer_id : Str) (major : UInt16)
    (hadmits : Admits p2p_peer virtual_ip peer_id major) (hfree : roster.Free member.ref virtual_ip) :
    Roster.Write roster member { member with announced := true, virtual_ip, peer_id, protocol_major := major }
  | up (hpeer : member.p2p_peer = none) (hfree : roster.Free member.ref member.virtual_ip) :
    Roster.Write roster member { member with is_connected := true, announced := true }
  | down (hpeer : member.p2p_peer = none) :
    Roster.Write roster member { member with is_connected := false, announced := false }

/-- What one change of a roster can be. -/
inductive Roster.Step (roster : Roster) : Roster → Prop where
  | remove (ref : Nat) : Roster.Step roster { roster with members := roster.members.filter (·.ref ≠ ref) }
  | add (member : Standing) (hnew : member.ref = roster.next_ref) (hquiet : member.announced = false)
    (hunlisted : ∀ p2p_peer, member.p2p_peer = some p2p_peer → member.is_connected ∧ roster.Unlisted p2p_peer) :
    Roster.Step roster ⟨member :: roster.members, roster.next_ref + 1⟩
  | write (ref : Nat) (members : List Standing)
    (hrefs : members.map Standing.ref = roster.members.map Standing.ref)
    (hwrite : ∀ after ∈ members, after ∈ roster.members ∨
      ∃ before ∈ roster.members, before.ref = ref ∧ Roster.Write Admits roster before after) :
    Roster.Step roster { roster with members }

/-- A roster in which peers are told apart by their pointers, their
connections and, once announced, their addresses, and in which every
announced peer with a connection was admitted on it. -/
structure Roster.Sound (roster : Roster) : Prop where
  fresh : ∀ member ∈ roster.members, member.ref < roster.next_ref
  refs : (roster.members.map Standing.ref).Nodup
  connected : ∀ member ∈ roster.members, member.announced ∨ member.p2p_peer.isSome → member.is_connected
  admitted : ∀ member ∈ roster.members, member.announced → ∀ p2p_peer, member.p2p_peer = some p2p_peer →
    Admits p2p_peer member.virtual_ip member.peer_id member.protocol_major
  sole : ∀ member ∈ roster.members, ∀ other ∈ roster.members, member.ref ≠ other.ref →
    ∀ p2p_peer, member.p2p_peer = some p2p_peer → other.p2p_peer ≠ some p2p_peer
  apart : ∀ member ∈ roster.members, ∀ other ∈ roster.members, member.ref ≠ other.ref → member.announced →
    other.announced → member.virtual_ip ≠ other.virtual_ip

variable {Admits}

theorem Roster.Write.ref_eq {roster : Roster} {before after : Standing} (hwrite : roster.Write Admits before after) :
    after.ref = before.ref := by
  cases hwrite <;> rfl

theorem Roster.Sound.remove {roster : Roster} (hsound : roster.Sound Admits) (ref : Nat) :
    Roster.Sound Admits { roster with members := roster.members.filter (·.ref ≠ ref) } := by
  have hkept : ∀ {member}, member ∈ roster.members.filter (·.ref ≠ ref) → member ∈ roster.members :=
    fun hmember => List.mem_of_mem_filter hmember
  exact
    { fresh := fun member hmember => hsound.fresh member (hkept hmember)
      refs := hsound.refs.sublist (List.filter_sublist.map _)
      connected := fun member hmember => hsound.connected member (hkept hmember)
      admitted := fun member hmember => hsound.admitted member (hkept hmember)
      sole := fun member hmember other hother => hsound.sole member (hkept hmember) other (hkept hother)
      apart := fun member hmember other hother => hsound.apart member (hkept hmember) other (hkept hother) }

theorem Roster.Sound.add {roster : Roster} (hsound : roster.Sound Admits) {member : Standing}
    (hnew : member.ref = roster.next_ref) (hquiet : member.announced = false)
    (hunlisted : ∀ p2p_peer, member.p2p_peer = some p2p_peer → member.is_connected ∧ roster.Unlisted p2p_peer) :
    Roster.Sound Admits ⟨member :: roster.members, roster.next_ref + 1⟩ where
  fresh := by
    intro other hother
    rcases List.mem_cons.mp hother with rfl | hother
    · rw [hnew]
      exact Nat.lt_succ_self _
    · exact Nat.lt_succ_of_lt (hsound.fresh other hother)
  refs := by
    rw [List.map_cons, List.nodup_cons]
    refine ⟨?_, hsound.refs⟩
    intro hlisted
    obtain ⟨other, hother, href⟩ := List.mem_map.mp hlisted
    have hlt := hsound.fresh other hother
    omega
  connected := by
    intro other hother hstanding
    rcases List.mem_cons.mp hother with rfl | hother
    · obtain ⟨p2p_peer, hpeer⟩ := Option.isSome_iff_exists.mp (hstanding.resolve_left (by simp [hquiet]))
      exact (hunlisted p2p_peer hpeer).1
    · exact hsound.connected other hother hstanding
  admitted := by
    intro other hother hannounced
    rcases List.mem_cons.mp hother with rfl | hother
    · simp [hquiet] at hannounced
    · exact hsound.admitted other hother hannounced
  sole := by
    intro left hleft right hright hdistinct p2p_peer hpeer
    rcases List.mem_cons.mp hleft with rfl | hlisted <;> rcases List.mem_cons.mp hright with rfl | hlisted'
    · exact absurd rfl hdistinct
    · exact (hunlisted p2p_peer hpeer).2 right hlisted'
    · exact fun hsame => (hunlisted p2p_peer hsame).2 left hlisted hpeer
    · exact hsound.sole left hlisted right hlisted' hdistinct p2p_peer hpeer
  apart := by
    intro left hleft right hright hdistinct hannounced hannounced'
    rcases List.mem_cons.mp hleft with rfl | hleft
    · simp [hquiet] at hannounced
    · rcases List.mem_cons.mp hright with rfl | hright
      · simp [hquiet] at hannounced'
      · exact hsound.apart left hleft right hright hdistinct hannounced hannounced'

section write

variable {roster : Roster} {member after : Standing} (hsound : roster.Sound Admits) (hmember : member ∈ roster.members)
  (hwrite : roster.Write Admits member after)

include hsound hmember hwrite

theorem Roster.Write.connected (hstanding : after.announced ∨ after.p2p_peer.isSome) :
    after.is_connected := by
  cases hwrite with
  | same => exact hsound.connected member hmember hstanding
  | resume => rfl
  | attach => rfl
  | join p2p_peer hpeer => exact hsound.connected member hmember (.inr (by simp [hpeer]))
  | up => rfl
  | down hpeer => simp [hpeer] at hstanding

theorem Roster.Write.admitted (hannounced : after.announced) {p2p_peer : Nat} (hpeer : after.p2p_peer = some p2p_peer) :
    Admits p2p_peer after.virtual_ip after.peer_id after.protocol_major := by
  cases hwrite with
  | same => exact hsound.admitted member hmember hannounced p2p_peer hpeer
  | resume => exact hsound.admitted member hmember hannounced p2p_peer hpeer
  | attach _ hquiet => simp [hquiet] at hannounced
  | join current hcurrent _ _ _ hadmits =>
    obtain rfl : current = p2p_peer := Option.some.inj (hcurrent.symm.trans hpeer)
    exact hadmits
  | up hnone => cases hnone.symm.trans hpeer
  | down => simp at hannounced

variable {other : Standing} (hother : other ∈ roster.members)

include hother

theorem Roster.Write.sole (hdistinct : member.ref ≠ other.ref) {p2p_peer : Nat}
    (hpeer : after.p2p_peer = some p2p_peer) :
    other.p2p_peer ≠ some p2p_peer := by
  have hkept := hsound.sole member hmember other hother hdistinct p2p_peer
  cases hwrite with
  | same => exact hkept hpeer
  | resume => exact hkept hpeer
  | attach attached _ hunlisted =>
    obtain rfl : attached = p2p_peer := Option.some.inj hpeer
    exact hunlisted other hother
  | join => exact hkept hpeer
  | up => exact hkept hpeer
  | down => exact hkept hpeer

theorem Roster.Write.apart (hdistinct : member.ref ≠ other.ref) (hannounced : after.announced)
    (hother_announced : other.announced) :
    after.virtual_ip ≠ other.virtual_ip := by
  have hkept := hsound.apart member hmember other hother hdistinct
  have hother_connected := hsound.connected other hother (.inl hother_announced)
  cases hwrite with
  | same => exact hkept hannounced hother_announced
  | resume => exact hkept hannounced hother_announced
  | attach _ hquiet => simp [hquiet] at hannounced
  | join _ _ _ _ _ _ hfree => exact (hfree other hother hdistinct.symm hother_announced hother_connected).symm
  | up _ hfree => exact (hfree other hother hdistinct.symm hother_announced hother_connected).symm
  | down => simp at hannounced

end write

/-- One peer of two that differ is unchanged by a write. -/
theorem Roster.Sound.write {roster : Roster} (hsound : roster.Sound Admits) {ref : Nat} {members : List Standing}
    (hrefs : members.map Standing.ref = roster.members.map Standing.ref)
    (hwrite : ∀ after ∈ members, after ∈ roster.members ∨
      ∃ before ∈ roster.members, before.ref = ref ∧ roster.Write Admits before after) :
    Roster.Sound Admits { roster with members } where
  fresh := by
    intro after hafter
    obtain ⟨before, hbefore, href⟩ : ∃ before ∈ roster.members, before.ref = after.ref :=
      List.mem_map.mp (hrefs ▸ List.mem_map_of_mem hafter)
    exact href ▸ hsound.fresh before hbefore
  refs := hrefs ▸ hsound.refs
  connected := by
    intro after hafter
    rcases hwrite after hafter with hkept | ⟨before, hbefore, _, hchange⟩
    · exact hsound.connected after hkept
    · exact hchange.connected hsound hbefore
  admitted := by
    intro after hafter hannounced p2p_peer
    rcases hwrite after hafter with hkept | ⟨before, hbefore, _, hchange⟩
    · exact hsound.admitted after hkept hannounced p2p_peer
    · exact hchange.admitted hsound hbefore hannounced
  sole := by
    intro left hleft right hright hdistinct p2p_peer hpeer
    rcases hwrite left hleft with hkept | ⟨before, hbefore, href, hchange⟩ <;>
      rcases hwrite right hright with hkept' | ⟨before', hbefore', href', hchange'⟩
    · exact hsound.sole left hkept right hkept' hdistinct p2p_peer hpeer
    · rw [hchange'.ref_eq] at hdistinct
      exact fun hsame => hchange'.sole hsound hbefore' hkept hdistinct.symm hsame hpeer
    · rw [hchange.ref_eq] at hdistinct
      exact hchange.sole hsound hbefore hkept' hdistinct hpeer
    · rw [hchange.ref_eq, hchange'.ref_eq] at hdistinct
      exact absurd (href.trans href'.symm) hdistinct
  apart := by
    intro left hleft right hright hdistinct hannounced hannounced'
    rcases hwrite left hleft with hkept | ⟨before, hbefore, href, hchange⟩ <;>
      rcases hwrite right hright with hkept' | ⟨before', hbefore', href', hchange'⟩
    · exact hsound.apart left hkept right hkept' hdistinct hannounced hannounced'
    · rw [hchange'.ref_eq] at hdistinct
      exact (hchange'.apart hsound hbefore' hkept hdistinct.symm hannounced' hannounced).symm
    · rw [hchange.ref_eq] at hdistinct
      exact hchange.apart hsound hbefore hkept' hdistinct hannounced hannounced'
    · rw [hchange.ref_eq, hchange'.ref_eq] at hdistinct
      exact absurd (href.trans href'.symm) hdistinct

theorem Roster.Sound.step {before after : Roster} (hsound : before.Sound Admits) (hstep : before.Step Admits after) :
    after.Sound Admits := by
  cases hstep with
  | remove ref => exact hsound.remove ref
  | add member hnew hquiet hunlisted => exact hsound.add hnew hquiet hunlisted
  | write ref members hrefs hwrite => exact hsound.write hrefs hwrite

variable (Admits) in
/-- Any number of changes. -/
def Roster.Steps : Roster → Roster → Prop := Relation.ReflTransGen (Roster.Step Admits)

theorem Roster.Sound.steps {before after : Roster} (hsound : before.Sound Admits)
    (hsteps : Roster.Steps Admits before after) : after.Sound Admits := by
  induction hsteps with
  | refl => exact hsound
  | tail _ hstep ih => exact ih.step hstep

end roster

end turbop2p.mesh
