import TurboP2P.Mgmt.ReplayGate

open turbop2p.mesh_control
open SlotTable

namespace turbop2p.mesh_mgmt_replay

def CACHE_MAX : Nat := 8192
def TTL_MAX_MS : UInt64 := 600000

/-- `mesh_mgmt_replay_init_v1` with memory for its entries. -/
def init_v1 (capacity : Nat) (ttl_ms : UInt64) : Except Result Gate :=
  if capacity = 0 ∨ capacity > CACHE_MAX ∨ ttl_ms = 0 ∨ ttl_ms > TTL_MAX_MS then .error .INVALID_SCHEMA
  else
    .ok
      { ttl_ms, binding := ⟨Bytes.zero 32, 0, 0, Bytes.zero 16⟩, entries := List.replicate capacity none
        last_sequence := 0, generation := 0, has_sequence := false, bound := false }

/-- `mesh_mgmt_replay_snapshot_v1_t` with the entries next to it. -/
structure Snapshot where
  binding : Binding
  last_sequence : UInt64
  generation : UInt64
  has_sequence : Bool
  bound : Bool
  entries : List Entry

/-- `mesh_mgmt_replay_export_v1` into memory for all entries. -/
def export_v1 (gate : Gate) : Snapshot :=
  ⟨gate.binding, gate.last_sequence, gate.generation, gate.has_sequence, gate.bound, gate.entries.live⟩

def import_v1 (gate : Gate) (snapshot : Snapshot) (now_ms : UInt64) : Result × Gate :=
  if ¬gate.bound ∨ ¬snapshot.bound ∨ snapshot.generation = 0 ∨ snapshot.generation = UINT64_MAX ∨
      (¬snapshot.has_sequence ∧ snapshot.last_sequence ≠ 0) ∨ (snapshot.entries ≠ [] ∧ ¬snapshot.has_sequence) ∨
      snapshot.entries.length > gate.entries.length ∨ gate.binding ≠ snapshot.binding ∨ gate.has_sequence ∨
      gate.last_sequence ≠ 0 ∨ gate.entries.live ≠ [] then (.INVALID_ARG, gate)
  else if ¬((∀ entry ∈ snapshot.entries, ¬bytes_are_zero entry.message_id ∧ entry.expires_at_ms ≠ 0) ∧
      (snapshot.entries.map (·.message_id)).Nodup) then (.INVALID_SCHEMA, gate)
  else
    let live := snapshot.entries.filter (now_ms < ·.expires_at_ms)
    (.OK,
      { gate with
        entries := live.map some ++ List.replicate (gate.entries.length - live.length) none
        last_sequence := snapshot.last_sequence, has_sequence := snapshot.has_sequence
        generation := snapshot.generation + 1 })

/-- A message is let through if it can be prepared, and then it is
committed. -/
def accept (gate : Gate) (header : Header) (now_ms : UInt64) : Result × Gate :=
  match prepare_v1 gate header now_ms with
  | .ok preparation => commit_v1 gate preparation
  | .error result => (result, gate)

/-- What becomes of a list of messages. -/
def accept_all : Gate → List (UInt64 × Header) → List Result
  | _, [] => []
  | gate, (now_ms, header) :: later =>
    (accept gate header now_ms).1 :: accept_all (accept gate header now_ms).2 later

/-- The gates that binds, preparations and commits lead to. -/
inductive Reachable : Gate → Prop
  | init {capacity : Nat} {ttl_ms : UInt64} {gate : Gate} (hinit : init_v1 capacity ttl_ms = .ok gate) : Reachable gate
  | bind {before gate : Gate} {binding : Binding} (hbefore : Reachable before)
      (hbind : bind_v1 before binding = (.OK, gate)) : Reachable gate
  | commit {earlier before gate : Gate} {header : Header} {now_ms : UInt64} {preparation : Preparation}
      (hearlier : Reachable earlier) (hprepare : prepare_v1 earlier header now_ms = .ok preparation)
      (hbefore : Reachable before) (hcommit : commit_v1 before preparation = (.OK, gate)) : Reachable gate

/-- What the import checks of a gate that can be reached. -/
structure Sound (gate : Gate) : Prop where
  ttl_ms : gate.ttl_ms ≠ 0
  sequence : gate.has_sequence = false → gate.last_sequence = 0 ∧ gate.entries.live = []
  entries : ∀ entry ∈ gate.entries.live, ¬bytes_are_zero entry.message_id ∧ entry.expires_at_ms ≠ 0

theorem live_replicate_none (n : Nat) : live (List.replicate n (none : Option Entry)) = [] := by
  simp [live]

variable {now_ms : UInt64} {gate left right : Gate}

theorem bounded_expiry_ne_zero {frame_expiry_ms ttl_ms : UInt64} (hframe : now_ms < frame_expiry_ms)
    (httl : ttl_ms ≠ 0) : bounded_expiry now_ms frame_expiry_ms ttl_ms ≠ 0 := by
  have hsum : now_ms ≤ UINT64_MAX - ttl_ms → now_ms + ttl_ms ≠ 0 := by
    intro hroom hzero
    have hzero := congrArg UInt64.toNat hzero
    rw [add_comm, Word.toNat_add hroom, UInt64.toNat_zero] at hzero
    exact httl (UInt64.toNat_inj.mp (Nat.eq_zero_of_add_eq_zero hzero).1)
  rw [bounded_expiry]
  split_ifs with hroom hless hless
  · rintro rfl
    exact absurd hframe UInt64.not_lt_zero
  · exact hsum hroom
  · rintro rfl
    exact absurd hframe UInt64.not_lt_zero
  · decide

theorem Reachable.sound (hreachable : Reachable gate) : Sound gate := by
  induction hreachable with
  | init hinit =>
    obtain ⟨hvalid, hinit⟩ := guard_passed hinit
    obtain rfl := Except.ok.inj hinit
    simp only [not_or] at hvalid
    exact ⟨hvalid.2.2.1, fun _ => ⟨rfl, live_replicate_none _⟩, by simp [live_replicate_none]⟩
  | bind _ hbind hbefore =>
    obtain ⟨_, hbind⟩ := guard_passed hbind
    obtain rfl := (Prod.mk.inj hbind).2
    exact ⟨hbefore.ttl_ms, fun _ => ⟨rfl, live_replicate_none _⟩, by simp [live_replicate_none]⟩
  | @commit _ before _ _ _ preparation _ hprepare _ hcommit hearlier hbefore =>
    have hprepared := prepared_of_prepare hprepare
    obtain ⟨_, _, rfl⟩ := commit_cases hcommit
    refine ⟨hbefore.ttl_ms, by simp, fun entry hentry => ?_⟩
    rcases List.mem_or_eq_of_mem_set (List.reduceOption_mem_iff.mp hentry) with hold | hnew
    · exact hbefore.entries entry (List.reduceOption_mem_iff.mpr hold)
    · obtain rfl := Option.some.inj hnew
      rw [hprepared.message_id, hprepared.expiry]
      exact ⟨hprepared.named, bounded_expiry_ne_zero hprepared.fresh hearlier.ttl_ms⟩

def retained (now_ms : UInt64) (entries : SlotTable Entry) : List Entry :=
  entries.live.filter (now_ms < ·.expires_at_ms)

/-- Two gates that treat messages alike from some time on. -/
structure Alike (now_ms : UInt64) (left right : Gate) : Prop where
  ttl_ms : left.ttl_ms = right.ttl_ms
  binding : left.binding = right.binding
  bound : left.bound = right.bound
  last_sequence : left.last_sequence = right.last_sequence
  has_sequence : left.has_sequence = right.has_sequence
  length : left.entries.length = right.entries.length
  retained : (retained now_ms left.entries).Perm (retained now_ms right.entries)

theorem Alike.later {later_ms : UInt64} (halike : Alike now_ms left right) (hlater : now_ms ≤ later_ms) :
    Alike later_ms left right := by
  refine { halike with retained := ?_ }
  have hfilter : ∀ entries, mesh_mgmt_replay.retained later_ms entries =
      (mesh_mgmt_replay.retained now_ms entries).filter (later_ms < ·.expires_at_ms) := by
    intro entries
    rw [mesh_mgmt_replay.retained, mesh_mgmt_replay.retained, List.filter_filter]
    apply List.filter_congr
    intro entry _
    have hlive : later_ms < entry.expires_at_ms → now_ms < entry.expires_at_ms := UInt64.lt_of_le_of_lt hlater
    by_cases hnow : later_ms < entry.expires_at_ms <;> simp [hnow, hlive]
  rw [hfilter, hfilter]
  exact halike.retained.filter _

theorem any_retains (now_ms : UInt64) (message_id : Id) (entries : SlotTable Entry) :
    entries.any (retains now_ms message_id) = (retained now_ms entries).any (·.message_id = message_id) := by
  induction entries with
  | nil => rfl
  | cons slot entries ih =>
    rw [List.any_cons, ih]
    cases slot with
    | none => simp [retains, retained, live, available]
    | some entry =>
      by_cases hlive : now_ms < entry.expires_at_ms <;>
        simp [retains, retained, live, available, hlive]

theorem length_retained_le (now_ms : UInt64) (entries : SlotTable Entry) :
    (retained now_ms entries).length ≤ entries.length :=
  (List.length_filter_le _ _).trans (List.reduceOption_length_le entries)

theorem exists_available (now_ms : UInt64) (entries : SlotTable Entry) :
    (entries.findIdx? (available now_ms)).isSome ↔ (retained now_ms entries).length < entries.length := by
  induction entries with
  | nil => simp [retained, live]
  | cons slot entries ih =>
    have hle := length_retained_le now_ms entries
    cases slot with
    | none => simpa [retained, live, available] using Nat.lt_succ_of_le hle
    | some entry =>
      by_cases hlive : now_ms < entry.expires_at_ms
      · simpa [retained, live, available, ← UInt64.not_lt, hlive] using ih
      · simpa [retained, live, available, ← UInt64.not_lt, hlive] using Nat.lt_succ_of_le hle

/-- A message that takes an available slot is all that is retained anew. -/
theorem retained_set {entries : SlotTable Entry} {slot : Nat} (entry : Entry)
    (hslot : entries.findIdx? (available now_ms) = some slot) :
    (retained now_ms (entries.set slot (some entry))).Perm
      ([entry].filter (now_ms < ·.expires_at_ms) ++ retained now_ms entries) := by
  obtain ⟨hlt, havailable, _⟩ := List.findIdx?_eq_some_iff_getElem.mp hslot
  have hperm := (live_set_perm (some entry) (List.getElem?_eq_getElem hlt)).filter (now_ms < ·.expires_at_ms)
  have hold : entries[slot].toList.filter (now_ms < ·.expires_at_ms) = [] := by
    cases hentry : entries[slot] with
    | none => rfl
    | some old =>
      rw [hentry] at havailable
      simp [of_decide_eq_true havailable]
  rwa [List.filter_append, hold, List.nil_append, List.filter_append] at hperm

/-- Gates that are alike refuse a message for the same reason, or both prepare
it, perhaps in different slots. -/
inductive PreparedAlike (left right : Gate) (header : Header) (now_ms : UInt64) :
    Except Result Preparation → Except Result Preparation → Prop
  | refused (result : Result) : PreparedAlike left right header now_ms (.error result) (.error result)
  | prepared {slot slot' : Nat} (expires : UInt64) (hslot : left.entries.findIdx? (available now_ms) = some slot)
      (hslot' : right.entries.findIdx? (available now_ms) = some slot') :
      PreparedAlike left right header now_ms
        (.ok ⟨left.generation, header.origin_sequence, expires, slot, header.message_id⟩)
        (.ok ⟨right.generation, header.origin_sequence, expires, slot', header.message_id⟩)

theorem Alike.prepare (halike : Alike now_ms left right) (header : Header) :
    PreparedAlike left right header now_ms (prepare_v1 left header now_ms) (prepare_v1 right header now_ms) := by
  obtain ⟨httl, hbinding, hbound, hlast, hhas, hlength, hretained⟩ := halike
  have hroom : (left.entries.findIdx? (available now_ms)).isSome =
      (right.entries.findIdx? (available now_ms)).isSome := by
    rw [Bool.eq_iff_iff, exists_available, exists_available, hretained.length_eq, hlength]
  rw [prepare_v1, prepare_v1, hbinding, hbound, hlast, hhas, any_retains, any_retains, hretained.any_eq]
  iterate 6 apply guard_rel (.refused _)
  cases hslot : left.entries.findIdx? (available now_ms) with
  | none =>
    rw [hslot, Option.isSome_none, eq_comm, Option.isSome_eq_false_iff, Option.isNone_iff_eq_none] at hroom
    rw [hroom]
    exact .refused _
  | some slot =>
    rw [hslot] at hroom
    obtain ⟨slot', hslot'⟩ := Option.isSome_iff_exists.mp hroom.symm
    rw [hslot', httl]
    exact .prepared _ hslot hslot'

/-- A preparation is committed right after it was made. -/
theorem commit_prepared {header : Header} {preparation : Preparation}
    (hprepare : prepare_v1 gate header now_ms = .ok preparation) :
    commit_v1 gate preparation =
      (.OK,
        { gate with
          entries := gate.entries.set preparation.cache_slot
            (some ⟨preparation.message_id, preparation.cache_expires_at_ms⟩)
          last_sequence := preparation.sequence, has_sequence := true, generation := gate.generation + 1 }) := by
  have hprepared := prepared_of_prepare hprepare
  obtain ⟨_, hslot, _⟩ := hprepared.slot
  have hlt := (List.getElem?_eq_some_iff.mp hslot).1
  obtain ⟨hbound, hprepare⟩ := guard_passed hprepare
  iterate 3 obtain ⟨_, hprepare⟩ := guard_passed hprepare
  obtain ⟨hnewer, _⟩ := guard_passed hprepare
  rw [← hprepared.sequence] at hnewer
  rw [commit_v1, if_neg, if_neg hnewer]
  simp only [not_not.mp hbound, hprepared.generation]
  simpa using hlt

/-- Gates that are alike treat a message alike and stay alike. -/
theorem Alike.accept (halike : Alike now_ms left right) (header : Header) :
    (accept left header now_ms).1 = (accept right header now_ms).1 ∧
      Alike now_ms (accept left header now_ms).2 (accept right header now_ms).2 := by
  have hprepare := halike.prepare header
  rw [mesh_mgmt_replay.accept, mesh_mgmt_replay.accept]
  generalize hleft : prepare_v1 left header now_ms = first at hprepare ⊢
  generalize hright : prepare_v1 right header now_ms = second at hprepare ⊢
  cases hprepare with
  | refused result => exact ⟨rfl, halike⟩
  | prepared expires hslot hslot' =>
    dsimp only
    rw [commit_prepared hleft, commit_prepared hright]
    refine ⟨rfl, halike.ttl_ms, halike.binding, halike.bound, rfl, rfl, by simp [halike.length], ?_⟩
    exact (retained_set _ hslot).trans ((halike.retained.append_left _).trans (retained_set _ hslot').symm)

theorem Alike.accept_all (halike : Alike now_ms left right) {messages : List (UInt64 × Header)}
    (hlater : ∀ message ∈ messages, now_ms ≤ message.1)
    (hordered : messages.Pairwise fun first second => first.1 ≤ second.1) :
    accept_all left messages = accept_all right messages := by
  induction messages generalizing now_ms left right with
  | nil => rfl
  | cons message messages ih =>
    obtain ⟨time_ms, header⟩ := message
    obtain ⟨hfirst, hordered⟩ := List.pairwise_cons.mp hordered
    obtain ⟨hresult, hafter⟩ := (halike.later (hlater _ List.mem_cons_self)).accept header
    rw [mesh_mgmt_replay.accept_all, mesh_mgmt_replay.accept_all, hresult, ih hafter hfirst hordered]

theorem retained_import (now_ms : UInt64) (entries : SlotTable Entry) (n : Nat) :
    retained now_ms ((retained now_ms entries).map some ++ List.replicate n none) = retained now_ms entries := by
  have hlive : live ((retained now_ms entries).map some ++ List.replicate n none) = retained now_ms entries := by
    simp [live, List.reduceOption]
  rw [retained, hlive, retained, List.filter_filter]
  simp

/-- What an import into a fresh gate with the configuration and binding of a
reached one comes down to. -/
theorem Sound.import_eq {blank fresh : Gate} (now_ms : UInt64) (hsound : Sound gate) (hbound : gate.bound = true)
    (hinit : init_v1 gate.entries.length gate.ttl_ms = .ok blank) (hbind : bind_v1 blank gate.binding = (.OK, fresh)) :
    ∃ imported, Alike now_ms imported gate ∧ import_v1 fresh (export_v1 gate) now_ms =
      if gate.generation = 0 ∨ gate.generation = UINT64_MAX then (.INVALID_ARG, fresh)
      else if ¬(gate.entries.live.map (·.message_id)).Nodup then (.INVALID_SCHEMA, fresh)
      else (.OK, imported) := by
  obtain ⟨_, hinit⟩ := guard_passed hinit
  obtain rfl := Except.ok.inj hinit
  obtain ⟨_, hbind⟩ := guard_passed hbind
  obtain rfl := (Prod.mk.inj hbind).2
  have hcount : gate.entries.live.length ≤ gate.entries.length := List.reduceOption_length_le gate.entries
  have hlive := length_retained_le now_ms gate.entries
  refine ⟨_, ?_, if_congr ?_ rfl (if_congr (not_congr (and_iff_right hsound.entries)) rfl rfl)⟩
  · refine ⟨rfl, rfl, hbound.symm, rfl, rfl, ?_, List.Perm.of_eq (retained_import now_ms gate.entries _)⟩
    change (((retained now_ms gate.entries).map some) ++ List.replicate _ none).length = _
    rw [List.length_append, List.length_map, List.length_replicate, List.length_replicate, List.length_replicate]
    change _ + (_ - (retained now_ms gate.entries).length) = _
    omega
  · simp only [export_v1, hbound, live_replicate_none, List.length_replicate]
    cases hhas : gate.has_sequence with
    | false => simp [hsound.sequence hhas]
    | true => simp [Nat.not_lt.mpr hcount]

/-- A gate is imported into a fresh gate with its configuration and binding
just when its entries have different message ids and its generation can be
counted on. From then on the two gates let the same messages through, as long
as the clock does not go back. -/
theorem import_preserves {blank fresh : Gate} (now_ms : UInt64) (hreachable : Reachable gate)
    (hbound : gate.bound = true) (hinit : init_v1 gate.entries.length gate.ttl_ms = .ok blank)
    (hbind : bind_v1 blank gate.binding = (.OK, fresh)) :
    let imported := import_v1 fresh (export_v1 gate) now_ms
    (imported.1 = .OK ↔ (gate.entries.live.map (·.message_id)).Nodup ∧
      gate.generation ≠ 0 ∧ gate.generation ≠ UINT64_MAX) ∧
    (imported.1 = .OK → ∀ messages : List (UInt64 × Header), (∀ message ∈ messages, now_ms ≤ message.1) →
      (messages.Pairwise fun first second => first.1 ≤ second.1) →
      accept_all imported.2 messages = accept_all gate messages) := by
  intro imported
  obtain ⟨after, halike, himport⟩ := hreachable.sound.import_eq now_ms hbound hinit hbind
  simp only [imported, himport]
  split_ifs with hgeneration hids
  · simp [← not_or, hgeneration]
  · exact ⟨iff_of_true rfl ⟨hids, not_or.mp hgeneration⟩, fun _ messages => halike.accept_all⟩
  · simp [hids]

namespace Sample

/-- A message that arrives at some time, with ten milliseconds to go. -/
def message (now_ms : UInt64) (m : Nat) : UInt64 × Header :=
  (now_ms, { header m with expires_at_ms := now_ms + 10 })

/-- The calls that let a message through at some time. -/
def pass (gate : Gate) (now_ms : UInt64) (m : Nat) : Gate :=
  (accept gate (message now_ms m).2 now_ms).2

/-- An initialised gate with two slots that is bound to the peer of the
headers. -/
def fresh : Gate :=
  { ttl_ms := 1000, binding := ⟨List.Vector.replicate 32 1, 1, 1, key 0⟩, entries := [none, none], last_sequence := 0
    generation := 1, has_sequence := false, bound := true }

def blank : Gate :=
  { fresh with binding := ⟨Bytes.zero 32, 0, 0, Bytes.zero 16⟩, generation := 0, bound := false }

end Sample

open Sample

theorem reachable_pass {m : Nat} (hreachable : Reachable gate) : Reachable (pass gate now_ms m) := by
  rw [Sample.pass, accept]
  split
  · next preparation hprepare => exact .commit hreachable hprepare hreachable (commit_prepared hprepare ▸ rfl)
  · exact hreachable

theorem bind_blank : bind_v1 blank fresh.binding = (.OK, fresh) := by
  decide +kernel

theorem init_blank : init_v1 2 1000 = .ok blank := rfl

theorem reachable_fresh : Reachable fresh := .bind (.init init_blank) bind_blank

/-- The imported gate refuses the message that it knows and lets a new one
through. -/
theorem one_message_imported :
    let imported := import_v1 Sample.fresh (export_v1 (Sample.pass Sample.fresh 1 0)) 5
    imported.1 = .OK ∧
      accept_all imported.2 [Sample.message 6 0, Sample.message 6 2, Sample.message 7 1] = [.REPLAYED, .REPLAYED, .OK] := by
  have hreachable : Reachable (pass fresh 1 0) := reachable_pass reachable_fresh
  obtain ⟨himport, hlater⟩ := import_preserves 5 hreachable (by decide +kernel) init_blank bind_blank
  have hok := himport.mpr (by decide +kernel)
  exact ⟨hok, (hlater hok _ (by decide) (by decide)).trans (by decide +kernel)⟩

/-- A message id that is let through again after it has expired may take
another slot, and the import refuses a gate with both. A gate that is imported
may differ from the original once the clock goes back, since the next message
may take the slot of another expired entry. -/
theorem repeated_id_refused :
    (∃ gate, gate = Sample.pass (Sample.pass (Sample.pass Sample.fresh 1 0) 1 1) 20 3 ∧ Reachable gate ∧
      gate.bound = true ∧ (import_v1 Sample.fresh (export_v1 gate) 25).1 = .INVALID_SCHEMA) ∧
    ∃ gate imported, gate = Sample.pass (Sample.pass Sample.fresh 1 0) 5 1 ∧ Reachable gate ∧ gate.bound = true ∧
      import_v1 Sample.fresh (export_v1 gate) 12 = (.OK, imported) ∧
      accept_all gate [Sample.message 100 2, Sample.message 12 3] = [.OK, .REPLAYED] ∧
      accept_all imported [Sample.message 100 2, Sample.message 12 3] = [.OK, .OK] := by
  have htwo : ∀ {first second}, Reachable (pass (pass fresh first 0) second 1) :=
    reachable_pass (reachable_pass reachable_fresh)
  have himported : (import_v1 fresh (export_v1 (pass (pass fresh 1 0) 5 1)) 12).1 = .OK := by decide +kernel
  refine ⟨⟨_, rfl, reachable_pass htwo, ?_, ?_⟩, _, _, rfl, htwo, ?_, Prod.ext himported rfl, ?_, ?_⟩ <;> decide +kernel

end turbop2p.mesh_mgmt_replay
