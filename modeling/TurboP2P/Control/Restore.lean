import TurboP2P.Control.Checkpoint
import TurboP2P.Control.Records

open turbop2p.mesh_control
open SlotTable

namespace turbop2p.mesh_control_state

/-- What a checkpoint needs beyond the invariants: no digest is missing, no
clock went back, and operation ids are unique. -/
structure Restorable (impl : Impl) : Prop where
  digests : ∀ i slot, impl.resources.Holds i slot → slot.status.desired_presence = .PRESENT →
    bytes_zero slot.status.desired_digest = false
  operations : ∀ j slot, impl.operations.Holds j slot →
    bytes_zero slot.operation.desired_digest = false ∧
      slot.operation.created_at_ms ≤ slot.operation.updated_at_ms
  ids : impl.operations.Distinct (·.operation.operation_id)

variable {config : Config} {slot : ResourceSlot} {α : Type}

section records

variable {impl : Impl}

/-- Of the checks on a resource record, only the one on the desired digest can
fail. -/
theorem resource_record_valid_iff (hvalid : slot.Valid config)
    (hobserved : slot.status.observed_epoch ≤ slot.status.desired_epoch) :
    resource_record_valid slot.record config = true ↔
      (slot.status.desired_presence = .PRESENT → bytes_zero slot.status.desired_digest = false) := by
  have hpointer : (slot.desired_document_size != 0 && slot.document_pointer.isNone) = false := by
    unfold ResourceSlot.document_pointer
    split <;> simp_all
  have hepoch : (slot.status.desired_epoch == 0) = false := by simpa using hvalid.epoch
  have hsize : ¬ config.desired_document_max_bytes < slot.desired_document_size := Nat.not_lt.mpr hvalid.size_le
  have hlater : ¬ slot.status.desired_epoch < slot.status.observed_epoch := Nat.not_lt.mpr hobserved
  unfold resource_record_valid ResourceSlot.record
  simp only [hvalid.resource_kind, hvalid.resource_id, hepoch, hpointer, hsize, hlater, decide_false,
    Bool.not_true, Bool.or_false, Bool.false_or]
  rcases hvalid.observed with ⟨hpresent, hdigest, hne⟩ | ⟨habsent, hdigest⟩ <;>
    rcases hvalid.desired with hdesired | ⟨hdesired, hzero⟩ <;>
    simp_all [presence_valid]

/-- Of the checks on an operation record, only those on the digest and on the
times can fail. -/
theorem operation_record_valid_iff {slot : OperationSlot} (hvalid : slot.Valid) :
    operation_record_valid slot.record = true ↔
      bytes_zero slot.operation.desired_digest = false ∧
        slot.operation.created_at_ms ≤ slot.operation.updated_at_ms := by
  have hmessage : bytes_zero slot.operation.message_id = false := hvalid.message_id ▸ hvalid.operation_id
  have hsame : (slot.operation.operation_id != slot.operation.message_id) = false := by
    simp [hvalid.message_id]
  have haction : (slot.operation.action != .APPLY && slot.operation.action != .DELETE) = false := by
    rcases hvalid.action with haction | haction <;> simp [haction]
  have hepoch : (slot.operation.desired_epoch == 0) = false := by simpa using hvalid.epoch
  have hstate : operation_state_valid slot.operation.state = true := by
    have hstarted := hvalid.started
    cases hcase : slot.operation.state <;> simp_all [operation_started, operation_state_valid]
  have hexpires : (if operation_state_is_terminal_v1 slot.operation.state then
      slot.terminal_expires_at_ms != 0 else slot.terminal_expires_at_ms == 0) = true := by
    have hiff := hvalid.expires
    cases hterminal : operation_state_is_terminal_v1 slot.operation.state <;> simp_all
  unfold operation_record_valid OperationSlot.record
  simp only [hvalid.operation_id, hvalid.request_id, hmessage, hsame, hvalid.resource_kind, haction,
    hvalid.resource_id, hepoch, hstate, hexpires, Bool.not_true, Bool.or_false, Bool.false_or]
  cases bytes_zero slot.operation.desired_digest <;> simp

/-- The loop over the resource records accepts exactly the valid ones, as long
as their documents fit the budget. -/
theorem import_resources_loop_eq (hconfig : config.Bounded) (records : List ResourceRecord) (retained : Nat)
    (hbudget : retained + (records.map (·.document_size)).sum ≤ config.desired_document_retained_bytes) :
    import_resources_loop config retained records =
      if records.all (resource_record_valid · config) then
        some (retained + (records.map (·.document_size)).sum)
      else none := by
  induction records generalizing retained with
  | nil => simp [import_resources_loop]
  | cons record records ih =>
    have hmax := hconfig.retained_le
    rw [List.map_cons, List.sum_cons] at hbudget ⊢
    have hroom : ¬ Word.sub config.desired_document_retained_bytes record.document_size < retained := by
      rw [Word.sub_eq (by omega) hmax]
      omega
    rw [import_resources_loop]
    cases hvalid : resource_record_valid record config with
    | false => simp [hvalid]
    | true =>
      rw [Word.add_eq (by omega), ih _ (by omega)]
      simp [hvalid, hroom, Nat.add_assoc]

/-- The loop over the event records accepts valid events with consecutive
cursors. -/
theorem import_events_loop_eq {info : CheckpointInfo} (hcount : info.event_count ≤ info.next_event_cursor)
    (hmax : info.next_event_cursor ≤ U64_MAX) (events : List Event) (index : Nat)
    (hindex : index + events.length ≤ info.event_count)
    (hvalid : ∀ event ∈ events, event_record_valid event = true)
    (hcursors : events.map (·.cursor) =
      List.range' (info.next_event_cursor - info.event_count + index) events.length) :
    import_events_loop info index events = true := by
  induction events generalizing index with
  | nil => rfl
  | cons event events ih =>
    simp only [List.map_cons, List.length_cons, List.range'_succ, List.cons.injEq] at hcursors hindex
    rw [import_events_loop, Word.sub_eq hcount hmax, Word.add_eq (by omega)]
    simp only [hvalid event (by simp), hcursors.1, beq_self_eq_true, Bool.true_and]
    exact ih (index + 1) (by omega) (fun e he => hvalid e (List.mem_cons_of_mem event he)) hcursors.2

theorem event_record_valid_of {event : Event} (hvalid : event.Valid) (hcursor : event.cursor ≠ 0) :
    event_record_valid event = true := by
  have hstate : operation_state_valid event.operation_state = true := by
    have hstarted := hvalid.state
    cases hcase : event.operation_state <;> simp_all [operation_started, operation_state_valid]
  simp [event_record_valid, hcursor, hvalid.operation_id, hvalid.resource_kind, hstate,
    hvalid.resource_id, hvalid.epoch]

theorem records_unique_iff {same : α → α → Bool} {records : List α} :
    records_unique same records = true ↔ records.Pairwise fun left right => same left right = false := by
  induction records with
  | nil => simp [records_unique]
  | cons record records ih => simp [records_unique, ih]

theorem record_bound_of {resource_kind : ResourceKind} {resource_id : Digest} {epoch : Nat}
    (hdistinct : impl.resources.Distinct resource_key) (hbound : Bound impl resource_kind resource_id epoch) :
    record_bound (impl.resources.live.map (·.record)) resource_kind resource_id epoch = true := by
  obtain ⟨i, slot, hholds, hkind, hid, hepoch⟩ := hbound
  unfold record_bound
  split
  · rename_i hnone
    rw [List.find?_eq_none] at hnone
    have hmiss := hnone slot.record (List.mem_map_of_mem hholds.mem_live)
    simp [ResourceSlot.record, hkind, hid] at hmiss
  · rename_i record hsome
    have hmatch := List.find?_some hsome
    obtain ⟨found, hfound, rfl⟩ := List.mem_map.mp (List.mem_of_find?_eq_some hsome)
    obtain ⟨j, hj⟩ := mem_live_iff.mp hfound
    simp only [ResourceSlot.record, Bool.and_eq_true, beq_iff_eq] at hmatch
    have hij : i = j := by
      refine hdistinct i j slot found hholds hj ?_
      simp [resource_key, hkind, hid, hmatch.1, hmatch.2]
    subst hij
    cases hholds.unique hj
    exact decide_eq_true hepoch

end records

/-- Two operation records that a checkpoint cannot both hold. -/
abbrev same_operation (left right : OperationRecord) : Bool :=
  left.operation.operation_id == right.operation.operation_id ||
    left.operation.request_id == right.operation.request_id

/-- The checkpoint that a complete export writes. -/
def checkpoint_of (impl : Impl) : Checkpoint :=
  { info :=
      { snapshot_generation := impl.snapshot_generation, next_event_cursor := impl.next_cursor
        resource_count := impl.resources.occupied, operation_count := impl.operations.occupied
        event_count := impl.event_count }
    resources := impl.resources.live.map (·.record)
    operations := impl.operations.live.map (·.record)
    events := retained_events impl }

/-- The records that a checkpoint check can still refuse. -/
def checkpoint_accepted (impl : Impl) : Bool :=
  (impl.resources.live.map (·.record)).all (resource_record_valid · impl.config) &&
    (impl.operations.live.map (·.record)).all operation_record_valid &&
    records_unique (fun left right => left.operation.operation_id == right.operation.operation_id ||
      left.operation.request_id == right.operation.request_id) (impl.operations.live.map (·.record))

/-- The state that an accepted import leaves behind. -/
def restored (impl : Impl) : Impl :=
  { impl with
    resources := overwrite (List.replicate impl.config.resource_capacity none)
      ((impl.resources.live.map (·.record)).map fun record => some record.slot)
    operations := overwrite (List.replicate impl.config.operation_capacity none)
      ((impl.operations.live.map (·.record)).map fun record => some record.slot)
    events := overwrite (List.replicate impl.config.event_capacity default) (retained_events impl)
    event_head := 0 }

section restore

variable {impl : Impl}

section

variable (hinv : Inv impl)

include hinv

/-- The tables and the ring hold no more than there is room for. -/
theorem Inv.counts_le :
    impl.resources.occupied ≤ impl.config.resource_capacity ∧
      impl.operations.occupied ≤ impl.config.operation_capacity ∧ impl.event_count ≤ impl.config.event_capacity :=
  ⟨hinv.resources.length ▸ List.countP_le_length, hinv.operations.length ▸ List.countP_le_length,
    hinv.ring.events_length ▸ hinv.ring.valid.count_le⟩

/-- An export into arrays as large as the tables is complete. -/
theorem export_complete :
    export_v1 impl true impl.config.resource_capacity true impl.config.operation_capacity true
      impl.config.event_capacity true = (.OK, some (checkpoint_of impl)) := by
  obtain ⟨hresources, hoperations, hevents⟩ := hinv.counts_le
  simp [export_v1, checkpoint_of, Nat.not_lt.mpr hresources, Nat.not_lt.mpr hoperations, Nat.not_lt.mpr hevents]

variable (hrecords : RecordsInv impl)

include hrecords

theorem restorable_iff : Restorable impl ↔ checkpoint_accepted impl = true := by
  have hresource : (impl.resources.live.map (·.record)).all (resource_record_valid · impl.config) = true ↔
      ∀ i slot, impl.resources.Holds i slot → slot.status.desired_presence = .PRESENT →
        bytes_zero slot.status.desired_digest = false := by
    simp only [List.all_map, List.all_eq_true, Function.comp_apply, forall_live_iff]
    exact forall₃_congr fun i slot hholds =>
      resource_record_valid_iff (hrecords.resources i slot hholds) (hinv.resources.observed_le i slot hholds)
  have hoperation : (impl.operations.live.map (·.record)).all operation_record_valid = true ↔
      ∀ j slot, impl.operations.Holds j slot → bytes_zero slot.operation.desired_digest = false ∧
        slot.operation.created_at_ms ≤ slot.operation.updated_at_ms := by
    simp only [List.all_map, List.all_eq_true, Function.comp_apply, forall_live_iff]
    exact forall₃_congr fun j slot hholds => operation_record_valid_iff (hrecords.operations j slot hholds)
  have hids : records_unique same_operation (impl.operations.live.map (·.record)) = true ↔
      impl.operations.Distinct (·.operation.operation_id) := by
    have hrequests := distinct_iff_pairwise.mp hinv.operations.requests
    rw [records_unique_iff, List.pairwise_map, distinct_iff_pairwise]
    constructor
    · intro hpairs
      exact hpairs.imp fun hpair => by simp_all [OperationSlot.record]
    · intro hpairs
      exact (hpairs.and hrequests).imp fun hpair => by simp_all [OperationSlot.record]
  unfold checkpoint_accepted
  rw [Bool.and_eq_true, Bool.and_eq_true, hresource, hoperation, hids]
  exact ⟨fun h => ⟨⟨h.digests, h.operations⟩, h.ids⟩, fun ⟨⟨hd, ho⟩, hi⟩ => ⟨hd, ho, hi⟩⟩

theorem import_events_accepted : import_events_loop (checkpoint_of impl).info 0 (retained_events impl) = true := by
  have hcount := hinv.ring.count_lt
  have hlength : (retained_events impl).length = impl.event_count := by simp [retained_events]
  refine import_events_loop_eq hcount.le hinv.ring.cursor_le _ 0 (by simp [checkpoint_of, hlength]) ?_
    hinv.retained_cursors
  intro event hmem
  have hcursor := List.mem_map_of_mem (f := (·.cursor)) hmem
  rw [hinv.retained_cursors, List.mem_range'_1] at hcursor
  rw [retained_events_eq_ring hinv.ring.events_length] at hmem
  exact event_record_valid_of (hrecords.events event hmem).1 (by omega)

/-- Of the uniqueness and binding checks, only the one on operation ids can
fail. -/
theorem checkpoint_inputs_accepted :
    checkpoint_inputs_unique_and_bound (impl.resources.live.map (·.record))
        (impl.operations.live.map (·.record)) (retained_events impl) =
      records_unique same_operation (impl.operations.live.map (·.record)) := by
  have hresources : records_unique (fun left right : ResourceRecord =>
      left.status.resource_kind == right.status.resource_kind &&
        left.status.resource_id == right.status.resource_id) (impl.resources.live.map (·.record)) = true := by
    rw [records_unique_iff, List.pairwise_map]
    refine (distinct_iff_pairwise.mp hinv.resources.distinct).imp fun hpair => ?_
    simpa [resource_key, ResourceSlot.record] using hpair
  have hoperations : (impl.operations.live.map (·.record)).all (fun record =>
      record_bound (impl.resources.live.map (·.record)) record.operation.resource_kind
        record.operation.resource_id record.operation.desired_epoch) = true := by
    simp only [List.all_map, List.all_eq_true, Function.comp_apply, forall_live_iff]
    exact fun j slot hholds => record_bound_of hinv.resources.distinct (hinv.operations.bound j slot hholds)
  have hevents : (retained_events impl).all (fun event =>
      record_bound (impl.resources.live.map (·.record)) event.resource_kind event.resource_id
        event.desired_epoch) = true := by
    simp only [List.all_eq_true]
    intro event hmem
    rw [retained_events_eq_ring hinv.ring.events_length] at hmem
    exact record_bound_of hinv.resources.distinct (hrecords.events event hmem).2
  rw [checkpoint_inputs_unique_and_bound, hresources, hoperations, hevents]
  simp

/-- Restoring a state succeeds or is refused as invalid, depending only on the
records that can still be refused. -/
theorem restore_eq (hgeneration : impl.snapshot_generation < U64_MAX) (hcursor : impl.next_cursor < U64_MAX) :
    restore impl true true =
      if checkpoint_accepted impl then (.OK, restored impl) else (.INVALID_ARG, initial impl.config) := by
  obtain ⟨hresources, hoperations, hevents⟩ := hinv.counts_le
  have hcount := hinv.ring.count_lt
  have hpos := hinv.generation_pos
  have hretained : ((impl.resources.live.map (·.record)).map (·.document_size)).sum =
      impl.retained_document_bytes := by
    rw [hinv.resources.retained_eq, total_eq_sum, List.map_map]
    rfl
  have hloop := import_resources_loop_eq hinv.config (impl.resources.live.map (·.record)) 0
    (by rw [hretained, Nat.zero_add]; exact hinv.resources.retained_le)
  rw [hretained, Nat.zero_add] at hloop
  have htake {α β : Type} (t : SlotTable α) (record : α → β) :
      (t.live.map record).take t.occupied = t.live.map record := by
    rw [occupied_eq]
    exact List.take_of_length_le (by simp)
  have hevent_take : (retained_events impl).take impl.event_count = retained_events impl :=
    List.take_of_length_le (by simp [retained_events])
  have hempty : ∀ {α : Type} (n : Nat), occupied (List.replicate n (none : Option α)) = 0 := by
    simp [occupied]
  have haccepted := import_events_accepted hinv hrecords
  unfold restore
  rw [export_complete hinv]
  simp only [checkpoint_of] at haccepted ⊢
  unfold import_v1
  simp only [Option.getD_some, Option.isNone_some, htake, hevent_take, initial,
    hempty, hloop, haccepted, checkpoint_inputs_accepted hinv hrecords, Bool.and_false, Bool.or_false,
    Bool.not_true, bne_self_eq_false]
  have hwords : ((impl.snapshot_generation ≠ 0 ∧ impl.snapshot_generation ≠ U64_MAX) ∧
      impl.next_cursor ≠ 0) ∧ impl.next_cursor ≠ U64_MAX := by omega
  rw [if_neg (by simpa using ⟨⟨⟨hwords, decide_eq_false (Nat.not_lt.mpr hresources)⟩,
    decide_eq_false (Nat.not_lt.mpr hoperations)⟩, decide_eq_false (Nat.not_lt.mpr hevents)⟩)]
  unfold checkpoint_accepted
  cases hvalid : (impl.resources.live.map (·.record)).all (resource_record_valid · impl.config) with
  | false => simp
  | true =>
    cases hoperation : (impl.operations.live.map (·.record)).all operation_record_valid with
    | false => simp
    | true =>
      simp only [if_true, Bool.not_true, Bool.false_eq_true, if_false, if_neg (Nat.not_le.mpr hcount), Bool.true_and]
      cases hunique : records_unique same_operation (impl.operations.live.map (·.record)) with
      | false => simp
      | true => simp [restored]

end

/-- An imported resource record fills the slot that it was exported from. -/
theorem record_slot (hvalid : slot.Valid config) : slot.record.slot = slot := by
  have hlength := hvalid.document_le
  by_cases hsize : slot.desired_document_size = 0
  · cases slot
    simp_all [ResourceSlot.record, ResourceRecord.slot]
  · have htake : slot.desired_document.take slot.desired_document_size = slot.desired_document :=
      List.take_of_length_le hlength
    simp [ResourceSlot.record, ResourceRecord.slot, ResourceSlot.document_pointer, hsize, htake]

/-- Overwriting the beginning of an empty table with the entries of a packed
one rebuilds it. -/
theorem overwrite_packed {t : SlotTable α} (hpacked : t.Packed) :
    overwrite (List.replicate t.length none) (t.live.map some) = t := by
  unfold overwrite
  rw [List.length_map, List.drop_replicate]
  exact hpacked.eq_append

/-- With the operations packed, the restored state differs from the original
only in where its events are stored. -/
theorem similar_restored (hinv : Inv impl) (hrecords : RecordsInv impl) (hpacked : impl.operations.Packed) :
    Similar impl (restored impl) := by
  have hresources : (impl.resources.live.map (·.record)).map (fun record => some record.slot) =
      impl.resources.live.map some := by
    rw [List.map_map]
    refine List.map_congr_left fun slot hslot => ?_
    obtain ⟨i, hholds⟩ := mem_live_iff.mp hslot
    simp [record_slot (hrecords.resources i slot hholds)]
  have hoperations : (impl.operations.live.map (·.record)).map (fun record => some record.slot) =
      impl.operations.live.map some := by
    rw [List.map_map]
    rfl
  have hlength : (retained_events impl).length = impl.event_count := by simp [retained_events]
  have hevents := hinv.counts_le.2.2
  have hcells : (overwrite (List.replicate impl.config.event_capacity default) (retained_events impl)).length =
      impl.config.event_capacity := by
    simp only [overwrite, List.length_append, List.length_drop, List.length_replicate]
    omega
  refine ⟨hinv, ⟨overwrite (List.replicate impl.config.event_capacity default) (retained_events impl), 0,
    impl.event_count⟩, ⟨⟨?_, ?_⟩, ?_, ?_⟩, ?_⟩
  · exact hcells.symm ▸ hinv.config.event_pos
  · exact hcells.symm ▸ hevents
  · exact hcells
  · rw [← hlength, ← retained_events_eq_ring hinv.ring.events_length]
    exact RingBuffer.toList_append _ _
  · unfold restored with_ring
    rw [hresources, hoperations, ← hinv.resources.length, ← hinv.operations.length,
      overwrite_packed hrecords.packed, overwrite_packed hpacked]

end restore

/-- A call after which the state can still be restored: a submission carries a
payload and a new message id, the clock of a change is not behind the
creation of the changed operation, and a sweep leaves no free slot below an
occupied one. -/
def Checkpointable (impl : Impl) : Call → Prop
  | .submit_document envelope _ _ _ now_ms _ _ =>
    (sweep_v1 impl now_ms).2.operations.Packed ∧
      ∀ intent, envelope = some intent → intent.payload_size ≠ 0 ∧
        ∀ j slot, (sweep_v1 impl now_ms).2.operations.Holds j slot →
          slot.operation.operation_id = intent.message_id → slot.operation.request_id = intent.request_id
  | .transition_operation operation_id _ now_ms =>
    ∀ j slot, impl.operations.Holds j slot → some slot.operation.operation_id = operation_id →
      slot.operation.created_at_ms ≤ now_ms
  | .observe resource_kind resource_id observed_epoch _ _ now_ms =>
    ∀ j slot, impl.operations.Holds j slot → slot.operation.resource_kind = resource_kind →
      some slot.operation.resource_id = resource_id → slot.operation.desired_epoch = observed_epoch →
      slot.operation.created_at_ms ≤ now_ms
  | .sweep now_ms => (sweep_v1 impl now_ms).2.operations.Packed

/-- A run all of whose calls leave the state restorable. -/
def CheckpointableRun (impl : Impl) : List Call → Prop
  | [] => True
  | call :: calls => Checkpointable impl call ∧ CheckpointableRun (apply impl call) calls

section run

variable {impl : Impl}

section

variable (hrestorable : Restorable impl)

include hrestorable

theorem Restorable.sweep (now_ms : Nat) : Restorable (sweep_v1 impl now_ms).2 := by
  refine ⟨by simpa using hrestorable.digests,
    fun j slot hholds => hrestorable.operations j slot (holds_of_sweep hholds), ?_⟩
  intro i j a b ha hb hid
  exact hrestorable.ids i j a b (holds_of_sweep ha) (holds_of_sweep hb) hid

theorem Restorable.admission (a : Admission impl) (hpayload : a.envelope.payload_size ≠ 0)
    (hmessage : ∀ j slot, impl.operations.Holds j slot → slot.operation.operation_id = a.envelope.message_id →
      slot.operation.request_id = a.envelope.request_id) :
    Restorable a.result := by
  have hdigest : bytes_zero a.envelope.payload_digest = false := by
    by_contra hzero
    exact hpayload (a.intent.payload.mpr (Bool.eq_true_of_not_eq_false hzero))
  refine ⟨?_, ?_, ?_⟩
  · rw [a.result_resources]
    refine holds_set_forall hrestorable.digests a.i_lt fun hpresent => ?_
    have happly : a.action = .APPLY := by
      rcases a.action_valid with haction | haction
      · exact haction
      · unfold Admission.resource submitted_resource at hpresent
        cases hpreserve : a.preserve <;> simp [haction, hpreserve] at hpresent
    unfold Admission.resource submitted_resource
    cases a.preserve <;> simpa [happly] using hdigest
  · rw [a.result_operations]
    exact holds_set_forall hrestorable.operations a.j_lt ⟨hdigest, le_rfl⟩
  · rw [a.result_operations]
    refine hrestorable.ids.insert a.j_lt fun j slot hholds hid => ?_
    exact a.request_fresh hholds (hmessage j slot hholds hid)

theorem Restorable.transition (c : Transition impl) (hclock : c.slot.operation.created_at_ms ≤ c.now_ms) :
    Restorable c.result := by
  refine ⟨by simpa using hrestorable.digests, ?_, ?_⟩
  · rw [c.result_operations]
    exact holds_set_forall hrestorable.operations c.holds.lt ⟨(hrestorable.operations _ _ c.holds).1, hclock⟩
  · rw [c.result_operations]
    exact hrestorable.ids.replace c.holds rfl

theorem Restorable.observation (o : Observation impl)
    (hclock : ∀ j found, o.completed = some (j, found) → found.operation.created_at_ms ≤ o.now_ms) :
    Restorable o.result := by
  have hdigests : ∀ i slot, o.result.resources.Holds i slot → slot.status.desired_presence = .PRESENT →
      bytes_zero slot.status.desired_digest = false := by
    have hold := hrestorable.digests _ _ o.holds
    rw [o.result_resources]
    exact holds_set_forall hrestorable.digests o.holds.lt hold
  have hoperations := o.result_operations
  cases hcompleted : o.completed with
  | none =>
    rw [hcompleted, Option.elim_none] at hoperations
    exact ⟨hdigests, hoperations ▸ hrestorable.operations, hoperations ▸ hrestorable.ids⟩
  | some found =>
    rw [hcompleted, Option.elim_some] at hoperations
    obtain ⟨hholds, _⟩ := o.completed_spec hcompleted
    refine ⟨hdigests, ?_, ?_⟩
    · rw [hoperations]
      exact holds_set_forall hrestorable.operations hholds.lt
        ⟨(hrestorable.operations _ _ hholds).1, hclock found.1 found.2 hcompleted⟩
    · rw [hoperations]
      exact hrestorable.ids.replace hholds rfl

/-- A checkpointable call keeps the state restorable and its operations
packed. -/
theorem Restorable.apply (hpacked : impl.operations.Packed) (call : Call) (hcall : Checkpointable impl call) :
    Restorable (mesh_control_state.apply impl call) ∧ (mesh_control_state.apply impl call).operations.Packed := by
  cases call with
  | submit_document envelope action document document_size now_ms out_operation malloc =>
    obtain ⟨hswept, henvelope⟩ := hcall
    simp only [mesh_control_state.apply, submit_document_v1]
    cases envelope with
    | none => exact ⟨hrestorable, hpacked⟩
    | some envelope =>
      dsimp only
      obtain ⟨hpayload, hmessage⟩ := henvelope envelope rfl
      split
      · exact ⟨hrestorable, hpacked⟩
      rename_i hargs
      obtain ⟨hintent, hrequest, haction⟩ := submit_arguments_valid_spec (by simpa using hargs)
      rcases submit_swept_cases (sweep_v1 impl now_ms).2 (document.getD []) document_size now_ms malloc
        hintent hrequest haction with hsame | ⟨a, rfl, heq⟩
      · rw [hsame]
        exact ⟨hrestorable.sweep now_ms, hswept⟩
      · rw [heq]
        refine ⟨(hrestorable.sweep now_ms).admission a hpayload hmessage, ?_⟩
        rw [a.result_operations]
        exact hswept.insert a.free _
  | transition_operation operation_id next_state now_ms =>
    rcases transition_operation_cases impl operation_id next_state now_ms with
      hsame | ⟨c, hid, rfl, heq⟩
    · simp only [mesh_control_state.apply, hsame]
      exact ⟨hrestorable, hpacked⟩
    · simp only [mesh_control_state.apply, heq]
      obtain ⟨_, hmatch, _⟩ := find_eq_some c.found
      have hslot : some c.slot.operation.operation_id = operation_id := by
        rw [← hid, beq_iff_eq.mp hmatch]
      refine ⟨hrestorable.transition c (hcall c.j c.slot c.holds hslot), ?_⟩
      rw [c.result_operations]
      exact hpacked.replace c.holds _
  | observe resource_kind resource_id observed_epoch presence digest now_ms =>
    rcases observe_cases impl resource_kind resource_id observed_epoch presence digest now_ms with
      hsame | ⟨o, hkind, hid, hepoch, rfl, heq⟩
    · simp only [mesh_control_state.apply, hsame]
      exact ⟨hrestorable, hpacked⟩
    · simp only [mesh_control_state.apply, heq]
      refine ⟨hrestorable.observation o fun j found hcompleted => ?_, ?_⟩
      · obtain ⟨hholds, _, hfound_kind, hfound_id, hfound_epoch⟩ := o.completed_spec hcompleted
        exact hcall j found hholds (hfound_kind.trans hkind) (by rw [hfound_id, hid]) (hfound_epoch.trans hepoch)
      · rw [o.result_operations]
        cases hcompleted : o.completed with
        | none => exact hpacked
        | some found => exact hpacked.replace (o.completed_spec hcompleted).1 _
  | sweep now_ms => exact ⟨hrestorable.sweep now_ms, hcall⟩

end

theorem CheckpointableRun.restorable {calls : List Call} (hrun : CheckpointableRun impl calls)
    (hrestorable : Restorable impl) (hpacked : impl.operations.Packed) :
    Restorable (Machine.run mesh_control_state.apply impl calls) ∧
      (Machine.run mesh_control_state.apply impl calls).operations.Packed := by
  induction calls generalizing impl with
  | nil => exact ⟨hrestorable, hpacked⟩
  | cons call calls ih =>
    obtain ⟨hnext, hnext_packed⟩ := hrestorable.apply hpacked call hrun.1
    exact ih hrun.2 hnext hnext_packed

end run

/-- A reachable state whose counters are not exhausted is restored from its
checkpoint exactly when it is restorable; with its operations packed, no
later call can then tell the two states apart; and a run of checkpointable
calls reaches only such states. -/
theorem checkpoint_round_trip (config : ValidConfig) (calls : List Call)
    (hgeneration : (state_after config calls).snapshot_generation < U64_MAX)
    (hcursor : (state_after config calls).next_cursor < U64_MAX) :
    let impl := state_after config calls
    ((restore impl true true).1 = .OK ↔ Restorable impl) ∧
      (Restorable impl → impl.operations.Packed → ∃ impl', restore impl true true = (.OK, impl') ∧
        ∀ queries, Machine.answers ask impl' queries = Machine.answers ask impl queries) ∧
      (CheckpointableRun (initial config.1) calls → Restorable impl ∧ impl.operations.Packed) := by
  intro impl
  have hinv : Inv impl := inv_state_after config calls
  have hrecords : RecordsInv impl := recordsInv_state_after config calls
  have hrestore := restore_eq hinv hrecords hgeneration hcursor
  have hiff := restorable_iff hinv hrecords
  refine ⟨?_, ?_, ?_⟩
  · rw [hrestore, hiff]
    cases checkpoint_accepted impl <;> simp
  · intro hrestorable hpacked
    rw [if_pos (hiff.mp hrestorable)] at hrestore
    exact ⟨restored impl, hrestore, fun queries => ((similar_restored hinv hrecords hpacked).answers_eq queries).symm⟩
  · intro hrun
    refine hrun.restorable ⟨?_, ?_, ?_⟩ ?_
    all_goals simp [initial, Distinct, Packed]

def empty_payload_run : List Call :=
  [.submit_document (some { small_intent 1 0 with payload_size := 0, payload_digest := Bytes.zero 32 })
    .APPLY none 0 2 true true]

/-- An operation that is created at time 2 and changed at time 1. -/
def clock_back_run : List Call :=
  [.submit_document (some (small_intent 1 0)) .APPLY none 0 2 true true,
    .transition_operation (some (List.Vector.replicate 16 1)) .RUNNING 1]

def shared_message_run : List Call :=
  [.submit_document (some (small_intent 1 0)) .APPLY none 0 2 true true,
    .submit_document (some { small_intent 1 1 with request_id := List.Vector.replicate 16 2 }) .APPLY none
      0 2 true true]

/-- Tables for two operations. -/
def pair_config : ValidConfig :=
  ⟨{ small_config.1 with operation_capacity := 2 }, by decide⟩

/-- Two operations, of which the first is swept. -/
def swept_run : List Call :=
  [.submit_document (some (small_intent 1 0)) .APPLY none 0 2 true true,
    .submit_document (some (small_intent 2 1)) .APPLY none 0 2 true true,
    .transition_operation (some (List.Vector.replicate 16 1)) .FAILED 2, .sweep 5]

/-- One more submission. -/
def third_submission : Call :=
  .submit_document (some (small_intent 3 2)) .APPLY none 0 6 true true

/-- The import refuses the export of states that accepted submissions and
transitions lead to; and where a sweep left a free slot below an occupied
one, it succeeds, but after one more submission the two states list their
operations in different orders. -/
theorem checkpoint_diverges :
    (restore (state_after small_config empty_payload_run) true true).1 = .INVALID_ARG ∧
      (restore (state_after small_config clock_back_run) true true).1 = .INVALID_ARG ∧
      (restore (state_after pair_config shared_message_run) true true).1 = .INVALID_ARG ∧
      (restore (state_after pair_config swept_run) true true).1 = .OK ∧
      (apply (restore (state_after pair_config swept_run) true true).2 third_submission).operations.live ≠
        (apply (state_after pair_config swept_run) third_submission).operations.live := by
  decide +kernel

/-- The short run with an expired operation is restored. -/
theorem checkpoint_round_trip_expired_run : (restore (state_after small_config expired_run) true true).1 = .OK := by
  have hiff := (checkpoint_round_trip small_config expired_run (by decide +kernel) (by decide +kernel)).1
  have hinv := inv_state_after small_config expired_run
  have hrecords := recordsInv_state_after small_config expired_run
  exact hiff.mpr ((restorable_iff hinv hrecords).mpr (by decide +kernel))

end turbop2p.mesh_control_state
