import TurboP2P.Control.History

open turbop2p.mesh_control
open SlotTable

namespace turbop2p.mesh_control_state

/-- What every resource slot keeps of the envelopes and observations that
wrote it. -/
structure ResourceSlot.Valid (config : Config) (slot : ResourceSlot) : Prop where
  resource_kind : resource_kind_valid slot.status.resource_kind = true
  resource_id : bytes_zero slot.status.resource_id = false
  epoch : slot.status.desired_epoch ≠ 0
  desired : slot.status.desired_presence = .PRESENT ∨
    (slot.status.desired_presence = .ABSENT ∧ bytes_zero slot.status.desired_digest = true)
  observed : (slot.status.observed_presence = .PRESENT ∧ bytes_zero slot.status.observed_digest = false ∧
      slot.status.observed_epoch ≠ 0) ∨
    (slot.status.observed_presence = .ABSENT ∧ bytes_zero slot.status.observed_digest = true)
  size_le : slot.desired_document_size ≤ config.desired_document_max_bytes
  document_le : slot.desired_document.length ≤ slot.desired_document_size

/-- What every operation slot keeps of the envelope that created it. -/
structure OperationSlot.Valid (slot : OperationSlot) : Prop where
  operation_id : bytes_zero slot.operation.operation_id = false
  request_id : bytes_zero slot.operation.request_id = false
  message_id : slot.operation.message_id = slot.operation.operation_id
  resource_kind : resource_kind_valid slot.operation.resource_kind = true
  action : slot.operation.action = .APPLY ∨ slot.operation.action = .DELETE
  resource_id : bytes_zero slot.operation.resource_id = false
  epoch : slot.operation.desired_epoch ≠ 0
  started : operation_started slot.operation.state = true
  expires : operation_state_is_terminal_v1 slot.operation.state = true ↔ slot.terminal_expires_at_ms ≠ 0

/-- What every retained event keeps of the operation that it reports. -/
structure Event.Valid (event : Event) : Prop where
  operation_id : bytes_zero event.operation_id = false
  resource_kind : resource_kind_valid event.resource_kind = true
  state : operation_started event.operation_state = true
  resource_id : bytes_zero event.resource_id = false
  epoch : event.desired_epoch ≠ 0

/-- Everything retained is well formed, and no resource is ever removed. -/
structure RecordsInv (impl : Impl) : Prop where
  resources : ∀ i slot, impl.resources.Holds i slot → slot.Valid impl.config
  packed : impl.resources.Packed
  operations : ∀ j slot, impl.operations.Holds j slot → slot.Valid
  events : ∀ event ∈ (ring impl).toList, event.Valid ∧
    Bound impl event.resource_kind event.resource_id event.desired_epoch

section resources

variable {impl : Impl}

theorem Admission.resource_valid (a : Admission impl) (hrecords : RecordsInv impl) : a.resource.Valid impl.config := by
  have hkey := a.resource_key_eq.trans a.slot_key
  simp only [resource_key, Prod.mk.injEq] at hkey
  -- The observed part of the slot and, for a kept document, its bytes come from before.
  have hobserved : (a.slot.status.observed_presence = .PRESENT ∧
      bytes_zero a.slot.status.observed_digest = false ∧ a.slot.status.observed_epoch ≠ 0) ∨
      (a.slot.status.observed_presence = .ABSENT ∧ bytes_zero a.slot.status.observed_digest = true) := by
    rcases a.target_cases with ⟨_, hholds, _⟩ | ⟨_, _, hfresh⟩
    · exact (hrecords.resources _ _ hholds).observed
    · exact .inr ⟨by simp [hfresh, fresh_resource], by simp [hfresh, fresh_resource, bytes_zero]⟩
  have hkept : a.preserve = true → a.slot.desired_document_size ≤ impl.config.desired_document_max_bytes ∧
      a.slot.desired_document.length ≤ a.slot.desired_document_size := by
    intro hpreserve
    rcases a.target_cases with ⟨_, hholds, _⟩ | ⟨hfind, _⟩
    · exact ⟨(hrecords.resources _ _ hholds).size_le, (hrecords.resources _ _ hholds).document_le⟩
    · simp [Admission.preserve, hfind] at hpreserve
  have hdesired : a.resource.status.desired_presence = .PRESENT ∨
      (a.resource.status.desired_presence = .ABSENT ∧
        bytes_zero a.resource.status.desired_digest = true) := by
    rcases a.action_valid with haction | haction
    · left
      unfold Admission.resource submitted_resource
      cases a.preserve <;> simp [haction]
    · right
      unfold Admission.resource submitted_resource
      cases a.preserve <;> simp [haction, bytes_zero]
  refine ⟨hkey.1 ▸ a.intent.resource_kind, hkey.2 ▸ a.intent.resource_id,
    a.resource_desired_epoch ▸ a.intent.epoch, hdesired, ?_, ?_, ?_⟩
  · unfold Admission.resource submitted_resource
    cases a.preserve <;> exact hobserved
  · rw [a.resource_document_size]
    split
    · rename_i hpreserve
      exact (hkept hpreserve).1
    · exact a.size_le
  · unfold Admission.resource submitted_resource
    cases hpreserve : a.preserve with
    | true => exact (hkept hpreserve).2
    | false => simp

theorem Observation.resource_valid (o : Observation impl) (hrecords : RecordsInv impl) :
    (observed_resource o.slot o.observed_epoch o.presence o.digest).Valid impl.config := by
  have hold := hrecords.resources _ _ o.holds
  refine ⟨hold.resource_kind, hold.resource_id, hold.epoch, hold.desired, ?_, hold.size_le, hold.document_le⟩
  rcases o.presence_digest with ⟨hpresent, hdigest⟩ | ⟨habsent, hdigest⟩
  · exact .inl ⟨hpresent, hdigest, o.epoch_pos⟩
  · exact .inr ⟨habsent, hdigest⟩

end resources

variable {j now_ms : Nat} {slot : OperationSlot}

section operations

variable {impl impl' : Impl}

theorem Admission.operation_valid (a : Admission impl) : OperationSlot.Valid ⟨0, a.operation⟩ where
  operation_id := a.intent.message_id
  request_id := a.request_id
  message_id := rfl
  resource_kind := a.intent.resource_kind
  action := a.action_valid
  resource_id := a.intent.resource_id
  epoch := a.intent.epoch
  started := rfl
  expires := by simp [Admission.operation, accepted_operation, operation_state_is_terminal_v1]

/-- A terminal operation always expires at a positive time. -/
theorem saturating_add_ne_zero {retention_ms : Nat} (hpos : 0 < retention_ms) :
    saturating_add now_ms retention_ms ≠ 0 := by
  unfold saturating_add U64_MAX
  split <;> omega

/-- Changing the state along an allowed edge keeps a slot valid, if the expiry
time follows. -/
theorem OperationSlot.Valid.change {slot' : OperationSlot} (hvalid : slot.Valid)
    (hbinding : SameBinding slot slot')
    (hallowed : operation_transition_allowed_v1 slot.operation.state slot'.operation.state = true)
    (hexpires : operation_state_is_terminal_v1 slot'.operation.state = true ↔
      slot'.terminal_expires_at_ms ≠ 0) : slot'.Valid := by
  have hstarted := started_transition hvalid.started hallowed
  refine ⟨?_, ?_, ?_, ?_, ?_, ?_, ?_, hstarted, hexpires⟩
  all_goals rw [hbinding]
  exacts [hvalid.operation_id, hvalid.request_id, hvalid.message_id, hvalid.resource_kind, hvalid.action,
    hvalid.resource_id, hvalid.epoch]

theorem Transition.written_valid (c : Transition impl) (hconfig : impl.config.Bounded)
    (hrecords : RecordsInv impl) : c.written.Valid := by
  have hold := hrecords.operations _ _ c.holds
  refine hold.change rfl c.allowed ?_
  cases hterminal : operation_state_is_terminal_v1 c.next_state with
  | true =>
    simp only [Transition.written, Transition.operation, hterminal, if_true, true_iff]
    exact saturating_add_ne_zero hconfig.retention_pos
  | false =>
    -- A terminal operation has no edge to another state, so the old slot was live.
    have hlive : ¬ operation_state_is_terminal_v1 c.slot.operation.state = true := by
      intro hold_terminal
      exact c.changes (terminal_transition hold_terminal c.allowed).symm
    have hzero : c.slot.terminal_expires_at_ms = 0 := by
      by_contra hne
      exact hlive (hold.expires.mpr hne)
    simp [Transition.written, Transition.operation, hterminal, hzero]

theorem Observation.written_valid (o : Observation impl) (hconfig : impl.config.Bounded)
    (hrecords : RecordsInv impl) {found : OperationSlot} (hcompleted : o.completed = some (j, found)) :
    (o.written found).Valid := by
  obtain ⟨hholds, hlive, _⟩ := o.completed_spec hcompleted
  have hold := hrecords.operations _ _ hholds
  refine hold.change rfl (succeeded_transition hold.started hlive) ?_
  simp only [Observation.written, Observation.succeeded, operation_state_is_terminal_v1, true_iff]
  exact saturating_add_ne_zero hconfig.retention_pos

end operations

section events

variable {impl impl' : Impl}

/-- The event that reports a valid operation is valid and bound as the
operation is. -/
theorem OperationSlot.Valid.event (hvalid : slot.Valid) (impl : Impl) (now_ms : Nat) :
    (event_of impl slot.operation now_ms).Valid :=
  ⟨hvalid.operation_id, hvalid.resource_kind, hvalid.started, hvalid.resource_id, hvalid.epoch⟩

/-- Pushing a valid event keeps all retained events valid. -/
theorem RecordsInv.events_push (hrecords : RecordsInv impl) (hinv : Inv impl) (hinv' : Inv impl')
    (hgrow : ResourcesGrow impl impl')
    (hring : ring impl' = (ring impl).push (event_of impl slot.operation now_ms))
    (hholds : impl'.operations.Holds j slot) (hvalid : slot.Valid) :
    ∀ event ∈ (ring impl').toList, event.Valid ∧
      Bound impl' event.resource_kind event.resource_id event.desired_epoch := by
  intro event hmem
  rw [hring, RingBuffer.toList_push_eq hinv.ring.valid, List.mem_append, List.mem_singleton] at hmem
  rcases hmem with hold | rfl
  · obtain ⟨hevent, hbound⟩ := hrecords.events event (List.mem_of_mem_drop hold)
    exact ⟨hevent, hbound.mono hgrow⟩
  · exact ⟨hvalid.event impl now_ms, hinv'.operations.bound j slot hholds⟩

theorem RecordsInv.events_frame (hrecords : RecordsInv impl) (hgrow : ResourcesGrow impl impl')
    (hring : ring impl' = ring impl) : ∀ event ∈ (ring impl').toList, event.Valid ∧
      Bound impl' event.resource_kind event.resource_id event.desired_epoch := by
  intro event hmem
  rw [hring] at hmem
  obtain ⟨hevent, hbound⟩ := hrecords.events event hmem
  exact ⟨hevent, hbound.mono hgrow⟩

end events

/-- Every step keeps the records valid. -/
theorem RecordsInv.step {impl impl' : Impl} (hrecords : RecordsInv impl) (hinv : Inv impl)
    (hstep : Step impl impl') : RecordsInv impl' := by
  have hinv' := hinv.step hstep
  have hgrow := hstep.resources_grow
  have hconfig := hstep.config_eq
  have hlength := hinv.ring.events_length
  cases hstep with
  | sweep now_ms =>
    refine ⟨by simpa using hrecords.resources, by simpa using hrecords.packed, ?_,
      hrecords.events_frame hgrow (by simp)⟩
    exact fun j slot hholds => hrecords.operations j slot (holds_of_sweep hholds)
  | submit a =>
    refine ⟨?_, ?_, ?_, ?_⟩
    · rw [a.result_resources, hconfig]
      exact holds_set_forall hrecords.resources a.i_lt (a.resource_valid hrecords)
    · rw [a.result_resources]
      rcases a.target_cases with ⟨_, hholds, _⟩ | ⟨_, hfree, _⟩
      · exact hrecords.packed.replace hholds _
      · exact hrecords.packed.insert hfree _
    · rw [a.result_operations]
      exact holds_set_forall hrecords.operations a.j_lt a.operation_valid
    · have hholds : a.result.operations.Holds a.j ⟨0, a.operation⟩ := by
        rw [a.result_operations]
        exact (holds_set a.j_lt).mpr (.inl ⟨rfl, rfl⟩)
      exact hrecords.events_push hinv hinv' hgrow (a.ring_result hlength) hholds a.operation_valid
  | transition c =>
    have hvalid := c.written_valid hinv.config hrecords
    refine ⟨by simpa using hrecords.resources, by simpa using hrecords.packed, ?_, ?_⟩
    · rw [c.result_operations]
      exact holds_set_forall hrecords.operations c.holds.lt hvalid
    · have hholds : c.result.operations.Holds c.j c.written := by
        rw [c.result_operations]
        exact (holds_set c.holds.lt).mpr (.inl ⟨rfl, rfl⟩)
      exact hrecords.events_push hinv hinv' hgrow (c.ring_result hlength) hholds hvalid
  | observe o =>
    have hring := o.ring_result hlength
    have hoperations := o.result_operations
    have hresources : ∀ i slot, o.result.resources.Holds i slot → slot.Valid o.result.config := by
      rw [o.result_resources, hconfig]
      exact holds_set_forall hrecords.resources o.holds.lt (o.resource_valid hrecords)
    have hpacked : o.result.resources.Packed := by
      rw [o.result_resources]
      exact hrecords.packed.replace o.holds _
    cases hcompleted : o.completed with
    | none =>
      rw [hcompleted] at hring hoperations
      refine ⟨hresources, hpacked, ?_, hrecords.events_frame hgrow hring⟩
      rw [show o.result.operations = impl.operations from hoperations]
      exact hrecords.operations
    | some found =>
      rw [hcompleted] at hring hoperations
      obtain ⟨hholds, _⟩ := o.completed_spec hcompleted
      have hvalid := o.written_valid hinv.config hrecords hcompleted
      refine ⟨hresources, hpacked, ?_, ?_⟩
      · rw [hoperations]
        exact holds_set_forall hrecords.operations hholds.lt hvalid
      · have hwritten : o.result.operations.Holds found.1 (o.written found.2) := by
          rw [hoperations]
          exact (holds_set hholds.lt).mpr (.inl ⟨rfl, rfl⟩)
        have hpush : ring o.result = (ring impl).push (event_of impl (o.written found.2).operation o.now_ms) := hring
        exact hrecords.events_push hinv hinv' hgrow hpush hwritten hvalid

theorem recordsInv_initial (config : ValidConfig) : RecordsInv (initial config.1) := by
  refine ⟨?_, ?_, ?_, ?_⟩
  · intro i slot hholds
    simp [initial] at hholds
  · intro i j slot _ hholds
    simp [initial] at hholds
  · intro j slot hholds
    simp [initial] at hholds
  · intro event hmem
    simp [ring, initial, RingBuffer.toList] at hmem

theorem recordsInv_state_after (config : ValidConfig) (calls : List Call) : RecordsInv (state_after config calls) := by
  have hboth := state_after_invariant (P := fun impl => Inv impl ∧ RecordsInv impl) config
    ⟨inv_initial config, recordsInv_initial config⟩
    (fun _ _ ⟨hinv, hrecords⟩ hstep => ⟨hinv.step hstep, hrecords.step hinv hstep⟩) calls
  exact hboth.2

end turbop2p.mesh_control_state
