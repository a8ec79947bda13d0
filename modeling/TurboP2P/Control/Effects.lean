import TurboP2P.Control.Step
import TurboP2P.Lib.RingBuffer

open turbop2p.mesh_control

namespace turbop2p.mesh_control_state

/-- The event `index` places after the oldest retained one. -/
def event_at (impl : Impl) (index : Nat) : Event :=
  impl.events.getD ((impl.event_head + index) % impl.config.event_capacity) default

def retained_events (impl : Impl) : List Event :=
  (List.range impl.event_count).map (event_at impl)

def ring (impl : Impl) : RingBuffer Event := ⟨impl.events, impl.event_head, impl.event_count⟩

theorem retained_events_eq_ring {impl : Impl} (hlength : impl.events.length = impl.config.event_capacity) :
    retained_events impl = (ring impl).toList := by
  unfold retained_events RingBuffer.toList
  congr 1
  funext index
  simp only [event_at, RingBuffer.get, ring, hlength]

section append_event

variable (impl : Impl) (operation : Operation) (now_ms : Nat)

@[simp] theorem append_event_config : (append_event impl operation now_ms).config = impl.config := by
  unfold append_event
  split <;> rfl

@[simp] theorem append_event_resources : (append_event impl operation now_ms).resources = impl.resources := by
  unfold append_event
  split <;> rfl

@[simp] theorem append_event_operations : (append_event impl operation now_ms).operations = impl.operations := by
  unfold append_event
  split <;> rfl

@[simp] theorem append_event_generation :
    (append_event impl operation now_ms).snapshot_generation = impl.snapshot_generation := by
  unfold append_event
  split <;> rfl

@[simp] theorem append_event_retained :
    (append_event impl operation now_ms).retained_document_bytes = impl.retained_document_bytes := by
  unfold append_event
  split <;> rfl

@[simp] theorem append_event_next_cursor :
    (append_event impl operation now_ms).next_cursor = Word.add impl.next_cursor 1 := by
  unfold append_event
  split <;> rfl

theorem ring_append_event (hlength : impl.events.length = impl.config.event_capacity) :
    ring (append_event impl operation now_ms) = (ring impl).push (event_of impl operation now_ms) := by
  unfold append_event RingBuffer.push ring
  simp only [hlength]
  split <;> rfl

end append_event

namespace Admission

variable {impl : Impl} (a : Admission impl)

@[simp] theorem result_config : a.result.config = impl.config := by
  simp [result, commit_submission]

@[simp] theorem result_resources : a.result.resources = impl.resources.set a.i (some a.resource) := by
  simp [result, commit_submission, resource]

@[simp] theorem result_operations : a.result.operations = impl.operations.set a.j (some ⟨0, a.operation⟩) := by
  simp [result, commit_submission, operation]

@[simp] theorem result_generation : a.result.snapshot_generation = Word.add impl.snapshot_generation 1 := by
  simp [result, commit_submission]

@[simp] theorem result_next_cursor : a.result.next_cursor = Word.add impl.next_cursor 1 := by
  simp [result, commit_submission]

@[simp] theorem result_retained :
    a.result.retained_document_bytes =
      if a.preserve then impl.retained_document_bytes
      else Word.add (Word.sub impl.retained_document_bytes a.previous) a.document_size := by
  simp [result, commit_submission]

theorem ring_result (hlength : impl.events.length = impl.config.event_capacity) :
    ring a.result = (ring impl).push (event_of impl a.operation a.now_ms) :=
  ring_append_event _ _ _ hlength

end Admission

namespace Transition

variable {impl : Impl} (c : Transition impl)

/-- The operation after the transition. -/
def operation : Operation :=
  { c.slot.operation with state := c.next_state, updated_at_ms := c.now_ms }

def written : OperationSlot :=
  { terminal_expires_at_ms :=
      if operation_state_is_terminal_v1 c.next_state then
        saturating_add c.now_ms impl.config.terminal_retention_ms
      else c.slot.terminal_expires_at_ms
    operation := c.operation }

@[simp] theorem result_config : c.result.config = impl.config := by
  simp [result, commit_transition]

@[simp] theorem result_resources : c.result.resources = impl.resources := by
  simp [result, commit_transition]

@[simp] theorem result_operations : c.result.operations = impl.operations.set c.j (some c.written) := by
  simp [result, commit_transition, written, operation]

@[simp] theorem result_generation : c.result.snapshot_generation = Word.add impl.snapshot_generation 1 := by
  simp [result, commit_transition]

@[simp] theorem result_next_cursor : c.result.next_cursor = Word.add impl.next_cursor 1 := by
  simp [result, commit_transition]

@[simp] theorem result_retained : c.result.retained_document_bytes = impl.retained_document_bytes := by
  simp [result, commit_transition]

theorem ring_result (hlength : impl.events.length = impl.config.event_capacity) :
    ring c.result = (ring impl).push (event_of impl c.operation c.now_ms) :=
  ring_append_event _ _ _ hlength

theorem holds : impl.operations.Holds c.j c.slot :=
  (SlotTable.find_eq_some c.found).1

end Transition

namespace Observation

variable {impl : Impl} (o : Observation impl)

/-- The completed operation after the observation. -/
def succeeded (found : OperationSlot) : Operation :=
  { found.operation with state := .SUCCEEDED, updated_at_ms := o.now_ms }

/-- The slot of the completed operation after the observation. -/
def written (found : OperationSlot) : OperationSlot :=
  { terminal_expires_at_ms := saturating_add o.now_ms impl.config.terminal_retention_ms
    operation := o.succeeded found }

@[simp] theorem result_config : o.result.config = impl.config := by
  unfold result commit_observation
  cases o.completed <;> simp

@[simp] theorem result_resources :
    o.result.resources =
      impl.resources.set o.i (some (observed_resource o.slot o.observed_epoch o.presence o.digest)) := by
  unfold result commit_observation
  cases o.completed <;> simp

@[simp] theorem result_operations :
    o.result.operations =
      o.completed.elim impl.operations fun found =>
        impl.operations.set found.1 (some (o.written found.2)) := by
  unfold result commit_observation
  cases o.completed <;> simp [written, succeeded]

@[simp] theorem result_generation : o.result.snapshot_generation = Word.add impl.snapshot_generation 1 := by
  unfold result commit_observation
  cases o.completed <;> simp

@[simp] theorem result_next_cursor :
    o.result.next_cursor = o.completed.elim impl.next_cursor fun _ => Word.add impl.next_cursor 1 := by
  unfold result commit_observation
  cases o.completed <;> simp

@[simp] theorem result_retained : o.result.retained_document_bytes = impl.retained_document_bytes := by
  unfold result commit_observation
  cases o.completed <;> simp

theorem ring_result (hlength : impl.events.length = impl.config.event_capacity) :
    ring o.result = o.completed.elim (ring impl) fun found =>
      (ring impl).push (event_of impl (o.succeeded found.2) o.now_ms) := by
  unfold result commit_observation
  cases o.completed with
  | none => rfl
  | some found => exact ring_append_event _ _ _ hlength

theorem holds : impl.resources.Holds o.i o.slot :=
  (SlotTable.find_eq_some o.found).1

/-- A completed operation is live and bound to the observed resource at the
observed epoch. -/
theorem completed_spec {j : Nat} {found : OperationSlot} (hcompleted : o.completed = some (j, found)) :
    impl.operations.Holds j found ∧ operation_state_is_terminal_v1 found.operation.state = false ∧
      found.operation.resource_kind = o.resource_kind ∧ found.operation.resource_id = o.resource_id ∧
      found.operation.desired_epoch = o.observed_epoch := by
  obtain ⟨hholds, hmatch, _⟩ := SlotTable.find_eq_some (o.matching _ hcompleted)
  simp only [Bool.and_eq_true, Bool.not_eq_true', beq_iff_eq] at hmatch
  exact ⟨hholds, hmatch.1.2, hmatch.1.1.1, hmatch.2, hmatch.1.1.2⟩

end Observation

section sweep

variable (impl : Impl) (now_ms : Nat)

/-- A sweep removes nothing exactly when no retained operation has expired. -/
theorem sweep_removed_eq_zero :
    (impl.operations.countP fun slot => slot.any (expired now_ms)) = 0 ↔
      impl.operations.clear (expired now_ms) = impl.operations := by
  rw [List.countP_eq_zero]
  constructor
  · intro hnone
    conv_rhs => rw [← List.map_id impl.operations]
    apply List.map_congr_left
    intro slot hslot
    have hkeep := hnone slot hslot
    cases slot with
    | none => rfl
    | some slot =>
      have hlive : expired now_ms slot = false := by simpa using hkeep
      simp [hlive]
  · intro hclear slot hslot
    obtain ⟨j, hj⟩ := List.mem_iff_getElem?.mp hslot
    cases slot with
    | none => simp
    | some slot =>
      have hholds : SlotTable.Holds (impl.operations.clear (expired now_ms)) j slot := by
        rw [hclear]
        exact hj
      simp [(SlotTable.holds_clear.mp hholds).2]

/-- The sweep clears the expired operations unless the generation counter is
exhausted. -/
theorem sweep_operations :
    (sweep_v1 impl now_ms).2.operations =
      if impl.snapshot_generation = U64_MAX then impl.operations
      else impl.operations.clear (expired now_ms) := by
  unfold sweep_v1
  split
  · rfl
  · dsimp only
    split <;> rfl

/-- What is retained after the sweep was retained before. -/
theorem holds_of_sweep {impl : Impl} {now_ms j : Nat} {slot : OperationSlot}
    (hholds : (sweep_v1 impl now_ms).2.operations.Holds j slot) : impl.operations.Holds j slot := by
  rw [sweep_operations] at hholds
  split at hholds
  · exact hholds
  · exact (SlotTable.holds_clear.mp hholds).1

@[simp] theorem sweep_config : (sweep_v1 impl now_ms).2.config = impl.config := by
  unfold sweep_v1
  split
  · rfl
  · dsimp only
    split <;> rfl

@[simp] theorem sweep_resources : (sweep_v1 impl now_ms).2.resources = impl.resources := by
  unfold sweep_v1
  split
  · rfl
  · dsimp only
    split <;> rfl

@[simp] theorem sweep_next_cursor : (sweep_v1 impl now_ms).2.next_cursor = impl.next_cursor := by
  unfold sweep_v1
  split
  · rfl
  · dsimp only
    split <;> rfl

@[simp] theorem sweep_retained : (sweep_v1 impl now_ms).2.retained_document_bytes = impl.retained_document_bytes := by
  unfold sweep_v1
  split
  · rfl
  · dsimp only
    split <;> rfl

@[simp] theorem ring_sweep : ring (sweep_v1 impl now_ms).2 = ring impl := by
  unfold sweep_v1
  split
  · rfl
  · dsimp only
    split <;> rfl

/-- A sweep that changes the state advances the generation. -/
theorem sweep_generation :
    (sweep_v1 impl now_ms).2 = impl ∨
      (impl.snapshot_generation ≠ U64_MAX ∧
        (sweep_v1 impl now_ms).2.snapshot_generation = Word.add impl.snapshot_generation 1) := by
  unfold sweep_v1
  split
  · exact .inl rfl
  · rename_i hgeneration
    dsimp only
    split
    · exact .inr ⟨hgeneration, rfl⟩
    · rename_i hremoved
      left
      have hclear := (sweep_removed_eq_zero impl now_ms).mp (by simpa using hremoved)
      rw [hclear]

end sweep

end turbop2p.mesh_control_state
