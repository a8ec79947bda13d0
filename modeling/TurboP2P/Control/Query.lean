import TurboP2P.Control.Events
import TurboP2P.Control.Snapshot

open turbop2p.mesh_control

namespace turbop2p.mesh_control_state

/-- `mesh_control_state_usage_v1_t`. -/
structure Usage where
  resource_count : Nat
  operation_count : Nat
  event_count : Nat
  retained_document_bytes : Nat
  retained_document_capacity : Nat
  deriving DecidableEq

/-- The pointer to the owned document of a resource, null if nothing is
retained. -/
def ResourceSlot.document_pointer (slot : ResourceSlot) : Option (List UInt8) :=
  if slot.desired_document_size = 0 then none else some slot.desired_document

def get_resource_v1 (impl : Impl) (resource_kind : ResourceKind) (resource_id : Option Digest)
    (out_status : Bool) : Result × Option ResourceStatus :=
  match resource_id with
  | none => (.INVALID_ARG, none)
  | some resource_id =>
    if !out_status then (.INVALID_ARG, none)
    else
      match find_resource impl resource_kind resource_id with
      | none => (.EMPTY, none)
      | some (_, slot) => (.OK, some slot.status)

def get_operation_v1 (impl : Impl) (operation_id : Option Id) (out_operation : Bool) :
    Result × Option Operation :=
  match operation_id with
  | none => (.INVALID_ARG, none)
  | some operation_id =>
    if !out_operation then (.INVALID_ARG, none)
    else
      match find_operation impl operation_id with
      | none => (.EMPTY, none)
      | some (_, slot) => (.OK, some slot.operation)

/-- `mesh_control_state_get_desired_document_v1`: the document and its size. -/
def get_desired_document_v1 (impl : Impl) (resource_kind : ResourceKind) (resource_id : Option Digest)
    (out_document out_document_size : Bool) : Result × Option (Option (List UInt8) × Nat) :=
  match resource_id with
  | none => (.INVALID_ARG, none)
  | some resource_id =>
    if !out_document || !out_document_size then (.INVALID_ARG, none)
    else
      match find_resource impl resource_kind resource_id with
      | none => (.EMPTY, some (none, 0))
      | some (_, slot) => (.OK, some (slot.document_pointer, slot.desired_document_size))

def get_usage_v1 (impl : Impl) (out_usage : Bool) : Result × Option Usage :=
  if !out_usage then (.INVALID_ARG, none)
  else
    (.OK, some
      { resource_count := impl.resources.occupied, operation_count := impl.operations.occupied
        event_count := impl.event_count, retained_document_bytes := impl.retained_document_bytes
        retained_document_capacity := impl.config.desired_document_retained_bytes })

/-- The calls of the control state with their arguments. -/
inductive Query where
  | mutate (call : Call)
  | get_resource (resource_kind : ResourceKind) (resource_id : Option Digest) (out_status : Bool)
  | get_operation (operation_id : Option Id) (out_operation : Bool)
  | get_desired_document (resource_kind : ResourceKind) (resource_id : Option Digest)
      (out_document out_document_size : Bool)
  | get_usage (out_usage : Bool)
  | snapshot (resources : Bool) (resource_capacity : Nat) (out_resource_count operations : Bool)
      (operation_capacity : Nat) (out_operation_count out_event_cursor : Bool)
  | snapshot_page (expected_generation resource_offset : Nat) (resources : Bool)
      (resource_capacity operation_offset : Nat) (operations : Bool) (operation_capacity : Nat)
      (out_info : Bool)
  | events_after (cursor : Nat) (output : Bool) (output_capacity : Nat) (out_count out_next_cursor : Bool)

/-- What a call returns. -/
inductive Answer where
  | submitted (result : Result) (operation : Option Operation)
  | changed (result : Result)
  | swept (removed : Nat)
  | resource (result : Result) (status : Option ResourceStatus)
  | operation (result : Result) (operation : Option Operation)
  | document (result : Result) (document : Option (Option (List UInt8) × Nat))
  | usage (result : Result) (usage : Option Usage)
  | snapshot (result : Result) (snapshot : Option Snapshot)
  | page (result : Result) (page : Option SnapshotPage)
  | events (result : Result) (events : Option (List Event × Nat))

def call_answer (impl : Impl) : Call → Answer
  | .submit_document envelope action document document_size now_ms out_operation malloc =>
    let submitted :=
      submit_document_v1 impl envelope action document document_size now_ms out_operation malloc
    .submitted submitted.1 submitted.2.1
  | .transition_operation operation_id next_state now_ms =>
    .changed (transition_operation_v1 impl operation_id next_state now_ms).1
  | .observe resource_kind resource_id observed_epoch presence digest now_ms =>
    .changed (observe_v1 impl resource_kind resource_id observed_epoch presence digest now_ms).1
  | .sweep now_ms => .swept (sweep_v1 impl now_ms).1

def ask (impl : Impl) : Query → Answer × Impl
  | .mutate call => (call_answer impl call, apply impl call)
  | .get_resource resource_kind resource_id out_status =>
    let found := get_resource_v1 impl resource_kind resource_id out_status
    (.resource found.1 found.2, impl)
  | .get_operation operation_id out_operation =>
    let found := get_operation_v1 impl operation_id out_operation
    (.operation found.1 found.2, impl)
  | .get_desired_document resource_kind resource_id out_document out_document_size =>
    let found := get_desired_document_v1 impl resource_kind resource_id out_document out_document_size
    (.document found.1 found.2, impl)
  | .get_usage out_usage =>
    let usage := get_usage_v1 impl out_usage
    (.usage usage.1 usage.2, impl)
  | .snapshot resources resource_capacity out_resource_count operations operation_capacity
      out_operation_count out_event_cursor =>
    let snapshot := snapshot_v1 impl resources resource_capacity out_resource_count operations
      operation_capacity out_operation_count out_event_cursor
    (.snapshot snapshot.1 snapshot.2, impl)
  | .snapshot_page expected_generation resource_offset resources resource_capacity operation_offset
      operations operation_capacity out_info =>
    let page := snapshot_page_v1 impl expected_generation resource_offset resources resource_capacity
      operation_offset operations operation_capacity out_info
    (.page page.1 page.2, impl)
  | .events_after cursor output output_capacity out_count out_next_cursor =>
    let events := events_after_v1 impl cursor output output_capacity out_count out_next_cursor
    (.events events.1 events.2, impl)

/-- The state with its events stored in another ring. -/
def with_ring (impl : Impl) (r : RingBuffer Event) : Impl :=
  { impl with events := r.cells, event_head := r.head, event_count := r.count }

/-- A ring that stores the events of the state, possibly at other positions. -/
structure RingOf (impl : Impl) (r : RingBuffer Event) : Prop where
  valid : r.Valid
  length : r.cells.length = impl.config.event_capacity
  toList : r.toList = (ring impl).toList

/-- States that differ only in where their events are stored. -/
def Similar (impl impl' : Impl) : Prop :=
  Inv impl ∧ ∃ r, RingOf impl r ∧ impl' = with_ring impl r

section with_ring

variable {impl : Impl} {r : RingBuffer Event}

theorem RingOf.count_eq (hring : RingOf impl r) : r.count = impl.event_count := by
  have hlength := congrArg List.length hring.toList
  simpa [ring] using hlength

theorem Inv.with_ring (hinv : Inv impl) (hring : RingOf impl r) : Inv (with_ring impl r) := by
  have hcount := hring.count_eq
  refine ⟨hinv.config, ⟨hring.length, hring.valid, ?_, hinv.ring.cursor_le, ?_⟩, ⟨hinv.resources.length,
    hinv.resources.distinct, hinv.resources.retained_eq, hinv.resources.retained_le,
    hinv.resources.observed_le⟩, ⟨hinv.operations.length, hinv.operations.requests,
    hinv.operations.bound⟩, hinv.generation_pos, hinv.generation_le⟩
  · change r.count < impl.next_cursor
    rw [hcount]
    exact hinv.ring.count_lt
  · change r.toList.map (·.cursor) = List.range' (impl.next_cursor - r.count) r.count
    rw [hcount, hring.toList]
    exact hinv.ring.cursors

@[simp] theorem with_ring_config : (with_ring impl r).config = impl.config := rfl

@[simp] theorem with_ring_operations : (with_ring impl r).operations = impl.operations := rfl

@[simp] theorem with_ring_retained :
    (with_ring impl r).retained_document_bytes = impl.retained_document_bytes := rfl

@[simp] theorem with_ring_available :
    mutation_with_event_available (with_ring impl r) = mutation_with_event_available impl := rfl

@[simp] theorem with_ring_find_request (request_id : Id) :
    find_request (with_ring impl r) request_id = find_request impl request_id := rfl

@[simp] theorem with_ring_find_operation (operation_id : Id) :
    find_operation (with_ring impl r) operation_id = find_operation impl operation_id := rfl

@[simp] theorem with_ring_find_resource (resource_kind : ResourceKind) (resource_id : Digest) :
    find_resource (with_ring impl r) resource_kind resource_id =
      find_resource impl resource_kind resource_id := rfl

@[simp] theorem with_ring_target (envelope : Envelope) :
    target_resource (with_ring impl r) envelope = target_resource impl envelope := rfl

@[simp] theorem with_ring_completed (slot : ResourceSlot) (resource_kind : ResourceKind)
    (resource_id : Digest) (observed_epoch : Nat) (presence : Presence) (digest : Digest) :
    completed_operation (with_ring impl r) slot resource_kind resource_id observed_epoch presence digest =
      completed_operation impl slot resource_kind resource_id observed_epoch presence digest := rfl

theorem sweep_with_ring (now_ms : Nat) :
    sweep_v1 (with_ring impl r) now_ms = ((sweep_v1 impl now_ms).1, with_ring (sweep_v1 impl now_ms).2 r) := by
  have hgeneration : (with_ring impl r).snapshot_generation = impl.snapshot_generation := rfl
  unfold sweep_v1
  rw [hgeneration]
  split
  · rfl
  · dsimp only [with_ring_operations]
    split <;> rfl

/-- The log entry that ends every change, and its generation. -/
def logged (written : Impl) (operation : Operation) (now_ms : Nat) : Impl :=
  { append_event written operation now_ms with
    snapshot_generation := Word.add (append_event written operation now_ms).snapshot_generation 1 }

/-- One entry behind a change that leaves the events keeps both logs in step. -/
theorem RingOf.logged {written : Impl} (hring : RingOf impl r) (hinv : RingInv impl)
    (hconfig : written.config = impl.config) (hsame : ring written = ring impl) (operation : Operation)
    (now_ms : Nat) :
    ∃ r', RingOf (logged written operation now_ms) r' ∧
      mesh_control_state.logged (with_ring written r) operation now_ms =
        with_ring (mesh_control_state.logged written operation now_ms) r' := by
  have hlength : written.events.length = written.config.event_capacity := by
    rw [hconfig, ← hinv.events_length]
    exact congrArg (·.cells.length) hsame
  have hcells : (ring impl).cells.length = r.cells.length := hinv.events_length.trans hring.length.symm
  have hcount : r.count = written.event_count := hring.count_eq.trans (congrArg (·.count) hsame).symm
  have hpush : ring (mesh_control_state.logged written operation now_ms) = _ :=
    ring_append_event written operation now_ms hlength
  refine ⟨r.push (event_of written operation now_ms), ⟨hring.valid.push _, ?_, ?_⟩, ?_⟩
  · simpa [mesh_control_state.logged, hconfig] using hring.length
  · rw [hpush, hsame, RingBuffer.toList_push_eq hring.valid, RingBuffer.toList_push_eq hinv.valid, hring.toList,
      hcells, show (ring impl).count = r.count from hring.count_eq.symm]
  · unfold mesh_control_state.logged append_event RingBuffer.push with_ring
    simp only [hcount, hring.length, hconfig]
    split <;> rfl

/-- Two outcomes of one call: the same answer, and a state whose events are
stored elsewhere. -/
def Mirrors {γ ω : Type} (answer : γ → ω) (state : γ → Impl) (outcome outcome' : γ) : Prop :=
  answer outcome' = answer outcome ∧
    ∃ r, RingOf (state outcome) r ∧ state outcome' = with_ring (state outcome) r

theorem submit_swept_with_ring (hinv : Inv impl) (hring : RingOf impl r) (envelope : Envelope)
    (action : DesiredAction) (document : List UInt8) (document_size now_ms : Nat) (malloc : Bool) :
    Mirrors (fun submitted => (submitted.1, submitted.2.1)) (fun submitted => submitted.2.2)
      (submit_swept impl envelope action document document_size now_ms malloc)
      (submit_swept (with_ring impl r) envelope action document document_size now_ms malloc) := by
  have hexit : ∀ result : Result × Option Operation,
      Mirrors (fun submitted => (submitted.1, submitted.2.1)) (fun submitted => submitted.2.2)
        (result.1, result.2, impl) (result.1, result.2, with_ring impl r) :=
    fun _ => ⟨rfl, r, hring, rfl⟩
  unfold submit_swept
  simp only [with_ring_find_request, with_ring_find_resource, with_ring_config, with_ring_retained,
    with_ring_target, with_ring_operations, with_ring_available]
  cases find_request impl envelope.request_id with
  | some found => exact guard_rel (hexit (_, _)) (hexit (_, _))
  | none =>
    refine guard_rel (hexit (_, _)) (guard_rel (hexit (_, _)) ?_)
    split
    · refine guard_rel (hexit (_, _)) (guard_rel (hexit (_, _)) (guard_rel (hexit (_, _)) ?_))
      refine ⟨rfl, hring.logged hinv.ring ?_ ?_ _ _⟩ <;> rfl
    · exact hexit (_, _)

theorem transition_with_ring (hinv : Inv impl) (hring : RingOf impl r) (operation_id : Option Id)
    (next_state : OperationState) (now_ms : Nat) :
    Mirrors Prod.fst Prod.snd (transition_operation_v1 impl operation_id next_state now_ms)
      (transition_operation_v1 (with_ring impl r) operation_id next_state now_ms) := by
  have hexit : ∀ result : Result, Mirrors Prod.fst Prod.snd (result, impl) (result, with_ring impl r) :=
    fun _ => ⟨rfl, r, hring, rfl⟩
  unfold transition_operation_v1
  simp only [with_ring_find_operation, with_ring_available]
  cases operation_id with
  | none => exact hexit _
  | some operation_id =>
    refine guard_rel (hexit _) ?_
    cases find_operation impl operation_id with
    | none => exact hexit _
    | some found =>
      refine guard_rel (hexit _) (guard_rel (hexit _) (guard_rel (hexit _) ?_))
      refine ⟨rfl, hring.logged hinv.ring ?_ ?_ _ _⟩ <;> rfl

theorem observe_with_ring (hinv : Inv impl) (hring : RingOf impl r) (resource_kind : ResourceKind)
    (resource_id : Option Digest) (observed_epoch : Nat) (presence : Presence) (digest : Option Digest)
    (now_ms : Nat) :
    Mirrors Prod.fst Prod.snd
      (observe_v1 impl resource_kind resource_id observed_epoch presence digest now_ms)
      (observe_v1 (with_ring impl r) resource_kind resource_id observed_epoch presence digest now_ms) := by
  have hexit : ∀ result : Result, Mirrors Prod.fst Prod.snd (result, impl) (result, with_ring impl r) :=
    fun _ => ⟨rfl, r, hring, rfl⟩
  have hgeneration : (with_ring impl r).snapshot_generation = impl.snapshot_generation := rfl
  have hnext : (with_ring impl r).next_cursor = impl.next_cursor := rfl
  unfold observe_v1
  simp only [with_ring_find_resource, with_ring_completed, hgeneration, hnext]
  split
  · rename_i resource_id digest
    refine guard_rel (hexit _) ?_
    cases find_resource impl resource_kind resource_id with
    | none => exact hexit _
    | some found =>
      refine guard_rel (hexit _) (guard_rel (hexit _) (guard_rel (hexit _) ?_))
      cases completed_operation impl found.2 resource_kind resource_id observed_epoch presence digest with
      | none => exact ⟨rfl, r, ⟨hring.valid, hring.length, hring.toList⟩, rfl⟩
      | some completed =>
        refine ⟨rfl, hring.logged hinv.ring ?_ ?_ _ _⟩ <;> rfl
  · exact hexit _

theorem ringOf_sweep (hring : RingOf impl r) (now_ms : Nat) : RingOf (sweep_v1 impl now_ms).2 r :=
  ⟨hring.valid, by simpa using hring.length, by simpa using hring.toList⟩

end with_ring

/-- A mutating call gives similar states the same answer and keeps them
similar. -/
theorem Similar.call {impl impl' : Impl} (hsimilar : Similar impl impl') (call : Call) :
    call_answer impl' call = call_answer impl call ∧ Similar (apply impl call) (apply impl' call) := by
  obtain ⟨hinv, r, hring, rfl⟩ := hsimilar
  have hinv' := apply_invariant (fun _ _ hinv hstep => Inv.step hinv hstep) impl call hinv
  cases call with
  | submit_document envelope action document document_size now_ms out_operation malloc =>
    simp only [call_answer, apply, submit_document_v1] at hinv' ⊢
    cases envelope with
    | none => exact ⟨rfl, hinv, r, hring, rfl⟩
    | some envelope =>
      by_cases hargs : submit_arguments_valid envelope action document document_size now_ms out_operation = true
      · simp only [hargs, Bool.not_true, Bool.false_eq_true, if_false] at hinv' ⊢
        rw [sweep_with_ring]
        obtain ⟨hanswer, r', hring', heq⟩ := submit_swept_with_ring (hinv.step (.sweep now_ms))
          (ringOf_sweep hring now_ms) envelope action (document.getD []) document_size now_ms malloc
        simp only [Prod.mk.injEq] at hanswer
        rw [hanswer.1, hanswer.2]
        exact ⟨rfl, hinv', r', hring', heq⟩
      · simp only [hargs, Bool.not_false, if_true]
        exact ⟨trivial, hinv, r, hring, rfl⟩
  | transition_operation operation_id next_state now_ms =>
    obtain ⟨hanswer, r', hring', heq⟩ := transition_with_ring hinv hring operation_id next_state now_ms
    exact ⟨congrArg Answer.changed hanswer, hinv', r', hring', heq⟩
  | observe resource_kind resource_id observed_epoch presence digest now_ms =>
    obtain ⟨hanswer, r', hring', heq⟩ :=
      observe_with_ring hinv hring resource_kind resource_id observed_epoch presence digest now_ms
    exact ⟨congrArg Answer.changed hanswer, hinv', r', hring', heq⟩
  | sweep now_ms =>
    simp only [call_answer, apply, sweep_with_ring]
    exact ⟨trivial, hinv', r, ringOf_sweep hring now_ms, rfl⟩

/-- The events that a call copies do not depend on where they are stored. -/
theorem events_after_with_ring {impl : Impl} {r : RingBuffer Event} (hinv : Inv impl)
    (hring : RingOf impl r) (cursor : Nat) (output : Bool) (output_capacity : Nat)
    (out_count out_next_cursor : Bool) :
    events_after_v1 (with_ring impl r) cursor output output_capacity out_count out_next_cursor =
      events_after_v1 impl cursor output output_capacity out_count out_next_cursor := by
  have hinv' := hinv.with_ring hring
  have hevents : retained_events (with_ring impl r) = retained_events impl := by
    rw [retained_events_eq_ring hinv'.ring.events_length, retained_events_eq_ring hinv.ring.events_length]
    exact hring.toList
  have hcount : (with_ring impl r).event_count = impl.event_count := hring.count_eq
  have hnext : (with_ring impl r).next_cursor = impl.next_cursor := rfl
  have hvalid := hinv'.events_after cursor output_capacity
  rw [hevents, hcount, hnext, ← hinv.events_after] at hvalid
  by_cases hpointers : (!out_count || !out_next_cursor || (output_capacity != 0 && !output)) = true
  · simp only [events_after_v1, hpointers, if_true]
  · simp only [events_after_v1, hpointers, Bool.not_true, Bool.and_false, Bool.or_self,
      Bool.false_eq_true, if_false] at hvalid ⊢
    exact hvalid

/-- No call can tell similar states apart, and it keeps them similar. -/
theorem Similar.ask {impl impl' : Impl} (hsimilar : Similar impl impl') (query : Query) :
    (mesh_control_state.ask impl query).1 = (mesh_control_state.ask impl' query).1 ∧
      Similar (mesh_control_state.ask impl query).2 (mesh_control_state.ask impl' query).2 := by
  cases query with
  | mutate call =>
    obtain ⟨hanswer, hnext⟩ := hsimilar.call call
    exact ⟨hanswer.symm, hnext⟩
  | get_usage out_usage =>
    refine ⟨?_, hsimilar⟩
    obtain ⟨_, r, hring, rfl⟩ := hsimilar
    have hcount : (with_ring impl r).event_count = impl.event_count := hring.count_eq
    simp only [mesh_control_state.ask, get_usage_v1, hcount]
    rfl
  | events_after cursor output output_capacity out_count out_next_cursor =>
    refine ⟨?_, hsimilar⟩
    obtain ⟨hinv, r, hring, rfl⟩ := hsimilar
    simp only [mesh_control_state.ask, events_after_with_ring hinv hring]
  | _ =>
    -- the other queries read nothing of the ring
    refine ⟨?_, hsimilar⟩
    obtain ⟨_, r, _, rfl⟩ := hsimilar
    rfl

/-- Similar states give the same answers to every sequence of calls. -/
theorem Similar.answers_eq {impl impl' : Impl} (hsimilar : Similar impl impl') (queries : List Query) :
    Machine.answers mesh_control_state.ask impl queries = Machine.answers mesh_control_state.ask impl' queries :=
  Machine.answers_eq_of_simulation (fun _ _ query hrel => hrel.ask query) hsimilar queries

end turbop2p.mesh_control_state
