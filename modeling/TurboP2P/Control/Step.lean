import TurboP2P.Control.State
import Mathlib.Data.List.Chain
import Mathlib.Logic.Relation

open turbop2p.mesh_control

namespace turbop2p.mesh_control_state

/-- A submission that passed every check of `submit_document_v1` in the swept
state `impl`, with the slots it is about to write. -/
structure Admission (impl : Impl) where
  envelope : Envelope
  action : DesiredAction
  document : List UInt8
  document_size : Nat
  now_ms : Nat
  i : Nat
  slot : ResourceSlot
  j : Nat
  intent : envelope.WellFormedIntent
  request_id : bytes_zero envelope.request_id = false
  action_valid : action = .APPLY ∨ action = .DELETE
  fresh_request : find_request impl envelope.request_id = none
  size_le : document_size ≤ impl.config.desired_document_max_bytes
  budget : (action == .DELETE && document_size == 0 &&
      (find_resource impl envelope.resource_kind envelope.resource_id).isSome) = false →
    Word.sub impl.retained_document_bytes
      ((find_resource impl envelope.resource_kind envelope.resource_id).elim 0
        fun found => found.2.desired_document_size) ≤
      Word.sub impl.config.desired_document_retained_bytes document_size
  target : target_resource impl envelope = some (i, slot)
  free : impl.operations.free = some j
  generation : impl.snapshot_generation ≠ U64_MAX
  cursor : impl.next_cursor ≠ U64_MAX
  epochs : (find_resource impl envelope.resource_kind envelope.resource_id).elim
    (envelope.precondition_epoch = 0) fun found =>
      envelope.precondition_epoch = found.2.status.desired_epoch ∧
        found.2.status.desired_epoch < envelope.epoch

namespace Admission

variable {impl : Impl}

/-- The admitted deletion keeps the last document of its resource. -/
def preserve (a : Admission impl) : Bool :=
  a.action == .DELETE && a.document_size == 0 &&
    (find_resource impl a.envelope.resource_kind a.envelope.resource_id).isSome

/-- The document bytes that the admitted submission releases. -/
def previous (a : Admission impl) : Nat :=
  (find_resource impl a.envelope.resource_kind a.envelope.resource_id).elim 0
    fun found => found.2.desired_document_size

/-- The resource slot that the admitted submission writes. -/
def resource (a : Admission impl) : ResourceSlot :=
  submitted_resource a.slot a.envelope a.action a.preserve a.document a.document_size

/-- The operation that the admitted submission creates. -/
def operation (a : Admission impl) : Operation :=
  accepted_operation a.envelope a.action a.now_ms

/-- The state after the admitted submission. -/
def result (a : Admission impl) : Impl :=
  commit_submission impl a.i a.slot a.j a.envelope a.action a.preserve a.document a.document_size
    a.previous a.now_ms

end Admission

/-- An accepted change of an operation's state. -/
structure Transition (impl : Impl) where
  operation_id : Id
  j : Nat
  slot : OperationSlot
  next_state : OperationState
  now_ms : Nat
  found : find_operation impl operation_id = some (j, slot)
  allowed : operation_transition_allowed_v1 slot.operation.state next_state = true
  changes : slot.operation.state ≠ next_state
  generation : impl.snapshot_generation ≠ U64_MAX
  cursor : impl.next_cursor ≠ U64_MAX

def Transition.result {impl : Impl} (c : Transition impl) : Impl :=
  commit_transition impl c.j c.slot c.next_state c.now_ms

/-- An accepted observation that changes the observed state of a resource. -/
structure Observation (impl : Impl) where
  resource_kind : ResourceKind
  resource_id : Digest
  i : Nat
  slot : ResourceSlot
  completed : Option (Nat × OperationSlot)
  observed_epoch : Nat
  presence : Presence
  digest : Digest
  now_ms : Nat
  found : find_resource impl resource_kind resource_id = some (i, slot)
  epoch_pos : observed_epoch ≠ 0
  presence_digest : (presence = .PRESENT ∧ bytes_zero digest = false) ∨
    (presence = .ABSENT ∧ bytes_zero digest = true)
  epoch_ge : slot.status.observed_epoch ≤ observed_epoch
  epoch_le : observed_epoch ≤ slot.status.desired_epoch
  matching : ∀ found, completed = some found →
    matching_operation impl resource_kind resource_id observed_epoch = some found
  generation : impl.snapshot_generation ≠ U64_MAX
  cursor : completed.isSome = true → impl.next_cursor ≠ U64_MAX

/-- The state after an accepted observation. -/
def Observation.result {impl : Impl} (o : Observation impl) : Impl :=
  commit_observation impl o.i o.slot o.completed o.observed_epoch o.presence o.digest o.now_ms

/-- Everything that one call can do to the state. A submission is a sweep
followed by an admission. -/
inductive Step (impl : Impl) : Impl → Prop
  | sweep (now_ms : Nat) : Step impl (sweep_v1 impl now_ms).2
  | submit (a : Admission impl) : Step impl a.result
  | transition (c : Transition impl) : Step impl c.result
  | observe (o : Observation impl) : Step impl o.result

variable {action : DesiredAction} {envelope : Envelope}

theorem submit_arguments_valid_spec {document : Option (List UInt8)} {document_size now_ms : Nat}
    {out_operation : Bool}
    (hargs : submit_arguments_valid envelope action document document_size now_ms out_operation = true) :
    envelope.WellFormedIntent ∧ bytes_zero envelope.request_id = false ∧
      (action = .APPLY ∨ action = .DELETE) := by
  unfold submit_arguments_valid at hargs
  simp only [Bool.not_eq_true', Bool.or_eq_false_iff, Bool.and_eq_false_iff, bne_eq_false_iff_eq] at hargs
  obtain ⟨⟨⟨⟨⟨⟨⟨_, hkind⟩, haction⟩, _⟩, hvalid⟩, hrequest⟩, _⟩, _⟩ := hargs
  exact ⟨envelope_validate_intent hkind hvalid, hrequest, haction⟩

/-- After the sweep a submission either leaves the state alone or is admitted,
and then it succeeds. -/
theorem submit_swept_cases (impl : Impl) (document : List UInt8) (document_size now_ms : Nat) (malloc : Bool)
    (hintent : envelope.WellFormedIntent) (hrequest : bytes_zero envelope.request_id = false)
    (haction : action = .APPLY ∨ action = .DELETE) :
    (submit_swept impl envelope action document document_size now_ms malloc).2.2 = impl ∨
      ∃ a : Admission impl, a.envelope = envelope ∧
        submit_swept impl envelope action document document_size now_ms malloc =
          (.OK, some a.operation, a.result) := by
  unfold submit_swept
  cases hfind : find_request impl envelope.request_id with
  | some found =>
    left
    dsimp only
    split <;> rfl
  | none =>
    dsimp only
    by_cases hsize : impl.config.desired_document_max_bytes < document_size
    · rw [if_pos hsize]
      exact .inl rfl
    rw [if_neg hsize]
    split
    · exact .inl rfl
    rename_i hbudget
    split
    · rename_i i slot j htarget hfree
      split
      · exact .inl rfl
      rename_i havailable
      split
      · exact .inl rfl
      rename_i hepochs
      split
      · exact .inl rfl
      right
      simp only [mutation_with_event_available, Bool.not_eq_true', Bool.not_eq_false, Bool.and_eq_true,
        bne_iff_ne, ne_eq] at havailable
      refine ⟨
        { envelope, action, document, document_size, now_ms, i, slot, j
          intent := hintent
          request_id := hrequest
          action_valid := haction
          fresh_request := hfind
          size_le := by omega
          budget := ?_
          target := htarget
          free := hfree
          generation := havailable.1
          cursor := havailable.2
          epochs := ?_ }, rfl, rfl⟩
      · intro hpreserve
        simp only [hpreserve, Bool.not_false, Bool.true_and, decide_eq_true_eq] at hbudget
        omega
      · cases hresource : find_resource impl envelope.resource_kind envelope.resource_id with
        | none => simpa [epoch_conflict, hresource] using hepochs
        | some found => simpa [epoch_conflict, hresource] using hepochs
    · exact .inl rfl

theorem transition_operation_cases (impl : Impl) (operation_id : Option Id)
    (next_state : OperationState) (now_ms : Nat) :
    (transition_operation_v1 impl operation_id next_state now_ms).2 = impl ∨
      ∃ c : Transition impl, some c.operation_id = operation_id ∧ c.now_ms = now_ms ∧
        transition_operation_v1 impl operation_id next_state now_ms = (.OK, c.result) := by
  unfold transition_operation_v1
  cases operation_id with
  | none => exact .inl rfl
  | some operation_id =>
    dsimp only
    split
    · exact .inl rfl
    cases hfind : find_operation impl operation_id with
    | none => exact .inl rfl
    | some found =>
      obtain ⟨j, slot⟩ := found
      dsimp only
      split
      · exact .inl rfl
      rename_i hallowed
      split
      · exact .inl rfl
      rename_i hchanges
      split
      · exact .inl rfl
      rename_i havailable
      right
      simp only [mutation_with_event_available, Bool.not_eq_true', Bool.not_eq_false, Bool.and_eq_true,
        bne_iff_ne, ne_eq] at havailable
      exact ⟨
        { operation_id, j, slot, next_state, now_ms
          found := hfind
          allowed := by simpa using hallowed
          changes := hchanges
          generation := havailable.1
          cursor := havailable.2 }, rfl, rfl, rfl⟩

theorem observe_cases (impl : Impl) (resource_kind : ResourceKind) (resource_id : Option Digest)
    (observed_epoch : Nat) (presence : Presence) (digest : Option Digest) (now_ms : Nat) :
    (observe_v1 impl resource_kind resource_id observed_epoch presence digest now_ms).2 = impl ∨
      ∃ o : Observation impl, o.resource_kind = resource_kind ∧ some o.resource_id = resource_id ∧
        o.observed_epoch = observed_epoch ∧ o.now_ms = now_ms ∧
        observe_v1 impl resource_kind resource_id observed_epoch presence digest now_ms =
          (.OK, o.result) := by
  unfold observe_v1
  split
  · rename_i resource_id digest
    split
    · exact .inl rfl
    rename_i hargs
    cases hfind : find_resource impl resource_kind resource_id with
    | none => exact .inl rfl
    | some found =>
      obtain ⟨i, slot⟩ := found
      dsimp only
      split
      · exact .inl rfl
      rename_i hepochs
      split
      · exact .inl rfl
      split
      · exact .inl rfl
      rename_i havailable
      right
      simp only [Bool.or_eq_true, Bool.and_eq_true, Bool.not_eq_true', decide_eq_true_eq, beq_iff_eq,
        bne_iff_ne, not_or, not_and, Bool.not_eq_true, Bool.not_eq_false] at hargs havailable hepochs
      refine ⟨
        { resource_kind, resource_id, i, slot, observed_epoch, presence, digest, now_ms
          completed :=
            completed_operation impl slot resource_kind resource_id observed_epoch presence digest
          found := hfind
          epoch_pos := hargs.1.1.1.2
          presence_digest := ?_
          epoch_ge := by omega
          epoch_le := by omega
          matching := ?_
          generation := havailable.1
          cursor := havailable.2 }, rfl, rfl, rfl, rfl, rfl⟩
      · cases presence with
        | ABSENT => exact .inr ⟨rfl, hargs.2 rfl⟩
        | PRESENT => exact .inl ⟨rfl, hargs.1.2 rfl⟩
        | other code => exact absurd (hargs.1.1.2 (by simp)) (by simp)
      · intro found hfound
        exact (Option.ite_none_right_eq_some.mp hfound).2
  · exact .inl rfl

/-- The states that a call passes through on its way: a submission with valid
arguments sweeps first. -/
def passed_states (impl : Impl) : Call → List Impl
  | .submit_document (some envelope) action document document_size now_ms out_operation _ =>
    if submit_arguments_valid envelope action document document_size now_ms out_operation then
      [(sweep_v1 impl now_ms).2]
    else []
  | _ => []

/-- A call takes at most one elementary step from each state that it passes
through to the next. -/
theorem apply_isChain (impl : Impl) (call : Call) :
    List.IsChain (Relation.ReflGen Step) (impl :: (passed_states impl call ++ [apply impl call])) := by
  cases call with
  | submit_document envelope action document document_size now_ms out_operation malloc =>
    simp only [apply, submit_document_v1, passed_states]
    cases envelope with
    | none => exact List.isChain_pair.mpr .refl
    | some envelope =>
      by_cases hargs : submit_arguments_valid envelope action document document_size now_ms
          out_operation = true
      · simp only [hargs, Bool.not_true, Bool.false_eq_true, if_false, if_true]
        obtain ⟨hintent, hrequest, haction⟩ := submit_arguments_valid_spec hargs
        refine List.isChain_cons_cons.mpr ⟨.single (.sweep now_ms), List.isChain_pair.mpr ?_⟩
        rcases submit_swept_cases (sweep_v1 impl now_ms).2 (document.getD []) document_size now_ms malloc
          hintent hrequest haction with hsame | ⟨a, _, heq⟩
        · rw [hsame]
        · rw [heq]
          exact .single (.submit a)
      · simp only [hargs, Bool.not_false, Bool.false_eq_true, if_true, if_false]
        exact List.isChain_pair.mpr .refl
  | transition_operation operation_id next_state now_ms =>
    refine List.isChain_pair.mpr ?_
    rcases transition_operation_cases impl operation_id next_state now_ms with hsame | ⟨c, _, _, heq⟩
    · simp only [apply, hsame]
      exact .refl
    · simp only [apply, heq]
      exact .single (.transition c)
  | observe resource_kind resource_id observed_epoch presence digest now_ms =>
    refine List.isChain_pair.mpr ?_
    rcases observe_cases impl resource_kind resource_id observed_epoch presence digest now_ms
      with hsame | ⟨o, _, _, _, _, heq⟩
    · simp only [apply, hsame]
      exact .refl
    · simp only [apply, heq]
      exact .single (.observe o)
  | sweep now_ms => exact List.isChain_pair.mpr (.single (.sweep now_ms))

end turbop2p.mesh_control_state
