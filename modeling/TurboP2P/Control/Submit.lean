import TurboP2P.Control.Invariant

open turbop2p.mesh_control

namespace turbop2p.mesh_control_state

section sweep

variable {impl : Impl} {now_ms : Nat}

theorem sweep_eq_self (hclear : impl.operations.clear (expired now_ms) = impl.operations) :
    (sweep_v1 impl now_ms).2 = impl := by
  have hremoved := (sweep_removed_eq_zero impl now_ms).mpr hclear
  unfold sweep_v1
  split
  · rfl
  · simp [hremoved, hclear]

/-- Sweeping twice at one time is sweeping once. -/
@[simp] theorem sweep_sweep : (sweep_v1 (sweep_v1 impl now_ms).2 now_ms).2 = (sweep_v1 impl now_ms).2 := by
  by_cases hmax : impl.snapshot_generation = U64_MAX
  · have hsame : (sweep_v1 impl now_ms).2 = impl := by simp [sweep_v1, hmax]
    rw [hsame, hsame]
  · apply sweep_eq_self
    rw [sweep_operations, if_neg hmax, SlotTable.clear_clear]

end sweep

section submit

variable {impl : Impl} {envelope : Envelope} {action : DesiredAction} {document_size now_ms : Nat}

/-- With memory available, the checks of a submission and those of its
preflight give one answer. -/
theorem submit_swept_result (document : List UInt8) :
    (submit_swept impl envelope action document document_size now_ms true).1 =
      validate_checked impl envelope action document_size := by
  unfold submit_swept validate_checked
  cases find_request impl envelope.request_id with
  | some found =>
    dsimp only
    cases operation_binding_equal found.2.operation envelope action <;> rfl
  | none =>
    dsimp only
    split
    · rfl
    split
    · rfl
    cases hfind : find_resource impl envelope.resource_kind envelope.resource_id with
    | none =>
      cases hresources : impl.resources.free with
      | none => simp [target_resource, hfind, hresources]
      | some i =>
        cases hoperations : impl.operations.free with
        | none => simp [target_resource, hfind, hresources]
        | some j =>
          simp only [target_resource, hfind, hresources, Option.map_some, Option.isNone_some,
            Option.elim_none, Bool.and_false, Bool.or_false, Bool.false_eq_true, if_false, Bool.not_true]
          split
          · rfl
          split <;> rfl
    | some found =>
      cases hoperations : impl.operations.free with
      | none => simp [target_resource, hfind]
      | some j =>
        simp only [target_resource, hfind, Option.isNone_some, Option.elim_some, Bool.false_and,
          Bool.and_false, Bool.or_false, Bool.false_eq_true, if_false, Bool.not_true]
        split
        · rfl
        split <;> rfl

/-- Once its arguments are accepted, a submission never reports them as
invalid. -/
theorem submit_swept_ne_invalid_arg (document : List UInt8) (malloc : Bool) :
    (submit_swept impl envelope action document document_size now_ms malloc).1 ≠ .INVALID_ARG := by
  unfold submit_swept
  dsimp only
  repeat' split
  all_goals simp

/-- For an intent with a result pointer, submission and preflight accept the
same arguments. -/
theorem validate_document_of_intent {document : Option (List UInt8)} (hkind : envelope.kind = .INTENT) :
    validate_document_v1 impl (some envelope) action document document_size now_ms =
      if submit_arguments_valid envelope action document document_size now_ms true then
        validate_checked impl envelope action document_size
      else .INVALID_ARG := by
  unfold validate_document_v1 submit_arguments_valid
  simp only [hkind, bne_self_eq_false, Bool.not_true, Bool.false_or, Bool.not_eq_true']
  split
  · rename_i hinvalid
    rw [if_neg (by simp [hinvalid])]
  · rename_i hvalid
    rw [if_pos (Bool.eq_false_of_not_eq_true hvalid)]

end submit

/-- What a submission does: invalid arguments are refused before anything
else; every other failure leaves the swept state behind. -/
theorem submit_document_outcome (impl : Impl) (envelope : Option Envelope) (action : DesiredAction)
    (document : Option (List UInt8)) (document_size now_ms : Nat) (out_operation malloc : Bool) :
    let submitted := submit_document_v1 impl envelope action document document_size now_ms out_operation malloc
    (submitted.1 = .INVALID_ARG → submitted.2.2 = impl) ∧
      (submitted.1 ≠ .OK → submitted.1 ≠ .INVALID_ARG → submitted.2.2 = (sweep_v1 impl now_ms).2) := by
  intro submitted
  cases envelope with
  | none => exact ⟨fun _ => rfl, fun _ hne => absurd rfl hne⟩
  | some envelope =>
    by_cases hargs : submit_arguments_valid envelope action document document_size now_ms out_operation = true
    · have hsubmitted : submitted = submit_swept (sweep_v1 impl now_ms).2 envelope action
          (document.getD []) document_size now_ms malloc := by
        simp [submitted, submit_document_v1, hargs]
      obtain ⟨hintent, hrequest, haction⟩ := submit_arguments_valid_spec hargs
      rw [hsubmitted]
      refine ⟨fun hinvalid => absurd hinvalid (submit_swept_ne_invalid_arg _ _), fun hfailed _ => ?_⟩
      rcases submit_swept_cases (sweep_v1 impl now_ms).2 (document.getD []) document_size now_ms malloc
        hintent hrequest haction with hsame | ⟨a, _, heq⟩
      · exact hsame
      · exact absurd (by rw [heq]) hfailed
    · have hsubmitted : submitted = (.INVALID_ARG, none, impl) := by
        simp [submitted, submit_document_v1, hargs]
      rw [hsubmitted]
      exact ⟨fun _ => rfl, fun _ hne => absurd rfl hne⟩

/-- A submission of an intent gets the verdict that the preflight gives in the
state swept at the same time. -/
theorem submit_document_verdict (impl : Impl) {envelope : Option Envelope} (action : DesiredAction)
    (document : Option (List UInt8)) (document_size now_ms : Nat)
    (hintent : ∀ intent, envelope = some intent → intent.kind = .INTENT) :
    (submit_document_v1 impl envelope action document document_size now_ms true true).1 =
      validate_document_v1 (sweep_v1 impl now_ms).2 envelope action document document_size now_ms := by
  cases envelope with
  | none => rfl
  | some envelope =>
    rw [validate_document_of_intent (hintent envelope rfl)]
    unfold submit_document_v1
    by_cases hargs : submit_arguments_valid envelope action document document_size now_ms true = true
    · simp [hargs, submit_swept_result]
    · simp [hargs]

/-- The smallest tables, with operations retained for one millisecond. -/
def small_config : ValidConfig :=
  ⟨{ resource_capacity := 1, operation_capacity := 1, event_capacity := 1, terminal_retention_ms := 1
     desired_document_max_bytes := 1, desired_document_retained_bytes := 1 }, by decide⟩

/-- An intent for one function, from epoch `epoch` to its successor. -/
def small_intent (tag : UInt8) (epoch : Nat) : Envelope :=
  { schema_version := SCHEMA_V1, kind := .INTENT, message_id := List.Vector.replicate 16 tag
    request_id := List.Vector.replicate 16 tag, mesh_id := List.Vector.replicate 32 1
    origin_principal := List.Vector.replicate 32 1, target_node_id := List.Vector.replicate 32 1
    resource_kind := .FUNCTION, reserved := 0, resource_id := List.Vector.replicate 32 1, epoch := epoch + 1
    sequence := 1, issued_at_ms := 1, expires_at_ms := 100, precondition_epoch := epoch
    payload_digest := List.Vector.replicate 32 1, payload_size := 1 }

/-- An operation runs, fails at time 3 and expires at time 4. -/
def expired_run : List Call :=
  [.submit_document (some (small_intent 1 0)) .APPLY none 0 2 true true,
    .transition_operation (some (List.Vector.replicate 16 1)) .FAILED 3]

/-- After a sweep, the preflight of an intent and the submission that follows
with the same arguments agree on every verdict, and a refused submission
leaves the state as it is. -/
theorem validate_document_agrees (config : ValidConfig) (calls : List Call) (envelope : Option Envelope)
    (action : DesiredAction) (document : Option (List UInt8)) (document_size now_ms : Nat)
    (hintent : ∀ intent, envelope = some intent → intent.kind = .INTENT) :
    let impl := (sweep_v1 (state_after config calls) now_ms).2
    let submitted := submit_document_v1 impl envelope action document document_size now_ms true true
    submitted.1 = validate_document_v1 impl envelope action document document_size now_ms ∧
      (submitted.1 ≠ .OK → submitted.2.2 = impl) := by
  intro impl submitted
  have hswept : (sweep_v1 impl now_ms).2 = impl := sweep_sweep
  constructor
  · have hverdict := submit_document_verdict impl action document document_size now_ms hintent
    rwa [hswept] at hverdict
  · intro hfailed
    obtain ⟨hinvalid, hother⟩ := submit_document_outcome impl envelope action document document_size now_ms true true
    by_cases hcase : submitted.1 = .INVALID_ARG
    · exact hinvalid hcase
    · exact (hother hfailed hcase).trans hswept

/-- After the sweep the preflight accepts the submission that follows the
expired operation. -/
theorem validate_document_agrees_swept :
    validate_document_v1 (sweep_v1 (state_after small_config expired_run) 5).2 (some (small_intent 2 1))
        .APPLY none 0 5 = .OK ∧
      (submit_document_v1 (sweep_v1 (state_after small_config expired_run) 5).2 (some (small_intent 2 1))
        .APPLY none 0 5 true true).1 = .OK := by
  have hagrees := (validate_document_agrees small_config expired_run (some (small_intent 2 1)) .APPLY none
    0 5 (by rintro intent ⟨⟩; rfl)).1
  have hvalidate : validate_document_v1 (sweep_v1 (state_after small_config expired_run) 5).2
      (some (small_intent 2 1)) .APPLY none 0 5 = .OK := by decide +kernel
  exact ⟨hvalidate, hagrees.trans hvalidate⟩

/-- Without a sweep the preflight still counts an expired operation, which the
submission removes first; and it accepts an observation, which the
submission refuses. -/
theorem validate_document_disagrees :
    (validate_document_v1 (state_after small_config expired_run) (some (small_intent 2 1)) .APPLY none 0 5 =
        .RESOURCE_EXHAUSTED ∧
      (submit_document_v1 (state_after small_config expired_run) (some (small_intent 2 1)) .APPLY none 0 5
        true true).1 = .OK) ∧
    (validate_document_v1 (state_after small_config []) (some { small_intent 1 0 with kind := .OBSERVATION })
        .APPLY none 0 5 = .OK ∧
      (submit_document_v1 (state_after small_config []) (some { small_intent 1 0 with kind := .OBSERVATION })
        .APPLY none 0 5 true true).1 = .INVALID_ARG) := by
  decide +kernel

/-- A failed submission is refused before the sweep if its arguments are
invalid, and otherwise changes nothing beyond the sweep. -/
theorem submit_document_failure (config : ValidConfig) (calls : List Call) (envelope : Option Envelope)
    (action : DesiredAction) (document : Option (List UInt8)) (document_size now_ms : Nat)
    (out_operation malloc : Bool) :
    let impl := state_after config calls
    let submitted := submit_document_v1 impl envelope action document document_size now_ms out_operation malloc
    (submitted.1 = .INVALID_ARG → submitted.2.2 = impl) ∧
      (submitted.1 ≠ .OK → submitted.1 ≠ .INVALID_ARG → submitted.2.2 = (sweep_v1 impl now_ms).2) :=
  submit_document_outcome _ envelope action document document_size now_ms out_operation malloc

/-- A submission without an envelope fails before the sweep that would remove
the expired operation. -/
theorem submit_document_unswept :
    (submit_document_v1 (state_after small_config expired_run) none .APPLY none 0 5 true true).1 =
        .INVALID_ARG ∧
      (submit_document_v1 (state_after small_config expired_run) none .APPLY none 0 5 true true).2.2 ≠
        (sweep_v1 (state_after small_config expired_run) 5).2 := by
  decide +kernel

end turbop2p.mesh_control_state
