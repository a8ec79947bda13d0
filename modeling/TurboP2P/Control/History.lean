import TurboP2P.Control.Invariant

open turbop2p.mesh_control
open SlotTable Machine

namespace turbop2p.mesh_control_state

/-- All states that a run passes through, the first one included. -/
def trace (impl : Impl) : List Call → List Impl
  | [] => [impl]
  | call :: calls => impl :: (passed_states impl call ++ trace (apply impl call) calls)

/-- What a change of one operation slot reports: the operation and its new
state. Freeing a slot is not a change of state. -/
def slot_change : Option OperationSlot → Option OperationSlot → Option (Id × OperationState)
  | _, none => none
  | none, some slot => some (slot.operation.operation_id, slot.operation.state)
  | some old, some slot =>
    if old.operation.state = slot.operation.state then none
    else some (slot.operation.operation_id, slot.operation.state)

/-- The operations whose state differs between two states of a run, with their
new state. -/
def changes (impl impl' : Impl) : List (Id × OperationState) :=
  SlotTable.diff slot_change impl.operations impl'.operations

/-- The retained events that were not yet assigned a cursor before. -/
def appended (impl impl' : Impl) : List Event :=
  (retained_events impl').filter fun event => impl.next_cursor ≤ event.cursor

/-- All events that a run appends, in the order in which it appends them. -/
def event_log (config : ValidConfig) (calls : List Call) : List Event :=
  along appended (trace (initial config.1) calls)

@[simp] theorem slot_change_self (slot : Option OperationSlot) : slot_change slot slot = none := by
  cases slot <;> simp [slot_change]

@[simp] theorem slot_change_freed (slot : Option OperationSlot) : slot_change slot none = none := by
  cases slot <;> rfl

theorem trace_eq_cons (impl : Impl) (calls : List Call) : ∃ rest, trace impl calls = impl :: rest := by
  cases calls with
  | nil => exact ⟨[], rfl⟩
  | cons call calls => exact ⟨_, rfl⟩

/-- Adjacent states of a run are equal or one elementary step apart. -/
theorem trace_isChain (impl : Impl) (calls : List Call) : (trace impl calls).IsChain (Relation.ReflGen Step) := by
  induction calls generalizing impl with
  | nil => exact .singleton impl
  | cons call calls ih =>
    obtain ⟨rest, hrest⟩ := trace_eq_cons (apply impl call) calls
    have htail := ih (apply impl call)
    rw [hrest] at htail
    rw [trace, hrest, ← List.cons_append, List.isChain_split]
    exact ⟨by simpa using apply_isChain impl call, htail⟩

/-- A run ends in the state that its calls compute. -/
theorem trace_getLast? (impl : Impl) (calls : List Call) :
    (trace impl calls).getLast? = some (run apply impl calls) := by
  induction calls generalizing impl with
  | nil => rfl
  | cons call calls ih =>
    obtain ⟨rest, hrest⟩ := trace_eq_cons (apply impl call) calls
    have htail := ih (apply impl call)
    rw [hrest] at htail
    rw [trace, hrest, ← List.cons_append, List.getLast?_append, htail]
    rfl

theorem inv_reflGen {impl impl' : Impl} (hinv : Inv impl) (hlink : Relation.ReflGen Step impl impl') : Inv impl' := by
  cases hlink with
  | refl => exact hinv
  | single hstep => exact hinv.step hstep

section events

variable {impl impl' : Impl} (hinv : Inv impl)

include hinv

/-- A step that changes the state of an operation pushes the one event that
reports it; any other step leaves the events alone. -/
theorem Step.reports (hstep : Step impl impl') :
    (ring impl' = ring impl ∧ impl'.next_cursor = impl.next_cursor ∧ changes impl impl' = []) ∨
      ∃ event, ring impl' = (ring impl).push event ∧ event.cursor = impl.next_cursor ∧
        impl'.next_cursor = impl.next_cursor + 1 ∧
        changes impl impl' = [(event.operation_id, event.operation_state)] := by
  have hlength := hinv.ring.events_length
  have hnext : impl.next_cursor ≠ U64_MAX → Word.add impl.next_cursor 1 = impl.next_cursor + 1 := by
    intro hne
    have hle := hinv.ring.cursor_le
    exact Word.add_eq (by omega)
  cases hstep with
  | sweep now_ms =>
    refine .inl ⟨by simp, by simp, ?_⟩
    unfold changes
    rw [sweep_operations]
    split
    · exact diff_self slot_change_self _
    · exact diff_clear slot_change_self slot_change_freed _ _
  | submit a =>
    refine .inr ⟨_, a.ring_result hlength, rfl, a.result_next_cursor.trans (hnext a.cursor), ?_⟩
    unfold changes
    rw [a.result_operations, diff_set slot_change_self (free_eq_some a.free).1]
    rfl
  | transition c =>
    refine .inr ⟨_, c.ring_result hlength, rfl, c.result_next_cursor.trans (hnext c.cursor), ?_⟩
    unfold changes
    rw [c.result_operations, diff_set slot_change_self c.holds]
    have hne : c.slot.operation.state ≠ c.written.operation.state := c.changes
    simp only [slot_change, if_neg hne]
    rfl
  | observe o =>
    have hring := o.ring_result hlength
    have hcursor := o.result_next_cursor
    have hoperations := o.result_operations
    cases hcompleted : o.completed with
    | none =>
      rw [hcompleted] at hring hcursor hoperations
      refine .inl ⟨hring, hcursor, ?_⟩
      unfold changes
      rw [hoperations]
      exact diff_self slot_change_self _
    | some found =>
      rw [hcompleted] at hring hcursor hoperations
      obtain ⟨hholds, hlive, _⟩ := o.completed_spec hcompleted
      refine .inr ⟨_, hring, rfl, hcursor.trans (hnext (o.cursor (by simp [hcompleted]))), ?_⟩
      unfold changes
      rw [hoperations, Option.elim_some, diff_set slot_change_self hholds]
      have hne : found.2.operation.state ≠ (o.written found.2).operation.state := by
        intro hsame
        rw [hsame] at hlive
        exact absurd hlive (by simp [Observation.written, Observation.succeeded, operation_state_is_terminal_v1])
      simp only [slot_change, if_neg hne]
      rfl

variable {event : Event}

theorem cursor_lt_next (hmem : event ∈ retained_events impl) : event.cursor < impl.next_cursor := by
  rw [retained_events_eq_ring hinv.ring.events_length] at hmem
  have hcursor := List.mem_map_of_mem (f := (·.cursor)) hmem
  rw [hinv.ring.cursors, List.mem_range'_1] at hcursor
  have hcount := hinv.ring.count_lt
  omega

/-- The appended events are read off the ring: none if it is unchanged, the
pushed one otherwise. -/
theorem appended_of_same (hinv' : Inv impl') (hring : ring impl' = ring impl) : appended impl impl' = [] := by
  unfold appended
  rw [retained_events_eq_ring hinv'.ring.events_length, hring, ← retained_events_eq_ring hinv.ring.events_length,
    List.filter_eq_nil_iff]
  intro event hmem
  have hlt := cursor_lt_next hinv hmem
  simpa using hlt

theorem appended_of_push (hinv' : Inv impl') (hring : ring impl' = (ring impl).push event)
    (hcursor : event.cursor = impl.next_cursor) : appended impl impl' = [event] := by
  have hold := appended_of_same hinv hinv rfl
  unfold appended at hold ⊢
  rw [retained_events_eq_ring hinv.ring.events_length] at hold
  rw [retained_events_eq_ring hinv'.ring.events_length, hring,
    RingBuffer.toList_push_eq hinv.ring.valid, List.filter_append]
  have hkept : ((ring impl).toList.drop ((ring impl).count + 1 - (ring impl).cells.length)).filter
      (fun event => impl.next_cursor ≤ event.cursor) = [] := by
    rw [List.filter_eq_nil_iff] at hold ⊢
    exact fun event hmem => hold event (List.mem_of_mem_drop hmem)
  rw [hkept]
  simp [hcursor]

/-- Along one step, the appended events report the changes one by one. -/
theorem Step.appended_eq (hstep : Step impl impl') :
    (appended impl impl').map (fun event => (event.operation_id, event.operation_state)) =
        changes impl impl' ∧ (changes impl impl').length ≤ 1 := by
  have hinv' := hinv.step hstep
  rcases hstep.reports hinv with ⟨hring, _, hchanges⟩ | ⟨event, hring, hcursor, _, hchanges⟩
  · rw [hchanges, appended_of_same hinv hinv' hring]
    exact ⟨rfl, by simp⟩
  · rw [hchanges, appended_of_push hinv hinv' hring hcursor]
    exact ⟨rfl, by simp⟩

end events

/-- A log of everything ever appended: the ring holds its end, and its cursors
run from one to just below the next. -/
structure LogOf (impl : Impl) (log : List Event) : Prop where
  retained : (ring impl).toList = log.drop (log.length - impl.events.length)
  cursors : log.map (·.cursor) = List.range' 1 (impl.next_cursor - 1)

theorem logOf_initial (config : ValidConfig) : LogOf (initial config.1) [] :=
  ⟨by simp [ring, initial, RingBuffer.toList], by simp [initial]⟩

variable {log : List Event}

theorem LogOf.mem {impl : Impl} (hlog : LogOf impl log) (hinv : Inv impl) {event : Event}
    (hmem : event ∈ retained_events impl) : event ∈ log := by
  rw [retained_events_eq_ring hinv.ring.events_length, hlog.retained] at hmem
  exact List.mem_of_mem_drop hmem

theorem LogOf.link {impl impl' : Impl} (hlog : LogOf impl log) (hinv : Inv impl)
    (hlink : Relation.ReflGen Step impl impl') : LogOf impl' (log ++ appended impl impl') := by
  cases hlink with
  | refl =>
    rw [appended_of_same hinv hinv rfl, List.append_nil]
    exact hlog
  | single hstep =>
    have hinv' := hinv.step hstep
    have hlength : impl'.events.length = impl.events.length := by
      rw [hinv'.ring.events_length, hinv.ring.events_length, hstep.config_eq]
    rcases hstep.reports hinv with ⟨hring, hnext, _⟩ | ⟨event, hring, hcursor, hnext, _⟩
    · rw [appended_of_same hinv hinv' hring, List.append_nil]
      exact ⟨by rw [hring, hlength, hlog.retained], by rw [hnext, hlog.cursors]⟩
    · rw [appended_of_push hinv hinv' hring hcursor]
      refine ⟨?_, ?_⟩
      · rw [hring, hlength]
        exact hinv.ring.valid.toList_push_log hlog.retained event
      · have hpos := hinv.ring.count_lt
        have hsucc : impl.next_cursor + 1 - 1 = impl.next_cursor - 1 + 1 := by omega
        rw [List.map_append, hlog.cursors, hnext, hsucc, List.range'_concat]
        congr 1
        simp only [List.map_singleton, hcursor, List.cons.injEq, and_true]
        omega

/-- Along a chain of steps the log grows by what each link appends, and it
contains whatever was retained on the way. -/
theorem LogOf.chain {impl : Impl} {rest : List Impl} (hlog : LogOf impl log) (hinv : Inv impl)
    (hchain : List.IsChain (Relation.ReflGen Step) (impl :: rest)) :
    (∀ last, (impl :: rest).getLast? = some last →
        LogOf last (log ++ along appended (impl :: rest))) ∧
      ∀ s ∈ impl :: rest, ∀ event ∈ retained_events s, event ∈ log ++ along appended (impl :: rest) := by
  induction rest generalizing impl log with
  | nil =>
    simp only [along, List.append_nil]
    refine ⟨?_, ?_⟩
    · intro last hlast
      simp only [List.getLast?_singleton, Option.some.injEq] at hlast
      exact hlast ▸ hlog
    · simpa using fun event => hlog.mem hinv
  | cons next rest ih =>
    obtain ⟨hlink, hrest⟩ := List.isChain_cons_cons.mp hchain
    have hnext := inv_reflGen hinv hlink
    obtain ⟨hlast, hmem⟩ := ih (hlog.link hinv hlink) hnext hrest
    simp only [along, ← List.append_assoc]
    refine ⟨?_, ?_⟩
    · intro last hgetLast
      exact hlast last (by simpa using hgetLast)
    · intro s hs event hevent
      rcases List.mem_cons.mp hs with rfl | hs
      · simp only [List.mem_append]
        exact .inl (.inl (hlog.mem hinv hevent))
      · exact hmem s hs event hevent

/-- The log of a run: its end is what the final state retains, and it contains
every event that was ever retained. -/
theorem event_log_spec (config : ValidConfig) (calls : List Call) :
    LogOf (state_after config calls) (event_log config calls) ∧
      ∀ s ∈ trace (initial config.1) calls, ∀ event ∈ retained_events s, event ∈ event_log config calls := by
  obtain ⟨rest, hrest⟩ := trace_eq_cons (initial config.1) calls
  have hchain := trace_isChain (initial config.1) calls
  have hlast := trace_getLast? (initial config.1) calls
  unfold event_log
  rw [hrest] at hchain hlast ⊢
  obtain ⟨hlog, hmem⟩ := (logOf_initial config).chain (inv_initial config) hchain
  exact ⟨by simpa [state_after] using hlog _ hlast, by simpa using hmem⟩

/-- Every retained operation has left the submitted state. -/
def StatesInv (impl : Impl) : Prop :=
  ∀ j slot, impl.operations.Holds j slot → operation_started slot.operation.state = true

/-- What one step does to the operations: an occupied slot keeps its operation
and follows an allowed edge, or an expired operation is swept; a free slot
is filled by an accepted operation; and each change is reported by one
event. -/
structure OperationStep (impl impl' : Impl) : Prop where
  kept : ∀ j slot, impl.operations.Holds j slot →
    (∃ slot', impl'.operations.Holds j slot' ∧ SameBinding slot slot' ∧
      operation_transition_allowed_v1 slot.operation.state slot'.operation.state = true) ∨
    (∃ now_ms, impl' = (sweep_v1 impl now_ms).2 ∧ expired now_ms slot = true ∧
      impl'.operations[j]? = some none)
  terminal : ∀ j slot slot', impl.operations.Holds j slot → impl'.operations.Holds j slot' →
    operation_state_is_terminal_v1 slot.operation.state = true → slot' = slot
  admitted : ∀ j slot, impl.operations[j]? = some none → impl'.operations.Holds j slot →
    slot.operation.state = .ACCEPTED
  reported : (appended impl impl').map (fun event => (event.operation_id, event.operation_state)) =
    changes impl impl'
  single : (changes impl impl').length ≤ 1

/-- The four ways in which a step treats the operation table. -/
inductive OperationEffect (impl impl' : Impl) : Prop
  | swept (now_ms : Nat) (hswept : impl' = (sweep_v1 impl now_ms).2)
  | unchanged (hsame : impl'.operations = impl.operations)
  | admitted (j : Nat) (slot : OperationSlot) (hfree : impl.operations[j]? = some none)
      (hset : impl'.operations = impl.operations.set j (some slot))
      (haccepted : slot.operation.state = .ACCEPTED)
  | changed (j : Nat) (slot slot' : OperationSlot) (hholds : impl.operations.Holds j slot)
      (hset : impl'.operations = impl.operations.set j (some slot')) (hbinding : SameBinding slot slot')
      (hallowed : operation_transition_allowed_v1 slot.operation.state slot'.operation.state = true)
      (hlive : operation_state_is_terminal_v1 slot.operation.state = false)

section operations

variable {impl impl' : Impl}

theorem Step.operation_effect (hstates : StatesInv impl) (hstep : Step impl impl') : OperationEffect impl impl' := by
  cases hstep with
  | sweep now_ms => exact .swept now_ms rfl
  | submit a => exact .admitted a.j _ (free_eq_some a.free).1 a.result_operations rfl
  | transition c =>
    refine .changed c.j c.slot c.written c.holds c.result_operations rfl c.allowed ?_
    by_contra hterminal
    have hsame := terminal_transition (Bool.eq_true_of_not_eq_false hterminal) c.allowed
    exact c.changes hsame.symm
  | observe o =>
    have hoperations := o.result_operations
    cases hcompleted : o.completed with
    | none =>
      rw [hcompleted] at hoperations
      exact .unchanged hoperations
    | some found =>
      rw [hcompleted] at hoperations
      obtain ⟨hholds, hlive, _⟩ := o.completed_spec hcompleted
      exact .changed found.1 found.2 (o.written found.2) hholds hoperations rfl
        (succeeded_transition (hstates _ _ hholds) hlive) hlive

/-- What a slot holds after a step it held before, or the step admitted it to
a free slot, or it is the allowed next state of a live operation. -/
theorem OperationEffect.origin {k : Nat} {found : OperationSlot} (heffect : OperationEffect impl impl')
    (hfound : impl'.operations.Holds k found) :
    impl.operations.Holds k found ∨ (impl.operations[k]? = some none ∧ found.operation.state = .ACCEPTED) ∨
      ∃ slot, impl.operations.Holds k slot ∧
        operation_transition_allowed_v1 slot.operation.state found.operation.state = true ∧
        operation_state_is_terminal_v1 slot.operation.state = false := by
  cases heffect with
  | swept now_ms hswept =>
    subst hswept
    exact .inl (holds_of_sweep hfound)
  | unchanged hsame =>
    rw [hsame] at hfound
    exact .inl hfound
  | admitted j slot hfree hset haccepted =>
    rw [hset, holds_set (List.getElem?_eq_some_iff.mp hfree).1] at hfound
    rcases hfound with ⟨rfl, hslot⟩ | ⟨_, hother⟩
    · cases hslot
      exact .inr (.inl ⟨hfree, haccepted⟩)
    · exact .inl hother
  | changed j slot slot' hholds hset _ hallowed hlive =>
    rw [hset, holds_set hholds.lt] at hfound
    rcases hfound with ⟨rfl, hslot⟩ | ⟨_, hother⟩
    · cases hslot
      exact .inr (.inr ⟨slot, hholds, hallowed, hlive⟩)
    · exact .inl hother

theorem StatesInv.step (hstates : StatesInv impl) (hstep : Step impl impl') : StatesInv impl' := by
  intro k found hfound
  rcases (hstep.operation_effect hstates).origin hfound with hheld | ⟨_, haccepted⟩ | ⟨slot, hheld, hallowed, _⟩
  · exact hstates k found hheld
  · rw [haccepted]
    rfl
  · exact started_transition (hstates k slot hheld) hallowed

theorem allowed_self {state : OperationState} (hstarted : operation_started state = true) :
    operation_transition_allowed_v1 state state = true := by
  cases state <;> simp_all [operation_started, operation_transition_allowed_v1, operation_state_valid]

section

variable (heffect : OperationEffect impl impl')

include heffect

variable {found : OperationSlot} {k : Nat}

theorem OperationEffect.kept (hstates : StatesInv impl) (hfound : impl.operations.Holds k found) :
    (∃ slot', impl'.operations.Holds k slot' ∧ SameBinding found slot' ∧
      operation_transition_allowed_v1 found.operation.state slot'.operation.state = true) ∨
    (∃ now_ms, impl' = (sweep_v1 impl now_ms).2 ∧ expired now_ms found = true ∧ impl'.operations[k]? = some none) := by
  -- Outside the written slot, and in a sweep that spares the operation, nothing changes.
  have hsame : impl'.operations.Holds k found → ∃ slot', impl'.operations.Holds k slot' ∧
      SameBinding found slot' ∧
      operation_transition_allowed_v1 found.operation.state slot'.operation.state = true :=
    fun hholds => ⟨found, hholds, rfl, allowed_self (hstates k found hfound)⟩
  cases heffect with
  | swept now_ms hswept =>
    by_cases hmax : impl.snapshot_generation = U64_MAX
    · refine .inl (hsame ?_)
      rw [hswept, sweep_operations, if_pos hmax]
      exact hfound
    · have hoperations : impl'.operations = impl.operations.clear (expired now_ms) := by
        rw [hswept, sweep_operations, if_neg hmax]
      cases hexpired : expired now_ms found with
      | false =>
        refine .inl (hsame ?_)
        rw [hoperations]
        exact holds_clear.mpr ⟨hfound, hexpired⟩
      | true =>
        refine .inr ⟨now_ms, hswept, hexpired, ?_⟩
        have hslot : impl.operations[k]? = some (some found) := hfound
        rw [hoperations, clear, List.getElem?_map, hslot]
        simp [hexpired]
  | unchanged hoperations =>
    refine .inl (hsame ?_)
    rw [hoperations]
    exact hfound
  | admitted j slot hfree hset _ =>
    refine .inl (hsame ?_)
    rw [hset, holds_set (List.getElem?_eq_some_iff.mp hfree).1]
    refine .inr ⟨?_, hfound⟩
    rintro rfl
    rw [SlotTable.Holds, hfree] at hfound
    cases hfound
  | changed j slot slot' hholds hset hbinding hallowed _ =>
    by_cases hk : k = j
    · subst hk
      cases hfound.unique hholds
      refine .inl ⟨slot', ?_, hbinding, hallowed⟩
      rw [hset]
      exact (holds_set hholds.lt).mpr (.inl ⟨rfl, rfl⟩)
    · refine .inl (hsame ?_)
      rw [hset]
      exact (holds_set hholds.lt).mpr (.inr ⟨hk, hfound⟩)

theorem OperationEffect.terminal {k : Nat} {found found' : OperationSlot} (hfound : impl.operations.Holds k found)
    (hfound' : impl'.operations.Holds k found')
    (hterminal : operation_state_is_terminal_v1 found.operation.state = true) : found' = found := by
  rcases heffect.origin hfound' with hheld | ⟨hfree, _⟩ | ⟨slot, hheld, _, hlive⟩
  · exact hheld.unique hfound
  · rw [SlotTable.Holds, hfree] at hfound
    cases hfound
  · rw [hheld.unique hfound, hterminal] at hlive
    cases hlive

theorem OperationEffect.admitted_state (hfree : impl.operations[k]? = some none)
    (hfound : impl'.operations.Holds k found) : found.operation.state = .ACCEPTED := by
  have hnot : ∀ slot, ¬ impl.operations.Holds k slot := by simp [SlotTable.Holds, hfree]
  rcases heffect.origin hfound with hheld | ⟨_, haccepted⟩ | ⟨slot, hheld, _⟩
  · exact absurd hheld (hnot found)
  · exact haccepted
  · exact absurd hheld (hnot slot)

end

theorem Step.operation_step (hinv : Inv impl) (hstates : StatesInv impl) (hstep : Step impl impl') :
    OperationStep impl impl' := by
  have heffect := hstep.operation_effect hstates
  obtain ⟨hreported, hsingle⟩ := hstep.appended_eq hinv
  exact ⟨fun j slot hholds => heffect.kept hstates hholds, fun j slot slot' => heffect.terminal,
    fun j slot => heffect.admitted_state, hreported, hsingle⟩

theorem operationStep_refl (hinv : Inv impl) (hstates : StatesInv impl) : OperationStep impl impl := by
  have heffect : OperationEffect impl impl := .unchanged rfl
  have hchanges : changes impl impl = [] := diff_self slot_change_self _
  refine ⟨fun j slot hholds => heffect.kept hstates hholds, fun j slot slot' => heffect.terminal,
    fun j slot => heffect.admitted_state, ?_, ?_⟩
  · rw [hchanges, appended_of_same hinv hinv rfl]
    rfl
  · simp [hchanges]

end operations

/-- Every run moves its operations along allowed edges only, keeps terminal
operations until they are swept, and logs each change of state by exactly
one event, in order, under consecutive cursors. -/
theorem operation_history (config : ValidConfig) (calls : List Call) :
    let states := trace (initial config.1) calls
    states.getLast? = some (state_after config calls) ∧ states.IsChain OperationStep ∧
      (event_log config calls).map (fun event => (event.operation_id, event.operation_state)) =
        Machine.along changes states ∧
      (event_log config calls).map (·.cursor) = List.range' 1 ((state_after config calls).next_cursor - 1) := by
  intro states
  have hall : ∀ s ∈ states, Inv s ∧ StatesInv s := by
    obtain ⟨rest, hrest⟩ := trace_eq_cons (initial config.1) calls
    have hchain := trace_isChain (initial config.1) calls
    simp only [states, hrest] at hchain ⊢
    refine isChain_forall ?_ ⟨inv_initial config, ?_⟩ hchain
    · rintro s t ⟨hinv, hstates⟩ hlink
      cases hlink with
      | refl => exact ⟨hinv, hstates⟩
      | single hstep => exact ⟨hinv.step hstep, hstates.step hstep⟩
    · intro j slot hholds
      simp [initial] at hholds
  have hsteps : states.IsChain OperationStep := by
    refine (isChain_and hall (trace_isChain (initial config.1) calls)).imp ?_
    rintro s t ⟨⟨hinv, hstates⟩, hlink⟩
    cases hlink with
    | refl => exact operationStep_refl hinv hstates
    | single hstep => exact hstep.operation_step hinv hstates
  refine ⟨trace_getLast? _ calls, hsteps, ?_, (event_log_spec config calls).1.cursors⟩
  exact along_map_eq (hsteps.imp fun s t hstep => hstep.reported)

end turbop2p.mesh_control_state
