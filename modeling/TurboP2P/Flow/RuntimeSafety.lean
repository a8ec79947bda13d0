import TurboP2P.Flow.Runtime

open turbop2p.mesh_flow_ruleset

namespace turbop2p.mesh_flow_runtime

/-- The slot that the call counts itself a reader of. -/
def EvaluatePc.pinned : EvaluatePc → Option Bool
  | .reload_active _ active | .reload_published _ active | .unpin _ active | .read _ active _
  | .load_demand _ active _ | .release _ active _ _ => some active
  | _ => none

/-- The slot that the call has found active while it was pinned. -/
def EvaluatePc.validated : EvaluatePc → Option Bool
  | .reload_published _ active | .read _ active _ | .load_demand _ active _ => some active
  | _ => none

/-- The query, once the packet has been parsed. -/
def EvaluatePc.query : EvaluatePc → Option Query
  | .load_published | .load_required => none
  | .load_active query | .pin query _ | .reload_active query _ | .reload_published query _ | .unpin query _
  | .retry query | .read query _ _ | .load_demand query _ _ | .release query _ _ _ => some query

/-- The active slot that the call goes by. -/
def PublishPc.loaded : PublishPc → Option Bool
  | .load_published active | .compare active | .load_readers active | .validate active | .replace active _ =>
    some active
  | _ => none

namespace Thread

def pins (slot : Bool) : Thread → Bool
  | .evaluate _ pc => pc.pinned = some slot
  | _ => false

def validated : Thread → Option Bool
  | .evaluate _ pc => pc.validated
  | _ => none

/-- The slot that the thread is reading. -/
def uses : Thread → Option Bool
  | .evaluate _ (.read _ active _) | .evaluate _ (.load_demand _ active _) => some active
  | _ => none

def holds : Thread → Bool
  | .publish _ pc => pc ≠ .test_and_set
  | _ => false

/-- The slot that the thread has found without readers. -/
def prepares : Thread → Option Bool
  | .publish _ (.validate active) | .publish _ (.replace active _) => some (!active)
  | _ => none

/-- The slot that the next access of the thread rewrites. -/
def writes : Thread → Option Bool
  | .publish _ (.replace active (_ :: _)) => some (!active)
  | _ => none

end Thread

/-- The policy has become the active one. -/
def Published (history : List (Nat × Event)) (policy : Replacement) : Prop :=
  ∃ i, (i, Event.published policy) ∈ history

/-- The index was set by a call that has returned. -/
def Required (history : List (Nat × Event)) (index : UInt64) : Prop :=
  ∃ i, (i, Event.returned (.require index) .OK none) ∈ history

/-- Every decision that was returned with `OK` is the evaluation of the packet
under one policy that was published by then and that has every index set
before the call began. -/
def DecisionsSound (capacity : Nat) (history : List (Nat × Event)) : Prop :=
  ∀ before i packet decision,
    before ++ [(i, Event.returned (.evaluate packet) .OK decision)] <+: history →
      ∃ earlier during policy query,
        before = earlier ++ (i, .began (.evaluate packet)) :: during ∧ (∀ event ∈ during, event.1 ≠ i) ∧
        Published before policy ∧ packet.query = some query ∧
        (∃ decided, decision = some decided ∧ evaluate_v1 (policy.ruleset capacity) query = (.OK, decided)) ∧
        ∀ index, Required earlier index → index ≤ policy.committed_index

/-- What is to hold of every state of the runtime. -/
structure Safe (capacity : Nat) (world : World) : Prop where
  decisions : DecisionsSound capacity world.history
  exclusive : ∀ reader ∈ world.threads, ∀ publisher ∈ world.threads, ∀ slot,
    reader.uses = some slot → publisher.writes ≠ some slot

/-- The slot that holds exactly the policy. -/
def policy_slot (capacity : Nat) (policy : Replacement) : Slot :=
  { rules := policy.rules, rule_count := policy.rules.length, capacity, policy_epoch := policy.policy_epoch
    applied_index := policy.committed_index, default_action := policy.default_action, is_open := true }

/-- What the reads that remain come to on a slot that holds the policy. -/
def Reading.result (capacity : Nat) (policy : Replacement) (query : Query) : Reading → Result × Decision
  | .arguments => evaluate_v1 (policy.ruleset capacity) query
  | .default_action =>
    (.OK, first_match query
      (default_decision policy.default_action policy.policy_epoch policy.committed_index query) policy.rules)
  | .policy_epoch action =>
    (.OK, first_match query (default_decision action policy.policy_epoch policy.committed_index query) policy.rules)
  | .applied_index action epoch =>
    (.OK, first_match query (default_decision action epoch policy.committed_index query) policy.rules)
  | .rule index decision => (.OK, first_match query decision (policy.rules.drop index))

/-- Reading one field more of a slot that does not change changes nothing of
the result. -/
theorem Reading.next_result (capacity : Nat) (policy : Replacement) (query : Query) (reading : Reading) :
    match reading.next (policy_slot capacity policy) query with
    | .inl further => further.result capacity policy query = reading.result capacity policy query
    | .inr result => result = reading.result capacity policy query := by
  cases reading with
  | arguments =>
    by_cases hquery : query_valid query = true
    · simp [Reading.next, Reading.result, policy_slot, evaluate_v1, Replacement.ruleset, hquery]
    · simp [Reading.next, Reading.result, policy_slot, evaluate_v1, Replacement.ruleset, hquery]
  | rule index decision =>
    by_cases hindex : index < policy.rules.length
    · have hrule : policy.rules.getD index cleared_rule = policy.rules[index] := by simp [hindex]
      have hresult : (Reading.rule index decision).result capacity policy query =
          (.OK, if rule_matches policy.rules[index] query then decision.of_rule policy.rules[index]
            else first_match query decision (policy.rules.drop (index + 1))) := by
        rw [Reading.result, List.drop_eq_getElem_cons hindex, first_match]
      rw [hresult]
      simp only [Reading.next, policy_slot, hindex, hrule, if_true]
      by_cases hmatch : rule_matches policy.rules[index] query = true
      · simp [hmatch]
      · simp [hmatch, Reading.result]
    · simp [Reading.next, Reading.result, policy_slot, hindex, List.drop_eq_nil_of_le (Nat.not_lt.mp hindex),
        first_match]
  | _ => rfl

/-- What the call has found out so far about the policy in its slot. -/
def EvaluatePc.Found (capacity : Nat) (policy : Replacement) : EvaluatePc → Prop
  | .read query _ reading => reading.result capacity policy query = evaluate_v1 (policy.ruleset capacity) query
  | .load_demand query _ decision => evaluate_v1 (policy.ruleset capacity) query = (.OK, decision)
  | _ => True

/-- What the call knows of the decision that it is about to return. -/
def EvaluatePc.Decided (capacity : Nat) (history earlier : List (Nat × Event)) : EvaluatePc → Prop
  | .release query _ .OK decision =>
    ∃ policy, Published history policy ∧ evaluate_v1 (policy.ruleset capacity) query = (.OK, decision) ∧
      ∀ index, Required earlier index → index ≤ policy.committed_index
  | _ => True

/-- What holds of a call of `mesh_flow_runtime_evaluate_ipv4_v1` in thread `i`. -/
structure EvaluateInv (capacity : Nat) (memory : Memory) (history : List (Nat × Event)) (i : Nat) (packet : Packet)
    (pc : EvaluatePc) : Prop where
  query : ∀ query, pc.query = some query → packet.query = some query ∧ memory.published = true
  slot : ∀ slot, pc.validated = some slot →
    ∃ policy, Published history policy ∧ memory.slots slot = policy_slot capacity policy ∧ pc.Found capacity policy
  call : ∃ earlier during, history = earlier ++ (i, .began (.evaluate packet)) :: during ∧
    (∀ event ∈ during, event.1 ≠ i) ∧ pc.Decided capacity history earlier

/-- The active slot holds a published policy. -/
def Shown (capacity : Nat) (memory : Memory) (history : List (Nat × Event)) : Prop :=
  ∃ policy, Published history policy ∧ memory.slots memory.active_slot = policy_slot capacity policy

/-- What holds of a call of `mesh_flow_runtime_publish_v1`. -/
structure PublishInv (capacity : Nat) (memory : Memory) (history : List (Nat × Event)) (policy : Replacement)
    (pc : PublishPc) : Prop where
  loaded : ∀ active, pc.loaded = some active → memory.active_slot = active
  pending : ∀ active fields, pc = .replace active fields →
    fields.foldl (Field.store policy) (memory.slots (!active)) = policy_slot capacity policy
  shown : pc = .store_published → Shown capacity memory history

variable (memory : Memory) (thread : Thread)

/-- What holds of a call of `mesh_flow_runtime_require_index_v1`. -/
def RequireInv (pc : RequirePc) : Prop :=
  ∀ current, pc = .exchange current → current ≤ memory.required_index

def ThreadInv (capacity : Nat) (memory : Memory) (history : List (Nat × Event)) (i : Nat) : Thread → Prop
  | .idle => True
  | .evaluate packet pc => EvaluateInv capacity memory history i packet pc
  | .publish policy pc => PublishInv capacity memory history policy pc
  | .require _ pc => RequireInv memory pc

/-- The invariant of the runtime. -/
structure Inv (capacity : Nat) (world : World) : Prop where
  slots : ∀ slot, (world.memory.slots slot).is_open = true ∧ (world.memory.slots slot).capacity = capacity
  readers : ∀ slot, world.memory.readers slot = UInt32.ofNat (world.threads.countP (Thread.pins slot))
  writer : world.threads.countP Thread.holds = if world.memory.writer then 1 else 0
  published : world.memory.published = true → Shown capacity world.memory world.history
  required : ∀ index, Required world.history index → index ≤ world.memory.required_index
  exclusive : ∀ reader ∈ world.threads, ∀ publisher ∈ world.threads, ∀ slot,
    reader.validated = some slot → publisher.prepares ≠ some slot
  decisions : DecisionsSound capacity world.history
  threads : ∀ i thread, world.threads[i]? = some thread →
    ThreadInv capacity world.memory world.history i thread

/-- A step that counts the thread in or out as it pins and releases the
slot. -/
def Counted (outcome : Outcome) (slot : Bool) : Prop :=
  outcome.1.readers slot + (if thread.pins slot then 1 else 0) =
    memory.readers slot + (if outcome.2.1.pins slot then 1 else 0)

theorem Counted.same {memory : Memory} {thread : Thread} {outcome : Outcome} {slot : Bool}
    (hreaders : outcome.1.readers = memory.readers) (hpins : outcome.2.1.pins slot = thread.pins slot) :
    Counted memory thread outcome slot := by
  rw [Counted, hreaders, hpins]

/-- A step that sets and clears the writer flag as the thread takes and
gives up its hold. -/
def Locked (outcome : Outcome) : Prop :=
  (if outcome.1.writer then 1 else 0) + (if thread.holds then 1 else 0) =
    (if memory.writer then 1 else 0) + (if outcome.2.1.holds then 1 else 0)

theorem Locked.same {memory : Memory} {thread : Thread} {outcome : Outcome}
    (hwriter : outcome.1.writer = memory.writer) (hholds : outcome.2.1.holds = thread.holds) :
    Locked memory thread outcome := by
  rw [Locked, hwriter, hholds]

section evaluate_step

variable (memory : Memory) (packet : Packet) (pc : EvaluatePc)

/-- A reader changes nothing but the counters. -/
theorem evaluate_step_memory :
    (evaluate_step memory packet pc).1 = { memory with readers := (evaluate_step memory packet pc).1.readers } := by
  unfold evaluate_step
  repeat' split
  all_goals rfl

theorem evaluate_step_counted (slot : Bool) :
    Counted memory (.evaluate packet pc) (evaluate_step memory packet pc) slot := by
  cases pc with
  | pin query active | unpin query active =>
    rcases eq_or_ne slot active with rfl | hne
    · simp [Counted, evaluate_step, Thread.pins, EvaluatePc.pinned]
    · simp [Counted, evaluate_step, Thread.pins, EvaluatePc.pinned, hne, hne.symm]
  | release query active result decision =>
    rcases eq_or_ne slot active with rfl | hne
    · simp [Counted, evaluate_step, evaluate_returns, Thread.pins, EvaluatePc.pinned]
    · simp [Counted, evaluate_step, evaluate_returns, Thread.pins, EvaluatePc.pinned, hne, hne.symm]
  | _ =>
    -- The other accesses leave the counters and what the call has pinned as they are.
    refine Counted.same ?_ ?_
    all_goals
      simp only [evaluate_step]
      repeat' split
    all_goals rfl

/-- A slot is found active by loading it. -/
theorem evaluate_step_validated {slot : Bool}
    (hvalidated : (evaluate_step memory packet pc).2.1.validated = some slot) :
    pc.validated = some slot ∨ memory.active_slot = slot := by
  revert hvalidated
  cases pc with
  | reload_active query active =>
    simp only [evaluate_step]
    split <;> rename_i hactive
    · intro hvalidated
      exact .inr (hactive.symm.trans (Option.some.inj hvalidated))
    · nofun
  | _ =>
    simp only [evaluate_step]
    repeat' split
    all_goals first | exact .inl | nofun

end evaluate_step

section publish_step

variable (memory : Memory) (policy : Replacement) (fails : Bool) (pc : PublishPc)

/-- A publisher leaves the counters and the required index alone, and a policy
that is published stays so. -/
theorem publish_step_memory :
    (publish_step memory policy fails pc).1.readers = memory.readers ∧
      (publish_step memory policy fails pc).1.required_index = memory.required_index ∧
      (memory.published = true → (publish_step memory policy fails pc).1.published = true) := by
  unfold publish_step
  repeat' split
  all_goals simp

/-- Before it has set the writer flag, a publisher changes neither the slots
nor which of them is active; from then on it changes only the slot that it
prepares. -/
theorem publish_step_slots :
    ((Thread.publish policy pc).holds = false →
      (publish_step memory policy fails pc).1.slots = memory.slots ∧
        (publish_step memory policy fails pc).1.active_slot = memory.active_slot) ∧
    ∀ slot, (Thread.publish policy pc).prepares ≠ some slot →
      (publish_step memory policy fails pc).1.slots slot = memory.slots slot := by
  cases pc with
  | replace active pending =>
    refine ⟨nofun, fun slot hslot => ?_⟩
    have hne : slot ≠ !active := fun heq => hslot (congrArg some heq.symm)
    cases pending with
    | nil => rfl
    | cons field pending => simp [publish_step, Function.update_of_ne hne]
  | test_and_set =>
    simp only [publish_step]
    split <;> exact ⟨fun _ => ⟨rfl, rfl⟩, fun _ _ => rfl⟩
  | _ =>
    refine ⟨nofun, fun slot _ => ?_⟩
    simp only [publish_step]
    repeat' split
    all_goals rfl

theorem publish_step_counted (slot : Bool) :
    Counted memory (.publish policy pc) (publish_step memory policy fails pc) slot := by
  refine Counted.same (publish_step_memory memory policy fails pc).1 ?_
  unfold publish_step
  repeat' split
  all_goals rfl

/-- A slot is prepared by finding its counter at zero. -/
theorem publish_step_prepares {slot : Bool}
    (hprepares : (publish_step memory policy fails pc).2.1.prepares = some slot) :
    (Thread.publish policy pc).prepares = some slot ∨ memory.readers slot = 0 := by
  revert hprepares
  cases pc with
  | load_readers active =>
    simp only [publish_step]
    split <;> rename_i hreaders
    · nofun
    · intro hprepares
      exact .inr (Option.some.inj hprepares ▸ not_not.mp hreaders)
  | replace active pending =>
    cases pending with
    | nil => nofun
    | cons field pending => exact .inl
  | _ =>
    simp only [publish_step]
    repeat' split
    all_goals first | exact .inl | nofun

theorem publish_step_locked (hholds : (Thread.publish policy pc).holds = true → memory.writer = true) :
    Locked memory (.publish policy pc) (publish_step memory policy fails pc) := by
  cases pc with
  | test_and_set =>
    cases hwriter : memory.writer with
    | true => simp [Locked, publish_step, hwriter, Thread.holds]
    | false => simp [Locked, publish_step, hwriter, Thread.holds]
  | clear result =>
    have hwriter := hholds rfl
    simp [Locked, publish_step, hwriter, Thread.holds]
  | replace active pending => cases pending <;> exact .same rfl rfl
  | _ =>
    refine .same ?_ ?_
    all_goals
      simp only [publish_step]
      repeat' split
    all_goals rfl

/-- The stores of a replacement leave the size of a slot alone and keep it
open. -/
theorem publish_step_shape (slot : Bool) :
    ((publish_step memory policy fails pc).1.slots slot).is_open = (memory.slots slot).is_open ∧
      ((publish_step memory policy fails pc).1.slots slot).capacity = (memory.slots slot).capacity := by
  cases pc with
  | replace active pending =>
    cases pending with
    | nil => exact ⟨rfl, rfl⟩
    | cons field pending =>
      rcases eq_or_ne slot (!active) with rfl | hne
      · simp only [publish_step, Function.update_self]
        cases field <;> exact ⟨rfl, rfl⟩
      · simp [publish_step, Function.update_of_ne hne]
  | _ =>
    refine ⟨?_, ?_⟩
    all_goals
      simp only [publish_step]
      repeat' split
    all_goals rfl

end publish_step

section require_step

variable (memory : Memory) (required_index : UInt64) (fails : Bool) (pc : RequirePc)

/-- A required index only grows, and nothing else changes. -/
theorem require_step_memory :
    (require_step memory required_index fails pc).1 =
        { memory with required_index := (require_step memory required_index fails pc).1.required_index } := by
  unfold require_step
  repeat' split
  all_goals rfl

theorem require_step_grows :
    memory.required_index ≤ (require_step memory required_index fails pc).1.required_index := by
  cases pc with
  | load =>
    simp only [require_step]
    split <;> exact UInt64.le_refl _
  | exchange current =>
    simp only [require_step]
    split <;> rename_i hcurrent
    · exact UInt64.le_refl _
    split <;> rename_i hexchange
    · rw [hexchange.1]
      exact UInt64.le_of_lt (UInt64.not_le.mp hcurrent)
    · exact UInt64.le_refl _

end require_step

/-- What a step of one thread leaves to the others. -/
structure Frame (memory : Memory) (thread : Thread) (next : Memory) : Prop where
  published : memory.published = true → next.published = true
  required : memory.required_index ≤ next.required_index
  slots : ∀ slot, thread.prepares ≠ some slot → next.slots slot = memory.slots slot
  unheld : thread.holds = false → next.slots = memory.slots ∧ next.active_slot = memory.active_slot
  shape : ∀ slot, (next.slots slot).is_open = (memory.slots slot).is_open ∧
    (next.slots slot).capacity = (memory.slots slot).capacity

theorem Frame.same : Frame memory thread memory :=
  ⟨id, UInt64.le_refl _, fun _ _ => rfl, fun _ => ⟨rfl, rfl⟩, fun _ => ⟨rfl, rfl⟩⟩

/-- What a thread can do in one step: nothing, begin a call, or a step of the
call that it is in. -/
inductive ThreadStep (memory : Memory) : Thread → Outcome → Prop
  | waits (thread : Thread) : ThreadStep memory thread (memory, thread, [])
  | begins (call : Call) : ThreadStep memory .idle (memory, call.start, [.began call])
  | evaluate (packet : Packet) (pc : EvaluatePc) :
      ThreadStep memory (.evaluate packet pc) (evaluate_step memory packet pc)
  | publish (policy : Replacement) (fails : Bool) (pc : PublishPc) :
      ThreadStep memory (.publish policy pc) (publish_step memory policy fails pc)
  | require (required_index : UInt64) (fails : Bool) (pc : RequirePc) :
      ThreadStep memory (.require required_index pc) (require_step memory required_index fails pc)

theorem threadStep (input : Input) :
    ThreadStep memory thread (thread_step memory thread input) := by
  cases input with
  | call call =>
    cases thread with
    | idle => exact .begins call
    | _ => exact .waits _
  | proceed fails =>
    cases thread with
    | idle => exact .waits _
    | evaluate packet pc => exact .evaluate packet pc
    | publish policy pc => exact .publish policy fails pc
    | require required_index pc => exact .require required_index fails pc

namespace ThreadStep

variable {memory : Memory} {thread : Thread} {outcome : Outcome} (hstep : ThreadStep memory thread outcome)

include hstep

theorem frame : Frame memory thread outcome.1 := by
  cases hstep with
  | evaluate packet pc =>
    rw [evaluate_step_memory]
    exact ⟨id, UInt64.le_refl _, fun _ _ => rfl, fun _ => ⟨rfl, rfl⟩, fun _ => ⟨rfl, rfl⟩⟩
  | publish policy fails pc =>
    obtain ⟨_, hrequired, hpublished⟩ := publish_step_memory memory policy fails pc
    obtain ⟨hunheld, hslots⟩ := publish_step_slots memory policy fails pc
    exact ⟨hpublished, hrequired ▸ UInt64.le_refl _, hslots, hunheld, publish_step_shape memory policy fails pc⟩
  | require required_index fails pc =>
    have hgrows := require_step_grows memory required_index fails pc
    rw [require_step_memory]
    exact ⟨id, hgrows, fun _ _ => rfl, fun _ => ⟨rfl, rfl⟩, fun _ => ⟨rfl, rfl⟩⟩
  | _ => exact .same memory _

theorem counted (slot : Bool) : Counted memory thread outcome slot := by
  cases hstep with
  | waits => exact .same rfl rfl
  | begins call => cases call <;> exact .same rfl rfl
  | evaluate packet pc => exact evaluate_step_counted memory packet pc slot
  | publish policy fails pc => exact publish_step_counted memory policy fails pc slot
  | require required_index fails pc =>
    refine .same (by rw [require_step_memory]) ?_
    unfold require_step
    repeat' split
    all_goals rfl

theorem locked (hholds : thread.holds = true → memory.writer = true) : Locked memory thread outcome := by
  cases hstep with
  | waits => exact .same rfl rfl
  | begins call => cases call <;> exact .same rfl rfl
  | evaluate packet pc =>
    refine .same (by rw [evaluate_step_memory]) ?_
    unfold evaluate_step
    repeat' split
    all_goals rfl
  | publish policy fails pc => exact publish_step_locked memory policy fails pc hholds
  | require required_index fails pc =>
    refine .same (by rw [require_step_memory]) ?_
    unfold require_step
    repeat' split
    all_goals rfl

variable {slot : Bool}

theorem validated (hvalidated : outcome.2.1.validated = some slot) :
    thread.validated = some slot ∨ memory.active_slot = slot := by
  cases hstep with
  | waits => exact .inl hvalidated
  | begins call => cases call <;> cases hvalidated
  | evaluate packet pc => exact evaluate_step_validated memory packet pc hvalidated
  | publish policy fails pc =>
    revert hvalidated
    unfold publish_step
    repeat' split
    all_goals nofun
  | require required_index fails pc =>
    revert hvalidated
    unfold require_step
    repeat' split
    all_goals nofun

theorem prepares (hprepares : outcome.2.1.prepares = some slot) :
    thread.prepares = some slot ∨ (memory.readers slot = 0 ∧ thread.pins slot = false) := by
  cases hstep with
  | waits => exact .inl hprepares
  | begins call => cases call <;> cases hprepares
  | publish policy fails pc => exact (publish_step_prepares memory policy fails pc hprepares).imp_right fun h => ⟨h, rfl⟩
  | evaluate packet pc =>
    revert hprepares
    unfold evaluate_step
    repeat' split
    all_goals nofun
  | require required_index fails pc =>
    revert hprepares
    unfold require_step
    repeat' split
    all_goals nofun

/-- A step has at most one event. -/
theorem events : outcome.2.2 = [] ∨ ∃ event, outcome.2.2 = [event] := by
  cases hstep with
  | waits => exact .inl rfl
  | begins => exact .inr ⟨_, rfl⟩
  | evaluate packet pc =>
    unfold evaluate_step evaluate_returns
    repeat' split
    all_goals first | exact .inl rfl | exact .inr ⟨_, rfl⟩
  | publish policy fails pc =>
    unfold publish_step
    repeat' split
    all_goals first | exact .inl rfl | exact .inr ⟨_, rfl⟩
  | require required_index fails pc =>
    unfold require_step
    repeat' split
    all_goals first | exact .inl rfl | exact .inr ⟨_, rfl⟩

end ThreadStep

section inv

variable {capacity : Nat} {memory next : Memory} {history events : List (Nat × Event)} {i j : Nat}
  {thread other : Thread} {outcome : Outcome}

variable {policy : Replacement} {decision : Option Decision} {slot : Bool}

theorem Published.append (hpublished : Published history policy) (events : List (Nat × Event)) :
    Published (history ++ events) policy :=
  hpublished.imp fun _ hmem => List.mem_append_left events hmem

theorem Shown.append (hshown : Shown capacity memory history)
    (hsame : next.slots next.active_slot = memory.slots memory.active_slot) (events : List (Nat × Event)) :
    Shown capacity next (history ++ events) := by
  obtain ⟨policy, hpublished, hslot⟩ := hshown
  exact ⟨policy, hpublished.append events, hsame.trans hslot⟩

variable {packet : Packet} {pc : EvaluatePc}

/-- A call is not disturbed by the events of other threads. -/
theorem EvaluateInv.stable (hinv : EvaluateInv capacity memory history j packet pc)
    (hpublished : memory.published = true → next.published = true)
    (hslots : ∀ slot, pc.validated = some slot → next.slots slot = memory.slots slot)
    (hevents : ∀ event ∈ events, event.1 ≠ j) : EvaluateInv capacity next (history ++ events) j packet pc where
  query := fun query hquery => (hinv.query query hquery).imp_right hpublished
  slot := by
    intro slot hslot
    obtain ⟨policy, hpolicy, hholds, hfound⟩ := hinv.slot slot hslot
    exact ⟨policy, hpolicy.append events, (hslots slot hslot).trans hholds, hfound⟩
  call := by
    obtain ⟨earlier, during, hhistory, hown, hdecided⟩ := hinv.call
    refine ⟨earlier, during ++ events, by simp [hhistory], ?_, ?_⟩
    · intro event hevent
      exact (List.mem_append.mp hevent).elim (hown event) (hevents event)
    · unfold EvaluatePc.Decided at hdecided ⊢
      split
      · obtain ⟨policy, hpolicy, hdecision⟩ := hdecided
        exact ⟨policy, hpolicy.append events, hdecision⟩
      · trivial

/-- What holds of a thread is left alone by a step of another one. -/
theorem ThreadInv.stable (hinv : ThreadInv capacity memory history j other) (hframe : Frame memory thread next)
    (hexclusive : ∀ slot, other.validated = some slot → thread.prepares ≠ some slot)
    (hlock : other.holds = true → thread.holds = false) (hevents : ∀ event ∈ events, event.1 ≠ j) :
    ThreadInv capacity next (history ++ events) j other := by
  cases other with
  | idle => trivial
  | evaluate packet pc =>
    exact EvaluateInv.stable hinv hframe.published (fun slot hslot => hframe.slots slot (hexclusive slot hslot)) hevents
  | require required_index pc =>
    intro current hcurrent
    exact UInt64.le_trans (hinv current hcurrent) hframe.required
  | publish policy pc =>
    by_cases hfirst : pc = .test_and_set
    · subst hfirst
      exact ⟨nofun, nofun, nofun⟩
    · obtain ⟨hslots, hactive⟩ := hframe.unheld (hlock (by simpa [Thread.holds] using hfirst))
      refine ⟨fun active hactive' => ?_, fun active fields hpc => ?_, fun hpc => ?_⟩
      · rw [hactive]
        exact hinv.loaded active hactive'
      · rw [hslots]
        exact hinv.pending active fields hpc
      · exact (hinv.shown hpc).append (by rw [hslots, hactive]) events

/-- A call goes on where no decision is at stake yet. -/
theorem EvaluateInv.goes_on {pc' : EvaluatePc} (hinv : EvaluateInv capacity memory history i packet pc)
    (hquery : ∀ query, pc'.query = some query → packet.query = some query ∧ next.published = true)
    (hslot : ∀ slot, pc'.validated = some slot → ∃ policy, Published history policy ∧
      next.slots slot = policy_slot capacity policy ∧ pc'.Found capacity policy)
    (hdecided : ∀ earlier, earlier <+: history → pc'.Decided capacity history earlier) :
    ThreadInv capacity next (history ++ [].map (Prod.mk i)) i (.evaluate packet pc') := by
  obtain ⟨earlier, during, hhistory, hown, _⟩ := hinv.call
  rw [List.map_nil, List.append_nil]
  exact ⟨hquery, hslot, earlier, during, hhistory, hown, hdecided earlier ⟨_, hhistory.symm⟩⟩

theorem EvaluateInv.start (memory : Memory) (history : List (Nat × Event)) (i : Nat) (packet : Packet) :
    EvaluateInv capacity memory (history ++ [(i, .began (.evaluate packet))]) i packet .load_published where
  query := fun _ hquery => by cases hquery
  slot := fun _ hslot => by cases hslot
  call := ⟨history, [], rfl, by simp, trivial⟩

/-- The steps of a call of `mesh_flow_runtime_evaluate_ipv4_v1`. -/
theorem EvaluateInv.step (hinv : EvaluateInv capacity memory history i packet pc)
    (hshown : memory.published = true → Shown capacity memory history)
    (hrequired : ∀ index, Required history index → index ≤ memory.required_index) :
    ThreadInv capacity (evaluate_step memory packet pc).1
      (history ++ (evaluate_step memory packet pc).2.2.map (Prod.mk i)) i (evaluate_step memory packet pc).2.1 := by
  cases pc with
  | load_published =>
    simp only [evaluate_step]
    split
    · trivial
    split <;> rename_i hpublished
    · exact hinv.goes_on nofun nofun fun _ _ => trivial
    split <;> rename_i hquery
    · trivial
    · refine hinv.goes_on (fun query hsome => ?_) nofun fun _ _ => trivial
      cases hsome
      exact ⟨hquery, by simpa using hpublished⟩
  | load_required => trivial
  | load_active query | pin query active | unpin query active => exact hinv.goes_on hinv.query nofun fun _ _ => trivial
  | retry query =>
    simp only [evaluate_step]
    split
    · trivial
    · exact hinv.goes_on hinv.query nofun fun _ _ => trivial
  | reload_active query active =>
    simp only [evaluate_step]
    split <;> rename_i hactive
    · -- The pinned slot is the active one, which holds a published policy.
      refine hinv.goes_on hinv.query (fun slot hslot => ?_) fun _ _ => trivial
      cases hslot
      obtain ⟨policy, hpolicy, hholds⟩ := hshown (hinv.query query rfl).2
      exact ⟨policy, hpolicy, hactive ▸ hholds, trivial⟩
    · exact hinv.goes_on hinv.query nofun fun _ _ => trivial
  | reload_published query active =>
    simp only [evaluate_step]
    split
    · refine hinv.goes_on hinv.query (fun slot hslot => ?_) fun _ _ => trivial
      obtain ⟨policy, hpolicy, hholds, _⟩ := hinv.slot slot hslot
      exact ⟨policy, hpolicy, hholds, rfl⟩
    · exact hinv.goes_on hinv.query nofun fun _ _ => trivial
  | read query active reading =>
    obtain ⟨policy, hpolicy, hholds, hfound⟩ := hinv.slot active rfl
    have hnext := reading.next_result capacity policy query
    simp only [evaluate_step, hholds]
    split <;> rename_i hreading <;> rw [hreading] at hnext
    · refine hinv.goes_on hinv.query (fun slot hslot => ?_) fun _ _ => trivial
      cases hslot
      exact ⟨policy, hpolicy, hholds, hnext.trans hfound⟩
    · refine hinv.goes_on hinv.query (fun slot hslot => ?_) fun _ _ => trivial
      cases hslot
      exact ⟨policy, hpolicy, hholds, hfound.symm.trans hnext.symm⟩
    · rename_i result decision hresult
      refine hinv.goes_on hinv.query nofun fun _ _ => ?_
      cases result <;> trivial
  | load_demand query active decision =>
    obtain ⟨policy, hpolicy, hholds, hfound⟩ := hinv.slot active rfl
    simp only [evaluate_step, hholds]
    split <;> rename_i hdemand
    · exact hinv.goes_on hinv.query nofun fun _ _ => trivial
    · refine hinv.goes_on hinv.query nofun fun earlier hearlier => ⟨policy, hpolicy, hfound, ?_⟩
      rintro index ⟨requirer, hmem⟩
      exact UInt64.le_trans (hrequired index ⟨requirer, hearlier.subset hmem⟩) (UInt64.not_lt.mp hdemand)
  | release query active result decision => trivial

/-- The steps of a call of `mesh_flow_runtime_publish_v1`. -/
theorem PublishInv.step {pc : PublishPc} (hinv : PublishInv capacity memory history policy pc)
    (hshape : ∀ slot, (memory.slots slot).is_open = true ∧ (memory.slots slot).capacity = capacity) (fails : Bool) :
    ThreadInv capacity (publish_step memory policy fails pc).1
      (history ++ (publish_step memory policy fails pc).2.2.map (Prod.mk i)) i
      (publish_step memory policy fails pc).2.1 := by
  cases pc with
  | test_and_set =>
    simp only [publish_step]
    split
    · trivial
    · exact ⟨nofun, nofun, nofun⟩
  | load_active => exact ⟨fun active hactive => Option.some.inj hactive, nofun, nofun⟩
  | load_published active =>
    simp only [publish_step]
    split <;> exact ⟨hinv.loaded, nofun, nofun⟩
  | compare active | load_readers active =>
    simp only [publish_step]
    split
    · exact ⟨nofun, nofun, nofun⟩
    · exact ⟨hinv.loaded, nofun, nofun⟩
  | validate active =>
    simp only [publish_step]
    split
    · split
      · exact ⟨nofun, nofun, nofun⟩
      · refine ⟨hinv.loaded, fun active' fields hpc => ?_, nofun⟩
        obtain ⟨hactive, hfields⟩ := PublishPc.replace.inj hpc
        obtain ⟨hopen, hcapacity⟩ := hshape (!active)
        subst hactive hfields
        simp [Field.all, Field.store, policy_slot, hopen, hcapacity]
    · exact ⟨nofun, nofun, nofun⟩
  | replace active fields =>
    cases fields with
    | nil =>
      refine ⟨nofun, nofun, fun _ => ⟨policy, ⟨i, by simp [publish_step]⟩, ?_⟩⟩
      exact hinv.pending active [] rfl
    | cons field fields =>
      refine ⟨hinv.loaded, fun active' pending hpc => ?_, nofun⟩
      obtain ⟨hactive, hpending⟩ := PublishPc.replace.inj hpc
      subst hactive hpending
      simpa [publish_step] using hinv.pending active (field :: fields) rfl
  | store_published => exact ⟨nofun, nofun, nofun⟩
  | clear result => trivial

/-- The steps of a call of `mesh_flow_runtime_require_index_v1`. -/
theorem RequireInv.step {required_index : UInt64} {pc : RequirePc} (fails : Bool) :
    ThreadInv capacity (require_step memory required_index fails pc).1
      (history ++ (require_step memory required_index fails pc).2.2.map (Prod.mk i)) i
      (require_step memory required_index fails pc).2.1 := by
  have hloaded : RequireInv memory (.exchange memory.required_index) := by
    rintro current hcurrent
    cases hcurrent
    exact UInt64.le_refl _
  cases pc with
  | load =>
    simp only [require_step]
    split
    · trivial
    · exact hloaded
  | exchange current =>
    simp only [require_step]
    split
    · trivial
    split
    · trivial
    · exact hloaded

theorem ThreadInv.step (hinv : ThreadInv capacity memory history i thread) (hstep : ThreadStep memory thread outcome)
    (hshape : ∀ slot, (memory.slots slot).is_open = true ∧ (memory.slots slot).capacity = capacity)
    (hshown : memory.published = true → Shown capacity memory history)
    (hrequired : ∀ index, Required history index → index ≤ memory.required_index) :
    ThreadInv capacity outcome.1 (history ++ outcome.2.2.map (Prod.mk i)) i outcome.2.1 := by
  cases hstep with
  | waits => simpa using hinv
  | begins call =>
    cases call with
    | evaluate packet => exact EvaluateInv.start memory history i packet
    | publish policy => exact ⟨nofun, nofun, nofun⟩
    | require required_index => exact nofun
  | evaluate packet pc => exact EvaluateInv.step hinv hshown hrequired
  | publish policy fails pc => exact PublishInv.step hinv hshape fails
  | require required_index fails pc => exact RequireInv.step fails

theorem evaluate_step_decides {called : Packet}
    (hmem : Event.returned (.evaluate called) .OK decision ∈ (evaluate_step memory packet pc).2.2) :
    ∃ query active decided, called = packet ∧ pc = .release query active .OK decided ∧ decision = some decided := by
  revert hmem
  cases pc with
  | release query active result decided =>
    intro hmem
    obtain ⟨hcalled, hresult, hdecision⟩ : called = packet ∧ .OK = map_ruleset_result result ∧
        decision = some decided := by
      simpa [evaluate_step, evaluate_returns] using hmem
    refine ⟨query, active, decided, hcalled, ?_, hdecision⟩
    cases result <;> first | rfl | cases hresult
  | load_required =>
    simp only [evaluate_step, evaluate_returns]
    split <;> simp
  | _ =>
    simp only [evaluate_step, evaluate_returns]
    repeat' split
    all_goals simp

/-- Only the last step of a call returns a decision with `OK`. -/
theorem ThreadStep.decides (hstep : ThreadStep memory thread outcome)
    (hmem : Event.returned (.evaluate packet) .OK decision ∈ outcome.2.2) :
    ∃ query active decided, thread = .evaluate packet (.release query active .OK decided) ∧
      decision = some decided := by
  cases hstep with
  | evaluate called pc =>
    obtain ⟨query, active, decided, rfl, rfl, hdecision⟩ := evaluate_step_decides hmem
    exact ⟨query, active, decided, rfl, hdecision⟩
  | publish policy fails pc =>
    revert hmem
    unfold publish_step
    repeat' split
    all_goals simp
  | require required_index fails pc =>
    revert hmem
    unfold require_step
    repeat' split
    all_goals simp
  | _ => simp at hmem

/-- A call that has set an index returns when it is in place. -/
theorem ThreadStep.requires {index : UInt64} (hstep : ThreadStep memory thread outcome)
    (hinv : ThreadInv capacity memory history i thread)
    (hmem : Event.returned (.require index) .OK none ∈ outcome.2.2) : index ≤ outcome.1.required_index := by
  revert hmem
  cases hstep with
  | evaluate packet pc =>
    unfold evaluate_step evaluate_returns
    repeat' split
    all_goals simp
  | publish policy fails pc =>
    unfold publish_step
    repeat' split
    all_goals simp
  | require required_index fails pc =>
    cases pc with
    | load =>
      simp only [require_step]
      split <;> simp
    | exchange current =>
      have hcurrent : current ≤ memory.required_index := hinv current rfl
      simp only [require_step]
      split <;> rename_i hreached
      · intro hmem
        obtain rfl : index = required_index := by simpa using hmem
        exact UInt64.le_trans hreached hcurrent
      split
      · intro hmem
        obtain rfl : index = required_index := by simpa using hmem
        exact UInt64.le_refl _
      · simp
  | _ => simp

/-- The decisions stay sound: the last step of a call returns what the call
has found out. -/
theorem DecisionsSound.step (hsound : DecisionsSound capacity history)
    (hinv : ThreadInv capacity memory history i thread) (hstep : ThreadStep memory thread outcome) :
    DecisionsSound capacity (history ++ outcome.2.2.map (Prod.mk i)) := by
  rcases hstep.events with hnone | ⟨event, hevent⟩
  · rw [hnone, List.map_nil, List.append_nil]
    exact hsound
  · rw [hevent, List.map_singleton]
    intro before j packet decision hprefix
    rcases List.prefix_concat_iff.mp hprefix with hlast | hearlier
    · obtain ⟨rfl, hreturned⟩ := List.append_inj' hlast rfl
      obtain ⟨rfl, rfl⟩ := Prod.mk.inj (List.singleton_inj.mp hreturned)
      obtain ⟨query, active, decided, rfl, hdecision⟩ := hstep.decides (hevent ▸ List.mem_singleton_self _)
      obtain ⟨earlier, during, hhistory, hown, policy, hpolicy, hevaluate, hdemands⟩ := hinv.call
      exact ⟨earlier, during, policy, query, hhistory, hown, hpolicy, (hinv.query query rfl).1,
        ⟨decided, hdecision, hevaluate⟩, hdemands⟩
    · exact hsound before j packet decision hearlier

/-- Once a policy is published, the active slot always holds a published
one. -/
theorem Shown.step (hshown : memory.published = true → Shown capacity memory history)
    (hinv : ThreadInv capacity memory history i thread) (hstep : ThreadStep memory thread outcome)
    (hpublished : outcome.1.published = true) : Shown capacity outcome.1 (history ++ outcome.2.2.map (Prod.mk i)) := by
  have hkept : outcome.1.published = memory.published →
      outcome.1.slots outcome.1.active_slot = memory.slots memory.active_slot →
      Shown capacity outcome.1 (history ++ outcome.2.2.map (Prod.mk i)) :=
    fun hsame hslots => (hshown (hsame ▸ hpublished)).append hslots _
  cases hstep with
  | evaluate packet pc => refine hkept ?_ ?_ <;> rw [evaluate_step_memory]
  | require required_index fails pc => refine hkept ?_ ?_ <;> rw [require_step_memory]
  | publish policy fails pc =>
    cases pc with
    | store_published => exact (hinv.shown rfl).append rfl _
    | replace active fields =>
      cases fields with
      | nil => exact ⟨policy, ⟨i, by simp [publish_step]⟩, hinv.pending active [] rfl⟩
      | cons field fields =>
        have hne : memory.active_slot ≠ !active := by
          rw [hinv.loaded active rfl]
          cases active <;> decide
        exact hkept rfl (Function.update_of_ne hne _ _)
    | _ =>
      refine hkept ?_ ?_
      all_goals
        simp only [publish_step]
        repeat' split
      all_goals rfl
  | _ => exact hkept rfl rfl

theorem Thread.pins_of_validated (hvalidated : thread.validated = some slot) : thread.pins slot = true := by
  cases thread with
  | evaluate packet pc =>
    cases pc with
    | reload_published | read | load_demand => exact decide_eq_true hvalidated
    | _ => cases hvalidated
  | _ => cases hvalidated

/-- A publisher goes by the slot that is active: the one it prepares is not. -/
theorem ThreadInv.prepares_inactive (hinv : ThreadInv capacity memory history i thread)
    (hprepares : thread.prepares = some slot) : memory.active_slot ≠ slot := by
  cases thread with
  | publish policy pc =>
    cases pc with
    | validate active | replace active fields =>
      obtain rfl := Option.some.inj hprepares
      rw [hinv.loaded active rfl]
      cases active <;> decide
    | _ => cases hprepares
  | _ => cases hprepares

end inv

section step

variable {capacity : Nat} {world : World} {i : Nat} {thread : Thread} {outcome : Outcome} (hinv : Inv capacity world)

include hinv

/-- A counter at zero has no readers, as long as no more threads than the
counter can tell apart use the runtime. -/
theorem Inv.no_readers (hthreads : world.threads.length ≤ 4294967296) {slot : Bool}
    (hzero : world.memory.readers slot = 0) (hmem : thread ∈ world.threads) (hpins : thread.pins slot = false) :
    world.threads.countP (Thread.pins slot) = 0 := by
  have hless : world.threads.countP (Thread.pins slot) < world.threads.length :=
    List.countP_lt_length_iff.mpr ⟨thread, hmem, hpins⟩
  rw [hinv.readers slot] at hzero
  have hmod := congrArg UInt32.toNat hzero
  simp only [UInt32.toNat_ofNat', UInt32.reduceToNat] at hmod
  omega

/-- Two threads never hold the writer flag at once. -/
theorem Inv.holder_unique {j : Nat} {other : Thread} (hi : world.threads[i]? = some thread)
    (hj : world.threads[j]? = some other) (hholds : thread.holds = true) (hother : other.holds = true) : i = j := by
  refine Threads.eq_of_countP_le_one ?_ hi hj hholds hother
  rw [hinv.writer]
  split <;> decide

theorem Inv.step_exclusive (hthreads : world.threads.length ≤ 4294967296) (hget : world.threads[i]? = some thread)
    (hstep : ThreadStep world.memory thread outcome) :
    ∀ reader ∈ world.threads.set i outcome.2.1,
      ∀ publisher ∈ world.threads.set i outcome.2.1, ∀ slot,
        reader.validated = some slot → publisher.prepares ≠ some slot := by
  have hthread := List.mem_of_getElem? hget
  intro reader hreader publisher hpublisher slot hvalidated hprepares
  rcases List.mem_or_eq_of_mem_set hreader with hreader | rfl
  · rcases List.mem_or_eq_of_mem_set hpublisher with hpublisher | rfl
    · exact hinv.exclusive reader hreader publisher hpublisher slot hvalidated hprepares
    · rcases hstep.prepares hprepares with hbefore | ⟨hzero, hpins⟩
      · exact hinv.exclusive reader hreader thread hthread slot hvalidated hbefore
      · -- The counter was zero, but the reader is counted.
        have hnone := hinv.no_readers hthreads hzero hthread hpins
        exact List.countP_eq_zero.mp hnone reader hreader (Thread.pins_of_validated hvalidated)
  · rcases hstep.validated hvalidated with hbefore | hactive
    · rcases List.mem_or_eq_of_mem_set hpublisher with hpublisher | rfl
      · exact hinv.exclusive thread hthread publisher hpublisher slot hbefore hprepares
      · cases hnext : outcome.2.1 <;> rw [hnext] at hvalidated hprepares <;> first | cases hvalidated | cases hprepares
    · rcases List.mem_or_eq_of_mem_set hpublisher with hpublisher | rfl
      · obtain ⟨j, hj⟩ := List.mem_iff_getElem?.mp hpublisher
        exact (hinv.threads j publisher hj).prepares_inactive hprepares hactive
      · cases hnext : outcome.2.1 <;> rw [hnext] at hvalidated hprepares <;> first | cases hvalidated | cases hprepares

theorem Inv.step_threads (hget : world.threads[i]? = some thread) (hstep : ThreadStep world.memory thread outcome)
    (j : Nat) (other : Thread) (hother : (world.threads.set i outcome.2.1)[j]? = some other) :
    ThreadInv capacity outcome.1 (world.history ++ outcome.2.2.map (Prod.mk i)) j other := by
  have hlt := (List.getElem?_eq_some_iff.mp hget).1
  rcases eq_or_ne i j with rfl | hne
  · rw [List.getElem?_set_self hlt] at hother
    obtain rfl := Option.some.inj hother
    exact (hinv.threads i thread hget).step hstep hinv.slots hinv.published hinv.required
  · rw [List.getElem?_set_ne hne] at hother
    refine (hinv.threads j other hother).stable hstep.frame ?_ ?_ ?_
    · intro slot hslot
      exact hinv.exclusive other (List.mem_of_getElem? hother) thread (List.mem_of_getElem? hget) slot hslot
    · intro hholds
      exact Bool.not_eq_true _ ▸ fun hthread => hne (hinv.holder_unique hget hother hthread hholds)
    · intro event hevent
      obtain ⟨_, _, rfl⟩ := List.mem_map.mp hevent
      exact hne

/-- Every step keeps the invariant. -/
theorem Inv.step (hthreads : world.threads.length ≤ 4294967296) (hget : world.threads[i]? = some thread)
    (hstep : ThreadStep world.memory thread outcome) :
    Inv capacity
      { memory := outcome.1, threads := world.threads.set i outcome.2.1
        history := world.history ++ outcome.2.2.map (Prod.mk i) } where
  slots := by
    intro slot
    obtain ⟨hopen, hcapacity⟩ := hstep.frame.shape slot
    rw [hopen, hcapacity]
    exact hinv.slots slot
  readers := by
    intro slot
    have hcounted : Counted _ _ _ _ := hstep.counted slot
    have hcount := congrArg UInt32.ofNat (Threads.countP_set (Thread.pins slot) hget outcome.2.1)
    rw [Counted, hinv.readers slot] at hcounted
    simp only [UInt32.ofNat_add, apply_ite UInt32.ofNat] at hcount
    exact UInt32.add_left_inj _ |>.mp (hcounted.trans hcount.symm)
  writer := by
    have hholds : thread.holds = true → world.memory.writer = true := by
      intro hholds
      have hpos : 0 < world.threads.countP Thread.holds :=
        List.countP_pos_iff.mpr ⟨thread, List.mem_of_getElem? hget, hholds⟩
      rw [hinv.writer] at hpos
      by_contra hwriter
      simp [hwriter] at hpos
    have hlocked : Locked _ _ _ := hstep.locked hholds
    have hcount := Threads.countP_set Thread.holds hget outcome.2.1
    rw [hinv.writer] at hcount
    exact Nat.add_right_cancel (hcount.trans hlocked.symm)
  published := Shown.step hinv.published (hinv.threads i thread hget) hstep
  required := by
    rintro index ⟨j, hmem⟩
    rcases List.mem_append.mp hmem with hbefore | hnow
    · exact UInt64.le_trans (hinv.required index ⟨j, hbefore⟩) hstep.frame.required
    · obtain ⟨event, hevent, heq⟩ := List.mem_map.mp hnow
      obtain ⟨_, rfl⟩ := Prod.mk.inj heq
      exact hstep.requires (hinv.threads i thread hget) hevent
  exclusive := hinv.step_exclusive hthreads hget hstep
  decisions := hinv.decisions.step (hinv.threads i thread hget) hstep
  threads := hinv.step_threads hget hstep

end step

variable {default_action : Action}

theorem Inv.init {capacity : Nat} {memory : Memory} (hinit : init_v1 capacity default_action = some memory)
    (thread_count : Nat) :
    Inv capacity { memory := memory, threads := List.replicate thread_count .idle, history := [] } := by
  unfold init_v1 mesh_flow_ruleset.init_v1 at hinit
  split at hinit <;> rename_i hruleset
  · cases hinit
  · split at hruleset
    · cases hruleset
    · cases hruleset
      cases hinit
      exact
        { slots := fun _ => ⟨rfl, rfl⟩, readers := fun _ => by simp [List.countP_replicate, Thread.pins]
          writer := by simp [Thread.holds], published := nofun, required := by simp [Required]
          exclusive := fun reader hreader _ _ slot hvalidated => by
            rw [List.eq_of_mem_replicate hreader] at hvalidated
            cases hvalidated
          decisions := fun before i packet decision hbefore => by simp at hbefore
          threads := fun i thread hget => by
            rw [List.eq_of_mem_replicate (List.mem_of_getElem? hget)]
            trivial }

theorem Inv.safe {capacity : Nat} {world : World} (hinv : Inv capacity world) : Safe capacity world where
  decisions := hinv.decisions
  exclusive := by
    intro reader hreader publisher hpublisher slot huses hwrites
    refine hinv.exclusive reader hreader publisher hpublisher slot ?_ ?_
    · unfold Thread.uses at huses
      split at huses <;> first | exact huses | cases huses
    · unfold Thread.writes at hwrites
      split at hwrites <;> first | exact hwrites | cases hwrites

/-- With as many threads as the counters can tell apart, every run is safe. -/
theorem run_safe {capacity : Nat} {memory : Memory} (hinit : init_v1 capacity default_action = some memory)
    {thread_count : Nat} (hthreads : thread_count ≤ 4294967296) (inputs : List (Nat × Input)) :
    Safe capacity (run memory thread_count inputs) := by
  have hrun : Inv capacity (run memory thread_count inputs) ∧
      (run memory thread_count inputs).threads.length = thread_count := by
    refine Threads.run_invariant (P := fun world => Inv capacity world ∧ world.threads.length = thread_count)
      ⟨Inv.init hinit thread_count, List.length_replicate⟩ (fun world i thread input hworld hget => ?_) inputs
    obtain ⟨hinv, hlength⟩ := hworld
    exact ⟨hinv.step (hlength ▸ hthreads) hget (threadStep _ _ input), by rw [List.length_set, hlength]⟩
  exact hrun.1.safe

end turbop2p.mesh_flow_runtime
