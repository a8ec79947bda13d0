import TurboP2P.Lib.Machine

namespace Threads

variable {μ τ ι ε : Type}

/-- Threads over one shared memory, with the events of their past, each under
the number of its thread. -/
structure World (μ τ ε : Type) where
  memory : μ
  threads : List τ
  history : List (Nat × ε)

/-- One thread takes its next atomic step: `act` gives the new memory, the new
state of the thread and the events of the step. -/
def step (act : μ → τ → ι → μ × τ × List ε) (world : World μ τ ε) (input : Nat × ι) : World μ τ ε :=
  match world.threads[input.1]? with
  | none => world
  | some thread =>
    let next := act world.memory thread input.2
    { memory := next.1, threads := world.threads.set input.1 next.2.1
      history := world.history ++ next.2.2.map (Prod.mk input.1) }

/-- The steps of one thread that runs alone. -/
def solo (act : μ → τ → ι → μ × τ × List ε) (memory : μ) (thread : τ) : List ι → μ × τ × List ε
  | [] => (memory, thread, [])
  | input :: inputs =>
    let next := act memory thread input
    let last := solo act next.1 next.2.1 inputs
    (last.1, last.2.1, next.2.2 ++ last.2.2)

section step

variable {act : μ → τ → ι → μ × τ × List ε} {world : World μ τ ε} {i : Nat} {thread : τ}

theorem step_of_get (hget : world.threads[i]? = some thread) (input : ι) :
    step act world (i, input) =
      { memory := (act world.memory thread input).1, threads := world.threads.set i (act world.memory thread input).2.1
        history := world.history ++ (act world.memory thread input).2.2.map (Prod.mk i) } := by
  simp [step, hget]

/-- What every step of a thread keeps holds after every run. -/
theorem run_invariant {P : World μ τ ε → Prop} (hinit : P world)
    (hstep : ∀ world i thread input, P world → world.threads[i]? = some thread →
      P { memory := (act world.memory thread input).1
          threads := world.threads.set i (act world.memory thread input).2.1
          history := world.history ++ (act world.memory thread input).2.2.map (Prod.mk i) })
    (inputs : List (Nat × ι)) : P (Machine.run (step act) world inputs) := by
  refine Machine.run_invariant hinit (fun world ⟨i, input⟩ hworld => ?_) inputs
  cases hget : world.threads[i]? with
  | none => simpa [step, hget] using hworld
  | some thread =>
    rw [step_of_get hget]
    exact hstep world i thread input hworld hget

/-- A thread that runs alone changes the memory, its own state and the
history. -/
theorem run_solo (hget : world.threads[i]? = some thread) (inputs : List ι) :
    Machine.run (step act) world (inputs.map (Prod.mk i)) =
      { memory := (solo act world.memory thread inputs).1
        threads := world.threads.set i (solo act world.memory thread inputs).2.1
        history := world.history ++ (solo act world.memory thread inputs).2.2.map (Prod.mk i) } := by
  induction inputs generalizing world thread with
  | nil =>
    obtain ⟨hlt, rfl⟩ := List.getElem?_eq_some_iff.mp hget
    simp [solo, Machine.run]
  | cons input inputs ih =>
    have hlt := (List.getElem?_eq_some_iff.mp hget).1
    have hnext : (step act world (i, input)).threads[i]? = some (act world.memory thread input).2.1 := by
      simp [step_of_get hget, hlt]
    refine (ih hnext).trans ?_
    simp [step_of_get hget, solo]

/-- The same for the first thread. -/
theorem run_solo_first (memory : μ) (thread : τ) (rest : List τ) (history : List (Nat × ε)) (inputs : List ι) :
    Machine.run (step act) { memory := memory, threads := thread :: rest, history := history }
        (inputs.map (Prod.mk 0)) =
      { memory := (solo act memory thread inputs).1, threads := (solo act memory thread inputs).2.1 :: rest
        history := history ++ (solo act memory thread inputs).2.2.map (Prod.mk 0) } :=
  run_solo List.getElem?_cons_zero inputs

/-- The number of threads in a kind of state changes by the one that moved. -/
theorem countP_set (p : τ → Bool) {threads : List τ} (hget : threads[i]? = some thread) (next : τ) :
    (threads.set i next).countP p + (if p thread then 1 else 0) = threads.countP p + (if p next then 1 else 0) := by
  obtain ⟨hlt, rfl⟩ := List.getElem?_eq_some_iff.mp hget
  have hcount : p threads[i] = true → 0 < threads.countP p := fun hp =>
    List.countP_pos_iff.mpr ⟨threads[i], List.getElem_mem hlt, hp⟩
  rw [List.countP_set hlt]
  cases hp : p threads[i] with
  | true =>
    have hpos := hcount hp
    simp only [if_true]
    omega
  | false => simp

/-- Where at most one thread is in a kind of state, it is one thread. -/
theorem eq_of_countP_le_one {p : τ → Bool} {threads : List τ} {j : Nat} {other : τ}
    (hone : threads.countP p ≤ 1) (hi : threads[i]? = some thread) (hj : threads[j]? = some other)
    (hthread : p thread = true) (hother : p other = true) : i = j := by
  induction threads generalizing i j with
  | nil => simp at hi
  | cons first rest ih =>
    -- With a first one of that kind there is none among the rest.
    have halone : ∀ {k : Nat} {later : τ}, p first = true → rest[k]? = some later → p later ≠ true := by
      intro k later hfirst hk hlater
      have hpos : 0 < rest.countP p := List.countP_pos_iff.mpr ⟨later, List.mem_of_getElem? hk, hlater⟩
      rw [List.countP_cons, if_pos hfirst] at hone
      omega
    cases i with
    | zero =>
      cases j with
      | zero => rfl
      | succ j =>
        obtain rfl := Option.some.inj hi
        exact absurd hother (halone hthread hj)
    | succ i =>
      cases j with
      | zero =>
        obtain rfl := Option.some.inj hj
        exact absurd hthread (halone hother hi)
      | succ j =>
        rw [List.countP_cons] at hone
        exact congrArg (· + 1) (ih (by omega) hi hj)

end step

end Threads
