import Mathlib.Data.List.Basic
import Mathlib.Tactic.Common

variable {c : Prop} {α β : Type}

/-- An early exit that did not produce the observed outcome was not taken. -/
theorem guard_passed [Decidable c] {exit rest outcome : α} (hguard : (if c then exit else rest) = outcome)
    (hexit : exit ≠ outcome := by simp) : ¬ c ∧ rest = outcome := by
  by_cases hc : c
  · rw [if_pos hc] at hguard
    exact absurd hguard hexit
  · rw [if_neg hc] at hguard
    exact ⟨hc, hguard⟩

/-- The same for an early exit with a result that leaves a state. -/
theorem guard_fst [Decidable c] {exit outcome : α} {state : β} {rest : α × β}
    (hguard : (if c then (exit, state) else rest).1 = outcome) (hexit : exit ≠ outcome := by simp) :
    (if c then (exit, state) else rest) = rest ∧ rest.1 = outcome := by
  by_cases hc : c
  · rw [if_pos hc] at hguard
    exact absurd hguard hexit
  · rw [if_neg hc] at hguard ⊢
    exact ⟨rfl, hguard⟩

/-- What holds of an early exit and of the rest holds of both together. -/
theorem guard_cases {P : α → Prop} [Decidable c] {exit rest : α} (hexit : c → P exit) (hrest : ¬c → P rest) :
    P (if c then exit else rest) := by
  by_cases hc : c
  · rw [if_pos hc]
    exact hexit hc
  · rw [if_neg hc]
    exact hrest hc

/-- The same for a part of what is returned. -/
theorem guard_under {P : β → Prop} {f : α → β} [Decidable c] {exit rest : α} (hexit : c → P (f exit))
    (hrest : ¬c → P (f rest)) : P (f (if c then exit else rest)) :=
  guard_cases (P := fun outcome => P (f outcome)) hexit hrest

/-- Two functions with one guard are related if their exits and their rests
are. -/
theorem guard_rel {R : α → α → Prop} [Decidable c] {exit rest exit' rest' : α} (hexit : R exit exit')
    (hrest : R rest rest') : R (if c then exit else rest) (if c then exit' else rest') := by
  by_cases hc : c
  · rw [if_pos hc, if_pos hc]
    exact hexit
  · rw [if_neg hc, if_neg hc]
    exact hrest

/-- A mapped outcome is a success exactly when the outcome was one. -/
theorem except_map_eq_ok {ε : Type} {f : α → β} {outcome : Except ε α} {b : β} :
    outcome.map f = .ok b ↔ ∃ a, outcome = .ok a ∧ f a = b := by
  cases outcome <;> simp [Except.map]

namespace Machine

variable {σ τ ι ω : Type}

def run (step : σ → ι → σ) (s : σ) (inputs : List ι) : σ := inputs.foldl step s

variable {P : σ → Prop} {s : σ} {trace : List σ}

/-- What holds at the start and is kept by the steps of a run holds after it. -/
theorem run_invariant_of_mem {step : σ → ι → σ} {inputs : List ι} (hinit : P s)
    (hstep : ∀ t, ∀ input ∈ inputs, P t → P (step t input)) : P (run step s inputs) := by
  induction inputs generalizing s with
  | nil => exact hinit
  | cons input inputs ih =>
    exact ih (hstep s input List.mem_cons_self hinit) fun t later hlater => hstep t later (List.mem_cons_of_mem _ hlater)

/-- What holds at the start and is kept by every step holds after every run. -/
theorem run_invariant {step : σ → ι → σ} (hinit : P s) (hstep : ∀ t input, P t → P (step t input)) (inputs : List ι) :
    P (run step s inputs) :=
  run_invariant_of_mem hinit fun t input _ => hstep t input

theorem run_append (step : σ → ι → σ) (s : σ) (first second : List ι) :
    run step s (first ++ second) = run step (run step s first) second := by
  simp [run]

/-- The observations made along a trace, one list for each pair of adjacent
states. -/
def along (observe : σ → σ → List ω) : List σ → List ω
  | s :: t :: rest => observe s t ++ along observe (t :: rest)
  | _ => []

/-- Along a chain whose relation passes a property on, every state has it if
the first one does. -/
theorem isChain_forall {R : σ → σ → Prop} (hstep : ∀ s t, P s → R s t → P t) {rest : List σ} (hinit : P s)
    (hchain : List.IsChain R (s :: rest)) : ∀ t ∈ s :: rest, P t := by
  induction rest generalizing s with
  | nil => simpa using hinit
  | cons t rest ih =>
    obtain ⟨hlink, hrest⟩ := List.isChain_cons_cons.mp hchain
    exact List.forall_mem_cons.mpr ⟨hinit, ih (hstep s t hinit hlink) hrest⟩

/-- The links of a chain may assume what holds of all its states. -/
theorem isChain_and {R : σ → σ → Prop} (hall : ∀ s ∈ trace, P s) (hchain : trace.IsChain R) :
    trace.IsChain fun s t => P s ∧ R s t := by
  induction trace with
  | nil => exact .nil
  | cons s rest ih =>
    cases rest with
    | nil => exact .singleton s
    | cons t rest =>
      obtain ⟨hlink, hrest⟩ := List.isChain_cons_cons.mp hchain
      exact List.isChain_cons_cons.mpr
        ⟨⟨hall s (by simp), hlink⟩, ih (fun u hu => hall u (List.mem_cons_of_mem s hu)) hrest⟩

/-- Whatever is observed along a trace is observed at one of its links. -/
theorem mem_along {observe : σ → σ → List ω} {a : ω} (hmem : a ∈ along observe trace) :
    ∃ s, ∃ t ∈ trace, a ∈ observe s t := by
  induction trace with
  | nil => simp [along] at hmem
  | cons s rest ih =>
    cases rest with
    | nil => simp [along] at hmem
    | cons t rest =>
      rw [along, List.mem_append] at hmem
      rcases hmem with hlink | hlater
      · exact ⟨s, t, by simp, hlink⟩
      · obtain ⟨u, v, hv, ha⟩ := ih hlater
        exact ⟨u, v, List.mem_cons_of_mem s hv, ha⟩

/-- Two kinds of observation that agree on every link agree along the
chain. -/
theorem along_map_eq {υ : Type} {observe : σ → σ → List ω} {observe' : σ → σ → List υ} {f : ω → υ}
    (hchain : trace.IsChain fun s t => (observe s t).map f = observe' s t) :
    (along observe trace).map f = along observe' trace := by
  induction trace with
  | nil => rfl
  | cons s rest ih =>
    cases rest with
    | nil => rfl
    | cons t rest =>
      obtain ⟨hlink, hrest⟩ := List.isChain_cons_cons.mp hchain
      simp [along, hlink, ih hrest]

def answers (step : σ → ι → ω × σ) : σ → List ι → List ω
  | _, [] => []
  | s, input :: inputs => (step s input).1 :: answers step (step s input).2 inputs

/-- Two steps that agree on the states and inputs of a run give the same
answers. -/
theorem answers_congr {left right : σ → ι → ω × σ} (P : σ → Prop) {inputs : List ι}
    (hstep : ∀ s, ∀ input ∈ inputs, P s → left s input = right s input ∧ P (left s input).2) (hinit : P s) :
    answers left s inputs = answers right s inputs := by
  induction inputs generalizing s with
  | nil => rfl
  | cons input inputs ih =>
    obtain ⟨hsame, hnext⟩ := hstep s input (by simp) hinit
    have hrest := ih (fun t later hlater => hstep t later (List.mem_cons_of_mem input hlater)) hnext
    rw [answers, answers, hrest, hsame]

/-- States related by a simulation that forces equal answers cannot be told
apart by any list of inputs. -/
theorem answers_eq_of_simulation {left : σ → ι → ω × σ} {right : τ → ι → ω × τ} {R : σ → τ → Prop}
    (hstep : ∀ s t input, R s t → (left s input).1 = (right t input).1 ∧ R (left s input).2 (right t input).2) {t : τ}
    (hrel : R s t) (inputs : List ι) : answers left s inputs = answers right t inputs := by
  induction inputs generalizing s t with
  | nil => rfl
  | cons input inputs ih =>
    obtain ⟨hanswer, hnext⟩ := hstep s t input hrel
    simp [answers, hanswer, ih hnext]

end Machine
