import TurboP2P.Lib.Machine

namespace Log

variable {σ ε ρ : Type}

/-- Applies entries in order and stops at the first one that is not answered
with `ok`. -/
def apply [DecidableEq ρ] (step : σ → ε → ρ × σ) (ok : ρ) : σ → List ε → ρ × σ
  | s, [] => (ok, s)
  | s, entry :: rest => if (step s entry).1 = ok then apply step ok (step s entry).2 rest else step s entry

/-- `P` holds of every entry in the state in which its turn comes. -/
def Throughout (step : σ → ε → ρ × σ) (P : σ → ε → Prop) : σ → List ε → Prop
  | _, [] => True
  | s, entry :: rest => P s entry ∧ Throughout step P (step s entry).2 rest

instance Throughout.decidable (step : σ → ε → ρ × σ) (P : σ → ε → Prop) [∀ s entry, Decidable (P s entry)] :
    ∀ s entries, Decidable (Throughout step P s entries)
  | _, [] => isTrue trivial
  | s, entry :: rest =>
    haveI := Throughout.decidable step P (step s entry).2 rest
    inferInstanceAs (Decidable (P s entry ∧ Throughout step P (step s entry).2 rest))

variable {step : σ → ε → ρ × σ} {ok : ρ}

variable {s : σ} {entries : List ε}

theorem throughout_append {P : σ → ε → Prop} {first second : List ε} :
    Throughout step P s (first ++ second) ↔
      Throughout step P s first ∧ Throughout step P (first.foldl (fun s entry => (step s entry).2) s) second := by
  induction first generalizing s with
  | nil => simp [Throughout]
  | cons entry rest ih => simp [Throughout, ih, and_assoc]

/-- Two properties that agree wherever `I` holds agree throughout a log, if
`I` is kept as long as they hold. -/
theorem throughout_congr {P Q : σ → ε → Prop} (I : σ → List ε → Prop)
    (hiff : ∀ s entry rest, I s (entry :: rest) → (P s entry ↔ Q s entry))
    (hnext : ∀ s entry rest, I s (entry :: rest) → P s entry → I (step s entry).2 rest) (hinv : I s entries) :
    Throughout step P s entries ↔ Throughout step Q s entries := by
  induction entries generalizing s with
  | nil => rfl
  | cons entry rest ih =>
    simp only [Throughout]
    rw [← hiff s entry rest hinv]
    exact and_congr_right fun hentry => ih (hnext s entry rest hinv hentry)

variable [DecidableEq ρ]

/-- The log is applied to its end exactly when every entry is answered with
`ok`. -/
theorem apply_ok_iff :
    (apply step ok s entries).1 = ok ↔ Throughout step (fun s entry => (step s entry).1 = ok) s entries := by
  induction entries generalizing s with
  | nil => simp [apply, Throughout]
  | cons entry rest ih =>
    by_cases hok : (step s entry).1 = ok
    · simp [apply, Throughout, hok, ih]
    · simp [apply, Throughout, hok]

/-- What no entry changes, no log does. -/
theorem apply_keeps {β : Type} {f : σ → β} (hkeep : ∀ s entry, f (step s entry).2 = f s) (entries : List ε) :
    f (apply step ok s entries).2 = f s := by
  induction entries generalizing s with
  | nil => rfl
  | cons entry rest ih =>
    unfold apply
    split
    · rw [ih, hkeep]
    · rw [hkeep]

/-- A log applied to its end leaves the state that its entries lead to one by
one. -/
theorem apply_state (hok : (apply step ok s entries).1 = ok) :
    (apply step ok s entries).2 = entries.foldl (fun s entry => (step s entry).2) s := by
  induction entries generalizing s with
  | nil => rfl
  | cons entry rest ih =>
    by_cases hentry : (step s entry).1 = ok
    · simp only [apply, hentry, if_true] at hok ⊢
      exact ih hok
    · simp [apply, hentry] at hok

/-- Cutting a log into batches does not change whether all of it is answered
with `ok`. -/
theorem answers_ok_iff {batches : List (List ε)} :
    (∀ answer ∈ Machine.answers (apply step ok) s batches, answer = ok) ↔
      Throughout step (fun s entry => (step s entry).1 = ok) s batches.flatten := by
  induction batches generalizing s with
  | nil => simp [Machine.answers, Throughout]
  | cons batch rest ih =>
    simp only [Machine.answers, List.forall_mem_cons, List.flatten_cons, throughout_append, ih, ← apply_ok_iff]
    constructor
    · rintro ⟨hbatch, hrest⟩
      exact ⟨hbatch, apply_state hbatch ▸ hrest⟩
    · rintro ⟨hbatch, hrest⟩
      exact ⟨hbatch, (apply_state hbatch).symm ▸ hrest⟩

end Log
