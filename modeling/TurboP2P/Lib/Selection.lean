import Mathlib.Data.List.Basic
import Mathlib.Tactic.Common

namespace Selection

variable {α β : Type}

/-- One turn of a loop that keeps the best candidate. A candidate without a
value is passed over. -/
def turn (value : α → Option β) (better : α → α → Bool) (best : Option (α × β)) (x : α) : Option (α × β) :=
  match value x with
  | none => best
  | some v => if best.all fun current => better x current.1 then some (x, v) else best

/-- The best of the candidates, the first one among equals. -/
def select (value : α → Option β) (better : α → α → Bool) (candidates : List α) : Option (α × β) :=
  candidates.foldl (turn value better) none

/-- `best` is a candidate with a value that no other one beats. -/
def IsBest (value : α → Option β) (better : α → α → Bool) (candidates : List α) : Option (α × β) → Prop
  | none => ∀ x ∈ candidates, value x = none
  | some (x, v) => x ∈ candidates ∧ value x = some v ∧ ∀ y ∈ candidates, value y ≠ none → better y x = false

section order

variable {value : α → Option β} {better : α → α → Bool} (hirrefl : ∀ x, better x x = false)
  (htrans : ∀ x y z, better x y = true → better y z = true → better x z = true)

include hirrefl htrans

theorem IsBest.turn {candidates : List α} {best : Option (α × β)} (hbest : IsBest value better candidates best)
    (x : α) : IsBest value better (candidates ++ [x]) (turn value better best x) := by
  unfold Selection.turn
  cases hx : value x with
  | none =>
    cases best with
    | none => simpa [IsBest, or_imp, forall_and, hx] using hbest
    | some current =>
      obtain ⟨hmem, hvalue, hall⟩ := hbest
      refine ⟨List.mem_append_left _ hmem, hvalue, fun y hy hsome => ?_⟩
      rcases List.mem_append.mp hy with hy | hy
      · exact hall y hy hsome
      · rw [List.mem_singleton.mp hy] at hsome
        exact absurd hx hsome
  | some v =>
    cases best with
    | none =>
      refine ⟨by simp, hx, fun y hy hsome => ?_⟩
      rcases List.mem_append.mp hy with hy | hy
      · exact absurd (hbest y hy) hsome
      · rw [List.mem_singleton.mp hy]
        exact hirrefl x
    | some current =>
      obtain ⟨hmem, hvalue, hall⟩ := hbest
      simp only [Option.all_some]
      by_cases hbetter : better x current.1 = true
      · rw [if_pos hbetter]
        refine ⟨by simp, hx, fun y hy hsome => ?_⟩
        rcases List.mem_append.mp hy with hy | hy
        · by_contra hy'
          have hchain := htrans y x current.1 (by simpa using hy') hbetter
          rw [hall y hy hsome] at hchain
          cases hchain
        · rw [List.mem_singleton.mp hy]
          exact hirrefl x
      · rw [if_neg hbetter]
        refine ⟨List.mem_append_left _ hmem, hvalue, fun y hy hsome => ?_⟩
        rcases List.mem_append.mp hy with hy | hy
        · exact hall y hy hsome
        · rw [List.mem_singleton.mp hy]
          simpa using hbetter

theorem isBest_select (candidates : List α) : IsBest value better candidates (select value better candidates) := by
  have hfold : ∀ rest seen best, IsBest value better seen best →
      IsBest value better (seen ++ rest) (rest.foldl (Selection.turn value better) best) := by
    intro rest
    induction rest with
    | nil =>
      intro seen best hbest
      simpa using hbest
    | cons x rest ih =>
      intro seen best hbest
      have hnext := ih (seen ++ [x]) _ (hbest.turn hirrefl htrans x)
      simpa using hnext
  exact hfold candidates [] none (by simp [IsBest])

end order

end Selection
