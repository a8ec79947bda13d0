import TurboP2P.Lib.SlotTable
import Mathlib.Data.List.Chain
import Mathlib.Data.List.Range

namespace SlotTable

variable {α β : Type}

def occupied (t : SlotTable α) : Nat := t.countP Option.isSome

/-- The copying loop of a page: skip `offset` occupied slots, then copy until
`capacity` entries are copied. -/
def page_loop (read : α → β) (offset capacity : Nat) : Nat → List β → SlotTable α → List β
  | _, copied, [] => copied
  | seen, copied, none :: t => page_loop read offset capacity seen copied t
  | seen, copied, some a :: t =>
    if seen < offset then page_loop read offset capacity (seen + 1) copied t
    else if copied.length = capacity then copied
    else page_loop read offset capacity (seen + 1) (copied ++ [read a]) t

theorem occupied_eq (t : SlotTable α) : t.occupied = t.live.length := by
  induction t with
  | nil => rfl
  | cons slot t ih =>
    cases slot with
    | none => simpa [occupied, live] using ih
    | some a => simpa [occupied, live] using ih

/-- The copying loop returns the entries after the skipped ones, as far as
they fit. -/
theorem page_loop_eq (read : α → β) (offset capacity seen : Nat) (copied : List β) (t : SlotTable α)
    (hfits : copied.length ≤ capacity) :
    page_loop read offset capacity seen copied t =
      copied ++ ((t.live.map read).drop (offset - seen)).take (capacity - copied.length) := by
  induction t generalizing seen copied with
  | nil => simp [page_loop, live]
  | cons slot t ih =>
    cases slot with
    | none => simpa [page_loop, live] using ih seen copied hfits
    | some a =>
      have hlive : live (some a :: t) = a :: live t := by simp [live]
      rw [page_loop, hlive, List.map_cons]
      by_cases hskip : seen < offset
      · have hsucc : offset - seen = offset - (seen + 1) + 1 := by omega
        rw [if_pos hskip, ih _ _ hfits, hsucc, List.drop_succ_cons]
      · have hzero : offset - seen = 0 := by omega
        have hzero' : offset - (seen + 1) = 0 := by omega
        rw [if_neg hskip, hzero, List.drop_zero]
        by_cases hfull : copied.length = capacity
        · simp [hfull]
        · have hroom : capacity - copied.length = capacity - (copied.length + 1) + 1 := by omega
          rw [if_neg hfull, ih _ _ (by rw [List.length_append, List.length_singleton]; omega), hzero',
            List.drop_zero, hroom, List.take_succ_cons, List.length_append, List.length_singleton]
          simp

/-- How many entries a page has. -/
theorem length_page_loop (read : α → β) (offset capacity : Nat) (t : SlotTable α) :
    (page_loop read offset capacity 0 [] t).length = min capacity (t.live.length - offset) := by
  rw [page_loop_eq _ _ _ _ _ _ (Nat.zero_le _)]
  simp

/-- A page is a piece of what remains after the skipped entries. -/
theorem page_loop_prefix (read : α → β) (offset capacity : Nat) (t : SlotTable α) :
    page_loop read offset capacity 0 [] t <+: (t.live.map read).drop offset := by
  rw [page_loop_eq _ _ _ _ _ _ (Nat.zero_le _)]
  exact List.take_prefix _ _

end SlotTable

namespace Paging

variable {α π : Type}

/-- Pages of one list that follow each other without a gap, up to its end,
concatenate to everything from the first page's offset on. -/
theorem flatMap_pages {offset : π → Nat} {chunk : π → List α} {whole : List α} {pages : List π}
    (hpages : ∀ page ∈ pages, chunk page <+: whole.drop (offset page))
    (hchain : pages.IsChain fun page next => offset next = offset page + (chunk page).length)
    (hlast : ∀ page ∈ pages.getLast?, offset page + (chunk page).length = whole.length) :
    ∀ first ∈ pages.head?, pages.flatMap chunk = whole.drop (offset first) := by
  induction pages with
  | nil => simp
  | cons page pages ih =>
    intro first hfirst
    cases hfirst
    have hpage := hpages page (by simp)
    have hlater : whole.drop (offset page) = chunk page ++ whole.drop (offset page + (chunk page).length) := by
      obtain ⟨rest, hrest⟩ := hpage
      rw [← List.drop_drop, ← hrest, List.drop_left]
    rw [List.flatMap_cons, hlater, List.append_cancel_left_eq]
    cases pages with
    | nil =>
      have hend := hlast page (by simp)
      rw [hend, List.drop_length]
      rfl
    | cons next pages =>
      obtain ⟨hnext, hrest⟩ := List.isChain_cons_cons.mp hchain
      rw [← hnext]
      exact ih (fun p hp => hpages p (List.mem_cons_of_mem page hp)) hrest
        (fun p hp => hlast p (by simpa using hp)) next (by simp)

/-- Where the page with number `k` of a list of `total` entries starts, if every
page takes as much as fits. -/
def offset (capacity total k : Nat) : Nat := min (k * capacity) total

variable {capacity total : Nat}

theorem offset_succ (k : Nat) :
    offset capacity total (k + 1) = offset capacity total k + min capacity (total - offset capacity total k) := by
  have hsucc : (k + 1) * capacity = k * capacity + capacity := Nat.succ_mul k capacity
  unfold offset
  omega

/-- As many pages as there are entries are enough. -/
theorem offset_eq_total (hcapacity : 0 < capacity) {k : Nat} (hk : total ≤ k) : offset capacity total k = total := by
  have hle : k * 1 ≤ k * capacity := Nat.mul_le_mul_left k hcapacity
  unfold offset
  omega

end Paging
