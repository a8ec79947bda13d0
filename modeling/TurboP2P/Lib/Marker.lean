import Mathlib.Data.List.Nodup
import Mathlib.Data.List.Perm.Basic
import Mathlib.Tactic.Common

namespace Paging

variable {α β : Type}

/-- The rows of successive pages, each asked for with the marker that came with
the last one, up to the first page without a marker. -/
inductive Listing (fetch : Option α → Option (List β × Option α)) : Option α → List β → Prop where
  | last {marker : Option α} {rows : List β} (hfetch : fetch marker = some (rows, none)) : Listing fetch marker rows
  | more {marker : Option α} {rows later : List β} {next : α} (hfetch : fetch marker = some (rows, some next))
      (hlater : Listing fetch (some next) later) : Listing fetch marker (rows ++ later)

/-- Fetches that agree on the markers that occur list the same rows. -/
theorem Listing.transfer {fetch other : Option α → Option (List β × Option α)} {p : Option α → Prop}
    (hfetch : ∀ marker, p marker → other marker = fetch marker)
    (hnext : ∀ marker rows next, p marker → fetch marker = some (rows, some next) → p (some next))
    {marker : Option α} {rows : List β} (hmarker : p marker) (hlisting : Listing fetch marker rows) :
    Listing other marker rows := by
  induction hlisting with
  | @last marker rows hlast => exact .last ((hfetch marker hmarker).trans hlast)
  | @more marker rows later next hmore _ ih =>
    exact .more ((hfetch marker hmarker).trans hmore) (ih (hnext marker rows next hmarker hmore))

section borders

variable [LT α] [LE α]

/-- Wherever a page of `count` items ends, its last key is the largest so far
and smaller than all later ones. -/
def BordersOrdered (key : β → α) (count : Nat) (items : List β) : Prop :=
  ∀ pages > 0, pages * count < items.length → ∀ last ∈ (items.take (pages * count)).getLast?,
    (∀ item ∈ items.take (pages * count), key item ≤ key last) ∧
      ∀ item ∈ items.drop (pages * count), key last < key item

variable [Std.IsLinearOrder α] [Std.LawfulOrderLT α] {key : β → α} {count : Nat} {items : List β}

/-- What is left of a page border beyond the first page. -/
theorem take_drop_succ (count pages : Nat) (items : List β) :
    items.take ((pages + 1) * count) = items.take count ++ (items.drop count).take (pages * count) ∧
      items.drop ((pages + 1) * count) = (items.drop count).drop (pages * count) := by
  rw [Nat.succ_mul, Nat.add_comm, List.take_add, List.drop_drop]
  exact ⟨rfl, rfl⟩

/-- The first border is in order and so are the others. -/
theorem bordersOrdered_iff {last : β} (hlast : last ∈ (items.take count).getLast?) (hmore : count < items.length)
    (hcount : 0 < count) :
    BordersOrdered key count items ↔
      ((∀ item ∈ items.take count, key item ≤ key last) ∧ ∀ item ∈ items.drop count, key last < key item) ∧
        BordersOrdered key count (items.drop count) := by
  have hend : ∀ pages > 0, ((items.drop count).take (pages * count)).getLast? =
      (items.take ((pages + 1) * count)).getLast? := by
    intro pages hpages
    have hne : (items.drop count).take (pages * count) ≠ [] := by
      have hpos : 0 < pages * count := Nat.mul_pos hpages hcount
      rw [ne_eq, List.take_eq_nil_iff, not_or, List.drop_eq_nil_iff]
      omega
    rw [(take_drop_succ count pages items).1, List.getLast?_append_of_ne_nil _ hne]
  constructor
  · intro hborders
    refine ⟨?_, fun pages hpages hlength last' hlast' => ?_⟩
    · have hfirst := hborders 1 Nat.one_pos (by omega)
      rw [Nat.one_mul] at hfirst
      exact hfirst last hlast
    · rw [hend pages hpages] at hlast'
      have hlength' : (pages + 1) * count < items.length := by
        rw [List.length_drop] at hlength
        rw [Nat.succ_mul]
        omega
      have hborder := hborders (pages + 1) (Nat.succ_pos pages) hlength' last' hlast'
      rw [(take_drop_succ count pages items).1, (take_drop_succ count pages items).2] at hborder
      exact ⟨fun item hitem => hborder.1 item (List.mem_append_right _ hitem), hborder.2⟩
  · rintro ⟨⟨hlow, hhigh⟩, hborders⟩ pages hpages hlength last' hlast'
    cases pages with
    | zero => exact absurd hpages (Nat.lt_irrefl 0)
    | succ pages =>
      rcases Nat.eq_zero_or_pos pages with rfl | hpos
      · rw [Nat.zero_add, Nat.one_mul] at hlast' ⊢
        obtain rfl : last = last' := Option.some.inj (hlast.symm.trans hlast')
        exact ⟨hlow, hhigh⟩
      · rw [← hend pages hpos] at hlast'
        have hlength' : pages * count < (items.drop count).length := by
          rw [Nat.succ_mul] at hlength
          rw [List.length_drop]
          omega
        obtain ⟨hbefore, hafter⟩ := hborders pages hpos hlength' last' hlast'
        have hlater : key last < key last' := hhigh last' (List.mem_of_mem_take (List.mem_of_getLast? hlast'))
        rw [(take_drop_succ count pages items).1, (take_drop_succ count pages items).2]
        refine ⟨fun item hitem => ?_, hafter⟩
        rcases List.mem_append.mp hitem with hitem | hitem
        · exact Std.le_of_lt (Std.lt_of_le_of_lt (hlow item hitem) hlater)
        · exact hbefore item hitem

end borders

variable [LT α] [DecidableLT α]

def behind (key : β → α) (marker : Option α) (items : List β) : List β :=
  items.filter fun item => marker.all fun marker => marker < key item

/-- A page of at most `count` items behind a marker, with the key of its last
item as the next marker if there are more. -/
def page (key : β → α) (count : Nat) (items : List β) (marker : Option α) : List β × Option α :=
  let rest := behind key marker items
  (rest.take count, if count < rest.length then (rest.take count).getLast?.map key else none)

section page

variable {key : β → α} {count : Nat} {items : List β}

@[simp] theorem behind_none (key : β → α) (items : List β) : behind key none items = items := by
  simp [behind]

theorem behind_append (key : β → α) (marker : Option α) (items later : List β) :
    behind key marker (items ++ later) = behind key marker items ++ behind key marker later :=
  List.filter_append ..

theorem behind_take_drop (key : β → α) (marker : Option α) (count : Nat) (items : List β) :
    behind key marker items = behind key marker (items.take count) ++ behind key marker (items.drop count) := by
  rw [← behind_append, List.take_append_drop]

theorem behind_map {γ : Type} (f : γ → β) (marker : Option α) (items : List γ) :
    behind key marker (items.map f) = (behind (key ∘ f) marker items).map f := by
  simp only [behind, List.filter_map]
  rfl

variable {marker next : α} {last : β} {rows : List β}

theorem mem_behind {item : β} : item ∈ behind key (some marker) items ↔ item ∈ items ∧ marker < key item := by
  simp [behind]

theorem page_next {marker : Option α} (hnext : (page key count items marker).2 = some next) :
    count < (behind key marker items).length ∧
      ∃ last ∈ ((behind key marker items).take count).getLast?, key last = next := by
  unfold page at hnext
  by_cases hmore : count < (behind key marker items).length
  · simp only [hmore, if_true, Option.map_eq_some_iff] at hnext
    exact ⟨hmore, hnext⟩
  · simp [hmore] at hnext

theorem mem_of_getLast? {marker : Option α} (hlast : last ∈ ((behind key marker items).take count).getLast?) :
    last ∈ behind key marker items :=
  List.mem_of_mem_take (List.mem_of_getLast? hlast)

theorem lt_page_next (hnext : (page key count items (some marker)).2 = some next) : marker < next := by
  obtain ⟨_, last, hlast, rfl⟩ := page_next hnext
  exact (mem_behind.mp (mem_of_getLast? hlast)).2

/-- Whatever is listed is one of the items, and the first page is listed. -/
theorem Listing.mem (hlisting : Listing (fun marker => some (page key count items marker)) none rows) :
    (∀ row ∈ rows, row ∈ items) ∧ items.take count <+: rows := by
  have hmem : ∀ {marker : Option α} {rows : List β},
      Listing (fun marker => some (page key count items marker)) marker rows → ∀ row ∈ rows, row ∈ items := by
    intro marker rows hlisting
    have hpage : ∀ marker, ∀ row ∈ (page key count items marker).1, row ∈ items := fun marker row hrow =>
      List.mem_of_mem_filter (List.mem_of_mem_take hrow)
    induction hlisting with
    | @last marker rows hfetch => exact fun row hrow => hpage marker row (congrArg Prod.fst (Option.some.inj hfetch) ▸ hrow)
    | @more marker rows later next hfetch _ ih =>
      intro row hrow
      rcases List.mem_append.mp hrow with hrow | hrow
      · exact hpage marker row (congrArg Prod.fst (Option.some.inj hfetch) ▸ hrow)
      · exact ih row hrow
  refine ⟨hmem hlisting, ?_⟩
  have hfirst : (page key count items none).1 = items.take count := by simp [page, behind_none]
  cases hlisting with
  | last hfetch => exact (congrArg Prod.fst (Option.some.inj hfetch)).symm.trans hfirst ▸ List.prefix_rfl
  | more hfetch _ => exact (congrArg Prod.fst (Option.some.inj hfetch)).symm.trans hfirst ▸ List.prefix_append _ _

/-- An item of the first page that lies behind its last key is listed again. -/
theorem Listing.repeats (hcount : 0 < count) {item : β} {later : List β} (hitem : item ∈ items.take count)
    (hbehind : key last < key item)
    (hlater : Listing (fun marker => some (page key count (behind key (some (key last)) items) marker)) none later) :
    ∃ row ∈ items.take count, row ∈ later := by
  obtain ⟨row, rest, hrest⟩ := List.exists_cons_of_ne_nil (List.ne_nil_of_mem (mem_behind.mpr ⟨hitem, hbehind⟩))
  have hrow : row ∈ behind key (some (key last)) (items.take count) := hrest ▸ List.mem_cons_self
  refine ⟨row, (mem_behind.mp hrow).1, hlater.mem.2.subset ?_⟩
  obtain ⟨n, rfl⟩ := Nat.exists_eq_succ_of_ne_zero (Nat.ne_of_gt hcount)
  rw [behind_take_drop key _ n.succ, hrest, List.cons_append, List.take_succ_cons]
  exact List.mem_cons_self

variable [LE α] [Std.IsLinearOrder α] [Std.LawfulOrderLT α]

theorem behind_behind {later : α} (hle : marker ≤ later) :
    behind key (some later) (behind key (some marker) items) = behind key (some later) items := by
  simp only [behind, List.filter_filter, Option.all_some]
  refine List.filter_congr fun item _ => ?_
  by_cases hlater : later < key item
  · simp [hlater, Std.lt_of_le_of_lt hle hlater]
  · simp [hlater]

theorem length_behind_next {marker : Option α} (hnext : (page key count items marker).2 = some next) :
    (behind key (some next) items).length < (behind key marker items).length := by
  obtain ⟨_, last, hlast, hkey⟩ := page_next hnext
  have hsub : (behind key (some next) items).Sublist (behind key marker items) := by
    cases marker with
    | none =>
      rw [behind_none]
      exact List.filter_sublist
    | some marker =>
      rw [← behind_behind (Std.le_of_lt (lt_page_next hnext))]
      exact List.filter_sublist
  refine Nat.lt_of_le_of_ne hsub.length_le fun hlength => ?_
  have hmem := mem_of_getLast? hlast
  rw [← hsub.eq_of_length hlength] at hmem
  exact absurd (hkey ▸ (mem_behind.mp hmem).2) Std.lt_irrefl

/-- The listing ends. -/
theorem exists_listing (key : β → α) (count : Nat) (items : List β) (marker : Option α) :
    ∃ rows, Listing (fun marker => some (page key count items marker)) marker rows := by
  induction hlength : (behind key marker items).length using Nat.strongRecOn generalizing marker with
  | _ n ih =>
    cases hnext : (page key count items marker).2 with
    | none => exact ⟨_, .last (congrArg some (Prod.ext rfl hnext))⟩
    | some next =>
      obtain ⟨later, hlater⟩ := ih _ (hlength ▸ length_behind_next hnext) (some next) rfl
      exact ⟨_, .more (congrArg some (Prod.ext rfl hnext)) hlater⟩

/-- Behind a marker, only the items behind it matter. -/
theorem Listing.narrow {marker : Option α}
    (hlisting : Listing (fun marker => some (page key count items marker)) marker rows) {low high : α}
    (hmarker : marker = some high) (hle : low ≤ high) :
    Listing (fun marker => some (page key count (behind key (some low) items) marker)) marker rows := by
  have hpage : page key count (behind key (some low) items) (some high) = page key count items (some high) := by
    simp [page, behind_behind hle]
  induction hlisting generalizing high with
  | last hfetch =>
    subst hmarker
    exact .last (by rw [hpage]; exact hfetch)
  | more hfetch _ ih =>
    subst hmarker
    have hlt : high < _ := lt_page_next (congrArg Prod.snd (Option.some.inj hfetch))
    have hle := Std.le_of_lt (Std.lt_of_le_of_lt hle hlt)
    refine .more (by rw [hpage]; exact hfetch) (ih rfl hle ?_)
    simp [page, behind_behind hle]

/-- Asking from a marker on is asking for the items behind it. -/
theorem Listing.from_marker (hlisting : Listing (fun marker => some (page key count items marker)) (some marker) rows) :
    Listing (fun other => some (page key count (behind key (some marker) items) other)) none rows := by
  have hpage : page key count (behind key (some marker) items) none = page key count items (some marker) := by
    simp [page, behind_none]
  cases hlisting with
  | last hfetch => exact .last (by rw [hpage]; exact hfetch)
  | more hfetch hlater =>
    have hlt := lt_page_next (congrArg Prod.snd (Option.some.inj hfetch))
    exact .more (by rw [hpage]; exact hfetch) (hlater.narrow rfl (Std.le_of_lt hlt))

/-- A border between two pages, seen from the items behind its marker. -/
theorem behind_eq_drop (hlow : ∀ item ∈ items.take count, key item ≤ key last)
    (hhigh : ∀ item ∈ items.drop count, key last < key item) :
    behind key (some (key last)) items = items.drop count := by
  have hnone : behind key (some (key last)) (items.take count) = [] := by
    refine List.filter_eq_nil_iff.mpr fun item hitem => ?_
    simpa using Std.not_lt.mpr (hlow item hitem)
  have hall : behind key (some (key last)) (items.drop count) = items.drop count := by
    refine List.filter_eq_self.mpr fun item hitem => ?_
    simpa using hhigh item hitem
  rw [behind_take_drop key _ count, hnone, hall, List.nil_append]

/-- The listing contains every item exactly once if and only if the keys are in
order at the page borders. -/
theorem Listing.perm_iff (hcount : 0 < count) (hnodup : (items.map key).Nodup)
    (hlisting : Listing (fun marker => some (page key count items marker)) none rows) :
    rows.Perm items ↔ BordersOrdered key count items := by
  induction hlength : items.length using Nat.strongRecOn generalizing items rows with
  | _ n ih =>
    subst hlength
    have hfirst : (page key count items none).1 = items.take count := by simp [page, behind_none]
    cases hlisting with
    | last hfetch =>
      have hrows : items.take count = rows := hfirst.symm.trans (congrArg Prod.fst (Option.some.inj hfetch))
      have hlast := congrArg Prod.snd (Option.some.inj hfetch)
      have hfits : items.length ≤ count := by
        by_contra hmore
        have hne : items.take count ≠ [] := by
          rw [ne_eq, List.take_eq_nil_iff, not_or]
          exact ⟨(Nat.ne_of_gt hcount), List.ne_nil_of_length_pos (by omega)⟩
        simp only [page, behind_none, Nat.lt_of_not_le hmore, if_true, Option.map_eq_none_iff] at hlast
        exact hne (List.getLast?_eq_none_iff.mp hlast)
      rw [← hrows, List.take_of_length_le hfits]
      refine iff_of_true (List.Perm.refl items) fun pages hpages hlength => ?_
      have hpage := Nat.le_mul_of_pos_left count hpages
      omega
    | @more _ rows later next hfetch hlater =>
      have hrows : items.take count = rows := hfirst.symm.trans (congrArg Prod.fst (Option.some.inj hfetch))
      have hnext := congrArg Prod.snd (Option.some.inj hfetch)
      have hshorter := length_behind_next hnext
      obtain ⟨hmore, last, hlast, rfl⟩ := page_next hnext
      rw [behind_none] at hmore hlast hshorter
      have hlater := hlater.from_marker
      have hnodup' : ((behind key (some (key last)) items).map key).Nodup :=
        hnodup.sublist (List.filter_sublist.map key)
      have hrest := ih _ hshorter hnodup' hlater rfl
      rw [← hrows, bordersOrdered_iff hlast hmore hcount]
      constructor
      · intro hperm
        have hdrop : later.Perm (items.drop count) := by
          rw [← List.perm_append_left_iff (items.take count), List.take_append_drop]
          exact hperm
        have hhigh : ∀ item ∈ items.drop count, key last < key item := fun item hitem =>
          (mem_behind.mp (hlater.mem.1 item (hdrop.mem_iff.mpr hitem))).2
        have hlow : ∀ item ∈ items.take count, key item ≤ key last := by
          intro item hitem
          by_contra hbehind
          obtain ⟨row, hrow, hagain⟩ := Listing.repeats hcount hitem (Std.not_le.mp hbehind) hlater
          have hunique := hperm.nodup_iff.mpr (List.Nodup.of_map key hnodup)
          exact (List.nodup_append.mp hunique).2.2 row hrow row hagain rfl
        rw [behind_eq_drop hlow hhigh] at hrest
        exact ⟨⟨hlow, hhigh⟩, hrest.mp hdrop⟩
      · rintro ⟨⟨hlow, hhigh⟩, hborders⟩
        rw [behind_eq_drop hlow hhigh] at hrest
        have hperm := (hrest.mpr hborders).append_left (items.take count)
        rwa [List.take_append_drop] at hperm

end page

end Paging
