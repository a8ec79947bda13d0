import Mathlib.Data.List.ReduceOption
import Mathlib.Data.List.Perm.Subperm
import Mathlib.Algebra.GroupWithZero.Nat
import Mathlib.Tactic.Common

/-- A bounded table of slots, each of them free or holding one entry. The
length of the list is the capacity of the table. -/
abbrev SlotTable (α : Type) := List (Option α)

namespace SlotTable

variable {α κ : Type}

def Holds (t : SlotTable α) (i : Nat) (a : α) : Prop :=
  t[i]? = some (some a)

/-- The first occupied slot whose entry satisfies `p`, with its entry. -/
def find (p : α → Bool) : SlotTable α → Option (Nat × α)
  | [] => none
  | none :: t => (find p t).map fun found => (found.1 + 1, found.2)
  | some a :: t => if p a then some (0, a) else (find p t).map fun found => (found.1 + 1, found.2)

def free : SlotTable α → Option Nat
  | [] => none
  | none :: _ => some 0
  | some _ :: t => (free t).map (· + 1)

/-- The table with every entry that satisfies `p` removed. -/
def clear (p : α → Bool) (t : SlotTable α) : SlotTable α :=
  t.map (Option.filter fun a => !p a)

/-- The occupied entries in slot order. -/
def live (t : SlotTable α) : List α := t.reduceOption

/-- The sum of a weight over the occupied entries. -/
def total (w : α → Nat) (t : SlotTable α) : Nat :=
  (t.map fun slot => slot.elim 0 w).sum

/-- No two occupied slots carry the same key. -/
def Distinct (key : α → κ) (t : SlotTable α) : Prop :=
  ∀ i j a b, t.Holds i a → t.Holds j b → key a = key b → i = j

/-- The occupied slots form an initial segment of the table. -/
def Packed (t : SlotTable α) : Prop :=
  ∀ i j a, i < j → t.Holds j a → ∃ b, t.Holds i b

variable {a : α} {i : Nat} {t : SlotTable α} {p : α → Bool} {key : α → κ}

theorem Holds.lt (hholds : t.Holds i a) : i < t.length := by
  by_contra hnot
  simp [Holds, List.getElem?_eq_none (Nat.le_of_not_lt hnot)] at hholds

theorem Holds.unique {b : α} (ha : t.Holds i a) (hb : t.Holds i b) : a = b := by
  have heq : some (some a) = some (some b) := ha.symm.trans hb
  simpa using heq

@[simp] theorem live_cons_none (t : SlotTable α) : live (none :: t) = live t := rfl

@[simp] theorem live_cons_some (a : α) (t : SlotTable α) : live (some a :: t) = a :: live t := rfl

theorem Holds.mem_live (hholds : t.Holds i a) : a ∈ t.live := by
  rw [live, List.reduceOption_mem_iff]
  exact List.mem_of_getElem? hholds

theorem mem_live_iff : a ∈ t.live ↔ ∃ i, t.Holds i a := by
  rw [live, List.reduceOption_mem_iff, List.mem_iff_getElem?]
  rfl

/-- What holds of every entry holds of every occupied slot. -/
theorem forall_live_iff {P : α → Prop} : (∀ a ∈ t.live, P a) ↔ ∀ i a, t.Holds i a → P a := by
  simp only [mem_live_iff]
  exact ⟨fun hall i a ha => hall a ⟨i, ha⟩, fun hall a ⟨i, ha⟩ => hall i a ha⟩

variable {slot old : Option α}

/-- Writing one slot changes the contents of that slot only. -/
theorem holds_set {j : Nat} (hi : i < t.length) :
    Holds (t.set i slot) j a ↔ (j = i ∧ slot = some a) ∨ (j ≠ i ∧ t.Holds j a) := by
  unfold Holds
  by_cases hji : j = i
  · subst hji
    simp [hi]
  · simp [hji, List.getElem?_set_ne (Ne.symm hji)]

/-- Writing an entry keeps what holds of every entry. -/
theorem holds_set_forall {P : α → Prop} (hall : ∀ j b, t.Holds j b → P b) (hi : i < t.length) (ha : P a) :
    ∀ j b, Holds (t.set i (some a)) j b → P b := by
  intro j b hholds
  rcases (holds_set hi).mp hholds with ⟨_, hb⟩ | ⟨_, hb⟩
  · cases hb
    exact ha
  · exact hall j b hb

theorem holds_clear : Holds (t.clear p) i a ↔ t.Holds i a ∧ p a = false := by
  unfold Holds clear
  rw [List.getElem?_map]
  cases hslot : t[i]? with
  | none => simp
  | some slot =>
    cases slot with
    | none => simp
    | some b =>
      simp only [Option.map_some, Option.some.injEq, Option.filter_eq_some_iff]
      constructor
      · rintro ⟨rfl, hp⟩
        exact ⟨rfl, by simpa using hp⟩
      · rintro ⟨rfl, hp⟩
        exact ⟨rfl, by simpa using hp⟩

@[simp] theorem length_clear (p : α → Bool) (t : SlotTable α) : (t.clear p).length = t.length := by
  simp [clear]

@[simp] theorem clear_clear (p : α → Bool) (t : SlotTable α) : clear p (t.clear p) = t.clear p := by
  simp [clear]

/-- A successful search returns an occupied slot that satisfies the predicate,
and no earlier slot does. -/
theorem find_eq_some (hfind : t.find p = some (i, a)) :
    t.Holds i a ∧ p a = true ∧ ∀ j b, j < i → t.Holds j b → p b = false := by
  induction t generalizing i with
  | nil => simp [find] at hfind
  | cons slot t ih =>
    have shift : ∀ {found : Nat × α}, find p t = some found → (found.1 + 1, found.2) = (i, a) →
        (∀ b, slot = some b → p b = false) → Holds (slot :: t) i a ∧ p a = true ∧
          ∀ j b, j < i → Holds (slot :: t) j b → p b = false := by
      rintro ⟨k, b⟩ hfound hpair hhead
      obtain ⟨rfl, rfl⟩ := Prod.mk.inj hpair
      obtain ⟨hholds, hp, hbefore⟩ := ih hfound
      refine ⟨hholds, hp, fun j c hj hc => ?_⟩
      cases j with
      | zero => exact hhead c (Option.some.inj hc)
      | succ j => exact hbefore j c (by omega) hc
    cases slot with
    | none =>
      simp only [find, Option.map_eq_some_iff] at hfind
      obtain ⟨found, hfound, hpair⟩ := hfind
      exact shift hfound hpair (by simp)
    | some b =>
      by_cases hp : p b = true
      · simp only [find, hp, if_true, Option.some.injEq, Prod.mk.injEq] at hfind
        obtain ⟨rfl, rfl⟩ := hfind
        exact ⟨rfl, hp, by simp⟩
      · simp only [find, if_neg hp, Option.map_eq_some_iff] at hfind
        obtain ⟨found, hfound, hpair⟩ := hfind
        refine shift hfound hpair ?_
        simpa using hp

/-- A search fails exactly when no occupied entry satisfies the predicate. -/
theorem find_eq_none : t.find p = none ↔ ∀ i a, t.Holds i a → p a = false := by
  induction t with
  | nil => simp [find, Holds]
  | cons slot t ih =>
    have split_head : (∀ i a, Holds (slot :: t) i a → p a = false) ↔
        (∀ a, slot = some a → p a = false) ∧ ∀ i a, Holds t i a → p a = false := by
      constructor
      · intro hall
        exact ⟨fun a ha => hall 0 a (congrArg some ha), fun i a ha => hall (i + 1) a ha⟩
      · rintro ⟨hhead, htail⟩ i a ha
        cases i with
        | zero => exact hhead a (Option.some.inj ha)
        | succ i => exact htail i a ha
    rw [split_head, ← ih]
    cases slot with
    | none => simp [find]
    | some b => by_cases hp : p b = true <;> simp [find, hp]

/-- The first occupied slot that satisfies the predicate is the one that is
found. -/
theorem find_of_first (ha : t.Holds i a) (hp : p a = true) (hbefore : ∀ j b, j < i → t.Holds j b → p b = false) :
    t.find p = some (i, a) := by
  cases hfind : t.find p with
  | none => simp [find_eq_none.mp hfind i a ha] at hp
  | some found =>
    obtain ⟨hb, hpb, hfirst⟩ := find_eq_some hfind
    rcases Nat.lt_trichotomy i found.1 with hij | rfl | hij
    · simp [hfirst i a hij ha] at hp
    · rw [ha.unique hb]
    · simp [hbefore found.1 found.2 hij hb] at hpb

/-- A search finds the same entry after others have been removed. -/
theorem find_clear {q : α → Bool} (hfind : t.find p = some (i, a)) (hkept : q a = false) :
    find p (t.clear q) = some (i, a) := by
  obtain ⟨hholds, hp, hbefore⟩ := find_eq_some hfind
  exact find_of_first (holds_clear.mpr ⟨hholds, hkept⟩) hp fun j b hj hb => hbefore j b hj (holds_clear.mp hb).1

/-- Writing a slot that does not satisfy the predicate, before or after, does
not change the search. -/
theorem find_set_unmatched (hold : ∀ a, t.Holds i a → p a = false) (hnew : ∀ a, slot = some a → p a = false) :
    find p (t.set i slot) = find p t := by
  induction t generalizing i with
  | nil => rfl
  | cons head t ih =>
    cases i with
    | zero =>
      have hhead : ∀ a, head = some a → p a = false := fun a ha => hold a (congrArg some ha)
      cases slot <;> cases head <;> simp_all [find]
    | succ i =>
      have htail := ih (i := i) hold
      cases head <;> simp [find, htail]

/-- A match written behind slots that do not match is the one that is
found. -/
theorem find_set_matched (hi : i < t.length) (hp : p a = true) (hbefore : ∀ j b, j < i → t.Holds j b → p b = false) :
    find p (t.set i (some a)) = some (i, a) := by
  refine find_of_first ((holds_set hi).mpr (.inl ⟨rfl, rfl⟩)) hp fun j b hj hb => ?_
  rcases (holds_set hi).mp hb with ⟨hji, _⟩ | ⟨_, hb⟩
  · exact absurd hji (Nat.ne_of_lt hj)
  · exact hbefore j b hj hb

/-- Changing entries in what the predicate does not see does not change where
the search ends. -/
theorem find_map {f : α → α} (hf : ∀ a, p (f a) = p a) (t : SlotTable α) :
    find p (t.map (Option.map f)) = (find p t).map fun found => (found.1, f found.2) := by
  induction t with
  | nil => rfl
  | cons head t ih =>
    cases head with
    | none => simp [find, ih, Function.comp_def]
    | some a => by_cases hp : p a = true <;> simp [find, ih, hf, hp, Function.comp_def]

theorem live_map {β : Type} (f : α → β) (t : SlotTable α) : live (t.map (Option.map f)) = t.live.map f := by
  induction t with
  | nil => rfl
  | cons head t ih => cases head <;> simp [ih]

/-- The search for a free slot returns one, and all earlier slots are
occupied. -/
theorem free_eq_some (hfree : t.free = some i) : t[i]? = some none ∧ ∀ j, j < i → ∃ a, t.Holds j a := by
  induction t generalizing i with
  | nil => simp [free] at hfree
  | cons slot t ih =>
    cases slot with
    | none =>
      simp only [free, Option.some.injEq] at hfree
      subst hfree
      simp
    | some b =>
      simp only [free, Option.map_eq_some_iff] at hfree
      obtain ⟨k, hk, rfl⟩ := hfree
      obtain ⟨hnone, hbefore⟩ := ih hk
      refine ⟨hnone, fun j hj => ?_⟩
      cases j with
      | zero => exact ⟨b, rfl⟩
      | succ j => exact hbefore j (by omega)

theorem lt_of_free (hfree : t.free = some i) : i < t.length := by
  obtain ⟨hnone, _⟩ := free_eq_some hfree
  by_contra hnot
  simp [List.getElem?_eq_none (Nat.le_of_not_lt hnot)] at hnone

/-- Freeing a free slot changes nothing. -/
theorem set_free (hfree : t.free = some i) : t.set i none = t := by
  obtain ⟨hlt, hnone⟩ := List.getElem?_eq_some_iff.mp (free_eq_some hfree).1
  rw [← hnone, List.set_getElem_self]

theorem not_holds_of_free (hfree : t.free = some i) : ¬ t.Holds i a := by
  obtain ⟨hnone, _⟩ := free_eq_some hfree
  simp [Holds, hnone]

section

variable (hdistinct : Distinct key t)

include hdistinct

/-- Writing an entry keeps keys distinct if no other slot carries its key. -/
theorem Distinct.set (hi : i < t.length) (hfresh : ∀ j b, t.Holds j b → key b = key a → j = i) :
    Distinct key (t.set i (some a)) := by
  intro j k b c hb hc hkey
  rcases (holds_set hi).mp hb with ⟨hj, hab⟩ | ⟨hj, hb'⟩ <;> rcases (holds_set hi).mp hc with ⟨hk, hac⟩ | ⟨hk, hc'⟩
  · exact hj.trans hk.symm
  · cases hab
    exact absurd (hfresh k c hc' hkey.symm) hk
  · cases hac
    exact absurd (hfresh j b hb' hkey) hj
  · exact hdistinct j k b c hb' hc' hkey

/-- Writing an entry with a fresh key keeps keys distinct. -/
theorem Distinct.insert (hi : i < t.length) (hfresh : ∀ j b, t.Holds j b → key b ≠ key a) :
    Distinct key (t.set i (some a)) :=
  hdistinct.set hi fun j b hb hkey => absurd hkey (hfresh j b hb)

/-- Rewriting an occupied slot without changing its key keeps keys distinct. -/
theorem Distinct.replace {a' : α} (hholds : t.Holds i a) (hkey : key a' = key a) : Distinct key (t.set i (some a')) :=
  hdistinct.set hholds.lt fun j b hb hsame => hdistinct j i b a hb hholds (hsame.trans hkey)

/-- Freeing a slot keeps keys distinct. -/
theorem Distinct.remove (hi : i < t.length) : Distinct key (t.set i none) := by
  intro j k b c hb hc hkey
  have hb' := (holds_set hi).mp hb
  have hc' := (holds_set hi).mp hc
  simp only [reduceCtorEq, and_false, false_or] at hb' hc'
  exact hdistinct j k b c hb'.2 hc'.2 hkey

end

/-- Writing one slot exchanges its old weight for the new one. -/
theorem total_set (w : α → Nat) (new : Option α) (hold : t[i]? = some old) :
    total w (t.set i new) + old.elim 0 w = total w t + new.elim 0 w := by
  induction t generalizing i with
  | nil => simp at hold
  | cons slot t ih =>
    cases i with
    | zero =>
      simp only [List.getElem?_cons_zero, Option.some.injEq] at hold
      subst hold
      simp only [total, List.set_cons_zero, List.map_cons, List.sum_cons]
      omega
    | succ i =>
      have htail := ih (by simpa using hold)
      simp only [total, List.set_cons_succ, List.map_cons, List.sum_cons] at htail ⊢
      omega

@[simp] theorem total_replicate_none (w : α → Nat) (n : Nat) : total w (List.replicate n none) = 0 := by
  simp [total]

@[simp] theorem not_holds_replicate_none (n i : Nat) (a : α) : ¬ Holds (List.replicate n none) i a := by
  simp [Holds, List.getElem?_replicate]

/-- The weight of a table is that of its entries. -/
theorem total_eq_sum (w : α → Nat) (t : SlotTable α) : total w t = (t.live.map w).sum := by
  induction t with
  | nil => rfl
  | cons slot t ih =>
    cases slot with
    | none => simpa [total] using ih
    | some a => simpa [total] using ih

/-- Writing one slot exchanges its old entry for the new one. -/
theorem live_set_perm (new : Option α) (hold : t[i]? = some old) :
    (old.toList ++ live (t.set i new)).Perm (new.toList ++ live t) := by
  induction t generalizing i with
  | nil => simp at hold
  | cons slot t ih =>
    have hlive : ∀ slot (t : SlotTable α), live (slot :: t) = slot.toList ++ live t := by
      intro slot t
      cases slot <;> rfl
    cases i with
    | zero =>
      simp only [List.getElem?_cons_zero, Option.some.injEq] at hold
      subst hold
      rw [List.set_cons_zero, hlive, hlive]
      exact List.perm_append_comm_assoc _ _ _
    | succ i =>
      have htail := ih (by simpa using hold)
      rw [List.set_cons_succ, hlive, hlive]
      exact (List.perm_append_comm_assoc _ _ _).trans ((htail.append_left _).trans (List.perm_append_comm_assoc _ _ _))

/-- Filling a free slot adds its entry. -/
theorem live_insert_perm (a : α) (hfree : t[i]? = some none) : (live (t.set i (some a))).Perm (a :: t.live) :=
  live_set_perm (some a) hfree

/-- Freeing an occupied slot removes its entry. -/
theorem live_remove_perm (hholds : t.Holds i a) : (a :: live (t.set i none)).Perm t.live :=
  live_set_perm none hholds

/-- Rewriting an occupied slot keeps the number of entries. -/
theorem length_live_replace (a' : α) (hholds : t.Holds i a) : (live (t.set i (some a'))).length = t.live.length := by
  have hlength := (live_set_perm (some a') hholds).length_eq
  simpa using hlength

/-- A table without a free slot is full. -/
theorem length_live_of_full (hfull : t.free = none) : t.live.length = t.length := by
  induction t with
  | nil => rfl
  | cons slot t ih =>
    cases slot with
    | none => simp [free] at hfull
    | some a =>
      simp only [free, Option.map_eq_none_iff] at hfull
      simpa using ih hfull

/-- Keys are distinct across slots exactly when they are along the entries. -/
theorem distinct_iff_pairwise : Distinct key t ↔ t.live.Pairwise fun a b => key a ≠ key b := by
  have hslots : (t.live.Pairwise fun a b => key a ≠ key b) ↔
      ∀ i j a b, i < j → t.Holds i a → t.Holds j b → key a ≠ key b := by
    rw [live, List.reduceOption, List.pairwise_filterMap, List.pairwise_iff_getElem]
    simp only [id, Holds, List.getElem?_eq_some_iff]
    exact ⟨fun hpairs i j a b hij ⟨hi, ha⟩ ⟨hj, hb⟩ => hpairs i j hi hj hij a ha b hb,
      fun hpairs i j hi hj hij a ha b hb => hpairs i j a b hij ⟨hi, ha⟩ ⟨hj, hb⟩⟩
  rw [hslots]
  constructor
  · exact fun hdistinct i j a b hij ha hb hkey => Nat.ne_of_lt hij (hdistinct i j a b ha hb hkey)
  · intro hpairs i j a b ha hb hkey
    rcases Nat.lt_trichotomy i j with hij | hij | hij
    · exact absurd hkey (hpairs i j a b hij ha hb)
    · exact hij
    · exact absurd hkey.symm (hpairs j i b a hij hb ha)

/-- Writing a slot behind occupied ones keeps the occupied slots together. -/
theorem Packed.set (hpacked : t.Packed) (hi : i < t.length) (hbefore : ∀ j, j < i → ∃ b, t.Holds j b) (a : α) :
    Packed (t.set i (some a)) := by
  intro j k b hjk hholds
  simp only [holds_set hi] at hholds ⊢
  by_cases hj : j = i
  · exact ⟨a, .inl ⟨hj, rfl⟩⟩
  have hheld : ∃ c, t.Holds j c := by
    rcases hholds with ⟨hk, _⟩ | ⟨_, hholds⟩
    · exact hbefore j (by omega)
    · exact hpacked j k b hjk hholds
  exact hheld.imp fun c hc => .inr ⟨hj, hc⟩

/-- Filling the first free slot keeps the occupied slots together. -/
theorem Packed.insert (hpacked : t.Packed) (hfree : t.free = some i) (a : α) : Packed (t.set i (some a)) :=
  hpacked.set (lt_of_free hfree) (free_eq_some hfree).2 a

/-- Rewriting an occupied slot keeps the occupied slots together. -/
theorem Packed.replace (hpacked : t.Packed) (hholds : t.Holds i a) (a' : α) : Packed (t.set i (some a')) :=
  hpacked.set hholds.lt (fun j hj => hpacked j i a hj hholds) a'

/-- A packed table is its entries followed by free slots. -/
theorem Packed.eq_append (hpacked : t.Packed) :
    t.live.map some ++ List.replicate (t.length - t.live.length) none = t := by
  induction t with
  | nil => rfl
  | cons slot t ih =>
    have htail : Packed t := by
      intro i j a hij hholds
      exact hpacked (i + 1) (j + 1) a (by omega) hholds
    cases slot with
    | some a => simp [ih htail]
    | none =>
      -- Behind a free slot of a packed table everything is free.
      have hfree : t = List.replicate t.length none := by
        refine List.eq_replicate_iff.mpr ⟨rfl, fun slot hslot => ?_⟩
        obtain ⟨i, hi⟩ := List.mem_iff_getElem?.mp hslot
        cases slot with
        | none => rfl
        | some a =>
          obtain ⟨b, hb⟩ := hpacked 0 (i + 1) a (by omega) hi
          simp [Holds] at hb
      have hnil : live t = [] := by
        rw [hfree]
        simp [live]
      rw [live_cons_none, hnil, hfree]
      simp [List.replicate_succ]

/-- What `f` reports about each pair of corresponding slots, in slot order. -/
def diff {β : Type} (f : Option α → Option α → Option β) (t t' : SlotTable α) : List β :=
  (t.zip t').filterMap fun slots => f slots.1 slots.2

section diff

variable {β : Type} {f : Option α → Option α → Option β} (hself : ∀ slot, f slot slot = none)

include hself

theorem diff_self (t : SlotTable α) : diff f t t = [] := by
  induction t with
  | nil => rfl
  | cons slot t ih => simpa [diff, hself] using ih

theorem diff_set {t : SlotTable α} {i : Nat} {old new : Option α} (hold : t[i]? = some old) :
    diff f t (t.set i new) = (f old new).toList := by
  induction t generalizing i with
  | nil => simp at hold
  | cons slot t ih =>
    cases i with
    | zero =>
      simp only [List.getElem?_cons_zero, Option.some.injEq] at hold
      subst hold
      have hrest : (t.zip t).filterMap (fun slots => f slots.1 slots.2) = [] := diff_self hself t
      simp only [diff, List.set_cons_zero, List.zip_cons_cons, List.filterMap_cons, hrest]
      cases f slot new <;> rfl
    | succ i =>
      have htail := ih (by simpa using hold)
      simpa [diff, hself] using htail

/-- Removing entries is not reported if freeing a slot is not. -/
theorem diff_clear (hfreed : ∀ slot, f slot none = none) (p : α → Bool) (t : SlotTable α) :
    diff f t (t.clear p) = [] := by
  induction t with
  | nil => rfl
  | cons slot t ih =>
    have hhead : f slot (slot.filter fun a => !p a) = none := by
      cases slot with
      | none => exact hself none
      | some a => by_cases hp : p a = true <;> simp [Option.filter, hp, hself, hfreed]
    simpa [diff, clear, hhead] using ih

end diff

end SlotTable
