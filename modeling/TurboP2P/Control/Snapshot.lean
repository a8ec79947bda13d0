import TurboP2P.Control.Submit
import TurboP2P.Lib.Paging

open turbop2p.mesh_control

namespace turbop2p.mesh_control_state

/-- The outputs of `mesh_control_state_snapshot_v1`. -/
structure Snapshot where
  resources : List ResourceStatus
  resource_count : Nat
  operations : List Operation
  operation_count : Nat
  event_cursor : Nat
  deriving DecidableEq

/-- `mesh_control_snapshot_page_info_v1_t`. -/
structure SnapshotPageInfo where
  generation : Nat
  event_cursor : Nat
  resource_total : Nat
  operation_total : Nat
  resource_offset : Nat
  resource_count : Nat
  operation_offset : Nat
  operation_count : Nat
  deriving DecidableEq

/-- The outputs of `mesh_control_state_snapshot_page_v1`. -/
structure SnapshotPage where
  info : SnapshotPageInfo
  resources : List ResourceStatus
  operations : List Operation
  deriving DecidableEq

/-- `mesh_control_state_snapshot_v1`. The Boolean arguments tell which pointers
are non-null; outputs are written unless one of them is missing. -/
def snapshot_v1 (impl : Impl) (resources : Bool) (resource_capacity : Nat) (out_resource_count : Bool)
    (operations : Bool) (operation_capacity : Nat) (out_operation_count out_event_cursor : Bool) :
    Result × Option Snapshot :=
  if !out_resource_count || !out_operation_count || !out_event_cursor ||
      (resource_capacity != 0 && !resources) || (operation_capacity != 0 && !operations) then
    (.INVALID_ARG, none)
  else
    let counts : Snapshot :=
      { resources := [], resource_count := impl.resources.occupied, operations := []
        operation_count := impl.operations.occupied, event_cursor := Word.sub impl.next_cursor 1 }
    if resource_capacity < counts.resource_count || operation_capacity < counts.operation_count then
      (.RESOURCE_EXHAUSTED, some counts)
    else
      (.OK, some
        { counts with
          resources := impl.resources.live.map (·.status), operations := impl.operations.live.map (·.operation) })

/-- What the copying loops of a page leave behind: the records after the offsets,
as far as they fit. -/
def page_from (impl : Impl) (resource_offset resource_capacity operation_offset operation_capacity : Nat) :
    SnapshotPage :=
  let resources := SlotTable.page_loop (·.status) resource_offset resource_capacity 0 [] impl.resources
  let operations := SlotTable.page_loop (·.operation) operation_offset operation_capacity 0 [] impl.operations
  { info :=
      { generation := impl.snapshot_generation, event_cursor := Word.sub impl.next_cursor 1
        resource_total := impl.resources.occupied, operation_total := impl.operations.occupied
        resource_offset, resource_count := resources.length, operation_offset, operation_count := operations.length }
    resources
    operations }

def snapshot_page_v1 (impl : Impl) (expected_generation resource_offset : Nat) (resources : Bool)
    (resource_capacity operation_offset : Nat) (operations : Bool) (operation_capacity : Nat)
    (out_info : Bool) : Result × Option SnapshotPage :=
  if !out_info || (resource_capacity != 0 && !resources) || (operation_capacity != 0 && !operations) then
    (.INVALID_ARG, none)
  else
    let cleared : SnapshotPageInfo :=
      { generation := impl.snapshot_generation, event_cursor := Word.sub impl.next_cursor 1, resource_total := 0
        operation_total := 0, resource_offset := 0, resource_count := 0, operation_offset := 0, operation_count := 0 }
    if expected_generation ≠ 0 ∧ expected_generation ≠ impl.snapshot_generation then
      (.CONFLICT, some ⟨cleared, [], []⟩)
    else
      let counted :=
        { cleared with resource_total := impl.resources.occupied, operation_total := impl.operations.occupied }
      if counted.resource_total < resource_offset || counted.operation_total < operation_offset then
        (.INVALID_ARG, some ⟨counted, [], []⟩)
      else (.OK, some (page_from impl resource_offset resource_capacity operation_offset operation_capacity))

/-- What a client of the control state does: it changes the state, or asks for
a page. -/
inductive Action where
  | mutate (call : Call)
  | page (expected_generation resource_offset resource_capacity operation_offset operation_capacity : Nat)

/-- The pages that the requests of a run receive, in order. -/
def pages (impl : Impl) : List Action → List SnapshotPage
  | [] => []
  | .mutate call :: actions => pages (apply impl call) actions
  | .page expected_generation resource_offset resource_capacity operation_offset operation_capacity ::
      actions =>
    match snapshot_page_v1 impl expected_generation resource_offset true resource_capacity
      operation_offset true operation_capacity true with
    | (.OK, some page) => page :: pages impl actions
    | _ => pages impl actions

def states (impl : Impl) : List Action → List Impl
  | [] => [impl]
  | .mutate call :: actions => impl :: states (apply impl call) actions
  | .page _ _ _ _ _ :: actions => impl :: states impl actions

/-- Pages that start at the first record, follow each other without a gap and
end at the last record. -/
structure Consecutive (pages : List SnapshotPage) : Prop where
  nonempty : pages ≠ []
  first : ∀ page ∈ pages.head?, page.info.resource_offset = 0 ∧ page.info.operation_offset = 0
  next : pages.IsChain fun page next =>
    next.info.resource_offset = page.info.resource_offset + page.info.resource_count ∧
      next.info.operation_offset = page.info.operation_offset + page.info.operation_count
  last : ∀ page ∈ pages.getLast?,
    page.info.resource_offset + page.info.resource_count = page.info.resource_total ∧
      page.info.operation_offset + page.info.operation_count = page.info.operation_total

/-- A page that `snapshot_page_v1` returned in the state `impl`. -/
structure PageOf (impl : Impl) (page : SnapshotPage) : Prop where
  generation : page.info.generation = impl.snapshot_generation
  resources : page.resources <+: (impl.resources.live.map (·.status)).drop page.info.resource_offset
  resource_count : page.info.resource_count = page.resources.length
  resource_total : page.info.resource_total = (impl.resources.live.map (·.status)).length
  operations : page.operations <+: (impl.operations.live.map (·.operation)).drop page.info.operation_offset
  operation_count : page.info.operation_count = page.operations.length
  operation_total : page.info.operation_total = (impl.operations.live.map (·.operation)).length

variable {impl : Impl} {actions : List Action}

variable {operation_capacity resource_capacity : Nat} {page : SnapshotPage} {impl' : Impl}

section

variable {expected_generation resource_offset operation_offset : Nat}
  (hpage : snapshot_page_v1 impl expected_generation resource_offset true resource_capacity operation_offset true
    operation_capacity true = (.OK, some page))

include hpage

theorem eq_page_from : page = page_from impl resource_offset resource_capacity operation_offset operation_capacity := by
  iterate 3 obtain ⟨_, hpage⟩ := guard_passed hpage
  simpa using hpage.symm

theorem pageOf_snapshot_page : PageOf impl page := by
  obtain rfl := eq_page_from hpage
  exact ⟨rfl, SlotTable.page_loop_prefix _ _ _ _, rfl, by simp [page_from, SlotTable.occupied_eq],
    SlotTable.page_loop_prefix _ _ _ _, rfl, by simp [page_from, SlotTable.occupied_eq]⟩

theorem snapshot_page_fits : page.resources.length ≤ resource_capacity ∧ page.operations.length ≤ operation_capacity := by
  obtain rfl := eq_page_from hpage
  simp only [page_from, SlotTable.length_page_loop]
  exact ⟨Nat.min_le_left _ _, Nat.min_le_left _ _⟩

end

/-- Every page of a run was returned in one of its states. -/
theorem exists_pageOf (hmem : page ∈ pages impl actions) : ∃ s ∈ states impl actions, PageOf s page := by
  induction actions generalizing impl with
  | nil => simp [pages] at hmem
  | cons action actions ih =>
    cases action with
    | mutate call =>
      obtain ⟨s, hs, hpage⟩ := ih hmem
      exact ⟨s, List.mem_cons_of_mem impl hs, hpage⟩
    | page expected_generation resource_offset resource_capacity operation_offset operation_capacity =>
      rw [pages] at hmem
      split at hmem
      · rename_i answer hanswer
        rcases List.mem_cons.mp hmem with rfl | hlater
        · exact ⟨impl, List.mem_cons_self, pageOf_snapshot_page hanswer⟩
        · obtain ⟨s, hs, hpage⟩ := ih hlater
          exact ⟨s, List.mem_cons_of_mem impl hs, hpage⟩
      · obtain ⟨s, hs, hpage⟩ := ih hmem
        exact ⟨s, List.mem_cons_of_mem impl hs, hpage⟩

/-- A later state is the same one, or its generation is higher. -/
def SameOrLater (impl impl' : Impl) : Prop :=
  impl' = impl ∨ impl.snapshot_generation < impl'.snapshot_generation

theorem SameOrLater.trans {impl'' : Impl} (hfirst : SameOrLater impl impl') (hsecond : SameOrLater impl' impl'') :
    SameOrLater impl impl'' := by
  rcases hfirst with rfl | hlt
  · exact hsecond
  · rcases hsecond with rfl | hlt'
    · exact .inr hlt
    · exact .inr (hlt.trans hlt')

theorem SameOrLater.eq (hlater : SameOrLater impl impl')
    (hsame : impl.snapshot_generation = impl'.snapshot_generation) : impl' = impl := by
  rcases hlater with heq | hlt
  · exact heq
  · omega

/-- No call changes the state without advancing the generation. -/
theorem sameOrLater_apply (hinv : Inv impl) (call : Call) : SameOrLater impl (apply impl call) := by
  have hstep : ∀ s t, Inv s ∧ SameOrLater impl s → Step s t → Inv t ∧ SameOrLater impl t := by
    rintro s t ⟨hs, hlater⟩ hstep
    refine ⟨hs.step hstep, hlater.trans ?_⟩
    rcases hstep.generation with rfl | ⟨hne, heq⟩
    · exact .inl rfl
    · have hle := hs.generation_le
      rw [Word.add_eq (by omega)] at heq
      exact .inr (by omega)
  exact (apply_invariant (P := fun s => Inv s ∧ SameOrLater impl s) hstep impl call ⟨hinv, .inl rfl⟩).2

theorem sameOrLater_states (hinv : Inv impl) : ∀ s ∈ states impl actions, SameOrLater impl s := by
  induction actions generalizing impl with
  | nil => simp [states, SameOrLater]
  | cons action actions ih =>
    intro s hs
    cases action with
    | mutate call =>
      rcases List.mem_cons.mp hs with rfl | hs
      · exact .inl rfl
      · have hcall := sameOrLater_apply hinv call
        have hinv' := apply_invariant (fun _ _ hinv hstep => Inv.step hinv hstep) impl call hinv
        exact hcall.trans (ih hinv' s hs)
    | page expected_generation resource_offset resource_capacity operation_offset operation_capacity =>
      rcases List.mem_cons.mp hs with rfl | hs
      · exact .inl rfl
      · exact ih hinv s hs

/-- Within a run, the generation determines the state. -/
theorem states_generation_injective (hinv : Inv impl) {s t : Impl} (hs : s ∈ states impl actions)
    (ht : t ∈ states impl actions) (hsame : s.snapshot_generation = t.snapshot_generation) : s = t := by
  induction actions generalizing impl with
  | nil =>
    simp only [states, List.mem_singleton] at hs ht
    exact hs.trans ht.symm
  | cons action actions ih =>
    have hsplit : ∀ next, Inv next → SameOrLater impl next →
        s ∈ impl :: states next actions → t ∈ impl :: states next actions → s = t := by
      intro next hnext hlater hs ht
      rcases List.mem_cons.mp hs with rfl | hs'
      · rcases List.mem_cons.mp ht with rfl | ht'
        · rfl
        · exact ((hlater.trans (sameOrLater_states hnext t ht')).eq hsame).symm
      · rcases List.mem_cons.mp ht with rfl | ht'
        · exact (hlater.trans (sameOrLater_states hnext s hs')).eq hsame.symm
        · exact ih hnext hs' ht'
    cases action with
    | mutate call =>
      exact hsplit (apply impl call) (apply_invariant (fun _ _ hinv hstep => Inv.step hinv hstep) impl call hinv)
        (sameOrLater_apply hinv call) hs ht
    | page expected_generation resource_offset resource_capacity operation_offset operation_capacity =>
      exact hsplit impl hinv (.inl rfl) hs ht

/-- With enough room a snapshot succeeds and lists all records in slot
order. -/
theorem snapshot_complete (impl : Impl) (hresources : impl.resources.occupied ≤ resource_capacity)
    (hoperations : impl.operations.occupied ≤ operation_capacity) :
    ∃ snapshot, snapshot_v1 impl true resource_capacity true true operation_capacity true true =
        (.OK, some snapshot) ∧ snapshot.resources = impl.resources.live.map (·.status) ∧
      snapshot.operations = impl.operations.live.map (·.operation) := by
  simp [snapshot_v1, Nat.not_lt.mpr hresources, Nat.not_lt.mpr hoperations]

/-- Consecutive pages of one state concatenate to its records. -/
theorem Consecutive.flatMap_eq {chosen : List SnapshotPage} (hconsecutive : Consecutive chosen)
    (hpages : ∀ page ∈ chosen, PageOf impl page) :
    chosen.flatMap (·.resources) = impl.resources.live.map (·.status) ∧
      chosen.flatMap (·.operations) = impl.operations.live.map (·.operation) := by
  obtain ⟨first, rest, rfl⟩ := List.exists_cons_of_ne_nil hconsecutive.nonempty
  obtain ⟨hresource, hoperation⟩ := hconsecutive.first first (by simp)
  have hchain := Machine.isChain_and hpages hconsecutive.next
  constructor
  · have hflat := Paging.flatMap_pages (fun page hpage => (hpages page hpage).resources)
      (hchain.imp fun page next ⟨hpage, hnext⟩ => hpage.resource_count ▸ hnext.1) ?_ first (by simp)
    · rwa [hresource, List.drop_zero] at hflat
    · intro page hlast
      have hpage := hpages page (List.mem_of_getLast? hlast)
      have hend := (hconsecutive.last page hlast).1
      rwa [hpage.resource_count, hpage.resource_total] at hend
  · have hflat := Paging.flatMap_pages (fun page hpage => (hpages page hpage).operations)
      (hchain.imp fun page next ⟨hpage, hnext⟩ => hpage.operation_count ▸ hnext.2) ?_ first (by simp)
    · rwa [hoperation, List.drop_zero] at hflat
    · intro page hlast
      have hpage := hpages page (List.mem_of_getLast? hlast)
      have hend := (hconsecutive.last page hlast).2
      rwa [hpage.operation_count, hpage.operation_total] at hend

/-- A client that asks for `count` pages of one state, each from the end of the
page before it. -/
def page_requests (impl : Impl) (resource_capacity operation_capacity count : Nat) : List Action :=
  (List.range count).map fun k =>
    .page impl.snapshot_generation (Paging.offset resource_capacity impl.resources.occupied k) resource_capacity
      (Paging.offset operation_capacity impl.operations.occupied k) operation_capacity

theorem pages_page_requests (impl : Impl) (resource_capacity operation_capacity count : Nat) :
    pages impl (page_requests impl resource_capacity operation_capacity count) = (List.range count).map fun k =>
      page_from impl (Paging.offset resource_capacity impl.resources.occupied k) resource_capacity
        (Paging.offset operation_capacity impl.operations.occupied k) operation_capacity := by
  unfold page_requests
  induction List.range count with
  | nil => rfl
  | cons k rest ih =>
    have hresources : ¬ impl.resources.occupied < Paging.offset resource_capacity impl.resources.occupied k :=
      Nat.not_lt.mpr (Nat.min_le_right _ _)
    have hoperations : ¬ impl.operations.occupied < Paging.offset operation_capacity impl.operations.occupied k :=
      Nat.not_lt.mpr (Nat.min_le_right _ _)
    rw [List.map_cons, List.map_cons, pages, ← ih]
    simp [snapshot_page_v1, page_from, hresources, hoperations]

/-- Pages that can hold a record reach the last one. -/
theorem consecutive_page_requests (impl : Impl) (hresources : 0 < resource_capacity) (hoperations : 0 < operation_capacity)
    {count : Nat} (hcount : impl.resources.occupied ≤ count ∧ impl.operations.occupied ≤ count) :
    Consecutive (pages impl (page_requests impl resource_capacity operation_capacity (count + 1))) := by
  rw [pages_page_requests]
  refine ⟨by simp, ?_, ?_, ?_⟩
  · simp [List.head?_range, page_from, Paging.offset]
  · rw [List.isChain_map, List.isChain_range_succ]
    intro k _
    simp only [page_from, SlotTable.length_page_loop, ← SlotTable.occupied_eq]
    exact ⟨Paging.offset_succ k, Paging.offset_succ k⟩
  · intro page hpage
    rw [List.getLast?_map, List.getLast?_range] at hpage
    simp only [Nat.add_eq_zero_iff, one_ne_zero, and_false, if_false, Nat.add_sub_cancel, Option.map_some,
      Option.mem_def, Option.some.injEq] at hpage
    subst hpage
    simp only [page_from, SlotTable.length_page_loop, ← SlotTable.occupied_eq]
    rw [Paging.offset_eq_total hresources hcount.1, Paging.offset_eq_total hoperations hcount.2]
    simp

/-- In a run that mixes page requests with arbitrary changes, one generation
never stands for two contents, and consecutive pages of one generation
concatenate to the snapshot of that generation. A page has no more records
than its capacities, and in every state of the run, pages with room for a
record reach the last one. -/
theorem snapshot_pages_consistent (config : ValidConfig) (actions : List Action)
    (chosen : List SnapshotPage) (generation : Nat)
    (hchosen : ∀ page ∈ chosen, page ∈ pages (initial config.1) actions)
    (hgeneration : ∀ page ∈ chosen, page.info.generation = generation)
    (hconsecutive : Consecutive chosen) :
    (∀ s ∈ states (initial config.1) actions, ∀ t ∈ states (initial config.1) actions,
        s.snapshot_generation = t.snapshot_generation →
          s.resources = t.resources ∧ s.operations = t.operations) ∧
      (∃ s ∈ states (initial config.1) actions, s.snapshot_generation = generation) ∧
      (∀ s ∈ states (initial config.1) actions, s.snapshot_generation = generation →
        ∀ resource_capacity operation_capacity, s.resources.occupied ≤ resource_capacity →
          s.operations.occupied ≤ operation_capacity →
          ∃ snapshot, snapshot_v1 s true resource_capacity true true operation_capacity true true =
              (.OK, some snapshot) ∧
            chosen.flatMap (·.resources) = snapshot.resources ∧
            chosen.flatMap (·.operations) = snapshot.operations) ∧
      (∀ s expected_generation resource_offset resource_capacity operation_offset operation_capacity page,
        snapshot_page_v1 s expected_generation resource_offset true resource_capacity operation_offset true
          operation_capacity true = (.OK, some page) →
        page.resources.length ≤ resource_capacity ∧ page.operations.length ≤ operation_capacity) ∧
      ∀ s ∈ states (initial config.1) actions, ∀ resource_capacity operation_capacity, 0 < resource_capacity →
        0 < operation_capacity → ∃ count,
          Consecutive (pages s (page_requests s resource_capacity operation_capacity count)) := by
  have hinv := inv_initial config
  have hunique : ∀ s ∈ states (initial config.1) actions, ∀ t ∈ states (initial config.1) actions,
      s.snapshot_generation = t.snapshot_generation → s = t :=
    fun s hs t ht => states_generation_injective hinv hs ht
  refine ⟨?_, ?_, ?_, ?_, ?_⟩
  · intro s hs t ht hsame
    cases hunique s hs t ht hsame
    exact ⟨rfl, rfl⟩
  · obtain ⟨first, rest, rfl⟩ := List.exists_cons_of_ne_nil hconsecutive.nonempty
    obtain ⟨s, hs, hpage⟩ := exists_pageOf (hchosen first (by simp))
    exact ⟨s, hs, hpage.generation.symm.trans (hgeneration first (by simp))⟩
  · intro s hs hsame resource_capacity operation_capacity hresources hoperations
    have hpages : ∀ page ∈ chosen, PageOf s page := by
      intro page hmem
      obtain ⟨t, ht, hpage⟩ := exists_pageOf (hchosen page hmem)
      have hgenerations : s.snapshot_generation = t.snapshot_generation := by
        rw [hsame, ← hpage.generation, hgeneration page hmem]
      rw [hunique s hs t ht hgenerations]
      exact hpage
    obtain ⟨snapshot, hsnapshot, hstatus, hoperation⟩ := snapshot_complete s hresources hoperations
    obtain ⟨hflat, hflat'⟩ := hconsecutive.flatMap_eq hpages
    exact ⟨snapshot, hsnapshot, hflat.trans hstatus.symm, hflat'.trans hoperation.symm⟩
  · intro s expected_generation resource_offset resource_capacity operation_offset operation_capacity page hpage
    exact snapshot_page_fits hpage
  · intro s _ resource_capacity operation_capacity hresources hoperations
    exact ⟨_, consecutive_page_requests s hresources hoperations ⟨Nat.le_max_left _ _, Nat.le_max_right _ _⟩⟩

/-- A submission, then a page with its resource and a page with its
operation. -/
def paged_run : List Action :=
  [.mutate (.submit_document (some (small_intent 1 0)) .APPLY none 0 2 true true), .page 0 0 1 0 0,
    .page 2 1 0 0 1]

/-- The two pages of the short run make up the snapshot of generation two. -/
theorem snapshot_pages_consistent_paged_run :
    ∃ s ∈ states (initial small_config.1) paged_run, s.snapshot_generation = 2 ∧
      ∃ snapshot, snapshot_v1 s true 1 true true 1 true true = (.OK, some snapshot) ∧
        (pages (initial small_config.1) paged_run).flatMap (·.resources) = snapshot.resources ∧
        (pages (initial small_config.1) paged_run).flatMap (·.operations) = snapshot.operations ∧
        snapshot.resources.length = 1 ∧ snapshot.operations.length = 1 := by
  obtain ⟨_, ⟨s, hs, hgeneration⟩, hsnapshot, _⟩ := snapshot_pages_consistent small_config paged_run
    (pages (initial small_config.1) paged_run) 2 (fun _ hpage => hpage) (by decide +kernel)
    ⟨by decide +kernel, by decide +kernel, by decide +kernel, by decide +kernel⟩
  have hroom : ∀ s ∈ states (initial small_config.1) paged_run, s.resources.occupied ≤ 1 ∧ s.operations.occupied ≤ 1 := by
    decide +kernel
  obtain ⟨snapshot, hok, hresources, hoperations⟩ := hsnapshot s hs hgeneration 1 1 (hroom s hs).1 (hroom s hs).2
  refine ⟨s, hs, hgeneration, snapshot, hok, hresources, hoperations, ?_, ?_⟩
  · rw [← hresources]
    decide +kernel
  · rw [← hoperations]
    decide +kernel

end turbop2p.mesh_control_state
