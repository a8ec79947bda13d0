import TurboP2P.Object.Datapane

open turbop2p.m3_object_manifest
open turbop2p.m3_gateway_datapane (Datapane Store Backend put_chunk_v1 read_chunk_v1 MAX_STORES)

namespace turbop2p.m3_repair

/-- `m3_repair_result_t`. -/
inductive Result where
  | OK
  | INVALID_ARG
  | NOT_FOUND
  | RESOURCE_EXHAUSTED
  | NOT_AVAILABLE
  | INTERNAL
  deriving DecidableEq

/-- `m3_repair_action_v1_t`. -/
structure Action where
  chunk_index : Nat
  target_store_index : Nat
  deriving DecidableEq

section plan

variable (datapane : Datapane) (manifest : ManifestV2)

def chunk_placements (chunk_index : Nat) : List Placement :=
  manifest.placements.filter fun placement => placement.chunk_index.toNat = chunk_index

def chunk_receipt_count (chunk_index : Nat) : Nat := (chunk_placements manifest chunk_index).length

def chunk_has_healthy_source (chunk_index : Nat) : Bool :=
  (chunk_placements manifest chunk_index).any fun placement =>
    datapane.stores.any fun store => store.node_id = placement.store_node_id

/-- The `already` loop: the chunk has a placement on the store. -/
def placed_on (chunk_index : Nat) (store : Store) : Bool :=
  (chunk_placements manifest chunk_index).any fun placement => placement.store_node_id = store.node_id

def choose_target (chunk_index : Nat) : Option Nat :=
  datapane.stores.findIdx? fun store => !placed_on manifest chunk_index store

/-- The loop over the missing replicas of a chunk. The search for a store is
repeated for each of them and does not look at the actions planned so
far. -/
def plan_missing (chunk_index : Nat) : Nat → Except Result (List Action)
  | 0 => .ok []
  | missing + 1 =>
    match choose_target datapane manifest chunk_index with
    | none => .error .NOT_AVAILABLE
    | some chosen =>
      (plan_missing chunk_index missing).map fun actions =>
        { chunk_index, target_store_index := chosen } :: actions

/-- The body of the loop over the chunks. -/
def plan_chunk (target_replicas chunk_index : Nat) : Except Result (List Action) :=
  let have_count := chunk_receipt_count manifest chunk_index
  if have_count ≥ target_replicas then .ok []
  else if !chunk_has_healthy_source datapane manifest chunk_index then .error .NOT_AVAILABLE
  else plan_missing datapane manifest chunk_index (target_replicas - have_count)

def plan_chunks (target_replicas : Nat) : List Nat → Except Result (List Action)
  | [] => .ok []
  | chunk_index :: rest =>
    match plan_chunk datapane manifest target_replicas chunk_index with
    | .error result => .error result
    | .ok actions => (plan_chunks target_replicas rest).map (actions ++ ·)

/-- `m3_repair_plan_v1` for an output buffer of `action_capacity` actions. -/
def plan_v1 (target_replicas action_capacity : Nat) : Except Result (List Action) :=
  if datapane.stores = [] ∨ target_replicas = 0 then .error .INVALID_ARG
  else
    match plan_chunks datapane manifest target_replicas (List.range manifest.chunks.length) with
    | .error result => .error result
    | .ok actions => if actions.length > action_capacity then .error .RESOURCE_EXHAUSTED else .ok actions

end plan

section execute

variable (backend : Backend) (manifest : ManifestV2) (now_ms : UInt64)

/-- The body of the loop over the actions: the chunk is read from a replica and
published to the target, and its receipt becomes a placement. `malloc` tells
whether the buffer of the chunk can be allocated. -/
def execute_action (malloc : Bool) (datapane : Datapane) (action : Action) : Except Result Placement × Datapane :=
  match manifest.chunks[action.chunk_index]?, datapane.stores[action.target_store_index]? with
  | some cid, some target =>
    if malloc = false then (.error .RESOURCE_EXHAUSTED, datapane)
    else
      match read_chunk_v1 backend datapane manifest action.chunk_index cid 0 cid.size now_ms with
      | (.error _, read) => (.error .NOT_AVAILABLE, read)
      | (.ok bytes, read) =>
        match put_chunk_v1 backend read action.target_store_index cid bytes now_ms with
        | (.error _, put) => (.error .NOT_AVAILABLE, put)
        | (.ok receipt, put) =>
          match m3_chunk_receipt.digest_v1 backend.sha256 receipt with
          | .error _ => (.error .INTERNAL, put)
          | .ok receipt_digest =>
            (.ok
              { chunk_index := UInt32.ofNat action.chunk_index, store_node_id := target.node_id, receipt_digest }, put)
  -- The planner only names chunks of the manifest and registered stores.
  | _, _ => (.error .INTERNAL, datapane)

/-- The loop over the actions; `malloc` answers the allocation of each. -/
def execute_actions (malloc : Nat → Bool) :
    Datapane → Nat → List Action → Except Result (List Placement) × Datapane
  | datapane, _, [] => (.ok [], datapane)
  | datapane, a, action :: rest =>
    match execute_action backend manifest now_ms (malloc a) datapane action with
    | (.error result, next) => (.error result, next)
    | (.ok placement, next) =>
      let executed := execute_actions malloc next (a + 1) rest
      (executed.1.map (placement :: ·), executed.2)

/-- The manifest of the same object with new placements behind the old ones. -/
def updated_manifest (manifest : ManifestV2) (added : List Placement) : ManifestV2 :=
  { version := VERSION_2, object_cid := manifest.object_cid, chunks := manifest.chunks
    placements := manifest.placements ++ added }

/-- `m3_repair_execute_v1`; `malloc` answers the allocations of the chunk list,
the placement list and then of each action. -/
def execute_v1 (malloc : Nat → Bool) (datapane : Datapane) (target_replicas : Nat) :
    Except Result ManifestV2 × Datapane :=
  match plan_v1 datapane manifest target_replicas (MAX_STORES * MAX_STORES) with
  | .error result => (.error result, datapane)
  | .ok actions =>
    if manifest.chunks.length > 0 ∧ malloc 0 = false then (.error .RESOURCE_EXHAUSTED, datapane)
    else if manifest.placements.length + actions.length > 0 ∧ malloc 1 = false then
      (.error .RESOURCE_EXHAUSTED, datapane)
    else
      let executed := execute_actions backend manifest now_ms malloc datapane 2 actions
      (executed.1.map (updated_manifest manifest), executed.2)

end execute

def Action.target (datapane : Datapane) (action : Action) : Option (Bytes 32) :=
  datapane.stores[action.target_store_index]?.map Store.node_id

/-- What a plan is for: every chunk gets as many new replicas as it lacks, on
pairwise distinct stores that do not hold it yet. -/
structure Correct (datapane : Datapane) (manifest : ManifestV2) (target_replicas : Nat) (actions : List Action) :
    Prop where
  chunks : ∀ action ∈ actions, action.chunk_index < manifest.chunks.length
  count : ∀ chunk_index < manifest.chunks.length,
    (actions.map Action.chunk_index).count chunk_index =
      target_replicas - chunk_receipt_count manifest chunk_index
  unplaced : ∀ action ∈ actions, ∃ store, datapane.stores[action.target_store_index]? = some store ∧
    placed_on manifest action.chunk_index store = false
  distinct : actions.Pairwise fun action later =>
    action.chunk_index = later.chunk_index → action.target datapane ≠ later.target datapane

/-- What the planner does: each chunk gets the right number of actions, and
each of them aims at the first store without the chunk. -/
structure Planned (datapane : Datapane) (manifest : ManifestV2) (target_replicas : Nat) (chunks : List Nat)
    (actions : List Action) : Prop where
  aimed : ∀ action ∈ actions, action.chunk_index ∈ chunks ∧
    choose_target datapane manifest action.chunk_index = some action.target_store_index
  count : ∀ chunk_index ∈ chunks, (actions.map Action.chunk_index).count chunk_index =
    target_replicas - chunk_receipt_count manifest chunk_index

section planned

variable {datapane : Datapane} {manifest : ManifestV2} {target_replicas : Nat}

variable {chunk_index : Nat} {chunks : List Nat}

theorem plan_missing_ok {missing : Nat} {actions : List Action}
    (hok : plan_missing datapane manifest chunk_index missing = .ok actions) :
    Planned datapane manifest (chunk_receipt_count manifest chunk_index + missing) [chunk_index] actions := by
  induction missing generalizing actions with
  | zero =>
    cases hok
    exact ⟨by simp, by simp⟩
  | succ missing ih =>
    unfold plan_missing at hok
    split at hok
    · cases hok
    · rename_i chosen hchosen
      obtain ⟨rest, hrest, rfl⟩ := except_map_eq_ok.mp hok
      obtain ⟨haimed, hcount⟩ := ih hrest
      refine ⟨List.forall_mem_cons.mpr ⟨⟨by simp, hchosen⟩, haimed⟩, ?_⟩
      have hrest_count := hcount chunk_index (by simp)
      simp only [List.mem_singleton, forall_eq, List.map_cons, List.count_cons_self]
      omega

theorem plan_chunk_ok {actions : List Action}
    (hok : plan_chunk datapane manifest target_replicas chunk_index = .ok actions) :
    Planned datapane manifest target_replicas [chunk_index] actions := by
  simp only [plan_chunk] at hok
  split at hok <;> rename_i henough
  · cases hok
    exact ⟨by simp, by simp; omega⟩
  · obtain ⟨_, hmissing⟩ := guard_passed hok
    have hplanned := plan_missing_ok hmissing
    rwa [Nat.add_sub_cancel' (by omega)] at hplanned

theorem Planned.count_eq_zero {actions : List Action}
    (hplanned : Planned datapane manifest target_replicas chunks actions) (hother : chunk_index ∉ chunks) :
    (actions.map Action.chunk_index).count chunk_index = 0 := by
  refine List.count_eq_zero.mpr fun hmem => hother ?_
  obtain ⟨action, haction, rfl⟩ := List.mem_map.mp hmem
  exact (hplanned.aimed action haction).1

theorem Planned.cons {chunk_index : Nat} {chunks : List Nat} {first second : List Action}
    (hfirst : Planned datapane manifest target_replicas [chunk_index] first)
    (hsecond : Planned datapane manifest target_replicas chunks second) (hnew : chunk_index ∉ chunks) :
    Planned datapane manifest target_replicas (chunk_index :: chunks) (first ++ second) := by
  refine ⟨List.forall_mem_append.mpr ⟨fun action haction => ?_, fun action haction => ?_⟩,
    List.forall_mem_cons.mpr ⟨?_, fun other hother => ?_⟩⟩
  · obtain ⟨hmem, haimed⟩ := hfirst.aimed action haction
    exact ⟨List.mem_cons.mpr (.inl (List.mem_singleton.mp hmem)), haimed⟩
  · obtain ⟨hmem, haimed⟩ := hsecond.aimed action haction
    exact ⟨List.mem_cons_of_mem chunk_index hmem, haimed⟩
  · rw [List.map_append, List.count_append, hfirst.count chunk_index (by simp), hsecond.count_eq_zero hnew,
      Nat.add_zero]
  · have hne : other ∉ [chunk_index] := by
      rintro hmem
      exact hnew (List.mem_singleton.mp hmem ▸ hother)
    rw [List.map_append, List.count_append, hfirst.count_eq_zero hne, hsecond.count other hother, Nat.zero_add]

theorem plan_chunks_ok (hnodup : chunks.Nodup) {actions : List Action}
    (hok : plan_chunks datapane manifest target_replicas chunks = .ok actions) :
    Planned datapane manifest target_replicas chunks actions := by
  induction chunks generalizing actions with
  | nil =>
    cases hok
    exact ⟨by simp, by simp⟩
  | cons chunk_index rest ih =>
    obtain ⟨hnew, hnodup⟩ := List.nodup_cons.mp hnodup
    unfold plan_chunks at hok
    split at hok
    · cases hok
    · rename_i first hfirst
      obtain ⟨second, hsecond, rfl⟩ := except_map_eq_ok.mp hok
      exact (plan_chunk_ok hfirst).cons (ih hnodup hsecond) hnew

theorem plan_v1_ok {action_capacity : Nat} {actions : List Action}
    (hok : plan_v1 datapane manifest target_replicas action_capacity = .ok actions) :
    Planned datapane manifest target_replicas (List.range manifest.chunks.length) actions := by
  obtain ⟨_, hok⟩ := guard_passed hok
  split at hok
  · cases hok
  · rename_i planned hplanned
    obtain ⟨_, hok⟩ := guard_passed hok
    cases hok
    exact plan_chunks_ok List.nodup_range hplanned

theorem choose_target_some {chosen : Nat} (hchosen : choose_target datapane manifest chunk_index = some chosen) :
    ∃ store, datapane.stores[chosen]? = some store ∧ placed_on manifest chunk_index store = false := by
  obtain ⟨hlt, hfree, _⟩ := List.findIdx?_eq_some_iff_getElem.mp hchosen
  exact ⟨_, List.getElem?_eq_getElem hlt, by simpa using hfree⟩

/-- No chunk lacks two replicas or more. -/
def LacksAtMostOne (manifest : ManifestV2) (target_replicas : Nat) : Prop :=
  ∀ chunk_index < manifest.chunks.length, target_replicas ≤ chunk_receipt_count manifest chunk_index + 1

section whole_plan

variable {actions : List Action}
  (hplanned : Planned datapane manifest target_replicas (List.range manifest.chunks.length) actions)

include hplanned

/-- The actions are about different chunks exactly when no chunk lacks two
replicas. -/
theorem Planned.nodup_iff : (actions.map Action.chunk_index).Nodup ↔ LacksAtMostOne manifest target_replicas := by
  rw [List.nodup_iff_count_le_one]
  constructor
  · intro hcount chunk_index hlt
    have hle := hcount chunk_index
    rw [hplanned.count chunk_index (List.mem_range.mpr hlt)] at hle
    omega
  · intro hlacks chunk_index
    by_cases hlt : chunk_index < manifest.chunks.length
    · have hle := hlacks chunk_index hlt
      rw [hplanned.count chunk_index (List.mem_range.mpr hlt)]
      omega
    · rw [hplanned.count_eq_zero (by simpa using hlt)]
      omega

/-- All actions of a chunk aim at one store. -/
theorem Planned.same_target {action other : Action} (haction : action ∈ actions) (hother : other ∈ actions)
    (hchunk : action.chunk_index = other.chunk_index) : action.target datapane = other.target datapane := by
  have haimed := (hplanned.aimed action haction).2
  rw [hchunk, (hplanned.aimed other hother).2, Option.some.injEq] at haimed
  rw [Action.target, Action.target, haimed]

/-- A plan fails its purpose exactly when some chunk lacks two replicas: both
of its actions aim at one store. -/
theorem Planned.correct_iff :
    Correct datapane manifest target_replicas actions ↔ LacksAtMostOne manifest target_replicas := by
  rw [← hplanned.nodup_iff]
  constructor
  · intro hcorrect
    refine List.pairwise_map.mpr (hcorrect.distinct.imp_of_mem ?_)
    intro action other haction hother hdistinct hchunk
    exact hdistinct hchunk (hplanned.same_target haction hother hchunk)
  · intro hnodup
    refine ⟨fun action haction => List.mem_range.mp (hplanned.aimed action haction).1,
      fun chunk_index hlt => hplanned.count chunk_index (List.mem_range.mpr hlt),
      fun action haction => choose_target_some (hplanned.aimed action haction).2, ?_⟩
    exact (List.pairwise_map.mp hnodup).imp fun hne hchunk => absurd hchunk hne

end whole_plan

end planned

end turbop2p.m3_repair
