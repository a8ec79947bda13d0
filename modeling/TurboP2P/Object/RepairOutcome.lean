import Mathlib.Data.List.Dedup
import TurboP2P.Object.Repair

open turbop2p.m3_object_manifest
open turbop2p.m3_chunk_receipt (Receipt digest_v1)
open turbop2p.m3_gateway_datapane (Datapane Store Backend put_chunk_v1 read_chunk_v1 MAX_STORES)

namespace turbop2p.m3_repair

/-- The number of different stores that hold a chunk. -/
def replica_stores (manifest : ManifestV2) (chunk_index : Nat) : Nat :=
  ((chunk_placements manifest chunk_index).map Placement.store_node_id).dedup.length

/-- The placement that an action leads to. -/
structure Places (datapane : Datapane) (action : Action) (placement : Placement) : Prop where
  chunk : placement.chunk_index = UInt32.ofNat action.chunk_index
  target : action.target datapane = some placement.store_node_id
  store : Bytes.is_zero placement.store_node_id.toList = false

variable {malloc : Nat → Bool} {placement : Placement}

section executed

variable (backend : Backend) (manifest : ManifestV2) (now_ms : UInt64)

/-- The receipt that the put of an action was answered with. -/
def Answered (datapane : Datapane) (action : Action) (receipt : Receipt) : Prop :=
  ∃ cid bytes sequence, manifest.chunks[action.chunk_index]? = some cid ∧
    (put_chunk_v1 backend { datapane with request_seq := sequence } action.target_store_index cid bytes now_ms).1 =
      .ok receipt

theorem execute_action_effect (malloc : Bool) (datapane : Datapane) (action : Action) :
    (∃ sequence, (execute_action backend manifest now_ms malloc datapane action).2 =
        { datapane with request_seq := sequence }) ∧
      ∀ placement, (execute_action backend manifest now_ms malloc datapane action).1 = .ok placement →
        Places datapane action placement ∧ ∃ receipt, Answered backend manifest now_ms datapane action receipt ∧
          digest_v1 backend.sha256 receipt = .ok placement.receipt_digest := by
  unfold execute_action
  split
  case h_2 => exact ⟨⟨datapane.request_seq, rfl⟩, by simp⟩
  case h_1 cid target hcid htarget =>
    obtain ⟨sequence, hread⟩ := m3_gateway_datapane.read_chunk_v1_after backend datapane manifest action.chunk_index cid 0
      cid.size now_ms
    split
    · exact ⟨⟨datapane.request_seq, rfl⟩, by simp⟩
    split
    case h_1 read heq => exact ⟨⟨sequence, by simpa [heq] using hread⟩, by simp⟩
    case h_2 bytes read heq =>
      rw [heq] at hread
      cases hread
      obtain ⟨sequence', hput⟩ := m3_gateway_datapane.put_chunk_v1_after backend
        { datapane with request_seq := sequence } action.target_store_index cid bytes now_ms
      split
      case h_1 put hput_eq => exact ⟨⟨sequence', by simpa [hput_eq] using hput⟩, by simp⟩
      case h_2 receipt put hput_eq =>
        have hok : (put_chunk_v1 backend { datapane with request_seq := sequence } action.target_store_index cid bytes
            now_ms).1 = .ok receipt := by
          rw [hput_eq]
        obtain ⟨store, hstore, hformed, hid, _⟩ := m3_gateway_datapane.put_chunk_v1_ok hok
        obtain rfl : target = store := Option.some.inj (htarget.symm.trans hstore)
        rw [hput_eq] at hput
        split
        · exact ⟨⟨sequence', hput⟩, by simp⟩
        · rename_i digest hdigest
          refine ⟨⟨sequence', hput⟩, ?_⟩
          rintro placement hplacement
          cases hplacement
          refine ⟨⟨rfl, by simp [Action.target, htarget], ?_⟩, receipt, ⟨cid, bytes, sequence, hcid, hok⟩, hdigest⟩
          simp only [m3_chunk_receipt.receipt_is_well_formed, Bool.and_eq_true, Bool.not_eq_true'] at hformed
          rw [← hid]
          exact hformed.1.1.1

variable {backend manifest now_ms}

variable {datapane : Datapane}

/-- The loop adds one placement for each action, with the digest of the receipt for
its put. -/
theorem execute_actions_ok {a : Nat} {actions : List Action} {added : List Placement}
    (hok : (execute_actions backend manifest now_ms malloc datapane a actions).1 = .ok added) :
    List.Forall₂ (Places datapane) actions added ∧
      ∃ receipts, List.Forall₂ (Answered backend manifest now_ms datapane) actions receipts ∧
        added.map (fun placement => .ok placement.receipt_digest) = receipts.map (digest_v1 backend.sha256) := by
  induction actions generalizing datapane a added with
  | nil =>
    cases hok
    exact ⟨.nil, [], .nil, rfl⟩
  | cons action rest ih =>
    obtain ⟨⟨sequence, hafter⟩, hplaces⟩ := execute_action_effect backend manifest now_ms (malloc a) datapane action
    simp only [execute_actions] at hok
    split at hok
    · cases hok
    · rename_i placement next heq
      obtain ⟨later, hlater, rfl⟩ := except_map_eq_ok.mp hok
      rw [heq] at hafter
      cases hafter
      rw [heq] at hplaces
      obtain ⟨hplaced, receipt, hanswered, hdigest⟩ := hplaces placement rfl
      obtain ⟨hlater_places, receipts, hreceipts, hdigests⟩ := ih hlater
      refine ⟨.cons hplaced (hlater_places.imp fun _ _ hplaced => ⟨hplaced.chunk, hplaced.target, hplaced.store⟩),
        receipt :: receipts, .cons hanswered hreceipts, ?_⟩
      rw [List.map_cons, List.map_cons, hdigests, hdigest]

theorem execute_v1_ok {target_replicas : Nat} {updated : ManifestV2}
    (hok : (execute_v1 backend manifest now_ms malloc datapane target_replicas).1 = .ok updated) :
    ∃ actions added receipts, plan_v1 datapane manifest target_replicas (MAX_STORES * MAX_STORES) = .ok actions ∧
      List.Forall₂ (Places datapane) actions added ∧
      List.Forall₂ (Answered backend manifest now_ms datapane) actions receipts ∧
      added.map (fun placement => .ok placement.receipt_digest) = receipts.map (digest_v1 backend.sha256) ∧
      updated = updated_manifest manifest added := by
  unfold execute_v1 at hok
  split at hok
  · cases hok
  · rename_i actions hplan
    obtain ⟨heq, hok⟩ := guard_fst hok
    obtain ⟨_, hok⟩ := guard_fst hok
    obtain ⟨added, hadded, rfl⟩ := except_map_eq_ok.mp hok
    obtain ⟨hplaces, receipts, hreceipts, hdigests⟩ := execute_actions_ok hadded
    exact ⟨actions, added, receipts, hplan, hplaces, hreceipts, hdigests, rfl⟩

end executed

section

variable {datapane : Datapane} {actions : List Action} {added : List Placement}
  (hplaces : List.Forall₂ (Places datapane) actions added)

include hplaces

/-- The new placements are identified by the chunks and targets of the
actions. -/
theorem added_keys :
    added.map (fun placement => (placement.chunk_index, some placement.store_node_id)) =
      actions.map fun action => (UInt32.ofNat action.chunk_index, action.target datapane) := by
  induction hplaces with
  | nil => rfl
  | cons hplaces _ ih => rw [List.map_cons, List.map_cons, ih, hplaces.chunk, hplaces.target]

/-- Each new placement comes from an action. -/
theorem exists_places (hadded : placement ∈ added) :
    ∃ action ∈ actions, Places datapane action placement := by
  induction hplaces with
  | nil => simp at hadded
  | @cons action head actions added hhead _ ih =>
    rcases List.mem_cons.mp hadded with rfl | htail
    · exact ⟨action, by simp, hhead⟩
    · obtain ⟨other, hother, hplaced⟩ := ih htail
      exact ⟨other, List.mem_cons_of_mem action hother, hplaced⟩

end

section placed

variable {datapane : Datapane} {manifest : ManifestV2} {target_replicas : Nat} {actions : List Action}
  {added : List Placement}
  (hplanned : Planned datapane manifest target_replicas (List.range manifest.chunks.length) actions)
  (hsmall : manifest.chunks.length ≤ 0xffffffff) (hplaces : List.Forall₂ (Places datapane) actions added)

include hplanned hsmall

theorem Planned.chunk_toNat {action : Action} (haction : action ∈ actions) :
    (UInt32.ofNat action.chunk_index).toNat = action.chunk_index := by
  have hlt := List.mem_range.mp (hplanned.aimed action haction).1
  exact UInt32.toNat_ofNat_of_lt' (by simp [UInt32.size]; omega)

include hplaces

/-- The new placements are of the chunks that the actions name. -/
theorem Planned.added_chunks :
    added.map (fun placement => placement.chunk_index.toNat) = actions.map Action.chunk_index := by
  have hchunks := congrArg (List.map fun key => key.1.toNat) (added_keys hplaces)
  simp only [List.map_map] at hchunks
  refine hchunks.trans (List.map_congr_left fun action haction => ?_)
  exact hplanned.chunk_toNat hsmall haction

/-- The new placements are different exactly when the actions are about
different chunks. -/
theorem Planned.added_nodup_iff : (added.map Placement.key).Nodup ↔ (actions.map Action.chunk_index).Nodup := by
  have hinjective : Function.Injective fun key : UInt32 × Bytes 32 => (key.1, some key.2) := by
    intro key other heq
    simpa [Prod.ext_iff] using heq
  rw [← List.nodup_map_iff hinjective, List.map_map]
  have hkeys : added.map ((fun key : UInt32 × Bytes 32 => (key.1, some key.2)) ∘ Placement.key) = _ :=
    added_keys hplaces
  rw [hkeys, List.Nodup, List.Nodup, List.pairwise_map, List.pairwise_map]
  refine List.Pairwise.iff_of_mem fun {action other} haction hother => not_congr ⟨fun hkey => ?_, fun hchunk => ?_⟩
  · rw [← hplanned.chunk_toNat hsmall haction, ← hplanned.chunk_toNat hsmall hother, (Prod.mk.inj hkey).1]
  · rw [hplanned.same_target haction hother hchunk, hchunk]

theorem Planned.added_new {later : Placement} (hold : placement ∈ manifest.placements) (hnew : later ∈ added) :
    placement.key ≠ later.key := by
  intro hkey
  obtain ⟨hchunk, hstore⟩ := Prod.mk.inj hkey
  obtain ⟨action, haction, hplaced⟩ := exists_places hplaces hnew
  obtain ⟨store, hregistered, hunplaced⟩ := choose_target_some (hplanned.aimed action haction).2
  have hindex : later.chunk_index.toNat = action.chunk_index := by
    rw [hplaced.chunk, hplanned.chunk_toNat hsmall haction]
  have hnode : store.node_id = later.store_node_id := by
    simpa [Action.target, hregistered] using hplaced.target
  simp only [placed_on, chunk_placements, List.any_eq_false, List.mem_filter, decide_eq_true_eq, and_imp] at hunplaced
  exact hunplaced placement hold (by rw [hchunk, hindex]) (by rw [hstore, hnode])

/-- The updated manifest is valid exactly when no chunk lacked two replicas
and no receipt has the zero digest. -/
theorem Planned.updated_valid_iff {max_object_bytes : UInt64} {max_chunks max_placements : Nat}
    (hvalid : validate_v2 manifest max_object_bytes max_chunks max_placements = .OK) :
    validate_v2 (updated_manifest manifest added) max_object_bytes max_chunks
        (updated_manifest manifest added).placements.length = .OK ↔
      LacksAtMostOne manifest target_replicas ∧
        ∀ placement ∈ added, Bytes.is_zero placement.receipt_digest.toList = false := by
  obtain ⟨_, hcontent, _, hold, hnodup⟩ := validate_v2_ok_iff.mp hvalid
  have hkeys : ((manifest.placements ++ added).map Placement.key).Nodup ↔
      LacksAtMostOne manifest target_replicas := by
    rw [← hplanned.nodup_iff, ← hplanned.added_nodup_iff hsmall hplaces, List.map_append, List.nodup_append]
    refine ⟨fun h => h.2.1, fun hadded => ⟨hnodup, hadded, ?_⟩⟩
    rintro key hkey other hother rfl
    obtain ⟨placement, hplacement, rfl⟩ := List.mem_map.mp hkey
    obtain ⟨later, hlater, heq⟩ := List.mem_map.mp hother
    exact hplanned.added_new hsmall hplaces hplacement hlater heq.symm
  rw [validate_v2_ok_iff]
  simp only [updated_manifest, hcontent, hkeys, le_refl, true_and]
  constructor
  · rintro ⟨hall, hlacks⟩
    exact ⟨hlacks, fun placement hmem => (hall placement (List.mem_append_right _ hmem)).receipt⟩
  · rintro ⟨hlacks, hreceipts⟩
    refine ⟨List.forall_mem_append.mpr ⟨hold, fun placement hadded => ?_⟩, hlacks⟩
    obtain ⟨action, haction, hplaced⟩ := exists_places hplaces hadded
    refine ⟨?_, hplaced.store, hreceipts placement hadded⟩
    rw [hplaced.chunk, hplanned.chunk_toNat hsmall haction]
    exact List.mem_range.mp (hplanned.aimed action haction).1

/-- If the updated placements are different, every chunk has enough of them. -/
theorem Planned.updated_covers
    (hnodup : ((updated_manifest manifest added).placements.map Placement.key).Nodup) {chunk_index : Nat}
    (hlt : chunk_index < manifest.chunks.length) :
    target_replicas ≤ replica_stores (updated_manifest manifest added) chunk_index := by
  have hcount : (added.filter fun placement => placement.chunk_index.toNat = chunk_index).length =
      target_replicas - chunk_receipt_count manifest chunk_index := by
    rw [← hplanned.count chunk_index (List.mem_range.mpr hlt), ← hplanned.added_chunks hsmall hplaces,
      List.count_eq_countP, List.countP_map, ← List.countP_eq_length_filter]
    rfl
  have hlength : (chunk_placements (updated_manifest manifest added) chunk_index).length =
      chunk_receipt_count manifest chunk_index + (target_replicas - chunk_receipt_count manifest chunk_index) := by
    rw [← hcount, chunk_placements, updated_manifest, List.filter_append, List.length_append]
    rfl
  have hstores : ((chunk_placements (updated_manifest manifest added) chunk_index).map
      Placement.store_node_id).Nodup := nodup_stores hnodup chunk_index
  rw [replica_stores, hstores.dedup, List.length_map, hlength]
  omega

end placed

/-- For every manifest that the validation accepts: a plan gives each chunk the
replicas that it lacks, on different stores that do not hold it, exactly
when no chunk lacks two or more of them; and the manifest that an execution
returns is valid, with enough different stores for every chunk, exactly under the
same condition and if none of the receipts for its puts has the zero digest. -/
theorem repair_correct_iff (backend : Backend) (datapane : Datapane) (manifest : ManifestV2) (target_replicas : Nat)
    (max_object_bytes : UInt64) (max_chunks max_placements : Nat)
    (hvalid : validate_v2 manifest max_object_bytes max_chunks max_placements = .OK) :
    (∀ action_capacity actions, plan_v1 datapane manifest target_replicas action_capacity = .ok actions →
      (Correct datapane manifest target_replicas actions ↔ LacksAtMostOne manifest target_replicas)) ∧
    ∀ malloc now_ms updated,
      (execute_v1 backend manifest now_ms malloc datapane target_replicas).1 = .ok updated →
      ∃ actions receipts, plan_v1 datapane manifest target_replicas (MAX_STORES * MAX_STORES) = .ok actions ∧
        List.Forall₂ (Answered backend manifest now_ms datapane) actions receipts ∧
        ((validate_v2 updated max_object_bytes max_chunks updated.placements.length = .OK ∧
            ∀ chunk_index < manifest.chunks.length, target_replicas ≤ replica_stores updated chunk_index) ↔
          LacksAtMostOne manifest target_replicas ∧
            ∀ receipt ∈ receipts, digest_v1 backend.sha256 receipt ≠ .ok (Bytes.zero 32)) := by
  refine ⟨fun action_capacity actions hplan => (plan_v1_ok hplan).correct_iff, fun malloc now_ms updated hok => ?_⟩
  obtain ⟨actions, added, receipts, hplan, hplaces, hreceipts, hdigests, rfl⟩ := execute_v1_ok hok
  have hplanned := plan_v1_ok hplan
  have hsmall := content_valid_chunk_count (validate_v2_ok_iff.mp hvalid).2.1
  have hzero : (∀ receipt ∈ receipts, digest_v1 backend.sha256 receipt ≠ .ok (Bytes.zero 32)) ↔
      ∀ placement ∈ added, Bytes.is_zero placement.receipt_digest.toList = false := by
    rw [← List.forall_mem_map (f := digest_v1 backend.sha256) (P := (· ≠ .ok (Bytes.zero 32))), ← hdigests,
      List.forall_mem_map]
    simp [← Bytes.is_zero_toList_iff]
  refine ⟨actions, receipts, hplan, hreceipts, ?_⟩
  rw [hzero, ← hplanned.updated_valid_iff hsmall hplaces hvalid]
  refine and_iff_left_of_imp fun hupdated chunk_index hlt => ?_
  exact hplanned.updated_covers hsmall hplaces (validate_v2_ok_iff.mp hupdated).2.2.2.2 hlt

section sample

/-- A store in the process of the gateway. -/
def sample_store (node : UInt8) : Store :=
  { node_id := List.Vector.replicate 32 node, public_key := List.Vector.replicate 32 node, transport := .store }

/-- A data plane with three stores. -/
def sample_datapane : Datapane :=
  { stores := [sample_store 1, sample_store 2, sample_store 3], tenant_id := List.Vector.replicate 32 1
    target_replicas := 3, min_durable_replicas := 1
    policy :=
      { max_ttl_ms := 100, max_read_bytes := 100, max_put_bytes := 100 }
    request_seq := 0 }

def sample_cid : ChunkCid :=
  { hash_algorithm := HASH_ALGORITHM_SHA256, size := 1, digest := List.Vector.replicate 32 5 }

/-- An object of one chunk that is left on one store. -/
def sample_manifest : ManifestV2 :=
  { version := VERSION_2, object_cid := sample_cid, chunks := [sample_cid]
    placements :=
      [{ chunk_index := 0, store_node_id := List.Vector.replicate 32 1
         receipt_digest := List.Vector.replicate 32 6 }] }

/-- Stores that answer every request. -/
def sample_backend : Backend :=
  { sha256 := fun _ => List.Vector.replicate 32 7, ed25519_verify := fun _ _ _ => true
    store_put := fun store claims _ _ => some
      { store_node_id := store.node_id, cid := claims.cid, request_id := claims.request_id
        issued_at_ms := claims.issued_at_ms, signature := List.Vector.replicate 64 8 }
    store_read := fun _ claims _ => some (List.replicate claims.range_length.toNat 9)
    mesh_put := fun _ _ _ => none
    mesh_read := fun _ _ => none }

/-- With two replicas missing, both actions aim at the second store: the updated
manifest repeats a placement, is not valid and names two stores of three. -/
theorem repair_repeats_target :
    validate_v2 sample_manifest 10 10 10 = .OK ∧
      sample_datapane.stores.Pairwise (fun store other => store.node_id ≠ other.node_id) ∧
      plan_v1 sample_datapane sample_manifest 3 64 = .ok [⟨0, 1⟩, ⟨0, 1⟩] ∧
      ¬ Correct sample_datapane sample_manifest 3 [⟨0, 1⟩, ⟨0, 1⟩] ∧
      (execute_v1 sample_backend sample_manifest 50 (fun _ => true) sample_datapane 3).1.map
          (fun updated => (validate_v2 updated 10 10 updated.placements.length, replica_stores updated 0)) =
        .ok (.INVALID_ARG, 2) := by
  refine ⟨by decide +kernel, by decide +kernel, by decide +kernel, fun hcorrect => ?_, by decide +kernel⟩
  exact List.rel_of_pairwise_cons hcorrect.distinct (by simp) rfl rfl

/-- The placement that the repair adds for one missing replica. -/
def sample_placement : Placement :=
  { chunk_index := 0, store_node_id := List.Vector.replicate 32 2, receipt_digest := List.Vector.replicate 32 7 }

/-- With one replica missing, the repair succeeds. -/
theorem repair_correct_iff_one_missing :
    Correct sample_datapane sample_manifest 2 [⟨0, 1⟩] ∧
      ∃ updated, (execute_v1 sample_backend sample_manifest 50 (fun _ => true) sample_datapane 2).1 = .ok updated ∧
        validate_v2 updated 10 10 updated.placements.length = .OK ∧
        ∀ chunk_index < sample_manifest.chunks.length, 2 ≤ replica_stores updated chunk_index := by
  have hlacks : LacksAtMostOne sample_manifest 2 := by
    intro chunk_index hlt
    obtain rfl : chunk_index = 0 := by simpa [sample_manifest] using hlt
    decide
  obtain ⟨hplan, hexecute⟩ := repair_correct_iff sample_backend sample_datapane sample_manifest 2 10 10 10
    (by decide +kernel)
  have hupdated : (execute_v1 sample_backend sample_manifest 50 (fun _ => true) sample_datapane 2).1 =
      .ok (updated_manifest sample_manifest [sample_placement]) := by decide +kernel
  obtain ⟨_, receipts, _, _, hiff⟩ := hexecute _ 50 _ hupdated
  refine ⟨(hplan 64 _ (by decide +kernel)).mpr hlacks, _, hupdated, hiff.mpr ⟨hlacks, fun receipt _ hdigest => ?_⟩⟩
  obtain ⟨_, _, hzero⟩ := except_map_eq_ok.mp hdigest
  have hseven : List.Vector.replicate 32 (7 : UInt8) ≠ Bytes.zero 32 := by decide
  exact hseven hzero

end sample

end turbop2p.m3_repair
