import TurboP2P.Object.PutObject

open FileTree (File)
open turbop2p.m3_object_manifest (ChunkCid HASH_ALGORITHM_SHA256 ManifestV2 Placement decode_v2 encode_v2)
open turbop2p.m3_chunk_receipt (Receipt digest_v1 verify_v1 check_binding_v1)
open turbop2p.m3_chunk_store (cid_calculate_v1)

namespace turbop2p.m3_gateway_datapane

section sequence

variable (backend : Backend) (io : ObjectIo) (now_ms : UInt64)

theorem publish_stores_after (chunk_index : Nat) (cid : ChunkCid) (bytes : List UInt8) (datapane : Datapane) (s : Nat)
    (rest : List Store) (earlier : List Placement) :
    ∃ sequence, (publish_stores backend io now_ms chunk_index cid bytes datapane s rest earlier).2 =
      { datapane with request_seq := sequence } := by
  induction rest generalizing datapane s earlier with
  | nil => exact ⟨datapane.request_seq, rfl⟩
  | cons store rest ih =>
    obtain ⟨sequence, hafter⟩ := put_chunk_v1_after backend datapane s cid bytes now_ms
    unfold publish_stores
    split
    · rename_i hput
      rw [hput] at hafter
      cases hafter
      exact ih _ _ _
    · rename_i hput
      rw [hput] at hafter
      cases hafter
      split
      · exact ih _ _ _
      · split
        · exact ih _ _ _
        · exact ih _ _ _

theorem publish_chunk_after (datapane : Datapane) (write_target chunk_index : Nat) (cid : ChunkCid)
    (bytes : List UInt8) :
    ∃ sequence, (publish_chunk backend io now_ms datapane write_target chunk_index cid bytes).2 =
      { datapane with request_seq := sequence } := by
  obtain ⟨sequence, hafter⟩ := publish_stores_after backend io now_ms chunk_index cid bytes datapane 0
    (datapane.stores.take write_target) []
  refine ⟨sequence, ?_⟩
  unfold publish_chunk
  dsimp only
  split
  · exact hafter
  · exact hafter

theorem put_object_chunks_after (body : File) (max_chunk_bytes : UInt64) (write_target : Nat) (indices : List Nat)
    (progress : ObjectProgress) :
    ∃ sequence, (put_object_chunks backend io now_ms body max_chunk_bytes write_target indices progress).2 =
      { progress.datapane with request_seq := sequence } := by
  induction indices generalizing progress with
  | nil => exact ⟨progress.datapane.request_seq, rfl⟩
  | cons i rest ih =>
    unfold put_object_chunks
    dsimp only
    generalize File.window body _ _ = chunk
    split
    · exact ⟨progress.datapane.request_seq, rfl⟩
    · have hafter := publish_chunk_after backend io now_ms progress.datapane write_target i
        (cid_calculate_v1 backend.sha256 chunk) chunk.val
      split
      · rename_i hpublish
        rw [hpublish] at hafter
        exact hafter
      · rename_i hpublish
        rw [hpublish] at hafter
        split
        · exact hafter
        · obtain ⟨sequence, rfl⟩ := hafter
          exact ih _

/-- Publishing an object moves nothing but the counter of the requests. -/
theorem put_object_v1_after (datapane : Datapane) (body : File) (max_chunk_bytes : UInt64) :
    ∃ sequence, (put_object_v1 backend io now_ms datapane body max_chunk_bytes).2 =
      { datapane with request_seq := sequence } := by
  have hafter := put_object_chunks_after backend io now_ms body max_chunk_bytes (write_target datapane)
    (List.range (chunk_count body max_chunk_bytes))
    { datapane := datapane, chunks := [], placements := [], total := 0, hashed := [] }
  unfold put_object_v1
  dsimp only
  split
  · exact ⟨datapane.request_seq, rfl⟩
  split
  · exact ⟨datapane.request_seq, rfl⟩
  split
  · exact ⟨datapane.request_seq, rfl⟩
  split
  · exact ⟨datapane.request_seq, rfl⟩
  split
  · rename_i hchunks
    rw [hchunks] at hafter
    exact hafter
  · rename_i hchunks
    rw [hchunks] at hafter
    exact hafter

end sequence

section placements

variable {backend : Backend} {io : ObjectIo} {now_ms : UInt64} {datapane after : Datapane} {cid : ChunkCid}

/-- A placement stands for the receipt that a registered store gave for a put of
these bytes as the chunk, signed by this store and bound to it, to the chunk and to
the request of the put. -/
def Backed (backend : Backend) (datapane : Datapane) (now_ms : UInt64) (cid : ChunkCid) (bytes : List UInt8)
    (placement : Placement) : Prop :=
  ∃ s store sequence receipt, datapane.stores[s]? = some store ∧ placement.store_node_id = store.node_id ∧
    send_put backend datapane store cid (request_id sequence 0 s) bytes now_ms = .ok receipt ∧
    verify_v1 backend.ed25519_verify store.public_key receipt = .OK ∧
    check_binding_v1 receipt store.node_id cid (request_id sequence 0 s) now_ms datapane.policy.max_ttl_ms = .OK ∧
    digest_v1 backend.sha256 receipt = .ok placement.receipt_digest

variable {s chunk_index : Nat}

theorem drop_cons {α : Type} {items rest : List α} {item : α} (hrest : (item :: rest) <+: items.drop s) :
    items[s]? = some item ∧ rest <+: items.drop (s + 1) := by
  obtain ⟨tail, htail⟩ := hrest
  refine ⟨?_, tail, ?_⟩
  · rw [← List.head?_drop, ← htail]
    rfl
  · rw [← List.tail_drop, ← htail]
    rfl

/-- The loop over the stores adds at most one placement for each of them, in
their order, and each is backed by a receipt. -/
theorem publish_stores_added {bytes : List UInt8} {rest : List Store} {earlier placements : List Placement}
    (hrest : rest <+: datapane.stores.drop s)
    (hpublish : publish_stores backend io now_ms chunk_index cid bytes datapane s rest earlier = (placements, after)) :
    ∃ added, placements = earlier ++ added ∧ (added.map Placement.store_node_id).Sublist (rest.map Store.node_id) ∧
      ∀ placement ∈ added, placement.chunk_index = UInt32.ofNat chunk_index ∧
        Backed backend datapane now_ms cid bytes placement := by
  induction rest generalizing datapane s earlier with
  | nil =>
    cases hpublish
    exact ⟨[], by simp, by simp, by simp⟩
  | cons store rest ih =>
    obtain ⟨hstore, hrest⟩ := drop_cons hrest
    obtain ⟨sequence, hafter⟩ := put_chunk_v1_after backend datapane s cid bytes now_ms
    have hrest : rest <+: ({ datapane with request_seq := sequence } : Datapane).stores.drop (s + 1) := hrest
    have hskip : publish_stores backend io now_ms chunk_index cid bytes { datapane with request_seq := sequence }
        (s + 1) rest earlier = (placements, after) →
        ∃ added, placements = earlier ++ added ∧
          (added.map Placement.store_node_id).Sublist ((store :: rest).map Store.node_id) ∧
          ∀ placement ∈ added, placement.chunk_index = UInt32.ofNat chunk_index ∧
            Backed backend datapane now_ms cid bytes placement := by
      intro hpublish
      obtain ⟨added, hplacements, hnodes, hbacked⟩ := ih hrest hpublish
      exact ⟨added, hplacements, hnodes.trans (List.sublist_cons_self _ _), hbacked⟩
    unfold publish_stores at hpublish
    split at hpublish
    · rename_i hput
      rw [hput] at hafter
      cases hafter
      exact hskip hpublish
    · rename_i receipt advanced hput
      rw [hput] at hafter
      cases hafter
      split at hpublish
      · exact hskip hpublish
      · rename_i digest hdigest
        split at hpublish
        · exact hskip hpublish
        · obtain ⟨holder, hholder, hsent, hverified, hbound⟩ := put_chunk_v1_verified (congrArg Prod.fst hput)
          obtain rfl : store = holder := Option.some.inj (hstore.symm.trans hholder)
          obtain ⟨added, hplacements, hnodes, hbacked⟩ := ih hrest hpublish
          rw [List.append_assoc] at hplacements
          refine ⟨_, hplacements, hnodes.cons_cons store.node_id, ?_⟩
          refine List.forall_mem_cons.mpr ⟨⟨rfl, ?_⟩, hbacked⟩
          exact ⟨s, store, _, receipt, hstore, rfl, hsent, hverified, hbound, hdigest⟩

theorem publish_chunk_ok {write_target : Nat} {bytes : List UInt8} {placements : List Placement}
    (hpublish : publish_chunk backend io now_ms datapane write_target chunk_index cid bytes = (.ok placements, after)) :
    datapane.min_durable_replicas ≤ placements.length ∧ placements.length ≤ write_target ∧
      ∀ placement ∈ placements, placement.chunk_index = UInt32.ofNat chunk_index ∧
        Backed backend datapane now_ms cid bytes placement := by
  unfold publish_chunk at hpublish
  rcases hstores : publish_stores backend io now_ms chunk_index cid bytes datapane 0 (datapane.stores.take write_target) []
    with ⟨published, advanced⟩
  rw [hstores] at hpublish
  obtain ⟨added, rfl, hnodes, hbacked⟩ := publish_stores_added (by simpa using List.take_prefix _ _) hstores
  dsimp only at hpublish
  split at hpublish
  · rename_i hdurable
    cases hpublish
    refine ⟨hdurable, ?_, by simpa using hbacked⟩
    have hlength := hnodes.length_le
    simp only [List.length_map, List.length_take] at hlength ⊢
    omega
  · cases hpublish

end placements

section chunks

variable {backend : Backend} {io : ObjectIo} {now_ms : UInt64} {datapane after : Datapane} {body : File}
  {max_chunk_bytes : UInt64} {write_target : Nat}

def object_chunk (body : File) (max_chunk_bytes : UInt64) (i : Nat) : File :=
  body.window (i * max_chunk_bytes.toNat) max_chunk_bytes.toNat

/-- A chunk has between `min_durable_replicas` and `write_target` placements, each
backed by a receipt. -/
structure Placed (backend : Backend) (datapane : Datapane) (now_ms : UInt64) (write_target : Nat) (piece : File)
    (placements : List Placement) : Prop where
  durable : datapane.min_durable_replicas ≤ placements.length
  target : placements.length ≤ write_target
  backed : ∀ placement ∈ placements,
    Backed backend datapane now_ms (cid_calculate_v1 backend.sha256 piece) piece.val placement

/-- The loop after its first `count` chunks. -/
structure Covers (backend : Backend) (now_ms : UInt64) (datapane : Datapane) (body : File) (max_chunk_bytes : UInt64)
    (write_target count : Nat) (progress : ObjectProgress) : Prop where
  plane : ∃ sequence, progress.datapane = { datapane with request_seq := sequence }
  chunks : progress.chunks = (List.range count).map fun i =>
    cid_calculate_v1 backend.sha256 (object_chunk body max_chunk_bytes i)
  total : progress.total = UInt64.ofNat (min (count * max_chunk_bytes.toNat) body.val.length)
  indices : ∀ placement ∈ progress.placements, placement.chunk_index.toNat < count
  placed : ∀ i < count, Placed backend datapane now_ms write_target (object_chunk body max_chunk_bytes i)
    (progress.placements.filter fun placement => placement.chunk_index.toNat = i)

theorem window_chunk_take (body : File) (max_chunk_bytes : UInt64) (i : Nat) :
    body.window (i * max_chunk_bytes.toNat) (chunk_take body max_chunk_bytes i) =
      object_chunk body max_chunk_bytes i := by
  apply Subtype.ext
  simp only [File.window, object_chunk, Window.window, chunk_take]
  rw [List.take_eq_take_iff, List.length_drop]
  split <;> omega

variable {placements : List Placement}

variable {i count : Nat} {progress : ObjectProgress}

theorem filter_eq_self_of_index (hindex : ∀ placement ∈ placements, placement.chunk_index.toNat = i) :
    (placements.filter fun placement => placement.chunk_index.toNat = i) = placements :=
  List.filter_eq_self.mpr fun placement hmem => by simp [hindex placement hmem]

theorem filter_eq_nil_of_index (hindex : ∀ placement ∈ placements, placement.chunk_index.toNat ≠ i) :
    (placements.filter fun placement => placement.chunk_index.toNat = i) = [] :=
  List.filter_eq_nil_iff.mpr fun placement hmem => by simp [hindex placement hmem]

/-- A further chunk with its placements. -/
theorem Covers.step (hcovers : Covers backend now_ms datapane body max_chunk_bytes write_target count progress)
    (hcount : count < 2 ^ 32)
    (hpublish : publish_chunk backend io now_ms progress.datapane write_target count
      (cid_calculate_v1 backend.sha256 (object_chunk body max_chunk_bytes count))
      (object_chunk body max_chunk_bytes count).val = (.ok placements, after)) :
    Covers backend now_ms datapane body max_chunk_bytes write_target (count + 1)
      { datapane := after
        chunks := progress.chunks ++ [cid_calculate_v1 backend.sha256 (object_chunk body max_chunk_bytes count)]
        placements := progress.placements ++ placements
        total := progress.total + UInt64.ofNat (chunk_take body max_chunk_bytes count)
        hashed := progress.hashed ++
          (cid_calculate_v1 backend.sha256 (object_chunk body max_chunk_bytes count)).digest.toList } := by
  obtain ⟨sequence, hplane⟩ := hcovers.plane
  rw [hplane] at hpublish
  obtain ⟨hdurable, htarget, hbacked⟩ := publish_chunk_ok hpublish
  have hafter := publish_chunk_after backend io now_ms { datapane with request_seq := sequence } write_target count
    (cid_calculate_v1 backend.sha256 (object_chunk body max_chunk_bytes count))
    (object_chunk body max_chunk_bytes count).val
  rw [hpublish] at hafter
  have hindex : ∀ placement ∈ placements, placement.chunk_index.toNat = count := by
    intro placement hmem
    rw [(hbacked placement hmem).1]
    exact Nat.mod_eq_of_lt hcount
  refine ⟨hafter, ?_, ?_, ?_, ?_⟩
  · rw [hcovers.chunks, List.range_succ, List.map_append]
    rfl
  · dsimp only
    rw [hcovers.total, ← UInt64.ofNat_add, Nat.succ_mul, chunk_take]
    congr 1
    split <;> omega
  · intro placement hmem
    obtain hmem | hmem := List.mem_append.mp hmem
    · exact Nat.lt_succ_of_lt (hcovers.indices placement hmem)
    · exact Nat.lt_succ_of_le (hindex placement hmem).le
  · intro i hi
    rw [List.filter_append]
    rcases Nat.lt_succ_iff_lt_or_eq.mp hi with hbefore | rfl
    · have hnone : (placements.filter fun placement => placement.chunk_index.toNat = i) = [] :=
        filter_eq_nil_of_index fun placement hmem => (hindex placement hmem).trans_ne hbefore.ne'
      rw [hnone, List.append_nil]
      exact hcovers.placed i hbefore
    · rw [filter_eq_self_of_index hindex, filter_eq_nil_of_index, List.nil_append]
      · exact ⟨hdurable, htarget, fun placement hmem => (hbacked placement hmem).2⟩
      · exact fun placement hmem => (hcovers.indices placement hmem).ne

/-- The whole loop. -/
theorem put_object_chunks_covers {more : Nat} {final : ObjectProgress}
    (hcovers : Covers backend now_ms datapane body max_chunk_bytes write_target count progress)
    (hcount : count + more < 2 ^ 32)
    (hchunks : put_object_chunks backend io now_ms body max_chunk_bytes write_target (List.range' count more)
      progress = (.ok final, after)) :
    Covers backend now_ms datapane body max_chunk_bytes write_target (count + more) final ∧ after = final.datapane := by
  induction more generalizing count progress with
  | zero =>
    cases hchunks
    exact ⟨hcovers, rfl⟩
  | succ more ih =>
    unfold put_object_chunks at hchunks
    simp only [window_chunk_take] at hchunks
    obtain ⟨_, hchunks⟩ := guard_passed hchunks
    split at hchunks
    · cases hchunks
    · rename_i placements advanced hpublish
      obtain ⟨_, hchunks⟩ := guard_passed hchunks
      have hstep := ih (hcovers.step (by omega) hpublish) (by omega) hchunks
      rw [Nat.add_assoc, Nat.add_comm 1] at hstep
      exact hstep

end chunks

section runs

/-- What registration keeps: every store has its own node id and its slot. -/
structure Datapane.WellFormed (datapane : Datapane) : Prop where
  slots : datapane.stores.length ≤ MAX_STORES
  distinct : (datapane.stores.map Store.node_id).Nodup

theorem Datapane.WellFormed.of_after {datapane after : Datapane} (hformed : datapane.WellFormed)
    (hafter : ∃ sequence, after = { datapane with request_seq := sequence }) : after.WellFormed := by
  obtain ⟨sequence, rfl⟩ := hafter
  exact ⟨hformed.slots, hformed.distinct⟩

theorem add_store_wellFormed {datapane : Datapane} (hformed : datapane.WellFormed) (store : Store) (connected : Result) :
    (add_store datapane store connected).2.WellFormed := by
  unfold add_store
  split
  · exact hformed
  split
  · exact hformed
  split
  · exact hformed
  · rename_i hfresh hfull _
    refine ⟨?_, ?_⟩
    · rw [List.length_append]
      exact Nat.lt_of_not_le hfull
    · rw [List.map_append, List.nodup_append']
      refine ⟨hformed.distinct, List.nodup_singleton _, ?_⟩
      simpa using hfresh

theorem wellFormed_after {plane : Plane} (hformed : plane.datapane.WellFormed) (event : Event) :
    (event.after plane).datapane.WellFormed := by
  cases event with
  | register_store store_node_id public_key =>
    simp only [Event.after, register_store_v1]
    split
    · exact hformed
    · exact add_store_wellFormed hformed _ _
  | attach_mesh io private_key =>
    simp only [Event.after, attach_mesh_v1]
    split_ifs
    · exact hformed
    · exact hformed
    · exact ⟨Nat.zero_le _, List.nodup_nil⟩
    · exact hformed
  | register_mesh_store io store_node_id public_key host port =>
    simp only [Event.after, register_mesh_store_v1]
    split
    · exact hformed
    · exact add_store_wellFormed hformed _ _
  | put_chunk backend store_index cid bytes now_ms =>
    exact hformed.of_after (put_chunk_v1_after backend plane.datapane store_index cid bytes now_ms)
  | put_object backend io now_ms body max_chunk_bytes =>
    exact hformed.of_after (put_object_v1_after backend io now_ms plane.datapane body max_chunk_bytes)
  | read_chunk backend manifest chunk_index cid chunk_offset length now_ms =>
    exact hformed.of_after
      (read_chunk_v1_after backend plane.datapane manifest chunk_index cid chunk_offset length now_ms)

theorem reached_wellFormed {tenant_id : Bytes 32} {target_replicas min_durable_replicas : Nat} {policy : Policy}
    {start : Datapane} (hinit : init_v1 tenant_id target_replicas min_durable_replicas policy = .ok start)
    (events : List Event) : (reached start events).WellFormed := by
  obtain ⟨_, hinit⟩ := guard_passed hinit
  cases hinit
  refine Machine.run_invariant (P := fun plane : Plane => plane.datapane.WellFormed) ?_
    (fun plane event hformed => wellFormed_after hformed event) events
  exact ⟨Nat.zero_le _, List.nodup_nil⟩

end runs

section manifest

variable {backend : Backend} {io : ObjectIo} {now_ms : UInt64} {datapane after : Datapane} {body : File}
  {max_chunk_bytes size : UInt64} {bytes : List UInt8}

theorem put_object_v1_ok
    (hput : put_object_v1 backend io now_ms datapane body max_chunk_bytes = (.ok (bytes, size), after)) :
    max_chunk_bytes ≠ 0 ∧ chunk_count body max_chunk_bytes ≤ MAX_CHUNKS ∧ ∃ progress,
      Covers backend now_ms datapane body max_chunk_bytes (write_target datapane) (chunk_count body max_chunk_bytes)
        progress ∧
      encode_object backend io (chunk_count body max_chunk_bytes * write_target datapane % 2 ^ 64) progress =
        .ok (bytes, size) := by
  obtain ⟨hinvalid, hput⟩ := guard_passed hput
  obtain ⟨hcount, hput⟩ := guard_passed hput
  obtain ⟨_, hput⟩ := guard_passed hput
  obtain ⟨_, hput⟩ := guard_passed hput
  rw [not_or] at hinvalid hcount
  have hcount := Nat.not_lt.mp hcount.1
  refine ⟨hinvalid.2, hcount, ?_⟩
  split at hput
  · cases hput
  · rename_i progress advanced hchunks
    refine ⟨progress, ?_, (Prod.mk.inj hput).1⟩
    have hstart : Covers backend now_ms datapane body max_chunk_bytes (write_target datapane) 0
        { datapane := datapane, chunks := [], placements := [], total := 0, hashed := [] } :=
      ⟨⟨datapane.request_seq, rfl⟩, rfl, by simp, by simp, by simp⟩
    rw [List.range_eq_range'] at hchunks
    have hsmall : 0 + chunk_count body max_chunk_bytes < 2 ^ 32 := by
      have hmax : MAX_CHUNKS < 2 ^ 32 := by decide
      omega
    obtain ⟨hcovers, _⟩ := put_object_chunks_covers hstart hsmall hchunks
    rwa [Nat.zero_add] at hcovers

theorem encode_object_ok {max_placements : Nat} {progress : ObjectProgress}
    (hencode : encode_object backend io max_placements progress = .ok (bytes, size)) :
    size = progress.total ∧ ∃ manifest : ManifestV2, manifest.object_cid.size = progress.total ∧
      manifest.chunks = progress.chunks ∧ manifest.placements = progress.placements ∧
      encode_v2 backend.sha256 manifest MAX_OBJECT_BYTES MAX_CHUNKS max_placements = .ok bytes := by
  obtain ⟨_, hencode⟩ := guard_passed hencode
  dsimp only at hencode
  split at hencode
  · cases hencode
  · rename_i hmanifest
    obtain ⟨_, hencode⟩ := guard_passed hencode
    cases hencode
    exact ⟨rfl, _, rfl, rfl, rfl, hmanifest⟩

theorem write_target_le (datapane : Datapane) :
    write_target datapane ≤ datapane.target_replicas ∧ write_target datapane ≤ datapane.stores.length := by
  unfold write_target
  split <;> omega

end manifest

/-- Whatever the stores answer: the manifest of an object that was published has
chunks that follow each other over the whole body, each with its size and
digest, and every chunk has between `min_durable_replicas` and
`target_replicas` placements on different stores, each backed by a receipt
that verified for the chunk and the store. -/
theorem put_object_published {tenant_id : Bytes 32} {target_replicas min_durable_replicas : Nat} {policy : Policy}
    {start : Datapane} (hinit : init_v1 tenant_id target_replicas min_durable_replicas policy = .ok start)
    (events : List Event) {backend : Backend} {io : ObjectIo} {now_ms : UInt64} {after : Datapane} {body : File}
    {max_chunk_bytes size : UInt64} {bytes : List UInt8}
    (hput : put_object_v1 backend io now_ms (reached start events) body max_chunk_bytes = (.ok (bytes, size), after)) :
    ∃ (manifest : ManifestV2) (pieces : List File),
      (∀ max_placements, manifest.placements.length ≤ max_placements →
        decode_v2 backend.sha256 bytes MAX_OBJECT_BYTES MAX_CHUNKS max_placements = .ok manifest) ∧
      size = body.size ∧ manifest.object_cid.size = body.size ∧
      (pieces.map Subtype.val).flatten = body.val ∧
      (∀ piece ∈ pieces, 0 < piece.val.length ∧ piece.val.length ≤ max_chunk_bytes.toNat) ∧
      List.Forall₂ (fun (cid : ChunkCid) (piece : File) => cid.hash_algorithm = HASH_ALGORITHM_SHA256 ∧
        cid.size.toNat = piece.val.length ∧ cid.digest = backend.sha256 piece.val) manifest.chunks pieces ∧
      (∀ placement ∈ manifest.placements, placement.chunk_index.toNat < manifest.chunks.length) ∧
      ((reached start events).stores.map Store.node_id).Nodup ∧
      ∀ i cid piece, manifest.chunks[i]? = some cid → pieces[i]? = some piece →
        let placements := manifest.placements.filter fun placement => placement.chunk_index.toNat = i
        (placements.map Placement.store_node_id).Nodup ∧
          (reached start events).min_durable_replicas ≤ placements.length ∧
          placements.length ≤ (reached start events).target_replicas ∧
          ∀ placement ∈ placements, Backed backend (reached start events) now_ms cid piece.val placement := by
  have hformed := reached_wellFormed hinit events
  generalize reached start events = datapane at *
  obtain ⟨hmax, hcount, progress, hcovers, hencode⟩ := put_object_v1_ok hput
  obtain ⟨hsize, manifest, hobject, hchunks, hplacements, hencode⟩ := encode_object_ok hencode
  obtain ⟨hvalid, _, _⟩ := m3_object_manifest.encode_v2_ok hencode
  obtain ⟨_, _, hlimit, hindices, hkeys⟩ := m3_object_manifest.validate_v2_ok_iff.mp hvalid
  have hperm := m3_object_manifest.sort_placements_perm manifest.placements
  have hsmall : manifest.placements.length ≤ 0xffffffff := by
    have hproduct := Nat.mul_le_mul hcount ((write_target_le datapane).2.trans hformed.slots)
    have hmaximum : MAX_CHUNKS * MAX_STORES ≤ 0xffffffff := by decide
    omega
  have hpositive : 0 < max_chunk_bytes.toNat := Nat.pos_of_ne_zero fun hzero => hmax (UInt64.toNat_inj.mp hzero)
  have htotal : progress.total = body.size := by
    have hcover : body.val.length ≤ chunk_count body max_chunk_bytes * max_chunk_bytes.toNat :=
      (Window.count_spec hpositive body.val).1
    rw [hcovers.total, Nat.min_eq_right hcover]
    rfl
  have hcids : manifest.chunks = (body.pieces max_chunk_bytes.toNat).map (cid_calculate_v1 backend.sha256) := by
    rw [hchunks, hcovers.chunks, File.pieces, List.map_map]
    rfl
  refine ⟨{ manifest with placements := m3_object_manifest.sort_placements manifest.placements },
    body.pieces max_chunk_bytes.toNat, ?_, hsize.trans htotal, hobject.trans htotal, File.flatten_pieces hpositive body,
    fun piece hpiece => File.length_pieces hpositive hpiece, ?_, ?_, hformed.distinct, ?_⟩
  · intro max_placements hroom
    exact m3_object_manifest.decode_encode_v2
      (m3_object_manifest.encode_v2_limit hencode (hperm.length_eq ▸ hroom)) hsmall
  · rw [hcids, List.forall₂_map_left_iff, List.forall₂_same]
    exact fun piece _ => ⟨rfl, piece.size_toNat, rfl⟩
  · intro placement hmem
    exact (hindices placement (hperm.mem_iff.mp hmem)).chunk
  · intro i cid piece hcid hpiece
    have hfilter := hperm.filter fun placement => placement.chunk_index.toNat = i
    simp only [hcids, List.getElem?_map, hpiece, Option.map_some, Option.some.injEq] at hcid
    obtain ⟨hi, hpiece⟩ := List.getElem?_eq_some_iff.mp hpiece
    have hcount : i < Window.count max_chunk_bytes.toNat body.val := by
      simpa [File.pieces] using hi
    obtain rfl : object_chunk body max_chunk_bytes i = piece := by
      simpa [File.pieces, object_chunk] using hpiece
    have hplaced := hcovers.placed i hcount
    rw [← hplacements] at hplaced
    refine ⟨(hfilter.map _).nodup_iff.mpr (m3_object_manifest.nodup_stores hkeys i), ?_, ?_, ?_⟩
    · exact hfilter.length_eq ▸ hplaced.durable
    · exact hfilter.length_eq ▸ hplaced.target.trans (write_target_le datapane).1
    · intro placement hmem
      rw [← hcid]
      exact hplaced.backed placement (hfilter.mem_iff.mp hmem)

/-- A store that gives a receipt for every put. -/
def obliging_backend : Backend :=
  { sha256 := fun bytes => Codec.take_bytes 32 (1 :: bytes), ed25519_verify := fun _ _ _ => true
    store_put := fun _ claims _ _ =>
      some { store_node_id := claims.audience_node_id, cid := claims.cid, request_id := claims.request_id,
             issued_at_ms := claims.issued_at_ms, signature := Codec.take_bytes 64 [] }
    store_read := fun _ _ _ => none
    mesh_put := fun _ _ _ => none
    mesh_read := fun _ _ => none }

def unfailing_io : ObjectIo :=
  { allocated := true, sha256_init := true, cid_calculate := fun _ => true, receipt_digest := fun _ _ => true,
    sha256_update := fun _ => true, sha256_final := true, encode := true }

/-- Three bytes in chunks of two, with one store. -/
theorem three_bytes_published :
    ∃ start bytes size after manifest,
      init_v1 (Codec.take_bytes 32 [1]) 1 1 ⟨10, 10, 10⟩ = .ok start ∧
      put_object_v1 obliging_backend unfailing_io 5
        (reached start [.register_store (Codec.take_bytes 32 [7]) (Codec.take_bytes 32 [8])]) ⟨[1, 2, 3], by decide⟩ 2 =
          (.ok (bytes, size), after) ∧
      decode_v2 obliging_backend.sha256 bytes MAX_OBJECT_BYTES MAX_CHUNKS manifest.placements.length = .ok manifest ∧
      size = 3 := by
  let start : Datapane :=
    { stores := [], tenant_id := Codec.take_bytes 32 [1], target_replicas := 1, min_durable_replicas := 1,
      policy := ⟨10, 10, 10⟩, request_seq := 0 }
  have hinit : init_v1 (Codec.take_bytes 32 [1]) 1 1 ⟨10, 10, 10⟩ = .ok start := by decide +kernel
  let events : List Event := [.register_store (Codec.take_bytes 32 [7]) (Codec.take_bytes 32 [8])]
  have hsome : (put_object_v1 obliging_backend unfailing_io 5 (reached start events) ⟨[1, 2, 3], by decide⟩
      2).1.toOption.isSome = true := by decide +kernel
  rcases hput : put_object_v1 obliging_backend unfailing_io 5 (reached start events) ⟨[1, 2, 3], by decide⟩ 2 with
    ⟨outcome, after⟩
  rw [hput] at hsome
  cases outcome with
  | error result => cases hsome
  | ok published =>
    obtain ⟨bytes, size⟩ := published
    obtain ⟨manifest, _, hdecode, hsize, _⟩ := put_object_published hinit events hput
    exact ⟨start, bytes, size, after, manifest, hinit, hput, hdecode _ le_rfl, hsize⟩

end turbop2p.m3_gateway_datapane
