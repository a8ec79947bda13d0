import Mathlib.Data.List.Sort
import TurboP2P.Object.Manifest

open Codec

namespace turbop2p.m3_object_manifest

/-- A placement record: chunk index, reserved bytes, store, receipt digest and
a reserved tail. -/
def encode_placement (placement : Placement) : List UInt8 :=
  write_u32_be placement.chunk_index ++ (List.replicate 4 0 ++ (placement.store_node_id.toList ++
    (placement.receipt_digest.toList ++ List.replicate 8 0)))

/-- The order in which `qsort` arranges the placements. -/
def PlacementLe (left right : Placement) : Prop := placement_compare left right ≠ .gt

instance (left right : Placement) : Decidable (PlacementLe left right) :=
  inferInstanceAs (Decidable (placement_compare left right ≠ .gt))

/-- The call of `qsort`; which of two placements with one key comes first is
left open by the library, here it is the earlier one. -/
def sort_placements (placements : List Placement) : List Placement := placements.insertionSort PlacementLe

section codec

variable (sha256 : List UInt8 → Bytes 32)

/-- The version 2 bytes with the placements in the given order and a given
envelope digest. -/
def frame_v2 (manifest : ManifestV2) (digest : List UInt8) : List UInt8 :=
  MANIFEST_MAGIC_V2 ++ (write_u32_be VERSION_2 ++ (write_u32_be 128 ++ (write_u32_be 48 ++
    (write_u32_be (UInt32.ofNat manifest.chunks.length) ++ (write_u32_be 80 ++
    (write_u32_be (UInt32.ofNat manifest.placements.length) ++ (encode_cid manifest.object_cid ++
    (digest ++ (List.replicate 16 0 ++ (manifest.chunks.flatMap encode_cid ++
    manifest.placements.flatMap encode_placement))))))))))

/-- The frame with the digest of its own bytes. -/
def sealed_frame_v2 (manifest : ManifestV2) : List UInt8 :=
  frame_v2 manifest (envelope_digest_at sha256 (frame_v2 manifest (List.replicate 32 0)) 80).toList

def encode_v2 (manifest : ManifestV2) (max_object_bytes : UInt64) (max_chunks max_placements : Nat) :
    Except Result (List UInt8) :=
  if validate_v2 manifest max_object_bytes max_chunks max_placements ≠ .OK then
    .error (validate_v2 manifest max_object_bytes max_chunks max_placements)
  else if encoded_size_v2 manifest.chunks.length manifest.placements.length = 0 then .error .RESOURCE_EXHAUSTED
  else .ok (sealed_frame_v2 sha256 { manifest with placements := sort_placements manifest.placements })

end codec

section order

variable {left right : Placement}

theorem placement_compare_eq_lt :
    placement_compare left right = .lt ↔
      left.chunk_index < right.chunk_index ∨
        left.chunk_index = right.chunk_index ∧ left.store_node_id.toList < right.store_node_id.toList := by
  unfold placement_compare
  split_ifs <;> simp_all [UInt32.lt_irrefl]

theorem placement_compare_eq_gt : placement_compare left right = .gt ↔ placement_compare right left = .lt := by
  unfold placement_compare
  grind

theorem placement_compare_eq_eq : placement_compare left right = .eq ↔ left.key = right.key := by
  have hstore : left.store_node_id = right.store_node_id ↔
      ¬left.store_node_id.toList < right.store_node_id.toList ∧
        ¬right.store_node_id.toList < left.store_node_id.toList := by
    rw [← List.Vector.toList_injective.eq_iff, ← Std.le_antisymm_iff]
    simp [and_comm]
  unfold placement_compare Placement.key
  split_ifs <;> simp_all

theorem placementLe_iff : PlacementLe left right ↔ placement_compare left right = .lt ∨ left.key = right.key := by
  unfold PlacementLe
  rw [← placement_compare_eq_eq]
  cases placement_compare left right <;> simp

theorem placement_compare_lt_trans {middle : Placement} (hleft : placement_compare left middle = .lt)
    (hright : placement_compare middle right = .lt) : placement_compare left right = .lt := by
  rw [placement_compare_eq_lt] at hleft hright ⊢
  rcases hleft with hleft | ⟨hsame, hleft⟩ <;> rcases hright with hright | ⟨hsame', hright⟩
  · exact .inl (Std.lt_trans hleft hright)
  · exact .inl (hsame' ▸ hleft)
  · exact .inl (hsame ▸ hright)
  · exact .inr ⟨hsame.trans hsame', List.lt_trans hleft hright⟩

/-- Whether a placement comes before another depends on their keys only. -/
theorem placement_compare_congr {left' right' : Placement} (hleft : left.key = left'.key)
    (hright : right.key = right'.key) : placement_compare left right = placement_compare left' right' := by
  obtain ⟨hchunk, hstore⟩ := Prod.mk.inj hleft
  obtain ⟨hchunk', hstore'⟩ := Prod.mk.inj hright
  simp [placement_compare, hchunk, hstore, hchunk', hstore']

end order

instance : Std.Total PlacementLe where
  total left right := by
    unfold PlacementLe
    by_cases hgt : placement_compare left right = .gt
    · have hlt := placement_compare_eq_gt.mp hgt
      simp [hlt]
    · exact .inl hgt

instance : IsTrans Placement PlacementLe where
  trans left middle right hleft hright := by
    rw [placementLe_iff] at hleft hright ⊢
    rcases hleft with hleft | hleft <;> rcases hright with hright | hright
    · exact .inl (placement_compare_lt_trans hleft hright)
    · exact .inl (placement_compare_congr rfl hright.symm ▸ hleft)
    · exact .inl (placement_compare_congr hleft.symm rfl ▸ hright)
    · exact .inr (hleft.trans hright)

theorem sort_placements_perm (placements : List Placement) : (sort_placements placements).Perm placements :=
  List.perm_insertionSort PlacementLe placements

section

variable {first second : List Placement} (hperm : first.Perm second)

include hperm

theorem sorted_placements_unique (hnodup : (second.map Placement.key).Nodup) (hfirst : first.Pairwise PlacementLe)
    (hsecond : second.Pairwise PlacementLe) : first = second := by
  refine List.Perm.eq_of_pairwise (fun left right hleft hright hle hge => ?_) hfirst hsecond hperm
  have hkey : left.key = right.key := by
    rcases placementLe_iff.mp hle with hlt | hkey
    · exact absurd (placement_compare_eq_gt.mpr hlt) hge
    · exact hkey
  exact List.inj_on_of_nodup_map hnodup (hperm.mem_iff.mp hleft) hright hkey

theorem sort_placements_congr (hnodup : (second.map Placement.key).Nodup) :
    sort_placements first = sort_placements second := by
  have hperm' := ((sort_placements_perm first).trans hperm).trans (sort_placements_perm second).symm
  exact sorted_placements_unique hperm' (((sort_placements_perm second).map _).nodup_iff.mpr hnodup)
    (List.pairwise_insertionSort PlacementLe first) (List.pairwise_insertionSort PlacementLe second)

end

variable {placements : List Placement} {manifest : ManifestV2}

/-- The decoder's check of adjacent placements covers all pairs. -/
theorem placements_ordered_iff :
    placements_ordered placements = true ↔
      placements.Pairwise fun left right => placement_compare left right = .lt := by
  have htrans : IsTrans Placement fun left right => placement_compare left right = .lt :=
    ⟨fun _ _ _ => placement_compare_lt_trans⟩
  rw [← List.isChain_iff_pairwise]
  induction placements with
  | nil => simp [placements_ordered]
  | cons first rest ih =>
    cases rest with
    | nil => simp [placements_ordered]
    | cons second rest => simp [placements_ordered, ih]

theorem sort_placements_of_ordered (hordered : placements_ordered placements = true) :
    sort_placements placements = placements := by
  have hpairwise := placements_ordered_iff.mp hordered
  exact (hpairwise.imp fun hlt => placementLe_iff.mpr (.inl hlt)).insertionSort_eq

/-- Sorting placements with distinct keys satisfies the decoder. -/
theorem placements_ordered_sort (hnodup : (placements.map Placement.key).Nodup) :
    placements_ordered (sort_placements placements) = true := by
  have hnodup' := ((sort_placements_perm placements).map Placement.key).nodup_iff.mpr hnodup
  rw [placements_ordered_iff]
  refine (List.pairwise_insertionSort PlacementLe placements).imp₂ ?_ (List.pairwise_map.mp hnodup')
  exact fun left right hle hne => (placementLe_iff.mp hle).resolve_right hne

@[simp] theorem length_encode_placement (placement : Placement) :
    (encode_placement placement).length = V2_PLACEMENT_RECORD_SIZE := by
  simp [encode_placement, V2_PLACEMENT_RECORD_SIZE]

theorem decode_encode_placement (placement : Placement) (rest : List UInt8) :
    decode_placement (encode_placement placement ++ rest) = placement := by
  simp [decode_placement, encode_placement, drop_append_field]

theorem encode_placement_reserved (placement : Placement) (rest : List UInt8) :
    (zero_at (encode_placement placement ++ rest) 4 4 && zero_at (encode_placement placement ++ rest) 72 8) = true := by
  simp [zero_at, encode_placement, drop_append_field, Bytes.is_zero]

theorem placements_reserved_zero_encode (placements : List Placement) (rest : List UInt8) :
    placements_reserved_zero placements.length (placements.flatMap encode_placement ++ rest) = true := by
  have hrecords : records V2_PLACEMENT_RECORD_SIZE (fun record => zero_at record 4 4 && zero_at record 72 8)
      placements.length (placements.flatMap encode_placement ++ rest) = placements.map fun _ => true :=
    records_flatMap _ (fun placement _ => length_encode_placement placement)
      (fun placement _ => encode_placement_reserved placement) rest
  rw [placements_reserved_zero, hrecords]
  simp

section frame_v2

variable (manifest : ManifestV2) (digest : Bytes 32)

/-- Everything in front of the digest field. -/
def header_v2 : List UInt8 :=
  MANIFEST_MAGIC_V2 ++ (write_u32_be VERSION_2 ++ (write_u32_be 128 ++ (write_u32_be 48 ++
    (write_u32_be (UInt32.ofNat manifest.chunks.length) ++ (write_u32_be 80 ++
    (write_u32_be (UInt32.ofNat manifest.placements.length) ++ encode_cid manifest.object_cid))))))

/-- Everything behind the digest field. -/
def body_v2 : List UInt8 :=
  List.replicate 16 0 ++ (manifest.chunks.flatMap encode_cid ++ manifest.placements.flatMap encode_placement)

theorem frame_v2_eq (field : List UInt8) :
    frame_v2 manifest field = header_v2 manifest ++ (field ++ body_v2 manifest) := by
  simp [frame_v2, header_v2, body_v2]

@[simp] theorem length_header_v2 : (header_v2 manifest).length = 80 := by
  simp [header_v2, MANIFEST_MAGIC_V2, MANIFEST_RECORD_SIZE]

theorem length_frame_v2 :
    (frame_v2 manifest digest.toList).length =
      V2_HEADER_SIZE + manifest.chunks.length * MANIFEST_RECORD_SIZE +
        manifest.placements.length * V2_PLACEMENT_RECORD_SIZE := by
  rw [frame_v2_eq, List.length_append, List.length_append, body_v2, List.length_append, List.length_append,
    length_flatMap_records encode_cid manifest.chunks (fun cid _ => length_encode_cid cid),
    length_flatMap_records encode_placement manifest.placements (fun placement _ => length_encode_placement placement)]
  simp [V2_HEADER_SIZE]
  omega

theorem envelope_digest_frame_v2 (sha256 : List UInt8 → Bytes 32) :
    envelope_digest_at sha256 (frame_v2 manifest digest.toList) 80 =
      envelope_digest_at sha256 (frame_v2 manifest (List.replicate 32 0)) 80 := by
  simp [envelope_digest_at, frame_v2_eq, drop_append_field]

/-- The fields of a frame as the decoder finds them. -/
theorem frame_v2_fields :
    let bytes := frame_v2 manifest digest.toList
    bytes.take 8 = MANIFEST_MAGIC_V2 ∧ read_u32_be (bytes.drop 8) = VERSION_2 ∧
      read_u32_be (bytes.drop 12) = 128 ∧ read_u32_be (bytes.drop 16) = 48 ∧
      read_u32_be (bytes.drop 20) = UInt32.ofNat manifest.chunks.length ∧ read_u32_be (bytes.drop 24) = 80 ∧
      read_u32_be (bytes.drop 28) = UInt32.ofNat manifest.placements.length ∧
      bytes.drop 32 = encode_cid manifest.object_cid ++ (digest.toList ++ body_v2 manifest) ∧
      bytes.drop 80 = digest.toList ++ body_v2 manifest ∧
      bytes.drop 112 = body_v2 manifest ∧
      bytes.drop V2_HEADER_SIZE =
        manifest.chunks.flatMap encode_cid ++ manifest.placements.flatMap encode_placement := by
  simp [frame_v2, body_v2, MANIFEST_MAGIC_V2, V2_HEADER_SIZE, MANIFEST_RECORD_SIZE, drop_append_field]

theorem placement_segment_frame_v2 (hcount : manifest.chunks.length ≤ 0xffffffff) :
    placement_segment (frame_v2 manifest digest.toList) = manifest.placements.flatMap encode_placement := by
  obtain ⟨_, _, _, _, hchunks, _, _, _, _, _, hrecords⟩ := frame_v2_fields manifest digest
  have hlength := UInt32.toNat_ofNat_of_lt' (Nat.lt_succ_of_le hcount)
  rw [placement_segment, hchunks, hlength, ← List.drop_drop, hrecords]
  exact List.drop_left' (length_flatMap_records encode_cid manifest.chunks fun cid _ => length_encode_cid cid)

end frame_v2

variable {digest : Bytes 32} {record : List UInt8} {count : Nat}

/-- Reading the fields of a frame gives the manifest back, if the number of
placements fits its field. -/
theorem of_frame_frame_v2 (hversion : manifest.version = VERSION_2) (hcount : manifest.chunks.length ≤ 0xffffffff)
    (hplacements : manifest.placements.length ≤ 0xffffffff) :
    ManifestV2.of_frame (frame_v2 manifest digest.toList) = manifest := by
  obtain ⟨_, _, _, _, h20, _, h28, hobject, _, _, hrecords⟩ := frame_v2_fields manifest digest
  have hlength := UInt32.toNat_ofNat_of_lt' (Nat.lt_succ_of_le hcount)
  have hlength' := UInt32.toNat_ofNat_of_lt' (Nat.lt_succ_of_le hplacements)
  have hread := records_flatMap id (fun cid _ => length_encode_cid cid)
    (fun (cid : ChunkCid) (_ : cid ∈ manifest.chunks) => decode_encode_cid cid)
    (manifest.placements.flatMap encode_placement)
  have hread' := records_flatMap id (fun placement _ => length_encode_placement placement)
    (fun (placement : Placement) (_ : placement ∈ manifest.placements) => decode_encode_placement placement) []
  rw [List.append_nil] at hread'
  simp only [ManifestV2.of_frame, h20, h28, hobject, hrecords, hlength, hlength', hread,
    placement_segment_frame_v2 manifest digest hcount, hread', decode_encode_cid, List.map_id]
  rw [← hversion]

/-- The size of a version 2 encoding that does not overflow. -/
theorem encoded_size_v2_eq {chunk_count placement_count : Nat} (hsize : encoded_size_v2 chunk_count placement_count ≠ 0) :
    encoded_size_v2 chunk_count placement_count =
      V2_HEADER_SIZE + chunk_count * MANIFEST_RECORD_SIZE + placement_count * V2_PLACEMENT_RECORD_SIZE := by
  obtain ⟨_, hrest⟩ := guard_passed rfl (Ne.symm hsize)
  obtain ⟨_, htotal⟩ := guard_passed hrest (Ne.symm hsize)
  exact htotal.symm

/-- A frame of a valid manifest with ordered placements and the right envelope
digest is decoded. -/
theorem decode_frame_v2 {sha256 : List UInt8 → Bytes 32} {max_object_bytes : UInt64} {max_chunks max_placements : Nat}
    (hvalid : validate_v2 manifest max_object_bytes max_chunks max_placements = .OK)
    (hsize : encoded_size_v2 manifest.chunks.length manifest.placements.length ≠ 0)
    (hplacements : manifest.placements.length ≤ 0xffffffff) (hordered : placements_ordered manifest.placements = true)
    (hdigest : envelope_digest_at sha256 (frame_v2 manifest digest.toList) 80 = digest) :
    decode_v2 sha256 (frame_v2 manifest digest.toList) max_object_bytes max_chunks max_placements = .ok manifest := by
  obtain ⟨hversion, hcontent, hlimit, _, _⟩ := validate_v2_ok_iff.mp hvalid
  simp only [content_valid, decide_eq_true_eq] at hcontent
  obtain ⟨_, hobject, _, hmax, hchunks, hcount, _⟩ := hcontent
  obtain ⟨hmagic, h8, h12, h16, h20, h24, h28, h32, h80, h112, hrecords⟩ := frame_v2_fields manifest digest
  have hlength := length_frame_v2 manifest digest
  have hencoded := encoded_size_v2_eq hsize
  have hnumber := UInt32.toNat_ofNat_of_lt' (Nat.lt_succ_of_le hcount)
  have hnumber' := UInt32.toNat_ofNat_of_lt' (Nat.lt_succ_of_le hplacements)
  have hreserved : zero_at (frame_v2 manifest digest.toList) 33 7 = true := by
    have hzero := encode_cid_reserved manifest.object_cid (digest.toList ++ body_v2 manifest)
    rw [← h32] at hzero
    simpa [zero_at] using hzero
  have htail : zero_at (frame_v2 manifest digest.toList) 112 16 = true := by
    simp [zero_at, h112, body_v2, Bytes.is_zero]
  have hchunk_records := records_reserved_zero_encode manifest.chunks (manifest.placements.flatMap encode_placement)
  have hplacement_records := placements_reserved_zero_encode manifest.placements []
  rw [List.append_nil] at hplacement_records
  have hlong : V2_HEADER_SIZE ≤ (frame_v2 manifest digest.toList).length := by omega
  have hplaced : decode_placed sha256 (frame_v2 manifest digest.toList) max_object_bytes max_chunks max_placements =
      .ok manifest := by
    simp only [decode_placed, hmagic, h8, h12, h16, h20, h24, h28, h80, hrecords, hnumber, hnumber', hlength, hencoded,
      hreserved, htail, hchunk_records, placement_segment_frame_v2 manifest digest hcount, hplacement_records, hdigest,
      of_frame_frame_v2 hversion hcount hplacements, hordered, hvalid, take_bytes_append]
    simp [V2_HEADER_SIZE, hchunks, hlimit, Nat.add_assoc]
  rw [decode_v2, if_neg, h8, if_neg (by decide), hplaced]
  simp only [hobject, hmax, or_false, MANIFEST_HEADER_SIZE]
  simp only [V2_HEADER_SIZE] at hlong
  omega

theorem zero_at_eq {bytes : List UInt8} {offset size : Nat} (hzero : zero_at bytes offset size = true)
    (hlength : offset + size ≤ bytes.length) : (bytes.drop offset).take size = List.replicate size 0 := by
  refine List.eq_replicate_iff.mpr ⟨?_, Bytes.is_zero_iff.mp hzero⟩
  rw [List.length_take, List.length_drop]
  omega

/-- A chunk record with clear reserved bytes is the encoding of what is read
from it. -/
theorem encode_decode_cid (hlength : MANIFEST_RECORD_SIZE ≤ record.length) (hzero : zero_at record 1 7 = true) :
    encode_cid (decode_cid record) = record.take MANIFEST_RECORD_SIZE := by
  simp only [MANIFEST_RECORD_SIZE] at hlength ⊢
  have halgorithm : [record.getD 0 0] = record.take 1 := by
    cases record with
    | nil => simp at hlength
    | cons b rest => simp
  have hsize : write_u64_be (read_u64_be (record.drop 8)) = (record.drop 8).take 8 := write_field_u64 (by omega)
  have hdigest : (take_bytes 32 (record.drop 16)).toList = (record.drop 16).take 32 := toList_field (by omega)
  have hsplit : record.take 48 = record.take 1 ++ (record.drop 1).take 7 ++
      ((record.drop 8).take 8 ++ (record.drop 16).take 32) := by
    rw [show 48 = 1 + 7 + (8 + 32) from rfl, List.take_add, List.take_add, List.take_add, List.drop_drop]
  rw [encode_cid, decode_cid, hsize, hdigest, halgorithm, hsplit, zero_at_eq hzero (by omega)]

theorem encode_decode_placement (hlength : V2_PLACEMENT_RECORD_SIZE ≤ record.length)
    (hzero : zero_at record 4 4 = true) (htail : zero_at record 72 8 = true) :
    encode_placement (decode_placement record) = record.take V2_PLACEMENT_RECORD_SIZE := by
  simp only [V2_PLACEMENT_RECORD_SIZE] at hlength ⊢
  have hindex : write_u32_be (read_u32_be record) = record.take 4 := write_read_u32_be (by omega)
  have hstore : (take_bytes 32 (record.drop 8)).toList = (record.drop 8).take 32 := toList_field (by omega)
  have hreceipt : (take_bytes 32 (record.drop 40)).toList = (record.drop 40).take 32 := toList_field (by omega)
  have hsplit : record.take 80 = record.take 4 ++ ((record.drop 4).take 4 ++ ((record.drop 8).take 32 ++
      ((record.drop 40).take 32 ++ (record.drop 72).take 8))) := by
    rw [show 80 = 4 + (4 + (32 + (32 + 8))) from rfl, List.take_add, List.take_add, List.take_add, List.take_add]
    simp
  rw [encode_placement, decode_placement, hindex, hstore, hreceipt, hsplit, zero_at_eq hzero (by omega),
    zero_at_eq htail (by omega)]

/-- The records of a segment that the decoder has checked are encoded back to
its bytes. -/
theorem flatMap_encode_cid {bytes : List UInt8} (hlength : count * MANIFEST_RECORD_SIZE ≤ bytes.length)
    (hzero : records_reserved_zero count bytes = true) :
    (records MANIFEST_RECORD_SIZE decode_cid count bytes).flatMap encode_cid =
      bytes.take (count * MANIFEST_RECORD_SIZE) := by
  refine flatMap_records count hlength fun i hi hrecord => encode_decode_cid hrecord ?_
  simp only [records_reserved_zero, records, List.all_map, List.all_eq_true, List.mem_range] at hzero
  exact hzero i hi

theorem flatMap_encode_placement {bytes : List UInt8} (hlength : count * V2_PLACEMENT_RECORD_SIZE ≤ bytes.length)
    (hzero : placements_reserved_zero count bytes = true) :
    (records V2_PLACEMENT_RECORD_SIZE decode_placement count bytes).flatMap encode_placement =
      bytes.take (count * V2_PLACEMENT_RECORD_SIZE) := by
  refine flatMap_records count hlength fun i hi hrecord => ?_
  simp only [placements_reserved_zero, records, List.all_map, List.all_eq_true, List.mem_range] at hzero
  have hreserved := hzero i hi
  simp only [Function.comp_apply, id_eq, Bool.and_eq_true] at hreserved
  exact encode_decode_placement hrecord hreserved.1 hreserved.2

theorem length_of_frame_chunks (bytes : List UInt8) :
    (ManifestV2.of_frame bytes).chunks.length = (read_u32_be (bytes.drop 20)).toNat := by
  simp [ManifestV2.of_frame, records]

theorem length_of_frame_placements (bytes : List UInt8) :
    (ManifestV2.of_frame bytes).placements.length = (read_u32_be (bytes.drop 28)).toNat := by
  simp [ManifestV2.of_frame, records]

section accepted

variable {sha256 : List UInt8 → Bytes 32} {bytes : List UInt8} {max_object_bytes : UInt64}
  {max_chunks max_placements : Nat}
  (haccepted : AcceptedFrameV2 sha256 bytes max_object_bytes max_chunks max_placements)

include haccepted

theorem AcceptedFrameV2.length_eq :
    bytes.length = V2_HEADER_SIZE + (read_u32_be (bytes.drop 20)).toNat * MANIFEST_RECORD_SIZE +
      (read_u32_be (bytes.drop 28)).toNat * V2_PLACEMENT_RECORD_SIZE :=
  haccepted.length.trans (encoded_size_v2_eq haccepted.size)

theorem AcceptedFrameV2.records_eq :
    (ManifestV2.of_frame bytes).chunks.flatMap encode_cid ++
        (ManifestV2.of_frame bytes).placements.flatMap encode_placement = bytes.drop V2_HEADER_SIZE := by
  have hlength := haccepted.length_eq
  have hchunks := flatMap_encode_cid (by rw [List.length_drop]; omega) haccepted.chunks
  have hplacements := flatMap_encode_placement (by rw [placement_segment, List.length_drop]; omega) haccepted.placements
  have hall : (placement_segment bytes).take ((read_u32_be (bytes.drop 28)).toNat * V2_PLACEMENT_RECORD_SIZE) =
      placement_segment bytes := by
    refine List.take_of_length_le ?_
    rw [placement_segment, List.length_drop]
    omega
  simp only [ManifestV2.of_frame, hchunks, hplacements, hall]
  rw [placement_segment, ← drop_eq_field]

theorem AcceptedFrameV2.frame_eq : frame_v2 (.of_frame bytes) (take_bytes 32 (bytes.drop 80)).toList = bytes := by
  have hlength := haccepted.length_eq
  simp only [V2_HEADER_SIZE] at hlength
  have hword : ∀ offset, offset ≤ 28 → write_u32_be (read_u32_be (bytes.drop offset)) = (bytes.drop offset).take 4 :=
    fun offset hoffset => write_field_u32 (by omega)
  have hobject : encode_cid (decode_cid (bytes.drop 32)) = (bytes.drop 32).take 48 := by
    refine encode_decode_cid (by rw [List.length_drop, MANIFEST_RECORD_SIZE]; omega) ?_
    simpa [zero_at] using haccepted.object_reserved
  have hdigest : (take_bytes 32 (bytes.drop 80)).toList = (bytes.drop 80).take 32 := toList_field (by omega)
  have hreserved := zero_at_eq haccepted.reserved (by omega)
  rw [frame_v2, length_of_frame_chunks, length_of_frame_placements, UInt32.ofNat_toNat, UInt32.ofNat_toNat,
    haccepted.records_eq, ← hreserved, ← haccepted.magic, ← haccepted.version, ← haccepted.header_size,
    ← haccepted.record_size, ← haccepted.placement_size, hword 8 (by omega), hword 12 (by omega),
    hword 16 (by omega), hword 20 (by omega), hword 24 (by omega), hword 28 (by omega), hdigest]
  change _ ++ (_ ++ (_ ++ (_ ++ (_ ++ (_ ++ (_ ++ (encode_cid (decode_cid (bytes.drop 32)) ++ _))))))) = bytes
  rw [hobject, V2_HEADER_SIZE, ← drop_eq_field bytes 112 16, ← drop_eq_field bytes 80 32,
    ← drop_eq_field bytes 32 48, ← drop_eq_field bytes 28 4, ← drop_eq_field bytes 24 4, ← drop_eq_field bytes 20 4,
    ← drop_eq_field bytes 16 4, ← drop_eq_field bytes 12 4, ← drop_eq_field bytes 8 4, List.take_append_drop]

theorem AcceptedFrameV2.encode_eq :
    encode_v2 sha256 (.of_frame bytes) max_object_bytes max_chunks max_placements = .ok bytes := by
  have hsize : encoded_size_v2 (ManifestV2.of_frame bytes).chunks.length (ManifestV2.of_frame bytes).placements.length
      ≠ 0 := by
    rw [length_of_frame_chunks, length_of_frame_placements]
    exact haccepted.size
  have hdigest := envelope_digest_frame_v2 (.of_frame bytes) (take_bytes 32 (bytes.drop 80)) sha256
  rw [haccepted.frame_eq, haccepted.digest] at hdigest
  have hseal : sealed_frame_v2 sha256 (.of_frame bytes) = bytes := by
    rw [sealed_frame_v2, ← hdigest, haccepted.frame_eq]
  rw [encode_v2, if_neg (not_not.mpr haccepted.valid), if_neg hsize,
    sort_placements_of_ordered haccepted.ordered, hseal]

end accepted

section canonical

variable {sha256 : List UInt8 → Bytes 32} {max_object_bytes : UInt64} {max_chunks max_placements : Nat}

variable {manifest decoded : ManifestV2} {larger : UInt64} {bytes : List UInt8}

section

variable (hencode : encode_v2 sha256 manifest max_object_bytes max_chunks max_placements = .ok bytes)

include hencode

theorem encode_v2_ok :
    validate_v2 manifest max_object_bytes max_chunks max_placements = .OK ∧
      encoded_size_v2 manifest.chunks.length manifest.placements.length ≠ 0 ∧
      bytes = sealed_frame_v2 sha256 { manifest with placements := sort_placements manifest.placements } := by
  obtain ⟨hvalid, hencode⟩ := guard_passed hencode
  obtain ⟨hsize, hencode⟩ := guard_passed hencode
  exact ⟨not_not.mp hvalid, hsize, (Except.ok.inj hencode).symm⟩

theorem encode_v2_limit {limit : Nat} (hlimit : manifest.placements.length ≤ limit) :
    encode_v2 sha256 manifest max_object_bytes max_chunks limit = .ok bytes := by
  obtain ⟨hvalid, hsize, rfl⟩ := encode_v2_ok hencode
  obtain ⟨hversion, hcontent, _, hplacements, hnodup⟩ := validate_v2_ok_iff.mp hvalid
  have hvalid : validate_v2 manifest max_object_bytes max_chunks limit = .OK :=
    validate_v2_ok_iff.mpr ⟨hversion, hcontent, hlimit, hplacements, hnodup⟩
  rw [encode_v2, if_neg (not_not.mpr hvalid), if_neg hsize]

end

theorem validate_v2_eq_invalid (hinvalid : validate_v2 manifest max_object_bytes max_chunks max_placements ≠ .OK) :
    validate_v2 manifest max_object_bytes max_chunks max_placements = .INVALID_ARG := by
  unfold validate_v2 at hinvalid ⊢
  split
  · rfl
  · rename_i hpassed
    exact absurd (if_neg hpassed) hinvalid

/-- Whether a manifest is valid does not depend on the order of its
placements. -/
theorem validate_v2_perm {placements : List Placement} (hperm : placements.Perm manifest.placements) :
    validate_v2 { manifest with placements := placements } max_object_bytes max_chunks max_placements =
      validate_v2 manifest max_object_bytes max_chunks max_placements := by
  have hiff : validate_v2 { manifest with placements := placements } max_object_bytes max_chunks max_placements = .OK ↔
      validate_v2 manifest max_object_bytes max_chunks max_placements = .OK := by
    simp [validate_v2_ok_iff, hperm.length_eq, hperm.mem_iff, (hperm.map Placement.key).nodup_iff]
  by_cases hvalid : validate_v2 manifest max_object_bytes max_chunks max_placements = .OK
  · rw [hvalid, hiff.mpr hvalid]
  · rw [validate_v2_eq_invalid hvalid, validate_v2_eq_invalid (mt hiff.mp hvalid)]

/-- An encoded manifest with countable placements is decoded to itself with
its placements sorted. -/
theorem decode_encode_v2
    (hencode : encode_v2 sha256 manifest max_object_bytes max_chunks max_placements = .ok bytes)
    (hplacements : manifest.placements.length ≤ 0xffffffff) :
    decode_v2 sha256 bytes max_object_bytes max_chunks max_placements =
      .ok { manifest with placements := sort_placements manifest.placements } := by
  obtain ⟨hvalid, hsize, rfl⟩ := encode_v2_ok hencode
  have hperm := sort_placements_perm manifest.placements
  have hnodup := (validate_v2_ok_iff.mp hvalid).2.2.2.2
  refine decode_frame_v2 ((validate_v2_perm hperm).trans hvalid) ?_ ?_ (placements_ordered_sort hnodup)
    (envelope_digest_frame_v2 _ _ sha256)
  · simpa [hperm.length_eq] using hsize
  · simpa [hperm.length_eq] using hplacements

section

variable (hlarger : max_object_bytes ≤ larger)

include hlarger

theorem content_valid_mono {object_cid : ChunkCid} {chunks : List ChunkCid}
    (hvalid : content_valid object_cid chunks max_object_bytes max_chunks = true) :
    larger ≠ 0 ∧ content_valid object_cid chunks larger max_chunks = true := by
  simp only [content_valid, decide_eq_true_eq] at hvalid ⊢
  obtain ⟨hcid, hzero, hsize, hrest⟩ := hvalid
  have hlarger' : larger ≠ 0 := by
    rintro rfl
    exact hzero (UInt64.le_zero_iff.mp hlarger)
  exact ⟨hlarger', hcid, hlarger', UInt64.le_trans hsize hlarger, hrest⟩

theorem decode_v1_mono {manifest : ManifestV1}
    (hdecode : decode_v1 sha256 bytes max_object_bytes max_chunks = .ok manifest) :
    decode_v1 sha256 bytes larger max_chunks = .ok manifest := by
  obtain ⟨_, hvalid, rfl⟩ := decode_v1_ok hdecode
  obtain ⟨hversion, hcontent⟩ := validate_v1_ok_iff.mp hvalid
  obtain ⟨hzero, _⟩ := content_valid_mono (UInt64.le_refl _) hcontent
  obtain ⟨hlarger', hcontent'⟩ := content_valid_mono hlarger hcontent
  have hvalid' := validate_v1_ok_iff.mpr ⟨hversion, hcontent'⟩
  simpa [decode_v1, hzero, hvalid, hlarger', hvalid'] using hdecode

theorem decode_placed_mono
    (hdecode : decode_placed sha256 bytes max_object_bytes max_chunks max_placements = .ok manifest) :
    decode_placed sha256 bytes larger max_chunks max_placements = .ok manifest := by
  obtain ⟨haccepted, _⟩ := decode_placed_ok hdecode
  obtain ⟨hversion, hcontent, hrest⟩ := validate_v2_ok_iff.mp haccepted.valid
  have hvalid' := validate_v2_ok_iff.mpr ⟨hversion, (content_valid_mono hlarger hcontent).2, hrest⟩
  simpa [decode_placed, haccepted.valid, hvalid'] using hdecode

/-- A decoder that admits larger objects decodes the same bytes to the same
manifests. -/
theorem decode_v2_mono (hdecode : decode_v2 sha256 bytes max_object_bytes max_chunks max_placements = .ok manifest) :
    decode_v2 sha256 bytes larger max_chunks max_placements = .ok manifest := by
  have hcontent := (validate_v2_ok_iff.mp (decode_v2_valid hdecode)).2.1
  unfold decode_v2 at hdecode ⊢
  obtain ⟨hargs, hdecode⟩ := guard_passed hdecode
  rw [not_or, not_or] at hargs
  rw [if_neg (by simp [hargs, (content_valid_mono hlarger hcontent).1])]
  by_cases hversion : read_u32_be (bytes.drop 8) = VERSION
  · rw [if_pos hversion] at hdecode ⊢
    obtain ⟨decoded, hdecoded, rfl⟩ := except_map_eq_ok.mp hdecode
    rw [decode_v1_mono hlarger hdecoded]
    rfl
  · rw [if_neg hversion] at hdecode ⊢
    exact decode_placed_mono hlarger hdecode

end

section

variable (hdecode : decode_v2 sha256 bytes max_object_bytes max_chunks max_placements = .ok decoded)

include hdecode

/-- Bytes that the version 2 decoder accepts are accepted by the version 1
decoder exactly if they are of version 1. -/
theorem decode_v1_of_decode_v2 :
    (∃ manifest, decode_v1 sha256 bytes max_object_bytes max_chunks = .ok manifest ∧
        manifest.object_cid = decoded.object_cid ∧ manifest.chunks = decoded.chunks) ↔
      read_u32_be (bytes.drop 8) = VERSION := by
  refine ⟨fun ⟨manifest, hmanifest, _⟩ => (decode_v1_ok hmanifest).1, fun hversion => ?_⟩
  obtain ⟨_, hdecode⟩ := guard_passed hdecode
  rw [if_pos hversion] at hdecode
  obtain ⟨manifest, hmanifest, rfl⟩ := except_map_eq_ok.mp hdecode
  exact ⟨manifest, hmanifest, rfl, rfl⟩

/-- The decoder never returns more placements than their number has room
for. -/
theorem decode_v2_placement_count : decoded.placements.length ≤ 0xffffffff := by
  obtain ⟨_, hdecode⟩ := guard_passed hdecode
  split at hdecode
  · obtain ⟨manifest, _, rfl⟩ := except_map_eq_ok.mp hdecode
    simp
  · obtain ⟨_, rfl⟩ := decode_placed_ok hdecode
    have hlt := (read_u32_be (bytes.drop 28)).toNat_lt
    rw [length_of_frame_placements]
    omega

end

/-- Both decoders agree on version 1. -/
theorem decode_v2_version_1 (hversion : read_u32_be (bytes.drop 8) = VERSION) :
    decode_v2 sha256 bytes max_object_bytes max_chunks max_placements = .ok decoded ↔
      ∃ manifest, decode_v1 sha256 bytes max_object_bytes max_chunks = .ok manifest ∧
        decoded =
          { version := VERSION_2, object_cid := manifest.object_cid, chunks := manifest.chunks, placements := [] } := by
  unfold decode_v2
  by_cases hguard : bytes.length < MANIFEST_HEADER_SIZE ∨ max_object_bytes = 0 ∨ max_chunks = 0
  · simp [hguard, decode_v1]
  · rw [if_neg hguard, if_pos hversion, except_map_eq_ok]
    simp [eq_comm]

/-- Decoding what the encoder wrote returns the manifest exactly if the number
of placements fits its 32-bit field, which the encoder does not check. The
order of the placements is immaterial, accepted version 2 bytes are
canonical, and both decoders agree on version 1. -/
theorem manifest_v2_canonical (sha256 : List UInt8 → Bytes 32) (max_object_bytes : UInt64)
    (max_chunks max_placements : Nat) :
    (∀ manifest bytes, encode_v2 sha256 manifest max_object_bytes max_chunks max_placements = .ok bytes →
      ((∃ decoded, decode_v2 sha256 bytes max_object_bytes max_chunks max_placements = .ok decoded ∧
          decoded.object_cid = manifest.object_cid ∧ decoded.chunks = manifest.chunks ∧
          decoded.placements.Perm manifest.placements) ↔
        manifest.placements.length ≤ 0xffffffff)) ∧
      (∀ manifest placements, placements.Perm manifest.placements →
        encode_v2 sha256 { manifest with placements := placements } max_object_bytes max_chunks max_placements =
          encode_v2 sha256 manifest max_object_bytes max_chunks max_placements) ∧
      (∀ bytes decoded, read_u32_be (bytes.drop 8) = VERSION_2 →
        decode_v2 sha256 bytes max_object_bytes max_chunks max_placements = .ok decoded →
        encode_v2 sha256 decoded max_object_bytes max_chunks max_placements = .ok bytes) ∧
      ∀ bytes decoded, read_u32_be (bytes.drop 8) = VERSION →
        (decode_v2 sha256 bytes max_object_bytes max_chunks max_placements = .ok decoded ↔
          ∃ manifest, decode_v1 sha256 bytes max_object_bytes max_chunks = .ok manifest ∧
            decoded =
              { version := VERSION_2, object_cid := manifest.object_cid, chunks := manifest.chunks
                placements := [] }) := by
  refine ⟨fun manifest bytes hencode => ⟨?_, fun hplacements => ?_⟩, fun manifest placements hperm => ?_,
    fun bytes decoded hversion hdecode => ?_, fun bytes decoded hversion => ?_⟩
  · rintro ⟨decoded, hdecode, _, _, hperm⟩
    exact hperm.length_eq ▸ decode_v2_placement_count hdecode
  · exact ⟨_, decode_encode_v2 hencode hplacements, rfl, rfl, sort_placements_perm manifest.placements⟩
  · by_cases hvalid : validate_v2 manifest max_object_bytes max_chunks max_placements = .OK
    · have hnodup := (validate_v2_ok_iff.mp hvalid).2.2.2.2
      simp [encode_v2, validate_v2_perm hperm, hperm.length_eq, sort_placements_congr hperm hnodup]
    · simp [encode_v2, validate_v2_perm hperm, hvalid]
  · obtain ⟨_, hdecode⟩ := guard_passed hdecode
    rw [hversion, if_neg (by decide)] at hdecode
    obtain ⟨haccepted, rfl⟩ := decode_placed_ok hdecode
    exact haccepted.encode_eq
  · exact decode_v2_version_1 hversion

end canonical

section many_placements

/-- The placement of the only chunk of an object on its store number `i`. -/
def spread_placement (i : Nat) : Placement :=
  { chunk_index := 0, store_node_id := take_bytes 32 (be 32 (i + 1)), receipt_digest := List.Vector.replicate 32 1 }

/-- An object of one chunk that is placed on `count` stores. -/
def spread_object (count : Nat) : ManifestV2 :=
  { version := VERSION_2
    object_cid :=
      { hash_algorithm := HASH_ALGORITHM_SHA256, size := 1, digest := List.Vector.replicate 32 1 }
    chunks :=
      [{ hash_algorithm := HASH_ALGORITHM_SHA256, size := 1, digest := List.Vector.replicate 32 1 }]
    placements := (List.range count).map spread_placement }

theorem toList_store_node_id (i : Nat) : (spread_placement i).store_node_id.toList = be 32 (i + 1) := by
  have hall : (be 32 (i + 1)).take 32 = be 32 (i + 1) := List.take_of_length_le (by simp)
  exact (toList_take_bytes (by simp)).trans hall

/-- Different numbers name different stores, none of which is zero. -/
theorem be_value_store_node_id {i : Nat} (hi : i < 256 ^ 32 - 1) :
    be_value (spread_placement i).store_node_id.toList = i + 1 := by
  rw [toList_store_node_id, be_value_be, Nat.mod_eq_of_lt (by omega)]

theorem spread_object_valid {count : Nat} (hcount : count < 256 ^ 32) :
    validate_v2 (spread_object count) 1 1 count = .OK := by
  refine validate_v2_ok_iff.mpr ⟨rfl, show content_valid _ _ 1 1 = true from by rfl, by simp [spread_object], ?_, ?_⟩
  · intro placement hplacement
    obtain ⟨i, hi, rfl⟩ := List.mem_map.mp hplacement
    rw [List.mem_range] at hi
    refine ⟨Nat.one_pos, ?_, show Bytes.is_zero (List.Vector.replicate 32 1).toList = false by rfl⟩
    by_contra hzero
    have hall := Bytes.is_zero_toList_iff.mp (by simpa using hzero)
    have hvalue := be_value_store_node_id (show i < 256 ^ 32 - 1 by omega)
    rw [hall, show be_value (Bytes.zero 32).toList = 0 by decide +kernel] at hvalue
    omega
  · simp only [spread_object, List.map_map]
    refine List.Nodup.map_on (fun i hi j hj hkey => ?_) List.nodup_range
    rw [List.mem_range] at hi hj
    have hstore : (spread_placement i).store_node_id = (spread_placement j).store_node_id := (Prod.mk.inj hkey).2
    have hi := be_value_store_node_id (show i < 256 ^ 32 - 1 by omega)
    have hj := be_value_store_node_id (show j < 256 ^ 32 - 1 by omega)
    rw [hstore] at hi
    omega

/-- The number of 2^32 placements wraps to zero, and a frame is refused that is
longer than the numbers in its header say. -/
theorem decode_wrapped_frame (sha256 : List UInt8 → Bytes 32) {manifest : ManifestV2}
    (hchunks : manifest.chunks.length = 1) (hcount : manifest.placements.length = 2 ^ 32)
    (max_object_bytes : UInt64) (max_chunks max_placements : Nat) (hlimits : max_object_bytes ≠ 0 ∧ max_chunks ≠ 0) :
    decode_v2 sha256 (sealed_frame_v2 sha256 manifest) max_object_bytes max_chunks max_placements =
      .error .CORRUPT := by
  unfold sealed_frame_v2
  generalize envelope_digest_at sha256 (frame_v2 manifest (List.replicate 32 0)) 80 = digest
  obtain ⟨_, h8, _, _, h20, _, h28, _, _, _, _⟩ := frame_v2_fields manifest digest
  have hlength := length_frame_v2 manifest digest
  rw [hchunks] at h20 hlength
  rw [hcount] at h28 hlength
  have hwrapped : encoded_size_v2 (UInt32.ofNat 1).toNat (UInt32.ofNat (2 ^ 32)).toNat = 176 := by decide
  have hsize : MANIFEST_HEADER_SIZE ≤ (frame_v2 manifest digest.toList).length := by
    rw [hlength]
    decide
  rw [decode_v2, if_neg (by simp [hsize, hlimits]), h8, if_neg (by decide), decode_placed]
  dsimp only
  split
  · rfl
  · rw [h20, h28, hwrapped, hlength, if_pos (.inr (.inr (.inr (by decide))))]

/-- With 2^32 placements the encoder accepts the manifest and the decoder
refuses its bytes. -/
theorem placement_count_wraps :
    (spread_object (2 ^ 32)).placements.length = 2 ^ 32 ∧
      ∀ sha256 : List UInt8 → Bytes 32, ∃ bytes,
        encode_v2 sha256 (spread_object (2 ^ 32)) 1 1 (2 ^ 32) = .ok bytes ∧
          decode_v2 sha256 bytes 1 1 (2 ^ 32) = .error .CORRUPT := by
  have hcount : (spread_object (2 ^ 32)).placements.length = 2 ^ 32 := by
    rw [spread_object, List.length_map, List.length_range]
  have hchunks : (spread_object (2 ^ 32)).chunks.length = 1 := rfl
  have hvalid := spread_object_valid (show 2 ^ 32 < 256 ^ 32 by decide)
  have hsize : encoded_size_v2 1 (2 ^ 32) ≠ 0 := by decide
  generalize spread_object (2 ^ 32) = manifest at hcount hchunks hvalid ⊢
  refine ⟨hcount, fun sha256 => ⟨sealed_frame_v2 sha256
    { manifest with placements := sort_placements manifest.placements }, ?_, ?_⟩⟩
  · rw [encode_v2, if_neg (not_not.mpr hvalid), hchunks, hcount, if_neg hsize]
  · refine decode_wrapped_frame sha256 ?_ ?_ 1 1 (2 ^ 32) (by decide)
    · exact hchunks
    · exact (sort_placements_perm _).length_eq.trans hcount

end many_placements

end turbop2p.m3_object_manifest
