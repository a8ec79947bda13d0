import TurboP2P.Namespace.History

open Codec

namespace turbop2p.m3_namespace_local_store

/-- `m3_namespace_local_magic`: `M3NSLOC1`. -/
def LOCAL_MAGIC : List UInt8 := [77, 51, 78, 83, 76, 79, 67, 49]
def LOCAL_VERSION : UInt32 := 1
def LOCAL_HEADER_SIZE : Nat := 64
def LOCAL_RECORD_PAYLOAD_OFFSET : Nat := 48

/-- `M3_NAMESPACE_LOCAL_STATE_FILE`: `namespace.bin`. -/
def LOCAL_STATE_FILE : List UInt8 := [110, 97, 109, 101, 115, 112, 97, 99, 101, 46, 98, 105, 110]

/-- `M3_NAMESPACE_LOCAL_TEMP_FILE`: `namespace.bin.tmp`. -/
def LOCAL_TEMP_FILE : List UInt8 := LOCAL_STATE_FILE ++ [46, 116, 109, 112]

def fnv1a_bytes (bytes : List UInt8) (hash : UInt64) : UInt64 :=
  bytes.foldl (fun hash byte => (hash ^^^ byte.toUInt64) * 1099511628211) hash

def u64_add_checked (a b : Nat) : Option Nat :=
  if a > U64_MAX - b then none else some (a + b)

def u64_mul_add_checked (a b add : Nat) : Option Nat :=
  if a ≠ 0 ∧ b > U64_MAX / a then none
  else if a * b > U64_MAX - add then none
  else some (a * b + add)

/-- `join_path` into a buffer of `out_size` characters; 47 and 92 are the two
separators. -/
def join_path (out_size : Nat) (root name : List UInt8) : Option (List UInt8) :=
  if root = [] ∨ name = [] then none
  else
    let needs_separator := root.getLast? ≠ some 47 ∧ root.getLast? ≠ some 92
    let path := root ++ (if needs_separator then [47] else []) ++ name
    if path.length < out_size then some path else none

/-- `record_size`: sizes beyond 32 bits cannot be written. -/
def record_size (entry : Entry) : Option Nat :=
  if entry.bucket.length > 0xffffffff ∨ entry.object_key.length > 0xffffffff ∨
      entry.manifest_bytes.length > 0xffffffff then none
  else
    some (LOCAL_RECORD_PAYLOAD_OFFSET + entry.bucket.length + entry.object_key.length + entry.manifest_bytes.length)

/-- The loop that adds up the sizes of the records of the occupied entries. -/
def snapshot_size (total_size : Nat) : List Entry → Option Nat
  | [] => some total_size
  | entry :: rest =>
    match record_size entry with
    | none => none
    | some size => if total_size > U64_MAX - size then none else snapshot_size (total_size + size) rest

def Entry.record (entry : Entry) : List UInt8 :=
  entry.tenant_id.toList ++ (write_u32_be (UInt32.ofNat entry.bucket.length) ++
    (write_u32_be (UInt32.ofNat entry.object_key.length) ++
    (write_u32_be (UInt32.ofNat entry.manifest_bytes.length) ++ ([if entry.tombstoned then 1 else 0, 0, 0, 0] ++
    (entry.bucket ++ (entry.object_key ++ entry.manifest_bytes))))))

/-- The header without its checksum. -/
def snapshot_header (store : Store) : List UInt8 :=
  LOCAL_MAGIC ++ (write_u32_be LOCAL_VERSION ++ (write_u32_be 0 ++ (write_u64_be store.applied_index ++
    (write_u64_be (UInt64.ofNat store.entries.live.length) ++ (write_u64_be (UInt64.ofNat store.max_bucket_bytes) ++
    (write_u64_be (UInt64.ofNat store.max_object_key_bytes) ++
    write_u64_be (UInt64.ofNat store.max_manifest_bytes)))))))

def snapshot_checksum (header records : List UInt8) : UInt64 :=
  fnv1a_bytes records (fnv1a_bytes header 1469598103934665603)

/-- The bytes of the state file. -/
def snapshot (store : Store) : List UInt8 :=
  let records := store.entries.live.flatMap Entry.record
  snapshot_header store ++ (write_u64_be (snapshot_checksum (snapshot_header store) records) ++ records)

/-- The files of the file system by path. -/
abbrev Files := List UInt8 → Option (List UInt8)

def Files.unlink (files : Files) (path : List UInt8) : Files := fun other =>
  if other = path then none else files other

/-- The outcomes of the allocation and of the file system calls of a persist
call. -/
structure PersistOutcomes where
  malloc : Bool
  opened : Bool
  written : Bool
  fsync : Bool
  closed : Bool
  renamed : Bool

/-- `m3_namespace_local_store_persist_v1`, with `max_path` for
`TURBO_FS_MAX_PATH`. -/
def persist_v1 (max_path : Nat) (outcomes : PersistOutcomes) (files : Files) (store : Store) (root : List UInt8) :
    Result × Files :=
  if store.is_open = false ∨ root = [] then (.INVALID_ARG, files)
  else
    match join_path max_path root LOCAL_STATE_FILE, join_path max_path root LOCAL_TEMP_FILE with
    | some state_path, some temp_path =>
      match snapshot_size LOCAL_HEADER_SIZE store.entries.live with
      | none => (.RESOURCE_EXHAUSTED, files)
      | some _ =>
        if outcomes.malloc = false then (.RESOURCE_EXHAUSTED, files)
        else if outcomes.opened = false then (.INVALID_STATE, files.unlink temp_path)
        else if outcomes.written = false then (.INVALID_STATE, files.unlink temp_path)
        else if outcomes.fsync = false ∨ outcomes.closed = false then (.INVALID_STATE, files.unlink temp_path)
        else if outcomes.renamed = false then (.INVALID_STATE, files.unlink temp_path)
        else (.OK, fun path => if path = state_path then some (snapshot store) else files.unlink temp_path path)
    | _, _ => (.INVALID_ARG, files)

def record_bucket_size (record : List UInt8) : Nat := (read_u32_be (record.drop 32)).toNat
def record_object_key_size (record : List UInt8) : Nat := (read_u32_be (record.drop 36)).toNat
def record_manifest_size (record : List UInt8) : Nat := (read_u32_be (record.drop 40)).toNat

def record_length (record : List UInt8) : Nat :=
  LOCAL_RECORD_PAYLOAD_OFFSET + record_bucket_size record + record_object_key_size record +
    record_manifest_size record

/-- The entry that the second pass builds from a record. -/
def Entry.of_record (applied_index : UInt64) (record : List UInt8) : Entry :=
  let payload := record.drop LOCAL_RECORD_PAYLOAD_OFFSET
  { tombstoned := record.getD 44 0 ≠ 0, tenant_id := take_bytes 32 record
    bucket := payload.take (record_bucket_size record)
    object_key := (payload.drop (record_bucket_size record)).take (record_object_key_size record)
    manifest_bytes := (payload.drop (record_bucket_size record + record_object_key_size record)).take
      (record_manifest_size record)
    committed_index := applied_index }

def record_fields_valid (store : Store) (record : List UInt8) : Bool :=
  record.getD 44 0 ≤ 1 && record.getD 45 0 = 0 && record.getD 46 0 = 0 && record.getD 47 0 = 0 &&
    record_bucket_size record ≠ 0 && record_bucket_size record ≤ store.max_bucket_bytes &&
    record_object_key_size record ≠ 0 && record_object_key_size record ≤ store.max_object_key_bytes &&
    record_manifest_size record ≤ store.max_manifest_bytes &&
    (if record.getD 44 0 ≠ 0 then record_manifest_size record = 0 else record_manifest_size record ≠ 0) &&
    !Bytes.is_zero (record.take 32)

/-- The largest file that the limits of a store allow. -/
def worst_total (store : Store) : Option Nat := do
  let max_record ← u64_add_checked LOCAL_RECORD_PAYLOAD_OFFSET store.max_bucket_bytes
  let max_record ← u64_add_checked max_record store.max_object_key_bytes
  let max_record ← u64_add_checked max_record store.max_manifest_bytes
  u64_mul_add_checked store.entries.length max_record LOCAL_HEADER_SIZE

/-- The second pass over the records. -/
def load_records (applied_index : UInt64) : Nat → List UInt8 → List Entry
  | 0, _ => []
  | count + 1, bytes =>
    .of_record applied_index bytes :: load_records applied_index count (bytes.drop (record_length bytes))

section load

variable (sha256 : List UInt8 → Bytes 32)

def manifest_decodes (store : Store) (manifest_bytes : List UInt8) : Bool :=
  match decode_manifest sha256 store manifest_bytes with
  | .ok _ => true
  | .error _ => false

/-- The first pass over the records, which must end where the file does. -/
def check_records (store : Store) : Nat → List UInt8 → Bool
  | 0, bytes => bytes = []
  | count + 1, bytes =>
    LOCAL_RECORD_PAYLOAD_OFFSET ≤ bytes.length && record_fields_valid store bytes &&
      record_length bytes ≤ bytes.length &&
      (bytes.getD 44 0 ≠ 0 || manifest_decodes sha256 store (Entry.of_record 0 bytes).manifest_bytes) &&
      check_records store count (bytes.drop (record_length bytes))

/-- The outcomes of the allocations and of the file system calls of a load
call. -/
structure LoadOutcomes where
  stat : Bool
  opened : Bool
  malloc : Bool
  read_exact : Bool
  closed : Bool
  malloc_entries : Bool

def load_v1 (max_path : Nat) (outcomes : LoadOutcomes) (files : Files) (store : Store) (root : List UInt8)
    (capacity : Nat) : Result × Store :=
  if store.is_open = false ∨ root = [] ∨ capacity = 0 ∨ capacity ≠ store.entries.length then (.INVALID_ARG, store)
  else if store.count ≠ 0 ∨ store.applied_index ≠ 0 then (.INVALID_STATE, store)
  else
    match join_path max_path root LOCAL_STATE_FILE with
    | none => (.INVALID_ARG, store)
    | some state_path =>
      match files state_path with
      | none => (.OK, store)
      | some bytes =>
        if outcomes.stat = false then (.CORRUPT, store)
        else if bytes.length < LOCAL_HEADER_SIZE ∨ bytes.length > U64_MAX then (.CORRUPT, store)
        else
          match worst_total store with
          | none => (.CORRUPT, store)
          | some worst_total =>
            if bytes.length > worst_total then (.CORRUPT, store)
            else if outcomes.opened = false then (.CORRUPT, store)
            else if outcomes.malloc = false then (.RESOURCE_EXHAUSTED, store)
            else if outcomes.read_exact = false then (.CORRUPT, store)
            else if outcomes.closed = false then (.CORRUPT, store)
            else if bytes.take 8 ≠ LOCAL_MAGIC ∨ read_u32_be (bytes.drop 8) ≠ LOCAL_VERSION ∨
                read_u32_be (bytes.drop 12) ≠ 0 then (.CORRUPT, store)
            else
              let applied_index := read_u64_be (bytes.drop 16)
              let entry_count := (read_u64_be (bytes.drop 24)).toNat
              if entry_count > capacity ∨ (applied_index = 0 ∧ entry_count ≠ 0) ∨
                  (read_u64_be (bytes.drop 32)).toNat ≠ store.max_bucket_bytes ∨
                  (read_u64_be (bytes.drop 40)).toNat ≠ store.max_object_key_bytes ∨
                  (read_u64_be (bytes.drop 48)).toNat ≠ store.max_manifest_bytes then (.CORRUPT, store)
              else
                let records := bytes.drop LOCAL_HEADER_SIZE
                if !check_records sha256 store entry_count records then (.CORRUPT, store)
                else if snapshot_checksum (bytes.take 56) records ≠ read_u64_be (bytes.drop 56) then (.CORRUPT, store)
                else if outcomes.malloc_entries = false then (.RESOURCE_EXHAUSTED, store)
                else
                  let loaded := load_records applied_index entry_count records
                  (.OK,
                    { store with
                      entries := loaded.map some ++ store.entries.drop loaded.length
                      count := store.count + loaded.length, applied_index })

end load

section record

variable {entry : Entry}

theorem length_record (entry : Entry) :
    entry.record.length =
      LOCAL_RECORD_PAYLOAD_OFFSET + entry.bucket.length + entry.object_key.length + entry.manifest_bytes.length := by
  simp only [Entry.record, List.length_append, List.Vector.toList_length, length_write_u32_be, List.length_cons,
    List.length_nil, LOCAL_RECORD_PAYLOAD_OFFSET]
  omega

/-- The sizes of an entry fit their 32-bit fields. -/
def Entry.Recordable (entry : Entry) : Prop :=
  entry.bucket.length ≤ 0xffffffff ∧ entry.object_key.length ≤ 0xffffffff ∧ entry.manifest_bytes.length ≤ 0xffffffff

theorem record_size_eq_some {size : Nat} (hsize : record_size entry = some size) :
    entry.Recordable ∧ size = entry.record.length := by
  obtain ⟨hfits, hsize⟩ := guard_passed hsize
  simp only [not_or, Nat.not_lt] at hfits
  exact ⟨hfits, by rw [length_record, Option.some.inj hsize]⟩

/-- A record as the loader finds it in front of other bytes. -/
theorem record_layout (hfits : entry.Recordable) (rest : List UInt8) :
    record_bucket_size (entry.record ++ rest) = entry.bucket.length ∧
      record_object_key_size (entry.record ++ rest) = entry.object_key.length ∧
      record_manifest_size (entry.record ++ rest) = entry.manifest_bytes.length ∧
      take_bytes 32 (entry.record ++ rest) = entry.tenant_id ∧
      (entry.record ++ rest).getD 44 0 = (if entry.tombstoned then 1 else 0) ∧
      (entry.record ++ rest).getD 45 0 = 0 ∧ (entry.record ++ rest).getD 46 0 = 0 ∧
      (entry.record ++ rest).getD 47 0 = 0 ∧ (entry.record ++ rest).take 32 = entry.tenant_id.toList ∧
      (entry.record ++ rest).drop LOCAL_RECORD_PAYLOAD_OFFSET =
        entry.bucket ++ (entry.object_key ++ (entry.manifest_bytes ++ rest)) := by
  have hword : ∀ n, n ≤ 0xffffffff → (UInt32.ofNat n).toNat = n := fun n hn =>
    UInt32.toNat_ofNat_of_lt' (by simp [UInt32.size]; omega)
  simp [record_bucket_size, record_object_key_size, record_manifest_size, Entry.record, drop_append_field,
    LOCAL_RECORD_PAYLOAD_OFFSET, hword _ hfits.1, hword _ hfits.2.1, hword _ hfits.2.2, List.getElem?_append_right]

theorem record_length_record (hfits : entry.Recordable) (rest : List UInt8) :
    record_length (entry.record ++ rest) = entry.record.length := by
  obtain ⟨hbucket, hkey, hmanifest, _⟩ := record_layout hfits rest
  rw [record_length, hbucket, hkey, hmanifest, length_record]

/-- The entry as it is loaded: the index of its last change is not written. -/
def Entry.reindexed (applied_index : UInt64) (entry : Entry) : Entry :=
  { entry with committed_index := applied_index }

theorem of_record_record (hfits : entry.Recordable) (applied_index : UInt64) (rest : List UInt8) :
    Entry.of_record applied_index (entry.record ++ rest) = entry.reindexed applied_index := by
  obtain ⟨hbucket, hkey, hmanifest, htenant, htombstoned, _, _, _, _, hpayload⟩ := record_layout hfits rest
  have hflag : (decide ((entry.record ++ rest).getD 44 0 ≠ 0)) = entry.tombstoned := by
    rw [htombstoned]
    cases entry.tombstoned <;> rfl
  have hsecond : (entry.bucket ++ (entry.object_key ++ (entry.manifest_bytes ++ rest))).drop entry.bucket.length =
      entry.object_key ++ (entry.manifest_bytes ++ rest) := List.drop_left
  have hthird : (entry.bucket ++ (entry.object_key ++ (entry.manifest_bytes ++ rest))).drop
      (entry.bucket.length + entry.object_key.length) = entry.manifest_bytes ++ rest := by
    rw [← List.drop_drop, hsecond, List.drop_left]
  simp only [Entry.of_record, hbucket, hkey, hmanifest, htenant, hpayload, hflag, hsecond, hthird, List.take_left,
    Entry.reindexed]

end record

section records

variable {sha256 : List UInt8 → Bytes 32} {config : Config}

variable {entries : List Entry}

theorem snapshot_size_eq_some {total_size size : Nat} (hsize : snapshot_size total_size entries = some size)
    (htotal : total_size ≤ U64_MAX) :
    (∀ entry ∈ entries, entry.Recordable) ∧ size = total_size + (entries.flatMap Entry.record).length ∧
      size ≤ U64_MAX := by
  induction entries generalizing total_size with
  | nil =>
    simp only [snapshot_size, Option.some.injEq] at hsize
    subst hsize
    simp [htotal]
  | cons entry rest ih =>
    unfold snapshot_size at hsize
    cases hrecord : record_size entry with
    | none => simp [hrecord] at hsize
    | some length =>
      simp only [hrecord] at hsize
      obtain ⟨hroom, hsize⟩ := guard_passed hsize
      obtain ⟨hfits, rfl⟩ := record_size_eq_some hrecord
      have hshort : entry.record.length ≤ U64_MAX := by
        obtain ⟨hbucket, hkey, hmanifest⟩ := hfits
        simp only [length_record, LOCAL_RECORD_PAYLOAD_OFFSET, U64_MAX]
        omega
      obtain ⟨hrest, rfl, hmax⟩ := ih hsize (by omega)
      refine ⟨List.forall_mem_cons.mpr ⟨hfits, hrest⟩, ?_, hmax⟩
      rw [List.flatMap_cons, List.length_append, Nat.add_assoc]

theorem record_fields_valid_record {entry : Entry} (hvalid : entry.Valid sha256 config) (hfits : entry.Recordable)
    (rest : List UInt8) : record_fields_valid config.fresh (entry.record ++ rest) = true := by
  obtain ⟨hbucket, hkey, hmanifest, _, htombstoned, h45, h46, h47, htenant, _⟩ := record_layout hfits rest
  obtain ⟨hnonzero, hbucket_valid, hkey_valid⟩ := name_is_valid_iff.mp hvalid.name
  obtain ⟨hbucket_pos, hbucket_le, _⟩ := key_is_valid_iff.mp hbucket_valid
  obtain ⟨hkey_pos, hkey_le, _⟩ := key_is_valid_iff.mp hkey_valid
  simp only [Entry.key] at hnonzero hbucket_pos hbucket_le hkey_pos hkey_le
  have hmanifest_le : entry.manifest_bytes.length ≤ config.fresh.max_manifest_bytes := hvalid.fits
  have hlength : if entry.tombstoned then entry.manifest_bytes = [] else ¬ entry.manifest_bytes = [] := by
    cases hcase : entry.tombstoned with
    | true => simpa using hvalid.deleted hcase
    | false =>
      obtain ⟨manifest, hdecode⟩ := hvalid.decodes hcase
      simpa using manifest_length_ne_zero hdecode
  have hflag : (if entry.tombstoned then (1 : UInt8) else 0) ≤ 1 := by cases entry.tombstoned <;> decide
  simp only [record_fields_valid, hbucket, hkey, hmanifest, htombstoned, h45, h46, h47, htenant, hnonzero]
  simpa [hflag, hbucket_le, hkey_le, hmanifest_le, List.ne_nil_of_length_pos hbucket_pos,
    List.ne_nil_of_length_pos hkey_pos] using hlength

theorem check_records_live (hentries : ∀ entry ∈ entries, entry.Valid sha256 config ∧ entry.Recordable) :
    check_records sha256 config.fresh entries.length (entries.flatMap Entry.record) = true := by
  induction entries with
  | nil => rfl
  | cons entry rest ih =>
    obtain ⟨⟨hvalid, hfits⟩, hrest⟩ := List.forall_mem_cons.mp hentries
    obtain ⟨_, _, _, _, htombstoned, _⟩ := record_layout hfits (rest.flatMap Entry.record)
    have hdecodes : ((entry.record ++ rest.flatMap Entry.record).getD 44 0 ≠ 0 ∨
        manifest_decodes sha256 config.fresh entry.manifest_bytes = true) := by
      rw [htombstoned]
      cases hcase : entry.tombstoned with
      | true => exact .inl (by decide)
      | false =>
        obtain ⟨manifest, hdecode⟩ := hvalid.decodes hcase
        exact .inr (by rw [manifest_decodes, hdecode])
    have hlength := length_record entry
    rw [List.flatMap_cons, List.length_cons, check_records, record_length_record hfits, List.drop_left, ih hrest,
      record_fields_valid_record hvalid hfits, of_record_record hfits]
    simp only [Entry.reindexed, Bool.and_true, Bool.and_eq_true, decide_eq_true_eq, Bool.or_eq_true, List.length_append]
    exact ⟨⟨by omega, by omega⟩, hdecodes⟩

/-- The second pass returns the entries that were written. -/
theorem load_records_live (hentries : ∀ entry ∈ entries, entry.Recordable) (applied_index : UInt64) :
    load_records applied_index entries.length (entries.flatMap Entry.record) =
      entries.map (Entry.reindexed applied_index) := by
  induction entries with
  | nil => rfl
  | cons entry rest ih =>
    obtain ⟨hfits, hrest⟩ := List.forall_mem_cons.mp hentries
    rw [List.flatMap_cons, List.length_cons, load_records, record_length_record hfits, List.drop_left, ih hrest,
      of_record_record hfits, List.map_cons]

end records

end turbop2p.m3_namespace_local_store
