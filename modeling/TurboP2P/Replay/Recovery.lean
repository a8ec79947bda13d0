import TurboP2P.Replay.Store

open Codec
open turbop2p.m3_chunk_replay (Access Begin BeginKind Entry EntryState HashIo Journal access_bytes access_is_valid
  begin_request_v1 complete_request_v1 find_entry hash_access sweep)

namespace turbop2p.m3_chunk_replay_store

variable {loaded : Loaded} {result : m3_chunk_replay.Result}

section records

variable {now_ms : UInt64}

@[simp] theorem length_record (slot : Option Entry) : (record slot).length = RECORD_SIZE := by
  cases slot <;> simp [record, RECORD_SIZE]

theorem record_entry_record (entry : Entry) (rest : List UInt8) :
    record_entry (record (some entry) ++ rest) entry.state = entry := by
  simp [record_entry, record, drop_append_field]

theorem drop_record (slot : Option Entry) (rest : List UInt8) : (record slot ++ rest).drop RECORD_SIZE = rest :=
  List.drop_left' (length_record slot)

theorem clear_cons (slot : Option Entry) (entries : SlotTable Entry) :
    SlotTable.clear (·.expired now_ms) (slot :: entries) =
      slot.filter (fun entry => !entry.expired now_ms) :: entries.clear (·.expired now_ms) := rfl

/-- What the loop reads from the records of a table are its entries that have not
expired, in their slots. -/
theorem decode_records_entries {entries : SlotTable Entry} {after : Loaded}
    (hdecode : decode_records now_ms entries.length (entries.flatMap record) loaded = .ok after) :
    after.entries = loaded.entries ++ entries.clear (·.expired now_ms) := by
  induction entries generalizing loaded with
  | nil =>
    obtain rfl := Except.ok.inj hdecode
    simp [SlotTable.clear]
  | cons slot entries ih =>
    rw [List.length_cons, decode_records, List.flatMap_cons] at hdecode
    rw [drop_record] at hdecode
    rw [clear_cons]
    cases slot with
    | none =>
      have hhead : (record none ++ entries.flatMap record).head? = some 0 := rfl
      rw [if_pos hhead] at hdecode
      split at hdecode
      · rw [ih hdecode]
        simp
      · cases hdecode
    | some entry =>
      have hhead : (record (some entry) ++ entries.flatMap record).head? = some (state_code entry.state) := rfl
      have hstate : (if (record (some entry) ++ entries.flatMap record).head? = some 1 then EntryState.IN_PROGRESS
          else .COMPLETED) = entry.state := by
        rw [hhead]
        cases entry.state <;> rfl
      have hnot : ¬ (record (some entry) ++ entries.flatMap record).head? = some 0 := by
        rw [hhead]
        cases entry.state <;> decide
      rw [hstate, record_entry_record, if_neg hnot] at hdecode
      split at hdecode
      · obtain ⟨_, hdecode⟩ := guard_passed hdecode
        split at hdecode
        · rename_i hexpired
          rw [ih hdecode]
          simp [Option.filter, hexpired]
        · rename_i hexpired
          obtain ⟨_, hdecode⟩ := guard_passed hdecode
          rw [ih hdecode]
          simp [Option.filter, hexpired]
      · cases hdecode

end records

section snapshots

variable {sha256 : List UInt8 → Bytes 32} {journal : Journal} {generation : UInt64} {now_ms : UInt64}

theorem length_frame (journal : Journal) (generation : UInt64) (digest : Bytes 32) :
    (frame journal generation digest).length = HEADER_SIZE + journal.entries.length * RECORD_SIZE := by
  have hrecords := length_flatMap_records record journal.entries fun slot _ => length_record slot
  simp only [frame, List.length_append, hrecords, length_write_u32_be, length_write_u64_be, List.Vector.toList_length,
    List.length_replicate, MAGIC, HEADER_SIZE, List.length_cons, List.length_nil]
  omega

theorem drop_header (journal : Journal) (generation : UInt64) (digest : Bytes 32) :
    (frame journal generation digest).drop HEADER_SIZE = journal.entries.flatMap record := by
  simp [frame, drop_append_field, MAGIC, HEADER_SIZE]

/-- Reading a snapshot back gives the entries that have not expired. -/
theorem decode_snapshot_entries {digested : Bool} {max_ttl_ms generation' : UInt64}
    (hdecode : decode_snapshot sha256 digested journal.entries.length max_ttl_ms (snapshot sha256 journal generation)
      now_ms = .ok (generation', loaded)) :
    loaded.entries = journal.entries.clear (·.expired now_ms) := by
  iterate 4 obtain ⟨_, hdecode⟩ := guard_passed hdecode
  obtain ⟨after, hrecords, hafter⟩ := except_map_eq_ok.mp hdecode
  rw [snapshot, drop_header] at hrecords
  obtain rfl := (Prod.mk.inj hafter).2
  simpa using decode_records_entries hrecords

theorem cleanup_same (io : PersistIo) {file file' : File} (hsame : file.SameFile file') :
    file.SameFile (cleanup io file') := by
  unfold cleanup
  split <;> exact ⟨hsame.visible, hsame.possible⟩

/-- A call that persists a snapshot leaves the file as it is, replaces it without
being certain of it, or replaces it for good: the temporary file is renamed only
when the whole snapshot has been written and synchronised. -/
theorem persist_cases {io : PersistIo} {store after : Store} {file file' : File} {result : Result} {uncertain : Bool}
    (hpersist : persist_snapshot sha256 io store file = ((result, uncertain), after, file')) :
    after.journal = store.journal ∧
      ((result ≠ .OK ∧ uncertain = false ∧ file.SameFile file') ∨
        ∃ generation, (result ≠ .OK ∧ uncertain = true ∧
            (file.replace .COMMIT_UNCERTAIN (snapshot sha256 store.journal generation)).SameFile file') ∨
          (result = .OK ∧ file' = file.replace .DURABLE (snapshot sha256 store.journal generation))) := by
  have hfailed : ∀ {failure : Result} {left : File} {replaced : Prop},
      ((failure, false), store, left) = ((result, uncertain), after, file') → failure ≠ .OK → file.SameFile left →
      after.journal = store.journal ∧ ((result ≠ .OK ∧ uncertain = false ∧ file.SameFile file') ∨ replaced) := by
    rintro failure left replaced ⟨⟩ hfailure hsame
    exact ⟨rfl, .inl ⟨hfailure, rfl, hsame⟩⟩
  unfold persist_snapshot at hpersist
  split at hpersist
  · exact hfailed hpersist (by simp) ⟨rfl, rfl⟩
  split at hpersist
  · exact hfailed hpersist (by simp) ⟨rfl, rfl⟩
  split at hpersist
  · exact hfailed hpersist (by simp) ⟨rfl, rfl⟩
  split at hpersist
  · exact hfailed hpersist (by simp) (cleanup_same io ⟨rfl, rfl⟩)
  dsimp only at hpersist
  split at hpersist
  · exact hfailed hpersist (by simp) (cleanup_same io ⟨rfl, rfl⟩)
  rename_i hwritten
  rw [List.take_of_length_le (Nat.not_lt.mp hwritten)] at hpersist
  split at hpersist
  · exact hfailed hpersist (by simp) (cleanup_same io ⟨rfl, rfl⟩)
  split at hpersist
  · exact hfailed hpersist (by simp) (cleanup_same io ⟨rfl, rfl⟩)
  cases hreplaced : io.replaced with
  | FAILED =>
    simp only [hreplaced] at hpersist
    exact hfailed hpersist (by simp) (cleanup_same io ⟨rfl, rfl⟩)
  | COMMIT_UNCERTAIN =>
    simp only [hreplaced] at hpersist
    cases hpersist
    exact ⟨rfl, .inr ⟨_, .inl ⟨by simp, rfl, cleanup_same io ⟨rfl, rfl⟩⟩⟩⟩
  | DURABLE =>
    simp only [hreplaced] at hpersist
    cases hpersist
    exact ⟨rfl, .inr ⟨_, .inr ⟨rfl, rfl⟩⟩⟩

end snapshots

section requests

variable {sha256 : List UInt8 → Bytes 32} {hash : HashIo} {journal after : Journal} {access : Access} {now_ms : UInt64}

/-- The table after the sweep that every begin starts with. -/
def swept (entries : SlotTable Entry) (now_ms : UInt64) : SlotTable Entry := entries.clear (·.expired now_ms)

/-- What an entry makes a begin answer. -/
def answer (entry : Entry) : Begin :=
  { kind := match entry.state with
      | .COMPLETED => BeginKind.COMPLETED
      | .IN_PROGRESS => .IN_PROGRESS
    result_code := entry.result_code }

theorem answer_kind_ne_new (entry : Entry) : (answer entry).kind ≠ .NEW := by
  simp only [answer]
  cases entry.state <;> simp

/-- An access that a begin does not refuse before it looks for its request. -/
structure Admitted (max_ttl_ms : UInt64) (access : Access) (now_ms : UInt64) : Prop where
  valid : access_is_valid access = true
  live : now_ms < access.expires_at_ms
  ttl : access.expires_at_ms - now_ms ≤ max_ttl_ms

def hash_succeeds (hash : HashIo) : Prop := hash.created = true ∧ hash.digested = true

/-- The answers of a begin: it refuses the access or has no room, it finds the
request, or it begins it. -/
inductive Begun (sha256 : List UInt8 → Bytes 32) (journal : Journal) (access : Access) (now_ms : UInt64) :
    (m3_chunk_replay.Result × Option Begin) × Journal → Prop
  | refused {result : m3_chunk_replay.Result} (hresult : result ≠ .OK) {after : Journal}
      (hafter : after = journal ∨ after = { journal with entries := swept journal.entries now_ms }) :
      Begun sha256 journal access now_ms ((result, none), after)
  | found {slot : Nat} {entry : Entry} (hadmitted : Admitted journal.max_ttl_ms access now_ms)
      (hfind : find_entry (swept journal.entries now_ms) access.request_id = some (slot, entry))
      (hdigest : entry.access_digest = sha256 (access_bytes access)) :
      Begun sha256 journal access now_ms
        ((.OK, some (answer entry)), { journal with entries := swept journal.entries now_ms })
  | fresh {slot : Nat} (hadmitted : Admitted journal.max_ttl_ms access now_ms)
      (hfind : find_entry (swept journal.entries now_ms) access.request_id = none)
      (hfree : (swept journal.entries now_ms).free = some slot) :
      Begun sha256 journal access now_ms
        ((.OK, some { kind := .NEW, result_code := 0 }),
          { journal with
            entries := (swept journal.entries now_ms).set slot (some (access.entry (sha256 (access_bytes access)))) })

theorem hash_access_ok {digest : Bytes 32} (hdigest : hash_access sha256 hash access = .ok digest) :
    access_is_valid access = true ∧ digest = sha256 (access_bytes access) := by
  obtain ⟨hvalid, hdigest⟩ := guard_passed hdigest
  obtain ⟨_, hdigest⟩ := guard_passed hdigest
  obtain ⟨_, hdigest⟩ := guard_passed hdigest
  exact ⟨by simpa using hvalid, (Except.ok.inj hdigest).symm⟩

theorem hash_access_error (herror : hash_access sha256 hash access = .error result) :
    result ≠ .OK := by
  rintro rfl
  unfold hash_access at herror
  split_ifs at herror <;> cases herror

theorem hash_access_eq (hvalid : access_is_valid access = true) (hhash : hash_succeeds hash) :
    hash_access sha256 hash access = .ok (sha256 (access_bytes access)) := by
  simp [hash_access, hvalid, hhash.1, hhash.2]

variable (sha256 : List UInt8 → Bytes 32)

theorem begin_request_begun (hash : HashIo) (journal : Journal) (access : Access) (now_ms : UInt64) :
    Begun sha256 journal access now_ms (begin_request_v1 sha256 hash journal access now_ms) := by
  unfold begin_request_v1
  split_ifs with hvalid hlive httl
  · exact .refused (by simp) (.inl rfl)
  · exact .refused (by simp) (.inl rfl)
  · exact .refused (by simp) (.inl rfl)
  · have hadmitted : Admitted journal.max_ttl_ms access now_ms :=
      ⟨by simpa using hvalid, UInt64.not_le.mp hlive, UInt64.not_lt.mp httl⟩
    cases hdigest : hash_access sha256 hash access with
    | error result => exact .refused (hash_access_error hdigest) (.inl rfl)
    | ok digest =>
      obtain ⟨_, rfl⟩ := hash_access_ok hdigest
      have hswept : (sweep journal.entries now_ms).2 = swept journal.entries now_ms := rfl
      simp only [hswept]
      cases hfind : find_entry (swept journal.entries now_ms) access.request_id with
      | some found =>
        obtain ⟨slot, entry⟩ := found
        by_cases hsame : entry.access_digest ≠ sha256 (access_bytes access)
        · dsimp only
          rw [if_pos hsame]
          exact .refused (by simp) (.inr rfl)
        · dsimp only
          rw [if_neg hsame]
          exact .found hadmitted hfind (not_not.mp hsame)
      | none =>
        cases hfree : (swept journal.entries now_ms).free with
        | none => exact .refused (by simp) (.inr rfl)
        | some slot => exact .fresh hadmitted hfind hfree

/-- An admitted access is compared with the request that is found. -/
theorem begin_request_found (hadmitted : Admitted journal.max_ttl_ms access now_ms)
    (hhash : hash_succeeds hash) {slot : Nat} {entry : Entry}
    (hfind : find_entry (swept journal.entries now_ms) access.request_id = some (slot, entry)) :
    begin_request_v1 sha256 hash journal access now_ms =
      if entry.access_digest ≠ sha256 (access_bytes access) then
        ((.CONFLICT, none), { journal with entries := swept journal.entries now_ms })
      else ((.OK, some (answer entry)), { journal with entries := swept journal.entries now_ms }) := by
  have hfind : find_entry (sweep journal.entries now_ms).2 access.request_id = some (slot, entry) := hfind
  unfold begin_request_v1
  rw [if_neg (by simp [hadmitted.valid]), if_neg (UInt64.not_le.mpr hadmitted.live), if_neg (UInt64.not_lt.mpr hadmitted.ttl),
    hash_access_eq hadmitted.valid hhash]
  simp only [hfind]
  rfl

/-- The answers of a completion: it is refused or the request is completed
already, or it completes a request that is in progress. -/
inductive Completed (sha256 : List UInt8 → Bytes 32) (journal : Journal) (access : Access) (result_code : Int32) :
    m3_chunk_replay.Result × Journal → Prop
  | refused {result : m3_chunk_replay.Result} (hresult : result ≠ .OK) :
      Completed sha256 journal access result_code (result, journal)
  | already {slot : Nat} {entry : Entry} (hvalid : access_is_valid access = true)
      (hfind : find_entry journal.entries access.request_id = some (slot, entry))
      (hdigest : entry.access_digest = sha256 (access_bytes access)) (hstate : entry.state = .COMPLETED)
      (hcode : entry.result_code = result_code) : Completed sha256 journal access result_code (.OK, journal)
  | first {slot : Nat} {entry : Entry} (hvalid : access_is_valid access = true)
      (hfind : find_entry journal.entries access.request_id = some (slot, entry))
      (hdigest : entry.access_digest = sha256 (access_bytes access)) (hstate : entry.state = .IN_PROGRESS) :
      Completed sha256 journal access result_code
        (.OK, { journal with
          entries := journal.entries.set slot (some { entry with state := .COMPLETED, result_code := result_code }) })

theorem complete_request_completed (hash : HashIo) (journal : Journal) (access : Access) (result_code : Int32) :
    Completed sha256 journal access result_code (complete_request_v1 sha256 hash journal access result_code) := by
  unfold complete_request_v1
  cases hdigest : hash_access sha256 hash access with
  | error result => exact .refused (hash_access_error hdigest)
  | ok digest =>
    obtain ⟨hvalid, rfl⟩ := hash_access_ok hdigest
    cases hfind : find_entry journal.entries access.request_id with
    | none => exact .refused (by simp)
    | some found =>
      obtain ⟨slot, entry⟩ := found
      dsimp only
      by_cases hsame : entry.access_digest ≠ sha256 (access_bytes access)
      · rw [if_pos hsame]
        exact .refused (by simp)
      · rw [if_neg hsame]
        cases hstate : entry.state with
        | IN_PROGRESS => exact .first hvalid hfind (not_not.mp hsame) hstate
        | COMPLETED =>
          by_cases hcode : entry.result_code = result_code
          · rw [if_pos hcode]
            exact .already hvalid hfind (not_not.mp hsame) hstate hcode
          · rw [if_neg hcode]
            exact .refused (by simp)

theorem map_replay_result_eq_ok : map_replay_result result = .OK ↔ result = .OK := by
  cases result <;> simp [map_replay_result]

end requests

end turbop2p.m3_chunk_replay_store
