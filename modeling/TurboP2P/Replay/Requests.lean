import TurboP2P.Replay.History

open Codec
open Durable (Disk)
open Text (ascii)
open turbop2p.m3_chunk_replay (Access Begin BeginKind Entry EntryState HashIo Journal access_bytes access_is_valid
  begin_request_v1 complete_request_v1 find_entry)
open SlotTable

namespace turbop2p.m3_chunk_replay_store

/-- A request as it is followed through a run: its entry, and the result if it is
completed. -/
structure Tracked where
  request_id : Bytes 16
  access_digest : Bytes 32
  expires_at_ms : UInt64
  result : Option Int32

structure Tracked.Matches (tracked : Tracked) (entry : Entry) : Prop where
  digest : entry.access_digest = tracked.access_digest
  expires : entry.expires_at_ms = tracked.expires_at_ms
  result : ∀ code ∈ tracked.result, entry.state = .COMPLETED ∧ entry.result_code = code

/-- A table has the request; without a file there is none. -/
def Keeps (tracked : Tracked) : Option (SlotTable Entry) → Prop
  | none => False
  | some entries => ∃ slot entry, find_entry entries tracked.request_id = some (slot, entry) ∧ tracked.Matches entry

/-- The request of an access, with its result if it is completed. -/
def track (sha256 : List UInt8 → Bytes 32) (access : Access) (result : Option Int32) : Tracked :=
  { request_id := access.request_id, access_digest := sha256 (access_bytes access)
    expires_at_ms := access.expires_at_ms, result }

variable {entry : Entry} {event : Event} {front rest : List Event} {store : Store}

section keeps

variable {sha256 : List UInt8 → Bytes 32} {capacity : Nat} {max_ttl_ms : UInt64} {tracked : Tracked}

theorem Tracked.Matches.not_expired (hmatches : tracked.Matches entry) {now_ms : UInt64}
    (hlive : now_ms < tracked.expires_at_ms) : entry.expired now_ms = false := by
  simpa [Entry.expired, hmatches.expires] using hlive

/-- A request stays in its table until it expires or the file is not seen. -/
theorem keeps_kept (hlstat : event.lstat = true)
    (hlive : ∀ now_ms, event.time = some now_ms → now_ms < tracked.expires_at_ms) :
    KeptBy sha256 capacity max_ttl_ms (Keeps tracked) event where
  created hnone := (hnone hlstat).elim
  swept {now_ms entries} htime := by
    rintro ⟨slot, entry, hfind, hmatches⟩
    exact ⟨slot, entry, find_clear hfind (hmatches.not_expired (hlive now_ms htime)), hmatches⟩
  begun {hash io access now_ms entries free} _ _ hfresh hfree := by
    rintro ⟨slot, entry, hfind, hmatches⟩
    have hother : access.request_id ≠ tracked.request_id := by
      intro heq
      rw [heq, hfind] at hfresh
      cases hfresh
    refine ⟨slot, entry, ?_, hmatches⟩
    rw [find_entry, find_set_unmatched (fun a ha => absurd ha (not_holds_of_free hfree))]
    · exact hfind
    · rintro a ⟨⟩
      exact decide_eq_false hother
  completed {hash io access result_code entries slot' entry'} _ hfound hstate := by
    rintro ⟨slot, entry, hfind, hmatches⟩
    obtain ⟨hholds', hid', hbefore'⟩ := find_eq_some hfound
    have hid' : entry'.request_id = access.request_id := by simpa using hid'
    by_cases hsame : access.request_id = tracked.request_id
    · rw [hsame, hfind] at hfound
      cases hfound
      refine ⟨slot', { entry' with state := .COMPLETED, result_code := result_code },
        find_set_matched hholds'.lt (decide_eq_true (hid'.trans hsame)) (hsame ▸ hbefore'), ?_⟩
      refine ⟨hmatches.digest, hmatches.expires, fun code hcode => ?_⟩
      have hcompleted := (hmatches.result code hcode).1
      rw [hstate] at hcompleted
      cases hcompleted
    · refine ⟨slot, entry, ?_, hmatches⟩
      rw [find_entry, find_set_unmatched]
      · exact hfind
      · intro a ha
        rw [ha.unique hholds']
        simpa [hid'] using hsame
      · simpa [hid'] using hsame

end keeps

section issued

variable (sha256 : List UInt8 → Bytes 32) (max_ttl_ms : UInt64)

/-- An entry that a begin of the run has made. -/
structure Issued (events : List Event) (entry : Entry) (access : Access) (now_ms : UInt64) : Prop where
  begun : ∃ hash io, .begin hash io access now_ms ∈ events
  admitted : Admitted max_ttl_ms access now_ms
  digest : entry.access_digest = sha256 (access_bytes access)
  expires : entry.expires_at_ms = access.expires_at_ms

/-- Every entry of a table comes from a begin of the run. -/
def AllIssued (events : List Event) : Option (SlotTable Entry) → Prop
  | none => True
  | some entries => ∀ slot entry, entries.Holds slot entry → ∃ access now_ms,
      Issued sha256 max_ttl_ms events entry access now_ms

variable {sha256 max_ttl_ms} {capacity : Nat}

theorem issued_kept {events : List Event} (hmem : event ∈ events) :
    KeptBy sha256 capacity max_ttl_ms (AllIssued sha256 max_ttl_ms events) event where
  created _ slot entry hholds := absurd hholds (not_holds_replicate_none _ slot entry)
  swept _ hissued slot entry hholds := hissued slot entry (holds_clear.mp hholds).1
  begun {hash io access now_ms entries free} hevent hadmitted _ hfree hissued :=
    holds_set_forall hissued (lt_of_free hfree)
      ⟨access, now_ms, ⟨hash, io, hevent ▸ hmem⟩, hadmitted, rfl, rfl⟩
  completed {hash io access result_code entries slot entry} _ hfound _ hissued := by
    have hholds := (find_eq_some hfound).1
    obtain ⟨access, now_ms, hbegun, hadmitted, hdigest, hexpires⟩ := hissued slot entry hholds
    exact holds_set_forall hissued hholds.lt ⟨access, now_ms, hbegun, hadmitted, hdigest, hexpires⟩

theorem reached_issued (events : List Event) :
    (reached sha256 capacity max_ttl_ms events).Everywhere sha256 max_ttl_ms (AllIssued sha256 max_ttl_ms events) :=
  Machine.run_invariant_of_mem (P := World.Everywhere sha256 max_ttl_ms (AllIssued sha256 max_ttl_ms events))
    ⟨by simp, Disk.always_empty (True.intro : Recorded sha256 (AllIssued sha256 max_ttl_ms events) none)⟩
    fun _ _ hmem hworld => after_everywhere (issued_kept hmem) hworld

/-- A journal of the configured size in which no request id stands twice. -/
def Sized (capacity : Nat) : Option (SlotTable Entry) → Prop
  | none => True
  | some entries => entries.length = capacity ∧ entries.Distinct Entry.request_id

/-- Whatever fails and wherever a run crashes, the file is absent or one whole
snapshot, and it and the memory hold no request twice. -/
theorem journals_sized (events : List Event) :
    (reached sha256 capacity max_ttl_ms events).Everywhere sha256 max_ttl_ms (Sized capacity) := by
  refine Machine.run_invariant ⟨nofun, Disk.always_empty trivial⟩ (fun world event hworld => ?_) events
  refine after_everywhere ⟨fun _ => ⟨List.length_replicate, by simp [Distinct]⟩, ?_, ?_, ?_⟩ hworld
  · rintro now_ms entries - ⟨hlength, hdistinct⟩
    exact ⟨(length_clear _ _).trans hlength, fun i j a b ha hb =>
      hdistinct i j a b (holds_clear.mp ha).1 (holds_clear.mp hb).1⟩
  · rintro hash io access now_ms entries slot - - hfind hfree ⟨hlength, hdistinct⟩
    refine ⟨List.length_set.trans hlength, hdistinct.insert (lt_of_free hfree) fun j b hb => ?_⟩
    simpa [Access.entry] using find_eq_none.mp hfind j b hb
  · rintro hash io access result_code entries slot entry - hfind - ⟨hlength, hdistinct⟩
    exact ⟨List.length_set.trans hlength, hdistinct.replace (find_eq_some hfind).1 rfl⟩

end issued

section answers

variable {sha256 : List UInt8 → Bytes 32} {max_ttl_ms : UInt64} {hash : HashIo} {io : PersistIo} {access : Access}
  {now_ms : UInt64} {world : World} {tracked : Tracked}

/-- The request in memory satisfies `Q` and the file is its snapshot, now and
after every crash. -/
theorem everywhere_of_durable {Q : Option (SlotTable Entry) → Prop} {after : Store} {file file' : File}
    {uncertain : Bool} (hpersist : persist_snapshot sha256 io store file = ((.OK, uncertain), after, file'))
    (httl : store.journal.max_ttl_ms = max_ttl_ms) (hmemory : Q (some store.journal.entries)) :
    World.Everywhere sha256 max_ttl_ms Q { store := some after, file := file' } := by
  obtain ⟨hjournal, ⟨hresult, _⟩ | ⟨generation, ⟨hresult, _⟩ | ⟨_, rfl⟩⟩⟩ := persist_cases hpersist
  · exact absurd rfl hresult
  · exact absurd rfl hresult
  · refine ⟨fun _ hmem => ?_, Disk.always_replace_durable file ⟨_, _, rfl, hmemory⟩⟩
    rw [← Option.some.inj hmem, hjournal]
    exact ⟨httl, hmemory⟩

/-- A request that has been begun is in memory and in every content that the file
may have. -/
theorem begin_new_everywhere (httl : ∀ store ∈ world.store, store.journal.max_ttl_ms = max_ttl_ms) {out : Begin}
    (hbegin : (world.begin sha256 hash io access now_ms).1 = (.OK, some out)) (hnew : out.kind = .NEW) :
    (world.begin sha256 hash io access now_ms).2.Everywhere sha256 max_ttl_ms (Keeps (track sha256 access none)) := by
  unfold World.begin at *
  cases hstore : world.store with
  | none => simp [hstore] at hbegin
  | some store =>
    have httl := httl store hstore
    simp only [hstore] at hbegin ⊢
    unfold begin_v1 at *
    have hbegun := begin_request_begun sha256 hash store.journal access now_ms
    generalize begin_request_v1 sha256 hash store.journal access now_ms = outcome at *
    cases hbegun with
    | refused hresult hafter =>
      split at hbegin
      · rename_i heq
        cases heq
      · simp at hbegin
    | found hadmitted hfind hdigest =>
      rename_i slot entry
      have hkind := answer_kind_ne_new entry
      simp only [ne_eq, hkind, not_false_eq_true, if_true, Prod.mk.injEq, Option.some.injEq, true_and] at hbegin
      exact absurd (hbegin ▸ hnew) hkind
    | fresh hadmitted hfind hfree =>
      rename_i slot
      have hkeeps : Keeps (track sha256 access none)
          (some ((swept store.journal.entries now_ms).set slot (some (access.entry (sha256 (access_bytes access)))))) := by
        refine ⟨slot, _, find_set_matched (lt_of_free hfree) (decide_eq_true rfl) ?_,
          rfl, rfl, by simp [track]⟩
        exact fun j entry _ hholds => find_eq_none.mp hfind j entry hholds
      simp only [ne_eq, not_true_eq_false, if_false] at hbegin ⊢
      split at hbegin
      · rename_i store' file' hpersist
        exact everywhere_of_durable hpersist httl hkeeps
      · simp at hbegin
      · simp at hbegin

/-- A completion that answers `OK` finds the request of its access. It is a retry
and changes nothing, or the request was in progress and is persisted. -/
theorem complete_ok {result_code : Int32} (hcomplete : (world.complete sha256 hash io access result_code).1 = .OK) :
    access_is_valid access = true ∧ ∃ store slot entry, world.store = some store ∧
      find_entry store.journal.entries access.request_id = some (slot, entry) ∧
      entry.access_digest = sha256 (access_bytes access) ∧
      ((entry.state = .COMPLETED ∧ entry.result_code = result_code ∧
          (world.complete sha256 hash io access result_code).2 = world) ∨
        (entry.state = .IN_PROGRESS ∧ ∃ next uncertain after file',
          next.journal = { store.journal with
            entries := store.journal.entries.set slot
              (some { entry with state := .COMPLETED, result_code := result_code }) } ∧
          persist_snapshot sha256 io next world.file = ((.OK, uncertain), after, file') ∧
          (world.complete sha256 hash io access result_code).2 = { store := some after, file := file' })) := by
  unfold World.complete at *
  cases hstore : world.store with
  | none => simp [hstore] at hcomplete
  | some store =>
    simp only [hstore] at hcomplete ⊢
    unfold complete_v1 at *
    have hcompleted := complete_request_completed sha256 hash store.journal access result_code
    generalize complete_request_v1 sha256 hash store.journal access result_code = outcome at *
    cases hcompleted with
    | refused hresult =>
      have hmap := map_replay_result_eq_ok.not.mpr hresult
      simp only [ne_eq, hmap, not_false_eq_true, true_or, if_true] at hcomplete
    | already hvalid hfind hdigest hstate hcode =>
      have hretry : map_replay_result .OK ≠ .OK ∨
          ((find_entry store.journal.entries access.request_id).any fun found => found.2.state = .COMPLETED) = true := by
        simp [hfind, hstate]
      simp only [if_pos hretry]
      refine ⟨hvalid, store, _, _, rfl, hfind, hdigest, .inl ⟨hstate, hcode, ?_⟩⟩
      rw [← hstore]
    | first hvalid hfind hdigest hstate =>
      rename_i slot entry
      have hwrites : ¬ (map_replay_result .OK ≠ .OK ∨
          ((find_entry store.journal.entries access.request_id).any fun found => found.2.state = .COMPLETED) = true) := by
        simp [map_replay_result, hfind, hstate]
      simp only [if_neg hwrites] at hcomplete ⊢
      generalize hnext : { store with
        journal := { store.journal with
          entries := store.journal.entries.set slot
            (some { entry with state := .COMPLETED, result_code := result_code }) } } = next at hcomplete ⊢
      rcases hpersist : persist_snapshot sha256 io next world.file with ⟨⟨result, uncertain⟩, after, file'⟩
      simp only [hpersist] at hcomplete
      subst hcomplete
      exact ⟨hvalid, store, slot, entry, rfl, hfind, hdigest,
        .inr ⟨hstate, next, uncertain, after, file', hnext ▸ rfl, hpersist, by simp only⟩⟩

/-- The memory does not have the request as completed. -/
def World.InProgress (world : World) (request_id : Bytes 16) : Prop :=
  ∀ store ∈ world.store, ∀ slot entry, find_entry store.journal.entries request_id = some (slot, entry) →
    entry.state = .IN_PROGRESS

section completions

variable {result_code : Int32} (httl : ∀ store ∈ world.store, store.journal.max_ttl_ms = max_ttl_ms)
  (hexpires : ∀ store ∈ world.store, ∀ slot entry, store.journal.entries.Holds slot entry →
    entry.access_digest = sha256 (access_bytes access) → entry.expires_at_ms = access.expires_at_ms)
  (hcomplete : (world.complete sha256 hash io access result_code).1 = .OK)
include httl hexpires hcomplete

/-- A completion that answers `OK` is in memory. If it is not a retry or is in
every content that the file may have already, it is also in all of them
afterwards. -/
theorem complete_keeps :
    (∀ store ∈ (world.complete sha256 hash io access result_code).2.store, store.journal.max_ttl_ms = max_ttl_ms ∧
        Keeps (track sha256 access (some result_code)) (some store.journal.entries)) ∧
      (world.InProgress access.request_id ∨
          world.file.Always (Recorded sha256 (Keeps (track sha256 access (some result_code)))) →
        (world.complete sha256 hash io access result_code).2.file.Always
          (Recorded sha256 (Keeps (track sha256 access (some result_code))))) := by
  obtain ⟨_, store, slot, entry, hstore, hfind, hdigest, hcases⟩ := complete_ok hcomplete
  obtain ⟨hholds, hid, hbefore⟩ := find_eq_some hfind
  have httl := httl store hstore
  have hentry := hexpires store hstore slot entry hholds hdigest
  obtain ⟨hstate, hcode, hsame⟩ | ⟨_, next, uncertain, after, file', hnext, hpersist, hafter⟩ := hcases
  · rw [hsame]
    refine ⟨fun other hother => ?_, ?_⟩
    · obtain rfl : store = other := Option.some.inj (hstore.symm.trans hother)
      refine ⟨httl, slot, entry, hfind, hdigest, hentry, ?_⟩
      rintro code ⟨⟩
      exact ⟨hstate, hcode⟩
    · rintro (hprogress | hfile)
      · have hstate' := hprogress store hstore slot entry hfind
        rw [hstate] at hstate'
        cases hstate'
      · exact hfile
  · have hkeeps : Keeps (track sha256 access (some result_code)) (some next.journal.entries) := by
      rw [hnext]
      refine ⟨slot, _, find_set_matched hholds.lt hid hbefore, hdigest, hentry, ?_⟩
      rintro code ⟨⟩
      exact ⟨rfl, rfl⟩
    have hlimit : next.journal.max_ttl_ms = max_ttl_ms := by
      rw [hnext]
      exact httl
    have hworld := everywhere_of_durable hpersist hlimit hkeeps
    rw [hafter]
    exact ⟨hworld.memory, fun _ => hworld.file⟩

end completions

theorem begin_kept (hkeeps : Keeps tracked (some store.journal.entries))
    (hlive : now_ms < tracked.expires_at_ms) (hid : access.request_id = tracked.request_id) :
    ∃ slot entry, find_entry (swept store.journal.entries now_ms) access.request_id = some (slot, entry) ∧
      tracked.Matches entry := by
  obtain ⟨slot, entry, hfind, hmatches⟩ := hkeeps
  rw [hid]
  exact ⟨slot, entry, find_clear hfind (hmatches.not_expired hlive), hmatches⟩

/-- A request that is kept is not begun again, and a begin answers `OK` only for
its own access. -/
theorem begin_not_new (hash : HashIo) (io : PersistIo)
    (hworld : world.Everywhere sha256 max_ttl_ms (Keeps tracked)) (hlive : now_ms < tracked.expires_at_ms)
    (hid : access.request_id = tracked.request_id) :
    (∀ out ∈ (world.begin sha256 hash io access now_ms).1.2, out.kind ≠ .NEW) ∧
      ((world.begin sha256 hash io access now_ms).1.1 = .OK → sha256 (access_bytes access) = tracked.access_digest) := by
  unfold World.begin
  cases hstore : world.store with
  | none => simp
  | some store =>
    obtain ⟨_, hkeeps⟩ := hworld.memory store hstore
    obtain ⟨slot, entry, hfind, hmatches⟩ := begin_kept hkeeps hlive hid
    dsimp only
    unfold begin_v1
    have hbegun := begin_request_begun sha256 hash store.journal access now_ms
    generalize begin_request_v1 sha256 hash store.journal access now_ms = outcome at *
    cases hbegun with
    | refused hresult hafter =>
      have hmap := map_replay_result_eq_ok.not.mpr hresult
      split
      · rename_i heq
        cases heq
      · rename_i heq
        cases heq
        exact ⟨by simp, fun hok => absurd hok hmap⟩
    | found hadmitted hfound hdigest =>
      rename_i slot' entry'
      obtain ⟨rfl, rfl⟩ : slot' = slot ∧ entry' = entry := by simpa [hfind, eq_comm] using hfound
      have hkind := answer_kind_ne_new entry'
      simp only [ne_eq, hkind, not_false_eq_true, if_true]
      exact ⟨by rintro out ⟨⟩; exact hkind, fun _ => hdigest.symm.trans hmatches.digest⟩
    | fresh hadmitted hfresh hfree =>
      rw [hfind] at hfresh
      cases hfresh

/-- What a begin with an admitted access answers for a request that is kept. -/
theorem begin_eq_of_keeps (io : PersistIo) (hworld : world.Everywhere sha256 max_ttl_ms (Keeps tracked))
    (hopen : world.store.isSome = true) (hadmitted : Admitted max_ttl_ms access now_ms)
    (hhash : hash_succeeds hash) (hlive : now_ms < tracked.expires_at_ms)
    (hid : access.request_id = tracked.request_id) :
    ∃ entry, tracked.Matches entry ∧ (world.begin sha256 hash io access now_ms).1 =
      if tracked.access_digest ≠ sha256 (access_bytes access) then (.CONFLICT, none)
      else (.OK, some (answer entry)) := by
  obtain ⟨store, hstore⟩ := Option.isSome_iff_exists.mp hopen
  obtain ⟨httl, hkeeps⟩ := hworld.memory store hstore
  obtain ⟨slot, entry, hfind, hmatches⟩ := begin_kept hkeeps hlive hid
  have hbegin := begin_request_found sha256 (httl ▸ hadmitted) hhash hfind
  refine ⟨entry, hmatches, ?_⟩
  unfold World.begin
  rw [hstore]
  dsimp only
  unfold begin_v1
  rw [hbegin, hmatches.digest]
  by_cases hsame : tracked.access_digest ≠ sha256 (access_bytes access)
  · rw [if_pos hsame, if_pos hsame]
    rfl
  · have hkind := answer_kind_ne_new entry
    rw [if_neg hsame, if_neg hsame]
    simp [hkind]

end answers

section runs

variable {sha256 : List UInt8 → Bytes 32} {capacity : Nat} {max_ttl_ms : UInt64}

/-- The access that a call is given. -/
def Event.access : Event → Option Access
  | .begin _ _ access _ => some access
  | .complete _ _ access _ => some access
  | _ => none

/-- The clock does not run backwards. -/
def Clocked (events : List Event) : Prop := (events.filterMap Event.time).Pairwise (· ≤ ·)

/-- The accesses of a run have different digests. -/
def CollisionFree (sha256 : List UInt8 → Bytes 32) (events : List Event) : Prop :=
  Set.InjOn sha256 { bytes | ∃ event ∈ events, ∃ access, event.access = some access ∧ access_bytes access = bytes }

theorem access_bytes_injective : Function.Injective access_bytes := by
  -- the fields have fixed widths, so each of them can be read back
  have hread : ∀ access : Access, ∀ fields, access_bytes access = ascii "TurboNet-M3-Chunk-Authorized-Access-v1" ++ fields →
      access =
        { tenant_id := take_bytes 32 fields
          cid :=
            { hash_algorithm := fields.getD 32 0, size := read_u64_be (fields.drop 33)
              digest := take_bytes 32 (fields.drop 41) }
          operation := read_u32_be (fields.drop 73)
          range_offset := read_u64_be (fields.drop 77)
          range_length := read_u64_be (fields.drop 85)
          audience_node_id := take_bytes 32 (fields.drop 93)
          request_id := take_bytes 16 (fields.drop 125)
          expires_at_ms := read_u64_be (fields.drop 141) } := by
    intro access fields hfields
    obtain rfl := List.append_cancel_left hfields
    have hlast : read_u64_be (write_u64_be access.expires_at_ms) = access.expires_at_ms := by
      simpa using read_write_u64_be [] access.expires_at_ms
    simp [drop_append_field, hlast]
  intro access access' hbytes
  rw [hread access _ rfl, hread access' _ hbytes.symm]

variable {access : Access} {hash : HashIo} {io : PersistIo} {now_ms : UInt64}

theorem CollisionFree.access_eq {events : List Event} (hfree : CollisionFree sha256 events)
    (event event' : Event) {access' : Access} (hevent : event ∈ events) (haccess : event.access = some access)
    (hevent' : event' ∈ events) (haccess' : event'.access = some access')
    (hdigest : sha256 (access_bytes access) = sha256 (access_bytes access')) : access = access' :=
  access_bytes_injective (hfree ⟨event, hevent, access, haccess, rfl⟩ ⟨event', hevent', access', haccess', rfl⟩ hdigest)

theorem Clocked.le (hclock : Clocked (front ++ event :: rest)) (hnow : event.time = some now_ms)
    {earlier : Event} (hearlier : earlier ∈ front) {time : UInt64} (htime : earlier.time = some time) : time ≤ now_ms := by
  unfold Clocked at hclock
  rw [List.filterMap_append, List.filterMap_cons, hnow, List.pairwise_append] at hclock
  exact hclock.2.2 time (List.mem_filterMap.mpr ⟨earlier, hearlier, htime⟩) now_ms List.mem_cons_self

theorem reached_append_cons (before between : List Event) (event : Event) :
    reached sha256 capacity max_ttl_ms (before ++ event :: between) =
      Machine.run (World.after sha256 capacity max_ttl_ms)
        ((reached sha256 capacity max_ttl_ms before).after sha256 capacity max_ttl_ms event) between :=
  Machine.run_append _ _ _ _

/-- A request that is kept everywhere is kept until it expires. -/
theorem run_keeps {tracked : Tracked} {world : World} (hworld : world.Everywhere sha256 max_ttl_ms (Keeps tracked))
    {events : List Event} (hlstat : ∀ event ∈ events, event.lstat = true)
    (hlive : ∀ event ∈ events, ∀ now_ms, event.time = some now_ms → now_ms < tracked.expires_at_ms) :
    (Machine.run (World.after sha256 capacity max_ttl_ms) world events).Everywhere sha256 max_ttl_ms (Keeps tracked) :=
  Machine.run_invariant_of_mem (P := World.Everywhere sha256 max_ttl_ms (Keeps tracked)) hworld
    fun _ event hmem hworld => after_everywhere (keeps_kept (hlstat event hmem) (hlive event hmem)) hworld

theorem reached_ttl (events : List Event) :
    ∀ store ∈ (reached sha256 capacity max_ttl_ms events).store, store.journal.max_ttl_ms = max_ttl_ms :=
  fun store hstore => ((reached_issued events).memory store hstore).1

section events

variable {events : List Event} (hclock : Clocked events) (hfree : CollisionFree sha256 events)

include hfree in
/-- An entry with the digest of an access of the run has its expiry. -/
theorem expires_of_digest (hevents : events = front ++ event :: rest) (haccess : event.access = some access) :
    ∀ store ∈ (reached sha256 capacity max_ttl_ms front).store, ∀ slot entry, store.journal.entries.Holds slot entry →
      entry.access_digest = sha256 (access_bytes access) → entry.expires_at_ms = access.expires_at_ms := by
  intro store hstore slot entry hholds hdigest
  obtain ⟨issued, now_ms, ⟨hash, io, hmem⟩, _, hissued, hexpires⟩ :=
    ((reached_issued front).memory store hstore).2 slot entry hholds
  obtain rfl : access = issued := hfree.access_eq event (.begin hash io issued now_ms) (by simp [hevents]) haccess
    (by simp [hevents, hmem]) rfl (hdigest.symm.trans hissued)
  exact hexpires

include hclock in
/-- Between an event and a begin before the expiry of a request nothing
expires it. -/
theorem live_between {before between : List Event} {expires_at_ms : UInt64}
    (hevents : events = before ++ event :: between ++ .begin hash io access now_ms :: rest)
    (hlive : now_ms < expires_at_ms) :
    ∀ later ∈ between, ∀ time, later.time = some time → time < expires_at_ms := by
  intro later hlater time htime
  rw [hevents] at hclock
  exact UInt64.lt_of_le_of_lt (hclock.le rfl (by simp [hlater]) htime) hlive

include hclock hfree in
/-- An access of the run whose request has been begun is admitted until it
expires. -/
theorem admitted_of_issued (hevents : events = front ++ .begin hash io access now_ms :: rest)
    (hlive : now_ms < access.expires_at_ms)
    (hstore : (reached sha256 capacity max_ttl_ms front).store = some store) {slot : Nat}
    (hholds : store.journal.entries.Holds slot entry)
    (hdigest : entry.access_digest = sha256 (access_bytes access)) :
    Admitted max_ttl_ms access now_ms := by
  obtain ⟨issued, time, ⟨hash', io', hmem⟩, hadmitted, hissued, _⟩ :=
    ((reached_issued front).memory store hstore).2 slot entry hholds
  obtain rfl : access = issued := hfree.access_eq (.begin hash io access now_ms) (.begin hash' io' issued time)
    (by simp [hevents]) rfl (by simp [hevents, hmem]) rfl (hdigest.symm.trans hissued)
  rw [hevents] at hclock
  have htime : time ≤ now_ms := hclock.le rfl hmem rfl
  refine ⟨hadmitted.valid, hlive, UInt64.le_trans ?_ hadmitted.ttl⟩
  have hlive' := hadmitted.live
  rw [UInt64.le_iff_toNat_le, UInt64.toNat_sub_of_le _ _ (UInt64.le_of_lt hlive),
    UInt64.toNat_sub_of_le _ _ (UInt64.le_of_lt hlive')]
  rw [UInt64.le_iff_toNat_le] at htime
  omega

end events

/-- A request is begun at most once before it expires, and a begin for another
access with its id is refused as a conflict. A completion that writes the
file itself is in every content that the file may have, and a completion that
writes the file or is in every content already is what every later begin of
the request reports, in whatever store it is made. Stores that are opened in
between must see the file. -/
theorem replay_store_runs (sha256 : List UInt8 → Bytes 32) (capacity : Nat) (max_ttl_ms : UInt64) {events : List Event}
    (hclock : Clocked events) (hfree : CollisionFree sha256 events) :
    (∀ before between rest hash io access now_ms hash' io' access' now_ms' out,
      events = before ++ .begin hash io access now_ms :: between ++ .begin hash' io' access' now_ms' :: rest →
      ((reached sha256 capacity max_ttl_ms before).begin sha256 hash io access now_ms).1 = (.OK, some out) →
      (∀ event ∈ between, event.lstat = true) →
      out.kind = .NEW → access'.request_id = access.request_id → now_ms' < access.expires_at_ms →
      let world := reached sha256 capacity max_ttl_ms (before ++ .begin hash io access now_ms :: between)
      (∀ out' ∈ (world.begin sha256 hash' io' access' now_ms').1.2, out'.kind ≠ .NEW) ∧
        (access' ≠ access → (world.begin sha256 hash' io' access' now_ms').1.1 ≠ .OK ∧
          (world.store.isSome = true → Admitted max_ttl_ms access' now_ms' → hash_succeeds hash' →
            (world.begin sha256 hash' io' access' now_ms').1 = (.CONFLICT, none)))) ∧
    (∀ before rest hash io access result_code, events = before ++ .complete hash io access result_code :: rest →
      ((reached sha256 capacity max_ttl_ms before).complete sha256 hash io access result_code).1 = .OK →
      (reached sha256 capacity max_ttl_ms before).InProgress access.request_id →
      ((reached sha256 capacity max_ttl_ms before).complete sha256 hash io access result_code).2.file.Always
        (Recorded sha256 (Keeps (track sha256 access (some result_code))))) ∧
    ∀ before between rest hash io access result_code hash' io' now_ms',
      events = before ++ .complete hash io access result_code :: between ++ .begin hash' io' access now_ms' :: rest →
      ((reached sha256 capacity max_ttl_ms before).complete sha256 hash io access result_code).1 = .OK →
      (reached sha256 capacity max_ttl_ms before).InProgress access.request_id ∨
        (reached sha256 capacity max_ttl_ms before).file.Always
          (Recorded sha256 (Keeps (track sha256 access (some result_code)))) →
      (∀ event ∈ between, event.lstat = true) → now_ms' < access.expires_at_ms → hash_succeeds hash' →
      let world := reached sha256 capacity max_ttl_ms (before ++ .complete hash io access result_code :: between)
      world.store.isSome = true →
      (world.begin sha256 hash' io' access now_ms').1 = (.OK, some { kind := .COMPLETED, result_code := result_code }) := by
  refine ⟨?_, ?_, ?_⟩
  · intro before between rest hash io access now_ms hash' io' access' now_ms' out hevents hbegin hlstat hnew hid hlive
      world
    have hworld : world.Everywhere sha256 max_ttl_ms (Keeps (track sha256 access none)) := by
      change (reached _ _ _ (before ++ _ :: between)).Everywhere _ _ _
      rw [reached_append_cons]
      exact run_keeps (begin_new_everywhere (reached_ttl before) hbegin hnew) hlstat (live_between hclock hevents hlive)
    obtain ⟨honce, hdigest⟩ := begin_not_new hash' io' hworld hlive hid
    have hother : access' ≠ access → sha256 (access_bytes access') ≠ sha256 (access_bytes access) := fun hne heq =>
      hne (hfree.access_eq (.begin hash' io' access' now_ms') (.begin hash io access now_ms) (by simp [hevents]) rfl
        (by simp [hevents]) rfl heq)
    refine ⟨honce, fun hne => ⟨fun hok => hother hne (hdigest hok), fun hopen hadmitted hhash => ?_⟩⟩
    obtain ⟨entry, _, hanswer⟩ := begin_eq_of_keeps io' hworld hopen hadmitted hhash hlive hid
    exact hanswer.trans (if_pos (hother hne).symm)
  · intro before rest hash io access result_code hevents hcomplete hprogress
    exact (complete_keeps (reached_ttl before) (expires_of_digest hfree hevents rfl) hcomplete).2 (.inl hprogress)
  · intro before between rest hash io access result_code hash' io' now_ms' hevents hcomplete hrecords hlstat hlive hhash
      world hopen
    have hsplit : events = before ++ .complete hash io access result_code ::
      (between ++ .begin hash' io' access now_ms' :: rest) := by
      simp [hevents]
    obtain ⟨hmemory, hfile⟩ := complete_keeps (reached_ttl before) (expires_of_digest hfree hsplit rfl) hcomplete
    have hworld : world.Everywhere sha256 max_ttl_ms (Keeps (track sha256 access (some result_code))) := by
      change (reached _ _ _ (before ++ _ :: between)).Everywhere _ _ _
      rw [reached_append_cons]
      exact run_keeps ⟨hmemory, hfile hrecords⟩ hlstat (live_between hclock hevents hlive)
    obtain ⟨store, hstore⟩ := Option.isSome_iff_exists.mp hopen
    obtain ⟨slot, kept, hfind, hkept⟩ := (hworld.memory store hstore).2
    have hadmitted : Admitted max_ttl_ms access now_ms' :=
      admitted_of_issued hclock hfree hevents hlive hstore (find_eq_some hfind).1 hkept.digest
    obtain ⟨entry, hmatches, hanswer⟩ := begin_eq_of_keeps io' hworld hopen hadmitted hhash hlive rfl
    obtain ⟨hstate, hcode⟩ := hmatches.result result_code rfl
    have hsame : ¬ (track sha256 access (some result_code)).access_digest ≠ sha256 (access_bytes access) := not_not.mpr rfl
    rw [hanswer, if_neg hsame, answer, hstate, hcode]

/-- Calls that succeed. -/
def durable_persist : PersistIo :=
  { calloc := true, digested := true, opened := true, written := 4096, fsync := true, closed := true,
    replaced := .DURABLE, unlinked := true }

def sample_open : OpenIo :=
  { calloc := true, opened := true, locked := true, lstat := true, lstat_exact := true, malloc := true, read_exact := true,
    digested := true, persist := durable_persist }

def sample_start (now_ms : UInt64) : Event := .start sample_open now_ms

def sample_hash : HashIo := { created := true, digested := true }

/-- A read of one byte until time 100. -/
def sample_access : Access :=
  { tenant_id := take_bytes 32 [1], cid := { hash_algorithm := 1, size := 1, digest := take_bytes 32 [1] },
    operation := 1, range_offset := 0, range_length := 1, audience_node_id := take_bytes 32 [1],
    request_id := take_bytes 16 [1], expires_at_ms := 100 }

/-- A request that is begun and completed, with the outcomes of the calls that
persist the completion, and a crash of the process. -/
def sample_run (completions : List PersistIo) : List Event :=
  [sample_start 1, .begin sample_hash durable_persist sample_access 1] ++
    completions.map (.complete sample_hash · sample_access 7) ++ [.crash none, sample_start 2]

/-- What the reopened store reports. -/
def sample_report (completions : List PersistIo) : Result × Option Begin :=
  ((reached (fun _ => take_bytes 32 [1]) 1 1000 (sample_run completions)).begin (fun _ => take_bytes 32 [1]) sample_hash
    durable_persist sample_access 2).1

/-- A completion that is persisted is reported after the crash. -/
theorem persisted_completion_reported :
    sample_report [durable_persist] = (.OK, some { kind := .COMPLETED, result_code := 7 }) := by
  have hevents : sample_run [durable_persist] ++ [.begin sample_hash durable_persist sample_access 2] =
      [sample_start 1, .begin sample_hash durable_persist sample_access 1] ++
        .complete sample_hash durable_persist sample_access 7 :: [.crash none, sample_start 2] ++
          .begin sample_hash durable_persist sample_access 2 :: [] := rfl
  have hclock : Clocked (sample_run [durable_persist] ++ [.begin sample_hash durable_persist sample_access 2]) := by
    change List.Pairwise (· ≤ ·) ([1, 1, 2, 2] : List UInt64)
    decide
  have hone : ∀ event ∈ sample_run [durable_persist] ++ [.begin sample_hash durable_persist sample_access 2],
      ∀ access, event.access = some access → sample_access = access := by
    simp [sample_run, sample_start, Event.access]
  have hfree : CollisionFree (fun _ => take_bytes 32 [1])
      (sample_run [durable_persist] ++ [.begin sample_hash durable_persist sample_access 2]) := by
    rintro _ ⟨event, hevent, access, haccess, rfl⟩ _ ⟨event', hevent', access', haccess', rfl⟩ _
    rw [← hone event hevent access haccess, ← hone event' hevent' access' haccess']
  obtain ⟨_, _, hreported⟩ := replay_store_runs (fun _ => take_bytes 32 [1]) 1 1000 hclock hfree
  have hok : ((reached (fun _ => take_bytes 32 [1]) 1 1000
      [sample_start 1, .begin sample_hash durable_persist sample_access 1]).complete (fun _ => take_bytes 32 [1])
        sample_hash durable_persist sample_access 7).1 = .OK := by decide +kernel
  have hprogress : ((reached (fun _ => take_bytes 32 [1]) 1 1000
      [sample_start 1, .begin sample_hash durable_persist sample_access 1]).store.bind fun store =>
        find_entry store.journal.entries sample_access.request_id).map (fun found => found.2.state) =
          some .IN_PROGRESS := by decide +kernel
  have hopen : (reached (fun _ => take_bytes 32 [1]) 1 1000 (sample_run [durable_persist])).store.isSome = true := by
    decide +kernel
  have hreport := hreported _ _ _ _ _ _ _ _ _ _ hevents hok
    (.inl fun store hstore slot entry hfind => by
      rw [hstore, Option.bind_some, hfind] at hprogress
      exact Option.some.inj hprogress)
    (by simp [Event.lstat, sample_start, sample_open]) (by decide) ⟨rfl, rfl⟩
  exact hreport hopen

/-- A completion that cannot be persisted is refused, its retry is accepted, and
after the crash the request is in progress. -/
theorem retried_completion_lost :
    let failing : PersistIo := { durable_persist with opened := false }
    let before := [sample_start 1, .begin sample_hash durable_persist sample_access 1]
    let retry := before ++ [.complete sample_hash failing sample_access 7]
    ((reached (fun _ => take_bytes 32 [1]) 1 1000 before).complete (fun _ => take_bytes 32 [1]) sample_hash failing
        sample_access 7).1 = .IO_FAILED ∧
      ((reached (fun _ => take_bytes 32 [1]) 1 1000 retry).complete (fun _ => take_bytes 32 [1]) sample_hash
        durable_persist sample_access 7).1 = .OK ∧
      sample_report [failing, durable_persist] = (.OK, some { kind := .IN_PROGRESS, result_code := 0 }) := by
  decide +kernel

/-- A store that does not see its file begins the request again. -/
example :
    ((reached (fun _ => take_bytes 32 [1]) 1 1000 [sample_start 1, .begin sample_hash durable_persist sample_access 1,
      .crash none, .start { sample_open with lstat := false } 2]).begin (fun _ => take_bytes 32 [1]) sample_hash
        durable_persist sample_access 2).1 = (.OK, some { kind := .NEW, result_code := 0 }) := by
  decide +kernel

end runs

end turbop2p.m3_chunk_replay_store
