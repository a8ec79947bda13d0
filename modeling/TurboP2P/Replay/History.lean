import TurboP2P.Replay.Recovery

open Durable (Disk Replaced)
open turbop2p.m3_chunk_replay (Access Begin BeginKind Entry EntryState HashIo Journal access_bytes access_is_valid
  begin_request_v1 complete_request_v1 find_entry hash_access sweep)

namespace turbop2p.m3_chunk_replay_store

structure World where
  store : Option Store
  file : File

/-- What happens to a store: calls with the outcomes of their system calls, and
crashes, which leave one of the contents that the file may have. Closing a
store is a crash that leaves the file as it is, and a crash within a call
is one after a call whose next system calls, `turbo_fs_unlink` too, fail. -/
inductive Event where
  | start (io : OpenIo) (now_ms : UInt64)
  | begin (hash : HashIo) (io : PersistIo) (access : Access) (now_ms : UInt64)
  | complete (hash : HashIo) (io : PersistIo) (access : Access) (result_code : Int32)
  | sweep (io : PersistIo) (now_ms : UInt64)
  | crash (left : Option (Nat × Option (List UInt8)))

/-- The time that a call is given. -/
def Event.time : Event → Option UInt64
  | .start _ now_ms => some now_ms
  | .begin _ _ _ now_ms => some now_ms
  | .sweep _ now_ms => some now_ms
  | _ => none

/-- A call that opens a store sees the file if it is there. -/
def Event.lstat : Event → Bool
  | .start io _ => io.lstat
  | _ => true

section runs

variable (sha256 : List UInt8 → Bytes 32) (capacity : Nat) (max_ttl_ms : UInt64)

/-- A call of `m3_chunk_replay_store_begin_v1`. -/
def World.begin (world : World) (hash : HashIo) (io : PersistIo) (access : Access) (now_ms : UInt64) :
    (Result × Option Begin) × World :=
  match world.store with
  | none => ((.INVALID_ARG, none), world)
  | some store =>
    let (answer, store, file) := begin_v1 sha256 hash io store world.file access now_ms
    (answer, { store := some store, file := file })

/-- A call of `m3_chunk_replay_store_complete_v1`. -/
def World.complete (world : World) (hash : HashIo) (io : PersistIo) (access : Access) (result_code : Int32) :
    Result × World :=
  match world.store with
  | none => (.INVALID_ARG, world)
  | some store =>
    let (result, store, file) := complete_v1 sha256 hash io store world.file access result_code
    (result, { store := some store, file := file })

def World.after (world : World) : Event → World
  | .start io now_ms =>
    match world.store with
    | some _ => world
    | none =>
      let (_, store, file) := open_v1 sha256 io world.file capacity max_ttl_ms now_ms
      { store := store, file := file }
  | .begin hash io access now_ms => (world.begin sha256 hash io access now_ms).2
  | .complete hash io access result_code => (world.complete sha256 hash io access result_code).2
  | .sweep io now_ms =>
    match world.store with
    | none => world
    | some store =>
      let (_, store, file) := sweep_v1 sha256 io store world.file now_ms
      { store := some store, file := file }
  | .crash left => { store := none, file := world.file.crash left }

/-- The world that a list of events leads to from a directory without a file. -/
def reached (events : List Event) : World :=
  Machine.run (World.after sha256 capacity max_ttl_ms) { store := none, file := Disk.empty } events

end runs

section everywhere

variable {sha256 : List UInt8 → Bytes 32} {capacity : Nat} {max_ttl_ms : UInt64} {Q : Option (SlotTable Entry) → Prop}

/-- What the file holds satisfies `Q`: there is no file, or it is the snapshot of
a table. -/
def Recorded (sha256 : List UInt8 → Bytes 32) (Q : Option (SlotTable Entry) → Prop) : Option (List UInt8) → Prop
  | none => Q none
  | some bytes => ∃ journal generation, bytes = snapshot sha256 journal generation ∧ Q (some journal.entries)

/-- The table in memory satisfies `Q`, and so does every content that the file
may have. -/
structure World.Everywhere (sha256 : List UInt8 → Bytes 32) (max_ttl_ms : UInt64) (Q : Option (SlotTable Entry) → Prop)
    (world : World) : Prop where
  memory : ∀ store ∈ world.store, store.journal.max_ttl_ms = max_ttl_ms ∧ Q (some store.journal.entries)
  file : world.file.Always (Recorded sha256 Q)

/-- The changes that an event can make to a table keep `Q`. -/
structure KeptBy (sha256 : List UInt8 → Bytes 32) (capacity : Nat) (max_ttl_ms : UInt64)
    (Q : Option (SlotTable Entry) → Prop) (event : Event) : Prop where
  created : (event.lstat = true → Q none) → Q (some (List.replicate capacity none))
  swept : ∀ {now_ms entries}, event.time = some now_ms → Q (some entries) → Q (some (swept entries now_ms))
  begun : ∀ {hash io access now_ms entries slot}, event = .begin hash io access now_ms →
    Admitted max_ttl_ms access now_ms → find_entry entries access.request_id = none → entries.free = some slot →
    Q (some entries) → Q (some (entries.set slot (some (access.entry (sha256 (access_bytes access))))))
  completed : ∀ {hash io access result_code entries slot entry}, event = .complete hash io access result_code →
    find_entry entries access.request_id = some (slot, entry) → entry.state = .IN_PROGRESS → Q (some entries) →
    Q (some (entries.set slot (some { entry with state := .COMPLETED, result_code := result_code })))

variable {io : PersistIo} {access : Access} {now_ms : UInt64} {world : World}

variable {after store : Store} {answer : Result × Bool} {file file' : File} {hash : HashIo}

theorem persist_always (hpersist : persist_snapshot sha256 io store file = (answer, after, file'))
    (hmemory : Q (some store.journal.entries)) (hfile : file.Always (Recorded sha256 Q)) :
    after.journal = store.journal ∧ file'.Always (Recorded sha256 Q) := by
  obtain ⟨hjournal, ⟨_, _, hsame⟩ | ⟨generation, ⟨_, _, hsame⟩ | ⟨_, rfl⟩⟩⟩ := persist_cases hpersist
  · exact ⟨hjournal, hsame.always hfile⟩
  · exact ⟨hjournal, hsame.always (hfile.replace ⟨_, _, rfl, hmemory⟩ _)⟩
  · exact ⟨hjournal, hfile.replace ⟨_, _, rfl, hmemory⟩ _⟩

/-- An open store whose table satisfies `Q`. -/
theorem World.Everywhere.of_store (httl : store.journal.max_ttl_ms = max_ttl_ms)
    (hmemory : Q (some store.journal.entries)) (hfile : file.Always (Recorded sha256 Q)) :
    World.Everywhere sha256 max_ttl_ms Q { store := some store, file } := by
  refine ⟨?_, hfile⟩
  rintro _ ⟨⟩
  exact ⟨httl, hmemory⟩

/-- The same after its table was written. -/
theorem World.Everywhere.persisted (hpersist : persist_snapshot sha256 io store file = (answer, after, file'))
    (httl : store.journal.max_ttl_ms = max_ttl_ms) (hmemory : Q (some store.journal.entries))
    (hfile : file.Always (Recorded sha256 Q)) :
    World.Everywhere sha256 max_ttl_ms Q { store := some after, file := file' } := by
  obtain ⟨hjournal, hfile⟩ := persist_always hpersist hmemory hfile
  rw [← hjournal] at httl hmemory
  exact .of_store httl hmemory hfile

/-- A request that is taken back leaves the table as it was. -/
theorem forget_entry_set {entries : SlotTable Entry} {slot : Nat} (digest : Bytes 32)
    (hfind : find_entry entries access.request_id = none) (hfree : entries.free = some slot) :
    forget_entry (entries.set slot (some (access.entry digest))) access.request_id = entries := by
  have hfound : find_entry (entries.set slot (some (access.entry digest))) access.request_id =
      some (slot, access.entry digest) :=
    SlotTable.find_set_matched (SlotTable.lt_of_free hfree) (by simp [Access.entry]) fun j entry _ hholds =>
      SlotTable.find_eq_none.mp hfind j entry hholds
  rw [forget_entry, hfound]
  simp only [Access.entry, if_true, List.set_set]
  exact SlotTable.set_free hfree

theorem begin_everywhere (hkept : KeptBy sha256 capacity max_ttl_ms Q (.begin hash io access now_ms))
    (hworld : world.Everywhere sha256 max_ttl_ms Q) :
    (world.begin sha256 hash io access now_ms).2.Everywhere sha256 max_ttl_ms Q := by
  unfold World.begin
  cases hstore : world.store with
  | none => exact hworld
  | some store =>
    obtain ⟨httl, hmemory⟩ := hworld.memory store hstore
    have hswept := hkept.swept rfl hmemory
    dsimp only
    unfold begin_v1
    have hbegun := begin_request_begun sha256 hash store.journal access now_ms
    generalize begin_request_v1 sha256 hash store.journal access now_ms = outcome at hbegun
    cases hbegun with
    | refused hresult hafter =>
      split
      · rename_i heq
        cases heq
      · rename_i heq
        cases heq
        obtain rfl | rfl := hafter
        · exact .of_store httl hmemory hworld.file
        · exact .of_store httl hswept hworld.file
    | found hadmitted hfind hdigest =>
      rename_i slot entry
      have hkind := answer_kind_ne_new entry
      simp only [ne_eq, hkind, not_false_eq_true, if_true]
      exact .of_store httl hswept hworld.file
    | fresh hadmitted hfind hfree =>
      have hbegun := hkept.begun rfl (httl ▸ hadmitted) hfind hfree hswept
      simp only [ne_eq, not_true_eq_false, if_false]
      split
      · rename_i store' file' hpersist
        exact .persisted hpersist httl hbegun hworld.file
      · rename_i result store' file' hpersist
        exact .persisted hpersist httl hbegun hworld.file
      · rename_i result store' file' hpersist
        obtain ⟨hjournal, hfile⟩ := persist_always hpersist hbegun hworld.file
        refine ⟨fun _ hmem => ?_, hfile⟩
        rw [← Option.some.inj hmem, hjournal, forget_entry_set _ hfind hfree]
        exact ⟨httl, hswept⟩

theorem complete_everywhere {result_code : Int32}
    (hkept : KeptBy sha256 capacity max_ttl_ms Q (.complete hash io access result_code))
    (hworld : world.Everywhere sha256 max_ttl_ms Q) :
    (world.complete sha256 hash io access result_code).2.Everywhere sha256 max_ttl_ms Q := by
  unfold World.complete
  cases hstore : world.store with
  | none => exact hworld
  | some store =>
    obtain ⟨httl, hmemory⟩ := hworld.memory store hstore
    dsimp only
    unfold complete_v1
    have hcompleted := complete_request_completed sha256 hash store.journal access result_code
    generalize complete_request_v1 sha256 hash store.journal access result_code = outcome at hcompleted
    have hafter : outcome.2.max_ttl_ms = max_ttl_ms ∧ Q (some outcome.2.entries) := by
      cases hcompleted with
      | refused hresult => exact ⟨httl, hmemory⟩
      | already hvalid hfind hdigest hstate hcode => exact ⟨httl, hmemory⟩
      | first hvalid hfind hdigest hstate => exact ⟨httl, hkept.completed rfl hfind hstate hmemory⟩
    dsimp only
    split
    · exact .of_store hafter.1 hafter.2 hworld.file
    · rcases hpersist : persist_snapshot sha256 io { store with journal := outcome.2 } world.file with
        ⟨answer, store', file'⟩
      exact .persisted hpersist hafter.1 hafter.2 hworld.file

theorem sweep_everywhere (hkept : KeptBy sha256 capacity max_ttl_ms Q (.sweep io now_ms))
    (hworld : world.Everywhere sha256 max_ttl_ms Q) :
    (world.after sha256 capacity max_ttl_ms (.sweep io now_ms)).Everywhere sha256 max_ttl_ms Q := by
  unfold World.after
  cases hstore : world.store with
  | none => exact hworld
  | some store =>
    obtain ⟨httl, hmemory⟩ := hworld.memory store hstore
    have hswept := hkept.swept rfl hmemory
    unfold sweep_v1
    dsimp only
    split
    · exact .of_store httl hswept hworld.file
    · rcases hpersist : persist_snapshot sha256 io { store with journal := { store.journal with
          entries := (sweep store.journal.entries now_ms).2 } } world.file with ⟨answer, store', file'⟩
      exact .persisted hpersist httl hswept hworld.file

/-- A store that is opened has the entries of its file that have not expired. -/
theorem open_everywhere {io : OpenIo} {answer : Result × Nat} {store : Option Store}
    (hkept : KeptBy sha256 capacity max_ttl_ms Q (.start io now_ms)) (hfile : file.Always (Recorded sha256 Q))
    (hopen : open_v1 sha256 io file capacity max_ttl_ms now_ms = (answer, store, file')) :
    World.Everywhere sha256 max_ttl_ms Q { store := store, file := file' } := by
  have hclosed : ∀ {answer' : Result × Nat}, (answer', (none : Option Store), file) = (answer, store, file') →
      World.Everywhere sha256 max_ttl_ms Q { store := store, file := file' } := by
    intro answer' heq
    cases heq
    exact ⟨by simp, hfile⟩
  unfold open_v1 at hopen
  split at hopen
  · exact hclosed hopen
  split at hopen
  · exact hclosed hopen
  split at hopen
  · exact hclosed hopen
  split at hopen
  · exact hclosed hopen
  · cases hvisible : if io.lstat then file.visible else none with
    | none =>
      have hcreated : Q (some (List.replicate capacity none)) := by
        refine hkept.created fun hlstat => ?_
        have hlstat : io.lstat = true := hlstat
        have hnone := hfile.1
        rw [if_pos hlstat] at hvisible
        rw [hvisible] at hnone
        exact hnone
      rw [hvisible] at hopen
      dsimp only at hopen
      split at hopen
      · rename_i store' file'' hpersist
        cases hopen
        exact .persisted hpersist rfl hcreated hfile
      · rename_i hpersist
        cases hopen
        exact ⟨by simp, (persist_always hpersist hcreated hfile).2⟩
    | some bytes =>
      obtain ⟨journal, generation, rfl, hjournal⟩ : ∃ journal generation, bytes = snapshot sha256 journal generation ∧
          Q (some journal.entries) := by
        obtain ⟨_, hvisible⟩ := Option.ite_none_right_eq_some.mp hvisible
        have hbytes := hfile.1
        rw [hvisible] at hbytes
        exact hbytes
      rw [hvisible] at hopen
      dsimp only at hopen
      split at hopen
      · exact hclosed hopen
      by_cases hlength : (snapshot sha256 journal generation).length ≠ HEADER_SIZE + capacity * RECORD_SIZE
      · rw [if_pos hlength] at hopen
        exact hclosed hopen
      rw [if_neg hlength] at hopen
      split at hopen
      · exact hclosed hopen
      split at hopen
      · exact hclosed hopen
      · have hcapacity : capacity = journal.entries.length := by
          rw [snapshot, length_frame] at hlength
          simp only [RECORD_SIZE] at hlength
          omega
        subst hcapacity
        cases hdecode : decode_snapshot sha256 io.digested journal.entries.length max_ttl_ms
            (snapshot sha256 journal generation) now_ms with
        | error result =>
          rw [hdecode] at hopen
          exact hclosed hopen
        | ok decoded =>
          obtain ⟨generation', loaded⟩ := decoded
          have hloaded : Q (some loaded.entries) := by
            rw [decode_snapshot_entries hdecode]
            exact hkept.swept rfl hjournal
          rw [hdecode] at hopen
          dsimp only at hopen
          split at hopen
          · split at hopen
            · rename_i store' file'' hpersist
              cases hopen
              exact .persisted hpersist rfl hloaded hfile
            · rename_i hpersist
              cases hopen
              exact ⟨by simp, (persist_always hpersist hloaded hfile).2⟩
          · cases hopen
            exact .of_store rfl hloaded hfile

/-- An event keeps what its changes to a table keep. -/
theorem after_everywhere {event : Event} (hkept : KeptBy sha256 capacity max_ttl_ms Q event)
    (hworld : world.Everywhere sha256 max_ttl_ms Q) :
    (world.after sha256 capacity max_ttl_ms event).Everywhere sha256 max_ttl_ms Q := by
  cases event with
  | start io now_ms =>
    unfold World.after
    cases hstore : world.store with
    | some store => exact hworld
    | none => exact open_everywhere hkept hworld.file rfl
  | begin hash io access now_ms => exact begin_everywhere hkept hworld
  | complete hash io access result_code => exact complete_everywhere hkept hworld
  | sweep io now_ms => exact sweep_everywhere hkept hworld
  | crash left => exact ⟨by simp [World.after], hworld.file.crash left⟩

end everywhere

end turbop2p.m3_chunk_replay_store
