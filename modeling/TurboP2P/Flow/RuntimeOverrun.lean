import TurboP2P.Flow.RuntimeSafety

open turbop2p.mesh_flow_ruleset

namespace turbop2p.mesh_flow_runtime

/-- An IPv4 header without payload. -/
def sample_packet : Packet :=
  { direction := 1, bytes := [0x45, 0, 0, 20, 0, 0, 0, 0, 64, 6, 0, 0, 10, 0, 0, 1, 10, 0, 0, 2]
    peer_identity := none }

def sample_query : Query :=
  { src_ip := 0x0a000001, dst_ip := 0x0a000002, src_port := 0, dst_port := 0, direction := 1, ip_proto := 6
    has_ports := 0, peer_identity := List.Vector.replicate 32 0 }

/-- The policy without rules of the given epoch, committed at that index. -/
def sample_policy (epoch : UInt64) : Replacement :=
  { committed_index := epoch, policy_epoch := epoch, default_action := .ALLOW, rules := [] }

/-- A runtime for one rule, as it is initialised. -/
def sample_memory : Memory :=
  { slots := fun _ =>
      { rules := [], rule_count := 0, capacity := 1, policy_epoch := 0, applied_index := 0, default_action := .DENY,
        is_open := true }
    active_slot := false
    readers := fun _ => 0
    published := false
    required_index := 0
    writer := false }

/-- A call and a number of its accesses, none of which fails. -/
def call_inputs (call : Call) (accesses : Nat) : List Input :=
  .call call :: List.replicate accesses (.proceed false)

def first_memory : Memory := (Threads.solo thread_step sample_memory .idle (call_inputs (.publish (sample_policy 1)) 14)).1

/-- Thread 0 publishes a policy; as many threads as the counter has values pin
its slot; thread 0 publishes a second policy and turns to the third. -/
def overrun_inputs : List (Nat × Input) :=
  (call_inputs (.publish (sample_policy 1)) 14).map (Prod.mk 0) ++
    ((List.range 4294967296).flatMap fun k => (call_inputs (.evaluate sample_packet) 5).map (Prod.mk (k + 1))) ++
    (call_inputs (.publish (sample_policy 2)) 15 ++ call_inputs (.publish (sample_policy 3)) 6).map (Prod.mk 0)

theorem sample_init : init_v1 1 .DENY = some sample_memory := rfl

/-- A reader that runs alone up to its first read. -/
theorem solo_reader {memory : Memory} (hpublished : memory.published = true) :
    Threads.solo thread_step memory .idle (call_inputs (.evaluate sample_packet) 5) =
      ({ memory with
          readers := Function.update memory.readers memory.active_slot (memory.readers memory.active_slot + 1) },
        .evaluate sample_packet (.read sample_query memory.active_slot .arguments),
        [.began (.evaluate sample_packet)]) := by
  have hheader : sample_packet.has_ipv4_header = true := by decide
  have hquery : sample_packet.query = some sample_query := by decide
  simp [call_inputs, Threads.solo, thread_step, Call.start, evaluate_step, hheader, hquery, hpublished]

/-- The memory while so many readers have the active slot pinned. -/
def pinned_memory (count : Nat) : Memory :=
  { first_memory with readers := Function.update first_memory.readers true (UInt32.ofNat count) }

/-- A thread that has begun to read the active slot. -/
def reader : Thread := .evaluate sample_packet (.read sample_query true .arguments)

/-- One thread after the other pins the active slot. -/
theorem run_readers (history : List (Nat × Event)) (count rest : Nat) :
    ∃ history', Machine.run (Threads.step thread_step)
        { memory := pinned_memory 0, threads := .idle :: List.replicate (count + rest) .idle, history := history }
        ((List.range count).flatMap fun k => (call_inputs (.evaluate sample_packet) 5).map (Prod.mk (k + 1))) =
      { memory := pinned_memory count, threads := .idle :: (List.replicate count reader ++ List.replicate rest .idle)
        history := history' } := by
  induction count generalizing rest with
  | zero => exact ⟨history, by simp [Machine.run]⟩
  | succ count ih =>
    obtain ⟨history', hrun⟩ := ih (rest + 1)
    have hget : (Thread.idle :: (List.replicate count reader ++ List.replicate (rest + 1) .idle))[count + 1]? =
        some .idle := by simp
    have hsolo : Threads.solo thread_step (pinned_memory count) .idle (call_inputs (.evaluate sample_packet) 5) =
        (pinned_memory (count + 1), reader, [.began (.evaluate sample_packet)]) := by
      rw [solo_reader rfl]
      have hactive : first_memory.active_slot = true := rfl
      simp [hactive, pinned_memory, reader]
    have hthreads : (Thread.idle :: (List.replicate count reader ++ List.replicate (rest + 1) .idle)).set (count + 1)
        reader = .idle :: (List.replicate (count + 1) reader ++ List.replicate rest .idle) := by
      rw [List.set_cons_succ, List.set_append_right _ _ (by simp), List.length_replicate, Nat.sub_self,
        List.replicate_succ, List.set_cons_zero, List.replicate_succ', List.append_assoc, List.singleton_append]
    refine ⟨history' ++ [(count + 1, .began (.evaluate sample_packet))], ?_⟩
    rw [List.range_succ, List.flatMap_append, List.flatMap_singleton, Machine.run_append, Nat.add_right_comm,
      Nat.add_assoc, hrun, Threads.run_solo hget, hsolo, hthreads]
    rfl

/-- With one thread more than a counter has values, the overrun ends with
thread 0 about to rewrite the slot that all others are reading. -/
theorem run_overrun (rest : Nat) :
    ∃ memory history, run sample_memory (4294967297 + rest) overrun_inputs =
      { memory := memory
        threads := .publish (sample_policy 3) (.replace false Field.all) ::
          (List.replicate 4294967296 reader ++ List.replicate rest .idle)
        history := history } := by
  have hfirst : (Threads.solo thread_step sample_memory .idle
      (call_inputs (.publish (sample_policy 1)) 14)).2.1 = .idle := by decide
  have hlast : (Threads.solo thread_step (pinned_memory 4294967296) .idle
      (call_inputs (.publish (sample_policy 2)) 15 ++ call_inputs (.publish (sample_policy 3)) 6)).2.1 =
        .publish (sample_policy 3) (.replace false Field.all) := by decide
  have hpinned : first_memory = pinned_memory 0 := by
    have hreaders : first_memory.readers = Function.update first_memory.readers true 0 := by
      funext slot
      cases slot <;> rfl
    exact congrArg (fun readers => { first_memory with readers := readers }) hreaders
  have hcount : 4294967297 + rest = 4294967296 + rest + 1 := by omega
  rw [run, overrun_inputs, hcount, List.replicate_succ, Machine.run_append, Machine.run_append,
    Threads.run_solo_first, hfirst, ← first_memory, hpinned]
  obtain ⟨history, hreaders⟩ := run_readers ([] ++ (Threads.solo thread_step sample_memory .idle
    (call_inputs (.publish (sample_policy 1)) 14)).2.2.map (Prod.mk 0)) 4294967296 rest
  rw [hreaders, Threads.run_solo_first, hlast]
  exact ⟨_, _, rfl⟩

/-- In the end thread 0 rewrites what the others read. -/
theorem overrun_rewrites (rest : Nat) :
    ∃ publisher ∈ (run sample_memory (4294967297 + rest) overrun_inputs).threads, publisher.writes = some true ∧
      ∃ user ∈ (run sample_memory (4294967297 + rest) overrun_inputs).threads, user.uses = some true := by
  obtain ⟨memory, history, hrun⟩ := run_overrun rest
  rw [hrun]
  refine ⟨_, List.mem_cons_self, rfl, reader, List.mem_cons_of_mem _ (List.mem_append_left _ ?_), rfl⟩
  exact List.mem_replicate.mpr ⟨Nat.succ_ne_zero 4294967295, rfl⟩

/-- The runtime is safe for the calls of any number of threads up to that of
the values of a reader counter, and not for any greater one: then a
publisher can find the counter of a slot at zero that is being read, and
writes to it. -/
theorem runtime_safe_iff (thread_count : Nat) :
    ((∀ capacity default_action memory, init_v1 capacity default_action = some memory →
        ∀ inputs, Safe capacity (run memory thread_count inputs)) ↔ thread_count ≤ 4294967296) ∧
      (4294967296 < thread_count → ∃ memory inputs, init_v1 1 .DENY = some memory ∧
        ∃ publisher ∈ (run memory thread_count inputs).threads,
        ∃ reader ∈ (run memory thread_count inputs).threads,
        ∃ slot, reader.uses = some slot ∧ publisher.writes = some slot) := by
  refine ⟨⟨fun hsafe => ?_, fun hthreads _ _ _ hinit inputs => run_safe hinit hthreads inputs⟩, fun hmore => ?_⟩
  · by_contra hmore
    obtain ⟨rest, rfl⟩ := Nat.exists_eq_add_of_le (Nat.not_le.mp hmore)
    obtain ⟨publisher, hpublisher, hwrites, user, huser, huses⟩ := overrun_rewrites rest
    exact (hsafe 1 .DENY sample_memory sample_init overrun_inputs).exclusive user huser publisher hpublisher true
      huses hwrites
  · obtain ⟨rest, rfl⟩ := Nat.exists_eq_add_of_le hmore
    obtain ⟨publisher, hpublisher, hwrites, user, huser, huses⟩ := overrun_rewrites rest
    exact ⟨sample_memory, overrun_inputs, sample_init, publisher, hpublisher, user, huser, true, huses, hwrites⟩

/-- One thread that publishes and 2^32 threads that read: the slot of the
readers is about to be rewritten. -/
theorem counter_overrun_rewrites_slot :
    init_v1 1 .DENY = some sample_memory ∧
      ∃ publisher ∈ (run sample_memory 4294967297 overrun_inputs).threads,
        publisher.writes = some true ∧
          ∃ user ∈ (run sample_memory 4294967297 overrun_inputs).threads, user.uses = some true :=
  ⟨sample_init, overrun_rewrites 0⟩

end turbop2p.mesh_flow_runtime
