import TurboP2P.Lease.Guard

open turbop2p.mesh_task_execution_guard (execute_change sample_task sample_node sample_fresh)

namespace turbop2p.mesh_task_lease

section delivery

/-- A committed entry of the log: its index and its bytes. -/
abbrev Delivery := UInt64 × List UInt8

def deliver (store : Store) (entry : Delivery) : Store := (raft_apply_v1 store entry.1 entry.2).store

/-- Deliveries of a log in which entries that were delivered already can come
again at any point. -/
inductive Repeats : List Delivery → List Delivery → List Delivery → Prop
  | done {delivered : List Delivery} : Repeats delivered [] []
  | next {delivered log deliveries : List Delivery} {entry : Delivery}
      (hrest : Repeats (entry :: delivered) log deliveries) : Repeats delivered (entry :: log) (entry :: deliveries)
  | again {delivered log deliveries : List Delivery} {entry : Delivery} (hmem : entry ∈ delivered)
      (hrest : Repeats delivered log deliveries) : Repeats delivered log (entry :: deliveries)

/-- An entry up to the last index that was published changes nothing. -/
theorem deliver_past {store : Store} {entry : Delivery} (hindex : entry.1 ≤ store.applied_index) :
    deliver store entry = store := by
  unfold deliver raft_apply_v1
  cases decode_v1 entry.2 with
  | error result => rfl
  | ok command =>
    have hchange := execute_change command store entry.1
    dsimp only
    generalize command.execute store entry.1 = outcome at hchange ⊢
    cases hchange with
    | rejected result hresult => rfl
    | _ => exact absurd hindex (UInt64.not_le.mpr ‹_›)

theorem deliver_cases (store : Store) (entry : Delivery) :
    deliver store entry = store ∨ (deliver store entry).applied_index = entry.1 := by
  have heffect := raft_apply_effect store entry.1 entry.2
  unfold deliver
  generalize raft_apply_v1 store entry.1 entry.2 = outcome at heffect
  cases heffect with
  | rejected result hresult => exact .inl rfl
  | _ => exact .inr rfl

theorem run_repeats {store : Store} {delivered log deliveries : List Delivery}
    (hrepeats : Repeats delivered log deliveries) (hlog : (log.map Prod.fst).Pairwise (· < ·))
    (hearlier : ∀ entry ∈ delivered, ∀ later ∈ log, entry.1 < later.1)
    (hsettled : ∀ entry ∈ delivered, deliver store entry = store) :
    Machine.run deliver store deliveries = Machine.run deliver store log := by
  induction hrepeats generalizing store with
  | done => rfl
  | @next delivered log deliveries entry hrest ih =>
    obtain ⟨hfirst, hlog⟩ := List.pairwise_cons.mp hlog
    refine ih hlog (List.forall_mem_cons.mpr ⟨?_, ?_⟩) fun repetition hmem => ?_
    · exact fun later hlater => hfirst _ (List.mem_map_of_mem hlater)
    · exact fun repetition hmem later hlater => hearlier repetition hmem later (List.mem_cons_of_mem _ hlater)
    · rcases deliver_cases store entry with hsame | happlied
      · rw [hsame]
        rcases List.mem_cons.mp hmem with rfl | hmem
        · exact hsame
        · exact hsettled repetition hmem
      · refine deliver_past (happlied.symm ▸ ?_)
        rcases List.mem_cons.mp hmem with rfl | hmem
        · exact UInt64.le_refl _
        · exact UInt64.le_of_lt (hearlier repetition hmem entry List.mem_cons_self)
  | again hmem _ ih =>
    change Machine.run deliver (deliver store _) _ = _
    rw [hsettled _ hmem]
    exact ih hlog hearlier hsettled

/-- Two equal stores that apply one log of increasing indices stay equal, even if
entries come again to one of them. -/
theorem repeated_entries_ignored (store : Store) {log deliveries : List Delivery}
    (hlog : (log.map Prod.fst).Pairwise (· < ·)) (hrepeats : Repeats [] log deliveries) :
    Machine.run deliver store deliveries = Machine.run deliver store log :=
  run_repeats hrepeats hlog (by simp) (by simp)

/-- The registration of a task, and a lease of it from time 5 to time 20. -/
def sample_log : List Delivery :=
  let registration : Command :=
    { operation := .REGISTER, command_id := sample_task, request_digest := sample_node, holder_node_id := Bytes.zero 32
      task_deadline_ms := 100, observed_now_ms := 0, lease_expires_at_ms := 0, expected_fencing_token := 0
      result_code := 0, terminal_state := .NONE }
  [(1, registration.frame),
    (2, { registration with
      operation := .ACQUIRE, holder_node_id := sample_node, task_deadline_ms := 0, observed_now_ms := 5
      lease_expires_at_ms := 20 : Command }.frame)]

theorem registration_repeated :
    Machine.run deliver sample_fresh (sample_log.take 1 ++ sample_log ++ sample_log.take 1) =
      Machine.run deliver sample_fresh sample_log :=
  repeated_entries_ignored sample_fresh (by decide)
    (.next (.again List.mem_cons_self (.next (.again (.tail _ List.mem_cons_self) .done))))

/-- Two stores of equal capacity with different limits of a lease part on one
log. -/
theorem limits_part :
    (store_init_v1 1 50 true).2 = some sample_fresh ∧
      (store_init_v1 1 10 true).2 = some { sample_fresh with max_lease_duration_ms := 10 } ∧
      (sample_log.map Prod.fst).Pairwise (· < ·) ∧
      (Machine.run deliver sample_fresh sample_log).entries ≠
        (Machine.run deliver { sample_fresh with max_lease_duration_ms := 10 } sample_log).entries := by
  refine ⟨rfl, rfl, by decide, ?_⟩
  decide +kernel

end delivery

end turbop2p.mesh_task_lease
