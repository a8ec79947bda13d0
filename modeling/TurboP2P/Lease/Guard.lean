import TurboP2P.Lease.Outcome

open Codec
open turbop2p.mesh_task_lease
open SlotTable
open Machine

namespace turbop2p.mesh_task_execution_guard

/-- `mesh_task_execution_guard_result_t`. -/
inductive GuardResult where
  | OK
  | INVALID_ARG
  | NOT_FOUND
  | IDENTITY_CONFLICT
  | NOT_LEASED
  | FENCED
  | STALE_READ
  | EXPIRED
  | CRYPTO_FAILED
  deriving DecidableEq

/-- `mesh_task_execution_claim_v1_t`. -/
structure Claim where
  command_id : CommandId
  request_digest : Digest
  target_node_id : Digest
  task_deadline_ms : UInt64
  deriving DecidableEq

/-- `mesh_task_execution_proof_v1_t`. -/
structure Proof where
  fencing_token : UInt64
  worker_generation : UInt64
  quorum_read_index : UInt64
  local_applied_index : UInt64
  observed_now_ms : UInt64
  deriving DecidableEq

/-- `WORKER_IDENTITY_DOMAIN`: `mesh/task/worker/v1`. -/
def WORKER_IDENTITY_DOMAIN : List UInt8 :=
  [109, 101, 115, 104, 47, 116, 97, 115, 107, 47, 119, 111, 114, 107, 101, 114, 47, 118, 49]

/-- The bytes that stand for a worker: its node and the generation of its
process. -/
def worker_canonical (node_id : Digest) (worker_generation : UInt64) : List UInt8 :=
  WORKER_IDENTITY_DOMAIN ++ (node_id.toList ++ write_u64_be worker_generation)

/-- `mesh_task_worker_identity_v1`; `blake2b_256` is the digest function of the
cryptographic library, which can fail. -/
def worker_identity_v1 (blake2b_256 : List UInt8 → Option Digest) (node_id : Digest) (worker_generation : UInt64) :
    Except GuardResult Digest :=
  if Bytes.is_zero node_id.toList ∨ worker_generation = 0 then .error .INVALID_ARG
  else
    match blake2b_256 (worker_canonical node_id worker_generation) with
    | none => .error .CRYPTO_FAILED
    | some identity => .ok identity

def lease_get_v1 (store : Store) (command_id : CommandId) : Except Result Entry :=
  if store.is_open = false then .error .INVALID_STATE
  else if Bytes.is_zero command_id.toList then .error .INVALID_ARG
  else
    match find_entry store command_id with
    | none => .error .NOT_FOUND
    | some (_, entry) => .ok entry

/-- `mesh_task_execution_guard_v1`: the lease that it admits or the reason why
it does not. -/
def guard_v1 (blake2b_256 : List UInt8 → Option Digest) (store : Store) (local_node_id : Digest) (claim : Claim)
    (proof : Proof) : Except GuardResult Entry :=
  if store.is_open = false ∨ proof.fencing_token = 0 ∨ proof.worker_generation = 0 ∨ proof.quorum_read_index = 0 ∨
      proof.local_applied_index = 0 ∨ proof.observed_now_ms = 0 ∨ Bytes.is_zero claim.command_id.toList ∨
      Bytes.is_zero claim.request_digest.toList ∨ Bytes.is_zero claim.target_node_id.toList ∨
      claim.task_deadline_ms = 0 then .error .INVALID_ARG
  else if local_node_id ≠ claim.target_node_id then .error .IDENTITY_CONFLICT
  else
    match lease_get_v1 store claim.command_id with
    | .error .NOT_FOUND => .error .NOT_FOUND
    | .error _ => .error .INVALID_ARG
    | .ok lease =>
      if lease.request_digest ≠ claim.request_digest ∨ lease.task_deadline_ms ≠ claim.task_deadline_ms then
        .error .IDENTITY_CONFLICT
      else if lease.state ≠ .LEASED then .error .NOT_LEASED
      else
        match worker_identity_v1 blake2b_256 local_node_id proof.worker_generation with
        | .error result => .error result
        | .ok worker_identity =>
          if worker_identity ≠ lease.holder_node_id ∨ proof.fencing_token ≠ lease.fencing_token then .error .FENCED
          else if proof.local_applied_index < proof.quorum_read_index ∨
              proof.quorum_read_index < lease.mutation_index then .error .STALE_READ
          else if proof.observed_now_ms ≥ lease.lease_expires_at_ms ∨
              proof.observed_now_ms ≥ lease.task_deadline_ms then .error .EXPIRED
          else .ok lease

/-- The guard admits the proof of a node for a task. -/
def Admits (blake2b_256 : List UInt8 → Option Digest) (store : Store) (local_node_id : Digest) (claim : Claim)
    (proof : Proof) : Prop :=
  ∃ lease, guard_v1 blake2b_256 store local_node_id claim proof = .ok lease

instance (blake2b_256 : List UInt8 → Option Digest) (store : Store) (local_node_id : Digest) (claim : Claim)
    (proof : Proof) : Decidable (Admits blake2b_256 store local_node_id claim proof) :=
  match hguard : guard_v1 blake2b_256 store local_node_id claim proof with
  | .ok lease => isTrue ⟨lease, hguard⟩
  | .error _ => isFalse (by simp [Admits, hguard])

/-- Two inputs are a collision of the digest function. -/
def Collision (blake2b_256 : List UInt8 → Option Digest) (first second : List UInt8) : Prop :=
  first ≠ second ∧ ∃ identity, blake2b_256 first = some identity ∧ blake2b_256 second = some identity

section guard

variable {blake2b_256 : List UInt8 → Option Digest} {store : Store} {local_node_id : Digest} {claim : Claim}
  {proof : Proof}

/-- An admitted proof carries the token of the task's live lease and comes
from the worker that holds it. -/
theorem Admits.lease (hadmits : Admits blake2b_256 store local_node_id claim proof) :
    ∃ slot lease, find_entry store claim.command_id = some (slot, lease) ∧ lease.state = .LEASED ∧
      lease.fencing_token = proof.fencing_token ∧
      blake2b_256 (worker_canonical local_node_id proof.worker_generation) = some lease.holder_node_id := by
  obtain ⟨admitted, hguard⟩ := hadmits
  obtain ⟨_, hguard⟩ := guard_passed hguard
  obtain ⟨_, hguard⟩ := guard_passed hguard
  cases hget : lease_get_v1 store claim.command_id with
  | error result => cases result <;> simp [hget] at hguard
  | ok lease =>
    simp only [hget] at hguard
    obtain ⟨_, hguard⟩ := guard_passed hguard
    obtain ⟨hleased, hguard⟩ := guard_passed hguard
    cases hidentity : worker_identity_v1 blake2b_256 local_node_id proof.worker_generation with
    | error result => simp [hidentity] at hguard
    | ok identity =>
      simp only [hidentity] at hguard
      obtain ⟨hfence, _⟩ := guard_passed hguard
      simp only [not_or, ne_eq, not_not] at hleased hfence
      obtain ⟨slot, hfind⟩ : ∃ slot, find_entry store claim.command_id = some (slot, lease) := by
        obtain ⟨_, hget⟩ := guard_passed hget
        obtain ⟨_, hget⟩ := guard_passed hget
        cases hfind : find_entry store claim.command_id with
        | none => simp [hfind] at hget
        | some found =>
          simp only [hfind, Except.ok.injEq] at hget
          exact ⟨found.1, by rw [← hget]⟩
      have hdigest : blake2b_256 (worker_canonical local_node_id proof.worker_generation) = some identity := by
        obtain ⟨_, hidentity⟩ := guard_passed hidentity
        cases hhash : blake2b_256 (worker_canonical local_node_id proof.worker_generation) with
        | none => simp [hhash] at hidentity
        | some digest => simpa [hhash] using hidentity
      exact ⟨slot, lease, hfind, hleased, hfence.2.symm, hfence.1 ▸ hdigest⟩

theorem worker_canonical_inj {node_id node_id' : Digest} {generation generation' : UInt64}
    (heq : worker_canonical node_id generation = worker_canonical node_id' generation') :
    node_id = node_id' ∧ generation = generation' := by
  have htail := List.append_cancel_left heq
  obtain ⟨hnode, hgeneration⟩ := List.append_inj htail (by simp)
  refine ⟨List.Vector.eq _ _ hnode, ?_⟩
  have hread : read_u64_be (write_u64_be generation ++ []) = read_u64_be (write_u64_be generation' ++ []) := by
    rw [hgeneration]
  rwa [read_write_u64_be, read_write_u64_be] at hread

/-- Two proofs that are admitted for one task in one state agree in node,
generation and token, unless the two workers are a collision of the digest
function. -/
theorem Admits.unique {local_node_id' : Digest} {claim' : Claim} {proof' : Proof}
    (hadmits : Admits blake2b_256 store local_node_id claim proof)
    (hadmits' : Admits blake2b_256 store local_node_id' claim' proof') (htask : claim'.command_id = claim.command_id) :
    (local_node_id = local_node_id' ∧ proof.worker_generation = proof'.worker_generation ∧
      proof.fencing_token = proof'.fencing_token) ∨
    Collision blake2b_256 (worker_canonical local_node_id proof.worker_generation)
      (worker_canonical local_node_id' proof'.worker_generation) := by
  obtain ⟨slot, lease, hfind, _, htoken, hholder⟩ := hadmits.lease
  obtain ⟨slot', lease', hfind', _, htoken', hholder'⟩ := hadmits'.lease
  rw [htask, hfind] at hfind'
  obtain ⟨_, rfl⟩ := Prod.mk.inj (Option.some.inj hfind')
  by_cases hsame : worker_canonical local_node_id proof.worker_generation =
      worker_canonical local_node_id' proof'.worker_generation
  · obtain ⟨hnode, hgeneration⟩ := worker_canonical_inj hsame
    exact .inl ⟨hnode, hgeneration, htoken.symm.trans htoken'⟩
  · exact .inr ⟨hsame, lease.holder_node_id, hholder, hholder'⟩

end guard

/-- What a successful command other than a repeated registration makes of the
entry of its task: a leased one has the index of the command as its token,
and no token is older than before or newer than the command. -/
structure Succeeds (committed_index : UInt64) (old new : Entry) : Prop where
  key : new.command_id = old.command_id
  leased : new.state = .LEASED → new.fencing_token = committed_index
  token : new.fencing_token = old.fencing_token ∨ new.fencing_token = committed_index

/-- What a lease command makes of a store. -/
inductive Change (store : Store) (committed_index : UInt64) (command_id : CommandId) (operation : Operation) :
    Outcome → Prop
  | rejected (result : Result) (hresult : result ≠ .OK) :
      Change store committed_index command_id operation (reject store result)
  | repeated (entry : Entry) (hoperation : operation = .REGISTER) (hindex : store.applied_index < committed_index) :
      Change store committed_index command_id operation
        { result := .OK, out_entry := some entry, store := { store with applied_index := committed_index } }
  | registered (slot : Nat) (entry : Entry) (hoperation : operation = .REGISTER)
      (hindex : store.applied_index < committed_index) (hfree : store.entries.free = some slot)
      (hfresh : find_entry store entry.command_id = none) (hready : entry.state = .READY) (htoken : entry.fencing_token = 0) :
      Change store committed_index command_id operation
        (commit { store with count := store.count + 1 } committed_index slot entry)
  | updated (slot : Nat) (old new : Entry) (hindex : store.applied_index < committed_index)
      (hfind : find_entry store command_id = some (slot, old)) (hsucceeds : Succeeds committed_index old new) :
      Change store committed_index command_id operation (commit store committed_index slot new)

/-- Every command makes one of the listed changes. -/
theorem execute_change (command : Command) (store : Store) (committed_index : UInt64) :
    Change store committed_index command.command_id command.operation (command.execute store committed_index) :=
  command.execute_cases .rejected (fun hop hindex _ entry _ => .repeated entry hop hindex)
    (fun hop hindex slot entry => .registered slot entry hop hindex)
    fun hindex slot old new hfind hkey hleased htoken => .updated slot old new hindex hfind ⟨hkey, hleased, htoken⟩

/-- The store after a command at a committed index. -/
def apply (store : Store) (input : UInt64 × Command) : Store := (input.2.execute store input.1).store

/-- The stores that lease commands can produce. -/
abbrev ReachableStore :=
  { store : Store // ∃ capacity max_lease_duration_ms fresh inputs,
      (store_init_v1 capacity max_lease_duration_ms true).2 = some fresh ∧ Machine.run apply fresh inputs = store }

/-- No token is newer than the last command, and no task is listed twice. -/
structure Fenced (store : Store) : Prop where
  tokens : ∀ slot entry, store.entries.Holds slot entry → entry.fencing_token ≤ store.applied_index
  distinct : SlotTable.Distinct Entry.command_id store.entries

/-- The token was given out and no live lease of the task carries it any
more. -/
structure Retired (command_id : CommandId) (token : UInt64) (store : Store) : Prop where
  past : token ≤ store.applied_index
  leases : ∀ slot entry, store.entries.Holds slot entry → entry.command_id = command_id → entry.state = .LEASED →
    entry.fencing_token ≠ token

section run

variable {store : Store} {committed_index : UInt64} {command_id task : CommandId} {token : UInt64} {outcome : Outcome}
  {operation : Operation}

section change

variable (hchange : Change store committed_index command_id operation outcome)

include hchange

theorem Change.applied_le : store.applied_index ≤ outcome.store.applied_index := by
  cases hchange with
  | rejected result hresult => exact UInt64.le_refl _
  | repeated entry hoperation hindex => exact UInt64.le_of_lt hindex
  | registered slot entry hoperation hindex hfree hfresh hready htoken => exact UInt64.le_of_lt hindex
  | updated slot old new hindex hfind hsucceeds => exact UInt64.le_of_lt hindex

theorem Fenced.change (hfenced : Fenced store) : Fenced outcome.store := by
  have hold : store.applied_index < committed_index → ∀ slot entry, store.entries.Holds slot entry →
      entry.fencing_token ≤ committed_index := fun hindex slot entry hholds =>
    UInt64.le_trans (hfenced.tokens slot entry hholds) (UInt64.le_of_lt hindex)
  cases hchange with
  | rejected result hresult => exact hfenced
  | repeated entry hoperation hindex => exact ⟨hold hindex, hfenced.distinct⟩
  | registered slot entry hoperation hindex hfree hfresh hready htoken =>
    refine ⟨holds_set_forall (hold hindex) (lt_of_free hfree) (by simp [htoken]), ?_⟩
    refine hfenced.distinct.insert (lt_of_free hfree) fun slot' entry' hholds => ?_
    simpa using find_eq_none.mp hfresh slot' entry' hholds
  | updated slot old new hindex hfind hsucceeds =>
    have hslot := (find_eq_some hfind).1
    refine ⟨holds_set_forall (hold hindex) hslot.lt ?_, hfenced.distinct.replace hslot hsucceeds.key⟩
    rcases hsucceeds.token with htoken | htoken
    · exact htoken ▸ hold hindex slot old hslot
    · exact htoken ▸ UInt64.le_refl _

/-- A token that was retired stays so: a new lease gets a newer one. -/
theorem Retired.change (hretired : Retired task token store) : Retired task token outcome.store := by
  refine ⟨UInt64.le_trans hretired.past hchange.applied_le, ?_⟩
  cases hchange with
  | rejected result hresult => exact hretired.leases
  | repeated entry hoperation hindex => exact hretired.leases
  | registered slot entry hoperation hindex hfree hfresh hready htoken =>
    refine holds_set_forall hretired.leases (lt_of_free hfree) fun _ hleased => ?_
    exact absurd (hready.symm.trans hleased) (by simp)
  | updated slot old new hindex hfind hsucceeds =>
    refine holds_set_forall hretired.leases (find_eq_some hfind).1.lt fun _ hleased => ?_
    rw [hsucceeds.leased hleased]
    exact (UInt64.ne_of_lt (UInt64.lt_of_le_of_lt hretired.past hindex)).symm

end change

/-- A command that changes the lease of a task retires every token given out
before. -/
theorem Retired.of_updated (hfenced : Fenced store) (hpast : token ≤ store.applied_index) {slot : Nat} {old new : Entry}
    (hindex : store.applied_index < committed_index) (hfind : find_entry store task = some (slot, old))
    (hsucceeds : Succeeds committed_index old new) :
    Retired task token (commit store committed_index slot new).store := by
  obtain ⟨hslot, hmatch, _⟩ := find_eq_some hfind
  refine ⟨UInt64.le_trans hpast (UInt64.le_of_lt hindex), fun slot' entry' hholds htask hleased => ?_⟩
  rcases (holds_set hslot.lt).mp hholds with ⟨_, hentry⟩ | ⟨hne, hbefore⟩
  · obtain rfl := Option.some.inj hentry
    have htoken : new.fencing_token = committed_index := hsucceeds.leased hleased
    exact htoken ▸ (UInt64.ne_of_lt (UInt64.lt_of_le_of_lt hpast hindex)).symm
  · have hkey : entry'.command_id = old.command_id := htask.trans (of_decide_eq_true hmatch).symm
    exact absurd (hfenced.distinct slot' slot entry' old hbefore hslot hkey) hne

theorem Fenced.run (hfenced : Fenced store) (inputs : List (UInt64 × Command)) : Fenced (run apply store inputs) :=
  run_invariant hfenced (fun store input hstore => hstore.change (execute_change input.2 store input.1)) inputs

theorem Retired.run (hretired : Retired task token store) (inputs : List (UInt64 × Command)) :
    Retired task token (run apply store inputs) :=
  run_invariant hretired (fun store input hstore => hstore.change (execute_change input.2 store input.1)) inputs

theorem applied_le_run (store : Store) (inputs : List (UInt64 × Command)) :
    store.applied_index ≤ (run apply store inputs).applied_index :=
  run_invariant (P := fun later => store.applied_index ≤ later.applied_index) (UInt64.le_refl _)
    (fun later input hle => UInt64.le_trans hle (execute_change input.2 later input.1).applied_le) inputs

theorem ReachableStore.fenced (store : ReachableStore) : Fenced store.1 := by
  obtain ⟨store, capacity, max_lease_duration_ms, fresh, inputs, hinit, rfl⟩ := store
  refine Fenced.run ?_ inputs
  unfold store_init_v1 at hinit
  split at hinit
  · cases hinit
  · cases hinit
    exact ⟨fun slot entry hholds => absurd hholds (not_holds_replicate_none _ _ _),
      fun i j a b hholds => absurd hholds (not_holds_replicate_none _ _ _)⟩

end run

/-- The commands that renew, expire, acquire or complete a lease. -/
def ChangesLease (command : Command) : Prop :=
  command.operation = .RENEW ∨ command.operation = .EXPIRE ∨ command.operation = .ACQUIRE ∨
    command.operation = .COMPLETE

/-- For every store that lease commands can produce: a proof that the guard
admits is not admitted any more, whatever the time and whoever brings its
token, after its task was renewed, expired, acquired again or completed;
and two proofs that are admitted for one task in one state agree in node,
generation and token, unless the two workers are a collision of the digest
function. -/
theorem execution_guard_fences (blake2b_256 : List UInt8 → Option Digest) (store : ReachableStore) :
    (∀ local_node_id claim proof, Admits blake2b_256 store.1 local_node_id claim proof →
      ∀ between committed_index command later, ChangesLease command → command.command_id = claim.command_id →
        (command.execute (Machine.run apply store.1 between) committed_index).result = .OK →
        ∀ local_node_id' claim' proof', claim'.command_id = claim.command_id →
          proof'.fencing_token = proof.fencing_token →
          ¬ Admits blake2b_256 (Machine.run apply store.1 (between ++ (committed_index, command) :: later))
            local_node_id' claim' proof') ∧
    (∀ local_node_id claim proof local_node_id' claim' proof',
      Admits blake2b_256 store.1 local_node_id claim proof →
      Admits blake2b_256 store.1 local_node_id' claim' proof' → claim'.command_id = claim.command_id →
      (local_node_id = local_node_id' ∧ proof.worker_generation = proof'.worker_generation ∧
        proof.fencing_token = proof'.fencing_token) ∨
      Collision blake2b_256 (worker_canonical local_node_id proof.worker_generation)
        (worker_canonical local_node_id' proof'.worker_generation)) := by
  refine ⟨?_, fun _ _ _ _ _ _ hadmits hadmits' htask => hadmits.unique hadmits' htask⟩
  intro local_node_id claim proof hadmits between committed_index command later hchanges htask hok local_node_id'
    claim' proof' htask' htoken' hadmits'
  obtain ⟨slot, lease, hfind, _, htoken, _⟩ := hadmits.lease
  have hpast : proof.fencing_token ≤ (run apply store.1 between).applied_index :=
    htoken ▸ UInt64.le_trans (store.fenced.tokens slot lease (find_eq_some hfind).1) (applied_le_run _ _)
  have hretired : Retired claim.command_id proof.fencing_token
      (apply (run apply store.1 between) (committed_index, command)) := by
    have hfenced := store.fenced.run between
    have hchange := execute_change command (run apply store.1 between) committed_index
    rw [htask] at hchange
    change Retired _ _ (command.execute (run apply store.1 between) committed_index).store
    generalize command.execute (run apply store.1 between) committed_index = outcome at hchange hok ⊢
    cases hchange with
    | rejected result hresult => exact absurd hok hresult
    | repeated entry hoperation hindex => simp [ChangesLease, hoperation] at hchanges
    | registered slot entry hoperation => simp [ChangesLease, hoperation] at hchanges
    | updated slot old new hindex hfind hsucceeds => exact .of_updated hfenced hpast hindex hfind hsucceeds
  obtain ⟨slot', lease', hfind', hleased', hlease', _⟩ := hadmits'.lease
  rw [run_append] at hfind'
  obtain ⟨hholds, hmatch, _⟩ := find_eq_some hfind'
  exact (hretired.run later).leases slot' lease' hholds ((of_decide_eq_true hmatch).trans htask') hleased'
    (hlease'.trans htoken')

/-- A digest function that gives back the node of a worker. -/
def sample_digest (bytes : List UInt8) : Option Digest := some (take_bytes 32 (bytes.drop 19))

def sample_task : CommandId := List.Vector.replicate 16 1

def sample_node : Digest := List.Vector.replicate 32 2

/-- A command for the task at time 5 with a lease up to the given time. -/
def sample_command (operation : Operation) (lease_expires_at_ms expected_fencing_token : UInt64) : Command :=
  { operation, command_id := sample_task, request_digest := List.Vector.replicate 32 3, holder_node_id := sample_node
    task_deadline_ms := 100, observed_now_ms := 5, lease_expires_at_ms, expected_fencing_token, result_code := 0
    terminal_state := .SUCCEEDED }

/-- A store for one task, as it is initialised. -/
def sample_fresh : Store :=
  { entries := [none], count := 0, max_lease_duration_ms := 50, applied_index := 0, is_open := true }

/-- The store in which the node has acquired the task at index 2. -/
def sample_store : ReachableStore :=
  ⟨Machine.run apply sample_fresh [(1, sample_command .REGISTER 0 0), (2, sample_command .ACQUIRE 20 0)],
    1, 50, sample_fresh, _, rfl, rfl⟩

def sample_claim : Claim :=
  { command_id := sample_task, request_digest := List.Vector.replicate 32 3, target_node_id := sample_node
    task_deadline_ms := 100 }

def sample_proof : Proof :=
  { fencing_token := 2, worker_generation := 1, quorum_read_index := 2, local_applied_index := 2, observed_now_ms := 6 }

/-- The proof of the holder is admitted until the lease is renewed. -/
theorem renewed_lease_fences_proof :
    Admits sample_digest sample_store.1 sample_node sample_claim sample_proof ∧
      ¬ Admits sample_digest (Machine.run apply sample_store.1 [(3, sample_command .RENEW 30 2)]) sample_node
        sample_claim sample_proof := by
  have hadmits : Admits sample_digest sample_store.1 sample_node sample_claim sample_proof := by decide +kernel
  have hrenewed : ((sample_command .RENEW 30 2).execute sample_store.1 3).result = .OK := by decide +kernel
  refine ⟨hadmits, ?_⟩
  exact (execution_guard_fences sample_digest sample_store).1 sample_node sample_claim sample_proof hadmits [] 3
    (sample_command .RENEW 30 2) [] (.inl rfl) rfl hrenewed sample_node sample_claim sample_proof rfl rfl

end turbop2p.mesh_task_execution_guard
