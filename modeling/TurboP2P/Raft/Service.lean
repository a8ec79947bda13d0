import TurboP2P.Lib.Log

namespace turbop2p.turboraft

/-- The result codes of `turbo_error.h` that the raft adapters name; `other`
stands for every further code that the service or a callback answers. -/
inductive TurboResult where
  | OK
  | EINVAL
  | ENOMEM
  | EPROTO
  | ENOENT
  | other (code : Int)
  deriving DecidableEq

/-- `tr_raft_entry_t`: a committed entry as the service hands it to
`apply_batch`. -/
structure Entry where
  index : UInt64
  data : List UInt8
  deriving DecidableEq

/-- `tr_raft_proposal_t`. -/
structure Proposal where
  command_id : UInt64
  data : List UInt8
  deriving DecidableEq

/-- `tr_raft_service_propose_with_receipt`, with `service` as the answer of the
raft service: its result and the proposals that it has accepted. -/
def propose_with_receipt (service : Proposal → TurboResult) (proposal : Proposal) :
    TurboResult × List Proposal :=
  (service proposal, if service proposal = .OK then [proposal] else [])

/-- The service accepts nothing but what it was offered. -/
theorem eq_of_mem_accepted {service : Proposal → TurboResult} {offered proposal : Proposal}
    (hmem : proposal ∈ (propose_with_receipt service offered).2) : proposal = offered := by
  unfold propose_with_receipt at hmem
  split at hmem
  · exact List.mem_singleton.mp hmem
  · simp at hmem

/-- A committed log as the service delivers it: cut into non-empty batches, at
strictly increasing positive indices, each entry with the bytes of a
proposal that was accepted. -/
structure CommittedLog (Accepted : List UInt8 → Prop) where
  batches : List (List Entry)
  nonempty : ∀ batch ∈ batches, batch ≠ []
  positive : ∀ entry ∈ batches.flatten, 0 < entry.index
  increasing : batches.flatten.Pairwise fun earlier later => earlier.index < later.index
  accepted : ∀ entry ∈ batches.flatten, Accepted entry.data

namespace CommittedLog

variable {Accepted : List UInt8 → Prop}

def entries (log : CommittedLog Accepted) : List Entry := log.batches.flatten

end CommittedLog

/-- What remains of a committed log for a replica that has applied it up to
`applied_index`. -/
structure Remaining (Accepted : List UInt8 → Prop) (applied_index : UInt64) (entries : List Entry) : Prop where
  ahead : ∀ entry ∈ entries, applied_index < entry.index
  increasing : entries.Pairwise fun earlier later => earlier.index < later.index
  accepted : ∀ entry ∈ entries, Accepted entry.data

/-- A fresh replica has the whole log before it. -/
theorem CommittedLog.remaining {Accepted : List UInt8 → Prop} (log : CommittedLog Accepted) :
    Remaining Accepted 0 log.entries where
  ahead := log.positive
  increasing := log.increasing
  accepted := log.accepted

/-- After one entry the replica has the rest before it. -/
theorem Remaining.next {Accepted : List UInt8 → Prop} {applied_index : UInt64} {entry : Entry}
    {rest : List Entry} (hlog : Remaining Accepted applied_index (entry :: rest)) :
    Remaining Accepted entry.index rest where
  ahead := (List.pairwise_cons.mp hlog.increasing).1
  increasing := (List.pairwise_cons.mp hlog.increasing).2
  accepted := fun later hlater => hlog.accepted later (List.mem_cons_of_mem entry hlater)

/-- The shape of every `apply_batch` callback: a closed adapter and an empty
batch are refused, and the entries are applied in order until one fails. -/
def apply_entries {σ : Type} (is_open : σ → Bool) (apply_entry : σ → Entry → TurboResult × σ) (adapter : σ)
    (entries : List Entry) : TurboResult × σ :=
  if is_open adapter = false ∨ entries = [] then (.EINVAL, adapter)
  else Log.apply apply_entry .OK adapter entries

section apply_entries

variable {σ : Type} {is_open : σ → Bool} {apply_entry : σ → Entry → TurboResult × σ} {adapter : σ}

/-- What no entry changes, no batch does. -/
theorem apply_entries_keeps {β : Type} {f : σ → β}
    (hkeep : ∀ adapter entry, f (apply_entry adapter entry).2 = f adapter) (entries : List Entry) :
    f (apply_entries is_open apply_entry adapter entries).2 = f adapter := by
  unfold apply_entries
  split
  · rfl
  · exact Log.apply_keeps hkeep entries

/-- The callbacks of an open adapter succeed on a committed log exactly when
every single entry does. -/
theorem answers_apply_entries_iff {Accepted : List UInt8 → Prop} (log : CommittedLog Accepted)
    (hkeep : ∀ adapter entry, is_open (apply_entry adapter entry).2 = is_open adapter)
    (hopen : is_open adapter = true) :
    (∀ answer ∈ Machine.answers (apply_entries is_open apply_entry) adapter log.batches, answer = .OK) ↔
      Log.Throughout apply_entry (fun adapter entry => (apply_entry adapter entry).1 = .OK) adapter
        log.entries := by
  have hsame : Machine.answers (apply_entries is_open apply_entry) adapter log.batches =
      Machine.answers (Log.apply apply_entry .OK) adapter log.batches := by
    refine Machine.answers_congr (is_open · = true) (fun adapter batch hbatch hopen => ?_) hopen
    have heq : apply_entries is_open apply_entry adapter batch = Log.apply apply_entry .OK adapter batch := by
      simp [apply_entries, hopen, log.nonempty batch hbatch]
    exact ⟨heq, by rw [heq, Log.apply_keeps hkeep, hopen]⟩
  rw [hsame]
  exact Log.answers_ok_iff

/-- What decides one entry decides a whole committed log: if, under an
invariant, an accepted entry at a fresh index for which there is room
succeeds exactly when it is executable, then the callbacks all succeed
exactly when every entry is executable when its turn comes. -/
theorem committed_ok_iff {Accepted : List UInt8 → Prop} (Inv : σ → Prop) (applied_index : σ → UInt64)
    {HasRoom Executable : σ → Entry → Prop} (log : CommittedLog Accepted)
    (hkeep : ∀ adapter entry, is_open (apply_entry adapter entry).2 = is_open adapter)
    (hentry : ∀ adapter entry, Inv adapter → applied_index adapter < entry.index → Accepted entry.data →
      HasRoom adapter entry → ((apply_entry adapter entry).1 = .OK ↔ Executable adapter entry))
    (hnext : ∀ adapter entry, Inv adapter → applied_index adapter < entry.index → Accepted entry.data →
      (apply_entry adapter entry).1 = .OK →
      Inv (apply_entry adapter entry).2 ∧ applied_index (apply_entry adapter entry).2 = entry.index)
    (hopen : is_open adapter = true) (hinv : Inv adapter) (hfresh : applied_index adapter = 0)
    (hroom : Log.Throughout apply_entry HasRoom adapter log.entries) :
    (∀ answer ∈ Machine.answers (apply_entries is_open apply_entry) adapter log.batches, answer = .OK) ↔
      Log.Throughout apply_entry Executable adapter log.entries := by
  rw [answers_apply_entries_iff log hkeep hopen]
  -- The log that remains, the invariant and the room carry the induction.
  refine Log.throughout_congr (fun adapter entries => Inv adapter ∧
      Remaining Accepted (applied_index adapter) entries ∧ Log.Throughout apply_entry HasRoom adapter entries)
    (fun adapter entry rest hstate => ?_) (fun adapter entry rest hstate hok => ?_)
    ⟨hinv, hfresh ▸ log.remaining, hroom⟩
  · obtain ⟨hinv, hlog, hroom⟩ := hstate
    exact hentry adapter entry hinv (hlog.ahead entry (by simp)) (hlog.accepted entry (by simp)) hroom.1
  · obtain ⟨hinv, hlog, hroom⟩ := hstate
    obtain ⟨hinv', hindex⟩ := hnext adapter entry hinv (hlog.ahead entry (by simp)) (hlog.accepted entry (by simp)) hok
    exact ⟨hinv', hindex ▸ hlog.next, hroom.2⟩

end apply_entries

end turbop2p.turboraft
