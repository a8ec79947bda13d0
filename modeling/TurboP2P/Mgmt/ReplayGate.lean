import TurboP2P.Control.Primitives
import TurboP2P.Lib.SlotTable
import TurboP2P.Lib.Word
import Mathlib.Data.List.Chain
import Mathlib.Data.UInt

open turbop2p.mesh_control

namespace turbop2p.mesh_mgmt_replay

def UINT64_MAX : UInt64 := 0xFFFFFFFFFFFFFFFF
def SERIAL_HALF_RANGE : UInt64 := 0x8000000000000000

/-- `mesh_mgmt_replay_result_t`. -/
inductive Result where
  | OK
  | INVALID_ARG
  | INVALID_SCHEMA
  | BINDING_MISMATCH
  | REPLAYED
  | EXPIRED
  | RESOURCE_EXHAUSTED
  | STALE_PREPARATION
  deriving DecidableEq

/-- `mesh_mgmt_header_v1_t`, as far as the gate reads it. -/
structure Header where
  origin_principal_key : Bytes 32
  principal_epoch : UInt64
  incarnation : UInt64
  session_id : Id
  origin_sequence : UInt64
  message_id : Id
  issued_at_ms : UInt64
  expires_at_ms : UInt64
  deriving DecidableEq

/-- `mesh_mgmt_replay_binding_v1_t`. -/
structure Binding where
  principal_key : Bytes 32
  principal_epoch : UInt64
  incarnation : UInt64
  session_id : Id
  deriving DecidableEq

/-- `mesh_mgmt_replay_entry_v1_t` of an occupied slot. -/
structure Entry where
  message_id : Id
  expires_at_ms : UInt64
  deriving DecidableEq

/-- `mesh_mgmt_replay_gate_v1_t`; the number of entries is the capacity. -/
structure Gate where
  ttl_ms : UInt64
  binding : Binding
  entries : SlotTable Entry
  last_sequence : UInt64
  generation : UInt64
  has_sequence : Bool
  bound : Bool
  deriving DecidableEq

/-- `mesh_mgmt_replay_preparation_v1_t` of a preparation that succeeded. -/
structure Preparation where
  generation : UInt64
  sequence : UInt64
  cache_expires_at_ms : UInt64
  cache_slot : Nat
  message_id : Id
  deriving DecidableEq

def sequence_is_newer (candidate current : UInt64) : Bool :=
  candidate - current ≠ 0 ∧ candidate - current < SERIAL_HALF_RANGE

def bounded_expiry (now_ms frame_expiry_ms ttl_ms : UInt64) : UInt64 :=
  let ttl_expiry := if now_ms ≤ UINT64_MAX - ttl_ms then now_ms + ttl_ms else UINT64_MAX
  if frame_expiry_ms < ttl_expiry then frame_expiry_ms else ttl_expiry

def bind_v1 (gate : Gate) (binding : Binding) : Result × Gate :=
  if bytes_are_zero binding.principal_key ∨ bytes_are_zero binding.session_id then (.INVALID_SCHEMA, gate)
  else
    (.OK,
      { gate with
        entries := List.replicate gate.entries.length none
        binding, last_sequence := 0, has_sequence := false, bound := true, generation := gate.generation + 1 })

/-- A slot that a preparation may take. -/
def available (now_ms : UInt64) : Option Entry → Bool
  | none => true
  | some entry => entry.expires_at_ms ≤ now_ms

/-- A slot that holds a message id. -/
def retains (now_ms : UInt64) (message_id : Id) (slot : Option Entry) : Bool :=
  ¬available now_ms slot ∧ slot.any (·.message_id = message_id)

/-- The header is from the peer that the gate is bound to. -/
def binding_matches (binding : Binding) (header : Header) : Bool :=
  header.origin_principal_key = binding.principal_key ∧ header.principal_epoch = binding.principal_epoch ∧
    header.incarnation = binding.incarnation ∧ header.session_id = binding.session_id

def prepare_v1 (gate : Gate) (header : Header) (now_ms : UInt64) : Except Result Preparation :=
  if ¬gate.bound then .error .BINDING_MISMATCH
  else if bytes_are_zero header.message_id ∨ bytes_are_zero header.session_id then .error .INVALID_SCHEMA
  else if header.issued_at_ms > now_ms ∨ header.expires_at_ms ≤ now_ms then .error .EXPIRED
  else if ¬binding_matches gate.binding header then .error .BINDING_MISMATCH
  else if gate.has_sequence ∧ ¬sequence_is_newer header.origin_sequence gate.last_sequence then .error .REPLAYED
  else if gate.entries.any (retains now_ms header.message_id) then .error .REPLAYED
  else
    match gate.entries.findIdx? (available now_ms) with
    | none => .error .RESOURCE_EXHAUSTED
    | some cache_slot =>
      .ok ⟨gate.generation, header.origin_sequence, bounded_expiry now_ms header.expires_at_ms gate.ttl_ms, cache_slot,
        header.message_id⟩

def commit_v1 (gate : Gate) (preparation : Preparation) : Result × Gate :=
  if ¬gate.bound ∨ preparation.generation ≠ gate.generation ∨ preparation.cache_slot ≥ gate.entries.length then
    (.STALE_PREPARATION, gate)
  else if gate.has_sequence ∧ ¬sequence_is_newer preparation.sequence gate.last_sequence then
    (.STALE_PREPARATION, gate)
  else
    (.OK,
      { gate with
        entries := gate.entries.set preparation.cache_slot
          (some ⟨preparation.message_id, preparation.cache_expires_at_ms⟩)
        last_sequence := preparation.sequence, has_sequence := true, generation := gate.generation + 1 })

/-- What a successful preparation has found. -/
structure Prepared (gate : Gate) (header : Header) (now_ms : UInt64) (preparation : Preparation) : Prop where
  generation : preparation.generation = gate.generation
  sequence : preparation.sequence = header.origin_sequence
  expiry : preparation.cache_expires_at_ms = bounded_expiry now_ms header.expires_at_ms gate.ttl_ms
  message_id : preparation.message_id = header.message_id
  named : ¬bytes_are_zero header.message_id
  fresh : now_ms < header.expires_at_ms
  new : ∀ i entry, gate.entries.Holds i entry → entry.message_id = header.message_id → entry.expires_at_ms ≤ now_ms
  slot : ∃ old, gate.entries[preparation.cache_slot]? = some old ∧ available now_ms old

variable {preparation : Preparation} {m : Nat}

theorem prepared_of_prepare {gate : Gate} {header : Header} {now_ms : UInt64}
    (hprepare : prepare_v1 gate header now_ms = .ok preparation) : Prepared gate header now_ms preparation := by
  obtain ⟨_, hprepare⟩ := guard_passed hprepare
  obtain ⟨hnamed, hprepare⟩ := guard_passed hprepare
  obtain ⟨hfresh, hprepare⟩ := guard_passed hprepare
  obtain ⟨_, hprepare⟩ := guard_passed hprepare
  obtain ⟨_, hprepare⟩ := guard_passed hprepare
  obtain ⟨hnew, hprepare⟩ := guard_passed hprepare
  split at hprepare
  · cases hprepare
  · next slot hslot =>
    obtain rfl := Except.ok.inj hprepare
    obtain ⟨hlt, havailable, _⟩ := List.findIdx?_eq_some_iff_getElem.mp hslot
    refine ⟨rfl, rfl, rfl, rfl, fun hzero => hnamed (Or.inl hzero), ?_, ?_, gate.entries[slot],
      List.getElem?_eq_getElem hlt, havailable⟩
    · exact UInt64.not_le.mp fun hexpired => hfresh (Or.inr hexpired)
    · intro i entry hholds hsame
      by_contra hlive
      apply hnew
      rw [List.any_eq_true]
      exact ⟨some entry, List.mem_of_getElem? hholds, by simp [retains, available, hlive, hsame]⟩

theorem commit_cases {gate after : Gate} (hcommit : commit_v1 gate preparation = (.OK, after)) :
    preparation.generation = gate.generation ∧
      (gate.has_sequence → sequence_is_newer preparation.sequence gate.last_sequence) ∧
      after =
        { gate with
          entries := gate.entries.set preparation.cache_slot
            (some ⟨preparation.message_id, preparation.cache_expires_at_ms⟩)
          last_sequence := preparation.sequence, has_sequence := true, generation := gate.generation + 1 } := by
  obtain ⟨hcurrent, hcommit⟩ := guard_passed hcommit
  obtain ⟨hnewer, hcommit⟩ := guard_passed hcommit
  simp only [not_or, not_not] at hcurrent
  exact ⟨hcurrent.2.1, fun hsequence => by simpa [hsequence] using hnewer, (Prod.mk.inj hcommit).2.symm⟩

/-- A preparation that was handed out, with the number of commits before it. -/
structure Attempt where
  header : Header
  prepared_at : UInt64
  preparation : Preparation
  commits : Nat
  deriving DecidableEq

/-- A gate with the preparations that were handed out and the commits that
succeeded, each with its time, the newest first. -/
structure State where
  gate : Gate
  attempts : List Attempt := []
  log : List (Attempt × UInt64) := []

inductive Input where
  | prepare (header : Header)
  | commit (attempt : Attempt)

/-- One call at a time. Only preparations that were handed out are
committed. -/
def step (s : State) : UInt64 × Input → State
  | (now_ms, .prepare header) =>
    match prepare_v1 s.gate header now_ms with
    | .ok preparation => { s with attempts := ⟨header, now_ms, preparation, s.log.length⟩ :: s.attempts }
    | .error _ => s
  | (now_ms, .commit attempt) =>
    if attempt ∉ s.attempts then s
    else
      match commit_v1 s.gate attempt.preparation with
      | (.OK, gate) => { s with gate, log := (attempt, now_ms) :: s.log }
      | _ => s

def run (s : State) (inputs : List (UInt64 × Input)) : State := Machine.run step s inputs

def sequences (log : List (Attempt × UInt64)) : List UInt64 := log.map (·.1.header.origin_sequence)

/-- By how much a sequence has advanced in total, the newest first. -/
def advanced : List UInt64 → Nat
  | newer :: older :: rest => (newer - older).toNat + advanced (older :: rest)
  | _ => 0

/-- Sequences that advance by less than half of their range do not meet. -/
theorem advanced_spec {newest : UInt64} {rest : List UInt64}
    (hchain : (newest :: rest).IsChain fun newer older => sequence_is_newer newer older = true)
    (hadvanced : advanced (newest :: rest) < 2 ^ 63) :
    rest.length ≤ advanced (newest :: rest) ∧
      ∀ older ∈ rest, 0 < (newest - older).toNat ∧ (newest - older).toNat ≤ advanced (newest :: rest) := by
  induction rest generalizing newest with
  | nil => exact ⟨Nat.zero_le _, fun older hmem => absurd hmem List.not_mem_nil⟩
  | cons next rest ih =>
    obtain ⟨hnewer, hrest⟩ := List.isChain_cons_cons.mp hchain
    rw [advanced] at hadvanced ⊢
    obtain ⟨hlength, hall⟩ := ih hrest (by omega)
    have hpositive : 0 < (newest - next).toNat := by
      obtain ⟨hzero, _⟩ := of_decide_eq_true hnewer
      exact Nat.pos_of_ne_zero fun heq => hzero (UInt64.toNat_inj.mp heq)
    refine ⟨by simp only [List.length_cons]; omega, fun older hmem => ?_⟩
    rcases List.mem_cons.mp hmem with rfl | hmem
    · exact ⟨hpositive, by omega⟩
    · obtain ⟨_, hle⟩ := hall older hmem
      rw [← sub_add_sub_cancel newest next older, UInt64.toNat_add, Nat.mod_eq_of_lt (by omega)]
      omega

theorem nodup_of_advanced {sequences : List UInt64}
    (hchain : sequences.IsChain fun newer older => sequence_is_newer newer older = true)
    (hadvanced : advanced sequences < 2 ^ 63) : sequences.Nodup ∧ sequences.length < 2 ^ 64 := by
  induction sequences with
  | nil => exact ⟨List.nodup_nil, by decide⟩
  | cons newest rest ih =>
    obtain ⟨hlength, hall⟩ := advanced_spec hchain hadvanced
    have hrest : advanced rest < 2 ^ 63 := by
      cases rest with
      | nil => decide
      | cons next rest =>
        rw [advanced] at hadvanced
        omega
    refine ⟨List.nodup_cons.mpr ⟨fun hmem => ?_, (ih hchain.tail hrest).1⟩, by rw [List.length_cons]; omega⟩
    obtain ⟨hpositive, _⟩ := hall newest hmem
    simp at hpositive

/-- Every commit is newer than the one before it. -/
structure Chained (s : State) : Prop where
  chain : (sequences s.log).IsChain fun newer older => sequence_is_newer newer older = true
  last : ∀ newest ∈ (sequences s.log).head?, s.gate.has_sequence = true ∧ s.gate.last_sequence = newest
  attempts : ∀ attempt ∈ s.attempts, attempt.preparation.sequence = attempt.header.origin_sequence

theorem Chained.step {s : State} (hchained : Chained s) (input : UInt64 × Input) :
    Chained (mesh_mgmt_replay.step s input) := by
  obtain ⟨now_ms, input⟩ := input
  cases input with
  | prepare header =>
    rw [mesh_mgmt_replay.step]
    split
    · next preparation hprepare =>
      refine { hchained with attempts := fun attempt hmem => ?_ }
      rcases List.mem_cons.mp hmem with rfl | hmem
      · exact (prepared_of_prepare hprepare).sequence
      · exact hchained.attempts attempt hmem
    · exact hchained
  | commit attempt =>
    rw [mesh_mgmt_replay.step]
    split
    · exact hchained
    · next hmem =>
      have hsequence := hchained.attempts attempt (not_not.mp hmem)
      split
      · next gate hcommit =>
        obtain ⟨_, hnewer, rfl⟩ := commit_cases hcommit
        refine ⟨List.isChain_cons.mpr ⟨fun older holder => ?_, hchained.chain⟩, ?_, hchained.attempts⟩
        · obtain ⟨hhas, hlast⟩ := hchained.last older holder
          have hnewest := hnewer hhas
          rwa [hsequence, hlast] at hnewest
        · rintro newest ⟨rfl⟩
          exact ⟨rfl, hsequence⟩
      · exact hchained

/-- What a run has done, as long as the generations have not come round. -/
structure Tracked (start : UInt64) (clock : UInt64) (s : State) : Prop where
  generation : s.gate.generation = start + UInt64.ofNat s.log.length
  attempts : ∀ attempt ∈ s.attempts, attempt.commits ≤ s.log.length ∧ attempt.prepared_at ≤ clock ∧
    attempt.preparation.generation = start + UInt64.ofNat attempt.commits ∧
    attempt.preparation.message_id = attempt.header.message_id ∧
    (attempt.commits = s.log.length → Prepared s.gate attempt.header attempt.prepared_at attempt.preparation)
  retained : ∀ commit ∈ s.log, commit.1.preparation.cache_expires_at_ms ≤ clock ∨
    ∃ i, s.gate.entries.Holds i ⟨commit.1.header.message_id, commit.1.preparation.cache_expires_at_ms⟩
  expired : s.log.Pairwise fun second first => first.1.header.message_id = second.1.header.message_id →
    first.1.preparation.cache_expires_at_ms ≤ second.2

variable {start clock : UInt64} {s : State}

section

variable (htracked : Tracked start clock s)

include htracked

theorem Tracked.later {now_ms : UInt64} (hclock : clock ≤ now_ms) : Tracked start now_ms s := by
  refine { htracked with attempts := fun attempt hmem => ?_, retained := fun commit hmem => ?_ }
  · obtain ⟨hcommits, htime, hrest⟩ := htracked.attempts attempt hmem
    exact ⟨hcommits, UInt64.le_trans htime hclock, hrest⟩
  · exact (htracked.retained commit hmem).imp_left fun hexpired => UInt64.le_trans hexpired hclock

/-- Only a preparation that no commit has followed can be committed. -/
theorem Tracked.commits_eq {attempt : Attempt} (hmem : attempt ∈ s.attempts) (hlength : s.log.length < 2 ^ 64)
    (hcommit : (commit_v1 s.gate attempt.preparation).1 = .OK) :
    attempt.commits = s.log.length := by
  obtain ⟨hcommits, _, hgeneration, _⟩ := htracked.attempts attempt hmem
  obtain ⟨hsame, _⟩ := commit_cases (Prod.ext hcommit rfl)
  rw [hgeneration, htracked.generation] at hsame
  have hnumber := congrArg UInt64.toNat (add_left_cancel hsame)
  rwa [UInt64.toNat_ofNat_of_lt' (show _ < 2 ^ 64 by omega), UInt64.toNat_ofNat_of_lt' hlength] at hnumber

theorem Tracked.prepare {header : Header} (hprepare : prepare_v1 s.gate header clock = .ok preparation) :
    Tracked start clock { s with attempts := ⟨header, clock, preparation, s.log.length⟩ :: s.attempts } := by
  have hprepared := prepared_of_prepare hprepare
  refine { htracked with attempts := fun attempt hmem => ?_ }
  rcases List.mem_cons.mp hmem with rfl | hmem
  · exact ⟨Nat.le_refl _, UInt64.le_refl _, hprepared.generation.trans htracked.generation,
      hprepared.message_id, fun _ => hprepared⟩
  · exact htracked.attempts attempt hmem

theorem Tracked.commit {attempt : Attempt} {gate : Gate} (hmem : attempt ∈ s.attempts)
    (hlength : s.log.length < 2 ^ 64) (hcommit : commit_v1 s.gate attempt.preparation = (.OK, gate)) :
    Tracked start clock { s with gate, log := (attempt, clock) :: s.log } := by
  have hcommits := htracked.commits_eq hmem hlength (congrArg Prod.fst hcommit)
  obtain ⟨_, htime, _, hmessage_id, hready⟩ := htracked.attempts attempt hmem
  have hprepared := hready hcommits
  obtain ⟨old, hslot, havailable⟩ := hprepared.slot
  have hlt := (List.getElem?_eq_some_iff.mp hslot).1
  obtain ⟨_, _, rfl⟩ := commit_cases hcommit
  constructor
  case generation =>
    change s.gate.generation + 1 = start + UInt64.ofNat (s.log.length + 1)
    rw [htracked.generation, UInt64.ofNat_add, ← add_assoc]
    rfl
  case attempts =>
    intro other hother
    obtain ⟨hle, hbefore, hgeneration, hid, _⟩ := htracked.attempts other hother
    refine ⟨Nat.le_succ_of_le hle, hbefore, hgeneration, hid, fun heq => ?_⟩
    rw [List.length_cons] at heq
    omega
  case retained =>
    intro commit hcommit
    rcases List.mem_cons.mp hcommit with rfl | hcommit
    · refine Or.inr ⟨attempt.preparation.cache_slot, (SlotTable.holds_set hlt).mpr (Or.inl ⟨rfl, ?_⟩)⟩
      rw [← hmessage_id]
    · rcases htracked.retained commit hcommit with hexpired | ⟨i, hholds⟩
      · exact Or.inl hexpired
      · by_cases hi : i = attempt.preparation.cache_slot
        · subst hi
          obtain rfl : old = _ := Option.some.inj (hslot.symm.trans hholds)
          exact Or.inl (UInt64.le_trans (of_decide_eq_true havailable) htime)
        · exact Or.inr ⟨i, (SlotTable.holds_set hlt).mpr (Or.inr ⟨hi, hholds⟩)⟩
  case expired =>
    refine List.pairwise_cons.mpr ⟨fun first hfirst hsame => ?_, htracked.expired⟩
    rcases htracked.retained first hfirst with hexpired | ⟨i, hholds⟩
    · exact hexpired
    · exact UInt64.le_trans (hprepared.new i _ hholds hsame) htime

end

theorem log_step_le (s : State) (input : UInt64 × Input) : s.log.length ≤ (step s input).log.length := by
  obtain ⟨now_ms, input⟩ := input
  cases input with
  | prepare header =>
    rw [step]
    split <;> exact Nat.le_refl _
  | commit attempt =>
    rw [step]
    split
    · exact Nat.le_refl _
    · split
      · exact Nat.le_succ _
      · exact Nat.le_refl _

theorem Tracked.step {input : UInt64 × Input} (htracked : Tracked start input.1 s) (hlength : s.log.length < 2 ^ 64) :
    Tracked start input.1 (mesh_mgmt_replay.step s input) := by
  obtain ⟨now_ms, input⟩ := input
  cases input with
  | prepare header =>
    rw [mesh_mgmt_replay.step]
    split
    · next hprepare => exact htracked.prepare hprepare
    · exact htracked
  | commit attempt =>
    rw [mesh_mgmt_replay.step]
    split
    · exact htracked
    · next hmem =>
      split
      · next hcommit => exact htracked.commit (not_not.mp hmem) hlength hcommit
      · exact htracked

theorem Tracked.run (hstart : ∀ clock, Tracked start clock s) {inputs : List (UInt64 × Input)}
    (hordered : inputs.Pairwise fun first second => first.1 ≤ second.1)
    (hclock : ∀ input ∈ inputs, input.1 ≤ clock) (hlength : (mesh_mgmt_replay.run s inputs).log.length < 2 ^ 64) :
    Tracked start clock (mesh_mgmt_replay.run s inputs) := by
  induction inputs using List.reverseRecOn generalizing clock with
  | nil => exact hstart clock
  | append_singleton inputs input ih =>
    rw [mesh_mgmt_replay.run, Machine.run_append] at hlength ⊢
    have hshort := (log_step_le (mesh_mgmt_replay.run s inputs) input).trans_lt hlength
    obtain ⟨hordered, _, hbefore⟩ := List.pairwise_append.mp hordered
    have htracked := ih hordered (fun earlier hmem => hbefore earlier hmem input List.mem_cons_self) hshort
    exact (htracked.step hshort).later (hclock input (by simp))

/-- While the committed sequence advances by less than half of its range, no
two commits have a sequence in common, nor a message id before the first one
has expired. Before the generations come round, a preparation that a commit
has followed is never committed. -/
theorem commits_never_repeated (gate : Gate) {inputs : List (UInt64 × Input)}
    (hordered : inputs.Pairwise fun first second => first.1 ≤ second.1) :
    let after := run { gate } inputs
    (advanced (sequences after.log) < 2 ^ 63 → (sequences after.log).Nodup ∧
      after.log.Pairwise fun second first => first.1.header.message_id = second.1.header.message_id →
        first.1.preparation.cache_expires_at_ms ≤ second.2) ∧
    (after.log.length < 2 ^ 64 → ∀ attempt ∈ after.attempts, attempt.commits < after.log.length →
      (commit_v1 after.gate attempt.preparation).1 ≠ .OK) := by
  intro after
  have hchained : Chained after := by
    apply Machine.run_invariant (P := Chained)
    · exact ⟨by simp [sequences], by simp [sequences], by simp⟩
    · exact fun t input ht => ht.step input
  have hstart : ∀ clock, Tracked gate.generation clock { gate } := fun clock =>
    ⟨by simp, by simp, by simp, by simp⟩
  have htracked : after.log.length < 2 ^ 64 → Tracked gate.generation UINT64_MAX after := fun hlength =>
    Tracked.run hstart hordered (fun input _ => UInt64.le_iff_toNat_le.mpr (Nat.le_of_lt_succ input.1.toNat_lt)) hlength
  refine ⟨fun hadvanced => ?_, fun hlength attempt hmem hstale hcommit => ?_⟩
  · obtain ⟨hnodup, hlength⟩ := nodup_of_advanced hchained.chain hadvanced
    rw [sequences, List.length_map] at hlength
    exact ⟨hnodup, (htracked hlength).expired⟩
  · exact absurd ((htracked hlength).commits_eq hmem hlength hcommit) (Nat.ne_of_lt hstale)

namespace Sample

/-- Message ids that alternate. -/
def key (m : Nat) : Id := List.Vector.replicate 16 (if m % 2 = 0 then 1 else 2)

/-- The header of the commit with some number, at two commits for each
millisecond. -/
def header (m : Nat) : Header where
  origin_principal_key := List.Vector.replicate 32 1
  principal_epoch := 1
  incarnation := 1
  session_id := key 0
  origin_sequence := UInt64.ofNat (m + 1)
  message_id := key m
  issued_at_ms := 0
  expires_at_ms := UInt64.ofNat (m / 2 + 1)

/-- A gate with two slots after some commits. -/
def gate (m : Nat) : Gate where
  ttl_ms := 1000
  binding := ⟨List.Vector.replicate 32 1, 1, 1, key 0⟩
  entries :=
    [if m = 0 then none else some ⟨key 0, UInt64.ofNat ((m + 1) / 2)⟩,
      if m < 2 then none else some ⟨key 1, UInt64.ofNat (m / 2)⟩]
  last_sequence := UInt64.ofNat m
  generation := UInt64.ofNat (m + 1)
  has_sequence := m ≠ 0
  bound := true

def attempt (m : Nat) : Attempt :=
  ⟨header m, UInt64.ofNat (m / 2),
    ⟨UInt64.ofNat (m + 1), UInt64.ofNat (m + 1), UInt64.ofNat (m / 2 + 1), m % 2, key m⟩, m⟩

def calls (m : Nat) : List (UInt64 × Input) :=
  [(UInt64.ofNat (m / 2), .prepare (header m)), (UInt64.ofNat (m / 2), .commit (attempt m))]

end Sample

open Sample

theorem two_messages_committed :
    let after := run { gate := Sample.gate 0 } (Sample.calls 0 ++ Sample.calls 1)
    sequences after.log = [2, 1] ∧ (sequences after.log).Nodup := by
  obtain ⟨hunique, -⟩ := commits_never_repeated (gate 0) (show (calls 0 ++ calls 1).Pairwise _ by
    decide +kernel)
  have hlog : sequences (run { gate := gate 0 } (calls 0 ++ calls 1)).log = [2, 1] := by
    decide +kernel
  exact ⟨hlog, (hunique (by rw [hlog]; decide +kernel)).1⟩

theorem newer_succ (m : Nat) : sequence_is_newer (UInt64.ofNat (m + 1)) (UInt64.ofNat m) = true := by
  rw [sequence_is_newer, UInt64.ofNat_add, add_sub_cancel_left]
  decide

/-- The slot that a preparation finds in the sample. -/
theorem sample_slots (hm : m < 2 ^ 64) :
    (gate m).entries.any (retains (UInt64.ofNat (m / 2)) (key m)) = false ∧
      (gate m).entries.findIdx? (available (UInt64.ofNat (m / 2))) = some (m % 2) := by
  have hsecond : available (UInt64.ofNat (m / 2))
      (if m < 2 then none else some ⟨key 1, UInt64.ofNat (m / 2)⟩) = true := by
    split <;> simp [available]
  have hfirst : available (UInt64.ofNat (m / 2))
      (if m = 0 then none else some ⟨key 0, UInt64.ofNat ((m + 1) / 2)⟩) = decide (m % 2 = 0) := by
    split
    · next hzero => simp [available, hzero]
    · have hle := UInt64.ofNat_le_iff_le (show (m + 1) / 2 < 2 ^ 64 by omega) (show m / 2 < 2 ^ 64 by omega)
      exact decide_eq_decide.mpr (hle.trans (by omega))
  by_cases heven : m % 2 = 0
  · simp only [gate, retains, List.any_cons, List.any_nil, List.findIdx?_cons, hfirst, hsecond, heven]
    simp
  · have hkey : key 0 ≠ key m := by
      simp only [key, heven]
      decide
    have hodd : m % 2 = 1 := by omega
    simp only [gate, retains, List.any_cons, List.findIdx?_cons, hfirst, hsecond, hodd]
    split <;> simp [hkey]

theorem prepare_sample (hm : m < 2 ^ 64) :
    prepare_v1 (gate m) (header m) (UInt64.ofNat (m / 2)) = .ok (attempt m).preparation := by
  have hexpired : ¬(0 > UInt64.ofNat (m / 2) ∨ UInt64.ofNat (m / 2 + 1) ≤ UInt64.ofNat (m / 2)) := by
    rw [UInt64.ofNat_le_iff_le (show _ < 2 ^ 64 by omega) (show _ < 2 ^ 64 by omega)]
    simp
  have hbounded : bounded_expiry (UInt64.ofNat (m / 2)) (UInt64.ofNat (m / 2 + 1)) 1000 = UInt64.ofNat (m / 2 + 1) := by
    have hroom : UInt64.ofNat (m / 2) ≤ UInt64.ofNat (2 ^ 64 - 1001) := by
      rw [UInt64.ofNat_le_iff_le (show _ < 2 ^ 64 by omega) (by decide)]
      omega
    have hsoon : UInt64.ofNat (m / 2 + 1) < UInt64.ofNat (m / 2 + 1000) := by
      rw [UInt64.ofNat_lt_iff_lt (show _ < 2 ^ 64 by omega) (show _ < 2 ^ 64 by omega)]
      omega
    have hroom : UInt64.ofNat (m / 2) ≤ UINT64_MAX - 1000 := hroom
    rw [UInt64.ofNat_add (m / 2) 1000] at hsoon
    rw [bounded_expiry, if_pos hroom]
    exact if_pos hsoon
  have hnamed : ¬(bytes_are_zero (key m) ∨ bytes_are_zero (key 0)) := by
    rw [key]
    split <;> decide
  obtain ⟨hretains, hslot⟩ := sample_slots hm
  refine (if_neg (by simp [gate])).trans <| (if_neg hnamed).trans <| (if_neg hexpired).trans <|
    (if_neg (by simp [binding_matches, gate, header])).trans <|
    (if_neg fun h => h.2 (newer_succ m)).trans <| (if_neg (ne_true_of_eq_false hretains)).trans ?_
  rw [hslot]
  simp only [attempt, header, gate, hbounded]

theorem commit_sample (hm : m < 2 ^ 64) :
    commit_v1 (gate m) (attempt m).preparation = (.OK, gate (m + 1)) := by
  refine (if_neg (by simp [gate, attempt]; omega)).trans <| (if_neg fun h => h.2 (newer_succ m)).trans ?_
  have hentries : (gate m).entries.set (m % 2) (some ⟨key m, UInt64.ofNat (m / 2 + 1)⟩) =
      (gate (m + 1)).entries := by
    rcases Nat.even_or_odd' m with ⟨n, rfl | rfl⟩
    · have hhalf : (2 * n + 1 + 1) / 2 = n + 1 ∧ 2 * n / 2 = n ∧ (2 * n + 1) / 2 = n ∧ 2 * n % 2 = 0 := by omega
      have hsmall : 2 * n + 1 < 2 ↔ 2 * n < 2 := by omega
      simp [gate, key, hhalf, hsmall]
    · have hhalf : (2 * n + 1 + 1) / 2 = n + 1 ∧ (2 * n + 1) / 2 = n ∧ (2 * n + 1) % 2 = 1 ∧
          (2 * n + 1 + 1 + 1) / 2 = n + 1 := by
        omega
      simp [gate, key, hhalf]
  have hgate : gate (m + 1) = { gate m with
        entries := (gate (m + 1)).entries, last_sequence := UInt64.ofNat (m + 1), has_sequence := true
        generation := UInt64.ofNat (m + 1) + 1 } := by
    simp [gate, UInt64.ofNat_add]
  rw [hgate, ← hentries]
  rfl

theorem run_sample (hm : m ≤ 2 ^ 64) :
    run { gate := gate 0 } ((List.range m).flatMap calls) =
      ⟨gate m, (List.range m).reverse.map attempt,
        (List.range m).reverse.map fun i => (attempt i, UInt64.ofNat (i / 2))⟩ := by
  induction m with
  | zero => rfl
  | succ m ih =>
    have hprepare := prepare_sample (show m < 2 ^ 64 by omega)
    have hcommit := commit_sample (show m < 2 ^ 64 by omega)
    have hrun : run { gate := gate 0 } ((List.range (m + 1)).flatMap calls) =
        run (run { gate := gate 0 } ((List.range m).flatMap calls)) (calls m) := by
      rw [List.range_succ, List.flatMap_append, List.flatMap_singleton, run, Machine.run_append]
      rfl
    rw [hrun, ih (by omega), calls, run, Machine.run, List.foldl_cons, List.foldl_cons, List.foldl_nil, step,
      hprepare]
    rw [List.length_map, List.length_reverse, List.length_range]
    change step ⟨_, attempt m :: _, _⟩ _ = _
    rw [step, if_neg (by simp), hcommit, List.range_succ, List.reverse_append]
    rfl

/-- After as many commits as there are generations, the first preparation can
be committed again. -/
theorem first_preparation_returns :
    ((List.range (2 ^ 64)).flatMap Sample.calls).Pairwise (fun first second => first.1 ≤ second.1) ∧
      let after := run { gate := Sample.gate 0 } ((List.range (2 ^ 64)).flatMap Sample.calls)
      Sample.attempt 0 ∈ after.attempts ∧ (Sample.attempt 0).commits < after.log.length ∧
        (commit_v1 after.gate (Sample.attempt 0).preparation).1 = .OK := by
  constructor
  · refine List.pairwise_flatMap.mpr ⟨fun m _ => by simp [calls], List.pairwise_lt_range.imp_of_mem ?_⟩
    intro m n hm hn hlt first hfirst second hsecond
    have hn := List.mem_range.mp hn
    have hle : UInt64.ofNat (m / 2) ≤ UInt64.ofNat (n / 2) := by
      rw [UInt64.ofNat_le_iff_le (show _ < 2 ^ 64 by omega) (show _ < 2 ^ 64 by omega)]
      omega
    simp only [calls, List.mem_cons, List.not_mem_nil, or_false] at hfirst hsecond
    rcases hfirst with rfl | rfl <;> rcases hsecond with rfl | rfl <;> exact hle
  · obtain ⟨count, hcount⟩ : ∃ count, count = 2 ^ 64 := ⟨_, rfl⟩
    rw [← hcount, run_sample hcount.le]
    refine ⟨List.mem_map_of_mem (List.mem_reverse.mpr (List.mem_range.mpr (by omega))), ?_, ?_⟩
    · rw [List.length_map, List.length_reverse, List.length_range, hcount]
      decide
    · rw [hcount]
      decide +kernel

end turbop2p.mesh_mgmt_replay
