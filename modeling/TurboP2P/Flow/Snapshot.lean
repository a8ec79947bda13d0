import TurboP2P.Flow.Outcome

open turbop2p.mesh_flow_ruleset
open turbop2p.turboraft (TurboResult Proposal Entry)
open Machine

namespace turbop2p.mesh_flow_ruleset_raft

/-- A rule that restricts ports names the protocol that has them. -/
def NamesProtocol (rule : Rule) : Prop :=
  rule.src_port_start ≠ 0 ∨ rule.dst_port_start ≠ 0 → rule.ip_proto ≠ 0

instance (rule : Rule) : Decidable (NamesProtocol rule) := by
  unfold NamesProtocol
  infer_instance

/-- Where the two validators differ: the ruleset takes a rule with ports and
the protocol 0, and the raft layer does not. -/
theorem rule_valid_iff {rule : Rule} :
    rule_valid rule = true ↔ mesh_flow_ruleset.rule_valid rule = true ∧ NamesProtocol rule := by
  constructor
  · intro hvalid
    refine ⟨rule_valid_of_raft hvalid, fun hports hproto => ?_⟩
    obtain ⟨_, hnamed⟩ := guard_passed hvalid
    simp [hports, hproto] at hnamed
  · rintro ⟨hvalid, hnames⟩
    obtain ⟨hfields, hvalid⟩ := guard_passed hvalid
    obtain ⟨hproto, hnetworks⟩ := guard_passed hvalid
    simp only [not_or, ne_eq, not_not, Bool.not_eq_eq_eq_not, Bool.not_true, Bool.not_eq_false] at hfields
    obtain ⟨hid, haction, hsrc, hdst, hdir, hmask, hsrcport, hdstport⟩ := hfields
    have haction' : ¬ (rule.action ≠ .DENY ∧ rule.action ≠ .ALLOW) := by
      simpa [action_valid, or_iff_not_imp_left] using haction
    have hnetworks' := of_decide_eq_true hnetworks
    unfold rule_valid
    rw [if_neg (by simp [hid, hsrc, hdst, hdir, hmask, hsrcport, hdstport, haction', hnetworks'])]
    by_cases hports : rule.src_port_start ≠ 0 ∨ rule.dst_port_start ≠ 0
    · have hnamed := hnames hports
      simp only [hports, hnamed, true_and, not_and_or, not_not, ne_eq, false_or] at hproto
      simpa [hports] using hproto
    · simp [hports]

abbrev begin_command (policy_epoch : UInt64) (default_action : Action) (rules : List Rule) : Command :=
  { operation := .BEGIN, policy_epoch, total_rule_count := UInt16.ofNat rules.length, rule_offset := 0, default_action
    rules := [] }

/-- The `CHUNK` command that carries the rules of a snapshot from `offset` on. -/
abbrev chunk_command (policy_epoch : UInt64) (rules : List Rule) (offset : Nat) : Command :=
  { operation := .CHUNK, policy_epoch, total_rule_count := UInt16.ofNat rules.length, rule_offset := UInt16.ofNat offset
    default_action := .DENY, rules := (rules.drop offset).take MAX_CHUNK_RULES }

abbrev commit_command (policy_epoch : UInt64) (rules : List Rule) : Command :=
  { operation := .COMMIT, policy_epoch, total_rule_count := UInt16.ofNat rules.length
    rule_offset := UInt16.ofNat rules.length, default_action := .DENY, rules := [] }

section commands

variable {policy_epoch : UInt64} {default_action : Action} {rules : List Rule}

/-- A snapshot that fits a ruleset keeps its counts in 16 bits. -/
theorem toNat_count (hfits : rules.length ≤ MAX_RULES) {count : Nat} (hcount : count ≤ rules.length) :
    (UInt16.ofNat count).toNat = count := by
  refine Nat.mod_eq_of_lt ?_
  simp only [MAX_RULES] at hfits
  omega

variable (hepoch : policy_epoch ≠ 0) (hfits : rules.length ≤ MAX_RULES)

include hepoch hfits

theorem begin_command_valid (haction : action_valid default_action = true) :
    command_valid (begin_command policy_epoch default_action rules) = true := by
  simp only [command_valid, toNat_count hfits (le_refl rules.length)]
  simp [hepoch, Nat.not_lt.mpr hfits, haction]

theorem commit_command_valid : command_valid (commit_command policy_epoch rules) = true := by
  simp only [command_valid, toNat_count hfits (le_refl rules.length)]
  simp [hepoch, Nat.not_lt.mpr hfits]

theorem chunk_command_valid_iff {offset : Nat} (hoffset : offset < rules.length) :
    command_valid (chunk_command policy_epoch rules offset) = true ↔
      ∀ rule ∈ (rules.drop offset).take MAX_CHUNK_RULES, rule_valid rule = true := by
  have hnonempty : min MAX_CHUNK_RULES (rules.length - offset) ≠ 0 := by
    simp only [MAX_CHUNK_RULES]
    omega
  have htotal : offset + min MAX_CHUNK_RULES (rules.length - offset) ≤ rules.length := by omega
  simp only [command_valid, toNat_count hfits (le_refl rules.length), toNat_count hfits hoffset.le]
  simp [hepoch, Nat.not_lt.mpr hfits, hnonempty, htotal]

/-- Cut into chunks, the rules from `offset` on are checked one by one. -/
theorem chunk_commands_valid_iff (offset : Nat) :
    (∀ command ∈ chunk_commands policy_epoch rules offset, command_valid command = true) ↔
      ∀ rule ∈ rules.drop offset, rule_valid rule = true := by
  fun_induction chunk_commands policy_epoch rules offset with
  | case1 offset hlt ih =>
    have hsplit : rules.drop offset = (rules.drop offset).take MAX_CHUNK_RULES ++
        rules.drop (offset + min (rules.length - offset) MAX_CHUNK_RULES) := by
      by_cases hlast : rules.length - offset ≤ MAX_CHUNK_RULES
      · simp [hlast, Nat.add_sub_of_le hlt.le]
      · rw [Nat.min_eq_right (by omega), ← List.drop_drop, List.take_append_drop]
    rw [List.forall_mem_cons, chunk_command_valid_iff hepoch hfits hlt, ih, ← List.forall_mem_append, ← hsplit]
  | case2 offset hge => simp [List.drop_eq_nil_of_le (Nat.not_lt.mp hge)]

/-- The commands of a snapshot are valid exactly when its rules are valid for
the raft layer. -/
theorem snapshot_commands_valid_iff (haction : action_valid default_action = true) :
    (∀ command ∈ snapshot_commands policy_epoch default_action rules, command_valid command = true) ↔
      ∀ rule ∈ rules, rule_valid rule = true := by
  have hchunks := chunk_commands_valid_iff hepoch hfits 0
  simp only [snapshot_commands, List.forall_mem_cons, List.forall_mem_append, hchunks, List.drop_zero]
  simp [begin_command_valid hepoch hfits haction, commit_command_valid hepoch hfits]

end commands

/-- A caller of `mesh_flow_ruleset_raft_propose_snapshot_v1` for which nothing
but the snapshot itself can fail: an open adapter bound to a service that
accepts every proposal, with command ids and receipts for every entry. -/
structure Proposer (rule_count : Nat) where
  service : Proposal → TurboResult
  adapter : Adapter
  first_command_id : UInt64
  receipt_capacity : Nat
  accepts : ∀ proposal, service proposal = .OK
  is_open : adapter.is_open = true
  bound : adapter.service = true
  positive : first_command_id ≠ 0
  receipts : 2 + (rule_count + MAX_CHUNK_RULES - 1) / MAX_CHUNK_RULES ≤ receipt_capacity
  ids : first_command_id.toNat ≤
    18446744073709551615 - (2 + (rule_count + MAX_CHUNK_RULES - 1) / MAX_CHUNK_RULES - 1)

/-- The proposer's call. -/
def Proposer.propose {rule_count : Nat} (proposer : Proposer rule_count) (policy_epoch : UInt64)
    (default_action : Action) (rules : List Rule) : TurboResult × List Proposal :=
  propose_snapshot_v1 proposer.service proposer.adapter proposer.first_command_id policy_epoch default_action rules
    proposer.receipt_capacity

section propose

variable {service : Proposal → TurboResult}

variable {command_id : UInt64}

section

variable (haccepts : ∀ proposal, service proposal = .OK)

include haccepts

theorem propose_command_ok_iff {command : Command} :
    (propose_command service command_id command).1 = .OK ↔ command_valid command = true := by
  unfold propose_command encode_v1
  by_cases hvalid : command_valid command = true
  · have hcount := (command_valid_rules hvalid).1
    have hsize : ¬ MAX_COMMAND_SIZE < HEADER_SIZE + command.rules.length * RULE_SIZE := by
      simp only [MAX_COMMAND_SIZE, RULE_SIZE]
      omega
    simp [hvalid, hsize, turboraft.propose_with_receipt, haccepts]
  · simp [hvalid, map_ruleset_result]

/-- A command that the service takes is handed to it as it is encoded. -/
theorem propose_command_data {command : Command} (hvalid : command_valid command = true) :
    (propose_command service command_id command).2.map Proposal.data = [command.frame] := by
  have hcount := (command_valid_rules hvalid).1
  have hsize : ¬ MAX_COMMAND_SIZE < HEADER_SIZE + command.rules.length * RULE_SIZE := by
    simp only [MAX_COMMAND_SIZE, RULE_SIZE]
    omega
  simp [propose_command, encode_v1, hvalid, hsize, turboraft.propose_with_receipt, haccepts]

/-- A service that accepts everything is offered the whole list exactly when
every command is valid. -/
theorem propose_commands_ok_iff {commands : List Command} :
    (propose_commands service command_id commands).1 = .OK ↔ ∀ command ∈ commands, command_valid command = true := by
  induction commands generalizing command_id with
  | nil => simp [propose_commands]
  | cons command rest ih =>
    have hcommand : (propose_command service command_id command).1 = .OK ↔ command_valid command = true :=
      propose_command_ok_iff haccepts
    have hrest : (propose_commands service (command_id + 1) rest).1 = .OK ↔ _ := ih
    rw [List.forall_mem_cons, ← hcommand, ← hrest]
    by_cases hok : (propose_command service command_id command).1 = .OK
    · simp [propose_commands, hok]
    · simp [propose_commands, hok]

theorem propose_commands_data {commands : List Command} (hvalid : ∀ command ∈ commands, command_valid command = true) :
    (propose_commands service command_id commands).2.map Proposal.data = commands.map Command.frame := by
  induction commands generalizing command_id with
  | nil => rfl
  | cons command rest ih =>
    obtain ⟨hcommand, hrest⟩ := List.forall_mem_cons.mp hvalid
    have hok : (propose_command service command_id command).1 = .OK := (propose_command_ok_iff haccepts).mpr hcommand
    simp [propose_commands, hok, propose_command_data haccepts hcommand, ih hrest]

end

variable {policy_epoch : UInt64} {default_action : Action} {rules : List Rule}

theorem Proposer.propose_eq (proposer : Proposer rules.length) (hepoch : policy_epoch ≠ 0)
    (hfits : rules.length ≤ MAX_RULES) :
    proposer.propose policy_epoch default_action rules =
      propose_commands proposer.service proposer.first_command_id
        (snapshot_commands policy_epoch default_action rules) := by
  have hentries : 2 + (rules.length + MAX_CHUNK_RULES - 1) / MAX_CHUNK_RULES ≤ MAX_TRANSACTION_ENTRIES := by
    simp only [MAX_RULES, MAX_CHUNK_RULES, MAX_TRANSACTION_ENTRIES] at hfits ⊢
    omega
  refine if_neg ?_
  simp only [not_or]
  exact ⟨by simp [proposer.is_open], by simp [proposer.bound], proposer.positive, hepoch, Nat.not_lt.mpr hfits,
    Nat.not_lt.mpr hentries, Nat.not_lt.mpr proposer.receipts, Nat.not_lt.mpr proposer.ids⟩

end propose

def deliver (store : Store) (entry : Entry) : Store := (apply_v1 store entry.index entry.data).2

/-- The open rulesets: initialised, then replaced any number of times. -/
abbrev OpenRuleset :=
  { ruleset : Ruleset // ∃ capacity default_action fresh replacements,
      (init_v1 capacity default_action true).2 = some fresh ∧ run replace fresh replacements = ruleset }

/-- The open stores: initialised over an open ruleset, after any deliveries. -/
abbrev OpenStore :=
  { store : Store // ∃ (ruleset : OpenRuleset) (fresh : Store) (entries : List Entry),
      (store_init_v1 ruleset.1 true).2 = some fresh ∧ run deliver fresh entries = store }

theorem replace_keeps (ruleset : Ruleset) (replacement : Replacement) :
    (replace ruleset replacement).capacity = ruleset.capacity ∧
      (replace ruleset replacement).is_open = ruleset.is_open := by
  unfold replace
  by_cases hok : (apply_replace_v1 ruleset replacement.committed_index replacement.policy_epoch
      replacement.default_action replacement.rules).1 = .OK
  · rw [apply_replace_ok hok]
    exact ⟨rfl, rfl⟩
  · rw [apply_replace_failed hok]
    exact ⟨rfl, rfl⟩

theorem OpenRuleset.spec (ruleset : OpenRuleset) :
    ruleset.1.is_open = true ∧ ruleset.1.capacity ≠ 0 ∧ ruleset.1.capacity ≤ MAX_RULES := by
  obtain ⟨ruleset, capacity, default_action, fresh, replacements, hfresh, rfl⟩ := ruleset
  unfold init_v1 at hfresh
  split at hfresh <;> rename_i hvalid
  · simp at hfresh
  · simp only [not_or, gt_iff_lt, Nat.not_lt] at hvalid
    cases hfresh
    refine run_invariant
      (P := fun ruleset : Ruleset => ruleset.is_open = true ∧ ruleset.capacity ≠ 0 ∧ ruleset.capacity ≤ MAX_RULES)
      ⟨rfl, hvalid.1, hvalid.2.1⟩ (fun ruleset replacement hruleset => ?_) replacements
    obtain ⟨hcapacity, hopen⟩ := replace_keeps ruleset replacement
    rwa [hcapacity, hopen]

section deliver

variable {store : Store} {entry : Entry} {command : Command} {committed_index : UInt64}

theorem decode_v1_valid {data : List UInt8} (hdecode : decode_v1 data = .ok command) :
    command_valid command = true := by
  obtain ⟨_, hdecode⟩ := guard_passed hdecode
  obtain ⟨_, hdecode⟩ := guard_passed hdecode
  obtain ⟨hvalid, hdecode⟩ := guard_passed hdecode
  cases hdecode
  simpa using hvalid

/-- A command that fails changes nothing. -/
theorem Command.execute_failed (hfailed : (command.execute store committed_index).1 ≠ .OK) :
    (command.execute store committed_index).2 = store := by
  revert hfailed
  unfold Command.execute apply_begin apply_chunk apply_commit
  dsimp only
  split <;> split_ifs <;> simp

theorem Command.execute_capacity : (command.execute store committed_index).2.capacity = store.capacity := by
  unfold Command.execute apply_begin apply_chunk apply_commit
  dsimp only
  split <;> split_ifs <;> rfl

/-- A delivery changes nothing, or carries out the command of an entry beyond
the last one. -/
theorem deliver_cases (store : Store) (entry : Entry) :
    deliver store entry = store ∨
      ∃ command, decode_v1 entry.data = .ok command ∧ store.last_log_index < entry.index ∧
        (command.execute store entry.index).1 = .OK ∧
        deliver store entry = { (command.execute store entry.index).2 with last_log_index := entry.index } := by
  unfold deliver apply_v1
  split <;> rename_i hguard
  · exact .inl rfl
  · simp only [not_or, UInt64.not_le] at hguard
    cases hdecode : decode_v1 entry.data with
    | error result => exact .inl rfl
    | ok command =>
      by_cases hok : (command.execute store entry.index).1 = .OK
      · exact .inr ⟨command, rfl, hguard.2.2, hok, by simp [hok]⟩
      · exact .inl (by simp [hok, Command.execute_failed hok])

/-- An entry up to the last one that was applied is not applied again. -/
theorem deliver_again (hindex : entry.index ≤ store.last_log_index) : deliver store entry = store := by
  simp [deliver, apply_v1, hindex]

/-- The store has gone on to the transaction of an epoch or beyond it. -/
def Store.Reached (store : Store) (policy_epoch : UInt64) : Prop :=
  if store.staging then policy_epoch ≤ store.staging_epoch else policy_epoch ≤ store.active.policy_epoch

/-- An entry of a superseded transaction is refused. -/
theorem deliver_superseded {policy_epoch : UInt64} (hreached : store.Reached policy_epoch)
    (hdecode : decode_v1 entry.data = .ok command) (holder : command.policy_epoch < policy_epoch) :
    deliver store entry = store := by
  have hrefused : command.execute store entry.index = (.OUT_OF_ORDER, store) := by
    unfold Store.Reached at hreached
    unfold Command.execute apply_begin apply_chunk apply_commit
    cases hstaging : store.staging with
    | true =>
      simp only [hstaging, if_true] at hreached
      have hlt := UInt64.lt_of_lt_of_le holder hreached
      have hne : command.policy_epoch ≠ store.staging_epoch := UInt64.ne_of_lt hlt
      simp only [UInt64.le_of_lt hlt]
      split <;> simp [hne]
    | false =>
      simp only [hstaging, Bool.false_eq_true, if_false] at hreached
      have hle : command.policy_epoch ≤ store.active.policy_epoch :=
        UInt64.le_of_lt (UInt64.lt_of_lt_of_le holder hreached)
      simp only [hle]
      split <;> simp
  unfold deliver apply_v1
  split
  · rfl
  · simp [hdecode, hrefused]

theorem Inv.deliver (hinv : Inv store) (entry : Entry) : Inv (deliver store entry) := by
  rcases deliver_cases store entry with hsame | ⟨command, hdecode, hindex, hok, hnext⟩
  · rwa [hsame]
  · rw [hnext]
    exact hinv.execute hindex (decode_v1_valid hdecode) hok

theorem deliver_capacity (store : Store) (entry : Entry) : (deliver store entry).capacity = store.capacity := by
  rcases deliver_cases store entry with hsame | ⟨command, _, _, _, hnext⟩
  · rw [hsame]
  · rw [hnext]
    exact Command.execute_capacity

theorem OpenStore.spec (store : OpenStore) : Inv store.1 ∧ store.1.capacity ≤ MAX_RULES := by
  obtain ⟨store, ruleset, fresh, entries, hfresh, rfl⟩ := store
  obtain ⟨hopen, hcapacity, hfits⟩ := ruleset.spec
  simp only [store_init_v1, hopen, hcapacity] at hfresh
  cases hfresh
  refine run_invariant (P := fun store : Store => Inv store ∧ store.capacity ≤ MAX_RULES)
    ⟨⟨rfl, hopen, rfl, UInt64.le_refl _, by simp⟩, hfits⟩ (fun store entry hstore => ?_) entries
  exact ⟨hstore.1.deliver entry, (deliver_capacity store entry).symm ▸ hstore.2⟩

end deliver

/-- The store with the rules of a snapshot staged up to `offset`, after the
entry at `index`. -/
def Store.staged (store : Store) (policy_epoch : UInt64) (default_action : Action) (rules : List Rule)
    (offset : Nat) (index : UInt64) : Store :=
  { store with
    staging_rules := rules.take offset, expected_rule_count := rules.length, received_rule_count := offset
    staging_epoch := policy_epoch, last_log_index := index, staging_default_action := default_action, staging := true }

def Store.committed (store : Store) (policy_epoch : UInt64) (default_action : Action) (rules : List Rule)
    (index : UInt64) : Store :=
  { store.staged policy_epoch default_action rules rules.length index with
    active := (apply_replace_v1 store.active index policy_epoch default_action rules).2, expected_rule_count := 0
    received_rule_count := 0, staging := false }

/-- The deliveries that interleave the entries of one transaction, in order and
at increasing indices from `first` to `last`, with entries that are
delivered again and entries of superseded transactions. -/
inductive Interleaved (policy_epoch : UInt64) : UInt64 → List Entry → List Entry → UInt64 → Prop
  | done {last : UInt64} : Interleaved policy_epoch last [] [] last
  | own {first last : UInt64} {entry : Entry} {entries delivered : List Entry} (hindex : first < entry.index)
      (hrest : Interleaved policy_epoch entry.index entries delivered last) :
      Interleaved policy_epoch first (entry :: entries) (entry :: delivered) last
  | again {first last : UInt64} {entry : Entry} {entries delivered : List Entry} (hindex : entry.index ≤ first)
      (hrest : Interleaved policy_epoch first entries delivered last) :
      Interleaved policy_epoch first entries (entry :: delivered) last
  | superseded {first last : UInt64} {entry : Entry} {entries delivered : List Entry} {command : Command}
      (hdecode : decode_v1 entry.data = .ok command) (holder : command.policy_epoch < policy_epoch)
      (hrest : Interleaved policy_epoch first entries delivered last) :
      Interleaved policy_epoch first entries (entry :: delivered) last

theorem Interleaved.first_le_last {policy_epoch first last : UInt64} {entries delivered : List Entry}
    (h : Interleaved policy_epoch first entries delivered last) : first ≤ last := by
  induction h with
  | done => exact UInt64.le_refl _
  | own hindex _ ih => exact UInt64.le_trans (UInt64.le_of_lt hindex) ih
  | again _ _ ih => exact ih
  | superseded _ _ _ ih => exact ih

/-- A delivery of the commands with the given bytes to a store. -/
structure Delivery (store : Store) (policy_epoch : UInt64) (commands : List (List UInt8)) where
  opening : Entry
  chunks : List Entry
  commit : Entry
  before : List Entry
  after : List Entry
  last_chunk : UInt64
  last : UInt64
  data : (opening :: (chunks ++ [commit])).map Entry.data = commands
  opening_fresh : store.last_log_index < opening.index
  between : Interleaved policy_epoch opening.index chunks before last_chunk
  commit_fresh : last_chunk < commit.index
  afterwards : Interleaved policy_epoch commit.index [] after last

def Delivery.entries {store : Store} {policy_epoch : UInt64} {commands : List (List UInt8)}
    (delivery : Delivery store policy_epoch commands) : List Entry :=
  delivery.opening :: (delivery.before ++ delivery.commit :: delivery.after)

section transaction

variable {store : Store} {policy_epoch : UInt64} {default_action : Action} {rules : List Rule}

/-- A valid command at a fresh index is carried out by the branch of its
operation. -/
theorem deliver_frame {entry : Entry} {command : Command} {next : Store} (hopen : store.is_open = true)
    (hindex : store.last_log_index < entry.index) (hdata : entry.data = command.frame)
    (hvalid : command_valid command = true) (hexecute : command.execute store entry.index = (.OK, next)) :
    deliver store entry = { next with last_log_index := entry.index } := by
  have hpositive : entry.index ≠ 0 := by
    intro hzero
    simp [hzero] at hindex
  simp [deliver, apply_v1, hopen, hpositive, UInt64.not_le.mpr hindex, hdata, decode_frame hvalid, hexecute]

/-- What a snapshot needs to be carried through by a store. -/
structure Admissible (store : Store) (policy_epoch : UInt64) (default_action : Action) (rules : List Rule) :
    Prop where
  inv : Inv store
  fits : rules.length ≤ MAX_RULES
  capacity : rules.length ≤ store.capacity
  newer : store.active.policy_epoch < policy_epoch
  action : action_valid default_action = true
  valid : ∀ rule ∈ rules, rule_valid rule = true
  distinct : rules_valid [] rules = true

section

variable (hsnapshot : Admissible store policy_epoch default_action rules)

include hsnapshot

theorem Admissible.epoch : policy_epoch ≠ 0 := by
  rintro rfl
  have hnewer := hsnapshot.newer
  simp at hnewer

/-- The `BEGIN` entry opens the transaction if the one in progress is older. -/
theorem Admissible.deliver_begin (hsupersedes : store.staging = true → store.staging_epoch < policy_epoch)
    {entry : Entry} (hindex : store.last_log_index < entry.index)
    (hdata : entry.data = (begin_command policy_epoch default_action rules).frame) :
    deliver store entry = store.staged policy_epoch default_action rules 0 entry.index := by
  have hcount := toNat_count hsnapshot.fits (le_refl rules.length)
  have hstaging : ¬ (store.staging = true ∧ policy_epoch ≤ store.staging_epoch) := by
    rintro ⟨hstaging, hle⟩
    exact UInt64.not_le.mpr (hsupersedes hstaging) hle
  have hexecute : (begin_command policy_epoch default_action rules).execute store entry.index =
      (.OK, { store.staged policy_epoch default_action rules 0 entry.index with
        last_log_index := store.last_log_index }) := by
    simp only [Command.execute, apply_begin, hcount]
    rw [if_neg (by simpa [Nat.not_lt.mpr hsnapshot.capacity, UInt64.not_le.mpr hsnapshot.newer] using hstaging)]
    simp [Store.staged]
  exact deliver_frame hsnapshot.inv.is_open hindex hdata
    (begin_command_valid hsnapshot.epoch hsnapshot.fits hsnapshot.action) hexecute

end

variable {last : UInt64}

section

variable (hsnapshot : Admissible store policy_epoch default_action rules)

include hsnapshot

theorem Admissible.deliver_chunk {entry : Entry} {offset : Nat} (hoffset : offset < rules.length)
    (hindex : last < entry.index) (hdata : entry.data = (chunk_command policy_epoch rules offset).frame) :
    deliver (store.staged policy_epoch default_action rules offset last) entry =
      store.staged policy_epoch default_action rules
        (offset + min (rules.length - offset) MAX_CHUNK_RULES) entry.index := by
  have hcount := toNat_count hsnapshot.fits (le_refl rules.length)
  have hstart := toNat_count hsnapshot.fits hoffset.le
  have htake : rules.take offset ++ (rules.drop offset).take MAX_CHUNK_RULES =
      rules.take (offset + min (rules.length - offset) MAX_CHUNK_RULES) := by
    rw [List.take_add, ← List.length_drop, Nat.min_comm, ← List.take_eq_take_min]
  have hvalid : command_valid (chunk_command policy_epoch rules offset) = true :=
    (chunk_command_valid_iff hsnapshot.epoch hsnapshot.fits hoffset).mpr fun rule hrule =>
      hsnapshot.valid rule (List.mem_of_mem_drop (List.mem_of_mem_take hrule))
  have hexecute : (chunk_command policy_epoch rules offset).execute
      (store.staged policy_epoch default_action rules offset last) entry.index =
        (.OK, { store.staged policy_epoch default_action rules
          (offset + min (rules.length - offset) MAX_CHUNK_RULES) entry.index with last_log_index := last }) := by
    simp only [Command.execute, apply_chunk, Store.staged, hcount, hstart, htake]
    simp [Nat.min_comm]
  have hopen : (store.staged policy_epoch default_action rules offset last).is_open = true := hsnapshot.inv.is_open
  exact deliver_frame hopen hindex hdata hvalid hexecute

/-- The replacement succeeds at every index beyond the log of the store. -/
theorem Admissible.replace_ok {index : UInt64} (hindex : store.last_log_index < index) :
    (apply_replace_v1 store.active index policy_epoch default_action rules).1 = .OK := by
  refine apply_replace_ok_iff.mpr ⟨hsnapshot.inv.active_open, ?_, hsnapshot.newer, hsnapshot.action, ?_,
    hsnapshot.distinct⟩
  · exact UInt64.lt_of_le_of_lt hsnapshot.inv.applied hindex
  · rw [hsnapshot.inv.capacity]
    exact hsnapshot.capacity

/-- The `COMMIT` entry replaces the active ruleset. -/
theorem Admissible.deliver_commit {entry : Entry} (hlast : store.last_log_index < last) (hindex : last < entry.index)
    (hdata : entry.data = (commit_command policy_epoch rules).frame) :
    deliver (store.staged policy_epoch default_action rules rules.length last) entry =
      store.committed policy_epoch default_action rules entry.index := by
  have hcount := toNat_count hsnapshot.fits (le_refl rules.length)
  have hok := hsnapshot.replace_ok (UInt64.lt_trans hlast hindex)
  have hexecute : (commit_command policy_epoch rules).execute
      (store.staged policy_epoch default_action rules rules.length last) entry.index =
        (.OK, { store.committed policy_epoch default_action rules entry.index with last_log_index := last }) := by
    simp only [Command.execute, apply_commit, Store.staged, Store.committed, hcount, List.take_length]
    simp [hok]
  have hopen : (store.staged policy_epoch default_action rules rules.length last).is_open = true :=
    hsnapshot.inv.is_open
  exact deliver_frame hopen hindex hdata (commit_command_valid hsnapshot.epoch hsnapshot.fits) hexecute

end

/-- The deliveries lead from one store to another without touching the active
ruleset. -/
structure Passes (store next : Store) (delivered : List Entry) : Prop where
  final : run deliver store delivered = next
  active : ∀ n, (run deliver store (delivered.take n)).active = store.active

theorem Passes.nil : Passes store store [] := ⟨rfl, fun _ => by rw [List.take_nil]; rfl⟩

theorem Passes.cons {middle next : Store} {entry : Entry} {delivered : List Entry}
    (hentry : deliver store entry = middle) (hactive : middle.active = store.active)
    (hrest : Passes middle next delivered) : Passes store next (entry :: delivered) := by
  subst hentry
  refine ⟨hrest.final, fun n => ?_⟩
  cases n with
  | zero => rfl
  | succ n => exact (hrest.active n).trans hactive

/-- Up to the commit, the deliveries stage the rules that they carry. -/
theorem Admissible.passes_between (hsnapshot : Admissible store policy_epoch default_action rules) {first : UInt64}
    {chunks delivered : List Entry} (hdelivered : Interleaved policy_epoch first chunks delivered last) {offset : Nat}
    (hoffset : offset ≤ rules.length)
    (hdata : chunks.map Entry.data = (chunk_commands policy_epoch rules offset).map Command.frame) :
    Passes (store.staged policy_epoch default_action rules offset first)
      (store.staged policy_epoch default_action rules rules.length last) delivered := by
  induction hdelivered generalizing offset with
  | done =>
    unfold chunk_commands at hdata
    split at hdata <;> rename_i hlt
    · simp at hdata
    · rw [Nat.le_antisymm hoffset (Nat.not_lt.mp hlt)]
      exact .nil
  | own hindex _ ih =>
    unfold chunk_commands at hdata
    split at hdata <;> rename_i hlt
    · obtain ⟨hentry, hchunks⟩ := List.cons.inj hdata
      exact .cons (hsnapshot.deliver_chunk hlt hindex hentry) rfl (ih (by omega) hchunks)
    · simp at hdata
  | again hindex _ ih => exact .cons (deliver_again hindex) rfl (ih hoffset hdata)
  | @superseded first _ _ _ _ _ hdecode holder _ ih =>
    have hreached : (store.staged policy_epoch default_action rules offset first).Reached policy_epoch :=
      UInt64.le_refl policy_epoch
    exact .cons (deliver_superseded hreached hdecode holder) rfl (ih hoffset hdata)

/-- After the commit, the further deliveries change nothing. -/
theorem passes_afterwards {first : UInt64} {entries delivered : List Entry}
    (hdelivered : Interleaved policy_epoch first entries delivered last) (hentries : entries = [])
    (hreached : store.Reached policy_epoch) (hlast : store.last_log_index = first) :
    Passes store store delivered := by
  induction hdelivered with
  | done => exact .nil
  | own => cases hentries
  | again hindex _ ih => exact .cons (deliver_again (hlast ▸ hindex)) rfl (ih hentries hlast)
  | superseded hdecode holder _ ih =>
    exact .cons (deliver_superseded hreached hdecode holder) rfl (ih hentries hlast)

/-- A delivery of the commands of a snapshot leaves the active ruleset alone up
to the commit and is the direct replacement from then on. -/
theorem Admissible.delivery (hsnapshot : Admissible store policy_epoch default_action rules)
    (hsupersedes : store.staging = true → store.staging_epoch < policy_epoch)
    (delivery : Delivery store policy_epoch
      ((snapshot_commands policy_epoch default_action rules).map Command.frame)) (n : Nat) :
    (run deliver store (delivery.entries.take n)).active =
      if n ≤ delivery.before.length + 1 then store.active
      else (apply_replace_v1 store.active delivery.commit.index policy_epoch default_action rules).2 := by
  obtain ⟨hopening, hrest⟩ := List.cons.inj delivery.data
  rw [List.map_append, List.map_append] at hrest
  obtain ⟨hchunks, hcommit⟩ := List.append_inj' hrest rfl
  have hbegin := hsnapshot.deliver_begin hsupersedes delivery.opening_fresh hopening
  have hbetween := hsnapshot.passes_between delivery.between (Nat.zero_le _) hchunks
  have hlast : store.last_log_index < delivery.last_chunk :=
    UInt64.lt_of_lt_of_le delivery.opening_fresh delivery.between.first_le_last
  have hcommitted := hsnapshot.deliver_commit hlast delivery.commit_fresh (List.cons.inj hcommit).1
  have hreplaced := apply_replace_ok (hsnapshot.replace_ok (UInt64.lt_trans hlast delivery.commit_fresh))
  have hreached : (store.committed policy_epoch default_action rules delivery.commit.index).Reached policy_epoch := by
    simp only [Store.Reached, Store.committed, hreplaced]
    simp
  have hafter := passes_afterwards delivery.afterwards rfl hreached rfl
  cases n with
  | zero => rfl
  | succ n =>
    have hstart : run deliver store (delivery.entries.take (n + 1)) =
        run deliver (store.staged policy_epoch default_action rules 0 delivery.opening.index)
          ((delivery.before ++ delivery.commit :: delivery.after).take n) := by
      rw [← hbegin]
      rfl
    rw [hstart]
    by_cases hn : n ≤ delivery.before.length
    · rw [if_pos (by omega), List.take_append_of_le_length hn]
      exact hbetween.active n
    · obtain ⟨m, hm⟩ : ∃ m, n = delivery.before.length + (m + 1) := ⟨n - delivery.before.length - 1, by omega⟩
      rw [if_neg (by omega), hm, List.take_length_add_append, List.take_succ_cons, run_append, hbetween.final]
      have hstep := hafter.active m
      rw [← hcommitted] at hstep
      exact hstep.trans (by rw [hcommitted]; rfl)

end transaction

/-- For every open store and every snapshot that the direct replacement of its
active ruleset accepts: proposing the snapshot succeeds exactly when its
rules with ports name their protocol. If they do, and if the transaction in
progress is older, every delivery of the proposed commands, with repeated
and superseded entries in between, leaves the active ruleset alone up to
the commit and is the direct replacement at its index from then on. -/
theorem snapshot_replaces_iff (store : OpenStore) (committed_index policy_epoch : UInt64) (default_action : Action)
    (rules : List Rule)
    (hdirect : (apply_replace_v1 store.1.active committed_index policy_epoch default_action rules).1 = .OK) :
    (∀ proposer : Proposer rules.length,
      (proposer.propose policy_epoch default_action rules).1 = .OK ↔ ∀ rule ∈ rules, NamesProtocol rule) ∧
    ((∀ rule ∈ rules, NamesProtocol rule) → ∀ proposer : Proposer rules.length,
      (store.1.staging = true → store.1.staging_epoch < policy_epoch) →
      ∀ (delivery : Delivery store.1 policy_epoch
          ((proposer.propose policy_epoch default_action rules).2.map Proposal.data)) (n : Nat),
        (Machine.run deliver store.1 (delivery.entries.take n)).active =
          if n ≤ delivery.before.length + 1 then store.1.active
          else (apply_replace_v1 store.1.active delivery.commit.index policy_epoch default_action rules).2) := by
  obtain ⟨hinv, hcapacity⟩ := store.spec
  obtain ⟨_, _, hnewer, haction, hfits, hdistinct⟩ := apply_replace_ok_iff.mp hdirect
  rw [hinv.capacity] at hfits
  have hmax := Nat.le_trans hfits hcapacity
  have hepoch : policy_epoch ≠ 0 := by
    rintro rfl
    simp at hnewer
  have hrules : (∀ rule ∈ rules, rule_valid rule = true) ↔ ∀ rule ∈ rules, NamesProtocol rule := by
    refine forall₂_congr fun rule hrule => ?_
    rw [rule_valid_iff]
    exact and_iff_right ((rules_valid_nil_iff.mp hdistinct).1 rule hrule)
  have hvalid := snapshot_commands_valid_iff hepoch hmax haction
  constructor
  · intro proposer
    rw [proposer.propose_eq hepoch hmax, propose_commands_ok_iff proposer.accepts, hvalid, hrules]
  · intro hnames proposer hsupersedes
    have hsnapshot : Admissible store.1 policy_epoch default_action rules :=
      ⟨hinv, hmax, hfits, hnewer, haction, hrules.mpr hnames, hdistinct⟩
    rw [proposer.propose_eq hepoch hmax, propose_commands_data proposer.accepts (hvalid.mpr (hrules.mpr hnames))]
    exact hsnapshot.delivery hsupersedes

def sample_ruleset : Ruleset :=
  { rules := [], capacity := 4, policy_epoch := 0, applied_index := 0, default_action := .DENY, is_open := true }

/-- A store over it. -/
def sample_store : Store :=
  { active := sample_ruleset, staging_rules := [], capacity := 4, expected_rule_count := 0, received_rule_count := 0,
    staging_epoch := 0, last_log_index := 0, staging_default_action := .DENY, staging := false, is_open := true }

def sample_open_store : OpenStore :=
  ⟨sample_store, ⟨sample_ruleset, 4, .DENY, sample_ruleset, [], rfl, rfl⟩, sample_store, [], rfl, rfl⟩

/-- Allows every destination port 80 of the protocol. -/
def port_80_rule (ip_proto : UInt8) : Rule :=
  { rule_id := 1, src_network_ip := 0, dst_network_ip := 0, src_port_start := 0, src_port_end := 0,
    dst_port_start := 80, dst_port_end := 80, directions := 1, src_prefix_len := 0, dst_prefix_len := 0,
    ip_proto := ip_proto, action := .ALLOW }

theorem snapshot_commands_one (policy_epoch : UInt64) (default_action : Action) (rule : Rule) :
    snapshot_commands policy_epoch default_action [rule] =
      [begin_command policy_epoch default_action [rule], chunk_command policy_epoch [rule] 0,
        commit_command policy_epoch [rule]] := by
  rw [snapshot_commands, chunk_commands, if_pos (by simp), chunk_commands, if_neg (by simp [MAX_CHUNK_RULES])]
  rfl

def sample_proposer : Proposer 1 where
  service := fun _ => .OK
  adapter :=
    { store := sample_store, service := true, require := none, publish := none, published_index := 0,
      publish_pending := false, is_open := true }
  first_command_id := 1
  receipt_capacity := 20
  accepts := fun _ => rfl
  is_open := rfl
  bound := rfl
  positive := by decide
  receipts := by decide
  ids := by decide

theorem sample_propose_eq {policy_epoch : UInt64} {default_action : Action} {rule : Rule} (hepoch : policy_epoch ≠ 0) :
    sample_proposer.propose policy_epoch default_action [rule] =
      propose_commands sample_proposer.service 1
        [begin_command policy_epoch default_action [rule], chunk_command policy_epoch [rule] 0,
          commit_command policy_epoch [rule]] := by
  have hfits : [rule].length ≤ MAX_RULES := by simp [MAX_RULES]
  rw [← snapshot_commands_one]
  exact Proposer.propose_eq _ hepoch hfits

/-- The entries of the TCP snapshot, with its first entry delivered again and
an older transaction refused before the commit. -/
def sample_delivery : Delivery sample_store 2
    ((sample_proposer.propose 2 .ALLOW [port_80_rule 6]).2.map Proposal.data) where
  opening := ⟨1, (begin_command 2 .ALLOW [port_80_rule 6]).frame⟩
  chunks := [⟨2, (chunk_command 2 [port_80_rule 6] 0).frame⟩]
  commit := ⟨4, (commit_command 2 [port_80_rule 6]).frame⟩
  before :=
    [⟨1, (begin_command 2 .ALLOW [port_80_rule 6]).frame⟩, ⟨2, (chunk_command 2 [port_80_rule 6] 0).frame⟩,
      ⟨3, (begin_command 1 .DENY []).frame⟩]
  after := []
  last_chunk := 2
  last := 4
  data := by
    rw [sample_propose_eq (by decide), propose_commands_data sample_proposer.accepts (by decide)]
    rfl
  opening_fresh := by decide
  between := .again (by decide) (.own (by decide) (.superseded (decode_frame (by decide)) (by decide) .done))
  commit_fresh := by decide
  afterwards := .done

theorem tcp_snapshot_replaces :
    (sample_proposer.propose 2 .ALLOW [port_80_rule 6]).1 = .OK ∧
      (Machine.run deliver sample_store (sample_delivery.entries.take 4)).active = sample_ruleset ∧
      (Machine.run deliver sample_store sample_delivery.entries).active =
        { rules := [port_80_rule 6], capacity := 4, policy_epoch := 2, applied_index := 4, default_action := .ALLOW,
          is_open := true } := by
  obtain ⟨hpropose, hdelivery⟩ := snapshot_replaces_iff sample_open_store 1 2 .ALLOW [port_80_rule 6] (by decide)
  have hnames : ∀ rule ∈ [port_80_rule 6], NamesProtocol rule := by decide
  refine ⟨(hpropose sample_proposer).mpr hnames, ?_, ?_⟩
  · exact hdelivery hnames sample_proposer (by simp [sample_open_store, sample_store]) sample_delivery 4
  · have hall := hdelivery hnames sample_proposer (by simp [sample_open_store, sample_store]) sample_delivery 5
    exact hall

/-- A rule for port 80 of every protocol is taken by the direct replacement but
not by the raft layer, which has proposed `BEGIN` by then. -/
theorem port_without_protocol_refused :
    (apply_replace_v1 sample_ruleset 1 1 .DENY [port_80_rule 0]).1 = .OK ∧
      sample_proposer.propose 1 .DENY [port_80_rule 0] =
        (.EPROTO, [⟨1, (begin_command 1 .DENY [port_80_rule 0]).frame⟩]) := by
  refine ⟨by decide, ?_⟩
  rw [sample_propose_eq (by decide)]
  decide

end turbop2p.mesh_flow_ruleset_raft
