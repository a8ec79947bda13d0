import TurboP2P.Flow.Ruleset
import TurboP2P.Lib.Codec
import TurboP2P.Raft.Service

open Codec
open turbop2p.mesh_flow_ruleset
open turbop2p.turboraft (TurboResult Proposal propose_with_receipt)

namespace turbop2p.mesh_flow_ruleset_raft

/-- `mesh_flow_ruleset_raft_operation_v1_t`. -/
inductive Operation where
  | BEGIN
  | CHUNK
  | COMMIT
  | other (code : UInt8)
  deriving DecidableEq

def Operation.code : Operation → UInt8
  | .BEGIN => 1
  | .CHUNK => 2
  | .COMMIT => 3
  | .other code => code

def Operation.of_code (code : UInt8) : Operation :=
  if code = 1 then .BEGIN
  else if code = 2 then .CHUNK
  else if code = 3 then .COMMIT
  else .other code

def action_code : Action → UInt8
  | .DENY => 0
  | .ALLOW => 1
  | .other code => code

def action_of_code (code : UInt8) : Action :=
  if code = 0 then .DENY
  else if code = 1 then .ALLOW
  else .other code

def VERSION : UInt8 := 1
def HEADER_SIZE : Nat := 24
def RULE_SIZE : Nat := 32
def MAX_CHUNK_RULES : Nat := 15
def MAX_COMMAND_SIZE : Nat := HEADER_SIZE + RULE_SIZE * MAX_CHUNK_RULES

/-- `RULESET_RAFT_MAGIC`: `MFR1`. -/
def MAGIC : List UInt8 := [77, 70, 82, 49]

/-- `mesh_flow_ruleset_raft_command_v1_t`; `rules` lists the first `rule_count`
rules. -/
structure Command where
  operation : Operation
  policy_epoch : UInt64
  total_rule_count : UInt16
  rule_offset : UInt16
  default_action : Action
  rules : List Rule
  deriving DecidableEq

/-- `mesh_flow_ruleset_raft_store_v1_t`; `staging_rules` lists the first
`received_rule_count` rules of the staging array. -/
structure Store where
  active : Ruleset
  staging_rules : List Rule
  capacity : Nat
  expected_rule_count : Nat
  received_rule_count : Nat
  staging_epoch : UInt64
  last_log_index : UInt64
  staging_default_action : Action
  staging : Bool
  is_open : Bool
  deriving DecidableEq

/-- The check that the raft layer makes of a rule. Unlike the ruleset's own
check it asks a rule with ports to name the protocol. -/
def rule_valid (rule : Rule) : Bool :=
  if rule.rule_id = 0 ∨ rule.src_prefix_len > 32 ∨ rule.dst_prefix_len > 32 ∨
      rule.src_network_ip &&& prefix_mask rule.src_prefix_len ≠ rule.src_network_ip ∨
      rule.dst_network_ip &&& prefix_mask rule.dst_prefix_len ≠ rule.dst_network_ip ∨
      rule.directions = 0 ∨ rule.directions &&& ~~~DIRECTION_ANY ≠ 0 ∨
      (rule.action ≠ .DENY ∧ rule.action ≠ .ALLOW) ∨
      !port_range_valid rule.src_port_start rule.src_port_end ∨
      !port_range_valid rule.dst_port_start rule.dst_port_end then false
  else
    !(rule.src_port_start ≠ 0 ∨ rule.dst_port_start ≠ 0) ∨ rule.ip_proto = 6 ∨ rule.ip_proto = 17

def command_valid (command : Command) : Bool :=
  if command.policy_epoch = 0 ∨ command.total_rule_count.toNat > MAX_RULES then false
  else
    match command.operation with
    | .BEGIN => command.rule_offset = 0 ∧ command.rules.length = 0 ∧ action_valid command.default_action
    | .CHUNK =>
      command.rules.length ≠ 0 ∧ command.rules.length ≤ MAX_CHUNK_RULES ∧ command.default_action = .DENY ∧
        command.rule_offset.toNat + command.rules.length ≤ command.total_rule_count.toNat ∧
        command.rules.all rule_valid
    | .COMMIT =>
      command.rule_offset = command.total_rule_count ∧ command.rules.length = 0 ∧ command.default_action = .DENY
    | .other _ => false

def encode_rule (rule : Rule) : List UInt8 :=
  write_u64_le rule.rule_id ++ (write_u32_le rule.src_network_ip ++ (write_u32_le rule.dst_network_ip ++
    (write_u16_le rule.src_port_start ++ (write_u16_le rule.src_port_end ++ (write_u16_le rule.dst_port_start ++
    (write_u16_le rule.dst_port_end ++ (write_u32_le rule.directions ++
    [rule.src_prefix_len, rule.dst_prefix_len, rule.ip_proto, action_code rule.action])))))))

def decode_rule (input : List UInt8) : Rule :=
  { rule_id := read_u64_le input, src_network_ip := read_u32_le (input.drop 8)
    dst_network_ip := read_u32_le (input.drop 12), src_port_start := read_u16_le (input.drop 16)
    src_port_end := read_u16_le (input.drop 18), dst_port_start := read_u16_le (input.drop 20)
    dst_port_end := read_u16_le (input.drop 22), directions := read_u32_le (input.drop 24)
    src_prefix_len := (input.drop 28).getD 0 0, dst_prefix_len := (input.drop 29).getD 0 0
    ip_proto := (input.drop 30).getD 0 0, action := action_of_code ((input.drop 31).getD 0 0) }

/-- The bytes that the encoder writes, field by field. -/
def Command.frame (command : Command) : List UInt8 :=
  MAGIC ++ [VERSION, command.operation.code, 0, 0] ++ (write_u64_le command.policy_epoch ++
    (write_u16_le command.total_rule_count ++ (write_u16_le command.rule_offset ++
    ([action_code command.default_action, 0, 0, 0] ++ command.rules.flatMap encode_rule))))

def encode_v1 (command : Command) (output_capacity : Nat) : Except Result (List UInt8) :=
  if !command_valid command then .error .INVALID_ARG
  else if output_capacity < HEADER_SIZE + command.rules.length * RULE_SIZE then .error .RESOURCE_EXHAUSTED
  else .ok command.frame

/-- The fields that the decoder reads at their offsets. -/
def Command.of_frame (input : List UInt8) : Command :=
  { operation := .of_code (input.getD 5 0), policy_epoch := read_u64_le (input.drop 8)
    total_rule_count := read_u16_le (input.drop 16), rule_offset := read_u16_le (input.drop 18)
    default_action := action_of_code ((input.drop 20).getD 0 0)
    rules := records RULE_SIZE decode_rule ((input.length - HEADER_SIZE) / RULE_SIZE) (input.drop HEADER_SIZE) }

def decode_v1 (input : List UInt8) : Except Result Command :=
  if input.length < HEADER_SIZE ∨ input.length > MAX_COMMAND_SIZE ∨ input.take 4 ≠ MAGIC ∨
      input.getD 4 0 ≠ VERSION ∨ input.getD 6 0 ≠ 0 ∨ input.getD 7 0 ≠ 0 ∨
      (input.drop 21).getD 0 0 ≠ 0 ∨ (input.drop 22).getD 0 0 ≠ 0 ∨ (input.drop 23).getD 0 0 ≠ 0 then
    .error .INVALID_ARG
  else if (input.length - HEADER_SIZE) % RULE_SIZE ≠ 0 then .error .INVALID_ARG
  else if !command_valid (.of_frame input) then .error .INVALID_ARG
  else .ok (.of_frame input)

/-- `mesh_flow_ruleset_raft_store_init_v1` on a cleared store. -/
def store_init_v1 (active_ruleset : Ruleset) (calloc : Bool) : Result × Option Store :=
  if active_ruleset.is_open = false ∨ active_ruleset.capacity = 0 then (.INVALID_ARG, none)
  else if calloc = false then (.RESOURCE_EXHAUSTED, none)
  else
    (.OK, some
      { active := active_ruleset, staging_rules := [], capacity := active_ruleset.capacity, expected_rule_count := 0
        received_rule_count := 0, staging_epoch := 0, last_log_index := active_ruleset.applied_index
        staging_default_action := .DENY, staging := false, is_open := true })

variable (adapter : Adapter) (store : Store)

/-- The branch of a `BEGIN` command: opens a new staging transaction. -/
def apply_begin (command : Command) : Result × Store :=
  if command.total_rule_count.toNat > store.capacity ∨ command.policy_epoch ≤ store.active.policy_epoch ∨
      (store.staging ∧ command.policy_epoch ≤ store.staging_epoch) then (.OUT_OF_ORDER, store)
  else
    (.OK,
      { store with
        staging_rules := [], staging_epoch := command.policy_epoch, staging_default_action := command.default_action
        expected_rule_count := command.total_rule_count.toNat, received_rule_count := 0, staging := true })

/-- The branch of a `CHUNK` command: appends its rules to the staging array. -/
def apply_chunk (command : Command) : Result × Store :=
  if store.staging = false ∨ command.policy_epoch ≠ store.staging_epoch ∨
      command.total_rule_count.toNat ≠ store.expected_rule_count ∨
      command.rule_offset.toNat ≠ store.received_rule_count then (.OUT_OF_ORDER, store)
  else
    (.OK,
      { store with
        staging_rules := store.staging_rules ++ command.rules
        received_rule_count := store.received_rule_count + command.rules.length })

/-- The branch of a `COMMIT` command: replaces the active ruleset. -/
def apply_commit (committed_index : UInt64) (command : Command) : Result × Store :=
  if store.staging = false ∨ command.policy_epoch ≠ store.staging_epoch ∨
      command.total_rule_count.toNat ≠ store.expected_rule_count ∨
      store.received_rule_count ≠ store.expected_rule_count then (.OUT_OF_ORDER, store)
  else
    let replaced := apply_replace_v1 store.active committed_index store.staging_epoch store.staging_default_action
      (store.staging_rules.take store.expected_rule_count)
    if replaced.1 ≠ .OK then (replaced.1, store)
    else
      (.OK,
        { store with active := replaced.2, staging := false, expected_rule_count := 0, received_rule_count := 0 })

def Command.execute (store : Store) (committed_index : UInt64) (command : Command) : Result × Store :=
  match command.operation with
  | .BEGIN => apply_begin store command
  | .CHUNK => apply_chunk store command
  | _ => apply_commit store committed_index command

def apply_v1 (committed_index : UInt64) (command_data : List UInt8) : Result × Store :=
  if store.is_open = false ∨ committed_index = 0 ∨ committed_index ≤ store.last_log_index then
    (.OUT_OF_ORDER, store)
  else
    match decode_v1 command_data with
    | .error result => (result, store)
    | .ok command =>
      let executed := command.execute store committed_index
      if executed.1 ≠ .OK then executed
      else (.OK, { executed.2 with last_log_index := committed_index })

/-- `mesh_flow_ruleset_raft_adapter_s`; the callbacks are given by what they
answer and `service` tells whether one is bound. -/
structure Adapter where
  store : Store
  service : Bool
  require : Option (UInt64 → TurboResult)
  publish : Option (Ruleset → TurboResult)
  published_index : UInt64
  publish_pending : Bool
  is_open : Bool

def map_ruleset_result (result : Result) : TurboResult :=
  match result with
  | .OK => .OK
  | .RESOURCE_EXHAUSTED => .ENOMEM
  | _ => .EPROTO

/-- Hands a committed ruleset to the publisher, if there is one. -/
def publish_committed (adapter : Adapter) : Adapter :=
  match adapter.publish with
  | none => adapter
  | some publish =>
    if publish adapter.store.active = .OK then
      { adapter with published_index := adapter.store.active.applied_index, publish_pending := false }
    else { adapter with publish_pending := true }

/-- What the `require` callback answers for a `COMMIT` entry; every other entry
and an adapter without a publisher need no answer. -/
def required (command : Command) (index : UInt64) : TurboResult :=
  match command.operation, adapter.require with
  | .COMMIT, some require => require index
  | _, _ => .OK

/-- The body of the loop of `apply_batch`. -/
def apply_entry (entry : turboraft.Entry) : TurboResult × Adapter :=
  match decode_v1 entry.data with
  | .error result => (map_ruleset_result result, adapter)
  | .ok command =>
    if required adapter command entry.index ≠ .OK then (required adapter command entry.index, adapter)
    else
      let applied := apply_v1 adapter.store entry.index entry.data
      if applied.1 ≠ .OK then (map_ruleset_result applied.1, { adapter with store := applied.2 })
      else if command.operation = .COMMIT then (.OK, publish_committed { adapter with store := applied.2 })
      else (.OK, { adapter with store := applied.2 })

def apply_batch (entries : List turboraft.Entry) : TurboResult × Adapter :=
  turboraft.apply_entries Adapter.is_open apply_entry adapter entries

def adapter_create_v1 (calloc : Bool) : TurboResult × Option Adapter :=
  if store.is_open = false then (.EINVAL, none)
  else if calloc = false then (.ENOMEM, none)
  else
    (.OK, some
      { store, service := false, require := none, publish := none, published_index := 0, publish_pending := false
        is_open := true })

def set_publisher_v1 (require : UInt64 → TurboResult) (publish : Ruleset → TurboResult) :
    TurboResult × Adapter :=
  if adapter.is_open = false ∨ adapter.require.isSome ∨ adapter.publish.isSome then (.EINVAL, adapter)
  else
    (.OK,
      { adapter with require := some require, publish := some publish })

/-- `propose_command`, with the proposals that the service has accepted. -/
def propose_command (service : Proposal → TurboResult) (command_id : UInt64) (command : Command) :
    TurboResult × List Proposal :=
  match encode_v1 command MAX_COMMAND_SIZE with
  | .error result => (map_ruleset_result result, [])
  | .ok bytes =>
    propose_with_receipt service
      { command_id, data := bytes }

/-- Proposes commands in order until one is not accepted, with the proposals
that the service has accepted. -/
def propose_commands (service : Proposal → TurboResult) (command_id : UInt64) :
    List Command → TurboResult × List Proposal
  | [] => (.OK, [])
  | command :: rest =>
    let proposed := propose_command service command_id command
    if proposed.1 ≠ .OK then proposed
    else
      let further := propose_commands service (command_id + 1) rest
      (further.1, proposed.2 ++ further.2)

/-- The `CHUNK` commands of a snapshot: up to `MAX_CHUNK_RULES` rules each, from
`offset` on. -/
def chunk_commands (policy_epoch : UInt64) (rules : List Rule) (offset : Nat) : List Command :=
  if offset < rules.length then
    { operation := .CHUNK, policy_epoch, total_rule_count := UInt16.ofNat rules.length
      rule_offset := UInt16.ofNat offset, default_action := .DENY
      rules := (rules.drop offset).take MAX_CHUNK_RULES } ::
        chunk_commands policy_epoch rules (offset + min (rules.length - offset) MAX_CHUNK_RULES)
  else []
termination_by rules.length - offset
decreasing_by simp [MAX_CHUNK_RULES]; omega

/-- The commands of a snapshot in the order in which they are proposed. -/
def snapshot_commands (policy_epoch : UInt64) (default_action : Action) (rules : List Rule) : List Command :=
  { operation := .BEGIN, policy_epoch, total_rule_count := UInt16.ofNat rules.length, rule_offset := 0, default_action
    rules := [] } ::
  (chunk_commands policy_epoch rules 0 ++
    [{ operation := .COMMIT, policy_epoch, total_rule_count := UInt16.ofNat rules.length
       rule_offset := UInt16.ofNat rules.length, default_action := .DENY, rules := [] }])

def MAX_TRANSACTION_ENTRIES : Nat := 20

/-- `mesh_flow_ruleset_raft_propose_snapshot_v1`, with the proposals that the
service has accepted; their number is `out_submitted`. -/
def propose_snapshot_v1 (service : Proposal → TurboResult) (adapter : Adapter)
    (first_command_id policy_epoch : UInt64) (default_action : Action) (rules : List Rule)
    (receipt_capacity : Nat) : TurboResult × List Proposal :=
  let required_receipts := 2 + (rules.length + MAX_CHUNK_RULES - 1) / MAX_CHUNK_RULES
  if adapter.is_open = false ∨ adapter.service = false ∨ first_command_id = 0 ∨ policy_epoch = 0 ∨
      rules.length > MAX_RULES ∨ required_receipts > MAX_TRANSACTION_ENTRIES ∨
      receipt_capacity < required_receipts ∨
      first_command_id.toNat > 18446744073709551615 - (required_receipts - 1) then
    (.EINVAL, [])
  else propose_commands service first_command_id (snapshot_commands policy_epoch default_action rules)

theorem action_of_code_code {action : Action} (hvalid : action_valid action = true) :
    action_of_code (action_code action) = action := by
  cases action with
  | other code => simp [action_valid] at hvalid
  | _ => rfl

@[simp] theorem length_encode_rule (rule : Rule) : (encode_rule rule).length = RULE_SIZE := by
  simp [encode_rule, RULE_SIZE]

theorem rule_valid_action {rule : Rule} (hvalid : rule_valid rule = true) : action_valid rule.action = true := by
  obtain ⟨hfields, _⟩ := guard_passed hvalid
  simp only [not_or, not_and_or, not_not] at hfields
  simpa [action_valid] using hfields.2.2.2.2.2.2.2.1

theorem decode_encode_rule {rule : Rule} (hvalid : rule_valid rule = true) (rest : List UInt8) :
    decode_rule (encode_rule rule ++ rest) = rule := by
  simp [decode_rule, encode_rule, drop_append_field, action_of_code_code (rule_valid_action hvalid)]

/-- The rules of a valid command are valid: only a chunk carries any. -/
theorem command_valid_rules {command : Command} (hvalid : command_valid command = true) :
    command.rules.length ≤ MAX_CHUNK_RULES ∧ ∀ rule ∈ command.rules, rule_valid rule = true := by
  obtain ⟨_, hvalid⟩ := guard_passed hvalid
  cases hop : command.operation with
  | CHUNK =>
    simp only [hop, decide_eq_true_eq, List.all_eq_true] at hvalid
    exact ⟨hvalid.2.1, hvalid.2.2.2.2⟩
  | other code => simp [hop] at hvalid
  | _ =>
    simp only [hop, decide_eq_true_eq, List.length_eq_zero_iff] at hvalid
    simp [hvalid]

@[simp] theorem length_frame (command : Command) :
    command.frame.length = HEADER_SIZE + command.rules.length * RULE_SIZE := by
  have hrules := length_flatMap_records encode_rule command.rules (fun rule _ => length_encode_rule rule)
  simp only [Command.frame, List.length_append, hrules]
  simp [MAGIC, HEADER_SIZE]
  omega

variable {command : Command} (hvalid : command_valid command = true)

include hvalid

/-- Reading the fields of a frame gives the command back. -/
theorem of_frame_frame : Command.of_frame command.frame = command := by
  have hoperation : Operation.of_code command.operation.code = command.operation := by
    cases hop : command.operation with
    | other code => simp [command_valid, hop] at hvalid
    | _ => rfl
  have haction : action_of_code (action_code command.default_action) = command.default_action := by
    refine action_of_code_code ?_
    obtain ⟨_, hvalid⟩ := guard_passed hvalid
    cases hop : command.operation <;> simp_all [action_valid]
  have hrules : records RULE_SIZE decode_rule ((command.frame.length - HEADER_SIZE) / RULE_SIZE)
      (command.frame.drop HEADER_SIZE) = command.rules := by
    have hcount : (command.frame.length - HEADER_SIZE) / RULE_SIZE = command.rules.length := by
      simp [RULE_SIZE]
    have htail : command.frame.drop HEADER_SIZE = command.rules.flatMap encode_rule ++ [] := by
      simp [Command.frame, MAGIC, HEADER_SIZE, drop_append_field]
    have hread := records_flatMap id (fun rule _ => length_encode_rule rule)
      (fun rule hrule => decode_encode_rule ((command_valid_rules hvalid).2 rule hrule)) []
    rw [hcount, htail, hread, List.map_id]
  unfold Command.of_frame
  rw [hrules]
  simp [Command.frame, MAGIC, drop_append_field, hoperation, haction]

/-- Every valid command survives its encoding. -/
theorem decode_frame : decode_v1 command.frame = .ok command := by
  have hheader : command.frame.take 4 = MAGIC ∧ command.frame.getD 4 0 = VERSION ∧
      command.frame.getD 6 0 = 0 ∧ command.frame.getD 7 0 = 0 ∧ (command.frame.drop 21).getD 0 0 = 0 ∧
      (command.frame.drop 22).getD 0 0 = 0 ∧ (command.frame.drop 23).getD 0 0 = 0 := by
    simp [Command.frame, MAGIC, drop_append_field]
  have hsize : HEADER_SIZE + command.rules.length * RULE_SIZE ≤ MAX_COMMAND_SIZE := by
    have hcount := (command_valid_rules hvalid).1
    simp only [MAX_COMMAND_SIZE, RULE_SIZE]
    omega
  obtain ⟨hmagic, hversion, h6, h7, h21, h22, h23⟩ := hheader
  simp only [decode_v1, hmagic, hversion, h6, h7, h21, h22, h23, of_frame_frame hvalid, hvalid]
  simpa using hsize

end turbop2p.mesh_flow_ruleset_raft
