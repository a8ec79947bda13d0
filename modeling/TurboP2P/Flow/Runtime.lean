import TurboP2P.Flow.Ruleset
import TurboP2P.Lib.Codec
import TurboP2P.Lib.Threads
import Mathlib.Logic.Function.Basic

open Codec
open turbop2p.mesh_flow_ruleset

namespace turbop2p.mesh_flow_runtime

/-- `mesh_flow_runtime_result_t`. -/
inductive RuntimeResult where
  | OK
  | DISABLED
  | INVALID_ARG
  | INVALID_STATE
  | OUT_OF_ORDER
  | RESOURCE_EXHAUSTED
  | BUSY
  deriving DecidableEq

def map_ruleset_result (result : Result) : RuntimeResult :=
  match result with
  | .OK => .OK
  | .INVALID_ARG => .INVALID_ARG
  | .INVALID_STATE => .INVALID_STATE
  | .OUT_OF_ORDER => .OUT_OF_ORDER
  | .RESOURCE_EXHAUSTED => .RESOURCE_EXHAUSTED

/-- One of the two rulesets of the runtime as it lies in memory: while it is
being replaced, `rules` and `rule_count` need not fit together. Beyond the
list the rule array holds zero bytes. -/
structure Slot where
  rules : List Rule
  rule_count : Nat
  capacity : Nat
  policy_epoch : UInt64
  applied_index : UInt64
  default_action : Action
  is_open : Bool
  deriving DecidableEq

/-- A rule of zero bytes. -/
def cleared_rule : Rule :=
  { rule_id := 0, src_network_ip := 0, dst_network_ip := 0, src_port_start := 0, src_port_end := 0, dst_port_start := 0
    dst_port_end := 0, directions := 0, src_prefix_len := 0, dst_prefix_len := 0, ip_proto := 0, action := .DENY }

def Slot.ruleset (slot : Slot) : Ruleset :=
  { rules := slot.rules.take slot.rule_count, capacity := slot.capacity, policy_epoch := slot.policy_epoch
    applied_index := slot.applied_index, default_action := slot.default_action, is_open := slot.is_open }

/-- `mesh_flow_runtime_v1_t`; the slots are numbered by `false` and `true`,
and the reader counters are of type `atomic_uint`. -/
structure Memory where
  slots : Bool → Slot
  active_slot : Bool
  readers : Bool → UInt32
  published : Bool
  required_index : UInt64
  writer : Bool

/-- The memory that `mesh_flow_runtime_init_v1` leaves when it succeeds. -/
def init_v1 (capacity : Nat) (initial_default_action : Action) : Option Memory :=
  match (mesh_flow_ruleset.init_v1 capacity initial_default_action true).2 with
  | none => none
  | some ruleset =>
    some
      { slots := fun _ =>
          { rules := ruleset.rules, rule_count := ruleset.rules.length, capacity := ruleset.capacity
            policy_epoch := ruleset.policy_epoch, applied_index := ruleset.applied_index
            default_action := ruleset.default_action, is_open := ruleset.is_open }
        active_slot := false
        readers := fun _ => 0
        published := false
        required_index := 0
        writer := false }

/-- The arguments of `mesh_flow_runtime_evaluate_ipv4_v1`. -/
structure Packet where
  direction : UInt32
  bytes : List UInt8
  peer_identity : Option (Bytes 32)
  deriving DecidableEq

/-- The check that is made before anything is loaded. -/
def Packet.has_ipv4_header (packet : Packet) : Bool :=
  packet.bytes.length ≥ 20 ∧ packet.bytes.getD 0 0 >>> 4 = 4

/-- The query that the packet asks, if its header is well formed. -/
def Packet.query (packet : Packet) : Option Query :=
  let header_size := (packet.bytes.getD 0 0 &&& 0x0f).toNat * 4
  let total_size := (read_u16_be (packet.bytes.drop 2)).toNat
  if header_size < 20 ∨ header_size > packet.bytes.length ∨ total_size < header_size ∨
      total_size > packet.bytes.length then none
  else
    let ip_proto := packet.bytes.getD 9 0
    let ports := (ip_proto = 6 ∨ ip_proto = 17) ∧ read_u16_be (packet.bytes.drop 6) &&& 0x1fff = 0 ∧
      total_size ≥ header_size + 4
    some
      { src_ip := read_u32_be (packet.bytes.drop 12), dst_ip := read_u32_be (packet.bytes.drop 16)
        src_port := if ports then read_u16_be (packet.bytes.drop header_size) else 0
        dst_port := if ports then read_u16_be (packet.bytes.drop (header_size + 2)) else 0
        direction := packet.direction, ip_proto, has_ports := if ports then 1 else 0
        peer_identity := packet.peer_identity.getD (List.Vector.replicate 32 0) }

/-- The calls that run concurrently. -/
inductive Call where
  | evaluate (packet : Packet)
  | publish (policy : Replacement)
  | require (required_index : UInt64)
  deriving DecidableEq

/-- Where `mesh_flow_ruleset_evaluate_v1` has got to in reading its slot. -/
inductive Reading where
  | arguments
  | default_action
  | policy_epoch (action : Action)
  | applied_index (action : Action) (epoch : UInt64)
  | rule (index : Nat) (decision : Decision)
  deriving DecidableEq

/-- The next read: either further reading or the result. -/
def Reading.next (slot : Slot) (query : Query) : Reading → Reading ⊕ (Result × Decision)
  | .arguments =>
    if slot.is_open = false then .inr (.INVALID_STATE, .cleared)
    else if !query_valid query then .inr (.INVALID_ARG, .cleared)
    else .inl .default_action
  | .default_action => .inl (.policy_epoch slot.default_action)
  | .policy_epoch action => .inl (.applied_index action slot.policy_epoch)
  | .applied_index action epoch => .inl (.rule 0 (default_decision action epoch slot.applied_index query))
  | .rule index decision =>
    if index < slot.rule_count then
      if rule_matches (slot.rules.getD index cleared_rule) query then
        .inr (.OK, decision.of_rule (slot.rules.getD index cleared_rule))
      else .inl (.rule (index + 1) decision)
    else .inr (.OK, decision)

/-- The next access of a `mesh_flow_runtime_evaluate_ipv4_v1` call. -/
inductive EvaluatePc where
  | load_published
  | load_required
  | load_active (query : Query)
  | pin (query : Query) (active : Bool)
  | reload_active (query : Query) (active : Bool)
  | reload_published (query : Query) (active : Bool)
  | unpin (query : Query) (active : Bool)
  | retry (query : Query)
  | read (query : Query) (active : Bool) (reading : Reading)
  | load_demand (query : Query) (active : Bool) (decision : Decision)
  | release (query : Query) (active : Bool) (result : Result) (decision : Decision)
  deriving DecidableEq

/-- The stores of `mesh_flow_ruleset_apply_replace_v1` to its ruleset. -/
inductive Field where
  | old_rules
  | rules
  | rule_count
  | default_action
  | policy_epoch
  | applied_index
  deriving DecidableEq

/-- The stores in program order. -/
def Field.all : List Field := [.old_rules, .rules, .rule_count, .default_action, .policy_epoch, .applied_index]

def Field.store (policy : Replacement) (slot : Slot) : Field → Slot
  | .old_rules => { slot with rules := [] }
  | .rules => { slot with rules := policy.rules }
  | .rule_count => { slot with rule_count := policy.rules.length }
  | .default_action => { slot with default_action := policy.default_action }
  | .policy_epoch => { slot with policy_epoch := policy.policy_epoch }
  | .applied_index => { slot with applied_index := policy.committed_index }

/-- The next access of a `mesh_flow_runtime_publish_v1` call. -/
inductive PublishPc where
  | test_and_set
  | load_active
  | load_published (active : Bool)
  | compare (active : Bool)
  | load_readers (active : Bool)
  | validate (active : Bool)
  | replace (active : Bool) (pending : List Field)
  | store_published
  | clear (result : RuntimeResult)
  deriving DecidableEq

/-- The next access of a `mesh_flow_runtime_require_index_v1` call. -/
inductive RequirePc where
  | load
  | exchange (current : UInt64)
  deriving DecidableEq

/-- A thread between two accesses to the shared memory. -/
inductive Thread where
  | idle
  | evaluate (packet : Packet) (pc : EvaluatePc)
  | publish (policy : Replacement) (pc : PublishPc)
  | require (required_index : UInt64) (pc : RequirePc)
  deriving DecidableEq

/-- What the callers and the clients of the runtime can tell of a run: where
calls begin and return, and where a policy becomes the active one. -/
inductive Event where
  | began (call : Call)
  | published (policy : Replacement)
  | returned (call : Call) (result : RuntimeResult) (decision : Option Decision)
  deriving DecidableEq

/-- What the environment decides of a step: which call an idle thread begins,
and whether a weak exchange fails for no reason or an allocation fails. -/
inductive Input where
  | call (call : Call)
  | proceed (fails : Bool)
  deriving DecidableEq

abbrev Outcome := Memory × Thread × List Event

variable (memory : Memory)

def evaluate_returns (packet : Packet) (result : RuntimeResult) (decision : Option Decision) :
    Outcome :=
  (memory, .idle, [.returned (.evaluate packet) result decision])

/-- One access of `mesh_flow_runtime_evaluate_ipv4_v1`. -/
def evaluate_step (packet : Packet) : EvaluatePc → Outcome
  | .load_published =>
    if !packet.has_ipv4_header then evaluate_returns memory packet .INVALID_ARG none
    else if memory.published = false then (memory, .evaluate packet .load_required, [])
    else
      match packet.query with
      | none => evaluate_returns memory packet .INVALID_ARG none
      | some query => (memory, .evaluate packet (.load_active query), [])
  | .load_required =>
    evaluate_returns memory packet (if memory.required_index = 0 then .DISABLED else .INVALID_STATE) none
  | .load_active query => (memory, .evaluate packet (.pin query memory.active_slot), [])
  | .pin query active =>
    ({ memory with readers := Function.update memory.readers active (memory.readers active + 1) },
      .evaluate packet (.reload_active query active), [])
  | .reload_active query active =>
    if active = memory.active_slot then (memory, .evaluate packet (.reload_published query active), [])
    else (memory, .evaluate packet (.unpin query active), [])
  | .reload_published query active =>
    if memory.published then (memory, .evaluate packet (.read query active .arguments), [])
    else (memory, .evaluate packet (.unpin query active), [])
  | .unpin query active =>
    ({ memory with readers := Function.update memory.readers active (memory.readers active - 1) },
      .evaluate packet (.retry query), [])
  | .retry query =>
    if memory.published = false then evaluate_returns memory packet .DISABLED none
    else (memory, .evaluate packet (.load_active query), [])
  | .read query active reading =>
    match reading.next (memory.slots active) query with
    | .inl further => (memory, .evaluate packet (.read query active further), [])
    | .inr (.OK, decision) => (memory, .evaluate packet (.load_demand query active decision), [])
    | .inr (result, decision) => (memory, .evaluate packet (.release query active result decision), [])
  | .load_demand query active decision =>
    if (memory.slots active).applied_index < memory.required_index then
      (memory, .evaluate packet (.release query active .INVALID_STATE decision), [])
    else (memory, .evaluate packet (.release query active .OK decision), [])
  | .release _ active result decision =>
    evaluate_returns { memory with readers := Function.update memory.readers active (memory.readers active - 1) }
      packet (map_ruleset_result result) (some decision)

/-- One access of `mesh_flow_runtime_publish_v1`. -/
def publish_step (policy : Replacement) (fails : Bool) : PublishPc → Outcome
  | .test_and_set =>
    if memory.writer then (memory, .idle, [.returned (.publish policy) .BUSY none])
    else ({ memory with writer := true }, .publish policy .load_active, [])
  | .load_active => (memory, .publish policy (.load_published memory.active_slot), [])
  | .load_published active =>
    if memory.published then (memory, .publish policy (.compare active), [])
    else (memory, .publish policy (.load_readers active), [])
  | .compare active =>
    if policy.committed_index ≤ (memory.slots active).applied_index ∨
        policy.policy_epoch ≤ (memory.slots active).policy_epoch then
      (memory, .publish policy (.clear .OUT_OF_ORDER), [])
    else (memory, .publish policy (.load_readers active), [])
  | .load_readers active =>
    if memory.readers (!active) ≠ 0 then (memory, .publish policy (.clear .BUSY), [])
    else (memory, .publish policy (.validate active), [])
  | .validate active =>
    -- The checks of the replacement, which read the inactive slot, and its allocation.
    match (apply_replace_v1 (memory.slots (!active)).ruleset policy.committed_index policy.policy_epoch
      policy.default_action policy.rules).1 with
    | .OK =>
      if fails then (memory, .publish policy (.clear .RESOURCE_EXHAUSTED), [])
      else (memory, .publish policy (.replace active Field.all), [])
    | result => (memory, .publish policy (.clear (map_ruleset_result result)), [])
  | .replace active (field :: pending) =>
    ({ memory with slots := Function.update memory.slots (!active) (field.store policy (memory.slots (!active))) },
      .publish policy (.replace active pending), [])
  | .replace active [] =>
    ({ memory with active_slot := !active }, .publish policy .store_published, [.published policy])
  | .store_published => ({ memory with published := true }, .publish policy (.clear .OK), [])
  | .clear result => ({ memory with writer := false }, .idle, [.returned (.publish policy) result none])

/-- One access of `mesh_flow_runtime_require_index_v1`. -/
def require_step (required_index : UInt64) (fails : Bool) : RequirePc → Outcome
  | .load =>
    if required_index = 0 then (memory, .idle, [.returned (.require required_index) .INVALID_ARG none])
    else (memory, .require required_index (.exchange memory.required_index), [])
  | .exchange current =>
    if required_index ≤ current then (memory, .idle, [.returned (.require required_index) .OK none])
    else if memory.required_index = current ∧ !fails then
      ({ memory with required_index := required_index }, .idle, [.returned (.require required_index) .OK none])
    else (memory, .require required_index (.exchange memory.required_index), [])

/-- The first access of a call. -/
def Call.start : Call → Thread
  | .evaluate packet => .evaluate packet .load_published
  | .publish policy => .publish policy .test_and_set
  | .require required_index => .require required_index .load

/-- One step of a thread: an idle one begins a call, a busy one makes its next
access. -/
def thread_step (memory : Memory) : Thread → Input → Outcome
  | .idle, .call call => (memory, call.start, [.began call])
  | .idle, .proceed _ => (memory, .idle, [])
  | thread, .call _ => (memory, thread, [])
  | .evaluate packet pc, .proceed _ => evaluate_step memory packet pc
  | .publish policy pc, .proceed fails => publish_step memory policy fails pc
  | .require required_index pc, .proceed fails => require_step memory required_index fails pc

abbrev World := Threads.World Memory Thread Event

/-- A sequentially consistent interleaving of the calls of some threads. -/
def run (thread_count : Nat) (inputs : List (Nat × Input)) : World :=
  Machine.run (Threads.step thread_step)
    { memory, threads := List.replicate thread_count .idle, history := [] } inputs

end turbop2p.mesh_flow_runtime
