import TurboP2P.Lib.Bytes
import TurboP2P.Lib.Machine

namespace turbop2p.mesh_flow_ruleset

/-- `mesh_flow_ruleset_result_t`. -/
inductive Result where
  | OK
  | INVALID_ARG
  | INVALID_STATE
  | OUT_OF_ORDER
  | RESOURCE_EXHAUSTED
  deriving DecidableEq

/-- `mesh_flow_action_v1_t`; `other` stands for every code without a name. -/
inductive Action where
  | DENY
  | ALLOW
  | other (code : UInt8)
  deriving DecidableEq

def MAX_RULES : Nat := 256

def DIRECTION_ANY : UInt32 := 0x0f

/-- `mesh_flow_rule_v1_t`. -/
structure Rule where
  rule_id : UInt64
  src_network_ip : UInt32
  dst_network_ip : UInt32
  src_port_start : UInt16
  src_port_end : UInt16
  dst_port_start : UInt16
  dst_port_end : UInt16
  directions : UInt32
  src_prefix_len : UInt8
  dst_prefix_len : UInt8
  ip_proto : UInt8
  action : Action
  deriving DecidableEq

/-- `mesh_flow_ruleset_v1_t`; `rules` lists the first `rule_count` rules. -/
structure Ruleset where
  rules : List Rule
  capacity : Nat
  policy_epoch : UInt64
  applied_index : UInt64
  default_action : Action
  is_open : Bool
  deriving DecidableEq

def action_valid (action : Action) : Bool := action = .DENY ∨ action = .ALLOW

def prefix_mask (prefix_len : UInt8) : UInt32 :=
  if prefix_len = 0 then 0 else 0xffffffff <<< (32 - prefix_len.toUInt32)

def port_range_valid (first last : UInt16) : Bool :=
  (first = 0 ∧ last = 0) ∨ (first ≠ 0 ∧ last ≥ first)

def rule_valid (rule : Rule) : Bool :=
  if rule.rule_id = 0 ∨ !action_valid rule.action ∨ rule.src_prefix_len > 32 ∨ rule.dst_prefix_len > 32 ∨
      rule.directions = 0 ∨ rule.directions &&& ~~~DIRECTION_ANY ≠ 0 ∨
      !port_range_valid rule.src_port_start rule.src_port_end ∨
      !port_range_valid rule.dst_port_start rule.dst_port_end then false
  else if (rule.src_port_start ≠ 0 ∨ rule.dst_port_start ≠ 0) ∧ rule.ip_proto ≠ 0 ∧ rule.ip_proto ≠ 6 ∧
      rule.ip_proto ≠ 17 then false
  else
    rule.src_network_ip &&& prefix_mask rule.src_prefix_len = rule.src_network_ip ∧
      rule.dst_network_ip &&& prefix_mask rule.dst_prefix_len = rule.dst_network_ip

/-- `mesh_flow_ruleset_init_v1` on a cleared ruleset. -/
def init_v1 (capacity : Nat) (initial_default_action : Action) (calloc : Bool) : Result × Option Ruleset :=
  if capacity = 0 ∨ capacity > MAX_RULES ∨ !action_valid initial_default_action then (.INVALID_ARG, none)
  else if calloc = false then (.RESOURCE_EXHAUSTED, none)
  else
    (.OK, some
      { rules := [], capacity, policy_epoch := 0, applied_index := 0, default_action := initial_default_action
        is_open := true })

/-- The validation loop of `mesh_flow_ruleset_apply_replace_v1`: every rule is
valid and none repeats the id of an earlier one. -/
def rules_valid (earlier : List Rule) : List Rule → Bool
  | [] => true
  | rule :: rest =>
    rule_valid rule && earlier.all (fun other => rule.rule_id ≠ other.rule_id) &&
      rules_valid (earlier ++ [rule]) rest

/-- `mesh_flow_ruleset_apply_replace_v1`, where the allocation of the new rule
array succeeds. -/
def apply_replace_v1 (ruleset : Ruleset) (committed_index policy_epoch : UInt64) (default_action : Action)
    (rules : List Rule) : Result × Ruleset :=
  if ruleset.is_open = false then (.INVALID_STATE, ruleset)
  else if committed_index = 0 ∨ policy_epoch = 0 ∨ !action_valid default_action then (.INVALID_ARG, ruleset)
  else if committed_index ≤ ruleset.applied_index ∨ policy_epoch ≤ ruleset.policy_epoch then
    (.OUT_OF_ORDER, ruleset)
  else if rules.length > ruleset.capacity then (.RESOURCE_EXHAUSTED, ruleset)
  else if !rules_valid [] rules then (.INVALID_ARG, ruleset)
  else
    (.OK,
      { ruleset with rules, default_action, policy_epoch, applied_index := committed_index })

/-- The snapshot that a call of `mesh_flow_ruleset_apply_replace_v1` brings. -/
structure Replacement where
  committed_index : UInt64
  policy_epoch : UInt64
  default_action : Action
  rules : List Rule
  deriving DecidableEq

/-- The ruleset that holds exactly the snapshot. -/
def Replacement.ruleset (replacement : Replacement) (capacity : Nat) : Ruleset :=
  { rules := replacement.rules, capacity, policy_epoch := replacement.policy_epoch
    applied_index := replacement.committed_index, default_action := replacement.default_action, is_open := true }

def replace (ruleset : Ruleset) (replacement : Replacement) : Ruleset :=
  (apply_replace_v1 ruleset replacement.committed_index replacement.policy_epoch replacement.default_action
    replacement.rules).2

/-- `mesh_flow_query_v1_t`. -/
structure Query where
  src_ip : UInt32
  dst_ip : UInt32
  src_port : UInt16
  dst_port : UInt16
  direction : UInt32
  ip_proto : UInt8
  has_ports : UInt8
  peer_identity : Bytes 32
  deriving DecidableEq

/-- `mesh_flow_reason_v1_t`; `NONE` is the code 0 of a cleared decision. -/
inductive Reason where
  | NONE
  | RULE
  | DEFAULT
  deriving DecidableEq

/-- `mesh_flow_decision_v1_t`. -/
structure Decision where
  action : Action
  reason : Reason
  rule_id : UInt64
  policy_epoch : UInt64
  applied_index : UInt64
  direction : UInt32
  peer_identity : Bytes 32
  deriving DecidableEq

/-- A decision of zero bytes. -/
def Decision.cleared : Decision :=
  { action := .DENY, reason := .NONE, rule_id := 0, policy_epoch := 0, applied_index := 0, direction := 0
    peer_identity := List.Vector.replicate 32 0 }

def query_valid (query : Query) : Bool :=
  query.direction ≠ 0 ∧ query.direction &&& (query.direction - 1) = 0 ∧ query.direction &&& DIRECTION_ANY ≠ 0 ∧
    query.has_ports ≤ 1

def rule_matches (rule : Rule) (query : Query) : Bool :=
  if rule.directions &&& query.direction = 0 ∨ (rule.ip_proto ≠ 0 ∧ rule.ip_proto ≠ query.ip_proto) then false
  else if query.src_ip &&& prefix_mask rule.src_prefix_len ≠ rule.src_network_ip ∨
      query.dst_ip &&& prefix_mask rule.dst_prefix_len ≠ rule.dst_network_ip then false
  else if rule.src_port_start ≠ 0 ∧ (query.has_ports = 0 ∨ query.src_port < rule.src_port_start ∨
      query.src_port > rule.src_port_end) then false
  else if rule.dst_port_start ≠ 0 ∧ (query.has_ports = 0 ∨ query.dst_port < rule.dst_port_start ∨
      query.dst_port > rule.dst_port_end) then false
  else true

def Decision.of_rule (decision : Decision) (rule : Rule) : Decision :=
  { decision with action := rule.action, reason := .RULE, rule_id := rule.rule_id }

/-- The loop of `mesh_flow_ruleset_evaluate_v1`: the first rule that matches
decides. -/
def first_match (query : Query) (decision : Decision) : List Rule → Decision
  | [] => decision
  | rule :: rest => if rule_matches rule query then decision.of_rule rule else first_match query decision rest

/-- The decision that holds if no rule matches. -/
def default_decision (default_action : Action) (policy_epoch applied_index : UInt64) (query : Query) : Decision :=
  { action := default_action, reason := .DEFAULT, rule_id := 0, policy_epoch, applied_index
    direction := query.direction, peer_identity := query.peer_identity }

def evaluate_v1 (ruleset : Ruleset) (query : Query) : Result × Decision :=
  if ruleset.is_open = false then (.INVALID_STATE, .cleared)
  else if !query_valid query then (.INVALID_ARG, .cleared)
  else
    (.OK, first_match query
      (default_decision ruleset.default_action ruleset.policy_epoch ruleset.applied_index query) ruleset.rules)

variable {committed_index policy_epoch : UInt64} {default_action : Action} {rules : List Rule} {ruleset : Ruleset}

/-- A replacement that succeeds installs exactly the given snapshot. -/
theorem apply_replace_ok (hok : (apply_replace_v1 ruleset committed_index policy_epoch default_action rules).1 = .OK) :
    (apply_replace_v1 ruleset committed_index policy_epoch default_action rules).2 =
      { ruleset with rules, default_action, policy_epoch, applied_index := committed_index } := by
  unfold apply_replace_v1 at hok ⊢
  obtain ⟨hopen, hok⟩ := guard_fst hok
  obtain ⟨harguments, hok⟩ := guard_fst hok
  obtain ⟨horder, hok⟩ := guard_fst hok
  obtain ⟨hfits, hok⟩ := guard_fst hok
  obtain ⟨hvalid, _⟩ := guard_fst hok
  rw [hopen, harguments, horder, hfits, hvalid]

/-- A replacement that fails changes nothing. -/
theorem apply_replace_failed
    (hfailed : (apply_replace_v1 ruleset committed_index policy_epoch default_action rules).1 ≠ .OK) :
    (apply_replace_v1 ruleset committed_index policy_epoch default_action rules).2 = ruleset := by
  unfold apply_replace_v1 at hfailed ⊢
  split_ifs at hfailed ⊢ <;> first | rfl | exact absurd rfl hfailed

/-- A replacement is accepted exactly for a complete and valid snapshot that
is newer than the one in place and fits the ruleset. -/
theorem apply_replace_ok_iff :
    (apply_replace_v1 ruleset committed_index policy_epoch default_action rules).1 = .OK ↔
      ruleset.is_open = true ∧ ruleset.applied_index < committed_index ∧ ruleset.policy_epoch < policy_epoch ∧
        action_valid default_action = true ∧ rules.length ≤ ruleset.capacity ∧ rules_valid [] rules = true := by
  constructor
  · intro hok
    unfold apply_replace_v1 at hok
    split at hok <;> rename_i hopen
    · cases hok
    split at hok <;> rename_i harguments
    · cases hok
    split at hok <;> rename_i horder
    · cases hok
    split at hok <;> rename_i hfits
    · cases hok
    split at hok <;> rename_i hvalid
    · cases hok
    simp only [not_or, UInt64.not_le] at harguments horder
    exact ⟨by simpa using hopen, horder.1, horder.2, by simpa using harguments.2.2, Nat.not_lt.mp hfits,
      by simpa using hvalid⟩
  · rintro ⟨hopen, hindex, hepoch, haction, hfits, hvalid⟩
    have hnonzero : committed_index ≠ 0 ∧ policy_epoch ≠ 0 := by
      constructor <;> rintro rfl
      · simp at hindex
      · simp at hepoch
    simp [apply_replace_v1, hopen, hnonzero, haction, UInt64.not_le.mpr hindex, UInt64.not_le.mpr hepoch,
      Nat.not_lt.mpr hfits, hvalid]

theorem rules_valid_iff {earlier : List Rule} :
    rules_valid earlier rules = true ↔
      (∀ rule ∈ rules, rule_valid rule = true) ∧
        (∀ rule ∈ rules, ∀ other ∈ earlier, rule.rule_id ≠ other.rule_id) ∧
        rules.Pairwise fun rule later => rule.rule_id ≠ later.rule_id := by
  induction rules generalizing earlier with
  | nil => simp [rules_valid]
  | cons rule rest ih =>
    simp only [rules_valid, Bool.and_eq_true, ih, List.all_eq_true, decide_eq_true_eq, List.forall_mem_cons,
      List.pairwise_cons, List.mem_append, List.mem_singleton]
    constructor
    · rintro ⟨⟨hrule, hearlier⟩, hvalid, hfresh, hrest⟩
      refine ⟨⟨hrule, hvalid⟩, ⟨hearlier, fun later hlater other hother => hfresh later hlater other (.inl hother)⟩,
        fun later hlater heq => hfresh later hlater rule (.inr rfl) heq.symm, hrest⟩
    · rintro ⟨⟨hrule, hvalid⟩, ⟨hearlier, hfresh⟩, hhead, hrest⟩
      refine ⟨⟨hrule, hearlier⟩, hvalid, fun later hlater other hother => ?_, hrest⟩
      rcases hother with hother | rfl
      · exact hfresh later hlater other hother
      · exact (hhead later hlater).symm

/-- A rule list passes the validation loop exactly when its rules are valid
and carry distinct ids. -/
theorem rules_valid_nil_iff :
    rules_valid [] rules = true ↔
      (∀ rule ∈ rules, rule_valid rule = true) ∧ rules.Pairwise fun rule later => rule.rule_id ≠ later.rule_id := by
  simp [rules_valid_iff]

end turbop2p.mesh_flow_ruleset
