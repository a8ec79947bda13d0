import TurboP2P.Control.Effects

open turbop2p.mesh_control
open SlotTable

namespace turbop2p.mesh_control_state

/-- A configuration that `init_v1` accepts. -/
abbrev ValidConfig := {config : Config // config_valid config = true}

/-- A successful initialization leaves the initial state of a valid
configuration. -/
theorem init_v1_ok {config : Option Config} {calloc : Bool} {impl : Impl}
    (hinit : init_v1 config calloc = (.OK, some impl)) :
    ∃ valid : ValidConfig, config = some valid.1 ∧ impl = initial valid.1 := by
  cases config with
  | none => cases hinit
  | some config =>
    obtain ⟨hvalid, hinit⟩ := guard_passed hinit
    obtain ⟨_, hinit⟩ := guard_passed hinit
    cases hinit
    exact ⟨⟨config, by simpa using hvalid⟩, rfl, rfl⟩

def resource_key (slot : ResourceSlot) : ResourceKind × Digest :=
  (slot.status.resource_kind, slot.status.resource_id)

/-- The bounds behind `config_valid` that the other checks rely on. -/
structure Config.Bounded (config : Config) : Prop where
  resource_pos : 0 < config.resource_capacity
  operation_pos : 0 < config.operation_capacity
  event_pos : 0 < config.event_capacity
  event_le : config.event_capacity ≤ MAX_EVENTS_V1
  retention_pos : 0 < config.terminal_retention_ms
  document_le : config.desired_document_max_bytes ≤ config.desired_document_retained_bytes
  retained_le : config.desired_document_retained_bytes ≤ U64_MAX

theorem config_valid_bounded {config : Config} (hvalid : config_valid config = true) : config.Bounded := by
  simp only [config_valid, Bool.not_eq_true', Bool.or_eq_false_iff, beq_eq_false_iff_ne, ne_eq,
    decide_eq_false_iff_not, not_lt] at hvalid
  obtain ⟨⟨⟨⟨⟨⟨⟨⟨⟨⟨hresource, _⟩, hoperation⟩, _⟩, hevent⟩, hevents⟩, hretention⟩, _⟩, _⟩, hdocument⟩,
    hretained⟩ := hvalid
  have hmax : MAX_RETAINED_DOCUMENT_BYTES_V1 ≤ U64_MAX := by decide
  exact ⟨by omega, by omega, by omega, hevents, by omega, hdocument, hretained.trans hmax⟩

/-- The state that a sequence of calls reaches from a successful
initialization. -/
def state_after (config : ValidConfig) (calls : List Call) : Impl :=
  Machine.run apply (initial config.1) calls

/-- The event ring is well formed and its cursors are consecutive up to the
next one. -/
structure RingInv (impl : Impl) : Prop where
  events_length : impl.events.length = impl.config.event_capacity
  valid : (ring impl).Valid
  count_lt : impl.event_count < impl.next_cursor
  cursor_le : impl.next_cursor ≤ U64_MAX
  cursors : (ring impl).toList.map (·.cursor) =
    List.range' (impl.next_cursor - impl.event_count) impl.event_count

/-- The resource table: unique identities, an exact byte count within the
budget, and no observation ahead of the desired epoch. -/
structure ResourcesInv (impl : Impl) : Prop where
  length : impl.resources.length = impl.config.resource_capacity
  distinct : impl.resources.Distinct resource_key
  retained_eq : impl.retained_document_bytes = impl.resources.total (·.desired_document_size)
  retained_le : impl.retained_document_bytes ≤ impl.config.desired_document_retained_bytes
  observed_le : ∀ i slot, impl.resources.Holds i slot →
    slot.status.observed_epoch ≤ slot.status.desired_epoch

/-- The resource table knows a resource at or beyond the given epoch. -/
def Bound (impl : Impl) (resource_kind : ResourceKind) (resource_id : Digest) (epoch : Nat) : Prop :=
  ∃ i resource, impl.resources.Holds i resource ∧ resource.status.resource_kind = resource_kind ∧
    resource.status.resource_id = resource_id ∧ epoch ≤ resource.status.desired_epoch

/-- The operation table: unique requests, each bound to a known resource. -/
structure OperationsInv (impl : Impl) : Prop where
  length : impl.operations.length = impl.config.operation_capacity
  requests : impl.operations.Distinct (·.operation.request_id)
  bound : ∀ j slot, impl.operations.Holds j slot →
    Bound impl slot.operation.resource_kind slot.operation.resource_id slot.operation.desired_epoch

/-- The invariant of the control state. -/
structure Inv (impl : Impl) : Prop where
  config : impl.config.Bounded
  ring : RingInv impl
  resources : ResourcesInv impl
  operations : OperationsInv impl
  generation_pos : 0 < impl.snapshot_generation
  generation_le : impl.snapshot_generation ≤ U64_MAX

section ring

variable {impl impl' : Impl}

theorem RingInv.frame (hinv : RingInv impl) (hconfig : impl'.config = impl.config)
    (hring : mesh_control_state.ring impl' = mesh_control_state.ring impl)
    (hnext : impl'.next_cursor = impl.next_cursor) : RingInv impl' := by
  obtain ⟨hevents, hhead, hcount⟩ := RingBuffer.mk.inj hring
  obtain ⟨hlength, hvalid, hlt, hle, hcursors⟩ := hinv
  constructor <;> simpa only [hevents, hring, hcount, hnext, hconfig]

/-- Pushing an event that carries the next cursor keeps the cursors
consecutive, whether or not the oldest event is overwritten. -/
theorem RingInv.push {event : Event} (hinv : RingInv impl) (hcursor : impl.next_cursor ≠ U64_MAX)
    (hconfig : impl'.config = impl.config)
    (hring : mesh_control_state.ring impl' = (mesh_control_state.ring impl).push event)
    (hevent : event.cursor = impl.next_cursor)
    (hnext : impl'.next_cursor = Word.add impl.next_cursor 1) : RingInv impl' := by
  have hle := hinv.cursor_le
  have hlt := hinv.count_lt
  have hnext' : impl'.next_cursor = impl.next_cursor + 1 := hnext.trans (Word.add_eq (by omega))
  have hcells : impl'.events.length = impl.events.length := by
    have hlength := RingBuffer.length_cells_push (mesh_control_state.ring impl) event
    rw [← hring] at hlength
    exact hlength
  have hlist := RingBuffer.toList_push hinv.valid event
  rw [← hring] at hlist
  have hcount : impl'.event_count = impl.event_count + 1 - (impl.event_count + 1 - impl.events.length) := by
    have hlength := congrArg List.length hlist
    simpa [mesh_control_state.ring] using hlength
  refine ⟨hcells.trans (hconfig ▸ hinv.events_length), hring ▸ hinv.valid.push event, ?_, ?_, ?_⟩
  · omega
  · omega
  · have happend : List.range' (impl.next_cursor - impl.event_count) impl.event_count ++
        [impl.next_cursor] = List.range' (impl.next_cursor - impl.event_count) (impl.event_count + 1) := by
      rw [List.range'_concat]
      congr 2
      omega
    rw [hlist, List.map_drop, List.map_append, hinv.cursors, List.map_singleton, hevent, happend,
      List.drop_range', hcount, hnext']
    simp only [mesh_control_state.ring, Nat.mul_one]
    congr 1
    omega

end ring

variable {P : Impl → Prop} {j : Nat} {slot : OperationSlot}

namespace Admission

variable {impl : Impl} (a : Admission impl)

/-- The written slot is the resource's own one, or a free one if the resource
is not known yet. -/
theorem target_cases :
    (find_resource impl a.envelope.resource_kind a.envelope.resource_id = some (a.i, a.slot) ∧
        impl.resources.Holds a.i a.slot ∧ a.slot.status.resource_kind = a.envelope.resource_kind ∧
        a.slot.status.resource_id = a.envelope.resource_id ∧
        a.slot.status.desired_epoch < a.envelope.epoch) ∨
      (find_resource impl a.envelope.resource_kind a.envelope.resource_id = none ∧
        impl.resources.free = some a.i ∧ a.slot = fresh_resource a.envelope) := by
  have htarget := a.target
  have hepochs := a.epochs
  unfold target_resource at htarget
  cases hfind : find_resource impl a.envelope.resource_kind a.envelope.resource_id with
  | none =>
    right
    simp only [hfind, Option.map_eq_some_iff, Prod.mk.injEq] at htarget
    obtain ⟨i, hfree, rfl, hslot⟩ := htarget
    exact ⟨rfl, hfree, hslot.symm⟩
  | some found =>
    left
    simp only [hfind, Option.some.injEq] at htarget
    subst htarget
    obtain ⟨hholds, hmatch, _⟩ := find_eq_some hfind
    simp only [Bool.and_eq_true, beq_iff_eq] at hmatch
    rw [hfind] at hepochs
    exact ⟨rfl, hholds, hmatch.1, hmatch.2, hepochs.2⟩

theorem i_lt : a.i < impl.resources.length := by
  rcases a.target_cases with ⟨_, hholds, _⟩ | ⟨_, hfree, _⟩
  · exact hholds.lt
  · exact lt_of_free hfree

theorem j_lt : a.j < impl.operations.length := SlotTable.lt_of_free a.free

theorem slot_key : resource_key a.slot = (a.envelope.resource_kind, a.envelope.resource_id) := by
  rcases a.target_cases with ⟨_, _, hkind, hid, _⟩ | ⟨_, _, hslot⟩
  · simp [resource_key, hkind, hid]
  · simp [resource_key, hslot, fresh_resource]

@[simp] theorem resource_key_eq : resource_key a.resource = resource_key a.slot := by
  unfold resource submitted_resource
  dsimp only
  split <;> rfl

@[simp] theorem resource_observed_epoch : a.resource.status.observed_epoch = a.slot.status.observed_epoch := by
  unfold resource submitted_resource
  dsimp only
  split <;> rfl

@[simp] theorem resource_desired_epoch : a.resource.status.desired_epoch = a.envelope.epoch := by
  unfold resource submitted_resource
  dsimp only
  split <;> rfl

theorem resource_document_size :
    a.resource.desired_document_size = if a.preserve then a.slot.desired_document_size else a.document_size := by
  unfold resource submitted_resource
  dsimp only
  split <;> rfl

/-- The bytes released by the submission are those of the slot it writes. -/
theorem replaced :
    ∃ old, impl.resources[a.i]? = some old ∧ old.elim 0 (·.desired_document_size) = a.previous ∧
      (a.preserve = true → a.slot.desired_document_size = a.previous) := by
  rcases a.target_cases with ⟨hfind, hholds, _⟩ | ⟨hfind, hfree, _⟩
  · refine ⟨some a.slot, hholds, ?_, ?_⟩
    · simp [previous, hfind]
    · simp [previous, hfind]
  · refine ⟨none, (free_eq_some hfree).1, ?_, ?_⟩
    · simp [previous, hfind]
    · simp [preserve, hfind]

/-- No retained operation carries the admitted request. -/
theorem request_fresh (hholds : impl.operations.Holds j slot) :
    slot.operation.request_id ≠ a.envelope.request_id := by
  have hnone := find_eq_none.mp a.fresh_request j slot hholds
  simpa using hnone

/-- The written resource table keeps unique identities: the slot belonged to
the resource already, or no slot did. -/
theorem distinct_resources (hdistinct : impl.resources.Distinct resource_key) :
    SlotTable.Distinct resource_key (impl.resources.set a.i (some a.resource)) := by
  rcases a.target_cases with ⟨_, hholds, _⟩ | ⟨hfind, hfree, _⟩
  · exact hdistinct.replace hholds a.resource_key_eq
  · refine hdistinct.insert (lt_of_free hfree) ?_
    intro j slot hholds hkey
    rw [a.resource_key_eq, a.slot_key] at hkey
    have hmiss := find_eq_none.mp hfind j slot hholds
    simp only [resource_key, Prod.mk.injEq] at hkey
    simp [hkey] at hmiss

/-- The byte count follows the exchange of documents and stays within the
budget, so none of its subtractions borrows. -/
theorem retained_spec (hconfig : impl.config.Bounded) (hinv : ResourcesInv impl) :
    a.result.retained_document_bytes = a.result.resources.total (·.desired_document_size) ∧
      a.result.retained_document_bytes ≤ impl.config.desired_document_retained_bytes := by
  obtain ⟨old, hold, hprevious, hpreserve⟩ := a.replaced
  have htotal := total_set (·.desired_document_size) (some a.resource) hold
  rw [hprevious, ← hinv.retained_eq, Option.elim_some, a.resource_document_size] at htotal
  have hle := hinv.retained_le
  rw [a.result_retained, a.result_resources]
  cases hcase : a.preserve with
  | true =>
    simp only [hcase, if_true, hpreserve hcase] at htotal ⊢
    omega
  | false =>
    simp only [hcase, Bool.false_eq_true, if_false] at htotal ⊢
    have hprevious_le : a.previous ≤ impl.retained_document_bytes := by
      have hset := total_set (·.desired_document_size) none hold
      rw [hprevious, ← hinv.retained_eq, Option.elim_none] at hset
      omega
    have hbudget := a.budget hcase
    have hsize := a.size_le
    have hdocument := hconfig.document_le
    have hmax := hconfig.retained_le
    change Word.sub impl.retained_document_bytes a.previous ≤ _ at hbudget
    rw [Word.sub_eq hprevious_le (by omega), Word.sub_eq (by omega) hmax] at hbudget
    rw [Word.sub_eq hprevious_le (by omega), Word.add_eq (by omega)]
    omega

end Admission

/-- No step forgets a resource, moves it to another slot or takes its desired
epoch back. -/
def ResourcesGrow (impl impl' : Impl) : Prop :=
  ∀ i slot, impl.resources.Holds i slot → ∃ slot', impl'.resources.Holds i slot' ∧
    resource_key slot' = resource_key slot ∧ slot.status.desired_epoch ≤ slot'.status.desired_epoch

variable {impl impl' : Impl}

theorem Bound.mono {resource_kind : ResourceKind} {resource_id : Digest} {epoch : Nat}
    (hbound : Bound impl resource_kind resource_id epoch) (hgrow : ResourcesGrow impl impl') :
    Bound impl' resource_kind resource_id epoch := by
  obtain ⟨i, slot, hholds, hkind, hid, hepoch⟩ := hbound
  obtain ⟨slot', hholds', hkey, hle⟩ := hgrow i slot hholds
  simp only [resource_key, Prod.mk.injEq] at hkey
  exact ⟨i, slot', hholds', hkey.1.trans hkind, hkey.2.trans hid, hepoch.trans hle⟩

/-- Rewriting one resource slot grows the table if the new entry continues the
old one. -/
theorem resources_grow_set {i : Nat} {slot : ResourceSlot}
    (hi : i < impl.resources.length) (hset : impl'.resources = impl.resources.set i (some slot))
    (hcontinues : ∀ old, impl.resources.Holds i old →
      resource_key slot = resource_key old ∧ old.status.desired_epoch ≤ slot.status.desired_epoch) :
    ResourcesGrow impl impl' := by
  intro k old hholds
  rw [hset]
  by_cases hk : k = i
  · subst hk
    exact ⟨slot, (holds_set hi).mpr (.inl ⟨rfl, rfl⟩), hcontinues old hholds⟩
  · exact ⟨old, (holds_set hi).mpr (.inr ⟨hk, hholds⟩), rfl, le_rfl⟩

theorem Step.resources_grow (hstep : Step impl impl') : ResourcesGrow impl impl' := by
  cases hstep with
  | sweep now_ms =>
    intro i slot hholds
    exact ⟨slot, by simpa using hholds, rfl, le_rfl⟩
  | submit a =>
    refine resources_grow_set a.i_lt a.result_resources ?_
    intro old hold
    rcases a.target_cases with ⟨_, hholds, _, _, hepoch⟩ | ⟨_, hfree, _⟩
    · cases hold.unique hholds
      exact ⟨a.resource_key_eq, by simpa using hepoch.le⟩
    · exact absurd hold (not_holds_of_free hfree)
  | transition c =>
    intro i slot hholds
    exact ⟨slot, by simpa using hholds, rfl, le_rfl⟩
  | observe o =>
    refine resources_grow_set o.holds.lt o.result_resources ?_
    intro old hold
    cases hold.unique o.holds
    exact ⟨rfl, le_rfl⟩

section resources

variable {impl impl' : Impl}

theorem ResourcesInv.frame (hinv : ResourcesInv impl) (hconfig : impl'.config = impl.config)
    (hresources : impl'.resources = impl.resources)
    (hretained : impl'.retained_document_bytes = impl.retained_document_bytes) : ResourcesInv impl' := by
  obtain ⟨hlength, hdistinct, hretained_eq, hretained_le, hobserved_le⟩ := hinv
  constructor <;> simpa only [hresources, hconfig, hretained]

theorem Admission.resources_inv (a : Admission impl) (hconfig : impl.config.Bounded)
    (hinv : ResourcesInv impl) : ResourcesInv a.result := by
  obtain ⟨hretained, hretained_le⟩ := a.retained_spec hconfig hinv
  refine ⟨by simpa using hinv.length, ?_, hretained, by simpa using hretained_le, ?_⟩
  · rw [a.result_resources]
    exact a.distinct_resources hinv.distinct
  · rw [a.result_resources]
    refine holds_set_forall hinv.observed_le a.i_lt ?_
    rw [a.resource_observed_epoch, a.resource_desired_epoch]
    rcases a.target_cases with ⟨_, hold, _, _, hepoch⟩ | ⟨_, _, hfresh⟩
    · exact (hinv.observed_le _ _ hold).trans hepoch.le
    · simp [hfresh, fresh_resource]

theorem Observation.resources_inv (o : Observation impl) (hinv : ResourcesInv impl) : ResourcesInv o.result := by
  refine ⟨by simpa using hinv.length, ?_, ?_, by simpa using hinv.retained_le, ?_⟩
  · rw [o.result_resources]
    exact hinv.distinct.replace o.holds rfl
  · have htotal := total_set (·.desired_document_size)
      (some (observed_resource o.slot o.observed_epoch o.presence o.digest)) o.holds
    simp only [Option.elim_some, observed_resource] at htotal
    rw [o.result_retained, o.result_resources, hinv.retained_eq]
    simp only [observed_resource]
    omega
  · rw [o.result_resources]
    exact holds_set_forall hinv.observed_le o.holds.lt o.epoch_le

end resources

section operations

variable {impl impl' : Impl}

/-- Two operation slots that differ only in what a change of state may
touch. -/
def SameBinding (slot slot' : OperationSlot) : Prop :=
  slot'.operation =
    { slot.operation with state := slot'.operation.state, updated_at_ms := slot'.operation.updated_at_ms }

/-- Rewriting the state of one retained operation keeps the operation
table. -/
theorem OperationsInv.rewrite {slot' : OperationSlot} (hinv : OperationsInv impl)
    (hgrow : ResourcesGrow impl impl') (hconfig : impl'.config = impl.config)
    (hset : impl'.operations = impl.operations.set j (some slot')) (hholds : impl.operations.Holds j slot)
    (hbinding : SameBinding slot slot') : OperationsInv impl' := by
  refine ⟨?_, ?_, ?_⟩
  · rw [hset, hconfig, List.length_set]
    exact hinv.length
  · rw [hset]
    refine hinv.requests.replace hholds ?_
    rw [hbinding]
  · rw [hset]
    refine holds_set_forall (fun k found hfound => (hinv.bound k found hfound).mono hgrow) hholds.lt ?_
    rw [hbinding]
    exact (hinv.bound j slot hholds).mono hgrow

/-- Dropping operations keeps the operation table. -/
theorem OperationsInv.drop (hinv : OperationsInv impl) (hgrow : ResourcesGrow impl impl')
    (hlength : impl'.operations.length = impl'.config.operation_capacity)
    (hkept : ∀ j slot, impl'.operations.Holds j slot → impl.operations.Holds j slot) : OperationsInv impl' :=
  ⟨hlength, fun i j a b ha hb hrequest => hinv.requests i j a b (hkept i a ha) (hkept j b hb) hrequest,
    fun j slot hholds => (hinv.bound j slot (hkept j slot hholds)).mono hgrow⟩

theorem OperationsInv.sweep (hinv : OperationsInv impl) (now_ms : Nat) : OperationsInv (sweep_v1 impl now_ms).2 := by
  refine hinv.drop (Step.sweep now_ms).resources_grow ?_ fun j slot => holds_of_sweep
  rw [sweep_operations, sweep_config, ← hinv.length]
  split <;> simp

theorem Admission.operations_inv (a : Admission impl) (hinv : OperationsInv impl) : OperationsInv a.result := by
  refine ⟨by simpa using hinv.length, ?_, ?_⟩
  · rw [a.result_operations]
    exact hinv.requests.insert a.j_lt fun k slot hholds => a.request_fresh hholds
  · rw [a.result_operations]
    refine holds_set_forall (fun k slot hslot => (hinv.bound k slot hslot).mono (Step.submit a).resources_grow) a.j_lt ?_
    have hkey := a.resource_key_eq.trans a.slot_key
    simp only [resource_key, Prod.mk.injEq] at hkey
    refine ⟨a.i, a.resource, ?_, hkey.1, hkey.2, le_of_eq a.resource_desired_epoch.symm⟩
    rw [a.result_resources]
    exact (holds_set a.i_lt).mpr (.inl ⟨rfl, rfl⟩)

end operations

/-- Every step but a sweep that removes nothing advances the generation by
one. -/
theorem Step.generation (hstep : Step impl impl') :
    impl' = impl ∨ (impl.snapshot_generation ≠ U64_MAX ∧
      impl'.snapshot_generation = Word.add impl.snapshot_generation 1) := by
  cases hstep with
  | sweep now_ms => exact sweep_generation impl now_ms
  | submit a => exact .inr ⟨a.generation, a.result_generation⟩
  | transition c => exact .inr ⟨c.generation, c.result_generation⟩
  | observe o => exact .inr ⟨o.generation, o.result_generation⟩

theorem Step.config_eq (hstep : Step impl impl') : impl'.config = impl.config := by
  cases hstep <;> simp

/-- Every step keeps the invariant. -/
theorem Inv.step (hinv : Inv impl) (hstep : Step impl impl') : Inv impl' := by
  have hgeneration : 0 < impl'.snapshot_generation ∧ impl'.snapshot_generation ≤ U64_MAX := by
    have hle := hinv.generation_le
    rcases hstep.generation with rfl | ⟨hne, heq⟩
    · exact ⟨hinv.generation_pos, hle⟩
    · rw [heq, Word.add_eq (by omega)]
      omega
  have hconfig : impl'.config.Bounded := hstep.config_eq ▸ hinv.config
  suffices hparts : RingInv impl' ∧ ResourcesInv impl' ∧ OperationsInv impl' from
    ⟨hconfig, hparts.1, hparts.2.1, hparts.2.2, hgeneration.1, hgeneration.2⟩
  have hlength := hinv.ring.events_length
  have hgrow := hstep.resources_grow
  cases hstep with
  | sweep now_ms =>
    exact ⟨hinv.ring.frame (by simp) (by simp) (by simp),
      hinv.resources.frame (by simp) (by simp) (by simp), hinv.operations.sweep now_ms⟩
  | submit a =>
    exact ⟨hinv.ring.push a.cursor a.result_config (a.ring_result hlength) rfl a.result_next_cursor,
      a.resources_inv hinv.config hinv.resources, a.operations_inv hinv.operations⟩
  | transition c =>
    exact ⟨hinv.ring.push c.cursor c.result_config (c.ring_result hlength) rfl c.result_next_cursor,
      hinv.resources.frame (by simp) (by simp) (by simp),
      hinv.operations.rewrite hgrow c.result_config c.result_operations c.holds rfl⟩
  | observe o =>
    have hresources := o.resources_inv hinv.resources
    have hring := o.ring_result hlength
    have hnext := o.result_next_cursor
    have hoperations := o.result_operations
    cases hcompleted : o.completed with
    | none =>
      rw [hcompleted] at hring hnext hoperations
      have hlist : o.result.operations = impl.operations := hoperations
      refine ⟨hinv.ring.frame o.result_config hring hnext, hresources, hinv.operations.drop hgrow ?_ ?_⟩
      · rw [hlist, o.result_config, hinv.operations.length]
      · exact fun j slot => hlist ▸ id
    | some found =>
      rw [hcompleted] at hring hnext hoperations
      exact ⟨hinv.ring.push (o.cursor (by simp [hcompleted])) o.result_config hring rfl hnext, hresources,
        hinv.operations.rewrite hgrow o.result_config hoperations (o.completed_spec hcompleted).1 rfl⟩

theorem inv_initial (config : ValidConfig) : Inv (initial config.1) := by
  have hbounded := config_valid_bounded config.2
  refine ⟨hbounded, ⟨?_, RingBuffer.valid_replicate hbounded.event_pos _, ?_, ?_, rfl⟩, ⟨?_, ?_, ?_, ?_, ?_⟩,
    ⟨?_, ?_, ?_⟩, ?_, ?_⟩
  all_goals simp [initial, U64_MAX, Distinct]

/-- What every elementary step keeps, every call keeps. -/
theorem apply_invariant (hstep : ∀ impl impl', P impl → Step impl impl' → P impl') (impl : Impl) (call : Call)
    (hinit : P impl) : P (apply impl call) := by
  have hrefl : ∀ s t, P s → Relation.ReflGen Step s t → P t := by
    intro s t hs hlink
    cases hlink with
    | refl => exact hs
    | single hone => exact hstep s t hs hone
  exact Machine.isChain_forall hrefl hinit (apply_isChain impl call) _ (by simp)

/-- What holds initially and is kept by every elementary step holds in every
reachable state. -/
theorem state_after_invariant (config : ValidConfig) (hinit : P (initial config.1))
    (hstep : ∀ impl impl', P impl → Step impl impl' → P impl') (calls : List Call) :
    P (state_after config calls) :=
  Machine.run_invariant hinit (fun impl call => apply_invariant hstep impl call) calls

theorem inv_state_after (config : ValidConfig) (calls : List Call) : Inv (state_after config calls) :=
  state_after_invariant config (inv_initial config) (fun _ _ hinv hstep => hinv.step hstep) calls

/-- In every reachable state resources are unique, the retained byte count is
exact and within its budget, no observation is ahead of its resource, every
operation is bound to a resource at least as new, requests are unique, and
the ring holds the consecutive cursors just below the next one. -/
theorem state_after_consistent (config : ValidConfig) (calls : List Call) :
    let impl := state_after config calls
    (∀ i j a b, impl.resources.Holds i a → impl.resources.Holds j b →
        a.status.resource_kind = b.status.resource_kind → a.status.resource_id = b.status.resource_id →
        i = j) ∧
      impl.retained_document_bytes = impl.resources.total (·.desired_document_size) ∧
      impl.retained_document_bytes ≤ impl.config.desired_document_retained_bytes ∧
      (∀ i slot, impl.resources.Holds i slot → slot.status.observed_epoch ≤ slot.status.desired_epoch) ∧
      (∀ j slot, impl.operations.Holds j slot → ∃ i resource, impl.resources.Holds i resource ∧
        resource.status.resource_kind = slot.operation.resource_kind ∧
        resource.status.resource_id = slot.operation.resource_id ∧
        slot.operation.desired_epoch ≤ resource.status.desired_epoch) ∧
      (∀ i j a b, impl.operations.Holds i a → impl.operations.Holds j b →
        a.operation.request_id = b.operation.request_id → i = j) ∧
      impl.event_count < impl.next_cursor ∧
      (retained_events impl).map (·.cursor) = List.range' (impl.next_cursor - impl.event_count) impl.event_count := by
  intro impl
  have hinv : Inv impl := inv_state_after config calls
  refine ⟨?_, hinv.resources.retained_eq, hinv.resources.retained_le, hinv.resources.observed_le,
    hinv.operations.bound, hinv.operations.requests, hinv.ring.count_lt, ?_⟩
  · intro i j a b ha hb hkind hid
    exact hinv.resources.distinct i j a b ha hb (by simp [resource_key, hkind, hid])
  · rw [retained_events_eq_ring hinv.ring.events_length]
    exact hinv.ring.cursors

end turbop2p.mesh_control_state
