import TurboP2P.Namespace.Raft

open turbop2p.m3_namespace_local_store
open turbop2p.turboraft (TurboResult)
open SlotTable

namespace turbop2p.m3_namespace_raft

def READ_CONTEXT_PREFIX : UInt64 := 0x4d33000000000000
def READ_CONTEXT_SEQUENCE_MASK : UInt64 := 0x0000ffffffffffff

/-- `m3_namespace_raft_adapter_bind_service_v1` for the service of the
adapter. -/
def bind_service_v1 (adapter : Adapter) : TurboResult × Adapter :=
  if adapter.is_open = false then (.EINVAL, adapter) else (.OK, { adapter with service := true })

def find_pending_by_context (adapter : Adapter) (context_id : UInt64) : Option (Nat × PendingRead) :=
  adapter.pending.find fun pending => pending.context_id = context_id

/-- The successor of a read sequence number, which skips zero. -/
def next_sequence (sequence : UInt64) : UInt64 :=
  let next := (sequence + 1) &&& READ_CONTEXT_SEQUENCE_MASK
  if next = 0 then 1 else next

/-- The loop of `allocate_context_id` with its remaining attempts. -/
def allocate_attempts (adapter : Adapter) : Nat → UInt64 × Adapter
  | 0 => (0, adapter)
  | attempts + 1 =>
    let advanced := { adapter with next_read_sequence := next_sequence adapter.next_read_sequence }
    let context_id := READ_CONTEXT_PREFIX ||| advanced.next_read_sequence
    match find_pending_by_context advanced context_id with
    | none => (context_id, advanced)
    | some _ => allocate_attempts advanced attempts

/-- `allocate_context_id`: an id that no pending read uses, or zero. -/
def allocate_context_id (adapter : Adapter) : UInt64 × Adapter :=
  allocate_attempts adapter (adapter.pending_count + 1)

def occupy (adapter : Adapter) (slot : Nat) (pending : PendingRead) : Adapter :=
  { adapter with pending := adapter.pending.set slot (some pending), pending_count := Word.add adapter.pending_count 1 }

def release (adapter : Adapter) (slot : Nat) : Adapter :=
  { adapter with pending := adapter.pending.set slot none, pending_count := Word.sub adapter.pending_count 1 }

/-- `lookup_start`; `read_index` is the answer of `tr_raft_service_read_index`
and `complete_cb` is absent if the pointer is null. -/
def lookup_start (max_entry_bytes : Nat) (read_index : UInt64 → TurboResult) (adapter : Adapter)
    (request : LookupRequest) (complete_cb : Option Nat) : LookupResult × Adapter :=
  match complete_cb with
  | none => (.INVALID_ARG, adapter)
  | some callback =>
    if adapter.is_open = false ∨ adapter.service = false ∨ request.key.bucket = [] ∨ request.key.object_key = [] ∨
        request.require_linearizable = false then (.INVALID_ARG, adapter)
    else if request.key.bucket.length + request.key.object_key.length > max_entry_bytes then
      (.RESOURCE_EXHAUSTED, adapter)
    else
      match adapter.pending.free with
      | none => (.RESOURCE_EXHAUSTED, adapter)
      | some slot =>
        let allocated := allocate_context_id adapter
        if allocated.1 = 0 then (.RESOURCE_EXHAUSTED, allocated.2)
        else
          let occupied := occupy allocated.2 slot
            { context_id := allocated.1, key := request.key, callback }
          match read_index allocated.1 with
          | .OK => (.OK, occupied)
          | .EINVAL => (.INVALID_ARG, release occupied slot)
          | _ => (.UNAVAILABLE, release occupied slot)

/-- Allocation moves the sequence only, and an id that it returns is not in
use. -/
theorem allocate_attempts_effect (adapter : Adapter) (attempts : Nat) :
    (∃ sequence, (allocate_attempts adapter attempts).2 = { adapter with next_read_sequence := sequence }) ∧
      ((allocate_attempts adapter attempts).1 ≠ 0 →
        ∀ slot pending, adapter.pending.Holds slot pending →
          pending.context_id ≠ (allocate_attempts adapter attempts).1) := by
  induction attempts generalizing adapter with
  | zero => exact ⟨⟨adapter.next_read_sequence, rfl⟩, fun hzero => absurd rfl hzero⟩
  | succ attempts ih =>
    simp only [allocate_attempts]
    split
    case h_1 hfind =>
      refine ⟨⟨_, rfl⟩, fun _ slot pending hholds => ?_⟩
      simpa using find_eq_none.mp hfind slot pending hholds
    case h_2 =>
      obtain ⟨⟨sequence, hstate⟩, hunused⟩ :=
        ih { adapter with next_read_sequence := next_sequence adapter.next_read_sequence }
      exact ⟨⟨sequence, hstate⟩, hunused⟩

/-- What holds of the pending table between any two calls. -/
structure Adapter.PendingInv (adapter : Adapter) : Prop where
  capacity : adapter.pending.length ≤ MAX_PENDING_READS
  count : adapter.pending_count = adapter.pending.live.length
  contexts : SlotTable.Distinct PendingRead.context_id adapter.pending

variable {adapter : Adapter} {slot : Nat}

theorem Adapter.PendingInv.live_le (hinv : adapter.PendingInv) : adapter.pending.live.length ≤ MAX_PENDING_READS :=
  (List.reduceOption_length_le adapter.pending).trans hinv.capacity

/-- Clearing the slot of a pending read keeps the table in order. -/
theorem release_inv {pending : PendingRead} (hinv : adapter.PendingInv) (hholds : adapter.pending.Holds slot pending) :
    (release adapter slot).PendingInv ∧ (pending :: (release adapter slot).pending.live).Perm adapter.pending.live := by
  have hperm := live_remove_perm hholds
  have hlength := hperm.length_eq
  have hle := hinv.live_le
  rw [List.length_cons] at hlength
  refine ⟨⟨by simpa [release] using hinv.capacity, ?_, hinv.contexts.remove hholds.lt⟩, hperm⟩
  simp only [release, hinv.count]
  rw [Word.sub_eq (by omega) (by simp only [MAX_PENDING_READS, U64_MAX] at *; omega)]
  omega

/-- Filling a free slot under an unused context keeps the table in order. -/
theorem occupy_inv (pending : PendingRead) (hinv : adapter.PendingInv) (hfree : adapter.pending.free = some slot)
    (hunused : ∀ other held, adapter.pending.Holds other held → held.context_id ≠ pending.context_id) :
    (occupy adapter slot pending).PendingInv ∧
      (occupy adapter slot pending).pending.live.Perm (pending :: adapter.pending.live) := by
  have hperm := live_insert_perm pending (free_eq_some hfree).1
  have hlength := hperm.length_eq
  have hle := hinv.live_le
  rw [List.length_cons] at hlength
  refine ⟨⟨by simpa [occupy] using hinv.capacity, ?_, hinv.contexts.insert (lt_of_free hfree) hunused⟩, hperm⟩
  simp only [occupy, hinv.count]
  rw [Word.add_eq (by simp only [MAX_PENDING_READS, U64_MAX] at *; omega)]
  omega

/-- Releasing a slot that has just been filled restores the table. -/
theorem release_occupy (pending : PendingRead) (hinv : (occupy adapter slot pending).PendingInv)
    (hfree : adapter.pending.free = some slot) :
    (release (occupy adapter slot pending) slot).PendingInv ∧
      (release (occupy adapter slot pending) slot).pending = adapter.pending := by
  refine ⟨(release_inv hinv ((holds_set (lt_of_free hfree)).mpr (.inl ⟨rfl, rfl⟩))).1, ?_⟩
  simp only [release, occupy, List.set_set]
  exact set_free hfree

/-- A lookup that was accepted occupies one slot under an unused context, any
other one leaves the table as it is. -/
theorem lookup_start_inv (max_entry_bytes : Nat) (read_index : UInt64 → TurboResult) (hinv : adapter.PendingInv)
    (request : LookupRequest) (callback : Nat) :
    let started := lookup_start max_entry_bytes read_index adapter request (some callback)
    started.2.PendingInv ∧
      if started.1 = .OK then
        (started.2.pending.live.map PendingRead.callback).Perm
          (callback :: adapter.pending.live.map PendingRead.callback)
      else started.2.pending = adapter.pending := by
  obtain ⟨⟨sequence, hallocated⟩, hunused⟩ := allocate_attempts_effect adapter (adapter.pending_count + 1)
  have hpending : (allocate_context_id adapter).2.pending = adapter.pending := by
    rw [allocate_context_id, hallocated]
  have hsame : (allocate_context_id adapter).2.PendingInv := by
    rw [allocate_context_id, hallocated]
    exact ⟨hinv.capacity, hinv.count, hinv.contexts⟩
  unfold lookup_start
  dsimp only
  split
  · exact ⟨hinv, by simp⟩
  split
  · exact ⟨hinv, by simp⟩
  split
  · exact ⟨hinv, by simp⟩
  rename_i slot hfree
  split
  · exact ⟨hsame, by simp [hpending]⟩
  rename_i hid
  have hfree' : (allocate_context_id adapter).2.pending.free = some slot := by rw [hpending, hfree]
  obtain ⟨hoccupied, hperm⟩ := occupy_inv
    { context_id := (allocate_context_id adapter).1, key := request.key
      callback } hsame hfree' (by rw [hpending]; exact hunused hid)
  obtain ⟨hreleased, hrestored⟩ := release_occupy _ hoccupied hfree'
  split
  · refine ⟨hoccupied, ?_⟩
    simpa [hpending] using hperm.map PendingRead.callback
  · exact ⟨hreleased, by simp [hrestored, hpending]⟩
  · exact ⟨hreleased, by simp [hrestored, hpending]⟩

end turbop2p.m3_namespace_raft
