import TurboP2P.Lib.Codec
import TurboP2P.Lib.Machine
import Mathlib.Logic.Function.Basic

open Codec

namespace turbop2p.mesh_stream_data

def STREAM_ID_SIZE : Nat := 16
def HASH_SIZE : Nat := 32
def REORDER_SLOTS : Nat := 32

/-- The codes of `mesh_stream_data_result_t` that report no error. -/
inductive Status where
  | OK
  | AGAIN
  | END
  deriving DecidableEq

/-- The errors of `mesh_stream_data_result_t` that a receiver returns. -/
inductive Failure where
  | CORRUPT
  | INTEGRITY
  | IO_FAILED
  deriving DecidableEq

/-- `mesh_stream_data_frame_type_t`; a receiver passes over the other codes. -/
inductive FrameType where
  | OPEN
  | DATA
  | CLOSE
  | other (code : UInt8)

/-- A frame as `decode_frame` delivers it, without the fields that a receiver
does not read. -/
structure Frame where
  type : FrameType
  seq : UInt32
  payload : List UInt8

/-- `mesh_stream_data_config_v1_t`, without what only a sender reads. -/
structure Config where
  stream_id : Bytes STREAM_ID_SIZE
  block_size : Nat
  window_blocks : Nat

def config_is_valid (config : Config) : Bool :=
  config.block_size > 0 ∧ config.block_size ≤ 1024 * 1024 ∧ config.window_blocks > 0 ∧ config.window_blocks ≤ 256

/-- The receiving side of `mesh_stream_data_s`; a slot of the reorder buffer
that is present holds a sequence number and a block. -/
structure Receiver where
  reorder_slots : Nat → Option (Nat × List UInt8) := fun _ => none
  next_expected : Nat := 0
  delivered_bytes : Nat := 0
  open_total_size : UInt64 := 0
  open_seen : Bool := false
  complete : Bool := false

namespace Receiver

def next_slot (receiver : Receiver) : Option (Nat × List UInt8) :=
  receiver.reorder_slots (receiver.next_expected % REORDER_SLOTS)

/-- The next block is copied out and its slot is freed. -/
def advance (receiver : Receiver) (block : List UInt8) : Receiver :=
  { receiver with
    reorder_slots := Function.update receiver.reorder_slots (receiver.next_expected % REORDER_SLOTS) none
    next_expected := receiver.next_expected + 1
    delivered_bytes := receiver.delivered_bytes + block.length }

/-- The check for the end of the stream. -/
def check_complete (receiver : Receiver) : Receiver :=
  { receiver with complete := receiver.complete || receiver.delivered_bytes ≥ receiver.open_total_size.toNat }

/-- The reorder buffer holds the next expected block. -/
def HoldsNext (receiver : Receiver) : Prop := ∃ block, receiver.next_slot = some (receiver.next_expected, block)

end Receiver

/-- The loop of `receiver_deliver_contiguous`. Every turn frees a slot, so that
there are no more turns than slots. -/
def deliver : Nat → Receiver → Nat → Receiver × List UInt8
  | 0, receiver, _ => (receiver, [])
  | turns + 1, receiver, cap =>
    match receiver.next_slot with
    | none => (receiver, [])
    | some (seq, block) =>
      if cap = 0 ∨ seq ≠ receiver.next_expected ∨ block.length > cap then (receiver, [])
      else
        let rest := deliver turns (receiver.advance block) (cap - block.length)
        (rest.1, block ++ rest.2)

section calls

variable (sha256 : List UInt8 → Bytes HASH_SIZE) (config : Config)

/-- `receiver_handle_data`; `sent` tells whether the transport takes the answer
to a frame that is not stored. -/
def handle_data (receiver : Receiver) (seq : Nat) (payload : List UInt8) (sent : Bool) : Except Failure Receiver :=
  let block := payload.drop HASH_SIZE
  if payload.length < HASH_SIZE ∨ block.length > config.block_size then .error .CORRUPT
  -- A corrupt block, one that was delivered before and one whose slot is taken.
  else if (sha256 block).toList ≠ payload.take HASH_SIZE ∨ seq < receiver.next_expected ∨
      (receiver.reorder_slots (seq % REORDER_SLOTS)).any (·.1 ≠ seq) then
    if sent then .ok receiver else .error .IO_FAILED
  else
    .ok { receiver with
      reorder_slots := Function.update receiver.reorder_slots (seq % REORDER_SLOTS) (some (seq, block)) }

/-- What a frame does to a receiver and to the bytes that the call has copied
out. -/
def receive (cap : Nat) (receiver : Receiver) (filled : List UInt8) (frame : Frame) (sent : Bool) :
    Except Failure (Receiver × List UInt8) :=
  match frame.type with
  | .OPEN =>
    if frame.payload.length ≠ STREAM_ID_SIZE + 8 ∨ take_bytes STREAM_ID_SIZE frame.payload ≠ config.stream_id then
      .error .CORRUPT
    else
      let open_total_size := read_u64_be (frame.payload.drop STREAM_ID_SIZE)
      .ok ({ receiver with open_total_size, open_seen := true }, filled)
  | .DATA =>
    (handle_data sha256 config receiver frame.seq.toNat frame.payload sent).map fun stored =>
      let delivered := deliver REORDER_SLOTS stored (cap - filled.length)
      (delivered.1.check_complete, filled ++ delivered.2)
  | .CLOSE => .ok (receiver.check_complete, filled)
  | .other _ => .ok (receiver, filled)

/-- What a turn of the loop of a pump call finds: a whole frame, or a transport
or a digest that fails, or bytes that are no frame. -/
inductive Turn where
  | arrived (frame : Frame) (sent : Bool)
  | broken (failure : Failure)

/-- The loop of `mesh_stream_data_receiver_pump`: its result, the receiver and
the bytes that were copied out, of which an error reports none. It ends
with the turns, when no whole frame is there. -/
def pump_loop (cap : Nat) (receiver : Receiver) (filled : List UInt8) :
    List Turn → Except Failure Status × Receiver × List UInt8
  | [] => (.ok (if filled = [] then .AGAIN else .OK), receiver, filled)
  | .broken failure :: _ => (.error failure, receiver, filled)
  | .arrived frame sent :: turns =>
    match receive sha256 config cap receiver filled frame sent with
    | .error failure => (.error failure, receiver, filled)
    | .ok (receiver, filled) =>
      if receiver.complete then (.ok (if filled = [] then .END else .OK), receiver, filled)
      else pump_loop cap receiver filled turns

def receiver_pump (receiver : Receiver) (cap : Nat) (turns : List Turn) :
    Except Failure Status × Receiver × List UInt8 :=
  if receiver.complete then (.ok .END, receiver, []) else pump_loop sha256 config cap receiver [] turns

/-- The receiver and the bytes that were copied out after a number of calls,
each with a capacity and the turns of its loop. -/
def pump_all (calls : List (Nat × List Turn)) : Receiver × List UInt8 :=
  Machine.run (fun state call =>
    let outcome := receiver_pump sha256 config state.1 call.1 call.2
    (outcome.2.1, state.2 ++ outcome.2.2)) ({}, []) calls

end calls

/-- The frames that arrive in a number of calls have a property. -/
def Arrive (Q : Frame → Prop) (calls : List (Nat × List Turn)) : Prop :=
  ∀ call ∈ calls, ∀ frame sent, .arrived frame sent ∈ call.2 → Q frame

/-- What the reorder buffer holds stands where it is looked for, is yet to be
delivered, fits into a slot, and has a property. -/
def Stored (config : Config) (Q : Nat → List UInt8 → Prop) (receiver : Receiver) : Prop :=
  ∀ i seq block, receiver.reorder_slots i = some (seq, block) →
    seq % REORDER_SLOTS = i ∧ receiver.next_expected ≤ seq ∧ block.length ≤ config.block_size ∧ Q seq block

/-- The block of a data frame has a property. -/
def Carries (Q : Nat → List UInt8 → Prop) (frame : Frame) : Prop :=
  frame.type = .DATA → Q frame.seq.toNat (frame.payload.drop HASH_SIZE)

section receiver

variable {sha256 : List UInt8 → Bytes HASH_SIZE} {config : Config} {cap : Nat} {receiver : Receiver}
  {filled : List UInt8} {turns : List Turn} {calls : List (Nat × List Turn)} {Q : Nat → List UInt8 → Prop}
  {P : Receiver → List UInt8 → Prop} {frame : Frame} {sent : Bool} {next : Receiver × List UInt8}

/-- What every block that is delivered keeps holds after all of them. -/
theorem deliver_rule (filled : List UInt8)
    (hstep : ∀ receiver out block, P receiver out → receiver.next_slot = some (receiver.next_expected, block) →
      P (receiver.advance block) (out ++ block))
    (hinit : P receiver filled) (turns : Nat) :
    P (deliver turns receiver cap).1 (filled ++ (deliver turns receiver cap).2) := by
  -- Every turn moves a block from the buffer to the bytes and passes on what is left of the capacity.
  induction turns generalizing receiver filled cap with
  | zero => simpa [deliver] using hinit
  | succ turns ih =>
    unfold deliver
    split
    · simpa using hinit
    · rename_i seq block hslot
      split <;> rename_i hnext
      · simpa using hinit
      · simp only [not_or, not_not] at hnext
        obtain ⟨_, rfl, _⟩ := hnext
        rw [← List.append_assoc]
        exact ih _ (hstep receiver filled block hinit hslot)

/-- What every frame keeps holds after a call. -/
theorem pump_loop_rule
    (hstep : ∀ frame sent, .arrived frame sent ∈ turns → ∀ receiver filled next, receiver.complete = false →
      P receiver filled → receive sha256 config cap receiver filled frame sent = .ok next → P next.1 next.2)
    (hopen : receiver.complete = false) (hinit : P receiver filled) :
    let outcome := pump_loop sha256 config cap receiver filled turns
    P outcome.2.1 outcome.2.2 ∧ (outcome.1 = .ok .END → outcome.2.1.complete = true) := by
  fun_induction pump_loop sha256 config cap receiver filled turns with
  | case1 receiver filled =>
    refine ⟨hinit, ?_⟩
    split <;> simp [*]
  | case2 receiver filled failure turns => exact ⟨hinit, nofun⟩
  | case3 receiver filled frame sent turns failure hreceive => exact ⟨hinit, nofun⟩
  | case4 receiver filled frame sent turns next copied hreceive hends =>
    refine ⟨hstep frame sent (by simp) _ _ _ hopen hinit hreceive, ?_⟩
    split <;> simp [*]
  | case5 receiver filled frame sent turns next copied hreceive hends ih =>
    refine ih (fun frame sent hturn => hstep frame sent (List.mem_cons_of_mem _ hturn)) (by simpa using hends) ?_
    exact hstep frame sent (by simp) _ _ _ hopen hinit hreceive

theorem receiver_pump_end (hend : (receiver_pump sha256 config receiver cap turns).1 = .ok .END) :
    (receiver_pump sha256 config receiver cap turns).2.1.complete = true := by
  unfold receiver_pump at hend ⊢
  split <;> rename_i hopen
  · exact hopen
  · rw [if_neg hopen] at hend
    exact (pump_loop_rule (P := fun _ _ => True) (fun _ _ _ _ _ _ _ _ _ => trivial) (eq_false_of_ne_true hopen)
      trivial).2 hend

/-- What every frame keeps holds after any number of calls. -/
theorem pump_all_rule {Q : Frame → Prop} (hframes : Arrive Q calls) (hinit : P {} [])
    (hstep : ∀ cap frame sent receiver bytes filled next, Q frame → receiver.complete = false →
      P receiver (bytes ++ filled) → receive sha256 config cap receiver filled frame sent = .ok next →
      P next.1 (bytes ++ next.2)) :
    P (pump_all sha256 config calls).1 (pump_all sha256 config calls).2 := by
  refine Machine.run_invariant_of_mem (P := fun state : Receiver × List UInt8 => P state.1 state.2) hinit
    fun state call hcall hstate => ?_
  dsimp only [receiver_pump]
  split <;> rename_i hopen
  · simpa using hstate
  · refine (pump_loop_rule (P := fun receiver filled => P receiver (state.2 ++ filled)) ?_
      (eq_false_of_ne_true hopen) (by simpa using hstate)).1
    exact fun frame sent hturn receiver filled next => hstep _ _ _ _ _ _ _ (hframes call hcall frame sent hturn)

theorem Stored.advance (hstored : Stored config Q receiver) (block : List UInt8) :
    Stored config Q (receiver.advance block) := by
  intro i seq held hslot
  obtain ⟨hne, hslot⟩ : i ≠ receiver.next_expected % REORDER_SLOTS ∧ receiver.reorder_slots i = some (seq, held) := by
    simpa [Receiver.advance, Function.update_apply] using hslot
  obtain ⟨hindex, hle, hrest⟩ := hstored i seq held hslot
  refine ⟨hindex, Nat.lt_of_le_of_ne hle ?_, hrest⟩
  rintro rfl
  exact hne hindex.symm

/-- A data frame changes at most the slot of its block. -/
theorem handle_data_ok {seq : Nat} {payload : List UInt8} {stored : Receiver}
    (hok : handle_data sha256 config receiver seq payload sent = .ok stored) :
    stored = receiver ∨ (payload.drop HASH_SIZE).length ≤ config.block_size ∧ receiver.next_expected ≤ seq ∧
      stored = { receiver with
        reorder_slots := Function.update receiver.reorder_slots (seq % REORDER_SLOTS)
          (some (seq, payload.drop HASH_SIZE)) } := by
  obtain ⟨hfits, hok⟩ := guard_passed hok
  split at hok <;> rename_i hnew
  · split at hok
    · exact .inl (Except.ok.inj hok).symm
    · contradiction
  · simp only [not_or, not_lt] at hfits hnew
    exact .inr ⟨hfits.2, hnew.2.1, (Except.ok.inj hok).symm⟩

theorem Stored.handle_data (hstored : Stored config Q receiver) (hblock : Carries Q frame) (hdata : frame.type = .DATA)
    {stored : Receiver} (hok : handle_data sha256 config receiver frame.seq.toNat frame.payload sent = .ok stored) :
    Stored config Q stored := by
  obtain rfl | ⟨hfits, hle, rfl⟩ := handle_data_ok hok
  · exact hstored
  · intro i held block hslot
    rcases eq_or_ne i (frame.seq.toNat % REORDER_SLOTS) with rfl | hne
    · obtain ⟨rfl, rfl⟩ : frame.seq.toNat = held ∧ frame.payload.drop HASH_SIZE = block := by simpa using hslot
      exact ⟨rfl, hle, hfits, hblock hdata⟩
    · exact hstored i held block (by simpa [Function.update_of_ne hne] using hslot)

/-- What a frame that is taken in does. -/
theorem receive_ok (hok : receive sha256 config cap receiver filled frame sent = .ok next) :
    (frame.type = .OPEN ∧ next = ({ receiver with
      open_total_size := read_u64_be (frame.payload.drop STREAM_ID_SIZE), open_seen := true }, filled)) ∨
    (frame.type = .DATA ∧ ∃ stored,
      handle_data sha256 config receiver frame.seq.toNat frame.payload sent = .ok stored ∧
      next = ((deliver REORDER_SLOTS stored (cap - filled.length)).1.check_complete,
        filled ++ (deliver REORDER_SLOTS stored (cap - filled.length)).2)) ∨
    frame.type ≠ .DATA ∧ (next = (receiver.check_complete, filled) ∨ next = (receiver, filled)) := by
  unfold receive at hok
  split at hok <;> rename_i htype
  · exact .inl ⟨htype, (Except.ok.inj (guard_passed hok).2).symm⟩
  · obtain ⟨stored, hhandled, rfl⟩ := except_map_eq_ok.mp hok
    exact .inr (.inl ⟨htype, stored, hhandled, rfl⟩)
  · exact .inr (.inr ⟨by simp [htype], .inl (Except.ok.inj hok).symm⟩)
  · exact .inr (.inr ⟨by simp [htype], .inr (Except.ok.inj hok).symm⟩)

theorem Stored.receive (hstored : Stored config Q receiver) (hblock : Carries Q frame)
    (hok : receive sha256 config cap receiver filled frame sent = .ok next) : Stored config Q next.1 := by
  obtain ⟨_, rfl⟩ | ⟨hdata, stored, hhandled, rfl⟩ | ⟨_, rfl | rfl⟩ := receive_ok hok
  · exact hstored
  · exact deliver_rule (P := fun receiver _ => Stored config Q receiver) filled
      (fun _ _ block hheld _ => hheld.advance block) (hstored.handle_data hblock hdata hhandled) _
  · exact hstored
  · exact hstored

theorem Stored.pump_all (hcalls : Arrive (Carries Q) calls) : Stored config Q (pump_all sha256 config calls).1 :=
  pump_all_rule (P := fun receiver _ => Stored config Q receiver) hcalls nofun
    fun _ _ _ _ _ _ _ hblock _ hstored hok => hstored.receive hblock hok

/-- With room for a block, a delivery of nothing leaves no next block. -/
theorem deliver_eq_nil {turns : Nat} (hstored : Stored config (fun _ block => block ≠ []) receiver)
    (hcap : config.block_size ≤ cap) (hnil : (deliver (turns + 1) receiver cap).2 = []) :
    ¬(deliver (turns + 1) receiver cap).1.HoldsNext := by
  have hnone : ¬receiver.HoldsNext := by
    rintro ⟨block, hslot⟩
    obtain ⟨_, _, hfits, hblock⟩ := hstored _ _ _ hslot
    have hpositive := List.length_pos_of_ne_nil hblock
    rw [deliver, hslot] at hnil
    simp [hblock, show ¬(cap = 0 ∨ cap < block.length) by omega] at hnil
  unfold deliver
  split
  · exact hnone
  · rename_i seq block hslot
    rw [if_pos]
    · exact hnone
    · by_contra hnext
      simp only [not_or, not_not] at hnext
      exact hnone ⟨block, hnext.2.1 ▸ hslot⟩

theorem filled_of_receive (hok : receive sha256 config cap receiver filled frame sent = .ok next) : filled <+: next.2 := by
  obtain ⟨_, rfl⟩ | ⟨hdata, stored, hhandled, rfl⟩ | ⟨_, rfl | rfl⟩ := receive_ok hok <;> simp

/-- A frame that leaves nothing copied out also leaves the next block, unless it
is a data frame: then there was none that could be delivered. -/
theorem holdsNext_receive (hstored : Stored config (fun _ block => block ≠ []) receiver)
    (hblock : Carries (fun _ block => block ≠ []) frame) (hcap : config.block_size ≤ cap)
    (hok : receive sha256 config cap receiver filled frame sent = .ok next) (hnil : next.2 = []) :
    next.1.HoldsNext ↔ receiver.HoldsNext ∧ frame.type ≠ .DATA := by
  obtain ⟨htype, rfl⟩ | ⟨hdata, stored, hhandled, rfl⟩ | ⟨hother, rfl | rfl⟩ := receive_ok hok
  · exact (and_iff_left (by simp [htype])).symm
  · obtain ⟨rfl, hnil⟩ := List.append_eq_nil_iff.mp hnil
    exact iff_of_false (deliver_eq_nil (hstored.handle_data hblock hdata hhandled) hcap hnil) fun h => h.2 hdata
  · exact (and_iff_left hother).symm
  · exact (and_iff_left hother).symm

theorem filled_of_again (hagain : (pump_loop sha256 config cap receiver filled turns).1 = .ok .AGAIN) : filled = [] := by
  fun_induction pump_loop sha256 config cap receiver filled turns with
  | case1 receiver filled => simpa using hagain
  | case2 | case3 => contradiction
  | case4 => split at hagain <;> simp at hagain
  | case5 receiver filled frame sent turns next copied hreceive hends ih =>
    exact List.prefix_nil.mp (ih hagain ▸ filled_of_receive hreceive)

/-- A call with room for a block that copies nothing out leaves the next block
just when it was there before and no data frame arrived. -/
theorem holdsNext_pump_loop (hstored : Stored config (fun _ block => block ≠ []) receiver)
    (hblocks : ∀ frame sent, .arrived frame sent ∈ turns → Carries (fun _ block => block ≠ []) frame)
    (hcap : config.block_size ≤ cap) (hagain : (pump_loop sha256 config cap receiver filled turns).1 = .ok .AGAIN) :
    (pump_loop sha256 config cap receiver filled turns).2.1.HoldsNext ↔
      receiver.HoldsNext ∧ ∀ frame sent, .arrived frame sent ∈ turns → frame.type ≠ .DATA := by
  fun_induction pump_loop sha256 config cap receiver filled turns with
  | case1 receiver filled => simp
  | case2 | case3 => contradiction
  | case4 => split at hagain <;> simp at hagain
  | case5 receiver filled frame sent turns next copied hreceive hends ih =>
    have hblock := hblocks frame sent (by simp)
    rw [ih (hstored.receive hblock hreceive) (fun _ _ hturn => hblocks _ _ (List.mem_cons_of_mem _ hturn)) hagain,
      holdsNext_receive hstored hblock hcap hreceive (filled_of_again hagain), and_assoc]
    simp only [List.mem_cons, Turn.arrived.injEq, or_imp, and_imp, forall_and, forall_eq_apply_imp_iff, forall_eq]

end receiver

/-- A data frame's payload is a block that fits, after its digest. -/
def Intact (sha256 : List UInt8 → Bytes HASH_SIZE) (config : Config) (payload : List UInt8) : Prop :=
  HASH_SIZE ≤ payload.length ∧ (payload.drop HASH_SIZE).length ≤ config.block_size ∧
    (sha256 (payload.drop HASH_SIZE)).toList = payload.take HASH_SIZE

/-- What a sender of some blocks sends: the number of its bytes in OPEN frames
and, in DATA frames, nonempty blocks under their numbers. -/
def Sent (blocks : List (List UInt8)) (frame : Frame) : Prop :=
  (frame.type = .OPEN → (read_u64_be (frame.payload.drop STREAM_ID_SIZE)).toNat = blocks.flatten.length) ∧
    Carries (fun seq block => block ≠ [] ∧ blocks[seq]? = some block) frame

namespace Sample

/-- Blocks of one byte, with a window of two reorder buffers. -/
def small : Config := ⟨Bytes.zero _, 1, 64⟩

def digest (_ : List UInt8) : Bytes HASH_SIZE := Bytes.zero _

/-- Each block is its number. -/
def blocks (count : Nat) : List (List UInt8) := (List.range count).map fun seq => [UInt8.ofNat seq]

/-- The OPEN frame of a sender of a number of blocks. -/
def opening (count : Nat) : Frame := ⟨.OPEN, 0, small.stream_id.toList ++ write_u64_be (UInt64.ofNat count)⟩

def data (seq : UInt32) : Frame := ⟨.DATA, seq, (Bytes.zero HASH_SIZE).toList ++ [UInt8.ofNat seq.toNat]⟩

theorem intact (seq : UInt32) : Intact digest small (data seq).payload := by
  simp [Intact, data, digest, small, HASH_SIZE]

theorem sent_opening {count : Nat} (hcount : count < 2 ^ 64) : Sent (blocks count) (opening count) := by
  refine ⟨fun _ => ?_, nofun⟩
  have hread : read_u64_be (write_u64_be (UInt64.ofNat count)) = UInt64.ofNat count := by
    rw [← List.append_nil (write_u64_be _), read_write_u64_be]
  simpa [opening, blocks, small, STREAM_ID_SIZE, hread, List.length_flatten, Function.comp_def] using hcount

theorem sent_data {count : Nat} {seq : UInt32} (hseq : seq.toNat < count) : Sent (blocks count) (data seq) :=
  ⟨nofun, fun _ => by simp [data, blocks, HASH_SIZE, hseq]⟩

end Sample

open Sample

variable (sha256 : List UInt8 → Bytes HASH_SIZE) (config : Config) (calls : List (Nat × List Turn))

/-- The next block is stored when it arrives intact just when the reorder buffer
holds no later block whose number differs from its own by a multiple of the
slots. -/
theorem next_block_stored (payload : List UInt8) (hintact : Intact sha256 config payload) (sent : Bool) :
    let receiver := (pump_all sha256 config calls).1
    (∃ stored, handle_data sha256 config receiver receiver.next_expected payload sent = .ok stored ∧
      stored.next_slot = some (stored.next_expected, payload.drop HASH_SIZE)) ↔
    ∀ i seq block, receiver.reorder_slots i = some (seq, block) →
      seq % REORDER_SLOTS = receiver.next_expected % REORDER_SLOTS → seq = receiver.next_expected := by
  intro receiver
  have hstored : Stored config (fun _ _ => True) receiver := Stored.pump_all fun _ _ _ _ _ _ => trivial
  obtain ⟨hlength, hfits, hdigest⟩ := hintact
  rw [handle_data, if_neg (by omega)]
  simp only [hdigest, ne_eq, not_true_eq_false, lt_irrefl, false_or]
  cases hslot : receiver.reorder_slots (receiver.next_expected % REORDER_SLOTS) with
  | none =>
    refine iff_of_true ⟨_, if_neg (by simp), by simp [Receiver.next_slot]⟩ fun i seq block hheld hmod => ?_
    obtain ⟨rfl, _⟩ := hstored i seq block hheld
    rw [hmod, hslot] at hheld
    contradiction
  | some held =>
    obtain ⟨hindex, _⟩ := hstored _ _ _ hslot
    rcases eq_or_ne held.1 receiver.next_expected with hsame | hother
    · refine iff_of_true ⟨_, if_neg (by simp [hsame]), by simp [Receiver.next_slot]⟩ fun i seq block hheld hmod => ?_
      obtain ⟨rfl, _⟩ := hstored i seq block hheld
      rw [hmod, hslot] at hheld
      obtain rfl := Option.some.inj hheld
      exact hsame
    · refine iff_of_false ?_ fun hnone => hother (hnone _ _ _ hslot hindex)
      rintro ⟨stored, hok, hnext⟩
      rw [if_pos (by simpa using hother)] at hok
      split at hok
      · obtain rfl := Except.ok.inj hok
        rw [Receiver.next_slot, hslot] at hnext
        exact hother (congrArg Prod.fst (Option.some.inj hnext))
      · contradiction

/-- Blocks of other slots do not stand in the way of the next one. -/
theorem next_block_stored_before_others :
    let receiver := (pump_all digest small [(1, [.arrived (opening 34) true, .arrived (data 33) true,
      .arrived (data 2) true])]).1
    receiver.reorder_slots 1 = some (33, [33]) ∧ receiver.reorder_slots 2 = some (2, [2]) ∧
      ∃ stored, handle_data digest small receiver 0 (data 0).payload true = .ok stored ∧
        stored.next_slot = some (stored.next_expected, [0]) := by
  refine ⟨by decide, by decide, (next_block_stored digest small _ _ (intact 0) true).mpr fun i seq block hheld hmod => ?_⟩
  obtain ⟨rfl, _⟩ := Stored.pump_all (Q := fun _ _ => True) (fun _ _ _ _ _ _ => trivial) i seq block hheld
  have hfree : (pump_all digest small [(1, [.arrived (opening 34) true, .arrived (data 33) true,
    .arrived (data 2) true])]).1.next_slot = none := by decide
  rw [hmod] at hheld
  exact absurd (hfree.symm.trans hheld) nofun

/-- A block that is a whole reorder buffer ahead takes the slot of the next one,
which is then refused. -/
theorem next_block_refused :
    let calls := [(1, [.arrived (opening 33) true, .arrived (data 32) true])]
    let receiver := (pump_all digest small calls).1
    config_is_valid small = true ∧ Arrive (Sent (blocks 33)) calls ∧ receiver.complete = false ∧
      Sent (blocks 33) (data 0) ∧ Intact digest small (data 0).payload ∧ receiver.next_expected = 0 ∧
      handle_data digest small receiver 0 (data 0).payload true = .ok receiver ∧
      receiver.next_slot ≠ some (0, [0]) := by
  refine ⟨by decide, ?_, by decide, sent_data (by decide), intact 0, by decide, rfl, by decide⟩
  simp [Arrive, sent_data, sent_opening]

/-- A call that has room for a block and returns `AGAIN` leaves the next block in
the buffer just when it was there before and the call has met no data frame. -/
theorem again_without_next_block (blocks : List (List UInt8)) (cap : Nat) (turns : List Turn)
    (hsent : Arrive (Sent blocks) (calls ++ [(cap, turns)])) (hcap : config.block_size ≤ cap) :
    let receiver := (pump_all sha256 config calls).1
    let outcome := receiver_pump sha256 config receiver cap turns
    outcome.1 = .ok .AGAIN → (outcome.2.1.HoldsNext ↔
      receiver.HoldsNext ∧ ∀ frame sent, .arrived frame sent ∈ turns → frame.type ≠ .DATA) := by
  intro receiver outcome hagain
  have hblocks : Arrive (Carries fun _ block => block ≠ []) (calls ++ [(cap, turns)]) :=
    fun call hcall frame sent hturn hdata => ((hsent call hcall frame sent hturn).2 hdata).1
  have hstored : Stored config (fun _ block => block ≠ []) receiver :=
    Stored.pump_all fun call hcall => hblocks call (List.mem_append_left _ hcall)
  unfold outcome receiver_pump at *
  split at hagain <;> rename_i hopen
  · simp at hagain
  · rw [if_neg hopen]
    exact holdsNext_pump_loop hstored (hblocks (cap, turns) (by simp)) hcap hagain

/-- The next block is missing while later ones wait for it. -/
theorem later_blocks_wait :
    let receiver := (pump_all digest small [(1, [.arrived (opening 3) true, .arrived (data 2) true])]).1
    let outcome := receiver_pump digest small receiver 1 [.arrived (data 1) true]
    outcome.1 = .ok .AGAIN ∧ outcome.2.1.reorder_slots 1 = some (1, [1]) ∧ ¬outcome.2.1.HoldsNext := by
  refine ⟨by decide, by decide, fun hnext => ?_⟩
  exact ((again_without_next_block digest small [(1, [.arrived (opening 3) true, .arrived (data 2) true])] (blocks 3) 1
    [.arrived (data 1) true] (by simp [Arrive, sent_data, sent_opening]) (by decide) (by decide)).mp hnext).2 _ _
      List.mem_cons_self rfl

/-- A block that a call had no room for is not delivered by the next call, which
has room for it but finds no further frame. -/
theorem again_with_next_block :
    let calls := [(0, [.arrived (opening 1) true, .arrived (data 0) true])]
    let outcome := receiver_pump digest small (pump_all digest small calls).1 1 []
    Arrive (Sent (blocks 1)) calls ∧ outcome.1 = .ok .AGAIN ∧ outcome.2.1.HoldsNext := by
  refine ⟨?_, rfl, [0], by decide⟩
  simp [Arrive, sent_data, sent_opening]

/-- The bytes that were copied out are the first blocks, and an end that was
found after the total size is known is the end of the input. -/
structure Ordered (blocks : List (List UInt8)) (receiver : Receiver) (bytes : List UInt8) : Prop where
  stored : Stored config (fun seq block => block ≠ [] ∧ blocks[seq]? = some block) receiver
  bytes_eq : bytes = (blocks.take receiver.next_expected).flatten
  delivered : receiver.delivered_bytes = bytes.length
  total : receiver.open_seen = true → receiver.open_total_size.toNat = blocks.flatten.length
  ended : receiver.open_seen = true → receiver.complete = true → blocks.flatten.length ≤ bytes.length

section ordered

variable {sha256 config calls} {blocks : List (List UInt8)} {receiver : Receiver} {bytes : List UInt8}

theorem Ordered.advance (hordered : Ordered config blocks receiver bytes) {block : List UInt8}
    (hslot : receiver.next_slot = some (receiver.next_expected, block)) :
    Ordered config blocks (receiver.advance block) (bytes ++ block) where
  stored := hordered.stored.advance block
  bytes_eq := by
    obtain ⟨_, _, _, _, hblock⟩ := hordered.stored _ _ _ hslot
    rw [hordered.bytes_eq]
    simp [Receiver.advance, List.take_add_one, hblock]
  delivered := by simp [Receiver.advance, hordered.delivered]
  total := hordered.total
  ended hseen hcomplete := (hordered.ended hseen hcomplete).trans (by simp)

theorem Ordered.check_complete (hordered : Ordered config blocks receiver bytes) :
    Ordered config blocks receiver.check_complete bytes where
  stored := hordered.stored
  bytes_eq := hordered.bytes_eq
  delivered := hordered.delivered
  total := hordered.total
  ended hseen hcomplete := by
    rcases Bool.or_eq_true_iff.mp hcomplete with hcomplete | henough
    · exact hordered.ended hseen hcomplete
    · rw [← hordered.total hseen, ← hordered.delivered]
      exact of_decide_eq_true henough

theorem Ordered.receive {cap : Nat} {filled : List UInt8} {frame : Frame} {sent : Bool} {next : Receiver × List UInt8}
    (hordered : Ordered config blocks receiver (bytes ++ filled)) (hsent : Sent blocks frame)
    (hopen : receiver.complete = false) (hok : receive sha256 config cap receiver filled frame sent = .ok next) :
    Ordered config blocks next.1 (bytes ++ next.2) := by
  have hstored := hordered.stored.receive hsent.2 hok
  obtain ⟨htype, rfl⟩ | ⟨hdata, stored, hhandled, rfl⟩ | ⟨_, rfl | rfl⟩ := receive_ok hok
  · exact ⟨hstored, hordered.bytes_eq, hordered.delivered, fun _ => hsent.1 htype, by simp [hopen]⟩
  · have hslots := hordered.stored.handle_data hsent.2 hdata hhandled
    have hheld : Ordered config blocks stored (bytes ++ filled) := by
      obtain rfl | ⟨_, _, rfl⟩ := handle_data_ok hhandled <;> exact { hordered with stored := hslots }
    rw [← List.append_assoc]
    exact (deliver_rule _ (fun _ _ _ hordered hslot => hordered.advance hslot) hheld _).check_complete
  · exact hordered.check_complete
  · exact hordered

theorem Ordered.pump_all (hsent : Arrive (Sent blocks) calls) :
    Ordered config blocks (pump_all sha256 config calls).1 (pump_all sha256 config calls).2 :=
  pump_all_rule hsent ⟨nofun, by simp, rfl, nofun, nofun⟩
    fun _ _ _ _ _ _ _ hframe hopen hordered hok => hordered.receive hframe hopen hok

theorem Ordered.all_of_complete (hordered : Ordered config blocks receiver bytes) (hseen : receiver.open_seen = true)
    (hcomplete : receiver.complete = true) : bytes = blocks.flatten := by
  have hall : bytes ++ (blocks.drop receiver.next_expected).flatten = blocks.flatten := by
    rw [hordered.bytes_eq, ← List.flatten_append, List.take_append_drop]
  refine List.IsPrefix.eq_of_length_le ⟨_, hall⟩ (hordered.ended hseen hcomplete)

end ordered

/-- The first thing that happens is that OPEN arrives. -/
def OpensFirst (turns : List Turn) : Prop :=
  ∃ frame sent rest, turns = .arrived frame sent :: rest ∧ frame.type = .OPEN ∧
    frame.payload.length = STREAM_ID_SIZE + 8 ∧ take_bytes STREAM_ID_SIZE frame.payload = config.stream_id

section opened

variable {sha256 config calls} {receiver : Receiver} {cap : Nat} {turns : List Turn}

theorem open_seen_receive {filled : List UInt8} {frame : Frame} {sent : Bool} {next : Receiver × List UInt8}
    (hseen : receiver.open_seen = true) (hok : receive sha256 config cap receiver filled frame sent = .ok next) :
    next.1.open_seen = true := by
  obtain ⟨_, rfl⟩ | ⟨_, stored, hhandled, rfl⟩ | ⟨_, rfl | rfl⟩ := receive_ok hok
  · rfl
  · refine deliver_rule (P := fun receiver _ => receiver.open_seen = true) filled (fun _ _ _ hseen _ => hseen) ?_ _
    obtain rfl | ⟨_, _, rfl⟩ := handle_data_ok hhandled <;> exact hseen
  · exact hseen
  · exact hseen

theorem open_seen_pump_loop {filled : List UInt8} (hseen : receiver.open_seen = true)
    (hopen : receiver.complete = false) :
    (pump_loop sha256 config cap receiver filled turns).2.1.open_seen = true :=
  (pump_loop_rule (P := fun receiver _ => receiver.open_seen = true)
    (fun _ _ _ _ _ _ _ hseen hok => open_seen_receive hseen hok) hopen hseen).1

theorem open_seen_pump (hseen : receiver.open_seen = true) :
    (receiver_pump sha256 config receiver cap turns).2.1.open_seen = true := by
  unfold receiver_pump
  split <;> rename_i hopen
  · exact hseen
  · exact open_seen_pump_loop hseen (eq_false_of_ne_true hopen)

theorem OpensFirst.open_seen (hfirst : OpensFirst config (calls.flatMap (·.2))) :
    (pump_all sha256 config calls).1.open_seen = true := by
  induction calls using List.reverseRecOn with
  | nil => obtain ⟨_, _, _, hnil, _⟩ := hfirst; contradiction
  | append_singleton calls call ih =>
    rw [pump_all, Machine.run_append]
    obtain ⟨frame, sent, rest, hturns, htype, hlength, hstream⟩ := hfirst
    rw [List.flatMap_append, List.flatMap_singleton] at hturns
    rcases List.append_eq_cons_iff.mp hturns with ⟨hnone, hcall⟩ | ⟨early, hearly, _⟩
    · -- Nothing has happened before this call.
      have hstart : (pump_all sha256 config calls).1 = {} := by
        refine pump_all_rule (P := fun receiver _ => receiver = {}) (Q := fun _ => False) ?_ rfl nofun
        intro call hmem frame sent hturn
        rw [List.flatMap_eq_nil_iff.mp hnone call hmem] at hturn
        contradiction
      change (receiver_pump sha256 config (pump_all sha256 config calls).1 call.1 call.2).2.1.open_seen = true
      rw [hstart, hcall, receiver_pump, if_neg (by simp), pump_loop, receive, htype]
      simp only [hlength, hstream, ne_eq, not_true_eq_false, or_self, if_false]
      exact open_seen_pump_loop rfl rfl
    · exact open_seen_pump (ih ⟨frame, sent, early, hearly, htype, hlength, hstream⟩)

end opened

/-- A call that has seen OPEN, and every call when OPEN arrives first, finds the
end only when the bytes that were copied out are the whole input. -/
theorem end_only_after_all (blocks : List (List UInt8)) (cap : Nat) (turns : List Turn)
    (hsent : Arrive (Sent blocks) (calls ++ [(cap, turns)])) :
    let outcome := receiver_pump sha256 config (pump_all sha256 config calls).1 cap turns
    outcome.2.1.open_seen = true ∨ OpensFirst config ((calls ++ [(cap, turns)]).flatMap (·.2)) →
      outcome.1 = .ok .END ∨ outcome.2.1.complete = true →
      (pump_all sha256 config calls).2 ++ outcome.2.2 = blocks.flatten := by
  intro outcome hseen hend
  have hordered : Ordered config blocks (pump_all sha256 config (calls ++ [(cap, turns)])).1 _ := Ordered.pump_all hsent
  have hseen : outcome.2.1.open_seen = true := hseen.elim id fun hfirst => by
    have hseen : (pump_all sha256 config _).1.open_seen = true := hfirst.open_seen
    rwa [pump_all, Machine.run_append] at hseen
  rw [pump_all, Machine.run_append] at hordered
  exact hordered.all_of_complete hseen (hend.elim receiver_pump_end id)

/-- A stream that ends with its first block, after the second one. -/
theorem end_after_two_blocks :
    let calls := [(1, [.arrived (opening 2) true, .arrived (data 1) true])]
    (receiver_pump digest small (pump_all digest small calls).1 2 [.arrived (data 0) true]).2.2 = [0, 1] :=
  end_only_after_all digest small [(1, [.arrived (opening 2) true, .arrived (data 1) true])] (blocks 2) 2
    [.arrived (data 0) true] (by simp [Arrive, sent_data, sent_opening])
    (.inr ⟨opening 2, true, _, rfl, rfl, rfl, rfl⟩) (.inr rfl)

/-- A data frame that comes before OPEN ends the stream, with nothing copied
out. -/
theorem end_before_open :
    let calls := [(1, [.arrived (data 1) true])]
    Arrive (Sent (blocks 2)) calls ∧ (pump_all digest small calls).1.complete = true ∧
      (pump_all digest small calls).2 ≠ (blocks 2).flatten := by
  refine ⟨?_, rfl, by decide⟩
  simp [Arrive, sent_data]

/-- Whatever is lost, repeated or reordered, the bytes that were copied out are
the first blocks of the input, and their number is counted. -/
theorem delivered_in_order (blocks : List (List UInt8)) (hsent : Arrive (Sent blocks) calls) :
    let (receiver, bytes) := pump_all sha256 config calls
    bytes = (blocks.take receiver.next_expected).flatten ∧ receiver.delivered_bytes = bytes.length := by
  have hordered : Ordered config blocks (pump_all sha256 config calls).1 _ := .pump_all hsent
  exact ⟨hordered.bytes_eq, hordered.delivered⟩

/-- Blocks that arrive out of order, one of them twice, over three calls. -/
theorem reordered_blocks_delivered :
    (pump_all digest small [(1, [.arrived (opening 3) true, .arrived (data 1) true]), (1, [.arrived (data 0) true]),
      (2, [.arrived (data 0) true, .arrived (data 2) true])]).2 = [0, 1, 2] :=
  (delivered_in_order digest small _ (blocks 3) (by simp [Arrive, sent_data, sent_opening])).1

end turbop2p.mesh_stream_data
