import TurboP2P.Lib.Bytes
import TurboP2P.Lib.Machine
import Mathlib.Data.List.FinRange
import Mathlib.Data.List.Nodup
import Mathlib.Logic.Function.Basic

namespace turbop2p.kademlia

def ID_BITS : Nat := 160

/-- The number of nodes in a bucket. -/
def K : Nat := 20

structure Node where
  id : Bytes 20
  ip : List UInt8
  port : UInt16
  last_seen : UInt64

structure Bucket where
  nodes : List Node
  count : Nat
  last_updated : UInt64

structure RoutingTable where
  local_id : Bytes 20
  buckets : Fin ID_BITS → Bucket

/-- The number of bits that two ids share at the front. -/
def id_prefix_len : List UInt8 → List UInt8 → Nat
  | a :: left, b :: right =>
    if a ^^^ b = 0 then 8 + id_prefix_len left right
    else ((List.range 8).takeWhile fun bit => !(a ^^^ b).toNat.testBit (7 - bit)).length
  | _, _ => 0

def bucket_index (local_id node_id : Bytes 20) : Fin ID_BITS :=
  ⟨ID_BITS - id_prefix_len local_id.toList node_id.toList - 1, by unfold ID_BITS; omega⟩

/-- A bit of an id, counted from the front. -/
def bit (id : List UInt8) (i : Nat) : Bool := (id.getD (i / 8) 0).toNat.testBit (7 - i % 8)

theorem bit_cons_add (byte : UInt8) (bytes : List UInt8) (i : Nat) : bit (byte :: bytes) (8 + i) = bit bytes i := by
  have hdiv : (8 + i) / 8 = i / 8 + 1 := by omega
  have hmod : (8 + i) % 8 = i % 8 := by omega
  simp [bit, hdiv, hmod]

theorem bit_cons_of_lt (byte : UInt8) (bytes : List UInt8) {i : Nat} (hi : i < 8) :
    bit (byte :: bytes) i = byte.toNat.testBit (7 - i) := by
  simp [bit, Nat.div_eq_of_lt hi, Nat.mod_eq_of_lt hi]

/-- The number of leading zero bits of a byte that is not zero. -/
theorem leading_zeros (byte : Fin 256) (hbyte : byte ≠ 0) :
    let zeros := ((List.range 8).takeWhile fun bit => !byte.val.testBit (7 - bit)).length
    zeros < 8 ∧ byte.val.testBit (7 - zeros) ∧ ∀ i < zeros, byte.val.testBit (7 - i) = false := by
  revert byte
  decide +kernel

/-- The prefix length is the number of leading bits that two ids share. -/
theorem id_prefix_len_bits {left right : List UInt8} (hlength : left.length = right.length) :
    (∀ i < id_prefix_len left right, bit left i = bit right i) ∧
      (left = right ∧ id_prefix_len left right = 8 * left.length ∨
        bit left (id_prefix_len left right) ≠ bit right (id_prefix_len left right)) := by
  induction left generalizing right with
  | nil =>
    obtain rfl := List.length_eq_zero_iff.mp hlength.symm
    simp [id_prefix_len]
  | cons a left ih =>
    cases right with
    | nil => cases hlength
    | cons b right =>
      obtain ⟨hshared, hend⟩ := ih (Nat.succ.inj hlength)
      rw [id_prefix_len]
      by_cases hxor : a ^^^ b = 0
      · obtain rfl : a = b := UInt8.xor_eq_zero_iff.mp hxor
        rw [if_pos hxor]
        constructor
        · intro i hi
          by_cases hbyte : i < 8
          · rw [bit_cons_of_lt _ _ hbyte, bit_cons_of_lt _ _ hbyte]
          · obtain ⟨j, rfl⟩ := Nat.exists_eq_add_of_le (Nat.le_of_not_lt hbyte)
            rw [bit_cons_add, bit_cons_add]
            exact hshared j (by omega)
        · rw [bit_cons_add, bit_cons_add]
          refine hend.imp_left ?_
          rintro ⟨rfl, hwhole⟩
          exact ⟨rfl, by rw [hwhole, List.length_cons]; omega⟩
      · rw [if_neg hxor]
        have hbyte : (⟨(a ^^^ b).toNat, (a ^^^ b).toNat_lt⟩ : Fin 256) ≠ 0 := by
          intro hzero
          exact hxor (UInt8.toNat_inj.mp (Fin.val_eq_of_eq hzero))
        obtain ⟨hlt, hset, hclear⟩ := leading_zeros _ hbyte
        simp only [UInt8.toNat_xor, Nat.testBit_xor] at hlt hset hclear ⊢
        constructor
        · intro i hi
          rw [bit_cons_of_lt _ _ (hi.trans hlt), bit_cons_of_lt _ _ (hi.trans hlt)]
          simpa using hclear i hi
        · right
          rw [bit_cons_of_lt _ _ hlt, bit_cons_of_lt _ _ hlt]
          simpa using hset

/-- The bucket that an id belongs into is given by the number of leading bits
that it shares with the local id, which itself goes into the first bucket. -/
def Belongs (local_id id : Bytes 20) (index : Nat) : Prop :=
  id = local_id ∧ index = 0 ∨ ∃ shared, shared + index + 1 = ID_BITS ∧
    (∀ i < shared, bit local_id.toList i = bit id.toList i) ∧ bit local_id.toList shared ≠ bit id.toList shared

theorem belongs_bucket_index (local_id id : Bytes 20) : Belongs local_id id (bucket_index local_id id) := by
  have hlocal := local_id.toList_length
  have hid := id.toList_length
  obtain ⟨hshared, ⟨hsame, hwhole⟩ | hend⟩ := id_prefix_len_bits (hlocal.trans hid.symm)
  · exact .inl ⟨List.Vector.toList_injective hsame.symm, by simp [bucket_index, hwhole, ID_BITS]⟩
  · refine .inr ⟨_, ?_, hshared, hend⟩
    have hlt : id_prefix_len local_id.toList id.toList < ID_BITS := by
      by_contra hge
      have hbyte : 20 ≤ id_prefix_len local_id.toList id.toList / 8 := by
        unfold ID_BITS at hge
        omega
      simp [bit, hlocal, hid, hbyte] at hend
    simp only [bucket_index]
    omega

def node_create (id : Bytes 20) (ip : List UInt8) (port : UInt16) (now : UInt64) : Node :=
  { id, ip := ip.take 45, port, last_seen := now }

def routing_create (local_id : Bytes 20) : RoutingTable := { local_id, buckets := fun _ => ⟨[], 0, 0⟩ }

def RoutingTable.set (rt : RoutingTable) (index : Fin ID_BITS) (bucket : Bucket) : RoutingTable :=
  { rt with buckets := Function.update rt.buckets index bucket }

/-- A full bucket loses its tail. -/
def Bucket.evict (bucket : Bucket) : Bucket :=
  if bucket.count ≥ K then { bucket with nodes := bucket.nodes.dropLast, count := bucket.count - 1 } else bucket

/-- A node that the bucket has is moved to its head, another one is put there. -/
def routing_add_node (rt : RoutingTable) (node : Node) (now : UInt64) (calloc : Bool) : Int × RoutingTable :=
  let index := bucket_index rt.local_id node.id
  let bucket := rt.buckets index
  match bucket.nodes.find? (·.id = node.id) with
  | some found =>
    (0, rt.set index
      { bucket with nodes := { found with last_seen := now } :: bucket.nodes.eraseP (·.id = node.id) })
  | none =>
    let bucket := bucket.evict
    if calloc = false then (-1, rt.set index bucket)
    else
      (0, rt.set index
        { nodes := node_create node.id node.ip node.port now :: bucket.nodes, count := bucket.count + 1
          last_updated := now })

def routing_remove_node (rt : RoutingTable) (id : Bytes 20) : RoutingTable :=
  let index := bucket_index rt.local_id id
  let bucket := rt.buckets index
  if bucket.nodes.any (·.id = id) then
    rt.set index { bucket with nodes := bucket.nodes.eraseP (·.id = id), count := bucket.count - 1 }
  else rt

inductive Call where
  | add (node : Node) (now : UInt64) (calloc : Bool)
  | remove (id : Bytes 20)

def RoutingTable.step (rt : RoutingTable) : Call → RoutingTable
  | .add node now calloc => (routing_add_node rt node now calloc).2
  | .remove id => routing_remove_node rt id

/-- The table after the calls of a history, the latest first. -/
def reached (local_id : Bytes 20) : List Call → RoutingTable
  | [] => routing_create local_id
  | call :: history => (reached local_id history).step call

def Call.adds (id : Bytes 20) : Call → Bool
  | .add node _ _ => node.id = id
  | .remove _ => false

/-- The number of calls since the node was last added. -/
def age (history : List Call) (id : Bytes 20) : Nat := history.findIdx (Call.adds id)

/-- What holds of the bucket at an index after a history. -/
structure Bucket.Lawful (local_id : Bytes 20) (history : List Call) (index : Fin ID_BITS) (bucket : Bucket) : Prop where
  placed : ∀ node ∈ bucket.nodes, bucket_index local_id node.id = index
  count : bucket.count = bucket.nodes.length
  room : bucket.count ≤ K
  recent : bucket.nodes.Pairwise (age history ·.id < age history ·.id)

section calls

variable {local_id : Bytes 20} {history : List Call} {call : Call} {index : Fin ID_BITS} {bucket after : Bucket}

theorem Bucket.Lawful.distinct (hlawful : bucket.Lawful local_id history index) :
    bucket.nodes.Pairwise (·.id ≠ ·.id) :=
  hlawful.recent.imp fun hlt heq => Nat.ne_of_lt hlt (congrArg (age history) heq)

/-- A call that adds none of the nodes that stay. -/
theorem Bucket.Lawful.keep (hlawful : bucket.Lawful local_id history index)
    (hnodes : after.nodes.Sublist bucket.nodes) (hcount : after.count = after.nodes.length)
    (hothers : ∀ node ∈ after.nodes, call.adds node.id = false) : after.Lawful local_id (call :: history) index where
  placed node hnode := hlawful.placed node (hnodes.subset hnode)
  count := hcount
  room := hcount ▸ hnodes.length_le.trans (hlawful.count ▸ hlawful.room)
  recent := by
    refine (hlawful.recent.sublist hnodes).imp_of_mem fun hleft hright hlt => ?_
    simpa [age, List.findIdx_cons, hothers _ hleft, hothers _ hright] using hlt

/-- The node that a call adds is put at the head. -/
theorem Bucket.Lawful.push (hlawful : bucket.Lawful local_id (call :: history) index) (node : Node)
    (hindex : bucket_index local_id node.id = index) (hadds : call.adds node.id = true)
    (hothers : ∀ other ∈ bucket.nodes, call.adds other.id = false) (hroom : bucket.count < K)
    (hnodes : after.nodes = node :: bucket.nodes) (hcount : after.count = bucket.count + 1) :
    after.Lawful local_id (call :: history) index where
  placed := hnodes ▸ List.forall_mem_cons.mpr ⟨hindex, hlawful.placed⟩
  count := by rw [hnodes, hcount, hlawful.count, List.length_cons]
  room := hcount ▸ hroom
  recent := by
    rw [hnodes]
    refine List.pairwise_cons.mpr ⟨fun other hother => ?_, hlawful.recent⟩
    simp [age, List.findIdx_cons, hadds, hothers other hother]

theorem eraseP_eq_filter {nodes : List Node} {id : Bytes 20} (hdistinct : nodes.Pairwise (·.id ≠ ·.id)) :
    nodes.eraseP (·.id = id) = nodes.filter (·.id ≠ id) := by
  induction nodes with
  | nil => rfl
  | cons head nodes ih =>
    obtain ⟨hhead, hdistinct⟩ := List.pairwise_cons.mp hdistinct
    by_cases hid : head.id = id
    · have hothers : nodes.filter (·.id ≠ id) = nodes :=
        List.filter_eq_self.mpr fun node hnode => decide_eq_true (hid ▸ (hhead node hnode).symm)
      rw [List.eraseP_cons_of_pos (by simpa using hid), List.filter_cons_of_neg (by simpa using hid), hothers]
    · rw [List.eraseP_cons_of_neg (by simpa using hid), List.filter_cons_of_pos (by simpa using hid), ih hdistinct]

theorem id_ne_of_mem_eraseP {nodes : List Node} {id : Bytes 20} (hdistinct : nodes.Pairwise (·.id ≠ ·.id)) :
    ∀ node ∈ nodes.eraseP (·.id = id), node.id ≠ id := by
  intro node hnode
  rw [eraseP_eq_filter hdistinct] at hnode
  simpa using (List.mem_filter.mp hnode).2

/-- The id that a call is about. -/
def Call.id : Call → Bytes 20
  | .add node _ _ => node.id
  | .remove id => id

theorem adds_of_ne {other : Bytes 20} (hne : other ≠ call.id) : call.adds other = false := by
  cases call with
  | add node now calloc => exact decide_eq_false hne.symm
  | remove id => rfl

theorem Bucket.Lawful.erase (hlawful : bucket.Lawful local_id history index) (call : Call) {found : Node}
    (hfound : found ∈ bucket.nodes) (hid : found.id = call.id) :
    Bucket.Lawful local_id (call :: history) index
      { bucket with nodes := bucket.nodes.eraseP (·.id = call.id), count := bucket.count - 1 } := by
  refine hlawful.keep List.eraseP_sublist ?_ fun node hnode => adds_of_ne (id_ne_of_mem_eraseP hlawful.distinct node hnode)
  rw [hlawful.count, List.length_eraseP_of_mem hfound (by simpa using hid)]

theorem Bucket.Lawful.evict (hlawful : bucket.Lawful local_id history index) (call : Call)
    (hnone : ∀ node ∈ bucket.nodes, node.id ≠ call.id) :
    bucket.evict.Lawful local_id (call :: history) index ∧ bucket.evict.count < K ∧
      ∀ node ∈ bucket.evict.nodes, call.adds node.id = false := by
  unfold Bucket.evict
  have hcount := hlawful.count
  have hroom := hlawful.room
  have hothers : ∀ node ∈ bucket.nodes, call.adds node.id = false := fun node hnode => adds_of_ne (hnone node hnode)
  by_cases hfull : bucket.count ≥ K
  · rw [if_pos hfull]
    have hkept : ∀ node ∈ bucket.nodes.dropLast, call.adds node.id = false :=
      fun node hnode => hothers node (List.dropLast_subset _ hnode)
    refine ⟨hlawful.keep (List.dropLast_sublist _) ?_ hkept, ?_, hkept⟩
    · rw [List.length_dropLast, hcount]
    · unfold K at *
      dsimp only
      omega
  · rw [if_neg hfull]
    exact ⟨hlawful.keep (List.Sublist.refl _) hcount hothers, Nat.lt_of_not_ge hfull, hothers⟩

def RoutingTable.Lawful (rt : RoutingTable) (history : List Call) : Prop :=
  ∀ index, (rt.buckets index).Lawful rt.local_id history index

variable {rt : RoutingTable}

/-- A call leaves the buckets of other ids alone. -/
theorem RoutingTable.Lawful.set (hlawful : rt.Lawful history)
    (hafter : after.Lawful rt.local_id (call :: history) (bucket_index rt.local_id call.id)) :
    (rt.set (bucket_index rt.local_id call.id) after).Lawful (call :: history) := by
  intro index
  change (Function.update rt.buckets _ after index).Lawful rt.local_id _ index
  by_cases hindex : index = bucket_index rt.local_id call.id
  · subst hindex
    rwa [Function.update_self]
  · rw [Function.update_of_ne hindex]
    refine (hlawful index).keep (List.Sublist.refl _) (hlawful index).count fun node hnode => adds_of_ne fun heq => hindex ?_
    rw [← (hlawful index).placed node hnode, heq]

theorem RoutingTable.Lawful.step (hlawful : rt.Lawful history) (call : Call) : (rt.step call).Lawful (call :: history) := by
  cases call with
  | remove id =>
    have hbucket := hlawful (bucket_index rt.local_id id)
    have hkept : rt.Lawful (.remove id :: history) :=
      fun index => (hlawful index).keep (List.Sublist.refl _) (hlawful index).count fun _ _ => rfl
    refine guard_cases (P := fun rt : RoutingTable => rt.Lawful _) (fun hany => ?_) fun _ => hkept
    obtain ⟨found, hfound, hid⟩ := List.any_eq_true.mp hany
    exact hlawful.set (hbucket.erase (.remove id) hfound (of_decide_eq_true hid))
  | add node now calloc =>
    have hbucket := hlawful (bucket_index rt.local_id node.id)
    have hadds : Call.adds node.id (.add node now calloc) = true := decide_eq_true rfl
    unfold RoutingTable.step routing_add_node
    dsimp only
    cases hfind : (rt.buckets (bucket_index rt.local_id node.id)).nodes.find? (·.id = node.id) with
    | some found =>
      have hfound := List.mem_of_find?_eq_some hfind
      have hid : found.id = node.id := by simpa using List.find?_some hfind
      have herased := hbucket.erase (.add node now calloc) hfound hid
      have hcount := List.length_pos_of_mem hfound
      rw [← hbucket.count] at hcount
      refine hlawful.set (herased.push { found with last_seen := now } (hid ▸ rfl) (hid ▸ hadds) ?_ ?_ rfl ?_)
      · exact fun other hother => adds_of_ne (id_ne_of_mem_eraseP hbucket.distinct other hother)
      · have hroom := hbucket.room
        dsimp only
        omega
      · dsimp only
        omega
    | none =>
      have hnone : ∀ other ∈ (rt.buckets (bucket_index rt.local_id node.id)).nodes, other.id ≠ node.id := by
        simpa using hfind
      obtain ⟨hevicted, hroom, hothers⟩ := hbucket.evict (.add node now calloc) hnone
      refine guard_under (P := fun rt : RoutingTable => rt.Lawful _) (fun _ => hlawful.set hevicted) fun _ => ?_
      exact hlawful.set (hevicted.push (node_create node.id node.ip node.port now) rfl hadds hothers hroom rfl rfl)

theorem lawful_reached (local_id : Bytes 20) (history : List Call) : (reached local_id history).Lawful history := by
  induction history with
  | nil => exact fun _ => ⟨nofun, rfl, Nat.zero_le _, .nil⟩
  | cons call history ih => exact ih.step call

end calls

section added

variable {rt : RoutingTable} {history : List Call} {node : Node} {now : UInt64} {calloc : Bool}

/-- The nodes of a bucket that stay when another node is put at its head. -/
def Bucket.others (bucket : Bucket) (id : Bytes 20) : List Node := (bucket.nodes.filter (·.id ≠ id)).take (K - 1)

theorem Bucket.Lawful.evict_nodes {local_id : Bytes 20} {index : Fin ID_BITS} {bucket : Bucket}
    (hlawful : bucket.Lawful local_id history index) : bucket.evict.nodes = bucket.nodes.take (K - 1) := by
  have hcount := hlawful.count
  have hroom := hlawful.room
  unfold Bucket.evict
  by_cases hfull : bucket.count ≥ K
  · rw [if_pos hfull, List.dropLast_eq_take]
    exact congrArg (List.take · bucket.nodes) (by omega)
  · rw [if_neg hfull, List.take_of_length_le (by omega)]

/-- An add puts its node at the head of the bucket and keeps the others in
their order. Without memory a node that is new to the bucket is not stored. -/
theorem RoutingTable.Lawful.add_nodes (hlawful : rt.Lawful history) :
    let bucket := rt.buckets (bucket_index rt.local_id node.id)
    let after := (routing_add_node rt node now calloc).2.buckets (bucket_index rt.local_id node.id)
    if calloc ∨ ∃ stored ∈ bucket.nodes, stored.id = node.id then
      ∃ head : Node, head.id = node.id ∧ head.last_seen = now ∧ after.nodes = head :: bucket.others node.id
    else after.nodes = bucket.others node.id := by
  intro bucket after
  have hbucket : bucket.Lawful rt.local_id history _ := hlawful (bucket_index rt.local_id node.id)
  cases hfind : bucket.nodes.find? (·.id = node.id) with
  | some found =>
    have hmem := List.mem_of_find?_eq_some hfind
    have hid : found.id = node.id := by simpa using List.find?_some hfind
    have hafter : after.nodes = { found with last_seen := now } :: bucket.nodes.eraseP (·.id = node.id) := by
      simp only [after, routing_add_node, bucket] at hfind ⊢
      rw [hfind]
      simp [RoutingTable.set]
    rw [if_pos (.inr ⟨found, hmem, hid⟩)]
    refine ⟨{ found with last_seen := now }, hid, rfl, ?_⟩
    rw [hafter, Bucket.others, ← eraseP_eq_filter hbucket.distinct, List.take_of_length_le]
    rw [List.length_eraseP_of_mem hmem (by simpa using hid), ← hbucket.count]
    exact Nat.sub_le_sub_right hbucket.room 1
  | none =>
    have hnone : ∀ other ∈ bucket.nodes, other.id ≠ node.id := by simpa using hfind
    have hothers : bucket.others node.id = bucket.evict.nodes := by
      rw [Bucket.others, hbucket.evict_nodes, List.filter_eq_self.mpr fun other hother => decide_eq_true (hnone other hother)]
    have habsent : ¬∃ stored ∈ bucket.nodes, stored.id = node.id := fun ⟨stored, hstored, hid⟩ => hnone stored hstored hid
    simp only [after, routing_add_node, bucket] at hfind ⊢
    rw [hfind]
    cases calloc with
    | true =>
      rw [if_pos (.inl rfl)]
      refine ⟨node_create node.id node.ip node.port now, rfl, rfl, ?_⟩
      simp [RoutingTable.set, hothers, bucket]
    | false =>
      rw [if_neg (by simpa using habsent)]
      simp [RoutingTable.set, hothers, bucket]

theorem add_frame {other : Fin ID_BITS} (hother : other ≠ bucket_index rt.local_id node.id) :
    (routing_add_node rt node now calloc).2.buckets other = rt.buckets other := by
  unfold routing_add_node
  dsimp only
  split
  · exact Function.update_of_ne hother _ _
  · split <;> exact Function.update_of_ne hother _ _

end added

/-- In every reached table a bucket holds nodes that belong there, in the order
of their last adds, and no id stands twice. An add puts its node at the head
and keeps the others, except that a node that is new to a full bucket takes the
place of the one that was last added the longest ago. -/
theorem routing_table_lawful (local_id : Bytes 20) (history : List Call) :
    let rt := reached local_id history
    rt.Lawful history ∧ (∀ index, ∀ node ∈ (rt.buckets index).nodes, Belongs rt.local_id node.id index) ∧
      ((List.finRange ID_BITS).flatMap fun index => (rt.buckets index).nodes.map Node.id).Nodup ∧
      ∀ node now calloc, let index := bucket_index rt.local_id node.id
        let bucket := rt.buckets index
        let after := (reached local_id (.add node now calloc :: history)).buckets
        (∀ other, other ≠ index → after other = rt.buckets other) ∧
        (if calloc ∨ ∃ stored ∈ bucket.nodes, stored.id = node.id then
          ∃ head : Node, head.id = node.id ∧ head.last_seen = now ∧ (after index).nodes = head :: bucket.others node.id
        else (after index).nodes = bucket.others node.id) ∧
        (bucket.count = K → (∀ other ∈ bucket.nodes, other.id ≠ node.id) →
          ∃ oldest, bucket.nodes = bucket.others node.id ++ [oldest] ∧
            ∀ other ∈ bucket.others node.id, age history other.id < age history oldest.id) := by
  intro rt
  have hlawful : rt.Lawful history := lawful_reached local_id history
  refine ⟨hlawful, fun index node hnode => ?_, List.nodup_flatMap.mpr ⟨fun index _ => ?_, ?_⟩, ?_⟩
  · obtain rfl := (hlawful index).placed node hnode
    exact belongs_bucket_index rt.local_id node.id
  · exact List.pairwise_map.mpr (hlawful index).distinct
  · refine (List.nodup_finRange _).imp fun {left right} hne id hleft hright => ?_
    obtain ⟨node, hnode, rfl⟩ := List.mem_map.mp hleft
    obtain ⟨other, hother, hid⟩ := List.mem_map.mp hright
    exact hne (((hlawful left).placed node hnode).symm.trans (hid ▸ (hlawful right).placed other hother))
  · intro node now calloc
    refine ⟨fun other => add_frame, hlawful.add_nodes, fun hfull hnone => ?_⟩
    obtain ⟨hcount, hrecent⟩ := And.intro (hlawful _).count (hlawful _).recent
    generalize rt.buckets (bucket_index rt.local_id node.id) = bucket at *
    have hothers : bucket.others node.id = bucket.nodes.dropLast := by
      rw [Bucket.others, List.filter_eq_self.mpr fun other hother => decide_eq_true (hnone other hother),
        List.dropLast_eq_take, ← hcount, hfull]
    have hnonempty : bucket.nodes ≠ [] := by
      intro hnil
      simp [hnil, hfull, K] at hcount
    have hsplit := (List.dropLast_append_getLast hnonempty).symm
    rw [hsplit, List.pairwise_append] at hrecent
    rw [hothers]
    exact ⟨_, hsplit, fun other hother => hrecent.2.2 other hother _ List.mem_cons_self⟩

/-- A node whose id differs from zero in its first bit. -/
def far_node (byte : UInt8) : Node :=
  { id := 128 ::ᵥ byte ::ᵥ Bytes.zero 18, ip := [], port := 0, last_seen := 0 }

/-- The adds of some far nodes, the latest first. -/
def far_adds (count : Nat) : List Call :=
  ((List.range count).map fun i => Call.add (far_node (UInt8.ofNat i)) 0 true).reverse

/-- Of twenty nodes the first one gives way to the next. -/
theorem full_bucket_evicts :
    let rt := reached (Bytes.zero 20) (far_adds 20)
    let index := bucket_index rt.local_id (far_node 20).id
    let kept := (rt.buckets index).others (far_node 20).id
    ∃ head oldest, (rt.buckets index).nodes = kept ++ [oldest] ∧ oldest.id = (far_node 0).id ∧ head.id = (far_node 20).id ∧
      ((reached (Bytes.zero 20) (.add (far_node 20) 0 true :: far_adds 20)).buckets index).nodes = head :: kept := by
  obtain ⟨_, _, _, hadd⟩ := routing_table_lawful (Bytes.zero 20) (far_adds 20)
  obtain ⟨_, hstored, hevicted⟩ := hadd (far_node 20) 0 true
  rw [if_pos (.inl rfl)] at hstored
  obtain ⟨head, hhead, _, hnodes⟩ := hstored
  obtain ⟨oldest, hsplit, _⟩ := hevicted (by decide +kernel) (by decide +kernel)
  have hlast := congrArg (fun nodes : List Node => nodes.getLast?.map Node.id) hsplit
  rw [List.getLast?_concat] at hlast
  have hfirst : some (far_node 0).id = some oldest.id := .trans (by decide +kernel) hlast
  exact ⟨head, oldest, hsplit, (Option.some.inj hfirst).symm, hhead, hnodes⟩

end turbop2p.kademlia
