import Mathlib.Data.List.TakeWhile
import TurboP2P.Gateway.Document
import TurboP2P.Object.Resolver

open turbop2p.m3_namespace_local_store
open Text
open Paging

namespace turbop2p.m3_gateway

theorem max_object_key_bytes_ne_zero : (1024 : UInt64) ≠ 0 := by decide

/-- The limits that `m3_gateway_init_v1` gives to its namespace. -/
def gateway_config (capacity : UInt64) (capacity_pos : capacity ≠ 0) : Config :=
  { capacity, max_bucket_bytes := 128, max_object_key_bytes := 1024, max_manifest_bytes := 65536
    max_object_bytes := MAX_OBJECT_BYTES, max_chunks := 4096, capacity_pos, max_bucket_bytes_pos := by decide
    max_object_key_bytes_pos := max_object_key_bytes_ne_zero, max_manifest_bytes_pos := by decide
    max_object_bytes_pos := by decide, max_chunks_pos := by decide }

/-- The limits that `m3_raft_node_create` gives to the namespace of a node. -/
def node_config : Config :=
  { gateway_config 64 (by decide) with max_object_bytes := 1024 * 1024 * 1024, max_object_bytes_pos := by decide }

/-- The namespace of a gateway on its own or that of its raft node. -/
inductive MetadataConfig : Config → Prop
  | gateway (capacity : UInt64) (capacity_pos : capacity ≠ 0) : MetadataConfig (gateway_config capacity capacity_pos)
  | node : MetadataConfig node_config

/-- The objects that a listing enumerates, in the order of their slots. -/
def enumeration (store : Store) (bucket prefix_bytes : List UInt8) : List Listed :=
  (store.entries.live.filter (·.list_matches TENANT_ID (some bucket) (some prefix_bytes))).map (·.listed)

/-- The buckets of the objects of the gateway, in the order of their slots. -/
def bucket_names (store : Store) : List (List UInt8) :=
  (store.entries.live.filter (·.list_matches TENANT_ID none none)).map (·.bucket)

/-- A request that the list handler does not refuse, whatever its marker. -/
structure Accepted (verify : Verifier) (strtoull : CString → Option UInt64) (gateway : Gateway) (request : Request)
    (bucket prefix_bytes : List UInt8) (max_keys : Nat) : Prop where
  serving : gateway.serving = true
  authorised : gateway_require_auth verify request = none
  named : request.bucket.map (·.val) = some bucket
  short : bucket.length ≤ MAX_BUCKET_BYTES
  start : query_value request.prefix_raw = some prefix_bytes
  counted : query_max_keys strtoull request.max_keys_raw = some max_keys

section requests

variable {verify : Verifier} {strtoull : CString → Option UInt64} {gateway : Gateway} {request : Request}
  {bucket prefix_bytes : List UInt8} {max_keys : Nat}

variable {raw : Option CString} {bytes : List UInt8}

theorem length_query_value {value : List UInt8} (hvalue : query_value raw = some value) :
    value.length ≤ MAX_OBJECT_KEY_BYTES := by
  cases raw with
  | none => cases hvalue; simp
  | some raw =>
    obtain ⟨buffer, hbuffer, rfl⟩ := Option.map_eq_some_iff.mp hvalue
    exact Nat.le_trans (List.takeWhile_sublist _).length_le (length_query_percent_decode hbuffer)

theorem query_max_keys_bounds (hcount : query_max_keys strtoull raw = some max_keys) :
    0 < max_keys ∧ max_keys ≤ LIST_MAX_KEYS := by
  unfold query_max_keys at hcount
  cases raw with
  | none => cases hcount; decide
  | some raw =>
    cases hparsed : strtoull raw with
    | none => simp [hparsed] at hcount
    | some parsed =>
      simp only [hparsed] at hcount
      obtain ⟨hzero, hcount⟩ := guard_passed hcount
      have hpos : parsed.toNat ≠ 0 := fun h => hzero (UInt64.toNat_inj.mp h)
      split_ifs at hcount with hlarge
      · cases hcount; decide
      · cases hcount; omega

theorem c_string_eq (hzero : 0 ∉ bytes) : c_string bytes = bytes := by
  refine List.takeWhile_eq_self_iff.mpr fun byte hbyte => ?_
  have hne : byte ≠ 0 := fun h => hzero (h ▸ hbyte)
  simpa using hne

/-- A marker that a client sends back is read as it was written. -/
theorem query_value_percent_encode (keep : UInt8 → Bool) (hvalid : key_is_valid bytes MAX_OBJECT_KEY_BYTES = true) :
    query_value (some ⟨percent_encode keep bytes, zero_not_mem_percent_encode keep bytes⟩) = some bytes := by
  obtain ⟨_, hlength, hzero⟩ := key_is_valid_iff.mp hvalid
  simp [query_value, query_percent_decode_encode keep hlength, c_string_eq hzero]

theorem list_store_eq_some {store : Store} {bucket prefix_bytes : Option (List UInt8)} {items : List Listed} :
    list_store store bucket prefix_bytes = some items ↔ list_v1 store TENANT_ID bucket prefix_bytes = (.OK, items) := by
  unfold list_store
  split
  · rename_i listed hlist
    simp [hlist]
  · rename_i hlist
    exact ⟨nofun, fun h => absurd h (hlist items)⟩

/-- Objects are listed if the gateway answers and its store does. -/
theorem gateway_meta_list_eq_some {bucket prefix_bytes : Option (List UInt8)} {items : List Listed} :
    (gateway_meta_list gateway bucket prefix_bytes).1 = some items ↔
      (gateway.node.all fun node => node.leading = some true) = true ∧
        list_v1 gateway.metadata TENANT_ID bucket prefix_bytes = (.OK, items) := by
  rw [← list_store_eq_some]
  unfold gateway_meta_list Gateway.metadata
  cases gateway.node with
  | none => simp
  | some node => by_cases hleading : node.leading = some true <;> simp [hleading]

@[simp] theorem send_s3_error_status (status : Nat) (code message : String) :
    (send_s3_error status code message).status = status := by
  unfold send_s3_error
  dsimp only
  split <;> rfl

theorem list_failed_status (gateway : Gateway) : (list_failed gateway).status ≠ 200 := by
  unfold list_failed send_gateway_not_leader
  split <;> simp

/-- A request without a bucket is refused, and so is one that is not signed. -/
theorem gateway_require_auth_status {refusal : Reply} (hrefused : gateway_require_auth verify request = some refusal) :
    refusal.status ≠ 200 := by
  unfold gateway_require_auth at hrefused
  split at hrefused
  · split at hrefused
    · cases hrefused; simp
    · dsimp only at hrefused
      repeat' split at hrefused
      all_goals cases hrefused
      all_goals simp
  · cases hrefused; simp

theorem gateway_require_auth_bucket (hauth : gateway_require_auth verify request = none) :
    ∃ bucket, request.bucket = some bucket ∧ bucket.val ≠ [] := by
  unfold gateway_require_auth at hauth
  split at hauth
  · split at hauth
    · cases hauth
    · rename_i bucket hbucket
      obtain ⟨hne, _⟩ := guard_passed hauth
      exact ⟨bucket, hbucket, hne⟩
  · cases hauth

end requests

section namespaces

variable {sha256 : List UInt8 → Bytes 32} {config : Config} {store : Store} {bucket prefix_bytes : List UInt8}

/-- An object of the gateway exists. -/
def Live (sha256 : List UInt8 → Bytes 32) (store : Store) (bucket object_key : List UInt8) : Prop :=
  ∃ manifest, object sha256 store ⟨TENANT_ID, bucket, object_key⟩ = some manifest

theorem MetadataConfig.limits (hconfig : MetadataConfig config) :
    config.max_bucket_bytes.toNat = MAX_BUCKET_BYTES ∧ config.max_object_key_bytes.toNat = MAX_OBJECT_KEY_BYTES ∧
      config.max_object_bytes ≤ MAX_OBJECT_BYTES ∧ config.max_chunks.toNat = MAX_CHUNKS := by
  cases hconfig with
  | gateway capacity capacity_pos => exact ⟨rfl, rfl, UInt64.le_refl _, rfl⟩
  | node => exact ⟨rfl, rfl, by decide, rfl⟩

/-- The gateway decodes whatever its namespace has accepted. -/
theorem MetadataConfig.decode (hconfig : MetadataConfig config) {bytes : List UInt8}
    {manifest : m3_object_manifest.ManifestV2} (hdecode : decode_manifest sha256 config.fresh bytes = .ok manifest) :
    gateway_decode sha256 bytes = .ok manifest := by
  obtain ⟨_, _, hobject, hchunks⟩ := hconfig.limits
  have hplacements : max_placements config.fresh = MAX_CHUNKS * DATAPANE_MAX_STORES := by
    simp only [max_placements, Config.fresh, hchunks]
    decide
  simp only [decode_manifest, hplacements] at hdecode
  simp only [Config.fresh, hchunks] at hdecode
  exact m3_object_manifest.decode_v2_mono hobject hdecode

theorem list_matches_iff (entry : Entry) :
    entry.list_matches TENANT_ID (some bucket) (some prefix_bytes) = true ↔
      entry.tombstoned = false ∧ entry.key = ⟨TENANT_ID, bucket, entry.object_key⟩ ∧
        prefix_bytes <+: entry.object_key := by
  simp [Entry.list_matches, Entry.key, and_assoc]

variable {listed : Listed} {key : List UInt8}

theorem mem_enumeration_iff :
    listed ∈ enumeration store bucket prefix_bytes ↔ ∃ slot entry, store.entries.Holds slot entry ∧
      entry.tombstoned = false ∧ entry.key = ⟨TENANT_ID, bucket, entry.object_key⟩ ∧
        prefix_bytes <+: entry.object_key ∧ entry.listed = listed := by
  simp only [enumeration, List.mem_map, List.mem_filter, SlotTable.mem_live_iff, list_matches_iff]
  constructor
  · rintro ⟨entry, ⟨⟨slot, hholds⟩, hlive, hkey, hfront⟩, rfl⟩
    exact ⟨slot, entry, hholds, hlive, hkey, hfront, rfl⟩
  · rintro ⟨slot, entry, hholds, hlive, hkey, hfront, rfl⟩
    exact ⟨entry, ⟨⟨slot, hholds⟩, hlive, hkey, hfront⟩, rfl⟩

theorem nodup_enumeration (hwell : WellFormed sha256 config store) :
    ((enumeration store bucket prefix_bytes).map (·.object_key)).Nodup := by
  have hdistinct := (SlotTable.distinct_iff_pairwise.mp hwell.distinct).filter
    (·.list_matches TENANT_ID (some bucket) (some prefix_bytes))
  rw [enumeration, List.map_map, List.Nodup, List.pairwise_map]
  refine hdistinct.imp_of_mem fun {a b} ha hb hne heq => hne ?_
  have ha := (list_matches_iff a).mp (List.mem_filter.mp ha).2
  have hb := (list_matches_iff b).mp (List.mem_filter.mp hb).2
  rw [ha.2.1, hb.2.1]
  exact congrArg (Key.mk TENANT_ID bucket) heq

theorem live_of_holds (hwell : WellFormed sha256 config store) {slot : Nat} {entry : Entry}
    (hholds : store.entries.Holds slot entry) (hlive : entry.tombstoned = false) (htenant : entry.tenant_id = TENANT_ID) :
    Live sha256 store entry.bucket entry.object_key := by
  obtain ⟨manifest, hdecode⟩ := (hwell.valid slot entry hholds).decodes hlive
  have hfind := hwell.find_entry_key hholds
  rw [Entry.key, htenant] at hfind
  exact ⟨manifest, object_eq_some hfind hlive ((hwell.limits.decode_manifest_eq _).trans hdecode)⟩

theorem holds_of_live (hlive : Live sha256 store bucket key) :
    ∃ slot entry, store.entries.Holds slot entry ∧ entry.tombstoned = false ∧ entry.key = ⟨TENANT_ID, bucket, key⟩ := by
  obtain ⟨manifest, hobject⟩ := hlive
  unfold object at hobject
  cases hfind : find_entry store ⟨TENANT_ID, bucket, key⟩ with
  | none => simp [hfind] at hobject
  | some found =>
    obtain ⟨hholds, hkey⟩ := find_entry_eq_some hfind
    simp only [hfind] at hobject
    obtain ⟨hlive, _⟩ := guard_passed hobject
    exact ⟨found.1, found.2, hholds, by simpa using hlive, hkey⟩

variable (hwell : WellFormed sha256 config store)

include hwell

theorem mem_enumeration :
    key ∈ (enumeration store bucket prefix_bytes).map (·.object_key) ↔
      Live sha256 store bucket key ∧ prefix_bytes <+: key := by
  rw [List.mem_map]
  constructor
  · rintro ⟨listed, hlisted, rfl⟩
    obtain ⟨slot, entry, hholds, hlive, hkey, hfront, rfl⟩ := mem_enumeration_iff.mp hlisted
    obtain rfl : entry.bucket = bucket := congrArg Key.bucket hkey
    exact ⟨live_of_holds hwell hholds hlive (congrArg Key.tenant_id hkey), hfront⟩
  · rintro ⟨hobject, hfront⟩
    obtain ⟨slot, entry, hholds, hlive, hkey⟩ := holds_of_live hobject
    obtain rfl : entry.object_key = key := congrArg Key.object_key hkey
    exact ⟨entry.listed, mem_enumeration_iff.mpr ⟨slot, entry, hholds, hlive, hkey, hfront, rfl⟩, rfl⟩

theorem mem_bucket_names {name : List UInt8} : name ∈ bucket_names store ↔ ∃ key, Live sha256 store name key := by
  simp only [bucket_names, List.mem_map, List.mem_filter, SlotTable.mem_live_iff]
  constructor
  · rintro ⟨entry, ⟨⟨slot, hholds⟩, hmatches⟩, rfl⟩
    obtain ⟨hlive, htenant⟩ : entry.tombstoned = false ∧ entry.tenant_id = TENANT_ID := by
      simpa [Entry.list_matches] using hmatches
    exact ⟨entry.object_key, live_of_holds hwell hholds hlive htenant⟩
  · rintro ⟨key, hobject⟩
    obtain ⟨slot, entry, hholds, hlive, hkey⟩ := holds_of_live hobject
    have htenant : entry.tenant_id = TENANT_ID := congrArg Key.tenant_id hkey
    refine ⟨entry, ⟨⟨slot, hholds⟩, ?_⟩, congrArg Key.bucket hkey⟩
    simp [Entry.list_matches, hlive, htenant]

theorem listable_enumeration (hconfig : MetadataConfig config)
    (hlisted : listed ∈ enumeration store bucket prefix_bytes) :
    Listable sha256 listed ∧ key_is_valid listed.object_key MAX_OBJECT_KEY_BYTES = true := by
  obtain ⟨slot, entry, hholds, hlive, _, _, rfl⟩ := mem_enumeration_iff.mp hlisted
  have hvalid := hwell.valid slot entry hholds
  obtain ⟨manifest, hdecode⟩ := hvalid.decodes hlive
  have hkey := (name_is_valid_iff.mp hvalid.name).2.2
  rw [show config.fresh.max_object_key_bytes = MAX_OBJECT_KEY_BYTES from hconfig.limits.2.1] at hkey
  exact ⟨⟨⟨manifest, hconfig.decode hdecode⟩, (key_is_valid_iff.mp hkey).2.1⟩, hkey⟩

end namespaces

section replies

variable {sha256 : List UInt8 → Bytes 32} {verify : Verifier} {strtoull : CString → Option UInt64} {gateway : Gateway}
  {request : Request} {bucket prefix_bytes marker : List UInt8} {max_keys : Nat} {items : List Listed}

/-- The context with which the enumeration starts. -/
def first_ctx (bucket prefix_bytes marker : List UInt8) (max_keys : Nat) : ListCtx :=
  { ListCtx.init (start_after marker) max_keys with
    xml := Text.render (header_elements bucket prefix_bytes marker max_keys) }

def page_rows (marker : List UInt8) (max_keys : Nat) (items : List Listed) : List Listed :=
  (Paging.behind (·.object_key) (start_after marker) items).take max_keys

/-- The marker that a page ends with, if there are more objects. -/
def page_marker (marker : List UInt8) (max_keys : Nat) (items : List Listed) : Option (List UInt8) :=
  if max_keys < (Paging.behind (·.object_key) (start_after marker) items).length then
    (page_rows marker max_keys items).getLast?.map (·.object_key)
  else none

theorem mem_of_page_marker {next : List UInt8} (hnext : page_marker marker max_keys items = some next) :
    ∃ item ∈ items, item.object_key = next := by
  unfold page_marker at hnext
  obtain ⟨_, hnext⟩ : max_keys < _ ∧ _ := by simpa using hnext
  obtain ⟨last, hlast, rfl⟩ := hnext
  exact ⟨last, List.mem_of_mem_filter (List.mem_of_mem_take (List.mem_of_getLast? hlast)), rfl⟩

variable {ctx : ListCtx}

theorem footer_marker (hcount : 0 < max_keys) (hitems : ∀ item ∈ items, 0 ∉ item.object_key)
    (hctx : ctx = (first_ctx bucket prefix_bytes marker max_keys).with_rows sha256
      (behind (·.object_key) (start_after marker) items)) :
    (if ctx.truncated then some (c_string ctx.next_marker) else none) = page_marker marker max_keys items := by
  have htruncated : ctx.truncated =
      decide (max_keys < (behind (·.object_key) (start_after marker) items).length) := by rw [hctx]; rfl
  have hnext : ctx.next_marker = ((page_rows marker max_keys items).getLast?.map (·.object_key)).getD [] := by
    rw [hctx]; rfl
  rw [htruncated, hnext]
  by_cases hmore : max_keys < (behind (·.object_key) (start_after marker) items).length
  · have hne : page_rows marker max_keys items ≠ [] := by
      rw [page_rows, ne_eq, List.take_eq_nil_iff, not_or]
      exact ⟨Nat.ne_of_gt hcount, List.ne_nil_of_length_pos (Nat.lt_of_le_of_lt (Nat.zero_le _) hmore)⟩
    have hlast := List.getLast?_eq_some_getLast hne
    have hpage : page_marker marker max_keys items = some ((page_rows marker max_keys items).getLast hne).object_key := by
      rw [page_marker, if_pos hmore, hlast, Option.map_some]
    obtain ⟨item, hitem, hkey⟩ := mem_of_page_marker hpage
    rw [hpage, hlast, Option.map_some, Option.getD_some, c_string_eq (hkey ▸ hitems item hitem)]
    simp [hmore]
  · simp [page_marker, hmore]

/-- The document fits, so that nothing is lost. -/
theorem list_document (hbucket : bucket.length ≤ MAX_BUCKET_BYTES)
    (hfront : prefix_bytes.length ≤ MAX_OBJECT_KEY_BYTES) (hmarker : marker.length ≤ MAX_OBJECT_KEY_BYTES)
    (hcount : 0 < max_keys ∧ max_keys ≤ LIST_MAX_KEYS)
    (hitems : ∀ item ∈ items, Listable sha256 item ∧ 0 ∉ item.object_key)
    (hctx : ctx = items.foldl (list_objects_cb sha256)
      (list_header (ListCtx.init (start_after marker) max_keys) bucket prefix_bytes marker max_keys)) :
    ctx.failed = false ∧ (list_footer ctx).failed = false ∧ (list_footer ctx).xml = render
      (page_elements bucket prefix_bytes marker max_keys (page_marker marker max_keys items) sha256
        (page_rows marker max_keys items)) := by
  have hheader := length_header_le hbucket hfront hmarker hcount.2
  have hlimit : LIST_MAX_XML_BYTES = 8388608 := rfl
  have hkeys : max_keys ≤ 1000 := hcount.2
  have hstart : list_header (ListCtx.init (start_after marker) max_keys) bucket prefix_bytes marker max_keys =
      first_ctx bucket prefix_bytes marker max_keys :=
    header_appends (ListCtx.init (start_after marker) max_keys) bucket prefix_bytes marker max_keys (by
      simp only [ListCtx.init, List.length_nil]
      omega)
  have hfresh : (first_ctx bucket prefix_bytes marker max_keys).with_rows sha256 [] =
      first_ctx bucket prefix_bytes marker max_keys := by
    simp [ListCtx.with_rows, first_ctx, ListCtx.init, render]
  have hstarts : ∀ key ∈ (first_ctx bucket prefix_bytes marker max_keys).marker, key ≠ [] := by
    intro key hkey
    by_cases hempty : marker = []
    · simp [first_ctx, ListCtx.init, start_after, hempty] at hkey
    · obtain rfl : marker = key := by simpa [first_ctx, ListCtx.init, start_after, hempty] using hkey
      exact hempty
  have hfits : (first_ctx bucket prefix_bytes marker max_keys).xml.length + ROW_BYTES * max_keys ≤ 6355000 := by
    have hmul : ROW_BYTES * max_keys ≤ 6341 * 1000 := Nat.mul_le_mul_left 6341 hkeys
    have hxml : (first_ctx bucket prefix_bytes marker max_keys).xml.length ≤ 14000 := hheader
    omega
  have hrows := foldl_list_objects_cb rfl hfresh hstarts (fun item hitem => (hitems item hitem).1)
    (Nat.le_trans hfits (by decide))
  rw [hstart, hrows] at hctx
  have hpage : (render ((page_rows marker max_keys items).flatMap (row_elements sha256))).length ≤
      ROW_BYTES * max_keys := by
    refine Nat.le_trans (length_rows_le fun row hrow => ?_) (Nat.mul_le_mul_left _ (List.length_take_le _ _))
    exact (hitems row (List.mem_of_mem_filter (List.mem_of_mem_take hrow))).1
  have hxml : ctx.xml = render (header_elements bucket prefix_bytes marker max_keys) ++
      render ((page_rows marker max_keys items).flatMap (row_elements sha256)) := by
    rw [hctx]
    rfl
  have hmarkers : ∀ key ∈ page_marker marker max_keys items, key.length ≤ MAX_OBJECT_KEY_BYTES := by
    intro key hkey
    obtain ⟨item, hitem, rfl⟩ := mem_of_page_marker hkey
    exact (hitems item hitem).1.2
  have hfooter := footer_appends ctx
  rw [footer_marker hcount.1 (fun item hitem => (hitems item hitem).2) hctx] at hfooter
  have hdocument := hfooter (by
    have hend := length_footer_le hmarkers
    rw [hxml, List.length_append]
    omega)
  have hfailed : ctx.failed = false := by
    rw [hctx]
    rfl
  refine ⟨hfailed, ?_, ?_⟩
  · rw [hdocument]
    exact hfailed
  · rw [hdocument, page_elements, render_append, render_append, hxml]

variable {config : Config}

/-- The list handler answers an accepted request with a page of the
enumeration. -/
theorem handle_list_objects_accepted (hconfig : MetadataConfig config)
    (hwell : WellFormed sha256 config gateway.metadata)
    (haccepted : Accepted verify strtoull gateway request bucket prefix_bytes max_keys)
    (hmarker : query_value request.marker_raw = some marker) :
    (handle_list_objects sha256 verify strtoull gateway request).1 = reply 200 (render
      (page_elements bucket prefix_bytes marker max_keys
        (page_marker marker max_keys (enumeration gateway.metadata bucket prefix_bytes)) sha256
        (page_rows marker max_keys (enumeration gateway.metadata bucket prefix_bytes)))) := by
  obtain ⟨hserving, hauth, hnamed, hshort, hstart, hcounted⟩ := haccepted
  obtain ⟨name, hname, rfl⟩ := Option.map_eq_some_iff.mp hnamed
  obtain ⟨hinitialized, hleading⟩ : gateway.initialized = true ∧ _ := by simpa [Gateway.serving] using hserving
  have hfront := length_query_value hstart
  have hvalid : key_is_valid name.val MAX_BUCKET_BYTES = true := by
    obtain ⟨other, hother, hne⟩ := gateway_require_auth_bucket hauth
    obtain rfl : name = other := Option.some.inj (hname.symm.trans hother)
    exact key_is_valid_iff.mpr ⟨List.length_pos_iff.mpr hne, hshort, name.property⟩
  have hlist : list_v1 gateway.metadata TENANT_ID (some name.val) (some prefix_bytes) =
      (.OK, enumeration gateway.metadata name.val prefix_bytes) := by
    refine list_v1_eq_ok.mpr ⟨⟨hwell.limits.is_open, by decide +kernel⟩, ?_, ?_, rfl⟩
    · rintro _ ⟨⟩
      rwa [hwell.limits.max_bucket_bytes, hconfig.limits.1]
    · rintro _ ⟨⟩
      rwa [hwell.limits.max_object_key_bytes, hconfig.limits.2.1]
  have hmeta := gateway_meta_list_eq_some.mpr ⟨hleading, hlist⟩
  have hitems : ∀ item ∈ enumeration gateway.metadata name.val prefix_bytes,
      Listable sha256 item ∧ 0 ∉ item.object_key := by
    intro item hitem
    obtain ⟨hlistable, hkey⟩ := listable_enumeration hwell hconfig hitem
    exact ⟨hlistable, (key_is_valid_iff.mp hkey).2.2⟩
  obtain ⟨hfailed, hfooter, hxml⟩ := list_document hshort hfront (length_query_value hmarker)
    (query_max_keys_bounds hcounted) hitems rfl
  unfold handle_list_objects
  rw [if_neg (by simp [hinitialized])]
  simp only [hauth, hname, hstart, hmarker, hcounted]
  cases hpair : gateway_meta_list gateway (some name.val) (some prefix_bytes) with
  | mk result after =>
    obtain rfl : result = some (enumeration gateway.metadata name.val prefix_bytes) := by simpa [hpair] using hmeta
    simp only [hfailed, hfooter, hxml]
    rfl

/-- Only accepted requests are answered with a page. -/
theorem accepted_of_status (hconfig : MetadataConfig config) (hlimits : HasLimits config gateway.metadata)
    (hstatus : (handle_list_objects sha256 verify strtoull gateway request).1.status = 200) :
    ∃ bucket prefix_bytes max_keys, Accepted verify strtoull gateway request bucket prefix_bytes max_keys := by
  unfold handle_list_objects at hstatus
  by_cases hinitialized : gateway.initialized = false
  · simp [hinitialized] at hstatus
  rw [if_neg hinitialized] at hstatus
  cases hauth : gateway_require_auth verify request with
  | some refusal =>
    simp only [hauth] at hstatus
    exact absurd hstatus (gateway_require_auth_status hauth)
  | none =>
    obtain ⟨name, hname, _⟩ := gateway_require_auth_bucket hauth
    simp only [hauth, hname] at hstatus
    cases hstart : query_value request.prefix_raw with
    | none => simp [hstart] at hstatus
    | some prefix_bytes =>
      simp only [hstart] at hstatus
      cases hmarker : query_value request.marker_raw with
      | none => simp [hmarker] at hstatus
      | some marker =>
        simp only [hmarker] at hstatus
        cases hcounted : query_max_keys strtoull request.max_keys_raw with
        | none => simp [hcounted] at hstatus
        | some max_keys =>
          simp only [hcounted] at hstatus
          cases hpair : gateway_meta_list gateway (some name.val) (some prefix_bytes) with
          | mk result after =>
            cases result with
            | none =>
              simp only [hpair] at hstatus
              exact absurd hstatus (list_failed_status after)
            | some items =>
              obtain ⟨hleading, hlist⟩ := gateway_meta_list_eq_some.mp (congrArg Prod.fst hpair)
              have hvalid := (list_v1_eq_ok.mp hlist).2.1 name.val rfl
              rw [hlimits.max_bucket_bytes, hconfig.limits.1] at hvalid
              refine ⟨name.val, prefix_bytes, max_keys, ⟨?_, hauth, by rw [hname]; rfl, ?_, hstart, hcounted⟩⟩
              · simpa [Gateway.serving, hinitialized] using hleading
              · exact (key_is_valid_iff.mp hvalid).2.1

/-- A request for the page behind a marker that the client has read before;
`keep` says which bytes of the marker it does not escape. -/
def Request.behind (keep : UInt8 → Bool) (request : Request) (marker : Option (List UInt8)) : Request :=
  { request with
    marker_raw := marker.map fun bytes => ⟨percent_encode keep bytes, zero_not_mem_percent_encode keep bytes⟩ }

/-- A page as a client gets it. -/
def list_page (sha256 : List UInt8 → Bytes 32) (verify : Verifier) (strtoull : CString → Option UInt64)
    (keep : UInt8 → Bool) (gateway : Gateway) (request : Request) (marker : Option (List UInt8)) :
    Option (List (List UInt8) × Option (List UInt8)) :=
  let reply := (handle_list_objects sha256 verify strtoull gateway (request.behind keep marker)).1
  if reply.status = 200 then some (read_page reply.body) else none

theorem Accepted.behind_iff {keep : UInt8 → Bool} {marker : Option (List UInt8)} :
    Accepted verify strtoull gateway (request.behind keep marker) bucket prefix_bytes max_keys ↔
      Accepted verify strtoull gateway request bucket prefix_bytes max_keys :=
  ⟨fun ⟨h1, h2, h3, h4, h5, h6⟩ => ⟨h1, h2, h3, h4, h5, h6⟩, fun ⟨h1, h2, h3, h4, h5, h6⟩ => ⟨h1, h2, h3, h4, h5, h6⟩⟩

section pages

variable (keep : UInt8 → Bool) (hconfig : MetadataConfig config) (hwell : WellFormed sha256 config gateway.metadata)
  (haccepted : Accepted verify strtoull gateway request bucket prefix_bytes max_keys)

include hconfig hwell haccepted

/-- The pages of the handler are pages of the keys in the order of their
slots. -/
theorem list_page_accepted (marker : Option (List UInt8))
    (hmarker : ∀ key ∈ marker, key_is_valid key MAX_OBJECT_KEY_BYTES = true) :
    list_page sha256 verify strtoull keep gateway request marker = some (page id max_keys
      ((enumeration gateway.metadata bucket prefix_bytes).map (·.object_key)) marker) := by
  have hvalue : query_value (request.behind keep marker).marker_raw = some (marker.getD []) := by
    cases marker with
    | none => rfl
    | some key => exact query_value_percent_encode keep (hmarker key rfl)
  have hstart : start_after (marker.getD []) = marker := by
    cases marker with
    | none => rfl
    | some key =>
      have hne : key ≠ [] := List.length_pos_iff.mp (key_is_valid_iff.mp (hmarker key rfl)).1
      simp [start_after, hne]
  have hreply := handle_list_objects_accepted hconfig hwell (Accepted.behind_iff.mpr haccepted) hvalue
  have hrows : ∀ row ∈ page_rows (marker.getD []) max_keys (enumeration gateway.metadata bucket prefix_bytes),
      Listable sha256 row := fun row hrow =>
    (listable_enumeration hwell hconfig (List.mem_of_mem_filter (List.mem_of_mem_take hrow))).1
  simp only [list_page, hreply, reply, if_true]
  rw [read_page_render _ _ _ _ _ hrows]
  simp only [page, behind_map, page_rows, page_marker, hstart, ← List.map_take, List.length_map,
    List.getLast?_map, Option.map_map]
  rfl

/-- A client's listing is a listing of the keys in the order of their slots. -/
theorem listing_iff {listed : List (List UInt8)} :
    Paging.Listing (list_page sha256 verify strtoull keep gateway request) none listed ↔
      Paging.Listing (fun marker => some (page id max_keys
        ((enumeration gateway.metadata bucket prefix_bytes).map (·.object_key)) marker)) none listed := by
  have hpage := list_page_accepted keep hconfig hwell haccepted
  have hnext : ∀ (marker : Option (List UInt8)) (rows : List (List UInt8)) (next : List UInt8),
      some (page id max_keys ((enumeration gateway.metadata bucket prefix_bytes).map (·.object_key)) marker) =
        some (rows, some next) → ∀ key ∈ some next, key_is_valid key MAX_OBJECT_KEY_BYTES = true := by
    rintro marker rows next hnext key ⟨⟩
    obtain ⟨_, last, hlast, rfl⟩ := page_next (congrArg Prod.snd (Option.some.inj hnext))
    obtain ⟨item, hitem, rfl⟩ := List.mem_map.mp (List.mem_of_mem_filter (mem_of_getLast? hlast))
    exact (listable_enumeration hwell hconfig hitem).2
  constructor
  · refine Paging.Listing.transfer (fun marker hmarker => (hpage marker hmarker).symm) ?_ (by simp)
    exact fun marker rows next hmarker hfetch => hnext marker rows next ((hpage marker hmarker).symm.trans hfetch)
  · exact Paging.Listing.transfer hpage (fun marker rows next _ => hnext marker rows next) (by simp)

end pages

/-- The context with which the enumeration of all objects starts. -/
def buckets_ctx : ListCtx := { ListCtx.init none 0 with xml := Text.render buckets_header }

theorem handle_list_buckets_ok (hwell : WellFormed sha256 config gateway.metadata) (hserving : gateway.serving = true)
    (hauth : gateway_require_auth verify request = none)
    (hfits : (render (buckets_elements (bucket_names gateway.metadata))).length ≤ LIST_MAX_XML_BYTES) :
    (handle_list_buckets verify gateway request).1 =
      reply 200 (render (buckets_elements (bucket_names gateway.metadata))) := by
  obtain ⟨hinitialized, hleading⟩ : gateway.initialized = true ∧ _ := by
    simpa [Gateway.serving] using hserving
  let items := (gateway.metadata.entries.live.filter (·.list_matches TENANT_ID none none)).map (·.listed)
  have hlist : list_v1 gateway.metadata TENANT_ID none none = (.OK, items) :=
    list_v1_eq_ok.mpr ⟨⟨hwell.limits.is_open, by decide +kernel⟩, nofun, nofun, rfl⟩
  have hmeta := gateway_meta_list_eq_some.mpr ⟨hleading, hlist⟩
  have hnames : items.map (·.bucket) = bucket_names gateway.metadata := by
    simp [items, bucket_names, Entry.listed]
  have hitems : ∀ item ∈ items, item.bucket ≠ [] := by
    intro item hitem
    obtain ⟨entry, hentry, rfl⟩ := List.mem_map.mp hitem
    obtain ⟨slot, hholds⟩ := SlotTable.mem_live_iff.mp (List.mem_filter.mp hentry).1
    have hvalid := (name_is_valid_iff.mp (hwell.valid slot entry hholds).name).2.1
    exact List.length_pos_iff.mp (key_is_valid_iff.mp hvalid).1
  rw [buckets_elements, render_append, render_append, List.length_append, List.length_append] at hfits
  have hheader : list_buckets_header (ListCtx.init none 0) = buckets_ctx :=
    buckets_header_appends (ListCtx.init none 0) (by decide +kernel)
  have hfold : items.foldl list_buckets_cb buckets_ctx = { buckets_ctx with
      xml := buckets_ctx.xml ++ render ((bucket_names gateway.metadata).flatMap bucket_elements) } := by
    rw [← hnames] at hfits ⊢
    exact foldl_list_buckets_cb rfl hitems (Nat.le_trans (Nat.le_add_right _ _) hfits)
  have hfooter : ascii "</Buckets></ListAllMyBucketsResult>" =
      render [element "/Buckets" [], element "/ListAllMyBucketsResult" []] := by decide +kernel
  have hdocument := Appends.append (items.foldl list_buckets_cb buckets_ctx) (ascii "</Buckets></ListAllMyBucketsResult>")
    (by rw [hfold, hfooter, List.length_append]; exact hfits)
  unfold handle_list_buckets
  rw [if_neg (by simp [hinitialized])]
  simp only [hauth, hheader]
  cases hpair : gateway_meta_list gateway none none with
  | mk result after =>
    obtain rfl : result = some items := by simpa [hpair] using hmeta
    simp only [hdocument]
    simp only [hfold, hfooter, buckets_elements, render_append]
    rfl

theorem handle_list_buckets_status (hstatus : (handle_list_buckets verify gateway request).1.status = 200) :
    gateway.serving = true ∧ gateway_require_auth verify request = none := by
  unfold handle_list_buckets at hstatus
  by_cases hinitialized : gateway.initialized = false
  · simp [hinitialized] at hstatus
  rw [if_neg hinitialized] at hstatus
  cases hauth : gateway_require_auth verify request with
  | some refusal =>
    simp only [hauth] at hstatus
    exact absurd hstatus (gateway_require_auth_status hauth)
  | none =>
    simp only [hauth] at hstatus
    cases hpair : gateway_meta_list gateway none none with
    | mk result after =>
      cases result with
      | none =>
        simp only [hpair] at hstatus
        exact absurd hstatus (list_failed_status after)
      | some items =>
        obtain ⟨hleading, _⟩ := gateway_meta_list_eq_some.mp (congrArg Prod.fst hpair)
        exact ⟨by simpa [Gateway.serving, hinitialized] using hleading, rfl⟩

end replies

section outcome

/-- A listing names every live object of the bucket with the prefix once, and
nothing else. -/
def EachObjectOnce (sha256 : List UInt8 → Bytes 32) (store : Store) (bucket prefix_bytes : List UInt8)
    (listed : List (List UInt8)) : Prop :=
  listed.Nodup ∧ ∀ key, key ∈ listed ↔ Live sha256 store bucket key ∧ prefix_bytes <+: key

/-- A list names every bucket with a live object once, and nothing else. -/
def EachBucketOnce (sha256 : List UInt8 → Bytes 32) (store : Store) (names : List (List UInt8)) : Prop :=
  names.Nodup ∧ ∀ name, name ∈ names ↔ ∃ key, Live sha256 store name key

theorem eachObjectOnce_iff {sha256 : List UInt8 → Bytes 32} {config : Config} {store : Store}
    (hwell : WellFormed sha256 config store) {bucket prefix_bytes : List UInt8} {listed : List (List UInt8)} :
    EachObjectOnce sha256 store bucket prefix_bytes listed ↔
      listed.Perm ((enumeration store bucket prefix_bytes).map (·.object_key)) := by
  have hnodup : ((enumeration store bucket prefix_bytes).map (·.object_key)).Nodup := nodup_enumeration hwell
  constructor
  · rintro ⟨hlisted, hmem⟩
    exact (List.perm_ext_iff_of_nodup hlisted hnodup).mpr fun key => (hmem key).trans (mem_enumeration hwell).symm
  · intro hperm
    exact ⟨hperm.nodup_iff.mpr hnodup, fun key => hperm.mem_iff.trans (mem_enumeration hwell)⟩

/-- Following the markers ends. It lists every object once exactly if, wherever a
page ends, the last key is the largest so far and smaller than all keys to
come; only accepted requests are listed at all. The list of buckets names
every bucket once exactly if no two live objects share a bucket, and only if
the request names a bucket itself. -/
theorem listing_complete_iff (sha256 : List UInt8 → Bytes 32) (verify : Verifier) (strtoull : CString → Option UInt64)
    (keep : UInt8 → Bool) {config : Config} (hconfig : MetadataConfig config) (operations : List Operation)
    {gateway : Gateway} (hreached : gateway.metadata = reached sha256 config operations) (request : Request) :
    (∀ bucket prefix_bytes max_keys, Accepted verify strtoull gateway request bucket prefix_bytes max_keys →
      (∃ listed, Paging.Listing (list_page sha256 verify strtoull keep gateway request) none listed) ∧
        ∀ listed, Paging.Listing (list_page sha256 verify strtoull keep gateway request) none listed →
          (EachObjectOnce sha256 gateway.metadata bucket prefix_bytes listed ↔
            Paging.BordersOrdered id max_keys
              ((enumeration gateway.metadata bucket prefix_bytes).map (·.object_key)))) ∧
      ((∃ marker, list_page sha256 verify strtoull keep gateway request marker ≠ none) →
        ∃ bucket prefix_bytes max_keys, Accepted verify strtoull gateway request bucket prefix_bytes max_keys) ∧
      ((Text.render (buckets_elements (bucket_names gateway.metadata))).length ≤ LIST_MAX_XML_BYTES →
        ((handle_list_buckets verify gateway request).1.status = 200 ∧
            EachBucketOnce sha256 gateway.metadata
              (Text.texts (ascii "Name") (handle_list_buckets verify gateway request).1.body) ↔
          (gateway.serving = true ∧ gateway_require_auth verify request = none) ∧
            (bucket_names gateway.metadata).Nodup)) ∧
      (request.bucket = none → (handle_list_buckets verify gateway request).1.status ≠ 200) := by
  have hwell : WellFormed sha256 config gateway.metadata := hreached ▸ reached_wellFormed sha256 config operations
  refine ⟨fun bucket prefix_bytes max_keys haccepted => ⟨?_, fun listed hlisting => ?_⟩, ?_, fun hfits => ?_, ?_⟩
  · obtain ⟨listed, hlisting⟩ := exists_listing id max_keys
      ((enumeration gateway.metadata bucket prefix_bytes).map (·.object_key)) none
    exact ⟨listed, (listing_iff keep hconfig hwell haccepted).mpr hlisting⟩
  · have hnodup : (((enumeration gateway.metadata bucket prefix_bytes).map (·.object_key)).map id).Nodup := by
      rw [List.map_id]
      exact nodup_enumeration hwell
    rw [eachObjectOnce_iff hwell]
    exact Paging.Listing.perm_iff (query_max_keys_bounds haccepted.counted).1 hnodup
      ((listing_iff keep hconfig hwell haccepted).mp hlisting)
  · rintro ⟨marker, hpage⟩
    have hstatus : (handle_list_objects sha256 verify strtoull gateway (request.behind keep marker)).1.status = 200 := by
      by_contra hstatus
      exact hpage (if_neg hstatus)
    obtain ⟨bucket, prefix_bytes, max_keys, haccepted⟩ := accepted_of_status hconfig hwell.limits hstatus
    exact ⟨bucket, prefix_bytes, max_keys, Accepted.behind_iff.mp haccepted⟩
  · constructor
    · rintro ⟨hstatus, honce⟩
      obtain ⟨hserving, hauth⟩ := handle_list_buckets_status hstatus
      rw [handle_list_buckets_ok hwell hserving hauth hfits, reply, texts_buckets] at honce
      exact ⟨⟨hserving, hauth⟩, honce.1⟩
    · rintro ⟨⟨hserving, hauth⟩, hnodup⟩
      rw [handle_list_buckets_ok hwell hserving hauth hfits, reply, texts_buckets]
      exact ⟨rfl, hnodup, fun name => mem_bucket_names hwell⟩
  · intro hbucket hstatus
    obtain ⟨name, hname, _⟩ := gateway_require_auth_bucket (handle_list_buckets_status hstatus).2
    rw [hbucket] at hname
    cases hname

end outcome

section samples

open turbop2p.m3_object_resolver (constant_hash)

/-- A gateway with two empty objects of the bucket `b`, put in this order. -/
def sample_gateway (first second : List UInt8) : Gateway :=
  { initialized := true
    namespace_store := reached constant_hash (gateway_config 2 small_config.capacity_pos)
      [.put true 1 ⟨TENANT_ID, [98], first⟩ (m3_namespace_raft.empty_object_bytes constant_hash),
        .put true 2 ⟨TENANT_ID, [98], second⟩ (m3_namespace_raft.empty_object_bytes constant_hash)]
    node := none
    node_lookup_not_leader := false
    node_lookup_leader_id := 0 }

theorem sample_bucket_clean : 0 ∉ ([98] : List UInt8) := by decide

/-- A signed request for the bucket `b` with one key on a page. -/
def sample_request : Request :=
  { method := ⟨ascii "GET", by decide +kernel⟩
    headers := [(⟨ascii "authorization", by decide +kernel⟩, ⟨[], by simp⟩),
      (⟨ascii "x-amz-date", by decide +kernel⟩, ⟨[], by simp⟩)]
    bucket := some ⟨[98], sample_bucket_clean⟩
    object := none
    prefix_raw := none
    marker_raw := none
    max_keys_raw := some ⟨[49], by decide⟩ }

theorem sample_accepted (first second : List UInt8) :
    Accepted (fun _ _ _ _ _ => true) (fun _ => some 1) (sample_gateway first second) sample_request [98] [] 1 :=
  ⟨rfl, by decide +kernel, rfl, by decide, rfl, rfl⟩

/-- The objects `a` and `b`, put in this order, are both listed. -/
theorem ordered_keys_listed :
    ∃ listed, Paging.Listing (list_page constant_hash (fun _ _ _ _ _ => true) (fun _ => some 1) (fun _ => false)
        (sample_gateway [97] [98]) sample_request) none listed ∧
      EachObjectOnce constant_hash (sample_gateway [97] [98]).metadata [98] [] listed := by
  obtain ⟨⟨listed, hlisting⟩, honce⟩ := (listing_complete_iff constant_hash (fun _ _ _ _ _ => true) (fun _ => some 1)
    (fun _ => false) (.gateway 2 (by decide)) _ (show (sample_gateway [97] [98]).metadata = _ from rfl) sample_request).1
    [98] [] 1 (sample_accepted [97] [98])
  refine ⟨listed, hlisting, (honce listed hlisting).mpr ?_⟩
  have hkeys : (enumeration (sample_gateway [97] [98]).metadata [98] []).map (·.object_key) = [[97], [98]] := by
    decide +kernel
  rw [hkeys]
  intro pages hpages hlength
  obtain rfl : pages = 1 := by
    simp only [List.length_cons, List.length_nil] at hlength
    omega
  decide

/-- The objects `b` and `a` on pages of one key: the second page is empty, and
`a` is not listed. The list of buckets names `b` twice, and refuses a request
that names no bucket. -/
theorem unordered_keys_missed :
    Accepted (fun _ _ _ _ _ => true) (fun _ => some 1) (sample_gateway [98] [97]) sample_request [98] [] 1 ∧
      Paging.Listing (list_page constant_hash (fun _ _ _ _ _ => true) (fun _ => some 1) (fun _ => false)
        (sample_gateway [98] [97]) sample_request) none [[98]] ∧
      (object constant_hash (sample_gateway [98] [97]).metadata ⟨TENANT_ID, [98], [97]⟩).isSome = true ∧
      Text.texts (ascii "Name") (handle_list_buckets (fun _ _ _ _ _ => true) (sample_gateway [98] [97])
        sample_request).1.body = [[98], [98]] ∧
      (handle_list_buckets (fun _ _ _ _ _ => true) (sample_gateway [98] [97])
        { sample_request with bucket := none }).1.status = 400 := by
  have hfirst : list_page constant_hash (fun _ _ _ _ _ => true) (fun _ => some 1) (fun _ => false)
      (sample_gateway [98] [97]) sample_request none = some ([[98]], some [98]) := by decide +kernel
  have hsecond : list_page constant_hash (fun _ _ _ _ _ => true) (fun _ => some 1) (fun _ => false)
      (sample_gateway [98] [97]) sample_request (some [98]) = some ([], none) := by decide +kernel
  exact ⟨sample_accepted [98] [97], .more hfirst (.last hsecond), by decide +kernel, by decide +kernel, by decide +kernel⟩

end samples

end turbop2p.m3_gateway
