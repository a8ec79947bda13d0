import TurboP2P.Lib.Marker
import TurboP2P.Gateway.Wire
import TurboP2P.Namespace.History

open turbop2p.m3_namespace_local_store
open turbop2p.m3_object_manifest (decode_v2)
open Text (ascii Element)

namespace turbop2p.m3_gateway

def LIST_DEFAULT_MAX_KEYS : Nat := 1000
def LIST_MAX_KEYS : Nat := 1000
def LIST_MAX_XML_BYTES : Nat := 8 * 1024 * 1024
def LIST_LAST_MODIFIED : String := "1970-01-01T00:00:00.000Z"

/-- `list_ctx_t`. -/
structure ListCtx where
  marker : Option (List UInt8)
  max_keys : Nat
  xml : List UInt8
  listed : Nat
  truncated : Bool
  failed : Bool
  next_marker : List UInt8

/-- `list_xml_append` and `list_xml_append_n`. The buffer grows up to its limit;
the reallocation is taken to succeed. -/
def list_xml_append (ctx : ListCtx) (text : List UInt8) : ListCtx :=
  if ctx.xml.length + text.length > LIST_MAX_XML_BYTES then { ctx with failed := true }
  else { ctx with xml := ctx.xml ++ text }

def list_xml_append_u64 (ctx : ListCtx) (value : Nat) : ListCtx := list_xml_append ctx (Text.decimal value)

def list_xml_append_escaped (ctx : ListCtx) (text : List UInt8) : ListCtx :=
  text.foldl (fun ctx byte => list_xml_append ctx (Text.escape_byte byte)) ctx

/-- `memcmp` of two byte strings of the same length. -/
def memcmp : List UInt8 → List UInt8 → Ordering
  | a :: as, b :: bs => if a < b then .lt else if b < a then .gt else memcmp as bs
  | _, _ => .eq

def list_key_cmp (key marker : List UInt8) : Ordering :=
  let n := min key.length marker.length
  match memcmp (key.take n) (marker.take n) with
  | .eq => if key.length < marker.length then .lt else if key.length > marker.length then .gt else .eq
  | cmp => cmp

def gateway_etag_quoted (digest : Bytes 32) : List UInt8 := 34 :: (Text.hex_encode digest.toList ++ [34])

section callbacks

variable (sha256 : List UInt8 → Bytes 32)

def gateway_decode (manifest_bytes : List UInt8) : Except m3_object_manifest.Result m3_object_manifest.ManifestV2 :=
  decode_v2 sha256 manifest_bytes MAX_OBJECT_BYTES MAX_CHUNKS (MAX_CHUNKS * DATAPANE_MAX_STORES)

/-- What `list_objects_cb` writes for an object. -/
def list_contents (ctx : ListCtx) (object_key : List UInt8) (object_cid : m3_object_manifest.ChunkCid) : ListCtx :=
  let ctx := list_xml_append ctx (ascii "<Contents><Key>")
  let ctx := list_xml_append_escaped ctx object_key
  let ctx := list_xml_append ctx (ascii "</Key><LastModified>")
  let ctx := list_xml_append ctx (ascii LIST_LAST_MODIFIED)
  let ctx := list_xml_append ctx (ascii "</LastModified><ETag>")
  let ctx := list_xml_append ctx (gateway_etag_quoted object_cid.digest)
  let ctx := list_xml_append ctx (ascii "</ETag><Size>")
  let ctx := list_xml_append_u64 ctx object_cid.size.toNat
  list_xml_append ctx (ascii "</Size></Contents>")

def list_objects_cb (ctx : ListCtx) (listed : Listed) : ListCtx :=
  if ctx.failed then ctx
  else if ctx.marker.any fun marker => marker ≠ [] ∧ list_key_cmp listed.object_key marker ≠ .gt then ctx
  else if ctx.listed ≥ ctx.max_keys then { ctx with truncated := true }
  else
    match gateway_decode sha256 listed.manifest_bytes with
    | .error _ => { ctx with failed := true }
    | .ok manifest =>
      if listed.object_key.length > MAX_OBJECT_KEY_BYTES then { ctx with failed := true }
      else
        let ctx := { ctx with next_marker := listed.object_key }
        let ctx := list_contents ctx listed.object_key manifest.object_cid
        { ctx with listed := ctx.listed + 1 }

end callbacks

def list_buckets_cb (ctx : ListCtx) (listed : Listed) : ListCtx :=
  if ctx.failed ∨ listed.bucket = [] then ctx
  else
    let ctx := list_xml_append ctx (ascii "<Bucket><Name>")
    let ctx := list_xml_append_escaped ctx listed.bucket
    list_xml_append ctx (ascii "</Name></Bucket>")

def ListCtx.init (marker : Option (List UInt8)) (max_keys : Nat) : ListCtx :=
  { marker, max_keys, xml := [], listed := 0, truncated := false, failed := false, next_marker := [] }

/-- The beginning of the document up to its rows. -/
def list_header (ctx : ListCtx) (bucket prefix_bytes marker : List UInt8) (max_keys : Nat) : ListCtx :=
  let ctx := list_xml_append ctx (ascii "<?xml version=\"1.0\" encoding=\"UTF-8\"?>\n")
  let ctx := list_xml_append ctx (ascii "<ListBucketResult xmlns=\"http://s3.amazonaws.com/doc/2006-03-01/\">")
  let ctx := list_xml_append ctx (ascii "<Name>")
  let ctx := list_xml_append_escaped ctx bucket
  let ctx := list_xml_append ctx (ascii "</Name><Prefix>")
  let ctx := list_xml_append_escaped ctx prefix_bytes
  let ctx := list_xml_append ctx (ascii "</Prefix><Marker>")
  let ctx := list_xml_append_escaped ctx marker
  let ctx := list_xml_append ctx (ascii "</Marker><MaxKeys>")
  let ctx := list_xml_append_u64 ctx max_keys
  list_xml_append ctx (ascii "</MaxKeys>")

/-- The end of the document behind its rows. -/
def list_footer (ctx : ListCtx) : ListCtx :=
  let truncated := ctx.truncated
  let next_marker := c_string ctx.next_marker
  let ctx := list_xml_append ctx (ascii "<IsTruncated>")
  let ctx := list_xml_append ctx (if truncated then ascii "true" else ascii "false")
  let ctx := list_xml_append ctx (ascii "</IsTruncated>")
  let ctx :=
    if truncated then
      let ctx := list_xml_append ctx (ascii "<NextMarker>")
      let ctx := list_xml_append_escaped ctx next_marker
      list_xml_append ctx (ascii "</NextMarker>")
    else ctx
  list_xml_append ctx (ascii "</ListBucketResult>")

def list_buckets_header (ctx : ListCtx) : ListCtx :=
  let ctx := list_xml_append ctx (ascii "<?xml version=\"1.0\" encoding=\"UTF-8\"?>\n")
  list_xml_append ctx (ascii "<ListAllMyBucketsResult xmlns=\"http://s3.amazonaws.com/doc/2006-03-01/\">" ++
    ascii "<Owner><ID>m3</ID><DisplayName>m3</DisplayName></Owner><Buckets>")

/-- A query value in its buffer; an absent one is empty. -/
def query_value (raw : Option CString) : Option (List UInt8) :=
  match raw with
  | none => some []
  | some raw => (query_percent_decode MAX_OBJECT_KEY_BYTES raw.val).map c_string

/-- The key behind which a page starts; an empty marker is none. -/
def start_after (marker : List UInt8) : Option (List UInt8) := if marker ≠ [] then some marker else none

section handlers

variable (sha256 : List UInt8 → Bytes 32) (verify : Verifier) (strtoull : CString → Option UInt64)

/-- The number of keys on a page. What `strtoull` makes of the text is `none` if
the text is no number or out of range. -/
def query_max_keys (raw : Option CString) : Option Nat :=
  match raw with
  | none => some LIST_DEFAULT_MAX_KEYS
  | some raw =>
    match strtoull raw with
    | none => none
    | some parsed =>
      if parsed = 0 then none
      else if parsed.toNat > LIST_MAX_KEYS then some LIST_MAX_KEYS
      else some parsed.toNat

def list_failed (gateway : Gateway) : Reply :=
  if gateway.node_lookup_not_leader then send_gateway_not_leader gateway
  else send_s3_error 500 "InternalError" "List failed."

def handle_list_objects (gateway : Gateway) (request : Request) : Reply × Gateway :=
  if gateway.initialized = false then (send_s3_error 500 "InternalError" "Gateway not initialized.", gateway)
  else
    match gateway_require_auth verify request with
    | some refusal => (refusal, gateway)
    | none =>
      match request.bucket with
      | none => (send_s3_error 400 "InvalidRequest" "Missing bucket.", gateway)
      | some bucket =>
        match query_value request.prefix_raw with
        | none => (send_s3_error 400 "InvalidArgument" "prefix is invalid or too long.", gateway)
        | some prefix_bytes =>
          match query_value request.marker_raw with
          | none => (send_s3_error 400 "InvalidArgument" "marker is invalid or too long.", gateway)
          | some marker =>
            match query_max_keys strtoull request.max_keys_raw with
            | none =>
              (send_s3_error 400 "InvalidArgument" "max-keys must be an integer between 1 and 1000.", gateway)
            | some max_keys =>
              let ctx := ListCtx.init (start_after marker) max_keys
              let ctx := list_header ctx bucket.val prefix_bytes marker max_keys
              match gateway_meta_list gateway (some bucket.val) (some prefix_bytes) with
              | (none, gateway) => (list_failed gateway, gateway)
              | (some listed, gateway) =>
                let ctx := listed.foldl (list_objects_cb sha256) ctx
                if ctx.failed then (list_failed gateway, gateway)
                else
                  let ctx := list_footer ctx
                  if ctx.failed then (send_s3_error 500 "InternalError" "List failed.", gateway)
                  else (reply 200 ctx.xml, gateway)

def handle_list_buckets (gateway : Gateway) (request : Request) : Reply × Gateway :=
  if gateway.initialized = false then (send_s3_error 500 "InternalError" "Gateway not initialized.", gateway)
  else
    match gateway_require_auth verify request with
    | some refusal => (refusal, gateway)
    | none =>
      let ctx := list_buckets_header (ListCtx.init none 0)
      match gateway_meta_list gateway none none with
      | (none, gateway) => (list_failed gateway, gateway)
      | (some listed, gateway) =>
        let ctx := listed.foldl list_buckets_cb ctx
        if ctx.failed then (list_failed gateway, gateway)
        else (reply 200 (list_xml_append ctx (ascii "</Buckets></ListAllMyBucketsResult>")).xml, gateway)

end handlers

theorem list_key_cmp_cons (a b : UInt8) (key marker : List UInt8) :
    list_key_cmp (a :: key) (b :: marker) = if a < b then .lt else if b < a then .gt else list_key_cmp key marker := by
  have hmin : min (key.length + 1) (marker.length + 1) = min key.length marker.length + 1 := by omega
  simp only [list_key_cmp, List.length_cons, hmin, List.take_succ_cons, memcmp, Nat.add_lt_add_iff_right, gt_iff_lt]
  split_ifs <;> rfl

/-- Keys are compared byte by byte, and a key comes behind what it starts
with. -/
theorem list_key_cmp_eq_gt_iff {key marker : List UInt8} : list_key_cmp key marker = .gt ↔ marker < key := by
  induction key generalizing marker with
  | nil =>
    have hnil : list_key_cmp [] marker = if 0 < marker.length then .lt else .eq := by simp [list_key_cmp, memcmp]
    rw [hnil]
    split_ifs <;> simp
  | cons a key ih =>
    cases marker with
    | nil => simp [list_key_cmp, memcmp]
    | cons b marker =>
      rw [list_key_cmp_cons, List.cons_lt_cons_iff, ← ih]
      by_cases hlt : a < b
      · have hne : b ≠ a := fun h => UInt8.lt_irrefl b (h ▸ hlt)
        simp [hlt, UInt8.lt_asymm hlt, hne]
      · by_cases hgt : b < a
        · simp [hlt, hgt]
        · have heq : b = a := UInt8.le_antisymm (UInt8.not_lt.mp hlt) (UInt8.not_lt.mp hgt)
          simp [heq]

section append

/-- One context is the other with a text behind its document, provided that
the text fits. -/
def Appends (before after : ListCtx) (text : List UInt8) : Prop :=
  before.xml.length + text.length ≤ LIST_MAX_XML_BYTES → after = { before with xml := before.xml ++ text }

variable {first second third : ListCtx} {text later : List UInt8}

theorem Appends.append (ctx : ListCtx) (text : List UInt8) : Appends ctx (list_xml_append ctx text) text :=
  fun hfits => if_neg (Nat.not_lt.mpr hfits)

theorem Appends.trans (hfirst : Appends first second text) (hsecond : Appends second third later) :
    Appends first third (text ++ later) := by
  intro hfits
  rw [List.length_append] at hfits
  have hsecond' := hfirst (by omega)
  subst hsecond'
  rw [hsecond (by rw [List.length_append]; omega), List.append_assoc]

theorem Appends.escaped (ctx : ListCtx) (text : List UInt8) :
    Appends ctx (list_xml_append_escaped ctx text) (Text.escape text) := by
  induction text generalizing ctx with
  | nil => exact fun _ => by simp [list_xml_append_escaped, Text.escape]
  | cons byte text ih => exact (Appends.append ctx (Text.escape_byte byte)).trans (ih _)

end append

end turbop2p.m3_gateway
