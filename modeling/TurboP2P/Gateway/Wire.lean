import TurboP2P.Lib.Text
import TurboP2P.Namespace.Store

open turbop2p.m3_namespace_local_store (Listed Store TenantId list_v1)
open Text (ascii)

namespace turbop2p.m3_gateway

/-- A string of C: none of its bytes is the terminator. -/
abbrev CString := { bytes : List UInt8 // 0 ∉ bytes }

/-- The string in a buffer ends at the first terminator. -/
def c_string (buffer : List UInt8) : List UInt8 := buffer.takeWhile (· ≠ 0)

def MAX_BUCKET_BYTES : Nat := 128
def MAX_OBJECT_KEY_BYTES : Nat := 1024
def MAX_MANIFEST_BYTES : Nat := 65536
def MAX_OBJECT_BYTES : UInt64 := 64 * 1024 * 1024 * 1024
def MAX_CHUNKS : Nat := 4096
def DATAPANE_MAX_STORES : Nat := 8

/-- What `m3_gateway_init_v1` makes of `"m3-gateway-default-tenant-0001"`. -/
def TENANT_ID : TenantId := ⟨ascii "m3-gateway-default-tenant-0001" ++ [0, 0], by decide +kernel⟩

/-- `query_percent_decode`, with the room that is left in the output. -/
def query_percent_decode (room : Nat) : List UInt8 → Option (List UInt8)
  | [] => some []
  | c :: rest =>
    if c = 37 then
      match rest with
      | hi :: lo :: rest =>
        match Text.hex_value hi, Text.hex_value lo with
        | some hi, some lo =>
          if room = 0 then none else (query_percent_decode (room - 1) rest).map ((hi <<< 4 ||| lo) :: ·)
        | _, _ => none
      | _ => none
    else if room = 0 then none
    else (query_percent_decode (room - 1) rest).map (c :: ·)

/-- A query value as a client writes it, which may keep the bytes that it
wants to keep except for the percent sign. -/
def percent_encode (keep : UInt8 → Bool) (bytes : List UInt8) : List UInt8 :=
  bytes.flatMap fun byte => if keep byte ∧ byte ≠ 37 ∧ byte ≠ 0 then [byte] else 37 :: Text.hex_byte byte

section percent

theorem percent_encode_cons (keep : UInt8 → Bool) (byte : UInt8) (bytes : List UInt8) :
    percent_encode keep (byte :: bytes) =
      (if keep byte ∧ byte ≠ 37 ∧ byte ≠ 0 then [byte] else 37 :: Text.hex_byte byte) ++ percent_encode keep bytes :=
  List.flatMap_cons

/-- The handlers read what a client has written, if it fits in their buffer. -/
theorem query_percent_decode_encode (keep : UInt8 → Bool) {bytes : List UInt8} {room : Nat}
    (hroom : bytes.length ≤ room) : query_percent_decode room (percent_encode keep bytes) = some bytes := by
  induction bytes generalizing room with
  | nil => rfl
  | cons byte bytes ih =>
    rw [List.length_cons] at hroom
    have hrest := ih (Nat.le_sub_one_of_lt hroom)
    have hroom' : room ≠ 0 := by omega
    rw [percent_encode_cons]
    split_ifs with hkeep
    · rw [List.singleton_append, query_percent_decode.eq_def]
      simp [hkeep.2.1, hroom', hrest]
    · obtain ⟨hhi, hlo, hbyte⟩ := Text.hex_value_digits byte
      simp [query_percent_decode, Text.hex_byte, hhi, hlo, hbyte, hroom', hrest]

theorem zero_not_mem_percent_encode (keep : UInt8 → Bool) (bytes : List UInt8) : 0 ∉ percent_encode keep bytes := by
  have hhex : ∀ byte, 0 ∉ Text.hex_byte byte :=
    Text.forall_byte (p := fun byte => 0 ∉ Text.hex_byte byte) (by decide +kernel)
  rw [percent_encode, List.mem_flatMap]
  rintro ⟨byte, _, hbyte⟩
  split_ifs at hbyte with hkeep
  · exact hkeep.2.2 (List.mem_singleton.mp hbyte).symm
  · rcases List.mem_cons.mp hbyte with hzero | hzero
    · exact absurd hzero (by decide)
    · exact hhex byte hzero

/-- A value that does not fit is refused. -/
theorem length_query_percent_decode {room : Nat} {raw out : List UInt8} (hdecode : query_percent_decode room raw = some out) :
    out.length ≤ room := by
  have hcons : ∀ {byte : UInt8} {rest : Option (List UInt8)} {out : List UInt8}, rest.map (byte :: ·) = some out →
      ∃ tail, rest = some tail ∧ out.length = tail.length + 1 := by
    intro byte rest out hmap
    obtain ⟨tail, htail, rfl⟩ := Option.map_eq_some_iff.mp hmap
    exact ⟨tail, htail, rfl⟩
  fun_induction query_percent_decode room raw generalizing out with
  | case1 => cases hdecode; simp
  | case2 => cases hdecode
  | case3 room _ _ rest _ _ _ _ hroom ih =>
    obtain ⟨tail, htail, hlength⟩ := hcons hdecode
    have htail := ih htail
    omega
  | case4 => cases hdecode
  | case5 => cases hdecode
  | case6 => cases hdecode
  | case7 room _ rest _ hroom ih =>
    obtain ⟨tail, htail, hlength⟩ := hcons hdecode
    have htail := ih htail
    omega

end percent

/-- What the handlers read of a request: the parameters of its route and of its
query are `none` if they are absent. -/
structure Request where
  method : CString
  headers : List (CString × CString)
  bucket : Option CString
  object : Option CString
  prefix_raw : Option CString
  marker_raw : Option CString
  max_keys_raw : Option CString

structure Reply where
  status : Nat
  headers : List (List UInt8 × List UInt8)
  content_type : List UInt8
  body : List UInt8
  deriving DecidableEq

def reply (status : Nat) (body : List UInt8) : Reply :=
  { status, headers := []
    content_type := ascii "application/xml"
    body := body }

def send_s3_error (status : Nat) (code message : String) : Reply :=
  let xml := ascii "<Error><Code>" ++ ascii code ++ ascii "</Code><Message>" ++ ascii message ++
    ascii "</Message><RequestId>m3</RequestId></Error>"
  if xml.length ≥ 512 then reply status [] else reply status xml

def ascii_lower (c : UInt8) : UInt8 := if 65 ≤ c ∧ c ≤ 90 then c - 65 + 97 else c

def ascii_lower_equal (a b : List UInt8) : Bool := a.map ascii_lower = b.map ascii_lower

def gateway_header_lookup (request : Request) (name : String) : Option CString :=
  (request.headers.find? fun header => ascii_lower_equal header.1.val (ascii name)).map (·.2)

/-- What a gateway asks of the raft node that it is part of: whether the node
leads, if that can be found out, the leader it knows of and its store. -/
structure RaftNode where
  leading : Option Bool
  leader_id : Option UInt64
  store : Store

structure Gateway where
  initialized : Bool
  namespace_store : Store
  node : Option RaftNode
  node_lookup_not_leader : Bool
  node_lookup_leader_id : UInt64

/-- The store that the objects of a gateway are listed from. -/
def Gateway.metadata (gateway : Gateway) : Store :=
  match gateway.node with
  | some node => node.store
  | none => gateway.namespace_store

/-- A gateway that is part of a raft node answers only if the node leads. -/
def Gateway.serving (gateway : Gateway) : Bool :=
  gateway.initialized && gateway.node.all fun node => node.leading = some true

def send_gateway_not_leader (gateway : Gateway) : Reply :=
  { send_s3_error 503 "ServiceUnavailable" "Metadata read must be routed to the current raft leader." with
    headers := [(ascii "X-M3-Leader-Node", Text.decimal gateway.node_lookup_leader_id.toNat)] }

/-- `m3_sigv4_verify_request_v1` under the credential of a gateway, for a method,
a canonical URI, the two headers of the signature and all headers. -/
abbrev Verifier := CString → List UInt8 → CString → CString → List (CString × CString) → Bool

/-- `gateway_require_auth`: the reply to a request that it refuses. -/
def gateway_require_auth (verify : Verifier) (request : Request) : Option Reply :=
  match gateway_header_lookup request "Authorization", gateway_header_lookup request "x-amz-date" with
  | some authorization, some amzdate =>
    match request.bucket with
    | none => some (send_s3_error 400 "InvalidRequest" "Missing bucket or object.")
    | some bucket =>
      if bucket.val = [] then some (send_s3_error 400 "InvalidRequest" "Missing bucket or object.")
      else
        let object := request.object.elim [] (·.val)
        let canonical_uri := if object = [] then 47 :: bucket.val else 47 :: (bucket.val ++ 47 :: object)
        if 47 ∈ object then
          some (send_s3_error 400 "InvalidRequest" "Object keys with '/' are not supported in Phase 1.")
        else if canonical_uri.length ≥ 2048 then
          if object = [] then some (send_s3_error 400 "InvalidRequest" "Bucket name too long.")
          else some (send_s3_error 400 "InvalidRequest" "Key too long.")
        else if verify request.method canonical_uri authorization amzdate request.headers = false then
          some (send_s3_error 403 "AccessDenied" "Signature verification failed.")
        else none
  | _, _ => some (send_s3_error 403 "AccessDenied" "Missing signature.")

/-- `m3_namespace_local_store_list_v1` for the tenant of the gateway: the calls
of the callback, if it succeeds. -/
def list_store (store : Store) (bucket prefix_bytes : Option (List UInt8)) : Option (List Listed) :=
  match list_v1 store TENANT_ID bucket prefix_bytes with
  | (.OK, listed) => some listed
  | _ => none

def gateway_meta_list (gateway : Gateway) (bucket prefix_bytes : Option (List UInt8)) :
    Option (List Listed) × Gateway :=
  match gateway.node with
  | some node =>
    if node.leading ≠ some true then
      (none,
        { gateway with
          node_lookup_not_leader := true, node_lookup_leader_id := node.leader_id.getD gateway.node_lookup_leader_id })
    else (list_store node.store bucket prefix_bytes, { gateway with node_lookup_not_leader := false })
  | none => (list_store gateway.namespace_store bucket prefix_bytes, gateway)

end turbop2p.m3_gateway
