import TurboP2P.SigV4.Accepted
import TurboP2P.SigV4.Authorization

open turbop2p.m3_gateway (CString c_string ascii_lower)
open Scan (is_space)
open Text

namespace turbop2p.m3_gateway_sigv4

section signed

variable {cap : Nat}

/-- A request arrives as it was signed: with the same method, URI and query, the
date, the host and the payload hash that were signed, and this
authorization. -/
structure SignRequest.SentAs (signed : SignRequest) (authorization : List UInt8) (request : Request) : Prop where
  method : request.method = signed.method
  canonical_uri : request.canonical_uri = signed.canonical_uri
  raw_query : request.raw_query = signed.raw_query
  authorization : request.authorization.val = authorization
  amzdate : request.x_amz_date.or request.date = some signed.amzdate
  host_header : request.lookup (ascii "host") = some signed.host
  payload_header : request.lookup (ascii "x-amz-content-sha256") = some signed.payload_hash
  date_header : request.lookup (ascii "x-amz-date") = some signed.amzdate

/-- A name that may stand in a credential scope and in the authorization. -/
structure ScopeName (name : List UInt8) : Prop where
  ne_nil : name ≠ []
  slash : 47 ∉ name
  comma : 44 ∉ name

/-- A request whose parts are their own canonical forms. -/
structure SignRequest.SelfCanonical (signed : SignRequest) : Prop where
  uri : uri_encode false 1024 signed.canonical_uri.val = some signed.canonical_uri.val
  query : canonical_query_build signed.raw_query none 2048 = some (signed.raw_query.elim [] (·.val))
  host : normalized signed.host.val = signed.host.val
  payload : signed.payload_hash.val ≠ [] ∧ normalized signed.payload_hash.val = signed.payload_hash.val
  date : normalized signed.amzdate.val = signed.amzdate.val

variable {crypto : Crypto} {signed : SignRequest}

def SignRequest.signature (crypto : Crypto) (signed : SignRequest) (text : List UInt8) : Option (Bytes 32) :=
  m3_gateway_sigv4.signature crypto signed.secret_key (signed.amzdate.val.take 8) signed.region.val
    signed.service.val signed.amzdate.val signed.scope text

/-- What the signer has checked when it returns an authorization. -/
theorem sign_request_eq_ok {authorization : List UInt8}
    (hsign : sign_request_v1 crypto signed cap = .ok authorization) :
    8 ≤ signed.amzdate.val.length ∧ signed.canonical_headers.length < 1024 ∧
      signed.canonical_request.length < 4096 ∧ signed.scope.length < 192 ∧
      ∃ computed, signed.signature crypto signed.canonical_request = some computed ∧
        authorization = signed.authorization computed := by
  obtain ⟨hdate, hsign⟩ := guard_passed hsign
  obtain ⟨hheaders, hsign⟩ := guard_passed hsign
  obtain ⟨hrequest, hsign⟩ := guard_passed hsign
  cases hdigest : crypto.sha256 signed.canonical_request with
  | none => simp [hdigest] at hsign
  | some digest =>
    simp only [hdigest] at hsign
    obtain ⟨hscope, hsign⟩ := guard_passed hsign
    obtain ⟨htext, hsign⟩ := guard_passed hsign
    cases hkey : signing_key crypto signed.secret_key (signed.amzdate.val.take 8) signed.region.val
        signed.service.val with
    | none => simp [hkey] at hsign
    | some key =>
      simp only [hkey] at hsign
      cases hsigned : crypto.hmac_sha256 key.toList (string_to_sign signed.amzdate.val signed.scope digest) with
      | none => simp [hsigned] at hsign
      | some computed =>
        simp only [hsigned] at hsign
        obtain ⟨_, hsign⟩ := guard_passed hsign
        refine ⟨by omega, by omega, by omega, by omega, computed, ?_, (Except.ok.inj hsign).symm⟩
        exact signature_eq_some.mpr ⟨digest, key, hdigest, by omega, hkey, hsigned⟩

theorem comma_not_mem_hex_encode (bytes : List UInt8) : 44 ∉ hex_encode bytes := by
  have hbyte : ∀ byte, 44 ∉ hex_byte byte := forall_byte (p := fun byte => 44 ∉ hex_byte byte) (by decide +kernel)
  rw [hex_encode, List.mem_flatMap]
  rintro ⟨byte, _, hcomma⟩
  exact hbyte byte hcomma

/-- The parameters of an authorization as the signer writes them. -/
def written_fields (credential signature : List UInt8) : List UInt8 :=
  [] ++ (67 :: ascii "redential" ++ 61 :: (credential ++ 44 :: ([32] ++ (83 :: ascii "ignedHeaders" ++ 61 ::
    (SIGNED_HEADERS ++ 44 :: ([32] ++ (83 :: ascii "ignature" ++ 61 :: signature)))))))

theorem authorization_fields (computed : Bytes 32) :
    signed.authorization computed = ALGORITHM ++ 32 ::
      written_fields (signed.access_key.val ++ 47 :: signed.scope) (hex_encode computed.toList) := by
  have hcredential : ascii " Credential=" = 32 :: (67 :: ascii "redential" ++ [61]) := rfl
  have hheaders : ascii ", SignedHeaders=" = 44 :: ([32] ++ (83 :: ascii "ignedHeaders" ++ [61])) := rfl
  have hsignature : ascii ", Signature=" = 44 :: ([32] ++ (83 :: ascii "ignature" ++ [61])) := rfl
  rw [SignRequest.authorization, hcredential, hheaders, hsignature]
  simp [written_fields]

/-- The loop over the parameters reads what the signer writes, if the credential
fits in its field. -/
theorem auth_fields_written {credential signature : List UInt8} (fuel : Nat) (hcomma : 44 ∉ credential)
    (hplain : 44 ∉ signature) (hshort : signature.length < 128) :
    auth_fields (fuel + 3) (written_fields credential signature) ⟨ALGORITHM, [], [], []⟩ =
      if credential.length < 256 then some ⟨ALGORITHM, credential, SIGNED_HEADERS, signature⟩ else none := by
  have hcredential : (⟨ALGORITHM, [], [], []⟩ : ParsedAuth).assign (67 :: ascii "redential") credential =
      if credential.length < 256 then some ⟨ALGORITHM, credential, [], []⟩ else none := by
    have hkey : 67 :: ascii "redential" = ascii "Credential" := rfl
    rw [ParsedAuth.assign, if_pos hkey]
    simp only [← Nat.not_lt, ite_not]
  have hheaders : (⟨ALGORITHM, credential, [], []⟩ : ParsedAuth).assign (83 :: ascii "ignedHeaders") SIGNED_HEADERS =
      some ⟨ALGORITHM, credential, SIGNED_HEADERS, []⟩ := by
    have hkey : 83 :: ascii "ignedHeaders" ≠ ascii "Credential" ∧
      83 :: ascii "ignedHeaders" = ascii "SignedHeaders" ∧ ¬SIGNED_HEADERS.length ≥ 512 := by decide
    rw [ParsedAuth.assign, if_neg hkey.1, if_pos hkey.2.1, if_neg hkey.2.2]
  have hsignature : (⟨ALGORITHM, credential, SIGNED_HEADERS, []⟩ : ParsedAuth).assign (83 :: ascii "ignature")
      signature = some ⟨ALGORITHM, credential, SIGNED_HEADERS, signature⟩ := by
    have hkey : 83 :: ascii "ignature" ≠ ascii "Credential" ∧ 83 :: ascii "ignature" ≠ ascii "SignedHeaders" ∧
      83 :: ascii "ignature" = ascii "Signature" := by decide
    rw [ParsedAuth.assign, if_neg hkey.1, if_neg hkey.2.1, if_pos hkey.2.2, if_neg (Nat.not_le_of_gt hshort)]
  have hkeys : 61 ∉ 67 :: ascii "redential" ∧ 61 ∉ 83 :: ascii "ignedHeaders" ∧ 61 ∉ 83 :: ascii "ignature" ∧
      44 ∉ SIGNED_HEADERS := by decide
  have hblank : ∀ c ∈ [(32 : UInt8)], (c = 44 || is_space c) = true := fun c hc => List.mem_singleton.mp hc ▸ rfl
  rw [written_fields, auth_fields_next (fuel + 2) (by simp) (by decide) hkeys.1 hcomma, hcredential]
  split_ifs
  · rw [Option.bind_some, auth_fields_next (fuel + 1) hblank (by decide) hkeys.2.1 hkeys.2.2.2, hheaders,
      Option.bind_some, auth_fields_last fuel hblank (by decide) hkeys.2.2.1 hplain hsignature]
  · rfl

/-- The authorization that the signer writes is read back, if the credential
fits in its field. -/
theorem auth_parse_authorization (computed : Bytes 32) (hcomma : 44 ∉ signed.access_key.val ++ 47 :: signed.scope) :
    auth_parse (signed.authorization computed) =
      if (signed.access_key.val ++ 47 :: signed.scope).length < 256 then
        some ⟨ALGORITHM, signed.access_key.val ++ 47 :: signed.scope, SIGNED_HEADERS, hex_encode computed.toList⟩
      else none := by
  have hsigned : (hex_encode computed.toList).length = 64 := by simp
  have hspace : 32 ∉ ALGORITHM ∧ ALGORITHM.length = 16 ∧ SIGNED_HEADERS ≠ [] := by decide
  have hfront (text : List UInt8) : (ALGORITHM ++ text).dropWhile is_space = ALGORITHM ++ text := by
    have halgorithm : ALGORITHM = 65 :: ascii "WS4-HMAC-SHA256" := rfl
    rw [halgorithm, List.cons_append, List.dropWhile_cons_of_neg (by decide)]
  have hfields := fun fuel => auth_fields_written fuel hcomma (comma_not_mem_hex_encode computed.toList) (by omega)
  rw [authorization_fields, auth_parse]
  dsimp only
  rw [hfront, takeWhile_ne_append hspace.1, dropWhile_ne_append hspace.1, List.drop_one, List.tail_cons,
    if_neg (by simp [hspace.2.1]), if_neg (by simp)]
  generalize hlist : written_fields _ _ = fields at hfields ⊢
  obtain ⟨fuel, hfuel⟩ : ∃ fuel, fields.length = fuel + 3 := by
    refine ⟨fields.length - 3, ?_⟩
    have hlong : 3 ≤ fields.length := by
      rw [← hlist, written_fields]
      simp
      omega
    omega
  rw [hfuel, hfields]
  split_ifs
  · dsimp only
    rw [if_neg]
    simp only [not_or]
    refine ⟨by simp, hspace.2.2, ?_⟩
    intro hnil
    simp [hnil] at hsigned
  · rfl

def SignRequest.headers (signed : SignRequest) : List (List UInt8 × List UInt8) :=
  [(ascii "host", signed.host.val), (ascii "x-amz-content-sha256", signed.payload_hash.val),
    (ascii "x-amz-date", signed.amzdate.val)]

/-- A header as the signer writes it, without its end of line. -/
def raw_body (header : List UInt8 × List UInt8) : List UInt8 := header.1 ++ 58 :: header.2

theorem signed_names : segments 59 SIGNED_HEADERS = [ascii "host", ascii "x-amz-content-sha256", ascii "x-amz-date"] ∧
    (ascii "host").map ascii_lower = ascii "host" ∧
    (ascii "x-amz-content-sha256").map ascii_lower = ascii "x-amz-content-sha256" ∧
    (ascii "x-amz-date").map ascii_lower = ascii "x-amz-date" := by
  decide

theorem signer_headers_lines (signed : SignRequest) (rest : List UInt8) :
    10 :: (signed.canonical_headers ++ rest) = (signed.headers.map raw_body).flatMap (10 :: ·) ++ 10 :: rest := by
  have hhost : ascii "host:" = ascii "host" ++ [58] := rfl
  have hpayload : ascii "x-amz-content-sha256:" = ascii "x-amz-content-sha256" ++ [58] := rfl
  have hdate : ascii "x-amz-date:" = ascii "x-amz-date" ++ [58] := rfl
  rw [SignRequest.canonical_headers, hhost, hpayload, hdate]
  simp [SignRequest.headers, raw_body]

/-- The signer's canonical request is its method followed by lines. -/
theorem signer_request_lines :
    signed.canonical_request =
      signed.method.val ++ ([signed.canonical_uri.val, signed.raw_query.elim [] (·.val)] ++
        signed.headers.map raw_body).flatMap (10 :: ·) ++
        [SIGNED_HEADERS, signed.payload_hash.val].flatMap (10 :: ·) := by
  rw [SignRequest.canonical_request, request_text, signer_headers_lines]
  simp

variable {request : Request} {authorization : List UInt8}

theorem sent_values (hsent : signed.SentAs authorization request) :
    signed_values request.lookup (segments 59 SIGNED_HEADERS) = some signed.headers := by
  obtain ⟨hsegments, hhost, hpayload, hdate⟩ := signed_names
  simp [hsegments, signed_values, hhost, hpayload, hdate, hsent.host_header, hsent.payload_header, hsent.date_header,
    SignRequest.headers]

theorem build_canonical_headers_cons {lookup : Lookup} {out name : List UInt8} {value : CString}
    (rest : List (List UInt8)) (hname : name.length ≠ 0 ∧ name.length < 128)
    (hlookup : lookup (name.map ascii_lower) = some value) (hvalue : normalized value.val = value.val)
    (hshort : value.val.length < 1024) (hfits : out.length + name.length + value.val.length + 3 < cap) :
    build_canonical_headers lookup cap out (name :: rest) =
      build_canonical_headers lookup cap (out ++ header_line name value.val) rest := by
  have hnormalize : header_value_normalize value.val = some value.val := by
    rw [header_value_normalize, hvalue, if_pos hshort]
  rw [build_canonical_headers, if_neg (by omega)]
  simp only [hlookup, hnormalize]
  rw [if_neg (by omega)]

theorem length_canonical_headers :
    signed.canonical_headers.length =
      signed.host.val.length + signed.payload_hash.val.length + signed.amzdate.val.length + 40 := by
  have hlengths : (ascii "host:").length = 5 ∧ (ascii "x-amz-content-sha256:").length = 21 ∧
      (ascii "x-amz-date:").length = 11 := by decide
  simp only [SignRequest.canonical_headers, List.length_append, List.length_cons, List.length_nil, hlengths]
  omega

/-- The verifier's canonical headers for headers that are normalised. -/
theorem sent_headers (hsent : signed.SentAs authorization request) (hself : signed.SelfCanonical)
    (hfits : signed.canonical_headers.length < 1024) :
    build_canonical_headers request.lookup 4096 [] (segments 59 SIGNED_HEADERS) = some signed.canonical_headers := by
  obtain ⟨hsegments, hhost, hpayload, hdate⟩ := signed_names
  have hlengths : (ascii "host").length = 4 ∧ (ascii "x-amz-content-sha256").length = 20 ∧
      (ascii "x-amz-date").length = 10 := by decide
  have hlines := signer_headers_lines signed []
  rw [length_canonical_headers] at hfits
  rw [hsegments]
  rw [build_canonical_headers_cons _ (by omega) (by rw [hhost]; exact hsent.host_header) hself.host (by omega)
      (by simp only [List.length_nil]; omega),
    build_canonical_headers_cons _ (by omega) (by rw [hpayload]; exact hsent.payload_header) hself.payload.2 (by omega)
      (by simp only [header_line, List.length_append, List.length_cons, List.length_map, List.length_nil]; omega),
    build_canonical_headers_cons _ (by omega) (by rw [hdate]; exact hsent.date_header) hself.date (by omega)
      (by simp only [header_line, List.length_append, List.length_cons, List.length_map, List.length_nil]; omega),
    build_canonical_headers]
  simp only [header_line, hhost, hpayload, hdate, Option.some.injEq]
  simpa [SignRequest.headers, raw_body] using hlines.symm

/-- The verifier builds the text of the signer exactly for requests whose parts
are canonical. -/
theorem canonical_request_signed_iff (hsent : signed.SentAs authorization request)
    (hheaders : signed.canonical_headers.length < 1024) (hrequest : signed.canonical_request.length < 4096) :
    canonical_request (request.input SIGNED_HEADERS) = some signed.canonical_request ↔ signed.SelfCanonical := by
  have hpayload : (request.input SIGNED_HEADERS).payload =
      if signed.payload_hash.val = [] then none else some signed.payload_hash.val := by
    simp [CanonicalInput.payload, Request.input, hsent.payload_header]
  have hinput : (request.input SIGNED_HEADERS).method = signed.method ∧
      (request.input SIGNED_HEADERS).canonical_uri = signed.canonical_uri ∧
      (request.input SIGNED_HEADERS).raw_query = signed.raw_query :=
    ⟨hsent.method, hsent.canonical_uri, hsent.raw_query⟩
  rw [canonical_request_eq_some_iff, hinput.1, hinput.2.1, hinput.2.2, hpayload]
  constructor
  · rintro ⟨uri, query, block, payload_hash, huri, hquery, hblock, _, hpayload, htext, _⟩
    split_ifs at hpayload with hempty
    cases hpayload
    obtain ⟨headers, hvalues, rfl⟩ := build_canonical_headers_eq_some hblock
    obtain rfl : headers = signed.headers := Option.some.inj (hvalues.symm.trans (sent_values hsent))
    have hlines := signer_request_lines.symm.trans (htext.trans (request_text_lines _ _ _ _ _ _))
    have hcut := List.append_cancel_left (List.append_cancel_right hlines)
    obtain ⟨parameters, _, rfl, _⟩ := canonical_query_build_eq_some hquery
    have hnames : ∀ header ∈ signed.headers, 10 ∉ header.1 := by
      have hplain : 10 ∉ ascii "host" ∧ 10 ∉ ascii "x-amz-content-sha256" ∧ 10 ∉ ascii "x-amz-date" := by
        decide
      simpa [SignRequest.headers] using hplain
    have hbodies : ∀ line ∈ signed.headers.map header_body, 10 ∉ line := by
      intro line hline
      obtain ⟨header, hheader, rfl⟩ := List.mem_map.mp hline
      exact lf_not_mem_body (hnames header hheader)
    have hsame := lines_inj (by simp) (by
      simpa [(uri_encode_eq_some huri).1, lf_not_mem_uri, lf_not_mem_query] using hbodies) hcut.symm
    simp only [List.cons_append, List.nil_append, List.cons.injEq] at hsame
    obtain ⟨rfl, hquery_eq, hsame⟩ := hsame
    obtain ⟨_, hhost, hpayload, hdate⟩ := signed_names
    simp only [SignRequest.headers, List.map_cons, List.map_nil, header_body, raw_body, hhost,
      hpayload, hdate, List.cons.injEq, List.append_cancel_left_eq, true_and, and_true] at hsame
    simp only [← normalized_eq_trimmed] at hsame
    rw [hquery_eq] at hquery
    exact ⟨huri, hquery, hsame.1, ⟨hempty, hsame.2.1⟩, hsame.2.2⟩
  · intro hself
    refine ⟨_, _, _, _, hself.uri, hself.query, sent_headers hsent hself hheaders,
      show SIGNED_HEADERS.length < 512 by decide, if_neg hself.payload.1, rfl, ?_⟩
    exact Nat.lt_trans hrequest (by decide)

theorem decode_signature_hex_encode (stack computed : Bytes 32) :
    decode_signature stack (hex_encode computed.toList) = some computed.toList := by
  have hlength : computed.toList.length = 32 := computed.toList_length
  rw [decode_signature, if_neg (by simp [hlength]), hex_decode_encode, Option.map_some, hlength,
    List.drop_eq_nil_of_le (by simp), List.append_nil]

/-- A signed request whose scope can be told apart in its authorization. -/
structure SignRequest.Named (signed : SignRequest) : Prop where
  access_key : ScopeName signed.access_key.val
  region : ScopeName signed.region.val
  service : ScopeName signed.service.val

/-- A signed request whose authorization the verifier reads back. -/
structure SignRequest.Readable (signed : SignRequest) : Prop extends signed.Named where
  fits : (signed.access_key.val ++ 47 :: signed.scope).length < 256

section

variable {epoch : Int} (hepoch : parse_amzdate signed.amzdate.val = some epoch) (hnamed : signed.Named)

include hepoch hnamed

/-- The scope of a signed request, as the verifier reads it. -/
theorem split_scope_signed :
    split_scope (signed.access_key.val ++ 47 :: signed.scope) =
      some ⟨signed.access_key.val, signed.amzdate.val.take 8, signed.amzdate.val.take 8, signed.region.val,
        signed.service.val, TERMINATOR⟩ := by
  have htake : (signed.amzdate.val.take 8).length = 8 := by
    rw [List.length_take, parse_amzdate_length hepoch]
    rfl
  have hdate : Part (signed.amzdate.val.take 8) := by
    refine ⟨fun hnil => ?_, fun hslash => ?_, fun hzero => signed.amzdate.2 (List.mem_of_mem_take hzero)⟩
    · rw [hnil] at htake
      cases htake
    · exact absurd (scanned_date hepoch 47 hslash) (by decide)
  have hterminator : TERMINATOR ≠ [] ∧ 47 ∉ TERMINATOR ∧ 0 ∉ TERMINATOR := by decide
  have hpart {name : CString} (hname : ScopeName name.val) : Part name.val := ⟨hname.ne_nil, hname.slash, name.2⟩
  exact split_scope_parts (hpart hnamed.access_key) hdate (hpart hnamed.region) (hpart hnamed.service)
    ⟨hterminator.1, hterminator.2.1, hterminator.2.2⟩ htake

theorem comma_not_mem_scope : 44 ∉ signed.access_key.val ++ 47 :: signed.scope := by
  have hcomma : 44 ∉ signed.amzdate.val.take 8 := fun hmem => absurd (scanned_date hepoch 44 hmem) (by decide)
  have hterminator : 44 ∉ TERMINATOR := by decide
  simp [SignRequest.scope, scope_text, hcomma, hnamed.access_key.comma, hnamed.region.comma, hnamed.service.comma,
    hterminator]

end

/-- A signed request that is accepted is read back, if no other access key is
known. -/
theorem readable_of_ok {stack computed : Bytes 32} {credential : Option Credential} {resolver : Option Resolver}
    {now epoch skew : Int} (hauthorization : request.authorization.val = signed.authorization computed)
    (hepoch : parse_amzdate signed.amzdate.val = some epoch)
    (hresolve : resolve_credential signed.access_key.val credential resolver =
      .ok ⟨signed.secret_key, signed.region.val, signed.service.val, skew⟩)
    (hknown : ∀ name cred, resolve_credential name credential resolver = .ok cred → name = signed.access_key.val)
    (hok : verify_request_ex_v1 crypto stack credential resolver request now = .OK) : signed.Readable := by
  obtain ⟨auth, scope, cred, _, _, _, hauth, _, hsplit, hchecked⟩ := verify_request_ok_iff.mp hok
  have haccess : scope.access_key = signed.access_key.val := hknown _ _ hchecked.resolved
  have hcred : resolve_credential scope.access_key credential resolver = .ok cred := hchecked.resolved
  rw [haccess, hresolve] at hcred
  obtain ⟨hregion, hservice, _⟩ := hchecked.scope
  rw [← Except.ok.inj hcred] at hregion hservice
  change scope.region = signed.region.val at hregion
  change scope.service = signed.service.val at hservice
  have hcomma := comma_not_mem_credential hauth
  have hname (name : List UInt8) (hmem : name ∈ [scope.access_key, scope.region, scope.service]) : ScopeName name := by
    obtain ⟨hpart, hbytes⟩ := split_scope_eq_some hsplit name hmem
    exact ⟨hpart.ne_nil, hpart.slash, fun hc => hcomma (hbytes 44 hc)⟩
  have hnamed : signed.Named :=
    ⟨haccess ▸ hname _ (by simp), hregion ▸ hname _ (by simp), hservice ▸ hname _ (by simp)⟩
  refine ⟨hnamed, ?_⟩
  by_contra hlong
  rw [hauthorization, auth_parse_authorization computed (comma_not_mem_scope hepoch hnamed), if_neg hlong] at hauth
  cases hauth

/-- When a signed request is accepted. The verifier has the signer's secret,
region and service, and the time is in the window of the date. Then a request
is accepted whose scope can be read back from the authorization and whose URI,
query and header values are their own canonical forms; and any other is
refused, unless the verifier knows another access key or the signature collides
with that of the verifier's canonical request. -/
theorem signed_request_accepted (crypto : Crypto) (stack : Bytes 32) (credential : Option Credential)
    (resolver : Option Resolver) (signed : SignRequest) (cap : Nat) (authorization : List UInt8) (request : Request)
    (now epoch skew : Int) (hsign : sign_request_v1 crypto signed cap = .ok authorization)
    (hsent : signed.SentAs authorization request)
    (hresolve : resolve_credential signed.access_key.val credential resolver =
      .ok ⟨signed.secret_key, signed.region.val, signed.service.val, skew⟩)
    (hepoch : parse_amzdate signed.amzdate.val = some epoch) (hwindow : in_window now 0 epoch skew = true) :
    (signed.Readable ∧ signed.SelfCanonical → verify_request_ex_v1 crypto stack credential resolver request now = .OK) ∧
      ((∀ name cred, resolve_credential name credential resolver = .ok cred → name = signed.access_key.val) →
        (∀ text, canonical_request (request.input SIGNED_HEADERS) = some text →
          signed.signature crypto text = signed.signature crypto signed.canonical_request →
          text = signed.canonical_request) →
        verify_request_ex_v1 crypto stack credential resolver request now = .OK →
        signed.Readable ∧ signed.SelfCanonical) := by
  obtain ⟨_, hheaders, hrequest, hscope, computed, hcomputed, rfl⟩ := sign_request_eq_ok hsign
  have hauth (hreadable : signed.Readable) :=
    (hsent.authorization ▸ auth_parse_authorization computed (comma_not_mem_scope hepoch hreadable.toNamed)).trans
      (if_pos hreadable.fits)
  have hsplit (hreadable : signed.Readable) := split_scope_signed hepoch hreadable.toNamed
  have htake : (scope_text (signed.amzdate.val.take 8) signed.region.val signed.service.val TERMINATOR).take 191 =
      signed.scope := List.take_of_length_le (Nat.le_of_lt_succ hscope)
  have hcanonical := canonical_request_signed_iff hsent hheaders hrequest
  constructor
  · rintro ⟨hreadable, hself⟩
    refine verify_request_ok_iff.mpr ⟨_, _, _, signed.amzdate, signed.canonical_request, computed, hauth hreadable, rfl,
      hsplit hreadable, hresolve, ⟨rfl, rfl, rfl⟩, hsent.amzdate, ⟨epoch, hepoch, hwindow⟩, hcanonical.mpr hself, ?_,
      decode_signature_hex_encode stack computed⟩
    dsimp only [Request.context]
    rw [htake]
    exact hcomputed
  · intro hknown hfree hok
    have hreadable := readable_of_ok hsent.authorization hepoch hresolve hknown hok
    refine ⟨hreadable, ?_⟩
    obtain ⟨auth, scope, cred, amzdate, text, found, hauth', _, hsplit', hchecked⟩ := verify_request_ok_iff.mp hok
    obtain rfl := Option.some.inj ((hauth hreadable).symm.trans hauth')
    obtain rfl := Option.some.inj ((hsplit hreadable).symm.trans hsplit')
    obtain rfl := Except.ok.inj (hresolve.symm.trans hchecked.resolved)
    obtain rfl := Option.some.inj (hsent.amzdate.symm.trans hchecked.dated)
    have hfound : computed = found := by
      have hexpected := (decode_signature_hex_encode stack computed).symm.trans hchecked.expected
      exact Subtype.ext (Option.some.inj hexpected)
    have hsigned := hchecked.signed
    dsimp only [Request.context] at hsigned
    rw [htake, ← hfound] at hsigned
    have htext := hfree text hchecked.canonical (hsigned.trans hcomputed.symm)
    apply hcanonical.mp
    rw [← htext]
    exact hchecked.canonical

end signed

section samples

theorem sent_as (signed : SignRequest) (authorization : CString) :
    signed.SentAs authorization.val (signed.request authorization) := by
  have hnames : ascii "x-amz-content-sha256" ≠ ascii "host" ∧ ascii "x-amz-date" ≠ ascii "host" ∧
      ascii "x-amz-date" ≠ ascii "x-amz-content-sha256" := by decide
  exact ⟨rfl, rfl, rfl, rfl, rfl, by simp [SignRequest.request], by simp [SignRequest.request, hnames], by
    simp [SignRequest.request, hnames]⟩

/-- A request with a canonical query is signed and accepted. -/
theorem canonical_query_accepted :
    sign_request_v1 checksum_crypto (bucket_request query_ab) 1024 = .ok authorization_ab.val ∧
      verify_request_ex_v1 checksum_crypto (Bytes.zero 32) (some (bucket_request query_ab).credential) none
        ((bucket_request query_ab).request authorization_ab) new_year = .OK := by
  have hsign : sign_request_v1 checksum_crypto (bucket_request query_ab) 1024 = .ok authorization_ab.val := by
    decide +kernel
  have hself : (bucket_request query_ab).SelfCanonical :=
    ⟨by decide +kernel, by decide +kernel, by decide +kernel, by decide +kernel, by decide +kernel⟩
  have hreadable : (bucket_request query_ab).Readable :=
    ⟨⟨⟨by decide +kernel, by decide +kernel, by decide +kernel⟩, ⟨by decide +kernel, by decide +kernel, by decide +kernel⟩,
      ⟨by decide +kernel, by decide +kernel, by decide +kernel⟩⟩, by decide +kernel⟩
  refine ⟨hsign, ?_⟩
  exact (signed_request_accepted checksum_crypto (Bytes.zero 32) (some (bucket_request query_ab).credential) none
    (bucket_request query_ab) 1024 authorization_ab.val _ new_year new_year 0 hsign (sent_as _ _) rfl
    (by decide +kernel) (by decide +kernel)).1 ⟨hreadable, hself⟩

def authorization_ba : CString :=
  ⟨(sign_request_v1 checksum_crypto (bucket_request query_ba) 1024).toOption.getD [], by decide +kernel⟩

/-- A request with the query `b=2&a=1` is signed and then refused at the very
time of its signature. -/
theorem unsorted_query_refused :
    sign_request_v1 checksum_crypto (bucket_request query_ba) 1024 = .ok authorization_ba.val ∧
      verify_request_ex_v1 checksum_crypto (Bytes.zero 32) (some (bucket_request query_ba).credential) none
        ((bucket_request query_ba).request authorization_ba) new_year = .BAD_SIGNATURE := by
  decide +kernel

end samples

end turbop2p.m3_gateway_sigv4
