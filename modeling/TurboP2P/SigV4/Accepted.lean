import TurboP2P.SigV4.Format
import TurboP2P.SigV4.Verify

open Text (ascii hex_encode)
open turbop2p.m3_gateway (CString c_string ascii_lower)

namespace turbop2p.m3_gateway_sigv4

section inversion

variable {crypto : Crypto} {stack : Bytes 32}

variable {text scope_access_key : List UInt8}

theorem signature_eq_some {secret_key : Bytes 32} {date_bytes region service amzdate scope : List UInt8}
    {computed : Bytes 32} :
    signature crypto secret_key date_bytes region service amzdate scope text = some computed ↔
      ∃ digest key, crypto.sha256 text = some digest ∧ (string_to_sign amzdate scope digest).length < 8192 ∧
        signing_key crypto secret_key date_bytes region service = some key ∧
        crypto.hmac_sha256 key.toList (string_to_sign amzdate scope digest) = some computed := by
  unfold signature
  simp only [Option.bind_eq_bind, Option.bind_eq_some_iff]
  constructor
  · rintro ⟨digest, hdigest, hsigned⟩
    obtain ⟨hlength, hsigned⟩ := guard_passed hsigned
    obtain ⟨key, hkey, hsigned⟩ := Option.bind_eq_some_iff.mp hsigned
    exact ⟨digest, key, hdigest, Nat.lt_of_not_ge hlength, hkey, hsigned⟩
  · rintro ⟨digest, key, hdigest, hlength, hkey, hsigned⟩
    refine ⟨digest, hdigest, ?_⟩
    rw [if_neg (Nat.not_le_of_gt hlength), hkey]
    exact hsigned

/-- What `m3_sigv4_verify_core` has checked when it accepts. -/
structure Checked (crypto : Crypto) (stack : Bytes 32) (context : VerifyContext) (cred : Resolved)
    (amzdate : CString) (text : List UInt8) (computed : Bytes 32) : Prop where
  resolved : resolve_credential context.scope.access_key context.credential context.resolver = .ok cred
  scope : context.scope.region = cred.region ∧ context.scope.service = cred.service ∧
    context.scope.terminator = TERMINATOR
  dated : context.amzdate = some amzdate
  window : ∃ epoch, parse_amzdate amzdate.val = some epoch ∧
    in_window context.now_seconds context.expires_seconds epoch cred.clock_skew_seconds = true
  canonical : canonical_request context.input = some text
  signed : signature crypto cred.secret_key context.scope.date_bytes context.scope.region context.scope.service
    amzdate.val ((scope_text context.scope.date context.scope.region context.scope.service
      context.scope.terminator).take 191) text = some computed
  expected : decode_signature stack context.signature_hex = some computed.toList

variable {credential : Option Credential} {resolver : Option Resolver}

theorem resolve_credential_error_ne {result : Result}
    (herror : resolve_credential scope_access_key credential resolver = .error result) : result ≠ .OK := by
  rintro rfl
  unfold resolve_credential at herror
  split at herror
  · split at herror <;> cases herror
  · split at herror
    · cases herror
    · obtain ⟨_, herror⟩ := guard_passed herror
      split at herror
      · cases herror
      · obtain ⟨_, herror⟩ := guard_passed herror
        cases herror

theorem verify_core_ok_iff {context : VerifyContext} :
    verify_core crypto stack context = .OK ↔
      ∃ cred amzdate text computed, Checked crypto stack context cred amzdate text computed := by
  constructor
  · intro hok
    unfold verify_core at hok
    cases hresolve : resolve_credential context.scope.access_key context.credential context.resolver with
    | error result =>
      rw [hresolve] at hok
      exact absurd hok (resolve_credential_error_ne hresolve)
    | ok cred =>
      simp only [hresolve] at hok
      obtain ⟨hscope, hok⟩ := guard_passed hok
      simp only [not_or, not_not] at hscope
      cases hamzdate : context.amzdate with
      | none => simp [hamzdate] at hok
      | some amzdate =>
        simp only [hamzdate] at hok
        cases hepoch : parse_amzdate amzdate.val with
        | none => simp [hepoch] at hok
        | some epoch =>
          simp only [hepoch] at hok
          obtain ⟨hwindow, hok⟩ := guard_passed hok
          cases htext : canonical_request context.input with
          | none => simp [htext] at hok
          | some text =>
            simp only [htext] at hok
            cases hsigned : signature crypto cred.secret_key context.scope.date_bytes context.scope.region
                context.scope.service amzdate.val ((scope_text context.scope.date context.scope.region
                  context.scope.service context.scope.terminator).take 191) text with
            | none => simp [hsigned] at hok
            | some computed =>
              simp only [hsigned] at hok
              cases hexpected : decode_signature stack context.signature_hex with
              | none => simp [hexpected] at hok
              | some expected =>
                simp only [hexpected] at hok
                split_ifs at hok with hsame
                refine ⟨cred, amzdate, text, computed, hresolve, hscope, hamzdate, ⟨epoch, hepoch, by simpa using hwindow⟩,
                  htext, hsigned, ?_⟩
                rw [hexpected, hsame]
  · rintro ⟨cred, amzdate, text, computed, hchecked⟩
    obtain ⟨hregion, hservice, hterminator⟩ := hchecked.scope
    obtain ⟨epoch, hepoch, hwindow⟩ := hchecked.window
    unfold verify_core
    simp only [hchecked.resolved, hchecked.dated, hepoch, hwindow, hchecked.canonical, hchecked.signed,
      hchecked.expected, if_true]
    rw [if_neg (by simp [hregion, hservice, hterminator])]
    rfl

/-- A caller without a resolver has passed a usable credential if the
credential can be resolved. -/
theorem usable_of_resolved {cred : Resolved}
    (hresolve : resolve_credential scope_access_key credential resolver = .ok cred) :
    ¬(resolver.isNone ∧ Credential.usable credential = false) := by
  rintro ⟨hnone, hunusable⟩
  obtain rfl := Option.isNone_iff_eq_none.mp hnone
  cases credential with
  | none => cases hresolve
  | some credential =>
    obtain ⟨hkey, hresolve⟩ := guard_passed hresolve
    unfold Credential.resolved at hresolve
    cases hregion : credential.region <;> cases hservice : credential.service <;> simp_all [Credential.usable]

theorem verify_request_ok_iff {request : Request} {now_seconds : Int} :
    verify_request_ex_v1 crypto stack credential resolver request now_seconds = .OK ↔
      ∃ auth scope cred amzdate text computed, auth_parse request.authorization.val = some auth ∧
        auth.algorithm = ALGORITHM ∧ split_scope auth.credential = some scope ∧
        Checked crypto stack (request.context auth scope credential resolver now_seconds) cred amzdate text
          computed := by
  constructor
  · intro hok
    obtain ⟨_, hok⟩ := guard_passed hok
    cases hauth : auth_parse request.authorization.val with
    | none => simp [hauth] at hok
    | some auth =>
      simp only [hauth] at hok
      obtain ⟨halgorithm, hok⟩ := guard_passed hok
      cases hscope : split_scope auth.credential with
      | none => simp [hscope] at hok
      | some scope =>
        simp only [hscope] at hok
        obtain ⟨cred, amzdate, text, computed, hchecked⟩ := verify_core_ok_iff.mp hok
        exact ⟨auth, scope, cred, amzdate, text, computed, rfl, not_not.mp halgorithm, hscope, hchecked⟩
  · rintro ⟨auth, scope, cred, amzdate, text, computed, hauth, halgorithm, hscope, hchecked⟩
    have husable : ¬(resolver.isNone ∧ Credential.usable credential = false) := usable_of_resolved hchecked.resolved
    unfold verify_request_ex_v1
    rw [if_neg husable]
    simp only [hauth, halgorithm, hscope, ne_eq, not_true_eq_false, if_false]
    exact verify_core_ok_iff.mpr ⟨cred, amzdate, text, computed, hchecked⟩

/-- Only a date of sixteen bytes is parsed. -/
theorem parse_amzdate_length {epoch : Int} (hparse : parse_amzdate text = some epoch) : text.length = 16 := by
  obtain ⟨hshape, _⟩ := guard_passed hparse
  simp only [not_or, not_not] at hshape
  exact hshape.1

/-- A signature with all of its digits leaves nothing of the stack. -/
theorem decode_signature_full {signature_hex expected : List UInt8} (hfull : signature_hex.length = 64)
    (hdecode : decode_signature stack signature_hex = some expected) :
    Text.hex_decode signature_hex = some expected := by
  obtain ⟨_, hdecode⟩ := guard_passed hdecode
  obtain ⟨decoded, hdecoded, rfl⟩ := Option.map_eq_some_iff.mp hdecode
  have hlength := Text.length_of_hex_decode hdecoded
  rw [List.drop_eq_nil_of_le (by simp; omega), List.append_nil]
  exact hdecoded

end inversion

section lines

/-- A canonical header without its end of line. -/
def header_body (header : List UInt8 × List UInt8) : List UInt8 :=
  header.1.map ascii_lower ++ 58 :: trimmed header.2

theorem lines_of_headers (headers : List (List UInt8 × List UInt8)) (rest : List UInt8) :
    10 :: (headers.flatMap aws_header ++ rest) = (headers.map header_body).flatMap (10 :: ·) ++ 10 :: rest := by
  induction headers with
  | nil => rfl
  | cons header headers ih =>
    simp only [List.flatMap_cons, List.map_cons, aws_header, header_line, header_body, List.append_assoc,
      List.cons_append, List.nil_append] at ih ⊢
    rw [ih]

theorem request_text_lines (method uri query : List UInt8) (headers : List (List UInt8 × List UInt8))
    (signed_headers payload_hash : List UInt8) :
    request_text method uri query (headers.flatMap aws_header) signed_headers payload_hash =
      method ++ ([uri, query] ++ headers.map header_body).flatMap (10 :: ·) ++
        [signed_headers, payload_hash].flatMap (10 :: ·) := by
  rw [request_text, lines_of_headers]
  simp

theorem lf_not_mem_lower {name : List UInt8} (hname : 10 ∉ name) : 10 ∉ name.map ascii_lower := by
  have hlower : ∀ c, ascii_lower c = 10 → c = 10 :=
    Text.forall_byte (p := fun c => ascii_lower c = 10 → c = 10) (by decide +kernel)
  rw [List.mem_map]
  rintro ⟨c, hc, hten⟩
  exact hname (hlower c hten ▸ hc)

theorem lf_not_mem_body {header : List UInt8 × List UInt8} (hname : 10 ∉ header.1) : 10 ∉ header_body header := by
  simp [header_body, lf_not_mem_lower hname, lf_not_mem_trimmed]

theorem signed_values_names {lookup : Lookup} {names : List (List UInt8)}
    {headers : List (List UInt8 × List UInt8)} (hvalues : signed_values lookup names = some headers) :
    headers.map Prod.fst = names := by
  induction names generalizing headers with
  | nil =>
    cases hvalues
    rfl
  | cons name rest ih =>
    unfold signed_values at hvalues
    simp only [Option.bind_eq_bind, Option.bind_eq_some_iff] at hvalues
    obtain ⟨value, _, tail, htail, hsame⟩ := hvalues
    cases hsame
    simp [ih htail]

/-- A segment has only bytes of the whole. -/
theorem mem_of_mem_segments {separator c : UInt8} {raw segment : List UInt8} (hsegment : segment ∈ segments separator raw)
    (hc : c ∈ segment) : c ∈ raw := by
  unfold segments at hsegment
  dsimp only at hsegment
  split_ifs at hsegment
  · exact Text.mem_of_mem_splitOn (List.dropLast_subset _ hsegment) hc
  · exact Text.mem_of_mem_splitOn hsegment hc

end lines

section signing

/-- What the verifier computes for a request: the text that it hashes, and the
key and the message of its last call of the keyed hash. -/
structure Signing where
  auth : ParsedAuth
  amzdate : CString
  payload_hash : List UInt8
  text : List UInt8
  key : List UInt8
  message : List UInt8

def Request.signing (crypto : Crypto) (credential : Option Credential) (resolver : Option Resolver)
    (request : Request) : Option Signing := do
  let auth ← auth_parse request.authorization.val
  let scope ← split_scope auth.credential
  let cred ← (resolve_credential scope.access_key credential resolver).toOption
  let amzdate ← request.x_amz_date.or request.date
  let payload_hash ← (request.input auth.signed_headers).payload
  let text ← canonical_request (request.input auth.signed_headers)
  let digest ← crypto.sha256 text
  let key ← signing_key crypto cred.secret_key scope.date_bytes scope.region scope.service
  some
    { auth, amzdate, payload_hash, text, key := key.toList
      message := string_to_sign amzdate.val
        ((scope_text scope.date scope.region scope.service scope.terminator).take 191) digest }

variable {crypto : Crypto} {credential : Option Credential} {resolver : Option Resolver} {request : Request}

/-- What is known of the computation of an accepted request. -/
structure Signing.Accepts (crypto : Crypto) (stack : Bytes 32) (request : Request) (signing : Signing) : Prop where
  canonical : canonical_request (request.input signing.auth.signed_headers) = some signing.text
  payload : (request.input signing.auth.signed_headers).payload = some signing.payload_hash
  message : ∃ scope digest, crypto.sha256 signing.text = some digest ∧
    signing.message = string_to_sign signing.amzdate.val scope digest
  length_amzdate : signing.amzdate.val.length = 16
  signed : ∃ computed : Bytes 32, crypto.hmac_sha256 signing.key signing.message = some computed ∧
    decode_signature stack signing.auth.signature_hex = some computed.toList

theorem accepts_of_ok {stack : Bytes 32} {now_seconds : Int} {signing : Signing}
    (hok : verify_request_ex_v1 crypto stack credential resolver request now_seconds = .OK)
    (hsigning : request.signing crypto credential resolver = some signing) :
    signing.Accepts crypto stack request := by
  obtain ⟨auth, scope, cred, amzdate, text, computed, hauth, _, hscope, hchecked⟩ := verify_request_ok_iff.mp hok
  obtain ⟨epoch, hepoch, _⟩ := hchecked.window
  obtain ⟨digest, key, hdigest, _, hkey, hsigned⟩ := signature_eq_some.mp hchecked.signed
  have hresolved : resolve_credential scope.access_key credential resolver = .ok cred := hchecked.resolved
  have hdated : request.x_amz_date.or request.date = some amzdate := hchecked.dated
  have hcanonical : canonical_request (request.input auth.signed_headers) = some text := hchecked.canonical
  have hkey : signing_key crypto cred.secret_key scope.date_bytes scope.region scope.service = some key := hkey
  obtain ⟨_, _, payload_hash, _, _, hpayload, _⟩ := canonical_request_eq_some hcanonical
  simp only [Request.signing, hauth, hscope, hresolved, hdated, hpayload, hcanonical, hdigest, hkey,
    Option.bind_eq_bind, Option.bind_some, Except.toOption, Option.some.injEq] at hsigning
  subst hsigning
  exact ⟨hcanonical, hpayload, ⟨_, digest, hdigest, rfl⟩, parse_amzdate_length hepoch, computed, hsigned,
    hchecked.expected⟩

end signing

section injectivity

/-- The date and the digest can be read off the message that is signed. -/
theorem string_to_sign_inj {amzdate amzdate' scope scope' : List UInt8} {digest digest' : Bytes 32}
    (hlength : amzdate.length = amzdate'.length)
    (hsame : string_to_sign amzdate scope digest = string_to_sign amzdate' scope' digest') :
    amzdate = amzdate' ∧ digest = digest' := by
  have hrest := (List.cons.inj (List.append_cancel_left hsame)).2
  obtain ⟨hamzdate, hrest⟩ := List.append_inj hrest hlength
  have hrest := (List.cons.inj hrest).2
  have hsize : (10 :: hex_encode digest.toList).length = (10 :: hex_encode digest'.toList).length := by simp
  obtain ⟨_, hhex⟩ := List.append_inj' hrest hsize
  have hdigest := Text.hex_encode_injective (List.cons.inj hhex).2
  exact ⟨hamzdate, Subtype.ext hdigest⟩

theorem header_bodies_inj {headers headers' : List (List UInt8 × List UInt8)}
    (hnames : headers.map Prod.fst = headers'.map Prod.fst)
    (hbodies : headers.map header_body = headers'.map header_body) :
    headers.map (fun header => (header.1, trimmed header.2)) =
      headers'.map fun header => (header.1, trimmed header.2) := by
  induction headers generalizing headers' with
  | nil =>
    cases headers' with
    | nil => rfl
    | cons header' headers' => cases hnames
  | cons header headers ih =>
    cases headers' with
    | nil => cases hnames
    | cons header' headers' =>
      obtain ⟨hname, hnames⟩ := List.cons.inj hnames
      obtain ⟨hbody, hbodies⟩ := List.cons.inj hbodies
      rw [header_body, header_body, hname] at hbody
      have hvalue := (List.cons.inj (List.append_cancel_left hbody)).2
      rw [List.map_cons, List.map_cons, ih hnames hbodies, hname, hvalue]

/-- What one canonical request says of two requests. -/
theorem canonical_request_inj {left right : CanonicalInput} {text : List UInt8}
    (hleft : canonical_request left = some text) (hright : canonical_request right = some text)
    (hheaders : 10 ∉ left.signed_headers ∧ 10 ∉ right.signed_headers)
    (hpayloads : (∀ payload ∈ left.payload, 10 ∉ payload) ∧ ∀ payload ∈ right.payload, 10 ∉ payload) :
    left.method = right.method ∧ left.canonical_uri = right.canonical_uri ∧
      (∃ parameters parameters', decoded_query left.raw_query = some parameters ∧
        decoded_query right.raw_query = some parameters' ∧
        emitted left.exclude_query_name parameters = emitted right.exclude_query_name parameters') ∧
      left.signed_headers = right.signed_headers ∧
      (∃ headers headers', signed_values left.lookup (segments 59 left.signed_headers) = some headers ∧
        signed_values right.lookup (segments 59 right.signed_headers) = some headers' ∧
        headers.map (fun header => (header.1, trimmed header.2)) =
          headers'.map fun header => (header.1, trimmed header.2)) ∧
      left.payload = right.payload := by
  obtain ⟨parameters, headers, payload, hparameters, hvalues, hpayload, htext⟩ := canonical_request_eq_some hleft
  obtain ⟨parameters', headers', payload', hparameters', hvalues', hpayload', htext'⟩ :=
    canonical_request_eq_some hright
  rw [htext, request_text_lines, request_text_lines] at htext'
  have hend : ∀ line ∈ [left.signed_headers, payload], 10 ∉ line := by
    simpa using ⟨hheaders.1, hpayloads.1 payload hpayload⟩
  have hend' : ∀ line ∈ [right.signed_headers, payload'], 10 ∉ line := by
    simpa using ⟨hheaders.2, hpayloads.2 payload' hpayload'⟩
  -- The last two lines come first, since the list of names says how many header lines there are.
  have htwo : [left.signed_headers, payload].length = [right.signed_headers, payload'].length := rfl
  obtain ⟨hfront, hlast⟩ := Text.append_lines_inj htwo hend hend' htext'
  obtain ⟨hsigned, hlast⟩ := List.cons.inj hlast
  have hsame := (List.cons.inj hlast).1
  have hnames : headers.map Prod.fst = headers'.map Prod.fst := by
    rw [signed_values_names hvalues, signed_values_names hvalues', hsigned]
  have hcount : headers.length = headers'.length := by
    simpa using congrArg List.length hnames
  have hbody {input : CanonicalInput} {headers : List (List UInt8 × List UInt8)} (hlf : 10 ∉ input.signed_headers)
      (hvalues : signed_values input.lookup (segments 59 input.signed_headers) = some headers) :
      ∀ line ∈ headers.map header_body, 10 ∉ line := by
    intro line hline
    obtain ⟨header, hheader, rfl⟩ := List.mem_map.mp hline
    apply lf_not_mem_body
    intro hmem
    have hname : header.1 ∈ segments 59 input.signed_headers := by
      rw [← signed_values_names hvalues]
      exact List.mem_map_of_mem hheader
    exact hlf (mem_of_mem_segments hname hmem)
  obtain ⟨hmethod, hlines⟩ := Text.append_lines_inj (by simp [hcount])
    (by simpa [lf_not_mem_uri, lf_not_mem_query] using hbody hheaders.1 hvalues)
    (by simpa [lf_not_mem_uri, lf_not_mem_query] using hbody hheaders.2 hvalues') hfront
  obtain ⟨huri, hlines⟩ := List.cons.inj hlines
  obtain ⟨hquery, hbodies⟩ := List.cons.inj hlines
  refine ⟨Subtype.ext hmethod, Subtype.ext (Percent.encode_injective (by decide) huri),
    ⟨parameters, parameters', hparameters, hparameters', eq_of_joined_text hquery⟩, hsigned,
    ⟨headers, headers', hvalues, hvalues', header_bodies_inj hnames hbodies⟩, ?_⟩
  rw [hpayload, hpayload', hsame]

theorem kept_none (pairs : List QueryPair) : kept none pairs = pairs := by
  simp [kept]

theorem emitted_none_perm (parameters : List QueryPair) :
    (emitted none parameters).Perm (parameters.map QueryPair.truncated) := by
  simpa only [kept_none] using emitted_perm none parameters

section canonical_form

variable {pairs : List QueryPair} {bytes : List UInt8} {cap : Nat}

theorem segment_pair_text (pair : QueryPair) : segment_pair pair.text = pair.encoded :=
  segment_pair_plain (encoded_clean pair).equals_name

theorem percent_decode_encode (hfits : bytes.length < cap) :
    percent_decode cap (Percent.encode (unreserved true) bytes) = some bytes := by
  rw [percent_decode, Percent.decode_encode (by decide), Option.filter_some_pos (by simpa using hfits)]

/-- Parameters without zeros are parsed from their canonical form. -/
theorem query_parse_text {o count : Nat} (hplain : ∀ pair ∈ pairs, pair.truncated = pair)
    (hroom : o + weight pairs + pairs.length < QUERY_BUF) (hcount : count + pairs.length ≤ MAX_PAIRS) :
    query_parse o count (pairs.map QueryPair.text) = some pairs := by
  induction pairs generalizing o count with
  | nil => rfl
  | cons pair rest ih =>
    obtain ⟨hpair, hrest⟩ := List.forall_mem_cons.mp hplain
    obtain ⟨hname, hvalue⟩ := QueryPair.mk.inj hpair
    obtain ⟨hname', hvalue'⟩ := QueryPair.mk.inj (segment_pair_text pair)
    simp only [weight_cons, List.length_cons] at hroom hcount
    rw [List.map_cons, query_parse, if_neg (by omega), hname', percent_decode_encode (by omega)]
    dsimp only
    rw [hname, if_neg (by omega), hvalue', percent_decode_encode (by omega)]
    dsimp only
    rw [hvalue, if_neg (by omega), ih hrest (by omega) (by omega)]
    rfl

theorem decode_segments_text (pairs : List QueryPair) : decode_segments (pairs.map QueryPair.text) = some pairs := by
  induction pairs with
  | nil => rfl
  | cons pair rest ih =>
    obtain ⟨hname, hvalue⟩ := QueryPair.mk.inj (segment_pair_text pair)
    simp [decode_segments, hname, hvalue, Percent.decode_encode, unreserved, ih]

theorem segments_joined (hpairs : pairs ≠ []) :
    segments 38 (joined (pairs.map QueryPair.text)) = pairs.map QueryPair.text := by
  have hamp : ∀ text ∈ pairs.map QueryPair.text, 38 ∉ text := by
    intro text htext
    obtain ⟨pair, _, rfl⟩ := List.mem_map.mp htext
    simp [text_eq_plain, QueryPair.plain, (encoded_clean pair).amp_name, (encoded_clean pair).amp_value]
  have hlast : (pairs.map QueryPair.text).getLast? ≠ some [] := by
    simp [List.getLast?_map, QueryPair.text]
  rw [segments, joined, List.splitOn_intercalate 38 hamp (by simpa using hpairs)]
  exact if_neg hlast

theorem zero_not_mem_joined (pairs : List QueryPair) : 0 ∉ joined (pairs.map QueryPair.text) := by
  have hescaped : ∀ byte, 0 ∉ Percent.escaped byte :=
    Text.forall_byte (p := fun byte => 0 ∉ Percent.escaped byte) (by decide +kernel)
  have hencoded (bytes : List UInt8) : 0 ∉ Percent.encode (unreserved true) bytes :=
    Percent.not_mem_encode (by decide) hescaped bytes
  rw [map_text]
  refine not_mem_joined (by decide) fun pair hpair => ?_
  obtain ⟨source, _, rfl⟩ := List.mem_map.mp hpair
  exact ⟨hencoded _, hencoded _⟩

theorem truncated_of_mem_emitted {parameters : List QueryPair} {pair : QueryPair}
    (hpair : pair ∈ emitted none parameters) : pair.truncated = pair := by
  obtain ⟨source, _, rfl⟩ := List.mem_map.mp ((emitted_none_perm parameters).mem_iff.mp hpair)
  have hidem (bytes : List UInt8) : c_string (c_string bytes) = c_string bytes :=
    Text.takeWhile_ne_self fun hzero => by simpa using List.mem_takeWhile_imp hzero
  exact congrArg₂ QueryPair.mk (hidem _) (hidem _)

/-- The canonical query is a query of its own, with the parameters as the
verifier sees them. -/
theorem canonical_query_reparsed {raw : Option CString} {parameters : List QueryPair} {query : List UInt8}
    (hquery : canonical_query_build raw none cap = some query) (hparameters : decoded_query raw = some parameters)
    (hne : parameters ≠ []) :
    ∃ canonical : CString, canonical_query_build (some canonical) none cap = some query ∧
      decoded_query (some canonical) = some (emitted none parameters) := by
  obtain ⟨parameters', hdecoded, rfl, hbounds⟩ := canonical_query_build_eq_some hquery
  obtain rfl := Option.some.inj (hparameters.symm.trans hdecoded)
  obtain ⟨hroom, hcount, hfits⟩ := hbounds hne
  have hperm := emitted_none_perm parameters
  have hlength : (emitted none parameters).length = parameters.length := hperm.length_eq.trans (List.length_map _)
  have hemitted : emitted none parameters ≠ [] := fun hnil => hne (by simpa [hnil] using hperm)
  refine ⟨⟨joined ((emitted none parameters).map QueryPair.text), zero_not_mem_joined _⟩, ?_, ?_⟩
  · have hnil : joined ((emitted none parameters).map QueryPair.text) ≠ [] := by
      rw [map_text, Ne, joined_eq_nil_iff, List.map_eq_nil_iff]
      exact hemitted
    have hsort : kept none ((emitted none parameters).insertionSort query_pair_le) = emitted none parameters := by
      rw [(emitted_sorted none parameters).insertionSort_eq, kept_none]
    rw [canonical_query_build, if_neg hnil, segments_joined hemitted, query_parse_text (fun _ => truncated_of_mem_emitted)
      (by rw [weight_perm hperm]; omega) (by omega)]
    dsimp only
    rw [hsort, if_pos hfits]
  · rw [decoded_query, Option.elim_some, segments_joined hemitted, decode_segments_text]

/-- A request with a zero byte in a parameter is not the only one with its
authorization: so is the request with its canonical query. -/
theorem zero_parameter_not_signed {crypto : Crypto} {stack : Bytes 32} {credential : Option Credential}
    {resolver : Option Resolver} {request : Request} {now : Int} {parameters : List QueryPair}
    (hok : verify_request_ex_v1 crypto stack credential resolver request now = .OK)
    (hparameters : decoded_query request.raw_query = some parameters)
    (hzero : ∃ pair ∈ parameters, pair.truncated ≠ pair) :
    ∃ raw_query parameters',
      verify_request_ex_v1 crypto stack credential resolver { request with raw_query } now = .OK ∧
      decoded_query raw_query = some parameters' ∧ ¬parameters'.Perm parameters := by
  obtain ⟨zeroed, hmem, hzero⟩ := hzero
  obtain ⟨auth, scope, cred, amzdate, text, computed, hauth, halgorithm, hscope, hchecked⟩ := verify_request_ok_iff.mp hok
  obtain ⟨uri, query, block, payload_hash, huri, hquery, hblock, hsigned, hpayload, htext, hfits⟩ :=
    canonical_request_eq_some_iff.mp hchecked.canonical
  obtain ⟨canonical, hcanonical, hdecoded⟩ := canonical_query_reparsed hquery hparameters (List.ne_nil_of_mem hmem)
  refine ⟨some canonical, _, verify_request_ok_iff.mpr ⟨auth, scope, cred, amzdate, text, computed, hauth, halgorithm,
    hscope, { hchecked with canonical := canonical_request_eq_some_iff.mpr ⟨uri, query, block, payload_hash, huri,
      hcanonical, hblock, hsigned, hpayload, htext, hfits⟩ }⟩, hdecoded, fun hperm => ?_⟩
  have hweight := weight_perm ((emitted_none_perm parameters).symm.trans hperm)
  have hplain := (weight_kept_truncated none parameters).2 (by rw [kept_none, kept_none, hweight])
  rw [kept_none] at hplain
  exact hzero (hplain zeroed hmem)

end canonical_form

/-- What a signature says of a request. Two requests are accepted with the same
signature, of which no digit is missing, and the hash functions do not collide
on what the verifier feeds them; the signed header names and the payload hash
hold no line feed, as in any request of the wire. Then the requests agree on
everything that is signed, with the parameters of the query up to their first
zero bytes, and on the decoded parameters if none of them has a zero byte. A
request with a zero byte in a parameter is never the only one with its
signature. -/
theorem same_signature_same_request (crypto : Crypto) (stack stack' : Bytes 32) (credential : Option Credential)
    (resolver : Option Resolver) (left right : Request) (now now' : Int) (l r : Signing)
    (hleft : verify_request_ex_v1 crypto stack credential resolver left now = .OK)
    (hright : verify_request_ex_v1 crypto stack' credential resolver right now' = .OK)
    (hl : left.signing crypto credential resolver = some l)
    (hr : right.signing crypto credential resolver = some r)
    (hsignature : l.auth.signature_hex = r.auth.signature_hex) (hfull : l.auth.signature_hex.length = 64)
    (hsha256 : Set.InjOn crypto.sha256 {l.text, r.text})
    (hhmac : Set.InjOn (fun input : List UInt8 × List UInt8 => crypto.hmac_sha256 input.1 input.2)
      {(l.key, l.message), (r.key, r.message)})
    (hheaders : 10 ∉ l.auth.signed_headers ∧ 10 ∉ r.auth.signed_headers)
    (hpayloads : 10 ∉ l.payload_hash ∧ 10 ∉ r.payload_hash) :
    left.method = right.method ∧ left.canonical_uri = right.canonical_uri ∧
      (∃ parameters parameters', decoded_query left.raw_query = some parameters ∧
        decoded_query right.raw_query = some parameters' ∧
        (parameters.map QueryPair.truncated).Perm (parameters'.map QueryPair.truncated) ∧
        ((∀ pair ∈ parameters ++ parameters', pair.truncated = pair) → parameters.Perm parameters') ∧
        ((∃ pair ∈ parameters, pair.truncated ≠ pair) → ∃ raw_query others,
          verify_request_ex_v1 crypto stack credential resolver { left with raw_query } now = .OK ∧
          decoded_query raw_query = some others ∧ ¬others.Perm parameters)) ∧
      l.auth.signed_headers = r.auth.signed_headers ∧
      (∃ headers headers', signed_values left.lookup (segments 59 l.auth.signed_headers) = some headers ∧
        signed_values right.lookup (segments 59 r.auth.signed_headers) = some headers' ∧
        headers.map (fun header => (header.1, trimmed header.2)) =
          headers'.map fun header => (header.1, trimmed header.2)) ∧
      l.payload_hash = r.payload_hash ∧ l.amzdate = r.amzdate := by
  have haccepts := accepts_of_ok hleft hl
  have haccepts' := accepts_of_ok hright hr
  obtain ⟨computed, hsigned, hexpected⟩ := haccepts.signed
  obtain ⟨computed', hsigned', hexpected'⟩ := haccepts'.signed
  have hcomputed : computed = computed' := by
    have hdecoded := decode_signature_full hfull hexpected
    have hdecoded' := decode_signature_full (hsignature ▸ hfull) hexpected'
    rw [hsignature, hdecoded'] at hdecoded
    exact Subtype.ext (Option.some.inj hdecoded).symm
  have hinput : (l.key, l.message) = (r.key, r.message) :=
    hhmac (by simp) (by simp) (by simp [hsigned, hsigned', hcomputed])
  obtain ⟨scope, digest, hdigest, hmessage⟩ := haccepts.message
  obtain ⟨scope', digest', hdigest', hmessage'⟩ := haccepts'.message
  have hlength : l.amzdate.val.length = r.amzdate.val.length := by
    rw [haccepts.length_amzdate, haccepts'.length_amzdate]
  obtain ⟨hamzdate, hsame⟩ := string_to_sign_inj hlength (hmessage.symm.trans ((Prod.mk.inj hinput).2.trans hmessage'))
  have htext : l.text = r.text := hsha256 (by simp) (by simp) (by rw [hdigest, hdigest', hsame])
  have hcanonical' := haccepts'.canonical
  rw [← htext] at hcanonical'
  have hlf : (∀ payload ∈ (left.input l.auth.signed_headers).payload, 10 ∉ payload) ∧
      ∀ payload ∈ (right.input r.auth.signed_headers).payload, 10 ∉ payload := by
    simpa [haccepts.payload, haccepts'.payload] using hpayloads
  obtain ⟨hmethod, huri, ⟨parameters, parameters', hparameters, hparameters', hemitted⟩, hsigned_headers, hvalues,
    hpayload⟩ := canonical_request_inj haccepts.canonical hcanonical' hheaders hlf
  have hperm : (parameters.map QueryPair.truncated).Perm (parameters'.map QueryPair.truncated) := by
    have hsame : emitted none parameters = emitted none parameters' := hemitted
    exact (emitted_none_perm parameters).symm.trans (hsame ▸ emitted_none_perm parameters')
  refine ⟨hmethod, huri, ⟨parameters, parameters', hparameters, hparameters', hperm, fun hplain => ?_,
    zero_parameter_not_signed hleft hparameters⟩, hsigned_headers, hvalues, ?_, Subtype.ext hamzdate⟩
  · obtain ⟨hplain, hplain'⟩ := List.forall_mem_append.mp hplain
    have hself {pairs : List QueryPair} (hplain : ∀ pair ∈ pairs, pair.truncated = pair) :
        pairs.map QueryPair.truncated = pairs :=
      (List.map_congr_left hplain).trans (List.map_id pairs)
    rwa [hself hplain, hself hplain'] at hperm
  · rw [haccepts.payload, haccepts'.payload] at hpayload
    exact Option.some.inj hpayload

/-- A payload hash with line feeds can hold the end of a request whose method
holds the rest. -/
example :
    canonical_request { host_input none with payload_hash := some (ascii "/bucket\n\nhost:localhost\nhost\nP") } =
      canonical_request
        { host_input none with
          method := ⟨ascii "GET\n/bucket\n\nhost:localhost\nhost", by decide +kernel⟩, payload_hash := some (ascii "P") } := by
  decide +kernel

end injectivity

section samples

/-- A checksum in the place of the hash functions. -/
def checksum (message : List UInt8) : Bytes 32 :=
  ⟨Codec.be 32 (message.foldl (fun sum b => (sum * 257 + b.toNat + 1) % 2 ^ 256) 0), Codec.length_be _ _⟩

def checksum_crypto : Crypto :=
  { sha256 := fun message => some (checksum message)
    hmac_sha256 := fun key message => some (checksum (key ++ message)) }

/-- A request for a bucket that is signed at the start of 2024. -/
def bucket_request (raw_query : CString) : SignRequest :=
  { method := ⟨ascii "GET", get_clean⟩
    canonical_uri := ⟨ascii "/bucket", bucket_clean⟩
    raw_query := some raw_query
    payload_hash := ⟨ascii "UNSIGNED-PAYLOAD", by decide⟩
    secret_key := Bytes.zero 32
    access_key := ⟨ascii "AKID", by decide⟩
    region := ⟨ascii "us-east-1", by decide⟩
    service := ⟨ascii "s3", by decide⟩
    host := ⟨ascii "localhost", localhost_clean⟩
    amzdate := ⟨ascii "20240101T000000Z", by decide⟩ }

def SignRequest.request (signed : SignRequest) (authorization : CString) : Request :=
  { method := signed.method, canonical_uri := signed.canonical_uri, raw_query := signed.raw_query, authorization
    x_amz_date := some signed.amzdate, date := none
    lookup := fun name =>
      if name = ascii "host" then some signed.host
      else if name = ascii "x-amz-content-sha256" then some signed.payload_hash
      else if name = ascii "x-amz-date" then some signed.amzdate
      else none }

def SignRequest.credential (signed : SignRequest) : Credential :=
  { access_key := signed.access_key, secret_key := signed.secret_key, region := some signed.region
    service := some signed.service, clock_skew_seconds := 0 }

def query_a : CString := ⟨ascii "a=1", by decide⟩
def query_a_nul : CString := ⟨ascii "a%00b=1", by decide⟩

/-- The authorization of the request with the query `a=1`. -/
def authorization_a : CString :=
  ⟨(sign_request_v1 checksum_crypto (bucket_request query_a) 1024).toOption.getD [], by decide +kernel⟩

/-- The start of 2024. -/
def new_year : Int := 1704067200

def verify_sample (request : Request) : Result :=
  verify_request_ex_v1 checksum_crypto (Bytes.zero 32) (some (bucket_request query_a).credential) none request new_year

/-- One authorization is accepted for the queries `a=1` and `a%00b=1`, which
have one canonical request but not the same decoded parameters. -/
theorem nul_parameter_same_signature :
    verify_sample ((bucket_request query_a).request authorization_a) = .OK ∧
      verify_sample ((bucket_request query_a_nul).request authorization_a) = .OK ∧
      canonical_request (((bucket_request query_a).request authorization_a).input SIGNED_HEADERS) =
        canonical_request (((bucket_request query_a_nul).request authorization_a).input SIGNED_HEADERS) ∧
      decoded_query (some query_a) = some [⟨[97], [49]⟩] ∧
      decoded_query (some query_a_nul) = some [⟨[97, 0, 98], [49]⟩] := by
  decide +kernel

def query_ab : CString := ⟨ascii "a=1&b=2", by decide⟩
def query_ba : CString := ⟨ascii "b=2&a=1", by decide⟩

def authorization_ab : CString :=
  ⟨(sign_request_v1 checksum_crypto (bucket_request query_ab) 1024).toOption.getD [], by decide +kernel⟩

def request_ab : Request := (bucket_request query_ab).request authorization_ab
def request_ba : Request := (bucket_request query_ba).request authorization_ab

def sample_signing (request : Request) : Option Signing :=
  request.signing checksum_crypto (some (bucket_request query_a).credential) none

/-- The same parameters in another order keep the signature. -/
theorem reordered_query_same_signature :
    verify_sample request_ab = .OK ∧ verify_sample request_ba = .OK ∧
      ∃ parameters parameters', decoded_query (some query_ab) = some parameters ∧
        decoded_query (some query_ba) = some parameters' ∧
        (parameters.map QueryPair.truncated).Perm (parameters'.map QueryPair.truncated) := by
  have hleft : verify_sample request_ab = .OK := by decide +kernel
  have hright : verify_sample request_ba = .OK := by decide +kernel
  obtain ⟨l, hl⟩ := Option.isSome_iff_exists.mp (show (sample_signing request_ab).isSome by decide +kernel)
  obtain ⟨r, hr⟩ := Option.isSome_iff_exists.mp (show (sample_signing request_ba).isSome by decide +kernel)
  have hauth : (sample_signing request_ab).map (·.auth) = (sample_signing request_ba).map (·.auth) := by
    decide +kernel
  have hsame : (sample_signing request_ab).map (fun s => (s.text, s.key, s.message)) =
      (sample_signing request_ba).map (fun s => (s.text, s.key, s.message)) := by
    decide +kernel
  have hshape : (sample_signing request_ab).map (fun s => (s.auth.signature_hex.length, s.auth.signed_headers,
      s.payload_hash)) = some (64, SIGNED_HEADERS, ascii "UNSIGNED-PAYLOAD") := by
    decide +kernel
  have hpayload : (sample_signing request_ba).map (·.payload_hash) = some (ascii "UNSIGNED-PAYLOAD") := by
    decide +kernel
  simp only [hl, hr, Option.map_some, Option.some.injEq, Prod.mk.injEq] at hauth hsame hshape hpayload
  obtain ⟨htext, hkey, hmessage⟩ := hsame
  obtain ⟨hlength, hheaders, hhash⟩ := hshape
  have hplain : 10 ∉ SIGNED_HEADERS ∧ 10 ∉ ascii "UNSIGNED-PAYLOAD" := by decide
  obtain ⟨_, _, ⟨parameters, parameters', hparameters, hparameters', hperm, _⟩, _⟩ :=
    same_signature_same_request checksum_crypto (Bytes.zero 32) (Bytes.zero 32)
      (some (bucket_request query_a).credential) none request_ab request_ba new_year new_year l r hleft hright hl hr
      (by rw [hauth]) hlength (by simp [htext]) (by simp [hkey, hmessage])
      (by rw [← hauth, hheaders]; exact ⟨hplain.1, hplain.1⟩) (by rw [hhash, hpayload]; exact ⟨hplain.2, hplain.2⟩)
  exact ⟨hleft, hright, parameters, parameters', hparameters, hparameters', hperm⟩

end samples

end turbop2p.m3_gateway_sigv4
