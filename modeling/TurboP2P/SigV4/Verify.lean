import TurboP2P.SigV4.Canonical

open Text (ascii hex_encode)
open Scan (is_space is_digit)
open turbop2p.m3_gateway (CString c_string)

namespace turbop2p.m3_gateway_sigv4

/-- `m3_sigv4_result_t`. -/
inductive Result where
  | OK
  | INVALID_ARG
  | MALFORMED_AUTH
  | UNSUPPORTED_ALGORITHM
  | UNKNOWN_ACCESS_KEY
  | EXPIRED
  | BAD_SIGNATURE
  deriving DecidableEq

def ALGORITHM : List UInt8 := ascii "AWS4-HMAC-SHA256"
def TERMINATOR : List UInt8 := ascii "aws4_request"
def DEFAULT_CLOCK_SKEW_SECONDS : Int := 900

/-- `m3_sigv4_credential_v1_t`. -/
structure Credential where
  access_key : CString
  secret_key : Bytes 32
  region : Option CString
  service : Option CString
  clock_skew_seconds : Int

/-- The crypto library; a call may fail. -/
structure Crypto where
  sha256 : List UInt8 → Option (Bytes 32)
  hmac_sha256 : List UInt8 → List UInt8 → Option (Bytes 32)

/-- `parsed_auth_t`. -/
structure ParsedAuth where
  algorithm : List UInt8
  credential : List UInt8
  signed_headers : List UInt8
  signature_hex : List UInt8
  deriving DecidableEq

/-- A parameter of the authorization is kept if it has one of three names and
fits in its field; other parameters are skipped. -/
def ParsedAuth.assign (auth : ParsedAuth) (key value : List UInt8) : Option ParsedAuth :=
  if key = ascii "Credential" then
    if value.length ≥ 256 then none else some { auth with credential := value }
  else if key = ascii "SignedHeaders" then
    if value.length ≥ 512 then none else some { auth with signed_headers := value }
  else if key = ascii "Signature" then
    if value.length ≥ 128 then none else some { auth with signature_hex := value }
  else some auth

/-- The loop of `auth_parse` over the parameters. Each turn takes at least the
equals sign of a parameter, so the length of the text is enough fuel. -/
def auth_fields : Nat → List UInt8 → ParsedAuth → Option ParsedAuth
  | 0, _, auth => some auth
  | fuel + 1, text, auth =>
    let text := text.dropWhile fun c => c = 44 || is_space c
    if text = [] then some auth
    else if 61 ∉ text then none
    else
      let key := text.takeWhile (· ≠ 61)
      let after := (text.dropWhile (· ≠ 61)).drop 1
      match auth.assign key (after.takeWhile (· ≠ 44)) with
      | none => none
      | some auth => auth_fields fuel ((after.dropWhile (· ≠ 44)).drop 1) auth

def auth_parse (authorization : List UInt8) : Option ParsedAuth :=
  let text := authorization.dropWhile is_space
  let algorithm := text.takeWhile (· ≠ 32)
  if algorithm.length = 0 ∨ algorithm.length ≥ 32 then none
  else if 32 ∉ text then none
  else
    let fields := (text.dropWhile (· ≠ 32)).drop 1
    match auth_fields fields.length fields ⟨algorithm, [], [], []⟩ with
    | none => none
    | some auth =>
      if auth.credential = [] ∨ auth.signed_headers = [] ∨ auth.signature_hex = [] then none else some auth

/-- The conversion `%<width>d` of `sscanf`: the number and the rest of the
input. -/
def scan_int (width : Nat) (input : List UInt8) : Option (Int × List UInt8) :=
  let input := input.dropWhile is_space
  let number (width : Nat) (sign : Int) (input : List UInt8) :=
    let digits := (input.take width).takeWhile is_digit
    if digits = [] then none else some (sign * Scan.digits_value 10 digits, input.drop digits.length)
  match input with
  | [] => none
  | c :: rest =>
    if c = 43 then number (width - 1) 1 rest
    else if c = 45 then number (width - 1) (-1) rest
    else number width 1 input

/-- The days from 1970-01-01 to a date, as `parse_amzdate` counts them. -/
def days_from_civil (year month day : Int) : Int :=
  let y := if month ≤ 2 then year - 1 else year
  let era := (if y ≥ 0 then y else y - 399).tdiv 400
  let yoe := y - era * 400
  let adjusted_month := if month > 2 then month - 3 else month + 9
  let doy := (153 * adjusted_month + 2) / 5 + day - 1
  let doe := yoe * 365 + yoe / 4 - yoe / 100 + doy
  era * 146097 + doe - 719468

def parse_amzdate (s : List UInt8) : Option Int := do
  if s.length ≠ 16 ∨ s[8]? ≠ some 84 ∨ s[15]? ≠ some 90 then none
  else
    let (year, rest) ← scan_int 4 s
    let (month, rest) ← scan_int 2 rest
    let (day, rest) ← scan_int 2 rest
    match rest with
    | 84 :: rest =>
      let (hour, rest) ← scan_int 2 rest
      let (minute, rest) ← scan_int 2 rest
      let (second, _) ← scan_int 2 rest
      if month < 1 ∨ month > 12 ∨ day < 1 ∨ hour < 0 ∨ hour > 23 ∨ minute < 0 ∨ minute > 59 ∨ second < 0 ∨
          second > 60 then none
      else some (days_from_civil year month day * 86400 + hour * 3600 + minute * 60 + second)
    | _ => none

/-- `strtok` with the separator `/`: where the token starts, where the next call
goes on and the buffer with a terminator after the token. -/
def strtok (buffer : List UInt8) (position : Nat) : Option (Nat × Nat × List UInt8) :=
  let start := position + ((buffer.drop position).takeWhile (· = 47)).length
  let token := (buffer.drop start).takeWhile fun c => c ≠ 47 && c ≠ 0
  if token = [] then none
  else
    let stop := start + token.length
    if buffer[stop]? = some 47 then some (start, stop + 1, buffer.set stop 0) else some (start, stop, buffer)

/-- The starts of the tokens of so many calls of `strtok`, and the buffer after
them. -/
def strtok_calls : Nat → List UInt8 → Nat → List Nat × List UInt8
  | 0, buffer, _ => ([], buffer)
  | calls + 1, buffer, position =>
    match strtok buffer position with
    | none => ([], buffer)
    | some (start, next, buffer) =>
      let (starts, buffer) := strtok_calls calls buffer next
      (start :: starts, buffer)

/-- The parts of a credential scope. The signing key is derived from the first
eight bytes of the buffer at the date, whatever its length. -/
structure Scope where
  access_key : List UInt8
  date : List UInt8
  date_bytes : List UInt8
  region : List UInt8
  service : List UInt8
  terminator : List UInt8
  deriving DecidableEq

/-- The loop that splits `scope_copy`: the five parts that it needs and what
may follow them. -/
def split_scope (credential : List UInt8) : Option Scope :=
  let (starts, buffer) := strtok_calls 6 (credential ++ [0]) 0
  let part (start : Nat) := c_string (buffer.drop start)
  match starts with
  | access_key :: date :: region :: service :: terminator :: _ =>
    some
      { access_key := part access_key, date := part date, date_bytes := (buffer.drop date).take 8, region := part region
        service := part service, terminator := part terminator }
  | _ => none

/-- `m3_sigv4_credential_resolver_fn` with its context; `none` if it fails. -/
abbrev Resolver := List UInt8 → Option Credential

/-- A credential with a region and a service. -/
structure Resolved where
  secret_key : Bytes 32
  region : List UInt8
  service : List UInt8
  clock_skew_seconds : Int
  deriving DecidableEq

def Credential.resolved (credential : Credential) : Option Resolved :=
  match credential.region, credential.service with
  | some region, some service => some ⟨credential.secret_key, region.val, service.val, credential.clock_skew_seconds⟩
  | _, _ => none

def resolve_credential (scope_access_key : List UInt8) (credential : Option Credential) (resolver : Option Resolver) :
    Except Result Resolved :=
  match resolver with
  | some resolver =>
    match (resolver scope_access_key).bind Credential.resolved with
    | none => .error .UNKNOWN_ACCESS_KEY
    | some resolved => .ok resolved
  | none =>
    match credential with
    | none => .error .INVALID_ARG
    | some credential =>
      if credential.access_key.val = [] then .error .INVALID_ARG
      else
        match credential.resolved with
        | none => .error .INVALID_ARG
        | some resolved =>
          if scope_access_key ≠ credential.access_key.val then .error .UNKNOWN_ACCESS_KEY else .ok resolved

/-- `m3_sigv4_verify_context_t`. -/
structure VerifyContext where
  input : CanonicalInput
  amzdate : Option CString
  scope : Scope
  signature_hex : List UInt8
  now_seconds : Int
  expires_seconds : Int
  credential : Option Credential
  resolver : Option Resolver

/-- The time window: `expires_seconds` bounds a presigned request, the clock
skew any other. -/
def in_window (now_seconds expires_seconds amzdate_epoch clock_skew_seconds : Int) : Bool :=
  let skew := if clock_skew_seconds > 0 then clock_skew_seconds else DEFAULT_CLOCK_SKEW_SECONDS
  if expires_seconds > 0 then now_seconds ≤ amzdate_epoch + expires_seconds && amzdate_epoch - skew ≤ now_seconds
  else |amzdate_epoch - now_seconds| ≤ skew

def scope_text (date region service terminator : List UInt8) : List UInt8 :=
  date ++ 47 :: (region ++ 47 :: (service ++ 47 :: terminator))

def string_to_sign (amzdate scope : List UInt8) (canonical_digest : Bytes 32) : List UInt8 :=
  ALGORITHM ++ 10 :: (amzdate ++ 10 :: (scope ++ 10 :: hex_encode canonical_digest.toList))

section crypto

variable (crypto : Crypto)

/-- The chain of keys over date, region, service and terminator. -/
def signing_key (secret_key : Bytes 32) (date_bytes region service : List UInt8) : Option (Bytes 32) := do
  let first ← crypto.hmac_sha256 (ascii "AWS4" ++ secret_key.toList) date_bytes
  let key ← crypto.hmac_sha256 first.toList region
  let key ← crypto.hmac_sha256 key.toList service
  crypto.hmac_sha256 key.toList TERMINATOR

def signature (secret_key : Bytes 32) (date_bytes region service amzdate scope canonical_request : List UInt8) :
    Option (Bytes 32) := do
  let canonical_digest ← crypto.sha256 canonical_request
  if (string_to_sign amzdate scope canonical_digest).length ≥ 8192 then none
  else
    let key ← signing_key crypto secret_key date_bytes region service
    crypto.hmac_sha256 key.toList (string_to_sign amzdate scope canonical_digest)

/-- `hex_decode` into `expected`, which holds the bytes of the stack before: a
shorter signature leaves the last of them. -/
def decode_signature (stack : Bytes 32) (signature_hex : List UInt8) : Option (List UInt8) :=
  if signature_hex.length / 2 > 32 then none
  else (Text.hex_decode signature_hex).map fun decoded => decoded ++ stack.toList.drop decoded.length

/-- `m3_sigv4_verify_core`, with what `expected` holds before it is written. -/
def verify_core (stack : Bytes 32) (context : VerifyContext) : Result :=
  match resolve_credential context.scope.access_key context.credential context.resolver with
  | .error result => result
  | .ok cred =>
    if context.scope.region ≠ cred.region ∨ context.scope.service ≠ cred.service ∨
        context.scope.terminator ≠ TERMINATOR then .BAD_SIGNATURE
    else
      match context.amzdate with
      | none => .MALFORMED_AUTH
      | some amzdate =>
        match parse_amzdate amzdate.val with
        | none => .MALFORMED_AUTH
        | some amzdate_epoch =>
          if in_window context.now_seconds context.expires_seconds amzdate_epoch cred.clock_skew_seconds = false then
            .EXPIRED
          else
            match canonical_request context.input with
            | none => .MALFORMED_AUTH
            | some text =>
              -- The scope is cut at the size of its buffer.
              let scope := (scope_text context.scope.date context.scope.region context.scope.service
                context.scope.terminator).take 191
              match signature crypto cred.secret_key context.scope.date_bytes context.scope.region
                  context.scope.service amzdate.val scope text with
              | none => .MALFORMED_AUTH
              | some signature =>
                match decode_signature stack context.signature_hex with
                | none => .MALFORMED_AUTH
                | some expected => if expected = signature.toList then .OK else .BAD_SIGNATURE

/-- What a caller of `m3_sigv4_verify_request_ex_v1` hands over of a request. -/
structure Request where
  method : CString
  canonical_uri : CString
  raw_query : Option CString
  authorization : CString
  x_amz_date : Option CString
  date : Option CString
  lookup : Lookup

def Request.input (request : Request) (signed_headers : List UInt8) : CanonicalInput :=
  { method := request.method, canonical_uri := request.canonical_uri, raw_query := request.raw_query
    exclude_query_name := none, signed_headers, payload_hash := none, lookup := request.lookup }

/-- A credential that a caller without a resolver may pass. -/
def Credential.usable (credential : Option Credential) : Bool :=
  match credential with
  | none => false
  | some credential => credential.access_key.val ≠ [] && credential.region.isSome && credential.service.isSome

/-- The context that `m3_sigv4_verify_request_ex_v1` builds. -/
def Request.context (request : Request) (auth : ParsedAuth) (scope : Scope) (credential : Option Credential)
    (resolver : Option Resolver) (now_seconds : Int) : VerifyContext :=
  { input := request.input auth.signed_headers, amzdate := request.x_amz_date.or request.date, scope
    signature_hex := auth.signature_hex, now_seconds, expires_seconds := 0, credential, resolver }

def verify_request_ex_v1 (stack : Bytes 32) (credential : Option Credential) (resolver : Option Resolver)
    (request : Request) (now_seconds : Int) : Result :=
  if resolver.isNone ∧ Credential.usable credential = false then .INVALID_ARG
  else
    match auth_parse request.authorization.val with
    | none => .MALFORMED_AUTH
    | some auth =>
      if auth.algorithm ≠ ALGORITHM then .UNSUPPORTED_ALGORITHM
      else
        match split_scope auth.credential with
        | none => .MALFORMED_AUTH
        | some scope =>
          verify_core crypto stack (request.context auth scope credential resolver now_seconds)

/-- What a caller of `m3_sigv4_sign_request_v1` hands over. -/
structure SignRequest where
  method : CString
  canonical_uri : CString
  raw_query : Option CString
  payload_hash : CString
  secret_key : Bytes 32
  access_key : CString
  region : CString
  service : CString
  host : CString
  amzdate : CString

def SIGNED_HEADERS : List UInt8 := ascii "host;x-amz-content-sha256;x-amz-date"

def SignRequest.canonical_headers (request : SignRequest) : List UInt8 :=
  ascii "host:" ++ (request.host.val ++ 10 :: (ascii "x-amz-content-sha256:" ++ (request.payload_hash.val ++
    10 :: (ascii "x-amz-date:" ++ (request.amzdate.val ++ [10])))))

/-- The canonical request as the signer writes it: the URI and the query as
they are given. -/
def SignRequest.canonical_request (request : SignRequest) : List UInt8 :=
  request_text request.method.val request.canonical_uri.val (request.raw_query.elim [] (·.val))
    request.canonical_headers SIGNED_HEADERS request.payload_hash.val

def SignRequest.scope (request : SignRequest) : List UInt8 :=
  scope_text (request.amzdate.val.take 8) request.region.val request.service.val TERMINATOR

def SignRequest.authorization (request : SignRequest) (signature : Bytes 32) : List UInt8 :=
  ALGORITHM ++ (ascii " Credential=" ++ (request.access_key.val ++ 47 :: (request.scope ++
    (ascii ", SignedHeaders=" ++ (SIGNED_HEADERS ++ (ascii ", Signature=" ++ hex_encode signature.toList))))))

/-- `m3_sigv4_sign_request_v1` into a buffer of `cap` bytes. -/
def sign_request_v1 (request : SignRequest) (cap : Nat) : Except Result (List UInt8) :=
  if request.amzdate.val.length < 8 then .error .MALFORMED_AUTH
  else if request.canonical_headers.length ≥ 1024 then .error .MALFORMED_AUTH
  else if request.canonical_request.length ≥ 4096 then .error .MALFORMED_AUTH
  else
    match crypto.sha256 request.canonical_request with
    | none => .error .MALFORMED_AUTH
    | some canonical_digest =>
      let text := string_to_sign request.amzdate.val request.scope canonical_digest
      if request.scope.length ≥ 192 then .error .MALFORMED_AUTH
      else if text.length ≥ 2048 then .error .MALFORMED_AUTH
      else
        match signing_key crypto request.secret_key (request.amzdate.val.take 8) request.region.val
            request.service.val with
        | none => .error .MALFORMED_AUTH
        | some key =>
          match crypto.hmac_sha256 key.toList text with
          | none => .error .MALFORMED_AUTH
          | some signature =>
            if (request.authorization signature).length ≥ cap then .error .MALFORMED_AUTH
            else .ok (request.authorization signature)

end crypto

end turbop2p.m3_gateway_sigv4
