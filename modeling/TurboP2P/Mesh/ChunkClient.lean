import TurboP2P.Mesh.ChunkFrame

open Codec
open turbop2p.m3_object_manifest (ChunkCid)
open turbop2p.m3_chunk_receipt (Receipt encode_v1 decode_v1 ENCODED_SIZE)

namespace turbop2p.m3_chunk_mesh

/-- `m3_chunk_access_request_v1_t`. -/
structure AccessRequest where
  tenant_id : Bytes 32
  cid : ChunkCid
  operation : UInt8
  range_offset : UInt64
  range_length : UInt64
  local_node_id : Bytes 32
  request_id : Bytes 16
  now_ms : UInt64
  deriving DecidableEq

/-- The failures of `m3_store_node_result_t`, with `M3_STORE_NODE_IO` as
`IO_FAILED`. -/
inductive StoreFailure where
  | INVALID_ARG
  | AUTH_DENIED
  | NOT_YET_VALID
  | EXPIRED
  | RESOURCE_EXHAUSTED
  | NOT_FOUND
  | CORRUPT
  | DIGEST_MISMATCH
  | IO_FAILED
  | QUOTA_EXCEEDED
  | CRYPTO_FAILED
  | LOCKED
  | CONFLICT
  | IN_PROGRESS
  | INTERNAL
  deriving DecidableEq

def StoreFailure.code : StoreFailure → Result
  | .INVALID_ARG => -1
  | .AUTH_DENIED => -2
  | .NOT_YET_VALID => -3
  | .EXPIRED => -4
  | .RESOURCE_EXHAUSTED => -5
  | .NOT_FOUND => -6
  | .CORRUPT => -7
  | .DIGEST_MISMATCH => -8
  | .IO_FAILED => -9
  | .QUOTA_EXCEEDED => -10
  | .CRYPTO_FAILED => -11
  | .LOCKED => -12
  | .CONFLICT => -13
  | .IN_PROGRESS => -14
  | .INTERNAL => -15

/-- What `p2p_peer_get_security_info_v2` reports of a link. -/
structure Security where
  authenticated : Bool
  channel_binding : Bytes 32
  deriving DecidableEq

/-- A store that handles one request: the keys that its service trusts, the
link the request came on, the clock, whether the read buffer can be
allocated, and what the store node does with the request. -/
structure Service where
  trusted_keys : List (Bytes 32)
  node_id : Bytes 32
  security : Option Security
  now_ms : UInt64
  malloc_ok : Bool
  ed25519_verify : Bytes 32 → List UInt8 → Bytes 64 → Bool
  put_chunk : Claims → AccessRequest → List UInt8 → Except StoreFailure Receipt
  read_chunk : Claims → AccessRequest → Except StoreFailure (List UInt8)

def claims_verify_v1 (ed25519_verify : Bytes 32 → List UInt8 → Bytes 64 → Bool) (public_key : Bytes 32)
    (claims : Claims) (signature : Bytes 64) : Result :=
  if ed25519_verify public_key (claims_encode_v1 claims).toList signature then OK else AUTH_FAILED

/-- The frame that `reply_frame` sends; `none` if it cannot be encoded. -/
def reply_frame (operation : UInt8) (correlation_id : Bytes 16) (status : Result) (payload : List UInt8) :
    Option (List UInt8) :=
  (frame_encode_v1
    { type := FRAME_RESPONSE, operation, status, correlation_id, claims := Bytes.zero 168, signature := Bytes.zero 64
      channel_public_key := Bytes.zero 32, signer_public_key := Bytes.zero 32, payload }).toOption

/-- The request that goes with the claims at a store. -/
def Service.request (service : Service) (claims : Claims) : AccessRequest :=
  { tenant_id := claims.tenant_id, cid := claims.cid, operation := claims.operation, range_offset := claims.range_offset
    range_length := claims.range_length, local_node_id := service.node_id, request_id := claims.request_id
    now_ms := service.now_ms }

def Service.authenticate (service : Service) (frame : Frame) : Option Claims :=
  if service.trusted_keys.contains frame.signer_public_key then
    match service.security with
    | none => none
    | some security =>
      if !security.authenticated ∨ security.channel_binding ≠ frame.channel_public_key then none
      else
        match claims_decode_v1 frame.claims with
        | .error _ => none
        | .ok claims =>
          if claims_verify_v1 service.ed25519_verify frame.signer_public_key claims frame.signature ≠ OK then none
          else some claims
  else none

/-- What `mesh_service_on_message` does with authenticated claims. -/
def Service.execute (service : Service) (frame : Frame) (claims : Claims) : Option (List UInt8) :=
  if frame.operation = OP_PUT then
    match service.put_chunk claims (service.request claims) frame.payload with
    | .error failure => reply_frame frame.operation frame.correlation_id failure.code []
    | .ok receipt =>
      match encode_v1 receipt with
      | .error _ => none
      | .ok receipt_bytes => reply_frame frame.operation frame.correlation_id OK receipt_bytes
  else if frame.operation = OP_GET then
    if claims.range_length.toNat > MAX_PAYLOAD then reply_frame frame.operation frame.correlation_id OVERFLOW []
    else if !service.malloc_ok then reply_frame frame.operation frame.correlation_id RESOURCE_EXHAUSTED []
    else
      match service.read_chunk claims (service.request claims) with
      | .error failure => reply_frame frame.operation frame.correlation_id failure.code []
      | .ok bytes => reply_frame frame.operation frame.correlation_id OK bytes
  else none

/-- `mesh_service_on_message`: the frame that goes back, if any. -/
def Service.on_message (service : Service) (data : List UInt8) : Option (List UInt8) :=
  match frame_decode_v1 data with
  | .error _ => none
  | .ok frame =>
    if frame.type ≠ FRAME_REQUEST then none
    else
      match service.authenticate frame with
      | none => reply_frame frame.operation frame.correlation_id AUTH_FAILED []
      | some claims => service.execute frame claims

/-- `m3_chunk_mesh_client_v1_t`: what the calls and the router read and write.
The peer stands for what the link reports of it. -/
structure Client where
  port : Nat
  peer : Option Security
  pending_correlation : Bytes 16
  response_storage : List UInt8
  response_len : Nat
  receipt : Receipt
  done : Bool
  status : Result

def zero_receipt : Receipt :=
  { store_node_id := Bytes.zero 32, cid := { hash_algorithm := 0, size := 0, digest := Bytes.zero 32 }
    request_id := Bytes.zero 16, issued_at_ms := 0, signature := Bytes.zero 64 }

/-- A client that takes a response: the body of the loop of
`mesh_router_on_message` for the client that matches. -/
def Client.take_response (client : Client) (frame : Frame) : Client :=
  let stored : Client :=
    if frame.status = OK ∧ 0 < frame.payload.length ∧ frame.payload.length ≤ MAX_PAYLOAD then
      { client with
        response_storage := frame.payload ++ client.response_storage.drop frame.payload.length
        response_len := frame.payload.length }
    else { client with response_len := 0 }
  let decoded : Client :=
    if frame.status = OK ∧ frame.operation = OP_PUT ∧ frame.payload.length = ENCODED_SIZE then
      match decode_v1 (stored.response_storage.take frame.payload.length) with
      | .error _ => { stored with receipt := zero_receipt }
      | .ok receipt => { stored with receipt := receipt }
    else stored
  { decoded with status := frame.status, done := true }

/-- The loop of `mesh_router_on_message`: the first client that waits for the
correlation id of the frame takes it. -/
def route (frame : Frame) : List Client → List Client
  | [] => []
  | client :: rest =>
    if client.done then client :: route frame rest
    else if client.pending_correlation = frame.correlation_id then client.take_response frame :: rest
    else client :: route frame rest

def router_on_message (clients : List Client) (data : List UInt8) : List Client :=
  match frame_decode_v1 data with
  | .error _ => clients
  | .ok frame => if frame.type ≠ FRAME_RESPONSE then clients else route frame clients

/-- What a call asks for: a put of some bytes, or a get into a buffer. -/
inductive Operation where
  | put (bytes : List UInt8)
  | get (buffer_size : Nat)
  deriving DecidableEq

def Operation.code : Operation → UInt8
  | .put _ => OP_PUT
  | .get _ => OP_GET

def Operation.tag : Operation → UInt8
  | .put _ => 0x5a
  | .get _ => 0x5b

def Operation.payload : Operation → List UInt8
  | .put bytes => bytes
  | .get _ => []

/-- The arguments of `m3_chunk_mesh_client_put_v1` and
`m3_chunk_mesh_client_get_v1`. -/
structure Call where
  operation : Operation
  claims : Claims
  signature : Bytes 64
  signer_public_key : Bytes 32

/-- The correlation id that a call waits for. -/
def correlation (port : Nat) (operation : Operation) : Bytes 16 :=
  take_bytes 16 [UInt8.ofNat port, operation.tag]

def Call.frame (call : Call) (correlation_id : Bytes 16) (channel_binding : Bytes 32) : Frame :=
  { type := FRAME_REQUEST, operation := call.operation.code, status := 0, correlation_id
    claims := claims_encode_v1 call.claims, signature := call.signature, channel_public_key := channel_binding
    signer_public_key := call.signer_public_key, payload := call.operation.payload }

/-- The first half of a call, up to `p2p_send`: the client as it waits and the
frame that is sent, or the result with which the call returns at once. -/
def Client.begin_call (client : Client) (call : Call) : Except Result (Client × List UInt8) :=
  if call.operation.payload.length > MAX_PAYLOAD then .error OVERFLOW
  else
    match client.peer with
    | none => .error NETWORK
    | some security =>
      if !security.authenticated then .error NETWORK
      else
        let correlation_id := correlation client.port call.operation
        let waiting : Client :=
          { client with
            pending_correlation := correlation_id, done := false, status := NOT_READY, response_len := 0
            receipt := match call.operation with
              | .put _ => zero_receipt
              | .get _ => client.receipt }
        (frame_encode_v1 (call.frame correlation_id security.channel_binding)).map fun frame => (waiting, frame)

/-- `mesh_client_wait`, when its loop ends. -/
def Client.wait (client : Client) : Result :=
  if client.peer.isNone then NOT_READY else if client.done then OK else TIMEOUT

/-- What a call hands to its caller. -/
inductive Answer where
  | receipt (receipt : Receipt)
  | bytes (bytes : List UInt8)
  deriving DecidableEq

/-- The second half of a call, when its wait ends. -/
def Client.end_call (client : Client) (call : Call) : Except Result Answer :=
  if client.wait ≠ OK then .error client.wait
  else if client.status ≠ OK then .error client.status
  else
    match call.operation with
    | .put _ => if client.response_len ≠ ENCODED_SIZE then .error CORRUPT else .ok (.receipt client.receipt)
    | .get buffer_size =>
      if client.response_len > buffer_size then .error RESOURCE_EXHAUSTED
      else .ok (.bytes (client.response_storage.take client.response_len))

/-- What happens around one router. A call sends its request; a store handles
a request, any number of times; the router gets a response that a store
sent, at any time, in any order and any number of times; and links come and
go. -/
inductive Event where
  | call (client : Nat) (call : Call) (sent : Bool)
  | serve (request : Nat) (service : Service)
  | deliver (response : Nat)
  | link (client : Nat) (peer : Option Security)

structure Request where
  call : Call
  correlation_id : Bytes 16
  data : List UInt8

/-- A response on its way, with the number of the request it answers. -/
structure Response where
  request : Nat
  data : List UInt8

/-- The clients of a router in the order of its list, and all requests and
responses sent so far. -/
structure World where
  clients : List Client
  requests : List Request
  responses : List Response

def World.call (world : World) (number : Nat) (call : Call) (sent : Bool) : World :=
  match world.clients[number]? with
  | none => world
  | some client =>
    match client.begin_call call with
    | .error _ => world
    | .ok (waiting, data) =>
      { world with
        clients := world.clients.set number waiting
        requests := if sent then world.requests ++ [⟨call, waiting.pending_correlation, data⟩] else world.requests }

def World.serve (world : World) (number : Nat) (service : Service) : World :=
  match world.requests[number]? with
  | none => world
  | some request =>
    match service.on_message request.data with
    | none => world
    | some data => { world with responses := world.responses ++ [⟨number, data⟩] }

def World.deliver (world : World) (number : Nat) : World :=
  match world.responses[number]? with
  | none => world
  | some response => { world with clients := router_on_message world.clients response.data }

def World.link (world : World) (number : Nat) (peer : Option Security) : World :=
  { world with clients := world.clients.modify number fun client => { client with peer := peer } }

def World.step (world : World) : Event → World
  | .call client call sent => world.call client call sent
  | .serve request service => world.serve request service
  | .deliver response => world.deliver response
  | .link client peer => world.link client peer

/-- A router whose clients have made no calls. -/
def World.start (clients : List Client) : World := ⟨clients, [], []⟩

end turbop2p.m3_chunk_mesh
