import TurboP2P.Mesh.ChunkClient

open Codec
open turbop2p.m3_chunk_receipt (Receipt encode_v1 decode_v1 ENCODED_SIZE decode_encode_v1 length_encode_v1)
open Machine

namespace turbop2p.m3_chunk_mesh

/-- What a store answers to a call: the receipt of the store node's put, or
the bytes of its read, for the claims of this call. -/
def Service.outcome (service : Service) (call : Call) : Option Answer :=
  match call.operation with
  | .put bytes => (service.put_chunk call.claims (service.request call.claims) bytes).toOption.map .receipt
  | .get _ => (service.read_chunk call.claims (service.request call.claims)).toOption.map .bytes

def response_frame (operation : UInt8) (correlation_id : Bytes 16) (status : Result) (payload : List UInt8) : Frame :=
  { type := FRAME_RESPONSE, operation, status, correlation_id, claims := Bytes.zero 168, signature := Bytes.zero 64
    channel_public_key := Bytes.zero 32, signer_public_key := Bytes.zero 32, payload }

/-- What a frame tells a caller when its status is `OK`: the encoded receipt
after a put, the bytes read after a get. -/
def Carries (frame : Frame) : Answer → Prop
  | .receipt receipt => frame.operation = OP_PUT ∧ encode_v1 receipt = .ok frame.payload
  | .bytes bytes => frame.operation = OP_GET ∧ bytes = frame.payload

/-- A frame that answers a call on behalf of a store. -/
structure Replies (service : Service) (call : Call) (correlation_id : Bytes 16) (frame : Frame) : Prop where
  type_eq : frame.type = FRAME_RESPONSE
  operation_eq : frame.operation = call.operation.code
  correlation_eq : frame.correlation_id = correlation_id
  fits : frame.payload.length ≤ MAX_PAYLOAD
  carries : frame.status = OK → ∃ answer, service.outcome call = some answer ∧ Carries frame answer

theorem StoreFailure.code_ne_ok (failure : StoreFailure) : failure.code ≠ OK := by
  cases failure <;> decide

variable {answer : Answer} {payload : List UInt8} {status : Result} {request : Request} {since : List Event}

theorem reply_frame_eq_some {operation : UInt8} {correlation_id : Bytes 16} {data : List UInt8}
    (hreply : reply_frame operation correlation_id status payload = some data) :
    frame_decode_v1 data = .ok (response_frame operation correlation_id status payload) ∧
      payload.length ≤ MAX_PAYLOAD := by
  unfold reply_frame at hreply
  cases hencode : frame_encode_v1 (response_frame operation correlation_id status payload) with
  | error result => simp [response_frame] at hencode; simp [hencode, Except.toOption] at hreply
  | ok bytes =>
    have hdecode := frame_decode_encode hencode
    have hfits := (frame_encode_v1_eq_ok hencode).1
    simp only [response_frame] at hencode
    simp only [hencode, Except.toOption, Option.some.injEq] at hreply
    subst hreply
    exact ⟨hdecode, hfits⟩

section replies

variable {service : Service} {call : Call} {correlation_id : Bytes 16} {channel_binding : Bytes 32}
  {data : List UInt8}

/-- A reply with a status other than `OK` answers every call with its
operation and correlation id. -/
theorem replies_of_failure (hfailed : status ≠ OK)
    (hreply : reply_frame call.operation.code correlation_id status [] = some data) :
    ∃ frame, frame_decode_v1 data = .ok frame ∧ Replies service call correlation_id frame := by
  obtain ⟨hdecode, hfits⟩ := reply_frame_eq_some hreply
  exact ⟨_, hdecode, rfl, rfl, rfl, hfits, fun hok => absurd hok hfailed⟩

theorem replies_of_success (answer : Answer) (houtcome : service.outcome call = some answer)
    (hcarries : Carries (response_frame call.operation.code correlation_id OK payload) answer)
    (hreply : reply_frame call.operation.code correlation_id OK payload = some data) :
    ∃ frame, frame_decode_v1 data = .ok frame ∧ Replies service call correlation_id frame := by
  obtain ⟨hdecode, hfits⟩ := reply_frame_eq_some hreply
  exact ⟨_, hdecode, rfl, rfl, rfl, hfits, fun _ => ⟨answer, houtcome, hcarries⟩⟩

theorem execute_replies
    (hreply : service.execute (call.frame correlation_id channel_binding) call.claims = some data) :
    ∃ frame, frame_decode_v1 data = .ok frame ∧ Replies service call correlation_id frame := by
  obtain ⟨operation, claims, signature, signer⟩ := call
  cases operation with
  | put bytes =>
    simp only [Service.execute, Call.frame, Operation.code, Operation.payload, if_true] at hreply
    cases hput : service.put_chunk claims (service.request claims) bytes with
    | error failure =>
      rw [hput] at hreply
      exact replies_of_failure failure.code_ne_ok hreply
    | ok receipt =>
      simp only [hput] at hreply
      cases hencode : encode_v1 receipt with
      | error result => simp [hencode] at hreply
      | ok receipt_bytes =>
        rw [hencode] at hreply
        exact replies_of_success (.receipt receipt) (by simp [Service.outcome, hput, Except.toOption])
          ⟨rfl, hencode⟩ hreply
  | get buffer_size =>
    have hget : OP_GET ≠ OP_PUT := by decide
    simp only [Service.execute, Call.frame, Operation.code, if_neg hget, if_true] at hreply
    by_cases hrange : claims.range_length.toNat > MAX_PAYLOAD
    · rw [if_pos hrange] at hreply
      exact replies_of_failure (by decide) hreply
    · rw [if_neg hrange] at hreply
      by_cases hmalloc : service.malloc_ok = false
      · simp only [hmalloc, Bool.not_false, if_true] at hreply
        exact replies_of_failure (by decide) hreply
      · simp only [hmalloc, Bool.not_true, Bool.false_eq_true, if_false] at hreply
        cases hread : service.read_chunk claims (service.request claims) with
        | error failure =>
          rw [hread] at hreply
          exact replies_of_failure failure.code_ne_ok hreply
        | ok bytes =>
          rw [hread] at hreply
          exact replies_of_success (.bytes bytes) (by simp [Service.outcome, hread, Except.toOption]) ⟨rfl, rfl⟩ hreply

/-- The service authenticates no other claims than those of the call. -/
theorem authenticate_frame {claims : Claims}
    (hauthentic : service.authenticate (call.frame correlation_id channel_binding) = some claims) :
    claims = call.claims := by
  unfold Service.authenticate at hauthentic
  simp only [Call.frame, claims_decode_encode] at hauthentic
  split at hauthentic
  · split at hauthentic
    · simp at hauthentic
    · split at hauthentic
      · simp at hauthentic
      · obtain ⟨_, hauthentic⟩ := guard_passed hauthentic
        exact (Option.some.inj hauthentic).symm
  · simp at hauthentic

/-- Whatever an honest store sends back on a request is a reply to the call
that sent the request. -/
theorem on_message_replies {request : List UInt8}
    (hrequest : frame_encode_v1 (call.frame correlation_id channel_binding) = .ok request)
    (hreply : service.on_message request = some data) :
    ∃ frame, frame_decode_v1 data = .ok frame ∧ Replies service call correlation_id frame := by
  unfold Service.on_message at hreply
  simp only [frame_decode_encode hrequest] at hreply
  cases hauthentic : service.authenticate (call.frame correlation_id channel_binding) with
  | none =>
    rw [hauthentic] at hreply
    exact replies_of_failure (by decide) hreply
  | some claims =>
    rw [hauthentic, authenticate_frame hauthentic] at hreply
    exact execute_replies hreply

/-- A request reaches the store as the client made it, and a receipt reaches
the client as the store made it. -/
theorem chunk_wire_faithful :
    (∀ (call : Call) correlation_id channel_binding data,
      let frame := call.frame correlation_id channel_binding
      frame_encode_v1 frame = .ok data →
        frame_decode_v1 data = .ok frame ∧ claims_decode_v1 frame.claims = .ok call.claims) ∧
    ∀ receipt bytes, encode_v1 receipt = .ok bytes → decode_v1 bytes = .ok receipt :=
  ⟨fun call _ _ _ hok => ⟨frame_decode_encode hok, claims_decode_encode call.claims⟩, fun _ _ => decode_encode_v1⟩

end replies

/-- A response belongs to one operation, since the correlation id holds a tag
of it. -/
theorem code_of_correlation {port port' : Nat} {operation operation' : Operation}
    (hsame : correlation port operation = correlation port' operation') : operation.code = operation'.code := by
  have htag : operation.tag = operation'.tag := Option.some.inj (congrArg (fun id : Bytes 16 => id.toList[1]?) hsame)
  cases operation <;> cases operation' <;> simp [Operation.tag] at htag <;> rfl

section response

variable {client : Client} {call : Call} {frame : Frame}

/-- Taking a response ends the wait with the status of the frame and leaves
the correlation id. -/
@[simp] theorem take_response_correlation (client : Client) (frame : Frame) :
    (client.take_response frame).pending_correlation = client.pending_correlation := by
  simp only [Client.take_response]
  split_ifs <;> (try split) <;> rfl

/-- A successful response is stored, whatever the storage held before. -/
theorem take_response_stored (client : Client) (hok : frame.status = OK) (hfits : frame.payload.length ≤ MAX_PAYLOAD) :
    (client.take_response frame).response_len = frame.payload.length ∧
      (client.take_response frame).response_storage.take frame.payload.length = frame.payload := by
  by_cases hempty : frame.payload.length = 0
  · have hnil : frame.payload = [] := List.length_eq_zero_iff.mp hempty
    simp [Client.take_response, hok, hnil, ENCODED_SIZE]
  · have hpositive : 0 < frame.payload.length := by omega
    simp only [Client.take_response, hok, hpositive, hfits, and_self, if_true, true_and]
    split_ifs <;> (try split) <;> simp

theorem take_response_receipt {receipt : Receipt} (hok : frame.status = OK) (hput : frame.operation = OP_PUT)
    (hencode : encode_v1 receipt = .ok frame.payload) : (client.take_response frame).receipt = receipt := by
  have hlength := length_encode_v1 hencode
  have hstored : 0 < frame.payload.length ∧ frame.payload.length ≤ MAX_PAYLOAD := by
    rw [hlength]
    decide
  have hdecode := decode_encode_v1 hencode
  have hreceipt : frame.status = OK ∧ frame.operation = OP_PUT ∧ frame.payload.length = ENCODED_SIZE :=
    ⟨hok, hput, hlength⟩
  unfold Client.take_response
  dsimp only
  rw [if_pos hreceipt, if_pos ⟨hok, hstored⟩, List.take_left, hdecode]

/-- A call returns OK only after a response with the status `OK`. -/
theorem end_call_eq_ok (hanswer : client.end_call call = .ok answer) :
    client.done = true ∧ client.status = OK := by
  obtain ⟨hwait, hanswer⟩ := guard_passed hanswer
  obtain ⟨hstatus, _⟩ := guard_passed hanswer
  refine ⟨?_, not_not.mp hstatus⟩
  have hwaited := not_not.mp hwait
  obtain ⟨_, hwaited⟩ := guard_passed hwaited (by decide)
  by_contra hdone
  rw [if_neg hdone] at hwaited
  exact absurd hwaited (by decide)

/-- A caller whose client took a reply of the same operation gets what the
reply carries. -/
theorem end_call_take_response {peer : Option Security} {carried : Answer}
    (hoperation : frame.operation = call.operation.code) (hfits : frame.payload.length ≤ MAX_PAYLOAD)
    (hok : frame.status = OK) (hcarries : Carries frame carried)
    (hanswer : ({ client.take_response frame with peer := peer } : Client).end_call call = .ok answer) :
    answer = carried := by
  obtain ⟨hlen, hbytes⟩ := take_response_stored client hok hfits
  obtain ⟨_, hanswer⟩ := guard_passed hanswer
  obtain ⟨_, hanswer⟩ := guard_passed hanswer
  cases hcall : call.operation with
  | put bytes =>
    simp only [hcall] at hanswer hoperation
    obtain ⟨_, hanswer⟩ := guard_passed hanswer
    cases carried with
    | receipt receipt =>
      obtain ⟨hput, hencode⟩ := hcarries
      rw [← Except.ok.inj hanswer, take_response_receipt hok hput hencode]
    | bytes read =>
      have hget := hcarries.1.symm.trans hoperation
      simp [Operation.code, OP_GET, OP_PUT] at hget
  | get buffer_size =>
    simp only [hcall] at hanswer hoperation
    obtain ⟨_, hanswer⟩ := guard_passed hanswer
    cases carried with
    | receipt receipt =>
      have hput := hcarries.1.symm.trans hoperation
      simp [Operation.code, OP_GET, OP_PUT] at hput
    | bytes read =>
      rw [← Except.ok.inj hanswer, hlen, hbytes, hcarries.2]

end response

section worlds

variable {world : World} {event : Event}

/-- A request on its way is the frame of its call, and the correlation id in it
is the one of the call's port and operation. -/
def Request.Formed (request : Request) : Prop :=
  ∃ port channel_binding, request.correlation_id = correlation port request.call.operation ∧
    frame_encode_v1 (request.call.frame request.correlation_id channel_binding) = .ok request.data

variable {call : Call} {client : Client} {correlation_id : Bytes 16}

/-- A call that passes its checks waits for its correlation id and sends its
frame. -/
theorem begin_call_eq_ok {waiting : Client} {data : List UInt8}
    (hok : client.begin_call call = .ok (waiting, data)) :
    waiting.pending_correlation = correlation client.port call.operation ∧ waiting.done = false ∧
      Request.Formed ⟨call, waiting.pending_correlation, data⟩ := by
  obtain ⟨_, hok⟩ := guard_passed hok
  cases hpeer : client.peer with
  | none => simp [hpeer] at hok
  | some security =>
    simp only [hpeer] at hok
    obtain ⟨_, hok⟩ := guard_passed hok
    obtain ⟨frame, hencode, hwaiting⟩ := except_map_eq_ok.mp hok
    obtain ⟨rfl, rfl⟩ := Prod.mk.inj hwaiting
    exact ⟨rfl, rfl, client.port, security.channel_binding, rfl, hencode⟩

/-- A step sends at most one request. -/
theorem step_requests (world : World) (event : Event) :
    (world.step event).requests = world.requests ∨
      ∃ request, Request.Formed request ∧ (world.step event).requests = world.requests ++ [request] := by
  cases event with
  | call number call sent =>
    simp only [World.step, World.call]
    split
    · exact .inl rfl
    · split
      · exact .inl rfl
      · rename_i hbegin
        split_ifs
        · exact .inr ⟨_, (begin_call_eq_ok hbegin).2.2, rfl⟩
        · exact .inl rfl
  | serve number service =>
    simp only [World.step, World.serve]
    split
    · exact .inl rfl
    · split <;> exact .inl rfl
  | deliver number =>
    simp only [World.step, World.deliver]
    split <;> exact .inl rfl
  | link number peer => exact .inl rfl

/-- A step of a store sends at most one response, and no other step does. -/
theorem step_responses (world : World) (event : Event) :
    (world.step event).responses = world.responses ∨
      ∃ number service request data, event = .serve number service ∧ world.requests[number]? = some request ∧
        service.on_message request.data = some data ∧
        (world.step event).responses = world.responses ++ [⟨number, data⟩] := by
  cases event with
  | call number call sent =>
    simp only [World.step, World.call]
    split
    · exact .inl rfl
    · split <;> exact .inl rfl
  | serve number service =>
    simp only [World.step, World.serve]
    split
    · exact .inl rfl
    · rename_i request hrequest
      split
      · exact .inl rfl
      · rename_i data hreply
        exact .inr ⟨number, service, request, data, rfl, hrequest, hreply, rfl⟩
  | deliver number =>
    simp only [World.step, World.deliver]
    split <;> exact .inl rfl
  | link number peer => exact .inl rfl

variable {number : Nat}

theorem requests_kept (hrequest : world.requests[number]? = some request) (event : Event) :
    (world.step event).requests[number]? = some request := by
  obtain hsame | ⟨_, _, hmore⟩ := step_requests world event
  · rwa [hsame]
  · rwa [hmore, List.getElem?_append_left (List.getElem?_eq_some_iff.mp hrequest).1]

theorem responses_kept {response : Response} (hresponse : world.responses[number]? = some response) (event : Event) :
    (world.step event).responses[number]? = some response := by
  obtain hsame | ⟨_, _, _, _, _, _, _, hmore⟩ := step_responses world event
  · rwa [hsame]
  · rwa [hmore, List.getElem?_append_left (List.getElem?_eq_some_iff.mp hresponse).1]

/-- Every response on its way was sent by a store on a request of a call. -/
def Honest (events : List Event) (world : World) : Prop :=
  (∀ request ∈ world.requests, request.Formed) ∧
    ∀ response ∈ world.responses, ∃ request service, world.requests[response.request]? = some request ∧
      .serve response.request service ∈ events ∧ service.on_message request.data = some response.data

theorem Honest.step {events : List Event} (hhonest : Honest events world) (hevent : event ∈ events) :
    Honest events (world.step event) := by
  obtain ⟨hformed, hserved⟩ := hhonest
  constructor
  · intro request hrequest
    obtain hsame | ⟨sent, hsent, hmore⟩ := step_requests world event
    · exact hformed request (hsame ▸ hrequest)
    · rw [hmore, List.mem_append, List.mem_singleton] at hrequest
      obtain hrequest | rfl := hrequest
      · exact hformed request hrequest
      · exact hsent
  · intro response hresponse
    have hold : response ∈ world.responses → ∃ request service,
        (world.step event).requests[response.request]? = some request ∧ .serve response.request service ∈ events ∧
          service.on_message request.data = some response.data := by
      intro hresponse
      obtain ⟨request, service, hrequest, hserve, hreply⟩ := hserved response hresponse
      exact ⟨request, service, requests_kept hrequest event, hserve, hreply⟩
    obtain hsame | ⟨number, service, request, data, rfl, hrequest, hreply, hmore⟩ := step_responses world event
    · exact hold (hsame ▸ hresponse)
    · rw [hmore, List.mem_append, List.mem_singleton] at hresponse
      obtain hresponse | rfl := hresponse
      · exact hold hresponse
      · exact ⟨request, service, requests_kept hrequest _, hevent, hreply⟩

theorem run_honest (clients : List Client) (events : List Event) :
    Honest events (run World.step (World.start clients) events) := by
  apply run_invariant_of_mem
  · exact ⟨by simp [World.start], by simp [World.start]⟩
  · intro world event hevent hhonest
    exact hhonest.step hevent

/-- Where the clients of a router are after a message: each is as it was,
except the one that waited for the correlation id of the frame. -/
theorem route_getElem? (frame : Frame) {clients : List Client} (hclient : clients[number]? = some client) :
    (route frame clients)[number]? = some client ∨
      client.pending_correlation = frame.correlation_id ∧
        (route frame clients)[number]? = some (client.take_response frame) := by
  induction clients generalizing number with
  | nil => simp at hclient
  | cons head rest ih =>
    unfold route
    cases number with
    | zero =>
      obtain rfl : head = client := by simpa using hclient
      split_ifs with hdone hmatch
      · exact .inl rfl
      · exact .inr ⟨hmatch, rfl⟩
      · exact .inl rfl
    | succ number =>
      split_ifs
      · simpa using ih hclient
      · exact .inl hclient
      · simpa using ih hclient

/-- What a step does to a client that starts no call in it: it takes a
response that is delivered, or nothing but its link changes. -/
theorem step_client (hclient : world.clients[number]? = some client)
    (hidle : ∀ call sent, event ≠ .call number call sent) :
    ∃ peer, (world.step event).clients[number]? = some { client with peer := peer } ∨
      ∃ response sent frame, event = .deliver response ∧ world.responses[response]? = some sent ∧
        frame_decode_v1 sent.data = .ok frame ∧ client.pending_correlation = frame.correlation_id ∧
        (world.step event).clients[number]? = some { client.take_response frame with peer := peer } := by
  cases event with
  | call number' call sent =>
    have hother : number' ≠ number := by
      rintro rfl
      exact hidle call sent rfl
    refine ⟨client.peer, .inl ?_⟩
    simp only [World.step, World.call]
    split
    · exact hclient
    · split
      · exact hclient
      · rw [List.getElem?_set_ne hother]
        exact hclient
  | serve number' service =>
    refine ⟨client.peer, .inl ?_⟩
    simp only [World.step, World.serve]
    split
    · exact hclient
    · split <;> exact hclient
  | deliver response =>
    simp only [World.step, World.deliver]
    split
    · exact ⟨client.peer, .inl hclient⟩
    · rename_i sent hsent
      simp only [router_on_message]
      split
      · exact ⟨client.peer, .inl hclient⟩
      · rename_i frame hdecode
        split_ifs
        · exact ⟨client.peer, .inl hclient⟩
        · obtain hsame | ⟨hmatch, htaken⟩ := route_getElem? frame hclient
          · exact ⟨client.peer, .inl hsame⟩
          · exact ⟨(client.take_response frame).peer, .inr ⟨response, sent, frame, rfl, hsent, hdecode, hmatch, htaken⟩⟩
  | link number' peer =>
    simp only [World.step, World.link]
    by_cases hsame : number' = number
    · subst hsame
      exact ⟨peer, .inl (by simp [hclient])⟩
    · exact ⟨client.peer, .inl (by simp [hsame, hclient])⟩

/-- The client of a call since the call: it waits for the call's correlation
id, and if its wait is over then a response with this id has reached it. -/
def Heard (since : List Event) (number : Nat) (correlation_id : Bytes 16) (world : World) : Prop :=
  ∃ client, world.clients[number]? = some client ∧ client.pending_correlation = correlation_id ∧
    (client.done = true → ∃ response sent frame earlier, .deliver response ∈ since ∧
      world.responses[response]? = some sent ∧ frame_decode_v1 sent.data = .ok frame ∧
      frame.correlation_id = correlation_id ∧
      client = { Client.take_response earlier frame with peer := client.peer })

theorem Heard.step (hheard : Heard since number correlation_id world) (hevent : event ∈ since)
    (hidle : ∀ call sent, event ≠ .call number call sent) :
    Heard since number correlation_id (world.step event) := by
  obtain ⟨client, hclient, rfl, hdone⟩ := hheard
  obtain ⟨peer, hsame | ⟨response, sent, frame, rfl, hsent, hdecode, hmatch, htaken⟩⟩ := step_client hclient hidle
  · refine ⟨_, hsame, rfl, fun hover => ?_⟩
    obtain ⟨response, sent, frame, earlier, hdelivered, hsent, hdecode, hmatch, htook⟩ := hdone hover
    refine ⟨response, sent, frame, earlier, hdelivered, responses_kept hsent event, hdecode, hmatch, ?_⟩
    rw [htook]
  · exact ⟨_, htaken, by simp, fun _ =>
      ⟨response, sent, frame, client, hevent, responses_kept hsent _, hdecode, hmatch.symm, rfl⟩⟩

theorem run_heard (hstart : Heard since number correlation_id world)
    (hidle : ∀ call sent, .call number call sent ∉ since) :
    Heard since number correlation_id (run World.step world since) := by
  apply run_invariant_of_mem hstart
  intro world event hevent hheard
  refine hheard.step hevent fun call sent hcall => ?_
  exact hidle call sent (hcall ▸ hevent)

theorem run_requests_kept (hrequest : world.requests[number]? = some request) (events : List Event) :
    (run World.step world events).requests[number]? = some request :=
  run_invariant (P := fun world : World => world.requests[number]? = some request) hrequest
    (fun _ event hkept => requests_kept hkept event) events

/-- A call that sends its request waits for a response, and its request is the
last one on its way. -/
theorem call_sent (hsent : (world.call number call true).requests ≠ world.requests) :
    ∃ request, request.call = call ∧ (world.call number call true).requests[world.requests.length]? = some request ∧
      ∀ since, Heard since number request.correlation_id (world.call number call true) := by
  unfold World.call at hsent ⊢
  cases hclient : world.clients[number]? with
  | none => simp [hclient] at hsent
  | some client =>
    simp only [hclient] at hsent ⊢
    cases hbegin : client.begin_call call with
    | error result => simp [hbegin] at hsent
    | ok sending =>
      obtain ⟨waiting, data⟩ := sending
      have hdone := (begin_call_eq_ok hbegin).2.1
      refine ⟨⟨call, waiting.pending_correlation, data⟩, rfl, by simp, fun since => ?_⟩
      have hwaits : (world.clients.set number waiting)[number]? = some waiting :=
        List.getElem?_set_self (List.getElem?_eq_some_iff.mp hclient).1
      exact ⟨waiting, hwaits, rfl, fun hover => by simp [hdone] at hover⟩

end worlds

/-- The responses with the correlation id of a call that reach the router
after it are replies to this call. -/
def OwnReplies (world : World) (since : List Event) (number : Nat) (correlation_id : Bytes 16) : Prop :=
  ∀ response sent request, .deliver response ∈ since → world.responses[response]? = some sent →
    world.requests[sent.request]? = some request → request.correlation_id = correlation_id → sent.request = number

/-- What a call returns. After any calls, served requests and deliveries, a
put or get returns OK only with the receipt or the bytes that a store gave
for the claims of a call with the same correlation id; and if the responses
with this id that arrive during the call are replies to it, then for the
claims of the call itself. -/
theorem mesh_call_answers (clients : List Client) (before since : List Event) (number : Nat) (call : Call)
    (world : World) (hworld : world = Machine.run World.step (World.start clients) before)
    (hsent : (world.call number call true).requests ≠ world.requests)
    (hidle : ∀ later sent, .call number later sent ∉ since)
    (after : World) (hafter : after = Machine.run World.step (world.call number call true) since)
    (client : Client) (hclient : after.clients[number]? = some client)
    (answer : Answer) (hanswer : client.end_call call = .ok answer) :
    ∃ request issuer service, after.requests[request]? = some issuer ∧
      .serve request service ∈ before ++ since ∧ service.outcome issuer.call = some answer ∧
      issuer.correlation_id = client.pending_correlation ∧
      (OwnReplies after since world.requests.length client.pending_correlation →
        request = world.requests.length ∧ issuer.call = call) := by
  obtain ⟨own, hown, hnumber, hstart⟩ := call_sent hsent
  have hkept := hafter ▸ run_requests_kept hnumber since
  have hheard := hafter ▸ run_heard (hstart since) hidle
  have hrun : after = run World.step (World.start clients) (before ++ Event.call number call true :: since) := by
    rw [hafter, run_append, ← hworld]
    rfl
  obtain ⟨hformed, hserved⟩ := hrun ▸ run_honest clients (before ++ Event.call number call true :: since)
  obtain ⟨waiting, hwaiting, hpending, hover⟩ := hheard
  obtain rfl : waiting = client := Option.some.inj (hwaiting.symm.trans hclient)
  obtain ⟨hdone, hstatus⟩ := end_call_eq_ok hanswer
  obtain ⟨response, sent, frame, earlier, hdelivered, hresponse, hdecode, hmatch, htook⟩ := hover hdone
  obtain ⟨issuer, service, hissuer, hserve, hreply⟩ := hserved sent (List.mem_of_getElem? hresponse)
  obtain ⟨port, channel_binding, hport, hencode⟩ := hformed issuer (List.mem_of_getElem? hissuer)
  obtain ⟨frame', hdecode', hreplies⟩ := on_message_replies hencode hreply
  obtain rfl : frame' = frame := Except.ok.inj (hdecode'.symm.trans hdecode)
  have hsame : issuer.correlation_id = own.correlation_id := hreplies.correlation_eq.symm.trans hmatch
  have hoperation : frame'.operation = call.operation.code := by
    obtain ⟨port', _, hport', _⟩ := hformed own (List.mem_of_getElem? hkept)
    rw [hreplies.operation_eq, ← hown]
    exact code_of_correlation (hport.symm.trans (hsame.trans hport'))
  have hok : frame'.status = OK := by
    rw [htook] at hstatus
    exact hstatus
  obtain ⟨carried, houtcome, hcarries⟩ := hreplies.carries hok
  rw [htook] at hanswer
  obtain rfl := end_call_take_response hoperation hreplies.fits hok hcarries hanswer
  refine ⟨sent.request, issuer, service, hissuer, ?_, houtcome, hsame.trans hpending.symm, fun honly => ?_⟩
  · simpa using hserve
  · have hnumber := honly response sent issuer hdelivered hresponse hissuer (hsame.trans hpending.symm)
    rw [hnumber, hkept] at hissuer
    exact ⟨hnumber, (congrArg Request.call (Option.some.inj hissuer)).symm.trans hown⟩

/-- The link of `idle_client` to its store. -/
def authenticated_link : Security := ⟨true, take_bytes 32 [7]⟩

def idle_client : Client :=
  { port := 4433, peer := some authenticated_link, pending_correlation := Bytes.zero 16, response_storage := []
    response_len := 0, receipt := zero_receipt, done := false, status := OK }

/-- A put of one byte, with this byte as the digest of the chunk and as the
request id. -/
def one_byte_put (byte : UInt8) : Call :=
  { operation := .put [byte]
    claims :=
      { tenant_id := take_bytes 32 [1], cid := { hash_algorithm := 1, size := 1, digest := take_bytes 32 [byte] }
        operation := 2, range_offset := 0, range_length := 1, audience_node_id := take_bytes 32 [2]
        request_id := take_bytes 16 [byte], issued_at_ms := 1000, expires_at_ms := 2000 }
    signature := Bytes.zero 64
    signer_public_key := take_bytes 32 [3] }

/-- The receipt that names the chunk and the request of the claims. -/
def receipt_for (claims : Claims) : Receipt :=
  { store_node_id := take_bytes 32 [2], cid := claims.cid, request_id := claims.request_id, issued_at_ms := 1500
    signature := Bytes.zero 64 }

/-- A store that accepts every put. -/
def accepting_store : Service :=
  { trusted_keys := [take_bytes 32 [3]], node_id := take_bytes 32 [2], security := some authenticated_link
    now_ms := 1500, malloc_ok := true, ed25519_verify := fun _ _ _ => true
    put_chunk := fun claims _ _ => .ok (receipt_for claims), read_chunk := fun _ _ => .error .NOT_FOUND }

/-- A put that is answered in time returns the receipt of the store that
served it. -/
theorem prompt_receipt_answers_put :
    let served : List Event := [.serve 0 accepting_store, .deliver 0]
    let answered := Machine.run World.step ((World.start [idle_client]).call 0 (one_byte_put 8) true) served
    answered.clients[0]?.map (·.end_call (one_byte_put 8)) =
        some (.ok (.receipt (receipt_for (one_byte_put 8).claims))) ∧
      ∃ service : Service, .serve 0 service ∈ served ∧
        service.outcome (one_byte_put 8) = some (.receipt (receipt_for (one_byte_put 8).claims)) := by
  intro served answered
  have hreturned : answered.clients[0]?.map (·.end_call (one_byte_put 8)) =
      some (.ok (.receipt (receipt_for (one_byte_put 8).claims))) := by decide +kernel
  have hresponses : answered.responses.map (·.request) = [0] := by decide +kernel
  have hsent : ((World.start [idle_client]).call 0 (one_byte_put 8) true).requests ≠ [] := by
    decide +kernel
  obtain ⟨client, hclient, hanswer⟩ := Option.map_eq_some_iff.mp hreturned
  refine ⟨hreturned, ?_⟩
  obtain ⟨request, issuer, service, _, hserve, houtcome, _, hown⟩ := mesh_call_answers [idle_client] [] served 0
    (one_byte_put 8) (World.start [idle_client]) rfl hsent (by simp [served]) answered rfl client hclient _ hanswer
  obtain ⟨rfl, hcall⟩ := hown fun response sent _ _ hresponse _ _ => by
    have hmem : sent.request ∈ answered.responses.map (·.request) :=
      List.mem_map_of_mem (List.mem_of_getElem? hresponse)
    simpa [hresponses, World.start] using hmem
  exact ⟨service, hserve, hcall ▸ houtcome⟩

/-- A put times out and the next put of the client starts; the late response
to the first put answers the second one, with a receipt for another chunk
and another request than the store gives for it. -/
theorem late_receipt_answers_next_put :
    let timed_out := Machine.run World.step (World.start [idle_client]) [.call 0 (one_byte_put 8) true]
    let answered := Machine.run World.step timed_out
      [.serve 0 accepting_store, .call 0 (one_byte_put 9) true, .deliver 0]
    timed_out.clients.map (·.end_call (one_byte_put 8)) = [.error TIMEOUT] ∧
      answered.clients.map (·.end_call (one_byte_put 9)) =
        [.ok (.receipt (receipt_for (one_byte_put 8).claims))] ∧
      accepting_store.outcome (one_byte_put 9) = some (.receipt (receipt_for (one_byte_put 9).claims)) ∧
      receipt_for (one_byte_put 8).claims ≠ receipt_for (one_byte_put 9).claims := by
  decide +kernel

end turbop2p.m3_chunk_mesh
