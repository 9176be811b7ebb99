/-
# The gateway

What the API gateway knows of a request and what its log plugin writes about it.
Only refusals are written. The user id is the consumer the token's issuer names,
and there is one consumer for every user; the address is the peer's own. Behind
the gateway a service sees the request with the peer appended to whatever
forwarding header the client sent.
-/

import SentinelIR.Common.Middleware

namespace SentinelIR.Gateway

open SentinelIR.Py SentinelIR.Common

/-- The address of a host, as a socket reports it. -/
structure Address where
  text : Str
  visible : text ≠ []
  plain : ∀ c ∈ text, c ≠ codePoint ',' ∧ isSpace c = false

/-- A request as the gateway takes it from a client. -/
structure ClientRequest where
  method : Str
  path : Str
  /-- The client's own address. -/
  peer : Address
  /-- The user whose token the `jwt` plugin verified. -/
  token : Option Str
  /-- The client's own `X-User-Id` header. -/
  userIdHeader : Option Str
  /-- The client's own `X-Forwarded-For` header. -/
  forwardedFor : Option Str
  /-- The `X-Correlation-ID` header, once the plugin of that name has run. -/
  correlationId : Str

/-- The username of the one consumer: every token the platform issues names the
same issuer. -/
def consumerName : Str := "sentinel-ir-client"

namespace ClientRequest

variable (request : ClientRequest)

/-- `kong.client.get_consumer()`. -/
def consumer : Option Str := request.token.map fun _ => consumerName

/-- The forwarding header a service receives. -/
def forwardedHeader : Str :=
  match request.forwardedFor with
  | some client => client ++ ", " ++ request.peer.text
  | none => request.peer.text

/-- The request a service receives from the gateway at `host`. -/
def upstream (host : Address) : Request where
  method := request.method
  path := request.path
  userIdHeader := request.userIdHeader
  forwardedFor := some request.forwardedHeader
  peer := some host.text

end ClientRequest

/-- The fields of a line about an unauthorised caller. -/
def refusedFields (request : ClientRequest) (status : Nat) : EventFields where
  serviceName := .gateway
  eventType := .unauthorisedAccess
  severity := .medium
  userId := request.consumer
  sourceIp := some request.peer.text
  endpoint := request.path
  httpMethod := request.method
  statusCode := status
  message := "Request to " ++ request.path ++ " refused: caller is not authorised."
  correlationId := request.correlationId
  affectedEntity := some request.path

/-- The fields of a line about a caller over its rate limit. -/
def throttledFields (request : ClientRequest) : EventFields where
  serviceName := .gateway
  eventType := .rateLimitExceeded
  severity := .medium
  userId := request.consumer
  sourceIp := some request.peer.text
  endpoint := request.path
  httpMethod := request.method
  statusCode := 429
  message := "Request refused: rate limit exceeded."
  correlationId := request.correlationId
  affectedEntity := some "rate-limit"

/-- `custom_fields_by_lua`: every expression returns nil for any other answer. -/
def customFields (request : ClientRequest) (status : Nat) : Option EventFields :=
  if status = 429 then some (throttledFields request)
  else if status = 401 ∨ status = 403 then some (refusedFields request status)
  else none

/-! ## What the service records -/

/-- The request is one the schema can describe, and not one of the paths the
middleware leaves alone. -/
structure ClientRequest.Recorded (request : ClientRequest) : Prop where
  method : request.method ∈ permittedMethods
  path : ¬ Blank request.path
  correlation : ¬ Blank request.correlationId
  tracked : request.path ∉ untrackedPaths

section Recorded

variable {request : ClientRequest}

theorem ClientRequest.Recorded.upstream (recorded : request.Recorded) (host : Address) :
    (request.upstream host).Recorded request.correlationId :=
  ⟨recorded.method, recorded.path, recorded.correlation⟩

theorem refusedFields_valid (recorded : request.Recorded) {status : Nat}
    (refusal : status = 401 ∨ status = 403) : (refusedFields request status).Valid where
  method := recorded.method
  status := show 100 ≤ (status : Int) ∧ (status : Int) ≤ 599 by omega
  endpoint := recorded.path
  message := not_blank_append_right (not_blank_lit (by decide +kernel))
  correlation := recorded.correlation

theorem throttledFields_valid (recorded : request.Recorded) : (throttledFields request).Valid where
  method := recorded.method
  status := show (100 : Int) ≤ 429 ∧ (429 : Int) ≤ 599 by decide
  endpoint := recorded.path
  message := not_blank_lit (by decide +kernel)
  correlation := recorded.correlation

/-- The gateway's line about the answer, as it stands on the stream. -/
def logged (recorded : request.Recorded) (status : Nat) : Option EventBody :=
  if status = 429 then some ⟨throttledFields request, throttledFields_valid recorded⟩
  else if refusal : status = 401 ∨ status = 403 then
    some ⟨refusedFields request status, refusedFields_valid recorded refusal⟩
  else none

theorem map_logged (recorded : request.Recorded) (status : Nat) :
    (logged recorded status).map (·.toEventFields) = customFields request status := by
  unfold logged customFields
  split
  · rfl
  · split <;> rfl

end Recorded

/-- Cutting at the comma and trimming leave an address as it is. -/
theorem leadingEntry_address (address : Address) : leadingEntry address.text = address.text := by
  have whole : address.text.takeWhile (· ≠ codePoint ',') = address.text :=
    List.takeWhile_eq_self_iff.mpr fun c hc => by simpa using (address.plain c hc).1
  have front : ∀ s : Str, (∀ c ∈ s, isSpace c = false) → s.dropWhile isSpace = s := by
    intro s visible
    cases s with
    | nil => rfl
    | cons c s => rw [List.dropWhile_cons_of_neg (by simp [visible c List.mem_cons_self])]
  rw [leadingEntry, whole, strip, front _ fun c hc => (address.plain c hc).2,
    front _ fun c hc => (address.plain c (List.mem_reverse.mp hc)).2, List.reverse_reverse]

/-- The address a service records for the request: the first entry of the
client's own header when it sent one, the client's address otherwise. -/
def ClientRequest.recordedAddress (request : ClientRequest) : Str :=
  match request.forwardedFor with
  | some client => leadingEntry client
  | none => request.peer.text

theorem leadingEntry_append (client rest : Str) :
    leadingEntry (client ++ codePoint ',' :: rest) = leadingEntry client := by
  have cut : (client ++ codePoint ',' :: rest).takeWhile (· ≠ codePoint ',') =
      client.takeWhile (· ≠ codePoint ',') := by
    induction client with
    | nil => simp
    | cons c client ih =>
        by_cases hc : c = codePoint ','
        · simp [hc]
        · simp only [List.cons_append, List.takeWhile_cons, ne_eq, hc, not_false_eq_true,
            decide_true, if_true]
          exact congrArg (c :: ·) ih
  rw [leadingEntry, leadingEntry, cut]

theorem clientIp_upstream (request : ClientRequest) (host : Address) :
    clientIp (request.upstream host) = some request.recordedAddress := by
  have entry : leadingEntry request.forwardedHeader = request.recordedAddress := by
    unfold ClientRequest.forwardedHeader ClientRequest.recordedAddress
    cases request.forwardedFor with
    | none => exact leadingEntry_address request.peer
    | some client =>
        change leadingEntry (client ++ ", " ++ request.peer.text) = leadingEntry client
        rw [List.append_assoc]
        exact leadingEntry_append client (codePoint ' ' :: request.peer.text)
  have nonempty : request.forwardedHeader ≠ [] := by
    unfold ClientRequest.forwardedHeader
    cases request.forwardedFor with
    | none => exact request.peer.visible
    | some client => simp [request.peer.visible]
  rw [clientIp_of_forwarded rfl nonempty, entry]

end SentinelIR.Gateway
