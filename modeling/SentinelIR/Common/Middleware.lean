/-
# The event middleware

Every service reports each request it serves: its arrival, its completion, and a
service error when it answers with a server error or an exception escapes. All of
these events name the caller the same way, by two headers of the request.
-/

import SentinelIR.Common.Traced

namespace SentinelIR.Common

open SentinelIR.Py

/-- A request as a service receives it: the parts the middleware reads. `peer` is
the host at the other end of the socket. -/
structure Request where
  method : Str
  path : Str
  userIdHeader : Option Str := none
  forwardedFor : Option Str := none
  peer : Option Str
  deriving DecidableEq

/-- `forwarded.split(",")[0].strip()`. -/
def leadingEntry (forwarded : Str) : Str := strip (forwarded.takeWhile (· ≠ codePoint ','))

/-- `_client_ip`, and `get_source_ip` of auth-service. -/
def clientIp (request : Request) : Option Str :=
  match request.forwardedFor with
  | some (c :: forwarded) => some (leadingEntry (c :: forwarded))
  | _ => request.peer

theorem clientIp_of_forwarded {request : Request} {forwarded : Str}
    (header : request.forwardedFor = some forwarded) (nonempty : forwarded ≠ []) :
    clientIp request = some (leadingEntry forwarded) := by
  obtain ⟨c, rest, rfl⟩ := List.exists_cons_of_ne_nil nonempty
  rw [clientIp, header]

/-- `_UNTRACKED_PATHS`. -/
def untrackedPaths : List Str := ["/health", "/health/live", "/metrics"]

namespace SecurityEventMiddleware

/-- The arguments all of the middleware's events share. -/
def fields (serviceName : ServiceName) (request : Request) (correlationId : Str)
    (eventType : EventType) (severity : Severity) (statusCode : Int) (message : Str) :
    EventFields where
  serviceName := serviceName
  eventType := eventType
  severity := severity
  userId := request.userIdHeader
  sourceIp := clientIp request
  endpoint := request.path
  httpMethod := request.method
  statusCode := statusCode
  message := message
  correlationId := correlationId

variable (serviceName : ServiceName) (request : Request) (correlationId : Str)

/-- The `REQUEST_RECEIVED` event. -/
def received : EventFields :=
  fields serviceName request correlationId .requestReceived .low 100
    ("Request received for " ++ request.path)

/-- The `SERVICE_ERROR` event of an exception that escapes. -/
def unhandled : EventFields :=
  fields serviceName request correlationId .serviceError .high 500
    ("Unhandled error while serving " ++ request.path)

/-- The `SERVICE_ERROR` event of an answered server error. -/
def answeredError (status : Nat) : EventFields :=
  fields serviceName request correlationId .serviceError .high status
    ("Service returned " ++ decimal status ++ " for " ++ request.path)

/-- The `REQUEST_COMPLETED` event. -/
def completed (status : Nat) : EventFields :=
  fields serviceName request correlationId .requestCompleted .low status
    ("Request completed for " ++ request.path ++ " with " ++ decimal status)

/-- `dispatch`, around what the rest of the application does: the response it
answers with, of which the status is read, or an exception none of its handlers claims. -/
def dispatchWith {ρ : Type} (statusOf : ρ → Nat) (serviceName : ServiceName) (request : Request)
    (correlationId : Str) (next : Traced ρ) : Traced ρ :=
  if request.path ∈ untrackedPaths then next
  else do
    Traced.emit (received serviceName request correlationId)
    match next.result with
    | .error raised =>
        Traced.bind ⟨.ok (), next.emitted⟩ fun _ => do
          Traced.emit (unhandled serviceName request correlationId)
          Traced.raise raised
    | .ok response =>
        Traced.bind ⟨.ok (), next.emitted⟩ fun _ => do
          if 500 ≤ statusOf response then
            Traced.emit (answeredError serviceName request correlationId (statusOf response))
          Traced.emit (completed serviceName request correlationId (statusOf response))
          return response

/-- `dispatch`, where a response is its status. -/
def dispatch (next : Traced Nat) : Traced Nat :=
  dispatchWith id serviceName request correlationId next

end SecurityEventMiddleware

/-- The request passes the schema: its method is one of the permitted ones in
upper case, and neither its path nor its correlation id is blank. -/
structure Request.Recorded (request : Request) (correlationId : Str) : Prop where
  method : request.method ∈ permittedMethods
  path : ¬ Blank request.path
  correlation : ¬ Blank correlationId

section Events

variable {serviceName : ServiceName} {request : Request} {correlationId : Str}

theorem fields_valid (recorded : request.Recorded correlationId) {eventType : EventType}
    {severity : Severity} {statusCode : Int} {message : Str}
    (status : 100 ≤ statusCode ∧ statusCode ≤ 599) (visible : ¬ Blank message) :
    (SecurityEventMiddleware.fields serviceName request correlationId eventType severity statusCode
      message).Valid where
  method := recorded.method
  status := status
  endpoint := recorded.path
  message := visible
  correlation := recorded.correlation

theorem received_valid (recorded : request.Recorded correlationId) :
    (SecurityEventMiddleware.received serviceName request correlationId).Valid :=
  fields_valid recorded (by decide) (not_blank_append_left (not_blank_lit (by decide +kernel)))

theorem completed_valid (recorded : request.Recorded correlationId) {status : Nat}
    (inRange : 100 ≤ status ∧ status ≤ 599) :
    (SecurityEventMiddleware.completed serviceName request correlationId status).Valid :=
  fields_valid recorded (by omega)
    (not_blank_append_left (not_blank_append_left
      (not_blank_append_left (not_blank_lit (by decide +kernel)))))

theorem answeredError_valid (recorded : request.Recorded correlationId) {status : Nat}
    (inRange : 100 ≤ status ∧ status ≤ 599) :
    (SecurityEventMiddleware.answeredError serviceName request correlationId status).Valid :=
  fields_valid recorded (by omega)
    (not_blank_append_left (not_blank_append_left
      (not_blank_append_left (not_blank_lit (by decide +kernel)))))

theorem unhandled_valid (recorded : request.Recorded correlationId) :
    (SecurityEventMiddleware.unhandled serviceName request correlationId).Valid :=
  fields_valid recorded (by decide) (not_blank_append_left (not_blank_lit (by decide +kernel)))

/-- The arrival, as it stands on the stream. -/
def receivedEvent (serviceName : ServiceName) (recorded : request.Recorded correlationId) :
    EventBody :=
  ⟨SecurityEventMiddleware.received serviceName request correlationId, received_valid recorded⟩

/-- The completion, as it stands on the stream. -/
def completedEvent (serviceName : ServiceName) (recorded : request.Recorded correlationId)
    {status : Nat} (inRange : 100 ≤ status ∧ status ≤ 599) : EventBody :=
  ⟨SecurityEventMiddleware.completed serviceName request correlationId status,
    completed_valid recorded inRange⟩

/-- The answered server error, as it stands on the stream. -/
def answeredErrorEvent (serviceName : ServiceName) (recorded : request.Recorded correlationId)
    {status : Nat} (inRange : 100 ≤ status ∧ status ≤ 599) : EventBody :=
  ⟨SecurityEventMiddleware.answeredError serviceName request correlationId status,
    answeredError_valid recorded inRange⟩

/-- The escaped exception, as it stands on the stream. -/
def unhandledEvent (serviceName : ServiceName) (recorded : request.Recorded correlationId) :
    EventBody :=
  ⟨SecurityEventMiddleware.unhandled serviceName request correlationId, unhandled_valid recorded⟩

/-- The events of a tracked request answered without a server error: its arrival,
what the application emits, and its completion. -/
theorem dispatch_answered (recorded : request.Recorded correlationId)
    (tracked : request.path ∉ untrackedPaths) {next : Traced Nat} {status : Nat}
    (answered : next.result = .ok status) (inRange : 100 ≤ status ∧ status ≤ 599)
    (calm : status < 500) :
    SecurityEventMiddleware.dispatch serviceName request correlationId next =
      ⟨.ok status,
        receivedEvent serviceName recorded ::
          (next.emitted ++ [completedEvent serviceName recorded inRange])⟩ := by
  rw [SecurityEventMiddleware.dispatch, SecurityEventMiddleware.dispatchWith, if_neg tracked,
    Traced.emit_of_valid (received_valid recorded), Traced.bind_of_ok rfl]
  simp only [answered, id_eq, if_neg (Nat.not_le.mpr calm)]
  rw [Traced.emit_of_valid (completed_valid recorded inRange)]
  rfl

/-- The events of a tracked request answered with a server error. -/
theorem dispatch_serverError (recorded : request.Recorded correlationId)
    (tracked : request.path ∉ untrackedPaths) {next : Traced Nat} {status : Nat}
    (answered : next.result = .ok status) (inRange : 100 ≤ status ∧ status ≤ 599)
    (failing : 500 ≤ status) :
    SecurityEventMiddleware.dispatch serviceName request correlationId next =
      ⟨.ok status,
        receivedEvent serviceName recorded ::
          (next.emitted ++ [answeredErrorEvent serviceName recorded inRange,
            completedEvent serviceName recorded inRange])⟩ := by
  rw [SecurityEventMiddleware.dispatch, SecurityEventMiddleware.dispatchWith, if_neg tracked,
    Traced.emit_of_valid (received_valid recorded), Traced.bind_of_ok rfl]
  simp only [answered, id_eq, if_pos failing]
  rw [Traced.emit_of_valid (answeredError_valid recorded inRange),
    Traced.emit_of_valid (completed_valid recorded inRange)]
  rfl

/-- The events of a tracked request an exception escapes from. -/
theorem dispatch_unhandled (recorded : request.Recorded correlationId)
    (tracked : request.path ∉ untrackedPaths) {next : Traced Nat} {raised : Exc}
    (failed : next.result = .error raised) :
    SecurityEventMiddleware.dispatch serviceName request correlationId next =
      ⟨.error raised,
        receivedEvent serviceName recorded ::
          (next.emitted ++ [unhandledEvent serviceName recorded])⟩ := by
  rw [SecurityEventMiddleware.dispatch, SecurityEventMiddleware.dispatchWith, if_neg tracked,
    Traced.emit_of_valid (received_valid recorded), Traced.bind_of_ok rfl]
  simp only [failed]
  rw [Traced.emit_of_valid (unhandled_valid recorded)]
  rfl

end Events

end SentinelIR.Common
