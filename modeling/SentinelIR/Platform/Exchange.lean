/-
# What a request leaves on the stream

A client request passes the gateway and perhaps a service, and an incident's
creation makes the incident service look its asset up at the asset service. Each
hop reports for itself. An exchange is one client request with everything that
became of it; its events are those of all the emitters it touched, and what the
first three rules count among them is worked out once, here.
-/

import SentinelIR.Gateway.Kong
import SentinelIR.Rules.Signals
import SentinelIR.Services.AuthService

namespace SentinelIR.Platform

open SentinelIR.Py SentinelIR.Common SentinelIR.Collector SentinelIR.Rules SentinelIR.Services
open SentinelIR.Gateway

/-- How a service ends a request: with a status, or with an exception none of its
handlers claims. -/
inductive Answer
  | status (code : Nat) (inRange : 100 ≤ code ∧ code ≤ 599)
  | unhandled (raised : Exc)

namespace Answer

/-- What the rest of the application hands to the middleware. -/
def result : Answer → Except Exc Nat
  | status code _ => .ok code
  | unhandled raised => .error raised

/-- The status the caller sees. -/
def code : Answer → Nat
  | status code _ => code
  | unhandled _ => 500

end Answer

/-- The types of the events the handlers emit beside the middleware's own, login
failures apart. -/
def reportTypes : List EventType :=
  [.authSuccess, .incidentCreated, .incidentEscalated, .assetAccessed, .dependencyFailure,
    .circuitOpened, .circuitClosed]

/-- An event of a handler: none of them reports a refusal. -/
structure Report extends EventBody where
  kind : eventType ∈ reportTypes
  calm : statusCode ∉ UnauthorisedAccess.refusalStatusCodes

/-- A report and what the library mints for it. -/
abbrev Stamped := Report × Stamp

/-- The report as it stands on the stream. -/
def Stamped.event (report : Stamped) : SecurityEvent := report.1.toEventBody.stamp report.2

/-- What the library mints for the middleware's events of one request. -/
structure Stamps where
  arrival : Stamp
  failure : Stamp
  completion : Stamp

/-! ## One hop -/

section Hop

variable {request : Request} {correlationId : Str}

/-- What the middleware writes when the rest of the application is done. -/
def closing (service : ServiceName) (recorded : request.Recorded correlationId) (stamps : Stamps) :
    Answer → List SecurityEvent
  | .status _ inRange =>
      (if 500 ≤ Answer.code (.status _ inRange) then
        [(answeredErrorEvent service recorded inRange).stamp stamps.failure] else []) ++
      [(completedEvent service recorded inRange).stamp stamps.completion]
  | .unhandled _ => [(unhandledEvent service recorded).stamp stamps.failure]

/-- The events of one request at one service, around those of its handlers. -/
def hop (service : ServiceName) (recorded : request.Recorded correlationId) (stamps : Stamps)
    (handled : List SecurityEvent) (answer : Answer) : List SecurityEvent :=
  (receivedEvent service recorded).stamp stamps.arrival ::
    (handled ++ closing service recorded stamps answer)

/-- They are what the middleware emits. -/
theorem hop_eq_dispatch (service : ServiceName) (recorded : request.Recorded correlationId)
    (tracked : request.path ∉ untrackedPaths) (stamps : Stamps) (handled : List SecurityEvent)
    (answer : Answer) :
    (hop service recorded stamps handled answer).map (·.toEventBody) =
      (SecurityEventMiddleware.dispatch service request correlationId
        ⟨answer.result, handled.map (·.toEventBody)⟩).emitted := by
  cases answer with
  | unhandled raised =>
      rw [dispatch_unhandled recorded tracked rfl]
      simp [hop, closing]
  | status code inRange =>
      by_cases failing : 500 ≤ code
      · rw [dispatch_serverError recorded tracked rfl inRange failing]
        simp [hop, closing, Answer.code, failing]
      · rw [dispatch_answered recorded tracked rfl inRange (by omega)]
        simp [hop, closing, Answer.code, failing]

end Hop

/-! ## The lookup of an asset -/

/-- One attempt of incident-service to read an asset, as far as it reached
asset-service, which refuses no one. -/
structure Lookup where
  assetId : Int
  reports : List Stamped
  answer : Answer
  stamps : Stamps
  granted : answer.code ≠ 401 ∧ answer.code ≠ 403

/-- The request of `ResilientClient._attempt`, from the calling host: it carries
the correlation id and no other header of the client's. -/
def Lookup.request (lookup : Lookup) (host : Address) : Request where
  method := "GET"
  path := "/api/v1/assets/" ++ decimalInt lookup.assetId
  peer := some host.text

theorem Lookup.recorded (lookup : Lookup) (host : Address) {correlationId : Str}
    (correlation : ¬ Blank correlationId) : (lookup.request host).Recorded correlationId where
  method := show lit "GET" ∈ permittedMethods by decide
  path := not_blank_append_left (not_blank_lit (by decide +kernel))
  correlation := correlation

/-! ## One exchange -/

/-- What becomes of a request the schema can describe. -/
inductive Handling
  /-- The gateway answers by itself. -/
  | turnedAway (status : Nat)
  /-- auth-service refuses a login. -/
  | failedLogin (username : Str) (reason : FailureReason) (report : Stamp) (stamps : Stamps)
  /-- incident-service raises an incident and looks its asset up from its host. -/
  | incident (host : Address) (lookups : List Lookup) (reports : List Stamped) (answer : Answer)
      (stamps : Stamps)
  /-- Any other request of any service. -/
  | served (service : ServiceName) (reports : List Stamped) (answer : Answer) (stamps : Stamps)

/-- The status the gateway answers with in the end. -/
def Handling.status : Handling → Nat
  | turnedAway status => status
  | failedLogin .. => 401
  | incident _ _ _ answer _ => answer.code
  | served _ _ answer _ => answer.code

/-- What becomes of any request. -/
inductive Outcome (client : ClientRequest)
  /-- It leaves no event: no route takes it, its service is down, or the schema
  cannot describe it and its service fails on it. -/
  | silent
  | handled (recorded : client.Recorded) (handling : Handling) (logged : Stamp)

/-- A client request and everything that became of it. -/
structure Exchange where
  client : ClientRequest
  /-- When the gateway took it. -/
  sent : Datetime
  /-- The gateway, as the services see it. -/
  gateway : Address
  outcome : Outcome client

section Events

variable [UnicodeDb]

/-- The events of the service that handled the request. -/
def Handling.events {client : ClientRequest} (recorded : client.Recorded) (gateway : Address) :
    Handling → List SecurityEvent
  | turnedAway _ => []
  | failedLogin username reason report stamps =>
      hop .auth (recorded.upstream gateway) stamps
        [(AuthService.failureEvent username (clientIp (client.upstream gateway))
          recorded.correlation reason).stamp report]
        (.status 401 (by decide))
  | incident host lookups reports answer stamps =>
      hop .incident (recorded.upstream gateway) stamps
        (lookups.flatMap (fun lookup =>
          hop .asset (lookup.recorded host recorded.correlation) lookup.stamps
            (lookup.reports.map Stamped.event) lookup.answer) ++ reports.map Stamped.event)
        answer
  | served service reports answer stamps =>
      hop service (recorded.upstream gateway) stamps (reports.map Stamped.event) answer

/-- Everything the exchange leaves on the stream. -/
def Exchange.events (exchange : Exchange) : List SecurityEvent :=
  match exchange.outcome with
  | .silent => []
  | .handled recorded handling stamp =>
      handling.events recorded exchange.gateway ++
        ((logged recorded handling.status).map (·.stamp stamp)).toList

/-- A stream of a history: the events of its exchanges, in whatever order they
were delivered. -/
def Streams (stream : EventStore) (history : List Exchange) : Prop :=
  stream.events.Perm (history.flatMap Exchange.events)

end Events

/-! ## What the rules count -/

namespace Exchange

variable (exchange : Exchange)

/-- The name a service records a refusal of the request under. -/
def recordedCaller (client : ClientRequest) : Str :=
  match client.userIdHeader, client.recordedAddress with
  | some (c :: userId), _ => c :: userId
  | _, c :: address => c :: address
  | _, _ => "unattributed"

theorem recordedCaller_of_unnamed {client : ClientRequest}
    (unnamed : client.userIdHeader.getD [] = []) :
    recordedCaller client =
      if client.recordedAddress = [] then lit "unattributed" else client.recordedAddress := by
  unfold recordedCaller
  cases sent : client.userIdHeader with
  | none => cases client.recordedAddress <;> rfl
  | some userId =>
      rw [sent] at unnamed
      obtain rfl : userId = [] := unnamed
      cases client.recordedAddress <;> rfl

/-- The name the gateway records a refusal of the request under. -/
def gatewayCaller (client : ClientRequest) : Str := client.consumer.getD client.peer.text

/-- The address a rate is recorded under, if it is one. -/
def rateSource (client : ClientRequest) : Option Str :=
  if client.recordedAddress = [] then none else some client.recordedAddress

end Exchange

/-- The service's completion of a refused request. -/
def serviceRefusals (client : ClientRequest) (answer : Nat) (stamps : Stamps) : List Signal :=
  if answer = 401 ∨ answer = 403 then
    [(Exchange.recordedCaller client, moment stamps.completion)] else []

/-- The arrival of the request at a service. -/
def arrivals (client : ClientRequest) (stamps : Stamps) : List Signal :=
  (Exchange.rateSource client).toList.map fun source => (source, moment stamps.arrival)

namespace Handling

variable (client : ClientRequest)

/-- Under which names, and when, services record a refusal. -/
def refusals : Handling → List Signal
  | turnedAway _ => []
  | failedLogin _ _ _ stamps => serviceRefusals client 401 stamps
  | incident _ _ _ answer stamps => serviceRefusals client answer.code stamps
  | served _ _ answer stamps => serviceRefusals client answer.code stamps

/-- Under which addresses, and when, services record an arrival through the
gateway. -/
def arrivals : Handling → List Signal
  | turnedAway _ => []
  | failedLogin _ _ _ stamps => Platform.arrivals client stamps
  | incident _ _ _ _ stamps => Platform.arrivals client stamps
  | served _ _ _ stamps => Platform.arrivals client stamps

/-- Under which hosts, and when, asset-service records the arrival of a lookup. -/
def lookupArrivals : Handling → List Signal
  | incident host lookups _ _ _ =>
      lookups.map fun lookup => (host.text, moment lookup.stamps.arrival)
  | _ => []

/-- The failed logins, by account. -/
def accounts : Handling → List Signal
  | failedLogin username _ report _ => [(username, moment report)]
  | _ => []

/-- The failed logins, by address. -/
def addresses : Handling → List Signal
  | failedLogin _ _ report _ => [(client.recordedAddress, moment report)]
  | _ => []

end Handling

namespace Exchange

/-- What one kind of signal an exchange amounts to. -/
def signals (exchange : Exchange)
    (ofHandling : ClientRequest → Handling → Stamp → List Signal) : List Signal :=
  match exchange.outcome with
  | .silent => []
  | .handled _ handling logged => ofHandling exchange.client handling logged

/-- The refusals services record. -/
def refusals (exchange : Exchange) : List Signal :=
  exchange.signals fun client handling _ => handling.refusals client

/-- The refusals the gateway records. -/
def gatewayRefusals (exchange : Exchange) : List Signal :=
  exchange.signals fun client handling logged =>
    if handling.status = 401 ∨ handling.status = 403 then [(gatewayCaller client, moment logged)]
    else []

/-- The requests the gateway turns away for their rate. -/
def throttles (exchange : Exchange) : List Signal :=
  exchange.signals fun client handling logged =>
    if handling.status = 429 then [(client.peer.text, moment logged)] else []

/-- The arrivals of client requests. -/
def arrivals (exchange : Exchange) : List Signal :=
  exchange.signals fun client handling _ => handling.arrivals client

/-- The arrivals of lookups. -/
def lookups (exchange : Exchange) : List Signal :=
  exchange.signals fun _ handling _ => handling.lookupArrivals

/-- The failed logins by account. -/
def accounts (exchange : Exchange) : List Signal :=
  exchange.signals fun _ handling _ => handling.accounts

/-- The failed logins by address. -/
def addresses (exchange : Exchange) : List Signal :=
  exchange.signals fun client handling _ => handling.addresses client

end Exchange

end SentinelIR.Platform
