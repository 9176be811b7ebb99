/-
# The shell of a service

One request passes, from the outside in, the handler for exceptions nothing else
claims, the middleware that binds the correlation id, the middleware that reports
the request, and the handlers for typed errors. Every line written on the way
carries the id that is bound at that moment.
-/

import SentinelIR.Common.Transparency
import SentinelIR.Py.Dict

namespace SentinelIR.Common

open SentinelIR.Py SecurityEventMiddleware

/-- `CORRELATION_ID_HEADER`. -/
def correlationIdHeader : Str := "X-Correlation-ID"

/-- `_UNSET`: what the context variable holds outside a request. -/
def unsetCorrelationId : Str := "-"

/-- What a response says: a rendered body, or one of the error bodies. -/
inductive Body
  | rendered (text : Str)
  | error (code message : Str) (details : List (Str × Detail))
  deriving DecidableEq

/-- A response on its way out. -/
structure HttpResponse where
  status : Nat
  headers : Dict Str Str
  body : Body

/-- A line of `JsonFormatter`: of its fields, those the handlers choose and the
correlation id. -/
structure LogLine where
  level : Str
  message : Str
  path : Option Str := none
  errorCode : Option Str := none
  correlationId : Str
  deriving DecidableEq

/-! ## The application -/

/-- One line the code behind the middleware writes. -/
inductive Emission
  /-- `_logger.<level>(message)`. -/
  | log (level message : Str)
  /-- `emit_event(build_event(…, correlation_id=get_correlation_id()))`. -/
  | event (fields : EventFields)

/-- How a route ends. -/
inductive Ending
  | response (response : HttpResponse)
  | typed (error : SentinelError)
  /-- `StarletteHTTPException`. -/
  | http (status : Nat) (detail : Str)
  /-- An exception no handler but the last one claims. -/
  | unhandled (raised : Exc)

/-- What a route does with a request: the lines it writes, then its end. -/
structure Handling where
  emissions : List Emission
  ending : Ending

/-- The lines of a route under the bound id. An event the schema refuses raises. -/
def write (context : Str) : List Emission → Traced Unit × List LogLine
  | [] => (.pure (), [])
  | .log level message :: rest =>
      let later := write context rest
      (later.1, { level := level, message := message, correlationId := context } :: later.2)
  | .event fields :: rest =>
      match buildEvent { fields with correlationId := context } with
      | .error raised => (.raise raised, [])
      | .ok body =>
          let later := write context rest
          (⟨later.1.result, body :: later.1.emitted⟩, later.2)

/-- `_handle_sentinel_error` and `_handle_http_exception`, around the end of a
route. -/
def handleTyped (context path : Str) : Ending → Except Exc HttpResponse × List LogLine
  | .response response => (.ok response, [])
  | .typed error =>
      (.ok
        { status := error.kind.statusCode
          headers := Dict.empty
          body := .error error.kind.errorCode error.message error.details },
        [{ level := "WARNING"
           message := "Handled error: " ++ error.message
           path := some path
           errorCode := some error.kind.errorCode
           correlationId := context }])
  | .http status detail =>
      (.ok { status := status, headers := Dict.empty, body := .error "HTTP_ERROR" detail [] }, [])
  | .unhandled raised => (.error raised, [])

/-- The application behind the added middleware. -/
def application (context : Str) (request : Request) (handling : Handling) :
    Traced HttpResponse × List LogLine :=
  let written := write context handling.emissions
  match written.1.result with
  | .error raised => (⟨.error raised, written.1.emitted⟩, written.2)
  | .ok () =>
      let ended := handleTyped context request.path handling.ending
      (⟨ended.1, written.1.emitted⟩, written.2 ++ ended.2)

/-! ## The middleware -/

/-- `request.headers.get(CORRELATION_ID_HEADER) or new_correlation_id()`. -/
def boundId (header : Option Str) (minted : Str) : Str :=
  match header with
  | some (c :: rest) => c :: rest
  | _ => minted

/-- What one request leaves: the client's response and the lines written. -/
structure Served where
  response : HttpResponse
  events : List EventBody
  logs : List LogLine

/-- The event middleware calls the application: it does not track the path, or its
first event is valid. -/
def Reaches (serviceName : ServiceName) (request : Request) (correlationId : Str) : Prop :=
  request.path ∈ untrackedPaths ∨
    (received serviceName request correlationId).normalised.Valid

instance (serviceName : ServiceName) (request : Request) (correlationId : Str) :
    Decidable (Reaches serviceName request correlationId) :=
  inferInstanceAs (Decidable (_ ∨ _))

/-- One request through `create_service_app`'s stack. An exception that leaves the
middleware meets `_handle_unexpected` outside it, where the id is no longer bound;
`describe` is `str`. -/
def serve (serviceName : ServiceName) (describe : Exc → Str) (request : Request)
    (header : Option Str) (minted : Str) (handling : Handling) : Served :=
  let correlationId := boundId header minted
  let inner := application correlationId request handling
  let outer := dispatchWith (·.status) serviceName request correlationId inner.1
  let logs := if Reaches serviceName request correlationId then inner.2 else []
  match outer.result with
  | .ok response =>
      { response :=
          { response with headers := response.headers.set correlationIdHeader correlationId }
        events := outer.emitted
        logs := logs }
  | .error raised =>
      { response :=
          { status := 500
            headers := Dict.empty
            body := .error "INTERNAL_ERROR" "The service failed to complete the request." [] }
        events := outer.emitted
        logs := logs ++
          [{ level := "ERROR"
             message := "Unhandled error: " ++ describe raised
             path := some request.path
             correlationId := unsetCorrelationId }] }

/-- The request gets its answer through the middleware: the route ends in a
response or a typed error, and on a tracked path the request passes the schema
and the status is in its range. -/
def Answered (request : Request) (correlationId : Str) (handling : Handling) : Prop :=
  ∃ response, (application correlationId request handling).1.result = .ok response ∧
    (request.path ∉ untrackedPaths → request.Accepted correlationId ∧
      100 ≤ response.status ∧ response.status ≤ 599)

/-- Events that carry the bound id are written as they are. -/
theorem write_events {context : Str} {events : List EventBody}
    (stamped : ∀ event ∈ events, event.correlationId = context) :
    write context (events.map fun event => .event event.toEventFields) =
      (⟨.ok (), events⟩, []) := by
  induction events with
  | nil => rfl
  | cons event rest ih =>
      obtain ⟨first, others⟩ := List.forall_mem_cons.mp stamped
      have same : { event.toEventFields with correlationId := context } = event.toEventFields := by
        rw [← first]
      rw [List.map_cons, write, same, buildEvent_toEventFields, ih others]

section Dispatch

variable {ρ : Type} {statusOf : ρ → Nat} {serviceName : ServiceName} {request : Request}
  {correlationId : Str} {next : Traced ρ}

/-- An answer outside the schema's range fails the event that reports it. -/
theorem dispatchWith_of_outOfRange (tracked : request.path ∉ untrackedPaths)
    (accepted : request.Accepted correlationId) {response : ρ}
    (answered : next.result = .ok response)
    (outOfRange : ¬ (100 ≤ statusOf response ∧ statusOf response ≤ 599)) :
    (dispatchWith statusOf serviceName request correlationId next).result = .error .validation := by
  have arrived : (received serviceName request correlationId).normalised.Valid :=
    received_normalised.mpr accepted
  have unfinished : ¬ (completed serviceName request correlationId
      (statusOf response)).normalised.Valid := fun valid => by
    have status := (completed_normalised.mp valid).2
    omega
  have unreported : ¬ (answeredError serviceName request correlationId
      (statusOf response)).normalised.Valid := fun valid => by
    have status := (answeredError_normalised.mp valid).2
    omega
  rw [dispatchWith, if_neg tracked, Traced.emit_of_normalised arrived, Traced.bind_of_ok rfl]
  simp only [answered]
  rw [Traced.bind_passed]
  by_cases failing : 500 ≤ statusOf response
  · rw [if_pos failing, Traced.emit_of_invalid unreported]
    rfl
  · rw [if_neg failing, Traced.emit_of_invalid unfinished]
    rfl

/-- A request the schema refuses fails before the application is called. -/
theorem dispatchWith_of_refused (tracked : request.path ∉ untrackedPaths)
    (refused : ¬ request.Accepted correlationId) :
    dispatchWith statusOf serviceName request correlationId next = ⟨.error .validation, []⟩ := by
  have invalid : ¬ (received serviceName request correlationId).normalised.Valid :=
    fun valid => refused (received_normalised.mp valid)
  rw [dispatchWith, if_neg tracked, Traced.emit_of_invalid invalid, Traced.bind_of_error rfl]

/-- The middleware answers exactly with what the application answers, on requests
and statuses the schema takes. -/
theorem dispatchWith_ok_iff {response : ρ} :
    (dispatchWith statusOf serviceName request correlationId next).result = .ok response ↔
      next.result = .ok response ∧ (request.path ∉ untrackedPaths →
        request.Accepted correlationId ∧ 100 ≤ statusOf response ∧ statusOf response ≤ 599) := by
  by_cases tracked : request.path ∉ untrackedPaths
  · constructor
    · intro returned
      by_cases accepted : request.Accepted correlationId
      · cases hnext : next.result with
        | error raised =>
            have transparent := transparent_of_accepted statusOf serviceName next tracked accepted
              fun other hother => by
                rw [hnext] at hother
                cases hother
            rw [transparent.result, hnext] at returned
            cases returned
        | ok answer =>
            by_cases inRange : 100 ≤ statusOf answer ∧ statusOf answer ≤ 599
            · have transparent := transparent_of_accepted statusOf serviceName next tracked accepted
                fun other hother => by
                  obtain rfl := Except.ok.inj (hnext.symm.trans hother)
                  exact inRange
              rw [transparent.result, hnext] at returned
              obtain rfl := Except.ok.inj returned
              exact ⟨rfl, fun _ => ⟨accepted, inRange⟩⟩
            · rw [dispatchWith_of_outOfRange tracked accepted hnext inRange] at returned
              cases returned
      · rw [dispatchWith_of_refused tracked accepted] at returned
        cases returned
    · rintro ⟨answered, passes⟩
      have transparent := transparent_of_accepted statusOf serviceName next tracked
        (passes tracked).1
        fun other hother => by
          obtain rfl := Except.ok.inj (answered.symm.trans hother)
          exact (passes tracked).2
      rw [transparent.result, answered]
  · have untracked : request.path ∈ untrackedPaths := not_not.mp tracked
    rw [dispatchWith, if_pos untracked]
    exact (and_iff_left fun other => absurd other tracked).symm

end Dispatch

/-- The events of a request are those of its middleware. -/
theorem serve_events (serviceName : ServiceName) (describe : Exc → Str) (request : Request)
    (header : Option Str) (minted : Str) (handling : Handling) :
    (serve serviceName describe request header minted handling).events =
      (dispatchWith (·.status) serviceName request (boundId header minted)
        (application (boundId header minted) request handling).1).emitted := by
  unfold serve
  dsimp only
  split <;> rfl

/-- A request the middleware answers keeps the status of its answer. -/
theorem serve_of_answered {serviceName : ServiceName} {describe : Exc → Str} {request : Request}
    {header : Option Str} {minted : Str} {handling : Handling} {response : HttpResponse}
    (returned : (dispatchWith (·.status) serviceName request (boundId header minted)
      (application (boundId header minted) request handling).1).result = .ok response) :
    (serve serviceName describe request header minted handling).response.status =
      response.status := by
  unfold serve
  dsimp only
  rw [returned]

/-- A request whose route fails unexpectedly is answered with a server error. -/
theorem serve_of_failed {serviceName : ServiceName} {describe : Exc → Str} {request : Request}
    {header : Option Str} {minted : Str} {handling : Handling} {raised : Exc}
    (failed : (application (boundId header minted) request handling).1.result = .error raised) :
    (serve serviceName describe request header minted handling).response.status = 500 := by
  unfold serve
  dsimp only
  split
  · next response returned =>
      have answered := (dispatchWith_ok_iff.mp returned).1
      rw [failed] at answered
      cases answered
  · rfl

/-! ## Correlation -/

section Correlated

variable {serviceName : ServiceName} {request : Request} {correlationId : Str}

end Correlated

end SentinelIR.Common
