/-
# The event middleware is transparent

Around every tracked request the middleware is to report the arrival, pass on
what the rest of the application comes to, and report how it ended. It does so
exactly on requests the schema takes; on any other its own event is what fails.
-/

import SentinelIR.Common.Middleware

namespace SentinelIR.Common

open SentinelIR.Py

namespace Traced

/-- Fields whose method is upper-cased on the way are emitted normalised. -/
theorem emit_of_normalised {fields : EventFields} (valid : fields.normalised.Valid) :
    emit fields = ⟨.ok (), [⟨fields.normalised, valid⟩]⟩ := by
  rw [emit, buildEvent_eq_ok valid]

/-- Fields the schema refuses emit nothing. -/
theorem emit_of_invalid {fields : EventFields} (invalid : ¬ fields.normalised.Valid) :
    emit fields = ⟨.error .validation, []⟩ := by
  rw [emit, buildEvent, dif_neg invalid]

theorem bind_passed {α : Type} (emitted : List EventBody) (next : Unit → Traced α) :
    Traced.bind ⟨.ok (), emitted⟩ next = ⟨(next ()).result, emitted ++ (next ()).emitted⟩ := rfl

theorem eventType_of_mem_emit {fields : EventFields} {event : EventBody}
    (left : event ∈ (Traced.emit fields).emitted) : event.eventType = fields.eventType := by
  by_cases valid : fields.normalised.Valid
  · rw [Traced.emit_of_normalised valid] at left
    rw [List.mem_singleton.mp left]
    rfl
  · rw [Traced.emit_of_invalid valid] at left
    cases left

/-- What a computation leaves comes from one of its parts. -/
theorem mem_bind {α β : Type} {first : Traced α} {second : α → Traced β} {event : EventBody}
    (left : event ∈ (Traced.bind first second).emitted) :
    event ∈ first.emitted ∨ ∃ value, event ∈ (second value).emitted := by
  rw [Traced.bind] at left
  split at left
  · next value returned => exact (List.mem_append.mp left).imp_right fun later => ⟨value, later⟩
  · exact .inl left

end Traced

namespace SecurityEventMiddleware

variable {ρ : Type}

/-- The events that close a request, by how the application ended. -/
def closing (statusOf : ρ → Nat) (serviceName : ServiceName) (request : Request)
    (correlationId : Str) : Except Exc ρ → List EventFields
  | .error _ => [unhandled serviceName request correlationId]
  | .ok response =>
      (if 500 ≤ statusOf response then
          [answeredError serviceName request correlationId (statusOf response)]
        else []) ++ [completed serviceName request correlationId (statusOf response)]

/-- The types of the middleware's own events. -/
def reporting : List EventType := [.requestReceived, .requestCompleted, .serviceError]

/-- What is to come of a tracked request: the application's own result, between
one arrival and the events that close it. -/
structure Transparent (statusOf : ρ → Nat) (serviceName : ServiceName) (request : Request)
    (correlationId : Str) (next outcome : Traced ρ) : Prop where
  result : outcome.result = next.result
  emitted : ∃ arrival ending, outcome.emitted = arrival :: (next.emitted ++ ending) ∧
    arrival.toEventFields = (received serviceName request correlationId).normalised ∧
      ending.map (·.toEventFields) =
        (closing statusOf serviceName request correlationId next.result).map
          EventFields.normalised

end SecurityEventMiddleware

open SecurityEventMiddleware

/-- The request passes the schema as it is: its method is a permitted one in any
case, and neither its path nor its correlation id is blank. -/
structure Request.Accepted (request : Request) (correlationId : Str) : Prop where
  method : upper request.method ∈ permittedMethods
  path : ¬ Blank request.path
  correlation : ¬ Blank correlationId

instance (request : Request) (correlationId : Str) : Decidable (request.Accepted correlationId) :=
  decidable_of_iff (upper request.method ∈ permittedMethods ∧ ¬ Blank request.path ∧
      ¬ Blank correlationId)
    ⟨fun ⟨method, path, correlation⟩ => ⟨method, path, correlation⟩,
      fun h => ⟨h.method, h.path, h.correlation⟩⟩

section Accepted

variable {ρ : Type} {serviceName : ServiceName} {request : Request} {correlationId : Str}

/-- Events of the middleware are valid exactly on accepted requests. -/
theorem normalised_valid_iff {eventType : EventType} {severity : Severity} {statusCode : Int}
    {message : Str} (visible : ¬ Blank message) :
    (fields serviceName request correlationId eventType severity statusCode
        message).normalised.Valid ↔
      request.Accepted correlationId ∧ 100 ≤ statusCode ∧ statusCode ≤ 599 := by
  constructor
  · intro valid
    exact ⟨⟨valid.method, valid.endpoint, valid.correlation⟩, valid.status⟩
  · rintro ⟨accepted, status⟩
    exact ⟨accepted.method, status, accepted.path, visible, accepted.correlation⟩

theorem received_normalised :
    (received serviceName request correlationId).normalised.Valid ↔
      request.Accepted correlationId := by
  refine (normalised_valid_iff (not_blank_append_left
    (not_blank_lit (by decide +kernel)))).trans ?_
  exact and_iff_left (by decide)

theorem unhandled_normalised :
    (unhandled serviceName request correlationId).normalised.Valid ↔
      request.Accepted correlationId := by
  refine (normalised_valid_iff (not_blank_append_left
    (not_blank_lit (by decide +kernel)))).trans ?_
  exact and_iff_left (by decide)

theorem completed_normalised {status : Nat} :
    (completed serviceName request correlationId status).normalised.Valid ↔
      request.Accepted correlationId ∧ 100 ≤ (status : Int) ∧ (status : Int) ≤ 599 :=
  normalised_valid_iff (not_blank_append_left (not_blank_append_left
    (not_blank_append_left (not_blank_lit (by decide +kernel)))))

theorem answeredError_normalised {status : Nat} :
    (answeredError serviceName request correlationId status).normalised.Valid ↔
      request.Accepted correlationId ∧ 100 ≤ (status : Int) ∧ (status : Int) ≤ 599 :=
  normalised_valid_iff (not_blank_append_left (not_blank_append_left
    (not_blank_append_left (not_blank_lit (by decide +kernel)))))

/-- On an accepted request answered inside the schema's range the middleware is
transparent. -/
theorem transparent_of_accepted (statusOf : ρ → Nat) (serviceName : ServiceName)
    (next : Traced ρ) (tracked : request.path ∉ untrackedPaths)
    (accepted : request.Accepted correlationId)
    (inRange : ∀ response, next.result = .ok response →
      100 ≤ statusOf response ∧ statusOf response ≤ 599) :
    Transparent statusOf serviceName request correlationId next
      (dispatchWith statusOf serviceName request correlationId next) := by
  have arrived : (received serviceName request correlationId).normalised.Valid :=
    received_normalised.mpr accepted
  rw [dispatchWith, if_neg tracked, Traced.emit_of_normalised arrived, Traced.bind_of_ok rfl]
  cases hnext : next.result with
  | error raised =>
      have failed : (unhandled serviceName request correlationId).normalised.Valid :=
        unhandled_normalised.mpr accepted
      dsimp only
      rw [Traced.bind_passed, Traced.emit_of_normalised failed]
      constructor
      · exact hnext.symm
      · exact ⟨⟨_, arrived⟩, [⟨_, failed⟩], rfl, rfl, by rw [hnext]; rfl⟩
  | ok response =>
      have status := inRange response hnext
      have finished : (completed serviceName request correlationId
          (statusOf response)).normalised.Valid :=
        completed_normalised.mpr ⟨accepted, by omega, by omega⟩
      have erred : (answeredError serviceName request correlationId
          (statusOf response)).normalised.Valid :=
        answeredError_normalised.mpr ⟨accepted, by omega, by omega⟩
      dsimp only
      rw [Traced.bind_passed]
      by_cases failing : 500 ≤ statusOf response
      · rw [if_pos failing, Traced.emit_of_normalised erred, Traced.emit_of_normalised finished]
        constructor
        · exact hnext.symm
        · refine ⟨⟨_, arrived⟩, [⟨_, erred⟩, ⟨_, finished⟩], rfl, rfl, ?_⟩
          rw [hnext, closing, if_pos failing]
          rfl
      · rw [if_neg failing, Traced.emit_of_normalised finished]
        constructor
        · exact hnext.symm
        · refine ⟨⟨_, arrived⟩, [⟨_, finished⟩], rfl, rfl, ?_⟩
          rw [hnext, closing, if_neg failing]
          rfl

/-- The arrival of a request that is passed on was reported, so it passes the schema. -/
theorem accepted_of_transparent {statusOf : ρ → Nat} {serviceName : ServiceName}
    {request : Request} {correlationId : Str} {next outcome : Traced ρ}
    (transparent : Transparent statusOf serviceName request correlationId next outcome) :
    request.Accepted correlationId := by
  obtain ⟨arrival, -, -, arrived, -⟩ := transparent.emitted
  have valid : (received serviceName request correlationId).normalised.Valid := by
    rw [← arrived]
    exact arrival.valid
  exact received_normalised.mp valid

/-- Around a tracked request the middleware is transparent exactly when the
request passes the schema and the answer, if there is one, has a status of the
schema's range. -/
theorem transparent_iff (statusOf : ρ → Nat) (serviceName : ServiceName) (request : Request)
    (correlationId : Str) (next : Traced ρ) (tracked : request.path ∉ untrackedPaths) :
    Transparent statusOf serviceName request correlationId next
        (dispatchWith statusOf serviceName request correlationId next) ↔
      request.Accepted correlationId ∧ ∀ response, next.result = .ok response →
        100 ≤ statusOf response ∧ statusOf response ≤ 599 := by
  constructor
  · intro transparent
    refine ⟨accepted_of_transparent transparent, fun response hresponse => ?_⟩
    obtain ⟨-, ending, -, -, ended⟩ := transparent.emitted
    rw [hresponse, closing, List.map_append, List.map_singleton] at ended
    obtain ⟨erred, finished, rfl, -, hfinished⟩ := List.map_eq_append_iff.mp ended
    obtain ⟨last, rest, rfl, hlast, -⟩ := List.map_eq_cons_iff.mp hfinished
    have valid : (completed serviceName request correlationId
        (statusOf response)).normalised.Valid := by
      rw [← hlast]
      exact last.valid
    have status := (completed_normalised.mp valid).2
    omega
  · rintro ⟨accepted, inRange⟩
    exact transparent_of_accepted statusOf serviceName next tracked accepted inRange

end Accepted

/-! ## What the middleware adds -/

section Added

variable {ρ : Type} {statusOf : ρ → Nat} {serviceName : ServiceName} {request : Request}
  {correlationId : Str} {next : Traced ρ}

/-- Of what a request leaves, everything but the middleware's own reports comes from
the application. -/
theorem mem_dispatchWith {event : EventBody}
    (left : event ∈ (dispatchWith statusOf serviceName request correlationId next).emitted) :
    event ∈ next.emitted ∨ event.eventType ∈ reporting := by
  have own {fields : EventFields} (emitted : event ∈ (Traced.emit fields).emitted)
      (known : fields.eventType ∈ reporting) : event.eventType ∈ reporting := by
    rw [Traced.eventType_of_mem_emit emitted]
    exact known
  have first : EventType.requestReceived ∈ reporting := by decide
  have last : EventType.requestCompleted ∈ reporting := by decide
  have failure : EventType.serviceError ∈ reporting := by decide
  rw [dispatchWith] at left
  split at left
  · exact .inl left
  rcases Traced.mem_bind left with arrival | ⟨-, later⟩
  · exact .inr (own arrival first)
  split at later
  · rcases Traced.mem_bind later with passed | ⟨-, closed⟩
    · exact .inl passed
    · rcases Traced.mem_bind closed with erred | ⟨-, raised⟩
      · exact .inr (own erred failure)
      · cases raised
  · next response answered =>
      rcases Traced.mem_bind later with passed | ⟨-, closed⟩
      · exact .inl passed
      by_cases failing : 500 ≤ statusOf response
      · rw [if_pos failing] at closed
        rcases Traced.mem_bind closed with erred | ⟨⟨⟩, finished⟩
        · exact .inr (own erred failure)
        · rcases Traced.mem_bind finished with completion | ⟨-, returned⟩
          · exact .inr (own completion last)
          · cases returned
      · rw [if_neg failing] at closed
        rcases Traced.mem_bind closed with completion | ⟨-, returned⟩
        · exact .inr (own completion last)
        · cases returned

theorem closing_reporting {result : Except Exc ρ} :
    ∀ fields ∈ closing statusOf serviceName request correlationId result,
      fields.eventType ∈ reporting := by
  have last : EventType.requestCompleted ∈ reporting := by decide
  have failure : EventType.serviceError ∈ reporting := by decide
  intro fields hfields
  cases result with
  | error raised => rwa [List.mem_singleton.mp hfields]
  | ok response =>
      rcases List.mem_append.mp hfields with erred | finished
      · split at erred
        · rwa [List.mem_singleton.mp erred]
        · cases erred
      · rwa [List.mem_singleton.mp finished]

/-- The events a transparent middleware adds are of its own types. -/
theorem filter_of_transparent {outcome : Traced ρ} {eventType : EventType}
    (transparent : Transparent statusOf serviceName request correlationId next outcome)
    (foreign : eventType ∉ reporting) :
    outcome.emitted.filter (fun event => event.eventType == eventType) =
      next.emitted.filter fun event => event.eventType == eventType := by
  obtain ⟨arrival, closed, emitted, arrived, ended⟩ := transparent.emitted
  have other {event : EventBody} (own : event.eventType ∈ reporting) :
      ¬ (event.eventType == eventType) = true := fun same =>
    foreign (eq_of_beq same ▸ own)
  have atStart : arrival.eventType ∈ reporting := by
    rw [arrived]
    exact List.mem_cons_self ..
  have atEnd : ∀ event ∈ closed, event.eventType ∈ reporting := by
    intro event hevent
    have normalised : event.toEventFields ∈ (closing statusOf serviceName request correlationId
        next.result).map EventFields.normalised := by
      rw [← ended]
      exact List.mem_map_of_mem hevent
    obtain ⟨fields, hfields, same⟩ := List.mem_map.mp normalised
    rw [← same]
    exact closing_reporting fields hfields
  have unended : closed.filter (fun event => event.eventType == eventType) = [] :=
    List.filter_eq_nil_iff.mpr fun event hevent => other (atEnd event hevent)
  rw [emitted, List.filter_cons, if_neg (other atStart), List.filter_append, unended,
    List.append_nil]

end Added

/-! ## A method outside the schema -/

/-- A request with a method the schema does not name. -/
def traceRequest : Request where
  method := "TRACE"
  path := "/api/v1/incidents"
  peer := some "172.18.0.1"

/-- The application would answer it, and the middleware fails it. -/
theorem trace_refused :
    ¬ ∀ (serviceName : ServiceName) (request : Request) (correlationId : Str) (next : Traced Nat),
      request.path ∉ untrackedPaths →
        Transparent id serviceName request correlationId next
          (dispatchWith id serviceName request correlationId next) := by
  intro always
  have tracked : traceRequest.path ∉ untrackedPaths := by decide
  have transparent := always .incident traceRequest "corr-000000000001" ⟨.ok 405, []⟩ tracked
  have accepted := (accepted_of_transparent transparent).method
  exact absurd accepted (by decide)

/-- A login answered 200 is passed on. -/
theorem transparent_iff_login :
    Transparent id .auth { traceRequest with method := "post", path := "/api/v1/auth/login" }
        "corr-000000000001" ⟨.ok 200, []⟩
        (dispatchWith id .auth { traceRequest with method := "post", path := "/api/v1/auth/login" }
          "corr-000000000001" ⟨.ok 200, []⟩) :=
  (transparent_iff id .auth _ _ _ (by decide)).mpr
    ⟨by decide +kernel, fun response answered => by
      obtain rfl := Except.ok.inj answered
      decide⟩

end SentinelIR.Common
