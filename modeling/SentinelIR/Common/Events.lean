/-
# The security event schema

The event types, the severities, the four emitters, and the event itself. An
event is built in two steps, as the source does it: `buildEvent` validates what
the caller supplies, and the identifier and the timestamp are minted by the
library, never by the caller. What has been validated stays valid, because each
structure carries the checks it passed.
-/

import SentinelIR.Common.Errors
import SentinelIR.Py.Datetime

namespace SentinelIR.Common

open SentinelIR.Py

/-- The four severities, least to most severe. -/
inductive Severity
  | low
  | medium
  | high
  | critical
  deriving DecidableEq

/-- `Severity.value`. -/
def Severity.value : Severity → Str
  | low => "LOW"
  | medium => "MEDIUM"
  | high => "HIGH"
  | critical => "CRITICAL"

/-- Every event type the system emits. -/
inductive EventType
  | authSuccess
  | authFailed
  | unauthorisedAccess
  | rateLimitExceeded
  | requestReceived
  | requestCompleted
  | incidentCreated
  | incidentEscalated
  | assetAccessed
  | dependencyFailure
  | circuitOpened
  | circuitClosed
  | serviceError
  | healthCheckFailed
  deriving DecidableEq

namespace EventType

/-- `EventType.value`. -/
def value : EventType → Str
  | authSuccess => "AUTH_SUCCESS"
  | authFailed => "AUTH_FAILED"
  | unauthorisedAccess => "UNAUTHORISED_ACCESS"
  | rateLimitExceeded => "RATE_LIMIT_EXCEEDED"
  | requestReceived => "REQUEST_RECEIVED"
  | requestCompleted => "REQUEST_COMPLETED"
  | incidentCreated => "INCIDENT_CREATED"
  | incidentEscalated => "INCIDENT_ESCALATED"
  | assetAccessed => "ASSET_ACCESSED"
  | dependencyFailure => "DEPENDENCY_FAILURE"
  | circuitOpened => "CIRCUIT_OPENED"
  | circuitClosed => "CIRCUIT_CLOSED"
  | serviceError => "SERVICE_ERROR"
  | healthCheckFailed => "HEALTH_CHECK_FAILED"

/-- Every member, in declaration order. -/
def all : List EventType :=
  [authSuccess, authFailed, unauthorisedAccess, rateLimitExceeded, requestReceived,
    requestCompleted, incidentCreated, incidentEscalated, assetAccessed, dependencyFailure,
    circuitOpened, circuitClosed, serviceError, healthCheckFailed]

end EventType

/-- The four severities in declaration order. -/
def Severity.all : List Severity := [.low, .medium, .high, .critical]

/-- The four emitters named in the schema. Nothing else may emit, so a service
name is one of them wherever the schema has validated it. -/
inductive ServiceName
  | auth
  | incident
  | asset
  | gateway
  deriving DecidableEq

namespace ServiceName

/-- `ServiceName.value`. -/
def value : ServiceName → Str
  | auth => "auth-service"
  | incident => "incident-service"
  | asset => "asset-service"
  | gateway => "api-gateway"

/-- Every member, in declaration order. -/
def all : List ServiceName := [auth, incident, asset, gateway]

theorem value_injective : Function.Injective value := by
  intro first second
  cases first <;> cases second <;> decide

end ServiceName

/-! ## Identifiers -/

/-- The shape both identifier validators check: a four-character tag and twelve
lower-case hexadecimal characters. -/
def ValidId (tag value : Str) : Prop :=
  value.take tag.length = tag ∧ (value.drop tag.length).length = 12 ∧
    ∀ c ∈ value.drop tag.length, isLowerHex c = true

instance (tag value : Str) : Decidable (ValidId tag value) :=
  have _hex : Decidable (∀ c ∈ value.drop tag.length, isLowerHex c = true) :=
    List.decidableBAll _ _
  inferInstanceAs (Decidable (_ ∧ _))

/-- `_EVENT_ID_PREFIX`. -/
def eventIdTag : Str := "evt-"

theorem validId_append_hexPad (tag : Str) (n : Nat) : ValidId tag (tag ++ hexPad 12 n) := by
  refine ⟨List.take_left, ?_, ?_⟩
  · rw [List.drop_left, length_hexPad]
  · intro c hc
    rw [List.drop_left] at hc
    exact mem_hexPad hc

/-! ## What a caller supplies -/

/-- `_PERMITTED_METHODS`. -/
def permittedMethods : List Str :=
  ["GET", "POST", "PUT", "PATCH", "DELETE", "HEAD", "OPTIONS"]

/-- The keyword arguments of `build_event`. -/
structure EventFields where
  serviceName : ServiceName
  eventType : EventType
  severity : Severity
  userId : Option Str := none
  sourceIp : Option Str := none
  endpoint : Str
  httpMethod : Str
  statusCode : Int
  message : Str
  correlationId : Str
  affectedEntity : Option Str := none
  deriving DecidableEq

/-- The checks of the field validators, on a method already upper-cased. -/
structure EventFields.Valid (f : EventFields) : Prop where
  method : f.httpMethod ∈ permittedMethods
  status : 100 ≤ f.statusCode ∧ f.statusCode ≤ 599
  endpoint : ¬ Blank f.endpoint
  message : ¬ Blank f.message
  correlation : ¬ Blank f.correlationId

instance (f : EventFields) : Decidable f.Valid :=
  decidable_of_iff
    (f.httpMethod ∈ permittedMethods ∧ (100 ≤ f.statusCode ∧ f.statusCode ≤ 599) ∧
      ¬ Blank f.endpoint ∧ ¬ Blank f.message ∧ ¬ Blank f.correlationId)
    ⟨fun ⟨method, status, endpoint, message, correlation⟩ =>
        ⟨method, status, endpoint, message, correlation⟩,
      fun h => ⟨h.method, h.status, h.endpoint, h.message, h.correlation⟩⟩

/-- The fields with the method upper-cased, which is how the schema stores it. -/
def EventFields.normalised (f : EventFields) : EventFields :=
  { f with httpMethod := upper f.httpMethod }

/-- An event that passed validation, before its identifier and timestamp. -/
structure EventBody extends EventFields where
  valid : toEventFields.Valid
  deriving DecidableEq

/-- `build_event`, up to the identifier and the timestamp it mints. -/
def buildEvent (f : EventFields) : Except Exc EventBody :=
  if valid : f.normalised.Valid then .ok ⟨f.normalised, valid⟩ else .error .validation

theorem buildEvent_eq_ok {f : EventFields} (valid : f.normalised.Valid) :
    buildEvent f = .ok ⟨f.normalised, valid⟩ := dif_pos valid

/-- Upper-casing leaves the permitted methods alone. -/
theorem upper_of_permitted {method : Str} (permitted : method ∈ permittedMethods) :
    upper method = method := by
  revert method
  decide

/-- Fields whose method is already upper case are stored as they were given. -/
theorem normalised_of_valid {f : EventFields} (valid : f.Valid) : f.normalised = f := by
  simp [EventFields.normalised, upper_of_permitted valid.method]

/-- The fields of an event build the event. -/
theorem buildEvent_toEventFields (body : EventBody) : buildEvent body.toEventFields = .ok body := by
  obtain ⟨fields, valid⟩ := body
  have same := normalised_of_valid valid
  rw [buildEvent_eq_ok (f := fields) (by rw [same]; exact valid)]
  simp only [same]

/-! ## The event -/

/-- A reading of the system clock, which never precedes the Unix epoch. -/
structure Clock where
  time : Datetime
  epoch : 1970 ≤ time.year
  deriving DecidableEq

/-- What `build_event` mints for each event: twelve hexadecimal characters of a
uuid and the current time. -/
structure Stamp where
  suffix : Nat
  clock : Clock
  deriving DecidableEq

/-- One security-relevant occurrence. -/
structure SecurityEvent extends EventBody where
  eventId : Str
  timestamp : Str
  eventId_valid : ValidId eventIdTag eventId
  deriving DecidableEq

/-- `new_event_id` and `utc_now_iso`: the last two fields of an event. -/
def EventBody.stamp (body : EventBody) (s : Stamp) : SecurityEvent :=
  { body with
    eventId := eventIdTag ++ hexPad 12 s.suffix
    timestamp := strftime s.clock.time
    eventId_valid := validId_append_hexPad eventIdTag s.suffix }

@[simp]
theorem stamp_toEventBody (body : EventBody) (s : Stamp) : (body.stamp s).toEventBody = body := rfl

@[simp]
theorem stamp_timestamp (body : EventBody) (s : Stamp) :
    (body.stamp s).timestamp = strftime s.clock.time := rfl

/-! ## What the example events of later modules rest on -/

theorem get_permitted : lit "GET" ∈ permittedMethods := by decide

theorem post_permitted : lit "POST" ∈ permittedMethods := by decide

theorem unauthorised_known : (100 : Int) ≤ 401 ∧ (401 : Int) ≤ 599 := by decide

theorem forbidden_known : (100 : Int) ≤ 403 ∧ (403 : Int) ≤ 599 := by decide

theorem unavailable_known : (100 : Int) ≤ 503 ∧ (503 : Int) ≤ 599 := by decide

theorem lit_incidents_visible : ¬ Blank (lit "/api/v1/incidents") :=
  not_blank_lit (by decide +kernel)

theorem lit_correlation_visible : ¬ Blank (lit "corr-000000000001") :=
  not_blank_lit (by decide +kernel)

/-- A year after the epoch. -/
theorem after_epoch : 1970 ≤ 2026 := by decide

/-- The start of that year. -/
theorem newYear_valid : ValidFields 2026 1 1 0 0 0 0 := by decide

/-- Each second of one of its minutes. -/
theorem noon_valid (n : Fin 60) : ValidFields 2026 9 4 12 0 n 0 :=
  ⟨by decide, by decide, by decide, by decide, by decide, n.isLt, by decide⟩

end SentinelIR.Common
