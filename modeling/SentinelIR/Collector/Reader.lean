/-
# The log reader

`parse_event_line` and `stream_events`. A line that is no JSON object with the
event marker is skipped, a line with the marker that breaks the schema raises.
-/

import SentinelIR.Common.Logging
import SentinelIR.Py.Comprehension

namespace SentinelIR.Collector

open SentinelIR.Py SentinelIR.Common

/-- What pydantic makes of a value given for an `int` field. Beyond integers it
accepts some other values, which the reader never needs to know. -/
class Pydantic where
  toInt : Json → Option Int
  toInt_int : ∀ n, toInt (.int n) = some n

/-- A `str` field. -/
def textOf : Json → Option Str
  | .str text => some text
  | _ => none

/-- A `str | None` field with the default `None`. -/
def optionalTextOf : Option Json → Option (Option Str)
  | none => some none
  | some .null => some none
  | some (.str text) => some (some text)
  | some _ => none

/-- The member of an enumeration that has this value. -/
def memberOf {α : Type} (value : α → Str) (all : List α) (given : Json) : Option α :=
  (textOf given).bind fun text => all.find? fun member => value member = text

/-- The keys of `_ALIAS_TO_FIELD`. -/
def aliasToField : List Str :=
  ["eventId", "timestamp", "serviceName", "eventType", "severity", "userId", "sourceIp",
    "endpoint", "httpMethod", "statusCode", "message", "correlationId", "affectedEntity"]

/-- The dictionary `json.loads` builds from the members of an object: the last
one with a key stays. -/
def objectOf (members : List (Str × Json)) : Dict Str Json :=
  members.foldl (fun d item => d.set item.1 item.2) Dict.empty

/-- `SecurityEvent.model_validate`, under the published keys. -/
def modelValidate [Pydantic] (obj : Dict Str Json) : Option SecurityEvent := do
  let eventId ← (obj.get? "eventId").bind textOf
  let timestamp ← (obj.get? "timestamp").bind textOf
  let serviceName ← (obj.get? "serviceName").bind (memberOf ServiceName.value ServiceName.all)
  let eventType ← (obj.get? "eventType").bind (memberOf EventType.value EventType.all)
  let severity ← (obj.get? "severity").bind (memberOf Severity.value Severity.all)
  let userId ← optionalTextOf (obj.get? "userId")
  let sourceIp ← optionalTextOf (obj.get? "sourceIp")
  let endpoint ← (obj.get? "endpoint").bind textOf
  let httpMethod ← (obj.get? "httpMethod").bind textOf
  let statusCode ← (obj.get? "statusCode").bind Pydantic.toInt
  let message ← (obj.get? "message").bind textOf
  let correlationId ← (obj.get? "correlationId").bind textOf
  let affectedEntity ← optionalTextOf (obj.get? "affectedEntity")
  let fields : EventFields := {
    serviceName := serviceName
    eventType := eventType
    severity := severity
    userId := userId
    sourceIp := sourceIp
    endpoint := endpoint
    httpMethod := httpMethod
    statusCode := statusCode
    message := message
    correlationId := correlationId
    affectedEntity := affectedEntity }
  if named : ValidId eventIdTag eventId then
    match buildEvent fields with
    | .error _ => none
    | .ok body =>
        some { body with eventId := eventId, timestamp := timestamp, eventId_valid := named }
  else none

/-- `parse_event_line`. -/
def parseEventLine [Pydantic] (rawLine : Str) : Except Exc (Option SecurityEvent) :=
  if strip rawLine = [] then .ok none
  else
    match loads (strip rawLine) with
    | .error .decode => .ok none
    | .error .value => .error .valueError
    | .ok (.obj members) =>
        if lit "eventType" ∈ (objectOf members).keys then
          if (objectOf members).keys ⊆ aliasToField then
            match modelValidate (objectOf members) with
            | some event => .ok (some event)
            | none => .error (.malformedEvent (strip rawLine))
          else .error (.malformedEvent (strip rawLine))
        else .ok none
    | .ok _ => .ok none

/-- `stream_events`, read to its end. -/
def streamEvents [Pydantic] (lines : List Str) : Except Exc (List SecurityEvent) :=
  (mapE parseEventLine lines).map fun events => events.filterMap id

/-! ## Lines that are skipped -/

section Skipped

/-- A JSON value that is no object carrying the event marker. -/
def NoEvent : Json → Prop
  | .obj members => lit "eventType" ∉ members.map Prod.fst
  | _ => True

theorem mem_keys_objectOf {members : List (Str × Json)} {key : Str} :
    key ∈ (objectOf members).keys ↔ key ∈ members.map Prod.fst := by
  rw [objectOf, Dict.keys_foldl_set, mem_foldl_appendNew]
  exact or_iff_right (by rintro ⟨⟩)

variable [Pydantic]

theorem parseEventLine_blank {rawLine : Str} (blank : Blank rawLine) :
    parseEventLine rawLine = .ok none := if_pos blank

/-- What is not JSON, or not an event, is skipped. -/
theorem parseEventLine_skip {rawLine : Str}
    (skipped : loads (strip rawLine) = .error .decode ∨
      ∃ value, loads (strip rawLine) = .ok value ∧ NoEvent value) :
    parseEventLine rawLine = .ok none := by
  rw [parseEventLine]
  split
  case isTrue => rfl
  case isFalse =>
      rcases skipped with failed | ⟨value, read, noEvent⟩
      · rw [failed]
      · rw [read]
        cases value with
        | obj members =>
            have absent : lit "eventType" ∉ (objectOf members).keys := fun h =>
              noEvent (mem_keys_objectOf.mp h)
            dsimp only
            rw [if_neg absent]
        | null => rfl
        | bool => rfl
        | int => rfl
        | float => rfl
        | str => rfl
        | arr => rfl

end Skipped

end SentinelIR.Collector
