/-
# Service health as a source

A service that has stopped answering leaves no events. Consul polls the health of every service
and tells which checks are critical; each one on a service of the system becomes an event named
for the service, and no check makes that raise.
-/

import SentinelIR.Collector.Store

namespace SentinelIR.Collector

open SentinelIR.Py SentinelIR.Common

/-- A health check as Consul reports it; a key that is missing and a null are one. -/
structure Check where
  name : Option Str := none
  checkId : Option Str := none
  serviceName : Option Str := none
  status : Option Str := none
  output : Option Str := none

/-- `value or default`. -/
def orElse (value : Option Str) (default : Str) : Str :=
  match value with
  | some (c :: rest) => c :: rest
  | _ => default

/-- `" ".join(text.split())`. -/
def respaced (text : Str) : Str :=
  joinWith " " ((text.splitOnP isSpace).filter fun word => !word.isEmpty)

namespace Check

/-- The service of the system a critical check is on; checks of nodes and of other services
have none. -/
def failing (check : Check) : Option ServiceName :=
  if check.status = some (lit "critical") then
    ServiceName.all.find? fun service => service.value = orElse check.serviceName []
  else none

/-- `{check.get('Name') or check.get('CheckID')!r}`. -/
def label [UnicodeDb] (check : Check) : Str :=
  match check.name, check.checkId with
  | some (c :: name), _ => Py.repr (c :: name)
  | _, some checkId => Py.repr checkId
  | _, none => "None"

/-- What `events_from_checks` builds of a check on a service. -/
def fields [UnicodeDb] (check : Check) (service : ServiceName) : EventFields where
  serviceName := service
  eventType := .healthCheckFailed
  severity := .high
  endpoint := "/health"
  httpMethod := "GET"
  statusCode := 503
  message := "Consul health check " ++ check.label ++ " is critical for " ++ service.value ++
    ": " ++ (respaced (orElse check.output "no output")).take 200
  correlationId := "health-" ++ orElse check.checkId service.value
  affectedEntity := some service.value

theorem fields_valid [UnicodeDb] (check : Check) (service : ServiceName) :
    (check.fields service).normalised.Valid where
  method := show upper (lit "GET") ∈ permittedMethods by decide +kernel
  status := show (100 : Int) ≤ 503 ∧ (503 : Int) ≤ 599 by decide
  endpoint := not_blank_lit (by decide +kernel)
  message := by
    refine not_blank_append_left (not_blank_append_left (not_blank_append_left
      (not_blank_append_left (not_blank_append_left ?_))))
    exact not_blank_lit (by decide +kernel)
  correlation := not_blank_append_left (not_blank_lit (by decide +kernel))

end Check

/-- `events_from_checks`, with what `build_event` mints for each check. -/
def eventsFromChecks [UnicodeDb] : List (Check × Stamp) → Except Exc (List SecurityEvent)
  | [] => .ok []
  | (check, stamp) :: rest =>
      match check.failing with
      | none => eventsFromChecks rest
      | some service => do
          let body ← buildEvent (check.fields service)
          let events ← eventsFromChecks rest
          return body.stamp stamp :: events

/-- The event of a critical check. -/
def healthEvent [UnicodeDb] (check : Check) (stamp : Stamp) (service : ServiceName) :
    SecurityEvent :=
  (⟨_, check.fields_valid service⟩ : EventBody).stamp stamp

@[simp]
theorem healthEvent_eventType [UnicodeDb] (check : Check) (stamp : Stamp) (service : ServiceName) :
    (healthEvent check stamp service).eventType = .healthCheckFailed := rfl

@[simp]
theorem healthEvent_serviceName [UnicodeDb] (check : Check) (stamp : Stamp)
    (service : ServiceName) : (healthEvent check stamp service).serviceName = service := rfl

/-- The event of a check, if it is one of a failing service. -/
def eventOf [UnicodeDb] (entry : Check × Stamp) : Option SecurityEvent :=
  entry.1.failing.map (healthEvent entry.1 entry.2)

/-- Every critical check on a service of the system is one event, and nothing is raised. -/
theorem eventsFromChecks_eq [UnicodeDb] (checks : List (Check × Stamp)) :
    eventsFromChecks checks = .ok (checks.filterMap eventOf) := by
  induction checks with
  | nil => rfl
  | cons entry rest ih =>
      obtain ⟨check, stamp⟩ := entry
      rw [eventsFromChecks]
      cases failing : check.failing with
      | none =>
          have nothing : eventOf (check, stamp) = none := by rw [eventOf, failing]; rfl
          rw [List.filterMap_cons_none nothing, ← ih]
      | some service =>
          have event : eventOf (check, stamp) = some (healthEvent check stamp service) := by
            rw [eventOf, failing]
            rfl
          rw [List.filterMap_cons_some event]
          dsimp only
          rw [buildEvent_eq_ok (check.fields_valid service), ih]
          rfl

/-- What asking Consul for the critical checks comes to: the checks, with what will be minted
for each, or an exception. -/
abbrev Consul := Except Exc (List (Check × Stamp))

/-- `health_events`. -/
def healthEvents [UnicodeDb] (consul : Consul) : Except Exc (List SecurityEvent) := do
  eventsFromChecks (← consul)

/-- The checks Consul answers with; an answer that fails has none. -/
def Consul.checks (consul : Consul) : List (Check × Stamp) :=
  match consul with
  | .ok checks => checks
  | .error _ => []

end SentinelIR.Collector
