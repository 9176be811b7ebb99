/-
# Rule 4, Service Failure

A service fails when its circuit breaker opened or its health check is failing,
each enough on its own, or when it accumulated three dependency or server errors
inside five minutes. A breaker that has closed again is only mentioned.
-/

import SentinelIR.Rules.Base

namespace SentinelIR.Rules.ServiceFailure

open SentinelIR.Py SentinelIR.Common SentinelIR.Alerts SentinelIR.Collector

/-- `FAILURE_THRESHOLD`. -/
def failureThreshold : Nat := 3

/-- `DETECTION_WINDOW`. -/
def detectionWindow : Micros := minutes 5

/-- `_IMMEDIATE_EVENT_TYPES`. -/
def immediateEventTypes : List EventType := [.circuitOpened, .healthCheckFailed]

/-- `_FAILURE_EVENT_TYPES`. -/
def failureEventTypes : List EventType := [.dependencyFailure, .serviceError]

/-- The documented attributes of the rule. -/
def info : RuleInfo where
  name := "Service Failure"
  purpose :=
    lit "Detect a service losing a dependency or returning server errors, so " ++
      lit "the outage is investigated before it reaches every caller."
  inputEventTypes := [.circuitOpened, .healthCheckFailed, .dependencyFailure, .serviceError]
  severity := .high
  recommendedAction :=
    lit "Check the health of the failing dependency and the circuit breaker's " ++
      lit "state, confirm the documented fallback is being served, and restart " ++
      lit "the dependency if it is down."

/-- The event is a signal of its service failing. -/
def isSignal (event : SecurityEvent) : Bool :=
  immediateEventTypes.contains event.eventType || failureEventTypes.contains event.eventType

/-- The event counts towards the threshold. -/
def isCounted (event : SecurityEvent) : Bool := failureEventTypes.contains event.eventType

/-- The windowed signals by service name. -/
def grouped (windowed : List SecurityEvent) : Dict Str (List SecurityEvent) :=
  groupBy (fun event => some event.serviceName.value) (windowed.filter isSignal)

/-- The names of the services whose breaker closed in the window. -/
def recovered (windowed : List SecurityEvent) : List Str :=
  (windowed.filter fun event => event.eventType == .circuitClosed).map (·.serviceName.value)

/-- The breaker opened within the evidence. -/
def breakerOpened (events : List SecurityEvent) : Bool :=
  events.any fun event => event.eventType == .circuitOpened

/-- The health check failed within the evidence. -/
def healthFailed (events : List SecurityEvent) : Bool :=
  events.any fun event => event.eventType == .healthCheckFailed

/-- The events counted towards the threshold. -/
def failuresOf (events : List SecurityEvent) : List SecurityEvent := events.filter isCounted

/-- The evidence fires the rule. -/
def fires (events : List SecurityEvent) : Bool :=
  breakerOpened events || healthFailed events || failureThreshold ≤ (failuresOf events).length

/-- `_alert_for`: the finding of one service. -/
def finding (service : Str) (events : List SecurityEvent) (recovered : Bool) : Finding :=
  let failureCount := (failuresOf events).length
  let reasons : List Str :=
    (if breakerOpened events then [lit "its circuit breaker opened"] else []) ++
    (if healthFailed events then [lit "its health check is failing"] else []) ++
    (if failureCount ≠ 0 then
      [decimal failureCount ++ " dependency or server error" ++ plural failureCount "s"] else [])
  { description :=
      service ++ " is failing: " ++ joinWith " and " reasons ++ " within " ++
        decimal (windowMinutes detectionWindow) ++ " minutes." ++
        (if recovered then lit " The breaker has since closed, so the dependency has recovered."
          else [])
    relatedEvents := events
    affectedService := some service
    affectedUser := none
    affectedEntity := events.getLast?.map fun last =>
      match last.affectedEntity with
      | some (c :: entity) => c :: entity
      | _ => last.endpoint }

/-- The services that fire, in order, with their evidence. -/
def failing (windowed : List SecurityEvent) : List (Str × List SecurityEvent) :=
  (grouped windowed).sortedItems.filter fun item => fires item.2

/-- `evaluate`. -/
def evaluate (store : EventStore) (now : Datetime) : Except Exc (List AlertBody) := do
  let windowed ← recentEvents (fun _ => true) detectionWindow store now
  mapE (fun item => buildAlert info now
      (finding item.1 item.2 ((recovered windowed).contains item.1)))
    (failing windowed)

/-! ## What the rule raises -/

theorem ne_nil_of_fires {events : List SecurityEvent} (hfires : fires events = true) :
    events ≠ [] := by
  rintro rfl
  exact absurd hfires (by decide)

theorem mem_failing {windowed : List SecurityEvent} {item : Str × List SecurityEvent} :
    item ∈ failing windowed ↔
      item.2 = ((windowed.filter isSignal).filter fun event =>
        event.serviceName.value = item.1) ∧ fires item.2 = true := by
  rw [failing, grouped, mem_filter_sortedItems]
  · simp only [Option.some.injEq]
  · exact ne_nil_of_fires

theorem nodup_failing (windowed : List SecurityEvent) :
    ((failing windowed).map Prod.fst).Nodup :=
  (Dict.nodup_sortedItems _).sublist (List.filter_sublist.map Prod.fst)

theorem finding_valid {service : Str} {events : List SecurityEvent} {recovered : Bool}
    (now : Datetime) (hevents : events ≠ []) :
    (alertFields info now (finding service events recovered)).Valid :=
  alertFields_valid (not_blank_lit (by decide +kernel))
    (not_blank_append_right (not_blank_lit (by decide +kernel)))
    (not_blank_append_left (not_blank_append_right (by decide))) hevents

/-- One alert per failing service. -/
theorem evaluate_eq (store : EventStore) {now : Datetime}
    (fits : WindowFits detectionWindow now) (readable : Readable store.events) :
    ∃ bodies, evaluate store now = .ok bodies ∧
      bodies.map (·.toAlertFields) =
        (failing (evidence (fun _ => true) detectionWindow now store.events)).map fun item =>
          alertFields info now (finding item.1 item.2
            ((recovered (evidence (fun _ => true) detectionWindow now store.events)).contains
              item.1)) := by
  obtain ⟨bodies, hbodies, hfields⟩ :=
    mapE_buildAlert info now
      (fun item => finding item.1 item.2
        ((recovered (evidence (fun _ => true) detectionWindow now store.events)).contains item.1))
      (failing (evidence (fun _ => true) detectionWindow now store.events))
      fun item hitem => finding_valid now (ne_nil_of_fires (mem_failing.mp hitem).2)
  refine ⟨bodies, ?_, hfields⟩
  rw [evaluate, recentEvents_of_readable fits readable]
  exact hbodies

end SentinelIR.Rules.ServiceFailure
