/-
# Rule 1, Multiple Failed Logins

Five or more `AUTH_FAILED` events for one subject inside five minutes. The
subject is keyed two ways, by account and by source address, and each key that
reaches the threshold raises an alert of its own.
-/

import SentinelIR.Rules.Base

namespace SentinelIR.Rules.FailedLogins

open SentinelIR.Py SentinelIR.Common SentinelIR.Alerts SentinelIR.Collector

/-- `FAILURE_THRESHOLD`. -/
def failureThreshold : Nat := 5

/-- `DETECTION_WINDOW`. -/
def detectionWindow : Micros := minutes 5

/-- The documented attributes of the rule. -/
def info : RuleInfo where
  name := "Multiple Failed Logins"
  purpose :=
    lit "Detect a brute-force or credential-stuffing attempt against the " ++
      lit "authentication endpoint before an account is compromised."
  inputEventTypes := [.authFailed]
  severity := .high
  recommendedAction :=
    lit "Temporarily block the source IP at the gateway and verify whether the " ++
      lit "targeted account is compromised; force a password reset if it is."

/-- The events the rule counts. -/
def isFailure (event : SecurityEvent) : Bool := event.eventType == .authFailed

/-- `_window_minutes`. -/
def windowMinutesText : Str := decimal (windowMinutes detectionWindow)

/-- The alert of one account. -/
def userFinding [UnicodeDb] (userId : Str) (events : List SecurityEvent) : Finding :=
  let addresses := distinctTexts (·.sourceIp) events
  { description :=
      decimal events.length ++ " failed logins for user " ++ Py.repr userId ++ " within " ++
        windowMinutesText ++ " minutes, from " ++
        (if addresses = [] then lit "no recorded" else decimal addresses.length) ++
        " source address" ++ plural addresses.length "es" ++ "."
    relatedEvents := events
    affectedService := events.getLast?.map (·.serviceName.value)
    affectedUser := some userId
    affectedEntity := some "login-endpoint" }

/-- The alert of one source address. -/
def ipFinding (sourceIp : Str) (events : List SecurityEvent) : Finding :=
  let usernames := distinctTexts (·.userId) events
  { description :=
      decimal events.length ++ " failed logins from " ++ sourceIp ++ " within " ++
        windowMinutesText ++ " minutes, against " ++ decimal usernames.length ++ " username" ++
        plural usernames.length "s" ++ "."
    relatedEvents := events
    affectedService := events.getLast?.map (·.serviceName.value)
    affectedUser := if usernames.length = 1 then usernames.head? else none
    affectedEntity := some "login-endpoint" }

/-- The groups of a key that reached the threshold, in key order. -/
def overThreshold (key : SecurityEvent → Option Str) (recent : List SecurityEvent) :
    List (Str × List SecurityEvent) :=
  (groupBy key recent).sortedItems.filter fun item => failureThreshold ≤ item.2.length

/-- `_alerts_for_users`. -/
def alertsForUsers [UnicodeDb] (recent : List SecurityEvent) (now : Datetime) :
    Except Exc (List AlertBody) :=
  mapE (fun item => buildAlert info now (userFinding item.1 item.2))
    (overThreshold (·.userId) recent)

/-- `_alerts_for_ips`. -/
def alertsForIps (recent : List SecurityEvent) (now : Datetime) :
    Except Exc (List AlertBody) :=
  mapE (fun item => buildAlert info now (ipFinding item.1 item.2))
    (overThreshold (·.sourceIp) recent)

/-- `evaluate`. -/
def evaluate [UnicodeDb] (store : EventStore) (now : Datetime) : Except Exc (List AlertBody) := do
  let recent ← recentEvents isFailure detectionWindow store now
  let forUsers ← alertsForUsers recent now
  let forIps ← alertsForIps recent now
  return forUsers ++ forIps

/-! ## What the rule raises -/

theorem mem_overThreshold {key : SecurityEvent → Option Str} {recent : List SecurityEvent}
    {item : Str × List SecurityEvent} :
    item ∈ overThreshold key recent ↔
      item.2 = (recent.filter fun event => key event = some item.1) ∧ 5 ≤ item.2.length := by
  rw [overThreshold, mem_filter_sortedItems]
  · rw [decide_eq_true_eq, failureThreshold]
  · intro reached
    have bound : 5 ≤ item.2.length := of_decide_eq_true reached
    exact List.ne_nil_of_length_pos (by omega)

theorem nodup_overThreshold (key : SecurityEvent → Option Str) (recent : List SecurityEvent) :
    ((overThreshold key recent).map Prod.fst).Nodup :=
  (Dict.nodup_sortedItems _).sublist (List.filter_sublist.map Prod.fst)

theorem overThreshold_ne_nil {key : SecurityEvent → Option Str} {recent : List SecurityEvent}
    {item : Str × List SecurityEvent} (hitem : item ∈ overThreshold key recent) : item.2 ≠ [] := by
  have reached := (mem_overThreshold.mp hitem).2
  exact List.ne_nil_of_length_pos (by omega)

theorem userFinding_valid [UnicodeDb] {userId : Str} {events : List SecurityEvent} (now : Datetime)
    (hevents : events ≠ []) : (alertFields info now (userFinding userId events)).Valid :=
  alertFields_valid (not_blank_lit (by decide +kernel))
    (not_blank_append_right (not_blank_lit (by decide +kernel)))
    (not_blank_append_right (by decide)) hevents

theorem ipFinding_valid {sourceIp : Str} {events : List SecurityEvent} (now : Datetime)
    (hevents : events ≠ []) : (alertFields info now (ipFinding sourceIp events)).Valid :=
  alertFields_valid (not_blank_lit (by decide +kernel))
    (not_blank_append_right (not_blank_lit (by decide +kernel)))
    (not_blank_append_right (by decide)) hevents

/-- Both kinds of alert of the rule, account alerts first. -/
theorem evaluate_eq [UnicodeDb] (store : EventStore) {now : Datetime}
    (fits : WindowFits detectionWindow now) (readable : Readable store.events) :
    ∃ bodies, evaluate store now = .ok bodies ∧
      bodies.map (·.toAlertFields) =
        ((overThreshold (·.userId) (evidence isFailure detectionWindow now store.events)).map
          fun item => alertFields info now (userFinding item.1 item.2)) ++
        ((overThreshold (·.sourceIp) (evidence isFailure detectionWindow now store.events)).map
          fun item => alertFields info now (ipFinding item.1 item.2)) := by
  obtain ⟨forUsers, husers, hfields⟩ :=
    mapE_buildAlert info now (fun item => userFinding item.1 item.2)
      (overThreshold (·.userId) (evidence isFailure detectionWindow now store.events))
      fun item hitem => userFinding_valid now (overThreshold_ne_nil hitem)
  obtain ⟨forIps, hips, hfields'⟩ :=
    mapE_buildAlert info now (fun item => ipFinding item.1 item.2)
      (overThreshold (·.sourceIp) (evidence isFailure detectionWindow now store.events))
      fun item hitem => ipFinding_valid now (overThreshold_ne_nil hitem)
  refine ⟨forUsers ++ forIps, ?_, by simp [hfields, hfields']⟩
  rw [evaluate, recentEvents_of_readable fits readable]
  simp only [bind, Except.bind, alertsForUsers, alertsForIps, husers, hips, pure, Except.pure]

end SentinelIR.Rules.FailedLogins
