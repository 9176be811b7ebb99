/-
# Rule 2, Unauthorised Endpoint Access

Three or more refusals on protected routes from one subject inside ten minutes.
The subject is the user id when the event names one and the source address
otherwise; the severity rises when one of the refusals is on a privileged route.
-/

import SentinelIR.Rules.Base

namespace SentinelIR.Rules.UnauthorisedAccess

open SentinelIR.Py SentinelIR.Common SentinelIR.Alerts SentinelIR.Collector

/-- `REFUSAL_THRESHOLD`. -/
def refusalThreshold : Nat := 3

/-- `DETECTION_WINDOW`. -/
def detectionWindow : Micros := minutes 10

/-- `REFUSAL_STATUS_CODES`. -/
def refusalStatusCodes : List Int := [401, 403]

/-- `PRIVILEGED_PATH_PREFIXES`. -/
def privilegedPaths : List Str := ["/api/v1/auth/users"]

/-- The documented attributes of the rule. -/
def info : RuleInfo where
  name := "Unauthorised Endpoint Access"
  purpose :=
    lit "Detect a caller probing endpoints outside its authorisation - " ++
      lit "reconnaissance, or a stolen token being tested for reach."
  inputEventTypes := [.unauthorisedAccess, .requestCompleted]
  severity := .medium
  recommendedAction :=
    lit "Review the subject's role assignment, audit the endpoints it was " ++
      lit "refused on, and revoke the token if the access pattern is not " ++
      lit "explainable by a legitimate client."

/-- `_is_refusal`. -/
def isRefusal (event : SecurityEvent) : Bool :=
  match event.eventType with
  | .authFailed => false
  | .unauthorisedAccess => true
  | _ => refusalStatusCodes.contains event.statusCode

/-- `_is_privileged`. -/
def isPrivileged (endpoint : Str) : Bool :=
  privilegedPaths.any fun path => path.isPrefixOf endpoint

/-- `_subject_of`: Python's truth test skips an empty text. -/
def subjectOf (event : SecurityEvent) : Str :=
  match event.userId, event.sourceIp with
  | some (c :: userId), _ => c :: userId
  | _, some (c :: sourceIp) => c :: sourceIp
  | _, _ => "unattributed"

/-- The distinct endpoints of the refusals, sorted. -/
def endpointsOf (events : List SecurityEvent) : List Str :=
  sortedBy id (events.map (·.endpoint)).dedup

/-- `_alert_for`: the alert of one subject. -/
def finding (subject : Str) (events : List SecurityEvent) : Finding :=
  let endpoints := endpointsOf events
  let privileged := endpoints.filter isPrivileged
  let detail : Str :=
    if privileged = [] then []
    else " including the privileged route" ++ plural privileged.length "s" ++ " " ++
      joinWith ", " privileged
  { description :=
      decimal events.length ++ " unauthorised requests from " ++ subject ++ " within " ++
        decimal (windowMinutes detectionWindow) ++ " minutes across " ++
        decimal endpoints.length ++ " endpoint" ++ plural endpoints.length "s" ++ detail ++ "."
    relatedEvents := events
    severity := if privileged = [] then none else some .high
    affectedService := events.getLast?.map (·.serviceName.value)
    affectedUser := events.getLast?.bind (·.userId)
    affectedEntity := if privileged = [] then endpoints.head? else privileged.head? }

/-- The subjects that reached the threshold, in order, with their refusals. -/
def overThreshold (refusals : List SecurityEvent) : List (Str × List SecurityEvent) :=
  (groupBy (fun event => some (subjectOf event)) refusals).sortedItems.filter fun item =>
    refusalThreshold ≤ item.2.length

/-- `evaluate`. -/
def evaluate (store : EventStore) (now : Datetime) : Except Exc (List AlertBody) := do
  let refusals ← recentEvents isRefusal detectionWindow store now
  mapE (fun item => buildAlert info now (finding item.1 item.2)) (overThreshold refusals)

/-! ## What the rule raises -/

theorem mem_overThreshold {refusals : List SecurityEvent} {item : Str × List SecurityEvent} :
    item ∈ overThreshold refusals ↔
      item.2 = (refusals.filter fun event => subjectOf event = item.1) ∧ 3 ≤ item.2.length := by
  rw [overThreshold, mem_filter_sortedItems]
  · rw [decide_eq_true_eq]
    simp only [refusalThreshold, Option.some.injEq]
  · intro reached
    have bound : 3 ≤ item.2.length := of_decide_eq_true reached
    exact List.ne_nil_of_length_pos (by omega)

theorem nodup_overThreshold (refusals : List SecurityEvent) :
    ((overThreshold refusals).map Prod.fst).Nodup :=
  (Dict.nodup_sortedItems _).sublist (List.filter_sublist.map Prod.fst)

theorem finding_valid {subject : Str} {events : List SecurityEvent} (now : Datetime)
    (hevents : events ≠ []) : (alertFields info now (finding subject events)).Valid :=
  alertFields_valid (not_blank_lit (by decide +kernel))
    (not_blank_append_right (not_blank_lit (by decide +kernel)))
    (not_blank_append_right (by decide)) hevents

/-- One alert per subject over the threshold. -/
theorem evaluate_eq (store : EventStore) {now : Datetime}
    (fits : WindowFits detectionWindow now) (readable : Readable store.events) :
    ∃ bodies, evaluate store now = .ok bodies ∧
      bodies.map (·.toAlertFields) =
        (overThreshold (evidence isRefusal detectionWindow now store.events)).map
          fun item => alertFields info now (finding item.1 item.2) := by
  obtain ⟨bodies, hbodies, hfields⟩ :=
    mapE_buildAlert info now (fun item => finding item.1 item.2)
      (overThreshold (evidence isRefusal detectionWindow now store.events))
      fun item hitem => finding_valid now
        (List.ne_nil_of_length_pos (by have := (mem_overThreshold.mp hitem).2; omega))
  refine ⟨bodies, ?_, hfields⟩
  rw [evaluate, recentEvents_of_readable fits readable]
  exact hbodies

end SentinelIR.Rules.UnauthorisedAccess
