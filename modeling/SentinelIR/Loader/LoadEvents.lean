/-
# Source 2 of 3: what happened

Every collected event and every raised alert as writes, with the edges between
them, and the incidents the stream mentions. Alerts carry an identifier derived
from what the rule saw, so that loading the same stream twice merges the same
nodes; the digest behind it is a parameter.
-/

import SentinelIR.Alerts.Store
import SentinelIR.Collector.Store
import SentinelIR.Loader.Writes

namespace SentinelIR.Loader.LoadEvents

open SentinelIR.Py SentinelIR.Common SentinelIR.Alerts SentinelIR.Collector

/-- `_LOADER`. -/
def loader : Str := "events"

/-- `INCIDENT_WINDOW`. -/
def incidentWindow : Micros := minutes 30

/-- `_GROUPED_SEVERITIES`. -/
def groupedSeverities : List Severity := [.high, .critical]

/-- `_INCIDENT_EVENT_TYPES`. -/
def incidentEventTypes : List EventType := [.incidentCreated, .incidentEscalated]

/-! ## The asset a message names -/

/-- The single quote of the pattern `asset '([^']+)'`. -/
def quoteMark : CodePoint := codePoint '\''

/-- The pattern at the start of a text. -/
def assetAt (s : Str) : Option Str :=
  if (lit "asset '").isPrefixOf s then
    let rest := s.drop (lit "asset '").length
    match rest.takeWhile (· ≠ quoteMark), rest.dropWhile (· ≠ quoteMark) with
    | c :: name, _ :: _ => some (c :: name)
    | _, _ => none
  else none

/-- `asset_named_in`: the first place the pattern matches. -/
def assetNamedIn : Str → Option Str
  | [] => none
  | c :: rest =>
      match assetAt (c :: rest) with
      | some name => some name
      | none => assetNamedIn rest

/-! ## Stable alert identifiers -/

/-- The first twelve hexadecimal digits of the SHA-1 of a text's UTF-8 bytes. -/
abbrev Digest := Str → Str

/-- The text whose digest identifies an alert. -/
def material (alert : AlertFields) : Str :=
  joinWith "|"
    [alert.ruleName, alert.affectedService.getD [], alert.affectedUser.getD [],
      alert.affectedEntity.getD [], joinWith "," (sortedBy id alert.relatedEvents)]

/-- `stable_alert_id`. -/
def stableAlertId (digest : Digest) (alert : Alert) : Except Exc Str :=
  let text := material alert.toAlertFields
  if Encodable text then .ok (alertIdTag ++ digest text) else .error .unicodeEncodeError

/-- `with_stable_ids`. -/
def withStableIds (digest : Digest) (alerts : List Alert) : Except Exc (List Alert) :=
  mapE (fun alert => (stableAlertId digest alert).map fun alertId => { alert with alertId }) alerts

/-! ## Events -/

/-- `_KNOWN_ENDPOINTS`. -/
def knownEndpoints : List Str :=
  ["/api/v1/auth/login", "/api/v1/auth/verify", "/api/v1/auth/users", "/api/v1/incidents",
    "/api/v1/assets"]

/-- `_endpoint_stem`. -/
def endpointStem (path : Str) : Str :=
  ((knownEndpoints.filter fun known => known.isPrefixOf path).argmax List.length).getD path

/-- A required text property. -/
def text (value : Str) : Option Value := some (.text value)

/-- A nullable text property: null removes it. -/
def optional (value : Option Str) : Option Value := value.map .text

/-- `_merge_event`. -/
def mergeEvent (event : SecurityEvent) : List Write :=
  let linked (first : LoaderClause) (edge : LoaderClause) : Write :=
    { statement := [first, matchBy 'e' .event .eventId event.eventId, edge], loader := loader }
  let asset := if event.eventType = .assetAccessed then assetNamedIn event.message else none
  [{ statement :=
       [mergeBy 'e' .event .eventId event.eventId,
         .setProps 'e' [(.timestamp, text event.timestamp),
           (.serviceName, text event.serviceName.value), (.eventType, text event.eventType.value),
           (.severity, text event.severity.value), (.endpoint, text event.endpoint),
           (.httpMethod, text event.httpMethod), (.statusCode, some (.number event.statusCode)),
           (.message, text event.message), (.correlationId, text event.correlationId),
           (.userId, optional event.userId), (.sourceIp, optional event.sourceIp)]]
     loader := loader },
    linked (mergeBy 's' .service .name event.serviceName.value) (.mergeEdge 'e' .generatedBy 's'),
    linked (mergeBy 'n' .endpoint .path (endpointStem event.endpoint))
      (.mergeEdge 'e' .targeted 'n')] ++
  (match asset with
    | some name => [linked (mergeBy 'a' .asset .name name) (.mergeEdge 'e' .accessed 'a')]
    | none => []) ++
  (match event.userId with
    | some (c :: userId) =>
        [linked (mergeBy 'u' .user .username (c :: userId)) (.mergeEdge 'u' .triggered 'e')]
    | _ => [])

/-! ## Alerts -/

/-- The node of an alert. -/
def alertNode (alert : Alert) : Write where
  statement :=
    [mergeBy 'a' .alert .alertId alert.alertId,
      .setProps 'a' [(.timestamp, text alert.timestamp), (.ruleName, text alert.ruleName),
        (.severity, text alert.severity.value), (.status, text alert.status.value),
        (.description, text alert.description),
        (.affectedService, optional alert.affectedService),
        (.affectedUser, optional alert.affectedUser),
        (.affectedEntity, optional alert.affectedEntity),
        (.recommendedAction, text alert.recommendedAction)]]
  loader := loader

/-- The `CREATED_ALERT` write of one cited event. -/
def createdAlertWrite (alertId eventId : Str) : Write where
  statement :=
    [matchBy 'e' .event .eventId eventId, matchBy 'a' .alert .alertId alertId,
      .mergeEdge 'e' .createdAlert 'a']
  loader := loader

/-- `_merge_alert`. -/
def mergeAlert (alert : Alert) : List Write :=
  alertNode alert :: alert.relatedEvents.map (createdAlertWrite alert.alertId)

/-! ## Incidents -/

/-- `created_at - INCIDENT_WINDOW <= moment <= created_at`. -/
def inWindow (createdAt : Datetime) (moment : Micros) : Except Exc Bool :=
  match createdAt.minus incidentWindow with
  | none => .error .overflowError
  | some start => .ok (decide (start ≤ moment ∧ moment ≤ createdAt.instant))

/-- The definition as an equation of functions: rewriting with it leaves the arithmetic
of the date alone. -/
theorem inWindow_eq : inWindow = fun createdAt moment =>
    match createdAt.minus incidentWindow with
    | none => .error .overflowError
    | some start => .ok (decide (start ≤ moment ∧ moment ≤ createdAt.instant)) := rfl

theorem exists_inWindow_iff {createdAt : Datetime} (moment : Micros) :
    (∃ found, inWindow createdAt moment = .ok found) ↔ incidentWindow ≤ createdAt.instant := by
  rw [inWindow_eq]
  dsimp only
  by_cases fits : incidentWindow ≤ createdAt.instant
  · rw [Datetime.minus_of_le fits]
    exact iff_of_true ⟨_, rfl⟩ fits
  · rw [Datetime.minus_of_not_le fits]
    simp [fits]

/-- The `CONTAINS` write of one alert, when the incident groups it. -/
def containsWrite (incidentId : Str) (createdAt : Datetime) (eventTimes : Dict Str Micros)
    (alert : Alert) : Except Exc (List Write) :=
  if alert.severity ∈ groupedSeverities then
    (anyE (inWindow createdAt) (alert.relatedEvents.filterMap eventTimes.get?)).map fun found =>
      if found then
        [{ statement :=
             [matchBy 'i' .incident .incidentId incidentId,
               matchBy 'a' .alert .alertId alert.alertId, .mergeEdge 'i' .contains 'a']
           loader := loader }]
      else []
  else .ok []

/-- The `CONCERNS` write of one incident event. -/
def concernsWrite (incidentId : Str) (event : SecurityEvent) : Write where
  statement :=
    [matchBy 'e' .event .eventId event.eventId, matchBy 'i' .incident .incidentId incidentId,
      .mergeEdge 'e' .concerns 'i']
  loader := loader

/-- The `AFFECTS` write, when the message names an asset. -/
def affectsWrites (incidentId : Str) (message : Str) : List Write :=
  match assetNamedIn message with
  | some asset =>
      [{ statement :=
           [mergeBy 'a' .asset .name asset, matchBy 'i' .incident .incidentId incidentId,
             .mergeEdge 'i' .affects 'a']
         loader := loader }]
  | none => []

/-- The node of an incident, from the event that created it and the latest. -/
def incidentNode (incidentId : Str) (created latest : SecurityEvent) : Write where
  statement :=
    [mergeBy 'i' .incident .incidentId incidentId,
      .setProps 'i' [(.title, text created.message), (.severity, text latest.severity.value),
        (.createdAt, text created.timestamp), (.reportedBy, optional created.userId)]]
  loader := loader

/-- The event that created an incident: the first `INCIDENT_CREATED`, or the
first event when there is none. -/
def createdOf (first : SecurityEvent) (raised : List SecurityEvent) : SecurityEvent :=
  (raised.find? fun event => event.eventType == .incidentCreated).getD first

/-- `_incident_writes`, on an incident's events, `first` leading them. -/
def incidentWrites (incidentId : Str) (first : SecurityEvent) (raised : List SecurityEvent)
    (alerts : List Alert) (eventTimes : Dict Str Micros) : Except Exc (List Write) := do
  let created := createdOf first raised
  let createdAt ← parseTimestamp created.timestamp
  let grouped ← mapE (containsWrite incidentId createdAt eventTimes) alerts
  return incidentNode incidentId created (raised.getLast?.getD first) ::
    raised.map (concernsWrite incidentId) ++ affectsWrites incidentId created.message ++
      grouped.flatten

/-- `_incident_writes`, on an item of the grouping. -/
def groupWrites (alerts : List Alert) (eventTimes : Dict Str Micros)
    (item : Str × List SecurityEvent) : Except Exc (List Write) :=
  match item.2 with
  | [] => .ok []
  | first :: _ => incidentWrites item.1 first item.2 alerts eventTimes

/-- The incident an event belongs to: its non-empty affected entity. -/
def incidentOf (event : SecurityEvent) : Option Str :=
  if event.eventType ∈ incidentEventTypes then
    match event.affectedEntity with
    | some (c :: entity) => some (c :: entity)
    | _ => none
  else none

/-- `{event.event_id: parse_timestamp(event.timestamp) for …}` over readable
events: a later event takes the place of an earlier one with its identifier. -/
def eventTimes (events : List SecurityEvent) : Except Exc (Dict Str Micros) :=
  (mapE (fun event => (parseTimestamp event.timestamp).map fun t => (event.eventId, t.instant))
    events).map fun items => items.foldl (fun times item => times.set item.1 item.2) Dict.empty

/-- `incidents`. -/
def incidents (store : EventStore) (alertStore : AlertStore) : Except Exc (List Write) := do
  let events ← store.allEvents
  let raised := groupBy incidentOf (sortedBy (·.timestamp) events)
  let times ← eventTimes (← store.allEvents)
  let alerts := alertStore.list none none none
  let writes ← mapE (groupWrites alerts times) raised.sortedItems
  return writes.flatten

/-- `events`: the events, then the alerts, then the incidents. -/
def events (store : EventStore) (alertStore : AlertStore) : Except Exc (List Write) := do
  let collected ← store.allEvents
  let raised ← incidents store alertStore
  return collected.flatMap mergeEvent ++ (alertStore.list none none none).flatMap mergeAlert ++
    raised

end SentinelIR.Loader.LoadEvents
