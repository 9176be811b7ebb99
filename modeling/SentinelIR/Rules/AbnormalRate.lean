/-
# Rule 3, Abnormal Request Rate

A source address fires the rule by volume, thirty requests received in a minute,
or by repeatedly tripping the gateway's rate limit, three refusals in a minute.
Either signal alone is enough, and one alert names every signal that fired.
-/

import SentinelIR.Rules.Base

namespace SentinelIR.Rules.AbnormalRate

open SentinelIR.Py SentinelIR.Common SentinelIR.Alerts SentinelIR.Collector

/-- `REQUEST_THRESHOLD`. -/
def requestThreshold : Nat := 30

/-- `DETECTION_WINDOW`. -/
def detectionWindow : Micros := minutes 1

/-- `RATE_LIMIT_THRESHOLD`. -/
def rateLimitThreshold : Nat := 3

/-- `_REQUEST_EVENT_TYPES`. -/
def requestEventTypes : List EventType := [.requestReceived]

/-- The documented attributes of the rule. -/
def info : RuleInfo where
  name := "Abnormal Request Rate"
  purpose :=
    lit "Detect a possible denial-of-service attempt, runaway client or " ++
      lit "automated scan driving request volume far above the working rate."
  inputEventTypes := [.rateLimitExceeded, .requestReceived]
  severity := .high
  recommendedAction :=
    lit "Rate-limit or block the source address at the gateway, then check " ++
      lit "upstream capacity and confirm the affected services recovered."

/-- The key of `_group_by_source`: an event without a source address, or with an
empty one, is not evidence about any source. -/
def sourceOf (event : SecurityEvent) : Option Str :=
  match event.sourceIp with
  | some (c :: sourceIp) => some (c :: sourceIp)
  | _ => none

theorem sourceOf_eq_some_iff {event : SecurityEvent} {source : Str} :
    sourceOf event = some source ↔ source ≠ [] ∧ event.sourceIp = some source := by
  rw [sourceOf]
  split
  case h_1 c rest named =>
      rw [named]
      constructor
      · intro same
        obtain rfl := Option.some.inj same
        exact ⟨List.cons_ne_nil c rest, rfl⟩
      · exact fun same => same.2
  case h_2 unnamed =>
      apply iff_of_false (by rintro ⟨⟩)
      rintro ⟨visible, named⟩
      obtain ⟨c, rest, rfl⟩ := List.exists_cons_of_ne_nil visible
      exact unnamed c rest named

/-- `_group_by_source`. -/
def groupBySource (events : List SecurityEvent) : Dict Str (List SecurityEvent) :=
  groupBy sourceOf events

/-- `_single_user`. -/
def singleUser (events : List SecurityEvent) : Option Str :=
  let users := distinctTexts (·.userId) events
  if users.length = 1 then users.head? else none

/-- The distinct service names of the events, sorted. -/
def servicesOf (events : List SecurityEvent) : List Str :=
  sortedBy id (events.map (·.serviceName.value)).dedup

/-- The signals that reached their threshold, as the description names them. -/
def reasonsFor (refusals requests : List SecurityEvent) : List Str :=
  (if rateLimitThreshold ≤ refusals.length then
    [decimal refusals.length ++ " requests refused by the gateway's rate limit"] else []) ++
  (if requestThreshold ≤ requests.length then
    [decimal requests.length ++ " requests received in " ++
      decimal (detectionWindow / 1000000).toNat ++ " seconds"] else [])

/-- The finding of one source, on its evidence in time order. -/
def finding (source : Str) (ordered : List SecurityEvent) (reasons : List Str) : Finding :=
  let services := servicesOf ordered
  { description :=
      "Abnormal request rate from " ++ source ++ ": " ++ joinWith " and " reasons ++
        ", affecting " ++ joinWith ", " services ++ "."
    relatedEvents := ordered
    affectedService := if services.length = 1 then services.head? else none
    affectedUser := singleUser ordered
    affectedEntity := some source }

/-- `_alert_for`. -/
def alertFor (source : Str) (events : List SecurityEvent) (reasons : List Str)
    (now : Datetime) : Except Exc AlertBody := do
  let ordered ← EventStore.sorted events
  buildAlert info now (finding source ordered reasons)

/-- The windowed refusals by source address. -/
def throttled (windowed : List SecurityEvent) : Dict Str (List SecurityEvent) :=
  groupBySource (windowed.filter fun event => event.eventType == .rateLimitExceeded)

/-- The windowed requests by source address. -/
def volume (windowed : List SecurityEvent) : Dict Str (List SecurityEvent) :=
  groupBySource (windowed.filter fun event => requestEventTypes.contains event.eventType)

/-- `sorted(set(throttled) | set(volume))`. -/
def sources (windowed : List SecurityEvent) : List Str :=
  sortedBy id ((throttled windowed).keys ++ (volume windowed).keys).dedup

/-- `throttled.get(source, [])` or `volume.get(source, [])`. -/
def eventsOf (grouped : Dict Str (List SecurityEvent)) (source : Str) : List SecurityEvent :=
  (grouped.get? source).getD []

/-- The sources with at least one reason to be named. -/
def offending (windowed : List SecurityEvent) : List Str :=
  (sources windowed).filter fun source =>
    reasonsFor (eventsOf (throttled windowed) source) (eventsOf (volume windowed) source) ≠ []

/-- `evaluate`. -/
def evaluate (store : EventStore) (now : Datetime) : Except Exc (List AlertBody) := do
  let windowed ← recentEvents (fun _ => true) detectionWindow store now
  mapE (fun source =>
      let refusals := eventsOf (throttled windowed) source
      let requests := eventsOf (volume windowed) source
      alertFor source (refusals ++ requests) (reasonsFor refusals requests) now)
    (offending windowed)

/-! ## What the rule raises -/

/-- The windowed refusals by the rate limit that name the source. -/
def refusalsOf (windowed : List SecurityEvent) (source : Str) : List SecurityEvent :=
  (windowed.filter fun event => event.eventType == .rateLimitExceeded).filter fun event =>
    sourceOf event = some source

/-- The windowed requests that name the source. -/
def requestsOf (windowed : List SecurityEvent) (source : Str) : List SecurityEvent :=
  (windowed.filter fun event => requestEventTypes.contains event.eventType).filter fun event =>
    sourceOf event = some source

theorem eventsOf_throttled (windowed : List SecurityEvent) (source : Str) :
    eventsOf (throttled windowed) source = refusalsOf windowed source :=
  getD_get?_groupBy sourceOf _ source

theorem eventsOf_volume (windowed : List SecurityEvent) (source : Str) :
    eventsOf (volume windowed) source = requestsOf windowed source :=
  getD_get?_groupBy sourceOf _ source

/-- A source is named exactly when one of its two signals reached its threshold. -/
theorem mem_offending {windowed : List SecurityEvent} {source : Str} :
    source ∈ offending windowed ↔
      3 ≤ (refusalsOf windowed source).length ∨ 30 ≤ (requestsOf windowed source).length := by
  have reasons : reasonsFor (refusalsOf windowed source) (requestsOf windowed source) ≠ [] ↔
      3 ≤ (refusalsOf windowed source).length ∨ 30 ≤ (requestsOf windowed source).length := by
    simp only [reasonsFor, rateLimitThreshold, requestThreshold]
    by_cases refused : 3 ≤ (refusalsOf windowed source).length <;>
      by_cases requested : 30 ≤ (requestsOf windowed source).length <;>
      simp [refused, requested]
  rw [offending, List.mem_filter, decide_eq_true_eq, eventsOf_throttled, eventsOf_volume, reasons,
    and_iff_right_iff_imp]
  intro reached
  have grouped {wanted : SecurityEvent → Bool}
      (nonempty : 0 < ((windowed.filter wanted).filter fun event =>
        sourceOf event = some source).length) :
      source ∈ (groupBySource (windowed.filter wanted)).keys := by
    obtain ⟨event, hevent⟩ := List.exists_mem_of_length_pos nonempty
    obtain ⟨hwanted, hsource⟩ := List.mem_filter.mp hevent
    exact (mem_keys_groupBy sourceOf).mpr ⟨event, hwanted, of_decide_eq_true hsource⟩
  simp only [sources, mem_sortedBy, List.mem_dedup, List.mem_append]
  rcases reached with refused | requested
  · exact .inl (grouped (lt_of_lt_of_le (by norm_num) refused))
  · exact .inr (grouped (lt_of_lt_of_le (by norm_num) requested))

theorem nodup_offending (windowed : List SecurityEvent) : (offending windowed).Nodup := by
  have distinct : (sources windowed).Nodup :=
    (perm_sortedBy id _).nodup_iff.mpr (List.nodup_dedup _)
  exact distinct.sublist List.filter_sublist

theorem finding_valid {source : Str} {ordered : List SecurityEvent} {reasons : List Str}
    (now : Datetime) (hevents : ordered ≠ []) :
    (alertFields info now (finding source ordered reasons)).Valid :=
  alertFields_valid (not_blank_lit (by decide +kernel))
    (not_blank_append_right (not_blank_lit (by decide +kernel)))
    (not_blank_append_right (by decide)) hevents

/-- The evidence about a source, oldest first. -/
def evidenceOf (windowed : List SecurityEvent) (source : Str) : List SecurityEvent :=
  chronological (refusalsOf windowed source ++ requestsOf windowed source)

theorem evidenceOf_ne_nil {windowed : List SecurityEvent} {source : Str}
    (hsource : source ∈ offending windowed) : evidenceOf windowed source ≠ [] := by
  have total : (evidenceOf windowed source).length =
      (refusalsOf windowed source).length + (requestsOf windowed source).length := by
    simp [evidenceOf, chronological]
  have reached := mem_offending.mp hsource
  exact List.ne_nil_of_length_pos (by omega)

/-- One alert per source with a signal over its threshold. -/
theorem evaluate_eq (store : EventStore) {now : Datetime}
    (fits : WindowFits detectionWindow now) (readable : Readable store.events) :
    ∃ bodies, evaluate store now = .ok bodies ∧
      bodies.map (·.toAlertFields) =
        (offending (evidence (fun _ => true) detectionWindow now store.events)).map fun source =>
          let windowed := evidence (fun _ => true) detectionWindow now store.events
          alertFields info now (finding source (evidenceOf windowed source)
            (reasonsFor (refusalsOf windowed source) (requestsOf windowed source))) := by
  let windowed := evidence (fun _ => true) detectionWindow now store.events
  obtain ⟨bodies, hbodies, hfields⟩ :=
    mapE_buildAlert info now
      (fun source => finding source (evidenceOf windowed source)
        (reasonsFor (refusalsOf windowed source) (requestsOf windowed source)))
      (offending windowed) fun source hsource => finding_valid now (evidenceOf_ne_nil hsource)
  refine ⟨bodies, ?_, hfields⟩
  have inStore {source : Str} :
      refusalsOf windowed source ++ requestsOf windowed source ⊆ store.events := by
    intro event hevent
    have hwindowed : event ∈ windowed := by
      rcases List.mem_append.mp hevent with refused | requested
      · exact List.mem_of_mem_filter (List.mem_of_mem_filter refused)
      · exact List.mem_of_mem_filter (List.mem_of_mem_filter requested)
    exact (mem_evidence.mp hwindowed).1
  have sorts : ∀ source ∈ offending windowed,
      alertFor source (eventsOf (throttled windowed) source ++ eventsOf (volume windowed) source)
        (reasonsFor (eventsOf (throttled windowed) source) (eventsOf (volume windowed) source))
        now =
      buildAlert info now (finding source (evidenceOf windowed source)
        (reasonsFor (refusalsOf windowed source) (requestsOf windowed source))) := by
    intro source _
    rw [eventsOf_throttled, eventsOf_volume, alertFor, sorted_eq, if_pos (readable.subset inStore)]
    rfl
  rw [evaluate, recentEvents_of_readable fits readable]
  exact (mapE_congr sorts).trans hbodies

end SentinelIR.Rules.AbnormalRate
