/-
# Running the rules

The command that evaluates the catalogue over a collected stream and hands what
it raised to the alert store. Before anything is stored every citation is looked
up, so the store either takes the whole list or stays as it was.
-/

import SentinelIR.Alerts.Store
import SentinelIR.Rules.Evidence

namespace SentinelIR.Rules

open SentinelIR.Py SentinelIR.Common SentinelIR.Alerts SentinelIR.Collector

/-- Some identifier the alert cites is not known. -/
def dangling (known : List Str) (alert : Alert) : Bool :=
  alert.relatedEvents.any fun eventId => !known.contains eventId

/-- `persist_alerts`: the result, and the alert store it leaves. -/
def persistAlerts (alerts : List Alert) (store : EventStore) (held : AlertStore) :
    Except Exc Nat × AlertStore :=
  match store.allEvents with
  | .error raised => (.error raised, held)
  | .ok events =>
      if alerts.any (dangling (events.map (·.eventId))) then (.error .valueError, held)
      else (.ok (held.extend alerts).2, (held.extend alerts).1)

/-- `latest_event_time`. -/
def latestEventTime (store : EventStore) : Except Exc (Option Datetime) := do
  match (← store.allEvents).getLast? with
  | some newest => return some (← parseTimestamp newest.timestamp)
  | none => return none

/-- Where the entry points take their events from. -/
inductive Source
  /-- `--file`. -/
  | file
  /-- `--stdin`. -/
  | stdin
  /-- The running stack's logs. -/
  | docker
  deriving DecidableEq

/-- `_resolve_now`: a pinned moment, the newest event of a file, or the clock. -/
def resolveNow (pinned : Option Str) (source : Source) (clock : Datetime) (store : EventStore) :
    Except Exc Datetime :=
  match pinned, source with
  | some moment, _ => parseTimestamp moment
  | none, .file => (latestEventTime store).map fun newest => newest.getD clock
  | none, _ => .ok clock

/-- The alerts `main` raises on a collected store. -/
def raisedAlerts [UnicodeDb] (ids : AlertIds) (pinned : Option Str) (source : Source)
    (clock : Datetime) (store : EventStore) : Except Exc (List Alert) := do
  evaluateAll ids store (← resolveNow pinned source clock store)

/-! ## What is raised -/

section Raised

variable [UnicodeDb] {ids : AlertIds} {store : EventStore} {now : Datetime}

/-- Inside the calendar and on readable timestamps the evaluation returns. -/
theorem evaluated_of_fits (ids : AlertIds) {store : EventStore} {now : Datetime}
    (fits : WindowFits UnauthorisedAccess.detectionWindow now) (readable : Readable store.events) :
    ∃ alerts, evaluateAll ids store now = .ok alerts := by
  obtain ⟨bodies, hbodies, -⟩ := evaluateBodies_eq store fits readable
  exact ⟨_, congrArg (Except.map _) hbodies⟩

/-- An evaluation that returns stayed in the calendar and read every timestamp. -/
theorem readable_of_evaluateAll {alerts : List Alert}
    (hevaluate : evaluateAll ids store now = .ok alerts) :
    WindowFits UnauthorisedAccess.detectionWindow now ∧ Readable store.events := by
  by_contra bad
  obtain ⟨raised, hraised⟩ := evaluateBodies_raises bad
  have failed : evaluateAll ids store now = .error raised := congrArg (Except.map _) hraised
  rw [failed] at hevaluate
  cases hevaluate

/-- Every alert is about a subject over its threshold. -/
theorem exists_subject_of_mem {alerts : List Alert}
    (hevaluate : evaluateAll ids store now = .ok alerts) {alert : Alert} (halert : alert ∈ alerts) :
    ∃ subject : Subject, subject.Over now store.events ∧
      alert.toAlertFields = subject.alert now store.events := by
  exact exists_over_of_mem (evaluateAll_eq_ok hevaluate) halert

/-- Every alert cites the events of its subject. -/
theorem cites_of_mem {alerts : List Alert} (hevaluate : evaluateAll ids store now = .ok alerts)
    {alert : Alert} (halert : alert ∈ alerts) :
    ∃ subject : Subject, alert.ruleName = subject.info.name ∧
      alert.relatedEvents = (subject.evidence now store.events).map (·.eventId) ∧
      subject.evidence now store.events ≠ [] := by
  obtain ⟨subject, hover, hfields⟩ := exists_subject_of_mem hevaluate halert
  refine ⟨subject, ?_, ?_, Subject.evidence_ne_nil hover⟩
  · rw [hfields, Subject.alert_ruleName]
  · rw [hfields, Subject.alert_relatedEvents]

end Raised

/-! ## What is persisted -/

theorem persistAlerts_of_known {alerts : List Alert} {store : EventStore} (held : AlertStore)
    (readable : Readable store.events)
    (known : ∀ alert ∈ alerts, ∀ eventId ∈ alert.relatedEvents,
      ∃ event ∈ store.events, event.eventId = eventId) :
    persistAlerts alerts store held = (.ok (held.extend alerts).2, (held.extend alerts).1) := by
  have resolved : alerts.any (dangling ((chronological store.events).map (·.eventId))) = false := by
    apply List.any_eq_false.mpr
    intro alert halert
    rw [dangling, List.any_eq_true]
    rintro ⟨eventId, hcited, missing⟩
    obtain ⟨event, hevent, rfl⟩ := known alert halert eventId hcited
    have present : event.eventId ∈ (chronological store.events).map (·.eventId) :=
      List.mem_map_of_mem (mem_chronological.mpr hevent)
    simp [present] at missing
  rw [persistAlerts, allEvents_of_readable readable]
  simp only [resolved, Bool.false_eq_true, if_false]

/-- A citation the event store does not hold keeps the alert store as it was. -/
theorem persistAlerts_of_dangling {alerts : List Alert} {store : EventStore} (held : AlertStore)
    {alert : Alert} (halert : alert ∈ alerts) {eventId : Str}
    (hcited : eventId ∈ alert.relatedEvents)
    (missing : ∀ event ∈ store.events, event.eventId ≠ eventId) :
    ∃ raised, persistAlerts alerts store held = (.error raised, held) := by
  rw [persistAlerts]
  cases hall : store.allEvents with
  | error raised => exact ⟨raised, rfl⟩
  | ok events =>
      obtain ⟨-, rfl⟩ := readable_of_allEvents hall
      have found : alerts.any (dangling ((chronological store.events).map (·.eventId))) = true := by
        refine List.any_eq_true.mpr ⟨alert, halert, List.any_eq_true.mpr ⟨eventId, hcited, ?_⟩⟩
        simp only [Bool.not_eq_true', List.contains_eq_mem, decide_eq_false_iff_not, List.mem_map,
          mem_chronological]
        rintro ⟨event, hevent, same⟩
        exact missing event hevent same
      exact ⟨.valueError, by simp only [found, if_true]⟩

/-- What the rules raised is persisted whole. -/
theorem persistAlerts_of_evaluated [UnicodeDb] {ids : AlertIds} {store : EventStore}
    {now : Datetime} {alerts : List Alert} (held : AlertStore)
    (hevaluate : evaluateAll ids store now = .ok alerts) :
    persistAlerts alerts store held = (.ok (held.extend alerts).2, (held.extend alerts).1) := by
  apply persistAlerts_of_known held (readable_of_evaluateAll hevaluate).2
  intro alert halert eventId hcited
  obtain ⟨subject, -, cites, -⟩ := cites_of_mem hevaluate halert
  rw [cites] at hcited
  obtain ⟨event, hevent, rfl⟩ := List.mem_map.mp hcited
  exact ⟨event, Subject.mem_events_of_mem_evidence hevent, rfl⟩

/-- Every alert cites events of the store, inside its rule's window, in order; the
whole list persists; and a list with a dangling citation persists not at all. -/
theorem alerts_cite_and_persist [UnicodeDb] :
    (∀ (ids : AlertIds) (store : EventStore) (now : Datetime) (alerts : List Alert),
      evaluateAll ids store now = .ok alerts →
        (∀ alert ∈ alerts, ∃ (subject : Subject) (cited : List SecurityEvent),
          alert.ruleName = subject.info.name ∧
          alert.relatedEvents = cited.map (·.eventId) ∧ cited ≠ [] ∧
          (∀ event ∈ cited, event ∈ store.events ∧ Windowed subject.window now event) ∧
          cited.Pairwise (fun first second => timeOf first ≤ timeOf second) ∧
          ((store.events.map (·.eventId)).Nodup → alert.relatedEvents.Nodup)) ∧
        ∀ held : AlertStore, (alerts.map (·.alertId)).Nodup →
          (∀ alert ∈ alerts, alert.alertId ∉ held.alerts.keys) →
            ∃ after, persistAlerts alerts store held = (.ok alerts.length, after) ∧
              after.alerts.keys = held.alerts.keys ++ alerts.map (·.alertId) ∧
              ∀ alert ∈ alerts, after.alerts.get? alert.alertId = some alert) ∧
    ∀ (alerts : List Alert) (store : EventStore) (held : AlertStore),
      (∃ alert ∈ alerts, ∃ eventId ∈ alert.relatedEvents,
        ∀ event ∈ store.events, event.eventId ≠ eventId) →
          ∃ raised, persistAlerts alerts store held = (.error raised, held) := by
  constructor
  · intro ids store now alerts hevaluate
    constructor
    · intro alert halert
      obtain ⟨subject, named, cites, nonempty⟩ := cites_of_mem hevaluate halert
      refine ⟨subject, _, named, cites, nonempty, ?_, Subject.pairwise_evidence _ _ _, ?_⟩
      · intro event hevent
        obtain ⟨stored, windowed, -⟩ := Subject.mem_evidence.mp hevent
        exact ⟨stored, windowed⟩
      · intro distinct
        rw [cites]
        exact Subject.nodup_cited distinct
    · intro held distinct fresh
      have keys := AlertStore.keys_extend_fresh distinct fresh
      refine ⟨(held.extend alerts).1, ?_, keys, ?_⟩
      · rw [persistAlerts_of_evaluated held hevaluate, AlertStore.snd_extend_fresh distinct fresh]
      · exact fun alert halert => AlertStore.get?_extend_of_mem distinct halert
  · rintro alerts store held ⟨alert, halert, eventId, hcited, missing⟩
    exact persistAlerts_of_dangling held halert hcited missing

end SentinelIR.Rules
