/-
# What every detection rule shares

A rule is its documented attributes and a function of the event store and a
clock. Here stand the attributes, the alert every rule builds from them, the
detection window, and the one lemma all rules need about it: with readable
timestamps and a window that stays inside the calendar, the windowed events are
those between the two bounds, in chronological order.
-/

import SentinelIR.Alerts.Models
import SentinelIR.Collector.Store
import SentinelIR.Py.Dict

namespace SentinelIR.Rules

open SentinelIR.Py SentinelIR.Common SentinelIR.Alerts SentinelIR.Collector

/-- The documented attributes of a rule. -/
structure RuleInfo where
  name : Str
  purpose : Str
  inputEventTypes : List EventType
  severity : Severity
  recommendedAction : Str

/-- What a rule passes to `build_alert`. -/
structure Finding where
  description : Str
  relatedEvents : List SecurityEvent
  severity : Option Severity := none
  affectedService : Option Str := none
  affectedUser : Option Str := none
  affectedEntity : Option Str := none

/-- `format_timestamp`. -/
def formatTimestamp (moment : Datetime) : Str := strftime moment

/-- The fields `build_alert` hands to the alert schema. -/
def alertFields (info : RuleInfo) (now : Datetime) (finding : Finding) : AlertFields where
  timestamp := formatTimestamp now
  ruleName := info.name
  severity := finding.severity.getD info.severity
  description := finding.description
  relatedEvents := finding.relatedEvents.map (·.eventId)
  affectedService := finding.affectedService
  affectedUser := finding.affectedUser
  affectedEntity := finding.affectedEntity
  recommendedAction := info.recommendedAction

/-- `build_alert`. -/
def buildAlert (info : RuleInfo) (now : Datetime) (finding : Finding) : Except Exc AlertBody :=
  (alertFields info now finding).validate

/-- A detection rule. -/
structure DetectionRule extends RuleInfo where
  evaluate : EventStore → Datetime → Except Exc (List AlertBody)

/-- `window_start`. -/
def windowStart (now : Datetime) (window : Micros) : Except Exc Micros :=
  match now.minus window with
  | some since => .ok since
  | none => .error .overflowError

/-- `since <= parse_timestamp(event.timestamp) <= now`. -/
def inWindow (since : Micros) (now : Datetime) (event : SecurityEvent) : Except Exc Bool :=
  (parseTimestamp event.timestamp).map fun t => decide (since ≤ t.instant ∧ t.instant ≤ now.instant)

/-- The scan every rule starts with: the window's start, the events of the store
oldest first, those of the wanted kind, and of these the ones in the window. -/
def recentEvents (wanted : SecurityEvent → Bool) (window : Micros) (store : EventStore)
    (now : Datetime) : Except Exc (List SecurityEvent) := do
  let since ← windowStart now window
  let events ← store.allEvents
  filterE (inWindow since now) (events.filter wanted)

/-- `sorted({f(e) for e in events if f(e)})`: the distinct non-empty texts. -/
def distinctTexts (f : SecurityEvent → Option Str) (events : List SecurityEvent) : List Str :=
  sortedBy id ((events.filterMap f).filter fun text => text ≠ []).dedup

/-- A window in whole minutes, as descriptions write it. -/
def windowMinutes (window : Micros) : Nat := (window / 60000000).toNat

/-- The plural ending of an f-string. -/
def plural (count : Nat) (ending : Str) : Str := if count = 1 then [] else ending

/-! ## The window -/

/-- The event happened in the inclusive window ending at `now`. -/
def Windowed (window : Micros) (now : Datetime) (event : SecurityEvent) : Prop :=
  now.instant - window ≤ timeOf event ∧ timeOf event ≤ now.instant

instance (window : Micros) (now : Datetime) (event : SecurityEvent) :
    Decidable (Windowed window now event) := inferInstanceAs (Decidable (_ ∧ _))

/-- The events of a window that a rule looks at, oldest first. -/
def evidence (wanted : SecurityEvent → Bool) (window : Micros) (now : Datetime)
    (events : List SecurityEvent) : List SecurityEvent :=
  (chronological events).filter fun event => decide (Windowed window now event) && wanted event

@[simp]
theorem mem_evidence {wanted : SecurityEvent → Bool} {window : Micros} {now : Datetime}
    {events : List SecurityEvent} {event : SecurityEvent} :
    event ∈ evidence wanted window now events ↔
      event ∈ events ∧ Windowed window now event ∧ wanted event = true := by
  simp [evidence]

/-- The window stays inside the calendar. -/
def WindowFits (window : Micros) (now : Datetime) : Prop := window ≤ now.instant

instance (window : Micros) (now : Datetime) : Decidable (WindowFits window now) :=
  inferInstanceAs (Decidable (_ ≤ _))

theorem windowStart_eq (now : Datetime) (window : Micros) :
    windowStart now window =
      if WindowFits window now then .ok (now.instant - window) else .error .overflowError := by
  by_cases fits : window ≤ now.instant <;>
    simp [windowStart, Datetime.minus, WindowFits, fits]

/-- Cutting a list of readable events to the window never raises. -/
theorem filterE_inWindow {events : List SecurityEvent} (readable : Readable events)
    (window : Micros) (now : Datetime) :
    filterE (inWindow (now.instant - window) now) events =
      .ok (events.filter fun event => decide (Windowed window now event)) := by
  apply filterE_eq_ok
  intro event hevent
  obtain ⟨t, ht, htime⟩ := parseTimestamp_of_readable readable hevent
  simp [inWindow, ht, Except.map, Windowed, htime]

/-- The scan raises on a window outside the calendar and on an unreadable
timestamp, and otherwise returns the evidence. -/
theorem recentEvents_eq (wanted : SecurityEvent → Bool) (window : Micros) (store : EventStore)
    (now : Datetime) :
    recentEvents wanted window store now =
      if WindowFits window now then
        if Readable store.events then .ok (evidence wanted window now store.events)
        else .error .valueError
      else .error .overflowError := by
  by_cases fits : WindowFits window now
  · by_cases readable : Readable store.events
    · have kept : Readable ((chronological store.events).filter wanted) :=
        readable.subset fun event hevent =>
          mem_chronological.mp (List.mem_of_mem_filter hevent)
      simp only [recentEvents, windowStart_eq, fits, readable, allEvents_of_readable readable,
        if_true, bind, Except.bind, filterE_inWindow kept, List.filter_filter, evidence]
    · simp [recentEvents, windowStart_eq, fits, readable, EventStore.allEvents, sorted_eq, bind,
        Except.bind]
  · simp [recentEvents, windowStart_eq, fits, bind, Except.bind]

/-- Inside the calendar, over readable events, the scan returns the evidence. -/
theorem recentEvents_of_readable {wanted : SecurityEvent → Bool} {window : Micros}
    {store : EventStore} {now : Datetime} (fits : WindowFits window now)
    (readable : Readable store.events) :
    recentEvents wanted window store now = .ok (evidence wanted window now store.events) := by
  rw [recentEvents_eq, if_pos fits, if_pos readable]

theorem recentEvents_eq_ok {wanted : SecurityEvent → Bool} {window : Micros} {store : EventStore}
    {now : Datetime} {events : List SecurityEvent}
    (hrecent : recentEvents wanted window store now = .ok events) :
    WindowFits window now ∧ Readable store.events ∧
      events = evidence wanted window now store.events := by
  rw [recentEvents_eq] at hrecent
  split at hrecent
  case isTrue fits =>
      split at hrecent
      case isTrue readable => exact ⟨fits, readable, (Except.ok.inj hrecent).symm⟩
      case isFalse => cases hrecent
  case isFalse => cases hrecent

/-- A window that starts before the first moment there is ends the scan. -/
theorem recentEvents_of_misfit {wanted : SecurityEvent → Bool} {window : Micros}
    {store : EventStore} {now : Datetime} (misfits : ¬ WindowFits window now) :
    recentEvents wanted window store now = .error .overflowError := by
  rw [recentEvents_eq, if_neg misfits]

/-- A rule that starts with the scan returns only when its window fits. -/
theorem windowFits_of_returned {α : Type} {wanted : SecurityEvent → Bool} {window : Micros}
    {store : EventStore} {now : Datetime} {rule : List SecurityEvent → Except Exc α} {result : α}
    (returned : recentEvents wanted window store now >>= rule = .ok result) :
    WindowFits window now := by
  obtain ⟨events, recent, -⟩ := bind_eq_ok returned
  exact (recentEvents_eq_ok recent).1

/-! ## The alert every rule builds -/

theorem not_blank_strftime (t : Datetime) : ¬ Blank (strftime t) :=
  not_blank_append_right (by decide)

/-- A finding with a description and at least one event makes a valid alert. -/
theorem alertFields_valid {info : RuleInfo} {now : Datetime} {finding : Finding}
    (hname : ¬ Blank info.name) (haction : ¬ Blank info.recommendedAction)
    (hdescription : ¬ Blank finding.description) (hevidence : finding.relatedEvents ≠ []) :
    (alertFields info now finding).Valid where
  evidence := by simpa [alertFields] using hevidence
  ruleName := hname
  description := hdescription
  recommendedAction := haction
  timestamp := not_blank_strftime now

/-- A rule that builds one valid alert per item raises nothing and returns them
in order. -/
theorem mapE_buildAlert {ι : Type} (info : RuleInfo) (now : Datetime) (finding : ι → Finding)
    (items : List ι) (valid : ∀ item ∈ items, (alertFields info now (finding item)).Valid) :
    ∃ bodies, mapE (fun item => buildAlert info now (finding item)) items = .ok bodies ∧
      bodies.map (·.toAlertFields) = items.map fun item => alertFields info now (finding item) := by
  induction items with
  | nil => exact ⟨[], rfl, rfl⟩
  | cons item items ih =>
      obtain ⟨bodies, hbodies, hfields⟩ := ih fun other hother =>
        valid other (List.mem_cons_of_mem item hother)
      have hvalid := valid item List.mem_cons_self
      have hfirst : buildAlert info now (finding item) = .ok ⟨_, hvalid⟩ := dif_pos hvalid
      exact ⟨⟨_, hvalid⟩ :: bodies, by simp only [mapE, hfirst, hbodies], by simp [hfields]⟩

end SentinelIR.Rules
