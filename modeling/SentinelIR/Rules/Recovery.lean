/-
# When Rule 4 reports a recovery

The rule keeps the names of the services whose breaker closed somewhere in the window
and says of each of them that the dependency has recovered. The order of the events is
not looked at, so a breaker that closed and opened again is reported as recovered, too.
-/

import SentinelIR.Rules.Counting

namespace SentinelIR.Rules.ServiceFailure

open SentinelIR.Py SentinelIR.Common SentinelIR.Alerts SentinelIR.Collector

/-- The sentence about a recovery. -/
def recoveryNote : Str := " The breaker has since closed, so the dependency has recovered."

/-- The alert ends with the sentence. -/
def NotesRecovery (alert : AlertFields) : Prop := recoveryNote <:+ alert.description

/-- The event is of the type and the service. -/
def IsOf (eventType : EventType) (service : Str) (event : SecurityEvent) : Prop :=
  event.eventType = eventType ∧ event.serviceName.value = service

instance (eventType : EventType) (service : Str) (event : SecurityEvent) :
    Decidable (IsOf eventType service event) := inferInstanceAs (Decidable (_ ∧ _))

/-- The events of the window, by time and then by arrival. -/
def windowed (now : Datetime) (events : List SecurityEvent) : List SecurityEvent :=
  evidence (fun _ => true) detectionWindow now events

/-- The service's breaker closed after it last opened. -/
def ClosedSince (service : Str) (events : List SecurityEvent) : Prop :=
  ∃ before opening after, events = before ++ opening :: after ∧
    IsOf .circuitOpened service opening ∧
    (∀ event ∈ after, ¬ IsOf .circuitOpened service event) ∧
    ∃ event ∈ after, IsOf .circuitClosed service event

/-- Every alert reports a recovery exactly when the breaker of its service closed after
it last opened within the window. -/
def ReportsRecoveries (store : EventStore) (now : Datetime) : Prop :=
  ∀ alerts, evaluate store now = .ok alerts → ∀ alert ∈ alerts, ∀ service,
    alert.affectedService = some service →
      (NotesRecovery alert.toAlertFields ↔ ClosedSince service (windowed now store.events))

/-- A service that is due and whose breaker closed in the window closed it after it last
opened there. -/
def ClosingsLast (now : Datetime) (events : List SecurityEvent) : Prop :=
  ∀ service, Due now events service →
    (∃ event ∈ windowed now events, IsOf .circuitClosed service event) →
      ClosedSince service (windowed now events)

theorem ClosedSince.exists_closing {service : Str} {events : List SecurityEvent}
    (closed : ClosedSince service events) :
    ∃ event ∈ events, IsOf .circuitClosed service event := by
  obtain ⟨before, opening, after, rfl, -, -, event, hevent, closes⟩ := closed
  exact ⟨event, List.mem_append_right _ (List.mem_cons_of_mem opening hevent), closes⟩

theorem contains_recovered {service : Str} {events : List SecurityEvent} :
    (recovered events).contains service = true ↔
      ∃ event ∈ events, IsOf .circuitClosed service event := by
  simp [recovered, IsOf, and_assoc]

/-- The sentence is the last one of an alert exactly when the rule was told to add it. -/
theorem notesRecovery_finding (service : Str) (events : List SecurityEvent) (noted : Bool)
    (now : Datetime) :
    NotesRecovery (alertFields info now (finding service events noted)) ↔ noted = true := by
  cases noted with
  | true => exact iff_of_true (List.suffix_append _ _) rfl
  | false =>
      refine iff_of_false (fun noted => ?_) Bool.false_ne_true
      have ending : lit " minutes." <:+ (alertFields info now (finding service events
          false)).description := by
        simp only [alertFields, finding, Bool.false_eq_true, if_false, List.append_nil]
        exact List.suffix_append _ _
      have inside : lit " minutes." <:+ recoveryNote :=
        List.suffix_of_suffix_length_le ending noted (by decide)
      exact absurd inside (by decide)

/-- Over events with readable timestamps the recoveries are reported as they are to be
exactly when the window starts before the first moment, or every closing of a service
that is due comes last. -/
theorem reportsRecoveries_iff (store : EventStore) (now : Datetime)
    (readable : Readable store.events) :
    ReportsRecoveries store now ↔
      (WindowFits detectionWindow now → ClosingsLast now store.events) := by
  constructor
  · intro reports fits service due closing
    obtain ⟨bodies, returned, fields⟩ := evaluate_eq store fits readable
    obtain ⟨item, hitem, rfl⟩ := List.mem_map.mp (mem_keys_failing.mpr due)
    obtain ⟨body, hbody, same⟩ := List.mem_map.mp
      ((congrArg (_ ∈ ·) fields).mpr (List.mem_map_of_mem hitem))
    have named : body.affectedService = some item.1 := congrArg (·.affectedService) same
    apply (reports bodies returned body hbody item.1 named).mp
    rw [same, notesRecovery_finding]
    exact contains_recovered.mpr closing
  · intro last alerts returned alert halert service named
    have fits : WindowFits detectionWindow now := windowFits_of_returned returned
    obtain ⟨bodies, same, fields⟩ := evaluate_eq store fits readable
    obtain rfl := Except.ok.inj (returned.symm.trans same)
    obtain ⟨item, hitem, report⟩ := List.mem_map.mp
      ((congrArg (_ ∈ ·) fields).mp (List.mem_map_of_mem halert))
    obtain rfl : item.1 = service := by
      have service' := congrArg (·.affectedService) report
      exact Option.some.inj (service'.trans named)
    rw [← report, notesRecovery_finding, contains_recovered]
    constructor
    · exact last fits item.1 (mem_keys_failing.mp (List.mem_map_of_mem hitem))
    · exact ClosedSince.exists_closing

/-- A breaker that closed and opened again a second later. -/
def reopened : EventStore :=
  ⟨[occurrence 1 .incident .circuitClosed 200 none none,
    occurrence 2 .incident .circuitOpened 503 none none unavailable_known]⟩

theorem reportsRecoveries_reopened : ReportsRecoveries reopened (daybreak 3).time ↔
    (WindowFits detectionWindow (daybreak 3).time →
      ClosingsLast (daybreak 3).time reopened.events) :=
  reportsRecoveries_iff reopened (daybreak 3).time (by decide +kernel)

theorem reopened_noted : ∃ alerts, evaluate reopened (daybreak 3).time = .ok alerts ∧
    ∃ alert ∈ alerts, alert.affectedService = some (lit "incident-service") ∧
      recoveryNote <:+ alert.description := by
  have fits : WindowFits detectionWindow (daybreak 3).time := by decide +kernel
  obtain ⟨alerts, returned, fields⟩ := evaluate_eq reopened fits (by decide +kernel)
  have only : failing (evidence (fun _ => true) detectionWindow (daybreak 3).time
      reopened.events) =
        [(lit "incident-service", [occurrence 2 .incident .circuitOpened 503 none none])] := by
    decide +kernel
  have closed : (recovered (evidence (fun _ => true) detectionWindow (daybreak 3).time
      reopened.events)).contains (lit "incident-service") = true := by
    decide +kernel
  rw [only, List.map_singleton, closed] at fields
  obtain ⟨alert, rfl, report⟩ := List.map_eq_singleton_iff.mp fields
  refine ⟨[alert], returned, alert, List.mem_singleton_self alert, ?_, ?_⟩
  · exact congrArg (·.affectedService) report
  · have noted := (notesRecovery_finding (lit "incident-service")
      [occurrence 2 .incident .circuitOpened 503 none none] true (daybreak 3).time).mpr rfl
    rwa [← report] at noted

theorem not_closedSince_reopened :
    ¬ ClosedSince (lit "incident-service") (windowed (daybreak 3).time reopened.events) := by
  have order : windowed (daybreak 3).time reopened.events = reopened.events := by
    decide +kernel
  rw [order]
  rintro ⟨before, opening, after, split, opens, -, event, hevent, -⟩
  rcases before with _ | ⟨first, _ | ⟨second, rest⟩⟩
  · obtain ⟨rfl, -⟩ := List.cons.inj split
    exact absurd opens (by decide)
  · obtain ⟨-, -, rfl⟩ : _ ∧ _ ∧ [] = after := by simpa [reopened] using split
    cases hevent
  · simp [reopened] at split

/-- The rule says of the open breaker that it has closed. -/
theorem reopening_unnoticed : ¬ ∀ (store : EventStore) (now : Datetime),
    Readable store.events → ReportsRecoveries store now := by
  intro always
  obtain ⟨alerts, returned, alert, halert, named, noted⟩ := reopened_noted
  exact not_closedSince_reopened
    ((always reopened (daybreak 3).time (by decide +kernel) alerts returned alert halert _
      named).mp noted)

end SentinelIR.Rules.ServiceFailure
