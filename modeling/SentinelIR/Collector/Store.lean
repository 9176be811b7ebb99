/-
# The event store

The append-and-query store the detection rules read. Every query filters the
held events and orders them by parsed timestamp; `parseTimestamp` can raise, so
every query can. `sorted_eq` is the one place that is worked out: with readable
timestamps a query returns a stable sort, with one unreadable timestamp it
raises `ValueError`.
-/

import SentinelIR.Common.Events
import SentinelIR.Py.Sorted

namespace SentinelIR.Collector

open SentinelIR.Py SentinelIR.Common

/-- `parse_timestamp`: the schema's format or `ValueError`. -/
def parseTimestamp (value : Str) : Except Exc Datetime :=
  match strptime value with
  | some t => .ok t
  | none => .error .valueError

/-- The instant an event happened at; zero when its timestamp cannot be read. -/
def timeOf (event : SecurityEvent) : Micros :=
  match strptime event.timestamp with
  | some t => t.instant
  | none => 0

/-- `parse_timestamp` accepts the timestamp of every event. -/
def Readable (events : List SecurityEvent) : Prop :=
  ∀ event ∈ events, (strptime event.timestamp).isSome = true

instance (events : List SecurityEvent) : Decidable (Readable events) :=
  inferInstanceAs (Decidable (∀ event ∈ events, _))

theorem Readable.subset {events others : List SecurityEvent} (readable : Readable events)
    (subset : others ⊆ events) : Readable others :=
  fun event hevent => readable event (subset hevent)

theorem parseTimestamp_of_readable {events : List SecurityEvent} (readable : Readable events)
    {event : SecurityEvent} (hevent : event ∈ events) :
    ∃ t, parseTimestamp event.timestamp = .ok t ∧ t.instant = timeOf event := by
  obtain ⟨t, ht⟩ := Option.isSome_iff_exists.mp (readable event hevent)
  exact ⟨t, by simp [parseTimestamp, ht], by simp [timeOf, ht]⟩

/-- The `EventStore`. -/
structure EventStore where
  events : List SecurityEvent
  deriving DecidableEq

namespace EventStore

/-- `EventStore()`. -/
def empty : EventStore := ⟨[]⟩

/-- `append`. -/
def append (store : EventStore) (event : SecurityEvent) : EventStore :=
  ⟨store.events ++ [event]⟩

/-- `extend`, with the number of events added. -/
def extend (store : EventStore) (events : List SecurityEvent) : EventStore × Nat :=
  (⟨store.events ++ events⟩, (store.events ++ events).length - store.events.length)

/-- `_sorted`: oldest first, every key computed before the sort. -/
def sorted (events : List SecurityEvent) : Except Exc (List SecurityEvent) :=
  match mapE (fun event => (parseTimestamp event.timestamp).map fun t => (t.instant, event))
      events with
  | .error raised => .error raised
  | .ok keyed => .ok ((sortedBy Prod.fst keyed).map Prod.snd)

/-- `all_events`. -/
def allEvents (store : EventStore) : Except Exc (List SecurityEvent) := sorted store.events

/-- `_query`: a predicate, an optional inclusive cut-off, then the sort. -/
def query (store : EventStore) (predicate : SecurityEvent → Bool) (since : Option Micros) :
    Except Exc (List SecurityEvent) :=
  let selected := store.events.filter predicate
  match since with
  | none => sorted selected
  | some cut =>
      match filterE (fun event => (parseTimestamp event.timestamp).map fun t =>
          decide (cut ≤ t.instant)) selected with
      | .error raised => .error raised
      | .ok recent => sorted recent

/-- `events_for_user`. -/
def eventsForUser (store : EventStore) (userId : Str) (since : Option Micros) :
    Except Exc (List SecurityEvent) :=
  store.query (fun event => event.userId == some userId) since

/-- `events_for_ip`. -/
def eventsForIp (store : EventStore) (ip : Str) (since : Option Micros) :
    Except Exc (List SecurityEvent) :=
  store.query (fun event => event.sourceIp == some ip) since

/-- `events_for_service`. -/
def eventsForService (store : EventStore) (name : Str) (since : Option Micros) :
    Except Exc (List SecurityEvent) :=
  store.query (fun event => event.serviceName.value == name) since

/-- `by_correlation`. -/
def byCorrelation (store : EventStore) (correlationId : Str) :
    Except Exc (List SecurityEvent) :=
  store.query (fun event => event.correlationId == correlationId) none

end EventStore

/-! ## What the queries return -/

/-- Events oldest first, in the order they were added within one instant. -/
def chronological (events : List SecurityEvent) : List SecurityEvent := sortedBy timeOf events

@[simp]
theorem mem_chronological {events : List SecurityEvent} {event : SecurityEvent} :
    event ∈ chronological events ↔ event ∈ events := mem_sortedBy

/-- The sort returns exactly when every timestamp can be read. -/
theorem sorted_eq (events : List SecurityEvent) :
    EventStore.sorted events =
      if Readable events then .ok (chronological events) else .error .valueError := by
  by_cases readable : Readable events
  · have keyed : mapE (fun event => (parseTimestamp event.timestamp).map fun t =>
        (t.instant, event)) events = .ok (events.map fun event => (timeOf event, event)) := by
      apply mapE_eq_ok
      intro event hevent
      obtain ⟨t, ht, htime⟩ := parseTimestamp_of_readable readable hevent
      simp [ht, htime, Except.map]
    rw [EventStore.sorted, keyed, if_pos readable]
    exact congrArg Except.ok (map_snd_sortedBy_keyed timeOf events)
  · have raises : mapE (fun event => (parseTimestamp event.timestamp).map fun t =>
        (t.instant, event)) events = .error Exc.valueError := by
      refine mapE_eq_error (fun event _ => ?_) ?_
      · cases hparse : strptime event.timestamp with
        | none => exact .inr (by simp [parseTimestamp, hparse, Except.map])
        | some t => exact .inl ⟨(t.instant, event), by simp [parseTimestamp, hparse, Except.map]⟩
      · simp only [Readable, not_forall] at readable
        obtain ⟨event, hevent, hbad⟩ := readable
        have hnone : strptime event.timestamp = none := by simpa using hbad
        exact ⟨event, hevent, by simp [parseTimestamp, hnone, Except.map]⟩
    rw [EventStore.sorted, raises, if_neg readable]

theorem allEvents_of_readable {store : EventStore} (readable : Readable store.events) :
    store.allEvents = .ok (chronological store.events) := by
  rw [EventStore.allEvents, sorted_eq, if_pos readable]

theorem readable_of_allEvents {store : EventStore} {events : List SecurityEvent}
    (hall : store.allEvents = .ok events) :
    Readable store.events ∧ events = chronological store.events := by
  rw [EventStore.allEvents, sorted_eq] at hall
  split at hall
  case isTrue readable => exact ⟨readable, (Except.ok.inj hall).symm⟩
  case isFalse => cases hall

/-- A query over readable events never raises. -/
theorem query_of_readable {store : EventStore} (readable : Readable store.events)
    (predicate : SecurityEvent → Bool) (since : Option Micros) :
    store.query predicate since =
      .ok (chronological ((store.events.filter predicate).filter fun event =>
        since.all fun cut => decide (cut ≤ timeOf event))) := by
  have selected : Readable (store.events.filter predicate) :=
    readable.subset (List.filter_subset_self _)
  cases since with
  | none => simp [EventStore.query, sorted_eq, selected]
  | some cut =>
      have recent : filterE (fun event => (parseTimestamp event.timestamp).map fun t =>
          decide (cut ≤ t.instant)) (store.events.filter predicate) =
            .ok ((store.events.filter predicate).filter fun event =>
              decide (cut ≤ timeOf event)) := by
        apply filterE_eq_ok
        intro event hevent
        obtain ⟨t, ht, htime⟩ := parseTimestamp_of_readable selected hevent
        simp [ht, htime, Except.map]
      have kept : Readable ((store.events.filter predicate).filter fun event =>
          decide (cut ≤ timeOf event)) := selected.subset (List.filter_subset_self _)
      simp only [EventStore.query, recent, sorted_eq, if_pos kept, Option.all_some]

end SentinelIR.Collector
