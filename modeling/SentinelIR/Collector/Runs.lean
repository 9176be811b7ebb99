/-
# Runs of the event store

Events are added one by one or in streams, and queries are asked in between. A query
is a predicate with an optional cut-off. Its answer depends only on the events added
before it: those that satisfy the predicate and are not before the cut-off, as often as
they were added, by time, and by arrival within one instant.
-/

import SentinelIR.Collector.Store

namespace SentinelIR.Collector

open SentinelIR.Py SentinelIR.Common

/-! ## Calls -/

/-- A query of the store. -/
inductive Query
  | allEvents
  | eventsForUser (userId : Str) (since : Option Micros)
  | eventsForIp (ip : Str) (since : Option Micros)
  | eventsForService (name : Str) (since : Option Micros)
  | byCorrelation (correlationId : Str)

namespace Query

/-- The answer of the store. -/
def ask (store : EventStore) : Query → Except Exc (List SecurityEvent)
  | allEvents => store.allEvents
  | eventsForUser userId since => store.eventsForUser userId since
  | eventsForIp ip since => store.eventsForIp ip since
  | eventsForService name since => store.eventsForService name since
  | byCorrelation correlationId => store.byCorrelation correlationId

/-- What the query is about. -/
def Concerns (event : SecurityEvent) : Query → Prop
  | allEvents => True
  | eventsForUser userId _ => event.userId = some userId
  | eventsForIp ip _ => event.sourceIp = some ip
  | eventsForService name _ => event.serviceName.value = name
  | byCorrelation correlationId => event.correlationId = correlationId

instance (event : SecurityEvent) : (query : Query) → Decidable (query.Concerns event)
  | allEvents => inferInstanceAs (Decidable True)
  | eventsForUser userId _ => inferInstanceAs (Decidable (event.userId = some userId))
  | eventsForIp ip _ => inferInstanceAs (Decidable (event.sourceIp = some ip))
  | eventsForService name _ => inferInstanceAs (Decidable (event.serviceName.value = name))
  | byCorrelation correlationId =>
      inferInstanceAs (Decidable (event.correlationId = correlationId))

/-- The moment from which on events are wanted. -/
def since : Query → Option Micros
  | allEvents => none
  | eventsForUser _ since => since
  | eventsForIp _ since => since
  | eventsForService _ since => since
  | byCorrelation _ => none

/-- The event is about the query's subject and not before its cut-off. -/
def Admits (query : Query) (event : SecurityEvent) : Prop :=
  query.Concerns event ∧ ∀ cut ∈ query.since, cut ≤ timeOf event

instance (query : Query) (event : SecurityEvent) : Decidable (query.Admits event) :=
  inferInstanceAs (Decidable (_ ∧ ∀ cut ∈ query.since, _))

end Query

/-- A call on the store. -/
inductive Call
  | append (event : SecurityEvent)
  | extend (events : List SecurityEvent)
  | query (query : Query)

/-- The events a call adds. -/
def Call.added : Call → List SecurityEvent
  | append event => [event]
  | extend events => events
  | query _ => []

namespace EventStore

/-- The store a call leaves. -/
def perform (store : EventStore) : Call → EventStore
  | .append event => store.append event
  | .extend events => (store.extend events).1
  | .query _ => store

/-- The answers to the queries of a run, in order. -/
def answers (store : EventStore) : List Call → List (Except Exc (List SecurityEvent))
  | [] => []
  | .query query :: calls => query.ask store :: answers store calls
  | call :: calls => answers (store.perform call) calls

end EventStore

/-- The queries of a run, each with the events added before it. -/
def asked (events : List SecurityEvent) : List Call → List (Query × List SecurityEvent)
  | [] => []
  | .query query :: calls => (query, events) :: asked events calls
  | call :: calls => asked (events ++ call.added) calls

/-! ## What a query returns -/

/-- The admitted events, as often as they were added, oldest first, and in the order
they were added within one instant. -/
structure Query.Returns (query : Query) (events found : List SecurityEvent) : Prop where
  oldestFirst : found.Pairwise fun first second => timeOf first ≤ timeOf second
  perm : found.Perm (events.filter query.Admits)
  stable : ∀ moment, (found.filter fun event => timeOf event = moment) =
    (events.filter query.Admits).filter fun event => timeOf event = moment

namespace Query

/-- The order within one instant is the order of arrival, which the sort keeps. -/
theorem returns_chronological (query : Query) (events : List SecurityEvent) :
    query.Returns events (chronological (events.filter query.Admits)) where
  oldestFirst := pairwise_sortedBy timeOf _
  perm := perm_sortedBy timeOf _
  stable moment := by
    rw [chronological, filter_sortedBy]
    apply List.Pairwise.insertionSort_eq
    apply List.pairwise_of_forall_mem_list
    intro first hfirst second hsecond
    rw [of_decide_eq_true (List.mem_filter.mp hfirst).2,
      of_decide_eq_true (List.mem_filter.mp hsecond).2]

/-- Filtering by the subject and then by the cut-off admits what the query admits. -/
theorem filter_filter_admits (query : Query) (events : List SecurityEvent) :
    (events.filter fun event => decide (query.Concerns event)).filter (fun event =>
        query.since.all fun cut => decide (cut ≤ timeOf event)) =
      events.filter query.Admits := by
  rw [List.filter_filter]
  apply List.filter_congr
  intro event _
  rw [Bool.eq_iff_iff, Bool.and_eq_true, decide_eq_true_eq, decide_eq_true_eq, Admits,
    Option.all_eq_true, and_comm]
  simp only [decide_eq_true_eq, Option.mem_def]

theorem query_of_concerns {store : EventStore} (readable : Readable store.events) (query : Query)
    {predicate : SecurityEvent → Bool}
    (concerns : ∀ event, predicate event = true ↔ query.Concerns event) :
    store.query predicate query.since =
      .ok (chronological (store.events.filter query.Admits)) := by
  have same : store.events.filter predicate =
      store.events.filter fun event => decide (query.Concerns event) := by
    apply List.filter_congr
    intro event _
    rw [Bool.eq_iff_iff, concerns, decide_eq_true_eq]
  rw [query_of_readable readable, same, filter_filter_admits]

/-- Over readable events every query returns. -/
theorem ask_of_readable {store : EventStore} (readable : Readable store.events) (query : Query) :
    query.ask store = .ok (chronological (store.events.filter query.Admits)) := by
  cases query with
  | allEvents =>
      have all : store.events.filter allEvents.Admits = store.events := by
        apply List.filter_eq_self.mpr
        intro event _
        exact decide_eq_true ⟨trivial, fun _ cut => absurd cut (Option.not_mem_none _)⟩
      rw [ask, allEvents_of_readable readable, all]
  | eventsForUser userId since =>
      exact query_of_concerns readable (.eventsForUser userId since) fun event => beq_iff_eq
  | eventsForIp ip since =>
      exact query_of_concerns readable (.eventsForIp ip since) fun event => beq_iff_eq
  | eventsForService name since =>
      exact query_of_concerns readable (.eventsForService name since) fun event => beq_iff_eq
  | byCorrelation correlationId =>
      exact query_of_concerns readable (.byCorrelation correlationId) fun event => beq_iff_eq

end Query

/-! ## Runs -/

theorem events_perform (store : EventStore) (call : Call) :
    (store.perform call).events = store.events ++ call.added := by
  cases call with
  | append event => rfl
  | extend events => rfl
  | query query => exact (List.append_nil _).symm

theorem answers_append (store : EventStore) (before later : List Call) :
    store.answers (before ++ later) =
      store.answers before ++ (before.foldl EventStore.perform store).answers later := by
  induction before generalizing store with
  | nil => rfl
  | cons call before ih =>
      cases call with
      | query query => exact congrArg _ (ih store)
      | append event => exact ih (store.append event)
      | extend events => exact ih (store.extend events).1

/-- Every query of a run returns what it admits of the events added before it. -/
theorem returns_answers {store : EventStore} {calls : List Call}
    (readable : Readable (store.events ++ calls.flatMap Call.added)) :
    List.Forall₂ (fun (asked : Query × List SecurityEvent) answer =>
        ∃ found, answer = .ok found ∧ asked.1.Returns asked.2 found)
      (asked store.events calls) (store.answers calls) := by
  induction calls generalizing store with
  | nil => exact .nil
  | cons call calls ih =>
      rw [List.flatMap_cons, ← List.append_assoc, ← events_perform] at readable
      have rest := ih readable
      cases call with
      | query query =>
          have held : Readable store.events :=
            readable.subset (List.subset_append_left store.events _)
          exact .cons ⟨_, query.ask_of_readable held, query.returns_chronological _⟩ rest
      | append event => exact rest
      | extend events => exact rest

/-- Every query returns the admitted events, in order, and leaves the answers of the
queries after it as they were without it. -/
theorem answers_of_readable (calls : List Call) (readable : Readable (calls.flatMap Call.added)) :
    List.Forall₂ (fun (asked : Query × List SecurityEvent) answer =>
        ∃ found, answer = .ok found ∧ asked.1.Returns asked.2 found)
      (asked [] calls) (EventStore.empty.answers calls) ∧
    ∀ before query later, calls = before ++ .query query :: later → ∃ answer others,
      EventStore.empty.answers calls = EventStore.empty.answers before ++ answer :: others ∧
        EventStore.empty.answers (before ++ later) = EventStore.empty.answers before ++ others := by
  refine ⟨returns_answers readable, ?_⟩
  rintro before query later rfl
  exact ⟨_, _, answers_append _ before (.query query :: later), answers_append _ before later⟩

/-- A request of the console. -/
def visit : SecurityEvent :=
  EventBody.stamp
    ⟨{ serviceName := .incident
       eventType := .requestReceived
       severity := .low
       userId := some "operator"
       endpoint := "/api/v1/incidents"
       httpMethod := "GET"
       statusCode := 100
       message := "Request received for /api/v1/incidents"
       correlationId := "corr-000000000001" }, by decide +kernel⟩
    ⟨1, ⟨⟨2026, 9, 4, 6, 0, 0, 0, by decide⟩, by decide⟩⟩

/-- The same event added twice, with queries before and between. -/
def visits : List Call :=
  [.query .allEvents, .append visit, .query (.eventsForUser "operator" none), .extend [visit]]

theorem answers_of_visits :
    List.Forall₂ (fun (asked : Query × List SecurityEvent) answer =>
        ∃ found, answer = .ok found ∧ asked.1.Returns asked.2 found)
      (asked [] visits) (EventStore.empty.answers visits) :=
  (answers_of_readable visits (by decide +kernel)).1

end SentinelIR.Collector
