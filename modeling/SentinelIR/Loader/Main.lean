/-
# The graph loader

The loader builds the write list of each source from one event store, running
the detection rules first, with the newest event as the moment of evaluation.
-/

import SentinelIR.Loader.LoadEvents
import SentinelIR.Loader.LoadSecurityKnowledge
import SentinelIR.Loader.LoadTopology
import SentinelIR.Rules.Catalogue

namespace SentinelIR.Loader

open SentinelIR.Py SentinelIR.Common SentinelIR.Alerts SentinelIR.Collector SentinelIR.Rules

/-- `_latest_moment`: the newest event's time, or the clock for an empty store. -/
def latestMoment (clock : Datetime) (store : EventStore) : Except Exc Datetime := do
  match (← store.allEvents).getLast? with
  | some newest => parseTimestamp newest.timestamp
  | none => return clock

/-- `collect_writes`: the writes of each source, in apply order. -/
def collectWrites [UnicodeDb] (ids : AlertIds) (digest : LoadEvents.Digest) (clock : Datetime)
    (store : EventStore) : Except Exc (List (Str × List Write)) := do
  let now ← latestMoment clock store
  let raised ← evaluateAll ids store now
  let alerts ← LoadEvents.withStableIds digest raised
  let alertStore := (AlertStore.empty.extend alerts).1
  let events ← LoadEvents.events store alertStore
  return [(lit "topology", LoadTopology.topology), (lit "events", events),
    (lit "security-knowledge", LoadSecurityKnowledge.knowledge)]

section CollectWrites

variable [UnicodeDb] {ids : AlertIds} {digest : LoadEvents.Digest} {clock now : Datetime}
  {store : EventStore}

/-- A load that returns evaluated the rules once, at the latest moment, and keyed
what they raised. -/
theorem exists_of_collectWrites {sources : List (Str × List Write)}
    (hsources : collectWrites ids digest clock store = .ok sources) :
    ∃ now raised alerts events, latestMoment clock store = .ok now ∧
      evaluateAll ids store now = .ok raised ∧
      LoadEvents.withStableIds digest raised = .ok alerts ∧
      LoadEvents.events store (AlertStore.empty.extend alerts).1 = .ok events ∧
      sources = [(lit "topology", LoadTopology.topology), (lit "events", events),
        (lit "security-knowledge", LoadSecurityKnowledge.knowledge)] := by
  unfold collectWrites at hsources
  obtain ⟨now, hnow, hsources⟩ := bind_eq_ok hsources
  obtain ⟨raised, hraised, hsources⟩ := bind_eq_ok hsources
  obtain ⟨alerts, halerts, hsources⟩ := bind_eq_ok hsources
  obtain ⟨events, hevents, hsources⟩ := bind_eq_ok hsources
  exact ⟨now, raised, alerts, events, hnow, hraised, halerts, hevents,
    (Except.ok.inj hsources).symm⟩

theorem collectWrites_eq_ok {raised alerts : List Alert} {events : List Write}
    (hnow : latestMoment clock store = .ok now) (hraised : evaluateAll ids store now = .ok raised)
    (halerts : LoadEvents.withStableIds digest raised = .ok alerts)
    (hevents : LoadEvents.events store (AlertStore.empty.extend alerts).1 = .ok events) :
    collectWrites ids digest clock store =
      .ok [(lit "topology", LoadTopology.topology), (lit "events", events),
        (lit "security-knowledge", LoadSecurityKnowledge.knowledge)] := by
  unfold collectWrites
  apply (bind_of_eq_ok hnow _).trans
  apply (bind_of_eq_ok hraised _).trans
  apply (bind_of_eq_ok halerts _).trans
  apply (bind_of_eq_ok hevents _).trans
  rfl

end CollectWrites

/-- Every source's writes, applied in order to an empty graph. -/
def load (sources : List (Str × List Write)) : KnowledgeGraph :=
  sources.foldl (fun g source => apply g source.2) Graph.PropertyGraph.empty

end SentinelIR.Loader
