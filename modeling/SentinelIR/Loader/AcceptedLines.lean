/-
# What the collector accepts

The reader takes any text for a timestamp, and everything behind the store parses it.
A stream of accepted lines can be ordered, queried, evaluated and loaded exactly when
the store it becomes is loadable.
-/

import SentinelIR.Loader.EntryPoints

namespace SentinelIR.Loader

open SentinelIR.Py SentinelIR.Common SentinelIR.Alerts SentinelIR.Collector SentinelIR.Rules
open LoadEvents

section Accepted

variable [UnicodeDb]

/-- Nothing that is done with the store raises: no query, no evaluation at a
present-day moment and no load. -/
structure Usable (ids : AlertIds) (digest : Digest) (store : EventStore) : Prop where
  ordered : ∃ events, store.allEvents = .ok events
  byUser : ∀ userId since, ∃ events, store.eventsForUser userId since = .ok events
  byIp : ∀ ip since, ∃ events, store.eventsForIp ip since = .ok events
  byService : ∀ name since, ∃ events, store.eventsForService name since = .ok events
  correlated : ∀ correlationId, ∃ events, store.byCorrelation correlationId = .ok events
  newest : ∃ newest, latestEventTime store = .ok newest
  evaluated : ∀ now : Clock, ∃ alerts, evaluateAll ids store now.time = .ok alerts
  loaded : ∀ clock : Clock, ∃ sources, collectWrites ids digest clock.time store = .ok sources

omit [UnicodeDb] in
theorem exists_latestEventTime {store : EventStore} (readable : Readable store.events) :
    ∃ newest, latestEventTime store = .ok newest := by
  rw [latestEventTime, bind_of_eq_ok (allEvents_of_readable readable)]
  cases hlast : (chronological store.events).getLast? with
  | none => exact ⟨none, rfl⟩
  | some last =>
      obtain ⟨t, ht, -⟩ := parseTimestamp_of_readable readable
        (mem_chronological.mp (List.mem_of_getLast? hlast))
      dsimp only
      rw [bind_of_eq_ok ht]
      exact ⟨some t, rfl⟩

/-- A store is usable exactly when it is loadable at its newest event. -/
theorem usable_iff {ids : AlertIds} {digest : Digest} {store : EventStore} :
    Usable ids digest store ↔
      ∀ clock : Clock, LoadableUnder digest (latest clock.time store.events) store.events := by
  constructor
  · exact fun usable clock => exists_collectWrites_iff_loadableUnder.mp (usable.loaded clock)
  · intro loadable
    have readable : Readable store.events := (loadable (second 1)).readable
    have query (predicate : SecurityEvent → Bool) (since : Option Micros) :
        ∃ events, store.query predicate since = .ok events :=
      ⟨_, query_of_readable readable predicate since⟩
    exact
      { ordered := ⟨_, allEvents_of_readable readable⟩
        byUser := fun _ since => query _ since
        byIp := fun _ since => query _ since
        byService := fun _ since => query _ since
        correlated := fun _ => query _ none
        newest := exists_latestEventTime readable
        evaluated := fun now => evaluated_of_fits ids (windowFits_clock now) readable
        loaded := fun clock => exists_collectWrites_iff_loadableUnder.mpr (loadable clock) }

variable [Pydantic]

/-- `build_store`. -/
def buildStore (lines : List Str) : Except Exc EventStore :=
  (streamEvents lines).map fun events => (EventStore.empty.extend events).1

/-- What the collector accepts can be ordered, queried, evaluated and loaded exactly
when its events form a loadable store. -/
theorem accepted_usable_iff (ids : AlertIds) (digest : Digest) (lines : List Str) :
    (∀ store, buildStore lines = .ok store → Usable ids digest store) ↔
      ∀ events, streamEvents lines = .ok events →
        ∀ clock : Clock, LoadableUnder digest (latest clock.time events) events := by
  rw [buildStore]
  cases streamEvents lines with
  | error raised => exact iff_of_true (by rintro store ⟨⟩) (by rintro events ⟨⟩)
  | ok events =>
      have stored : (EventStore.empty.extend events).1 = ⟨events⟩ := rfl
      simp only [Except.map, Except.ok.injEq, forall_eq', stored]
      exact usable_iff

end Accepted

/-! ## A timestamp that is none -/

/-- A failed login stamped with a word. -/
def undatedLogin : SecurityEvent := { failedLogin 1 with timestamp := "yesterday" }

/-- It is accepted, and no query returns. -/
theorem undated_unusable : letI := integersOnly; letI := printsAll
    ¬ ∀ (ids : AlertIds) (digest : Digest) (lines : List Str) (store : EventStore),
      buildStore lines = .ok store → Usable ids digest store := by
  let _ := integersOnly
  let _ := printsAll
  intro usable
  have clean : Collector.Clean undatedLogin := by decide +kernel
  have read : parseEventLine undatedLogin.line = .ok (some undatedLogin) :=
    parseEventLine_line (reread_of_clean clean)
  have built : buildStore [undatedLogin.line] = .ok ⟨[undatedLogin]⟩ := by
    rw [buildStore, streamEvents, mapE, read]
    rfl
  obtain ⟨events, ordered⟩ := (usable (fun _ => alertIdTag) burstDigest _ _ built).ordered
  have readable := (readable_of_allEvents ordered).1
  exact absurd readable (by decide +kernel)

end SentinelIR.Loader
