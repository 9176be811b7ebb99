/-
# The loader's alerts and the runner's

Both entry points evaluate the same catalogue on the same store, but at moments
they resolve differently: the loader always takes the newest event, the runner
only for a file. The graph then holds what the loader listed. The two agree exactly
when the loader returns, no two of its findings fall together, and no subject over
its threshold gains or loses evidence between the two moments; a loader that raises
agrees with a runner that finds nothing.
-/

import SentinelIR.Loader.ArrivalOrder

namespace SentinelIR.Loader

open SentinelIR.Py SentinelIR.Common SentinelIR.Alerts SentinelIR.Collector SentinelIR.Rules
open LoadEvents

/-- What an alert reports: its rule, its severity, the service, the user and the
entity it is about, and the events it cites. -/
def reported (alert : AlertFields) :
    Str × Severity × Option Str × Option Str × Option Str × List Str :=
  (alert.ruleName, alert.severity, alert.affectedService, alert.affectedUser,
    alert.affectedEntity, alert.relatedEvents)

/-- Both found the same: rules, severities, services, users, entities and cited events,
in whatever order. -/
def SameReports (first second : List Alert) : Prop :=
  (first.map fun alert => reported alert.toAlertFields).Perm
    (second.map fun alert => reported alert.toAlertFields)

/-- Every subject over its threshold at one of the moments has the same evidence
at both. -/
def SameEvidence (now moment : Datetime) (events : List SecurityEvent) : Prop :=
  ∀ subject : Subject, subject.Over now events ∨ subject.Over moment events →
    subject.evidence now events = subject.evidence moment events

/-- At the moment no rule can be evaluated, or none finds anything. -/
def Uneventful (moment : Datetime) (events : List SecurityEvent) : Prop :=
  Readable events → WindowFits UnauthorisedAccess.detectionWindow moment →
    ∀ subject : Subject, ¬ subject.Over moment events

theorem SameEvidence.symm {now moment : Datetime} {events : List SecurityEvent}
    (same : SameEvidence now moment events) : SameEvidence moment now events :=
  fun subject hover => (same subject hover.symm).symm

section Reported

variable [UnicodeDb] {now moment : Datetime} {events : List SecurityEvent}

theorem reported_congr {subject : Subject}
    (same : subject.evidence now events = subject.evidence moment events) :
    reported (subject.alert now events) = reported (subject.alert moment events) := by
  simp only [reported, Subject.alert_ruleName, Subject.alert_severity,
    Subject.alert_affectedService,
    Subject.alert_affectedUser, Subject.alert_affectedEntity, Subject.alert_relatedEvents,
    Subject.severity, Subject.affectedService, Subject.affectedUser, Subject.affectedEntity, same]

/-- Subjects with the same evidence at both moments are reported alike. -/
theorem perm_reported_of_same (same : SameEvidence now moment events) :
    ((overSubjects now events).map fun subject => reported (subject.alert now events)).Perm
      ((overSubjects moment events).map fun subject => reported (subject.alert moment events)) := by
  have alike (subject : Subject) : subject.Over now events ↔ subject.Over moment events := by
    constructor
    · intro hover
      rw [Subject.over_iff_reaches, ← same subject (.inl hover)]
      exact Subject.over_iff_reaches.mp hover
    · intro hover
      rw [Subject.over_iff_reaches, same subject (.inr hover)]
      exact Subject.over_iff_reaches.mp hover
  refine ((perm_overSubjects alike).map _).trans (List.Perm.of_eq ?_)
  refine List.map_congr_left fun subject hsubject => reported_congr (same subject (.inr ?_))
  exact mem_overSubjects.mp hsubject

/-- Whatever is over its threshold now is over it at the other moment about the same
events, possibly under another name. -/
def Twinned (now moment : Datetime) (events : List SecurityEvent) : Prop :=
  ∀ subject : Subject, subject.Over now events →
    ∃ twin : Subject, twin.Over moment events ∧ twin.window = subject.window ∧
      ∀ event, event ∈ subject.evidence now events ↔ event ∈ twin.evidence moment events

omit [UnicodeDb] in
/-- With distinct events, evidence is settled by the identifiers that are cited. -/
theorem mem_evidence_iff_of_cited (distinct : (events.map (·.eventId)).Nodup)
    {subject twin : Subject} (cited : ∀ eventId,
      eventId ∈ (subject.evidence now events).map (·.eventId) ↔
        eventId ∈ (twin.evidence moment events).map (·.eventId)) (event : SecurityEvent) :
    event ∈ subject.evidence now events ↔ event ∈ twin.evidence moment events := by
  have transfer {first second : List SecurityEvent}
      (ids : ∀ eventId, eventId ∈ first.map (·.eventId) → eventId ∈ second.map (·.eventId))
      (hfirst : first ⊆ events) (hsecond : second ⊆ events) : first ⊆ second := by
    intro event hevent
    obtain ⟨other, hother, sameId⟩ := List.mem_map.mp (ids _ (List.mem_map_of_mem hevent))
    rwa [← List.inj_on_of_nodup_map distinct (hsecond hother) (hfirst hevent) sameId]
  have subjects : subject.evidence now events ⊆ events :=
    fun event hevent => Subject.mem_events_of_mem_evidence hevent
  have twins : twin.evidence moment events ⊆ events :=
    fun event hevent => Subject.mem_events_of_mem_evidence hevent
  exact ⟨fun hevent => transfer (fun id => (cited id).mp) subjects twins hevent,
    fun hevent => transfer (fun id => (cited id).mpr) twins subjects hevent⟩

omit [UnicodeDb] in
/-- With distinct events, findings that have twins rest on the same evidence. -/
theorem evidence_eq_of_twinned (distinct : (events.map (·.eventId)).Nodup)
    (forth : Twinned now moment events) (back : Twinned moment now events) {subject : Subject}
    (hover : subject.Over now events) :
    subject.evidence now events = subject.evidence moment events := by
  obtain ⟨twin, -, sameWindow, shared⟩ := forth subject hover
  -- What the subject cites now is windowed at the other moment too.
  have included : subject.evidence now events ⊆ subject.evidence moment events := by
    intro event hevent
    obtain ⟨stored, -, counted⟩ := Subject.mem_evidence.mp hevent
    obtain ⟨-, windowed, -⟩ := Subject.mem_evidence.mp ((shared event).mp hevent)
    exact Subject.mem_evidence.mpr ⟨stored, sameWindow ▸ windowed, counted⟩
  have nodup : (subject.evidence now events).Nodup :=
    List.Nodup.of_map _ (Subject.nodup_cited distinct)
  have hover' : subject.Over moment events :=
    Subject.over_iff_reaches.mpr ((Subject.over_iff_reaches.mp hover).mono
      (List.subperm_of_subset nodup included))
  -- So it is over its threshold there as well, and nothing it cites there is new.
  obtain ⟨returned, -, sameWindow', shared'⟩ := back subject hover'
  apply Subject.evidence_congr
  intro event hevent counted
  constructor
  · intro windowed
    exact (Subject.mem_evidence.mp (included
      (Subject.mem_evidence.mpr ⟨hevent, windowed, counted⟩))).2.1
  · intro windowed
    have cited := (shared' event).mp (Subject.mem_evidence.mpr ⟨hevent, windowed, counted⟩)
    exact sameWindow' ▸ (Subject.mem_evidence.mp cited).2.1

omit [UnicodeDb] in
theorem sameEvidence_of_twinned (distinct : (events.map (·.eventId)).Nodup)
    (forth : Twinned now moment events) (back : Twinned moment now events) :
    SameEvidence now moment events := by
  rintro subject (hover | hover)
  · exact evidence_eq_of_twinned distinct forth back hover
  · exact (evidence_eq_of_twinned distinct back forth hover).symm

end Reported

/-! ## The two moments -/

section Resolve

variable {clock now : Datetime} {store : EventStore}

theorem latestEventTime_of_latestMoment (hnow : latestMoment clock store = .ok now) :
    (latestEventTime store).map (fun newest => newest.getD clock) = .ok now := by
  obtain ⟨events, hevents, hnow⟩ := bind_eq_ok hnow
  rw [latestEventTime, bind_of_eq_ok hevents]
  cases hlast : events.getLast? with
  | none =>
      rw [hlast] at hnow
      exact hnow
  | some event =>
      rw [hlast] at hnow
      have parsed : parseTimestamp event.timestamp = .ok now := hnow
      simp only [bind_of_eq_ok parsed, pure, Except.pure, Except.map, Option.getD_some]

theorem resolveNow_eq_clock {source : Source} (live : source ≠ .file) :
    resolveNow none source clock store = .ok clock := by
  cases source with
  | file => exact absurd rfl live
  | _ => rfl

/-- The moment the runner evaluates at: the newest event of a file, or else the clock. -/
def runnerMoment (source : Source) (clock : Datetime) (events : List SecurityEvent) : Datetime :=
  if source = .file then latest clock events else clock

theorem resolveNow_eq {source : Source} (readable : Readable store.events) :
    resolveNow none source clock store = .ok (runnerMoment source clock store.events) := by
  rw [runnerMoment]
  split
  · next file =>
      rw [file]
      exact latestEventTime_of_latestMoment (latestMoment_eq readable)
  · next live => exact resolveNow_eq_clock live

end Resolve

/-- The ten minutes before a present-day moment are in the calendar. -/
theorem windowFits_clock (clock : Clock) :
    WindowFits UnauthorisedAccess.detectionWindow clock.time := by
  have modern := clock.epoch
  have days : 1 ≤ daysBeforeYear clock.time.year := by
    rw [daysBeforeYear]
    omega
  have late : 600000000 ≤ ((((daysBeforeYear clock.time.year +
      daysBeforeMonth clock.time.year clock.time.month + (clock.time.day - 1)) * 24 +
        clock.time.hour) * 60 + clock.time.minute) * 60 + clock.time.second) * 1000000 +
          clock.time.microsecond := by
    omega
  exact Int.ofNat_le.mpr late

theorem windowFits_runnerMoment (source : Source) {clock : Clock} {events : List SecurityEvent}
    (fits : WindowFits UnauthorisedAccess.detectionWindow (latest clock.time events)) :
    WindowFits UnauthorisedAccess.detectionWindow (runnerMoment source clock.time events) := by
  rw [runnerMoment]
  split
  · exact fits
  · exact windowFits_clock clock

/-- What the loader finds at the newest event is what the runner finds at its moment: it
returns, no two of its findings fall together, and none depends on the time between the
two moments; or it raises, and the runner finds nothing. -/
def LoadedAlike (source : Source) (clock : Datetime) (events : List SecurityEvent) : Prop :=
  let newest := latest clock events
  let moment := runnerMoment source clock events
  Loadable newest events ∧ DistinctFootprints newest events ∧ SameEvidence newest moment events ∨
    ¬ Loadable newest events ∧ Uneventful moment events

/-- Of the subjects that share a footprint, one is held. -/
theorem exists_held {now : Datetime} {events : List SecurityEvent} {subject : Subject}
    (hover : subject.Over now events) :
    ∃ kept, Held now events kept ∧ footprint now events kept = footprint now events subject := by
  cases hfound : (overSubjects now events).reverse.find? (fun other =>
      footprint now events other = footprint now events subject) with
  | none =>
      have absent := List.find?_eq_none.mp hfound subject
        (List.mem_reverse.mpr (mem_overSubjects.mpr hover))
      simp at absent
  | some kept =>
      have found := List.find?_some hfound
      have same : footprint now events kept = footprint now events subject :=
        of_decide_eq_true found
      exact ⟨kept, by rw [Held, same, hfound], same⟩

/-! ## What each of them has found -/

section Found

variable [UnicodeDb]

/-- The alerts the runner raises, none where it raises an exception. -/
def runnerAlerts (ids : AlertIds) (source : Source) (clock : Datetime) (store : EventStore) :
    List Alert :=
  (raisedAlerts ids none source clock store).toOption.getD []

/-- The alerts a load puts in the graph: those its alert store lists once the events and
incidents are written. -/
def listedAlerts (ids : AlertIds) (digest : Digest) (clock : Datetime) (store : EventStore) :
    Except Exc (List Alert) := do
  let now ← latestMoment clock store
  let alerts ← stableAlerts ids digest store now
  let alertStore := (AlertStore.empty.extend alerts).1
  let _ ← LoadEvents.events store alertStore
  return alertStore.list none none none

/-- The alerts in the graph, none where `collect_writes` raises an exception. -/
def graphAlerts (ids : AlertIds) (digest : Digest) (clock : Datetime) (store : EventStore) :
    List Alert :=
  (listedAlerts ids digest clock store).toOption.getD []

variable {ids others : AlertIds} {digest : Digest} {source : Source} {clock : Datetime}
  {store : EventStore}

/-- A load lists the keyed alerts under their distinct identifiers, and its graph has one
node for each. -/
theorem graphAlerts_of_collectWrites {sources : List (Str × List Write)}
    (hsources : collectWrites ids digest clock store = .ok sources) :
    ∃ keyed, stableAlerts ids digest store (latest clock store.events) = .ok keyed ∧
      graphAlerts ids digest clock store =
        (AlertStore.empty.extend keyed).1.list none none none ∧
      OneNodePerAlert (load sources) (graphAlerts ids digest clock store) := by
  obtain ⟨now, raised, keyed, events, hnow, hraised, halerts, hevents, rfl⟩ :=
    exists_of_collectWrites hsources
  have hkeyed : stableAlerts ids digest store now = .ok keyed :=
    (bind_of_eq_ok hraised _).trans halerts
  have readable := (readable_of_evaluateAll hraised).2
  obtain rfl : latest clock store.events = now :=
    Except.ok.inj ((latestMoment_eq readable).symm.trans hnow)
  have listed : listedAlerts ids digest clock store =
      .ok ((AlertStore.empty.extend keyed).1.list none none none) := by
    unfold listedAlerts
    rw [bind_of_eq_ok hnow, bind_of_eq_ok hkeyed]
    exact bind_of_eq_ok hevents _
  have inGraph : graphAlerts ids digest clock store =
      (AlertStore.empty.extend keyed).1.list none none none := by
    rw [graphAlerts, listed]
    rfl
  refine ⟨keyed, hkeyed, inGraph, ?_⟩
  have distinct : (((AlertStore.empty.extend keyed).1.list none none none).map
      fun alert => some (Value.text alert.alertId)).Nodup := by
    have ids := (AlertStore.perm_alertId_list_extend keyed).nodup_iff.mpr
      (nodup_foldl_appendNew List.nodup_nil)
    have nodes := ids.map (f := fun alertId => some (Value.text alertId)) fun _ _ same =>
      Value.text.inj (Option.some.inj same)
    rwa [List.map_map] at nodes
  rw [OneNodePerAlert, inGraph, keyColumn_load hevents]
  exact perm_foldl_appendNew_iff.mpr distinct

theorem graphAlerts_of_loadable (ids : AlertIds) (collisionFree : Function.Injective digest)
    (loadable : Loadable (latest clock store.events) store.events) :
    ∃ keyed, stableAlerts ids digest store (latest clock store.events) = .ok keyed ∧
      graphAlerts ids digest clock store =
        (AlertStore.empty.extend keyed).1.list none none none := by
  have returns : (∃ sources, collectWrites ids digest clock store = .ok sources) ↔
      Loadable (latest clock store.events) store.events := exists_collectWrites_iff collisionFree
  obtain ⟨sources, hsources⟩ := returns.mpr loadable
  obtain ⟨keyed, hkeyed, listed, -⟩ := graphAlerts_of_collectWrites hsources
  exact ⟨keyed, hkeyed, listed⟩

/-- A load that raises puts nothing in the graph. -/
theorem graphAlerts_of_not_loadable (collisionFree : Function.Injective digest)
    (unloadable : ¬ Loadable (latest clock store.events) store.events) :
    graphAlerts ids digest clock store = [] := by
  cases hlisted : listedAlerts ids digest clock store with
  | error raised =>
      rw [graphAlerts, hlisted]
      rfl
  | ok listed =>
      unfold listedAlerts at hlisted
      obtain ⟨now, hnow, hlisted⟩ := bind_eq_ok hlisted
      obtain ⟨keyed, hkeyed, hlisted⟩ := bind_eq_ok hlisted
      obtain ⟨events, hevents, -⟩ := bind_eq_ok hlisted
      obtain ⟨raised, hraised, halerts⟩ := bind_eq_ok hkeyed
      exact absurd ((exists_collectWrites_iff collisionFree).mp
        ⟨_, collectWrites_eq_ok hnow hraised halerts hevents⟩) unloadable

/-- The runner reports the subjects over their thresholds at its moment. -/
theorem map_reported_runner (others : AlertIds) (readable : Readable store.events)
    (fits : WindowFits UnauthorisedAccess.detectionWindow
      (runnerMoment source clock store.events)) :
    (runnerAlerts others source clock store).map (fun alert => reported alert.toAlertFields) =
      (overSubjects (runnerMoment source clock store.events) store.events).map fun subject =>
        reported (subject.alert (runnerMoment source clock store.events) store.events) := by
  obtain ⟨raised, hraised⟩ := evaluated_of_fits others fits readable
  have run : raisedAlerts others none source clock store = .ok raised :=
    (bind_of_eq_ok (resolveNow_eq readable) _).trans hraised
  have fields := congrArg (List.map reported) (evaluateAll_eq_ok hraised)
  rw [List.map_map, List.map_map] at fields
  rw [runnerAlerts, run]
  exact fields

/-- It raises no alert exactly when nothing can be evaluated or nothing is found. -/
theorem runnerAlerts_eq_nil_iff :
    runnerAlerts others source clock store = [] ↔
      Uneventful (runnerMoment source clock store.events) store.events := by
  by_cases good : Readable store.events ∧
    WindowFits UnauthorisedAccess.detectionWindow (runnerMoment source clock store.events)
  · have found := congrArg List.length (map_reported_runner others good.1 good.2)
    rw [List.length_map, List.length_map] at found
    rw [← List.length_eq_zero_iff, found, List.length_eq_zero_iff,
      List.eq_nil_iff_forall_not_mem]
    simp only [mem_overSubjects]
    exact ⟨fun none _ _ => none, fun uneventful => uneventful good.1 good.2⟩
  · refine iff_of_true ?_ fun readable fits => absurd ⟨readable, fits⟩ good
    cases hraised : raisedAlerts others none source clock store with
    | error raised =>
        rw [runnerAlerts, hraised]
        rfl
    | ok raised =>
        obtain ⟨moment, hmoment, hevaluate⟩ := bind_eq_ok hraised
        obtain ⟨fits, readable⟩ := readable_of_evaluateAll hevaluate
        obtain rfl := Except.ok.inj ((resolveNow_eq readable).symm.trans hmoment)
        exact absurd ⟨readable, fits⟩ good

/-! ## When they agree -/

section Agree

variable {keyed : List Alert} (collisionFree : Function.Injective digest)
  (hkeyed : stableAlerts ids digest store (latest clock store.events) = .ok keyed)
  (readable : Readable store.events)
  (fits : WindowFits UnauthorisedAccess.detectionWindow (runnerMoment source clock store.events))

include hkeyed in
theorem map_reported_keyed :
    keyed.map (fun alert => reported alert.toAlertFields) =
      (overSubjects (latest clock store.events) store.events).map fun subject =>
        reported (subject.alert (latest clock store.events) store.events) := by
  have fields := congrArg (List.map fun entry => reported entry.1) (stableAlerts_eq_ok hkeyed)
  rwa [List.map_map, List.map_map] at fields

include collisionFree hkeyed readable fits

/-- Alerts whose evidence is the same at both moments are listed as they are raised. -/
theorem sameReports_of_same (separate : DistinctFootprints (latest clock store.events) store.events)
    (same : SameEvidence (latest clock store.events) (runnerMoment source clock store.events)
      store.events) :
    SameReports ((AlertStore.empty.extend keyed).1.list none none none)
      (runnerAlerts others source clock store) := by
  have listed :=
    AlertStore.perm_list_extend ((nodup_stableIds_iff collisionFree hkeyed).mpr separate)
  have reports := perm_reported_of_same same
  rw [← map_reported_keyed hkeyed, ← map_reported_runner others readable fits] at reports
  exact (listed.map _).trans reports

/-- Alerts that are listed as they are raised are about the same events. -/
theorem sameEvidence_of_sameReports (distinct : (store.events.map (·.eventId)).Nodup)
    (agree : SameReports ((AlertStore.empty.extend keyed).1.list none none none)
      (runnerAlerts others source clock store)) :
    SameEvidence (latest clock store.events) (runnerMoment source clock store.events)
      store.events := by
  have raised := map_reported_runner others readable fits
  rw [SameReports, raised] at agree
  have listed (p : AlertFields → Prop) := exists_listed_iff hkeyed p
  simp only [heldUnder_iff collisionFree] at listed
  refine sameEvidence_of_twinned distinct ?_ ?_
  · intro subject hover
    obtain ⟨kept, held, sameFootprint⟩ := exists_held hover
    obtain ⟨alert, halert, hfields⟩ :=
      (listed (· = kept.alert _ store.events)).mpr ⟨kept, held, rfl⟩
    obtain ⟨twin, htwin, same⟩ := List.mem_map.mp (agree.mem_iff.mp (List.mem_map_of_mem halert))
    rw [hfields] at same
    simp only [reported, Subject.alert_ruleName, Subject.alert_relatedEvents, Prod.mk.injEq] at same
    have named : kept.info.name = subject.info.name := congrArg Prod.fst sameFootprint
    refine ⟨twin, mem_overSubjects.mp htwin, Subject.window_of_info (same.1.trans named), ?_⟩
    intro event
    have cited : event ∈ kept.evidence (latest clock store.events) store.events ↔
        event ∈ twin.evidence (runnerMoment source clock store.events) store.events :=
      mem_evidence_iff_of_cited distinct (fun eventId => by rw [same.2.2.2.2.2]) event
    exact Iff.trans ⟨mem_evidence_of_footprint_eq distinct sameFootprint.symm,
      mem_evidence_of_footprint_eq distinct sameFootprint⟩ cited
  · intro subject hover
    obtain ⟨alert, halert, hreport⟩ := List.mem_map.mp
      (agree.mem_iff.mpr (List.mem_map_of_mem (mem_overSubjects.mpr hover)))
    obtain ⟨twin, held, same⟩ := (listed fun fields => reported fields = _).mp
      ⟨alert, halert, hreport⟩
    simp only [reported, Subject.alert_ruleName, Subject.alert_relatedEvents, Prod.mk.injEq] at same
    exact ⟨twin, held.over, Subject.window_of_info same.1,
      mem_evidence_iff_of_cited distinct fun eventId => by rw [same.2.2.2.2.2]⟩

/-- Alerts that are listed as they are raised do not fall together. -/
theorem distinctFootprints_of_sameReports
    (same : SameEvidence (latest clock store.events) (runnerMoment source clock store.events)
      store.events)
    (agree : SameReports ((AlertStore.empty.extend keyed).1.list none none none)
      (runnerAlerts others source clock store)) :
    DistinctFootprints (latest clock store.events) store.events := by
  have found := (perm_reported_of_same same).length_eq
  rw [← map_reported_keyed hkeyed, ← map_reported_runner others readable fits] at found
  have full := agree.length_eq.trans found.symm
  rw [List.length_map, List.length_map] at full
  exact (nodup_stableIds_iff collisionFree hkeyed).mp (AlertStore.nodup_of_length_list_extend full)

end Agree

end Found

/-- What agrees is loaded alike, when no two events share an identifier. -/
theorem loadedAlike_of_sameReports [UnicodeDb] {digest : Digest}
    (collisionFree : Function.Injective digest) {ids others : AlertIds} {source : Source}
    {clock : Clock} {store : EventStore} (distinct : (store.events.map (·.eventId)).Nodup)
    (agree : SameReports (graphAlerts ids digest clock.time store)
      (runnerAlerts others source clock.time store)) :
    LoadedAlike source clock.time store.events := by
  by_cases loadable : Loadable (latest clock.time store.events) store.events
  · obtain ⟨keyed, hkeyed, listed⟩ := graphAlerts_of_loadable ids collisionFree loadable
    have fits := windowFits_runnerMoment source loadable.fits
    rw [listed] at agree
    have same := sameEvidence_of_sameReports collisionFree hkeyed loadable.readable fits distinct
      agree
    exact .inl ⟨loadable, distinctFootprints_of_sameReports collisionFree hkeyed loadable.readable
      fits same agree, same⟩
  · rw [graphAlerts_of_not_loadable collisionFree loadable, SameReports, List.map_nil,
      List.nil_perm, List.map_eq_nil_iff, runnerAlerts_eq_nil_iff] at agree
    exact .inr ⟨loadable, agree⟩

/-- The graph has one alert for each one the loader lists. These are what the runner
raises on a stream that is loaded alike, and with distinct events on no other. -/
theorem loaded_agree_iff [UnicodeDb] {digest : Digest} (collisionFree : Function.Injective digest)
    (ids others : AlertIds) (source : Source) (clock : Clock) (store : EventStore) :
    (∀ sources, collectWrites ids digest clock.time store = .ok sources →
      OneNodePerAlert (load sources) (graphAlerts ids digest clock.time store)) ∧
    (LoadedAlike source clock.time store.events →
      SameReports (graphAlerts ids digest clock.time store)
        (runnerAlerts others source clock.time store)) ∧
    ((store.events.map (·.eventId)).Nodup →
      SameReports (graphAlerts ids digest clock.time store)
        (runnerAlerts others source clock.time store) →
      LoadedAlike source clock.time store.events) := by
  refine ⟨fun sources hsources => ?_, ?_, loadedAlike_of_sameReports collisionFree⟩
  · obtain ⟨-, -, -, each⟩ := graphAlerts_of_collectWrites hsources
    exact each
  · rintro (⟨loadable, separate, same⟩ | ⟨unloadable, uneventful⟩)
    · obtain ⟨keyed, hkeyed, listed⟩ := graphAlerts_of_loadable ids collisionFree loadable
      rw [listed]
      exact sameReports_of_same collisionFree hkeyed loadable.readable
        (windowFits_runnerMoment source loadable.fits) separate same
    · rw [graphAlerts_of_not_loadable collisionFree unloadable,
        runnerAlerts_eq_nil_iff.mpr uneventful]
      exact List.Perm.refl _

/-! ## A live stream an hour later -/

/-- An hour after the burst. -/
def anHourLater : Datetime :=
  { (second 5).time with
    hour := 13
    valid := ⟨by decide, by decide, by decide, by decide, by decide, by decide, by decide⟩ }

theorem readable_burst : Readable burst.events := by decide +kernel

theorem latestMoment_burst : latestMoment anHourLater burst = .ok (second 5).time := by
  rw [latestMoment_eq readable_burst]
  decide +kernel

theorem loadable_burst : Loadable (second 5).time burst.events :=
  loadable_of_encodable readable_burst (by decide +kernel) (by decide +kernel) (by decide +kernel)

/-- The burst loads. -/
theorem exists_load_burst : letI := printsAll
    ∃ keyed sources,
      stableAlerts (fun _ => alertIdTag) burstDigest burst (second 5).time = .ok keyed ∧
      collectWrites (fun _ => alertIdTag) burstDigest anHourLater burst = .ok sources := by
  let _ := printsAll
  have moment : latest anHourLater burst.events = (second 5).time :=
    Except.ok.inj ((latestMoment_eq readable_burst).symm.trans latestMoment_burst)
  obtain ⟨sources, hsources⟩ : ∃ sources, collectWrites (fun _ => alertIdTag) burstDigest
      anHourLater burst = .ok sources :=
    (exists_collectWrites_iff burstDigest_injective).mpr (moment ▸ loadable_burst)
  obtain ⟨keyed, hkeyed, -⟩ := graphAlerts_of_collectWrites hsources
  exact ⟨keyed, sources, moment ▸ hkeyed, hsources⟩

/-- The clock an hour after the burst. -/
def laterClock : Clock := ⟨anHourLater, by decide⟩

theorem distinct_burst : (burst.events.map (·.eventId)).Nodup := by decide +kernel

/-- The account's evidence has left the window an hour later. -/
theorem not_loadedAlike_burst : ¬ LoadedAlike .stdin laterClock.time burst.events := by
  have newest : latest laterClock.time burst.events = (second 5).time := by decide +kernel
  have hover : (Subject.account "root").Over (second 5).time burst.events := by decide +kernel
  rintro (⟨-, -, same⟩ | ⟨unloadable, -⟩)
  · rw [newest] at same
    have lengths := congrArg List.length (same _ (.inl hover))
    exact absurd lengths (by decide +kernel)
  · rw [newest] at unloadable
    exact unloadable loadable_burst

/-- Piped through standard input an hour later, the burst is in the graph and not
among the runner's alerts. -/
theorem live_burst_disagrees : letI := printsAll
    ¬ ∀ (ids others : AlertIds) (digest : Digest) (source : Source) (clock : Clock)
      (store : EventStore), Function.Injective digest →
        SameReports (graphAlerts ids digest clock.time store)
          (runnerAlerts others source clock.time store) := by
  let _ := printsAll
  intro agree
  have same := agree (fun _ => alertIdTag) (fun _ => alertIdTag) burstDigest .stdin laterClock burst
    burstDigest_injective
  exact not_loadedAlike_burst (loadedAlike_of_sameReports burstDigest_injective distinct_burst same)

/-- Three refusals in a file are one alert to both, and the burst is one alert to the graph
and two to the runner. -/
theorem loaded_agree_burst : letI := printsAll
    (SameReports (graphAlerts (fun _ => alertIdTag) burstDigest laterClock.time ⟨refusals⟩)
        (runnerAlerts (fun _ => alertIdTag) .file laterClock.time ⟨refusals⟩) ∧
      runnerAlerts (fun _ => alertIdTag) .file laterClock.time ⟨refusals⟩ ≠ []) ∧
    ¬ SameReports (graphAlerts (fun _ => alertIdTag) burstDigest laterClock.time burst)
      (runnerAlerts (fun _ => alertIdTag) .file laterClock.time burst) := by
  let _ := printsAll
  have newest : latest laterClock.time refusals = (second 2).time := by decide +kernel
  have only : overSubjects (second 2).time refusals = [.refused "mallory"] := by decide +kernel
  have alike : LoadedAlike .file laterClock.time refusals := by
    refine .inl ⟨?_, ?_, fun subject _ => rfl⟩
    · exact loadable_of_encodable readable_refusals (by decide +kernel) (by decide +kernel)
        (by decide +kernel)
    · rw [newest]
      intro first second hfirst hsecond _
      rw [← mem_overSubjects, only, List.mem_singleton] at hfirst hsecond
      rw [hfirst, hsecond]
  have raised : ¬ Uneventful (runnerMoment .file laterClock.time refusals) refusals := by
    intro uneventful
    refine uneventful readable_refusals (by decide +kernel) (.refused "mallory") ?_
    rw [← mem_overSubjects, runnerMoment, if_pos rfl, newest, only]
    exact List.mem_singleton.mpr rfl
  refine ⟨⟨(loaded_agree_iff burstDigest_injective _ _ .file laterClock ⟨refusals⟩).2.1 alike,
    fun none => raised (runnerAlerts_eq_nil_iff.mp none)⟩, fun same => ?_⟩
  have moment : latest laterClock.time burst.events = (second 5).time := by decide +kernel
  rcases (loaded_agree_iff burstDigest_injective _ _ .file laterClock burst).2.2 distinct_burst same
    with ⟨-, separate, -⟩ | ⟨unloadable, -⟩
  · rw [moment] at separate
    have collapsed := separate (.account "root") (.address "203.0.113.9") (by decide +kernel)
      (by decide +kernel) (footprint_account_eq_address (by decide +kernel) (by decide +kernel))
    cases collapsed
  · rw [moment] at unloadable
    exact unloadable loadable_burst

end SentinelIR.Loader
