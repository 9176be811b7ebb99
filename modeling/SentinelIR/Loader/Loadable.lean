/-
# When the loader returns

Between the store and the write lists five things can raise: a window that leaves
the calendar, an unreadable timestamp, a text no UTF-8 encoding exists for in the
digest of an alert, and the half hour before an incident, which is subtracted
only where an alert could be grouped. `exists_collectWrites_iff` says which
stores avoid all of them.
-/

import SentinelIR.Loader.StableIds

namespace SentinelIR.Loader

open SentinelIR.Py SentinelIR.Common SentinelIR.Alerts SentinelIR.Collector SentinelIR.Rules
open SentinelIR.Graph LoadEvents

/-! ## Digesting the alerts -/

/-- The user and the entity the alert names can be encoded. -/
def Attributable (now : Datetime) (events : List SecurityEvent) (subject : Subject) : Prop :=
  Encodable ((subject.affectedUser now events).getD []) ∧
    Encodable ((subject.affectedEntity now events).getD [])

instance (now : Datetime) (events : List SecurityEvent) (subject : Subject) :
    Decidable (Attributable now events subject) := inferInstanceAs (Decidable (_ ∧ _))

theorem encodable_ruleName (subject : Subject) : Encodable subject.info.name := by
  have names : ∀ rule : Fin 4, Encodable (ruleName rule) := by decide
  rw [name_eq_ruleName]
  exact names subject.rule

theorem encodable_serviceName (service : ServiceName) : Encodable service.value := by
  cases service <;> decide

theorem encodable_affectedService {now : Datetime} {events : List SecurityEvent}
    {subject : Subject} (hover : subject.Over now events) :
    Encodable ((subject.affectedService now events).getD []) := by
  rcases affectedService_eq hover with missing | ⟨service, named⟩
  · rw [missing]
    exact encodable_nil
  · rw [named]
    exact encodable_serviceName service

theorem encodable_eventId (event : SecurityEvent) : Encodable event.eventId := by
  obtain ⟨tag, -, suffix⟩ := event.eventId_valid
  intro c hc
  rw [← List.take_append_drop eventIdTag.length event.eventId, tag] at hc
  rcases List.mem_append.mp hc with front | back
  · have tagEncodable : Encodable eventIdTag := by decide
    exact tagEncodable c front
  · have hex := suffix c back
    simp only [isLowerHex, Bool.or_eq_true, Bool.and_eq_true, decide_eq_true_eq] at hex
    simp only [isSurrogate, Bool.and_eq_false_iff, decide_eq_false_iff_not]
    omega

/-- Only the user and the entity can keep an alert from being digested. -/
theorem encodable_material_iff [UnicodeDb] {now : Datetime} {events : List SecurityEvent}
    {subject : Subject} (hover : subject.Over now events) :
    Encodable (material (subject.alert now events)) ↔ Attributable now events subject := by
  have separator : isSurrogate bar = false := by decide
  have cited : Encodable (joinWith [comma] (footprint now events subject).2.2.2) := by
    apply encodable_joinWith (by decide)
    intro eventId heventId
    simp only [footprint, mem_sortedBy, List.mem_map] at heventId
    obtain ⟨event, -, rfl⟩ := heventId
    exact encodable_eventId event
  have rule : Encodable (footprint now events subject).1 := encodable_ruleName subject
  have service : Encodable (footprint now events subject).2.1 := encodable_affectedService hover
  rw [material_alert]
  simp only [encodable_append, encodable_cons, separator, cited, rule, service, true_and, and_true]
  simp only [footprint, encodable_append, encodable_cons, separator, true_and, Attributable]

/-- Everything an event says about who and what it concerns can be encoded. -/
structure EncodableEvent (event : SecurityEvent) : Prop where
  user : Encodable (event.userId.getD [])
  source : Encodable (event.sourceIp.getD [])
  entity : Encodable (event.affectedEntity.getD [])
  endpoint : Encodable event.endpoint

instance (event : SecurityEvent) : Decidable (EncodableEvent event) :=
  decidable_of_iff (Encodable (event.userId.getD []) ∧ Encodable (event.sourceIp.getD []) ∧
      Encodable (event.affectedEntity.getD []) ∧ Encodable event.endpoint)
    ⟨fun ⟨user, source, entity, endpoint⟩ => ⟨user, source, entity, endpoint⟩,
      fun h => ⟨h.user, h.source, h.entity, h.endpoint⟩⟩

theorem encodable_singleUser {events : List SecurityEvent}
    (users : ∀ event ∈ events, Encodable (event.userId.getD [])) :
    Encodable ((AbnormalRate.singleUser events).getD []) := by
  rw [AbnormalRate.singleUser]
  split
  · cases hhead : (distinctTexts (·.userId) events).head? with
    | none => exact encodable_nil
    | some userId =>
        have member := List.mem_of_head? hhead
        simp only [distinctTexts, mem_sortedBy, List.mem_dedup, List.mem_filter,
          List.mem_filterMap] at member
        obtain ⟨⟨event, hevent, huser⟩, -⟩ := member
        have encodable := users event hevent
        rwa [huser] at encodable
  · exact encodable_nil

theorem encodable_getLast? {events : List SecurityEvent} {f : SecurityEvent → Option Str}
    (encodable : ∀ event ∈ events, Encodable ((f event).getD [])) :
    Encodable ((events.getLast?.bind f).getD []) := by
  cases hlast : events.getLast? with
  | none => exact encodable_nil
  | some last => exact encodable last (List.mem_of_getLast? hlast)

theorem encodable_endpoints {events : List SecurityEvent}
    (encodable : ∀ event ∈ events, Encodable event.endpoint) :
    ∀ endpoint ∈ UnauthorisedAccess.endpointsOf events, Encodable endpoint := by
  intro endpoint hendpoint
  simp only [UnauthorisedAccess.endpointsOf, mem_sortedBy, List.mem_dedup,
    List.mem_map] at hendpoint
  obtain ⟨event, hevent, rfl⟩ := hendpoint
  exact encodable event hevent

theorem encodable_head? {texts : List Str} (encodable : ∀ text ∈ texts, Encodable text) :
    Encodable (texts.head?.getD []) := by
  cases hhead : texts.head? with
  | none => exact encodable_nil
  | some text => exact encodable text (List.mem_of_head? hhead)

/-- Where every text of the store can be encoded, so can every attribution. -/
theorem attributable_of_encodable {now : Datetime} {events : List SecurityEvent}
    (encodable : ∀ event ∈ events, EncodableEvent event) {subject : Subject}
    (hover : subject.Over now events) : Attributable now events subject := by
  have cited : ∀ event ∈ subject.evidence now events, EncodableEvent event :=
    fun event hevent => encodable event (Subject.mem_events_of_mem_evidence hevent)
  have users : ∀ event ∈ subject.evidence now events, Encodable (event.userId.getD []) :=
    fun event hevent => (cited event hevent).user
  obtain ⟨first, hfirst⟩ := List.exists_mem_of_ne_nil _ (Subject.evidence_ne_nil hover)
  have concerned := Subject.concerns_of_mem_evidence hfirst
  have login : Encodable "login-endpoint" := by decide
  cases subject with
  | account userId =>
      have encodableUser := (cited first hfirst).user
      rw [show first.userId = some userId from concerned] at encodableUser
      exact ⟨encodableUser, login⟩
  | address sourceIp => exact ⟨encodable_singleUser users, login⟩
  | refused caller =>
      refine ⟨encodable_getLast? users, ?_⟩
      have endpoints := encodable_endpoints fun event hevent => (cited event hevent).endpoint
      simp only [Subject.affectedEntity]
      split
      · exact encodable_head? endpoints
      · exact encodable_head? fun text htext => endpoints text (List.mem_of_mem_filter htext)
  | source sourceIp =>
      refine ⟨encodable_singleUser users, ?_⟩
      have encodableSource := (cited first hfirst).source
      simp only [Subject.Concerns, AbnormalRate.sourceOf] at concerned
      split at concerned
      · rename_i c rest hsource
        rw [hsource] at encodableSource
        exact (Option.some.inj concerned) ▸ encodableSource
      · cases concerned
  | service name =>
      refine ⟨encodable_nil, ?_⟩
      simp only [Subject.affectedEntity]
      cases hlast : ((Subject.service name).evidence now events).getLast? with
      | none => exact encodable_nil
      | some last =>
          have hcited := cited last (List.mem_of_getLast? hlast)
          have encodableEntity := hcited.entity
          simp only [Option.map_some, Option.getD_some]
          split
          · rename_i c entity hentity
            rwa [hentity] at encodableEntity
          · exact hcited.endpoint

section StableAlerts

variable [UnicodeDb] {ids : AlertIds} {digest : Digest} {store : EventStore} {now : Datetime}

/-- The loader's alerts exist exactly when the window fits, every timestamp can be
read and every attribution can be encoded. -/
theorem exists_stableAlerts_iff :
    (∃ keyed, stableAlerts ids digest store now = .ok keyed) ↔
      WindowFits UnauthorisedAccess.detectionWindow now ∧ Readable store.events ∧
        ∀ subject : Subject, subject.Over now store.events →
          Attributable now store.events subject := by
  by_cases good : WindowFits UnauthorisedAccess.detectionWindow now ∧ Readable store.events
  · obtain ⟨bodies, hbodies, hfields⟩ := evaluateBodies_eq store good.1 good.2
    have evaluated : evaluateAll ids store now = .ok (attachIds ids bodies) :=
      congrArg (Except.map (attachIds ids)) hbodies
    have raised := evaluateAll_eq_ok evaluated
    have stable (alert : Alert) :
        (∃ keyed, (stableAlertId digest alert).map (fun alertId => { alert with alertId }) =
          .ok keyed) ↔ Encodable (material alert.toAlertFields) := by
      rw [stableAlertId]
      by_cases encodable : Encodable (material alert.toAlertFields) <;>
        simp [encodable, Except.map]
    have each : (∃ keyed, stableAlerts ids digest store now = .ok keyed) ↔
        ∀ fields ∈ (attachIds ids bodies).map (·.toAlertFields), Encodable (material fields) := by
      rw [stableAlerts, evaluated]
      simp only [List.mem_map, forall_exists_index, and_imp, forall_apply_eq_imp_iff₂, ← stable]
      exact exists_mapE_eq_ok_iff
    rw [each, raised]
    simp only [List.mem_map, forall_exists_index, and_imp, forall_apply_eq_imp_iff₂,
      mem_overSubjects]
    constructor
    · exact fun encodable => ⟨good.1, good.2, fun subject hover =>
        (encodable_material_iff hover).mp (encodable subject hover)⟩
    · rintro ⟨-, -, attributable⟩ subject hover
      exact (encodable_material_iff hover).mpr (attributable subject hover)
  · constructor
    · rintro ⟨keyed, hkeyed⟩
      obtain ⟨alerts, halerts, -⟩ := bind_eq_ok hkeyed
      obtain ⟨raised, hraised⟩ := evaluateBodies_raises good
      rw [evaluateAll, hraised] at halerts
      cases halerts
    · rintro ⟨fits, readable, -⟩
      exact absurd ⟨fits, readable⟩ good

end StableAlerts

/-! ## The incidents -/

/-- The events of an incident, in the loader's order. -/
def incidentEvents (events : List SecurityEvent) (incidentId : Str) : List SecurityEvent :=
  (sortedBy (·.timestamp) (chronological events)).filter fun event =>
    incidentOf event = some incidentId

/-- The event that created an incident, when the stream mentions it. -/
def creation (events : List SecurityEvent) (incidentId : Str) : Option SecurityEvent :=
  (incidentEvents events incidentId).head?.map fun first =>
    createdOf first (incidentEvents events incidentId)

/-- The half hour before the incident stays inside the calendar. -/
def GroupingFits (event : SecurityEvent) : Prop := incidentWindow ≤ timeOf event

theorem createdOf_mem {first : SecurityEvent} {raised : List SecurityEvent}
    (hfirst : first ∈ raised) :
    createdOf first raised ∈ raised := by
  rw [createdOf]
  cases hfound : raised.find? fun event => event.eventType == .incidentCreated with
  | none => exact hfirst
  | some created => exact List.mem_of_find?_eq_some hfound

/-- The event that created an incident is one of the store, and of the incident. -/
theorem of_creation {events : List SecurityEvent} {incidentId : Str} {created : SecurityEvent}
    (creates : creation events incidentId = some created) :
    created ∈ events ∧ incidentOf created = some incidentId := by
  obtain ⟨first, hfirst, rfl⟩ := Option.map_eq_some_iff.mp creates
  obtain ⟨held, about⟩ := List.mem_filter.mp (createdOf_mem (List.mem_of_head? hfirst))
  exact ⟨mem_chronological.mp (mem_sortedBy.mp held), of_decide_eq_true about⟩

/-- Grouping one alert raises only when there is something to group and the half
hour leaves the calendar. -/
theorem exists_containsWrite_iff {incidentId : Str} {createdAt : Datetime}
    {times : Dict Str Micros} {alert : Alert}
    (cited : alert.relatedEvents.filterMap times.get? ≠ []) :
    (∃ writes, containsWrite incidentId createdAt times alert = .ok writes) ↔
      alert.severity ∉ groupedSeverities ∨ incidentWindow ≤ createdAt.instant := by
  rw [containsWrite]
  by_cases grouped : alert.severity ∈ groupedSeverities
  · have inner : (∃ found, anyE (inWindow createdAt) (alert.relatedEvents.filterMap times.get?) =
        .ok found) ↔ incidentWindow ≤ createdAt.instant := by
      rw [exists_anyE_iff exists_inWindow_iff]
      simp [cited]
    rw [if_pos grouped, ← inner]
    cases anyE (inWindow createdAt) (alert.relatedEvents.filterMap times.get?) <;>
      simp [grouped, Except.map]
  · simp [grouped]

theorem get?_eventTimes {events : List SecurityEvent} {times : Dict Str Micros}
    (htimes : eventTimes events = .ok times) {event : SecurityEvent} (hevent : event ∈ events) :
    (times.get? event.eventId).isSome = true := by
  rw [eventTimes] at htimes
  cases hitems : mapE (fun event => (parseTimestamp event.timestamp).map fun t =>
      (event.eventId, t.instant)) events with
  | error raised =>
      rw [hitems] at htimes
      cases htimes
  | ok items =>
      rw [hitems] at htimes
      rw [Dict.get?_isSome_iff, ← Except.ok.inj htimes, Dict.keys_foldl_set, mem_foldl_appendNew]
      obtain ⟨item, hitem, hvalue⟩ := exists_value_of_mem hitems hevent
      refine .inr (List.mem_map.mpr ⟨item, hitem, ?_⟩)
      cases hparse : parseTimestamp event.timestamp with
      | error raised =>
          rw [hparse] at hvalue
          cases hvalue
      | ok t =>
          rw [hparse] at hvalue
          rw [← Except.ok.inj hvalue]

theorem exists_eventTimes {events : List SecurityEvent} (readable : Readable events) :
    ∃ times, eventTimes events = .ok times := by
  have each : ∀ event ∈ events, ∃ item, (parseTimestamp event.timestamp).map (fun t =>
      (event.eventId, t.instant)) = .ok item := by
    intro event hevent
    obtain ⟨t, ht, -⟩ := parseTimestamp_of_readable readable hevent
    exact ⟨_, by rw [ht]; rfl⟩
  obtain ⟨items, hitems⟩ := exists_mapE_eq_ok each
  exact ⟨_, congrArg (Except.map _) hitems⟩

/-- An incident's writes exist unless one of its alerts has to be grouped outside
the calendar. -/
theorem exists_incidentWrites_iff {incidentId : Str} {first : SecurityEvent}
    {raised : List SecurityEvent} {alerts : List Alert} {times : Dict Str Micros}
    (readable : Readable raised) (hfirst : first ∈ raised)
    (cited : ∀ alert ∈ alerts, alert.relatedEvents.filterMap times.get? ≠ []) :
    (∃ writes, incidentWrites incidentId first raised alerts times = .ok writes) ↔
      GroupingFits (createdOf first raised) ∨
        ∀ alert ∈ alerts, alert.severity ∉ groupedSeverities := by
  obtain ⟨createdAt, hcreated, htime⟩ :=
    parseTimestamp_of_readable readable (createdOf_mem hfirst)
  have grouped : (∃ writes, incidentWrites incidentId first raised alerts times = .ok writes) ↔
      ∃ grouped, mapE (containsWrite incidentId createdAt times) alerts = .ok grouped := by
    constructor
    · rintro ⟨writes, hwrites⟩
      rw [incidentWrites] at hwrites
      obtain ⟨createdAt', hcreated', hwrites⟩ := bind_eq_ok hwrites
      obtain ⟨grouped, hgrouped, -⟩ := bind_eq_ok hwrites
      obtain rfl : createdAt' = createdAt := Except.ok.inj (hcreated'.symm.trans hcreated)
      exact ⟨grouped, hgrouped⟩
    · rintro ⟨grouped, hgrouped⟩
      rw [incidentWrites]
      exact ⟨_, (bind_of_eq_ok hcreated _).trans (bind_of_eq_ok hgrouped _)⟩
  rw [grouped, exists_mapE_eq_ok_iff, GroupingFits, ← htime]
  constructor
  · intro each
    by_cases fits : incidentWindow ≤ createdAt.instant
    · exact .inl fits
    · exact .inr fun alert halert =>
        ((exists_containsWrite_iff (cited alert halert)).mp (each alert halert)).resolve_right fits
  · rintro (fits | ungrouped) alert halert
    · exact (exists_containsWrite_iff (cited alert halert)).mpr (.inr fits)
    · exact (exists_containsWrite_iff (cited alert halert)).mpr (.inl (ungrouped alert halert))

/-- Reading the store and its times succeeds, so the groups' writes decide. -/
theorem exists_incidents_iff_mapE {store : EventStore} {alertStore : AlertStore}
    {times : Dict Str Micros} (readable : Readable store.events)
    (htimes : eventTimes (chronological store.events) = .ok times) :
    (∃ writes, incidents store alertStore = .ok writes) ↔
      ∃ lists, mapE (groupWrites (alertStore.list none none none) times)
        (groupBy incidentOf (sortedBy (·.timestamp) (chronological store.events))).sortedItems =
          .ok lists := by
  have collected := allEvents_of_readable readable
  constructor
  · rintro ⟨writes, hwrites⟩
    rw [incidents] at hwrites
    obtain ⟨events, hevents, hwrites⟩ := bind_eq_ok hwrites
    obtain rfl := Except.ok.inj (collected.symm.trans hevents)
    obtain ⟨again, hagain, hwrites⟩ := bind_eq_ok hwrites
    obtain rfl := Except.ok.inj (collected.symm.trans hagain)
    obtain ⟨times', htimes', hwrites⟩ := bind_eq_ok hwrites
    obtain rfl := Except.ok.inj (htimes.symm.trans htimes')
    obtain ⟨lists, hlists, -⟩ := bind_eq_ok hwrites
    exact ⟨lists, hlists⟩
  · rintro ⟨lists, hlists⟩
    rw [incidents]
    exact ⟨_, (bind_of_eq_ok collected _).trans <| (bind_of_eq_ok collected _).trans <|
      (bind_of_eq_ok htimes _).trans (bind_of_eq_ok hlists _)⟩

/-- The writes of the incident that raised some events. -/
theorem exists_groupWrites_iff {events : List SecurityEvent} {alerts : List Alert}
    {times : Dict Str Micros} (readable : Readable events)
    (timed : ∀ alert ∈ alerts, alert.relatedEvents.filterMap times.get? ≠ [])
    {incidentId : Str} {group : List SecurityEvent} (nonempty : group ≠ [])
    (held : group = incidentEvents events incidentId) :
    (∃ writes, groupWrites alerts times (incidentId, group) = .ok writes) ↔
      (∀ event, creation events incidentId = some event → GroupingFits event) ∨
        ∀ alert ∈ alerts, alert.severity ∉ groupedSeverities := by
  obtain ⟨first, rest, rfl⟩ := List.exists_cons_of_ne_nil nonempty
  have groupReadable : Readable (first :: rest) := by
    rw [held]
    exact readable.subset fun event hevent => mem_chronological.mp
      (mem_sortedBy.mp (List.mem_of_mem_filter hevent))
  have created : creation events incidentId = some (createdOf first (first :: rest)) := by
    rw [creation, ← held]
    rfl
  apply (exists_incidentWrites_iff groupReadable List.mem_cons_self timed).trans
  simp [created]

/-- The incident writes of a readable store, whose alerts cite its events. -/
theorem exists_incidents_iff {store : EventStore} {alertStore : AlertStore}
    (readable : Readable store.events)
    (cited : ∀ alert ∈ alertStore.list none none none, ∃ event ∈ store.events,
      event.eventId ∈ alert.relatedEvents) :
    (∃ writes, incidents store alertStore = .ok writes) ↔
      (∀ incidentId event, creation store.events incidentId = some event → GroupingFits event) ∨
        ∀ alert ∈ alertStore.list none none none, alert.severity ∉ groupedSeverities := by
  have chronologicalReadable : Readable (chronological store.events) :=
    readable.subset fun event hevent => mem_chronological.mp hevent
  obtain ⟨times, htimes⟩ := exists_eventTimes chronologicalReadable
  have timed : ∀ alert ∈ alertStore.list none none none,
      alert.relatedEvents.filterMap times.get? ≠ [] := by
    intro alert halert
    obtain ⟨event, hevent, hcited⟩ := cited alert halert
    obtain ⟨moment, hmoment⟩ := Option.isSome_iff_exists.mp
      (get?_eventTimes htimes (mem_chronological.mpr hevent))
    exact List.ne_nil_of_mem (List.mem_filterMap.mpr ⟨event.eventId, hcited, hmoment⟩)
  have entries (item : Str × List SecurityEvent) :
      item ∈ (groupBy incidentOf
          (sortedBy (·.timestamp) (chronological store.events))).sortedItems ↔
        item.2 ≠ [] ∧ item.2 = incidentEvents store.events item.1 := by
    rw [Dict.mem_sortedItems, mem_groupBy]
    rfl
  rw [exists_incidents_iff_mapE readable htimes, exists_mapE_eq_ok_iff]
  constructor
  · intro each
    by_cases ungrouped : ∀ alert ∈ alertStore.list none none none,
      alert.severity ∉ groupedSeverities
    · exact .inr ungrouped
    · left
      intro incidentId event hcreation
      have nonempty : incidentEvents store.events incidentId ≠ [] := by
        intro empty
        simp [creation, empty] at hcreation
      have member := (entries (incidentId, _)).mpr ⟨nonempty, rfl⟩
      have writes := (exists_groupWrites_iff readable timed nonempty rfl).mp (each _ member)
      exact writes.resolve_right ungrouped event hcreation
  · rintro fits ⟨incidentId, group⟩ member
    obtain ⟨nonempty, held⟩ := (entries (incidentId, group)).mp member
    apply (exists_groupWrites_iff readable timed nonempty held).mpr
    exact fits.imp_left fun each event hcreation => each incidentId event hcreation

/-! ## The whole loader -/

/-- The newest event's time, or the clock for an empty store. -/
def latest (clock : Datetime) (events : List SecurityEvent) : Datetime :=
  (((chronological events).getLast?.bind fun newest => strptime newest.timestamp)).getD clock

theorem latestMoment_eq {clock : Datetime} {store : EventStore} (readable : Readable store.events) :
    latestMoment clock store = .ok (latest clock store.events) := by
  rw [latestMoment, allEvents_of_readable readable]
  cases hlast : (chronological store.events).getLast? with
  | none => simp [bind, Except.bind, hlast, latest, pure, Except.pure]
  | some newest =>
      have hnewest : newest ∈ store.events :=
        mem_chronological.mp (List.mem_of_getLast? hlast)
      obtain ⟨t, ht⟩ := Option.isSome_iff_exists.mp (readable newest hnewest)
      simp [bind, Except.bind, hlast, latest, parseTimestamp, ht]

/-- The subject whose alert the store keeps: no later subject shares its
footprint. -/
def Held (now : Datetime) (events : List SecurityEvent) (subject : Subject) : Prop :=
  (overSubjects now events).reverse.find? (fun other =>
    footprint now events other = footprint now events subject) = some subject

theorem Held.over {now : Datetime} {events : List SecurityEvent} {subject : Subject}
    (held : Held now events subject) : subject.Over now events :=
  mem_overSubjects.mp (List.mem_reverse.mp (List.mem_of_find?_eq_some held))

section CollectWrites

variable [UnicodeDb] {ids : AlertIds} {digest : Digest} {store : EventStore} {now : Datetime}

/-- The subject whose alert the store keeps under a digest: no later subject has its
stable identifier. -/
def HeldUnder (digest : Digest) (now : Datetime) (events : List SecurityEvent)
    (subject : Subject) : Prop :=
  (overSubjects now events).reverse.find? (fun other =>
    stableId digest now events other = stableId digest now events subject) = some subject

/-- A digest that tells texts apart keeps what the footprints keep. -/
theorem heldUnder_iff (collisionFree : Function.Injective digest) {events : List SecurityEvent}
    {subject : Subject} : HeldUnder digest now events subject ↔ Held now events subject := by
  by_cases hover : subject.Over now events
  · have same : (overSubjects now events).reverse.find? (fun other =>
          stableId digest now events other = stableId digest now events subject) =
        (overSubjects now events).reverse.find? fun other =>
          footprint now events other = footprint now events subject := by
      refine List.find?_congr fun other hother => ?_
      have hover' := mem_overSubjects.mp (List.mem_reverse.mp hother)
      simp only [stableId_eq_iff collisionFree hover' hover]
    rw [HeldUnder, Held, same]
  · have absent {p : Subject → Bool} :
        (overSubjects now events).reverse.find? p ≠ some subject := fun found =>
      hover (mem_overSubjects.mp (List.mem_reverse.mp (List.mem_of_find?_eq_some found)))
    exact iff_of_false absent absent

/-- The alerts the store lists are those of the held subjects. -/
theorem exists_listed_iff {keyed : List Alert}
    (hkeyed : stableAlerts ids digest store now = .ok keyed) (p : AlertFields → Prop) :
    (∃ alert ∈ (AlertStore.empty.extend keyed).1.list none none none, p alert.toAlertFields) ↔
      ∃ subject, HeldUnder digest now store.events subject ∧
        p (subject.alert now store.events) := by
  -- Both sides look for the last element under an identifier, in lists that agree
  -- on what is reported and under which identifier.
  have transport {α : Type} (xs : List α) (f : α → AlertFields × Str) :
      (∃ k x, xs.reverse.find? (fun x => (f x).2 = k) = some x ∧ p (f x).1) ↔
        ∃ k pair, (xs.map f).reverse.find? (fun pair => pair.2 = k) = some pair ∧ p pair.1 := by
    apply exists_congr
    intro k
    rw [← List.map_reverse, List.find?_map]
    simp only [Option.map_eq_some_iff]
    constructor
    · rintro ⟨x, hx, hp⟩
      exact ⟨f x, ⟨x, hx, rfl⟩, hp⟩
    · rintro ⟨_, ⟨x, hx, rfl⟩, hp⟩
      exact ⟨x, hx, hp⟩
  have stored : (∃ alert ∈ (AlertStore.empty.extend keyed).1.list none none none,
      p alert.toAlertFields) ↔
        ∃ k alert, keyed.reverse.find? (fun other => other.alertId = k) = some alert ∧
          p alert.toAlertFields := by
    simp only [AlertStore.mem_list_extend]
    constructor
    · rintro ⟨alert, ⟨k, hk⟩, hp⟩
      exact ⟨k, alert, hk, hp⟩
    · rintro ⟨k, alert, hk, hp⟩
      exact ⟨alert, ⟨k, hk⟩, hp⟩
  rw [stored, transport keyed fun alert => (alert.toAlertFields, alert.alertId),
    stableAlerts_eq_ok hkeyed, ← transport]
  constructor
  · rintro ⟨k, subject, hfound, hp⟩
    have identified := List.find?_some hfound
    obtain rfl : stableId digest now store.events subject = k := of_decide_eq_true identified
    exact ⟨subject, hfound, hp⟩
  · rintro ⟨subject, held, hp⟩
    exact ⟨_, subject, held, hp⟩

/-- No listed alert is grouped exactly when no held subject is reported at a
grouped severity. -/
theorem ungrouped_listed_iff {keyed : List Alert}
    (hkeyed : stableAlerts ids digest store now = .ok keyed) :
    (∀ alert ∈ (AlertStore.empty.extend keyed).1.list none none none,
        alert.severity ∉ groupedSeverities) ↔
      ∀ subject, HeldUnder digest now store.events subject →
        subject.severity now store.events ∉ groupedSeverities := by
  have listed := not_congr (exists_listed_iff hkeyed
    fun fields => fields.severity ∈ groupedSeverities)
  simpa only [not_exists, not_and, Subject.alert_severity] using listed

/-- Every listed alert cites an event of the store. -/
theorem cited_of_listed {keyed : List Alert}
    (hkeyed : stableAlerts ids digest store now = .ok keyed) :
    ∀ alert ∈ (AlertStore.empty.extend keyed).1.list none none none,
      ∃ event ∈ store.events, event.eventId ∈ alert.relatedEvents := by
  intro alert halert
  obtain ⟨k, hk⟩ := AlertStore.mem_list_extend.mp halert
  have raised : alert.toAlertFields ∈
      (overSubjects now store.events).map (Subject.alert now store.events) := by
    have fields := congrArg (List.map Prod.fst) (stableAlerts_eq_ok hkeyed)
    rw [List.map_map, List.map_map] at fields
    have member : alert.toAlertFields ∈ keyed.map (·.toAlertFields) :=
      List.mem_map_of_mem (List.mem_reverse.mp (List.mem_of_find?_eq_some hk))
    exact (congrArg (alert.toAlertFields ∈ ·) fields).mp member
  obtain ⟨subject, hsubject, hfields⟩ := List.mem_map.mp raised
  obtain ⟨event, hevent⟩ :=
    List.exists_mem_of_ne_nil _ (Subject.evidence_ne_nil (mem_overSubjects.mp hsubject))
  refine ⟨event, Subject.mem_events_of_mem_evidence hevent, ?_⟩
  rw [← hfields, Subject.alert_relatedEvents]
  exact List.mem_map_of_mem hevent

/-- The stores the loader turns into writes. -/
structure Loadable (now : Datetime) (events : List SecurityEvent) : Prop where
  readable : Readable events
  fits : WindowFits UnauthorisedAccess.detectionWindow now
  attributable : ∀ subject : Subject, subject.Over now events → Attributable now events subject
  grouping : (∀ incidentId event, creation events incidentId = some event → GroupingFits event) ∨
    ∀ subject, Held now events subject → subject.severity now events ∉ groupedSeverities

omit [UnicodeDb] in
/-- A store is loadable where its texts can be encoded and no event is in the calendar's
first half hour. -/
theorem loadable_of_encodable {events : List SecurityEvent} (readable : Readable events)
    (fits : WindowFits UnauthorisedAccess.detectionWindow now)
    (encodable : ∀ event ∈ events, EncodableEvent event)
    (late : ∀ event ∈ events, incidentWindow ≤ timeOf event) : Loadable now events where
  readable := readable
  fits := fits
  attributable _ hover := attributable_of_encodable encodable hover
  grouping := .inl fun _ event hcreation => late event (of_creation hcreation).1

/-- The same under a digest that may not tell texts apart. -/
structure LoadableUnder (digest : Digest) (now : Datetime) (events : List SecurityEvent) :
    Prop where
  readable : Readable events
  fits : WindowFits UnauthorisedAccess.detectionWindow now
  attributable : ∀ subject : Subject, subject.Over now events → Attributable now events subject
  grouping : (∀ incidentId event, creation events incidentId = some event → GroupingFits event) ∨
    ∀ subject, HeldUnder digest now events subject →
      subject.severity now events ∉ groupedSeverities

theorem loadableUnder_iff (collisionFree : Function.Injective digest)
    {events : List SecurityEvent} :
    LoadableUnder digest now events ↔ Loadable now events := by
  have held (subject : Subject) :
      HeldUnder digest now events subject ↔ Held now events subject := heldUnder_iff collisionFree
  constructor
  · rintro ⟨readable, fits, attributable, grouping⟩
    exact ⟨readable, fits, attributable, grouping.imp_right fun each subject h =>
      each subject ((held subject).mpr h)⟩
  · rintro ⟨readable, fits, attributable, grouping⟩
    exact ⟨readable, fits, attributable, grouping.imp_right fun each subject h =>
      each subject ((held subject).mp h)⟩

/-- The loader returns exactly on stores that are loadable under its digest. -/
theorem exists_collectWrites_iff_loadableUnder {clock : Datetime} :
    (∃ sources, collectWrites ids digest clock store = .ok sources) ↔
      LoadableUnder digest (latest clock store.events) store.events := by
  constructor
  · rintro ⟨sources, hsources⟩
    obtain ⟨moment, raised, keyed, events, hmoment, hraised, hkeyed, hevents, -⟩ :=
      exists_of_collectWrites hsources
    have stable : stableAlerts ids digest store moment = .ok keyed :=
      (bind_of_eq_ok hraised _).trans hkeyed
    obtain ⟨fits, readable, attributable⟩ := exists_stableAlerts_iff.mp ⟨keyed, stable⟩
    obtain rfl : latest clock store.events = moment :=
      Except.ok.inj ((latestMoment_eq readable).symm.trans hmoment)
    obtain ⟨_, -, hevents⟩ := bind_eq_ok hevents
    obtain ⟨incidentWrites, hincidents, -⟩ := bind_eq_ok hevents
    refine ⟨readable, fits, attributable, ?_⟩
    exact ((exists_incidents_iff readable (cited_of_listed stable)).mp ⟨_, hincidents⟩).imp_right
      (ungrouped_listed_iff stable).mp
  · rintro ⟨readable, fits, attributable, grouping⟩
    obtain ⟨keyed, hkeyed⟩ : ∃ keyed, stableAlerts ids digest store
        (latest clock store.events) = .ok keyed :=
      exists_stableAlerts_iff.mpr ⟨fits, readable, attributable⟩
    have grouping' := grouping.imp_right (ungrouped_listed_iff hkeyed).mpr
    obtain ⟨incidentWrites, hincidents⟩ :=
      (exists_incidents_iff readable (cited_of_listed hkeyed)).mpr grouping'
    obtain ⟨raised, hraised, hkeyed⟩ := bind_eq_ok hkeyed
    obtain ⟨writes, hwrites⟩ : ∃ writes,
        LoadEvents.events store (AlertStore.empty.extend keyed).1 = .ok writes :=
      ⟨_, (bind_of_eq_ok (allEvents_of_readable readable) _).trans (bind_of_eq_ok hincidents _)⟩
    exact ⟨_, collectWrites_eq_ok (latestMoment_eq readable) hraised hkeyed hwrites⟩

/-- The loader returns exactly on loadable stores. -/
theorem exists_collectWrites_iff {clock : Datetime} (collisionFree : Function.Injective digest) :
    (∃ sources, collectWrites ids digest clock store = .ok sources) ↔
      Loadable (latest clock store.events) store.events :=
  exists_collectWrites_iff_loadableUnder.trans (loadableUnder_iff collisionFree)

end CollectWrites

end SentinelIR.Loader
