/-
# What an incident becomes

An incident is to be told by its events in the order they happened: the last gives its
severity, the first creation its title and its time, and the half hour before that the alerts
it contains. The loader sorts the events a second time, by the text of their timestamps, and
knows one time for each identifier. What it writes is right exactly when neither makes a
difference and the half hour can be subtracted.
-/

import SentinelIR.Loader.Complete

namespace SentinelIR.Loader

open SentinelIR.Py SentinelIR.Graph SentinelIR.Common SentinelIR.Alerts SentinelIR.Collector
  SentinelIR.Rules LoadEvents

/-! ## Reading the writes -/

/-- The incident whose node a write merges, with what it sets. -/
def nodeOf? (write : Write) : Option (Str × List (Property × Option Value)) :=
  match write.statement with
  | [.mergeNode 'i' .incident .incidentId (.text entity), .setProps 'i' assignments] =>
      some (entity, assignments)
  | _ => none

/-- The incident and the event that a write joins. -/
def concerned? (write : Write) : Option (Str × Str) :=
  match write.statement with
  | [.matchNode 'e' .event .eventId (.text eventId),
      .matchNode 'i' .incident .incidentId (.text entity), .mergeEdge 'e' .concerns 'i'] =>
      some (entity, eventId)
  | _ => none

/-- The incident and the alert that a write joins. -/
def contained? (write : Write) : Option (Str × Str) :=
  match write.statement with
  | [.matchNode 'i' .incident .incidentId (.text entity),
      .matchNode 'a' .alert .alertId (.text alertId), .mergeEdge 'i' .contains 'a'] =>
      some (entity, alertId)
  | _ => none

/-- What is read of one incident. -/
def readOf {α : Type} (read : Write → Option (Str × α)) (entity : Str) (writes : List Write) :
    List α :=
  writes.filterMap fun write => (read write).bind fun found =>
    if found.1 = entity then some found.2 else none

/-! ## An incident's own story -/

/-- The events of an incident in the order they happened. -/
def raisedBy (events : List SecurityEvent) (entity : Str) : List SecurityEvent :=
  (chronological events).filter fun event => incidentOf event = some entity

/-- The alert is `HIGH` or `CRITICAL` and cites an event of the half hour up to a moment. -/
def CitesWithin (events : List SecurityEvent) (moment : Micros) (alert : Alert) : Prop :=
  (alert.severity = .high ∨ alert.severity = .critical) ∧
    ∃ event ∈ events, event.eventId ∈ alert.relatedEvents ∧
      moment - incidentWindow ≤ timeOf event ∧ timeOf event ≤ moment

instance (events : List SecurityEvent) (moment : Micros) (alert : Alert) :
    Decidable (CitesWithin events moment alert) :=
  inferInstanceAs (Decidable (_ ∧ ∃ event ∈ events, _))

/-- The incident's part of the writes: one node, with the severity of its last event and the
title and the time of its creation, an edge from each of its events, and an edge to each of
the alerts it contains. -/
structure Told (events : List SecurityEvent) (alerts : List Alert) (writes : List Write)
    (entity : Str) : Prop where
  absent : raisedBy events entity = [] → readOf nodeOf? entity writes = [] ∧
    readOf contained? entity writes = []
  node : ∀ first, (raisedBy events entity).head? = some first →
    ∀ latest, (raisedBy events entity).getLast? = some latest →
      ∃ assignments, readOf nodeOf? entity writes = [assignments] ∧
        assignments.lookup .severity = some (text latest.severity.value) ∧
        assignments.lookup .title =
          some (text (createdOf first (raisedBy events entity)).message) ∧
        assignments.lookup .createdAt =
          some (text (createdOf first (raisedBy events entity)).timestamp)
  concerns : (readOf concerned? entity writes).Perm
    ((raisedBy events entity).map (·.eventId))
  contains : ∀ first, (raisedBy events entity).head? = some first →
    (readOf contained? entity writes).Perm
      ((alerts.filter fun alert => CitesWithin events
        (timeOf (createdOf first (raisedBy events entity))) alert).map (·.alertId))

/-! ## When it is told so -/

/-- The events of an incident, sorted once more by the text of their timestamps. -/
def byText (events : List SecurityEvent) (entity : Str) : List SecurityEvent :=
  sortedBy (·.timestamp) (raisedBy events entity)

/-- An event the alert cites is not before the half hour, and no event with its identifier
is after the moment. -/
def CitesOnce (events : List SecurityEvent) (moment : Micros) (alert : Alert) : Prop :=
  (alert.severity = .high ∨ alert.severity = .critical) ∧
    ∃ event ∈ events, event.eventId ∈ alert.relatedEvents ∧
      moment - incidentWindow ≤ timeOf event ∧
        ∀ other ∈ events, other.eventId = event.eventId → timeOf other ≤ moment

/-- The texts of the timestamps put an event of the same severity last, and a creation that
says the same first; where an alert is to be grouped, the half hour stays inside the calendar
and the event is not found again later. -/
structure Unambiguous (events : List SecurityEvent) (alerts : List Alert) (entity : Str) :
    Prop where
  latest : (byText events entity).getLast?.map (·.severity) =
    (raisedBy events entity).getLast?.map (·.severity)
  created : ∀ first, (raisedBy events entity).head? = some first →
    ∀ textually, (byText events entity).head? = some textually →
      (createdOf textually (byText events entity)).message =
          (createdOf first (raisedBy events entity)).message ∧
        (createdOf textually (byText events entity)).timestamp =
          (createdOf first (raisedBy events entity)).timestamp
  fits : ∀ first, (raisedBy events entity).head? = some first →
    ∀ alert ∈ alerts, (alert.severity = .high ∨ alert.severity = .critical) →
      (∃ event ∈ events, event.eventId ∈ alert.relatedEvents) →
        GroupingFits (createdOf first (raisedBy events entity))
  once : ∀ first, (raisedBy events entity).head? = some first → ∀ alert ∈ alerts,
    CitesWithin events (timeOf (createdOf first (raisedBy events entity))) alert →
      CitesOnce events (timeOf (createdOf first (raisedBy events entity))) alert

theorem byText_eq (events : List SecurityEvent) (entity : Str) :
    byText events entity = incidentEvents events entity :=
  (filter_sortedBy _ _ _).symm

/-! ## The times of the identifiers -/

section Times

variable {events : List SecurityEvent} {times : Dict Str Micros}

/-- Each identifier has the time of its last event. -/
theorem get?_times (readable : Readable events) (htimes : eventTimes events = .ok times)
    (eventId : Str) :
    times.get? eventId =
      ((events.filter fun event => event.eventId = eventId).getLast?).map timeOf := by
  have items : mapE (fun event => (parseTimestamp event.timestamp).map fun t =>
      (event.eventId, t.instant)) events =
        .ok (events.map fun event => (event.eventId, timeOf event)) := by
    apply mapE_eq_ok
    intro event hevent
    obtain ⟨t, ht, htime⟩ := parseTimestamp_of_readable readable hevent
    rw [ht, ← htime]
    rfl
  rw [eventTimes, items] at htimes
  rw [← Except.ok.inj htimes]
  dsimp only
  rw [List.foldl_map]
  exact get?_foldl_set_value _ timeOf events eventId

/-- In the order they happened that is the greatest of their times. -/
theorem get?_times_eq_some_iff (readable : Readable events)
    (htimes : eventTimes (chronological events) = .ok times) {eventId : Str} {moment : Micros} :
    times.get? eventId = some moment ↔
      (∃ event ∈ events, event.eventId = eventId ∧ timeOf event = moment) ∧
        ∀ other ∈ events, other.eventId = eventId → timeOf other ≤ moment := by
  have held := get?_times (readable.subset fun event => mem_chronological.mp) htimes eventId
  have sorted : (chronological events).filter (fun event => event.eventId = eventId) =
      sortedBy timeOf (events.filter fun event => event.eventId = eventId) :=
    filter_sortedBy _ _ _
  have greatest : ∀ {found : Micros}, times.get? eventId = some found →
      (∃ event ∈ events, event.eventId = eventId ∧ timeOf event = found) ∧
        ∀ other ∈ events, other.eventId = eventId → timeOf other ≤ found := by
    intro found hfound
    rw [held, sorted] at hfound
    obtain ⟨last, hlast, rfl⟩ := Option.map_eq_some_iff.mp hfound
    obtain ⟨present, named⟩ := List.mem_filter.mp (mem_sortedBy.mp (List.mem_of_getLast? hlast))
    refine ⟨⟨last, present, of_decide_eq_true named, rfl⟩, ?_⟩
    intro other hother same
    exact le_getLast_of_mem_sortedBy hlast (List.mem_filter.mpr ⟨hother, decide_eq_true same⟩)
  constructor
  · exact greatest
  · rintro ⟨⟨event, hevent, rfl, rfl⟩, least⟩
    obtain ⟨found, hfound⟩ := Option.isSome_iff_exists.mp
      (get?_eventTimes htimes (mem_chronological.mpr hevent))
    obtain ⟨⟨last, hlast, same, rfl⟩, most⟩ := greatest hfound
    rw [hfound, le_antisymm (least last hlast same) (most event hevent rfl)]

/-- The times of the identifiers an alert cites. -/
def momentsOf (times : Dict Str Micros) (alert : Alert) : List Micros :=
  alert.relatedEvents.filterMap times.get?

theorem momentsOf_ne_nil_iff (readable : Readable events)
    (htimes : eventTimes (chronological events) = .ok times) {alert : Alert} :
    momentsOf times alert ≠ [] ↔ ∃ event ∈ events, event.eventId ∈ alert.relatedEvents := by
  constructor
  · intro cites
    obtain ⟨moment, hmoment⟩ := List.exists_mem_of_ne_nil _ cites
    obtain ⟨eventId, hcited, htime⟩ := List.mem_filterMap.mp hmoment
    obtain ⟨⟨event, hevent, rfl, -⟩, -⟩ := (get?_times_eq_some_iff readable htimes).mp htime
    exact ⟨event, hevent, hcited⟩
  · rintro ⟨event, hevent, hcited⟩
    obtain ⟨moment, hmoment⟩ := Option.isSome_iff_exists.mp
      (get?_eventTimes htimes (mem_chronological.mpr hevent))
    exact List.ne_nil_of_mem (List.mem_filterMap.mpr ⟨event.eventId, hcited, hmoment⟩)

/-- The loader groups the alert into an incident of the moment. -/
def Grouped (times : Dict Str Micros) (moment : Micros) (alert : Alert) : Prop :=
  alert.severity ∈ groupedSeverities ∧ ∃ cited ∈ momentsOf times alert,
    moment - incidentWindow ≤ cited ∧ cited ≤ moment

instance (times : Dict Str Micros) (moment : Micros) (alert : Alert) :
    Decidable (Grouped times moment alert) :=
  inferInstanceAs (Decidable (_ ∧ ∃ cited ∈ momentsOf times alert, _))

theorem mem_groupedSeverities {severity : Severity} :
    severity ∈ groupedSeverities ↔ severity = .high ∨ severity = .critical := by
  rw [groupedSeverities, List.mem_cons, List.mem_singleton]

theorem grouped_iff (readable : Readable events)
    (htimes : eventTimes (chronological events) = .ok times) {moment : Micros} {alert : Alert} :
    Grouped times moment alert ↔ CitesOnce events moment alert := by
  rw [Grouped, CitesOnce, mem_groupedSeverities]
  apply and_congr_right
  intro _
  constructor
  · rintro ⟨cited, hcited, recent, past⟩
    obtain ⟨eventId, hrelated, htime⟩ := List.mem_filterMap.mp hcited
    obtain ⟨⟨event, hevent, rfl, rfl⟩, least⟩ := (get?_times_eq_some_iff readable htimes).mp htime
    exact ⟨event, hevent, hrelated, recent,
      fun other hother same => (least other hother same).trans past⟩
  · rintro ⟨event, hevent, hrelated, recent, past⟩
    obtain ⟨found, hfound⟩ := Option.isSome_iff_exists.mp
      (get?_eventTimes htimes (mem_chronological.mpr hevent))
    obtain ⟨⟨last, hlast, same, rfl⟩, most⟩ :=
      (get?_times_eq_some_iff readable htimes).mp hfound
    exact ⟨timeOf last, List.mem_filterMap.mpr ⟨event.eventId, hrelated, hfound⟩,
      recent.trans (most event hevent rfl), past last hlast same⟩

end Times

/-! ## What is written -/

/-- The properties of an incident's node. -/
def nodeProps (created latest : SecurityEvent) : List (Property × Option Value) :=
  [(.title, text created.message), (.severity, text latest.severity.value),
    (.createdAt, text created.timestamp), (.reportedBy, optional created.userId)]

/-- The writes of an incident, where they exist. -/
def written (alerts : List Alert) (times : Dict Str Micros) :
    Str × List SecurityEvent → List Write
  | (_, []) => []
  | (entity, first :: rest) =>
      incidentNode entity (createdOf first (first :: rest))
          ((first :: rest).getLast?.getD first) ::
        (first :: rest).map (concernsWrite entity) ++
        affectsWrites entity (createdOf first (first :: rest)).message ++
        (alerts.filter fun alert =>
          Grouped times (timeOf (createdOf first (first :: rest))) alert).map (containsLink entity)

/-- The half hour can be subtracted where an alert is to be grouped. -/
def Subtractable (alerts : List Alert) (times : Dict Str Micros)
    (item : Str × List SecurityEvent) : Prop :=
  ∀ first, item.2.head? = some first → ∀ alert ∈ alerts, alert.severity ∈ groupedSeverities →
    momentsOf times alert ≠ [] → GroupingFits (createdOf first item.2)

section Written

variable {alerts : List Alert} {times : Dict Str Micros} {entity : Str}

theorem inWindow_of_le {createdAt : Datetime} (fits : incidentWindow ≤ createdAt.instant) :
    LoadEvents.inWindow createdAt = fun moment =>
      .ok (decide (createdAt.instant - incidentWindow ≤ moment ∧ moment ≤ createdAt.instant)) := by
  rw [LoadEvents.inWindow_eq]
  funext moment
  dsimp only
  rw [Datetime.minus_of_le fits]

theorem containsWrite_eq {createdAt : Datetime} {alert : Alert}
    (fits : alert.severity ∈ groupedSeverities → momentsOf times alert ≠ [] →
      incidentWindow ≤ createdAt.instant) :
    containsWrite entity createdAt times alert =
      .ok (if Grouped times createdAt.instant alert then [containsLink entity alert] else []) := by
  rw [containsWrite]
  by_cases severe : alert.severity ∈ groupedSeverities
  case neg => rw [if_neg severe, if_neg fun grouped => severe grouped.1]
  rw [if_pos severe]
  have found : anyE (inWindow createdAt) (momentsOf times alert) =
      .ok ((momentsOf times alert).any fun cited =>
        decide (createdAt.instant - incidentWindow ≤ cited ∧ cited ≤ createdAt.instant)) := by
    by_cases cites : momentsOf times alert = []
    · rw [cites]
      rfl
    · apply anyE_eq_ok
      intro cited _
      rw [inWindow_of_le (fits severe cites)]
  have same : ((momentsOf times alert).any fun cited =>
      decide (createdAt.instant - incidentWindow ≤ cited ∧ cited ≤ createdAt.instant)) = true ↔
        Grouped times createdAt.instant alert := by
    rw [List.any_eq_true, Grouped, and_iff_right severe]
    simp only [decide_eq_true_eq]
  rw [momentsOf] at found
  rw [found]
  exact congrArg Except.ok (if_congr same rfl rfl)

theorem flatten_map_if {α β : Type} {p : α → Prop} [DecidablePred p] (f : α → β) (xs : List α) :
    (xs.map fun x => if p x then [f x] else []).flatten = (xs.filter fun x => p x).map f := by
  induction xs with
  | nil => rfl
  | cons x xs ih =>
      rw [List.map_cons, List.flatten_cons, ih]
      by_cases holds : p x
      · simp [holds]
      · simp [holds]

theorem groupWrites_eq {group : List SecurityEvent} (readable : Readable group)
    (fits : Subtractable alerts times (entity, group)) :
    groupWrites alerts times (entity, group) = .ok (written alerts times (entity, group)) := by
  cases group with
  | nil => rfl
  | cons first rest =>
      obtain ⟨createdAt, hcreated, htime⟩ :=
        parseTimestamp_of_readable readable (createdOf_mem List.mem_cons_self)
      have links : mapE (containsWrite entity createdAt times) alerts =
          .ok (alerts.map fun alert =>
            if Grouped times createdAt.instant alert then [containsLink entity alert] else []) := by
        apply mapE_eq_ok
        intro alert halert
        apply containsWrite_eq
        intro severe cites
        rw [htime]
        exact fits first rfl alert halert severe cites
      change incidentWrites entity first (first :: rest) alerts times = _
      rw [incidentWrites]
      refine (bind_of_eq_ok hcreated _).trans ((bind_of_eq_ok links _).trans ?_)
      rw [flatten_map_if, htime]
      rfl

theorem subtractable_of_groupWrites {group : List SecurityEvent} (readable : Readable group)
    {writes : List Write} (returned : groupWrites alerts times (entity, group) = .ok writes) :
    Subtractable alerts times (entity, group) := by
  intro first hfirst alert halert severe cites
  obtain ⟨rest, rfl⟩ := List.head?_eq_some_iff.mp hfirst
  change incidentWrites entity first (first :: rest) alerts times = _ at returned
  rw [incidentWrites] at returned
  obtain ⟨createdAt, hcreated, returned⟩ := bind_eq_ok returned
  obtain ⟨links, hlinks, -⟩ := bind_eq_ok returned
  obtain ⟨link, -, hlink⟩ := exists_value_of_mem hlinks halert
  obtain ⟨createdAt', hcreated', htime⟩ :=
    parseTimestamp_of_readable readable
      (show createdOf first (first :: rest) ∈ _ from createdOf_mem List.mem_cons_self)
  obtain rfl := Except.ok.inj (hcreated'.symm.trans hcreated)
  rw [GroupingFits, ← htime]
  exact ((exists_containsWrite_iff cites).mp ⟨link, hlink⟩).resolve_left (not_not_intro severe)

end Written

/-! ## What is read -/

section Reading

variable {α : Type} {read : Write → Option (Str × α)} {entity : Str}

theorem readOf_append (writes others : List Write) :
    readOf read entity (writes ++ others) =
      readOf read entity writes ++ readOf read entity others :=
  List.filterMap_append

theorem readOf_flatMap {β : Type} (items : List β) (f : β → List Write) :
    readOf read entity (items.flatMap f) = items.flatMap fun item => readOf read entity (f item) :=
  List.filterMap_flatMap

theorem readOf_eq_nil {writes : List Write}
    (others : ∀ write ∈ writes, ∀ found, read write = some found → found.1 ≠ entity) :
    readOf read entity writes = [] := by
  rw [readOf, List.filterMap_eq_nil_iff]
  intro write hwrite
  cases hread : read write with
  | none => rfl
  | some found => exact if_neg (others write hwrite found hread)

theorem readOf_of_silent {writes : List Write}
    (silent : ∀ write ∈ writes, read write = none) : readOf read entity writes = [] := by
  apply readOf_eq_nil
  intro write hwrite found hread
  rw [silent write hwrite] at hread
  cases hread

theorem readOf_map_of_silent {β : Type} {f : β → Write} (silent : ∀ x, read (f x) = none)
    (xs : List β) : readOf read entity (xs.map f) = [] := by
  apply readOf_of_silent
  intro write hwrite
  obtain ⟨x, -, rfl⟩ := List.mem_map.mp hwrite
  exact silent x

theorem readOf_map {β : Type} {f : β → Write} {g : β → α} {xs : List β}
    (own : ∀ x ∈ xs, read (f x) = some (entity, g x)) :
    readOf read entity (xs.map f) = xs.map g := by
  rw [readOf, List.filterMap_map, ← List.filterMap_eq_map]
  apply List.filterMap_congr
  intro x hx
  rw [Function.comp_apply, own x hx]
  exact if_pos rfl

theorem read_affects (own : Str) (message : Str) :
    ∀ write ∈ affectsWrites own message,
      nodeOf? write = none ∧ concerned? write = none ∧ contained? write = none := by
  intro write hwrite
  rw [affectsWrites] at hwrite
  split at hwrite
  · rw [List.mem_singleton.mp hwrite]
    exact ⟨rfl, rfl, rfl⟩
  · cases hwrite

theorem readOf_singleton {write : Write} {value : α} (own : read write = some (entity, value)) :
    readOf read entity [write] = [value] := by
  simp only [readOf, List.filterMap_cons, List.filterMap_nil, own, Option.bind_some, if_true]

variable {alerts : List Alert} {times : Dict Str Micros}

/-- The writes of an incident speak about that incident. -/
theorem owner_of_written {own : Str} {group : List SecurityEvent} {write : Write}
    (hwrite : write ∈ written alerts times (own, group)) :
    (∀ found, nodeOf? write = some found → found.1 = own) ∧
      (∀ found, concerned? write = some found → found.1 = own) ∧
        ∀ found, contained? write = some found → found.1 = own := by
  cases group with
  | nil => cases hwrite
  | cons first rest =>
      simp only [written, List.cons_append, List.mem_cons, List.mem_append, List.mem_map]
        at hwrite
      rcases hwrite with rfl | (⟨event, -, rfl⟩ | affects) | ⟨alert, -, rfl⟩
      · refine ⟨?_, nofun, nofun⟩
        rintro found ⟨⟩
        rfl
      · refine ⟨nofun, ?_, nofun⟩
        rintro found ⟨⟩
        rfl
      · obtain ⟨node, concerned, contained⟩ := read_affects own _ write affects
        rw [node, concerned, contained]
        exact ⟨nofun, nofun, nofun⟩
      · refine ⟨nofun, nofun, ?_⟩
        rintro found ⟨⟩
        rfl

section Pieces

variable (first : SecurityEvent) (rest : List SecurityEvent)

/-- What is read of an incident's writes is read of its four parts. -/
theorem readOf_written (read : Write → Option (Str × α)) :
    readOf read entity (written alerts times (entity, first :: rest)) =
      readOf read entity [incidentNode entity (createdOf first (first :: rest))
          ((first :: rest).getLast?.getD first)] ++
        readOf read entity ((first :: rest).map (concernsWrite entity)) ++
        readOf read entity (affectsWrites entity (createdOf first (first :: rest)).message) ++
        readOf read entity ((alerts.filter fun alert =>
          Grouped times (timeOf (createdOf first (first :: rest))) alert).map
            (containsLink entity)) := by
  rw [written, ← List.singleton_append, readOf_append, readOf_append, readOf_append]

theorem read_node : readOf nodeOf? entity (written alerts times (entity, first :: rest)) =
    [nodeProps (createdOf first (first :: rest)) ((first :: rest).getLast?.getD first)] := by
  have concerns : readOf nodeOf? entity ((first :: rest).map (concernsWrite entity)) = [] :=
    readOf_map_of_silent (fun _ => rfl) _
  have affects (message : Str) : readOf nodeOf? entity (affectsWrites entity message) = [] :=
    readOf_of_silent fun write hwrite => (read_affects entity message write hwrite).1
  have contains (grouped : List Alert) :
      readOf nodeOf? entity (grouped.map (containsLink entity)) = [] :=
    readOf_map_of_silent (fun _ => rfl) grouped
  rw [readOf_written, concerns, affects, contains, List.append_nil, List.append_nil,
    List.append_nil]
  exact readOf_singleton rfl

theorem read_concerned :
    readOf concerned? entity (written alerts times (entity, first :: rest)) =
      (first :: rest).map (·.eventId) := by
  have node (created latest : SecurityEvent) :
      readOf concerned? entity [incidentNode entity created latest] = [] := rfl
  have affects (message : Str) : readOf concerned? entity (affectsWrites entity message) = [] :=
    readOf_of_silent fun write hwrite => (read_affects entity message write hwrite).2.1
  have contains (grouped : List Alert) :
      readOf concerned? entity (grouped.map (containsLink entity)) = [] :=
    readOf_map_of_silent (fun _ => rfl) grouped
  rw [readOf_written, node, affects, contains, List.nil_append, List.append_nil, List.append_nil]
  exact readOf_map fun _ _ => rfl

theorem read_contained :
    readOf contained? entity (written alerts times (entity, first :: rest)) =
      (alerts.filter fun alert =>
        Grouped times (timeOf (createdOf first (first :: rest))) alert).map (·.alertId) := by
  have node (created latest : SecurityEvent) :
      readOf contained? entity [incidentNode entity created latest] = [] := rfl
  have concerns : readOf contained? entity ((first :: rest).map (concernsWrite entity)) = [] :=
    readOf_map_of_silent (fun _ => rfl) _
  have affects (message : Str) : readOf contained? entity (affectsWrites entity message) = [] :=
    readOf_of_silent fun write hwrite => (read_affects entity message write hwrite).2.2
  rw [readOf_written, node, concerns, affects, List.nil_append, List.nil_append, List.nil_append]
  exact readOf_map fun _ _ => rfl

end Pieces

end Reading

/-! ## The items of the grouping -/

/-- The incidents with their events, as the loader goes through them. -/
def itemsOf (events : List SecurityEvent) : List (Str × List SecurityEvent) :=
  (groupBy incidentOf (sortedBy (·.timestamp) (chronological events))).sortedItems

section Items

variable {events : List SecurityEvent} {entity : Str} {times : Dict Str Micros}

theorem mem_itemsOf {item : Str × List SecurityEvent} :
    item ∈ itemsOf events ↔ item.2 ≠ [] ∧ item.2 = byText events item.1 := by
  rw [itemsOf, Dict.mem_sortedItems, mem_groupBy, byText_eq]
  rfl

theorem byText_subset : byText events entity ⊆ events := fun _ hevent =>
  mem_chronological.mp (List.mem_of_mem_filter (mem_sortedBy.mp hevent))

/-- What is read of an incident is read of its own writes. -/
theorem readOf_items {α : Type} {read : Write → Option (Str × α)} {alerts : List Alert}
    (owned : ∀ own group, ∀ write ∈ written alerts times (own, group), ∀ found,
      read write = some found → found.1 = own) :
    readOf read entity ((itemsOf events).flatMap (written alerts times)) =
      readOf read entity (written alerts times (entity, byText events entity)) := by
  have others : ∀ item ∈ itemsOf events, item.1 ≠ entity →
      readOf read entity (written alerts times item) = [] := by
    intro item _ apart
    apply readOf_eq_nil
    intro write hwrite found hread same
    exact apart ((owned item.1 item.2 write hwrite found hread).symm.trans same)
  rw [readOf_flatMap]
  by_cases nothing : byText events entity = []
  · rw [nothing, List.flatMap_eq_nil_iff.mpr]
    · rfl
    · intro item hitem
      apply others item hitem
      rintro rfl
      exact (mem_itemsOf.mp hitem).1 ((mem_itemsOf.mp hitem).2.trans nothing)
  · exact flatMap_eq_of_key (Dict.nodup_sortedItems _)
      (mem_itemsOf.mpr ⟨nothing, rfl⟩) others

variable {store : EventStore} {alertStore : AlertStore} {writes : List Write}

/-- The loader returns when it can subtract the half hour wherever it has to, and then has
written every incident. -/
theorem incidents_eq_ok_iff (readable : Readable store.events)
    (htimes : eventTimes (chronological store.events) = .ok times) :
    incidents store alertStore = .ok writes ↔
      (∀ item ∈ itemsOf store.events,
        Subtractable (alertStore.list none none none) times item) ∧
          writes = (itemsOf store.events).flatMap
            (written (alertStore.list none none none) times) := by
  have collected := allEvents_of_readable readable
  have readableItem : ∀ item ∈ itemsOf store.events, Readable item.2 := by
    intro item hitem
    rw [(mem_itemsOf.mp hitem).2]
    exact readable.subset byText_subset
  constructor
  · intro returned
    rw [incidents] at returned
    obtain ⟨events, hevents, returned⟩ := bind_eq_ok returned
    obtain rfl := Except.ok.inj (collected.symm.trans hevents)
    obtain ⟨again, hagain, returned⟩ := bind_eq_ok returned
    obtain rfl := Except.ok.inj (collected.symm.trans hagain)
    obtain ⟨times', htimes', returned⟩ := bind_eq_ok returned
    obtain rfl := Except.ok.inj (htimes.symm.trans htimes')
    obtain ⟨lists, hlists, returned⟩ := bind_eq_ok returned
    have fits : ∀ item ∈ itemsOf store.events,
        Subtractable (alertStore.list none none none) times item := by
      intro item hitem
      obtain ⟨group, -, hgroup⟩ := exists_value_of_mem hlists hitem
      exact subtractable_of_groupWrites (readableItem item hitem) hgroup
    have all := mapE_eq_ok fun item hitem =>
      groupWrites_eq (readableItem item hitem) (fits item hitem)
    obtain rfl := Except.ok.inj (hlists.symm.trans all)
    refine ⟨fits, ?_⟩
    rw [List.flatMap_def]
    exact (Except.ok.inj returned).symm
  · rintro ⟨fits, rfl⟩
    have all := mapE_eq_ok fun item hitem =>
      groupWrites_eq (readableItem item hitem) (fits item hitem)
    rw [incidents, List.flatMap_def]
    exact (bind_of_eq_ok collected _).trans <| (bind_of_eq_ok collected _).trans <|
      (bind_of_eq_ok htimes _).trans (bind_of_eq_ok all _)

end Items

/-! ## One incident -/

section Incident

variable {events : List SecurityEvent} {alerts : List Alert} {writes : List Write} {entity : Str}
  {times : Dict Str Micros}

theorem severity_value_injective : Function.Injective Severity.value := by
  intro first second same
  revert same
  cases first <;> cases second <;> decide

theorem perm_byText (events : List SecurityEvent) (entity : Str) :
    (byText events entity).Perm (raisedBy events entity) := perm_sortedBy _ _

/-- An incident the stream does not mention is told by writing nothing. -/
theorem told_of_absent (nothing : raisedBy events entity = []) :
    Told events alerts ((itemsOf events).flatMap (written alerts times)) entity := by
  have textually : byText events entity = [] := by
    rw [byText, nothing]
    rfl
  have nodes : readOf nodeOf? entity ((itemsOf events).flatMap (written alerts times)) = [] := by
    rw [readOf_items fun _ _ _ hwrite => (owner_of_written hwrite).1, textually]
    rfl
  have concerned :
      readOf concerned? entity ((itemsOf events).flatMap (written alerts times)) = [] := by
    rw [readOf_items fun _ _ _ hwrite => (owner_of_written hwrite).2.1, textually]
    rfl
  have contained :
      readOf contained? entity ((itemsOf events).flatMap (written alerts times)) = [] := by
    rw [readOf_items fun _ _ _ hwrite => (owner_of_written hwrite).2.2, textually]
    rfl
  constructor
  · exact fun _ => ⟨nodes, contained⟩
  · rw [nothing]
    rintro first ⟨⟩
  · rw [nothing, concerned]
    exact .nil
  · rw [nothing]
    rintro first ⟨⟩

theorem unambiguous_of_absent (nothing : raisedBy events entity = []) :
    Unambiguous events alerts entity := by
  have textually : byText events entity = [] := by
    rw [byText, nothing]
    rfl
  constructor
  · rw [nothing, textually]
  all_goals
    rw [nothing]
    rintro first ⟨⟩

/-- Counting the alerts an incident is to contain leaves no room for others. -/
theorem contained_perm_iff (readable : Readable events)
    (htimes : eventTimes (chronological events) = .ok times) (moment : Micros) :
    ((alerts.filter fun alert => Grouped times moment alert).map (·.alertId)).Perm
        ((alerts.filter fun alert => CitesWithin events moment alert).map (·.alertId)) ↔
      ∀ alert ∈ alerts, CitesWithin events moment alert → CitesOnce events moment alert := by
  have within : ∀ alert, Grouped times moment alert → CitesWithin events moment alert := by
    intro alert grouped
    obtain ⟨severe, event, hevent, hrelated, recent, past⟩ :=
      (grouped_iff readable htimes).mp grouped
    exact ⟨severe, event, hevent, hrelated, recent, past event hevent rfl⟩
  constructor
  · intro same
    have sublist : (alerts.filter fun alert => Grouped times moment alert).Sublist
        (alerts.filter fun alert => CitesWithin events moment alert) := by
      apply List.monotone_filter_right
      intro alert grouped
      exact decide_eq_true (within alert (of_decide_eq_true grouped))
    have count := same.length_eq
    rw [List.length_map, List.length_map] at count
    have equal := sublist.eq_of_length count
    intro alert halert cites
    have member : alert ∈ alerts.filter fun alert => CitesWithin events moment alert :=
      List.mem_filter.mpr ⟨halert, decide_eq_true cites⟩
    rw [← equal] at member
    exact (grouped_iff readable htimes).mp (of_decide_eq_true (List.mem_filter.mp member).2)
  · intro once
    have equal : (alerts.filter fun alert => Grouped times moment alert) =
        alerts.filter fun alert => CitesWithin events moment alert := by
      apply List.filter_congr
      intro alert halert
      apply decide_eq_decide.mpr
      exact ⟨within alert, fun cites => (grouped_iff readable htimes).mpr (once alert halert cites)⟩
    rw [equal]

/-- What an incident's own events say, and what the loader takes them to say. -/
structure Agrees (events : List SecurityEvent) (alerts : List Alert)
    (created latest textually final : SecurityEvent) : Prop where
  severity : final.severity = latest.severity
  message : textually.message = created.message
  timestamp : textually.timestamp = created.timestamp
  once : ∀ alert ∈ alerts, CitesWithin events (timeOf created) alert →
    CitesOnce events (timeOf created) alert

theorem timeOf_congr {event other : SecurityEvent} (same : event.timestamp = other.timestamp) :
    timeOf event = timeOf other := by
  rw [timeOf, timeOf, same]

section Mentioned

variable {first textually latest final : SecurityEvent} {rest others : List SecurityEvent}

/-- An incident is told as it is when the two orders agree on what is read off them. -/
theorem told_iff_agrees (readable : Readable events)
    (htimes : eventTimes (chronological events) = .ok times)
    (own : raisedBy events entity = first :: rest)
    (hlatest : (first :: rest).getLast? = some latest)
    (sorted : byText events entity = textually :: others)
    (hfinal : (textually :: others).getLast? = some final) :
    Told events alerts ((itemsOf events).flatMap (written alerts times)) entity ↔
      Agrees events alerts (createdOf first (first :: rest)) latest
        (createdOf textually (textually :: others)) final := by
  have node : readOf nodeOf? entity ((itemsOf events).flatMap (written alerts times)) =
      [nodeProps (createdOf textually (textually :: others)) final] := by
    rw [readOf_items fun _ _ _ hwrite => (owner_of_written hwrite).1, sorted, read_node, hfinal]
    rfl
  have concerned : readOf concerned? entity ((itemsOf events).flatMap (written alerts times)) =
      (byText events entity).map (·.eventId) := by
    rw [readOf_items fun _ _ _ hwrite => (owner_of_written hwrite).2.1, sorted, read_concerned]
  have contained : readOf contained? entity ((itemsOf events).flatMap (written alerts times)) =
      (alerts.filter fun alert => Grouped times
        (timeOf (createdOf textually (textually :: others))) alert).map (·.alertId) := by
    rw [readOf_items fun _ _ _ hwrite => (owner_of_written hwrite).2.2, sorted, read_contained]
  constructor
  · intro told
    have told_node := told.node first (by rw [own]; rfl) latest (by rw [own, hlatest])
    have told_contains := told.contains first (by rw [own]; rfl)
    rw [own] at told_node told_contains
    obtain ⟨assignments, read, severity, title, createdAt⟩ := told_node
    obtain rfl : nodeProps _ final = assignments := List.singleton_inj.mp (node.symm.trans read)
    have timestamp := Value.text.inj (Option.some.inj (Option.some.inj createdAt))
    rw [contained, timeOf_congr timestamp] at told_contains
    constructor
    · exact severity_value_injective
        (Value.text.inj (Option.some.inj (Option.some.inj severity)))
    · exact Value.text.inj (Option.some.inj (Option.some.inj title))
    · exact timestamp
    · exact (contained_perm_iff readable htimes _).mp told_contains
  · intro agrees
    constructor
    · intro nothing
      rw [own] at nothing
      cases nothing
    · rw [own]
      rintro head ⟨⟩ last hlast
      obtain rfl : latest = last := Option.some.inj (hlatest.symm.trans hlast)
      refine ⟨_, node, ?_, ?_, ?_⟩
      · rw [← agrees.severity]
        rfl
      · rw [← agrees.message]
        rfl
      · rw [← agrees.timestamp]
        rfl
    · rw [concerned]
      exact (perm_byText events entity).map _
    · rw [own, contained, timeOf_congr agrees.timestamp]
      rintro head ⟨⟩
      exact (contained_perm_iff readable htimes _).mpr agrees.once

end Mentioned

end Incident

/-! ## All incidents -/

section All

variable {store : EventStore} {alertStore : AlertStore} {times : Dict Str Micros}

/-- Where the first creation has one time in both orders, the half hour before it can be
subtracted in both or in neither. -/
theorem subtractable_iff (readable : Readable store.events)
    (htimes : eventTimes (chronological store.events) = .ok times) {alerts : List Alert}
    {entity : Str} {first textually : SecurityEvent} {others : List SecurityEvent}
    (sorted : byText store.events entity = textually :: others)
    (same : (createdOf textually (textually :: others)).timestamp =
      (createdOf first (raisedBy store.events entity)).timestamp) :
    Subtractable alerts times (entity, byText store.events entity) ↔
      ∀ alert ∈ alerts, (alert.severity = .high ∨ alert.severity = .critical) →
        (∃ event ∈ store.events, event.eventId ∈ alert.relatedEvents) →
          GroupingFits (createdOf first (raisedBy store.events entity)) := by
  rw [sorted]
  simp only [Subtractable, List.head?_cons, Option.some.injEq, forall_eq', mem_groupedSeverities,
    momentsOf_ne_nil_iff readable htimes, GroupingFits, timeOf_congr same]

/-- A mentioned incident has events in the order of the text, too. -/
theorem exists_byText {events : List SecurityEvent} {entity : Str} {first : SecurityEvent}
    {rest : List SecurityEvent} (own : raisedBy events entity = first :: rest) :
    ∃ textually others, byText events entity = textually :: others := by
  apply List.exists_cons_of_ne_nil
  intro nothing
  have length := (perm_byText events entity).length_eq
  rw [own, nothing] at length
  cases length

/-- What is told as it was is not ambiguous. -/
theorem unambiguous_of_told (readable : Readable store.events)
    (told : ∃ writes, incidents store alertStore = .ok writes ∧
      ∀ entity, Told store.events (alertStore.list none none none) writes entity) :
    ∀ entity, Unambiguous store.events (alertStore.list none none none) entity := by
  obtain ⟨times, htimes⟩ :=
    exists_eventTimes (readable.subset fun event => mem_chronological.mp)
  obtain ⟨writes, returned, told⟩ := told
  intro entity
  obtain ⟨fits, rfl⟩ := (incidents_eq_ok_iff readable htimes).mp returned
  cases own : raisedBy store.events entity with
  | nil => exact unambiguous_of_absent own
  | cons first rest =>
      obtain ⟨textually, others, sorted⟩ := exists_byText own
      have agrees := (told_iff_agrees readable htimes own
        (List.getLast?_eq_some_getLast (List.cons_ne_nil first rest)) sorted
        (List.getLast?_eq_some_getLast (List.cons_ne_nil textually others))).mp (told entity)
      have subtractable := fits (entity, byText store.events entity)
        (mem_itemsOf.mpr ⟨by rw [sorted]; exact List.cons_ne_nil _ _, rfl⟩)
      constructor
      · rw [own, sorted, List.getLast?_eq_some_getLast (List.cons_ne_nil textually others),
          List.getLast?_eq_some_getLast (List.cons_ne_nil first rest), Option.map_some,
          Option.map_some, agrees.severity]
      · rw [own, sorted]
        rintro head ⟨⟩ front ⟨⟩
        exact ⟨agrees.message, agrees.timestamp⟩
      · intro head hhead
        rw [own] at hhead
        obtain rfl : first = head := Option.some.inj hhead
        exact (subtractable_iff readable htimes sorted
          (own ▸ agrees.timestamp)).mp subtractable
      · rw [own]
        rintro head ⟨⟩
        exact agrees.once

/-- Where nothing is ambiguous the half hour can be subtracted wherever the loader has to. -/
theorem subtractable_of_unambiguous (readable : Readable store.events)
    (htimes : eventTimes (chronological store.events) = .ok times)
    (unambiguous : ∀ entity, Unambiguous store.events (alertStore.list none none none) entity) :
    ∀ item ∈ itemsOf store.events,
      Subtractable (alertStore.list none none none) times item := by
  rintro ⟨entity, group⟩ hitem
  obtain ⟨nonempty, held⟩ := mem_itemsOf.mp hitem
  dsimp only at nonempty held
  subst held
  have clear := unambiguous entity
  cases own : raisedBy store.events entity with
  | nil =>
      rw [byText, own] at nonempty
      exact absurd rfl nonempty
  | cons first rest =>
      obtain ⟨textually, others, sorted⟩ := exists_byText own
      have front : (raisedBy store.events entity).head? = some first := by rw [own]; rfl
      have same := (clear.created first front textually (by rw [sorted]; rfl)).2
      rw [sorted] at same
      exact (subtractable_iff readable htimes sorted same).mpr (clear.fits first front)

/-- What is not ambiguous is told as it was. -/
theorem told_of_unambiguous (readable : Readable store.events)
    (unambiguous : ∀ entity, Unambiguous store.events (alertStore.list none none none) entity) :
    ∃ writes, incidents store alertStore = .ok writes ∧
      ∀ entity, Told store.events (alertStore.list none none none) writes entity := by
  obtain ⟨times, htimes⟩ :=
    exists_eventTimes (readable.subset fun event => mem_chronological.mp)
  have fits := subtractable_of_unambiguous readable htimes unambiguous
  refine ⟨_, (incidents_eq_ok_iff readable htimes).mpr ⟨fits, rfl⟩, ?_⟩
  intro entity
  have clear := unambiguous entity
  cases own : raisedBy store.events entity with
  | nil => exact told_of_absent own
  | cons first rest =>
      obtain ⟨textually, others, sorted⟩ := exists_byText own
      have front : (raisedBy store.events entity).head? = some first := by rw [own]; rfl
      obtain ⟨message, timestamp⟩ := clear.created first front textually (by rw [sorted]; rfl)
      have latest := clear.latest
      have once := clear.once first front
      rw [own] at message timestamp latest once
      rw [sorted] at message timestamp latest
      rw [List.getLast?_eq_some_getLast (List.cons_ne_nil textually others),
        List.getLast?_eq_some_getLast (List.cons_ne_nil first rest)] at latest
      apply (told_iff_agrees readable htimes own
        (List.getLast?_eq_some_getLast (List.cons_ne_nil first rest)) sorted
        (List.getLast?_eq_some_getLast (List.cons_ne_nil textually others))).mpr
      exact ⟨Option.some.inj latest, message, timestamp, once⟩

/-- Over events with readable timestamps the loader tells every incident as it was exactly
when none is ambiguous. -/
theorem told_iff (readable : Readable store.events) :
    (∃ writes, incidents store alertStore = .ok writes ∧
        ∀ entity, Told store.events (alertStore.list none none none) writes entity) ↔
      ∀ entity, Unambiguous store.events (alertStore.list none none none) entity :=
  ⟨unambiguous_of_told readable, told_of_unambiguous readable⟩

end All

/-! ## An escalation after nine -/

/-- An event of an incident. -/
def incidentEvent (n : Nat) (eventType : EventType) (severity : Severity) (timestamp : Str) :
    SecurityEvent where
  toEventBody :=
    ⟨{ serviceName := .incident
       eventType := eventType
       severity := severity
       userId := none
       sourceIp := none
       endpoint := "/api/v1/incidents"
       httpMethod := "POST"
       statusCode := 201
       message := "Incident 1 changed."
       correlationId := "corr-000000000001"
       affectedEntity := some "incident-1" },
      { method := post_permitted
        status := show (100 : Int) ≤ 201 ∧ (201 : Int) ≤ 599 by decide
        endpoint := lit_incidents_visible
        message := not_blank_lit (by decide +kernel)
        correlation := lit_correlation_visible }⟩
  eventId := eventIdTag ++ hexPad 12 n
  timestamp := timestamp
  eventId_valid := validId_append_hexPad eventIdTag n

/-- An incident of nine o'clock that escalates at ten. -/
def escalated : EventStore :=
  ⟨[incidentEvent 1 .incidentCreated .high "2026-09-04T9:00:00Z",
    incidentEvent 2 .incidentEscalated .critical "2026-09-04T10:00:00Z"]⟩

theorem told_iff_escalated :
    (∃ writes, incidents escalated AlertStore.empty = .ok writes ∧
        ∀ entity, Told escalated.events (AlertStore.empty.list none none none) writes entity) ↔
      ∀ entity, Unambiguous escalated.events (AlertStore.empty.list none none none) entity :=
  told_iff (by decide +kernel)

/-- Its text puts the creation last, so the incident stays at the severity it had. -/
theorem escalated_mistold : ¬ ∀ (store : EventStore) (alertStore : AlertStore),
    Readable store.events → ∃ writes, incidents store alertStore = .ok writes ∧
      ∀ entity, Told store.events (alertStore.list none none none) writes entity := by
  intro always
  have readable : Readable escalated.events := by decide +kernel
  have clear := unambiguous_of_told readable (always escalated AlertStore.empty readable)
  have apart : (byText escalated.events "incident-1").getLast?.map (·.severity) ≠
      (raisedBy escalated.events "incident-1").getLast?.map (·.severity) := by decide +kernel
  exact apart (clear "incident-1").latest

end SentinelIR.Loader
