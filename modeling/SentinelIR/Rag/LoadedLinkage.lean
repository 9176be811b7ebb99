/-
# Users and incidents in a loaded graph

The two queries without a parameter. The users q2 links to grave alerts are those who
triggered an event such an alert cites, with exactly these events; q6 has one row for every
incident the events mention, with the asset its creation names and the alerts that cite an
event of the half hour before.
-/

import SentinelIR.Rag.LoadedQueries

namespace SentinelIR.Rag.StoredQueries

open SentinelIR.Py hiding Value
open SentinelIR.Graph SentinelIR.Loader SentinelIR.Loader.LoadEvents SentinelIR.Common
  SentinelIR.Alerts SentinelIR.Collector SentinelIR.Rules

variable {events : List SecurityEvent} {listed : List Alert} {times : Dict Str Micros}
  {g : KnowledgeGraph}

/-! ## q2 -/

/-- The alert is `HIGH` or `CRITICAL` and cites the event, which the user triggered. -/
def Implicates (events : List SecurityEvent) (user : Str) (alert : Alert) (eventId : Str) : Prop :=
  (alert.severity = .high ∨ alert.severity = .critical) ∧ eventId ∈ alert.relatedEvents ∧
    ∃ event ∈ events, event.eventId = eventId ∧ triggeredBy event = some user

instance (events : List SecurityEvent) (user : Str) (alert : Alert) (eventId : Str) :
    Decidable (Implicates events user alert eventId) :=
  inferInstanceAs (Decidable (_ ∧ _ ∧ ∃ event ∈ events, _))

/-- The alerts of a rule and a severity that implicate a user. -/
def implicating (events : List SecurityEvent) (listed : List Alert) (user rule : Str)
    (grade : Severity) : List Alert :=
  listed.filter fun alert => alert.ruleName = rule ∧ alert.severity = grade ∧
    ∃ eventId ∈ alert.relatedEvents, Implicates events user alert eventId

/-- A row of q2: the events of a user that the alerts of a rule and a severity cite, and how
many such alerts there are. -/
structure Implicated (events : List SecurityEvent) (listed : List Alert) (user rule : Str)
    (grade : Severity) (row : UsersHighSeverityRow) : Prop where
  username : row.username = some user
  role : row.role = (LoadTopology.seedUsers.find? (·.username = user)).map (·.role)
  ruleName : row.ruleName = some rule
  severity : row.severity = some grade.value
  evidence : ∀ eventId, eventId ∈ texts row.evidenceEvents ↔
    ∃ alert ∈ implicating events listed user rule grade, Implicates events user alert eventId
  once : (texts row.evidenceEvents).Nodup
  count : row.alertCount = some ((implicating events listed user rule grade).length : Int)

theorem triggered_iff {source target : Name} :
    Linked events listed ⟨source, .triggered, target⟩ ↔ ∃ event ∈ events, ∃ user,
      triggeredBy event = some user ∧ source = Loader.named .user user ∧
        target = eventName event.eventId := by
  constructor
  · intro linked
    cases linked with
    | fixed held => exact absurd (relation_of_fixed _ held) (by simp)
    | triggered held trigger => exact ⟨_, held, _, trigger, rfl, rfl⟩
  · rintro ⟨event, held, user, trigger, rfl, rfl⟩
    exact .triggered held trigger

theorem createdAlert_iff {source target : Name} :
    Linked events listed ⟨source, .createdAlert, target⟩ ↔ ∃ alert ∈ listed,
      ∃ eventId ∈ alert.relatedEvents, source = eventName eventId ∧
        target = alertName alert.alertId := by
  constructor
  · intro linked
    cases linked with
    | fixed held => exact absurd (relation_of_fixed _ held) (by simp)
    | createdAlert held cited => exact ⟨_, held, _, cited, rfl, rfl⟩
  · rintro ⟨alert, held, eventId, cited, rfl, rfl⟩
    exact .createdAlert held cited

theorem isSevere_iff (severity : Severity) : isSevere (text severity.value) = true ↔
    severity = .high ∨ severity = .critical := by
  cases severity <;> decide

section UsersHighSeverity

variable (loaded : LoadedFrom events listed times g)

include loaded

/-- The matches of q2. -/
theorem mem_usersHighSeverityMatches {row : Bindings Char Name} :
    row ∈ matchAll (namesOf events listed times) usersHighSeverityPattern ↔
      ∃ user, ∃ alert ∈ listed, ∃ eventId, Implicates events user alert eventId ∧
        row = [('a', some (alertName alert.alertId)), ('e', some (eventName eventId)),
          ('u', some (Loader.named .user user))] := by
  have severe {alert : Alert} (halert : alert ∈ listed) :
      isSevere ((namesOf events listed times).property (alertName alert.alertId) .severity) =
        true ↔ alert.severity = .high ∨ alert.severity = .critical := by
    rw [property_alert loaded halert (by decide)]
    exact isSevere_iff alert.severity
  simp only [matchAll, usersHighSeverityPattern, List.foldl_cons, List.foldl_nil,
    List.mem_flatMap, List.mem_singleton, exists_eq_left, mem_readRow_nodes, mem_readRow_keep,
    mem_readRow_follow]
  constructor
  · rintro ⟨_, ⟨_, ⟨_, ⟨u, hu, rfl⟩, e, he, rfl⟩, a, ha, rfl⟩, kept, rfl⟩
    obtain ⟨event, hevent, user, trigger, rfl, rfl⟩ :=
      triggered_iff.mp ((mem_reached_forth loaded rfl).mp he).1
    obtain ⟨alert, halert, eventId, cited, same, rfl⟩ :=
      createdAlert_iff.mp ((mem_reached_forth loaded rfl).mp ha).1
    obtain rfl : event.eventId = eventId := by simpa [eventName, Loader.named] using same
    rw [value_of_node rfl] at kept
    exact ⟨user, alert, halert, _, ⟨(severe halert).mp kept, cited, event, hevent, rfl, trigger⟩,
      rfl⟩
  · rintro ⟨user, alert, halert, eventId, ⟨grave, cited, event, hevent, rfl, trigger⟩, rfl⟩
    have triggered : Linked events listed ⟨_, .triggered, _⟩ := .triggered hevent trigger
    have created : Linked events listed ⟨_, .createdAlert, _⟩ := .createdAlert halert cited
    refine ⟨_, ⟨_, ⟨_, ⟨_, mem_labelled.mpr ⟨(loaded.ends triggered).1, rfl⟩, rfl⟩, _,
      (mem_reached_forth loaded rfl).mpr ⟨triggered, rfl⟩, rfl⟩, _,
      (mem_reached_forth loaded rfl).mpr ⟨created, rfl⟩, rfl⟩, ?_, rfl⟩
    rw [value_of_node rfl]
    exact (severe halert).mpr grave

/-- The columns of such a match. -/
theorem column_usersHighSeverity {user : Str} {alert : Alert} {eventId : Str}
    (halert : alert ∈ listed) (implicates : Implicates events user alert eventId)
    {row : Bindings Char Name}
    (bound : row = [('a', some (alertName alert.alertId)), ('e', some (eventName eventId)),
      ('u', some (Loader.named .user user))]) :
    usersHighSeverityKey (namesOf events listed times) row =
        (some user, (LoadTopology.seedUsers.find? (·.username = user)).map (·.role),
          some alert.ruleName, some alert.severity.value) ∧
      column (namesOf events listed times) row 'e' .eventId = some eventId := by
  obtain ⟨-, cited, event, hevent, rfl, trigger⟩ := implicates
  have ends := loaded.ends (.triggered hevent trigger)
  have userNode : row.node 'u' = some (Loader.named .user user) := by rw [bound]; rfl
  have alertNode : row.node 'a' = some (alertName alert.alertId) := by rw [bound]; rfl
  have eventNode : row.node 'e' = some (eventName event.eventId) := by rw [bound]; rfl
  have username : (namesOf events listed times).property (Loader.named .user user) .username =
      some (.text user) := property_name ends.1
  have role : textOf ((namesOf events listed times).property (Loader.named .user user) .role) =
      (LoadTopology.seedUsers.find? (·.username = user)).map (·.role) := by
    rw [property_of_ne ends.1 (by simp [Loader.keyOf, Loader.named]), loaded.props_user]
    cases LoadTopology.seedUsers.find? (·.username = user) <;> rfl
  have id : (namesOf events listed times).property (eventName event.eventId) .eventId =
      some (.text event.eventId) := property_name ends.2
  refine ⟨?_, by rw [column_of_node eventNode, id]; rfl⟩
  rw [usersHighSeverityKey, column_of_node userNode, column_of_node userNode,
    column_of_node alertNode, column_of_node alertNode, username, role,
    property_alert loaded halert (by decide), property_alert loaded halert (by decide)]
  rfl

/-- What q2 groups under a user, a rule and a severity. -/
def keyOfUser (user rule : Str) (grade : Severity) :
    Option Str × Option Str × Option Str × Option Str :=
  (some user, (LoadTopology.seedUsers.find? (·.username = user)).map (·.role), some rule,
    some grade.value)

/-- The matches under a user, a rule and a severity. -/
theorem mem_userGroup {matched : List (Bindings Char Name)}
    (matches_ : ∀ row, row ∈ matched ↔ ∃ user, ∃ alert ∈ listed, ∃ eventId,
      Implicates events user alert eventId ∧
        row = [('a', some (alertName alert.alertId)), ('e', some (eventName eventId)),
          ('u', some (Loader.named .user user))])
    {user rule : Str} {grade : Severity} {row : Bindings Char Name} :
    row ∈ matched.filter (fun row =>
        usersHighSeverityKey (namesOf events listed times) row = keyOfUser user rule grade) ↔
      ∃ alert ∈ listed, alert.ruleName = rule ∧ alert.severity = grade ∧ ∃ eventId,
        Implicates events user alert eventId ∧
          row = [('a', some (alertName alert.alertId)), ('e', some (eventName eventId)),
            ('u', some (Loader.named .user user))] := by
  rw [List.mem_filter, decide_eq_true_eq, matches_]
  constructor
  · rintro ⟨⟨other, alert, halert, eventId, implicates, bound⟩, key⟩
    rw [(column_usersHighSeverity loaded halert implicates bound).1, keyOfUser] at key
    simp only [Prod.mk.injEq, Option.some.injEq] at key
    obtain ⟨rfl, -, ruled, graded⟩ := key
    exact ⟨alert, halert, ruled, severity_value_injective graded, eventId, implicates, bound⟩
  · rintro ⟨alert, halert, rfl, rfl, eventId, implicates, bound⟩
    exact ⟨⟨user, alert, halert, eventId, implicates, bound⟩,
      (column_usersHighSeverity loaded halert implicates bound).1⟩

/-- The row of a user, a rule and a severity. -/
theorem implicated_row {user rule : Str} {grade : Severity} {rows : List (Bindings Char Name)}
    (members : ∀ row, row ∈ rows ↔
      ∃ alert ∈ listed, alert.ruleName = rule ∧ alert.severity = grade ∧ ∃ eventId,
        Implicates events user alert eventId ∧
          row = [('a', some (alertName alert.alertId)), ('e', some (eventName eventId)),
            ('u', some (Loader.named .user user))]) :
    Implicated events listed user rule grade
      (usersHighSeverityRow (namesOf events listed times) (keyOfUser user rule grade, rows)) := by
  have implicates {alert : Alert} (halert : alert ∈ implicating events listed user rule grade) :
      alert ∈ listed ∧ alert.ruleName = rule ∧ alert.severity = grade ∧
        ∃ eventId, Implicates events user alert eventId := by
    obtain ⟨held, fits⟩ := List.mem_filter.mp halert
    obtain ⟨ruled, graded, eventId, -, implicates⟩ := of_decide_eq_true fits
    exact ⟨held, ruled, graded, eventId, implicates⟩
  have kept {alert : Alert} (halert : alert ∈ listed) (ruled : alert.ruleName = rule)
      (graded : alert.severity = grade) {eventId : Str}
      (implicates : Implicates events user alert eventId) :
      alert ∈ implicating events listed user rule grade :=
    List.mem_filter.mpr ⟨halert,
      decide_eq_true ⟨ruled, graded, eventId, implicates.2.1, implicates⟩⟩
  refine ⟨rfl, rfl, rfl, rfl, fun eventId => ?_, ?_, ?_⟩
  · rw [usersHighSeverityRow, mem_texts_collected]
    constructor
    · rintro ⟨row, hrow, held⟩
      obtain ⟨alert, halert, ruled, graded, other, implicates, bound⟩ := (members row).mp hrow
      obtain rfl : other = eventId := Option.some.inj
        ((column_usersHighSeverity loaded halert implicates bound).2.symm.trans held)
      exact ⟨alert, kept halert ruled graded implicates, implicates⟩
    · rintro ⟨alert, halert, cites⟩
      obtain ⟨held, ruled, graded, -⟩ := implicates halert
      exact ⟨_, (members _).mpr ⟨alert, held, ruled, graded, eventId, cites, rfl⟩,
        (column_usersHighSeverity loaded held cites rfl).2⟩
  · rw [usersHighSeverityRow, texts_collected]
    exact nodup_distinct _
  · -- the distinct alert nodes are the names of these alerts
    have names : (distinct (rows.filterMap (·.node 'a'))).Perm
        ((implicating events listed user rule grade).map fun alert => alertName alert.alertId) := by
      rw [List.perm_ext_iff_of_nodup (nodup_distinct _)]
      · intro n
        rw [mem_distinct, List.mem_filterMap, List.mem_map]
        constructor
        · rintro ⟨row, hrow, bound⟩
          obtain ⟨alert, halert, ruled, graded, eventId, implicates, rfl⟩ := (members row).mp hrow
          exact ⟨alert, kept halert ruled graded implicates, Option.some.inj bound⟩
        · rintro ⟨alert, halert, rfl⟩
          obtain ⟨held, ruled, graded, eventId, implicates⟩ := implicates halert
          exact ⟨_, (members _).mpr ⟨alert, held, ruled, graded, eventId, implicates, rfl⟩, rfl⟩
      · have ids := (loaded.distinct.sublist (List.filter_sublist.map _) :
          ((implicating events listed user rule grade).map (·.alertId)).Nodup)
        have split : ((implicating events listed user rule grade).map fun alert =>
            alertName alert.alertId) =
              ((implicating events listed user rule grade).map (·.alertId)).map alertName := by
          rw [List.map_map]
          rfl
        rw [split]
        exact ids.map fun first second same => by simpa [alertName, Loader.named] using same
    rw [usersHighSeverityRow, names.length_eq, List.length_map]

/-- The users linked to grave alerts: each row is that of a user, a rule and a severity, and
there is one for each. -/
structure Linkage (events : List SecurityEvent) (listed : List Alert)
    (rows : List UsersHighSeverityRow) : Prop where
  sound : ∀ row ∈ rows, ∃ user rule grade, implicating events listed user rule grade ≠ [] ∧
    Implicated events listed user rule grade row
  complete : ∀ user rule grade, implicating events listed user rule grade ≠ [] →
    ∃ row ∈ rows, Implicated events listed user rule grade row
  once : (rows.map fun row => (row.username, row.role, row.ruleName, row.severity)).Nodup

omit loaded in
theorem Linkage.perm {rows others : List UsersHighSeverityRow}
    (linkage : Linkage events listed rows) (same : rows.Perm others) :
    Linkage events listed others where
  sound row hrow := linkage.sound row (same.mem_iff.mpr hrow)
  complete user rule grade some := by
    obtain ⟨row, hrow, implicated⟩ := linkage.complete user rule grade some
    exact ⟨row, same.mem_iff.mp hrow, implicated⟩
  once := (same.map _).nodup_iff.mp linkage.once

/-- The rows that the matches make. -/
theorem linkage_of_matches {matched : List (Bindings Char Name)}
    (matches_ : ∀ row, row ∈ matched ↔ ∃ user, ∃ alert ∈ listed, ∃ eventId,
      Implicates events user alert eventId ∧
        row = [('a', some (alertName alert.alertId)), ('e', some (eventName eventId)),
          ('u', some (Loader.named .user user))]) :
    Linkage events listed
      ((grouped (usersHighSeverityKey (namesOf events listed times)) matched).map
        (usersHighSeverityRow (namesOf events listed times))) := by
  constructor
  · intro row hrow
    obtain ⟨⟨key, group⟩, hgroup, rfl⟩ := List.mem_map.mp hrow
    obtain ⟨⟨made, hmade, rfl⟩, rfl⟩ := mem_grouped.mp hgroup
    obtain ⟨user, alert, halert, eventId, implicates, bound⟩ := (matches_ made).mp hmade
    rw [(column_usersHighSeverity loaded halert implicates bound).1]
    refine ⟨user, alert.ruleName, alert.severity, ?_,
      implicated_row loaded fun row => mem_userGroup loaded matches_⟩
    exact List.ne_nil_of_mem (List.mem_filter.mpr ⟨halert,
      decide_eq_true ⟨rfl, rfl, eventId, implicates.2.1, implicates⟩⟩)
  · intro user rule grade some
    obtain ⟨alert, halert⟩ := List.exists_mem_of_ne_nil _ some
    obtain ⟨held, fits⟩ := List.mem_filter.mp halert
    obtain ⟨rfl, rfl, eventId, -, implicates⟩ := of_decide_eq_true fits
    refine ⟨_, List.mem_map_of_mem (mem_grouped.mpr ⟨⟨_,
      (matches_ _).mpr ⟨user, alert, held, eventId, implicates, rfl⟩,
      (column_usersHighSeverity loaded held implicates rfl).1⟩, rfl⟩), ?_⟩
    exact implicated_row loaded fun row => mem_userGroup loaded matches_
  · rw [List.map_map, grouped, List.map_map]
    exact (List.map_id _).symm ▸ nodup_distinct _

/-- q2 finds who is linked to grave alerts, and through which events. -/
theorem linkage_usersHighSeverity : Linkage events listed (usersHighSeverity g.view) := by
  rw [usersHighSeverity_embeds loaded.represents.embeds, usersHighSeverity]
  have linkage := linkage_of_matches loaded fun row => mem_usersHighSeverityMatches loaded
  exact linkage.perm (perm_sortedBy _ _).symm

end UsersHighSeverity

/-! ## q6 -/

/-- A row of q6: an incident as its events tell it, with the asset its creation names and the
alerts it contains. -/
structure Recounted (events : List SecurityEvent) (listed : List Alert) (entity : Str)
    (created : SecurityEvent) (row : IncidentsAndAlertsRow) : Prop where
  incidentId : row.incidentId = some entity
  severity : row.severity = (byText events entity).getLast?.map (·.severity.value)
  title : row.title = some created.message
  reportedBy : row.reportedBy = created.userId
  asset : row.asset = assetNamedIn created.message
  alerts : ∀ alertId rule, some (ContainedAlert.mk (some alertId) rule) ∈ row.alerts.getD [] ↔
    ∃ alert ∈ listed, CitesOnce events (timeOf created) alert ∧ alert.alertId = alertId ∧
      rule = some alert.ruleName

section IncidentsAndAlerts

variable (loaded : LoadedFrom events listed times g)

include loaded

/-- The rows of q6: one for every incident the events mention, and no others. -/
structure Recount (events : List SecurityEvent) (listed : List Alert)
    (rows : List IncidentsAndAlertsRow) : Prop where
  sound : ∀ row ∈ rows, ∃ entity created, creation events entity = some created ∧
    Recounted events listed entity created row
  complete : ∀ entity created, creation events entity = some created →
    ∃ row ∈ rows, Recounted events listed entity created row
  once : (rows.map (·.incidentId)).Nodup

omit loaded in
theorem Recount.perm {rows others : List IncidentsAndAlertsRow}
    (recount : Recount events listed rows) (same : rows.Perm others) :
    Recount events listed others where
  sound row hrow := recount.sound row (same.mem_iff.mpr hrow)
  complete entity created creates := by
    obtain ⟨row, hrow, recounted⟩ := recount.complete entity created creates
    exact ⟨row, same.mem_iff.mp hrow, recounted⟩
  once := (same.map _).nodup_iff.mp recount.once

end IncidentsAndAlerts

/-! ## Over a load -/

section Load

variable [UnicodeDb] (ids : AlertIds) (digest : Digest) (clock now : Datetime)
  (store : EventStore) (keyed : List Alert) (sources : List (Str × List Write))
  (hnow : latestMoment clock store = .ok now)
  (hkeyed : stableAlerts ids digest store now = .ok keyed)
  (hsources : collectWrites ids digest clock store = .ok sources)

include hnow hkeyed hsources

/-- **Who is linked to an alert**: q2 returns a row for every user, rule and severity the events
and the listed alerts link, and no others. -/
theorem load_usersHighSeverity :
    Linkage store.events ((AlertStore.empty.extend keyed).1.list none none none)
      (usersHighSeverity (load sources).view) := by
  obtain ⟨times, loaded⟩ := exists_loadedFrom hnow hkeyed hsources
  exact linkage_usersHighSeverity loaded

end Load

theorem load_usersHighSeverity_burst : letI := printsAll
    ∃ keyed sources,
      stableAlerts (fun _ => alertIdTag) burstDigest burst (second 5).time = .ok keyed ∧
      collectWrites (fun _ => alertIdTag) burstDigest anHourLater burst = .ok sources ∧
      Linkage burst.events ((AlertStore.empty.extend keyed).1.list none none none)
        (usersHighSeverity (load sources).view) := by
  let _ := printsAll
  obtain ⟨keyed, sources, hkeyed, hsources⟩ := exists_load_burst
  exact ⟨keyed, sources, hkeyed, hsources,
    load_usersHighSeverity _ _ _ _ _ _ _ latestMoment_burst hkeyed hsources⟩

end SentinelIR.Rag.StoredQueries
