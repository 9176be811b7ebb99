/-
# The six stored queries

Each `.cypher` file of the knowledge graph as its pattern, clause by clause, and the
rows its RETURN makes of the matches. The queries are asked of a view, so they answer
the same on a property graph and on the keyed graph it represents. Every property they
return is a text wherever a loader writes it.
-/

import SentinelIR.Graph.Read
import SentinelIR.Loader.Writes
import SentinelIR.Py.Sorted
import SentinelIR.Rag.Shapers

namespace SentinelIR.Rag.StoredQueries

open SentinelIR.Py hiding Value
open SentinelIR.Graph SentinelIR.Loader

/-- A view of the knowledge graph. -/
abbrev GraphView (N : Type) := View N Label Relation Property Value

/-- A pattern over the knowledge graph; variables are their first letters. -/
abbrev Pattern := List (ReadClause Label Relation Property Value Char)

/-- A text column. -/
def textOf : Option Value → Option Str
  | some (.text value) => some value
  | _ => none

/-- Five text columns can be told apart. -/
instance decidableEqColumns :
    DecidableEq (Option Str × Option Str × Option Str × Option Str × Option Str) :=
  @instDecidableEqProd _ _ inferInstance
    (inferInstanceAs (DecidableEq (Option Str × Option Str × Option Str × Option Str)))

/-- The property is this text. -/
def isText (value : Str) (held : Option Value) : Bool := held = some (.text value)

/-- Sorting rows made of items sorts the items. -/
theorem sortedBy_map {α β ι : Type} [LinearOrder ι] (f : β → ι) (g : α → β) (xs : List α) :
    sortedBy f (xs.map g) = (sortedBy (fun x => f (g x)) xs).map g :=
  (List.map_insertionSort _ _ g xs fun _ _ _ _ => Iff.rfl).symm

section Queries

variable {N : Type} [DecidableEq N] (v : GraphView N)

/-- A text column of a match. -/
def column (row : Bindings Char N) (x : Char) (key : Property) : Option Str :=
  textOf (row.value v x key)

/-- `collect(DISTINCT x.key)`. -/
def collected (rows : List (Bindings Char N)) (x : Char) (key : Property) : Collected :=
  some ((collectDistinct (fun row => column v row x key) rows).map some)

/-! ## q1 -/

/-- The pattern of `q1_alerts_for_service.cypher`. -/
def alertsForServicePattern (service : Str) : Pattern :=
  [.nodes 'a' .alert, .keep 'a' .affectedService (isText service)]

/-- The columns of q1. -/
def alertsForServiceRow (row : Bindings Char N) : AlertsForServiceRow where
  alertId := column v row 'a' .alertId
  ruleName := column v row 'a' .ruleName
  severity := column v row 'a' .severity
  status := column v row 'a' .status
  description := column v row 'a' .description
  recommendedAction := column v row 'a' .recommendedAction
  timestamp := column v row 'a' .timestamp

/-- `q1_alerts_for_service.cypher`. -/
def alertsForService (service : Str) : List AlertsForServiceRow :=
  sortedBy (fun row => toLex (OrderDual.toDual (nullsLast row.timestamp), nullsLast row.alertId))
    ((matchAll v (alertsForServicePattern service)).map (alertsForServiceRow v))

/-! ## q2 -/

/-- `a.severity IN ["HIGH", "CRITICAL"]`. -/
def isSevere (held : Option Value) : Bool := isText "HIGH" held || isText "CRITICAL" held

/-- The pattern of `q2_users_high_severity.cypher`. -/
def usersHighSeverityPattern : Pattern :=
  [.nodes 'u' .user, .follow 'u' .forth .triggered 'e' .event,
    .follow 'e' .forth .createdAlert 'a' .alert, .keep 'a' .severity isSevere]

/-- What q2 groups by. -/
def usersHighSeverityKey (row : Bindings Char N) :
    Option Str × Option Str × Option Str × Option Str :=
  (column v row 'u' .username, column v row 'u' .role, column v row 'a' .ruleName,
    column v row 'a' .severity)

/-- The columns of q2. -/
def usersHighSeverityRow
    (group : (Option Str × Option Str × Option Str × Option Str) × List (Bindings Char N)) :
    UsersHighSeverityRow where
  username := group.1.1
  role := group.1.2.1
  ruleName := group.1.2.2.1
  severity := group.1.2.2.2
  evidenceEvents := collected v group.2 'e' .eventId
  alertCount := some (distinct (group.2.filterMap (·.node 'a'))).length

/-- `q2_users_high_severity.cypher`. -/
def usersHighSeverity : List UsersHighSeverityRow :=
  sortedBy (fun row => toLex (OrderDual.toDual (nullsLast row.alertCount), nullsLast row.username))
    ((grouped (usersHighSeverityKey v) (matchAll v usersHighSeverityPattern)).map
      (usersHighSeverityRow v))

/-! ## q3 -/

/-- The pattern of `q3_threats_for_service.cypher`. -/
def threatsForServicePattern (service : Str) : Pattern :=
  [.nodes 't' .threat, .follow 't' .forth .targets 's' .service, .keep 's' .name (isText service),
    .optional 't' .forth .exploits 'v' .vulnerability, .optional 't' .back .mitigates 'c' .control]

/-- What q3 groups by. -/
def threatsForServiceKey (row : Bindings Char N) : Option Str × Option Str × Option Str :=
  (column v row 't' .techniqueId, column v row 't' .name, column v row 't' .tactic)

/-- The columns of q3. -/
def threatsForServiceRow
    (group : (Option Str × Option Str × Option Str) × List (Bindings Char N)) :
    ThreatsForServiceRow where
  techniqueId := group.1.1
  technique := group.1.2.1
  tactic := group.1.2.2
  exploitsVulnerabilities := collected v group.2 'v' .name
  mitigatedBy := collected v group.2 'c' .name

/-- `q3_threats_for_service.cypher`. -/
def threatsForService (service : Str) : List ThreatsForServiceRow :=
  sortedBy (fun row => nullsLast row.techniqueId)
    ((grouped (threatsForServiceKey v) (matchAll v (threatsForServicePattern service))).map
      (threatsForServiceRow v))

/-! ## q4 -/

/-- The pattern of `q4_controls_for_alert.cypher`. -/
def controlsForAlertPattern (alertId : Str) : Pattern :=
  [.nodes 'a' .alert, .keep 'a' .alertId (isText alertId),
    .follow 'a' .forth .indicates 't' .threat, .optional 't' .back .mitigates 'c' .control,
    .optional 't' .back .supportsResponseTo 'd' .document]

/-- What q4 groups by. -/
def controlsForAlertKey (row : Bindings Char N) :
    Option Str × Option Str × Option Str × Option Str × Option Str :=
  (column v row 'a' .alertId, column v row 'a' .ruleName, column v row 't' .techniqueId,
    column v row 't' .name, column v row 'a' .recommendedAction)

/-- The columns of q4. -/
def controlsForAlertRow
    (group : (Option Str × Option Str × Option Str × Option Str × Option Str) ×
      List (Bindings Char N)) : ControlsForAlertRow where
  alertId := group.1.1
  ruleName := group.1.2.1
  techniqueId := group.1.2.2.1
  technique := group.1.2.2.2.1
  controls := collected v group.2 'c' .name
  runbooks := collected v group.2 'd' .title
  ruleRecommendedAction := group.1.2.2.2.2

/-- `q4_controls_for_alert.cypher`. -/
def controlsForAlert (alertId : Str) : List ControlsForAlertRow :=
  (grouped (controlsForAlertKey v) (matchAll v (controlsForAlertPattern alertId))).map
    (controlsForAlertRow v)

/-! ## q5 -/

/-- The first pattern of `q5_dependency_impact.cypher`. -/
def failingPattern (service : Str) : Pattern :=
  [.nodes 'f' .service, .keep 'f' .name (isText service)]

/-- The bound of the second pattern, `*1..10`. -/
def maxHops : Nat := 10

/-- The second pattern: the services on trails of `DEPENDS_ON` into the failing one. -/
def dependents (service : Str) : List (N × Nat) :=
  ((matchAll v (failingPattern service)).filterMap (·.node 'f')).flatMap fun failing =>
    (trailsInto v .dependsOn maxHops [] failing).filter fun trail => v.hasLabel .service trail.1

/-- `q5_dependency_impact.cypher`. -/
def dependencyImpact (service : Str) : List DependencyImpactRow :=
  sortedBy (fun row => toLex (nullsLast row.hops, nullsLast row.impactedService))
    ((grouped Prod.fst (dependents v service)).map fun group =>
      { impactedService := textOf (v.property group.1 .name)
        hops := ((group.2.map Prod.snd).min?).map Int.ofNat })

/-! ## q6 -/

/-- The pattern of `q6_incidents_and_alerts.cypher`. -/
def incidentsAndAlertsPattern : Pattern :=
  [.nodes 'i' .incident, .optional 'i' .forth .affects 's' .asset,
    .optional 'i' .forth .contains 'a' .alert]

/-- What q6 groups by. -/
def incidentsAndAlertsKey (row : Bindings Char N) :
    Option Str × Option Str × Option Str × Option Str × Option Str :=
  (column v row 'i' .incidentId, column v row 'i' .severity, column v row 'i' .title,
    column v row 'i' .reportedBy, column v row 's' .name)

/-- The map q6 collects; it is no null even where no alert is matched. -/
def containedMap (row : Bindings Char N) : Option Str × Option Str :=
  (column v row 'a' .alertId, column v row 'a' .ruleName)

/-- The columns of q6. -/
def incidentsAndAlertsRow
    (group : (Option Str × Option Str × Option Str × Option Str × Option Str) ×
      List (Bindings Char N)) : IncidentsAndAlertsRow where
  incidentId := group.1.1
  severity := group.1.2.1
  title := group.1.2.2.1
  reportedBy := group.1.2.2.2.1
  asset := group.1.2.2.2.2
  alerts := some ((distinct (group.2.map (containedMap v))).map fun alert =>
    some { alertId := alert.1, ruleName := alert.2 })

/-- `q6_incidents_and_alerts.cypher`. -/
def incidentsAndAlerts : List IncidentsAndAlertsRow :=
  sortedBy (fun row => nullsLast row.incidentId)
    ((grouped (incidentsAndAlertsKey v) (matchAll v incidentsAndAlertsPattern)).map
      (incidentsAndAlertsRow v))

end Queries

/-! ## The queries see names only -/

section Embedded

variable {M N : Type} {held : M → Prop} {f : M → N} {v : GraphView M} {w : GraphView N}

theorem column_rename (h : Embeds held f v w) (row : Bindings Char M) (x : Char)
    (key : Property) : column w (row.rename f) x key = column v row x key := by
  rw [column, Bindings.value_rename h]
  rfl

theorem collected_rename (h : Embeds held f v w) (rows : List (Bindings Char M)) (x : Char)
    (key : Property) :
    collected w (rows.map (Bindings.rename f)) x key = collected v rows x key := by
  simp only [collected, collectDistinct, List.filterMap_map, Function.comp_def, column_rename h]

theorem alertsForService_embeds (h : Embeds held f v w) (service : Str) :
    alertsForService w service = alertsForService v service := by
  simp only [alertsForService, alertsForServiceRow, matchAll_map h, List.map_map,
    Function.comp_def, column_rename h]
  rfl

theorem threatsForService_embeds (h : Embeds held f v w) (service : Str) :
    threatsForService w service = threatsForService v service := by
  have key (row : Bindings Char M) :
      threatsForServiceKey w (row.rename f) = threatsForServiceKey v row := by
    simp only [threatsForServiceKey, column_rename h]
  simp only [threatsForService, threatsForServiceRow, matchAll_map h, grouped_map key, List.map_map,
    Function.comp_def, collected_rename h]
  rfl

theorem controlsForAlert_embeds (h : Embeds held f v w) (alertId : Str) :
    controlsForAlert w alertId = controlsForAlert v alertId := by
  have key (row : Bindings Char M) :
      controlsForAlertKey w (row.rename f) = controlsForAlertKey v row := by
    simp only [controlsForAlertKey, column_rename h]
  simp only [controlsForAlert, controlsForAlertRow, matchAll_map h, grouped_map key, List.map_map,
    Function.comp_def, collected_rename h]
  rfl

/-- What a variable is bound to, in rows with other names. -/
theorem filterMap_node_rename (rows : List (Bindings Char M)) (x : Char) :
    (rows.map (Bindings.rename f)).filterMap (·.node x) =
      (rows.filterMap (·.node x)).map f := by
  rw [List.filterMap_map, List.map_filterMap]
  exact List.filterMap_congr fun row _ => Bindings.node_rename f row x

theorem held_of_node (h : Embeds held f v w) {pattern : Pattern} {rows : List (Bindings Char M)}
    (subset : rows ⊆ matchAll v pattern) {x : Char} :
    ∀ n ∈ rows.filterMap (·.node x), held n := by
  intro n hn
  obtain ⟨row, hrow, bound⟩ := List.mem_filterMap.mp hn
  obtain ⟨before, after, split, -⟩ := List.lookup_eq_some_iff.mp (Option.join_eq_some_iff.mp bound)
  refine held_of_matchAll h (subset hrow) (x, some n) ?_ n rfl
  rw [split]
  exact List.mem_append_right _ List.mem_cons_self

variable [DecidableEq M] [DecidableEq N]

theorem usersHighSeverity_embeds (h : Embeds held f v w) :
    usersHighSeverity w = usersHighSeverity v := by
  have key (row : Bindings Char M) :
      usersHighSeverityKey w (row.rename f) = usersHighSeverityKey v row := by
    simp only [usersHighSeverityKey, column_rename h]
  have count : ∀ group ∈ grouped (usersHighSeverityKey v) (matchAll v usersHighSeverityPattern),
      (distinct ((group.2.map (Bindings.rename f)).filterMap (·.node 'a'))).length =
        (distinct (group.2.filterMap (·.node 'a'))).length := by
    intro group hgroup
    have inside := held_of_node h (group_subset hgroup) (x := 'a')
    rw [filterMap_node_rename, distinct_map fun n hn m hm =>
      h.apart n m (inside n hn) (inside m hm), List.length_map]
  simp only [usersHighSeverity, matchAll_map h, grouped_map key, List.map_map]
  congr 1
  apply List.map_congr_left
  intro group hgroup
  simp only [Function.comp_def, usersHighSeverityRow, collected_rename h, count group hgroup]

theorem dependencyImpact_embeds (h : Embeds held f v w) (service : Str) :
    dependencyImpact w service = dependencyImpact v service := by
  have inside := held_of_node h (List.Subset.refl (matchAll v (failingPattern service))) (x := 'f')
  have untaken : ∀ pair ∈ ([] : List (M × M)), held pair.1 ∧ held pair.2 := by simp
  have reached : dependents w service = (dependents v service).map (Prod.map f id) := by
    rw [dependents, matchAll_map h, filterMap_node_rename, List.flatMap_map, dependents,
      List.map_flatMap]
    apply List.flatMap_congr
    intro failing hfailing
    have trails := (trailsInto_rename h .dependsOn maxHops (inside failing hfailing) untaken).1
    rw [List.map_nil] at trails
    rw [trails, List.filter_map]
    congr 1
    exact List.filter_congr fun trail _ => h.hasLabel .service trail.1
  have starts : ∀ n ∈ (dependents v service).map Prod.fst, held n := by
    intro n hn
    obtain ⟨trail, htrail, rfl⟩ := List.mem_map.mp hn
    obtain ⟨failing, hfailing, htrail⟩ := List.mem_flatMap.mp htrail
    exact (trailsInto_rename h .dependsOn maxHops (inside failing hfailing) untaken).2 trail
      (List.mem_of_mem_filter htrail)
  rw [dependencyImpact, reached, grouped_rename fun n hn m hm =>
    h.apart n m (starts n hn) (starts m hm), dependencyImpact]
  simp only [List.map_map, Function.comp_def, h.property]
  rfl

end Embedded

end SentinelIR.Rag.StoredQueries
