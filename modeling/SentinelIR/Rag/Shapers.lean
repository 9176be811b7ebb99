/-
# From rows to evidence

Each of the six queries has a row of its own, with the columns of its RETURN clause, and
a shaper that turns a row into nodes and relationships. Nodes without a key and
relationships without an end are dropped, and of what is left the first of every
identity is kept. The evidence this makes is closed: every relationship joins two of
its nodes, and everything a row names is among them.
-/

import SentinelIR.Common.Errors
import SentinelIR.Py.FirstSeen
import SentinelIR.Rag.Retriever

namespace SentinelIR.Rag

open SentinelIR.Py SentinelIR.Common

/-! ## Rows -/

/-- A collected column: a list that may hold nulls, or null itself. -/
abbrev Collected := Option (List (Option Str))

/-- A row of `q1_alerts_for_service.cypher`. A column is `none` where it is null. -/
structure AlertsForServiceRow where
  alertId : Option Str := none
  ruleName : Option Str := none
  severity : Option Str := none
  status : Option Str := none
  description : Option Str := none
  recommendedAction : Option Str := none
  timestamp : Option Str := none

/-- A row of `q2_users_high_severity.cypher`. -/
structure UsersHighSeverityRow where
  username : Option Str := none
  role : Option Str := none
  ruleName : Option Str := none
  severity : Option Str := none
  evidenceEvents : Collected := none
  alertCount : Option Int := none

/-- A row of `q3_threats_for_service.cypher`. -/
structure ThreatsForServiceRow where
  techniqueId : Option Str := none
  technique : Option Str := none
  tactic : Option Str := none
  exploitsVulnerabilities : Collected := none
  mitigatedBy : Collected := none

/-- A row of `q4_controls_for_alert.cypher`. -/
structure ControlsForAlertRow where
  alertId : Option Str := none
  ruleName : Option Str := none
  techniqueId : Option Str := none
  technique : Option Str := none
  controls : Collected := none
  runbooks : Collected := none
  ruleRecommendedAction : Option Str := none

/-- A row of `q5_dependency_impact.cypher`. -/
structure DependencyImpactRow where
  impactedService : Option Str := none
  hops : Option Int := none

/-- The map q6 collects for an alert. -/
structure ContainedAlert where
  alertId : Option Str := none
  ruleName : Option Str := none

/-- A row of `q6_incidents_and_alerts.cypher`. -/
structure IncidentsAndAlertsRow where
  incidentId : Option Str := none
  severity : Option Str := none
  title : Option Str := none
  reportedBy : Option Str := none
  asset : Option Str := none
  alerts : Option (List (Option ContainedAlert)) := none

/-- The keys of the six queries, as `SHAPERS` lists them. -/
inductive QueryKey
  | controlsForAlert
  | alertsForService
  | threatsForService
  | usersHighSeverity
  | dependencyImpact
  | incidentsAndAlerts
  deriving DecidableEq

namespace QueryKey

/-- The key's text. -/
def value : QueryKey → Str
  | controlsForAlert => "controls_for_alert"
  | alertsForService => "alerts_for_service"
  | threatsForService => "threats_for_service"
  | usersHighSeverity => "users_high_severity"
  | dependencyImpact => "dependency_impact"
  | incidentsAndAlerts => "incidents_and_alerts"

/-- The keys of `SHAPERS`. -/
def registered : List QueryKey :=
  [controlsForAlert, alertsForService, threatsForService, usersHighSeverity, dependencyImpact,
    incidentsAndAlerts]

/-- `SHAPERS[query_key]`, which has no entry for any other text. -/
def lookup (key : Str) : Option QueryKey := registered.find? fun known => known.value = key

/-- The rows of the query. -/
abbrev RowOf : QueryKey → Type
  | controlsForAlert => ControlsForAlertRow
  | alertsForService => AlertsForServiceRow
  | threatsForService => ThreatsForServiceRow
  | usersHighSeverity => UsersHighSeverityRow
  | dependencyImpact => DependencyImpactRow
  | incidentsAndAlerts => IncidentsAndAlertsRow

end QueryKey

/-! ## Columns as values -/

/-- A text column. -/
def textValue : Option Str → Json
  | none => .null
  | some text => .str text

/-- A number column. -/
def intValue : Option Int → Json
  | none => .null
  | some n => .int n

/-- A collected column. -/
def collectedValue : Collected → Json
  | none => .null
  | some entries => .arr (entries.map textValue)

/-- The map of a contained alert. -/
def containedValue : Option ContainedAlert → Json
  | none => .null
  | some alert =>
      .obj [("alertId", textValue alert.alertId), ("ruleName", textValue alert.ruleName)]

/-- The row as the runner returns it, by column. -/
def rowDict : (key : QueryKey) → key.RowOf → Row
  | .controlsForAlert, (row : ControlsForAlertRow) =>
      [("alertId", textValue row.alertId), ("ruleName", textValue row.ruleName),
        ("techniqueId", textValue row.techniqueId), ("technique", textValue row.technique),
        ("controls", collectedValue row.controls), ("runbooks", collectedValue row.runbooks),
        ("ruleRecommendedAction", textValue row.ruleRecommendedAction)]
  | .alertsForService, (row : AlertsForServiceRow) =>
      [("alertId", textValue row.alertId), ("ruleName", textValue row.ruleName),
        ("severity", textValue row.severity), ("status", textValue row.status),
        ("description", textValue row.description),
        ("recommendedAction", textValue row.recommendedAction),
        ("timestamp", textValue row.timestamp)]
  | .threatsForService, (row : ThreatsForServiceRow) =>
      [("techniqueId", textValue row.techniqueId), ("technique", textValue row.technique),
        ("tactic", textValue row.tactic),
        ("exploitsVulnerabilities", collectedValue row.exploitsVulnerabilities),
        ("mitigatedBy", collectedValue row.mitigatedBy)]
  | .usersHighSeverity, (row : UsersHighSeverityRow) =>
      [("username", textValue row.username), ("role", textValue row.role),
        ("ruleName", textValue row.ruleName), ("severity", textValue row.severity),
        ("evidenceEvents", collectedValue row.evidenceEvents),
        ("alertCount", intValue row.alertCount)]
  | .dependencyImpact, (row : DependencyImpactRow) =>
      [("impactedService", textValue row.impactedService), ("hops", intValue row.hops)]
  | .incidentsAndAlerts, (row : IncidentsAndAlertsRow) =>
      [("incidentId", textValue row.incidentId), ("severity", textValue row.severity),
        ("title", textValue row.title), ("reportedBy", textValue row.reportedBy),
        ("asset", textValue row.asset),
        ("alerts", match row.alerts with
          | none => .null
          | some alerts => .arr (alerts.map containedValue))]

/-! ## Shapers -/

/-- `_values`: the non-empty entries of a collected column. -/
def values : Collected → List Str
  | none => []
  | some entries => (entries.filterMap id).filter fun entry => entry ≠ []

/-- The key a column gives a node. A missing one reads as the empty text here: a node
with either is dropped. -/
def keyOf (column : Option Str) : Str := column.getD []

/-- What a shaper makes of a row. -/
structure Shaped where
  nodes : List EvidenceNode
  relationships : List EvidenceRelationship

/-- `_shape_controls_for_alert`. -/
def shapeControlsForAlert (row : ControlsForAlertRow) : Shaped :=
  let alertId := keyOf row.alertId
  let techniqueId := keyOf row.techniqueId
  { nodes :=
      [{ label := "Alert"
         key := alertId
         properties :=
           [("ruleName", textValue row.ruleName),
             ("recommendedAction", textValue row.ruleRecommendedAction)] },
       { label := "Threat"
         key := techniqueId
         properties := [("name", textValue row.technique)] }] ++
        ((values row.controls).map fun control =>
          { label := "Control", key := control, keyProperty := some "name" }) ++
        (values row.runbooks).map fun runbook =>
          { label := "Document", key := runbook, keyProperty := some "title" }
    relationships :=
      [⟨alertId, "INDICATES", techniqueId⟩] ++
        ((values row.controls).map fun control => ⟨control, "MITIGATES", techniqueId⟩) ++
        (values row.runbooks).map fun runbook => ⟨runbook, "SUPPORTS_RESPONSE_TO", techniqueId⟩ }

/-- `_shape_alerts_for_service`. -/
def shapeAlertsForService (row : AlertsForServiceRow) : Shaped where
  nodes :=
    [{ label := "Alert"
       key := keyOf row.alertId
       properties :=
         [("ruleName", textValue row.ruleName), ("severity", textValue row.severity),
           ("status", textValue row.status), ("description", textValue row.description),
           ("recommendedAction", textValue row.recommendedAction),
           ("timestamp", textValue row.timestamp)] }]
  relationships := []

/-- `_shape_threats_for_service`. -/
def shapeThreatsForService (row : ThreatsForServiceRow) : Shaped :=
  let techniqueId := keyOf row.techniqueId
  { nodes :=
      [{ label := "Threat"
         key := techniqueId
         properties := [("name", textValue row.technique), ("tactic", textValue row.tactic)] }] ++
        ((values row.exploitsVulnerabilities).map fun vulnerability =>
          { label := "Vulnerability", key := vulnerability, keyProperty := some "name" }) ++
        (values row.mitigatedBy).map fun control =>
          { label := "Control", key := control, keyProperty := some "name" }
    relationships :=
      ((values row.exploitsVulnerabilities).map fun vulnerability =>
        ⟨techniqueId, "EXPLOITS", vulnerability⟩) ++
        (values row.mitigatedBy).map fun control => ⟨control, "MITIGATES", techniqueId⟩ }

/-- `_shape_users_high_severity`. -/
def shapeUsersHighSeverity (row : UsersHighSeverityRow) : Shaped :=
  let username := keyOf row.username
  { nodes :=
      [{ label := "User"
         key := username
         properties :=
           [("role", textValue row.role), ("ruleName", textValue row.ruleName),
             ("severity", textValue row.severity), ("alertCount", intValue row.alertCount)] }] ++
        (values row.evidenceEvents).map fun eventId => { label := "Event", key := eventId }
    relationships :=
      (values row.evidenceEvents).map fun eventId => ⟨username, "TRIGGERED", eventId⟩ }

/-- `_shape_dependency_impact`. -/
def shapeDependencyImpact (row : DependencyImpactRow) : Shaped where
  nodes :=
    [{ label := "Service"
       key := keyOf row.impactedService
       properties := [("hops", intValue row.hops)] }]
  relationships := []

/-- The alerts of an incident that have an id, with what their maps hold of the rule. -/
def containedAlerts (row : IncidentsAndAlertsRow) : List (Str × Option Str) :=
  (row.alerts.getD []).filterMap fun alert =>
    match alert with
    | some { alertId := some (c :: alertId), ruleName } => some (c :: alertId, ruleName)
    | _ => none

/-- The asset of an incident, where there is one. -/
def affectedAsset (row : IncidentsAndAlertsRow) : Option Str :=
  row.asset.filter fun asset => asset ≠ []

/-- `_shape_incidents_and_alerts`. -/
def shapeIncidentsAndAlerts (row : IncidentsAndAlertsRow) : Shaped :=
  let incidentId := keyOf row.incidentId
  { nodes :=
      [{ label := "Incident"
         key := incidentId
         properties :=
           [("severity", textValue row.severity), ("title", textValue row.title),
             ("reportedBy", textValue row.reportedBy)] }] ++
        ((affectedAsset row).toList.map fun asset => { label := "Asset", key := asset }) ++
        (containedAlerts row).map fun alert =>
          { label := "Alert", key := alert.1, properties := [("ruleName", textValue alert.2)] }
    relationships :=
      ((affectedAsset row).toList.map fun asset => ⟨incidentId, "AFFECTS", asset⟩) ++
        (containedAlerts row).map fun alert => ⟨incidentId, "CONTAINS", alert.1⟩ }

/-- `SHAPERS`. -/
def shaper : (key : QueryKey) → key.RowOf → Shaped
  | .controlsForAlert => shapeControlsForAlert
  | .alertsForService => shapeAlertsForService
  | .threatsForService => shapeThreatsForService
  | .usersHighSeverity => shapeUsersHighSeverity
  | .dependencyImpact => shapeDependencyImpact
  | .incidentsAndAlerts => shapeIncidentsAndAlerts

/-- `_identity` of a node. -/
def EvidenceNode.identity (node : EvidenceNode) : Str × Str := (node.label, node.key)

/-- `_identity` of a relationship. -/
def EvidenceRelationship.identity (edge : EvidenceRelationship) : Str × Str × Str :=
  (edge.start, edge.type, edge.finish)

section ShapeRows

variable {key : QueryKey}

/-- The nodes with a key, over all rows. -/
def keyedNodes (rows : List key.RowOf) : List EvidenceNode :=
  rows.flatMap fun row => (shaper key row).nodes.filter fun node => node.key ≠ []

/-- The relationships with both ends, over all rows. -/
def keyedRelationships (rows : List key.RowOf) : List EvidenceRelationship :=
  rows.flatMap fun row => (shaper key row).relationships.filter fun edge =>
    edge.start ≠ [] && edge.finish ≠ []

/-- `shape_rows`. -/
def shapeRows (rows : List key.RowOf) : Shaped where
  nodes := unique EvidenceNode.identity (keyedNodes rows)
  relationships := unique EvidenceRelationship.identity (keyedRelationships rows)

end ShapeRows

/-! ## The evidence is closed -/

/-- The texts a column names. -/
def texts (column : Collected) : List Str := (column.getD []).filterMap id

/-- The entities the identifying columns of a row name, each under its label. -/
def named : (key : QueryKey) → key.RowOf → List (Str × Str)
  | .controlsForAlert, (row : ControlsForAlertRow) =>
      (row.alertId.toList.map fun text => (lit "Alert", text)) ++
        (row.techniqueId.toList.map fun text => (lit "Threat", text)) ++
        ((texts row.controls).map fun text => (lit "Control", text)) ++
        (texts row.runbooks).map fun text => (lit "Document", text)
  | .alertsForService, (row : AlertsForServiceRow) =>
      row.alertId.toList.map fun text => (lit "Alert", text)
  | .threatsForService, (row : ThreatsForServiceRow) =>
      (row.techniqueId.toList.map fun text => (lit "Threat", text)) ++
        ((texts row.exploitsVulnerabilities).map fun text => (lit "Vulnerability", text)) ++
        (texts row.mitigatedBy).map fun text => (lit "Control", text)
  | .usersHighSeverity, (row : UsersHighSeverityRow) =>
      (row.username.toList.map fun text => (lit "User", text)) ++
        (texts row.evidenceEvents).map fun text => (lit "Event", text)
  | .dependencyImpact, (row : DependencyImpactRow) =>
      row.impactedService.toList.map fun text => (lit "Service", text)
  | .incidentsAndAlerts, (row : IncidentsAndAlertsRow) =>
      (row.incidentId.toList.map fun text => (lit "Incident", text)) ++
        (row.asset.toList.map fun text => (lit "Asset", text)) ++
        ((row.alerts.getD []).filterMap fun alert => alert.bind (·.alertId)).map fun text =>
          (lit "Alert", text)

/-- The relationships the columns of a row state between the entities they name. -/
def related : (key : QueryKey) → key.RowOf → List EvidenceRelationship
  | .controlsForAlert, (row : ControlsForAlertRow) =>
      row.techniqueId.toList.flatMap fun technique =>
        (row.alertId.toList.map fun alert => ⟨alert, "INDICATES", technique⟩) ++
          ((texts row.controls).map fun control => ⟨control, "MITIGATES", technique⟩) ++
          (texts row.runbooks).map fun runbook => ⟨runbook, "SUPPORTS_RESPONSE_TO", technique⟩
  | .alertsForService, _ => []
  | .threatsForService, (row : ThreatsForServiceRow) =>
      row.techniqueId.toList.flatMap fun technique =>
        ((texts row.exploitsVulnerabilities).map fun vulnerability =>
          ⟨technique, "EXPLOITS", vulnerability⟩) ++
          (texts row.mitigatedBy).map fun control => ⟨control, "MITIGATES", technique⟩
  | .usersHighSeverity, (row : UsersHighSeverityRow) =>
      row.username.toList.flatMap fun user =>
        (texts row.evidenceEvents).map fun event => ⟨user, "TRIGGERED", event⟩
  | .dependencyImpact, _ => []
  | .incidentsAndAlerts, (row : IncidentsAndAlertsRow) =>
      row.incidentId.toList.flatMap fun incident =>
        (row.asset.toList.map fun asset => ⟨incident, "AFFECTS", asset⟩) ++
          ((row.alerts.getD []).filterMap fun alert => alert.bind (·.alertId)).map fun alert =>
            ⟨incident, "CONTAINS", alert⟩

/-- The evidence of some rows: nodes and relationships as first seen, no empty key, no
relationship without its two nodes, every entity the rows name, and exactly the
relationships they state between keys. -/
structure Closed {key : QueryKey} (rows : List key.RowOf) (shaped : Shaped) : Prop where
  nodes : FirstSeen EvidenceNode.identity (keyedNodes rows) shaped.nodes
  relationships :
    FirstSeen EvidenceRelationship.identity (keyedRelationships rows) shaped.relationships
  keyed : ∀ node ∈ shaped.nodes, node.key ≠ []
  joined : ∀ edge ∈ shaped.relationships,
    (∃ node ∈ shaped.nodes, node.key = edge.start) ∧ ∃ node ∈ shaped.nodes, node.key = edge.finish
  complete : ∀ row ∈ rows, ∀ entity ∈ named key row, entity.2 ≠ [] →
    ∃ node ∈ shaped.nodes, node.identity = entity
  retrieved : ∀ edge, edge ∈ shaped.relationships ↔
    ∃ row ∈ rows, edge ∈ related key row ∧ edge.start ≠ [] ∧ edge.finish ≠ []

@[simp]
theorem mem_values {column : Collected} {text : Str} :
    text ∈ values column ↔ text ∈ texts column ∧ text ≠ [] := by
  cases column <;> simp [values, texts]

theorem mem_affectedAsset {row : IncidentsAndAlertsRow} {asset : Str} :
    asset ∈ (affectedAsset row).toList ↔ row.asset = some asset ∧ asset ≠ [] := by
  simp [affectedAsset, Option.filter_eq_some_iff]

theorem mem_containedAlerts {row : IncidentsAndAlertsRow} {alertId : Str} :
    alertId ∈ (containedAlerts row).map Prod.fst ↔
      alertId ∈ (row.alerts.getD []).filterMap (fun alert => alert.bind (·.alertId)) ∧
        alertId ≠ [] := by
  rw [containedAlerts]
  generalize row.alerts.getD [] = alerts
  induction alerts with
  | nil => simp
  | cons alert rest ih =>
      rcases alert with _ | ⟨_ | _ | ⟨c, text⟩, ruleName⟩
      · simpa using ih
      · simpa using ih
      · simp only [List.filterMap_cons, ih, Option.bind_some, List.mem_cons]
        constructor
        · exact fun ⟨later, visible⟩ => ⟨.inr later, visible⟩
        · rintro ⟨rfl | later, visible⟩
          · exact absurd rfl visible
          · exact ⟨later, visible⟩
      · simp only [List.filterMap_cons, List.map_cons, List.mem_cons, ih, Option.bind_some]
        constructor
        · rintro (rfl | ⟨later, visible⟩)
          · exact ⟨.inl rfl, List.cons_ne_nil c text⟩
          · exact ⟨.inr later, visible⟩
        · rintro ⟨rfl | later, visible⟩
          · exact .inl rfl
          · exact .inr ⟨later, visible⟩

/-- A shaper makes a node for each end of a relationship. -/
theorem joined_shaper (key : QueryKey) (row : key.RowOf) :
    ∀ edge ∈ (shaper key row).relationships,
      edge.start ∈ (shaper key row).nodes.map (·.key) ∧
        edge.finish ∈ (shaper key row).nodes.map (·.key) := by
  intro edge hedge
  cases key with
  | controlsForAlert =>
      simp only [shaper, shapeControlsForAlert, List.mem_append, List.mem_singleton,
        List.mem_map] at hedge
      rcases hedge with (rfl | ⟨control, hcontrol, rfl⟩) | ⟨runbook, hrunbook, rfl⟩
      · simp [shaper, shapeControlsForAlert]
      · simp_all [shaper, shapeControlsForAlert]
      · simp_all [shaper, shapeControlsForAlert]
  | alertsForService => cases hedge
  | threatsForService =>
      simp only [shaper, shapeThreatsForService, List.mem_append, List.mem_map] at hedge
      rcases hedge with ⟨vulnerability, hvulnerability, rfl⟩ | ⟨control, hcontrol, rfl⟩
      · simp_all [shaper, shapeThreatsForService]
      · simp_all [shaper, shapeThreatsForService]
  | usersHighSeverity =>
      simp only [shaper, shapeUsersHighSeverity, List.mem_map] at hedge
      obtain ⟨eventId, hevent, rfl⟩ := hedge
      simp_all [shaper, shapeUsersHighSeverity]
  | dependencyImpact => cases hedge
  | incidentsAndAlerts =>
      simp only [shaper, shapeIncidentsAndAlerts, List.mem_append, List.mem_map] at hedge
      rcases hedge with ⟨asset, hasset, rfl⟩ | ⟨alert, halert, rfl⟩
      · simp_all [shaper, shapeIncidentsAndAlerts]
      · simp only [shaper, shapeIncidentsAndAlerts, List.map_append, List.map_map, List.mem_append,
          List.map_cons, List.mem_cons]
        exact ⟨.inl (.inl (.inl trivial)), .inr (List.mem_map_of_mem halert)⟩

/-- A shaper makes a node for every entity a row names. -/
theorem complete_shaper (key : QueryKey) (row : key.RowOf) :
    ∀ entity ∈ named key row, entity.2 ≠ [] →
      entity ∈ (shaper key row).nodes.map EvidenceNode.identity := by
  rintro ⟨label, text⟩ hentity visible
  dsimp only at visible
  cases key with
  | controlsForAlert =>
      simp only [named, List.mem_append, List.mem_map, Option.mem_toList, Prod.mk.injEq]
        at hentity
      rcases hentity with ((⟨_, stated, rfl, rfl⟩ | ⟨_, stated, rfl, rfl⟩) |
        ⟨_, stated, rfl, rfl⟩) | ⟨_, stated, rfl, rfl⟩
      · simp [shaper, shapeControlsForAlert, EvidenceNode.identity, keyOf, stated]
      · simp [shaper, shapeControlsForAlert, EvidenceNode.identity, keyOf, stated]
      · simp [shaper, shapeControlsForAlert, EvidenceNode.identity, stated, visible]
      · simp [shaper, shapeControlsForAlert, EvidenceNode.identity, stated, visible]
  | alertsForService =>
      simp only [named, List.mem_map, Option.mem_toList, Prod.mk.injEq] at hentity
      obtain ⟨_, stated, rfl, rfl⟩ := hentity
      simp [shaper, shapeAlertsForService, EvidenceNode.identity, keyOf, stated]
  | threatsForService =>
      simp only [named, List.mem_append, List.mem_map, Option.mem_toList, Prod.mk.injEq]
        at hentity
      rcases hentity with (⟨_, stated, rfl, rfl⟩ | ⟨_, stated, rfl, rfl⟩) | ⟨_, stated, rfl, rfl⟩
      · simp [shaper, shapeThreatsForService, EvidenceNode.identity, keyOf, stated]
      · simp [shaper, shapeThreatsForService, EvidenceNode.identity, stated, visible]
      · simp [shaper, shapeThreatsForService, EvidenceNode.identity, stated, visible]
  | usersHighSeverity =>
      simp only [named, List.mem_append, List.mem_map, Option.mem_toList, Prod.mk.injEq]
        at hentity
      rcases hentity with ⟨_, stated, rfl, rfl⟩ | ⟨_, stated, rfl, rfl⟩
      · simp [shaper, shapeUsersHighSeverity, EvidenceNode.identity, keyOf, stated]
      · simp [shaper, shapeUsersHighSeverity, EvidenceNode.identity, stated, visible]
  | dependencyImpact =>
      simp only [named, List.mem_map, Option.mem_toList, Prod.mk.injEq] at hentity
      obtain ⟨_, stated, rfl, rfl⟩ := hentity
      simp [shaper, shapeDependencyImpact, EvidenceNode.identity, keyOf, stated]
  | incidentsAndAlerts =>
      simp only [named, List.mem_append, List.mem_map, Option.mem_toList, Prod.mk.injEq]
        at hentity
      rcases hentity with (⟨_, stated, rfl, rfl⟩ | ⟨_, stated, rfl, rfl⟩) | ⟨_, stated, rfl, rfl⟩
      · simp [shaper, shapeIncidentsAndAlerts, EvidenceNode.identity, keyOf, stated]
      · simp only [shaper, shapeIncidentsAndAlerts, List.map_append, List.map_map, List.mem_append]
        exact .inl (.inr (List.mem_map.mpr ⟨_, mem_affectedAsset.mpr ⟨stated, visible⟩, rfl⟩))
      · simp only [shaper, shapeIncidentsAndAlerts, List.map_append, List.map_map, List.mem_append]
        obtain ⟨alert, halert, rfl⟩ :=
          List.mem_map.mp (mem_containedAlerts.mpr ⟨stated, visible⟩)
        exact .inr (List.mem_map.mpr ⟨alert, halert, rfl⟩)

theorem keyOf_eq_iff {column : Option Str} {text : Str} (visible : text ≠ []) :
    keyOf column = text ↔ column = some text := by
  cases column with
  | none => exact iff_of_false (Ne.symm visible) (Option.some_ne_none text).symm
  | some held => exact Option.some_inj.symm

/-- Between keys a shaper makes the relationships a row states. -/
theorem mem_related_iff (key : QueryKey) (row : key.RowOf) {edge : EvidenceRelationship}
    (starts : edge.start ≠ []) (finishes : edge.finish ≠ []) :
    edge ∈ (shaper key row).relationships ↔ edge ∈ related key row := by
  obtain ⟨start, type, finish⟩ := edge
  dsimp only at starts finishes
  cases key with
  | controlsForAlert =>
      simp only [shaper, shapeControlsForAlert, related, List.mem_append, List.mem_map,
        List.mem_flatMap, List.mem_singleton, Option.mem_toList, EvidenceRelationship.mk.injEq,
        mem_values]
      constructor
      · rintro ((⟨alert, rfl, technique⟩ | ⟨control, ⟨held, -⟩, rfl, rfl, technique⟩) |
          ⟨runbook, ⟨held, -⟩, rfl, rfl, technique⟩)
        · exact ⟨finish, (keyOf_eq_iff finishes).mp technique.symm,
            .inl (.inl ⟨start, (keyOf_eq_iff starts).mp alert.symm, rfl, rfl, rfl⟩)⟩
        · exact ⟨finish, (keyOf_eq_iff finishes).mp technique,
            .inl (.inr ⟨_, held, rfl, rfl, rfl⟩)⟩
        · exact ⟨finish, (keyOf_eq_iff finishes).mp technique, .inr ⟨_, held, rfl, rfl, rfl⟩⟩
      · rintro ⟨_, technique, (⟨_, alert, rfl, rfl, rfl⟩ | ⟨_, held, rfl, rfl, rfl⟩) |
          ⟨_, held, rfl, rfl, rfl⟩⟩
        · exact .inl (.inl ⟨((keyOf_eq_iff starts).mpr alert).symm, rfl,
            ((keyOf_eq_iff finishes).mpr technique).symm⟩)
        · exact .inl (.inr ⟨_, ⟨held, starts⟩, rfl, rfl, (keyOf_eq_iff finishes).mpr technique⟩)
        · exact .inr ⟨_, ⟨held, starts⟩, rfl, rfl, (keyOf_eq_iff finishes).mpr technique⟩
  | alertsForService => rfl
  | threatsForService =>
      simp only [shaper, shapeThreatsForService, related, List.mem_append, List.mem_map,
        List.mem_flatMap, Option.mem_toList, EvidenceRelationship.mk.injEq, mem_values]
      constructor
      · rintro (⟨vulnerability, ⟨held, -⟩, technique, rfl, rfl⟩ |
          ⟨control, ⟨held, -⟩, rfl, rfl, technique⟩)
        · exact ⟨start, (keyOf_eq_iff starts).mp technique, .inl ⟨_, held, rfl, rfl, rfl⟩⟩
        · exact ⟨finish, (keyOf_eq_iff finishes).mp technique, .inr ⟨_, held, rfl, rfl, rfl⟩⟩
      · rintro ⟨_, technique, ⟨_, held, rfl, rfl, rfl⟩ | ⟨_, held, rfl, rfl, rfl⟩⟩
        · exact .inl ⟨_, ⟨held, finishes⟩, (keyOf_eq_iff starts).mpr technique, rfl, rfl⟩
        · exact .inr ⟨_, ⟨held, starts⟩, rfl, rfl, (keyOf_eq_iff finishes).mpr technique⟩
  | usersHighSeverity =>
      simp only [shaper, shapeUsersHighSeverity, related, List.mem_map, List.mem_flatMap,
        Option.mem_toList, EvidenceRelationship.mk.injEq, mem_values]
      constructor
      · rintro ⟨event, ⟨held, -⟩, user, rfl, rfl⟩
        exact ⟨start, (keyOf_eq_iff starts).mp user, _, held, rfl, rfl, rfl⟩
      · rintro ⟨_, user, _, held, rfl, rfl, rfl⟩
        exact ⟨_, ⟨held, finishes⟩, (keyOf_eq_iff starts).mpr user, rfl, rfl⟩
  | dependencyImpact => rfl
  | incidentsAndAlerts =>
      simp only [shaper, shapeIncidentsAndAlerts, related, List.mem_append, List.mem_map,
        List.mem_flatMap, mem_affectedAsset, EvidenceRelationship.mk.injEq]
      constructor
      · rintro (⟨asset, ⟨affected, -⟩, incident, rfl, rfl⟩ | ⟨alert, held, incident, rfl, rfl⟩)
        · exact ⟨start, Option.mem_toList.mpr ((keyOf_eq_iff starts).mp incident),
            .inl ⟨_, Option.mem_toList.mpr affected, rfl, rfl, rfl⟩⟩
        · have named := (mem_containedAlerts.mp (List.mem_map_of_mem held)).1
          exact ⟨start, Option.mem_toList.mpr ((keyOf_eq_iff starts).mp incident),
            .inr ⟨_, named, rfl, rfl, rfl⟩⟩
      · rintro ⟨_, incident, ⟨_, affected, rfl, rfl, rfl⟩ | ⟨_, named, rfl, rfl, rfl⟩⟩
        · exact .inl ⟨_, ⟨Option.mem_toList.mp affected, finishes⟩,
            (keyOf_eq_iff starts).mpr (Option.mem_toList.mp incident), rfl, rfl⟩
        · obtain ⟨alert, held, rfl⟩ :=
            List.mem_map.mp (mem_containedAlerts.mpr ⟨named, finishes⟩)
          exact .inr ⟨_, held, (keyOf_eq_iff starts).mpr (Option.mem_toList.mp incident), rfl, rfl⟩

section Evidence

variable {key : QueryKey} {rows : List key.RowOf}

theorem mem_keyedNodes {node : EvidenceNode} :
    node ∈ keyedNodes rows ↔ ∃ row ∈ rows, node ∈ (shaper key row).nodes ∧ node.key ≠ [] := by
  simp [keyedNodes]

theorem mem_keyedRelationships {edge : EvidenceRelationship} :
    edge ∈ keyedRelationships rows ↔
      ∃ row ∈ rows, edge ∈ (shaper key row).relationships ∧ edge.start ≠ [] ∧ edge.finish ≠ [] := by
  simp [keyedRelationships]

/-- A relationship is its identity, so none is lost. -/
theorem mem_relationships {edge : EvidenceRelationship} :
    edge ∈ (shapeRows rows).relationships ↔
      ∃ row ∈ rows, edge ∈ (shaper key row).relationships ∧ edge.start ≠ [] ∧ edge.finish ≠ [] := by
  rw [← mem_keyedRelationships]
  refine ⟨mem_of_mem_unique, fun made => ?_⟩
  obtain ⟨⟨start, type, finish⟩, hheld, same⟩ : ∃ held ∈ (shapeRows rows).relationships,
      held.identity = edge.identity := exists_mem_unique made
  obtain ⟨rfl, rfl, rfl⟩ : start = edge.start ∧ type = edge.type ∧ finish = edge.finish := by
    simpa [EvidenceRelationship.identity] using same
  exact hheld

/-- What a shaper made and has a key is in the evidence, up to its properties. -/
theorem exists_node {row : key.RowOf} (hrow : row ∈ rows) {node : EvidenceNode}
    (hnode : node ∈ (shaper key row).nodes) (keyed : node.key ≠ []) :
    ∃ held ∈ (shapeRows rows).nodes, held.identity = node.identity :=
  exists_mem_unique (mem_keyedNodes.mpr ⟨row, hrow, hnode, keyed⟩)

/-- For every query and all rows it can return, the evidence is closed. -/
theorem closed_shapeRows (key : QueryKey) (rows : List key.RowOf) :
    Closed rows (shapeRows rows) where
  nodes := firstSeen_unique _
  relationships := firstSeen_unique _
  keyed node hnode := by
    obtain ⟨-, -, -, keyed⟩ := mem_keyedNodes.mp (mem_of_mem_unique hnode)
    exact keyed
  joined edge hedge := by
    obtain ⟨row, hrow, made, hstart, hfinish⟩ :=
      mem_keyedRelationships.mp (mem_of_mem_unique hedge)
    have ends {text : Str} (visible : text ≠ [])
        (shaped : text ∈ (shaper key row).nodes.map (·.key)) :
        ∃ node ∈ (shapeRows rows).nodes, node.key = text := by
      obtain ⟨node, hnode, rfl⟩ := List.mem_map.mp shaped
      obtain ⟨held, hheld, same⟩ := exists_node hrow hnode visible
      exact ⟨held, hheld, congrArg Prod.snd same⟩
    obtain ⟨starts, finishes⟩ := joined_shaper key row edge made
    exact ⟨ends hstart starts, ends hfinish finishes⟩
  complete row hrow entity hentity visible := by
    obtain ⟨node, hnode, rfl⟩ := List.mem_map.mp (complete_shaper key row entity hentity visible)
    exact exists_node hrow hnode visible
  retrieved edge := by
    rw [mem_relationships]
    refine exists_congr fun row => and_congr_right fun _ => ?_
    exact ⟨fun ⟨made, ends⟩ => ⟨(mem_related_iff key row ends.1 ends.2).mp made, ends⟩,
      fun ⟨said, ends⟩ => ⟨(mem_related_iff key row ends.1 ends.2).mpr said, ends⟩⟩

end Evidence

/-! ## Retrieval -/

/-- `{parameters}`, as an f-string writes a dict of texts. -/
def reprParameters [UnicodeDb] (parameters : Parameters) : Str :=
  let members := parameters.map fun bound => Py.repr bound.1 ++ ": " ++ Py.repr bound.2
  "\x7b" ++ joinWith ", " members ++ "\x7d"

/-- The reason of an evidence without nodes. -/
def nothingFound [UnicodeDb] (queryKey : Str) (parameters : Parameters) : Str :=
  "the graph holds no " ++ queryKey ++ " result for " ++
    if parameters = [] then lit "this question" else reprParameters parameters

/-- The query executor: the rows of a query under its text and parameters, or what the
driver raises. -/
abbrev Runner := (key : QueryKey) → Str → Parameters → Except Exc (List key.RowOf)

/-- The evidence of the rows a query returned. -/
def evidenceOf [UnicodeDb] (question : Str) (name : IntentName) (queryText : Str)
    (parameters : Parameters) {key : QueryKey} (rows : List key.RowOf) : Evidence :=
  let shaped := shapeRows rows
  { question := question
    intent := name.value
    queryKey := key.value
    queryText := queryText
    parameters := parameters
    nodes := shaped.nodes
    relationships := shaped.relationships
    documents := (shaped.nodes.filter fun node => node.label = lit "Document").map (·.key)
    rows := rows.map (rowDict key)
    reason := if shaped.nodes.isEmpty then nothingFound key.value parameters else [] }

/-- `retrieve`, with its runner. -/
def retrieveFrom [UnicodeText] [UnicodeDb] (files : CypherFiles) (runner : Runner)
    (question : Str) : Except Exc Evidence :=
  match retrieve files question with
  | .refused evidence => .ok evidence
  | .raises _ => .error .keyError
  | .runs queryKey queryText parameters =>
      match QueryKey.lookup queryKey with
      | none => .error .keyError
      | some key => (runner key queryText parameters).map fun rows =>
          evidenceOf question (classify question).name queryText parameters rows

end SentinelIR.Rag
