/-
# What the stored queries find in a loaded graph

The six queries against a graph a load left: what they return is what the events, the
alerts raised from them and the knowledge say. An alert has one row with the technique of
its rule, the controls against it and the runbooks for it, none of them missing.
-/

import SentinelIR.Loader.Contents
import SentinelIR.Rag.StoredQueries
import SentinelIR.Rag.Unanswered

namespace SentinelIR.Rag.StoredQueries

open SentinelIR.Py hiding Value
open SentinelIR.Graph SentinelIR.Loader SentinelIR.Loader.LoadEvents SentinelIR.Common
  SentinelIR.Alerts SentinelIR.Collector SentinelIR.Rules

variable {events : List SecurityEvent} {listed : List Alert} {times : Dict Str Micros}
  {g : KnowledgeGraph}

/-- A loaded graph, by names. -/
abbrev namesOf (events : List SecurityEvent) (listed : List Alert) (times : Dict Str Micros) :
    GraphView Name := (graphOf events listed times).view Loader.keyOf

section Columns

variable {v : GraphView Name} {x : Char} {n : Name} {key : Property}

theorem column_of_node {row : Bindings Char Name} (bound : row.node x = some n) :
    column v row x key = textOf (v.property n key) := by
  rw [column, Bindings.value, bound]
  rfl

theorem value_of_node {row : Bindings Char Name} (bound : row.node x = some n) :
    row.value v x key = v.property n key := by
  rw [Bindings.value, bound]
  rfl

/-- What is collected of a column. -/
theorem texts_collected {rows : List (Bindings Char Name)} :
    texts (collected v rows x key) = collectDistinct (fun row => column v row x key) rows := by
  simp [texts, collected, List.filterMap_map]

theorem mem_texts_collected {rows : List (Bindings Char Name)} {text : Str} :
    text ∈ texts (collected v rows x key) ↔ ∃ row ∈ rows, column v row x key = some text := by
  rw [texts_collected, collectDistinct, mem_distinct, List.mem_filterMap]

end Columns

section Names

/-- The key of a node. -/
theorem property_name {label : Label} {text : Str}
    (held : Loader.named label text ∈ (graphOf events listed times).nodes) :
    (namesOf events listed times).property (Loader.named label text) (Loader.keyOf label) =
      some (.text text) := property_key held

/-- Who indicates what. -/
theorem indicated_of_linked {n m : Name} (linked : Linked events listed ⟨n, .indicates, m⟩) :
    ∃ alert ∈ listed, ∃ threat ∈ LoadSecurityKnowledge.threats,
      threat.rule = some alert.ruleName ∧ n = alertName alert.alertId ∧
        m = Loader.named .threat threat.techniqueId := by
  cases linked with
  | fixed held => exact absurd (relation_of_fixed _ held) (by simp)
  | indicates held known detects => exact ⟨_, held, _, known, detects, rfl, rfl⟩

variable (loaded : LoadedFrom events listed times g)

include loaded

/-- A column of an alert. -/
theorem property_alert {alert : Alert} (halert : alert ∈ listed) {key : Property}
    (other : key ≠ .alertId) :
    (namesOf events listed times).property (alertName alert.alertId) key =
      valueIn (alertProps alert) key := by
  rw [property_of_ne (loaded.alert_held halert) other, loaded.props_alert halert]

theorem property_alertId {alert : Alert} (halert : alert ∈ listed) :
    (namesOf events listed times).property (alertName alert.alertId) .alertId =
      some (.text alert.alertId) := property_name (loaded.alert_held halert)

/-- The nodes of alerts. -/
theorem mem_alerts {n : Name} : n ∈ (namesOf events listed times).labelled .alert ↔
    ∃ alert ∈ listed, n = alertName alert.alertId := by
  rw [mem_labelled]
  constructor
  · rintro ⟨held, labelled⟩
    rcases loaded.node_cases held with other | alert | ⟨entity, -, rfl⟩
    · exact absurd (labelled ▸ List.mem_cons_self) other
    · exact alert
    · cases labelled
  · rintro ⟨alert, halert, rfl⟩
    exact ⟨loaded.alert_held halert, rfl⟩

/-- A property of a fixed node. -/
theorem property_fixed {n : Name} {assignments : List (Property × Option Loader.Value)}
    (held : n ∈ (graphOf events listed times).nodes) (fixed : (n, assignments) ∈ fixedProps)
    {key : Property} (other : key ≠ Loader.keyOf n.label) :
    (namesOf events listed times).property n key = valueIn assignments key := by
  rw [property_of_ne held other, loaded.props_fixed fixed]

/-- The columns of the knowledge. -/
theorem property_threat {threat : LoadSecurityKnowledge.Threat}
    (hthreat : threat ∈ LoadSecurityKnowledge.threats)
    (held : Loader.named .threat threat.techniqueId ∈ (graphOf events listed times).nodes) :
    (namesOf events listed times).property (Loader.named .threat threat.techniqueId) .name =
        some (.text threat.name) ∧
      (namesOf events listed times).property (Loader.named .threat threat.techniqueId) .tactic =
        some (.text threat.tactic) :=
  have fixed := described_knowledge.1 threat hthreat
  ⟨property_fixed loaded held fixed (by simp [Loader.keyOf, Loader.named]),
    property_fixed loaded held fixed (by simp [Loader.keyOf, Loader.named])⟩

@[inherit_doc property_threat]
theorem property_vulnerability {vuln : LoadSecurityKnowledge.Vulnerability}
    (hvuln : vuln ∈ LoadSecurityKnowledge.vulnerabilities)
    (held : Loader.named .vulnerability vuln.vulnId ∈ (graphOf events listed times).nodes) :
    (namesOf events listed times).property (Loader.named .vulnerability vuln.vulnId) .name =
      some (.text vuln.name) :=
  property_fixed loaded held (described_knowledge.2.1 vuln hvuln)
    (by simp [Loader.keyOf, Loader.named])

@[inherit_doc property_threat]
theorem property_control {control : LoadSecurityKnowledge.Control}
    (hcontrol : control ∈ LoadSecurityKnowledge.controls)
    (held : Loader.named .control control.controlId ∈ (graphOf events listed times).nodes) :
    (namesOf events listed times).property (Loader.named .control control.controlId) .name =
      some (.text control.name) :=
  property_fixed loaded held (described_knowledge.2.2.1 control hcontrol)
    (by simp [Loader.keyOf, Loader.named])

@[inherit_doc property_threat]
theorem property_document {doc : LoadSecurityKnowledge.Document}
    (hdoc : doc ∈ LoadSecurityKnowledge.documents)
    (held : Loader.named .document doc.docId ∈ (graphOf events listed times).nodes) :
    (namesOf events listed times).property (Loader.named .document doc.docId) .title =
      some (.text doc.title) :=
  property_fixed loaded held (described_knowledge.2.2.2 doc hdoc)
    (by simp [Loader.keyOf, Loader.named])

/-- The neighbours along a relationship. -/
theorem mem_reached_forth {row : Bindings Char Name} {x : Char} {n m : Name} {relation : Relation}
    {label : Label} (bound : row.node x = some n) :
    m ∈ reached (namesOf events listed times) row x .forth relation label ↔
      Linked events listed ⟨n, relation, m⟩ ∧ m.label = label := by
  rw [reached, bound]
  dsimp only
  rw [List.mem_filter, mem_neighbours_forth, hasLabel_iff, loaded.mem_links_iff]
  exact ⟨fun found => ⟨found.1, found.2.2⟩,
    fun found => ⟨found.1, (loaded.ends found.1).2, found.2⟩⟩

/-- The neighbours against a relationship. -/
theorem mem_reached_back {row : Bindings Char Name} {x : Char} {n m : Name} {relation : Relation}
    {label : Label} (bound : row.node x = some n) :
    m ∈ reached (namesOf events listed times) row x .back relation label ↔
      Linked events listed ⟨m, relation, n⟩ ∧ m.label = label := by
  rw [reached, bound]
  dsimp only
  rw [List.mem_filter, mem_neighbours_back, hasLabel_iff, loaded.mem_links_iff]
  exact ⟨fun found => ⟨found.1, found.2.2⟩,
    fun found => ⟨found.1, (loaded.ends found.1).1, found.2⟩⟩

end Names

theorem isText_iff {value : Str} {held : Option Loader.Value} :
    isText value held = true ↔ held = some (.text value) := by
  rw [isText, decide_eq_true_eq]

/-! ## q4 -/

section ControlsForAlert

/-- Against every technique a rule detects there is a control, and for it a runbook. -/
theorem covered : ∀ threat ∈ LoadSecurityKnowledge.threats, threat.rule ≠ none →
    (∃ control ∈ LoadSecurityKnowledge.controls, threat.techniqueId ∈ control.threats) ∧
      ∃ doc ∈ LoadSecurityKnowledge.documents, threat.techniqueId ∈ doc.respondsTo := by decide

variable (loaded : LoadedFrom events listed times g)

include loaded

/-- The technique of an alert's rule, the controls against it and the runbooks for it. -/
theorem mem_controlsForAlertMatches {alertId : Str} {row : Bindings Char Name} :
    row ∈ matchAll (namesOf events listed times) (controlsForAlertPattern alertId) ↔
      ∃ alert ∈ listed, alert.alertId = alertId ∧
        ∃ threat ∈ LoadSecurityKnowledge.threats, threat.rule = some alert.ruleName ∧
          ∃ control ∈ LoadSecurityKnowledge.controls, threat.techniqueId ∈ control.threats ∧
            ∃ doc ∈ LoadSecurityKnowledge.documents, threat.techniqueId ∈ doc.respondsTo ∧
              row = [('d', some (Loader.named .document doc.docId)),
                ('c', some (Loader.named .control control.controlId)),
                ('t', some (Loader.named .threat threat.techniqueId)),
                ('a', some (alertName alert.alertId))] := by
  simp only [matchAll, controlsForAlertPattern, List.foldl_cons, List.foldl_nil, List.mem_flatMap,
    List.mem_singleton, exists_eq_left, mem_readRow_nodes, mem_readRow_keep, mem_readRow_follow,
    mem_readRow_optional]
  constructor
  · rintro ⟨_, ⟨_, ⟨_, ⟨_, ⟨n, hn, rfl⟩, kept, rfl⟩, m, hm, rfl⟩, c, rfl, hc⟩, d, rfl, hd⟩
    obtain ⟨alert, halert, rfl⟩ := (mem_alerts loaded).mp hn
    have found := isText_iff.mp kept
    rw [value_of_node rfl, property_alertId loaded halert] at found
    obtain rfl : alert.alertId = alertId := by simpa using found
    obtain ⟨linked, -⟩ := (mem_reached_forth loaded rfl).mp hm
    obtain ⟨twin, htwin, threat, hthreat, detects, same, rfl⟩ := indicated_of_linked linked
    obtain rfl := List.inj_on_of_nodup_map loaded.distinct halert htwin (by
      simpa [alertName, Loader.named] using same)
    obtain ⟨⟨control, hcontrol, mitigates⟩, doc, hdoc, responds⟩ :=
      covered threat hthreat (by rw [detects]; exact Option.some_ne_none _)
    obtain ⟨n, hn, rfl⟩ := hc.exists_of_mem ((mem_reached_back loaded rfl).mpr
      ⟨mitigates_iff.mpr ⟨control, hcontrol, _, mitigates, rfl, rfl⟩, rfl⟩)
    obtain ⟨linked, -⟩ := (mem_reached_back loaded rfl).mp hn
    obtain ⟨control, hcontrol, technique, mitigates, rfl, same⟩ := mitigates_iff.mp linked
    obtain ⟨n, hn, rfl⟩ := hd.exists_of_mem ((mem_reached_back loaded rfl).mpr
      ⟨supports_iff.mpr ⟨doc, hdoc, _, responds, rfl, rfl⟩, rfl⟩)
    obtain ⟨linked, -⟩ := (mem_reached_back loaded rfl).mp hn
    obtain ⟨doc, hdoc, other, responds, rfl, again⟩ := supports_iff.mp linked
    obtain rfl : threat.techniqueId = technique := by simpa [Loader.named] using same
    obtain rfl : threat.techniqueId = other := by simpa [Loader.named] using again
    exact ⟨alert, halert, rfl, threat, hthreat, detects, control, hcontrol, mitigates, doc, hdoc,
      responds, rfl⟩
  · rintro ⟨alert, halert, rfl, threat, hthreat, detects, control, hcontrol, mitigates, doc, hdoc,
      responds, rfl⟩
    refine ⟨_, ⟨_, ⟨_, ⟨_, ⟨_, (mem_alerts loaded).mpr ⟨alert, halert, rfl⟩, rfl⟩, ?_, rfl⟩,
      _, ?_, rfl⟩, _, rfl, ?_⟩, _, rfl, ?_⟩
    · rw [isText_iff, value_of_node rfl, property_alertId loaded halert]
    · exact (mem_reached_forth loaded rfl).mpr ⟨.indicates halert hthreat detects, rfl⟩
    · exact (mem_reached_back loaded rfl).mpr
        ⟨mitigates_iff.mpr ⟨control, hcontrol, _, mitigates, rfl, rfl⟩, rfl⟩
    · exact (mem_reached_back loaded rfl).mpr
        ⟨supports_iff.mpr ⟨doc, hdoc, _, responds, rfl, rfl⟩, rfl⟩

/-- The columns of such a match. -/
theorem column_controlsForAlert {alert : Alert} {threat : LoadSecurityKnowledge.Threat}
    {control : LoadSecurityKnowledge.Control} {doc : LoadSecurityKnowledge.Document}
    {row : Bindings Char Name} (halert : alert ∈ listed)
    (hthreat : threat ∈ LoadSecurityKnowledge.threats) (detects : threat.rule = some alert.ruleName)
    (hcontrol : control ∈ LoadSecurityKnowledge.controls)
    (mitigates : threat.techniqueId ∈ control.threats)
    (hdoc : doc ∈ LoadSecurityKnowledge.documents) (responds : threat.techniqueId ∈ doc.respondsTo)
    (bound : row = [('d', some (Loader.named .document doc.docId)),
      ('c', some (Loader.named .control control.controlId)),
      ('t', some (Loader.named .threat threat.techniqueId)),
      ('a', some (alertName alert.alertId))]) :
    controlsForAlertKey (namesOf events listed times) row =
        (some alert.alertId, some alert.ruleName, some threat.techniqueId, some threat.name,
          some alert.recommendedAction) ∧
      column (namesOf events listed times) row 'c' .name = some control.name ∧
      column (namesOf events listed times) row 'd' .title = some doc.title := by
  have technique := (loaded.ends (.indicates halert hthreat detects)).2
  have mitigation := (loaded.ends (mitigates_iff.mpr ⟨control, hcontrol, _, mitigates, rfl, rfl⟩)).1
  have response := (loaded.ends (supports_iff.mpr ⟨doc, hdoc, _, responds, rfl, rfl⟩)).1
  have alertNode : row.node 'a' = some (alertName alert.alertId) := by rw [bound]; rfl
  have threatNode : row.node 't' = some (Loader.named .threat threat.techniqueId) := by
    rw [bound]; rfl
  refine ⟨?_, ?_, ?_⟩
  · rw [controlsForAlertKey, column_of_node alertNode, column_of_node alertNode,
      column_of_node threatNode, column_of_node threatNode, column_of_node alertNode,
      property_alertId loaded halert, property_alert loaded halert (by decide),
      property_alert loaded halert (by decide), (property_threat loaded hthreat technique).1]
    exact congrArg (fun id => (_, _, id, _, _)) (congrArg textOf (property_name technique))
  · rw [column_of_node (by rw [bound]; rfl), property_control loaded hcontrol mitigation]
    rfl
  · rw [column_of_node (by rw [bound]; rfl), property_document loaded hdoc response]
    rfl

end ControlsForAlert

/-- The row of q4 about an alert and the technique its rule detects. -/
structure Explained (alert : Alert) (threat : LoadSecurityKnowledge.Threat)
    (row : ControlsForAlertRow) : Prop where
  alertId : row.alertId = some alert.alertId
  ruleName : row.ruleName = some alert.ruleName
  techniqueId : row.techniqueId = some threat.techniqueId
  technique : row.technique = some threat.name
  action : row.ruleRecommendedAction = some alert.recommendedAction
  controls : ∀ text, text ∈ texts row.controls ↔
    ∃ control ∈ LoadSecurityKnowledge.controls, threat.techniqueId ∈ control.threats ∧
      control.name = text
  runbooks : ∀ text, text ∈ texts row.runbooks ↔
    ∃ doc ∈ LoadSecurityKnowledge.documents, threat.techniqueId ∈ doc.respondsTo ∧
      doc.title = text

/-- The one row that the matches of an alert make. -/
theorem explained_of_matches (loaded : LoadedFrom events listed times g) {alert : Alert}
    {threat : LoadSecurityKnowledge.Threat} (halert : alert ∈ listed)
    (hthreat : threat ∈ LoadSecurityKnowledge.threats) (detects : threat.rule = some alert.ruleName)
    {rows : List (Bindings Char Name)}
    (members : ∀ row, row ∈ rows ↔
      ∃ control ∈ LoadSecurityKnowledge.controls, threat.techniqueId ∈ control.threats ∧
        ∃ doc ∈ LoadSecurityKnowledge.documents, threat.techniqueId ∈ doc.respondsTo ∧
          row = [('d', some (Loader.named .document doc.docId)),
            ('c', some (Loader.named .control control.controlId)),
            ('t', some (Loader.named .threat threat.techniqueId)),
            ('a', some (alertName alert.alertId))]) :
    ∃ row, (grouped (controlsForAlertKey (namesOf events listed times)) rows).map
        (controlsForAlertRow (namesOf events listed times)) = [row] ∧
      Explained alert threat row := by
  have columns {row : Bindings Char Name} (hrow : row ∈ rows) :
      ∃ control ∈ LoadSecurityKnowledge.controls, threat.techniqueId ∈ control.threats ∧
        ∃ doc ∈ LoadSecurityKnowledge.documents, threat.techniqueId ∈ doc.respondsTo ∧
          controlsForAlertKey (namesOf events listed times) row =
              (some alert.alertId, some alert.ruleName, some threat.techniqueId,
                some threat.name, some alert.recommendedAction) ∧
            column (namesOf events listed times) row 'c' .name = some control.name ∧
            column (namesOf events listed times) row 'd' .title = some doc.title := by
    obtain ⟨control, hcontrol, mitigates, doc, hdoc, responds, bound⟩ := (members row).mp hrow
    exact ⟨control, hcontrol, mitigates, doc, hdoc, responds, column_controlsForAlert loaded halert
      hthreat detects hcontrol mitigates hdoc responds bound⟩
  obtain ⟨⟨control, hcontrol, mitigates⟩, doc, hdoc, responds⟩ :=
    covered threat hthreat (by rw [detects]; exact Option.some_ne_none _)
  have nonempty : rows ≠ [] :=
    List.ne_nil_of_mem ((members _).mpr ⟨control, hcontrol, mitigates, doc, hdoc, responds, rfl⟩)
  have agree : ∀ row ∈ rows, controlsForAlertKey (namesOf events listed times) row =
      (some alert.alertId, some alert.ruleName, some threat.techniqueId, some threat.name,
        some alert.recommendedAction) := by
    intro row hrow
    obtain ⟨_, _, _, _, _, _, key, _⟩ := columns hrow
    exact key
  refine ⟨_, by rw [grouped_of_agree nonempty agree, List.map_singleton], rfl, rfl, rfl, rfl, rfl,
    fun text => ?_, fun text => ?_⟩
  · rw [controlsForAlertRow, mem_texts_collected]
    constructor
    · rintro ⟨row, hrow, held⟩
      obtain ⟨other, hother, mitigates, -, -, -, -, named, -⟩ := columns hrow
      exact ⟨other, hother, mitigates, Option.some.inj (named.symm.trans held)⟩
    · rintro ⟨other, hother, mitigates, rfl⟩
      exact ⟨_, (members _).mpr ⟨other, hother, mitigates, doc, hdoc, responds, rfl⟩,
        (column_controlsForAlert loaded halert hthreat detects hother mitigates hdoc responds
          rfl).2.1⟩
  · rw [controlsForAlertRow, mem_texts_collected]
    constructor
    · rintro ⟨row, hrow, held⟩
      obtain ⟨-, -, -, other, hother, responds, -, -, titled⟩ := columns hrow
      exact ⟨other, hother, responds, Option.some.inj (titled.symm.trans held)⟩
    · rintro ⟨other, hother, responds, rfl⟩
      exact ⟨_, (members _).mpr ⟨control, hcontrol, mitigates, other, hother, responds, rfl⟩,
        (column_controlsForAlert loaded halert hthreat detects hcontrol mitigates hother responds
          rfl).2.2⟩

/-- q4 knows the listed alerts and no others, and has one row for each. -/
theorem controlsForAlert_cases (loaded : LoadedFrom events listed times g) (alertId : Str) :
    (∀ alert ∈ listed, alert.alertId ≠ alertId) ∧ controlsForAlert g.view alertId = [] ∨
      ∃ alert ∈ listed, alert.alertId = alertId ∧
        ∃ threat ∈ LoadSecurityKnowledge.threats, threat.rule = some alert.ruleName ∧
          ∃ row, controlsForAlert g.view alertId = [row] ∧ Explained alert threat row := by
  rw [controlsForAlert_embeds loaded.represents.embeds, controlsForAlert]
  by_cases known : ∃ alert ∈ listed, alert.alertId = alertId
  · right
    obtain ⟨alert, halert, rfl⟩ := known
    obtain ⟨rule, ruled⟩ := loaded.ruled alert halert
    obtain ⟨threat, hthreat, detected, only⟩ := exists_threat rule
    have detects : threat.rule = some alert.ruleName := detected.trans (congrArg some ruled.symm)
    refine ⟨alert, halert, rfl, threat, hthreat, detects,
      explained_of_matches loaded halert hthreat detects fun row => ?_⟩
    rw [mem_controlsForAlertMatches loaded]
    constructor
    · rintro ⟨twin, htwin, same, other, hother, detects', rest⟩
      obtain rfl := List.inj_on_of_nodup_map loaded.distinct htwin halert same
      rwa [only other hother (detects'.trans (congrArg some ruled))] at rest
    · exact fun rest => ⟨alert, halert, rfl, threat, hthreat, detects, rest⟩
  · left
    have none : matchAll (namesOf events listed times) (controlsForAlertPattern alertId) = [] := by
      rw [List.eq_nil_iff_forall_not_mem]
      intro row hrow
      obtain ⟨alert, halert, same, -⟩ := (mem_controlsForAlertMatches loaded).mp hrow
      exact known ⟨alert, halert, same⟩
    exact ⟨fun alert halert same => known ⟨alert, halert, same⟩, by rw [none]; rfl⟩

/-! ## q1 -/

/-- The row of an alert in q1. -/
def alertRow (alert : Alert) : AlertsForServiceRow where
  alertId := some alert.alertId
  ruleName := some alert.ruleName
  severity := some alert.severity.value
  status := some alert.status.value
  description := some alert.description
  recommendedAction := some alert.recommendedAction
  timestamp := some alert.timestamp

/-- The first row is newer, or as old and not after by its alert id. -/
def NewestFirst (first second : Alert) : Prop :=
  second.timestamp < first.timestamp ∨
    second.timestamp = first.timestamp ∧ first.alertId ≤ second.alertId

section AlertsForService

variable (loaded : LoadedFrom events listed times g)

include loaded

/-- The nodes of alerts, up to order. -/
theorem perm_alerts : ((namesOf events listed times).labelled .alert).Perm
    (listed.map fun alert => alertName alert.alertId) := by
  rw [List.perm_ext_iff_of_nodup]
  · intro n
    rw [mem_alerts loaded, List.mem_map]
    exact exists_congr fun alert => and_congr_right fun _ => eq_comm
  · exact loaded.represents.nodup.filter _
  · have ids := loaded.distinct
    have split : (listed.map fun alert => alertName alert.alertId) =
        (listed.map (·.alertId)).map alertName := by
      rw [List.map_map]
      rfl
    rw [split]
    exact ids.map fun first second same => by simpa [alertName, Loader.named] using same

/-- The nodes of alerts are the listed alerts, in some order. -/
theorem exists_labelled_alerts : ∃ nodes : List Alert, nodes.Perm listed ∧
    (namesOf events listed times).labelled .alert =
      nodes.map fun alert => alertName alert.alertId := by
  have names : List.Forall₂ (fun n alert => n = alertName alert.alertId)
      (listed.map fun alert => alertName alert.alertId) listed := by
    rw [List.forall₂_map_left_iff]
    exact List.forall₂_same.mpr fun _ _ => rfl
  obtain ⟨nodes, named, same⟩ := List.perm_comp_forall₂ (perm_alerts loaded) names
  refine ⟨nodes, same, List.forall₂_eq_eq_eq ▸ ?_⟩
  exact List.forall₂_map_right_iff.mpr named

/-- The row of an alert's node. -/
theorem alertsForServiceRow_alert {alert : Alert} (halert : alert ∈ listed) :
    alertsForServiceRow (namesOf events listed times)
      [('a', some (alertName alert.alertId))] = alertRow alert := by
  have other {key : Property} (apart : key ≠ .alertId) :
      column (namesOf events listed times) [('a', some (alertName alert.alertId))] 'a' key =
        textOf (valueIn (alertProps alert) key) := by
    rw [column_of_node rfl, property_alert loaded halert apart]
  have id : column (namesOf events listed times) [('a', some (alertName alert.alertId))] 'a'
      .alertId = some alert.alertId := by
    rw [column_of_node rfl, property_alertId loaded halert]
    rfl
  simp only [alertsForServiceRow, id, ne_eq, reduceCtorEq, not_false_eq_true, other]
  rfl

/-- The matches of q1. -/
theorem matchAll_alertsForService {nodes : List Alert}
    (listedNode : ∀ alert ∈ nodes, alert ∈ listed)
    (labelled : (namesOf events listed times).labelled .alert =
      nodes.map fun alert => alertName alert.alertId) (service : Str) :
    matchAll (namesOf events listed times) (alertsForServicePattern service) =
      (nodes.filter fun alert => alert.affectedService = some service).map fun alert =>
        [('a', some (alertName alert.alertId))] := by
  have kept : ∀ alert ∈ nodes, readRow (namesOf events listed times)
      (.keep 'a' .affectedService (isText service)) [('a', some (alertName alert.alertId))] =
        if alert.affectedService = some service then
          [[('a', some (alertName alert.alertId))]] else [] := by
    intro alert halert
    have held : Bindings.value (namesOf events listed times)
        [('a', some (alertName alert.alertId))] 'a' .affectedService =
          LoadEvents.optional alert.affectedService := by
      rw [value_of_node rfl, property_alert loaded (listedNode alert halert) (by decide)]
      rfl
    have affected : isText service (LoadEvents.optional alert.affectedService) = true ↔
        alert.affectedService = some service := by
      rw [isText_iff]
      cases alert.affectedService <;> simp [LoadEvents.optional]
    rw [readRow, held]
    exact if_congr affected rfl rfl
  have start : [[]].flatMap (readRow (namesOf events listed times)
      (.nodes 'a' .alert : ReadClause Label Relation Property Loader.Value Char)) =
        nodes.map fun alert => [('a', some (alertName alert.alertId))] := by
    rw [List.flatMap_singleton, readRow, labelled, List.map_map]
    rfl
  show ([[]].flatMap _).flatMap _ = _
  rw [start, List.flatMap_map, List.flatMap_congr kept, List.flatMap_def, flatten_map_if]

/-- q1 lists the alerts that affect the service, newest first. -/
theorem alertsForService_perm (service : Str) :
    ∃ order : List Alert,
      order.Perm (listed.filter fun alert => alert.affectedService = some service) ∧
        order.Pairwise NewestFirst ∧ alertsForService g.view service = order.map alertRow := by
  let place (alert : Alert) :=
    toLex (OrderDual.toDual (nullsLast (some alert.timestamp)), nullsLast (some alert.alertId))
  obtain ⟨nodes, same, labelled⟩ := exists_labelled_alerts loaded
  have listedNode : ∀ alert ∈ nodes, alert ∈ listed := fun alert => same.mem_iff.mp
  refine ⟨sortedBy place (nodes.filter fun alert => alert.affectedService = some service),
    (perm_sortedBy _ _).trans (same.filter _), ?_, ?_⟩
  · refine (pairwise_sortedBy place _).imp fun {first second} earlier => ?_
    rcases Prod.Lex.le_iff.mp earlier with newer | ⟨old, before⟩
    · exact .inl (WithTop.coe_lt_coe.mp newer)
    · exact .inr ⟨(WithTop.coe_injective (OrderDual.toDual.injective old)).symm,
        WithTop.coe_le_coe.mp before⟩
  · rw [alertsForService_embeds loaded.represents.embeds, alertsForService]
    rw [matchAll_alertsForService loaded listedNode labelled, List.map_map]
    have rows : (nodes.filter fun alert => alert.affectedService = some service).map
        (alertsForServiceRow (namesOf events listed times) ∘ fun alert =>
          [('a', some (alertName alert.alertId))]) =
        (nodes.filter fun alert => alert.affectedService = some service).map alertRow :=
      List.map_congr_left fun alert halert => alertsForServiceRow_alert loaded
        (listedNode alert (List.mem_of_mem_filter halert))
    rw [rows, sortedBy_map]
    rfl

end AlertsForService

/-! ## q5 -/

section DependencyImpact

variable (loaded : LoadedFrom events listed times g)

include loaded

omit loaded in
/-- The failing service, if it is one of the graph's. -/
theorem mem_failing {service : Str} {row : Bindings Char Name} :
    row ∈ matchAll (namesOf events listed times) (failingPattern service) ↔
      Loader.named .service service ∈ (graphOf events listed times).nodes ∧
        row = [('f', some (Loader.named .service service))] := by
  simp only [matchAll, failingPattern, List.foldl_cons, List.foldl_nil, List.mem_flatMap,
    List.mem_singleton, exists_eq_left, mem_readRow_nodes, mem_readRow_keep]
  constructor
  · rintro ⟨_, ⟨⟨label, value⟩, hn, rfl⟩, kept, rfl⟩
    obtain ⟨held, labelled⟩ := mem_labelled.mp hn
    obtain rfl : label = .service := labelled
    have named := isText_iff.mp kept
    rw [value_of_node rfl] at named
    obtain rfl : value = .text service :=
      Option.some.inj ((property_key held).symm.trans named)
    exact ⟨held, rfl⟩
  · rintro ⟨held, rfl⟩
    refine ⟨_, ⟨_, mem_labelled.mpr ⟨held, rfl⟩, rfl⟩, ?_, rfl⟩
    rw [isText_iff, value_of_node rfl]
    exact property_name held

/-- One service depends on another, so the only trail is that of one hop. -/
theorem mem_trails {n : Name} {trail : Name × Nat} :
    trail ∈ trailsInto (namesOf events listed times) .dependsOn maxHops [] n ↔
      n = Loader.named .service "asset-service" ∧
        trail = (Loader.named .service "incident-service", 1) := by
  have depends {m k : Name} : m ∈ (namesOf events listed times).neighbours .back k .dependsOn ↔
      m = Loader.named .service "incident-service" ∧
        k = Loader.named .service "asset-service" := by
    rw [mem_neighbours_back, loaded.mem_links_iff, dependsOn_iff]
  have undepended : (namesOf events listed times).neighbours .back
      (Loader.named .service "incident-service") .dependsOn = [] := by
    rw [List.eq_nil_iff_forall_not_mem]
    intro m hm
    exact absurd (depends.mp hm).2 (by decide)
  have onward (taken : List (Name × Name)) : trailsInto (namesOf events listed times) .dependsOn 9
      taken (Loader.named .service "incident-service") = [] := by
    rw [trailsInto, undepended]
    rfl
  rw [maxHops, trailsInto]
  simp only [List.mem_flatMap, List.mem_filter, List.not_mem_nil, not_false_eq_true, decide_true,
    and_true, depends]
  constructor
  · rintro ⟨m, ⟨rfl, rfl⟩, htrail⟩
    rw [onward, List.map_nil, List.mem_singleton] at htrail
    exact ⟨rfl, htrail⟩
  · rintro ⟨rfl, rfl⟩
    exact ⟨_, ⟨rfl, rfl⟩, List.mem_cons_self⟩

/-- q5: the blast radius of a service that fails. -/
theorem dependencyImpact_eq (service : Str) :
    dependencyImpact g.view service =
      if service = lit "asset-service" then
        [{ impactedService := some "incident-service", hops := some 1 }] else [] := by
  have edge := loaded.ends (dependsOn_iff.mpr ⟨rfl, rfl⟩)
  have members {trail : Name × Nat} : trail ∈ dependents (namesOf events listed times) service ↔
      service = lit "asset-service" ∧
        trail = (Loader.named .service "incident-service", 1) := by
    simp only [dependents, List.mem_flatMap, List.mem_filterMap, mem_failing,
      List.mem_filter, mem_trails loaded, hasLabel_iff]
    constructor
    · rintro ⟨n, ⟨_, ⟨held, rfl⟩, bound⟩, ⟨rfl, rfl⟩, -⟩
      refine ⟨?_, rfl⟩
      have same := Option.some.inj bound
      simpa [Loader.named] using same
    · rintro ⟨rfl, rfl⟩
      exact ⟨_, ⟨_, ⟨edge.2, rfl⟩, rfl⟩, ⟨rfl, rfl⟩, edge.1, rfl⟩
  rw [dependencyImpact_embeds loaded.represents.embeds, dependencyImpact]
  split
  case isTrue asset =>
      have one := members.mpr ⟨asset, rfl⟩
      have agree : ∀ trail ∈ dependents (namesOf events listed times) service,
          trail.1 = Loader.named .service "incident-service" :=
        fun trail htrail => congrArg Prod.fst (members.mp htrail).2
      have hops : ((dependents (namesOf events listed times) service).map Prod.snd).min? =
          some 1 := by
        rw [List.min?_eq_some_iff]
        refine ⟨List.mem_map_of_mem one, fun length hlength => ?_⟩
        obtain ⟨trail, htrail, rfl⟩ := List.mem_map.mp hlength
        exact le_of_eq (congrArg Prod.snd (members.mp htrail).2).symm
      have name : (namesOf events listed times).property
          (Loader.named .service "incident-service") .name = some (.text "incident-service") :=
        property_name edge.1
      rw [grouped_of_agree (List.ne_nil_of_mem one) agree, List.map_singleton, hops, name]
      rfl
  case isFalse other =>
      have none : dependents (namesOf events listed times) service = [] := by
        rw [List.eq_nil_iff_forall_not_mem]
        exact fun trail htrail => other (members.mp htrail).1
      rw [none]
      rfl

end DependencyImpact

/-! ## Over a load -/

section Load

variable [UnicodeDb] (ids : AlertIds) (digest : Digest) (clock now : Datetime)
  (store : EventStore) (keyed : List Alert) (sources : List (Str × List Write))
  (hnow : latestMoment clock store = .ok now)
  (hkeyed : stableAlerts ids digest store now = .ok keyed)
  (hsources : collectWrites ids digest clock store = .ok sources)

include hnow hkeyed hsources

/-- **The alerts of a service**: what a load leaves for q1 to return are the listed alerts that
affect the service, each once, newest first. -/
theorem load_alertsForService (service : Str) :
    ∃ order : List Alert,
      order.Perm (((AlertStore.empty.extend keyed).1.list none none none).filter fun alert =>
        alert.affectedService = some service) ∧
        order.Pairwise NewestFirst ∧
          alertsForService (load sources).view service = order.map alertRow := by
  obtain ⟨times, loaded⟩ := exists_loadedFrom hnow hkeyed hsources
  exact alertsForService_perm loaded service

/-- **What should be done about an alert**: q4 returns nothing for an alert that is not listed,
and one row for one that is, which explains it by the technique of its rule. -/
theorem load_controlsForAlert (alertId : Str) :
    (∀ alert ∈ (AlertStore.empty.extend keyed).1.list none none none, alert.alertId ≠ alertId) ∧
        controlsForAlert (load sources).view alertId = [] ∨
      ∃ alert ∈ (AlertStore.empty.extend keyed).1.list none none none, alert.alertId = alertId ∧
        ∃ threat ∈ LoadSecurityKnowledge.threats, threat.rule = some alert.ruleName ∧
          ∃ row, controlsForAlert (load sources).view alertId = [row] ∧
            Explained alert threat row := by
  obtain ⟨times, loaded⟩ := exists_loadedFrom hnow hkeyed hsources
  exact controlsForAlert_cases loaded alertId

/-- **The blast radius**: whatever the events, q5 walks the one dependency there is. -/
theorem load_dependencyImpact (service : Str) :
    dependencyImpact (load sources).view service =
      if service = lit "asset-service" then
        [{ impactedService := some "incident-service", hops := some 1 }] else [] := by
  obtain ⟨times, loaded⟩ := exists_loadedFrom hnow hkeyed hsources
  exact dependencyImpact_eq loaded service

end Load

theorem load_alertsForService_burst : letI := printsAll
    ∃ keyed sources,
      stableAlerts (fun _ => alertIdTag) burstDigest burst (second 5).time = .ok keyed ∧
      collectWrites (fun _ => alertIdTag) burstDigest anHourLater burst = .ok sources ∧
      ∃ order : List Alert,
        order.Perm (((AlertStore.empty.extend keyed).1.list none none none).filter fun alert =>
          alert.affectedService = some (lit "auth-service")) ∧
          order.Pairwise NewestFirst ∧
            alertsForService (load sources).view (lit "auth-service") = order.map alertRow := by
  let _ := printsAll
  obtain ⟨keyed, sources, hkeyed, hsources⟩ := exists_load_burst
  exact ⟨keyed, sources, hkeyed, hsources,
    load_alertsForService _ _ _ _ _ _ _ latestMoment_burst hkeyed hsources _⟩

theorem load_controlsForAlert_burst : letI := printsAll
    ∃ keyed sources,
      stableAlerts (fun _ => alertIdTag) burstDigest burst (second 5).time = .ok keyed ∧
      collectWrites (fun _ => alertIdTag) burstDigest anHourLater burst = .ok sources ∧
      ∀ alertId,
        (∀ alert ∈ (AlertStore.empty.extend keyed).1.list none none none,
            alert.alertId ≠ alertId) ∧
            controlsForAlert (load sources).view alertId = [] ∨
          ∃ alert ∈ (AlertStore.empty.extend keyed).1.list none none none,
            alert.alertId = alertId ∧
              ∃ threat ∈ LoadSecurityKnowledge.threats, threat.rule = some alert.ruleName ∧
                ∃ row, controlsForAlert (load sources).view alertId = [row] ∧
                  Explained alert threat row := by
  let _ := printsAll
  obtain ⟨keyed, sources, hkeyed, hsources⟩ := exists_load_burst
  exact ⟨keyed, sources, hkeyed, hsources,
    load_controlsForAlert _ _ _ _ _ _ _ latestMoment_burst hkeyed hsources⟩

theorem load_dependencyImpact_burst : letI := printsAll
    ∃ sources, collectWrites (fun _ => alertIdTag) burstDigest anHourLater burst = .ok sources ∧
      dependencyImpact (load sources).view (lit "asset-service") =
        [{ impactedService := some "incident-service", hops := some 1 }] := by
  let _ := printsAll
  obtain ⟨keyed, sources, hkeyed, hsources⟩ := exists_load_burst
  exact ⟨sources, hsources,
    load_dependencyImpact _ _ _ _ _ _ _ latestMoment_burst hkeyed hsources _⟩

end SentinelIR.Rag.StoredQueries
