/-
# Answers from a loaded graph

The stored queries run on a graph a load left. Every question is answered honestly, so the
case in which an alert is found and nothing is advised does not arise; and asked about a
listed alert the evidence names the technique of its rule with every control against it and
every runbook for it.
-/

import SentinelIR.Rag.LoadedLinkage

namespace SentinelIR.Rag.StoredQueries

open SentinelIR.Py hiding Value
open SentinelIR.Graph SentinelIR.Loader SentinelIR.Loader.LoadEvents SentinelIR.Common
  SentinelIR.Alerts SentinelIR.Collector SentinelIR.Rules

/-- The rows a graph gives a query, by its key, under the parameters that are bound. A query
runs only with those it declares. -/
def graphResults (g : KnowledgeGraph) : Results
  | .alertsForService, _, parameters =>
      ((parameters.lookup (lit "service")).map (alertsForService g.view)).getD []
  | .usersHighSeverity, _, _ => usersHighSeverity g.view
  | .threatsForService, _, parameters =>
      ((parameters.lookup (lit "service")).map (threatsForService g.view)).getD []
  | .controlsForAlert, _, parameters =>
      ((parameters.lookup (lit "alertId")).map (controlsForAlert g.view)).getD []
  | .dependencyImpact, _, parameters =>
      ((parameters.lookup (lit "service")).map (dependencyImpact g.view)).getD []
  | .incidentsAndAlerts, _, _ => incidentsAndAlerts g.view

/-- q4 returns rows about the alert it is asked for, on every graph. -/
theorem alertId_of_controlsForAlert {N : Type} {v : GraphView N} {alertId : Str}
    {row : ControlsForAlertRow} (hrow : row ∈ controlsForAlert v alertId) :
    row.alertId = some alertId := by
  obtain ⟨⟨key, group⟩, hgroup, rfl⟩ := List.mem_map.mp hrow
  obtain ⟨⟨made, hmade, rfl⟩, -⟩ := mem_grouped.mp hgroup
  simp only [matchAll, controlsForAlertPattern, List.foldl_cons, List.foldl_nil, List.mem_flatMap,
    List.mem_singleton, exists_eq_left, mem_readRow_nodes, mem_readRow_keep, mem_readRow_follow,
    mem_readRow_optional] at hmade
  obtain ⟨_, ⟨_, ⟨_, ⟨_, ⟨n, -, rfl⟩, kept, rfl⟩, m, -, rfl⟩, c, rfl, -⟩, d, rfl, -⟩ := hmade
  have valued : v.property n .alertId = some (.text alertId) := isText_iff.mp kept
  have node : Bindings.node [('d', d), ('c', c), ('t', some m), ('a', some n)] 'a' = some n := rfl
  rw [controlsForAlertRow, controlsForAlertKey, column, Bindings.value, node]
  exact congrArg textOf valued

theorem matched_graphResults (g : KnowledgeGraph) : (graphResults g).Matched := by
  intro queryText alertId row hrow
  exact alertId_of_controlsForAlert hrow

variable {events : List SecurityEvent} {listed : List Alert} {times : Dict Str Micros}
  {g : KnowledgeGraph}

/-- What q4 says of an alert advises a response. -/
theorem advises_of_explained {alert : Alert} {threat : LoadSecurityKnowledge.Threat}
    {row : ControlsForAlertRow} (explained : Explained alert threat row) : Advises [row] := by
  refine .inl ⟨row, rfl, ?_⟩
  rw [explained.action]
  intro empty
  have recommended : alert.recommendedAction = [] := empty
  have blank : Blank ([] : Str) := by decide
  exact alert.valid.recommendedAction (recommended ▸ blank)

section Questions

variable [UnicodeText] [UnicodeDb]

/-- The answers a graph gives about the listed alerts. -/
structure Informed (files : CypherFiles) (listed : List Alert) (g : KnowledgeGraph) : Prop where
  /-- Every question is answered, and the answer declines only when nothing was found. -/
  answered : ∀ question, Answered files (graphResults g) question
  /-- A question that runs q4 for a listed alert gets the technique of its rule, with all that
  is known against it. -/
  about : ∀ question queryText, ∀ alert ∈ listed,
    retrieve files question = .runs QueryKey.controlsForAlert.value queryText
      [("alertId", alert.alertId)] →
    ∃ threat ∈ LoadSecurityKnowledge.threats, threat.rule = some alert.ruleName ∧
      ∃ evidence, retrieveFrom files (graphResults g).runner question = .ok evidence ∧
        (lit "Threat", threat.techniqueId) ∈ evidence.nodes.map EvidenceNode.identity ∧
        (∀ control ∈ LoadSecurityKnowledge.controls, threat.techniqueId ∈ control.threats →
          (lit "Control", control.name) ∈ evidence.nodes.map EvidenceNode.identity) ∧
        ∀ doc ∈ LoadSecurityKnowledge.documents, threat.techniqueId ∈ doc.respondsTo →
          (lit "Document", doc.title) ∈ evidence.nodes.map EvidenceNode.identity

theorem informed_of_loaded (loaded : LoadedFrom events listed times g) (files : CypherFiles) :
    Informed files listed g where
  answered question := by
    refine (answered_iff (matched_graphResults g)).mpr fun queryText parameters runs some => ?_
    cases bound : parameters.lookup (lit "alertId") with
    | none =>
        have empty : graphResults g .controlsForAlert queryText parameters = [] := by
          rw [graphResults, bound]
          rfl
        exact absurd empty some
    | some alertId =>
        have rows : graphResults g .controlsForAlert queryText parameters =
            controlsForAlert g.view alertId := by
          rw [graphResults, bound]
          rfl
        rw [rows] at some ⊢
        rcases controlsForAlert_cases loaded alertId with ⟨-, empty⟩ |
          ⟨alert, -, -, threat, -, -, row, returned, explained⟩
        · exact absurd empty some
        · rw [returned]
          exact advises_of_explained explained
  about question queryText alert halert runs := by
    rcases controlsForAlert_cases loaded alert.alertId with ⟨unknown, -⟩ |
      ⟨twin, htwin, same, threat, hthreat, detects, row, returned, explained⟩
    · exact absurd rfl (unknown alert halert)
    obtain rfl := List.inj_on_of_nodup_map loaded.distinct htwin halert same
    have rows : graphResults g .controlsForAlert queryText [("alertId", twin.alertId)] = [row] :=
      returned
    have complete {label text : Str} (names : (label, text) ∈ named .controlsForAlert row)
        (visible : text ≠ []) : (label, text) ∈
          (@shapeRows .controlsForAlert [row]).nodes.map EvidenceNode.identity := by
      obtain ⟨node, hnode, identity⟩ :=
        (closed_shapeRows .controlsForAlert [row]).complete row List.mem_cons_self (label, text)
          names visible
      exact identity ▸ List.mem_map_of_mem hnode
    have visible : (∀ threat ∈ LoadSecurityKnowledge.threats, threat.techniqueId ≠ []) ∧
        (∀ control ∈ LoadSecurityKnowledge.controls, control.name ≠ []) ∧
        ∀ doc ∈ LoadSecurityKnowledge.documents, doc.title ≠ [] := by decide
    have retrieved : retrieveFrom files (graphResults g).runner question =
        .ok (alertEvidence question (classify question).name queryText
          [("alertId", twin.alertId)] [row]) := by
      rw [retrieveFrom, runs]
      dsimp only
      rw [lookup_value]
      exact congrArg (fun rows => Except.ok (alertEvidence question (classify question).name
        queryText [("alertId", twin.alertId)] rows)) rows
    refine ⟨threat, hthreat, detects, _, retrieved, complete ?_ (visible.1 threat hthreat),
      fun control hcontrol mitigates => complete ?_ (visible.2.1 control hcontrol),
      fun doc hdoc responds => complete ?_ (visible.2.2 doc hdoc)⟩
    · simp [named, explained.techniqueId]
    · have collected := (explained.controls _).mpr ⟨control, hcontrol, mitigates, rfl⟩
      simp [named, collected]
    · have collected := (explained.runbooks _).mpr ⟨doc, hdoc, responds, rfl⟩
      simp [named, collected]

/-- **Answers from a loaded graph**: whatever was collected, every question is answered honestly,
and asked about a listed alert the answer names the technique of its rule, every control against
it and every runbook for it. -/
theorem load_informed (files : CypherFiles) (ids : AlertIds) (digest : Digest)
    (clock now : Datetime) (store : EventStore) (keyed : List Alert)
    (sources : List (Str × List Write))
    (hnow : latestMoment clock store = .ok now)
    (hkeyed : stableAlerts ids digest store now = .ok keyed)
    (hsources : collectWrites ids digest clock store = .ok sources) :
    Informed files ((AlertStore.empty.extend keyed).1.list none none none) (load sources) := by
  obtain ⟨times, loaded⟩ := exists_loadedFrom hnow hkeyed hsources
  exact informed_of_loaded loaded files

end Questions

theorem load_informed_burst : letI : UnicodeText := lowerAscii; letI := printsAll
    ∃ keyed sources,
      stableAlerts (fun _ => alertIdTag) burstDigest burst (second 5).time = .ok keyed ∧
      collectWrites (fun _ => alertIdTag) burstDigest anHourLater burst = .ok sources ∧
      Informed (fun name => name) ((AlertStore.empty.extend keyed).1.list none none none)
        (load sources) := by
  let _ : UnicodeText := lowerAscii
  let _ := printsAll
  obtain ⟨keyed, sources, hkeyed, hsources⟩ := exists_load_burst
  exact ⟨keyed, sources, hkeyed, hsources,
    load_informed _ _ _ _ _ _ _ _ latestMoment_burst hkeyed hsources⟩

end SentinelIR.Rag.StoredQueries
