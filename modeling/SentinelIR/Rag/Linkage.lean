/-
# What the users-linkage answer states

The rows of q2 are grouped by user, rule and severity. The answer has one line for each
user: the evidence keeps the first node of a user, and with it the rule and the severity
of the user's first row, while the relationships to the events of all the user's rows
stay. A user under one rule and severity is reported as the rows have it.
-/

import SentinelIR.Rag.Templates

namespace SentinelIR.Rag

open SentinelIR.Py SentinelIR.Common

/-- The distinct events that are the evidence of a user under a rule. -/
def pairEvents (rows : List UsersHighSeverityRow) (user rule : Str) : List Str :=
  ((rows.filter fun row => keyOf row.username = user && keyOf row.ruleName = rule).flatMap
    fun row => values row.evidenceEvents).dedup

/-- The rows of one user agree on the rule and its severity. -/
def OneRuleEach (rows : List UsersHighSeverityRow) : Prop :=
  ∀ first ∈ rows, ∀ second ∈ rows, keyOf first.username ≠ [] →
    keyOf first.username = keyOf second.username →
      keyOf first.ruleName = keyOf second.ruleName ∧ keyOf first.severity = keyOf second.severity

/-- With one rule for each user, the events of a user are those of the user's rule. -/
theorem pairEvents_of_oneRuleEach {rows : List UsersHighSeverityRow} (agree : OneRuleEach rows)
    {row : UsersHighSeverityRow} (hrow : row ∈ rows) (named : keyOf row.username ≠ []) :
    pairEvents rows (keyOf row.username) (keyOf row.ruleName) =
      ((rows.filter fun other => keyOf other.username = keyOf row.username).flatMap fun other =>
        values other.evidenceEvents).dedup := by
  have same : rows.filter (fun other => keyOf other.username = keyOf row.username &&
      keyOf other.ruleName = keyOf row.ruleName) =
        rows.filter fun other => keyOf other.username = keyOf row.username := by
    apply List.filter_congr
    intro other hother
    rw [← Bool.decide_and, decide_eq_decide]
    refine ⟨fun both => both.1, fun user => ⟨user, ?_⟩⟩
    exact ((agree row hrow other hother named user.symm).1).symm
  rw [pairEvents, same]

section Linkage

variable [UnicodeDb]

/-- The evidence of a users-linkage question. -/
def linkageEvidence (question queryText : Str) (rows : List QueryKey.usersHighSeverity.RowOf) :
    Evidence :=
  evidenceOf question .userLinkage queryText [] rows

/-- The answer states every user and rule of the rows, with the rule's severity and the
number of distinct events of that user under that rule, on a line of its text. -/
def StatesPairs (question queryText : Str) (rows : List UsersHighSeverityRow) : Prop :=
  ∀ row ∈ rows, keyOf row.username ≠ [] →
    ∃ link ∈ links (linkageEvidence question queryText rows),
      link.user = keyOf row.username ∧ link.rule = keyOf row.ruleName ∧
        link.severity = keyOf row.severity ∧
        link.events = (pairEvents rows link.user link.rule).length ∧
        ∃ lines, answerText (linkageEvidence question queryText rows) =
          .ok (joinWith "\n" lines) ∧ link.line ∈ lines

/-- The user node of a row. -/
def userNode (row : UsersHighSeverityRow) : EvidenceNode where
  label := "User"
  key := keyOf row.username
  properties :=
    [("role", textValue row.role), ("ruleName", textValue row.ruleName),
      ("severity", textValue row.severity), ("alertCount", intValue row.alertCount)]

theorem stated_rule (row : UsersHighSeverityRow) :
    stated (userNode row) "ruleName" = keyOf row.ruleName :=
  stated_of_lookup rfl

theorem stated_severity (row : UsersHighSeverityRow) :
    stated (userNode row) "severity" = keyOf row.severity :=
  stated_of_lookup rfl

variable {question queryText : Str} {rows : List UsersHighSeverityRow}

/-- The users of the evidence are the named users of the rows. -/
theorem exists_row_of_user {node : EvidenceNode}
    (hnode : node ∈ (linkageEvidence question queryText rows).nodesOf "User") :
    ∃ row ∈ rows, node = userNode row ∧ keyOf row.username ≠ [] := by
  obtain ⟨kept, labelled⟩ := List.mem_filter.mp hnode
  obtain ⟨row, hrow, made, keyed⟩ := mem_keyedNodes.mp (mem_of_mem_unique kept)
  rcases List.mem_append.mp made with user | event
  · obtain rfl := List.mem_singleton.mp user
    exact ⟨row, hrow, rfl, keyed⟩
  · obtain ⟨eventId, -, rfl⟩ := List.mem_map.mp event
    have events : lit "Event" ≠ lit "User" := by decide
    exact absurd (of_decide_eq_true labelled) events

theorem exists_user_of_row {row : UsersHighSeverityRow} (hrow : row ∈ rows)
    (named : keyOf row.username ≠ []) :
    ∃ node ∈ (linkageEvidence question queryText rows).nodesOf "User",
      node.key = keyOf row.username := by
  have made : userNode row ∈ (shaper .usersHighSeverity row).nodes := List.mem_cons_self
  obtain ⟨held, hheld, same⟩ := exists_node hrow made named
  refine ⟨held, List.mem_filter.mpr ⟨hheld, ?_⟩, congrArg Prod.snd same⟩
  exact decide_eq_true (congrArg Prod.fst same)

/-- There is one node for a user. -/
theorem user_unique {node other : EvidenceNode}
    (hnode : node ∈ (linkageEvidence question queryText rows).nodesOf "User")
    (hother : other ∈ (linkageEvidence question queryText rows).nodesOf "User")
    (same : node.key = other.key) : node = other := by
  obtain ⟨kept, labelled⟩ := List.mem_filter.mp hnode
  obtain ⟨kept', labelled'⟩ := List.mem_filter.mp hother
  have distinct : ((linkageEvidence question queryText rows).nodes.map
      EvidenceNode.identity).Nodup := (firstSeen_unique _).distinct
  apply List.inj_on_of_nodup_map distinct kept kept'
  exact Prod.ext ((of_decide_eq_true labelled).trans (of_decide_eq_true labelled').symm) same

/-- A user triggered the events of all its rows. -/
theorem mem_triggered {user eventId : Str} (named : user ≠ []) :
    eventId ∈ (linkageEvidence question queryText rows).endsOf "TRIGGERED" user ↔
      ∃ row ∈ rows, keyOf row.username = user ∧ eventId ∈ values row.evidenceEvents := by
  simp only [Evidence.endsOf, List.mem_map, List.mem_filter, Bool.and_eq_true, decide_eq_true_eq]
  constructor
  · rintro ⟨edge, ⟨kept, -, starts⟩, rfl⟩
    obtain ⟨row, hrow, made, -, -⟩ := mem_relationships.mp kept
    obtain ⟨eventId, hevent, rfl⟩ := List.mem_map.mp made
    exact ⟨row, hrow, starts, hevent⟩
  · rintro ⟨row, hrow, rfl, hevent⟩
    have made : ⟨keyOf row.username, lit "TRIGGERED", eventId⟩ ∈
        (shaper .usersHighSeverity row).relationships := List.mem_map.mpr ⟨eventId, hevent, rfl⟩
    refine ⟨_, ⟨mem_relationships.mpr ⟨row, hrow, made, named, ?_⟩, rfl, rfl⟩, rfl⟩
    exact (mem_values.mp hevent).2

theorem nodup_triggered (user : Str) :
    ((linkageEvidence question queryText rows).endsOf "TRIGGERED" user).Nodup := by
  have distinct : ((linkageEvidence question queryText rows).relationships.map
      EvidenceRelationship.identity).Nodup := (firstSeen_unique _).distinct
  refine List.Nodup.map_on ?_ ((List.Nodup.of_map _ distinct).filter _)
  intro edge hedge other hother same
  simp only [List.mem_filter, Bool.and_eq_true, decide_eq_true_eq] at hedge hother
  apply List.inj_on_of_nodup_map distinct hedge.1 hother.1
  simp only [EvidenceRelationship.identity, hedge.2, hother.2, same]

/-- The link of a user counts the distinct events of all the user's rows. -/
theorem events_linkOf {node : EvidenceNode} (named : node.key ≠ []) :
    (linkOf (linkageEvidence question queryText rows) node).events =
      ((rows.filter fun row => keyOf row.username = node.key).flatMap fun row =>
        values row.evidenceEvents).dedup.length := by
  refine List.Perm.length_eq ((List.perm_ext_iff_of_nodup (nodup_triggered node.key)
    (List.nodup_dedup _)).mpr fun eventId => ?_)
  rw [mem_triggered named, List.mem_dedup, List.mem_flatMap]
  simp only [List.mem_filter, decide_eq_true_eq, and_assoc]

/-- Every link has its line in the answer. -/
theorem exists_line {link : Link} (hlink : link ∈ links (linkageEvidence question queryText rows)) :
    ∃ lines, answerText (linkageEvidence question queryText rows) = .ok (joinWith "\n" lines) ∧
      link.line ∈ lines := by
  obtain ⟨node, hnode, -⟩ := List.mem_map.mp hlink
  have nodes : (linkageEvidence question queryText rows).nodes ≠ [] :=
    List.ne_nil_of_mem (List.mem_filter.mp hnode).1
  exact ⟨_, answerText_of_nodes rfl nodes, List.mem_cons_of_mem _ (List.mem_map_of_mem hlink)⟩

/-- A user has one line, which cannot state two rules. -/
theorem StatesPairs.oneRuleEach (pairs : StatesPairs question queryText rows) :
    OneRuleEach rows := by
  intro first hfirst second hsecond named same
  obtain ⟨link, hlink, user, rule, severity, -⟩ := pairs first hfirst named
  obtain ⟨other, hother, user', rule', severity', -⟩ := pairs second hsecond (same ▸ named)
  obtain ⟨node, hnode, rfl⟩ := List.mem_map.mp hlink
  obtain ⟨node', hnode', rfl⟩ := List.mem_map.mp hother
  obtain rfl := user_unique hnode hnode' (user.trans (same.trans user'.symm))
  exact ⟨rule.symm.trans rule', severity.symm.trans severity'⟩

end Linkage

/-- For all rows of q2 the answer states every user and rule exactly when the rows of
each user agree on the rule and its severity. -/
theorem statesPairs_iff [UnicodeDb] (question queryText : Str) (rows : List UsersHighSeverityRow) :
    StatesPairs question queryText rows ↔ OneRuleEach rows := by
  refine ⟨StatesPairs.oneRuleEach, fun agree row hrow named => ?_⟩
  obtain ⟨node, hnode, key⟩ : ∃ node ∈ (linkageEvidence question queryText rows).nodesOf "User",
      node.key = keyOf row.username := exists_user_of_row hrow named
  obtain ⟨held, hheld, rfl, named'⟩ := exists_row_of_user hnode
  obtain ⟨rule, severity⟩ := agree held hheld row hrow named' key
  refine ⟨linkOf _ (userNode held), List.mem_map_of_mem hnode, key, ?_, ?_, ?_,
    exists_line (List.mem_map_of_mem hnode)⟩
  · exact (stated_rule held).trans rule
  · exact (stated_severity held).trans severity
  · have states : (linkOf (linkageEvidence question queryText rows) (userNode held)).rule =
        keyOf held.ruleName := stated_rule held
    rw [events_linkOf named', states]
    exact congrArg List.length (pairEvents_of_oneRuleEach agree hheld named').symm

/-- A user two rules raised an alert on. -/
def twoRules : List UsersHighSeverityRow :=
  [{ username := some "operator"
     role := some "ADMIN"
     ruleName := some "Multiple Failed Logins"
     severity := some "HIGH"
     evidenceEvents := some [some "evt-000000000001", some "evt-000000000002"]
     alertCount := some 1 },
   { username := some "operator"
     role := some "ADMIN"
     ruleName := some "Unauthorised Endpoint Access"
     severity := some "HIGH"
     evidenceEvents := some [some "evt-000000000003"]
     alertCount := some 1 }]

/-- The second rule of the user is not stated. -/
theorem twoRules_merged : ¬ ∀ (_ : UnicodeDb) (question queryText : Str)
    (rows : List UsersHighSeverityRow), StatesPairs question queryText rows := by
  intro always
  let _ : UnicodeDb := ⟨fun _ => true⟩
  have pairs : StatesPairs [] [] twoRules := always ⟨fun _ => true⟩ [] [] twoRules
  have agree := (pairs.oneRuleEach twoRules[0] (List.getElem_mem _) twoRules[1]
    (List.getElem_mem _) (by decide) rfl).1
  exact absurd agree (by decide)

end SentinelIR.Rag
