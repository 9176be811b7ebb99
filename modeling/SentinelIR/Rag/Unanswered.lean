/-
# When an answer is that there is none

The graph is said not to hold an answer where no node was retrieved, and in one more
case: an alert was found, but its rule recommends nothing and no control or runbook is
linked to the technique it indicates. No answer shows a missing value: each reads as
if the value were there and empty.
-/

import SentinelIR.Rag.Templates

namespace SentinelIR.Rag

open SentinelIR.Py SentinelIR.Common

/-! ## Missing values -/

/-- A missing value as an empty text. -/
def filledValue : Json → Json
  | .null => .str []
  | value => value

/-- The node with an empty text for every missing value. -/
def EvidenceNode.filled (node : EvidenceNode) : EvidenceNode :=
  { node with properties := node.properties.map fun stated => (stated.1, filledValue stated.2) }

/-- The evidence with an empty text for every missing value. -/
def Evidence.filled (evidence : Evidence) : Evidence :=
  { evidence with nodes := evidence.nodes.map (·.filled) }

section Filled

variable [UnicodeDb] (evidence : Evidence)

theorem stated_filled (node : EvidenceNode) (name : Str) :
    stated node.filled name = stated node name := by
  have lookup (properties : List (Str × Json)) :
      (properties.map fun stated => (stated.1, filledValue stated.2)).lookup name =
        (properties.lookup name).map filledValue := by
    induction properties with
    | nil => rfl
    | cons first rest ih =>
        rw [List.map_cons, List.lookup_cons, List.lookup_cons, ih]
        cases name == first.1 <;> rfl
  rw [stated, EvidenceNode.filled, lookup, stated]
  cases node.properties.lookup name with
  | none => rfl
  | some value => cases value <;> rfl

omit [UnicodeDb] in
theorem nodesOf_filled (label : Str) :
    evidence.filled.nodesOf label = (evidence.nodesOf label).map (·.filled) := by
  rw [Evidence.nodesOf, Evidence.nodesOf, Evidence.filled, List.filter_map]
  rfl

omit [UnicodeDb] in
theorem keys_filled (label : Str) :
    (evidence.filled.nodesOf label).map (·.key) = (evidence.nodesOf label).map (·.key) := by
  rw [nodesOf_filled, List.map_map]
  rfl

theorem qualified_filled (node : EvidenceNode) (name : Str) :
    qualified node.filled name = qualified node name := by
  rw [qualified, qualified, stated_filled]
  rfl

theorem alertExplanation_filled : alertExplanation evidence.filled = alertExplanation evidence := by
  rw [alertExplanation, alertExplanation, nodesOf_filled, nodesOf_filled]
  cases evidence.nodesOf "Alert" with
  | nil => rfl
  | cons alert rest =>
      cases evidence.nodesOf "Threat" with
      | nil => simp only [List.map_cons, List.map_nil, stated_filled]; rfl
      | cons threat others =>
          simp only [List.map_cons, stated_filled, qualified_filled]
          rfl

theorem responseProcedure_filled :
    responseProcedure evidence.filled = responseProcedure evidence := by
  rw [responseProcedure, responseProcedure, nodesOf_filled, keys_filled, keys_filled]
  cases evidence.nodesOf "Alert" with
  | nil => rfl
  | cons alert rest =>
      simp only [List.map_cons, stated_filled]
      rfl

theorem serviceAlerts_filled : serviceAlerts evidence.filled = serviceAlerts evidence := by
  have line (alert : EvidenceNode) : serviceAlertLine alert.filled = serviceAlertLine alert := by
    simp only [serviceAlertLine, stated_filled]
    rfl
  simp only [serviceAlerts, nodesOf_filled, List.length_map, List.map_map, Function.comp_def, line]
  rfl

theorem threatMitigation_filled : threatMitigation evidence.filled = threatMitigation evidence := by
  simp only [threatMitigation, nodesOf_filled, List.map_map, Function.comp_def, qualified_filled]
  rfl

theorem userLinkage_filled : userLinkage evidence.filled = userLinkage evidence := by
  have link (user : EvidenceNode) : linkOf evidence.filled user.filled = linkOf evidence user := by
    simp only [linkOf, stated_filled]
    rfl
  simp only [userLinkage, links, nodesOf_filled, List.length_map, List.map_map, Function.comp_def,
    link]

theorem dependencyImpact_filled : dependencyImpact evidence.filled = dependencyImpact evidence := by
  simp only [dependencyImpact, nodesOf_filled, List.length_map, List.map_map, Function.comp_def,
    stated_filled]
  rfl

theorem incidentLinkage_filled : incidentLinkage evidence.filled = incidentLinkage evidence := by
  have rules : ruleNames evidence.filled = ruleNames evidence := by
    simp only [ruleNames, nodesOf_filled, List.foldl_map, stated_filled]
    rfl
  have line (incident : EvidenceNode) :
      incidentLine evidence.filled incident.filled = incidentLine evidence incident := by
    simp only [incidentLine, rules, stated_filled]
    rfl
  simp only [incidentLinkage, nodesOf_filled, List.length_map, List.map_map, Function.comp_def,
    line]

/-- No template shows a missing value. -/
theorem templates_filled : ∀ entry ∈ templates, entry.2 evidence.filled = entry.2 evidence := by
  simp only [templates, List.forall_mem_cons, List.not_mem_nil, false_implies, implies_true,
    and_true]
  refine ⟨?_, responseProcedure_filled evidence, congrArg Except.ok (serviceAlerts_filled evidence),
    congrArg Except.ok (threatMitigation_filled evidence),
    congrArg Except.ok (userLinkage_filled evidence),
    congrArg Except.ok (dependencyImpact_filled evidence),
    congrArg Except.ok (incidentLinkage_filled evidence)⟩
  rw [alertAndResponse, alertAndResponse, alertExplanation_filled, responseProcedure_filled]

theorem answerText_filled : answerText evidence.filled = answerText evidence := by
  have empty : evidence.filled.isEmpty = evidence.isEmpty := by
    rw [Evidence.isEmpty, Evidence.isEmpty, Evidence.filled, List.isEmpty_map]
  have known : templates.lookup evidence.filled.intent = templates.lookup evidence.intent := rfl
  rw [answerText, answerText, empty, known]
  cases found : templates.lookup evidence.intent with
  | none => rfl
  | some template =>
      obtain ⟨before, after, split, -⟩ := List.lookup_eq_some_iff.mp found
      have registered : (evidence.intent, template) ∈ templates := by
        rw [split]
        exact List.mem_append_right before List.mem_cons_self
      have same := templates_filled evidence _ registered
      dsimp only at same ⊢
      rw [same, nothingKnown, nothingKnown]
      rfl

end Filled

/-! ## Saying that there is no answer -/

theorem head?_append_of_some {text : Str} {c : CodePoint} (head : text.head? = some c)
    (rest : Str) : (text ++ rest).head? = some c := by
  rw [List.head?_append, head]
  rfl

theorem prefix_joinWith (separator first : Str) (rest : List Str) :
    first <+: joinWith separator (first :: rest) := by
  cases rest with
  | nil => simp [joinWith]
  | cons second others =>
      rw [joinWith, List.intercalate_cons_cons, List.append_assoc]
      exact List.prefix_append _ _

theorem head?_joinWith {first : Str} {c : CodePoint} (head : first.head? = some c)
    (separator : Str) (rest : List Str) :
    (joinWith separator (first :: rest)).head? = some c := by
  obtain ⟨tail, joined⟩ := prefix_joinWith separator first rest
  rw [← joined]
  exact head?_append_of_some head tail

/-- A number starts a text with a digit. -/
theorem exists_head_decimal (n : Nat) :
    ∃ c, (decimal n).head? = some c ∧ c ≠ codePoint 'T' ∧ c ≠ codePoint 'A' := by
  obtain ⟨c, rest, digits⟩ := List.exists_cons_of_ne_nil (decimal_ne_nil n)
  have digit : 48 ≤ c.val ∧ c.val ≤ 57 := mem_decimal (digits ▸ List.mem_cons_self)
  refine ⟨c, by rw [digits]; rfl, ?_, ?_⟩
  · rintro rfl
    exact absurd digit.2 (by decide)
  · rintro rfl
    exact absurd digit.2 (by decide)

section Declines

variable [UnicodeDb]

/-- The answer is that the graph does not hold one, or ends so after the explanation of
an alert. -/
def Declines (evidence : Evidence) (text : Str) : Prop :=
  text = nothingKnown evidence ∨
    ∃ explained, alertExplanation evidence = .ok explained ∧
      text = explained ++ " " ++ nothingKnown evidence

/-- There is an answer, it shows no missing value, and it says that the graph does not
hold one exactly when no node was retrieved. -/
def Honest (evidence : Evidence) : Prop :=
  ∃ answer, generate evidence = .ok answer ∧ answerText evidence.filled = .ok answer.text ∧
    (Declines evidence answer.text ↔ evidence.nodes = [])

variable {evidence : Evidence}

theorem honest_iff : Honest evidence ↔
    ∃ text, answerText evidence = .ok text ∧ (Declines evidence text ↔ evidence.nodes = []) := by
  rw [Honest, answerText_filled]
  constructor
  · rintro ⟨answer, -, answered, honest⟩
    exact ⟨answer.text, answered, honest⟩
  · rintro ⟨text, answered, honest⟩
    exact ⟨_, by rw [generate, answered, Except.map], answered, honest⟩

theorem honest_of_empty (empty : evidence.nodes = []) : Honest evidence := by
  refine honest_iff.mpr ⟨nothingKnown evidence, ?_, iff_of_true (.inl rfl) empty⟩
  have isEmpty : evidence.isEmpty = true := List.isEmpty_iff.mpr empty
  rw [answerText]
  cases templates.lookup evidence.intent with
  | none => rfl
  | some template => exact if_pos isEmpty

theorem head?_alertExplanation {explained : Str}
    (explains : alertExplanation evidence = .ok explained) :
    explained.head? = some (codePoint 'A') := by
  rw [alertExplanation] at explains
  split at explains
  case h_1 => cases explains
  case h_2 alert rest found =>
      dsimp only at explains
      split at explains
      case h_1 =>
          obtain rfl := Except.ok.inj explains
          split <;> rfl
      case h_2 =>
          obtain rfl := Except.ok.inj explains
          split <;> rfl

/-- What starts with neither the one sentence nor the other is an answer. -/
theorem not_declines {text : Str} {c : CodePoint} (head : text.head? = some c)
    (noSentence : c ≠ codePoint 'T') (noAlert : c ≠ codePoint 'A') : ¬ Declines evidence text := by
  rintro (rfl | ⟨explained, explains, rfl⟩)
  · exact noSentence (Option.some.inj (head.symm.trans rfl))
  · rw [List.append_assoc,
      head?_append_of_some (head?_alertExplanation explains)] at head
    exact noAlert (Option.some.inj head).symm

/-- A template whose texts start with neither sentence answers honestly. -/
theorem honest_of_head {template : Evidence → Str} {c : CodePoint}
    (known : templates.lookup evidence.intent = some fun evidence => .ok (template evidence))
    (head : (template evidence).head? = some c) (noSentence : c ≠ codePoint 'T')
    (noAlert : c ≠ codePoint 'A') : Honest evidence := by
  by_cases nodes : evidence.nodes = []
  · exact honest_of_empty nodes
  · refine honest_iff.mpr ⟨template evidence, answerText_of_nodes known nodes, ?_⟩
    exact iff_of_false (not_declines head noSentence noAlert) nodes

/-- A template whose first line starts with a count answers honestly. -/
theorem honest_of_count {template : Evidence → Str} {n : Nat} {first : Str} {lines : List Str}
    (known : templates.lookup evidence.intent = some fun evidence => .ok (template evidence))
    (text : template evidence = joinWith "\n" (first :: lines)) (counts : decimal n <+: first) :
    Honest evidence := by
  obtain ⟨c, head, noSentence, noAlert⟩ := exists_head_decimal n
  obtain ⟨rest, rfl⟩ := counts
  refine honest_of_head known ?_ noSentence noAlert
  rw [text]
  exact head?_joinWith (head?_append_of_some head rest) _ _

/-! ### The response to an alert -/

omit [UnicodeDb] in
theorem exists_opening {action part : Str} {controls runbooks rest : List Str}
    (parts : responseParts action controls runbooks = part :: rest) :
    ∃ opening ∈ [lit "The r", lit "The c"], opening <+: part := by
  rw [responseParts] at parts
  by_cases acts : action = []
  · rw [if_pos acts] at parts
    by_cases controlled : controls = []
    · rw [if_pos controlled] at parts
      split at parts
      case isTrue => cases parts
      case isFalse =>
          obtain ⟨rfl, -⟩ := List.cons.inj parts
          exact ⟨lit "The r", by decide, ⟨lit "esponse procedure is documented in " ++ _, rfl⟩⟩
    · rw [if_neg controlled] at parts
      obtain ⟨rfl, -⟩ := List.cons.inj parts
      exact ⟨lit "The c", by decide, ⟨lit "ontrols that mitigate this threat are " ++ _, rfl⟩⟩
  · rw [if_neg acts] at parts
    obtain ⟨rfl, -⟩ := List.cons.inj parts
    exact ⟨lit "The r", by decide, ⟨lit "ule's recommended action is: " ++ _, rfl⟩⟩

omit [UnicodeDb] in
/-- The sentences of a response are not the sentence about the graph. -/
theorem response_ne_nothingKnown {action : Str} {controls runbooks : List Str}
    (advised : responseParts action controls runbooks ≠ []) :
    joinWith ". " (responseParts action controls runbooks) ++ "." ≠ nothingKnown evidence := by
  obtain ⟨part, rest, parts⟩ := List.exists_cons_of_ne_nil advised
  obtain ⟨opening, hopening, opens⟩ := exists_opening parts
  rw [parts]
  intro same
  have first : opening <+: nothingKnown evidence :=
    (opens.trans (prefix_joinWith _ _ _)).trans (same ▸ List.prefix_append _ _)
  have second : lit "The k" <+: nothingKnown evidence :=
    ⟨lit "nowledge graph does not hold an answer to this question: " ++
      ((if evidence.reason = [] then lit "no supported question type matched"
        else evidence.reason) ++ "."), by rw [nothingKnown, List.append_assoc]; rfl⟩
  have lengths : ∀ opening ∈ [lit "The r", lit "The c"],
      opening.length ≤ (lit "The k").length ∧ opening ≠ lit "The k" ∧
        opening.length = (lit "The k").length := by decide
  obtain ⟨short, apart, long⟩ := lengths opening hopening
  exact apart ((List.prefix_of_prefix_length_le first second short).eq_of_length long)

omit [UnicodeDb] in
theorem head?_response {action : Str} {controls runbooks : List Str}
    (advised : responseParts action controls runbooks ≠ []) :
    (joinWith ". " (responseParts action controls runbooks) ++ ".").head? =
      some (codePoint 'T') := by
  obtain ⟨part, rest, parts⟩ := List.exists_cons_of_ne_nil advised
  obtain ⟨opening, hopening, tail, rfl⟩ := exists_opening parts
  have heads : ∀ opening ∈ [lit "The r", lit "The c"], opening.head? = some (codePoint 'T') := by
    decide
  rw [parts]
  refine head?_append_of_some (head?_joinWith ?_ _ _) _
  exact head?_append_of_some (heads opening hopening) tail

/-- What a response consists of, for the first alert of the evidence. -/
def partsOf (evidence : Evidence) (alert : EvidenceNode) : List Str :=
  responseParts (stated alert "recommendedAction") ((evidence.nodesOf "Control").map (·.key))
    ((evidence.nodesOf "Document").map (·.key))

section Alert

variable {alert : EvidenceNode} {rest : List EvidenceNode}

omit [UnicodeDb] in
theorem nodes_ne_nil (found : evidence.nodesOf "Alert" = alert :: rest) : evidence.nodes ≠ [] := by
  intro empty
  rw [Evidence.nodesOf, empty] at found
  cases found

theorem responseProcedure_of_alert (found : evidence.nodesOf "Alert" = alert :: rest) :
    responseProcedure evidence =
      .ok (if partsOf evidence alert = [] then nothingKnown evidence
        else joinWith ". " (partsOf evidence alert) ++ ".") := by
  rw [responseProcedure, found]
  rfl

theorem exists_explanation (found : evidence.nodesOf "Alert" = alert :: rest) :
    ∃ explained, alertExplanation evidence = .ok explained := by
  rw [alertExplanation, found]
  cases evidence.nodesOf "Threat" with
  | nil => exact ⟨_, rfl⟩
  | cons threat others => exact ⟨_, rfl⟩

/-- The response to an alert that was found is honest exactly when it has a part. -/
theorem honest_response_iff (found : evidence.nodesOf "Alert" = alert :: rest)
    (known : templates.lookup evidence.intent = some responseProcedure) :
    Honest evidence ↔ partsOf evidence alert ≠ [] := by
  have nodes := nodes_ne_nil found
  rw [honest_iff, answerText_of_nodes known nodes, responseProcedure_of_alert found]
  constructor
  · rintro ⟨text, answered, honest⟩ none
    rw [if_pos none] at answered
    obtain rfl := Except.ok.inj answered
    exact nodes (honest.mp (.inl rfl))
  · intro advised
    rw [if_neg advised]
    refine ⟨_, rfl, iff_of_false ?_ nodes⟩
    rintro (same | ⟨explained, explains, same⟩)
    · exact response_ne_nothingKnown advised same
    · have head := head?_response advised
      rw [partsOf] at same
      rw [same, List.append_assoc, head?_append_of_some (head?_alertExplanation explains)] at head
      exact absurd head (by decide)

/-- So is the explanation with its response. -/
theorem honest_explained_iff (found : evidence.nodesOf "Alert" = alert :: rest)
    (known : templates.lookup evidence.intent = some alertAndResponse) :
    Honest evidence ↔ partsOf evidence alert ≠ [] := by
  have nodes := nodes_ne_nil found
  obtain ⟨explained, explains⟩ := exists_explanation found
  have answer : alertAndResponse evidence =
      .ok (explained ++ " " ++ if partsOf evidence alert = [] then nothingKnown evidence
        else joinWith ". " (partsOf evidence alert) ++ ".") := by
    rw [alertAndResponse, explains, responseProcedure_of_alert found]
    rfl
  rw [honest_iff, answerText_of_nodes known nodes, answer]
  constructor
  · rintro ⟨text, answered, honest⟩ none
    rw [if_pos none] at answered
    obtain rfl := Except.ok.inj answered
    exact nodes (honest.mp (.inr ⟨explained, explains, rfl⟩))
  · intro advised
    rw [if_neg advised]
    refine ⟨_, rfl, iff_of_false ?_ nodes⟩
    rintro (same | ⟨other, explains', same⟩)
    · have head := congrArg List.head? same
      rw [List.append_assoc, head?_append_of_some (head?_alertExplanation explains)] at head
      have apart : codePoint 'A' ≠ codePoint 'T' := by decide
      exact apart (Option.some.inj head)
    · obtain rfl := Except.ok.inj (explains.symm.trans explains')
      exact response_ne_nothingKnown advised (List.append_cancel_left same)

end Alert

end Declines

/-! ## The rows of q4 -/

/-- The first row states what its rule recommends, or some row names a control or a
runbook. -/
def Advises (rows : List ControlsForAlertRow) : Prop :=
  (∃ row ∈ rows.head?, keyOf row.ruleRecommendedAction ≠ []) ∨
    ∃ row ∈ rows, ∃ text ∈ texts row.controls ++ texts row.runbooks, text ≠ []

/-- The alert node of a row. -/
def alertNode (row : ControlsForAlertRow) : EvidenceNode where
  label := "Alert"
  key := keyOf row.alertId
  properties :=
    [("ruleName", textValue row.ruleName),
      ("recommendedAction", textValue row.ruleRecommendedAction)]

theorem responseParts_ne_nil {action : Str} {controls runbooks : List Str} :
    responseParts action controls runbooks ≠ [] ↔
      action ≠ [] ∨ controls ≠ [] ∨ runbooks ≠ [] := by
  rw [responseParts]
  by_cases acts : action = [] <;> by_cases controlled : controls = [] <;>
    by_cases documented : runbooks = [] <;> simp [acts, controlled, documented]

theorem controls_shaped (row : ControlsForAlertRow) (text : Str) :
    (lit "Control", text) ∈ (shaper .controlsForAlert row).nodes.map EvidenceNode.identity ↔
      text ∈ values row.controls := by
  have alert : lit "Control" ≠ lit "Alert" := by decide
  have threat : lit "Control" ≠ lit "Threat" := by decide
  have runbook : lit "Document" ≠ lit "Control" := by decide
  simp [shaper, shapeControlsForAlert, EvidenceNode.identity, alert, threat, runbook]

theorem runbooks_shaped (row : ControlsForAlertRow) (text : Str) :
    (lit "Document", text) ∈ (shaper .controlsForAlert row).nodes.map EvidenceNode.identity ↔
      text ∈ values row.runbooks := by
  have alert : lit "Document" ≠ lit "Alert" := by decide
  have threat : lit "Document" ≠ lit "Threat" := by decide
  have control : lit "Control" ≠ lit "Document" := by decide
  simp [shaper, shapeControlsForAlert, EvidenceNode.identity, alert, threat, control]

section AlertRows

variable [UnicodeDb] {question queryText : Str} {name : IntentName} {parameters : Parameters}

/-- The evidence of rows of q4. -/
def alertEvidence (question : Str) (name : IntentName) (queryText : Str)
    (parameters : Parameters) (rows : List QueryKey.controlsForAlert.RowOf) : Evidence :=
  evidenceOf question name queryText parameters rows

theorem nodesOf_alert {first : ControlsForAlertRow} {rest : List ControlsForAlertRow}
    (named : keyOf first.alertId ≠ []) :
    ∃ others, (alertEvidence question name queryText parameters (first :: rest)).nodesOf "Alert" =
      alertNode first :: others := by
  have made : (shaper .controlsForAlert first).nodes =
      alertNode first :: (shaper .controlsForAlert first).nodes.tail := rfl
  have alert : (fun node : EvidenceNode => decide (node.label = lit "Alert"))
      (alertNode first) = true := decide_eq_true rfl
  obtain ⟨tail, keyed⟩ : ∃ tail,
      @keyedNodes .controlsForAlert (first :: rest) = alertNode first :: tail := by
    have keyed : (fun node : EvidenceNode => decide (node.key ≠ [])) (alertNode first) = true :=
      decide_eq_true named
    rw [keyedNodes, List.flatMap_cons, made, List.filter_cons, if_pos keyed]
    exact ⟨_, rfl⟩
  have kept : (alertEvidence question name queryText parameters (first :: rest)).nodes =
      alertNode first ::
        unmarked EvidenceNode.identity [(alertNode first).identity] tail := by
    apply (congrArg (unique EvidenceNode.identity) keyed).trans
    rw [unique, unmarked, if_neg List.not_mem_nil]
  rw [Evidence.nodesOf, kept, List.filter_cons, if_pos alert]
  exact ⟨_, rfl⟩

/-- The keys under a label are those the shapers give it. -/
theorem mem_keys_nodesOf {key : QueryKey} {rows : List key.RowOf} {label text : Str} :
    text ∈ ((evidenceOf question name queryText parameters rows).nodesOf label).map (·.key) ↔
      text ≠ [] ∧ ∃ row ∈ rows,
        (label, text) ∈ (shaper key row).nodes.map EvidenceNode.identity := by
  constructor
  · intro htext
    obtain ⟨node, hnode, rfl⟩ := List.mem_map.mp htext
    obtain ⟨kept, labelled⟩ := List.mem_filter.mp hnode
    obtain ⟨row, hrow, made, keyed⟩ := mem_keyedNodes.mp (mem_of_mem_unique kept)
    exact ⟨keyed, row, hrow, List.mem_map.mpr ⟨node, made,
      Prod.ext (of_decide_eq_true labelled) rfl⟩⟩
  · rintro ⟨keyed, row, hrow, shaped⟩
    obtain ⟨node, hnode, identity⟩ := List.mem_map.mp shaped
    obtain ⟨rfl, rfl⟩ := Prod.mk.inj identity
    obtain ⟨held, hheld, same⟩ := exists_node hrow hnode keyed
    refine List.mem_map.mpr ⟨held, List.mem_filter.mpr ⟨hheld, ?_⟩, congrArg Prod.snd same⟩
    exact decide_eq_true (congrArg Prod.fst same)

/-- What the nodes under a label say, where the shaper draws them from one column. -/
theorem keys_ne_nil_iff {rows : List ControlsForAlertRow} {label : Str}
    {column : ControlsForAlertRow → Collected}
    (shaped : ∀ row text,
      (label, text) ∈ (shaper .controlsForAlert row).nodes.map EvidenceNode.identity ↔
        text ∈ values (column row)) :
    ((alertEvidence question name queryText parameters rows).nodesOf label).map (·.key) ≠ [] ↔
      ∃ row ∈ rows, ∃ text ∈ texts (column row), text ≠ [] := by
  have members (text : Str) :
      text ∈ ((alertEvidence question name queryText parameters rows).nodesOf label).map (·.key) ↔
        text ≠ [] ∧ ∃ row ∈ rows, text ∈ values (column row) := by
    rw [alertEvidence, mem_keys_nodesOf]
    simp only [shaped]
  constructor
  · intro nonempty
    obtain ⟨text, htext⟩ := List.exists_mem_of_ne_nil _ nonempty
    obtain ⟨visible, row, hrow, drawn⟩ := (members text).mp htext
    exact ⟨row, hrow, text, (mem_values.mp drawn).1, visible⟩
  · rintro ⟨row, hrow, text, drawn, visible⟩
    have listed := (members text).mpr ⟨visible, row, hrow, mem_values.mpr ⟨drawn, visible⟩⟩
    exact List.ne_nil_of_mem listed

/-- A response has a part exactly when the rows advise one. -/
theorem partsOf_ne_nil_iff {first : ControlsForAlertRow} {rest : List ControlsForAlertRow} :
    partsOf (alertEvidence question name queryText parameters (first :: rest)) (alertNode first) ≠
        [] ↔
      Advises (first :: rest) := by
  have action : stated (alertNode first) "recommendedAction" =
      keyOf first.ruleRecommendedAction := stated_of_lookup rfl
  rw [partsOf, action, responseParts_ne_nil, keys_ne_nil_iff controls_shaped,
    keys_ne_nil_iff runbooks_shaped, Advises]
  simp only [List.head?_cons, Option.mem_some, List.mem_append, or_and_right, exists_or,
    and_or_left, exists_eq_left']

end AlertRows

/-! ## Every question -/

/-- The rows a query returns under its text and parameters. -/
abbrev Results := (key : QueryKey) → Str → Parameters → List key.RowOf

/-- The runner that returns them. -/
def Results.runner (results : Results) : Runner :=
  fun key queryText parameters => .ok (results key queryText parameters)

/-- q4 matches an alert by its id, so all its rows carry that id. -/
def Results.Matched (results : Results) : Prop :=
  ∀ queryText alertId, ∀ row : ControlsForAlertRow,
    row ∈ results .controlsForAlert queryText [("alertId", alertId)] → row.alertId = some alertId

section Questions

variable [UnicodeText] [UnicodeDb] (files : CypherFiles) (results : Results) (question : Str)

/-- The question is answered, and honestly. -/
def Answered : Prop :=
  ∃ evidence, retrieveFrom files results.runner question = .ok evidence ∧ Honest evidence

/-- If the question runs q4, its rows advise something, or there are none. -/
def Advised : Prop :=
  ∀ queryText parameters,
    retrieve files question = .runs QueryKey.controlsForAlert.value queryText parameters →
      results .controlsForAlert queryText parameters ≠ [] →
        Advises (results .controlsForAlert queryText parameters)

omit [UnicodeText] [UnicodeDb] in
theorem lookup_value (key : QueryKey) : QueryKey.lookup key.value = some key := by
  cases key <;> rfl

/-- What a question retrieves: nothing, with a reason, or the evidence of the rows its
intent's query returns for what it binds. -/
theorem retrieveFrom_cases :
    (∃ evidence, retrieve files question = .refused evidence ∧ evidence.nodes = [] ∧
        retrieveFrom files results.runner question = .ok evidence) ∨
      ∃ key queryText parameters, ∃ parameter : Option Str,
        intentQueries (classify question).name = some (QueryKey.value key, parameter) ∧
        parameters.map Prod.fst = parameter.toList ∧
        (∀ bound ∈ parameters, IsAlertId bound.2 ∨ bound.2 ∈ serviceNames) ∧
        retrieve files question = .runs key.value queryText parameters ∧
        retrieveFrom files results.runner question =
          .ok (evidenceOf question (classify question).name queryText parameters
            (results key queryText parameters)) := by
  rcases retrieve_cases files question with
    ⟨-, query, hquery, parameter, supported, -, declared, runs, bound, admitted⟩ |
      ⟨-, reason, -, refused⟩
  · have stored : ∀ query ∈ queries, ∃ key ∈ QueryKey.registered, key.value = query.key := by
      decide
    obtain ⟨key, -, same⟩ := stored query hquery
    rw [← same] at supported runs
    refine .inr ⟨key, _, _, parameter, supported, bound.trans declared, admitted, runs, ?_⟩
    rw [retrieveFrom, runs]
    dsimp only
    rw [lookup_value]
    rfl
  · refine .inl ⟨_, refused, rfl, ?_⟩
    rw [retrieveFrom, refused]

end Questions

section Answered

variable [UnicodeText] [UnicodeDb] {files : CypherFiles} {results : Results} {question : Str}

omit [UnicodeText] [UnicodeDb] in
theorem value_injective : Function.Injective QueryKey.value := by
  intro first second same
  cases first <;> cases second <;> first | rfl | exact absurd same (by decide)

omit [UnicodeText] [UnicodeDb] in
/-- q4 answers the two intents about an alert, and binds its id. -/
theorem intent_of_alert {name : IntentName} {parameter : Option Str}
    (supported : intentQueries name = some (QueryKey.controlsForAlert.value, parameter)) :
    (name = .alertExplanation ∨ name = .responseProcedure) ∧ parameter = some (lit "alertId") := by
  have key : (intentQueries name).map Prod.fst = some QueryKey.controlsForAlert.value := by
    rw [supported]
    rfl
  cases name with
  | alertExplanation => exact ⟨.inl rfl, (congrArg Prod.snd (Option.some.inj supported)).symm⟩
  | responseProcedure => exact ⟨.inr rfl, (congrArg Prod.snd (Option.some.inj supported)).symm⟩
  | _ => exact absurd key (by decide)

omit [UnicodeText] [UnicodeDb] in
/-- Neither a service nor an alert id starts with a capital letter. -/
theorem exists_head_service (evidence : Evidence)
    (bound : ∀ bound ∈ evidence.parameters, IsAlertId bound.2 ∨ bound.2 ∈ serviceNames) :
    ∃ c, evidence.service.head? = some c ∧ c ≠ codePoint 'T' ∧ c ≠ codePoint 'A' := by
  rw [Evidence.service]
  cases found : evidence.parameters.lookup (lit "service") with
  | none => exact ⟨codePoint 't', rfl, by decide, by decide⟩
  | some value =>
      obtain ⟨before, after, split, -⟩ := List.lookup_eq_some_iff.mp found
      have member : (lit "service", value) ∈ evidence.parameters := by
        rw [split]
        exact List.mem_append_right before List.mem_cons_self
      rcases bound _ member with alert | service
      · refine ⟨codePoint 'a', ?_, by decide, by decide⟩
        have front : value = lit "alt-" ++ value.drop 4 := by
          rw [← alert.1, List.take_append_drop]
        rw [front]
        rfl
      · have heads : ∀ service ∈ serviceNames, service.head? = some (codePoint 'a') ∨
            service.head? = some (codePoint 'i') ∨ service.head? = some (codePoint 'g') := by
          decide
        rcases heads value service with head | head | head
        · exact ⟨_, head, by decide, by decide⟩
        · exact ⟨_, head, by decide, by decide⟩
        · exact ⟨_, head, by decide, by decide⟩

omit [UnicodeText] in
/-- Every intent but the two about an alert is answered honestly. -/
theorem honest_of_other {key : QueryKey} {queryText : Str} {parameters : Parameters}
    {parameter : Option Str} {name : IntentName}
    (supported : intentQueries name = some (key.value, parameter))
    (other : key ≠ .controlsForAlert)
    (bound : ∀ bound ∈ parameters, IsAlertId bound.2 ∨ bound.2 ∈ serviceNames)
    (rows : List key.RowOf) :
    Honest (evidenceOf question name queryText parameters rows) := by
  have alert {bound : Option Str}
      (found : some (QueryKey.controlsForAlert.value, bound) = some (key.value, parameter)) :
      False := other (value_injective (congrArg Prod.fst (Option.some.inj found))).symm
  cases name with
  | alertExplanation => exact (alert supported).elim
  | responseProcedure => exact (alert supported).elim
  | serviceAlerts =>
      exact honest_of_count rfl rfl
        (((List.prefix_append _ _).trans (List.prefix_append _ _)).trans (List.prefix_append _ _))
  | threatMitigation =>
      obtain ⟨c, head, noSentence, noAlert⟩ := exists_head_service
        (evidenceOf question .threatMitigation queryText parameters rows) bound
      refine honest_of_head rfl ?_ noSentence noAlert
      simp only [threatMitigation, List.append_assoc]
      exact head?_append_of_some head _
  | userLinkage => exact honest_of_count rfl rfl (List.prefix_append _ _)
  | dependencyImpact =>
      refine honest_of_head rfl (c := codePoint 'I') ?_ (by decide) (by decide)
      simp only [dependencyImpact, List.append_assoc]
      rfl
  | incidentLinkage => exact honest_of_count rfl rfl (List.prefix_append _ _)
  | unsupported => cases supported

omit [UnicodeText] in
/-- The two intents about an alert are answered honestly exactly when its rows advise
something, or there are none. -/
theorem honest_of_alert_iff {queryText : Str} {parameters : Parameters} {parameter : Option Str}
    {name : IntentName}
    (supported : intentQueries name = some (QueryKey.controlsForAlert.value, parameter))
    (rows : List ControlsForAlertRow) (named : ∀ row ∈ rows, keyOf row.alertId ≠ []) :
    Honest (alertEvidence question name queryText parameters rows) ↔
      (rows ≠ [] → Advises rows) := by
  cases rows with
  | nil => exact iff_of_true (honest_of_empty rfl) fun some => absurd rfl some
  | cons first rest =>
      obtain ⟨others, found⟩ : ∃ others,
          (alertEvidence question name queryText parameters (first :: rest)).nodesOf "Alert" =
            alertNode first :: others := nodesOf_alert (named first List.mem_cons_self)
      have advises : Honest (alertEvidence question name queryText parameters (first :: rest)) ↔
          Advises (first :: rest) := by
        rcases (intent_of_alert supported).1 with rfl | rfl
        · exact (honest_explained_iff found rfl).trans partsOf_ne_nil_iff
        · exact (honest_response_iff found rfl).trans partsOf_ne_nil_iff
      rw [advises]
      exact ⟨fun holds _ => holds, fun holds => holds (List.cons_ne_nil first rest)⟩

/-- For every question and all rows the queries can return, the question is answered and
honestly so exactly when q4, if the question runs it, returns no row or some advice. -/
theorem answered_iff (matched : results.Matched) :
    Answered files results question ↔ Advised files results question := by
  rcases retrieveFrom_cases files results question with
    ⟨evidence, refused, empty, returned⟩ |
      ⟨key, queryText, parameters, parameter, supported, declared, admitted, runs, returned⟩
  · refine iff_of_true ⟨evidence, returned, honest_of_empty empty⟩ ?_
    intro queryText parameters runs
    rw [refused] at runs
    cases runs
  · have answered : Answered files results question ↔
        Honest (evidenceOf question (classify question).name queryText parameters
          (results key queryText parameters)) := by
      refine ⟨?_, fun honest => ⟨_, returned, honest⟩⟩
      rintro ⟨evidence, same, honest⟩
      obtain rfl := Except.ok.inj (returned.symm.trans same)
      exact honest
    rw [answered]
    by_cases alert : key = .controlsForAlert
    · obtain rfl := alert
      obtain ⟨-, rfl⟩ := intent_of_alert supported
      obtain ⟨⟨_, alertId⟩, rfl, rfl⟩ := List.map_eq_singleton_iff.mp declared
      have named : alertId ≠ [] := by
        rcases admitted _ List.mem_cons_self with alert | service
        · exact EntityKind.Admits.ne_nil (show EntityKind.alert.Admits alertId from alert)
        · exact EntityKind.Admits.ne_nil (show EntityKind.service.Admits alertId from service)
      refine (honest_of_alert_iff supported _ fun row hrow => ?_).trans ?_
      · rw [matched queryText alertId row hrow]
        exact named
      · constructor
        · intro advises otherText others runs'
          rw [runs, Retrieval.runs.injEq] at runs'
          obtain ⟨-, rfl, rfl⟩ := runs'
          exact advises
        · exact fun advised => advised queryText _ runs
    · apply iff_of_true (honest_of_other supported alert admitted _)
      intro otherText others runs'
      rw [runs, Retrieval.runs.injEq] at runs'
      exact absurd (value_injective runs'.1) alert

end Answered

/-- An alert whose rule recommends nothing, indicating a technique without controls and
runbooks. -/
def bareAlert : Results
  | .controlsForAlert, _, parameters => parameters.map fun bound =>
      { alertId := some bound.2, ruleName := some "Service Failure", techniqueId := some "T1499" }
  | _, _, _ => []

theorem matched_bareAlert : bareAlert.Matched := by
  intro queryText alertId row hrow
  obtain rfl := List.mem_singleton.mp hrow
  rfl

/-- A question for the runbook of the alert. -/
def bareQuestion : Str := "alt-0123456789ab runbook"

/-- Case and word characters of lower-case ASCII. -/
@[reducible] def lowerAscii : UnicodeText where
  lower text := text
  isWord c := (48 ≤ c.val && c.val ≤ 57) || (97 ≤ c.val && c.val ≤ 122) || c.val == 95

theorem answered_bareAlert : letI : UnicodeText := lowerAscii; letI : UnicodeDb := ⟨fun _ => true⟩
    (Answered (fun name => name) bareAlert bareQuestion ↔
      Advised (fun name => name) bareAlert bareQuestion) := by
  let _ : UnicodeText := lowerAscii
  let _ : UnicodeDb := ⟨fun _ => true⟩
  exact answered_iff matched_bareAlert

/-- The alert is found, and the answer says that no supported question type matched. -/
theorem bareAlert_declined : ¬ ∀ (_ : UnicodeText) (_ : UnicodeDb) (files : CypherFiles)
    (results : Results) (question : Str), results.Matched → Answered files results question := by
  intro always
  let _ : UnicodeText := lowerAscii
  let _ : UnicodeDb := ⟨fun _ => true⟩
  have supported : intentQueries (classify bareQuestion).name =
      some (QueryKey.controlsForAlert.value, some (lit "alertId")) := by decide +kernel
  have stored : getQuery QueryKey.controlsForAlert.value = .ok queries[3] := by decide
  have named : (classify bareQuestion).entityId = some (lit "alt-0123456789ab") := by
    decide +kernel
  have runs : retrieve (fun name => name) bareQuestion =
      .runs QueryKey.controlsForAlert.value (lit "q4_controls_for_alert.cypher")
        [("alertId", "alt-0123456789ab")] :=
    retrieve_of_bound supported stored named (by decide)
  obtain ⟨evidence, returned, honest⟩ :=
    always lowerAscii ⟨fun _ => true⟩ (fun name => name) bareAlert bareQuestion matched_bareAlert
  rw [retrieveFrom, runs] at returned
  dsimp only at returned
  rw [lookup_value] at returned
  obtain rfl := Except.ok.inj returned
  have visible : lit "alt-0123456789ab" ≠ [] := by decide
  have advises := (honest_of_alert_iff supported _ fun row hrow => by
    obtain rfl := List.mem_singleton.mp hrow
    exact visible).mp honest (List.cons_ne_nil _ [])
  rcases advises with ⟨row, hrow, recommended⟩ | ⟨row, hrow, text, named, -⟩
  · obtain rfl := Option.some.inj hrow
    exact recommended rfl
  · obtain rfl := List.mem_singleton.mp hrow
    cases named

end SentinelIR.Rag
