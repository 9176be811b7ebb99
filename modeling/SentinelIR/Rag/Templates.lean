/-
# Answers from evidence

Every intent has a template that fills its slots from the nodes and relationships of the
evidence. A property the graph does not hold is left out. Without nodes, and for an
intent without a template, the answer is that the graph does not hold one.
-/

import SentinelIR.Rag.Shapers

namespace SentinelIR.Rag

open SentinelIR.Py SentinelIR.Common

/-! ## Values as texts -/

section Text

variable [UnicodeDb]

mutual

/-- `repr(value)`. -/
def reprValue : Json → Str
  | .null => "None"
  | .bool true => "True"
  | .bool false => "False"
  | .int n => decimalInt n
  | .float literal => literal
  | .str text => Py.repr text
  | .arr items => "[" ++ joinWith ", " (reprItems items) ++ "]"
  | .obj members => "\x7b" ++ joinWith ", " (reprMembers members) ++ "\x7d"

/-- The entries of a list as `repr` writes them. -/
def reprItems : List Json → List Str
  | [] => []
  | item :: rest => reprValue item :: reprItems rest

/-- The members of a dict as `repr` writes them. -/
def reprMembers : List (Str × Json) → List Str
  | [] => []
  | (name, value) :: rest => (Py.repr name ++ ": " ++ reprValue value) :: reprMembers rest

end

/-- `str(value)`. -/
def strValue : Json → Str
  | .str text => text
  | value => reprValue value

end Text

/-- `text.rstrip()`. -/
def rstrip (text : Str) : Str := (text.reverse.dropWhile isSpace).reverse

/-! ## Evidence and answers -/

/-- `is_empty`. -/
def Evidence.isEmpty (evidence : Evidence) : Bool := evidence.nodes.isEmpty

/-- `nodes_of`. -/
def Evidence.nodesOf (evidence : Evidence) (label : Str) : List EvidenceNode :=
  evidence.nodes.filter fun node => node.label = label

/-- The ends of the relationships of a type from a node, in retrieval order. -/
def Evidence.endsOf (evidence : Evidence) (type start : Str) : List Str :=
  (evidence.relationships.filter fun edge => edge.type = type && edge.start = start).map (·.finish)

/-- `evidence.parameters.get("service", "the service")`. -/
def Evidence.service (evidence : Evidence) : Str :=
  (evidence.parameters.lookup (lit "service")).getD "the service"

/-- `Answer`. -/
structure Answer where
  question : Str
  text : Str
  evidence : Evidence
  method : Str

/-- `METHOD`. -/
def templateMethod : Str := "template"

/-! ## Templates -/

/-- `_sentence_list`. -/
def sentenceList : List Str → Str
  | [] => []
  | [item] => item
  | first :: second :: rest =>
      joinWith ", " (first :: second :: rest).dropLast ++ " and " ++
        (second :: rest).getLast (List.cons_ne_nil second rest)

/-- `_unpunctuated`. -/
def unpunctuated (text : Str) : Str :=
  ((rstrip text).reverse.dropWhile fun c => c = codePoint '.').reverse

/-- A text between two others, or nothing at all where there is none. -/
def around (before text after : Str) : Str := if text = [] then [] else before ++ text ++ after

/-- `_qualifier`. -/
def qualifier (text : Str) : Str := around " (" text ")"

/-- `_nothing_known`. -/
def nothingKnown (evidence : Evidence) : Str :=
  let reason :=
    if evidence.reason = [] then lit "no supported question type matched" else evidence.reason
  "The knowledge graph does not hold an answer to this question: " ++ reason ++ "."

section Templates

variable [UnicodeDb]

/-- `_stated`. -/
def stated (node : EvidenceNode) (name : Str) : Str :=
  match node.properties.lookup name with
  | none => []
  | some .null => []
  | some value => strValue value

/-- A text column is stated as it is, and a null one as nothing. -/
theorem stated_of_lookup {node : EvidenceNode} {name : Str} {column : Option Str}
    (held : node.properties.lookup name = some (textValue column)) :
    stated node name = keyOf column := by
  rw [stated, held]
  cases column <;> rfl

/-- The key of a node with one of its properties, if it is stated. -/
def qualified (node : EvidenceNode) (name : Str) : Str :=
  node.key ++ qualifier (stated node name)

/-- `_alert_explanation`. Without an alert node, `[0]` raises `IndexError`. -/
def alertExplanation (evidence : Evidence) : Except Exc Str :=
  match evidence.nodesOf "Alert" with
  | [] => .error (.other "IndexError")
  | alert :: _ =>
      let rule := stated alert "ruleName"
      let created :=
        if rule = [] then "Alert " ++ alert.key ++ " was created by a detection rule."
        else "Alert " ++ alert.key ++ " was created by the detection rule " ++ Py.repr rule ++ "."
      match evidence.nodesOf "Threat" with
      | [] => .ok created
      | threat :: _ =>
          .ok (created ++ " The alert indicates ATT&CK technique " ++ qualified threat "name" ++
            ".")

/-- The sentences of a response. -/
def responseParts (action : Str) (controls runbooks : List Str) : List Str :=
  (if action = [] then [] else [lit "The rule's recommended action is: " ++ unpunctuated action]) ++
    (if controls = [] then []
      else [lit "The controls that mitigate this threat are " ++ sentenceList controls]) ++
    if runbooks = [] then []
    else [lit "The response procedure is documented in " ++ sentenceList runbooks]

/-- `_response_procedure`. -/
def responseProcedure (evidence : Evidence) : Except Exc Str :=
  match evidence.nodesOf "Alert" with
  | [] => .error (.other "IndexError")
  | alert :: _ =>
      let parts := responseParts (stated alert "recommendedAction")
        ((evidence.nodesOf "Control").map (·.key)) ((evidence.nodesOf "Document").map (·.key))
      .ok (if parts = [] then nothingKnown evidence else joinWith ". " parts ++ ".")

/-- `_alert_and_response`. -/
def alertAndResponse (evidence : Evidence) : Except Exc Str := do
  let explanation ← alertExplanation evidence
  let response ← responseProcedure evidence
  return explanation ++ " " ++ response

/-- A line of `_service_alerts`. -/
def serviceAlertLine (alert : EvidenceNode) : Str :=
  let state := joinWith ", " ([stated alert "severity", stated alert "status"].filter (· ≠ []))
  let detail := stated alert "description"
  rstrip ("  - " ++ alert.key ++ ": " ++ stated alert "ruleName" ++ qualifier state ++
    around " - " detail [])

/-- `_service_alerts`. -/
def serviceAlerts (evidence : Evidence) : Str :=
  let alerts := evidence.nodesOf "Alert"
  joinWith "\n"
    ((decimal alerts.length ++ " alert(s) affect " ++ evidence.service ++ ":") ::
      alerts.map serviceAlertLine)

/-- `_threat_mitigation`. -/
def threatMitigation (evidence : Evidence) : Str :=
  let controls := (evidence.nodesOf "Control").map (·.key)
  evidence.service ++ " is targeted by " ++
    sentenceList ((evidence.nodesOf "Threat").map fun threat => qualified threat "name") ++ "." ++
    if controls = [] then lit ""
    else " The controls that mitigate these techniques are " ++ sentenceList controls ++ "."

/-- What the line of `_user_linkage` about a user states. -/
structure Link where
  user : Str
  role : Str
  rule : Str
  severity : Str
  events : Nat
  deriving DecidableEq

/-- The line of a link. -/
def Link.line (link : Link) : Str :=
  "  - " ++ link.user ++ qualifier link.role ++
    around " on " link.rule [] ++ around " [" link.severity "]" ++ ", " ++
    decimal link.events ++ " event(s) of evidence"

/-- The link of a user node. -/
def linkOf (evidence : Evidence) (user : EvidenceNode) : Link where
  user := user.key
  role := stated user "role"
  rule := stated user "ruleName"
  severity := stated user "severity"
  events := (evidence.endsOf "TRIGGERED" user.key).length

/-- The links `_user_linkage` states. -/
def links (evidence : Evidence) : List Link := (evidence.nodesOf "User").map (linkOf evidence)

/-- `_user_linkage`. -/
def userLinkage (evidence : Evidence) : Str :=
  joinWith "\n"
    ((decimal (evidence.nodesOf "User").length ++
        " user account(s) are linked to HIGH or CRITICAL alerts:") ::
      (links evidence).map Link.line)

/-- `_dependency_impact`. -/
def dependencyImpact (evidence : Evidence) : Str :=
  let impacted := evidence.nodesOf "Service"
  let described := impacted.map fun node =>
    node.key ++ qualifier (around [] (stated node "hops") " hop(s)")
  "If " ++ evidence.service ++ " fails, " ++ decimal impacted.length ++
    " service(s) are affected: " ++ sentenceList described ++ "."

/-- `rules`: the stated rule of each alert, by its key. -/
def ruleNames (evidence : Evidence) : Dict Str Str :=
  (evidence.nodesOf "Alert").foldl (fun rules node => rules.set node.key (stated node "ruleName"))
    Dict.empty

/-- A line of `_incident_linkage`. -/
def incidentLine (evidence : Evidence) (incident : EvidenceNode) : Str :=
  let asset := (evidence.endsOf "AFFECTS" incident.key).head?.getD []
  let contained := evidence.endsOf "CONTAINS" incident.key
  let described := contained.map fun alertId =>
    alertId ++ qualifier (((ruleNames evidence).get? alertId).getD [])
  let severity := stated incident "severity"
  "  - " ++ incident.key ++ around " [" severity "]" ++ around " against asset " asset [] ++
    if contained = [] then lit " contains no alert" else " contains " ++ sentenceList described

/-- `_incident_linkage`. -/
def incidentLinkage (evidence : Evidence) : Str :=
  let incidents := evidence.nodesOf "Incident"
  joinWith "\n"
    ((decimal incidents.length ++ " incident(s) group the alerts:") ::
      incidents.map (incidentLine evidence))

/-- `TEMPLATES`. -/
def templates : List (Str × (Evidence → Except Exc Str)) :=
  [(IntentName.alertExplanation.value, alertAndResponse),
    (IntentName.responseProcedure.value, responseProcedure),
    (IntentName.serviceAlerts.value, fun evidence => .ok (serviceAlerts evidence)),
    (IntentName.threatMitigation.value, fun evidence => .ok (threatMitigation evidence)),
    (IntentName.userLinkage.value, fun evidence => .ok (userLinkage evidence)),
    (IntentName.dependencyImpact.value, fun evidence => .ok (dependencyImpact evidence)),
    (IntentName.incidentLinkage.value, fun evidence => .ok (incidentLinkage evidence))]

/-- The text `generate` puts into its answer. -/
def answerText (evidence : Evidence) : Except Exc Str :=
  match templates.lookup evidence.intent with
  | none => .ok (nothingKnown evidence)
  | some template => if evidence.isEmpty then .ok (nothingKnown evidence) else template evidence

/-- With nodes the template of the intent answers. -/
theorem answerText_of_nodes {evidence : Evidence} {template : Evidence → Except Exc Str}
    (known : templates.lookup evidence.intent = some template) (nodes : evidence.nodes ≠ []) :
    answerText evidence = template evidence := by
  have notEmpty : ¬ evidence.isEmpty = true := fun empty => nodes (List.isEmpty_iff.mp empty)
  rw [answerText, known]
  exact if_neg notEmpty

/-- `generate`. -/
def generate (evidence : Evidence) : Except Exc Answer :=
  (answerText evidence).map fun text =>
    { question := evidence.question, text := text, evidence := evidence, method := templateMethod }

end Templates

end SentinelIR.Rag
