/-
# From a question to a query

Every supported intent has one of the six stored queries and the name of the one
parameter it binds, if any. `retrieve` classifies the question, builds the query and
hands text and parameters to the runner; where that fails it runs nothing and says
why. What reaches the database of a question is its intent and the entity extracted
from it.
-/

import SentinelIR.Py.Dict
import SentinelIR.Py.Json
import SentinelIR.Rag.Intent

namespace SentinelIR.Rag

open SentinelIR.Py

/-! ## The stored queries -/

/-- `Query`. -/
structure Query where
  key : Str
  question : Str
  filename : Str
  parameters : List Str := []
  deriving DecidableEq

/-- The files beside `queries.py`, by their names. -/
abbrev CypherFiles := Str → Str

/-- `text`. -/
def Query.text (files : CypherFiles) (query : Query) : Str := files query.filename

/-- `QUERIES`. -/
def queries : List Query :=
  [{ key := "alerts_for_service"
     question := "Which alerts affect a given service?"
     filename := "q1_alerts_for_service.cypher"
     parameters := ["service"] },
   { key := "users_high_severity"
     question := "Which users are linked to HIGH or CRITICAL alerts?"
     filename := "q2_users_high_severity.cypher" },
   { key := "threats_for_service"
     question := "Which ATT&CK techniques target a given service?"
     filename := "q3_threats_for_service.cypher"
     parameters := ["service"] },
   { key := "controls_for_alert"
     question := "For a given alert, which controls and runbooks address it?"
     filename := "q4_controls_for_alert.cypher"
     parameters := ["alertId"] },
   { key := "dependency_impact"
     question := "If a service fails, which services are affected?"
     filename := "q5_dependency_impact.cypher"
     parameters := ["service"] },
   { key := "incidents_and_alerts"
     question := "Which incidents group which alerts, and against which asset?"
     filename := "q6_incidents_and_alerts.cypher" }]

/-- `BY_KEY`. -/
def byKey : Dict Str Query :=
  queries.foldl (fun held query => held.set query.key query) Dict.empty

/-- `INTENT_QUERIES`: the query's key, and the name the entity binds to. -/
def intentQueries : IntentName → Option (Str × Option Str)
  | .alertExplanation => some ("controls_for_alert", some "alertId")
  | .responseProcedure => some ("controls_for_alert", some "alertId")
  | .serviceAlerts => some ("alerts_for_service", some "service")
  | .threatMitigation => some ("threats_for_service", some "service")
  | .userLinkage => some ("users_high_severity", none)
  | .dependencyImpact => some ("dependency_impact", some "service")
  | .incidentLinkage => some ("incidents_and_alerts", none)
  | .unsupported => none

/-! ## Building the query -/

/-- What `build_query` and `query_key_for` raise. -/
inductive BuildError
  /-- `UnsupportedQuestionError`, with its message. -/
  | unsupportedQuestion (message : Str)
  /-- The `KeyError` of `get_query`. -/
  | keyError
  deriving DecidableEq

/-- Bound parameters, by name. -/
abbrev Parameters := List (Str × Str)

/-- `query_key_for`. -/
def queryKeyFor (intent : Intent) : Except BuildError Str :=
  match intentQueries intent.name with
  | some (key, _) => .ok key
  | none =>
      .error (.unsupportedQuestion
        (if intent.reason = [] then "unsupported question" else intent.reason))

/-- `get_query`. -/
def getQuery (key : Str) : Except BuildError Query :=
  match byKey.get? key with
  | some query => .ok query
  | none => .error .keyError

/-- The refusal of a question that does not name the entity its query needs. -/
def unnamedReason [UnicodeDb] (name : IntentName) (parameterName : Str) : Str :=
  "the question asks " ++ name.value ++ " but names no " ++ Py.repr parameterName ++
    " - include the alert id or service name"

/-- `build_query`. -/
def buildQuery [UnicodeDb] (files : CypherFiles) (intent : Intent) :
    Except BuildError (Str × Parameters) := do
  let key ← queryKeyFor intent
  let query ← getQuery key
  match (intentQueries intent.name).bind Prod.snd with
  | none => return (query.text files, [])
  | some parameterName =>
      match intent.entityId with
      | some (c :: entityId) => return (query.text files, [(parameterName, c :: entityId)])
      | _ => .error (.unsupportedQuestion (unnamedReason intent.name parameterName))

/-! ## Retrieval -/

/-- A row of a result, by its columns. -/
abbrev Row := List (Str × Json)

/-- `EvidenceNode`. -/
structure EvidenceNode where
  label : Str
  key : Str
  properties : List (Str × Json) := []
  keyProperty : Option Str := none

/-- `EvidenceRelationship`. -/
structure EvidenceRelationship where
  start : Str
  type : Str
  finish : Str
  deriving DecidableEq

/-- `Evidence`. -/
structure Evidence where
  question : Str
  intent : Str
  queryKey : Str := []
  queryText : Str := []
  parameters : Parameters := []
  nodes : List EvidenceNode := []
  relationships : List EvidenceRelationship := []
  documents : List Str := []
  rows : List Row := []
  reason : Str := []

/-- What `retrieve` does up to the database: it returns an evidence without running
anything, or hands a text and its parameters to the runner. -/
inductive Retrieval
  | refused (evidence : Evidence)
  | runs (queryKey queryText : Str) (parameters : Parameters)
  | raises (error : BuildError)

section Retrieve

variable [UnicodeText] [UnicodeDb]

/-- `retrieve`, up to the rows the runner returns. -/
def retrieve (files : CypherFiles) (question : Str) : Retrieval :=
  let intent := classify question
  let built : Except BuildError (Str × Str × Parameters) := do
    let (queryText, parameters) ← buildQuery files intent
    let queryKey ← queryKeyFor intent
    return (queryKey, queryText, parameters)
  match built with
  | .ok (queryKey, queryText, parameters) => .runs queryKey queryText parameters
  | .error (.unsupportedQuestion message) =>
      .refused { question := question, intent := intent.name.value, reason := message }
  | .error error => .raises error

end Retrieve

/-! ## The tables agree -/

/-- The query of every supported intent is stored, and declares what the intent
binds. -/
theorem getQuery_of_intent {name : IntentName} {key : Str} {parameter : Option Str}
    (supported : intentQueries name = some (key, parameter)) :
    ∃ query ∈ queries, getQuery key = .ok query ∧ query.key = key ∧
      query.parameters = parameter.toList := by
  cases name <;> simp only [intentQueries, Option.some.injEq, Prod.mk.injEq, reduceCtorEq]
    at supported
  all_goals
    obtain ⟨rfl, rfl⟩ := supported
  · exact ⟨queries[3], by decide, by decide, by decide, by decide⟩
  · exact ⟨queries[3], by decide, by decide, by decide, by decide⟩
  · exact ⟨queries[0], by decide, by decide, by decide, by decide⟩
  · exact ⟨queries[2], by decide, by decide, by decide, by decide⟩
  · exact ⟨queries[1], by decide, by decide, by decide, by decide⟩
  · exact ⟨queries[4], by decide, by decide, by decide, by decide⟩
  · exact ⟨queries[5], by decide, by decide, by decide, by decide⟩


/-- The parameter that binds an entity of the kind. -/
def EntityKind.parameter : EntityKind → Str
  | alert => "alertId"
  | service => "service"

/-- The values an entity of the kind can have. -/
def EntityKind.Admits : EntityKind → Str → Prop
  | alert, text => IsAlertId text
  | service, text => text ∈ serviceNames

/-- The intent of a rule binds the kind of entity the rule extracts. -/
theorem parameter_of_rule {rule : IntentRule} (hrule : rule ∈ intents) :
    ∃ key, intentQueries rule.name = some (key, rule.entityKind.map EntityKind.parameter) := by
  have agree : ∀ rule ∈ intents, (intentQueries rule.name).map Prod.snd =
      some (rule.entityKind.map EntityKind.parameter) := by decide
  obtain ⟨⟨key, parameter⟩, supported, bound⟩ := Option.map_eq_some_iff.mp (agree rule hrule)
  exact ⟨key, supported.trans (congrArg (fun p => some (key, p)) bound)⟩

theorem EntityKind.Admits.ne_nil {kind : EntityKind} {text : Str} (admitted : kind.Admits text) :
    text ≠ [] := by
  cases kind with
  | alert =>
      intro empty
      have length := admitted.2.1
      rw [empty] at length
      cases length
  | service =>
      have named : ∀ service ∈ serviceNames, service ≠ [] := by decide
      exact named text admitted

section Spec

variable [UnicodeText] [UnicodeDb] {files : CypherFiles} {question : Str}

omit [UnicodeDb] in
theorem admits_of_extract {kind : EntityKind} {text : Str}
    (extracted : extract (some kind) question = some text) : kind.Admits text := by
  cases kind with
  | alert => exact isAlertId_of_extract extracted
  | service => exact mem_serviceNames_of_extract extracted

/-- A question without a supported intent is refused with the classifier's reason. -/
theorem retrieve_of_unsupported (unsupported : (classify question).name = .unsupported)
    (reasoned : (classify question).reason ≠ []) :
    retrieve files question =
      .refused
        { question := question
          intent := IntentName.unsupported.value
          reason := (classify question).reason } := by
  have key : queryKeyFor (classify question) =
      .error (.unsupportedQuestion (classify question).reason) := by
    rw [queryKeyFor, unsupported]
    exact congrArg (fun reason => Except.error (BuildError.unsupportedQuestion reason))
      (if_neg reasoned)
  have built : buildQuery files (classify question) =
      .error (.unsupportedQuestion (classify question).reason) := by
    unfold buildQuery
    rw [key]
    rfl
  unfold retrieve
  dsimp only
  rw [built, unsupported]
  rfl

omit [UnicodeText] [UnicodeDb] in
theorem queryKeyFor_of_supported {intent : Intent} {key : Str} {parameter : Option Str}
    (supported : intentQueries intent.name = some (key, parameter)) :
    queryKeyFor intent = .ok key := by
  rw [queryKeyFor, supported]

/-- A question whose intent binds nothing runs its query as it is. -/
theorem retrieve_of_unbound {key : Str} {query : Query}
    (supported : intentQueries (classify question).name = some (key, none))
    (stored : getQuery key = .ok query) :
    retrieve files question = .runs key (query.text files) [] := by
  have built : buildQuery files (classify question) = .ok (query.text files, []) := by
    unfold buildQuery
    rw [queryKeyFor_of_supported supported, supported]
    change (getQuery key).bind _ = _
    rw [stored]
    rfl
  unfold retrieve
  dsimp only
  rw [built, queryKeyFor_of_supported supported]
  rfl

/-- A question that names its entity binds it. -/
theorem retrieve_of_bound {key parameter entityId : Str} {query : Query}
    (supported : intentQueries (classify question).name = some (key, some parameter))
    (stored : getQuery key = .ok query) (named : (classify question).entityId = some entityId)
    (nonempty : entityId ≠ []) :
    retrieve files question = .runs key (query.text files) [(parameter, entityId)] := by
  obtain ⟨c, rest, rfl⟩ := List.exists_cons_of_ne_nil nonempty
  have built : buildQuery files (classify question) =
      .ok (query.text files, [(parameter, c :: rest)]) := by
    unfold buildQuery
    rw [queryKeyFor_of_supported supported, supported, named]
    change (getQuery key).bind _ = _
    rw [stored]
    rfl
  unfold retrieve
  dsimp only
  rw [built, queryKeyFor_of_supported supported]
  rfl

/-- A question that names no entity its query needs is refused. -/
theorem retrieve_of_unnamed {key parameter : Str} {query : Query}
    (supported : intentQueries (classify question).name = some (key, some parameter))
    (stored : getQuery key = .ok query) (unnamed : (classify question).entityId = none) :
    retrieve files question =
      .refused
        { question := question
          intent := (classify question).name.value
          reason := unnamedReason (classify question).name parameter } := by
  have built : buildQuery files (classify question) =
      .error (.unsupportedQuestion (unnamedReason (classify question).name parameter)) := by
    unfold buildQuery
    rw [queryKeyFor_of_supported supported, supported, unnamed]
    change (getQuery key).bind _ = _
    rw [stored]
    rfl
  unfold retrieve
  dsimp only
  rw [built]
  rfl

omit [UnicodeText] in
theorem unnamedReason_ne_nil (name : IntentName) (parameter : Str) :
    unnamedReason name parameter ≠ [] := by
  have ending : lit " - include the alert id or service name" ≠ [] := by decide
  exact List.append_ne_nil_of_right_ne_nil _ ending

/-- The intent has a query, and names the entity the query binds. -/
def Answerable (intent : Intent) : Prop :=
  ∃ key parameter, intentQueries intent.name = some (key, parameter) ∧
    (parameter = none ∨ intent.entityId ≠ none)

/-- What a question comes to: its intent's query with what it binds of the entity, where
there is one, and otherwise a refusal with a reason. -/
theorem retrieve_cases (files : CypherFiles) (question : Str) :
    (Answerable (classify question) ∧ ∃ query ∈ queries, ∃ parameter,
        intentQueries (classify question).name = some (query.key, parameter) ∧
        getQuery query.key = .ok query ∧ query.parameters = parameter.toList ∧
        retrieve files question = .runs query.key (query.text files)
          (parameter.toList.zip (classify question).entityId.toList) ∧
        (parameter.toList.zip (classify question).entityId.toList).map Prod.fst =
          query.parameters ∧
        ∀ bound ∈ parameter.toList.zip (classify question).entityId.toList,
          IsAlertId bound.2 ∨ bound.2 ∈ serviceNames) ∨
      ¬ Answerable (classify question) ∧ ∃ reason, reason ≠ [] ∧ retrieve files question =
        .refused
          { question := question
            intent := (classify question).name.value
            reason := reason } := by
  rcases classify_cases question with ⟨unsupported, reasoned⟩ | ⟨rule, hrule, named, extracted⟩
  · refine .inr ⟨?_, _, reasoned, ?_⟩
    · rintro ⟨key, parameter, supported, -⟩
      rw [unsupported] at supported
      cases supported
    rw [retrieve_of_unsupported unsupported reasoned, unsupported]
  · obtain ⟨key, supported⟩ := parameter_of_rule hrule
    obtain ⟨query, hquery, stored, rfl, declared⟩ := getQuery_of_intent supported
    rw [← named] at supported
    cases hkind : rule.entityKind with
    | none =>
        rw [hkind] at supported declared
        refine .inl ⟨⟨_, none, supported, .inl rfl⟩, query, hquery, none, supported, stored,
          declared, retrieve_of_unbound supported stored, declared.symm, ?_⟩
        exact fun bound hbound => absurd hbound List.not_mem_nil
    | some kind =>
        rw [hkind] at supported declared extracted
        cases hentity : (classify question).entityId with
        | none =>
            refine .inr ⟨?_, _, unnamedReason_ne_nil _ _,
              retrieve_of_unnamed supported stored hentity⟩
            rintro ⟨key, parameter, supported', bound | given⟩
            · rw [supported, bound] at supported'
              cases supported'
            · exact given hentity
        | some entityId =>
            have admitted : kind.Admits entityId :=
              admits_of_extract (extracted.symm.trans hentity)
            refine .inl ⟨⟨_, _, supported, .inr (by rw [hentity]; exact Option.some_ne_none _)⟩,
              query, hquery, some kind.parameter, supported, stored, declared,
              retrieve_of_bound supported stored hentity admitted.ne_nil, declared.symm, ?_⟩
            rintro bound hbound
            obtain rfl := List.mem_singleton.mp hbound
            cases kind with
            | alert => exact .inl admitted
            | service => exact .inr admitted

/-- For every question whose intent has a query and names what it binds, the query that is
run is the stored one of the intent, under exactly the parameters it declares, each bound
to an alert id or a known service name; any other question runs nothing and gets an empty
evidence with a reason. Two questions of one intent run the same text, and with one entity the same
parameters. -/
theorem retrieve_spec (files : CypherFiles) (question : Str) :
    (Answerable (classify question) ∧ (∃ query ∈ queries, ∃ parameters, retrieve files question =
          .runs query.key (query.text files) parameters ∧
        (intentQueries (classify question).name).map Prod.fst = some query.key ∧
        parameters.map Prod.fst = query.parameters ∧
        ∀ bound ∈ parameters, IsAlertId bound.2 ∨ bound.2 ∈ serviceNames) ∨
      ¬ Answerable (classify question) ∧ ∃ reason, reason ≠ [] ∧ retrieve files question =
        .refused
          { question := question
            intent := (classify question).name.value
            reason := reason }) ∧
    ∀ (other queryKey queryText otherKey otherText : Str) (parameters others : Parameters),
      retrieve files question = .runs queryKey queryText parameters →
        retrieve files other = .runs otherKey otherText others →
          (classify question).name = (classify other).name →
            queryText = otherText ∧
              ((classify question).entityId = (classify other).entityId → parameters = others) := by
  constructor
  · rcases retrieve_cases files question with
      ⟨answerable, query, hquery, parameter, supported, -, -, runs, declared, admitted⟩ | refused
    · exact .inl ⟨answerable, query, hquery, _, runs, congrArg (Option.map Prod.fst) supported,
        declared, admitted⟩
    · exact .inr refused
  · intro other queryKey queryText otherKey otherText parameters others first second same
    rcases retrieve_cases files question with
      ⟨-, query, -, parameter, supported, stored, -, runs, -, -⟩ | ⟨-, reason, -, refused⟩
    · rcases retrieve_cases files other with
        ⟨-, query', -, parameter', supported', stored', -, runs', -, -⟩ | ⟨-, reason, -, refused⟩
      · rw [← same, supported, Option.some.injEq, Prod.mk.injEq] at supported'
        obtain ⟨sameKey, rfl⟩ := supported'
        rw [← sameKey, stored] at stored'
        obtain rfl := Except.ok.inj stored'
        rw [runs, Retrieval.runs.injEq] at first
        rw [runs', Retrieval.runs.injEq] at second
        obtain ⟨-, rfl, rfl⟩ := first
        obtain ⟨-, rfl, rfl⟩ := second
        exact ⟨rfl, fun entities => by rw [entities]⟩
      · rw [refused] at second
        cases second
    · rw [refused] at first
      cases first

end Spec

end SentinelIR.Rag
