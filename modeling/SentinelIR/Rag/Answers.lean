/-
# Answering with and without the language model

The model may phrase the answer instead of the template, on the same evidence. Whatever
goes wrong from the import of its library on counts as no answer, and the template
answers. What precedes that is the reading of the settings, and a setting that is no
number raises.
-/

import SentinelIR.Py.Numbers
import SentinelIR.Rag.Unanswered

namespace SentinelIR.Rag

open SentinelIR.Py SentinelIR.Common

/-! ## The generator -/

/-- The environment variables. -/
abbrev Environ := Str → Option Str

/-- `os.getenv(name) or default`. -/
def getenvOr (env : Environ) (name default : Str) : Str :=
  match env name with
  | some (c :: value) => c :: value
  | _ => default

/-- `DEFAULT_MODEL`. -/
def defaultModel : Str := "gemini-3.5-flash-lite"

/-- The setting of the longest answer, in tokens. -/
def maxTokensSetting (env : Environ) : Str := getenvOr env "GEMINI_MAX_TOKENS" "512"

/-- The setting of the timeout, in seconds. -/
def timeoutSetting (env : Environ) : Str := getenvOr env "GEMINI_TIMEOUT_SECONDS" "10"

/-- What the call to the model is made from: the prompt is written from the evidence, and
the deadline is the timeout, at least ten seconds. -/
structure Request where
  apiKey : Str
  modelName : Str
  maxTokens : Int
  timeout : Str
  evidence : Evidence

/-- Everything from the import of the library to the text of the response: any exception,
a text, or none. -/
abbrev Client := Request → Except Exc (Option Str)

/-- `_method_label`. -/
def methodLabel (modelName : Str) : Str := "graph-grounded LLM (" ++ modelName ++ ")"

section Generate

variable [UnicodeDigits]

/-- `generate_llm` up to its `try`: no request without evidence or without a key. -/
def requestOf (env : Environ) (evidence : Evidence) : Except Exc (Option Request) :=
  if evidence.isEmpty then .ok none
  else
    match env "GEMINI_API_KEY" with
    | some (c :: apiKey) =>
        match readInt (maxTokensSetting env) with
        | none => .error .valueError
        | some maxTokens =>
            if readsFloat (timeoutSetting env) then
              .ok (some
                { apiKey := c :: apiKey
                  modelName := getenvOr env "GEMINI_MODEL" defaultModel
                  maxTokens := maxTokens
                  timeout := timeoutSetting env
                  evidence := evidence })
            else .error .valueError
    | _ => .ok none

/-- The `try` of `generate_llm`: the stripped text, unless the call fails or the text is
blank. -/
def phrase (client : Client) (request : Request) : Option Answer :=
  match client request with
  | .error _ => none
  | .ok text =>
      let stripped := strip (text.getD [])
      if stripped = [] then none
      else some
        { question := request.evidence.question
          text := stripped
          evidence := request.evidence
          method := methodLabel request.modelName }

/-- `generate_llm`. -/
def generateLlm (env : Environ) (client : Client) (evidence : Evidence) :
    Except Exc (Option Answer) :=
  (requestOf env evidence).map fun request => request.bind (phrase client)

variable [UnicodeText] [UnicodeDb]

/-- `answer_question`. -/
def answerQuestion (files : CypherFiles) (runner : Runner) (env : Environ) (client : Client)
    (useLlm : Bool) (question : Str) : Except Exc Answer := do
  let evidence ← retrieveFrom files runner question
  if useLlm then
    match ← generateLlm env client evidence with
    | some answer => return answer
    | none => generate evidence
  else generate evidence

end Generate

/-! ## What the model can break -/

section Breaks

variable [UnicodeDigits] [UnicodeText] [UnicodeDb]

/-- The model yields a text that is not blank. -/
def Usable (env : Environ) (client : Client) (evidence : Evidence) : Prop :=
  ∃ request text, requestOf env evidence = .ok (some request) ∧
    client request = .ok (some text) ∧ ¬ Blank text

/-- With the model an answer raises only where it would without, rests on the evidence
that was retrieved, and is the template's whenever the model yields no usable text. -/
structure NeverBreaks (files : CypherFiles) (runner : Runner) (env : Environ) (client : Client)
    (question : Str) : Prop where
  raises : ∀ raised, answerQuestion files runner env client true question = .error raised →
    ∃ other, answerQuestion files runner env client false question = .error other
  bound : ∀ answer, answerQuestion files runner env client true question = .ok answer →
    retrieveFrom files runner question = .ok answer.evidence
  falls : ∀ evidence answer, retrieveFrom files runner question = .ok evidence →
    answerQuestion files runner env client true question = .ok answer →
      ¬ Usable env client evidence →
        answerQuestion files runner env client false question = .ok answer

/-- The key is set. -/
def HasKey (env : Environ) : Prop := ∃ c apiKey, env "GEMINI_API_KEY" = some (c :: apiKey)

/-- The two number settings are unset, empty or numbers. -/
def NumberSettings (env : Environ) : Prop :=
  (readInt (maxTokensSetting env)).isSome = true ∧ readsFloat (timeoutSetting env) = true

/-- Where the template answers with evidence and the key is set, the settings are
numbers. -/
def Configured (files : CypherFiles) (runner : Runner) (env : Environ) (question : Str) : Prop :=
  ∀ evidence answer, retrieveFrom files runner question = .ok evidence →
    generate evidence = .ok answer → evidence.nodes ≠ [] → HasKey env → NumberSettings env

variable {files : CypherFiles} {runner : Runner} {env : Environ} {client : Client} {question : Str}

omit [UnicodeText] [UnicodeDb] in
/-- Before its `try` the generator makes a request on the evidence, or none, or raises
over a setting. -/
theorem requestOf_cases (env : Environ) (evidence : Evidence) :
    (∃ request, requestOf env evidence = .ok request ∧
        (∀ made ∈ request, made.evidence = evidence) ∧
        (evidence.nodes ≠ [] → HasKey env → NumberSettings env)) ∨
      requestOf env evidence = .error .valueError ∧ evidence.nodes ≠ [] ∧ HasKey env ∧
        ¬ NumberSettings env := by
  have unmade : ∀ made ∈ (none : Option Request), made.evidence = evidence :=
    fun made hmade => absurd hmade (Option.not_mem_none made)
  rw [requestOf]
  split
  case isTrue empty =>
      refine .inl ⟨none, rfl, unmade, ?_⟩
      intro nodes
      exact absurd (List.isEmpty_iff.mp empty) nodes
  case isFalse some =>
      have nodes : evidence.nodes ≠ [] := fun empty => some (List.isEmpty_iff.mpr empty)
      split
      case h_1 c apiKey key =>
          cases tokens : readInt (maxTokensSetting env) with
          | none =>
              refine .inr ⟨rfl, nodes, ⟨c, apiKey, key⟩, ?_⟩
              intro settings
              rw [NumberSettings, tokens] at settings
              exact Bool.false_ne_true settings.1
          | some maxTokens =>
              dsimp only
              split
              case isTrue reads =>
                  refine .inl ⟨_, rfl, fun made hmade => Option.some.inj hmade ▸ rfl, ?_⟩
                  exact fun _ _ => ⟨tokens ▸ rfl, reads⟩
              case isFalse unread =>
                  exact .inr ⟨rfl, nodes, ⟨c, apiKey, key⟩, fun settings => unread settings.2⟩
      case h_2 unset =>
          refine .inl ⟨none, rfl, unmade, ?_⟩
          rintro - ⟨c, apiKey, key⟩
          exact absurd key (unset c apiKey)

omit [UnicodeDigits] [UnicodeText] [UnicodeDb] in
/-- What the model phrased rests on the evidence of the request. -/
theorem phrase_eq_some {request : Request} {answer : Answer}
    (phrased : phrase client request = some answer) :
    answer.evidence = request.evidence ∧
      ∃ text, client request = .ok (some text) ∧ ¬ Blank text := by
  rw [phrase] at phrased
  split at phrased
  case h_1 => cases phrased
  case h_2 text called =>
      dsimp only at phrased
      split at phrased
      case isTrue => cases phrased
      case isFalse visible =>
          obtain rfl := Option.some.inj phrased
          cases text with
          | none => exact absurd rfl visible
          | some text => exact ⟨rfl, text, called, visible⟩

omit [UnicodeDigits] [UnicodeText] in
theorem evidence_of_generate {evidence : Evidence} {answer : Answer}
    (generated : generate evidence = .ok answer) : answer.evidence = evidence := by
  rw [generate] at generated
  cases text : answerText evidence with
  | error raised =>
      rw [text] at generated
      cases generated
  | ok text' =>
      rw [text] at generated
      obtain rfl := Except.ok.inj generated
      rfl

theorem answerQuestion_of_error {raised : Exc} (useLlm : Bool)
    (failed : retrieveFrom files runner question = .error raised) :
    answerQuestion files runner env client useLlm question = .error raised := by
  rw [answerQuestion, failed]
  rfl

theorem answerQuestion_false {evidence : Evidence}
    (retrieved : retrieveFrom files runner question = .ok evidence) :
    answerQuestion files runner env client false question = generate evidence := by
  rw [answerQuestion, retrieved]
  rfl

theorem answerQuestion_true (client : Client) {evidence : Evidence} {request : Option Request}
    (retrieved : retrieveFrom files runner question = .ok evidence)
    (requested : requestOf env evidence = .ok request) :
    answerQuestion files runner env client true question =
      match request.bind (phrase client) with
      | some answer => .ok answer
      | none => generate evidence := by
  rw [answerQuestion, retrieved]
  simp only [generateLlm, requested, Except.map, bind, Except.bind, if_true]
  rfl

theorem answerQuestion_raises {evidence : Evidence} {raised : Exc}
    (retrieved : retrieveFrom files runner question = .ok evidence)
    (unread : requestOf env evidence = .error raised) :
    answerQuestion files runner env client true question = .error raised := by
  rw [answerQuestion, retrieved]
  simp only [generateLlm, unread, Except.map, bind, Except.bind, if_true]

/-- Where the settings are read, the model breaks nothing. -/
theorem neverBreaks_of_request {evidence : Evidence} {request : Option Request}
    (retrieved : retrieveFrom files runner question = .ok evidence)
    (requested : requestOf env evidence = .ok request)
    (made : ∀ made ∈ request, made.evidence = evidence) :
    NeverBreaks files runner env client question := by
  have answers := answerQuestion_true client retrieved requested
  cases phrased : request.bind (phrase client) with
  | none =>
      rw [phrased] at answers
      have same : answerQuestion files runner env client true question =
          answerQuestion files runner env client false question :=
        answers.trans (answerQuestion_false retrieved).symm
      refine ⟨fun raised failed => ⟨raised, same ▸ failed⟩, ?_,
        fun _ answer _ answered _ => same ▸ answered⟩
      intro answer answered
      rw [evidence_of_generate (answers ▸ answered)]
      exact retrieved
  | some phrasing =>
      rw [phrased] at answers
      obtain ⟨sent, rfl, phrases⟩ := Option.bind_eq_some_iff.mp phrased
      obtain ⟨grounded, text, called, visible⟩ := phrase_eq_some phrases
      refine ⟨?_, ?_, ?_⟩
      · intro raised failed
        rw [answers] at failed
        cases failed
      · intro answer answered
        obtain rfl := Except.ok.inj (answers.symm.trans answered)
        rw [grounded, made sent rfl]
        exact retrieved
      · intro other answer retrieved' _ unusable
        obtain rfl := Except.ok.inj (retrieved.symm.trans retrieved')
        exact absurd ⟨sent, text, requested, called, visible⟩ unusable

/-- Where both raise there is nothing to break. -/
theorem neverBreaks_of_raises {raised other : Exc}
    (failed : answerQuestion files runner env client true question = .error raised)
    (alone : answerQuestion files runner env client false question = .error other) :
    NeverBreaks files runner env client question := by
  refine ⟨fun _ _ => ⟨other, alone⟩, ?_, ?_⟩
  · intro answer answered
    rw [failed] at answered
    cases answered
  · intro _ answer _ answered
    rw [failed] at answered
    cases answered

/-- A setting that is no number breaks an answer the template has. -/
theorem NeverBreaks.configured (never : NeverBreaks files runner env client question) :
    Configured files runner env question := by
  intro evidence answer retrieved generated nodes key
  rcases requestOf_cases env evidence with ⟨request, -, -, settings⟩ | ⟨unread, -⟩
  · exact settings nodes key
  · obtain ⟨other, failed⟩ := never.raises _ (answerQuestion_raises retrieved unread)
    rw [answerQuestion_false retrieved, generated] at failed
    cases failed

/-- For every question, every environment and every outcome of the call, the model breaks
nothing exactly when the settings are numbers wherever they are read and the template
has an answer. -/
theorem neverBreaks_iff (files : CypherFiles) (runner : Runner) (env : Environ) (client : Client)
    (question : Str) :
    NeverBreaks files runner env client question ↔ Configured files runner env question := by
  refine ⟨NeverBreaks.configured, fun configured => ?_⟩
  cases retrieved : retrieveFrom files runner question with
  | error raised =>
      exact neverBreaks_of_raises (answerQuestion_of_error true retrieved)
        (answerQuestion_of_error false retrieved)
  | ok evidence =>
      rcases requestOf_cases env evidence with
        ⟨request, requested, made, -⟩ | ⟨unread, nodes, key, noNumber⟩
      · exact neverBreaks_of_request retrieved requested made
      · have failed : answerQuestion files runner env client true question = .error .valueError :=
          answerQuestion_raises retrieved unread
        cases generated : generate evidence with
        | error raised =>
            have alone : answerQuestion files runner env client false question = .error raised :=
              (answerQuestion_false retrieved).trans generated
            exact neverBreaks_of_raises failed alone
        | ok answer =>
            exact absurd (configured evidence answer retrieved generated nodes key) noNumber

end Breaks

/-- A user linked to an alert. -/
def linkedUser : UsersHighSeverityRow where
  username := some "operator"
  ruleName := some "Multiple Failed Logins"
  severity := some "HIGH"
  evidenceEvents := some [some "evt-000000000001"]

/-- The user is all there is to retrieve. -/
def oneUser : Results
  | .usersHighSeverity, _, _ => [linkedUser]
  | _, _, _ => []

/-- A key, and a longest answer that is no number. -/
def wordySettings : Environ := fun name =>
  if name = lit "GEMINI_API_KEY" then some "key"
  else if name = lit "GEMINI_MAX_TOKENS" then some "many"
  else none

/-- The setting raises where the template would have answered. -/
theorem wordySettings_break : ¬ ∀ (_ : UnicodeDigits) (_ : UnicodeText) (_ : UnicodeDb)
    (files : CypherFiles) (runner : Runner) (env : Environ) (client : Client) (question : Str),
      NeverBreaks files runner env client question := by
  intro always
  let _ : UnicodeDigits := ⟨fun _ => none⟩
  let _ : UnicodeText := lowerAscii
  let _ : UnicodeDb := ⟨fun _ => true⟩
  have supported : intentQueries (classify (lit "which users")).name =
      some (QueryKey.usersHighSeverity.value, none) := by decide +kernel
  have stored : getQuery QueryKey.usersHighSeverity.value = .ok queries[1] := by decide
  have runs : retrieve (fun name => name) (lit "which users") =
      .runs QueryKey.usersHighSeverity.value (lit "q2_users_high_severity.cypher") [] :=
    retrieve_of_unbound supported stored
  have retrieved : retrieveFrom (fun name => name) oneUser.runner (lit "which users") =
      .ok (evidenceOf (lit "which users") (classify (lit "which users")).name
        (lit "q2_users_high_severity.cypher") []
        (oneUser .usersHighSeverity (lit "q2_users_high_severity.cypher") [])) := by
    rw [retrieveFrom, runs]
    dsimp only
    rw [lookup_value]
    rfl
  have honest : Honest (evidenceOf (lit "which users") (classify (lit "which users")).name
      (lit "q2_users_high_severity.cypher") []
      (oneUser .usersHighSeverity (lit "q2_users_high_severity.cypher") [])) :=
    honest_of_other supported (by decide) (fun bound none => absurd none List.not_mem_nil) _
  obtain ⟨answer, generated, -⟩ := honest
  have listed : linkedUser ∈ oneUser .usersHighSeverity (lit "q2_users_high_severity.cypher") [] :=
    List.mem_singleton_self linkedUser
  have named : keyOf linkedUser.username ≠ [] := by decide
  obtain ⟨held, hheld, -⟩ := exists_node listed List.mem_cons_self named
  have never := always ⟨fun _ => none⟩ lowerAscii ⟨fun _ => true⟩ (fun name => name) oneUser.runner
    wordySettings (fun _ => .ok none) (lit "which users")
  have settings := never.configured _ answer retrieved generated (List.ne_nil_of_mem hheld)
    ⟨codePoint 'k', lit "ey", by decide⟩
  exact absurd settings.1 (by decide)

end SentinelIR.Rag
