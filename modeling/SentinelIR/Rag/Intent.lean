/-
# Questions and intents

The classifier maps a question to the first intent with the most phrases in it and
extracts the entity it names with one of two patterns. Nothing of the question but
the intent, the phrases and the entity goes on from here.
-/

import SentinelIR.Py.Str

namespace SentinelIR.Rag

open SentinelIR.Py

/-- What the interpreter's Unicode tables say about case and about word characters. -/
class UnicodeText where
  /-- `str.lower`. -/
  lower : Str → Str
  /-- `\w`. -/
  isWord : CodePoint → Bool

/-! ## Searching a text -/

/-- `phrase in text`. -/
def occursIn (phrase text : Str) : Bool := text.tails.any phrase.isPrefixOf

section Search

variable [UnicodeText]

/-- `\b` between two neighbours, either of which may be missing. -/
def boundary (before after : Option CodePoint) : Bool :=
  before.any UnicodeText.isWord != after.any UnicodeText.isWord

/-- The word stands at the front of the text, between two boundaries. -/
def standsAt (before : Option CodePoint) (text word : Str) : Bool :=
  word.isPrefixOf text && boundary before text.head? &&
    boundary word.getLast? (text.drop word.length).head?

/-- `re.search` for `\b(…)\b`: the leftmost place at which one of the words its group
can match there stands. -/
def search (candidates : Str → List Str) : Option CodePoint → Str → Option Str
  | _, [] => none
  | before, c :: rest =>
      match (candidates (c :: rest)).find? (standsAt before (c :: rest)) with
      | some word => some word
      | none => search candidates (some c) rest

/-- What a search finds is a candidate somewhere in the text. -/
theorem exists_candidate_of_search {candidates : Str → List Str} {before : Option CodePoint}
    {text word : Str} (found : search candidates before text = some word) :
    ∃ front back, text = front ++ back ∧ word ∈ candidates back := by
  induction text generalizing before with
  | nil => cases found
  | cons c rest ih =>
      rw [search] at found
      split at found
      · next here =>
          obtain rfl := Option.some.inj found
          exact ⟨[], c :: rest, rfl, List.mem_of_find?_eq_some here⟩
      · obtain ⟨front, back, split, candidate⟩ := ih found
        exact ⟨c :: front, back, congrArg _ split, candidate⟩

end Search

/-! ## Entities -/

/-- `alt-` and twelve lower-case hexadecimal digits. -/
def IsAlertId (text : Str) : Prop :=
  text.take 4 = lit "alt-" ∧ text.length = 16 ∧ ∀ c ∈ text.drop 4, isLowerHex c = true

instance (text : Str) : Decidable (IsAlertId text) :=
  @instDecidableAnd _ _ inferInstance
    (@instDecidableAnd _ _ inferInstance (List.decidableBAll _ (text.drop 4)))

/-- The match of `alt-[0-9a-f]{12}` at the front of a text. -/
def alertIdAt (text : Str) : List Str :=
  if IsAlertId (text.take 16) then [text.take 16] else []

/-- The alternatives of `_SERVICE_NAME`. -/
def serviceNames : List Str :=
  ["auth-service", "incident-service", "asset-service", "alert-service", "graph-service"]

section Extract

variable [UnicodeText]

/-- `extract_alert_id`. -/
def extractAlertId (question : Str) : Option Str :=
  search alertIdAt none (UnicodeText.lower question)

/-- `extract_service`. -/
def extractService (question : Str) : Option Str :=
  search (fun _ => serviceNames) none (UnicodeText.lower question)

theorem isAlertId_of_extract {question alertId : Str}
    (extracted : extractAlertId question = some alertId) : IsAlertId alertId := by
  obtain ⟨-, back, -, candidate⟩ := exists_candidate_of_search extracted
  rw [alertIdAt] at candidate
  split at candidate
  · next named =>
      rw [List.mem_singleton.mp candidate]
      exact named
  · cases candidate

theorem mem_serviceNames_of_extract {question service : Str}
    (extracted : extractService question = some service) : service ∈ serviceNames := by
  obtain ⟨-, -, -, candidate⟩ := exists_candidate_of_search extracted
  exact candidate

end Extract

/-! ## Intents -/

/-- `IntentName`. -/
inductive IntentName
  | alertExplanation
  | responseProcedure
  | serviceAlerts
  | threatMitigation
  | userLinkage
  | dependencyImpact
  | incidentLinkage
  | unsupported
  deriving DecidableEq

/-- The value of the enumeration's member. -/
def IntentName.value : IntentName → Str
  | alertExplanation => "ALERT_EXPLANATION"
  | responseProcedure => "RESPONSE_PROCEDURE"
  | serviceAlerts => "SERVICE_ALERTS"
  | threatMitigation => "THREAT_MITIGATION"
  | userLinkage => "USER_LINKAGE"
  | dependencyImpact => "DEPENDENCY_IMPACT"
  | incidentLinkage => "INCIDENT_LINKAGE"
  | unsupported => "UNSUPPORTED"

/-- The kinds of entity a query can need. -/
inductive EntityKind
  | alert
  | service
  deriving DecidableEq

/-- `IntentRule`. -/
structure IntentRule where
  name : IntentName
  phrases : List Str
  entityKind : Option EntityKind := none

/-- The phrases of the rule that occur in a lower-cased question. -/
def IntentRule.matched (rule : IntentRule) (lowered : Str) : List Str :=
  rule.phrases.filter fun phrase => occursIn phrase lowered

/-- `score`. -/
def IntentRule.score (rule : IntentRule) (lowered : Str) : Nat := (rule.matched lowered).length

/-- `INTENTS`. -/
def intents : List IntentRule :=
  [{ name := .alertExplanation
     phrases := ["why was", "why did", "what caused", "cause of", "explain", "raised"]
     entityKind := some .alert },
   { name := .responseProcedure
     phrases :=
       ["what should be done", "what should i do", "how do i respond", "response procedure",
         "runbook", "remediate", "respond to"]
     entityKind := some .alert },
   { name := .serviceAlerts
     phrases := ["which alerts", "what alerts", "alerts for", "alerts affecting", "wrong with"]
     entityKind := some .service },
   { name := .threatMitigation
     phrases :=
       ["which threats", "what threats", "which techniques", "attack techniques", "exposed to",
         "which controls", "what controls", "mitigate"]
     entityKind := some .service },
   { name := .userLinkage
     phrases :=
       ["which users", "what users", "which accounts", "whose account", "failed logins",
         "under attack"] },
   { name := .dependencyImpact
     phrases :=
       ["impact if", "if this service fails", "which services are affected", "what is affected",
         "blast radius", "depends on", "goes down", "fails"]
     entityKind := some .service },
   { name := .incidentLinkage
     phrases :=
       ["incidents", "which incidents", "what incidents", "incidents linked", "incident contain",
         "security incident", "wider security incident", "wider incident"] }]

/-- `Intent`. -/
structure Intent where
  name : IntentName
  entityId : Option Str := none
  reason : Str := []
  matchedPhrases : List Str := []
  deriving DecidableEq

/-- `max(scored, key=…)` over the scores in order: the first rule with the highest. -/
def bestOf (score : IntentRule → Nat) (first : IntentRule) (rest : List IntentRule) : IntentRule :=
  rest.foldl (fun best rule => if score best < score rule then rule else best) first

theorem bestOf_mem (score : IntentRule → Nat) (first : IntentRule) (rest : List IntentRule) :
    bestOf score first rest ∈ first :: rest := by
  induction rest generalizing first with
  | nil => exact List.mem_singleton_self first
  | cons rule rest ih =>
      rw [bestOf, List.foldl_cons, ← bestOf]
      rcases List.mem_cons.mp (ih (if score first < score rule then rule else first)) with
        head | tail
      · rw [head]
        split
        · exact List.mem_cons_of_mem _ List.mem_cons_self
        · exact List.mem_cons_self
      · exact List.mem_cons_of_mem _ (List.mem_cons_of_mem _ tail)

/-- The rule a lower-cased question is classified by. -/
def bestRule (lowered : Str) : IntentRule :=
  match intents with
  | first :: rest => bestOf (·.score lowered) first rest
  | [] => { name := .unsupported, phrases := [] }

theorem bestRule_mem (lowered : Str) : bestRule lowered ∈ intents :=
  bestOf_mem (·.score lowered) _ _

section Classify

variable [UnicodeText]

/-- `_extract`. -/
def extract (kind : Option EntityKind) (question : Str) : Option Str :=
  match kind with
  | some .alert => extractAlertId question
  | some .service => extractService question
  | none => none

/-- The refusal of a question no phrase of which is known. -/
def unmatchedReason : Str :=
  lit "no supported question type matched; ask about an alert, a " ++
    lit "service's alerts or threats, users linked to failed logins, " ++
    lit "or the impact of a service failing"

/-- `classify`. -/
def classify [UnicodeDb] (question : Str) : Intent :=
  if Blank question then { name := .unsupported, reason := "the question was empty" }
  else
    let lowered := UnicodeText.lower question
    let best := bestRule lowered
    if best.score lowered = 0 then { name := .unsupported, reason := unmatchedReason }
    else
      { name := best.name
        entityId := extract best.entityKind question
        reason :=
          "matched " ++ best.name.value ++ " on " ++
            joinWith ", " ((best.matched lowered).map Py.repr)
        matchedPhrases := best.matched lowered }

variable [UnicodeDb]

/-- A question is refused with a reason, or classified by a rule whose entity it
names. -/
theorem classify_cases (question : Str) :
    ((classify question).name = .unsupported ∧ (classify question).reason ≠ []) ∨
      ∃ rule ∈ intents, (classify question).name = rule.name ∧
        (classify question).entityId = extract rule.entityKind question := by
  rw [classify]
  split
  · exact .inl ⟨rfl, by decide⟩
  · dsimp only
    split
    · exact .inl ⟨rfl, by decide⟩
    · exact .inr ⟨_, bestRule_mem _, rfl, rfl⟩

end Classify

end SentinelIR.Rag
