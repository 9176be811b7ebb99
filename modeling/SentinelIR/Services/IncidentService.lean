/-
# The incident lifecycle

The business logic of incident-service over its repository: incidents are raised
against an asset, updated, moved to another severity and removed. Only raising
one and escalating one leave events of their own. The database may fail to answer
a read, refuse a commit, or take it and fail to read the row back: the operation
then raises, and what was committed stays.
-/

import SentinelIR.Common.Traced
import SentinelIR.Py.Dict

namespace SentinelIR.Services

open SentinelIR.Py SentinelIR.Common

/-! ## Incidents -/

/-- The three states of an incident's lifecycle. -/
inductive Status
  | opened
  | triaged
  | resolved
  deriving DecidableEq

/-- A row of the `incidents` table. -/
structure Incident where
  id : Int
  title : Str
  description : Str
  severity : Severity
  status : Status
  reportedBy : Str
  assetId : Int
  assetNameSnapshot : Str
  deriving DecidableEq

/-- The body of `POST /api/v1/incidents`. -/
structure IncidentCreate where
  title : Str
  description : Str
  severity : Severity := .low
  reportedBy : Str
  assetId : Int
  title_length : 1 ≤ title.length ∧ title.length ≤ 200
  description_length : 1 ≤ description.length ∧ description.length ≤ 2000
  reportedBy_length : 1 ≤ reportedBy.length ∧ reportedBy.length ≤ 64
  assetId_pos : 0 < assetId

/-- The body of `PUT /api/v1/incidents/{id}`: a field is unset, null or a value. -/
structure IncidentUpdate where
  title : Option (Option Str) := none
  description : Option (Option Str) := none
  status : Option (Option Status) := none

/-- `AssetSummary`. -/
structure AssetSummary where
  assetId : Int
  name : Str
  available : Bool := true
  deriving DecidableEq

/-- The correlation id of a request under way. Its arrival has been recorded under
it, so it passed the schema. -/
abbrev CorrelationId := {correlationId : Str // ¬ Blank correlationId}

/-! ## The repository -/

/-- What the database makes of the commit of a row the constraints allow: it refuses it,
or it takes it, under a key where it assigns one, and the row can be read back or not. -/
inductive RowCommit (Key : Type)
  | refused
  | taken (key : Key) (refreshes : Bool)
  deriving DecidableEq

/-- `session.refresh`, after the commit. -/
def refreshed {Row : Type} (row : Row) (refreshes : Bool) : Except Exc Row :=
  if refreshes then .ok row else .error .database

@[simp] theorem refreshed_true {Row : Type} (row : Row) : refreshed row true = .ok row := rfl

@[simp] theorem refreshed_false {Row : Type} (row : Row) :
    refreshed row false = .error .database := rfl

/-- The `incidents` table. -/
abbrev Incidents := Dict Int Incident

namespace IncidentRepository

/-- `get`. The database may fail to answer, as it does for an id outside the column. -/
def get (rows : Incidents) (incidentId : Int) (reads : Bool) : Except Exc (Option Incident) :=
  if reads then .ok (rows.get? incidentId) else .error .database

/-- `create`: the database assigns an unused key, or refuses the row. What it
answers to a statement is not the repository's choice. A row stays stored when only
the refresh after the commit fails. -/
def create (rows : Incidents) (draft : Incident) :
    RowCommit Int → Except Exc Incident × Incidents
  | .refused => (.error .database, rows)
  | .taken id refreshes =>
      if id ∈ rows.keys then (.error .database, rows)
      else (refreshed { draft with id } refreshes, rows.set id { draft with id })

/-- `update`, by a changed row. -/
def update (rows : Incidents) (changed : Incident) :
    RowCommit Unit → Except Exc Incident × Incidents
  | .refused => (.error .database, rows)
  | .taken _ refreshes => (refreshed changed refreshes, rows.set changed.id changed)

/-- `delete`. -/
def delete (rows : Incidents) (incident : Incident) (accepted : Bool) : Except Exc Incidents :=
  if accepted then .ok (rows.erase incident.id) else .error .database

end IncidentRepository

/-! ## The service -/

/-- `INCIDENTS_ENDPOINT`. -/
def incidentsEndpoint : Str := "/api/v1/incidents"

/-- `_ESCALATION_SEVERITIES`. -/
def escalationSeverities : List Severity := [.high, .critical]

/-- The severities in order. -/
def rank : Severity → Nat
  | .low => 0
  | .medium => 1
  | .high => 2
  | .critical => 3

/-- What an operation returns or raises and emits, and the table it leaves. -/
abbrev Outcome (α : Type) := Traced α × Incidents

namespace IncidentService

/-- `_not_found`. -/
def notFound (incidentId : Int) : Exc :=
  .sentinel
    { kind := .notFound
      message := "No incident with id " ++ decimalInt incidentId ++ "."
      details := [(lit "field", .text "incident_id"), (lit "value", .number incidentId)] }

/-- The event of `_emit_created`. -/
def createdFields [UnicodeDb] (incident : Incident) (correlationId : Str) : EventFields where
  serviceName := .incident
  eventType := .incidentCreated
  severity := incident.severity
  userId := some incident.reportedBy
  endpoint := incidentsEndpoint
  httpMethod := "POST"
  statusCode := 201
  message :=
    "Incident " ++ decimalInt incident.id ++ " created with severity " ++
      incident.severity.value ++ " for asset " ++ Py.repr incident.assetNameSnapshot ++ "."
  correlationId := correlationId
  affectedEntity := some ("incident-" ++ decimalInt incident.id)

/-- The event of `_emit_escalated`. -/
def escalatedFields (incident : Incident) (previous : Severity) (correlationId : Str) :
    EventFields where
  serviceName := .incident
  eventType := .incidentEscalated
  severity := incident.severity
  endpoint := incidentsEndpoint ++ "/" ++ decimalInt incident.id ++ "/severity"
  httpMethod := "PATCH"
  statusCode := 200
  message :=
    "Incident " ++ decimalInt incident.id ++ " escalated from " ++ previous.value ++ " to " ++
      incident.severity.value ++ "."
  correlationId := correlationId
  affectedEntity := some ("incident-" ++ decimalInt incident.id)

/-- The row `create` hands to the repository, before the database has keyed it. -/
def draft (payload : IncidentCreate) (asset : AssetSummary) : Incident where
  id := 0
  title := payload.title
  description := payload.description
  severity := payload.severity
  status := .opened
  reportedBy := payload.reportedBy
  assetId := payload.assetId
  assetNameSnapshot := asset.name

/-- `create`, on the answer of the asset lookup. -/
def create [UnicodeDb] (rows : Incidents) (payload : IncidentCreate)
    (fetched : Except Exc AssetSummary) (commit : RowCommit Int) (correlationId : Str) :
    Outcome Incident :=
  match fetched with
  | .error raised => (.raise raised, rows)
  | .ok asset =>
      match IncidentRepository.create rows (draft payload asset) commit with
      | (.error raised, after) => (.raise raised, after)
      | (.ok created, after) =>
          (do Traced.emit (createdFields created correlationId)
              return created, after)

/-- The row with its changes, or what an explicit null raises: a null status has
no `value`, and the other columns are not nullable. -/
def applyUpdate (incident : Incident) (payload : IncidentUpdate) : Except Exc Incident :=
  match payload.status with
  | some none => .error (.other "AttributeError")
  | status =>
      match payload.title, payload.description with
      | some none, _ => .error .database
      | _, some none => .error .database
      | title, description =>
          .ok { incident with
            title := (title.bind id).getD incident.title
            description := (description.bind id).getD incident.description
            status := (status.bind id).getD incident.status }

/-- `update`. -/
def update (rows : Incidents) (incidentId : Int) (payload : IncidentUpdate) (reads : Bool)
    (commit : RowCommit Unit) : Outcome Incident :=
  match IncidentRepository.get rows incidentId reads with
  | .error raised => (.raise raised, rows)
  | .ok none => (.raise (notFound incidentId), rows)
  | .ok (some incident) =>
      match applyUpdate incident payload with
      | .error raised => (.raise raised, rows)
      | .ok changed =>
          match IncidentRepository.update rows changed commit with
          | (.error raised, after) => (.raise raised, after)
          | (.ok updated, after) => (.pure updated, after)

/-- `change_severity`. -/
def changeSeverity (rows : Incidents) (incidentId : Int) (newSeverity : Severity) (reads : Bool)
    (commit : RowCommit Unit) (correlationId : Str) : Outcome Incident :=
  match IncidentRepository.get rows incidentId reads with
  | .error raised => (.raise raised, rows)
  | .ok none => (.raise (notFound incidentId), rows)
  | .ok (some incident) =>
      match IncidentRepository.update rows { incident with severity := newSeverity } commit with
      | (.error raised, after) => (.raise raised, after)
      | (.ok updated, after) =>
          if newSeverity ∈ escalationSeverities ∧ newSeverity ≠ incident.severity then
            (do Traced.emit (escalatedFields updated incident.severity correlationId)
                return updated, after)
          else (.pure updated, after)

/-- `delete`. -/
def delete (rows : Incidents) (incidentId : Int) (reads accepted : Bool) : Outcome Unit :=
  match IncidentRepository.get rows incidentId reads with
  | .error raised => (.raise raised, rows)
  | .ok none => (.raise (notFound incidentId), rows)
  | .ok (some incident) =>
      match IncidentRepository.delete rows incident accepted with
      | .error raised => (.raise raised, rows)
      | .ok after => (.pure (), after)

/-! ### The events are valid -/

theorem not_blank_incidentsEndpoint : ¬ Blank incidentsEndpoint :=
  not_blank_lit (by decide +kernel)

theorem createdFields_valid [UnicodeDb] (incident : Incident) {correlationId : Str}
    (correlation : ¬ Blank correlationId) : (createdFields incident correlationId).Valid where
  method := show lit "POST" ∈ permittedMethods by decide
  status := show (100 : Int) ≤ 201 ∧ (201 : Int) ≤ 599 by decide
  endpoint := not_blank_incidentsEndpoint
  message := not_blank_append_right (not_blank_lit (by decide +kernel))
  correlation := correlation

theorem escalatedFields_valid (incident : Incident) (previous : Severity) {correlationId : Str}
    (correlation : ¬ Blank correlationId) :
    (escalatedFields incident previous correlationId).Valid where
  method := show lit "PATCH" ∈ permittedMethods by decide
  status := show (100 : Int) ≤ 200 ∧ (200 : Int) ≤ 599 by decide
  endpoint := not_blank_append_right (not_blank_lit (by decide +kernel))
  message := not_blank_append_right (not_blank_lit (by decide +kernel))
  correlation := correlation

end IncidentService

/-! ## Runs of operations -/

/-- One operation of the service, with what the asset lookup and the database
answer to it. -/
inductive Operation
  | create (payload : IncidentCreate) (fetched : Except Exc AssetSummary) (commit : RowCommit Int)
      (correlationId : CorrelationId)
  | update (incidentId : Int) (payload : IncidentUpdate) (reads : Bool) (commit : RowCommit Unit)
  | changeSeverity (incidentId : Int) (newSeverity : Severity) (reads : Bool)
      (commit : RowCommit Unit) (correlationId : CorrelationId)
  | delete (incidentId : Int) (reads accepted : Bool)

/-- The events an operation emits and the table it leaves. -/
def perform [UnicodeDb] (rows : Incidents) : Operation → List EventBody × Incidents
  | .create payload fetched commit correlationId =>
      let outcome := IncidentService.create rows payload fetched commit correlationId
      (outcome.1.emitted, outcome.2)
  | .update incidentId payload reads commit =>
      let outcome := IncidentService.update rows incidentId payload reads commit
      (outcome.1.emitted, outcome.2)
  | .changeSeverity incidentId newSeverity reads commit correlationId =>
      let outcome :=
        IncidentService.changeSeverity rows incidentId newSeverity reads commit correlationId
      (outcome.1.emitted, outcome.2)
  | .delete incidentId reads accepted =>
      let outcome := IncidentService.delete rows incidentId reads accepted
      (outcome.1.emitted, outcome.2)

/-- The events of a run of operations, one at a time, and the table it leaves. -/
def performAll [UnicodeDb] (rows : Incidents) : List Operation → List EventBody × Incidents
  | [] => ([], rows)
  | operation :: operations =>
      let first := perform rows operation
      let rest := performAll first.2 operations
      (first.1 ++ rest.1, rest.2)

/-! ## Escalations -/

/-- The `INCIDENT_ESCALATED` events among some events. -/
def escalations (events : List EventBody) : List EventBody :=
  events.filter fun event => event.eventType == .incidentEscalated

/-- The event of a severity change, naming the old and the new severity. -/
def escalation (incident : Incident) (newSeverity : Severity) (correlationId : CorrelationId) :
    EventBody :=
  ⟨_, IncidentService.escalatedFields_valid { incident with severity := newSeverity }
    incident.severity correlationId.2⟩

/-- The severity changes of an operation the database takes and the incident they
change, when `wanted` of the old and the new severity and of whether the row is read
back. -/
def changed (wanted : Severity → Severity → Bool → Bool) (rows : Incidents) :
    Operation → List EventBody
  | .changeSeverity incidentId newSeverity true (.taken _ refreshes) correlationId =>
      match rows.get? incidentId with
      | some incident =>
          if wanted incident.severity newSeverity refreshes then
            [escalation incident newSeverity correlationId]
          else []
      | none => []
  | _ => []

/-- A move up, to `HIGH` or `CRITICAL`. -/
def isRaise (previous newSeverity : Severity) (_refreshes : Bool) : Bool :=
  decide (rank previous < rank newSeverity ∧ newSeverity ∈ escalationSeverities)

/-- A raise whose row cannot be read back. -/
def isUnreadRaise (previous newSeverity : Severity) (refreshes : Bool) : Bool :=
  !refreshes && isRaise previous newSeverity refreshes

/-- A raise whose row is read back. -/
def isReadRaise (previous newSeverity : Severity) (refreshes : Bool) : Bool :=
  refreshes && isRaise previous newSeverity refreshes

/-- The one move down that ends in an escalation severity, the row being read back. -/
def isDemotionToHigh (previous newSeverity : Severity) (refreshes : Bool) : Bool :=
  refreshes && decide (previous = .critical ∧ newSeverity = .high)

/-- What the code reports. -/
def isReported (previous newSeverity : Severity) (refreshes : Bool) : Bool :=
  refreshes && decide (newSeverity ∈ escalationSeverities ∧ newSeverity ≠ previous)

/-- What the changes along a run amount to. -/
def changedAll [UnicodeDb] (wanted : Severity → Severity → Bool → Bool) (rows : Incidents) :
    List Operation → List EventBody
  | [] => []
  | operation :: operations =>
      changed wanted rows operation ++ changedAll wanted (perform rows operation).2 operations

/-! ### What is changed along a run -/

section Changed

variable {wanted first second : Severity → Severity → Bool → Bool}

/-- What is wanted is the first or the second, never both. -/
def Splits (wanted first second : Severity → Severity → Bool → Bool) : Prop :=
  ∀ previous newSeverity refreshes, (wanted previous newSeverity refreshes).toNat =
    (first previous newSeverity refreshes).toNat + (second previous newSeverity refreshes).toNat

theorem Splits.symm (split : Splits wanted first second) : Splits wanted second first :=
  fun previous newSeverity refreshes =>
    (split previous newSeverity refreshes).trans (Nat.add_comm _ _)

theorem Splits.left (split : Splits wanted first second) {previous newSeverity : Severity}
    {refreshes : Bool} (chosen : first previous newSeverity refreshes = true) :
    wanted previous newSeverity refreshes = true := by
  have counted := split previous newSeverity refreshes
  rw [chosen, Bool.toNat_true] at counted
  cases hwanted : wanted previous newSeverity refreshes with
  | true => rfl
  | false =>
      rw [hwanted, Bool.toNat_false] at counted
      omega

theorem changed_sublist (split : Splits wanted first second) (rows : Incidents)
    (operation : Operation) :
    (changed first rows operation).Sublist (changed wanted rows operation) := by
  unfold changed
  split
  case h_2 => exact List.Sublist.refl _
  split
  case h_2 => exact List.Sublist.refl _
  next incident _ =>
  split
  case isFalse => exact List.nil_sublist _
  case isTrue chosen =>
      rw [if_pos (split.left chosen)]

theorem length_changed (split : Splits wanted first second) (rows : Incidents)
    (operation : Operation) :
    (changed wanted rows operation).length =
      (changed first rows operation).length + (changed second rows operation).length := by
  have counted (chosen : Bool) (event : EventBody) :
      (if chosen = true then [event] else []).length = chosen.toNat := by
    cases chosen <;> rfl
  unfold changed
  split
  case h_2 => rfl
  split
  case h_2 => rfl
  rw [counted, counted, counted]
  exact split _ _ _

theorem exists_of_mem_changed {rows : Incidents} {operation : Operation} {event : EventBody}
    (hevent : event ∈ changed wanted rows operation) :
    ∃ incident newSeverity refreshes correlationId,
      wanted incident.severity newSeverity refreshes = true ∧
        event = escalation incident newSeverity correlationId := by
  unfold changed at hevent
  split at hevent
  case h_2 => cases hevent
  next incidentId newSeverity _ refreshes correlationId =>
  split at hevent
  case h_2 => cases hevent
  next incident _ =>
  split at hevent
  case isFalse => cases hevent
  case isTrue chosen =>
      exact ⟨incident, newSeverity, refreshes, correlationId, chosen,
        List.mem_singleton.mp hevent⟩

variable [UnicodeDb]

theorem changedAll_sublist (split : Splits wanted first second) (rows : Incidents)
    (operations : List Operation) :
    (changedAll first rows operations).Sublist (changedAll wanted rows operations) := by
  induction operations generalizing rows with
  | nil => exact List.Sublist.refl _
  | cons operation operations ih => exact (changed_sublist split rows operation).append (ih _)

theorem length_changedAll (split : Splits wanted first second) (rows : Incidents)
    (operations : List Operation) :
    (changedAll wanted rows operations).length =
      (changedAll first rows operations).length + (changedAll second rows operations).length := by
  induction operations generalizing rows with
  | nil => rfl
  | cons operation operations ih =>
      simp only [changedAll, List.length_append, ih, length_changed split]
      omega

theorem exists_of_mem_changedAll {rows : Incidents} {operations : List Operation}
    {event : EventBody} (hevent : event ∈ changedAll wanted rows operations) :
    ∃ incident newSeverity refreshes correlationId,
      wanted incident.severity newSeverity refreshes = true ∧
        event = escalation incident newSeverity correlationId := by
  induction operations generalizing rows with
  | nil => cases hevent
  | cons operation operations ih =>
      rcases List.mem_append.mp hevent with here | later
      · exact exists_of_mem_changed here
      · exact ih later

end Changed

theorem isReported_splits : Splits isReported isReadRaise isDemotionToHigh := by
  intro previous newSeverity refreshes
  cases previous <;> cases newSeverity <;> cases refreshes <;> decide

theorem isRaise_splits : Splits isRaise isReadRaise isUnreadRaise := by
  intro previous newSeverity refreshes
  cases previous <;> cases newSeverity <;> cases refreshes <;> decide

theorem not_raise_of_demotion {previous newSeverity : Severity} {refreshes other : Bool}
    (demoted : isDemotionToHigh previous newSeverity refreshes = true) :
    ¬ isRaise previous newSeverity other = true := by
  obtain ⟨rfl, rfl⟩ := of_decide_eq_true (Bool.and_eq_true_iff.mp demoted).2
  exact of_decide_eq_true rfl

/-! ### What is emitted along a run -/

/-- The event of a change names the severities it is between. -/
theorem severities_of_escalation {incident other : Incident} {newSeverity otherSeverity : Severity}
    {correlationId otherId : CorrelationId}
    (same : escalation incident newSeverity correlationId =
      escalation other otherSeverity otherId) :
    newSeverity = otherSeverity ∧ incident.severity = other.severity := by
  have reached : newSeverity = otherSeverity := congrArg (·.severity) same
  have entity : some (lit "incident-" ++ decimalInt incident.id) =
      some (lit "incident-" ++ decimalInt other.id) := congrArg (·.affectedEntity) same
  have message : lit "Incident " ++ decimalInt incident.id ++ lit " escalated from " ++
        incident.severity.value ++ lit " to " ++ newSeverity.value ++ lit "." =
      lit "Incident " ++ decimalInt other.id ++ lit " escalated from " ++
        other.severity.value ++ lit " to " ++ otherSeverity.value ++ lit "." :=
    congrArg (·.message) same
  have numbers := List.append_cancel_left (Option.some.inj entity)
  rw [reached, numbers] at message
  have named := List.append_cancel_left
    (List.append_cancel_right (List.append_cancel_right (List.append_cancel_right message)))
  refine ⟨reached, ?_⟩
  revert named
  generalize incident.severity = previous
  generalize other.severity = previous'
  cases previous <;> cases previous' <;> decide

variable [UnicodeDb]

/-- One operation emits an escalation for a raise and for the demotion to `HIGH`, where
the row is read back. -/
theorem escalations_perform (rows : Incidents) (operation : Operation) :
    escalations (perform rows operation).1 = changed isReported rows operation := by
  cases operation with
  | create payload fetched commit correlationId =>
      simp only [perform, IncidentService.create, changed]
      cases fetched with
      | error raised => rfl
      | ok asset =>
          rcases stored : IncidentRepository.create rows (IncidentService.draft payload asset)
              commit with ⟨raised | created, after⟩
          · simp only [stored]
            rfl
          · simp only [stored]
            rw [Traced.emit_of_valid
              (IncidentService.createdFields_valid created correlationId.2)]
            rfl
  | update incidentId payload reads commit =>
      simp only [perform, IncidentService.update, changed]
      split
      · rfl
      · rfl
      split
      · rfl
      split
      · rfl
      · rfl
  | delete incidentId reads accepted =>
      simp only [perform, IncidentService.delete, changed]
      split
      · rfl
      · rfl
      split
      · rfl
      · rfl
  | changeSeverity incidentId newSeverity reads commit correlationId =>
      cases reads with
      | false => rfl
      | true =>
          simp only [perform, IncidentService.changeSeverity, IncidentRepository.get, if_true]
          cases found : rows.get? incidentId with
          | none =>
              cases commit with
              | refused => rfl
              | taken key refreshes =>
                  rw [changed, found]
                  rfl
          | some incident =>
              cases commit with
              | refused => rfl
              | taken key refreshes =>
                  rw [changed, found]
                  cases refreshes with
                  | false => rfl
                  | true =>
                      dsimp only [IncidentRepository.update, refreshed_true]
                      by_cases escalates : newSeverity ∈ escalationSeverities ∧
                          newSeverity ≠ incident.severity
                      · have chosen : isReported incident.severity newSeverity true = true :=
                          decide_eq_true escalates
                        rw [if_pos escalates, if_pos chosen,
                          Traced.emit_of_valid (IncidentService.escalatedFields_valid _
                            incident.severity correlationId.2)]
                        rfl
                      · have passed : ¬ isReported incident.severity newSeverity true = true :=
                          fun chosen => escalates (of_decide_eq_true chosen)
                        rw [if_neg escalates, if_neg passed]
                        rfl

omit [UnicodeDb] in
theorem escalations_append (first second : List EventBody) :
    escalations (first ++ second) = escalations first ++ escalations second :=
  List.filter_append ..

/-- A run emits an escalation for each change that is reported. -/
theorem escalations_performAll (rows : Incidents) (operations : List Operation) :
    escalations (performAll rows operations).1 = changedAll isReported rows operations := by
  induction operations generalizing rows with
  | nil => rfl
  | cons operation operations ih =>
      rw [performAll, changedAll, escalations_append, escalations_perform, ih]

/-- A run that emits nothing but its raises demotes nothing to `HIGH`: the event of the
demotion names severities no raise is between. -/
theorem no_demotion_of_escalations (rows : Incidents) (operations : List Operation)
    (same : escalations (performAll rows operations).1 = changedAll isRaise rows operations) :
    changedAll isDemotionToHigh rows operations = [] := by
  rw [escalations_performAll] at same
  apply List.eq_nil_iff_forall_not_mem.mpr
  intro event hevent
  have reported := changedAll_sublist isReported_splits.symm rows operations
  obtain ⟨incident, newSeverity, refreshes, correlationId, demoted, rfl⟩ :=
    exists_of_mem_changedAll hevent
  have raised := reported.subset hevent
  rw [same] at raised
  obtain ⟨other, otherSeverity, refreshes', otherId, raise, equal⟩ :=
    exists_of_mem_changedAll raised
  obtain ⟨rfl, previous⟩ := severities_of_escalation equal
  rw [← previous] at raise
  exact not_raise_of_demotion demoted raise

/-- The escalations of a run are exactly its raises to `HIGH` or `CRITICAL`, in
order, exactly when the run never moves an incident from `CRITICAL` to `HIGH` and
reads every raised row back. -/
theorem escalations_eq_raises_iff (rows : Incidents) (operations : List Operation) :
    escalations (performAll rows operations).1 = changedAll isRaise rows operations ↔
      changedAll isDemotionToHigh rows operations = [] ∧
        changedAll isUnreadRaise rows operations = [] := by
  have reported := length_changedAll isReported_splits rows operations
  have raises := length_changedAll isRaise_splits rows operations
  constructor
  · intro same
    have undemoted := no_demotion_of_escalations rows operations same
    refine ⟨undemoted, List.eq_nil_of_length_eq_zero ?_⟩
    rw [← escalations_performAll, same, undemoted, List.length_nil] at reported
    omega
  · rintro ⟨undemoted, unread⟩
    rw [undemoted, List.length_nil, Nat.add_zero] at reported
    rw [unread, List.length_nil, Nat.add_zero] at raises
    have inReported := changedAll_sublist isReported_splits rows operations
    have inRaises := changedAll_sublist isRaise_splits rows operations
    rw [escalations_performAll, ← inReported.eq_of_length reported.symm,
      ← inRaises.eq_of_length raises.symm]

/-! ## A demotion that escalates -/

/-- A critical incident. -/
def breach : Incident where
  id := 1
  title := "Suspicious login"
  description := "Multiple failed logins from one IP."
  severity := .critical
  status := .opened
  reportedBy := "analyst"
  assetId := 1
  assetNameSnapshot := "core-auth-db"

omit [UnicodeDb] in
/-- Moving it to `HIGH` escalates it. -/
theorem demotion_escalates : letI : UnicodeDb := ⟨fun _ => true⟩
    ¬ ∀ (rows : Incidents) (operations : List Operation),
      escalations (performAll rows operations).1 = changedAll isRaise rows operations := by
  let _ : UnicodeDb := ⟨fun _ => true⟩
  intro always
  have none := no_demotion_of_escalations (Dict.empty.set 1 breach)
    [.changeSeverity 1 .high true (.taken () true) ⟨"corr-000000000001", by decide +kernel⟩]
    (always _ _)
  exact absurd none (by decide +kernel)

end SentinelIR.Services
