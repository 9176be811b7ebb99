/-
# The alert schema

An alert is what a detection rule produces when it fires. As with events, what
the schema validates is kept apart from the identifier, which every construction
mints afresh and which a copy can replace without validation.
-/

import SentinelIR.Common.Events

namespace SentinelIR.Alerts

open SentinelIR.Py SentinelIR.Common

/-- The lifecycle of an alert. -/
inductive AlertStatus
  | opened
  | acknowledged
  | closed
  deriving DecidableEq

/-- `AlertStatus.value`. -/
def AlertStatus.value : AlertStatus → Str
  | opened => "OPEN"
  | acknowledged => "ACKNOWLEDGED"
  | closed => "CLOSED"

/-- `_ALERT_ID_PREFIX`. -/
def alertIdTag : Str := "alt-"

/-- The fields of an alert besides its identifier. -/
structure AlertFields where
  timestamp : Str
  ruleName : Str
  severity : Severity
  status : AlertStatus := .opened
  description : Str
  relatedEvents : List Str
  affectedService : Option Str := none
  affectedUser : Option Str := none
  affectedEntity : Option Str := none
  recommendedAction : Str
  deriving DecidableEq

/-- The checks of the field validators: an alert cites at least one event, and
its four required texts are not blank. -/
structure AlertFields.Valid (f : AlertFields) : Prop where
  evidence : f.relatedEvents ≠ []
  ruleName : ¬ Blank f.ruleName
  description : ¬ Blank f.description
  recommendedAction : ¬ Blank f.recommendedAction
  timestamp : ¬ Blank f.timestamp

instance (f : AlertFields) : Decidable f.Valid :=
  decidable_of_iff
    (f.relatedEvents ≠ [] ∧ ¬ Blank f.ruleName ∧ ¬ Blank f.description ∧
      ¬ Blank f.recommendedAction ∧ ¬ Blank f.timestamp)
    ⟨fun ⟨evidence, ruleName, description, recommendedAction, timestamp⟩ =>
        ⟨evidence, ruleName, description, recommendedAction, timestamp⟩,
      fun h => ⟨h.evidence, h.ruleName, h.description, h.recommendedAction, h.timestamp⟩⟩

/-- A validated alert before its identifier. -/
structure AlertBody extends AlertFields where
  valid : toAlertFields.Valid
  deriving DecidableEq

/-- `Alert(...)`, up to the identifier it mints. -/
def AlertFields.validate (f : AlertFields) : Except Exc AlertBody :=
  if valid : f.Valid then .ok ⟨f, valid⟩ else .error .validation

theorem validate_eq_ok_iff {f : AlertFields} {body : AlertBody} :
    f.validate = .ok body ↔ body.toAlertFields = f := by
  rw [AlertFields.validate]
  constructor
  · intro built
    split at built
    case isTrue valid =>
        rw [← Except.ok.inj built]
    case isFalse => cases built
  · rintro rfl
    exact dif_pos body.valid

/-- One firing of a detection rule. -/
structure Alert extends AlertBody where
  alertId : Str
  deriving DecidableEq

/-- `alert.model_copy(update={"status": status})`. -/
def Alert.withStatus (alert : Alert) (status : AlertStatus) : Alert :=
  { alert with
    status := status
    valid :=
      { evidence := alert.valid.evidence
        ruleName := alert.valid.ruleName
        description := alert.valid.description
        recommendedAction := alert.valid.recommendedAction
        timestamp := alert.valid.timestamp } }

end SentinelIR.Alerts
