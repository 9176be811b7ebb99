/-
# The rule catalogue

The list of rules every consumer iterates, and the runner over it. Rules return
alerts without identifiers; the runner attaches the ones the alert schema mints,
one per alert in the order they are built.
-/

import SentinelIR.Rules.AbnormalRate
import SentinelIR.Rules.FailedLogins
import SentinelIR.Rules.ServiceFailure
import SentinelIR.Rules.UnauthorisedAccess

namespace SentinelIR.Rules

open SentinelIR.Py SentinelIR.Common SentinelIR.Alerts SentinelIR.Collector

/-- `all_rules`. -/
def allRules [UnicodeDb] : List DetectionRule :=
  [{ FailedLogins.info with evaluate := FailedLogins.evaluate },
    { UnauthorisedAccess.info with evaluate := UnauthorisedAccess.evaluate },
    { AbnormalRate.info with evaluate := AbnormalRate.evaluate },
    { ServiceFailure.info with evaluate := ServiceFailure.evaluate }]

/-- The alerts of `evaluate_all` before they carry identifiers. -/
def evaluateBodies [UnicodeDb] (store : EventStore) (now : Datetime) :
    Except Exc (List AlertBody) :=
  (mapE (fun rule => rule.evaluate store now) allRules).map List.flatten

/-- The identifiers `new_alert_id` mints, in the order of its calls. -/
abbrev AlertIds := Nat → Str

/-- Give each alert the identifier minted at its construction. -/
def attachIds (ids : AlertIds) (bodies : List AlertBody) : List Alert :=
  bodies.mapIdx fun i body => { body with alertId := ids i }

/-- `evaluate_all` over the whole catalogue. -/
def evaluateAll [UnicodeDb] (ids : AlertIds) (store : EventStore) (now : Datetime) :
    Except Exc (List Alert) :=
  (evaluateBodies store now).map (attachIds ids)

/-- Identifiers are all that is attached. -/
theorem map_attachIds (ids : AlertIds) (bodies : List AlertBody) :
    (attachIds ids bodies).map (·.toAlertBody) = bodies := by
  apply List.ext_getElem (by simp [attachIds])
  intro i hi hi'
  simp [attachIds]

end SentinelIR.Rules
