/-
# Source 3 of 3: what is known about the threats

Techniques, the weaknesses they exploit, the controls that mitigate them, the
response runbooks, and the edge from every alert to the technique its rule
detects.
-/

import SentinelIR.Loader.Writes

namespace SentinelIR.Loader.LoadSecurityKnowledge

open SentinelIR.Py

/-- `_LOADER`. -/
def loader : Str := "security-knowledge"

/-! ## The data -/

/-- An entry of `_THREATS`; `rule` names the detection rule of the technique. -/
structure Threat where
  techniqueId : Str
  name : Str
  tactic : Str
  description : Str
  rule : Option Str

/-- `_THREATS`. -/
def threats : List Threat :=
  [{ techniqueId := "T1110", name := "Brute Force", tactic := "Credential Access"
     description :=
    lit "Adversaries systematically guess credentials for accounts " ++
      lit "when passwords are unknown or hashes are obtained."
     rule := some "Multiple Failed Logins" },
    { techniqueId := "T1110.001", name := "Password Guessing", tactic := "Credential Access"
      description :=
    lit "Guessing passwords against a login service without prior " ++
      lit "knowledge, using common or default values."
      rule := none },
    { techniqueId := "T1110.002", name := "Password Cracking", tactic := "Credential Access"
      description := "Recovering plaintext from captured password hashes offline."
      rule := none },
    { techniqueId := "T1110.003", name := "Password Spraying", tactic := "Credential Access"
      description :=
    lit "Trying one or a few common passwords against many accounts " ++
      lit "to avoid per-account lockouts."
      rule := none },
    { techniqueId := "T1110.004", name := "Credential Stuffing", tactic := "Credential Access"
      description :=
    lit "Using username/password pairs breached elsewhere against " ++
      lit "this login service."
      rule := none },
    { techniqueId := "T1078", name := "Valid Accounts", tactic := "Defense Evasion"
      description :=
    lit "Using legitimate credentials to access resources beyond " ++
      lit "the account's authorised scope."
      rule := some "Unauthorised Endpoint Access" },
    { techniqueId := "T1498", name := "Network Denial of Service", tactic := "Impact"
      description :=
    lit "Exhausting a service's request capacity with a flood of " ++
      lit "traffic from one or more sources."
      rule := some "Abnormal Request Rate" },
    { techniqueId := "T1499", name := "Endpoint Denial of Service", tactic := "Impact"
      description :=
    lit "Overwhelming a specific service until it degrades or its " ++
      lit "dependencies fail."
      rule := some "Service Failure" }]

/-- `_SUBTECHNIQUES`: child and parent. -/
def subtechniques : List (Str × Str) :=
  [(lit "T1110.001", lit "T1110"), (lit "T1110.002", lit "T1110"),
    (lit "T1110.003", lit "T1110"), (lit "T1110.004", lit "T1110")]

/-- An entry of `_VULNERABILITIES`. -/
structure Vulnerability where
  vulnId : Str
  name : Str
  description : Str
  threats : List Str

/-- `_VULNERABILITIES`. -/
def vulnerabilities : List Vulnerability :=
  [{ vulnId := "SENTINEL-VULN-001", name := "No account lockout"
     description :=
    lit "auth-service applied no lockout after repeated failures at " ++
      lit "the time these events were captured, so guessing is " ++
      lit "rate-limited only by the gateway."
     threats := ["T1110", "T1110.001", "T1110.003", "T1110.004"] },
    { vulnId := "SENTINEL-VULN-002", name := "Single-factor authentication"
      description :=
    lit "Login requires only a password, so a correct guess is a " ++
      lit "full compromise."
      threats := ["T1110", "T1078"] },
    { vulnId := "SENTINEL-VULN-003", name := "Unbounded per-caller throughput"
      description :=
    lit "Beyond the gateway rate limit there is no per-service " ++
      lit "admission control, so a burst that gets through degrades " ++
      lit "the upstream."
      threats := ["T1498", "T1499"] }]

/-- An entry of `_CONTROLS`. -/
structure Control where
  controlId : Str
  name : Str
  description : Str
  threats : List Str

/-- `_CONTROLS`. -/
def controls : List Control :=
  [{ controlId := "CTRL-LOCKOUT", name := "Account lockout"
     description :=
    lit "Lock an account for a cooldown period after a threshold of " ++
      lit "consecutive failed logins."
     threats := ["T1110", "T1110.001", "T1110.003"] },
    { controlId := "CTRL-MFA", name := "Multi-factor authentication"
      description :=
    lit "Require a second factor so a guessed or stuffed password " ++
      lit "is not sufficient to authenticate."
      threats := ["T1110", "T1110.004", "T1078"] },
    { controlId := "CTRL-PWRESET", name := "Forced password reset"
      description :=
    lit "Invalidate the credential and require a reset once an " ++
      lit "account is suspected compromised."
      threats := ["T1110", "T1078"] },
    { controlId := "CTRL-RATELIMIT", name := "Gateway rate limiting"
      description :=
    lit "Cap requests per consumer at the gateway so a flood is " ++
      lit "refused before it reaches a service."
      threats := ["T1498", "T1499"] }]

/-- An entry of `_DOCUMENTS`. -/
structure Document where
  docId : Str
  title : Str
  kind : Str
  describes : Str
  respondsTo : List Str

/-- `_DOCUMENTS`. -/
def documents : List Document :=
  [{ docId := "RB-BRUTE-FORCE", title := "Runbook: brute-force response", kind := "runbook"
     describes := "CTRL-LOCKOUT", respondsTo := ["T1110"] },
    { docId := "RB-CRED-COMPROMISE", title := "Runbook: suspected account compromise"
      kind := "runbook", describes := "CTRL-PWRESET", respondsTo := ["T1110", "T1078"] },
    { docId := "RB-DOS", title := "Runbook: service under load", kind := "runbook"
      describes := "CTRL-RATELIMIT", respondsTo := ["T1498", "T1499"] }]

/-- `_THREAT_TARGETS`: technique and service. -/
def threatTargets : List (Str × Str) :=
  [(lit "T1110", lit "auth-service"), (lit "T1078", lit "auth-service"),
    (lit "T1498", lit "api-gateway"), (lit "T1499", lit "incident-service")]

/-! ## The writes -/

/-- `_merge_threats`. -/
def mergeThreats : List Write :=
  threats.map fun threat =>
    { statement :=
        [mergeBy 't' .threat .techniqueId threat.techniqueId,
          .setProps 't' [(.name, some (.text threat.name)), (.tactic, some (.text threat.tactic)),
            (.description, some (.text threat.description))]]
      loader := loader }

/-- `_merge_subtechniques`. -/
def mergeSubtechniques : List Write :=
  subtechniques.map fun (child, parent) =>
    { statement :=
        [matchBy 'c' .threat .techniqueId child, matchBy 'p' .threat .techniqueId parent,
          .mergeEdge 'c' .subtechniqueOf 'p']
      loader := loader }

/-- `_merge_threat_targets`. -/
def mergeThreatTargets : List Write :=
  threatTargets.map fun (technique, service) =>
    { statement :=
        [matchBy 't' .threat .techniqueId technique, mergeBy 's' .service .name service,
          .mergeEdge 't' .targets 's']
      loader := loader }

/-- `_merge_vulnerabilities`. -/
def mergeVulnerabilities : List Write :=
  vulnerabilities.flatMap fun vuln =>
    { statement :=
        [mergeBy 'v' .vulnerability .vulnId vuln.vulnId,
          .setProps 'v' [(.name, some (.text vuln.name)),
            (.description, some (.text vuln.description))]]
      loader := loader } ::
    vuln.threats.map fun technique =>
      { statement :=
          [matchBy 't' .threat .techniqueId technique,
            matchBy 'v' .vulnerability .vulnId vuln.vulnId, .mergeEdge 't' .exploits 'v']
        loader := loader }

/-- `_merge_controls`. -/
def mergeControls : List Write :=
  controls.flatMap fun control =>
    { statement :=
        [mergeBy 'c' .control .controlId control.controlId,
          .setProps 'c' [(.name, some (.text control.name)),
            (.description, some (.text control.description))]]
      loader := loader } ::
    control.threats.map fun technique =>
      { statement :=
          [matchBy 'c' .control .controlId control.controlId,
            matchBy 't' .threat .techniqueId technique, .mergeEdge 'c' .mitigates 't']
        loader := loader }

/-- `_merge_documents`. -/
def mergeDocuments : List Write :=
  documents.flatMap fun doc =>
    { statement :=
        [mergeBy 'd' .document .docId doc.docId,
          .setProps 'd' [(.title, some (.text doc.title)), (.kind, some (.text doc.kind))]]
      loader := loader } ::
    { statement :=
        [matchBy 'd' .document .docId doc.docId,
          matchBy 'c' .control .controlId doc.describes, .mergeEdge 'd' .describes 'c']
      loader := loader } ::
    doc.respondsTo.map fun technique =>
      { statement :=
          [matchBy 'd' .document .docId doc.docId,
            matchBy 't' .threat .techniqueId technique, .mergeEdge 'd' .supportsResponseTo 't']
        loader := loader }

/-- `rule_threat_links`. -/
def ruleThreatLinks : List Write :=
  threats.filterMap fun threat => threat.rule.map fun rule =>
    { statement :=
        [matchBy 'a' .alert .ruleName rule, matchBy 't' .threat .techniqueId threat.techniqueId,
          .mergeEdge 'a' .indicates 't']
      loader := loader }

/-- `knowledge`. -/
def knowledge : List Write :=
  mergeThreats ++ mergeSubtechniques ++ mergeThreatTargets ++ mergeVulnerabilities ++
    mergeControls ++ mergeDocuments ++ ruleThreatLinks

end SentinelIR.Loader.LoadSecurityKnowledge
