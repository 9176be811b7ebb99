/-
# The techniques a loaded graph knows against a service

The third stored query returns what the security knowledge holds: the techniques that target
the service, each with the vulnerabilities it exploits and the controls that mitigate it.
-/

import SentinelIR.Rag.LoadedQueries

namespace SentinelIR.Rag.StoredQueries

open SentinelIR.Py hiding Value
open SentinelIR.Graph SentinelIR.Loader SentinelIR.Loader.LoadEvents SentinelIR.Common
  SentinelIR.Alerts SentinelIR.Collector SentinelIR.Rules

variable {events : List SecurityEvent} {listed : List Alert} {times : Dict Str Micros}
  {g : KnowledgeGraph}

/-- A known technique that targets the service. -/
def Targets (service : Str) (threat : LoadSecurityKnowledge.Threat) : Prop :=
  threat ∈ LoadSecurityKnowledge.threats ∧
    (threat.techniqueId, service) ∈ LoadSecurityKnowledge.threatTargets

/-- A row of q3: a technique, with what it exploits and what mitigates it. -/
structure Exposed (threat : LoadSecurityKnowledge.Threat) (row : ThreatsForServiceRow) : Prop where
  techniqueId : row.techniqueId = some threat.techniqueId
  technique : row.technique = some threat.name
  tactic : row.tactic = some threat.tactic
  exploits : ∀ text, text ∈ texts row.exploitsVulnerabilities ↔
    ∃ vuln ∈ LoadSecurityKnowledge.vulnerabilities, threat.techniqueId ∈ vuln.threats ∧
      vuln.name = text
  mitigatedBy : ∀ text, text ∈ texts row.mitigatedBy ↔
    ∃ control ∈ LoadSecurityKnowledge.controls, threat.techniqueId ∈ control.threats ∧
      control.name = text

/-- The rows of q3: one for every technique that targets the service, and no others. -/
structure Exposure (service : Str) (rows : List ThreatsForServiceRow) : Prop where
  sound : ∀ row ∈ rows, ∃ threat, Targets service threat ∧ Exposed threat row
  complete : ∀ threat, Targets service threat → ∃ row ∈ rows, Exposed threat row
  once : (rows.map fun row => (row.techniqueId, row.technique, row.tactic)).Nodup

theorem Exposure.perm {service : Str} {rows others : List ThreatsForServiceRow}
    (exposure : Exposure service rows) (same : rows.Perm others) : Exposure service others where
  sound row hrow := exposure.sound row (same.mem_iff.mpr hrow)
  complete threat targets := by
    obtain ⟨row, hrow, exposed⟩ := exposure.complete threat targets
    exact ⟨row, same.mem_iff.mp hrow, exposed⟩
  once := (same.map _).nodup_iff.mp exposure.once

/-- A technique that targets a service is known, exploits something and is mitigated. -/
theorem targeting : ∀ pair ∈ LoadSecurityKnowledge.threatTargets,
    (∃ threat ∈ LoadSecurityKnowledge.threats, threat.techniqueId = pair.1) ∧
      (∃ vuln ∈ LoadSecurityKnowledge.vulnerabilities, pair.1 ∈ vuln.threats) ∧
        ∃ control ∈ LoadSecurityKnowledge.controls, pair.1 ∈ control.threats := by decide

/-- A technique's id names one technique. -/
theorem nodup_techniqueIds : (LoadSecurityKnowledge.threats.map (·.techniqueId)).Nodup := by decide

/-- What q3 binds. -/
def threatBindings (threat : LoadSecurityKnowledge.Threat)
    (vuln : LoadSecurityKnowledge.Vulnerability) (control : LoadSecurityKnowledge.Control)
    (service : Str) : Bindings Char Name :=
  [('c', some (Loader.named .control control.controlId)),
    ('v', some (Loader.named .vulnerability vuln.vulnId)),
    ('s', some (Loader.named .service service)),
    ('t', some (Loader.named .threat threat.techniqueId))]

section ThreatsForService

variable (loaded : LoadedFrom events listed times g)

include loaded

/-- The techniques that target the service, with each thing they exploit and each control. -/
theorem mem_threatsForServiceMatches {service : Str} {row : Bindings Char Name} :
    row ∈ matchAll (namesOf events listed times) (threatsForServicePattern service) ↔
      ∃ threat, Targets service threat ∧
        ∃ vuln ∈ LoadSecurityKnowledge.vulnerabilities, threat.techniqueId ∈ vuln.threats ∧
          ∃ control ∈ LoadSecurityKnowledge.controls, threat.techniqueId ∈ control.threats ∧
            row = threatBindings threat vuln control service := by
  simp only [matchAll, threatsForServicePattern, List.foldl_cons, List.foldl_nil,
    List.mem_flatMap, List.mem_singleton, exists_eq_left, mem_readRow_nodes, mem_readRow_keep,
    mem_readRow_follow, mem_readRow_optional]
  constructor
  · rintro ⟨_, ⟨_, ⟨_, ⟨_, ⟨n, hn, rfl⟩, m, hm, rfl⟩, kept, rfl⟩, v, rfl, hv⟩, c, rfl, hc⟩
    obtain ⟨linked, -⟩ := (mem_reached_forth loaded rfl).mp hm
    obtain ⟨⟨technique, other⟩, hpair, rfl, rfl⟩ := targets_iff.mp linked
    have found := isText_iff.mp kept
    rw [value_of_node rfl] at found
    obtain rfl : other = service := by
      simpa using (property_name (loaded.ends linked).2).symm.trans found
    obtain ⟨⟨threat, hthreat, rfl⟩, ⟨vuln, hvuln, exploits⟩, control, hcontrol, mitigates⟩ :=
      targeting _ hpair
    obtain ⟨n, hn, rfl⟩ := hv.exists_of_mem ((mem_reached_forth loaded rfl).mpr
      ⟨exploits_iff.mpr ⟨vuln, hvuln, _, exploits, rfl, rfl⟩, rfl⟩)
    obtain ⟨linked, -⟩ := (mem_reached_forth loaded rfl).mp hn
    obtain ⟨vuln, hvuln, technique, exploits, same, rfl⟩ := exploits_iff.mp linked
    obtain ⟨n, hn, rfl⟩ := hc.exists_of_mem ((mem_reached_back loaded rfl).mpr
      ⟨mitigates_iff.mpr ⟨control, hcontrol, _, mitigates, rfl, rfl⟩, rfl⟩)
    obtain ⟨linked, -⟩ := (mem_reached_back loaded rfl).mp hn
    obtain ⟨control, hcontrol, again, mitigates, rfl, same'⟩ := mitigates_iff.mp linked
    obtain rfl : threat.techniqueId = technique := by simpa [Loader.named] using same
    obtain rfl : threat.techniqueId = again := by simpa [Loader.named] using same'
    exact ⟨threat, ⟨hthreat, hpair⟩, vuln, hvuln, exploits, control, hcontrol, mitigates, rfl⟩
  · rintro ⟨threat, ⟨hthreat, hpair⟩, vuln, hvuln, exploits, control, hcontrol, mitigates, rfl⟩
    have linked : Linked events listed ⟨Loader.named .threat threat.techniqueId, .targets,
        Loader.named .service service⟩ := targets_iff.mpr ⟨_, hpair, rfl, rfl⟩
    refine ⟨_, ⟨_, ⟨_, ⟨_, ⟨_, mem_labelled.mpr ⟨(loaded.ends linked).1, rfl⟩, rfl⟩,
      _, (mem_reached_forth loaded rfl).mpr ⟨linked, rfl⟩, rfl⟩, ?_, rfl⟩, _, rfl, ?_⟩,
      _, rfl, ?_⟩
    · rw [isText_iff, value_of_node rfl]
      exact property_name (loaded.ends linked).2
    · exact (mem_reached_forth loaded rfl).mpr
        ⟨exploits_iff.mpr ⟨vuln, hvuln, _, exploits, rfl, rfl⟩, rfl⟩
    · exact (mem_reached_back loaded rfl).mpr
        ⟨mitigates_iff.mpr ⟨control, hcontrol, _, mitigates, rfl, rfl⟩, rfl⟩

/-- The columns of such a match. -/
theorem column_threatsForService {threat : LoadSecurityKnowledge.Threat}
    {vuln : LoadSecurityKnowledge.Vulnerability} {control : LoadSecurityKnowledge.Control}
    {service : Str} {row : Bindings Char Name} (targets : Targets service threat)
    (hvuln : vuln ∈ LoadSecurityKnowledge.vulnerabilities)
    (exploits : threat.techniqueId ∈ vuln.threats)
    (hcontrol : control ∈ LoadSecurityKnowledge.controls)
    (mitigates : threat.techniqueId ∈ control.threats)
    (bound : row = threatBindings threat vuln control service) :
    threatsForServiceKey (namesOf events listed times) row =
        (some threat.techniqueId, some threat.name, some threat.tactic) ∧
      column (namesOf events listed times) row 'v' .name = some vuln.name ∧
        column (namesOf events listed times) row 'c' .name = some control.name := by
  have technique := (loaded.ends (exploits_iff.mpr ⟨vuln, hvuln, _, exploits, rfl, rfl⟩)).1
  have weakness := (loaded.ends (exploits_iff.mpr ⟨vuln, hvuln, _, exploits, rfl, rfl⟩)).2
  have mitigation := (loaded.ends (mitigates_iff.mpr ⟨control, hcontrol, _, mitigates, rfl, rfl⟩)).1
  have threatNode : row.node 't' = some (Loader.named .threat threat.techniqueId) := by
    rw [bound]; rfl
  refine ⟨?_, ?_, ?_⟩
  · have described := property_threat loaded targets.1 technique
    rw [threatsForServiceKey, column_of_node threatNode, column_of_node threatNode,
      column_of_node threatNode, described.1, described.2]
    exact congrArg (fun id => (id, _, _)) (congrArg textOf (property_name technique))
  · rw [column_of_node (by rw [bound]; rfl), property_vulnerability loaded hvuln weakness]
    rfl
  · rw [column_of_node (by rw [bound]; rfl), property_control loaded hcontrol mitigation]
    rfl

/-- The row of a technique. -/
theorem exposed_row {service : Str} {threat : LoadSecurityKnowledge.Threat}
    (targets : Targets service threat) {rows : List (Bindings Char Name)}
    (members : ∀ row, row ∈ rows ↔
      ∃ vuln ∈ LoadSecurityKnowledge.vulnerabilities, threat.techniqueId ∈ vuln.threats ∧
        ∃ control ∈ LoadSecurityKnowledge.controls, threat.techniqueId ∈ control.threats ∧
          row = threatBindings threat vuln control service) :
    Exposed threat (threatsForServiceRow (namesOf events listed times)
      ((some threat.techniqueId, some threat.name, some threat.tactic), rows)) := by
  obtain ⟨-, ⟨vuln, hvuln, exploits⟩, control, hcontrol, mitigates⟩ := targeting _ targets.2
  refine ⟨rfl, rfl, rfl, fun text => ?_, fun text => ?_⟩
  · rw [threatsForServiceRow, mem_texts_collected]
    constructor
    · rintro ⟨row, hrow, held⟩
      obtain ⟨other, hother, exploits, _, hcontrol, mitigates, bound⟩ := (members row).mp hrow
      have columns :=
        column_threatsForService loaded targets hother exploits hcontrol mitigates bound
      exact ⟨other, hother, exploits, Option.some.inj (columns.2.1.symm.trans held)⟩
    · rintro ⟨other, hother, exploits, rfl⟩
      exact ⟨_, (members _).mpr ⟨other, hother, exploits, control, hcontrol, mitigates, rfl⟩,
        (column_threatsForService loaded targets hother exploits hcontrol mitigates rfl).2.1⟩
  · rw [threatsForServiceRow, mem_texts_collected]
    constructor
    · rintro ⟨row, hrow, held⟩
      obtain ⟨_, hvuln, exploits, other, hother, mitigates, bound⟩ := (members row).mp hrow
      have columns := column_threatsForService loaded targets hvuln exploits hother mitigates bound
      exact ⟨other, hother, mitigates, Option.some.inj (columns.2.2.symm.trans held)⟩
    · rintro ⟨other, hother, mitigates, rfl⟩
      exact ⟨_, (members _).mpr ⟨vuln, hvuln, exploits, other, hother, mitigates, rfl⟩,
        (column_threatsForService loaded targets hvuln exploits hother mitigates rfl).2.2⟩

/-- The rows that the matches make. -/
theorem exposure_of_matches {service : Str} {matched : List (Bindings Char Name)}
    (matches_ : ∀ row, row ∈ matched ↔ ∃ threat, Targets service threat ∧
      ∃ vuln ∈ LoadSecurityKnowledge.vulnerabilities, threat.techniqueId ∈ vuln.threats ∧
        ∃ control ∈ LoadSecurityKnowledge.controls, threat.techniqueId ∈ control.threats ∧
          row = threatBindings threat vuln control service) :
    Exposure service ((grouped (threatsForServiceKey (namesOf events listed times)) matched).map
      (threatsForServiceRow (namesOf events listed times))) := by
  -- a group is made of the matches of one technique
  have members {threat : LoadSecurityKnowledge.Threat} (targets : Targets service threat)
      (row : Bindings Char Name) :
      row ∈ matched.filter (fun row => threatsForServiceKey (namesOf events listed times) row =
          (some threat.techniqueId, some threat.name, some threat.tactic)) ↔
        ∃ vuln ∈ LoadSecurityKnowledge.vulnerabilities, threat.techniqueId ∈ vuln.threats ∧
          ∃ control ∈ LoadSecurityKnowledge.controls, threat.techniqueId ∈ control.threats ∧
            row = threatBindings threat vuln control service := by
    rw [List.mem_filter, decide_eq_true_eq, matches_]
    constructor
    · rintro ⟨⟨other, targeted, vuln, hvuln, exploits, control, hcontrol, mitigates, bound⟩, key⟩
      have columns :=
        column_threatsForService loaded targeted hvuln exploits hcontrol mitigates bound
      have same : other.techniqueId = threat.techniqueId :=
        Option.some.inj (congrArg (·.1) (columns.1.symm.trans key))
      obtain rfl := List.inj_on_of_nodup_map nodup_techniqueIds targeted.1 targets.1 same
      exact ⟨vuln, hvuln, exploits, control, hcontrol, mitigates, bound⟩
    · rintro ⟨vuln, hvuln, exploits, control, hcontrol, mitigates, bound⟩
      exact ⟨⟨threat, targets, vuln, hvuln, exploits, control, hcontrol, mitigates, bound⟩,
        (column_threatsForService loaded targets hvuln exploits hcontrol mitigates bound).1⟩
  constructor
  · intro row hrow
    obtain ⟨⟨key, group⟩, hgroup, rfl⟩ := List.mem_map.mp hrow
    obtain ⟨⟨made, hmade, rfl⟩, rfl⟩ := mem_grouped.mp hgroup
    obtain ⟨threat, targets, vuln, hvuln, exploits, control, hcontrol, mitigates, bound⟩ :=
      (matches_ made).mp hmade
    rw [(column_threatsForService loaded targets hvuln exploits hcontrol mitigates bound).1]
    exact ⟨threat, targets, exposed_row loaded targets (members targets)⟩
  · intro threat targets
    obtain ⟨-, ⟨vuln, hvuln, exploits⟩, control, hcontrol, mitigates⟩ := targeting _ targets.2
    refine ⟨_, List.mem_map_of_mem (mem_grouped.mpr ⟨⟨_, (matches_ _).mpr
      ⟨threat, targets, vuln, hvuln, exploits, control, hcontrol, mitigates, rfl⟩,
      (column_threatsForService loaded targets hvuln exploits hcontrol mitigates rfl).1⟩, rfl⟩), ?_⟩
    exact exposed_row loaded targets (members targets)
  · rw [List.map_map, grouped, List.map_map]
    exact (List.map_id _).symm ▸ nodup_distinct _

/-- q3 returns the techniques that target a service. -/
theorem exposure_threatsForService (service : Str) :
    Exposure service (threatsForService g.view service) := by
  rw [threatsForService_embeds loaded.represents.embeds, threatsForService]
  have exposure := exposure_of_matches loaded fun row =>
    @mem_threatsForServiceMatches _ _ _ _ loaded service row
  exact exposure.perm (perm_sortedBy _ _).symm

end ThreatsForService

/-- **What a service is exposed to**: whatever the events, q3 returns a row for every technique
that targets the service, with all it exploits and all that mitigates it, and no others. -/
theorem load_threatsForService [UnicodeDb] (ids : AlertIds) (digest : Digest)
    (clock now : Datetime) (store : EventStore) (keyed : List Alert)
    (sources : List (Str × List Write))
    (hnow : latestMoment clock store = .ok now)
    (hkeyed : stableAlerts ids digest store now = .ok keyed)
    (hsources : collectWrites ids digest clock store = .ok sources) (service : Str) :
    Exposure service (threatsForService (load sources).view service) := by
  obtain ⟨times, loaded⟩ := exists_loadedFrom hnow hkeyed hsources
  exact exposure_threatsForService loaded service

theorem load_threatsForService_burst : letI := printsAll
    ∃ sources, collectWrites (fun _ => alertIdTag) burstDigest anHourLater burst = .ok sources ∧
      ∀ service, Exposure service (threatsForService (load sources).view service) := by
  let _ := printsAll
  obtain ⟨keyed, sources, hkeyed, hsources⟩ := exists_load_burst
  exact ⟨sources, hsources,
    load_threatsForService _ _ _ _ _ _ _ latestMoment_burst hkeyed hsources⟩

end SentinelIR.Rag.StoredQueries
