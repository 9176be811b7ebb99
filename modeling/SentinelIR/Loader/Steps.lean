/-
# The writes as steps on a keyed graph

Every label of the knowledge graph has one key, and every statement the loaders
write is one of the steps of a keyed graph: it makes a node, joins two nodes, or
joins the alerts of a rule to a technique.
-/

import SentinelIR.Graph.Named
import SentinelIR.Loader.LoadEvents
import SentinelIR.Loader.LoadSecurityKnowledge
import SentinelIR.Loader.LoadTopology

namespace SentinelIR.Loader

open SentinelIR.Py SentinelIR.Graph SentinelIR.Common SentinelIR.Alerts SentinelIR.Collector

/-- The key property of each label. -/
def keyOf : Label → Property
  | .user => .username
  | .service => .name
  | .endpoint => .path
  | .asset => .name
  | .event => .eventId
  | .alert => .alertId
  | .incident => .incidentId
  | .threat => .techniqueId
  | .control => .controlId
  | .vulnerability => .vulnId
  | .role => .name
  | .document => .docId

/-- A node of the knowledge graph, by its label and its key. -/
abbrev Name := Ref Label Value

/-- A step on the knowledge graph. -/
abbrev LoaderStep := Step Label Relation Property Value

/-- The node with this label and this text as its key. -/
def named (label : Label) (key : Str) : Name := ⟨label, .text key⟩

/-- The step of a statement that has one of the loaders' shapes. -/
def stepOf : List LoaderClause → Option LoaderStep
  | [.mergeNode _ l _ v] => some (.node ⟨l, v⟩ [])
  | [.mergeNode _ l _ v, .setProps _ assignments] => some (.node ⟨l, v⟩ assignments)
  | [.mergeNode x l _ v, .matchNode _ m _ w, .mergeEdge a r _] =>
      some (.link (true, ⟨l, v⟩) (false, ⟨m, w⟩)
        (if a = x then ⟨⟨l, v⟩, r, ⟨m, w⟩⟩ else ⟨⟨m, w⟩, r, ⟨l, v⟩⟩))
  | [.matchNode x l _ v, .mergeNode _ m _ w, .mergeEdge a r _] =>
      some (.link (false, ⟨l, v⟩) (true, ⟨m, w⟩)
        (if a = x then ⟨⟨l, v⟩, r, ⟨m, w⟩⟩ else ⟨⟨m, w⟩, r, ⟨l, v⟩⟩))
  | [.matchNode x l key v, .matchNode _ m _ w, .mergeEdge a r _] =>
      if key = keyOf l then
        some (.link (false, ⟨l, v⟩) (false, ⟨m, w⟩)
          (if a = x then ⟨⟨l, v⟩, r, ⟨m, w⟩⟩ else ⟨⟨m, w⟩, r, ⟨l, v⟩⟩))
      else some (.linkWhere l key v r ⟨m, w⟩)
  | _ => none

/-- The write's statement does this step. -/
structure Write.Does (write : Write) (step : LoaderStep) : Prop where
  read : stepOf write.statement = some step
  implements : Implements keyOf write.statement step

/-- The steps of some writes, in order. -/
def stepsOf (writes : List Write) : List LoaderStep := writes.filterMap fun w => stepOf w.statement

theorem stepsOf_append (front back : List Write) :
    stepsOf (front ++ back) = stepsOf front ++ stepsOf back := List.filterMap_append

/-- Every write has a step. -/
def AllDo (writes : List Write) : Prop := ∀ write ∈ writes, ∃ step, write.Does step

theorem allDo_append {front back : List Write} :
    AllDo (front ++ back) ↔ AllDo front ∧ AllDo back := List.forall_mem_append

/-- Writes that all have steps run as their steps. -/
theorem implements_stepsOf {writes : List Write} (all : AllDo writes) :
    List.Forall₂ (Implements keyOf) (writes.map (·.statement)) (stepsOf writes) := by
  induction writes with
  | nil => exact .nil
  | cons write rest ih =>
      obtain ⟨step, does⟩ := all write List.mem_cons_self
      have split : stepsOf (write :: rest) = step :: stepsOf rest :=
        List.filterMap_cons_some does.read
      rw [split, List.map_cons]
      exact .cons does.implements
        (ih fun other hother => all other (List.mem_cons_of_mem write hother))

/-! ## The four shapes -/

section Shapes

variable {x y : Char} {label other : Label} {key value : Str} {relation : Relation} {loader : Str}

/-- `MERGE … SET …`. -/
theorem does_node {assignments : List (Property × Option Value)}
    (free : keyOf label ∉ assignments.map Prod.fst) :
    (⟨[mergeBy x label (keyOf label) key, .setProps x assignments], loader⟩ : Write).Does
      (.node (named label key) assignments) :=
  ⟨rfl, .node x (named label key) assignments free⟩

/-- `MERGE`. -/
theorem does_bare :
    (⟨[mergeBy x label (keyOf label) key], loader⟩ : Write).Does (.node (named label key) []) :=
  ⟨rfl, .bare x (named label key)⟩

/-- `MATCH … MATCH … MERGE …`. -/
theorem does_join (apart : x ≠ y) :
    (⟨[matchBy x label (keyOf label) key, matchBy y other (keyOf other) value,
        .mergeEdge x relation y], loader⟩ : Write).Does
      (.link (false, named label key) (false, named other value)
        ⟨named label key, relation, named other value⟩) :=
  ⟨by simp [stepOf, matchBy, named],
    .forth x y apart (false, named label key) (false, named other value) relation⟩

/-- `MERGE … MATCH … MERGE …`, from the matched node to the merged one. -/
theorem does_joinBack (apart : x ≠ y) :
    (⟨[mergeBy x label (keyOf label) key, matchBy y other (keyOf other) value,
        .mergeEdge y relation x], loader⟩ : Write).Does
      (.link (true, named label key) (false, named other value)
        ⟨named other value, relation, named label key⟩) :=
  ⟨by simp [stepOf, mergeBy, matchBy, named, apart.symm],
    .back x y apart (true, named label key) (false, named other value) relation⟩

/-- `MERGE … MATCH … MERGE …`, from the merged node to the matched one. -/
theorem does_joinForth (apart : x ≠ y) :
    (⟨[mergeBy x label (keyOf label) key, matchBy y other (keyOf other) value,
        .mergeEdge x relation y], loader⟩ : Write).Does
      (.link (true, named label key) (false, named other value)
        ⟨named label key, relation, named other value⟩) :=
  ⟨by simp [stepOf, mergeBy, matchBy, named],
    .forth x y apart (true, named label key) (false, named other value) relation⟩

/-- `MATCH … MERGE … MERGE …`. -/
theorem does_joinNew (apart : x ≠ y) :
    (⟨[matchBy x label (keyOf label) key, mergeBy y other (keyOf other) value,
        .mergeEdge x relation y], loader⟩ : Write).Does
      (.link (false, named label key) (true, named other value)
        ⟨named label key, relation, named other value⟩) :=
  ⟨by simp [stepOf, mergeBy, matchBy, named],
    .forth x y apart (false, named label key) (true, named other value) relation⟩

/-- The edges of every alert of a rule. -/
theorem does_every {rule technique : Str} :
    (⟨[matchBy 'a' .alert .ruleName rule, matchBy 't' .threat .techniqueId technique,
        .mergeEdge 'a' .indicates 't'], loader⟩ : Write).Does
      (.linkWhere .alert .ruleName (.text rule) .indicates (named .threat technique)) :=
  ⟨rfl, .every 'a' 't' (by decide) Label.alert Property.ruleName (.text rule) Relation.indicates
    (named .threat technique) (by decide)⟩

end Shapes

/-! ## Laying nodes before joining them -/

/-- The writes all have steps of one kind, match only nodes that are known or laid
by an earlier one of them, and lay these nodes. -/
structure Lays (kind : LoaderStep → Prop) (known : List Name) (writes : List Write)
    (names : List Name) : Prop where
  all : AllDo writes
  kind : ∀ step ∈ stepsOf writes, kind step
  grounded : Grounded known (stepsOf writes)
  lays : names ⊆ (stepsOf writes).flatMap Step.merged

namespace Lays

variable {kind : LoaderStep → Prop} {known names : List Name}

theorem single {write : Write} {step : LoaderStep} (does : write.Does step) (kinded : kind step)
    (matched : step.matched ⊆ known) : Lays kind known [write] step.merged := by
  have steps : stepsOf [write] = [step] := List.filterMap_cons_some does.read
  constructor
  · intro other hother
    rw [List.mem_singleton.mp hother]
    exact ⟨step, does⟩
  · rw [steps]
    intro other hother
    rw [List.mem_singleton.mp hother]
    exact kinded
  · rw [steps]
    exact ⟨matched, trivial⟩
  · rw [steps, List.flatMap_cons, List.flatMap_nil, List.append_nil]
    exact List.Subset.refl _

theorem nil : Lays kind known [] [] where
  all := by rintro write ⟨⟩
  kind := by rintro step ⟨⟩
  grounded := trivial
  lays := List.Subset.refl _

theorem mono {writes : List Write} {more fewer : List Name} (h : Lays kind known writes names)
    (subset : known ⊆ more) (less : fewer ⊆ names) : Lays kind more writes fewer where
  all := h.all
  kind := h.kind
  grounded := h.grounded.mono subset
  lays := List.Subset.trans less h.lays

/-- Writes whose names nothing later needs. -/
theorem nameless {writes : List Write} (h : Lays kind known writes names) :
    Lays kind known writes [] :=
  h.mono (List.Subset.refl _) (List.nil_subset _)

theorem append {front back : List Write} {others : List Name} (first : Lays kind known front names)
    (second : Lays kind (known ++ names) back others) :
    Lays kind known (front ++ back) (names ++ others) where
  all := allDo_append.mpr ⟨first.all, second.all⟩
  kind := by
    rw [stepsOf_append]
    exact List.forall_mem_append.mpr ⟨first.kind, second.kind⟩
  grounded := by
    rw [stepsOf_append, grounded_append]
    refine ⟨first.grounded, second.grounded.mono ?_⟩
    exact List.append_subset.mpr ⟨List.subset_append_left _ _,
      fun n hn => List.mem_append_right _ (first.lays hn)⟩
  lays := by
    rw [stepsOf_append, List.flatMap_append]
    exact List.append_subset.mpr ⟨fun n hn => List.mem_append_left _ (first.lays hn),
      fun n hn => List.mem_append_right _ (second.lays hn)⟩

/-- Writes after those that lay the nodes. -/
theorem andThen {writes later : List Write} (first : Lays kind known writes names)
    (second : Lays kind (known ++ names) later []) : Lays kind known (writes ++ later) names :=
  (first.append second).mono (List.Subset.refl _) (List.subset_append_left _ _)

theorem flatMap {α : Type} {xs : List α} {f : α → List Write} {laid : α → List Name}
    (each : ∀ x ∈ xs, Lays kind known (f x) (laid x)) :
    Lays kind known (xs.flatMap f) (xs.flatMap laid) := by
  induction xs with
  | nil => exact nil
  | cons x rest ih =>
      rw [List.flatMap_cons, List.flatMap_cons]
      exact (each x List.mem_cons_self).append
        ((ih fun y hy => each y (List.mem_cons_of_mem x hy)).mono (List.subset_append_left _ _)
          (List.Subset.refl _))

theorem map {α : Type} {xs : List α} {f : α → Write} {laid : α → List Name}
    (each : ∀ x ∈ xs, Lays kind known [f x] (laid x)) :
    Lays kind known (xs.map f) (xs.flatMap laid) := by
  rw [List.map_eq_flatMap]
  exact flatMap each

theorem filterMap {α : Type} {xs : List α} {f : α → Option Write}
    (each : ∀ x ∈ xs, ∀ write, f x = some write → Lays kind known [write] []) :
    Lays kind known (xs.filterMap f) [] := by
  induction xs with
  | nil => exact nil
  | cons x rest ih =>
      have later := ih fun y hy => each y (List.mem_cons_of_mem x hy)
      cases found : f x with
      | none =>
          rw [List.filterMap_cons_none found]
          exact later
      | some write =>
          rw [List.filterMap_cons_some found]
          exact (each x List.mem_cons_self write found).append
            (later.mono (List.subset_append_left _ _) (List.Subset.refl _))

theorem flatten {groups : List (List Write)} (each : ∀ writes ∈ groups, Lays kind known writes []) :
    Lays kind known groups.flatten [] := by
  have joined : Lays kind known (groups.flatMap id) (groups.flatMap fun _ => []) := flatMap each
  rw [List.flatten_eq_flatMap]
  exact joined.mono (List.Subset.refl _) (List.nil_subset _)

/-- One write, then the others, which know what it lays. -/
theorem cons {write : Write} {rest : List Write} {others : List Name}
    (first : Lays kind known [write] names) (later : Lays kind (known ++ names) rest others) :
    Lays kind known (write :: rest) (names ++ others) := append first later

end Lays

/-! ## Two kinds of step -/

/-- A step of the topology or of the events source: the only alerts it makes are
listed ones, with their rule, and it joins no alert to a technique. -/
def Plain (listed : List Alert) : LoaderStep → Prop
  | .node n assignments => n.label = .alert → ∃ alert ∈ listed, n = named .alert alert.alertId ∧
      Step.assigned n .ruleName (.node n assignments : LoaderStep) =
        some (some (.text alert.ruleName))
  | .link first second joined =>
      (∀ n ∈ (Step.link first second joined : LoaderStep).merged, n.label ≠ .alert) ∧
        joined.relation ≠ .indicates
  | .linkWhere _ _ _ _ _ => False

/-- A step of the knowledge source: it makes no alert, and it joins alerts to a
technique only by the rule that detects it. -/
def Late : LoaderStep → Prop
  | .node n _ => n.label ≠ .alert
  | .link first second joined =>
      (∀ n ∈ (Step.link first second joined : LoaderStep).merged, n.label ≠ .alert) ∧
        joined.relation ≠ .indicates
  | .linkWhere label key value relation target =>
      ∃ threat ∈ LoadSecurityKnowledge.threats, ∃ rule, threat.rule = some rule ∧ label = .alert ∧
        key = .ruleName ∧ value = .text rule ∧ relation = .indicates ∧
          target = named .threat threat.techniqueId

theorem plain_node {listed : List Alert} {label : Label} {key : Str}
    {assignments : List (Property × Option Value)} (other : label ≠ .alert) :
    Plain listed (.node (named label key) assignments) :=
  fun same => absurd same other

theorem plain_join {listed : List Alert} {first second source target : Name} {relation : Relation}
    (other : relation ≠ .indicates) :
    Plain listed (.link (false, first) (false, second) ⟨source, relation, target⟩) :=
  ⟨by rintro n ⟨⟩, other⟩

theorem plain_joinNew {listed : List Alert} {label : Label} {key : Str}
    {second source target : Name} {relation : Relation} (merged : label ≠ .alert)
    (other : relation ≠ .indicates) :
    Plain listed (.link (true, named label key) (false, second) ⟨source, relation, target⟩) := by
  refine ⟨fun n hn => ?_, other⟩
  rw [List.mem_singleton.mp hn]
  exact merged

namespace Lays

variable {known : List Name} {listed : List Alert} {x y : Char} {label other : Label}
  {key value : Str} {relation : Relation} {loader : Str}

/-- `MERGE … SET …`, of a node that is no alert. -/
theorem plainNode {assignments : List (Property × Option Value)} (unlisted : label ≠ .alert)
    (free : keyOf label ∉ assignments.map Prod.fst) :
    Lays (Plain listed) known
      [⟨[mergeBy x label (keyOf label) key, .setProps x assignments], loader⟩]
      [named label key] :=
  .single (does_node free) (plain_node unlisted) (List.nil_subset _)

/-- `MATCH … MATCH … MERGE …`, of two known nodes. -/
theorem plainJoin (apart : x ≠ y) (drawn : relation ≠ .indicates)
    (source : named label key ∈ known) (target : named other value ∈ known) :
    Lays (Plain listed) known
      [⟨[matchBy x label (keyOf label) key, matchBy y other (keyOf other) value,
        .mergeEdge x relation y], loader⟩] [] :=
  (Lays.single (does_join apart) (plain_join drawn)
    (List.cons_subset.mpr ⟨source, List.cons_subset.mpr ⟨target, List.nil_subset _⟩⟩)).nameless

/-- `MERGE … MATCH … MERGE …`, from a known node to a new one. -/
theorem plainJoinBack (apart : x ≠ y) (unlisted : label ≠ .alert) (drawn : relation ≠ .indicates)
    (source : named other value ∈ known) :
    Lays (Plain listed) known
      [⟨[mergeBy x label (keyOf label) key, matchBy y other (keyOf other) value,
        .mergeEdge y relation x], loader⟩] [] :=
  (Lays.single (does_joinBack apart) (plain_joinNew unlisted drawn)
    (List.cons_subset.mpr ⟨source, List.nil_subset _⟩)).nameless

/-- `MERGE … MATCH … MERGE …`, from a new node to a known one. -/
theorem plainJoinForth (apart : x ≠ y) (unlisted : label ≠ .alert) (drawn : relation ≠ .indicates)
    (target : named other value ∈ known) :
    Lays (Plain listed) known
      [⟨[mergeBy x label (keyOf label) key, matchBy y other (keyOf other) value,
        .mergeEdge x relation y], loader⟩] [] :=
  (Lays.single (does_joinForth apart) (plain_joinNew unlisted drawn)
    (List.cons_subset.mpr ⟨target, List.nil_subset _⟩)).nameless

/-- `MERGE … SET …` of the knowledge source. -/
theorem lateNode {assignments : List (Property × Option Value)} (unlisted : label ≠ .alert)
    (free : keyOf label ∉ assignments.map Prod.fst) :
    Lays Late known [⟨[mergeBy x label (keyOf label) key, .setProps x assignments], loader⟩]
      [named label key] :=
  .single (does_node free) unlisted (List.nil_subset _)

/-- `MATCH … MATCH … MERGE …` of the knowledge source. -/
theorem lateJoin (apart : x ≠ y) (drawn : relation ≠ .indicates)
    (source : named label key ∈ known) (target : named other value ∈ known) :
    Lays Late known
      [⟨[matchBy x label (keyOf label) key, matchBy y other (keyOf other) value,
        .mergeEdge x relation y], loader⟩] [] :=
  (Lays.single (does_join apart) ⟨by rintro n ⟨⟩, drawn⟩
    (List.cons_subset.mpr ⟨source, List.cons_subset.mpr ⟨target, List.nil_subset _⟩⟩)).nameless

end Lays

theorem Plain.direct {listed : List Alert} {step : LoaderStep} (plain : Plain listed step) :
    step.Direct := by
  cases step with
  | node => trivial
  | link => trivial
  | linkWhere => exact plain

theorem Late.apart {step : LoaderStep} (late : Late step) : step.Apart .alert := by
  cases step with
  | node n assignments =>
      intro m hm
      rw [List.mem_singleton.mp hm]
      exact late
  | link first second joined => exact late.1
  | linkWhere label key value relation target =>
      obtain ⟨threat, -, rule, -, labelled, -⟩ := late
      exact labelled

/-! ## The topology -/

namespace LoadTopology

variable {listed : List Alert}

theorem lays_mergeService (service : Service) (known : List Name) :
    Lays (Plain listed) known [mergeService service] [named .service service.name] :=
  .plainNode (by decide) (by simp [keyOf])

theorem lays_mergeEndpoint {endpoint : Endpoint} {known : List Name}
    (served : named .service endpoint.service ∈ known) :
    Lays (Plain listed) known (mergeEndpoint endpoint) [named .endpoint endpoint.path] := by
  unfold mergeEndpoint
  refine .cons (.plainNode (by decide) (by simp [keyOf]))
    (.plainJoin (by decide) (by decide) ?_ ?_)
  · exact List.mem_append_left _ served
  · exact List.mem_append_right _ (List.mem_singleton_self _)

theorem lays_mergeDependency {dependency : Str × Str} {known : List Name}
    (caller : named .service dependency.1 ∈ known) (callee : named .service dependency.2 ∈ known) :
    Lays (Plain listed) known [mergeDependency dependency] [] :=
  .plainJoin (by decide) (by decide) caller callee

theorem lays_mergeUser (user : User) (known : List Name) :
    Lays (Plain listed) known (mergeUser user) [] := by
  unfold mergeUser
  refine (Lays.cons (.plainNode (by decide) (by simp [keyOf]))
    (Lays.cons (.single does_bare (plain_node (by decide)) (List.nil_subset _))
      (.plainJoin (by decide) (by decide) ?_ ?_))).nameless
  · exact List.mem_append_left _ (List.mem_append_right _ (List.mem_singleton_self _))
  · exact List.mem_append_right _ (List.mem_singleton_self _)

theorem lays_mergeAsset (asset : Asset) (known : List Name) :
    Lays (Plain listed) known [mergeAsset asset] [] :=
  (Lays.plainNode (by decide) (by simp [keyOf])).nameless

/-- Every endpoint and every dependency names a service of the list. -/
theorem service_known {service : Str} (listed : service ∈ services.map (·.name)) :
    named .service service ∈ services.flatMap fun s => [named .service s.name] := by
  obtain ⟨held, hheld, rfl⟩ := List.mem_map.mp listed
  exact List.mem_flatMap.mpr ⟨held, hheld, List.mem_singleton_self _⟩

theorem lays_topology : Lays (Plain listed) [] topology [] := by
  have served : ∀ endpoint ∈ endpoints, endpoint.service ∈ services.map (·.name) := by decide
  have depended : ∀ dependency ∈ dependencies, dependency.1 ∈ services.map (·.name) ∧
      dependency.2 ∈ services.map (·.name) := by decide
  have first : Lays (Plain listed) [] (services.map mergeService) _ :=
    .map fun service _ => lays_mergeService service []
  refine ((((first.append (.flatMap fun endpoint hendpoint => lays_mergeEndpoint ?_)).append
    (.map fun dependency hdependency => lays_mergeDependency ?_ ?_)).append
    (.flatMap fun user _ => lays_mergeUser user _)).append
    (.map fun asset _ => lays_mergeAsset asset _)).nameless
  · exact service_known (served endpoint hendpoint)
  · exact List.mem_append_right _
      (List.mem_append_left _ (service_known (depended dependency hdependency).1))
  · exact List.mem_append_right _
      (List.mem_append_left _ (service_known (depended dependency hdependency).2))

end LoadTopology

/-! ## Security knowledge -/

namespace LoadSecurityKnowledge

/-- The names of the techniques and of the controls. -/
def techniqueNames : List Name := threats.map fun threat => named .threat threat.techniqueId

@[inherit_doc techniqueNames]
def controlNames : List Name := controls.map fun control => named .control control.controlId

theorem technique_known {technique : Str} (listed : technique ∈ threats.map (·.techniqueId)) :
    named .threat technique ∈ techniqueNames := by
  obtain ⟨threat, hthreat, rfl⟩ := List.mem_map.mp listed
  exact List.mem_map_of_mem hthreat

theorem control_known {control : Str} (listed : control ∈ controls.map (·.controlId)) :
    named .control control ∈ controlNames := by
  obtain ⟨held, hheld, rfl⟩ := List.mem_map.mp listed
  exact List.mem_map_of_mem hheld

theorem lays_mergeThreats : Lays Late [] mergeThreats techniqueNames := by
  rw [techniqueNames, List.map_eq_flatMap]
  exact .map fun threat _ =>
    .lateNode (by decide) (by simp [keyOf])

theorem lays_mergeSubtechniques {known : List Name} (subset : techniqueNames ⊆ known) :
    Lays Late known mergeSubtechniques [] := by
  have listed : ∀ pair ∈ subtechniques, pair.1 ∈ threats.map (·.techniqueId) ∧
      pair.2 ∈ threats.map (·.techniqueId) := by decide
  refine (Lays.map fun pair hpair => .lateJoin (by decide) (by decide) ?_ ?_).nameless
  · exact subset (technique_known (listed pair hpair).1)
  · exact subset (technique_known (listed pair hpair).2)

theorem lays_mergeThreatTargets {known : List Name} (subset : techniqueNames ⊆ known) :
    Lays Late known mergeThreatTargets [] := by
  have listed : ∀ pair ∈ threatTargets, pair.1 ∈ threats.map (·.techniqueId) := by decide
  refine (Lays.map fun pair hpair => .single (does_joinNew (by decide)) ?_ ?_).nameless
  · simp [Late, Step.merged, named]
  · have technique := subset (technique_known (listed pair hpair))
    simp [Step.matched, technique]

theorem lays_mergeVulnerabilities {known : List Name} (subset : techniqueNames ⊆ known) :
    Lays Late known mergeVulnerabilities [] := by
  have listed : ∀ vuln ∈ vulnerabilities, ∀ technique ∈ vuln.threats,
      technique ∈ threats.map (·.techniqueId) := by decide
  refine (Lays.flatMap fun vuln hvuln => Lays.cons (.lateNode (by decide) (by simp [keyOf]))
    (.map fun technique htechnique => .lateJoin (by decide) (by decide) ?_ ?_)).nameless
  · exact List.mem_append_left _
      (subset (technique_known (listed vuln hvuln technique htechnique)))
  · exact List.mem_append_right _ (List.mem_singleton_self _)

theorem lays_mergeControls {known : List Name} (subset : techniqueNames ⊆ known) :
    Lays Late known mergeControls controlNames := by
  have listed : ∀ control ∈ controls, ∀ technique ∈ control.threats,
      technique ∈ threats.map (·.techniqueId) := by decide
  refine (Lays.flatMap fun control hcontrol => Lays.cons
    (.lateNode (by decide) (by simp [keyOf]))
    (.map fun technique htechnique => .lateJoin (by decide) (by decide) ?_ ?_)).mono
    (List.Subset.refl _) ?_
  · exact List.mem_append_right _ (List.mem_singleton_self _)
  · exact List.mem_append_left _
      (subset (technique_known (listed control hcontrol technique htechnique)))
  · intro n hn
    obtain ⟨control, hcontrol, rfl⟩ := List.mem_map.mp hn
    exact List.mem_flatMap.mpr ⟨control, hcontrol,
      List.mem_append_left _ (List.mem_singleton_self _)⟩

theorem lays_mergeDocuments {known : List Name} (techniques : techniqueNames ⊆ known)
    (controlled : controlNames ⊆ known) : Lays Late known mergeDocuments [] := by
  have listed : ∀ doc ∈ documents, doc.describes ∈ controls.map (·.controlId) ∧
      ∀ technique ∈ doc.respondsTo, technique ∈ threats.map (·.techniqueId) := by decide
  refine (Lays.flatMap fun doc hdoc => Lays.cons (.lateNode (by decide) (by simp [keyOf]))
    (Lays.cons (.lateJoin (by decide) (by decide) ?_ ?_)
      (.map fun technique htechnique => .lateJoin (by decide) (by decide) ?_ ?_))).nameless
  · exact List.mem_append_right _ (List.mem_singleton_self _)
  · exact List.mem_append_left _ (controlled (control_known (listed doc hdoc).1))
  · exact List.mem_append_left _ (List.mem_append_right _ (List.mem_singleton_self _))
  · exact List.mem_append_left _ (List.mem_append_left _
      (techniques (technique_known ((listed doc hdoc).2 technique htechnique))))

theorem lays_ruleThreatLinks {known : List Name} (subset : techniqueNames ⊆ known) :
    Lays Late known ruleThreatLinks [] := by
  refine .filterMap fun threat hthreat write hwrite => ?_
  obtain ⟨rule, hrule, rfl⟩ := Option.map_eq_some_iff.mp hwrite
  refine .single does_every ⟨threat, hthreat, rule, hrule, rfl, rfl, rfl, rfl, rfl⟩ ?_
  intro n hn
  rw [List.mem_singleton.mp hn]
  exact subset (List.mem_map_of_mem hthreat)

theorem lays_knowledge : Lays Late [] knowledge [] := by
  refine ((((((lays_mergeThreats.append (lays_mergeSubtechniques ?_)).append
    (lays_mergeThreatTargets ?_)).append (lays_mergeVulnerabilities ?_)).append
    (lays_mergeControls ?_)).append (lays_mergeDocuments ?_ ?_)).append
    (lays_ruleThreatLinks ?_)).nameless
  all_goals
    intro n hn
    simp [hn]

end LoadSecurityKnowledge

/-! ## Events, alerts and incidents -/

namespace LoadEvents

variable {known : List Name} {listed : List Alert}

/-- The node of an event, of an alert, of an incident. -/
def eventName (eventId : Str) : Name := named .event eventId

@[inherit_doc eventName]
def alertName (alertId : Str) : Name := named .alert alertId

@[inherit_doc eventName]
def incidentName (incidentId : Str) : Name := named .incident incidentId

theorem lays_mergeEvent (event : SecurityEvent) (known : List Name) :
    Lays (Plain listed) known (mergeEvent event) [eventName event.eventId] := by
  have held : named .event event.eventId ∈ known ++ [eventName event.eventId] :=
    List.mem_append_right _ (List.mem_singleton_self _)
  unfold mergeEvent
  dsimp only
  refine ((Lays.andThen (.plainNode (by decide) (by simp [keyOf]))
    (Lays.cons (.plainJoinBack (by decide) (by decide) (by decide) held)
      (.plainJoinBack (by decide) (by decide) (by decide)
        (List.mem_append_left _ held)))).andThen ?_).andThen ?_
  · split
    · exact .plainJoinBack (by decide) (by decide) (by decide) held
    · exact Lays.nil
  · split
    · exact .plainJoinForth (by decide) (by decide) (by decide) held
    · exact Lays.nil

theorem lays_mergeAlert {alert : Alert} (halert : alert ∈ listed)
    (cited : ∀ eventId ∈ alert.relatedEvents, eventName eventId ∈ known) :
    Lays (Plain listed) known (mergeAlert alert) [alertName alert.alertId] := by
  unfold mergeAlert
  refine (Lays.cons (.single (does_node (by simp [keyOf]))
    (fun _ => ⟨alert, halert, rfl, by simp [Step.assigned, text]⟩) (List.nil_subset _))
    (.map fun eventId heventId => .plainJoin (by decide) (by decide) ?_ ?_)).mono
    (List.Subset.refl _) (List.subset_append_left _ _)
  · exact List.mem_append_left _ (cited eventId heventId)
  · exact List.mem_append_right _ (List.mem_singleton_self _)

theorem lays_containsWrite {incidentId : Str} {createdAt : Datetime} {times : Dict Str Micros}
    {alert : Alert} {writes : List Write} (hincident : incidentName incidentId ∈ known)
    (halert : alertName alert.alertId ∈ known)
    (hwrites : containsWrite incidentId createdAt times alert = .ok writes) :
    Lays (Plain listed) known writes [] := by
  unfold containsWrite at hwrites
  split at hwrites
  case isFalse =>
      obtain rfl := Except.ok.inj hwrites
      exact Lays.nil
  case isTrue =>
      cases hfound : anyE (inWindow createdAt) (alert.relatedEvents.filterMap times.get?) with
      | error raised => simp [hfound, Except.map] at hwrites
      | ok found =>
          rw [hfound] at hwrites
          obtain rfl := Except.ok.inj hwrites
          cases found with
          | false => exact Lays.nil
          | true => exact .plainJoin (by decide) (by decide) hincident halert

theorem lays_concernsWrite {incidentId : Str} {event : SecurityEvent}
    (hincident : incidentName incidentId ∈ known) (hevent : eventName event.eventId ∈ known) :
    Lays (Plain listed) known [concernsWrite incidentId event] [] :=
  .plainJoin (by decide : 'e' ≠ 'i') (by decide) hevent hincident

/-- The writes of one incident, over the events and the alerts. -/
theorem lays_incidentWrites {incidentId : Str} {first : SecurityEvent} {raised : List SecurityEvent}
    {alerts : List Alert} {times : Dict Str Micros} {writes : List Write}
    (hevents : ∀ event ∈ raised, eventName event.eventId ∈ known)
    (halerts : ∀ alert ∈ alerts, alertName alert.alertId ∈ known)
    (hwrites : incidentWrites incidentId first raised alerts times = .ok writes) :
    Lays (Plain listed) known writes [incidentName incidentId] := by
  unfold incidentWrites at hwrites
  obtain ⟨createdAt, -, hwrites⟩ := bind_eq_ok hwrites
  obtain ⟨grouped, hgrouped, hwrites⟩ := bind_eq_ok hwrites
  obtain rfl := Except.ok.inj hwrites
  have incident : incidentName incidentId ∈ known ++ [incidentName incidentId] :=
    List.mem_append_right _ (List.mem_singleton_self _)
  have node : Lays (Plain listed) known
      [incidentNode incidentId (createdOf first raised) (raised.getLast?.getD first)]
      [incidentName incidentId] :=
    .plainNode (by decide) (by simp [keyOf])
  have concerns : Lays (Plain listed) (known ++ [incidentName incidentId])
      (raised.map (concernsWrite incidentId)) [] := by
    have each : Lays (Plain listed) (known ++ [incidentName incidentId])
        (raised.map (concernsWrite incidentId)) (raised.flatMap fun _ => []) :=
      .map fun event hevent => lays_concernsWrite incident
        (List.mem_append_left _ (hevents event hevent))
    exact each.nameless
  have affects : Lays (Plain listed) (known ++ [incidentName incidentId])
      (affectsWrites incidentId (createdOf first raised).message) [] := by
    rw [affectsWrites]
    split
    · exact .plainJoinBack (by decide) (by decide) (by decide) incident
    · exact Lays.nil
  have contains : Lays (Plain listed) (known ++ [incidentName incidentId]) grouped.flatten [] := by
    apply Lays.flatten
    intro writes hwrites
    obtain ⟨alert, halert, hcontains⟩ := exists_of_mem_mapE hgrouped hwrites
    exact lays_containsWrite incident (List.mem_append_left _ (halerts alert halert)) hcontains
  exact ((node.andThen concerns).andThen affects).andThen contains

/-- The incidents of a store, over its events and the listed alerts. -/
theorem lays_incidents {store : EventStore} {alertStore : AlertStore}
    {collected : List SecurityEvent} {writes : List Write}
    (hcollected : store.allEvents = .ok collected)
    (hevents : ∀ event ∈ collected, eventName event.eventId ∈ known)
    (halerts : ∀ alert ∈ alertStore.list none none none, alertName alert.alertId ∈ known)
    (hwrites : incidents store alertStore = .ok writes) :
    Lays (Plain listed) known writes [] := by
  unfold incidents at hwrites
  rw [hcollected] at hwrites
  obtain ⟨events, hsame, hwrites⟩ := bind_eq_ok hwrites
  obtain rfl := Except.ok.inj hsame
  obtain ⟨again, -, hwrites⟩ := bind_eq_ok hwrites
  obtain ⟨times, -, hwrites⟩ := bind_eq_ok hwrites
  obtain ⟨groups, hgroups, hwrites⟩ := bind_eq_ok hwrites
  obtain rfl := Except.ok.inj hwrites
  apply Lays.flatten
  intro writes hwrites
  obtain ⟨⟨incidentId, raised⟩, hitem, hgroup⟩ := exists_of_mem_mapE hgroups hwrites
  have members := ((mem_groupBy incidentOf).mp (Dict.mem_sortedItems.mp hitem)).2
  have held : ∀ event ∈ raised, eventName event.eventId ∈ known := by
    intro event hevent
    rw [members] at hevent
    exact hevents event ((mem_sortedBy).mp (List.mem_filter.mp hevent).1)
  rw [groupWrites] at hgroup
  cases raised with
  | nil =>
      obtain rfl := Except.ok.inj hgroup
      exact Lays.nil
  | cons first rest =>
      exact (lays_incidentWrites held halerts hgroup).nameless

/-- The writes of the events source, when every listed alert cites events of the store. -/
theorem lays_events {store : EventStore} {alertStore : AlertStore} {collected : List SecurityEvent}
    {writes : List Write} (hcollected : store.allEvents = .ok collected)
    (cited : ∀ alert ∈ alertStore.list none none none, ∀ eventId ∈ alert.relatedEvents,
      ∃ event ∈ collected, event.eventId = eventId)
    (hwrites : LoadEvents.events store alertStore = .ok writes) :
    Lays (Plain (alertStore.list none none none)) [] writes [] := by
  unfold LoadEvents.events at hwrites
  rw [hcollected] at hwrites
  obtain ⟨events, hsame, hwrites⟩ := bind_eq_ok hwrites
  obtain rfl := Except.ok.inj hsame
  obtain ⟨raised, hraised, hwrites⟩ := bind_eq_ok hwrites
  obtain rfl := Except.ok.inj hwrites
  have named (event : SecurityEvent) (hevent : event ∈ collected) :
      eventName event.eventId ∈ collected.flatMap fun e => [eventName e.eventId] :=
    List.mem_flatMap.mpr ⟨event, hevent, List.mem_singleton_self _⟩
  have first : Lays (Plain (alertStore.list none none none)) [] (collected.flatMap mergeEvent)
      (collected.flatMap fun e => [eventName e.eventId]) :=
    .flatMap fun event _ => lays_mergeEvent event []
  have second := first.append (.flatMap fun alert halert => lays_mergeAlert halert
    fun eventId heventId => by
      obtain ⟨event, hevent, rfl⟩ := cited alert halert eventId heventId
      exact List.mem_append_right _ (named event hevent))
  refine (second.append (lays_incidents hcollected ?_ ?_ hraised)).nameless
  · intro event hevent
    exact List.mem_append_right _ (List.mem_append_left _ (named event hevent))
  · intro alert halert
    exact List.mem_append_right _ (List.mem_append_right _
      (List.mem_flatMap.mpr ⟨alert, halert, List.mem_singleton_self _⟩))

end LoadEvents

end SentinelIR.Loader
