/-
# The schema of the knowledge graph

The relationships the graph model names, between which labels, and the graphs that keep to
it: every edge is one of these, every node has the key of its label, and no two nodes of a
label share one. Every load keeps to it, whatever the events.
-/

import SentinelIR.Graph.Read
import SentinelIR.Loader.Contents

namespace SentinelIR.Loader

open SentinelIR.Py
open SentinelIR.Graph SentinelIR.Common SentinelIR.Alerts SentinelIR.Collector SentinelIR.Rules
  LoadEvents

/-- `RELATIONSHIPS`. -/
def relationships : List (Label × Relation × Label) :=
  [(.user, .triggered, .event), (.event, .generatedBy, .service), (.event, .targeted, .endpoint),
    (.event, .createdAlert, .alert), (.alert, .indicates, .threat), (.threat, .targets, .service),
    (.threat, .exploits, .vulnerability), (.threat, .subtechniqueOf, .threat),
    (.control, .mitigates, .threat), (.incident, .contains, .alert),
    (.incident, .affects, .asset), (.event, .accessed, .asset), (.event, .concerns, .incident),
    (.service, .dependsOn, .service), (.service, .exposes, .endpoint), (.user, .hasRole, .role),
    (.document, .describes, .control), (.document, .supportsResponseTo, .threat)]

/-- The graph keeps to the schema. -/
structure Conforms (g : KnowledgeGraph) : Prop where
  /-- Every edge joins two nodes in one of the relationships. -/
  related : ∀ e ∈ g.edges, ∃ source target, g.nodes[e.source]? = some source ∧
    g.nodes[e.target]? = some target ∧ (source.label, e.relation, target.label) ∈ relationships
  /-- No relationship is drawn twice. -/
  once : g.edges.Nodup
  /-- Every node has its key. -/
  keyed : ∀ node ∈ g.nodes, ∃ value, node.props.get? (keyOf node.label) = some value
  /-- The constraints of `schema.cypher`: a key names one node of its label. -/
  unique : ∀ (i j : Nat) node twin, g.nodes[i]? = some node → g.nodes[j]? = some twin →
    node.label = twin.label →
      node.props.get? (keyOf node.label) = twin.props.get? (keyOf twin.label) → i = j

/-- Every link of a loaded graph is in one of the relationships. -/
theorem related_of_linked {events : List SecurityEvent} {listed : List Alert}
    {l : Link Label Relation Value} (linked : Linked events listed l) :
    (l.source.label, l.relation, l.target.label) ∈ relationships := by
  have fixedRelated : ∀ l ∈ fixedLinks,
      (l.source.label, l.relation, l.target.label) ∈ relationships := by decide +kernel
  cases linked with
  | fixed held => exact fixedRelated l held
  | generatedBy => simp [relationships, eventName, named]
  | targeted => simp [relationships, eventName, named]
  | accessed => simp [relationships, eventName, named]
  | triggered => simp [relationships, eventName, named]
  | createdAlert => simp [relationships, eventName, alertName, named]
  | concerns => simp [relationships, eventName, incidentName, named]
  | affects => simp [relationships, incidentName, named]
  | contains => simp [relationships, incidentName, alertName, named]
  | indicates => simp [relationships, alertName, named]

/-- No run of steps asks twice for a link. -/
theorem nodup_links (k : KeyedGraph Label Relation Property Value) (steps : List LoaderStep)
    (nodup : k.links.Nodup) : (Step.runAll k steps).links.Nodup := by
  induction steps generalizing k with
  | nil => exact nodup
  | cons step rest ih => exact ih (step.run k) (nodup_foldl_appendNew nodup)

theorem LoadedFrom.conforms {events : List SecurityEvent} {listed : List Alert}
    {times : Dict Str Micros} {g : KnowledgeGraph}
    (loaded : LoadedFrom events listed times g) : Conforms g where
  related e he := by
    rw [loaded.represents.edges] at he
    obtain ⟨l, hl, rfl⟩ := List.mem_map.mp he
    have ends := loaded.represents.ends l hl
    have source := loaded.represents.stands_at l.source
    have target := loaded.represents.stands_at l.target
    rw [if_pos ends.1] at source
    rw [if_pos ends.2] at target
    obtain ⟨first, hfirst, named⟩ := source
    obtain ⟨second, hsecond, named'⟩ := target
    refine ⟨first, second, hfirst, hsecond, ?_⟩
    rw [named.label, named'.label]
    exact related_of_linked (loaded.mem_links_iff.mp hl)
  once := by
    rw [loaded.represents.edges]
    apply (nodup_links _ _ List.nodup_nil).map_on
    intro l hl m hm same
    have ends := loaded.represents.ends l hl
    simp only [position, Edge.mk.injEq] at same
    obtain ⟨source, relation, target⟩ := l
    obtain ⟨source', relation', target'⟩ := m
    obtain rfl := (List.idxOf_inj ends.1).mp same.1
    obtain rfl := (List.idxOf_inj ends.2).mp same.2.2
    obtain rfl := same.2.1
    rfl
  keyed node hnode := by
    obtain ⟨i, hi, rfl⟩ := List.mem_iff_getElem.mp hnode
    have hk : i < (graphOf events listed times).nodes.length := loaded.represents.length ▸ hi
    have stands := loaded.represents.stands i _ _ (List.getElem?_eq_getElem hi)
      (List.getElem?_eq_getElem hk)
    rw [stands.label, stands.props, if_pos rfl]
    exact ⟨_, rfl⟩
  unique i j node twin hnode htwin label value := by
    have hi := (List.getElem?_eq_some_iff.mp hnode).1
    have hj := (List.getElem?_eq_some_iff.mp htwin).1
    rw [loaded.represents.length] at hi hj
    have first := loaded.represents.stands i _ _ hnode (List.getElem?_eq_getElem hi)
    have second := loaded.represents.stands j _ _ htwin (List.getElem?_eq_getElem hj)
    have labels := first.label.symm.trans (label.trans second.label)
    have values : (graphOf events listed times).nodes[i].value =
        (graphOf events listed times).nodes[j].value := by
      rw [first.label, first.props, if_pos rfl, second.label, second.props, if_pos rfl] at value
      exact Option.some.inj value
    have same : (graphOf events listed times).nodes[i] =
        (graphOf events listed times).nodes[j] := by
      cases h : (graphOf events listed times).nodes[i]
      cases h' : (graphOf events listed times).nodes[j]
      simp_all
    exact (List.Nodup.getElem_inj_iff loaded.represents.nodup).mp same

/-- Whatever the events, a load keeps to the schema. -/
theorem load_conforms [UnicodeDb] (ids : AlertIds) (digest : Digest) (clock now : Datetime)
    (store : EventStore) (keyed : List Alert) (sources : List (Str × List Write))
    (hnow : latestMoment clock store = .ok now)
    (hkeyed : stableAlerts ids digest store now = .ok keyed)
    (hsources : collectWrites ids digest clock store = .ok sources) :
    Conforms (load sources) := by
  obtain ⟨times, loaded⟩ := exists_loadedFrom hnow hkeyed hsources
  exact loaded.conforms

theorem load_conforms_burst : letI := printsAll
    ∃ sources, collectWrites (fun _ => alertIdTag) burstDigest anHourLater burst = .ok sources ∧
      Conforms (load sources) := by
  let _ := printsAll
  obtain ⟨keyed, sources, hkeyed, hsources⟩ := exists_load_burst
  exact ⟨sources, hsources, load_conforms _ _ _ _ _ _ _ latestMoment_burst hkeyed hsources⟩

end SentinelIR.Loader
