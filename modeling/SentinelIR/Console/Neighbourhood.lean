/-
# The neighbourhood of an alert

The graph screen draws what lies around one alert: every relationship one hop from it, those of
the technique it indicates except to other alerts, and the users behind the events it was raised
on. The statement runs on the stored graph, where nodes are positions; what it draws of a loaded
graph is said by names.
-/

import SentinelIR.Rag.LoadedQueries

namespace SentinelIR.Console

open SentinelIR.Py hiding Value
open SentinelIR.Graph SentinelIR.Loader SentinelIR.Loader.LoadEvents SentinelIR.Common
  SentinelIR.Alerts SentinelIR.Collector SentinelIR.Rules SentinelIR.Rag.StoredQueries

/-- `(i)-[r]-()`. -/
def touches (i : Nat) (r : Edge Relation) : Bool := r.source = i || r.target = i

/-- `(i)-[r]-(m) WHERE NOT m:Alert`. -/
def leadsOn (g : KnowledgeGraph) (i : Nat) (r : Edge Relation) : Bool :=
  r.source = i && !g.hasLabel .alert r.target || r.target = i && !g.hasLabel .alert r.source

/-- The techniques `(a)-[:INDICATES]->(:Threat)`, by the relationship that leads there. -/
def indicated (g : KnowledgeGraph) (a : Nat) : List (Edge Relation) :=
  g.edges.filter fun e => e.source = a && e.relation = .indicates && g.hasLabel .threat e.target

/-- The events `(a)<-[:CREATED_ALERT]-(:Event)`, by the relationship that leads there. -/
def causes (g : KnowledgeGraph) (a : Nat) : List (Edge Relation) :=
  g.edges.filter fun e => e.target = a && e.relation = .createdAlert && g.hasLabel .event e.source

/-- What the three branches of `_NEIGHBOURHOOD` find; one match takes no relationship twice. -/
def branches (g : KnowledgeGraph) (a : Nat) : List (Edge Relation) :=
  g.edges.filter (touches a) ++
    (indicated g a).flatMap (fun e => g.edges.filter fun r => r ≠ e && leadsOn g e.target r) ++
    (causes g a).flatMap fun e => g.edges.filter fun r =>
      r ≠ e && r.target = e.source && r.relation = .triggered && g.hasLabel .user r.source

/-- `_NEIGHBOURHOOD` before its limit. -/
def around (g : KnowledgeGraph) (alertId : Str) : List (Edge Relation) :=
  distinct ((g.find .alert .alertId (.text alertId)).flatMap (branches g))

/-- The rows the database may return: with more relationships than the limit any 200 of them,
and in any order. -/
structure Answers (g : KnowledgeGraph) (alertId : Str) (rows : List (Edge Relation)) : Prop where
  once : rows.Nodup
  found : rows ⊆ around g alertId
  limited : rows.length = min 200 (around g alertId).length

/-- What is drawn: nodes by position, the alert among them, and the relationships. -/
structure Picture where
  centre : Nat
  nodes : List Nat
  links : List (Edge Relation)

/-- What `neighbourhood` comes to while Neo4j answers. -/
inductive Shown
  /-- `ValidationError`. -/
  | required
  /-- `NotFoundError`. -/
  | unknown
  /-- `StopIteration`: none of the nodes is the alert. -/
  | uncentred
  | picture (drawn : Picture)

/-- `neighbourhood`, on the rows of the database. -/
def neighbourhood (g : KnowledgeGraph) (alertId : Str) (rows : List (Edge Relation)) : Shown :=
  if strip alertId = [] then .required
  else if rows = [] then .unknown
  else
    let nodes := distinct (rows.flatMap fun r => [r.source, r.target])
    match nodes.find? fun i => (g.find .alert .alertId (.text alertId)).contains i with
    | some centre => .picture ⟨centre, nodes, rows⟩
    | none => .uncentred

/-- The node at a position bears the name. -/
def Bears (g : KnowledgeGraph) (i : Nat) (n : Name) : Prop :=
  i ∈ g.find n.label (keyOf n.label) n.value

/-- The relationship is the link. -/
def Draws (g : KnowledgeGraph) (r : Edge Relation) (l : Link Label Relation Loader.Value) : Prop :=
  Bears g r.source l.source ∧ r.relation = l.relation ∧ Bears g r.target l.target

/-- The link is one hop from the alert, or one hop from a technique it indicates and not to
another alert, or from a user to an event that created it. -/
def Near (held : Link Label Relation Loader.Value → Prop) (alert : Name)
    (l : Link Label Relation Loader.Value) : Prop :=
  (l.source = alert ∨ l.target = alert) ∨
  (∃ threat : Name, threat.label = .threat ∧ held ⟨alert, .indicates, threat⟩ ∧
    (l.source = threat ∧ l.target.label ≠ .alert ∨ l.target = threat ∧ l.source.label ≠ .alert)) ∨
  ∃ event : Name, event.label = .event ∧ held ⟨event, .createdAlert, alert⟩ ∧
    l.target = event ∧ l.relation = .triggered ∧ l.source.label = .user

section Represented

variable {g : KnowledgeGraph} {k : KeyedGraph Label Relation Property Loader.Value}

theorem bears_iff (h : Represents keyOf g k) {i : Nat} {n : Name} :
    Bears g i n ↔ n ∈ k.nodes ∧ i = k.nodes.idxOf n := by
  rw [Bears, h.find_key]
  split
  case isTrue held => simp [held]
  case isFalse absent => simp [absent]

/-- The relationships of a represented graph are its links. -/
theorem draws_iff (h : Represents keyOf g k) {l : Link Label Relation Loader.Value}
    {r : Edge Relation} (there : r ∈ g.edges) :
    Draws g r l ↔ l ∈ k.links ∧ r = position k.nodes l := by
  rw [Draws, bears_iff h, bears_iff h]
  constructor
  · rintro ⟨⟨source, first⟩, relation, target, second⟩
    have same : r = position k.nodes l := by
      obtain ⟨i, ρ, j⟩ := r
      simp_all [position]
    refine ⟨h.joined_iff.mp ?_, same⟩
    rw [Graph.Joined, h.find_key, h.find_key, if_pos source, if_pos target]
    exact ⟨_, List.mem_singleton_self _, _, List.mem_singleton_self _, by
      rw [same] at there
      exact there⟩
  · rintro ⟨held, rfl⟩
    have ends := h.ends l held
    exact ⟨⟨ends.1, rfl⟩, rfl, ends.2, rfl⟩

theorem mem_edges (h : Represents keyOf g k) {r : Edge Relation} :
    r ∈ g.edges ↔ ∃ l ∈ k.links, position k.nodes l = r := by
  rw [h.edges, List.mem_map]

theorem position_inj (h : Represents keyOf g k) {l m : Link Label Relation Loader.Value}
    (hl : l ∈ k.links) (same : position k.nodes l = position k.nodes m) : l = m := by
  have ends := h.ends l hl
  obtain ⟨source, relation, target⟩ := l
  obtain ⟨source', relation', target'⟩ := m
  simp only [position, Edge.mk.injEq] at same
  obtain rfl := (List.idxOf_inj ends.1).mp same.1
  obtain rfl := (List.idxOf_inj ends.2).mp same.2.2
  obtain rfl := same.2.1
  rfl

section Branches

variable {A : Name} {l : Link Label Relation Loader.Value}

theorem touches_iff (h : Represents keyOf g k) (hl : l ∈ k.links) {n : Name} :
    touches (k.nodes.idxOf n) (position k.nodes l) = true ↔ l.source = n ∨ l.target = n := by
  have ends := h.ends l hl
  simp only [touches, position, Bool.or_eq_true, decide_eq_true_eq, List.idxOf_inj ends.1,
    List.idxOf_inj ends.2]

theorem leadsOn_iff (h : Represents keyOf g k) (hl : l ∈ k.links) {n : Name} :
    leadsOn g (k.nodes.idxOf n) (position k.nodes l) = true ↔
      l.source = n ∧ l.target.label ≠ .alert ∨ l.target = n ∧ l.source.label ≠ .alert := by
  have ends := h.ends l hl
  simp only [leadsOn, position, Bool.or_eq_true, Bool.and_eq_true, decide_eq_true_eq,
    Bool.not_eq_true', List.idxOf_inj ends.1, List.idxOf_inj ends.2, h.hasLabel, ends.1, ends.2,
    true_and, decide_eq_false_iff_not]

/-- The relationships that lead from the alert to its techniques. -/
theorem mem_indicated (h : Represents keyOf g k) {e : Edge Relation} :
    e ∈ indicated g (k.nodes.idxOf A) ↔ ∃ threat : Name, threat.label = .threat ∧
      (⟨A, .indicates, threat⟩ : Link Label Relation Loader.Value) ∈ k.links ∧
        e = position k.nodes ⟨A, .indicates, threat⟩ := by
  rw [indicated, List.mem_filter, mem_edges h]
  constructor
  · rintro ⟨⟨m, hm, rfl⟩, kept⟩
    have ends := h.ends m hm
    obtain ⟨source, relation, target⟩ := m
    simp only [position, Bool.and_eq_true, decide_eq_true_eq, List.idxOf_inj ends.1,
      h.hasLabel] at kept
    obtain ⟨⟨rfl, same⟩, -, labelled⟩ := kept
    obtain rfl := of_decide_eq_true same
    exact ⟨target, labelled, hm, rfl⟩
  · rintro ⟨threat, labelled, held, rfl⟩
    have ends := h.ends _ held
    refine ⟨⟨_, held, rfl⟩, ?_⟩
    simp [position, h.hasLabel, ends.2, labelled]

/-- The relationships that lead from the alert back to its events. -/
theorem mem_causes (h : Represents keyOf g k) {e : Edge Relation} :
    e ∈ causes g (k.nodes.idxOf A) ↔ ∃ event : Name, event.label = .event ∧
      (⟨event, .createdAlert, A⟩ : Link Label Relation Loader.Value) ∈ k.links ∧
        e = position k.nodes ⟨event, .createdAlert, A⟩ := by
  rw [causes, List.mem_filter, mem_edges h]
  constructor
  · rintro ⟨⟨m, hm, rfl⟩, kept⟩
    have ends := h.ends m hm
    obtain ⟨source, relation, target⟩ := m
    simp only [position, Bool.and_eq_true, decide_eq_true_eq, List.idxOf_inj ends.2,
      h.hasLabel] at kept
    obtain ⟨⟨rfl, same⟩, -, labelled⟩ := kept
    obtain rfl := of_decide_eq_true same
    exact ⟨source, labelled, hm, rfl⟩
  · rintro ⟨event, labelled, held, rfl⟩
    have ends := h.ends _ held
    refine ⟨⟨_, held, rfl⟩, ?_⟩
    simp [position, h.hasLabel, ends.1, labelled]

/-- The three branches, by names. -/
theorem mem_branches (h : Represents keyOf g k) (alert : A.label = .alert) (hl : l ∈ k.links) :
    position k.nodes l ∈ branches g (k.nodes.idxOf A) ↔ Near (· ∈ k.links) A l := by
  have there : position k.nodes l ∈ g.edges := (mem_edges h).mpr ⟨l, hl, rfl⟩
  have ends := h.ends l hl
  rw [branches, List.mem_append, List.mem_append, or_assoc, Near]
  refine or_congr ?_ (or_congr ?_ ?_)
  · rw [List.mem_filter, touches_iff h hl]
    exact and_iff_right there
  · rw [List.mem_flatMap]
    constructor
    · rintro ⟨e, he, kept⟩
      obtain ⟨threat, labelled, held, rfl⟩ := (mem_indicated h).mp he
      obtain ⟨-, kept⟩ := List.mem_filter.mp kept
      exact ⟨threat, labelled, held, (leadsOn_iff h hl).mp (Bool.and_eq_true_iff.mp kept).2⟩
    · rintro ⟨threat, labelled, held, leads⟩
      refine ⟨_, (mem_indicated h).mpr ⟨threat, labelled, held, rfl⟩,
        List.mem_filter.mpr ⟨there, Bool.and_eq_true_iff.mpr ⟨?_, (leadsOn_iff h hl).mpr leads⟩⟩⟩
      -- The relationship the technique was reached by leads back to the alert.
      apply decide_eq_true
      intro same
      obtain rfl := position_inj h hl same
      rcases leads with ⟨source, -⟩ | ⟨-, other⟩
      · exact absurd ((congrArg Ref.label source).symm.trans alert) (by rw [labelled]; decide)
      · exact other alert
  · rw [List.mem_flatMap]
    constructor
    · rintro ⟨e, he, kept⟩
      obtain ⟨event, labelled, held, rfl⟩ := (mem_causes h).mp he
      obtain ⟨-, kept⟩ := List.mem_filter.mp kept
      simp only [position, Bool.and_eq_true, decide_eq_true_eq, List.idxOf_inj ends.2,
        h.hasLabel] at kept
      exact ⟨event, labelled, held, kept.1.1.2, of_decide_eq_true kept.1.2, kept.2.2⟩
    · rintro ⟨event, labelled, held, rfl, triggers, user⟩
      refine ⟨_, (mem_causes h).mpr ⟨_, labelled, held, rfl⟩, List.mem_filter.mpr ⟨there, ?_⟩⟩
      simp [position, h.hasLabel, triggers, user, ends.1]

/-- What lies around an alert, by names. -/
theorem mem_around (h : Represents keyOf g k) {alertId : Str} (hl : l ∈ k.links) :
    position k.nodes l ∈ around g alertId ↔ Near (· ∈ k.links) (alertName alertId) l := by
  have found := h.find_key (alertName alertId)
  rw [around, mem_distinct]
  change position k.nodes l ∈ List.flatMap (branches g) (g.find (alertName alertId).label
    (keyOf (alertName alertId).label) (alertName alertId).value) ↔ _
  rw [found]
  split
  case isTrue held =>
      rw [List.flatMap_singleton]
      exact mem_branches h rfl hl
  case isFalse absent =>
      refine iff_of_false List.not_mem_nil ?_
      rintro ((source | target) | ⟨threat, -, held, -⟩ | ⟨event, -, held, -⟩)
      · exact absent (source ▸ (h.ends l hl).1)
      · exact absent (target ▸ (h.ends l hl).2)
      · exact absent (h.ends _ held).1
      · exact absent (h.ends _ held).2

end Branches

theorem around_subset {alertId : Str} : around g alertId ⊆ g.edges := by
  intro r hr
  obtain ⟨a, -, hr⟩ := List.mem_flatMap.mp (mem_distinct.mp hr)
  rcases List.mem_append.mp hr with hr | hr
  · rcases List.mem_append.mp hr with hr | hr
    · exact (List.mem_filter.mp hr).1
    · obtain ⟨e, -, hr⟩ := List.mem_flatMap.mp hr
      exact (List.mem_filter.mp hr).1
  · obtain ⟨e, -, hr⟩ := List.mem_flatMap.mp hr
    exact (List.mem_filter.mp hr).1

/-! ## The picture -/

/-- With at most as many relationships as the limit, all of them are returned. -/
theorem Answers.mem_iff {alertId : Str} {rows : List (Edge Relation)}
    (answers : Answers g alertId rows) (few : (around g alertId).length ≤ 200)
    {r : Edge Relation} : r ∈ rows ↔ r ∈ around g alertId := by
  have all : (around g alertId).length ≤ rows.length := by
    rw [answers.limited, min_eq_right few]
  exact ((List.subperm_of_subset answers.once answers.found).perm_of_length_le all).mem_iff

theorem Answers.eq_nil_iff {alertId : Str} {rows : List (Edge Relation)}
    (answers : Answers g alertId rows) : rows = [] ↔ around g alertId = [] := by
  rw [← List.length_eq_zero_iff, ← List.length_eq_zero_iff, answers.limited]
  omega

end Represented

section Loaded

variable {events : List SecurityEvent} {listed : List Alert} {times : Dict Str Micros}
  {g : KnowledgeGraph}

/-- Every listed alert indicates a technique. -/
theorem exists_indicates (loaded : LoadedFrom events listed times g) {alert : Alert}
    (halert : alert ∈ listed) :
    ∃ threat : Name, Linked events listed ⟨alertName alert.alertId, .indicates, threat⟩ := by
  obtain ⟨rule, ruled⟩ := loaded.ruled alert halert
  obtain ⟨threat, hthreat, detected, -⟩ := exists_threat rule
  exact ⟨_, .indicates halert hthreat (detected.trans (congrArg some ruled.symm))⟩

/-- What the screen shows of an alert: that it is unknown when it is not listed, and otherwise,
if the limit does not cut it off, the alert, the links around it and the nodes at their ends. -/
structure Charted (events : List SecurityEvent) (listed : List Alert) (g : KnowledgeGraph)
    (alertId : Str) (shown : Shown) : Prop where
  unknown : shown = .unknown ↔ ∀ alert ∈ listed, alert.alertId ≠ alertId
  drawn : (around g alertId).length ≤ 200 → (∃ alert ∈ listed, alert.alertId = alertId) →
    ∃ picture, shown = .picture picture ∧ Bears g picture.centre (alertName alertId) ∧
      picture.centre ∈ picture.nodes ∧ picture.nodes.Nodup ∧ picture.links.Nodup ∧
      (∀ i, i ∈ picture.nodes ↔ ∃ r ∈ picture.links, i = r.source ∨ i = r.target) ∧
      ∀ l, (∃ r ∈ picture.links, Draws g r l) ↔
        Linked events listed l ∧ Near (Linked events listed) (alertName alertId) l

/-- Something lies around the listed alerts, and around nothing else. -/
theorem around_eq_nil_iff (loaded : LoadedFrom events listed times g) {alertId : Str} :
    around g alertId = [] ↔ ∀ alert ∈ listed, alert.alertId ≠ alertId := by
  have h := loaded.represents
  constructor
  · rintro none alert halert rfl
    obtain ⟨threat, linked⟩ := exists_indicates loaded halert
    have held := loaded.mem_links_iff.mpr linked
    have drawn := (mem_around h held).mpr (.inl (.inl rfl))
    rw [none] at drawn
    cases drawn
  · intro unlisted
    rw [List.eq_nil_iff_forall_not_mem]
    intro r hr
    obtain ⟨a, found, -⟩ := List.mem_flatMap.mp (mem_distinct.mp hr)
    have held := ((bears_iff h (n := alertName alertId)).mp found).1
    rcases loaded.node_cases held with other | ⟨alert, halert, same⟩ | ⟨entity, -, same⟩
    · exact other List.mem_cons_self
    · exact unlisted alert halert (Value.text.inj (Ref.mk.inj same).2).symm
    · cases same

/-- At most as much is drawn as there are links that may lie around the alert. -/
theorem length_around_le (loaded : LoadedFrom events listed times g) {alertId : Str}
    {drawn : List (Link Label Relation Loader.Value)}
    (covers : ∀ l, Linked events listed l → l ∈ drawn) :
    (around g alertId).length ≤ drawn.length := by
  have among : around g alertId ⊆ drawn.map (position (graphOf events listed times).nodes) := by
    intro r hr
    obtain ⟨l, hl, rfl⟩ := (mem_edges loaded.represents).mp (around_subset hr)
    exact List.mem_map_of_mem (covers l (loaded.mem_links_iff.mp hl))
  have fits := (List.subperm_of_subset (nodup_distinct _) among).length_le
  rwa [List.length_map] at fits

/-- The links drawn, by names. -/
theorem exists_draws_iff (loaded : LoadedFrom events listed times g) {alertId : Str}
    {rows : List (Edge Relation)} (all : ∀ {r}, r ∈ rows ↔ r ∈ around g alertId)
    {l : Link Label Relation Loader.Value} :
    (∃ r ∈ rows, Draws g r l) ↔
      Linked events listed l ∧ Near (Linked events listed) (alertName alertId) l := by
  have h := loaded.represents
  have links : (fun l => l ∈ (graphOf events listed times).links) = Linked events listed :=
    funext fun _ => propext loaded.mem_links_iff
  rw [← links]
  constructor
  · rintro ⟨r, hr, draws⟩
    have near := all.mp hr
    obtain ⟨held, rfl⟩ := (draws_iff h (around_subset near)).mp draws
    exact ⟨held, (mem_around h held).mp near⟩
  · rintro ⟨held, near⟩
    have drawn := (mem_around h held).mpr near
    exact ⟨_, all.mpr drawn, (draws_iff h (around_subset drawn)).mpr ⟨held, rfl⟩⟩

theorem charted_neighbourhood (loaded : LoadedFrom events listed times g) {alertId : Str}
    (visible : strip alertId ≠ []) {rows : List (Edge Relation)}
    (answers : Answers g alertId rows) :
    Charted events listed g alertId (neighbourhood g alertId rows) := by
  have empty : rows = [] ↔ ∀ alert ∈ listed, alert.alertId ≠ alertId :=
    answers.eq_nil_iff.trans (around_eq_nil_iff loaded)
  rw [neighbourhood, if_neg visible]
  by_cases none : rows = []
  · rw [if_pos none]
    refine ⟨iff_of_true rfl (empty.mp none), fun _ => ?_⟩
    rintro ⟨alert, halert, same⟩
    exact absurd same (empty.mp none alert halert)
  rw [if_neg none]
  dsimp only
  have ends {i : Nat} : i ∈ distinct (rows.flatMap fun r => [r.source, r.target]) ↔
      ∃ r ∈ rows, i = r.source ∨ i = r.target := by
    simp only [mem_distinct, List.mem_flatMap, List.mem_cons, List.not_mem_nil, or_false]
  cases centred : (distinct (rows.flatMap fun r => [r.source, r.target])).find?
      fun i => (g.find .alert .alertId (.text alertId)).contains i with
  | some centre =>
      refine ⟨iff_of_false (by rintro ⟨⟩) (mt empty.mpr none), fun few _ => ⟨_, rfl, ?_⟩⟩
      exact ⟨List.contains_iff_mem.mp (List.find?_some centred), List.mem_of_find?_eq_some centred,
        nodup_distinct _, answers.once, fun i => ends, fun l =>
          exists_draws_iff loaded (answers.mem_iff few)⟩
  | none =>
      refine ⟨iff_of_false (by rintro ⟨⟩) (mt empty.mpr none), fun few => ?_⟩
      rintro ⟨alert, halert, rfl⟩
      -- The link to the technique has the alert at its source, so the search finds it.
      obtain ⟨threat, linked⟩ := exists_indicates loaded halert
      obtain ⟨r, hr, source, -⟩ := (exists_draws_iff loaded (answers.mem_iff few)).mpr
        ⟨linked, .inl (.inl rfl)⟩
      have missed := List.find?_eq_none.mp centred _ (ends.mpr ⟨r, hr, .inl rfl⟩)
      exact absurd (List.contains_iff_mem.mpr source) missed

end Loaded

/-- **The picture of an alert**: of the graph a load leaves, the screen draws what lies around a
listed alert, whatever order the database returns it in, and knows no other alert. -/
theorem load_neighbourhood [UnicodeDb] (ids : AlertIds) (digest : Digest) (clock now : Datetime)
    (store : EventStore) (keyed : List Alert) (sources : List (Str × List Write))
    (hnow : latestMoment clock store = .ok now)
    (hkeyed : stableAlerts ids digest store now = .ok keyed)
    (hsources : collectWrites ids digest clock store = .ok sources)
    (alertId : Str) (visible : strip alertId ≠ []) (rows : List (Edge Relation))
    (answers : Answers (load sources) alertId rows) :
    Charted store.events ((AlertStore.empty.extend keyed).1.list none none none) (load sources)
      alertId (neighbourhood (load sources) alertId rows) := by
  obtain ⟨times, loaded⟩ := exists_loadedFrom hnow hkeyed hsources
  exact charted_neighbourhood loaded visible answers

/-- Without more than 200 relationships all of them are the answer. -/
theorem answers_around {g : KnowledgeGraph} {alertId : Str}
    (few : (around g alertId).length ≤ 200) : Answers g alertId (around g alertId) where
  once := nodup_distinct _
  found := List.Subset.refl _
  limited := (min_eq_right few).symm

/-- The links the burst can leave. -/
def burstLinks : List (Link Label Relation Loader.Value) :=
  fixedLinks ++
    burst.events.flatMap (fun event =>
      [⟨eventName event.eventId, .generatedBy, named .service event.serviceName.value⟩,
        ⟨eventName event.eventId, .targeted, named .endpoint (endpointStem event.endpoint)⟩,
        ⟨named .user "root", .triggered, eventName event.eventId⟩,
        ⟨eventName event.eventId, .createdAlert, alertName "alt-43a3c96dda78"⟩]) ++
      LoadSecurityKnowledge.threats.map fun threat =>
        ⟨alertName "alt-43a3c96dda78", .indicates, named .threat threat.techniqueId⟩

/-- The burst has users and no incidents, and raised alerts under one identifier only. -/
theorem mem_burstLinks {listed : List Alert}
    (single : ∀ alert ∈ listed, alert.alertId = "alt-43a3c96dda78")
    (cited : ∀ alert ∈ listed, ∀ eventId ∈ alert.relatedEvents,
      ∃ event ∈ burst.events, event.eventId = eventId)
    {l : Link Label Relation Loader.Value} (linked : Linked burst.events listed l) :
    l ∈ burstLinks := by
  have users : ∀ event ∈ burst.events, triggeredBy event = some "root" := by decide +kernel
  have assets : ∀ event ∈ burst.events, accessedBy event = none := by decide +kernel
  have quiet : ∀ event ∈ burst.events, incidentOf event = none := by decide +kernel
  have uncreated {entity : Str} {created : SecurityEvent} :
      creation burst.events entity ≠ some created := by
    intro creates
    obtain ⟨held, about⟩ := of_creation creates
    rw [quiet created held] at about
    cases about
  simp only [burstLinks, List.mem_append, List.mem_flatMap, List.mem_cons, List.mem_map,
    List.not_mem_nil, or_false]
  cases linked with
  | fixed held => exact .inl (.inl held)
  | generatedBy held => exact .inl (.inr ⟨_, held, .inl rfl⟩)
  | targeted held => exact .inl (.inr ⟨_, held, .inr (.inl rfl)⟩)
  | accessed held access =>
      rw [assets _ held] at access
      cases access
  | triggered held trigger =>
      obtain rfl := Option.some.inj ((users _ held).symm.trans trigger)
      exact .inl (.inr ⟨_, held, .inr (.inr (.inl rfl))⟩)
  | createdAlert held hcited =>
      obtain ⟨event, hevent, rfl⟩ := cited _ held _ hcited
      rw [single _ held]
      exact .inl (.inr ⟨_, hevent, .inr (.inr (.inr rfl))⟩)
  | concerns held about =>
      rw [quiet _ held] at about
      cases about
  | affects creates => exact absurd creates uncreated
  | contains creates => exact absurd creates uncreated
  | indicates held known =>
      rw [single _ held]
      exact .inr ⟨_, known, rfl⟩

/-- The alert about the burst is listed, and a picture of it is drawn. -/
theorem load_neighbourhood_burst : letI := printsAll
    ∃ keyed sources,
      stableAlerts (fun _ => alertIdTag) burstDigest burst (second 5).time = .ok keyed ∧
      collectWrites (fun _ => alertIdTag) burstDigest anHourLater burst = .ok sources ∧
      Charted burst.events ((AlertStore.empty.extend keyed).1.list none none none) (load sources)
        "alt-43a3c96dda78" (neighbourhood (load sources) "alt-43a3c96dda78"
          (around (load sources) "alt-43a3c96dda78")) ∧
      ∃ picture, neighbourhood (load sources) "alt-43a3c96dda78"
          (around (load sources) "alt-43a3c96dda78") = .picture picture ∧
        Bears (load sources) picture.centre (alertName "alt-43a3c96dda78") := by
  have small : burstLinks.length ≤ 200 := by decide +kernel
  have hover : (Subject.account "root").Over (second 5).time burst.events := by decide +kernel
  let _ := printsAll
  obtain ⟨keyed, sources, hkeyed, hsources⟩ := exists_load_burst
  obtain ⟨times, loaded⟩ := exists_loadedFrom latestMoment_burst hkeyed hsources
  have single : ∀ alert ∈ (AlertStore.empty.extend keyed).1.list none none none,
      alert.alertId = "alt-43a3c96dda78" := by
    intro alert halert
    obtain ⟨k, found⟩ := AlertStore.mem_list_extend.mp halert
    exact alertId_burst keyed hkeyed alert (List.mem_reverse.mp (List.mem_of_find?_eq_some found))
  have listed : ∃ alert ∈ (AlertStore.empty.extend keyed).1.list none none none,
      alert.alertId = "alt-43a3c96dda78" := by
    obtain ⟨kept, held, -⟩ := exists_held hover
    obtain ⟨alert, halert, -⟩ := (exists_listed_iff hkeyed fun _ => True).mpr
      ⟨kept, (heldUnder_iff burstDigest_injective).mpr held, trivial⟩
    exact ⟨alert, halert, single alert halert⟩
  have few : (around (load sources) "alt-43a3c96dda78").length ≤ 200 :=
    (length_around_le loaded fun l => mem_burstLinks single loaded.cited).trans small
  have charted := load_neighbourhood _ _ _ _ _ _ _ latestMoment_burst hkeyed hsources
    "alt-43a3c96dda78" (by decide +kernel) _ (answers_around few)
  obtain ⟨picture, drawn, centred, -⟩ := charted.drawn few listed
  exact ⟨keyed, sources, hkeyed, hsources, charted, picture, drawn, centred⟩

end SentinelIR.Console
