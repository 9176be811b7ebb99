/-
# What a loaded graph contains

The links, the nodes and the properties of the graph a load leaves, read off the steps of
its writes: who triggered an event, which alerts it created, what an incident affects and
contains, and the knowledge, which is the same in every graph.
-/

import SentinelIR.Loader.IncidentNodes

namespace SentinelIR.Loader

open SentinelIR.Py SentinelIR.Graph SentinelIR.Common SentinelIR.Alerts SentinelIR.Collector
  SentinelIR.Rules LoadEvents

/-! ## Reading steps -/

/-- What is read of the steps of some writes. -/
def readSteps {α : Type} (read : LoaderStep → List α) (writes : List Write) : List α :=
  (stepsOf writes).flatMap read

/-- The link a step asks for by name. -/
def askedOf : LoaderStep → List (Link Label Relation Loader.Value)
  | .link _ _ l => [l]
  | _ => []

/-- What a step assigns to the node it merges. -/
def assignedOf : LoaderStep → List (Name × List (Property × Option Loader.Value))
  | .node n assignments => [(n, assignments)]
  | _ => []

section ReadSteps

variable {α β : Type} {read : LoaderStep → List α}

theorem readSteps_append (front back : List Write) :
    readSteps read (front ++ back) = readSteps read front ++ readSteps read back := by
  rw [readSteps, stepsOf_append, List.flatMap_append]
  rfl

theorem readSteps_flatMap (f : β → List Write) (xs : List β) :
    readSteps read (xs.flatMap f) = xs.flatMap fun x => readSteps read (f x) := by
  induction xs with
  | nil => rfl
  | cons x rest ih => rw [List.flatMap_cons, readSteps_append, ih, List.flatMap_cons]

theorem stepsOf_cons {write : Write} {step : LoaderStep} (does : write.Does step)
    (rest : List Write) : stepsOf (write :: rest) = step :: stepsOf rest :=
  List.filterMap_cons_some does.read

end ReadSteps

/-! ## The steps of a load -/

/-- The asset an event accessed. -/
def accessedBy (event : SecurityEvent) : Option Str :=
  if event.eventType = .assetAccessed then assetNamedIn event.message else none

/-- The user who triggered an event. -/
def triggeredBy (event : SecurityEvent) : Option Str := event.userId.filter (· ≠ [])

/-- The link an event has to a node of its own. -/
def eventLink (event : SecurityEvent) (relation : Relation) (target : Name) : LoaderStep :=
  .link (true, target) (false, eventName event.eventId)
    ⟨eventName event.eventId, relation, target⟩

/-- The steps of an event after its node. -/
def eventSteps (event : SecurityEvent) : List LoaderStep :=
  [eventLink event .generatedBy (named .service event.serviceName.value),
    eventLink event .targeted (named .endpoint (endpointStem event.endpoint))] ++
  ((accessedBy event).toList.map fun asset => eventLink event .accessed (named .asset asset)) ++
  (triggeredBy event).toList.map fun user =>
    .link (true, named .user user) (false, eventName event.eventId)
      ⟨named .user user, .triggered, eventName event.eventId⟩

theorem steps_mergeEvent (event : SecurityEvent) :
    ∃ properties, stepsOf (mergeEvent event) =
      .node (eventName event.eventId) properties :: eventSteps event := by
  unfold mergeEvent eventSteps
  dsimp only
  rw [stepsOf_append, stepsOf_append]
  refine ⟨_, congrArg₂ (· ++ ·) (congrArg₂ (· ++ ·) rfl ?_) ?_⟩
  · -- the asset
    rw [accessedBy]
    by_cases accessed : event.eventType = .assetAccessed
    · simp only [if_pos accessed]
      cases assetNamedIn event.message <;> rfl
    · simp only [if_neg accessed]
      rfl
  · -- the user
    rw [triggeredBy]
    rcases event.userId with _ | _ | ⟨c, user⟩ <;> rfl

/-- What the node of an alert holds besides its key. -/
def alertProps (alert : Alert) : List (Property × Option Loader.Value) :=
  [(.timestamp, text alert.timestamp), (.ruleName, text alert.ruleName),
    (.severity, text alert.severity.value), (.status, text alert.status.value),
    (.description, text alert.description), (.affectedService, optional alert.affectedService),
    (.affectedUser, optional alert.affectedUser),
    (.affectedEntity, optional alert.affectedEntity),
    (.recommendedAction, text alert.recommendedAction)]

/-- The step that joins two nodes that are there. -/
def joinStep (source : Name) (relation : Relation) (target : Name) : LoaderStep :=
  .link (false, source) (false, target) ⟨source, relation, target⟩

theorem steps_map {β : Type} {f : β → Write} {g : β → LoaderStep} (does : ∀ x, (f x).Does (g x))
    (xs : List β) : stepsOf (xs.map f) = xs.map g := by
  induction xs with
  | nil => rfl
  | cons x rest ih => rw [List.map_cons, List.map_cons, ← ih, stepsOf_cons (does x)]

theorem does_alertNode (alert : Alert) :
    (alertNode alert).Does (.node (alertName alert.alertId) (alertProps alert)) :=
  does_node (by simp [keyOf])

theorem steps_mergeAlert (alert : Alert) :
    stepsOf (mergeAlert alert) = .node (alertName alert.alertId) (alertProps alert) ::
      alert.relatedEvents.map fun eventId =>
        joinStep (eventName eventId) .createdAlert (alertName alert.alertId) := by
  rw [mergeAlert, stepsOf_cons (does_alertNode alert), steps_map]
  exact fun eventId => does_join (by decide)

/-- The step that joins an incident to the asset it affects. -/
def affectsStep (entity asset : Str) : LoaderStep :=
  .link (true, named .asset asset) (false, incidentName entity)
    ⟨incidentName entity, .affects, named .asset asset⟩

theorem steps_written (alerts : List Alert) (times : Dict Str Micros) (entity : Str)
    (first : SecurityEvent) (rest : List SecurityEvent) :
    stepsOf (written alerts times (entity, first :: rest)) =
      .node (incidentName entity)
          (nodeProps (createdOf first (first :: rest)) ((first :: rest).getLast?.getD first)) ::
        ((first :: rest).map fun event =>
          joinStep (eventName event.eventId) .concerns (incidentName entity)) ++
        ((assetNamedIn (createdOf first (first :: rest)).message).toList.map
          (affectsStep entity)) ++
        (alerts.filter fun alert =>
          Grouped times (timeOf (createdOf first (first :: rest))) alert).map fun alert =>
            joinStep (incidentName entity) .contains (alertName alert.alertId) := by
  have node : (incidentNode entity (createdOf first (first :: rest))
      ((first :: rest).getLast?.getD first)).Does (.node (incidentName entity)
        (nodeProps (createdOf first (first :: rest)) ((first :: rest).getLast?.getD first))) :=
    does_node (by simp [keyOf])
  have affects (message : Str) : stepsOf (affectsWrites entity message) =
      (assetNamedIn message).toList.map (affectsStep entity) := by
    rw [affectsWrites]
    cases assetNamedIn message <;> rfl
  have concerns (event : SecurityEvent) : (concernsWrite entity event).Does
      (joinStep (eventName event.eventId) .concerns (incidentName entity)) :=
    does_join (by decide)
  have contains (alert : Alert) : (containsLink entity alert).Does
      (joinStep (incidentName entity) .contains (alertName alert.alertId)) :=
    does_join (by decide)
  rw [written, stepsOf_append, stepsOf_append, affects, steps_map contains, stepsOf_cons node,
    steps_map concerns]

/-! ## The whole load -/

/-- The writes of a load about events and listed alerts. -/
def writesOf (events : List SecurityEvent) (listed : List Alert) (times : Dict Str Micros) :
    List Write :=
  LoadTopology.topology ++ ((chronological events).flatMap mergeEvent ++
    listed.flatMap mergeAlert ++ (itemsOf events).flatMap (written listed times)) ++
      LoadSecurityKnowledge.knowledge

/-- The keyed graph these writes leave. -/
def graphOf (events : List SecurityEvent) (listed : List Alert) (times : Dict Str Micros) :
    KeyedGraph Label Relation Property Loader.Value :=
  Step.runAll KeyedGraph.empty (stepsOf (writesOf events listed times))

/-- A graph a load left, of the events of a store and the alerts raised from them. -/
structure LoadedFrom (events : List SecurityEvent) (listed : List Alert)
    (times : Dict Str Micros) (g : KnowledgeGraph) : Prop where
  readable : Readable events
  timed : eventTimes (chronological events) = .ok times
  distinct : (listed.map (·.alertId)).Nodup
  ruled : ∀ alert ∈ listed, ∃ rule, alert.ruleName = ruleName rule
  cited : ∀ alert ∈ listed, ∀ eventId ∈ alert.relatedEvents,
    ∃ event ∈ events, event.eventId = eventId
  halves : Halves listed
    (LoadTopology.topology ++ ((chronological events).flatMap mergeEvent ++
      listed.flatMap mergeAlert ++ (itemsOf events).flatMap (written listed times)))
    LoadSecurityKnowledge.knowledge
  represents : Represents keyOf g (graphOf events listed times)

section Load

variable [UnicodeDb] {ids : AlertIds} {digest : Digest} {clock now : Datetime} {store : EventStore}
  {keyed : List Alert}

/-- A load that returns leaves such a graph. -/
theorem exists_loadedFrom {sources : List (Str × List Write)}
    (hnow : latestMoment clock store = .ok now)
    (hkeyed : stableAlerts ids digest store now = .ok keyed)
    (hsources : collectWrites ids digest clock store = .ok sources) :
    ∃ times, LoadedFrom store.events ((AlertStore.empty.extend keyed).1.list none none none) times
      (load sources) := by
  obtain ⟨-, readable, -⟩ := exists_stableAlerts_iff.mp ⟨keyed, hkeyed⟩
  obtain ⟨moment, raised, alerts, writes, hmoment, hraised, halerts, hwrites, rfl⟩ :=
    exists_of_collectWrites hsources
  obtain rfl := Except.ok.inj (hmoment.symm.trans hnow)
  obtain rfl := Except.ok.inj (((bind_of_eq_ok hraised _).trans halerts).symm.trans hkeyed)
  let listed := (AlertStore.empty.extend alerts).1.list none none none
  have collected := allEvents_of_readable readable
  obtain ⟨times, htimes⟩ := exists_eventTimes (readable.subset fun event => mem_chronological.mp)
  have cited : ∀ alert ∈ listed, ∀ eventId ∈ alert.relatedEvents,
      ∃ event ∈ chronological store.events, event.eventId = eventId := by
    intro alert halert eventId hcited
    obtain ⟨event, hevent, same⟩ := exists_cited hkeyed halert hcited
    exact ⟨event, mem_chronological.mpr hevent, same⟩
  have laid := lays_events collected cited hwrites
  -- what the events source wrote, in its three parts
  unfold LoadEvents.events at hwrites
  obtain ⟨events, hevents, hwrites⟩ := bind_eq_ok hwrites
  obtain rfl := Except.ok.inj (collected.symm.trans hevents)
  obtain ⟨incidentWrites, hincidents, hwrites⟩ := bind_eq_ok hwrites
  obtain ⟨-, rfl⟩ := (incidents_eq_ok_iff readable htimes).mp hincidents
  obtain rfl := Except.ok.inj hwrites
  have halves := Halves.mk (LoadTopology.lays_topology.append laid)
    LoadSecurityKnowledge.lays_knowledge
  refine ⟨times, readable, htimes, nodup_listed alerts, ?_,
    fun alert halert eventId hcited => exists_cited hkeyed halert hcited, halves, ?_⟩
  · intro alert halert
    obtain ⟨subject, -, hfields⟩ := exists_subject hkeyed halert
    refine ⟨subject.rule, ?_⟩
    rw [hfields, Subject.alert_ruleName, name_eq_ruleName]
  · have whole : [(lit "topology", LoadTopology.topology),
        (lit "events", (chronological store.events).flatMap mergeEvent ++
          listed.flatMap mergeAlert ++ (itemsOf store.events).flatMap (written listed times)),
        (lit "security-knowledge", LoadSecurityKnowledge.knowledge)].flatMap Prod.snd =
          writesOf store.events listed times := by
      simp only [List.flatMap_cons, List.flatMap_nil, List.append_nil, writesOf,
        List.append_assoc]
    rw [load_eq, whole, graphOf, writesOf, stepsOf_append]
    exact halves.represents_load

end Load

/-! ## Links -/

/-- The links of the topology and of the knowledge, which are the same in every graph. -/
def fixedLinks : List (Link Label Relation Loader.Value) :=
  readSteps askedOf LoadTopology.topology ++ readSteps askedOf LoadSecurityKnowledge.knowledge

/-- The links of a loaded graph: the fixed ones, those of every event, of every listed alert
and of every incident, and from every alert to the technique of its rule. -/
inductive Linked (events : List SecurityEvent) (listed : List Alert) :
    Link Label Relation Loader.Value → Prop
  | fixed {l : Link Label Relation Loader.Value} (held : l ∈ fixedLinks) : Linked events listed l
  | generatedBy {event : SecurityEvent} (held : event ∈ events) :
      Linked events listed ⟨eventName event.eventId, .generatedBy,
        named .service event.serviceName.value⟩
  | targeted {event : SecurityEvent} (held : event ∈ events) :
      Linked events listed ⟨eventName event.eventId, .targeted,
        named .endpoint (endpointStem event.endpoint)⟩
  | accessed {event : SecurityEvent} {asset : Str} (held : event ∈ events)
      (access : accessedBy event = some asset) :
      Linked events listed ⟨eventName event.eventId, .accessed, named .asset asset⟩
  | triggered {event : SecurityEvent} {user : Str} (held : event ∈ events)
      (trigger : triggeredBy event = some user) :
      Linked events listed ⟨named .user user, .triggered, eventName event.eventId⟩
  | createdAlert {alert : Alert} {eventId : Str} (held : alert ∈ listed)
      (cited : eventId ∈ alert.relatedEvents) :
      Linked events listed ⟨eventName eventId, .createdAlert, alertName alert.alertId⟩
  | concerns {event : SecurityEvent} {entity : Str} (held : event ∈ events)
      (about : incidentOf event = some entity) :
      Linked events listed ⟨eventName event.eventId, .concerns, incidentName entity⟩
  | affects {entity asset : Str} {created : SecurityEvent}
      (creates : creation events entity = some created)
      (names : assetNamedIn created.message = some asset) :
      Linked events listed ⟨incidentName entity, .affects, named .asset asset⟩
  | contains {entity : Str} {created : SecurityEvent} {alert : Alert}
      (creates : creation events entity = some created) (held : alert ∈ listed)
      (cites : CitesOnce events (timeOf created) alert) :
      Linked events listed ⟨incidentName entity, .contains, alertName alert.alertId⟩
  | indicates {alert : Alert} {threat : LoadSecurityKnowledge.Threat} (held : alert ∈ listed)
      (known : threat ∈ LoadSecurityKnowledge.threats)
      (detects : threat.rule = some alert.ruleName) :
      Linked events listed ⟨alertName alert.alertId, .indicates, named .threat threat.techniqueId⟩

/-- Who mitigates what. -/
def mitigations : List (Link Label Relation Loader.Value) :=
  LoadSecurityKnowledge.controls.flatMap fun control => control.threats.map fun technique =>
    ⟨named .control control.controlId, .mitigates, named .threat technique⟩

/-- What supports the response to what. -/
def responses : List (Link Label Relation Loader.Value) :=
  LoadSecurityKnowledge.documents.flatMap fun doc => doc.respondsTo.map fun technique =>
    ⟨named .document doc.docId, .supportsResponseTo, named .threat technique⟩

/-- What exploits what. -/
def exploitations : List (Link Label Relation Loader.Value) :=
  LoadSecurityKnowledge.vulnerabilities.flatMap fun vuln => vuln.threats.map fun technique =>
    ⟨named .threat technique, .exploits, named .vulnerability vuln.vulnId⟩

/-- What targets what. -/
def targetings : List (Link Label Relation Loader.Value) :=
  LoadSecurityKnowledge.threatTargets.map fun pair =>
    ⟨named .threat pair.1, .targets, named .service pair.2⟩

/-- What depends on what. -/
def dependencyLinks : List (Link Label Relation Loader.Value) :=
  LoadTopology.dependencies.map fun pair =>
    ⟨named .service pair.1, .dependsOn, named .service pair.2⟩

/-- The fixed links of five relations are those the data lists. -/
theorem fixedLinks_tables :
    fixedLinks.filter (·.relation = .mitigates) = mitigations ∧
      fixedLinks.filter (·.relation = .supportsResponseTo) = responses ∧
      fixedLinks.filter (·.relation = .exploits) = exploitations ∧
      fixedLinks.filter (·.relation = .targets) = targetings ∧
      fixedLinks.filter (·.relation = .dependsOn) = dependencyLinks := by
  decide +kernel

/-- No fixed link is one of a rule, of an event, of an alert or of an incident. -/
theorem relation_of_fixed : ∀ l ∈ fixedLinks, l.relation ∈ [Relation.exposes, .dependsOn, .hasRole,
    .subtechniqueOf, .targets, .exploits, .mitigates, .describes, .supportsResponseTo] := by
  decide +kernel

/-- An incident with a creation has events, and is created by one of them. -/
theorem exists_of_creation {events : List SecurityEvent} {entity : Str} {created : SecurityEvent}
    (creates : creation events entity = some created) :
    ∃ first rest, byText events entity = first :: rest ∧
      createdOf first (first :: rest) = created := by
  rw [creation, ← byText_eq] at creates
  obtain ⟨first, hfirst, same⟩ := Option.map_eq_some_iff.mp creates
  obtain ⟨rest, grouped⟩ := List.head?_eq_some_iff.mp hfirst
  exact ⟨first, rest, grouped, grouped ▸ same⟩

theorem readSteps_writesOf {α : Type} (read : LoaderStep → List α) (events : List SecurityEvent)
    (listed : List Alert) (times : Dict Str Micros) :
    readSteps read (writesOf events listed times) =
      readSteps read LoadTopology.topology ++
        ((chronological events).flatMap (fun event => readSteps read (mergeEvent event)) ++
          listed.flatMap (fun alert => readSteps read (mergeAlert alert)) ++
            (itemsOf events).flatMap fun item => readSteps read (written listed times item)) ++
        readSteps read LoadSecurityKnowledge.knowledge := by
  simp only [writesOf, readSteps_append, readSteps_flatMap]

namespace LoadedFrom

variable {events : List SecurityEvent} {listed : List Alert} {times : Dict Str Micros}
  {g : KnowledgeGraph}

/-- A link asked for by name is one of those listed. -/
theorem linked_of_asked (loaded : LoadedFrom events listed times g)
    {l : Link Label Relation Loader.Value}
    (asked : l ∈ readSteps askedOf (writesOf events listed times)) : Linked events listed l := by
  rw [readSteps_writesOf] at asked
  simp only [List.mem_append, List.mem_flatMap] at asked
  rcases asked with (fixed | (⟨event, hevent, asked⟩ | ⟨alert, halert, asked⟩) |
    ⟨⟨entity, group⟩, hitem, asked⟩) | fixed
  · exact .fixed (List.mem_append_left _ fixed)
  · obtain ⟨properties, steps⟩ := steps_mergeEvent event
    have held := mem_chronological.mp hevent
    rw [readSteps, steps, eventSteps] at asked
    simp only [List.mem_flatMap, List.mem_cons, List.mem_append, List.mem_map, Option.mem_toList,
      List.not_mem_nil, or_false] at asked
    obtain ⟨step, rfl | ((rfl | rfl) | ⟨asset, access, rfl⟩) | ⟨user, trigger, rfl⟩, asked⟩ := asked
    · cases asked
    · rw [List.mem_singleton.mp asked]
      exact .generatedBy held
    · rw [List.mem_singleton.mp asked]
      exact .targeted held
    · rw [List.mem_singleton.mp asked]
      exact .accessed held access
    · rw [List.mem_singleton.mp asked]
      exact .triggered held trigger
  · rw [readSteps, steps_mergeAlert] at asked
    simp only [List.mem_flatMap, List.mem_cons, List.mem_map] at asked
    obtain ⟨step, rfl | ⟨eventId, cited, rfl⟩, asked⟩ := asked
    · cases asked
    · rw [List.mem_singleton.mp asked]
      exact .createdAlert halert cited
  · obtain ⟨nonempty, grouped⟩ := mem_itemsOf.mp hitem
    obtain ⟨first, rest, rfl⟩ := List.exists_cons_of_ne_nil nonempty
    dsimp only at grouped
    have creates : creation events entity = some (createdOf first (first :: rest)) := by
      rw [creation, ← byText_eq, ← grouped]
      rfl
    rw [readSteps, steps_written] at asked
    obtain ⟨step, hstep, asked⟩ := List.mem_flatMap.mp asked
    rcases List.mem_append.mp hstep with early | contains
    · rcases List.mem_append.mp early with early | affects
      · rcases List.mem_cons.mp early with rfl | concerns
        · cases asked
        · obtain ⟨event, hevent, rfl⟩ := List.mem_map.mp concerns
          rw [List.mem_singleton.mp asked]
          rw [grouped, byText_eq] at hevent
          obtain ⟨held, about⟩ := List.mem_filter.mp hevent
          exact .concerns (mem_chronological.mp (mem_sortedBy.mp held)) (of_decide_eq_true about)
      · obtain ⟨asset, names, rfl⟩ := List.mem_map.mp affects
        rw [List.mem_singleton.mp asked]
        exact .affects creates (Option.mem_toList.mp names)
    · obtain ⟨alert, halert, rfl⟩ := List.mem_map.mp contains
      obtain ⟨held, cites⟩ := List.mem_filter.mp halert
      rw [List.mem_singleton.mp asked]
      exact .contains creates held
        ((grouped_iff loaded.readable loaded.timed).mp (of_decide_eq_true cites))
  · exact .fixed (List.mem_append_right _ fixed)

/-- A listed link is asked for by name, unless it is one of a rule. -/
theorem asked_of_linked (loaded : LoadedFrom events listed times g)
    {l : Link Label Relation Loader.Value} (linked : Linked events listed l)
    (other : l.relation ≠ .indicates) :
    l ∈ readSteps askedOf (writesOf events listed times) := by
  have ofEvent {event : SecurityEvent} (held : event ∈ events) {step : LoaderStep}
      (hstep : step ∈ eventSteps event) (asks : l ∈ askedOf step) :
      l ∈ readSteps askedOf (writesOf events listed times) := by
    obtain ⟨properties, steps⟩ := steps_mergeEvent event
    rw [readSteps_writesOf]
    refine List.mem_append_left _ (List.mem_append_right _ (List.mem_append_left _
      (List.mem_append_left _ (List.mem_flatMap.mpr ⟨event, mem_chronological.mpr held, ?_⟩))))
    rw [readSteps, steps]
    exact List.mem_flatMap.mpr ⟨step, List.mem_cons_of_mem _ hstep, asks⟩
  have ofIncident {entity : Str} {first : SecurityEvent} {rest : List SecurityEvent}
      (grouped : byText events entity = first :: rest) {step : LoaderStep}
      (hstep : step ∈ stepsOf (written listed times (entity, first :: rest)))
      (asks : l ∈ askedOf step) : l ∈ readSteps askedOf (writesOf events listed times) := by
    rw [readSteps_writesOf]
    refine List.mem_append_left _ (List.mem_append_right _ (List.mem_append_right _
      (List.mem_flatMap.mpr ⟨(entity, first :: rest), ?_,
        List.mem_flatMap.mpr ⟨step, hstep, asks⟩⟩)))
    exact mem_itemsOf.mpr ⟨List.cons_ne_nil first rest, grouped.symm⟩
  cases linked with
  | fixed held =>
      rw [readSteps_writesOf]
      rcases List.mem_append.mp held with topology | knowledge
      · exact List.mem_append_left _ (List.mem_append_left _ topology)
      · exact List.mem_append_right _ knowledge
  | @generatedBy event held =>
      have step : eventLink event .generatedBy (named .service event.serviceName.value) ∈
          eventSteps event := by simp [eventSteps]
      exact ofEvent held step (List.mem_singleton_self _)
  | @targeted event held =>
      have step : eventLink event .targeted (named .endpoint (endpointStem event.endpoint)) ∈
          eventSteps event := by simp [eventSteps]
      exact ofEvent held step (List.mem_singleton_self _)
  | @accessed event asset held access =>
      have step : eventLink event .accessed (named .asset asset) ∈ eventSteps event := by
        simp [eventSteps, access]
      exact ofEvent held step (List.mem_singleton_self _)
  | @triggered event user held trigger =>
      have step : (.link (true, named .user user) (false, eventName event.eventId)
          ⟨named .user user, .triggered, eventName event.eventId⟩ : LoaderStep) ∈
            eventSteps event := by simp [eventSteps, trigger]
      exact ofEvent held step (List.mem_singleton_self _)
  | @createdAlert alert eventId held cited =>
      rw [readSteps_writesOf]
      refine List.mem_append_left _ (List.mem_append_right _ (List.mem_append_left _
        (List.mem_append_right _ (List.mem_flatMap.mpr ⟨alert, held, ?_⟩))))
      rw [readSteps, steps_mergeAlert]
      exact List.mem_flatMap.mpr ⟨_, List.mem_cons_of_mem _ (List.mem_map_of_mem cited),
        List.mem_singleton_self _⟩
  | @concerns event entity held about =>
      have member : event ∈ byText events entity := by
        rw [byText_eq]
        exact List.mem_filter.mpr
          ⟨mem_sortedBy.mpr (mem_chronological.mpr held), decide_eq_true about⟩
      obtain ⟨first, rest, grouped⟩ := List.exists_cons_of_ne_nil (List.ne_nil_of_mem member)
      have step : joinStep (eventName event.eventId) .concerns (incidentName entity) ∈
          stepsOf (written listed times (entity, first :: rest)) := by
        rw [steps_written]
        refine List.mem_append_left _ (List.mem_append_left _ (List.mem_cons_of_mem _ ?_))
        exact List.mem_map_of_mem (grouped ▸ member)
      exact ofIncident grouped step (List.mem_singleton_self _)
  | @affects entity asset event creates names =>
      obtain ⟨first, rest, grouped, rfl⟩ := exists_of_creation creates
      have step : affectsStep entity asset ∈
          stepsOf (written listed times (entity, first :: rest)) := by
        rw [steps_written]
        refine List.mem_append_left _ (List.mem_append_right _ ?_)
        exact List.mem_map_of_mem (Option.mem_toList.mpr names)
      exact ofIncident grouped step (List.mem_singleton_self _)
  | @contains entity event alert creates held cites =>
      obtain ⟨first, rest, grouped, rfl⟩ := exists_of_creation creates
      have step : joinStep (incidentName entity) .contains (alertName alert.alertId) ∈
          stepsOf (written listed times (entity, first :: rest)) := by
        rw [steps_written]
        refine List.mem_append_right _ (List.mem_map_of_mem (List.mem_filter.mpr ⟨held, ?_⟩))
        exact decide_eq_true ((grouped_iff loaded.readable loaded.timed).mpr cites)
      exact ofIncident grouped step (List.mem_singleton_self _)
  | indicates => exact absurd rfl other

/-- A link a step asks for by a property is one of a rule. -/
theorem indicates_of_asked (loaded : LoadedFrom events listed times g) {step : LoaderStep}
    (hstep : step ∈ stepsOf (writesOf events listed times)) {k : KeyedGraph Label Relation Property
      Loader.Value} {l : Link Label Relation Loader.Value} (asks : l ∈ step.links k) :
    l.relation = .indicates ∨ l ∈ askedOf step := by
  cases step with
  | node => cases asks
  | link first second joined => exact .inr asks
  | linkWhere label key value relation target =>
      rw [writesOf, stepsOf_append] at hstep
      rcases List.mem_append.mp hstep with early | late
      · exact absurd (loaded.halves.front.kind _ early) id
      · obtain ⟨threat, -, rule, -, -, -, -, rfl, -⟩ := loaded.halves.back.kind _ late
        obtain ⟨n, -, rfl⟩ := List.mem_map.mp asks
        exact .inl rfl

/-- **The links of a loaded graph.** -/
theorem mem_links_iff (loaded : LoadedFrom events listed times g)
    {l : Link Label Relation Loader.Value} :
    l ∈ (graphOf events listed times).links ↔ Linked events listed l := by
  have represents := loaded.halves.represents_load
  rw [← stepsOf_append] at represents
  by_cases rule : l.relation = .indicates
  · obtain ⟨source, relation, target⟩ := l
    obtain rfl : relation = .indicates := rule
    refine represents.joined_iff.symm.trans ⟨fun joined => ?_, fun linked => ?_⟩
    · obtain ⟨alert, halert, threat, hthreat, detects, rfl, rfl⟩ :=
        loaded.halves.indicates loaded.distinct joined
      exact .indicates halert hthreat detects
    · cases linked with
      | fixed held => exact absurd (relation_of_fixed _ held) (by simp)
      | @indicates alert threat held known detects =>
          refine loaded.halves.indicated loaded.distinct held ?_ known detects
          have written : alertNode alert ∈ listed.flatMap mergeAlert :=
            List.mem_flatMap.mpr ⟨alert, held, List.mem_cons_self⟩
          exact List.mem_flatMap.mpr ⟨_, mem_stepsOf (List.mem_append_right _
            (List.mem_append_left _ (List.mem_append_right _ written))) (does_alertNode alert),
              List.mem_singleton_self _⟩
  · constructor
    · intro hl
      rcases Step.exists_of_mem_links hl with none | ⟨before, step, after, split, asks⟩
      · cases none
      have hstep : step ∈ stepsOf (writesOf events listed times) := by
        rw [split]
        exact List.mem_append_right _ List.mem_cons_self
      have asked := (loaded.indicates_of_asked hstep asks).resolve_left rule
      exact loaded.linked_of_asked (List.mem_flatMap.mpr ⟨step, hstep, asked⟩)
    · intro linked
      obtain ⟨step, hstep, asked⟩ := List.mem_flatMap.mp (loaded.asked_of_linked linked rule)
      cases step with
      | node => cases asked
      | link first second joined =>
          rw [List.mem_singleton.mp asked]
          exact Step.mem_links_of_link hstep
      | linkWhere => cases asked

end LoadedFrom

section Tables

variable {events : List SecurityEvent} {listed : List Alert} {source target : Name}

/-- A link of a fixed relation is a fixed one. -/
theorem linked_iff_of_fixed {relation : Relation}
    (fixed : relation ∈ [Relation.exposes, .dependsOn, .hasRole, .subtechniqueOf, .targets,
      .exploits, .mitigates, .describes, .supportsResponseTo])
    {table : List (Link Label Relation Loader.Value)}
    (tabled : fixedLinks.filter (·.relation = relation) = table) :
    Linked events listed ⟨source, relation, target⟩ ↔ ⟨source, relation, target⟩ ∈ table := by
  rw [← tabled, List.mem_filter]
  constructor
  · intro linked
    cases linked with
    | fixed held => exact ⟨held, decide_eq_true rfl⟩
    | _ => simp at fixed
  · exact fun held => .fixed held.1

theorem mitigates_iff : Linked events listed ⟨source, .mitigates, target⟩ ↔
    ∃ control ∈ LoadSecurityKnowledge.controls, ∃ technique ∈ control.threats,
      source = named .control control.controlId ∧ target = named .threat technique := by
  rw [linked_iff_of_fixed (by simp) fixedLinks_tables.1]
  simp [mitigations, eq_comm]

theorem supports_iff : Linked events listed ⟨source, .supportsResponseTo, target⟩ ↔
    ∃ doc ∈ LoadSecurityKnowledge.documents, ∃ technique ∈ doc.respondsTo,
      source = named .document doc.docId ∧ target = named .threat technique := by
  rw [linked_iff_of_fixed (by simp) fixedLinks_tables.2.1]
  simp [responses, eq_comm]

theorem exploits_iff : Linked events listed ⟨source, .exploits, target⟩ ↔
    ∃ vuln ∈ LoadSecurityKnowledge.vulnerabilities, ∃ technique ∈ vuln.threats,
      source = named .threat technique ∧ target = named .vulnerability vuln.vulnId := by
  rw [linked_iff_of_fixed (by simp) fixedLinks_tables.2.2.1]
  simp [exploitations, eq_comm]

theorem targets_iff : Linked events listed ⟨source, .targets, target⟩ ↔
    ∃ pair ∈ LoadSecurityKnowledge.threatTargets,
      source = named .threat pair.1 ∧ target = named .service pair.2 := by
  rw [linked_iff_of_fixed (by simp) fixedLinks_tables.2.2.2.1]
  simp [targetings, eq_comm]

theorem dependsOn_iff : Linked events listed ⟨source, .dependsOn, target⟩ ↔
    source = named .service "incident-service" ∧ target = named .service "asset-service" := by
  rw [linked_iff_of_fixed (by simp) fixedLinks_tables.2.2.2.2]
  simp [dependencyLinks, LoadTopology.dependencies]

end Tables

/-! ## Properties -/

/-- What assignments leave in a property. -/
def valueIn (assignments : List (Property × Option Loader.Value)) (key : Property) :
    Option Loader.Value :=
  ((assignments.reverse.find? fun a => a.1 = key).map Prod.snd).getD none

/-- What the topology and the knowledge assign. -/
def fixedProps : List (Name × List (Property × Option Loader.Value)) :=
  readSteps assignedOf LoadTopology.topology ++ readSteps assignedOf LoadSecurityKnowledge.knowledge

theorem label_of_fixed : ∀ entry ∈ fixedProps, entry.1.label ∈ [Label.service, .endpoint, .user,
    .role, .asset, .threat, .vulnerability, .control, .document] := by
  decide +kernel

/-- The topology and the knowledge describe no node twice, but in the same way. -/
theorem fixedProps_agree : ∀ entry ∈ fixedProps, ∀ other ∈ fixedProps, entry.1 = other.1 →
    entry.2 = other.2 := by
  decide +kernel

/-- The knowledge describes its nodes by what the data says of them. -/
theorem described_knowledge :
    (∀ threat ∈ LoadSecurityKnowledge.threats, (named .threat threat.techniqueId,
      [(Property.name, some (.text threat.name)), (.tactic, some (.text threat.tactic)),
        (.description, some (.text threat.description))]) ∈ fixedProps) ∧
    (∀ vuln ∈ LoadSecurityKnowledge.vulnerabilities, (named .vulnerability vuln.vulnId,
      [(Property.name, some (.text vuln.name)),
        (.description, some (.text vuln.description))]) ∈ fixedProps) ∧
    (∀ control ∈ LoadSecurityKnowledge.controls, (named .control control.controlId,
      [(Property.name, some (.text control.name)),
        (.description, some (.text control.description))]) ∈ fixedProps) ∧
    ∀ doc ∈ LoadSecurityKnowledge.documents, (named .document doc.docId,
      [(Property.title, some (.text doc.title)), (.kind, some (.text doc.kind))]) ∈ fixedProps := by
  decide +kernel

theorem mem_assigned {writes : List Write} {n : Name}
    {assignments : List (Property × Option Loader.Value)} :
    (n, assignments) ∈ readSteps assignedOf writes ↔
      (.node n assignments : LoaderStep) ∈ stepsOf writes := by
  rw [readSteps, List.mem_flatMap]
  constructor
  · rintro ⟨step, hstep, assigns⟩
    cases step with
    | node m others =>
        obtain ⟨rfl, rfl⟩ := Prod.mk.inj (List.mem_singleton.mp assigns)
        exact hstep
    | link => cases assigns
    | linkWhere => cases assigns
  · exact fun hstep => ⟨_, hstep, List.mem_singleton_self _⟩

/-- A node that is described in one way holds what that assigns. -/
theorem props_of_described {writes : List Write} {n : Name}
    {assignments : List (Property × Option Loader.Value)}
    (made : (n, assignments) ∈ readSteps assignedOf writes)
    (only : ∀ other, (n, other) ∈ readSteps assignedOf writes → other = assignments)
    (key : Property) :
    (Step.runAll (KeyedGraph.empty : KeyedGraph Label Relation Property Loader.Value)
      (stepsOf writes)).props n key = valueIn assignments key := by
  have agree : ∀ step ∈ stepsOf writes, ∀ value, step.assigned n key = some value →
      (assignments.reverse.find? fun a => a.1 = key).map Prod.snd = some value := by
    intro step hstep value assigned
    cases step with
    | node m others =>
        rw [Step.assigned] at assigned
        split at assigned
        case isFalse => cases assigned
        case isTrue same =>
            subst same
            rwa [only others (mem_assigned.mpr hstep)] at assigned
    | link => cases assigned
    | linkWhere => cases assigned
  rw [Step.props_runAll, valueIn]
  cases found : Step.lastAssigned (stepsOf writes) n key with
  | some value =>
      obtain ⟨step, hstep, assigned⟩ := List.exists_of_findSome?_eq_some found
      rw [agree step (List.mem_reverse.mp hstep) value assigned]
      rfl
  | none =>
      rw [Step.lastAssigned, List.findSome?_eq_none_iff] at found
      have nothing := found _ (List.mem_reverse.mpr (mem_assigned.mp made))
      rw [Step.assigned, if_pos rfl] at nothing
      rw [nothing]
      rfl

/-- A node nothing describes has no properties. -/
theorem props_of_undescribed {writes : List Write} {n : Name}
    (none : ∀ other, (n, other) ∉ readSteps assignedOf writes) (key : Property) :
    (Step.runAll (KeyedGraph.empty : KeyedGraph Label Relation Property Loader.Value)
      (stepsOf writes)).props n key = Option.none := by
  rw [Step.props_runAll]
  have nothing : Step.lastAssigned (stepsOf writes) n key = Option.none := by
    rw [Step.lastAssigned, List.findSome?_eq_none_iff]
    intro step hstep
    cases step with
    | node m others =>
        rw [Step.assigned]
        split
        case isTrue same =>
            subst same
            exact absurd (mem_assigned.mpr (List.mem_reverse.mp hstep)) (none others)
        case isFalse => rfl
    | link => rfl
    | linkWhere => rfl
  rw [nothing]
  rfl

/-- The description of an incident's node. -/
def incidentProps (events : List SecurityEvent) (entity : Str) :
    List (Property × Option Loader.Value) :=
  match byText events entity with
  | [] => []
  | first :: rest =>
      nodeProps (createdOf first (first :: rest)) ((first :: rest).getLast?.getD first)

namespace LoadedFrom

variable {events : List SecurityEvent} {listed : List Alert} {times : Dict Str Micros}
  {g : KnowledgeGraph}

/-- Whatever is described is an event, a listed alert, an incident or fixed. -/
theorem described_cases (_ : LoadedFrom events listed times g) {n : Name}
    {assignments : List (Property × Option Loader.Value)}
    (described : (n, assignments) ∈ readSteps assignedOf (writesOf events listed times)) :
    (n, assignments) ∈ fixedProps ∨ n.label = .event ∨
      (∃ alert ∈ listed, n = alertName alert.alertId ∧ assignments = alertProps alert) ∨
        ∃ entity, byText events entity ≠ [] ∧ n = incidentName entity ∧
          assignments = incidentProps events entity := by
  rw [readSteps_writesOf] at described
  simp only [List.mem_append, List.mem_flatMap] at described
  rcases described with (fixed | (⟨event, hevent, made⟩ | ⟨alert, halert, made⟩) |
    ⟨⟨entity, group⟩, hitem, made⟩) | fixed
  · exact .inl (List.mem_append_left _ fixed)
  · obtain ⟨properties, steps⟩ := steps_mergeEvent event
    rw [mem_assigned, steps, eventSteps] at made
    simp only [List.mem_cons, List.mem_append, List.mem_map, List.not_mem_nil, or_false, eventLink,
      reduceCtorEq, and_false, exists_false, Step.node.injEq] at made
    exact .inr (.inl (made.1 ▸ rfl))
  · rw [mem_assigned, steps_mergeAlert] at made
    simp only [List.mem_cons, List.mem_map, joinStep, reduceCtorEq, and_false, exists_false,
      or_false, Step.node.injEq] at made
    exact .inr (.inr (.inl ⟨alert, halert, made⟩))
  · obtain ⟨nonempty, grouped⟩ := mem_itemsOf.mp hitem
    obtain ⟨first, rest, rfl⟩ := List.exists_cons_of_ne_nil nonempty
    dsimp only at grouped
    rw [mem_assigned, steps_written] at made
    simp only [List.cons_append, List.mem_cons, List.mem_append, List.mem_map, joinStep,
      affectsStep, reduceCtorEq, and_false, exists_false, or_false, Step.node.injEq] at made
    refine .inr (.inr (.inr ⟨entity, grouped ▸ List.cons_ne_nil first rest, made.1, ?_⟩))
    rw [made.2, incidentProps, ← grouped]
  · exact .inl (List.mem_append_right _ fixed)

theorem props_alert (loaded : LoadedFrom events listed times g) {alert : Alert}
    (halert : alert ∈ listed) (key : Property) :
    (graphOf events listed times).props (alertName alert.alertId) key =
      valueIn (alertProps alert) key := by
  apply props_of_described
  · rw [readSteps_writesOf]
    refine List.mem_append_left _ (List.mem_append_right _ (List.mem_append_left _
      (List.mem_append_right _ (List.mem_flatMap.mpr ⟨alert, halert, ?_⟩))))
    rw [mem_assigned, steps_mergeAlert]
    exact List.mem_cons_self
  · intro other described
    rcases loaded.described_cases described with fixed | label | ⟨twin, htwin, same, rfl⟩ |
      ⟨entity, -, same, -⟩
    · exact absurd (label_of_fixed _ fixed) (by simp [alertName, named])
    · cases label
    · have ids : alert.alertId = twin.alertId := by
        simpa [alertName, named] using same
      rw [List.inj_on_of_nodup_map loaded.distinct halert htwin ids]
    · cases same

theorem props_fixed (loaded : LoadedFrom events listed times g) {n : Name}
    {assignments : List (Property × Option Loader.Value)} (fixed : (n, assignments) ∈ fixedProps)
    (key : Property) : (graphOf events listed times).props n key = valueIn assignments key := by
  have label := label_of_fixed _ fixed
  apply props_of_described
  · rw [readSteps_writesOf]
    rcases List.mem_append.mp fixed with topology | knowledge
    · exact List.mem_append_left _ (List.mem_append_left _ topology)
    · exact List.mem_append_right _ knowledge
  · intro other described
    rcases loaded.described_cases described with again | event | ⟨alert, -, same, -⟩ |
      ⟨entity, -, same, -⟩
    · exact fixedProps_agree _ again _ fixed rfl
    · rw [event] at label
      simp at label
    · rw [same] at label
      simp [alertName, named] at label
    · rw [same] at label
      simp [incidentName, named] at label

/-- Only the seeded users have a role. -/
theorem props_user (loaded : LoadedFrom events listed times g) (user : Str) :
    (graphOf events listed times).props (named .user user) .role =
      ((LoadTopology.seedUsers.find? fun seeded => seeded.username = user).map fun seeded =>
        .text seeded.role) := by
  have seeded : ∀ seeded ∈ LoadTopology.seedUsers,
      (named .user seeded.username, [(Property.role, some (.text seeded.role))]) ∈ fixedProps := by
    decide +kernel
  have seeds : ∀ entry ∈ fixedProps, entry.1.label = .user →
      ∃ seeded ∈ LoadTopology.seedUsers, entry.1 = named .user seeded.username := by
    decide +kernel
  cases found : LoadTopology.seedUsers.find? fun seeded => seeded.username = user with
  | some seed =>
      obtain rfl : seed.username = user := by simpa using List.find?_some found
      rw [loaded.props_fixed (seeded seed (List.mem_of_find?_eq_some found))]
      rfl
  | none =>
      apply props_of_undescribed
      intro other described
      rcases loaded.described_cases described with fixed | label | ⟨alert, -, same, -⟩ |
        ⟨entity, -, same, -⟩
      · obtain ⟨seed, hseed, same⟩ := seeds _ fixed rfl
        have username : user = seed.username := by simpa [named] using same
        have absent := List.find?_eq_none.mp found seed hseed
        exact absent (decide_eq_true username.symm)
      · cases label
      · cases same
      · cases same

/-! ## Nodes -/

theorem mem_nodes_iff (_ : LoadedFrom events listed times g) {n : Name} :
    n ∈ (graphOf events listed times).nodes ↔
      n ∈ readSteps Step.merged (writesOf events listed times) := by
  rw [graphOf, Step.mem_nodes_runAll, readSteps, List.mem_flatMap]
  exact or_iff_right List.not_mem_nil

/-- The nodes of alerts and of incidents are those described. -/
theorem node_cases (loaded : LoadedFrom events listed times g) {n : Name}
    (hn : n ∈ (graphOf events listed times).nodes) :
    n.label ∉ [Label.alert, .incident] ∨ (∃ alert ∈ listed, n = alertName alert.alertId) ∨
      ∃ entity, byText events entity ≠ [] ∧ n = incidentName entity := by
  have fixed : ∀ m ∈ readSteps Step.merged LoadTopology.topology ++
      readSteps Step.merged LoadSecurityKnowledge.knowledge,
        m.label ∉ [Label.alert, .incident] := by decide +kernel
  rw [loaded.mem_nodes_iff, readSteps_writesOf] at hn
  simp only [List.mem_append, List.mem_flatMap] at hn
  rcases hn with (topology | (⟨event, hevent, made⟩ | ⟨alert, halert, made⟩) |
    ⟨⟨entity, group⟩, hitem, made⟩) | knowledge
  · exact .inl (fixed n (List.mem_append_left _ topology))
  · left
    obtain ⟨properties, steps⟩ := steps_mergeEvent event
    rw [readSteps, steps, eventSteps] at made
    simp only [List.flatMap_cons, List.mem_append, List.mem_flatMap, List.mem_cons, List.mem_map,
      List.not_mem_nil, or_false] at made
    rcases made with made | ⟨step, ((rfl | rfl) | ⟨asset, -, rfl⟩) | ⟨user, -, rfl⟩, made⟩
    all_goals
      obtain rfl := List.mem_singleton.mp made
      simp [eventName, named]
  · right; left
    rw [readSteps, steps_mergeAlert] at made
    simp only [List.flatMap_cons, List.mem_append, List.mem_flatMap, List.mem_map] at made
    rcases made with made | ⟨step, ⟨eventId, -, rfl⟩, made⟩
    · exact ⟨alert, halert, List.mem_singleton.mp made⟩
    · cases made
  · obtain ⟨nonempty, grouped⟩ := mem_itemsOf.mp hitem
    obtain ⟨first, rest, rfl⟩ := List.exists_cons_of_ne_nil nonempty
    dsimp only at grouped
    rw [readSteps, steps_written] at made
    simp only [List.flatMap_append, List.flatMap_cons, List.mem_append, List.mem_flatMap,
      List.mem_map] at made
    rcases made with ((made | ⟨step, ⟨event, -, rfl⟩, made⟩) | ⟨step, ⟨asset, -, rfl⟩, made⟩) |
      ⟨step, ⟨alert, -, rfl⟩, made⟩
    · right; right
      exact ⟨entity, grouped ▸ List.cons_ne_nil first rest, List.mem_singleton.mp made⟩
    · cases made
    · left
      obtain rfl := List.mem_singleton.mp made
      simp [named]
    · cases made
  · exact .inl (fixed n (List.mem_append_right _ knowledge))

theorem alert_held (loaded : LoadedFrom events listed times g) {alert : Alert}
    (halert : alert ∈ listed) :
    alertName alert.alertId ∈ (graphOf events listed times).nodes := by
  rw [loaded.mem_nodes_iff, readSteps_writesOf]
  refine List.mem_append_left _ (List.mem_append_right _ (List.mem_append_left _
    (List.mem_append_right _ (List.mem_flatMap.mpr ⟨alert, halert, ?_⟩))))
  rw [readSteps, steps_mergeAlert]
  exact List.mem_flatMap.mpr ⟨_, List.mem_cons_self, List.mem_singleton_self _⟩

/-- The ends of every link are nodes. -/
theorem ends (loaded : LoadedFrom events listed times g)
    {l : Link Label Relation Loader.Value} (linked : Linked events listed l) :
    l.source ∈ (graphOf events listed times).nodes ∧
      l.target ∈ (graphOf events listed times).nodes :=
  loaded.represents.ends l (loaded.mem_links_iff.mpr linked)

end LoadedFrom

/-- **The edges of a loaded graph** are those of its events, its alerts and its incidents, and
the fixed ones. -/
theorem load_linked [UnicodeDb] (ids : AlertIds) (digest : Digest) (clock now : Datetime)
    (store : EventStore) (keyed : List Alert) (sources : List (Str × List Write))
    (hnow : latestMoment clock store = .ok now)
    (hkeyed : stableAlerts ids digest store now = .ok keyed)
    (hsources : collectWrites ids digest clock store = .ok sources)
    (l : Link Label Relation Loader.Value) :
    Joined keyOf (load sources) l ↔
      Linked store.events ((AlertStore.empty.extend keyed).1.list none none none) l := by
  obtain ⟨times, loaded⟩ := exists_loadedFrom hnow hkeyed hsources
  rw [loaded.represents.joined_iff]
  exact loaded.mem_links_iff

theorem load_linked_burst : letI := printsAll
    ∃ keyed sources,
      stableAlerts (fun _ => alertIdTag) burstDigest burst (second 5).time = .ok keyed ∧
      collectWrites (fun _ => alertIdTag) burstDigest anHourLater burst = .ok sources ∧
      ∀ l, Joined keyOf (load sources) l ↔
        Linked burst.events ((AlertStore.empty.extend keyed).1.list none none none) l := by
  let _ := printsAll
  obtain ⟨keyed, sources, hkeyed, hsources⟩ := exists_load_burst
  exact ⟨keyed, sources, hkeyed, hsources,
    load_linked _ _ _ _ _ _ _ latestMoment_burst hkeyed hsources⟩

end SentinelIR.Loader
