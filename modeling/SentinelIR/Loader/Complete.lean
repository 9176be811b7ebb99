/-
# The loaded graph is complete

Run from an empty graph, every write of the loader finds the nodes it matches by
their keys, so every edge it asks for is drawn; the alerts a rule raised, and no
others, indicate the rule's technique; and loading again changes nothing.
-/

import SentinelIR.Loader.SameAlerts
import SentinelIR.Loader.Steps

namespace SentinelIR.Loader

open SentinelIR.Py SentinelIR.Graph SentinelIR.Common SentinelIR.Alerts SentinelIR.Collector
  SentinelIR.Rules LoadEvents

/-! ## The steps of a load -/

theorem load_eq (sources : List (Str × List Write)) :
    load sources = apply PropertyGraph.empty (sources.flatMap Prod.snd) := by
  have whole (g : KnowledgeGraph) : sources.foldl (fun g source => apply g source.2) g =
      apply g (sources.flatMap Prod.snd) := by
    induction sources generalizing g with
    | nil => rfl
    | cons source rest ih =>
        rw [List.foldl_cons, ih, List.flatMap_cons, apply, apply, apply, List.map_append,
          run_append]
  exact whole _

theorem mem_stepsOf {writes : List Write} {write : Write} {step : LoaderStep}
    (hwrite : write ∈ writes) (does : write.Does step) : step ∈ stepsOf writes :=
  List.mem_filterMap.mpr ⟨write, hwrite, does.read⟩

/-- The writes before the knowledge, then the knowledge. -/
structure Halves (listed : List Alert) (front back : List Write) : Prop where
  front : Lays (Plain listed) [] front []
  back : Lays Late [] back []

namespace Halves

variable {listed : List Alert} {front back : List Write}

theorem all (halves : Halves listed front back) : AllDo (front ++ back) :=
  allDo_append.mpr ⟨halves.front.all, halves.back.all⟩

theorem grounded (halves : Halves listed front back) : Grounded [] (stepsOf (front ++ back)) := by
  rw [stepsOf_append, grounded_append]
  exact ⟨halves.front.grounded, halves.back.grounded.mono (List.nil_subset _)⟩

/-- The property graph after the writes represents the keyed graph after their
steps, and on the way every `MATCH` by a key finds its node. -/
theorem represents (halves : Halves listed front back) {g : KnowledgeGraph}
    {k : KeyedGraph Label Relation Property Value} (h : Represents keyOf g k) :
    Represents keyOf (apply g (front ++ back)) (Step.runAll k (stepsOf (front ++ back))) ∧
      ∀ before statement after,
        (front ++ back).map (·.statement) = before ++ statement :: after →
          Resolves (ByProperty keyOf) (Graph.run g before) [[]] statement :=
  h.run (implements_stepsOf halves.all) halves.grounded (List.nil_subset _)

theorem represents_load (halves : Halves listed front back) :
    Represents keyOf (apply PropertyGraph.empty (front ++ back))
      (Step.runAll KeyedGraph.empty (stepsOf front ++ stepsOf back)) := by
  rw [← stepsOf_append]
  exact (halves.represents (represents_empty keyOf)).1

theorem resolves (halves : Halves listed front back) {before after : List Write} {write : Write}
    (split : front ++ back = before ++ write :: after) :
    Resolves (ByProperty keyOf) (apply PropertyGraph.empty before) [[]] write.statement := by
  refine (halves.represents (represents_empty keyOf)).2 (before.map (·.statement)) write.statement
    (after.map (·.statement)) ?_
  rw [split, List.map_append, List.map_cons]

/-- A write that joins two nodes draws its edge. -/
theorem joined (halves : Halves listed front back) {write : Write} {first second : Bool × Name}
    {l : Link Label Relation Value} (hwrite : write ∈ front ++ back)
    (does : write.Does (.link first second l)) :
    Joined keyOf (apply PropertyGraph.empty (front ++ back)) l := by
  rw [halves.represents_load.joined_iff, ← stepsOf_append]
  exact Step.mem_links_of_link (mem_stepsOf hwrite does)

/-- Running all the writes again changes nothing. -/
theorem again (halves : Halves listed front back) :
    Same (apply (apply PropertyGraph.empty (front ++ back)) (front ++ back))
      (apply PropertyGraph.empty (front ++ back)) := by
  have once := halves.represents_load
  have twice := (halves.represents once).1
  rw [stepsOf_append, Step.runAll_runAll (fun step hstep => (halves.front.kind step hstep).direct)
    (fun step hstep => (halves.back.kind step hstep).apart)] at twice
  exact twice.same once

end Halves

/-! ## The techniques of the alerts -/

/-- A step before the knowledge that makes an alert's node gives it the alert's rule. -/
theorem Plain.assigned {listed : List Alert}
    (distinct : (listed.map (·.alertId)).Nodup) {alert : Alert} (halert : alert ∈ listed)
    {step : LoaderStep} (plain : Plain listed step)
    (made : alertName alert.alertId ∈ step.merged) :
    step.assigned (alertName alert.alertId) .ruleName = some (some (.text alert.ruleName)) := by
  cases step with
  | node n assignments =>
      obtain rfl := List.mem_singleton.mp made
      obtain ⟨other, hother, same, assigned⟩ := plain rfl
      have ids : alert.alertId = other.alertId := by
        simp only [alertName, named, Ref.mk.injEq, Value.text.injEq, true_and] at same
        exact same
      rw [List.inj_on_of_nodup_map distinct halert hother ids]
      rw [List.inj_on_of_nodup_map distinct halert hother ids] at assigned
      exact assigned
  | link first second l => exact absurd rfl (plain.1 _ made)
  | linkWhere => exact absurd plain id

/-- A step before the knowledge makes no other alert node than those of the listed
alerts. -/
theorem Plain.listed {listed : List Alert} {step : LoaderStep} (plain : Plain listed step)
    {n : Name} (made : n ∈ step.merged) (labelled : n.label = .alert) :
    ∃ alert ∈ listed, n = alertName alert.alertId := by
  cases step with
  | node m assignments =>
      obtain rfl := List.mem_singleton.mp made
      obtain ⟨alert, halert, same, -⟩ := plain labelled
      exact ⟨alert, halert, same⟩
  | link first second l => exact absurd labelled (plain.1 _ made)
  | linkWhere => exact absurd plain id

/-- Each rule has one technique. -/
theorem exists_threat (rule : Fin 4) :
    ∃ threat ∈ LoadSecurityKnowledge.threats, threat.rule = some (ruleName rule) ∧
      ∀ other ∈ LoadSecurityKnowledge.threats, other.rule = some (ruleName rule) →
        other.techniqueId = threat.techniqueId := by
  have each : ∀ rule : Fin 4, ∃ threat ∈ LoadSecurityKnowledge.threats,
      threat.rule = some (ruleName rule) ∧
        ∀ other ∈ LoadSecurityKnowledge.threats, other.rule = some (ruleName rule) →
          other.techniqueId = threat.techniqueId := by decide
  exact each rule

namespace Halves

variable {listed : List Alert} {front back : List Write}

/-- What the graph knows of an alert when the knowledge begins. -/
theorem props_alert (halves : Halves listed front back) (distinct : (listed.map (·.alertId)).Nodup)
    {alert : Alert} (halert : alert ∈ listed)
    (made : alertName alert.alertId ∈ (stepsOf front).flatMap Step.merged) :
    (Step.runAll (KeyedGraph.empty : KeyedGraph Label Relation Property Value)
      (stepsOf front)).props (alertName alert.alertId) .ruleName = some (.text alert.ruleName) := by
  have last := Step.lastAssigned_eq
    (fun step hstep made => (halves.front.kind step hstep).assigned distinct halert made)
    (List.mem_flatMap.mp made)
  rw [Step.props_runAll, last]
  rfl

/-- An `INDICATES` edge joins a listed alert to the technique of its rule. -/
theorem indicates (halves : Halves listed front back) (distinct : (listed.map (·.alertId)).Nodup)
    {source target : Name}
    (hjoined : Joined keyOf (apply PropertyGraph.empty (front ++ back))
      ⟨source, .indicates, target⟩) :
    ∃ alert ∈ listed, ∃ threat ∈ LoadSecurityKnowledge.threats,
      threat.rule = some alert.ruleName ∧ source = alertName alert.alertId ∧
        target = named .threat threat.techniqueId := by
  rw [halves.represents_load.joined_iff] at hjoined
  rcases Step.exists_of_mem_links hjoined with none | ⟨before, step, after, split, asked⟩
  · cases none
  have hstep : step ∈ stepsOf front ++ stepsOf back := by
    rw [split]
    exact List.mem_append_right _ List.mem_cons_self
  cases step with
  | node => cases asked
  | link first second l =>
      obtain rfl := List.mem_singleton.mp asked
      rcases List.mem_append.mp hstep with early | late
      · exact absurd rfl (halves.front.kind _ early).2
      · exact absurd rfl (halves.back.kind _ late).2
  | linkWhere label key value relation joinedTo =>
      have asks : ¬ (Step.linkWhere label key value relation joinedTo : LoaderStep).Direct := id
      obtain ⟨mid, rfl, hback⟩ := Step.split_at_linkWhere
        (fun step hstep => (halves.front.kind step hstep).direct) asks split
      have late : Late (.linkWhere label key value relation joinedTo) :=
        halves.back.kind _ (by rw [hback]; simp)
      obtain ⟨threat, hthreat, rule, hrule, rfl, rfl, rfl, rfl, rfl⟩ := late
      obtain ⟨n, hn, same⟩ := List.mem_map.mp asked
      obtain ⟨hmem, hprop⟩ := List.mem_filter.mp hn
      obtain ⟨labelled, valued⟩ := of_decide_eq_true hprop
      obtain ⟨rfl, -, rfl⟩ := Link.mk.inj same
      -- the node and its rule are those of the front
      rw [Step.runAll_append] at hmem valued
      have between : ∀ step ∈ mid, step.Apart .alert := fun step hstep =>
        (halves.back.kind step (by rw [hback]; exact List.mem_append_left _ hstep)).apart
      have kept := Step.apart_run between (Step.runAll KeyedGraph.empty (stepsOf front)) labelled
      rcases Step.mem_nodes_runAll.mp (kept.1.mp hmem) with none | ⟨maker, hmaker, made⟩
      · cases none
      obtain ⟨alert, halert, rfl⟩ := (halves.front.kind maker hmaker).listed made labelled
      rw [kept.2, halves.props_alert distinct halert
        (List.mem_flatMap.mpr ⟨maker, hmaker, made⟩)] at valued
      have rules : alert.ruleName = rule := Value.text.inj (Option.some.inj valued)
      exact ⟨alert, halert, threat, hthreat, by rw [hrule, rules], rfl, rfl⟩

/-- Every listed alert indicates the technique of its rule. -/
theorem indicated (halves : Halves listed front LoadSecurityKnowledge.knowledge)
    (distinct : (listed.map (·.alertId)).Nodup) {alert : Alert} (halert : alert ∈ listed)
    (made : alertName alert.alertId ∈ (stepsOf front).flatMap Step.merged)
    {threat : LoadSecurityKnowledge.Threat} (hthreat : threat ∈ LoadSecurityKnowledge.threats)
    (hrule : threat.rule = some alert.ruleName) :
    Joined keyOf (apply PropertyGraph.empty (front ++ LoadSecurityKnowledge.knowledge))
      ⟨alertName alert.alertId, .indicates, named .threat threat.techniqueId⟩ := by
  rw [halves.represents_load.joined_iff]
  have asked : Step.linkWhere .alert .ruleName (.text alert.ruleName) .indicates
      (named .threat threat.techniqueId) ∈ stepsOf LoadSecurityKnowledge.knowledge := by
    have written : (⟨[matchBy 'a' .alert .ruleName alert.ruleName,
        matchBy 't' .threat .techniqueId threat.techniqueId, .mergeEdge 'a' .indicates 't'],
        LoadSecurityKnowledge.loader⟩ : Write) ∈ LoadSecurityKnowledge.ruleThreatLinks :=
      List.mem_filterMap.mpr ⟨threat, hthreat, by rw [hrule]; rfl⟩
    exact mem_stepsOf (List.mem_append_right _ written) does_every
  obtain ⟨mid, after, hback⟩ := List.append_of_mem asked
  have between : ∀ step ∈ mid, step.Apart .alert := fun step hstep =>
    (halves.back.kind step (by rw [hback]; exact List.mem_append_left _ hstep)).apart
  have labelled : (alertName alert.alertId).label = .alert := rfl
  have kept := Step.apart_run between (Step.runAll KeyedGraph.empty (stepsOf front)) labelled
  rw [hback, Step.runAll_append, Step.runAll_append, Step.runAll_cons]
  apply Step.links_subset_runAll
  refine mem_foldl_appendNew.mpr (.inr (List.mem_map_of_mem (List.mem_filter.mpr ⟨?_, ?_⟩)))
  · exact kept.1.mpr (Step.mem_nodes_runAll.mpr (.inr (List.mem_flatMap.mp made)))
  · rw [kept.2, halves.props_alert distinct halert made]
    exact decide_eq_true ⟨rfl, rfl⟩

end Halves

/-! ## The writes of the incidents -/

/-- The incident groups the alert: the alert is severe enough, and the half hour
up to the incident's creation holds the time of an event it cites. -/
def Groups (events : List SecurityEvent) (incidentId : Str) (alert : Alert) : Prop :=
  alert.severity ∈ groupedSeverities ∧ ∃ created createdAt times,
    creation events incidentId = some created ∧ parseTimestamp created.timestamp = .ok createdAt ∧
      eventTimes (chronological events) = .ok times ∧ ∃ eventId ∈ alert.relatedEvents, ∃ moment,
        times.get? eventId = some moment ∧ inWindow createdAt moment = .ok true

/-- The `CONTAINS` write of a grouped alert. -/
def containsLink (incidentId : Str) (alert : Alert) : Write where
  statement :=
    [matchBy 'i' .incident .incidentId incidentId, matchBy 'a' .alert .alertId alert.alertId,
      .mergeEdge 'i' .contains 'a']
  loader := LoadEvents.loader

section Incidents

variable {store : EventStore} {alertStore : AlertStore} {writes : List Write}

/-- The writes of an incident the stream mentions are among those of the store. -/
theorem exists_group (readable : Readable store.events)
    (hwrites : incidents store alertStore = .ok writes) {incidentId : Str} {event : SecurityEvent}
    (hevent : event ∈ incidentEvents store.events incidentId) :
    ∃ first rest times group, incidentEvents store.events incidentId = first :: rest ∧
      eventTimes (chronological store.events) = .ok times ∧
      incidentWrites incidentId first (first :: rest) (alertStore.list none none none) times =
        .ok group ∧ group ⊆ writes := by
  unfold incidents at hwrites
  obtain ⟨collected, hcollected, hwrites⟩ := bind_eq_ok hwrites
  obtain rfl := Except.ok.inj ((allEvents_of_readable readable).symm.trans hcollected)
  obtain ⟨again, hagain, hwrites⟩ := bind_eq_ok hwrites
  obtain rfl := Except.ok.inj ((allEvents_of_readable readable).symm.trans hagain)
  obtain ⟨times, htimes, hwrites⟩ := bind_eq_ok hwrites
  obtain ⟨groups, hgroups, hwrites⟩ := bind_eq_ok hwrites
  obtain rfl := Except.ok.inj hwrites
  cases hgroup : incidentEvents store.events incidentId with
  | nil =>
      rw [hgroup] at hevent
      cases hevent
  | cons first rest =>
      have item : (incidentId, first :: rest) ∈
          (groupBy incidentOf
            (sortedBy (·.timestamp) (chronological store.events))).sortedItems := by
        rw [Dict.mem_sortedItems, mem_groupBy, ← hgroup]
        exact ⟨List.ne_nil_of_mem hevent, rfl⟩
      obtain ⟨group, hmem, hwritten⟩ := exists_value_of_mem hgroups item
      exact ⟨first, rest, times, group, rfl, htimes, hwritten,
        fun write hwrite => List.mem_flatten.mpr ⟨group, hmem, hwrite⟩⟩

theorem concernsWrite_mem (readable : Readable store.events)
    (hwrites : incidents store alertStore = .ok writes) {incidentId : Str} {event : SecurityEvent}
    (hevent : event ∈ incidentEvents store.events incidentId) :
    concernsWrite incidentId event ∈ writes := by
  obtain ⟨first, rest, times, group, hgroup, -, hwritten, subset⟩ :=
    exists_group readable hwrites hevent
  rw [hgroup] at hevent
  unfold incidentWrites at hwritten
  obtain ⟨createdAt, -, hwritten⟩ := bind_eq_ok hwritten
  obtain ⟨grouped, -, hwritten⟩ := bind_eq_ok hwritten
  obtain rfl := Except.ok.inj hwritten
  apply subset
  simp only [List.cons_append, List.mem_cons, List.mem_append]
  exact .inr (.inl (.inl (List.mem_map_of_mem hevent)))

theorem containsLink_mem (readable : Readable store.events)
    (hwrites : incidents store alertStore = .ok writes) {incidentId : Str} {alert : Alert}
    (halert : alert ∈ alertStore.list none none none)
    (groups : Groups store.events incidentId alert) : containsLink incidentId alert ∈ writes := by
  obtain ⟨severe, created, createdAt, times, hcreated, hmoment, htimes, eventId, hcited, moment,
    htime, inside⟩ := groups
  obtain ⟨head, hhead, rfl⟩ := Option.map_eq_some_iff.mp hcreated
  obtain ⟨first, rest, times', group, hgroup, htimes', hwritten, subset⟩ :=
    exists_group readable hwrites (List.mem_of_head? hhead)
  obtain rfl := Except.ok.inj (htimes'.symm.trans htimes)
  rw [hgroup] at hhead hmoment
  obtain rfl := Option.some.inj hhead
  unfold incidentWrites at hwritten
  obtain ⟨createdAt', hcreated', hwritten⟩ := bind_eq_ok hwritten
  obtain rfl := Except.ok.inj (hcreated'.symm.trans hmoment)
  obtain ⟨grouped, hgrouped, hwritten⟩ := bind_eq_ok hwritten
  obtain rfl := Except.ok.inj hwritten
  obtain ⟨links, hlinks, hcontains⟩ := exists_value_of_mem hgrouped halert
  have written : links = [containsLink incidentId alert] := by
    rw [containsWrite, if_pos severe] at hcontains
    cases hfound : anyE (inWindow createdAt') (alert.relatedEvents.filterMap times'.get?) with
    | error raised =>
        rw [hfound] at hcontains
        cases hcontains
    | ok found =>
        have holds := eq_true_of_anyE hfound
          (List.mem_filterMap.mpr ⟨eventId, hcited, htime⟩) inside
        rw [hfound, holds] at hcontains
        exact (Except.ok.inj hcontains).symm
  apply subset
  simp only [List.mem_append, List.mem_flatten]
  exact .inr ⟨links, hlinks, by rw [written]; exact List.mem_singleton_self _⟩

end Incidents

/-! ## The whole load -/

/-- A graph the writes left, about the events of a store and the listed alerts. -/
structure Complete (events : List SecurityEvent) (listed : List Alert) (writes : List Write)
    (g : KnowledgeGraph) : Prop where
  /-- Every `MATCH`, when it is reached, finds a node, but for the alerts of a rule. -/
  resolves : ∀ before write after, writes = before ++ write :: after →
    Resolves (ByProperty keyOf) (apply PropertyGraph.empty before) [[]] write.statement
  /-- Every write that joins two nodes draws its edge. -/
  draws : ∀ write ∈ writes, ∀ first second l, write.Does (.link first second l) → Joined keyOf g l
  cites : ∀ alert ∈ listed, ∀ eventId ∈ alert.relatedEvents,
    Joined keyOf g ⟨eventName eventId, .createdAlert, alertName alert.alertId⟩
  concerns : ∀ event ∈ events, ∀ incidentId, incidentOf event = some incidentId →
    Joined keyOf g ⟨eventName event.eventId, .concerns, incidentName incidentId⟩
  contains : ∀ alert ∈ listed, ∀ incidentId, Groups events incidentId alert →
    Joined keyOf g ⟨incidentName incidentId, .contains, alertName alert.alertId⟩
  /-- The techniques' alerts are the listed alerts of their rules. -/
  indicates : ∀ source target, Joined keyOf g ⟨source, .indicates, target⟩ ↔
    ∃ alert ∈ listed, ∃ threat ∈ LoadSecurityKnowledge.threats,
      threat.rule = some alert.ruleName ∧ source = alertName alert.alertId ∧
        target = named .threat threat.techniqueId
  technique : ∀ alert ∈ listed,
    ∃! target, Joined keyOf g ⟨alertName alert.alertId, .indicates, target⟩
  /-- A second run leaves the graph as it is. -/
  again : Same (apply g writes) g

theorem nodup_listed (alerts : List Alert) :
    (((AlertStore.empty.extend alerts).1.list none none none).map (·.alertId)).Nodup := by
  have values := AlertStore.map_alertId_values (AlertStore.keyed_empty.extend alerts)
  have listed := ((AlertStore.perm_list (AlertStore.empty.extend alerts).1).map (·.alertId)).trans
    (List.Perm.of_eq values)
  exact listed.nodup_iff.mpr (AlertStore.empty.extend alerts).1.alerts.nodup

section Load

variable [UnicodeDb] {ids : AlertIds} {digest : Digest} {clock now : Datetime} {store : EventStore}
  {keyed : List Alert}

/-- A listed alert is that of a subject over its threshold. -/
theorem exists_subject (hkeyed : stableAlerts ids digest store now = .ok keyed) {alert : Alert}
    (halert : alert ∈ (AlertStore.empty.extend keyed).1.list none none none) :
    ∃ subject : Subject, subject.Over now store.events ∧
      alert.toAlertFields = subject.alert now store.events := by
  obtain ⟨k, hk⟩ := AlertStore.mem_list_extend.mp halert
  have fields := congrArg (List.map Prod.fst) (stableAlerts_eq_ok hkeyed)
  rw [List.map_map, List.map_map] at fields
  exact exists_over_of_mem fields (List.mem_reverse.mp (List.mem_of_find?_eq_some hk))

/-- Every event a listed alert cites is in the store. -/
theorem exists_cited (hkeyed : stableAlerts ids digest store now = .ok keyed) {alert : Alert}
    (halert : alert ∈ (AlertStore.empty.extend keyed).1.list none none none) {eventId : Str}
    (hcited : eventId ∈ alert.relatedEvents) :
    ∃ event ∈ store.events, event.eventId = eventId := by
  obtain ⟨subject, hover, hfields⟩ := exists_subject hkeyed halert
  rw [hfields, Subject.alert_relatedEvents] at hcited
  obtain ⟨event, hevent, rfl⟩ := List.mem_map.mp hcited
  exact ⟨event, Subject.mem_events_of_mem_evidence hevent, rfl⟩

/-- **Completeness.** What the loader writes for a store makes a complete graph. -/
theorem load_complete (ids : AlertIds) (digest : Digest) (clock now : Datetime) (store : EventStore)
    (keyed : List Alert) (sources : List (Str × List Write))
    (hnow : latestMoment clock store = .ok now)
    (hkeyed : stableAlerts ids digest store now = .ok keyed)
    (hsources : collectWrites ids digest clock store = .ok sources) :
    Complete store.events ((AlertStore.empty.extend keyed).1.list none none none)
      (sources.flatMap Prod.snd) (load sources) := by
  obtain ⟨-, readable, -⟩ := exists_stableAlerts_iff.mp ⟨keyed, hkeyed⟩
  have distinct := nodup_listed keyed
  obtain ⟨moment, raised, alerts, written, hmoment, hraised, halerts, hwritten, rfl⟩ :=
    exists_of_collectWrites hsources
  obtain rfl := Except.ok.inj (hmoment.symm.trans hnow)
  obtain rfl := Except.ok.inj (((bind_of_eq_ok hraised _).trans halerts).symm.trans hkeyed)
  let listed := (AlertStore.empty.extend alerts).1.list none none none
  have collected := allEvents_of_readable readable
  have halves : Halves listed (LoadTopology.topology ++ written)
      LoadSecurityKnowledge.knowledge := by
    refine ⟨LoadTopology.lays_topology.append (lays_events collected ?_ hwritten),
      LoadSecurityKnowledge.lays_knowledge⟩
    intro alert halert eventId hcited
    obtain ⟨event, hevent, same⟩ := exists_cited hkeyed halert hcited
    exact ⟨event, mem_chronological.mpr hevent, same⟩
  have whole : [(lit "topology", LoadTopology.topology), (lit "events", written),
      (lit "security-knowledge", LoadSecurityKnowledge.knowledge)].flatMap Prod.snd =
        (LoadTopology.topology ++ written) ++ LoadSecurityKnowledge.knowledge := by
    simp only [List.flatMap_cons, List.flatMap_nil, List.append_nil, List.append_assoc]
  rw [load_eq, whole]
  -- what the events source writes, in its three parts
  unfold LoadEvents.events at hwritten
  obtain ⟨events, hevents, hwritten⟩ := bind_eq_ok hwritten
  obtain rfl := Except.ok.inj (collected.symm.trans hevents)
  obtain ⟨raisedWrites, hincidents, hwritten⟩ := bind_eq_ok hwritten
  have parts := Except.ok.inj hwritten
  have alertWrites : ∀ alert ∈ listed, mergeAlert alert ⊆ written := by
    intro alert halert write hwrite
    rw [← parts]
    exact List.mem_append_left _ (List.mem_append_right _
      (List.mem_flatMap.mpr ⟨alert, halert, hwrite⟩))
  have incidentWrites : raisedWrites ⊆ written := by
    intro write hwrite
    rw [← parts]
    exact List.mem_append_right _ hwrite
  have inside {write : Write} (hwrite : write ∈ written) :
      write ∈ LoadTopology.topology ++ written ++ LoadSecurityKnowledge.knowledge :=
    List.mem_append_left _ (List.mem_append_right _ hwrite)
  have made {alert : Alert} (halert : alert ∈ listed) : alertName alert.alertId ∈
      (stepsOf (LoadTopology.topology ++ written)).flatMap Step.merged := by
    have node : (alertNode alert).Does (.node (alertName alert.alertId) _) :=
      does_node (by simp [keyOf])
    exact List.mem_flatMap.mpr ⟨_, mem_stepsOf (List.mem_append_right _
      (alertWrites alert halert List.mem_cons_self)) node, List.mem_singleton_self _⟩
  have indicates (source target : Name) : Joined keyOf (apply PropertyGraph.empty
      (LoadTopology.topology ++ written ++ LoadSecurityKnowledge.knowledge))
        ⟨source, .indicates, target⟩ ↔
      ∃ alert ∈ listed, ∃ threat ∈ LoadSecurityKnowledge.threats,
        threat.rule = some alert.ruleName ∧ source = alertName alert.alertId ∧
          target = named .threat threat.techniqueId := by
    constructor
    · exact halves.indicates distinct
    · rintro ⟨alert, halert, threat, hthreat, hrule, rfl, rfl⟩
      exact halves.indicated distinct halert (made halert) hthreat hrule
  constructor
  · exact fun before write after split => halves.resolves split
  · exact fun write hwrite first second l does => halves.joined hwrite does
  · intro alert halert eventId hcited
    exact halves.joined (inside (alertWrites alert halert (List.mem_cons_of_mem _
      (List.mem_map_of_mem hcited)))) (does_join (by decide))
  · intro event hevent incidentId hincident
    have held : event ∈ incidentEvents store.events incidentId :=
      List.mem_filter.mpr ⟨mem_sortedBy.mpr (mem_chronological.mpr hevent),
        decide_eq_true hincident⟩
    exact halves.joined (inside (incidentWrites (concernsWrite_mem readable hincidents held)))
      (does_join (by decide))
  · intro alert halert incidentId groups
    exact halves.joined (inside (incidentWrites
      (containsLink_mem readable hincidents halert groups))) (does_join (by decide))
  · exact indicates
  · intro alert halert
    obtain ⟨subject, -, hfields⟩ := exists_subject hkeyed halert
    have rule : alert.ruleName = ruleName subject.rule := by
      rw [hfields, Subject.alert_ruleName, name_eq_ruleName]
    obtain ⟨threat, hthreat, hrule, only⟩ := exists_threat subject.rule
    refine ⟨named .threat threat.techniqueId,
      (indicates _ _).mpr ⟨alert, halert, threat, hthreat, by rw [hrule, rule], rfl, rfl⟩, ?_⟩
    intro target hjoined
    obtain ⟨other, hother, technique, htechnique, detects, same, rfl⟩ := (indicates _ _).mp hjoined
    have sameId : other.alertId = alert.alertId := by
      simp only [alertName, named, Ref.mk.injEq, Value.text.injEq, true_and] at same
      exact same.symm
    obtain rfl := List.inj_on_of_nodup_map distinct hother halert sameId
    rw [only technique htechnique (by rw [detects, rule])]
  · exact halves.again

end Load

/-- The burst's writes, with the alerts its five failures raise. -/
theorem load_complete_burst : letI := printsAll
    ∃ keyed sources,
      stableAlerts (fun _ => alertIdTag) burstDigest burst (second 5).time = .ok keyed ∧
      collectWrites (fun _ => alertIdTag) burstDigest anHourLater burst = .ok sources ∧
      Complete burst.events ((AlertStore.empty.extend keyed).1.list none none none)
        (sources.flatMap Prod.snd) (load sources) := by
  let _ := printsAll
  obtain ⟨keyed, sources, hkeyed, hsources⟩ := exists_load_burst
  exact ⟨keyed, sources, hkeyed, hsources,
    load_complete _ _ _ _ _ _ _ latestMoment_burst hkeyed hsources⟩

end SentinelIR.Loader
