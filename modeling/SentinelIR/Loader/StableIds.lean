/-
# Stable alert identifiers and the alerts they merge

An alert's stable identifier digests its rule, the subjects it names and the
events it cites. Two alerts of one evaluation share it exactly when they share a
footprint. With distinct event identifiers that happens in one way only: an
account and an address of the login rule rest on the very same failures. Then
the loader merges the two findings into one node.
-/

import SentinelIR.Loader.Main
import SentinelIR.Rules.Subjects

namespace SentinelIR.Loader

open SentinelIR.Py SentinelIR.Common SentinelIR.Alerts SentinelIR.Collector SentinelIR.Rules
open SentinelIR.Graph LoadEvents

/-! ## What a stable identifier tells apart -/

/-- The separator of the digested fields. -/
def bar : CodePoint := codePoint '|'

/-- The separator of the digested event identifiers. -/
def comma : CodePoint := codePoint ','

/-- What the digest sees of the alert about a subject: the rule, the service, the
user and the entity in one text, and the cited identifiers in order. -/
def footprint (now : Datetime) (events : List SecurityEvent) (subject : Subject) :
    Str × Str × Str × List Str :=
  (subject.info.name, (subject.affectedService now events).getD [],
    (subject.affectedUser now events).getD [] ++ bar ::
      (subject.affectedEntity now events).getD [],
    sortedBy id ((subject.evidence now events).map (·.eventId)))

theorem material_alert [UnicodeDb] (now : Datetime) (events : List SecurityEvent)
    (subject : Subject) :
    material (subject.alert now events) =
      (footprint now events subject).1 ++ bar :: ((footprint now events subject).2.1 ++ bar ::
        ((footprint now events subject).2.2.1 ++ bar ::
          joinWith [comma] (footprint now events subject).2.2.2)) := by
  simp [material, joinWith, List.intercalate, footprint, lit, bar, comma]

theorem bar_not_mem_ruleName (subject : Subject) : bar ∉ subject.info.name := by
  have names : ∀ rule : Fin 4, bar ∉ ruleName rule := by decide
  rw [name_eq_ruleName]
  exact names subject.rule

theorem bar_not_mem_serviceName (service : ServiceName) : bar ∉ service.value := by
  cases service <;> decide

/-- The service an alert names is one of the emitters, or missing. -/
theorem affectedService_eq {now : Datetime} {events : List SecurityEvent} {subject : Subject}
    (hover : subject.Over now events) :
    (subject.affectedService now events).getD [] = [] ∨
      ∃ service : ServiceName, (subject.affectedService now events).getD [] = service.value := by
  have newest : ((subject.evidence now events).getLast?.map (·.serviceName.value)).getD [] = [] ∨
      ∃ service : ServiceName,
        ((subject.evidence now events).getLast?.map (·.serviceName.value)).getD [] =
          service.value := by
    cases (subject.evidence now events).getLast? with
    | none => exact .inl rfl
    | some event => exact .inr ⟨event.serviceName, rfl⟩
  cases subject with
  | source sourceIp =>
      simp only [Subject.affectedService]
      split
      · cases hhead : (AbnormalRate.servicesOf
            ((Subject.source sourceIp).evidence now events)).head? with
        | none => exact .inl rfl
        | some name =>
            have hname := List.mem_of_mem_head? hhead
            simp only [AbnormalRate.servicesOf, mem_sortedBy, List.mem_dedup, List.mem_map] at hname
            obtain ⟨event, -, rfl⟩ := hname
            exact .inr ⟨event.serviceName, rfl⟩
      · exact .inl rfl
  | service name =>
      obtain ⟨event, hevent⟩ := List.exists_mem_of_ne_nil _ (Subject.evidence_ne_nil hover)
      have hname : event.serviceName.value = name := Subject.concerns_of_mem_evidence hevent
      exact .inr ⟨event.serviceName, hname.symm⟩
  | account userId => exact newest
  | address sourceIp => exact newest
  | refused caller => exact newest

theorem bar_not_mem_affectedService {now : Datetime} {events : List SecurityEvent}
    {subject : Subject} (hover : subject.Over now events) :
    bar ∉ (subject.affectedService now events).getD [] := by
  rcases affectedService_eq hover with missing | ⟨service, named⟩
  · rw [missing]
    exact List.not_mem_nil
  · rw [named]
    exact bar_not_mem_serviceName service

/-- An event identifier holds neither separator. -/
theorem not_mem_eventId {event : SecurityEvent} {c : CodePoint} (htag : c ∉ eventIdTag)
    (hhex : isLowerHex c = false) : c ∉ event.eventId := by
  obtain ⟨tag, -, suffix⟩ := event.eventId_valid
  intro hc
  rw [← List.take_append_drop eventIdTag.length event.eventId, tag] at hc
  rcases List.mem_append.mp hc with front | back
  · exact htag front
  · rw [suffix c back] at hhex
    cases hhex

theorem not_mem_cited {now : Datetime} {events : List SecurityEvent} {subject : Subject}
    {c : CodePoint} (htag : c ∉ eventIdTag) (hhex : isLowerHex c = false) :
    ∀ eventId ∈ (footprint now events subject).2.2.2, c ∉ eventId := by
  intro eventId heventId
  simp only [footprint, mem_sortedBy, List.mem_map] at heventId
  obtain ⟨event, -, rfl⟩ := heventId
  exact not_mem_eventId htag hhex

theorem cited_ne_nil {now : Datetime} {events : List SecurityEvent} {subject : Subject}
    (hover : subject.Over now events) : (footprint now events subject).2.2.2 ≠ [] := by
  have nonempty := Subject.evidence_ne_nil hover
  rw [← List.length_pos_iff] at nonempty ⊢
  simpa [footprint] using nonempty

theorem bar_not_mem_joined {parts : List Str} (hparts : ∀ part ∈ parts, bar ∉ part) :
    bar ∉ joinWith [comma] parts := by
  intro hbar
  rcases mem_joinWith hbar with between | ⟨part, hpart, inside⟩
  · exact absurd between (by decide)
  · exact hparts part hpart inside

/-- Two subjects over their thresholds are digested from the same text exactly
when they share their footprint. -/
theorem material_eq_iff [UnicodeDb] {now : Datetime} {events : List SecurityEvent}
    {first second : Subject} (hfirst : first.Over now events) (hsecond : second.Over now events) :
    material (first.alert now events) = material (second.alert now events) ↔
      footprint now events first = footprint now events second := by
  constructor
  · intro same
    rw [material_alert, material_alert] at same
    have parts := (append_separator_inj (bar_not_mem_ruleName first)
      (bar_not_mem_ruleName second)).mp same
    obtain ⟨rule, same⟩ := parts
    have parts := (append_separator_inj (bar_not_mem_affectedService hfirst)
      (bar_not_mem_affectedService hsecond)).mp same
    obtain ⟨service, same⟩ := parts
    have parts := (append_separator_inj_right
      (bar_not_mem_joined (not_mem_cited (by decide) (by decide)))
      (bar_not_mem_joined (not_mem_cited (by decide) (by decide)))).mp same
    obtain ⟨attribution, joined⟩ := parts
    have cited := joinWith_injective (not_mem_cited (by decide) (by decide))
      (not_mem_cited (by decide) (by decide)) (cited_ne_nil hfirst) (cited_ne_nil hsecond) joined
    exact Prod.ext rule (Prod.ext service (Prod.ext attribution cited))
  · intro same
    rw [material_alert, material_alert, same]

/-! ## Which alerts collapse -/

/-- No two subjects over their thresholds share a footprint. -/
def DistinctFootprints (now : Datetime) (events : List SecurityEvent) : Prop :=
  ∀ first second : Subject, first.Over now events → second.Over now events →
    footprint now events first = footprint now events second → first = second

/-- No account and address over the login threshold rest on the same failures. -/
def DistinctBursts (now : Datetime) (events : List SecurityEvent) : Prop :=
  ∀ userId sourceIp, (Subject.account userId).Over now events →
    (Subject.address sourceIp).Over now events →
      (Subject.account userId).evidence now events ≠ (Subject.address sourceIp).evidence now events

/-- The only account a list of one account's failures names. -/
theorem singleUser_of_forall {userId : Str} {events : List SecurityEvent} (nonempty : events ≠ [])
    (same : ∀ event ∈ events, event.userId = some userId) :
    (AbnormalRate.singleUser events).getD [] = userId := by
  have names : events.filterMap (·.userId) = List.replicate events.length userId := by
    clear nonempty
    induction events with
    | nil => rfl
    | cons event rest ih =>
        have tail := ih fun other hother => same other (List.mem_cons_of_mem event hother)
        simp only [List.filterMap_cons, same event List.mem_cons_self, tail, List.length_cons,
          List.replicate_succ]
  have positive : events.length ≠ 0 := fun h => nonempty (List.length_eq_zero_iff.mp h)
  by_cases empty : userId = []
  · subst empty
    simp [AbnormalRate.singleUser, distinctTexts, names]
  · simp [AbnormalRate.singleUser, distinctTexts, names, empty, List.replicate_dedup positive,
      sortedBy]

/-- An account and an address with the same failures share their footprint. -/
theorem footprint_account_eq_address {now : Datetime} {events : List SecurityEvent}
    {userId sourceIp : Str} (hover : (Subject.account userId).Over now events)
    (same : (Subject.account userId).evidence now events =
      (Subject.address sourceIp).evidence now events) :
    footprint now events (.account userId) = footprint now events (.address sourceIp) := by
  have user : (AbnormalRate.singleUser
      ((Subject.address sourceIp).evidence now events)).getD [] = userId := by
    rw [← same]
    exact singleUser_of_forall (Subject.evidence_ne_nil hover)
      fun event hevent => Subject.concerns_of_mem_evidence hevent
  simp only [footprint, Subject.info, Subject.affectedService, Subject.affectedUser,
    Subject.affectedEntity, Option.getD_some, user, same]

/-- Subjects citing the same identifiers rest on the same events, when no two
events share an identifier. -/
theorem mem_evidence_of_footprint_eq {now : Datetime} {events : List SecurityEvent}
    (distinct : (events.map (·.eventId)).Nodup) {first second : Subject}
    (same : footprint now events first = footprint now events second) {event : SecurityEvent}
    (hevent : event ∈ first.evidence now events) : event ∈ second.evidence now events := by
  have cited : event.eventId ∈ (footprint now events second).2.2.2 := by
    rw [← same]
    simp only [footprint, mem_sortedBy]
    exact List.mem_map_of_mem hevent
  simp only [footprint, mem_sortedBy, List.mem_map] at cited
  obtain ⟨other, hother, hid⟩ := cited
  have identified : other = event :=
    List.inj_on_of_nodup_map distinct (Subject.mem_events_of_mem_evidence hother)
      (Subject.mem_events_of_mem_evidence hevent) hid
  exact identified ▸ hother

/-- An account and an address with the same footprint rest on the same failures. -/
theorem evidence_eq_of_footprint_eq {now : Datetime} {events : List SecurityEvent}
    (distinct : (events.map (·.eventId)).Nodup) {userId sourceIp : Str}
    (same : footprint now events (.account userId) = footprint now events (.address sourceIp)) :
    (Subject.account userId).evidence now events =
      (Subject.address sourceIp).evidence now events := by
  simp only [Subject.evidence, ← filter_evidence]
  apply List.filter_congr
  intro event hevent
  have shared (subject : Subject) (wanted : SecurityEvent → Bool)
      (hsubject : subject.evidence now events =
        (evidence FailedLogins.isFailure FailedLogins.detectionWindow now events).filter wanted) :
      wanted event = true ↔ event ∈ subject.evidence now events := by
    rw [hsubject, List.mem_filter]
    exact ⟨fun h => ⟨hevent, h⟩, fun h => h.2⟩
  rw [Bool.eq_iff_iff, shared (.account userId) _ (filter_evidence _ _ _ _ _).symm,
    shared (.address sourceIp) _ (filter_evidence _ _ _ _ _).symm]
  exact ⟨mem_evidence_of_footprint_eq distinct same,
    mem_evidence_of_footprint_eq distinct same.symm⟩

/-- With distinct event identifiers, only a burst seen from both sides makes two
alerts share a footprint. -/
theorem distinctFootprints_iff {now : Datetime} {events : List SecurityEvent}
    (distinct : (events.map (·.eventId)).Nodup) :
    DistinctFootprints now events ↔ DistinctBursts now events := by
  constructor
  · intro separate userId sourceIp hfirst hsecond same
    exact absurd (separate _ _ hfirst hsecond (footprint_account_eq_address hfirst same))
      (by simp)
  · intro bursts first second hfirst hsecond same
    have rule : first.rule = second.rule := by
      apply ruleName_injective
      rw [← name_eq_ruleName, ← name_eq_ruleName]
      exact congrArg Prod.fst same
    obtain ⟨event, hevent⟩ := List.exists_mem_of_ne_nil _ (Subject.evidence_ne_nil hfirst)
    have about := Subject.concerns_of_mem_evidence hevent
    have about' := Subject.concerns_of_mem_evidence
      (mem_evidence_of_footprint_eq distinct same hevent)
    rcases Subject.shares_rule rule about about' with equal | ⟨userId, sourceIp, rfl, rfl⟩ |
      ⟨userId, sourceIp, rfl, rfl⟩
    · exact equal
    · exact absurd (evidence_eq_of_footprint_eq distinct same) (bursts _ _ hfirst hsecond)
    · exact absurd (evidence_eq_of_footprint_eq distinct same.symm) (bursts _ _ hsecond hfirst)

/-! ## The identifiers of one evaluation -/

section Identifiers

variable [UnicodeDb] {ids : AlertIds} {store : EventStore} {now : Datetime}

omit [UnicodeDb] in
/-- Re-keying changes the identifiers and nothing else. -/
theorem withStableIds_eq_ok {digest : Digest} {alerts keyed : List Alert}
    (hkeyed : withStableIds digest alerts = .ok keyed) :
    keyed.map (fun alert => (alert.toAlertFields, alert.alertId)) =
      (alerts.map (·.toAlertFields)).map fun alert =>
        (alert, alertIdTag ++ digest (material alert)) := by
  have pointwise := forall₂_of_mapE_eq_ok hkeyed
  clear hkeyed
  induction pointwise with
  | nil => rfl
  | @cons alert stable alerts keyed hstable _ ih =>
      rw [stableAlertId] at hstable
      split at hstable
      · rw [List.map_cons, List.map_cons, List.map_cons, ← ih, ← Except.ok.inj hstable]
      · cases hstable

/-- The alerts the loader builds: the evaluation, re-keyed. -/
def stableAlerts (ids : AlertIds) (digest : Digest) (store : EventStore) (now : Datetime) :
    Except Exc (List Alert) :=
  (evaluateAll ids store now).bind (withStableIds digest)

/-- The stable identifier of the alert about a subject. -/
def stableId (digest : Digest) (now : Datetime) (events : List SecurityEvent)
    (subject : Subject) : Str :=
  alertIdTag ++ digest (material (subject.alert now events))

/-- The alerts the loader builds are those of the subjects over their thresholds,
under their stable identifiers. -/
theorem stableAlerts_eq_ok {digest : Digest} {keyed : List Alert}
    (hkeyed : stableAlerts ids digest store now = .ok keyed) :
    keyed.map (fun alert => (alert.toAlertFields, alert.alertId)) =
      (overSubjects now store.events).map fun subject =>
        (subject.alert now store.events, stableId digest now store.events subject) := by
  obtain ⟨alerts, halerts, hkeyed⟩ := bind_eq_ok hkeyed
  rw [withStableIds_eq_ok hkeyed, evaluateAll_eq_ok halerts, List.map_map]
  rfl

/-- A digest that tells texts apart gives two subjects one identifier exactly when
they share their footprint. -/
theorem stableId_eq_iff {digest : Digest} (collisionFree : Function.Injective digest)
    {events : List SecurityEvent} {first second : Subject} (hfirst : first.Over now events)
    (hsecond : second.Over now events) :
    stableId digest now events first = stableId digest now events second ↔
      footprint now events first = footprint now events second := by
  rw [stableId, stableId, List.append_cancel_left_eq, collisionFree.eq_iff,
    material_eq_iff hfirst hsecond]

/-- The identifiers of one evaluation are distinct exactly when the footprints
are, provided the digest tells texts apart. -/
theorem nodup_stableIds_iff {digest : Digest} (collisionFree : Function.Injective digest)
    {keyed : List Alert} (hkeyed : stableAlerts ids digest store now = .ok keyed) :
    (keyed.map (·.alertId)).Nodup ↔ DistinctFootprints now store.events := by
  have identifiers : keyed.map (·.alertId) =
      (overSubjects now store.events).map (stableId digest now store.events) := by
    have second := congrArg (List.map Prod.snd) (stableAlerts_eq_ok hkeyed)
    rwa [List.map_map, List.map_map] at second
  rw [identifiers, List.nodup_map_iff_inj_on (nodup_overSubjects now store.events)]
  simp only [mem_overSubjects]
  constructor
  · intro injective first second hfirst hsecond same
    exact injective first hfirst second hsecond
      ((stableId_eq_iff collisionFree hfirst hsecond).mpr same)
  · intro separate first hfirst second hsecond same
    exact separate first second hfirst hsecond
      ((stableId_eq_iff collisionFree hfirst hsecond).mp same)

end Identifiers

/-! ## The alert nodes of the graph -/

/-- The write neither creates nor re-keys an alert node. -/
def AlertFree (write : Write) : Prop :=
  Keyed .alert .alertId write.statement ∧ mergedKey .alert write.statement = none

instance (write : Write) : Decidable (AlertFree write) := inferInstanceAs (Decidable (_ ∧ _))

theorem alertFree_topology : ∀ write ∈ LoadTopology.topology, AlertFree write := by
  decide

theorem alertFree_knowledge : ∀ write ∈ LoadSecurityKnowledge.knowledge, AlertFree write := by
  decide

theorem alertFree_mergeEvent (event : SecurityEvent) :
    ∀ write ∈ mergeEvent event, AlertFree write := by
  intro write hwrite
  simp only [mergeEvent, List.mem_append] at hwrite
  rcases hwrite with (base | accessed) | triggered
  · simp only [List.mem_cons, List.not_mem_nil, or_false] at base
    rcases base with rfl | rfl | rfl <;>
      simp [AlertFree, Keyed, mergedKey, mergeBy, matchBy, Clause.Quiet]
  · split at accessed
    · rw [List.mem_singleton.mp accessed]
      simp [AlertFree, Keyed, mergedKey, mergeBy, matchBy, Clause.Quiet]
    · cases accessed
  · split at triggered
    · rw [List.mem_singleton.mp triggered]
      simp [AlertFree, Keyed, mergedKey, mergeBy, matchBy, Clause.Quiet]
    · cases triggered

theorem alertFree_containsWrite {incidentId : Str} {createdAt : Datetime}
    {times : Dict Str Micros} {alert : Alert} {writes : List Write}
    (hwrites : containsWrite incidentId createdAt times alert = .ok writes) :
    ∀ write ∈ writes, AlertFree write := by
  rw [containsWrite] at hwrites
  split at hwrites
  · cases hfound : anyE (inWindow createdAt) (alert.relatedEvents.filterMap times.get?) with
    | error raised =>
        rw [hfound] at hwrites
        cases hwrites
    | ok found =>
        rw [hfound] at hwrites
        rw [← Except.ok.inj hwrites]
        intro write hwrite
        cases found with
        | false => cases hwrite
        | true =>
            rw [List.mem_singleton.mp hwrite]
            simp [AlertFree, Keyed, mergedKey, matchBy, Clause.Quiet]
  · rw [← Except.ok.inj hwrites]
    rintro write ⟨⟩

theorem alertFree_incidentWrites {incidentId : Str} {first : SecurityEvent}
    {raised : List SecurityEvent} {alerts : List Alert} {times : Dict Str Micros}
    {writes : List Write}
    (hwrites : incidentWrites incidentId first raised alerts times = .ok writes) :
    ∀ write ∈ writes, AlertFree write := by
  obtain ⟨createdAt, -, hwrites⟩ := bind_eq_ok hwrites
  obtain ⟨grouped, hgrouped, hwrites⟩ := bind_eq_ok hwrites
  rw [← Except.ok.inj hwrites]
  intro write hwrite
  simp only [List.mem_append, List.mem_cons, List.mem_map, List.mem_flatten] at hwrite
  rcases hwrite with ((rfl | ⟨event, -, rfl⟩) | affects) | ⟨part, hpart, hwrite⟩
  · simp [AlertFree, incidentNode, Keyed, mergedKey, mergeBy, Clause.Quiet]
  · simp [AlertFree, concernsWrite, Keyed, mergedKey, matchBy, Clause.Quiet]
  · rw [affectsWrites] at affects
    split at affects
    · rw [List.mem_singleton.mp affects]
      simp [AlertFree, Keyed, mergedKey, mergeBy, matchBy, Clause.Quiet]
    · cases affects
  · obtain ⟨alert, -, halert⟩ := exists_of_mem_mapE hgrouped hpart
    exact alertFree_containsWrite halert write hwrite

theorem alertFree_incidents {store : EventStore} {alertStore : AlertStore} {writes : List Write}
    (hwrites : incidents store alertStore = .ok writes) : ∀ write ∈ writes, AlertFree write := by
  obtain ⟨_, -, hwrites⟩ := bind_eq_ok hwrites
  obtain ⟨_, -, hwrites⟩ := bind_eq_ok hwrites
  obtain ⟨_, -, hwrites⟩ := bind_eq_ok hwrites
  obtain ⟨lists, hlists, hwrites⟩ := bind_eq_ok hwrites
  rw [← Except.ok.inj hwrites]
  intro write hwrite
  obtain ⟨part, hpart, hwrite⟩ := List.mem_flatten.mp hwrite
  obtain ⟨item, -, hitem⟩ := exists_of_mem_mapE hlists hpart
  rw [groupWrites] at hitem
  split at hitem
  · rw [← Except.ok.inj hitem] at hwrite
    cases hwrite
  · exact alertFree_incidentWrites hitem write hwrite

/-- Writes about anything else merge no alert. -/
theorem filterMap_mergedKey_of_alertFree {writes : List Write}
    (free : ∀ write ∈ writes, AlertFree write) :
    (writes.map (·.statement)).filterMap (mergedKey .alert) = [] := by
  rw [List.filterMap_map, List.filterMap_eq_nil_iff]
  exact fun write hwrite => (free write hwrite).2

/-- An alert's writes merge its identifier, once. -/
theorem filterMap_mergedKey_mergeAlert (alert : Alert) :
    ((mergeAlert alert).map (·.statement)).filterMap (mergedKey .alert) =
      [Value.text alert.alertId] := by
  have head : mergedKey .alert (alertNode alert).statement = some (Value.text alert.alertId) := rfl
  have links : ((alert.relatedEvents.map (createdAlertWrite alert.alertId)).map
      (·.statement)).filterMap (mergedKey .alert) = [] := by
    rw [List.map_map, List.filterMap_map, List.filterMap_eq_nil_iff]
    exact fun _ _ => rfl
  rw [mergeAlert, List.map_cons, List.filterMap_cons_some head, links]

theorem keyed_mergeAlert (alert : Alert) :
    ∀ write ∈ mergeAlert alert, Keyed .alert .alertId write.statement := by
  intro write hwrite
  rw [mergeAlert, List.mem_cons, List.mem_map] at hwrite
  rcases hwrite with rfl | ⟨eventId, -, rfl⟩
  · simp [alertNode, Keyed, mergeBy, Clause.Quiet]
  · simp [createdAlertWrite, Keyed, matchBy, Clause.Quiet]

/-- One alert node for each alert, carrying its identifier. -/
def OneNodePerAlert (g : KnowledgeGraph) (alerts : List Alert) : Prop :=
  (keyColumn .alert .alertId g).Perm (alerts.map fun alert => some (.text alert.alertId))

/-- The alert nodes of a loaded graph carry the distinct identifiers of the
stored alerts. -/
theorem keyColumn_load {store : EventStore} {alertStore : AlertStore} {eventWrites : List Write}
    (hevents : LoadEvents.events store alertStore = .ok eventWrites) :
    keyColumn .alert .alertId (load [(lit "topology", LoadTopology.topology),
        (lit "events", eventWrites),
        (lit "security-knowledge", LoadSecurityKnowledge.knowledge)]) =
      ((alertStore.list none none none).map fun alert =>
        some (Value.text alert.alertId)).foldl appendNew [] := by
  obtain ⟨collected, -, hevents⟩ := bind_eq_ok hevents
  obtain ⟨raised, hraised, hevents⟩ := bind_eq_ok hevents
  obtain rfl := Except.ok.inj hevents
  have freeEvents : ∀ write ∈ collected.flatMap mergeEvent, AlertFree write := by
    intro write hwrite
    obtain ⟨event, -, hwrite⟩ := List.mem_flatMap.mp hwrite
    exact alertFree_mergeEvent event write hwrite
  have freeIncidents := alertFree_incidents hraised
  have keyedAlerts : ∀ write ∈ (alertStore.list none none none).flatMap mergeAlert,
      Keyed .alert .alertId write.statement := by
    intro write hwrite
    obtain ⟨alert, -, hwrite⟩ := List.mem_flatMap.mp hwrite
    exact keyed_mergeAlert alert write hwrite
  have merged : (((alertStore.list none none none).flatMap mergeAlert).map
      (·.statement)).filterMap (mergedKey .alert) =
        (alertStore.list none none none).map fun alert => Value.text alert.alertId := by
    induction alertStore.list none none none with
    | nil => rfl
    | cons alert rest ih =>
        rw [List.flatMap_cons, List.map_append, List.filterMap_append,
          filterMap_mergedKey_mergeAlert, ih]
        rfl
  let statements := (LoadTopology.topology ++ (collected.flatMap mergeEvent ++
    (alertStore.list none none none).flatMap mergeAlert ++ raised) ++
      LoadSecurityKnowledge.knowledge).map (·.statement)
  have whole : load [(lit "topology", LoadTopology.topology),
      (lit "events", collected.flatMap mergeEvent ++
        (alertStore.list none none none).flatMap mergeAlert ++ raised),
      (lit "security-knowledge", LoadSecurityKnowledge.knowledge)] =
        Graph.run PropertyGraph.empty statements := by
    simp only [statements, load, apply, List.foldl_cons, List.foldl_nil, List.map_append,
      run_append]
  have keyed : ∀ statement ∈ statements, Keyed .alert .alertId statement := by
    intro statement hstatement
    obtain ⟨write, hwrite, rfl⟩ := List.mem_map.mp hstatement
    simp only [List.mem_append] at hwrite
    rcases hwrite with (topology | (events | alerts) | incidents) | knowledge
    · exact (alertFree_topology write topology).1
    · exact (freeEvents write events).1
    · exact keyedAlerts write alerts
    · exact (freeIncidents write incidents).1
    · exact (alertFree_knowledge write knowledge).1
  rw [whole, keyColumn_run keyed, keyColumn_empty]
  simp only [statements, List.map_append, List.filterMap_append,
    filterMap_mergedKey_of_alertFree alertFree_topology,
    filterMap_mergedKey_of_alertFree freeEvents,
    filterMap_mergedKey_of_alertFree freeIncidents,
    filterMap_mergedKey_of_alertFree alertFree_knowledge, merged, List.nil_append,
    List.append_nil, List.map_map]
  rfl

/-- Loading alerts into an empty graph makes one node for each exactly when their
identifiers are distinct. -/
theorem oneNodePerAlert_iff {store : EventStore} {keyed : List Alert} {eventWrites : List Write}
    (hevents : LoadEvents.events store (AlertStore.empty.extend keyed).1 = .ok eventWrites) :
    OneNodePerAlert (load [(lit "topology", LoadTopology.topology), (lit "events", eventWrites),
        (lit "security-knowledge", LoadSecurityKnowledge.knowledge)]) keyed ↔
      (keyed.map (·.alertId)).Nodup := by
  let held := (AlertStore.empty.extend keyed).1
  let node : Str → Option Value := fun alertId => some (.text alertId)
  have injective : Function.Injective node := fun _ _ same =>
    Value.text.inj (Option.some.inj same)
  have listed : ((held.list none none none).map (·.alertId)).Perm
      ((keyed.map (·.alertId)).foldl appendNew []) :=
    AlertStore.perm_alertId_list_extend keyed
  have distinct : ((held.list none none none).map (·.alertId)).Nodup :=
    listed.nodup_iff.mpr (nodup_foldl_appendNew List.nodup_nil)
  have column : (keyColumn .alert .alertId (load [(lit "topology", LoadTopology.topology),
      (lit "events", eventWrites),
      (lit "security-knowledge", LoadSecurityKnowledge.knowledge)])).Perm
        (((keyed.map (·.alertId)).foldl appendNew []).map node) := by
    rw [keyColumn_load hevents]
    have nodes : ((held.list none none none).map fun alert => node alert.alertId) =
        ((held.list none none none).map (·.alertId)).map node := by
      rw [List.map_map]
      rfl
    refine (perm_foldl_appendNew_iff.mpr ?_).trans ((List.Perm.of_eq nodes).trans (listed.map node))
    rw [nodes]
    exact distinct.map injective
  have target : (keyed.map fun alert => node alert.alertId) =
      (keyed.map (·.alertId)).map node := by
    rw [List.map_map]
    rfl
  rw [OneNodePerAlert, ← perm_foldl_appendNew_iff]
  constructor
  · intro each
    exact (List.map_perm_map_iff injective).mp
      ((column.symm.trans each).trans (List.Perm.of_eq target))
  · intro kept
    exact column.trans ((kept.map node).trans (List.Perm.of_eq target.symm))

end SentinelIR.Loader
