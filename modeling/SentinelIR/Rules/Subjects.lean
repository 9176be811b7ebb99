/-
# What the catalogue raises

The four rules compute their alerts in loops over groups. What those loops
compute can be said without them: a subject is an account, an address, a refused
caller, a request source or a service; its evidence is a list of events of the
window; and the catalogue raises exactly one alert for every subject whose
evidence reaches its rule's threshold. `evaluateBodies_eq` connects this
description to the catalogue.
-/

import SentinelIR.Rules.Catalogue

namespace SentinelIR.Rules

open SentinelIR.Py SentinelIR.Common SentinelIR.Alerts SentinelIR.Collector

/-- Who or what an alert is about, one constructor per grouping key. -/
inductive Subject
  /-- An account under attack. -/
  | account (userId : Str)
  /-- An address attacking the login endpoint. -/
  | address (sourceIp : Str)
  /-- A caller refused on protected routes. -/
  | refused (caller : Str)
  /-- A source of too many requests. -/
  | source (sourceIp : Str)
  /-- A failing service. -/
  | service (name : Str)
  deriving DecidableEq

namespace Subject

/-- The rule that watches the subject. -/
def info : Subject → RuleInfo
  | account _ => FailedLogins.info
  | address _ => FailedLogins.info
  | refused _ => UnauthorisedAccess.info
  | source _ => AbnormalRate.info
  | service _ => ServiceFailure.info

/-- Positions in the catalogue may be written as numerals. -/
instance rules_neZero : NeZero 4 := ⟨by decide⟩

/-- The position of the subject's rule in the catalogue. -/
def rule : Subject → Fin 4
  | account _ => 0
  | address _ => 0
  | refused _ => 1
  | source _ => 2
  | service _ => 3

/-- The events of the window that speak about the subject, oldest first. -/
def evidence (now : Datetime) (events : List SecurityEvent) : Subject → List SecurityEvent
  | account userId =>
      Rules.evidence (fun event => FailedLogins.isFailure event && event.userId = some userId)
        FailedLogins.detectionWindow now events
  | address sourceIp =>
      Rules.evidence (fun event => FailedLogins.isFailure event && event.sourceIp = some sourceIp)
        FailedLogins.detectionWindow now events
  | refused caller =>
      Rules.evidence
        (fun event => UnauthorisedAccess.isRefusal event &&
          UnauthorisedAccess.subjectOf event = caller)
        UnauthorisedAccess.detectionWindow now events
  | source sourceIp =>
      AbnormalRate.evidenceOf
        (Rules.evidence (fun _ => true) AbnormalRate.detectionWindow now events) sourceIp
  | service name =>
      Rules.evidence
        (fun event => ServiceFailure.isSignal event && event.serviceName.value = name)
        ServiceFailure.detectionWindow now events

/-- The evidence reaches the threshold of the subject's rule. -/
def Over (now : Datetime) (events : List SecurityEvent) : Subject → Prop
  | account userId => 5 ≤ ((account userId).evidence now events).length
  | address sourceIp => 5 ≤ ((address sourceIp).evidence now events).length
  | refused caller => 3 ≤ ((refused caller).evidence now events).length
  | source sourceIp =>
      let windowed := Rules.evidence (fun _ => true) AbnormalRate.detectionWindow now events
      3 ≤ (AbnormalRate.refusalsOf windowed sourceIp).length ∨
        30 ≤ (AbnormalRate.requestsOf windowed sourceIp).length
  | service name => ServiceFailure.fires ((service name).evidence now events) = true

instance (now : Datetime) (events : List SecurityEvent) (subject : Subject) :
    Decidable (subject.Over now events) :=
  match subject with
  | account _ => inferInstanceAs (Decidable (_ ≤ _))
  | address _ => inferInstanceAs (Decidable (_ ≤ _))
  | refused _ => inferInstanceAs (Decidable (_ ≤ _))
  | source _ => inferInstanceAs (Decidable (_ ∨ _))
  | service _ => inferInstanceAs (Decidable (_ = true))

/-- What the subject's rule reports about it. -/
def finding [UnicodeDb] (now : Datetime) (events : List SecurityEvent) : Subject → Finding
  | account userId => FailedLogins.userFinding userId ((account userId).evidence now events)
  | address sourceIp => FailedLogins.ipFinding sourceIp ((address sourceIp).evidence now events)
  | refused caller => UnauthorisedAccess.finding caller ((refused caller).evidence now events)
  | source sourceIp =>
      let windowed := Rules.evidence (fun _ => true) AbnormalRate.detectionWindow now events
      AbnormalRate.finding sourceIp ((source sourceIp).evidence now events)
        (AbnormalRate.reasonsFor (AbnormalRate.refusalsOf windowed sourceIp)
          (AbnormalRate.requestsOf windowed sourceIp))
  | service name =>
      let windowed := Rules.evidence (fun _ => true) ServiceFailure.detectionWindow now events
      ServiceFailure.finding name ((service name).evidence now events)
        ((ServiceFailure.recovered windowed).contains name)

/-- The service the alert names: that of the newest event, the only service of a
request source, or the failing service itself. -/
def affectedService (now : Datetime) (events : List SecurityEvent) (subject : Subject) :
    Option Str :=
  match subject with
  | source _ =>
      let services := AbnormalRate.servicesOf (subject.evidence now events)
      if services.length = 1 then services.head? else none
  | service name => some name
  | _ => (subject.evidence now events).getLast?.map (·.serviceName.value)

/-- The user the alert names: the account under attack, the only account an
address or a source used, or the user of the newest refusal. -/
def affectedUser (now : Datetime) (events : List SecurityEvent) (subject : Subject) :
    Option Str :=
  match subject with
  | account userId => some userId
  | refused _ => (subject.evidence now events).getLast?.bind (·.userId)
  | service _ => none
  | _ => AbnormalRate.singleUser (subject.evidence now events)

/-- The entity the alert names: the login endpoint, the first privileged endpoint
of the refusals or else their first, the source, or what the newest failure
affected. -/
def affectedEntity (now : Datetime) (events : List SecurityEvent) (subject : Subject) :
    Option Str :=
  match subject with
  | refused _ =>
      let endpoints := UnauthorisedAccess.endpointsOf (subject.evidence now events)
      let privileged := endpoints.filter UnauthorisedAccess.isPrivileged
      if privileged = [] then endpoints.head? else privileged.head?
  | source sourceIp => some sourceIp
  | service _ =>
      (subject.evidence now events).getLast?.map fun last =>
        match last.affectedEntity with
        | some (c :: entity) => c :: entity
        | _ => last.endpoint
  | _ => some "login-endpoint"

/-- The severity of the alert: refusals are raised to `HIGH` by a privileged route. -/
def severity (now : Datetime) (events : List SecurityEvent) (subject : Subject) : Severity :=
  match subject with
  | refused _ =>
      if (UnauthorisedAccess.endpointsOf (subject.evidence now events)).filter
          UnauthorisedAccess.isPrivileged = [] then .medium else .high
  | _ => .high

/-- The alert about the subject. -/
def alert [UnicodeDb] (now : Datetime) (events : List SecurityEvent) (subject : Subject) :
    AlertFields :=
  alertFields subject.info now (subject.finding now events)

/-! ### What the alert says -/

section Alert

variable [UnicodeDb] (now : Datetime) (events : List SecurityEvent) (subject : Subject)

@[simp]
theorem alert_ruleName : (subject.alert now events).ruleName = subject.info.name := rfl

@[simp]
theorem alert_severity : (subject.alert now events).severity = subject.severity now events := by
  cases subject with
  | refused caller =>
      simp only [alert, alertFields, finding, UnauthorisedAccess.finding, severity]
      split <;> rfl
  | _ => rfl

@[simp]
theorem alert_relatedEvents :
    (subject.alert now events).relatedEvents = (subject.evidence now events).map (·.eventId) := by
  cases subject <;> rfl

@[simp]
theorem alert_affectedService :
    (subject.alert now events).affectedService = subject.affectedService now events := by
  cases subject <;> rfl

@[simp]
theorem alert_affectedUser :
    (subject.alert now events).affectedUser = subject.affectedUser now events := by
  cases subject <;> rfl

@[simp]
theorem alert_affectedEntity :
    (subject.alert now events).affectedEntity = subject.affectedEntity now events := by
  cases subject <;> rfl

end Alert

/-! ### Evidence speaks about its subject -/

/-- The event is about the subject. -/
def Concerns (event : SecurityEvent) : Subject → Prop
  | account userId => event.userId = some userId
  | address sourceIp => event.sourceIp = some sourceIp
  | refused caller => UnauthorisedAccess.subjectOf event = caller
  | source sourceIp => AbnormalRate.sourceOf event = some sourceIp
  | service name => event.serviceName.value = name

/-- Two subjects of one rule that one event is about are the same, or an account
and an address. -/
theorem shares_rule {event : SecurityEvent} {first second : Subject}
    (hrule : first.rule = second.rule) (hfirst : first.Concerns event)
    (hsecond : second.Concerns event) :
    first = second ∨ (∃ userId sourceIp, first = account userId ∧ second = address sourceIp) ∨
      ∃ userId sourceIp, second = account userId ∧ first = address sourceIp := by
  cases first <;> cases second <;> simp_all [rule, Concerns]

section Evidence

variable {now : Datetime} {events : List SecurityEvent} {subject : Subject} {event : SecurityEvent}

theorem mem_evidenceOf {windowed : List SecurityEvent} {sourceIp : Str}
    (hevent : event ∈ AbnormalRate.evidenceOf windowed sourceIp) :
    event ∈ windowed ∧ AbnormalRate.sourceOf event = some sourceIp := by
  simp only [AbnormalRate.evidenceOf, mem_chronological, List.mem_append, AbnormalRate.refusalsOf,
    AbnormalRate.requestsOf, List.mem_filter, decide_eq_true_eq] at hevent
  rcases hevent with ⟨⟨hmem, -⟩, hsource⟩ | ⟨⟨hmem, -⟩, hsource⟩ <;> exact ⟨hmem, hsource⟩

theorem mem_events_of_mem_evidence (hevent : event ∈ subject.evidence now events) :
    event ∈ events := by
  cases subject with
  | source sourceIp => exact (mem_evidence.mp (mem_evidenceOf hevent).1).1
  | _ => exact (mem_evidence.mp hevent).1

theorem concerns_of_mem_evidence (hevent : event ∈ subject.evidence now events) :
    subject.Concerns event := by
  cases subject with
  | source sourceIp => exact (mem_evidenceOf hevent).2
  | _ =>
      have wanted := (mem_evidence.mp hevent).2.2
      simp only [Bool.and_eq_true, decide_eq_true_eq] at wanted
      exact wanted.2

theorem evidence_ne_nil (hover : subject.Over now events) : subject.evidence now events ≠ [] := by
  cases subject with
  | source sourceIp =>
      exact AbnormalRate.evidenceOf_ne_nil (AbnormalRate.mem_offending.mpr hover)
  | service name => exact ServiceFailure.ne_nil_of_fires hover
  | _ =>
      simp only [Over] at hover
      exact List.ne_nil_of_length_pos (by omega)

end Evidence

end Subject

/-- The names of the catalogue's rules. -/
def ruleName : Fin 4 → Str
  | 0 => FailedLogins.info.name
  | 1 => UnauthorisedAccess.info.name
  | 2 => AbnormalRate.info.name
  | 3 => ServiceFailure.info.name

theorem ruleName_injective : Function.Injective ruleName := by
  have injective : ∀ first second, ruleName first = ruleName second → first = second := by decide
  exact fun first second => injective first second

theorem name_eq_ruleName (subject : Subject) : subject.info.name = ruleName subject.rule := by
  cases subject <;> rfl

/-! ## The subjects over their thresholds -/

/-- The groups over the threshold of the login rule, by one of its two keys. -/
def loginGroups (key : SecurityEvent → Option Str) (now : Datetime) (events : List SecurityEvent) :
    List (Str × List SecurityEvent) :=
  FailedLogins.overThreshold key
    (evidence FailedLogins.isFailure FailedLogins.detectionWindow now events)

/-- The groups over the threshold of the refusal rule. -/
def refusalGroups (now : Datetime) (events : List SecurityEvent) :
    List (Str × List SecurityEvent) :=
  UnauthorisedAccess.overThreshold
    (evidence UnauthorisedAccess.isRefusal UnauthorisedAccess.detectionWindow now events)

/-- The sources over a threshold of the rate rule. -/
def offendingSources (now : Datetime) (events : List SecurityEvent) : List Str :=
  AbnormalRate.offending (evidence (fun _ => true) AbnormalRate.detectionWindow now events)

/-- The groups that fire the service rule. -/
def failureGroups (now : Datetime) (events : List SecurityEvent) :
    List (Str × List SecurityEvent) :=
  ServiceFailure.failing (evidence (fun _ => true) ServiceFailure.detectionWindow now events)

/-- Every subject over its threshold, in the order the catalogue reports them. -/
def overSubjects (now : Datetime) (events : List SecurityEvent) : List Subject :=
  (loginGroups (·.userId) now events).map (fun item => .account item.1) ++
    (loginGroups (·.sourceIp) now events).map (fun item => .address item.1) ++
    (refusalGroups now events).map (fun item => .refused item.1) ++
    (offendingSources now events).map .source ++
    (failureGroups now events).map fun item => .service item.1

/-- Filtering the evidence is asking for more. -/
theorem filter_evidence (wanted p : SecurityEvent → Bool) (window : Micros) (now : Datetime)
    (events : List SecurityEvent) :
    (evidence wanted window now events).filter p =
      evidence (fun event => wanted event && p event) window now events := by
  rw [evidence, evidence, List.filter_filter]
  apply List.filter_congr
  intro event _
  rw [Bool.and_left_comm, Bool.and_comm (p event), Bool.and_left_comm]

/-- A group over a threshold is determined by its key. -/
theorem mem_map_key {items : List (Str × List SecurityEvent)} {mk : Str → Subject}
    (hmk : Function.Injective mk) {key : Str} {group : List SecurityEvent} {reached : Prop}
    (hitem : ∀ held, (key, held) ∈ items ↔ held = group ∧ reached) :
    mk key ∈ items.map (fun item => mk item.1) ↔ reached := by
  constructor
  · intro hmem
    obtain ⟨⟨other, held⟩, hheld, hother⟩ := List.mem_map.mp hmem
    obtain rfl : other = key := hmk hother
    exact ((hitem held).mp hheld).2
  · intro hreached
    exact List.mem_map.mpr ⟨(key, group), (hitem group).mpr ⟨rfl, hreached⟩, rfl⟩

theorem mem_loginGroups_account {now : Datetime} {events : List SecurityEvent} {userId : Str}
    (group : List SecurityEvent) :
    (userId, group) ∈ loginGroups (·.userId) now events ↔
      group = (Subject.account userId).evidence now events ∧
        (Subject.account userId).Over now events := by
  rw [loginGroups, FailedLogins.mem_overThreshold, filter_evidence]
  exact and_congr_right fun hgroup => by rw [hgroup]; rfl

theorem mem_loginGroups_address {now : Datetime} {events : List SecurityEvent} {sourceIp : Str}
    (group : List SecurityEvent) :
    (sourceIp, group) ∈ loginGroups (·.sourceIp) now events ↔
      group = (Subject.address sourceIp).evidence now events ∧
        (Subject.address sourceIp).Over now events := by
  rw [loginGroups, FailedLogins.mem_overThreshold, filter_evidence]
  exact and_congr_right fun hgroup => by rw [hgroup]; rfl

theorem mem_refusalGroups {now : Datetime} {events : List SecurityEvent} {caller : Str}
    (group : List SecurityEvent) :
    (caller, group) ∈ refusalGroups now events ↔
      group = (Subject.refused caller).evidence now events ∧
        (Subject.refused caller).Over now events := by
  rw [refusalGroups, UnauthorisedAccess.mem_overThreshold, filter_evidence]
  exact and_congr_right fun hgroup => by rw [hgroup]; rfl

theorem mem_failureGroups {now : Datetime} {events : List SecurityEvent} {name : Str}
    (group : List SecurityEvent) :
    (name, group) ∈ failureGroups now events ↔
      group = (Subject.service name).evidence now events ∧
        (Subject.service name).Over now events := by
  have signals : (evidence (fun _ => true) ServiceFailure.detectionWindow now events).filter
      ServiceFailure.isSignal =
        evidence ServiceFailure.isSignal ServiceFailure.detectionWindow now events := by
    simp [filter_evidence]
  rw [failureGroups, ServiceFailure.mem_failing, signals, filter_evidence]
  exact and_congr_right fun hgroup => by rw [hgroup]; rfl

/-- The list holds exactly the subjects over their thresholds. -/
theorem mem_overSubjects {now : Datetime} {events : List SecurityEvent} {subject : Subject} :
    subject ∈ overSubjects now events ↔ subject.Over now events := by
  cases subject with
  | account userId =>
      rw [← mem_map_key (fun _ _ => Subject.account.inj) mem_loginGroups_account]
      simp [overSubjects]
  | address sourceIp =>
      rw [← mem_map_key (fun _ _ => Subject.address.inj) mem_loginGroups_address]
      simp [overSubjects]
  | refused caller =>
      rw [← mem_map_key (fun _ _ => Subject.refused.inj) mem_refusalGroups]
      simp [overSubjects]
  | source sourceIp =>
      have offending : sourceIp ∈ offendingSources now events ↔
          (Subject.source sourceIp).Over now events := AbnormalRate.mem_offending
      rw [← offending]
      simp [overSubjects]
  | service name =>
      rw [← mem_map_key (fun _ _ => Subject.service.inj) mem_failureGroups]
      simp [overSubjects]

/-- No subject is reported twice. -/
theorem nodup_overSubjects (now : Datetime) (events : List SecurityEvent) :
    (overSubjects now events).Nodup := by
  have keyed {items : List (Str × List SecurityEvent)} {mk : Str → Subject}
      (hmk : Function.Injective mk) (distinct : (items.map Prod.fst).Nodup) :
      (items.map fun item => mk item.1).Nodup := by
    have mapped := distinct.map hmk
    rwa [List.map_map] at mapped
  have accounts := keyed (fun _ _ => Subject.account.inj)
    (FailedLogins.nodup_overThreshold (·.userId)
      (evidence FailedLogins.isFailure FailedLogins.detectionWindow now events))
  have addresses := keyed (fun _ _ => Subject.address.inj)
    (FailedLogins.nodup_overThreshold (·.sourceIp)
      (evidence FailedLogins.isFailure FailedLogins.detectionWindow now events))
  have callers := keyed (fun _ _ => Subject.refused.inj)
    (UnauthorisedAccess.nodup_overThreshold
      (evidence UnauthorisedAccess.isRefusal UnauthorisedAccess.detectionWindow now events))
  have sources := (AbnormalRate.nodup_offending
    (evidence (fun _ => true) AbnormalRate.detectionWindow now events)).map
      (fun _ _ => Subject.source.inj)
  have services := keyed (fun _ _ => Subject.service.inj)
    (ServiceFailure.nodup_failing
      (evidence (fun _ => true) ServiceFailure.detectionWindow now events))
  simp only [overSubjects, List.nodup_append]
  refine ⟨⟨⟨⟨accounts, addresses, ?_⟩, callers, ?_⟩, sources, ?_⟩, services, ?_⟩ <;>
    intro first hfirst second hsecond <;> rintro rfl <;>
    simp only [List.mem_append, List.mem_map] at hfirst hsecond <;> grind

/-! ## The catalogue -/

theorem WindowFits.mono {short long : Micros} {now : Datetime} (fits : WindowFits long now)
    (hle : short ≤ long) : WindowFits short now := le_trans hle fits

variable [UnicodeDb]

theorem map_alert {items : List (Str × List SecurityEvent)} {mk : Str → Subject}
    {report : Str × List SecurityEvent → AlertFields} {now : Datetime}
    {events : List SecurityEvent}
    (agree : ∀ item ∈ items, report item = (mk item.1).alert now events) :
    items.map report = (items.map fun item => mk item.1).map (Subject.alert now events) := by
  rw [List.map_map]
  exact List.map_congr_left agree

section Raised

variable {α : Type} {fieldsOf : α → AlertFields} {raised : List α} {now : Datetime}
  {events : List SecurityEvent}
  (fields : raised.map fieldsOf = (overSubjects now events).map (Subject.alert now events))

include fields

/-- What is raised for the subjects over their thresholds is about one of them. -/
theorem exists_over_of_mem {alert : α} (halert : alert ∈ raised) :
    ∃ subject : Subject, subject.Over now events ∧
      fieldsOf alert = subject.alert now events := by
  have member : fieldsOf alert ∈ raised.map fieldsOf := List.mem_map_of_mem halert
  rw [fields] at member
  obtain ⟨subject, hsubject, same⟩ := List.mem_map.mp member
  exact ⟨subject, mem_overSubjects.mp hsubject, same.symm⟩

/-- Each subject over its threshold is raised. -/
theorem exists_mem_of_over {subject : Subject} (hover : subject.Over now events) :
    ∃ alert ∈ raised, fieldsOf alert = subject.alert now events := by
  have member : subject.alert now events ∈ raised.map fieldsOf := by
    rw [fields]
    exact List.mem_map_of_mem (mem_overSubjects.mpr hover)
  exact List.mem_map.mp member

end Raised

/-- What the refusal rule says of a group is the alert of its caller. -/
theorem alertFields_refusal {now : Datetime} {events : List SecurityEvent} :
    ∀ item ∈ refusalGroups now events,
      alertFields UnauthorisedAccess.info now (UnauthorisedAccess.finding item.1 item.2) =
        (Subject.refused item.1).alert now events := by
  intro item hitem
  rw [((mem_refusalGroups item.2).mp hitem).1]
  rfl

/-- The catalogue raises one alert per subject over its threshold. -/
theorem evaluateBodies_eq (store : EventStore) {now : Datetime}
    (fits : WindowFits UnauthorisedAccess.detectionWindow now) (readable : Readable store.events) :
    ∃ bodies, evaluateBodies store now = .ok bodies ∧
      bodies.map (·.toAlertFields) =
        (overSubjects now store.events).map (Subject.alert now store.events) := by
  obtain ⟨logins, hlogins, loginAlerts⟩ :=
    FailedLogins.evaluate_eq store (fits.mono (by decide)) readable
  obtain ⟨refusals, hrefusals, refusalAlerts⟩ := UnauthorisedAccess.evaluate_eq store fits readable
  obtain ⟨rates, hrates, rateAlerts⟩ :=
    AbnormalRate.evaluate_eq store (fits.mono (by decide)) readable
  obtain ⟨failures, hfailures, failureAlerts⟩ :=
    ServiceFailure.evaluate_eq store (fits.mono (by decide)) readable
  have rules : mapE (fun rule => rule.evaluate store now) allRules =
      .ok [logins, refusals, rates, failures] :=
    mapE_cons_ok hlogins (mapE_cons_ok hrefusals (mapE_cons_ok hrates (mapE_cons_ok hfailures rfl)))
  refine ⟨[logins, refusals, rates, failures].flatten, congrArg (Except.map List.flatten) rules, ?_⟩
  have accounts : ∀ item ∈ loginGroups (·.userId) now store.events,
      alertFields FailedLogins.info now (FailedLogins.userFinding item.1 item.2) =
        (Subject.account item.1).alert now store.events := by
    intro item hitem
    rw [((mem_loginGroups_account item.2).mp hitem).1]
    rfl
  have addresses : ∀ item ∈ loginGroups (·.sourceIp) now store.events,
      alertFields FailedLogins.info now (FailedLogins.ipFinding item.1 item.2) =
        (Subject.address item.1).alert now store.events := by
    intro item hitem
    rw [((mem_loginGroups_address item.2).mp hitem).1]
    rfl
  have services : ∀ item ∈ failureGroups now store.events,
      alertFields ServiceFailure.info now (ServiceFailure.finding item.1 item.2
        ((ServiceFailure.recovered (evidence (fun _ => true) ServiceFailure.detectionWindow now
          store.events)).contains item.1)) =
        (Subject.service item.1).alert now store.events := by
    intro item hitem
    rw [((mem_failureGroups item.2).mp hitem).1]
    rfl
  have sources : rates.map (·.toAlertFields) =
      ((offendingSources now store.events).map Subject.source).map
        (Subject.alert now store.events) := by
    rw [rateAlerts, List.map_map]
    rfl
  calc [logins, refusals, rates, failures].flatten.map (·.toAlertFields)
      = logins.map (·.toAlertFields) ++ refusals.map (·.toAlertFields) ++
          rates.map (·.toAlertFields) ++ failures.map (·.toAlertFields) := by
        simp only [List.flatten_cons, List.flatten_nil, List.append_nil, List.map_append,
          List.append_assoc]
    _ = (overSubjects now store.events).map (Subject.alert now store.events) := by
        rw [loginAlerts.trans (congrArg₂ (· ++ ·) (map_alert accounts) (map_alert addresses)),
          refusalAlerts.trans (map_alert alertFields_refusal), sources,
          failureAlerts.trans (map_alert services)]
        simp only [overSubjects, List.map_append]
        rfl

/-- Outside the calendar or over an unreadable event the catalogue raises. -/
theorem evaluateBodies_raises {store : EventStore} {now : Datetime}
    (bad : ¬ (WindowFits UnauthorisedAccess.detectionWindow now ∧ Readable store.events)) :
    ∃ raised, evaluateBodies store now = .error raised := by
  cases hlists : mapE (fun rule => rule.evaluate store now) allRules with
  | error raised => exact ⟨raised, congrArg (Except.map List.flatten) hlists⟩
  | ok lists =>
      exfalso
      obtain ⟨refusals, hrefusals⟩ : ∃ refusals,
          UnauthorisedAccess.evaluate store now = .ok refusals := by
        cases forall₂_of_mapE_eq_ok hlists with
        | cons _ rest =>
            cases rest with
            | cons hrule _ => exact ⟨_, hrule⟩
      rw [UnauthorisedAccess.evaluate] at hrefusals
      cases hrecent : recentEvents UnauthorisedAccess.isRefusal
          UnauthorisedAccess.detectionWindow store now with
      | error raised =>
          rw [hrecent] at hrefusals
          cases hrefusals
      | ok recent =>
          obtain ⟨fits, readable, -⟩ := recentEvents_eq_ok hrecent
          exact bad ⟨fits, readable⟩

/-- An evaluation that returns has raised one alert per subject over its
threshold. -/
theorem evaluateAll_eq_ok {ids : AlertIds} {store : EventStore} {now : Datetime}
    {alerts : List Alert} (hevaluate : evaluateAll ids store now = .ok alerts) :
    alerts.map (·.toAlertFields) =
      (overSubjects now store.events).map (Subject.alert now store.events) := by
  by_cases good : WindowFits UnauthorisedAccess.detectionWindow now ∧ Readable store.events
  · obtain ⟨bodies, hbodies, hfields⟩ := evaluateBodies_eq store good.1 good.2
    rw [evaluateAll, hbodies] at hevaluate
    obtain rfl : attachIds ids bodies = alerts := Except.ok.inj hevaluate
    rw [← hfields]
    conv_rhs => rw [← map_attachIds ids bodies, List.map_map]
    rfl
  · obtain ⟨raised, hraised⟩ := evaluateBodies_raises good
    rw [evaluateAll, hraised] at hevaluate
    cases hevaluate

end SentinelIR.Rules
