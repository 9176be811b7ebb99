/-
# The order in which logs arrive

The event store sorts by second and keeps the order of arrival within one. Three
rules attribute their alert to the newest event of the evidence, so two events of
one second can take that place in turn: the alerts, and the identifiers digested
from them, are those of any order exactly when the newest events of each
finding agree on what is taken from them.
-/

import SentinelIR.Loader.Collapse
import SentinelIR.Rules.Main

namespace SentinelIR.Loader

open SentinelIR.Py SentinelIR.Common SentinelIR.Alerts SentinelIR.Collector SentinelIR.Rules
open LoadEvents

/-! ## What is taken from the newest event -/

/-- The entity of a failing service: what its newest failure affected. -/
def failedEntity (event : SecurityEvent) : Str :=
  match event.affectedEntity with
  | some (c :: entity) => c :: entity
  | _ => event.endpoint

/-- The service, the user and the entity a rule takes from the newest event of
its evidence. -/
def ruleTaken (rule : Fin 4) (event : SecurityEvent) : Option Str × Option Str × Option Str :=
  match rule with
  | 0 => (some event.serviceName.value, none, none)
  | 1 => (some event.serviceName.value, event.userId, none)
  | 2 => (none, none, none)
  | 3 => (none, none, some (failedEntity event))

/-- The part of an alert's attribution its rule takes from the newest event. -/
def takenPart (rule : Fin 4) (service user entity : Option Str) :
    Option Str × Option Str × Option Str :=
  match rule with
  | 0 => (service, none, none)
  | 1 => (service, user, none)
  | 2 => (none, none, none)
  | 3 => (none, none, entity)

theorem takenPart_eq {now : Datetime} {events : List SecurityEvent} {subject : Subject}
    {newest : SecurityEvent} (hnewest : (subject.evidence now events).getLast? = some newest) :
    takenPart subject.rule (subject.affectedService now events) (subject.affectedUser now events)
      (subject.affectedEntity now events) = ruleTaken subject.rule newest := by
  cases subject with
  | source sourceIp => rfl
  | service name =>
      simp only [takenPart, ruleTaken, Subject.rule, Subject.affectedEntity, hnewest,
        Option.map_some]
      rfl
  | _ =>
      simp only [takenPart, ruleTaken, Subject.rule, Subject.affectedService, Subject.affectedUser,
        hnewest, Option.map_some, Option.bind_some]

/-- No event of the evidence is newer. -/
def Newest (events : List SecurityEvent) (event : SecurityEvent) : Prop :=
  event ∈ events ∧ ∀ other ∈ events, timeOf other ≤ timeOf event

/-- The newest events of each finding agree on what its rule takes from them. -/
def SettledTies (now : Datetime) (events : List SecurityEvent) : Prop :=
  ∀ subject : Subject, subject.Over now events →
    ∀ first second, Newest (subject.evidence now events) first →
      Newest (subject.evidence now events) second →
        ruleTaken subject.rule first = ruleTaken subject.rule second

/-! ## Orders that agree on the newest event -/

section Attribution

variable {now : Datetime} {events first second : List SecurityEvent} {subject : Subject}

theorem perm_evidence_of_perm (same : first.Perm second) (subject : Subject) :
    (subject.evidence now first).Perm (subject.evidence now second) :=
  ((Subject.perm_evidence now first subject).trans (same.filter _)).trans
    (Subject.perm_evidence now second subject).symm

theorem over_of_perm (same : first.Perm second) :
    subject.Over now first ↔ subject.Over now second := by
  rw [Subject.over_iff_reaches, Subject.over_iff_reaches]
  exact Subject.Reaches.perm (perm_evidence_of_perm same subject)

theorem singleUser_of_perm (same : first.Perm second) :
    AbnormalRate.singleUser first = AbnormalRate.singleUser second := by
  have users : distinctTexts (·.userId) first = distinctTexts (·.userId) second :=
    sortedBy_id_eq_of_perm ((same.filterMap _).filter _).dedup
  simp only [AbnormalRate.singleUser, users]

theorem endpointsOf_of_perm (same : first.Perm second) :
    UnauthorisedAccess.endpointsOf first = UnauthorisedAccess.endpointsOf second :=
  sortedBy_id_eq_of_perm (same.map _).dedup

theorem servicesOf_of_perm (same : first.Perm second) :
    AbnormalRate.servicesOf first = AbnormalRate.servicesOf second :=
  sortedBy_id_eq_of_perm (same.map _).dedup

/-- Two orders of the same events attribute a finding alike when they agree on
what is taken from the newest event. -/
theorem attribution_of_perm (same : first.Perm second) {newest last : SecurityEvent}
    (hfirst : (subject.evidence now first).getLast? = some newest)
    (hsecond : (subject.evidence now second).getLast? = some last)
    (taken : ruleTaken subject.rule newest = ruleTaken subject.rule last) :
    subject.severity now first = subject.severity now second ∧
      subject.affectedService now first = subject.affectedService now second ∧
      subject.affectedUser now first = subject.affectedUser now second ∧
      subject.affectedEntity now first = subject.affectedEntity now second := by
  have evidence : (subject.evidence now first).Perm (subject.evidence now second) :=
    perm_evidence_of_perm same subject
  rw [← takenPart_eq hfirst, ← takenPart_eq hsecond] at taken
  cases subject with
  | account userId =>
      simp only [takenPart, Subject.rule, Prod.mk.injEq, and_true] at taken
      exact ⟨rfl, taken, rfl, rfl⟩
  | address sourceIp =>
      simp only [takenPart, Subject.rule, Prod.mk.injEq, and_true] at taken
      exact ⟨rfl, taken, singleUser_of_perm evidence, rfl⟩
  | refused caller =>
      simp only [takenPart, Subject.rule, Prod.mk.injEq, and_true] at taken
      refine ⟨?_, taken.1, taken.2, ?_⟩
      · simp only [Subject.severity, endpointsOf_of_perm evidence]
      · simp only [Subject.affectedEntity, endpointsOf_of_perm evidence]
  | source sourceIp =>
      refine ⟨rfl, ?_, singleUser_of_perm evidence, rfl⟩
      simp only [Subject.affectedService, servicesOf_of_perm evidence]
  | service name =>
      simp only [takenPart, Subject.rule, Prod.mk.injEq, true_and] at taken
      exact ⟨rfl, rfl, rfl, taken⟩

/-- The last event of the evidence is one of its newest. -/
theorem newest_getLast (hover : subject.Over now events) :
    ∃ last, (subject.evidence now events).getLast? = some last ∧
      Newest (subject.evidence now events) last := by
  obtain ⟨last, hlast⟩ := Option.isSome_iff_exists.mp
    (List.getLast?_isSome.mpr (Subject.evidence_ne_nil hover))
  refine ⟨last, hlast, List.mem_of_getLast? hlast, fun other hother => ?_⟩
  obtain ⟨front, happend⟩ := List.getLast?_eq_some_iff.mp hlast
  have ordered := Subject.pairwise_evidence now events subject
  rw [happend, List.pairwise_append] at ordered
  rw [happend, List.mem_append, List.mem_singleton] at hother
  rcases hother with hfront | rfl
  · exact ordered.2.2 other hfront last (List.mem_singleton.mpr rfl)
  · exact le_refl _

theorem Newest.of_perm {event : SecurityEvent} (same : first.Perm second)
    (newest : Newest first event) : Newest second event :=
  ⟨same.mem_iff.mp newest.1, fun other hother => newest.2 other (same.mem_iff.mpr hother)⟩

/-- Where ties are settled every order attributes a finding alike. -/
theorem attribution_of_settled (settled : SettledTies now events) (hfirst : first.Perm events)
    (hsecond : second.Perm events) (hover : subject.Over now events) :
    subject.severity now first = subject.severity now second ∧
      subject.affectedService now first = subject.affectedService now second ∧
      subject.affectedUser now first = subject.affectedUser now second ∧
      subject.affectedEntity now first = subject.affectedEntity now second := by
  obtain ⟨newest, hnewest, greatest⟩ := newest_getLast ((over_of_perm hfirst).mpr hover)
  obtain ⟨last, hlast, greatest'⟩ := newest_getLast ((over_of_perm hsecond).mpr hover)
  apply attribution_of_perm (hfirst.trans hsecond.symm) hnewest hlast
  exact settled subject hover newest last
    (greatest.of_perm (perm_evidence_of_perm hfirst subject))
    (greatest'.of_perm (perm_evidence_of_perm hsecond subject))

end Attribution

/-! ## The order that brings an event to the end -/

/-- The events in the order that has one of them arrive last. -/
def moveLast (events : List SecurityEvent) (event : SecurityEvent) : List SecurityEvent :=
  events.erase event ++ [event]

theorem perm_moveLast {events : List SecurityEvent} {event : SecurityEvent}
    (hevent : event ∈ events) : (moveLast events event).Perm events :=
  (List.perm_append_comm).trans (List.perm_cons_erase hevent).symm

/-- Arriving last, a newest event of the evidence ends it. -/
theorem getLast?_moveLast {wanted : SecurityEvent → Bool} {window : Micros} {now : Datetime}
    {events : List SecurityEvent} {event : SecurityEvent}
    (newest : Newest (evidence wanted window now events) event) :
    (evidence wanted window now (moveLast events event)).getLast? = some event := by
  obtain ⟨hevent, greatest⟩ := newest
  have cited := Rules.mem_evidence.mp hevent
  let counted : SecurityEvent → Bool :=
    fun event => decide (Windowed window now event) && wanted event
  have kept : counted event = true := by
    simp only [counted, decide_eq_true cited.2.1, cited.2.2, Bool.and_self]
  have commuted : evidence wanted window now (moveLast events event) =
      sortedBy timeOf ((events.erase event).filter counted ++ [event]) := by
    have ends : [event].filter counted = [event] := List.filter_eq_self.mpr fun other hother => by
      rwa [List.mem_singleton.mp hother]
    calc evidence wanted window now (moveLast events event)
        = sortedBy timeOf ((moveLast events event).filter counted) := filter_sortedBy _ _ _
      _ = sortedBy timeOf ((events.erase event).filter counted ++ [event]) := by
          rw [moveLast, List.filter_append, ends]
  have before : ∀ other ∈ (events.erase event).filter counted, timeOf other ≤ timeOf event := by
    intro other hother
    obtain ⟨stored, hcounted⟩ := List.mem_filter.mp hother
    simp only [counted, Bool.and_eq_true, decide_eq_true_eq] at hcounted
    exact greatest other (Rules.mem_evidence.mpr
      ⟨List.mem_of_mem_erase stored, hcounted.1, hcounted.2⟩)
  rw [commuted, sortedBy_append_singleton before, List.getLast?_concat]

/-- Except for a request source, whose alert takes nothing from it. -/
theorem getLast?_evidence_moveLast {now : Datetime} {events : List SecurityEvent}
    {subject : Subject} {event : SecurityEvent} (named : subject.rule ≠ 2)
    (newest : Newest (subject.evidence now events) event) :
    (subject.evidence now (moveLast events event)).getLast? = some event := by
  cases subject with
  | source sourceIp => exact absurd rfl named
  | _ => exact getLast?_moveLast newest

/-- Evidence with the same members is the same list. -/
theorem evidence_eq_of_mem_iff {now : Datetime} {events : List SecurityEvent}
    {subject twin : Subject} (named : subject.rule ≠ 2) (hrule : subject.rule = twin.rule)
    (same : ∀ event, event ∈ subject.evidence now events ↔ event ∈ twin.evidence now events) :
    subject.evidence now events = twin.evidence now events := by
  have filters (subject : Subject) (named : subject.rule ≠ 2) : subject.evidence now events =
      (chronological events).filter fun event =>
        decide (Windowed subject.window now event) && subject.watches event := by
    cases subject with
    | source sourceIp => exact absurd rfl named
    | _ => rfl
  rw [filters subject named, filters twin (hrule ▸ named)]
  apply List.filter_congr
  intro event hevent
  have stored := mem_chronological.mp hevent
  have members := same event
  simp only [Subject.mem_evidence, stored, true_and] at members
  rw [Bool.eq_iff_iff, Bool.and_eq_true, Bool.and_eq_true, decide_eq_true_eq, decide_eq_true_eq]
  exact members

/-! ## Every order -/

section Orders

variable [UnicodeDb]

/-- What an alert says, with the cited events as a set. -/
def content (alert : AlertFields) :
    Str × Severity × Option Str × Option Str × Option Str × Finset Str :=
  (alert.ruleName, alert.severity, alert.affectedService, alert.affectedUser,
    alert.affectedEntity, alert.relatedEvents.toFinset)

/-- Whatever order the events arrive in, the same alerts are raised and get the
same stable identifiers. -/
def OrderFree (now : Datetime) (events : List SecurityEvent) : Prop :=
  ∀ first second : List SecurityEvent, first.Perm events → second.Perm events →
    (∀ (ids others : AlertIds) (raised again : List Alert),
      evaluateAll ids ⟨first⟩ now = .ok raised → evaluateAll others ⟨second⟩ now = .ok again →
        (raised.map fun alert => content alert.toAlertFields).Perm
          (again.map fun alert => content alert.toAlertFields)) ∧
    ∀ (digest : Digest) (ids others : AlertIds) (keyed again : List Alert),
      stableAlerts ids digest ⟨first⟩ now = .ok keyed →
        stableAlerts others digest ⟨second⟩ now = .ok again →
          (keyed.map fun alert => (content alert.toAlertFields, alert.alertId)).Perm
            (again.map fun alert => (content alert.toAlertFields, alert.alertId))

variable {now : Datetime} {events first second : List SecurityEvent}

theorem content_eq (events : List SecurityEvent) (subject : Subject) :
    content (subject.alert now events) =
      (subject.info.name, subject.severity now events, subject.affectedService now events,
        subject.affectedUser now events, subject.affectedEntity now events,
        ((subject.evidence now events).map (·.eventId)).toFinset) := by
  simp only [content, Subject.alert_ruleName, Subject.alert_severity,
    Subject.alert_affectedService, Subject.alert_affectedUser, Subject.alert_affectedEntity,
    Subject.alert_relatedEvents]

/-- Settled ties give every finding one content and one identifier. -/
theorem same_of_settled (settled : SettledTies now events) (hfirst : first.Perm events)
    (hsecond : second.Perm events) (digest : Digest) {subject : Subject}
    (hover : subject.Over now events) :
    (content (subject.alert now first), stableId digest now first subject) =
      (content (subject.alert now second), stableId digest now second subject) := by
  obtain ⟨severity, service, user, entity⟩ :=
    attribution_of_settled settled hfirst hsecond hover
  have evidence : (subject.evidence now first).Perm (subject.evidence now second) :=
    perm_evidence_of_perm (hfirst.trans hsecond.symm) subject
  have cited := evidence.map (·.eventId)
  have material : footprint now first subject = footprint now second subject := by
    simp only [footprint, service, user, entity, sortedBy_id_eq_of_perm cited]
  rw [content_eq, content_eq, severity, service, user, entity, stableId, stableId, material_alert,
    material_alert, material, List.toFinset_eq_of_perm _ _ cited]

theorem orderFree_of_settled (settled : SettledTies now events) : OrderFree now events := by
  intro first second hfirst hsecond
  have subjects : (overSubjects now first).Perm (overSubjects now second) :=
    perm_overSubjects fun subject => over_of_perm (hfirst.trans hsecond.symm)
  have alike {β : Type} (report : List SecurityEvent → Subject → β)
      (same : ∀ subject : Subject, subject.Over now events →
        report first subject = report second subject) :
      ((overSubjects now first).map (report first)).Perm
        ((overSubjects now second).map (report second)) := by
    refine (List.Perm.of_eq (List.map_congr_left fun subject hsubject => ?_)).trans
      (subjects.map (report second))
    exact same subject ((over_of_perm hfirst).mp (mem_overSubjects.mp hsubject))
  constructor
  · intro ids others raised again hraised hagain
    have fields := congrArg (List.map content) (evaluateAll_eq_ok hraised)
    have fields' := congrArg (List.map content) (evaluateAll_eq_ok hagain)
    rw [List.map_map, List.map_map] at fields fields'
    refine (List.Perm.of_eq fields).trans (.trans ?_ (List.Perm.of_eq fields').symm)
    exact alike (fun events subject => content (subject.alert now events)) fun subject hover =>
      congrArg Prod.fst (same_of_settled settled hfirst hsecond id hover)
  · intro digest ids others keyed again hkeyed hagain
    have entries := congrArg (List.map fun entry : AlertFields × Str => (content entry.1, entry.2))
      (stableAlerts_eq_ok hkeyed)
    have entries' := congrArg (List.map fun entry : AlertFields × Str => (content entry.1, entry.2))
      (stableAlerts_eq_ok hagain)
    rw [List.map_map, List.map_map] at entries entries'
    refine (List.Perm.of_eq entries).trans (.trans ?_ (List.Perm.of_eq entries').symm)
    exact alike (fun events subject =>
        (content (subject.alert now events), stableId digest now events subject))
      fun subject hover => same_of_settled settled hfirst hsecond digest hover

/-- An order-free evaluation has settled ties: bring each of two newest events to
the end and compare. -/
theorem settled_of_orderFree (distinct : (events.map (·.eventId)).Nodup)
    (readable : Readable events) (fits : WindowFits UnauthorisedAccess.detectionWindow now)
    (free : OrderFree now events) : SettledTies now events := by
  intro subject hover newest last hnewest hlast
  by_cases named : subject.rule = 2
  · rw [named]
    rfl
  have hfirst := perm_moveLast (Subject.mem_events_of_mem_evidence hnewest.1)
  have hsecond := perm_moveLast (Subject.mem_events_of_mem_evidence hlast.1)
  obtain ⟨bodies, hbodies, -⟩ := evaluateBodies_eq ⟨moveLast events newest⟩ fits
    (readable.subset hfirst.subset)
  obtain ⟨others, hothers, -⟩ := evaluateBodies_eq ⟨moveLast events last⟩ fits
    (readable.subset hsecond.subset)
  have hraised : evaluateAll (fun _ => []) ⟨moveLast events newest⟩ now = .ok _ :=
    congrArg (Except.map _) hbodies
  have hagain : evaluateAll (fun _ => []) ⟨moveLast events last⟩ now = .ok _ :=
    congrArg (Except.map _) hothers
  have perm := (free _ _ hfirst hsecond).1 _ _ _ _ hraised hagain
  have fields := congrArg (List.map content) (evaluateAll_eq_ok hraised)
  have fields' := congrArg (List.map content) (evaluateAll_eq_ok hagain)
  rw [List.map_map, List.map_map] at fields fields'
  have member : content (subject.alert now (moveLast events newest)) ∈
      (overSubjects now (moveLast events last)).map
        (content ∘ Subject.alert now (moveLast events last)) := by
    refine fields' ▸ perm.mem_iff.mp (fields ▸ List.mem_map_of_mem ?_)
    exact mem_overSubjects.mpr ((over_of_perm hfirst).mpr hover)
  obtain ⟨twin, -, htwin⟩ := List.mem_map.mp member
  rw [Function.comp_apply, content_eq, content_eq] at htwin
  simp only [Prod.mk.injEq] at htwin
  obtain ⟨name, -, service, user, entity, cited⟩ := htwin
  have hrule : twin.rule = subject.rule := by
    rw [name_eq_ruleName, name_eq_ruleName] at name
    exact ruleName_injective name
  -- With distinct identifiers the twin rests on the same events, so on the same last one.
  have members (event : SecurityEvent) :
      event ∈ subject.evidence now (moveLast events last) ↔
        event ∈ twin.evidence now (moveLast events last) := by
    rw [(perm_evidence_of_perm (hsecond.trans hfirst.symm) subject).mem_iff]
    have stored {subject : Subject} {order : List SecurityEvent} (horder : order.Perm events)
        {event : SecurityEvent} (hevent : event ∈ subject.evidence now order) : event ∈ events :=
      horder.mem_iff.mp (Subject.mem_events_of_mem_evidence hevent)
    have ids (eventId : Str) := Finset.ext_iff.mp cited eventId
    simp only [List.mem_toFinset, List.mem_map] at ids
    constructor
    · intro hevent
      obtain ⟨other, hother, same⟩ := (ids event.eventId).mpr ⟨event, hevent, rfl⟩
      rwa [← List.inj_on_of_nodup_map distinct (stored hsecond hother) (stored hfirst hevent) same]
    · intro hevent
      obtain ⟨other, hother, same⟩ := (ids event.eventId).mp ⟨event, hevent, rfl⟩
      rwa [← List.inj_on_of_nodup_map distinct (stored hfirst hother) (stored hsecond hevent) same]
  have hends := getLast?_evidence_moveLast named hnewest
  have hends' := getLast?_evidence_moveLast named hlast
  rw [evidence_eq_of_mem_iff named hrule.symm members] at hends'
  rw [← takenPart_eq hends, ← service, ← user, ← entity, ← hrule]
  exact takenPart_eq hends'

/-- Every order of the same events raises the same alerts under the same
identifiers, where these could be computed (`exists_stableAlerts_iff`), exactly when
ties are settled, or the window leaves the calendar and nothing is raised at all. -/
theorem orderFree_iff (now : Datetime) (events : List SecurityEvent)
    (distinct : (events.map (·.eventId)).Nodup) (readable : Readable events) :
    OrderFree now events ↔
      (WindowFits UnauthorisedAccess.detectionWindow now → SettledTies now events) := by
  constructor
  · exact fun free fits => settled_of_orderFree distinct readable fits free
  · intro settled
    by_cases fits : WindowFits UnauthorisedAccess.detectionWindow now
    · exact orderFree_of_settled (settled fits)
    · intro first second _ _
      constructor
      · intro ids others raised again hraised _
        exact absurd (readable_of_evaluateAll hraised).1 fits
      · intro digest ids others keyed again hkeyed _
        obtain ⟨alerts, halerts, -⟩ := bind_eq_ok hkeyed
        exact absurd (readable_of_evaluateAll halerts).1 fits

end Orders

/-! ## Two containers in one second -/

/-- A request of `mallory` refused by a service. -/
def refusal (service : ServiceName) (suffix moment : Fin 60) : SecurityEvent :=
  EventBody.stamp
    ⟨{ serviceName := service
       eventType := .requestCompleted
       severity := .low
       userId := some "mallory"
       sourceIp := some "203.0.113.9"
       endpoint := "/api/v1/assets"
       httpMethod := "DELETE"
       statusCode := 403
       message := "Request completed for /api/v1/assets with 403"
       correlationId := "corr-000000000001" }, by cases service <;> decide +kernel⟩
    ⟨suffix, second moment⟩

/-- Three refusals, the last two by different services in one second. -/
def refusals : List SecurityEvent :=
  [refusal .asset 1 1, refusal .asset 2 2, refusal .incident 3 2]

theorem distinct_refusals : (refusals.map (·.eventId)).Nodup := by decide +kernel

theorem readable_refusals : Readable refusals := by decide +kernel

theorem fits_refusals : WindowFits UnauthorisedAccess.detectionWindow (second 3).time := by
  decide +kernel

/-- Either service can have the last word on `mallory`. -/
theorem not_settled_refusals : ¬ SettledTies (second 3).time refusals := by
  intro settled
  have hover : (Subject.refused "mallory").Over (second 3).time refusals := by decide +kernel
  have evidence : (Subject.refused "mallory").evidence (second 3).time refusals = refusals := by
    decide +kernel
  have tie := settled _ hover (refusal .asset 2 2) (refusal .incident 3 2)
  rw [evidence] at tie
  have newest : ∀ other ∈ refusals, timeOf other ≤ timeOf (refusal .asset 2 2) := by
    decide +kernel
  have newest' : ∀ other ∈ refusals, timeOf other ≤ timeOf (refusal .incident 3 2) := by
    decide +kernel
  have taken := tie ⟨by decide +kernel, newest⟩ ⟨by decide +kernel, newest'⟩
  exact absurd (congrArg Prod.fst taken) (by decide +kernel)

theorem refusals_not_orderFree : letI := printsAll
    ¬ ∀ (now : Datetime) (events : List SecurityEvent), (events.map (·.eventId)).Nodup →
      Readable events → OrderFree now events := by
  let _ := printsAll
  intro free
  exact not_settled_refusals (settled_of_orderFree distinct_refusals readable_refusals
    fits_refusals (free _ _ distinct_refusals readable_refusals))

theorem orderFree_refusals : letI := printsAll
    ¬ OrderFree (second 3).time refusals := by
  let _ := printsAll
  rw [orderFree_iff _ _ distinct_refusals readable_refusals]
  exact fun settled => not_settled_refusals (settled fits_refusals)

end SentinelIR.Loader
