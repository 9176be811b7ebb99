/-
# The evidence of a subject

A subject's evidence is, up to its order, what its rule counts among the windowed
events; whether it reaches the threshold depends on the evidence alone and only
grows with it.
-/

import SentinelIR.Rules.Subjects

namespace SentinelIR.Rules

open SentinelIR.Py SentinelIR.Common SentinelIR.Alerts SentinelIR.Collector

namespace Subject

/-- The detection window of the subject's rule. -/
def window : Subject → Micros
  | account _ => FailedLogins.detectionWindow
  | address _ => FailedLogins.detectionWindow
  | refused _ => UnauthorisedAccess.detectionWindow
  | source _ => AbnormalRate.detectionWindow
  | service _ => ServiceFailure.detectionWindow

/-- The events the subject's rule counts for it. -/
def watches : Subject → SecurityEvent → Bool
  | account userId => fun event => FailedLogins.isFailure event && event.userId = some userId
  | address sourceIp => fun event => FailedLogins.isFailure event && event.sourceIp = some sourceIp
  | refused caller => fun event =>
      UnauthorisedAccess.isRefusal event && UnauthorisedAccess.subjectOf event = caller
  | source sourceIp => fun event =>
      (event.eventType == .rateLimitExceeded ||
        AbnormalRate.requestEventTypes.contains event.eventType) &&
          AbnormalRate.sourceOf event = some sourceIp
  | service name => fun event => ServiceFailure.isSignal event && event.serviceName.value = name

/-- No event is a refusal and a request at once, so joining the two lists loses
and repeats nothing. -/
theorem perm_evidenceOf (windowed : List SecurityEvent) (sourceIp : Str) :
    (AbnormalRate.evidenceOf windowed sourceIp).Perm
      (windowed.filter (watches (source sourceIp))) := by
  let refusal : SecurityEvent → Bool := fun event => event.eventType == .rateLimitExceeded
  have refusals : (windowed.filter (watches (source sourceIp))).filter refusal =
      AbnormalRate.refusalsOf windowed sourceIp := by
    rw [AbnormalRate.refusalsOf, List.filter_filter, List.filter_filter]
    apply List.filter_congr
    intro event _
    simp only [watches, refusal]
    cases event.eventType == EventType.rateLimitExceeded <;> simp
  have requests : (windowed.filter (watches (source sourceIp))).filter
      (fun event => !refusal event) =
      AbnormalRate.requestsOf windowed sourceIp := by
    rw [AbnormalRate.requestsOf, List.filter_filter, List.filter_filter]
    apply List.filter_congr
    intro event _
    simp only [watches, refusal, AbnormalRate.requestEventTypes]
    cases event.eventType <;> simp
  apply (perm_sortedBy _ _).trans
  rw [← refusals, ← requests]
  exact List.filter_append_perm refusal _

/-- Up to its order, a subject's evidence is what its rule counts among the
windowed events. -/
theorem perm_evidence (now : Datetime) (events : List SecurityEvent) (subject : Subject) :
    (subject.evidence now events).Perm
      (events.filter fun event =>
        decide (Windowed subject.window now event) && subject.watches event) := by
  have sorted (wanted : SecurityEvent → Bool) (window : Micros) :
      (Rules.evidence wanted window now events).Perm
        (events.filter fun event => decide (Windowed window now event) && wanted event) :=
    (perm_sortedBy timeOf events).filter _
  cases subject with
  | source sourceIp =>
      apply (perm_evidenceOf _ sourceIp).trans
      rw [filter_evidence]
      simp only [Bool.true_and]
      exact sorted (watches (source sourceIp)) AbnormalRate.detectionWindow
  | _ => exact sorted _ _

theorem mem_evidence {now : Datetime} {events : List SecurityEvent} {subject : Subject}
    {event : SecurityEvent} :
    event ∈ subject.evidence now events ↔
      event ∈ events ∧ Windowed subject.window now event ∧ subject.watches event = true := by
  rw [(perm_evidence now events subject).mem_iff, List.mem_filter, Bool.and_eq_true,
    decide_eq_true_eq]

/-- Evidence is in time order. -/
theorem pairwise_evidence (now : Datetime) (events : List SecurityEvent) (subject : Subject) :
    (subject.evidence now events).Pairwise fun first second => timeOf first ≤ timeOf second := by
  cases subject with
  | source sourceIp => exact pairwise_sortedBy timeOf _
  | _ => exact (pairwise_sortedBy timeOf events).filter _

/-- With distinct events no event is cited twice. -/
theorem nodup_cited {now : Datetime} {events : List SecurityEvent} {subject : Subject}
    (distinct : (events.map (·.eventId)).Nodup) :
    ((subject.evidence now events).map (·.eventId)).Nodup :=
  ((perm_evidence now events subject).map _).nodup_iff.mpr
    (distinct.sublist (List.filter_sublist.map _))
/-! ### The threshold -/

/-- The windowed refusals of a source are those of its evidence. -/
theorem perm_refusals (windowed : List SecurityEvent) (sourceIp : Str) :
    ((AbnormalRate.evidenceOf windowed sourceIp).filter
      (fun event => event.eventType == .rateLimitExceeded)).Perm
        (AbnormalRate.refusalsOf windowed sourceIp) := by
  refine ((perm_evidenceOf windowed sourceIp).filter _).trans (List.Perm.of_eq ?_)
  rw [AbnormalRate.refusalsOf, List.filter_filter, List.filter_filter]
  apply List.filter_congr
  intro event _
  simp only [watches]
  cases event.eventType == EventType.rateLimitExceeded <;> simp

theorem perm_requests (windowed : List SecurityEvent) (sourceIp : Str) :
    ((AbnormalRate.evidenceOf windowed sourceIp).filter
      (fun event => AbnormalRate.requestEventTypes.contains event.eventType)).Perm
        (AbnormalRate.requestsOf windowed sourceIp) := by
  refine ((perm_evidenceOf windowed sourceIp).filter _).trans (List.Perm.of_eq ?_)
  rw [AbnormalRate.requestsOf, List.filter_filter, List.filter_filter]
  apply List.filter_congr
  intro event _
  simp only [watches]
  cases AbnormalRate.requestEventTypes.contains event.eventType <;> simp

/-- The threshold of the subject's rule, on the evidence alone. -/
def Reaches (events : List SecurityEvent) : Subject → Prop
  | account _ => 5 ≤ events.length
  | address _ => 5 ≤ events.length
  | refused _ => 3 ≤ events.length
  | source _ =>
      3 ≤ (events.filter fun event => event.eventType == .rateLimitExceeded).length ∨
        30 ≤ (events.filter fun event =>
          AbnormalRate.requestEventTypes.contains event.eventType).length
  | service _ => ServiceFailure.fires events = true

theorem over_iff_reaches {now : Datetime} {events : List SecurityEvent} {subject : Subject} :
    subject.Over now events ↔ subject.Reaches (subject.evidence now events) := by
  cases subject with
  | source sourceIp =>
      simp only [Over, Reaches, evidence, (perm_refusals _ sourceIp).length_eq,
        (perm_requests _ sourceIp).length_eq]
  | _ => exact Iff.rfl

/-- More evidence never falls below a threshold. -/
theorem Reaches.mono {subject : Subject} {events more : List SecurityEvent}
    (reached : subject.Reaches events) (included : List.Subperm events more) :
    subject.Reaches more := by
  cases subject with
  | source sourceIp =>
      exact reached.imp (le_trans · (included.filter _).length_le)
        (le_trans · (included.filter _).length_le)
  | service name =>
      have held (p : SecurityEvent → Bool) (found : events.any p = true) : more.any p = true := by
        obtain ⟨event, hevent, hp⟩ := List.any_eq_true.mp found
        exact List.any_eq_true.mpr ⟨event, included.subset hevent, hp⟩
      simp only [Reaches, ServiceFailure.fires, Bool.or_eq_true, decide_eq_true_eq] at reached ⊢
      apply reached.imp (Or.imp (held _) (held _))
      intro counted
      exact le_trans counted (included.filter _).length_le
  | _ => exact le_trans (show _ ≤ events.length from reached) included.length_le

theorem Reaches.perm {subject : Subject} {events others : List SecurityEvent}
    (same : events.Perm others) : subject.Reaches events ↔ subject.Reaches others :=
  ⟨fun reached => reached.mono same.subperm, fun reached => reached.mono same.symm.subperm⟩

/-- Two moments that window the same counted events see the same evidence. -/
theorem evidence_congr {now moment : Datetime} {events : List SecurityEvent} {subject : Subject}
    (same : ∀ event ∈ events, subject.watches event = true →
      (Windowed subject.window now event ↔ Windowed subject.window moment event)) :
    subject.evidence now events = subject.evidence moment events := by
  have filters (wanted : SecurityEvent → Bool)
      (counted : ∀ event, wanted event = true → subject.watches event = true) :
      Rules.evidence wanted subject.window now events =
        Rules.evidence wanted subject.window moment events := by
    apply List.filter_congr
    intro event hevent
    cases hwanted : wanted event with
    | false => simp
    | true =>
        have windows := same event (mem_chronological.mp hevent) (counted event hwanted)
        simp only [windows]
  cases subject with
  | source sourceIp =>
      have refusals := filters (fun event =>
        event.eventType == .rateLimitExceeded && decide (AbnormalRate.sourceOf event = some sourceIp))
        fun event hevent => by
          simp only [watches, Bool.and_eq_true, Bool.or_eq_true] at hevent ⊢
          exact ⟨.inl hevent.1, hevent.2⟩
      have requests := filters (fun event =>
        AbnormalRate.requestEventTypes.contains event.eventType &&
          decide (AbnormalRate.sourceOf event = some sourceIp))
        fun event hevent => by
          simp only [watches, Bool.and_eq_true, Bool.or_eq_true] at hevent ⊢
          exact ⟨.inr hevent.1, hevent.2⟩
      simp only [evidence, AbnormalRate.evidenceOf, AbnormalRate.refusalsOf,
        AbnormalRate.requestsOf, filter_evidence, Bool.true_and]
      exact congrArg₂ (fun first second => chronological (first ++ second)) refusals requests
  | _ => exact filters _ fun _ counted => counted
/-- The windows of the catalogue's rules. -/
def ruleWindow : Fin 4 → Micros
  | 0 => FailedLogins.detectionWindow
  | 1 => UnauthorisedAccess.detectionWindow
  | 2 => AbnormalRate.detectionWindow
  | 3 => ServiceFailure.detectionWindow

theorem window_eq_ruleWindow (subject : Subject) : subject.window = ruleWindow subject.rule := by
  cases subject <;> rfl

/-- The window goes with the rule's name. -/
theorem window_of_info {first second : Subject} (same : first.info.name = second.info.name) :
    first.window = second.window := by
  rw [name_eq_ruleName, name_eq_ruleName] at same
  rw [window_eq_ruleWindow, window_eq_ruleWindow, ruleName_injective same]

end Subject

/-! ## The same subjects at two moments -/

theorem perm_overSubjects {now moment : Datetime} {events : List SecurityEvent}
    {others : List SecurityEvent}
    (same : ∀ subject : Subject, subject.Over now events ↔ subject.Over moment others) :
    (overSubjects now events).Perm (overSubjects moment others) :=
  (List.perm_ext_iff_of_nodup (nodup_overSubjects _ _) (nodup_overSubjects _ _)).mpr
    fun subject => by rw [mem_overSubjects, mem_overSubjects, same]

end SentinelIR.Rules
