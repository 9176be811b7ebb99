/-
# What a threshold counts

A rule with a threshold counts the signals about one subject that fall into its
window. A signal is a name and an instant, so whether a subject is over its
threshold depends only on the signals the events amount to, and not on their
order.
-/

import SentinelIR.Rules.Evidence

namespace SentinelIR.Rules

open SentinelIR.Py SentinelIR.Common SentinelIR.Alerts SentinelIR.Collector

/-- A name and the instant at which something was held against it. -/
abbrev Signal := Str × Micros

namespace Signal

/-- The signal is about the name and falls into the window. -/
def Counts (window : Micros) (now : Datetime) (name : Str) (signal : Signal) : Prop :=
  signal.1 = name ∧ now.instant - window ≤ signal.2 ∧ signal.2 ≤ now.instant

instance (window : Micros) (now : Datetime) (name : Str) (signal : Signal) :
    Decidable (Counts window now name signal) := inferInstanceAs (Decidable (_ ∧ _))

/-- How many of the signals a window counts for a name. -/
def tally (window : Micros) (now : Datetime) (name : Str) (signals : List Signal) : Nat :=
  signals.countP fun signal => Counts window now name signal

section Tally

variable {window : Micros} {now : Datetime} {name : Str}

@[simp]
theorem tally_append (signals others : List Signal) :
    tally window now name (signals ++ others) =
      tally window now name signals + tally window now name others :=
  List.countP_append

theorem tally_perm {signals others : List Signal} (same : signals.Perm others) :
    tally window now name signals = tally window now name others := same.countP_eq _

/-- The signals of a name no one bears are none. -/
theorem tally_eq_zero {signals : List Signal} (absent : ∀ signal ∈ signals, signal.1 ≠ name) :
    tally window now name signals = 0 :=
  List.countP_eq_zero.mpr fun signal hsignal counted =>
    absent signal hsignal (of_decide_eq_true counted).1

/-- Counting the events whose signal counts is counting their signals. -/
theorem tally_filterMap (signalOf : SecurityEvent → Option Signal) (events : List SecurityEvent) :
    tally window now name (events.filterMap signalOf) =
      events.countP fun event =>
        ((signalOf event).map fun signal => decide (Counts window now name signal)).getD false := by
  rw [tally, List.countP_filterMap]

end Tally

/-! ## The signals of the first three rules -/

/-- A failed login of an account. -/
def ofAccount (event : SecurityEvent) : Option Signal :=
  if FailedLogins.isFailure event then event.userId.map fun userId => (userId, timeOf event)
  else none

/-- A failed login from an address. -/
def ofAddress (event : SecurityEvent) : Option Signal :=
  if FailedLogins.isFailure event then event.sourceIp.map fun sourceIp => (sourceIp, timeOf event)
  else none

/-- A refusal of a caller. -/
def ofRefusal (event : SecurityEvent) : Option Signal :=
  if UnauthorisedAccess.isRefusal event then
    some (UnauthorisedAccess.subjectOf event, timeOf event)
  else none

/-- A request the gateway turned away for its rate. -/
def ofThrottle (event : SecurityEvent) : Option Signal :=
  if event.eventType == .rateLimitExceeded then
    (AbnormalRate.sourceOf event).map fun source => (source, timeOf event)
  else none

/-- A request received from a source. -/
def ofRequest (event : SecurityEvent) : Option Signal :=
  if AbnormalRate.requestEventTypes.contains event.eventType then
    (AbnormalRate.sourceOf event).map fun source => (source, timeOf event)
  else none

end Signal

namespace Subject

open Signal

variable {now : Datetime} {events : List SecurityEvent}

/-- A list of evidence is as long as its rule's signals about the subject. -/
theorem length_evidence {window : Micros} {name : Str} {wanted : SecurityEvent → Bool}
    {signalOf : SecurityEvent → Option Signal}
    (counts : ∀ event, (decide (Windowed window now event) && wanted event) =
      ((signalOf event).map fun signal => decide (Counts window now name signal)).getD false) :
    (Rules.evidence wanted window now events).length =
      tally window now name (events.filterMap signalOf) := by
  have sorted : (Rules.evidence wanted window now events).Perm
      (events.filter fun event => decide (Windowed window now event) && wanted event) :=
    (perm_sortedBy timeOf events).filter _
  rw [sorted.length_eq, tally_filterMap, List.countP_eq_length_filter]
  exact congrArg List.length (List.filter_congr fun event _ => counts event)

theorem over_account (userId : Str) :
    (account userId).Over now events ↔
      5 ≤ tally FailedLogins.detectionWindow now userId (events.filterMap ofAccount) := by
  rw [Over, evidence, length_evidence fun event => ?_]
  unfold ofAccount
  cases FailedLogins.isFailure event <;> cases event.userId <;>
    simp [Counts, Windowed, and_comm, Bool.and_comm]

theorem over_address (sourceIp : Str) :
    (address sourceIp).Over now events ↔
      5 ≤ tally FailedLogins.detectionWindow now sourceIp (events.filterMap ofAddress) := by
  rw [Over, evidence, length_evidence fun event => ?_]
  unfold ofAddress
  cases FailedLogins.isFailure event <;> cases event.sourceIp <;>
    simp [Counts, Windowed, and_comm, Bool.and_comm]

theorem over_refused (caller : Str) :
    (refused caller).Over now events ↔
      3 ≤ tally UnauthorisedAccess.detectionWindow now caller (events.filterMap ofRefusal) := by
  rw [Over, evidence, length_evidence fun event => ?_]
  unfold ofRefusal
  cases UnauthorisedAccess.isRefusal event <;>
    simp [Counts, Windowed, and_comm, Bool.and_comm]

theorem over_source (source : Str) :
    (Subject.source source).Over now events ↔
      3 ≤ tally AbnormalRate.detectionWindow now source (events.filterMap ofThrottle) ∨
        30 ≤ tally AbnormalRate.detectionWindow now source (events.filterMap ofRequest) := by
  have refusals : (AbnormalRate.refusalsOf (Rules.evidence (fun _ => true)
      AbnormalRate.detectionWindow now events) source).length =
        tally AbnormalRate.detectionWindow now source (events.filterMap ofThrottle) := by
    rw [AbnormalRate.refusalsOf, filter_evidence, filter_evidence]
    apply length_evidence
    intro event
    unfold ofThrottle
    cases event.eventType == EventType.rateLimitExceeded <;>
      cases AbnormalRate.sourceOf event <;> simp [Counts, Windowed, and_comm, Bool.and_comm]
  have requests : (AbnormalRate.requestsOf (Rules.evidence (fun _ => true)
      AbnormalRate.detectionWindow now events) source).length =
        tally AbnormalRate.detectionWindow now source (events.filterMap ofRequest) := by
    rw [AbnormalRate.requestsOf, filter_evidence, filter_evidence]
    apply length_evidence
    intro event
    unfold ofRequest
    cases AbnormalRate.requestEventTypes.contains event.eventType <;>
      cases AbnormalRate.sourceOf event <;> simp [Counts, Windowed, and_comm, Bool.and_comm]
  rw [Over, refusals, requests]

end Subject

/-! ## What a rule reports -/

/-- An evaluation that returns reports the subject. -/
def Subject.ReportedBy [UnicodeDb]
    (evaluate : EventStore → Datetime → Except Exc (List AlertBody)) (store : EventStore)
    (now : Datetime) (subject : Subject) : Prop :=
  ∃ bodies, evaluate store now = .ok bodies ∧ subject.Over now store.events ∧
    subject.alert now store.events ∈ bodies.map (·.toAlertFields)

section Reported

variable {store : EventStore} {now : Datetime}

/-- A scan that cannot be made reports nothing. -/
theorem fits_of_evaluate_refusals {bodies : List AlertBody}
    (evaluated : UnauthorisedAccess.evaluate store now = .ok bodies) :
    WindowFits UnauthorisedAccess.detectionWindow now := by
  obtain ⟨recent, hrecent, -⟩ := bind_eq_ok evaluated
  exact (recentEvents_eq_ok hrecent).1

theorem fits_of_evaluate_rate {bodies : List AlertBody}
    (evaluated : AbnormalRate.evaluate store now = .ok bodies) :
    WindowFits AbnormalRate.detectionWindow now := by
  obtain ⟨recent, hrecent, -⟩ := bind_eq_ok evaluated
  exact (recentEvents_eq_ok hrecent).1

/-- The refusal rule is silent exactly when no caller reaches its threshold. -/
theorem refusals_silent_iff (readable : Readable store.events) :
    (∀ bodies, UnauthorisedAccess.evaluate store now = .ok bodies → bodies = []) ↔
      (WindowFits UnauthorisedAccess.detectionWindow now →
        ∀ caller, ¬ (Subject.refused caller).Over now store.events) := by
  constructor
  · intro silent fits caller hover
    obtain ⟨bodies, hbodies, hfields⟩ := UnauthorisedAccess.evaluate_eq store fits readable
    rw [silent bodies hbodies] at hfields
    have reported : (caller, (Subject.refused caller).evidence now store.events) ∈
        refusalGroups now store.events := (mem_refusalGroups _).mpr ⟨rfl, hover⟩
    have empty : refusalGroups now store.events = [] := List.map_eq_nil_iff.mp hfields.symm
    rw [empty] at reported
    cases reported
  · intro quiet bodies hbodies
    have fits := fits_of_evaluate_refusals hbodies
    obtain ⟨others, hothers, hfields⟩ := UnauthorisedAccess.evaluate_eq store fits readable
    obtain rfl : bodies = others := Except.ok.inj (hbodies.symm.trans hothers)
    have empty : refusalGroups now store.events = [] := by
      rw [List.eq_nil_iff_forall_not_mem]
      rintro ⟨caller, group⟩ hgroup
      exact quiet fits caller ((mem_refusalGroups group).mp hgroup).2
    have none : bodies.map (·.toAlertFields) = [] :=
      hfields.trans (congrArg (List.map _) empty)
    exact List.map_eq_nil_iff.mp none

/-- The rate rule is silent exactly when no source reaches a threshold. -/
theorem rate_silent_iff (readable : Readable store.events) :
    (∀ bodies, AbnormalRate.evaluate store now = .ok bodies → bodies = []) ↔
      (WindowFits AbnormalRate.detectionWindow now →
        ∀ source, ¬ (Subject.source source).Over now store.events) := by
  constructor
  · intro silent fits source hover
    obtain ⟨bodies, hbodies, hfields⟩ := AbnormalRate.evaluate_eq store fits readable
    rw [silent bodies hbodies] at hfields
    have reported := AbnormalRate.mem_offending.mpr hover
    have empty : offendingSources now store.events = [] := List.map_eq_nil_iff.mp hfields.symm
    rw [offendingSources] at empty
    rw [empty] at reported
    cases reported
  · intro quiet bodies hbodies
    have fits := fits_of_evaluate_rate hbodies
    obtain ⟨others, hothers, hfields⟩ := AbnormalRate.evaluate_eq store fits readable
    obtain rfl : bodies = others := Except.ok.inj (hbodies.symm.trans hothers)
    have empty : offendingSources now store.events = [] := by
      rw [List.eq_nil_iff_forall_not_mem]
      exact fun source hsource => quiet fits source (AbnormalRate.mem_offending.mp hsource)
    have none : bodies.map (·.toAlertFields) = [] :=
      hfields.trans (congrArg (List.map _) empty)
    exact List.map_eq_nil_iff.mp none

/-- The refusal rule reports exactly the callers over its threshold. -/
theorem reported_refused_iff [UnicodeDb] (readable : Readable store.events) (caller : Str) :
    (Subject.refused caller).ReportedBy UnauthorisedAccess.evaluate store now ↔
      WindowFits UnauthorisedAccess.detectionWindow now ∧
        (Subject.refused caller).Over now store.events := by
  constructor
  · rintro ⟨bodies, hbodies, hover, -⟩
    exact ⟨fits_of_evaluate_refusals hbodies, hover⟩
  · rintro ⟨fits, hover⟩
    obtain ⟨bodies, hbodies, hfields⟩ := UnauthorisedAccess.evaluate_eq store fits readable
    have reported : Subject.refused caller ∈
        (refusalGroups now store.events).map fun item => .refused item.1 :=
      List.mem_map.mpr ⟨_, (mem_refusalGroups _).mpr ⟨rfl, hover⟩, rfl⟩
    refine ⟨bodies, hbodies, hover, ?_⟩
    rw [hfields.trans (map_alert alertFields_refusal)]
    exact List.mem_map_of_mem reported

/-- The catalogue reports exactly the subjects over their thresholds. -/
theorem reported_iff [UnicodeDb] (readable : Readable store.events) (subject : Subject) :
    subject.ReportedBy evaluateBodies store now ↔
      WindowFits UnauthorisedAccess.detectionWindow now ∧ subject.Over now store.events := by
  constructor
  · rintro ⟨bodies, hbodies, hover, -⟩
    refine ⟨?_, hover⟩
    by_contra early
    obtain ⟨raised, hraised⟩ := evaluateBodies_raises fun good : WindowFits _ now ∧
      Readable store.events => early good.1
    rw [hraised] at hbodies
    cases hbodies
  · rintro ⟨fits, hover⟩
    obtain ⟨bodies, hbodies, hfields⟩ := evaluateBodies_eq store fits readable
    refine ⟨bodies, hbodies, hover, ?_⟩
    rw [hfields]
    exact List.mem_map_of_mem (mem_overSubjects.mpr hover)

end Reported

/-! ## Events as the services stamp them -/

/-- The instant an event stamped so carries: the clock's second. -/
def moment (stamp : Stamp) : Micros := stamp.clock.time.truncate.instant

theorem strptime_stamp (body : EventBody) (stamp : Stamp) :
    strptime (body.stamp stamp).timestamp = some stamp.clock.time.truncate :=
  strptime_strftime (by have := stamp.clock.epoch; omega)

@[simp]
theorem timeOf_stamp (body : EventBody) (stamp : Stamp) :
    timeOf (body.stamp stamp) = moment stamp := by
  rw [timeOf, strptime_stamp]
  rfl

end SentinelIR.Rules
