/-
# The inputs a rule declares

Every rule declares the event types it reads. Rules 1, 3 and 4 raise the same alerts
when all other events are taken out of the store: the recoveries Rule 4 reads besides
are only mentioned. Rule 2 also counts events of any other type whose status code is a
refusal, and so its declared inputs decide what it raises only while those make no
difference.
-/

import SentinelIR.Rules.Callers
import SentinelIR.Rules.Catalogue
import SentinelIR.Rules.Recovery

namespace SentinelIR.Rules

open SentinelIR.Py SentinelIR.Common SentinelIR.Alerts SentinelIR.Collector

/-- The rule reads events of this type. -/
def RuleInfo.declares (info : RuleInfo) (event : SecurityEvent) : Bool :=
  info.inputEventTypes.contains event.eventType

/-- The store without the events the rule does not declare. -/
def RuleInfo.declared (info : RuleInfo) (store : EventStore) : EventStore :=
  ⟨store.events.filter info.declares⟩

/-- The description without the sentence about a recovery. -/
def withoutNote (description : Str) : Str :=
  if ServiceFailure.recoveryNote <:+ description then
    description.take (description.length - ServiceFailure.recoveryNote.length)
  else description

/-- An alert without the sentence about a recovery. -/
def unnoted (alert : AlertFields) : AlertFields :=
  { alert with description := withoutNote alert.description }

/-- The rule raises the same alerts without the undeclared events, as far as the view
shows. -/
def Unchanged {α : Type} (view : AlertFields → α) (rule : DetectionRule) (store : EventStore)
    (now : Datetime) : Prop :=
  (rule.evaluate (rule.declared store) now).map (List.map fun alert => view alert.toAlertFields) =
    (rule.evaluate store now).map (List.map fun alert => view alert.toAlertFields)

theorem Unchanged.of_eq {α : Type} {view : AlertFields → α} {rule : DetectionRule}
    {store : EventStore} {now : Datetime}
    (same : rule.evaluate (rule.declared store) now = rule.evaluate store now) :
    Unchanged view rule store now := by
  rw [Unchanged, same]

/-- What shows more changes whenever what shows less does. -/
theorem Unchanged.comp {α β : Type} {view : AlertFields → α} {rule : DetectionRule}
    {store : EventStore} {now : Datetime} (same : Unchanged view rule store now)
    (further : α → β) : Unchanged (fun alert => further (view alert)) rule store now := by
  have seen := congrArg (Except.map (List.map further)) same
  rw [Unchanged]
  generalize rule.evaluate (rule.declared store) now = first at seen ⊢
  generalize rule.evaluate store now = second at seen ⊢
  cases first <;> cases second <;> simp [Except.map] at seen ⊢ <;> exact seen

section Declared

variable {wanted : SecurityEvent → Bool} {window : Micros} {now : Datetime}

/-- Taking events out of the store takes them out of the evidence. -/
theorem evidence_filter (p : SecurityEvent → Bool) (events : List SecurityEvent) :
    evidence wanted window now (events.filter p) =
      (evidence wanted window now events).filter p := by
  rw [evidence, evidence, chronological, chronological, ← filter_sortedBy, List.filter_filter,
    List.filter_filter]
  exact List.filter_congr fun event _ => Bool.and_comm _ _

theorem recentEvents_declared {info : RuleInfo} {store : EventStore}
    (readable : Readable store.events) :
    recentEvents wanted window (info.declared store) now =
      (recentEvents wanted window store now).map (List.filter info.declares) := by
  have kept : Readable (info.declared store).events :=
    readable.subset (List.filter_subset_self _)
  rw [recentEvents_eq, recentEvents_eq, if_pos kept, if_pos readable]
  by_cases fits : WindowFits window now
  · rw [if_pos fits, if_pos fits, RuleInfo.declared, evidence_filter]
    rfl
  · rw [if_neg fits, if_neg fits]
    rfl

/-- A test that only declared types pass picks the same events out of the declared ones. -/
theorem filter_declared {info : RuleInfo} {test : SecurityEvent → Bool}
    (only : ∀ event, test event = true → info.declares event = true)
    (events : List SecurityEvent) :
    (events.filter info.declares).filter test = events.filter test := by
  rw [List.filter_filter]
  apply List.filter_congr
  intro event _
  rw [Bool.and_eq_left_iff_imp]
  exact only event

end Declared

/-! ## Rules 1, 3 and 4 -/

theorem FailedLogins.evaluate_declared [UnicodeDb] {store : EventStore} (now : Datetime)
    (readable : Readable store.events) :
    FailedLogins.evaluate (FailedLogins.info.declared store) now =
      FailedLogins.evaluate store now := by
  have all (events : List SecurityEvent) :
      (evidence isFailure detectionWindow now events).filter info.declares =
        evidence isFailure detectionWindow now events := by
    apply List.filter_eq_self.mpr
    intro event hevent
    have failed := (mem_evidence.mp hevent).2.2
    rw [isFailure, beq_iff_eq] at failed
    rw [RuleInfo.declares, failed]
    rfl
  rw [evaluate, evaluate, recentEvents_declared readable, recentEvents_eq, if_pos readable]
  split
  case isTrue => rw [Except.map, all]
  case isFalse => rfl

theorem AbnormalRate.evaluate_declared {store : EventStore} (now : Datetime)
    (readable : Readable store.events) :
    AbnormalRate.evaluate (AbnormalRate.info.declared store) now =
      AbnormalRate.evaluate store now := by
  have refused (windowed : List SecurityEvent) :
      throttled (windowed.filter info.declares) = throttled windowed := by
    apply congrArg groupBySource
    apply filter_declared
    intro event
    rw [RuleInfo.declares]
    cases event.eventType <;> decide
  have requested (windowed : List SecurityEvent) :
      volume (windowed.filter info.declares) = volume windowed := by
    apply congrArg groupBySource
    apply filter_declared
    intro event
    rw [RuleInfo.declares]
    cases event.eventType <;> decide
  rw [evaluate, evaluate, recentEvents_declared readable]
  cases recentEvents (fun _ => true) detectionWindow store now with
  | error raised => rfl
  | ok windowed =>
      simp only [Except.map, bind, Except.bind, offending, sources, refused, requested]

namespace ServiceFailure

/-- Taking the sentence away leaves what the rule says when nothing recovered. -/
theorem unnoted_finding (now : Datetime) (service : Str) (events : List SecurityEvent)
    (noted : Bool) :
    unnoted (alertFields info now (finding service events noted)) =
      alertFields info now (finding service events false) := by
  cases noted with
  | false =>
      have unsaid : ¬ recoveryNote <:+
          (alertFields info now (finding service events false)).description :=
        mt (notesRecovery_finding service events false now).mp Bool.false_ne_true
      rw [unnoted, withoutNote, if_neg unsaid]
  | true =>
      have told : recoveryNote <:+
          (alertFields info now (finding service events true)).description :=
        (notesRecovery_finding service events true now).mpr rfl
      have text : (alertFields info now (finding service events true)).description =
          (alertFields info now (finding service events false)).description ++ recoveryNote := by
        simp only [alertFields, finding, if_true, Bool.false_eq_true, if_false, List.append_nil]
        rfl
      rw [unnoted, withoutNote, if_pos told, text, List.length_append, Nat.add_sub_cancel,
        List.take_left]
      rfl

theorem map_unnoted {store : EventStore} {now : Datetime}
    (fits : WindowFits detectionWindow now) (readable : Readable store.events) :
    (evaluate store now).map (List.map fun alert => unnoted alert.toAlertFields) =
      .ok ((failing (windowed now store.events)).map fun item =>
        alertFields info now (finding item.1 item.2 false)) := by
  obtain ⟨bodies, returned, fields⟩ := evaluate_eq store fits readable
  rw [returned]
  apply congrArg Except.ok
  have hidden := congrArg (List.map unnoted) fields
  rw [List.map_map, List.map_map] at hidden
  exact hidden.trans (List.map_congr_left fun item _ => unnoted_finding now item.1 item.2 _)

theorem failing_declared (windowed : List SecurityEvent) :
    failing (windowed.filter info.declares) = failing windowed := by
  have signals : (windowed.filter info.declares).filter isSignal = windowed.filter isSignal := by
    apply filter_declared
    intro event
    rw [isSignal, RuleInfo.declares]
    cases event.eventType <;> decide
  rw [failing, failing, grouped, grouped, signals]

theorem unnoted_declared {store : EventStore} (now : Datetime) (readable : Readable store.events) :
    (evaluate (info.declared store) now).map (List.map fun alert => unnoted alert.toAlertFields) =
      (evaluate store now).map (List.map fun alert => unnoted alert.toAlertFields) := by
  by_cases fits : WindowFits detectionWindow now
  · have kept : Readable (info.declared store).events :=
      readable.subset (List.filter_subset_self _)
    rw [map_unnoted fits kept, map_unnoted fits readable, windowed, windowed, RuleInfo.declared,
      evidence_filter, failing_declared]
  · rw [evaluate, evaluate, recentEvents_of_misfit fits, recentEvents_of_misfit fits]

end ServiceFailure

/-! ## Rule 2 -/

namespace UnauthorisedAccess

/-- Wherever three windowed refusals are counted together, all of them are of a declared
type. -/
def CountsDeclared (now : Datetime) (events : List SecurityEvent) : Prop :=
  ∀ text, 3 ≤ (refusalsUnder text now events).length →
    ∀ event ∈ refusalsUnder text now events, event.eventType ∈ info.inputEventTypes

/-- The subjects with an alert, in order. -/
def subjectsOver (refusals : List SecurityEvent) : List Str :=
  (overThreshold refusals).map Prod.fst

theorem mem_subjectsOver {refusals : List SecurityEvent} {text : Str} :
    text ∈ subjectsOver refusals ↔
      3 ≤ (refusals.filter fun event => subjectOf event = text).length :=
  mem_keys_iff (fun text => refusals.filter fun event => subjectOf event = text)
    (fun events => 3 ≤ events.length) mem_overThreshold

theorem pairwise_subjectsOver (refusals : List SecurityEvent) :
    (subjectsOver refusals).Pairwise (· ≤ ·) := by
  refine List.pairwise_map.mpr (List.Pairwise.filter _ ?_)
  exact pairwise_sortedBy Prod.fst _

/-- The groups over the threshold are those of the subjects. -/
theorem overThreshold_eq_map (refusals : List SecurityEvent) :
    overThreshold refusals =
      (subjectsOver refusals).map fun text =>
        (text, refusals.filter fun event => subjectOf event = text) := by
  rw [subjectsOver, List.map_map]
  refine ((List.map_congr_left fun item hitem => ?_).trans (List.map_id _)).symm
  exact Prod.ext rfl (mem_overThreshold.mp hitem).1.symm

/-- Two scans with as many subjects over the threshold, one within the other, have the
same ones. -/
theorem subjectsOver_eq {refusals others : List SecurityEvent}
    (subset : subjectsOver others ⊆ subjectsOver refusals)
    (enough : (subjectsOver refusals).length ≤ (subjectsOver others).length) :
    subjectsOver others = subjectsOver refusals := by
  have same : (subjectsOver others).Perm (subjectsOver refusals) :=
    (List.subperm_of_subset (nodup_overThreshold others) subset).perm_of_length_le enough
  exact same.eq_of_pairwise (fun _ _ _ _ => le_antisymm) (pairwise_subjectsOver others)
    (pairwise_subjectsOver refusals)

theorem subjectsOver_filter_subset (p : SecurityEvent → Bool) (refusals : List SecurityEvent) :
    subjectsOver (refusals.filter p) ⊆ subjectsOver refusals := by
  intro text htext
  refine mem_subjectsOver.mpr ((mem_subjectsOver.mp htext).trans ?_)
  exact (List.filter_sublist.filter _).length_le

/-- Whatever three refusals are counted together, all of them are kept. -/
def CountsKept (p : SecurityEvent → Bool) (refusals : List SecurityEvent) : Prop :=
  ∀ text, 3 ≤ (refusals.filter fun event => subjectOf event = text).length →
    ∀ event ∈ refusals.filter (fun event => subjectOf event = text), p event = true

section Kept

variable {p : SecurityEvent → Bool} {refusals : List SecurityEvent}

theorem filter_under (text : Str) :
    (refusals.filter p).filter (fun event => subjectOf event = text) =
      (refusals.filter fun event => subjectOf event = text).filter p := by
  rw [List.filter_filter, List.filter_filter]
  exact List.filter_congr fun event _ => Bool.and_comm _ _

/-- When all that are counted are kept, the same groups are over the threshold. -/
theorem overThreshold_filter (kept : CountsKept p refusals) :
    overThreshold (refusals.filter p) = overThreshold refusals := by
  have groups : ∀ text ∈ subjectsOver refusals,
      (refusals.filter p).filter (fun event => subjectOf event = text) =
        refusals.filter fun event => subjectOf event = text := by
    intro text htext
    rw [filter_under, List.filter_eq_self]
    exact kept text (mem_subjectsOver.mp htext)
  have included : subjectsOver refusals ⊆ subjectsOver (refusals.filter p) := by
    intro text htext
    rw [mem_subjectsOver, groups text htext]
    exact mem_subjectsOver.mp htext
  have subjects : subjectsOver (refusals.filter p) = subjectsOver refusals :=
    subjectsOver_eq (subjectsOver_filter_subset p refusals)
      (List.subperm_of_subset (nodup_overThreshold refusals) included).length_le
  rw [overThreshold_eq_map, overThreshold_eq_map, subjects]
  exact List.map_congr_left fun text htext => congrArg (Prod.mk text) (groups text htext)

/-- When the alerts cite the same refusals, all that are counted are kept. -/
theorem countsKept_of_cited
    (cited : (overThreshold (refusals.filter p)).map (fun item => item.2.map (·.eventId)) =
      (overThreshold refusals).map fun item => item.2.map (·.eventId)) :
    CountsKept p refusals := by
  have lengths := congrArg List.length cited
  rw [List.length_map, List.length_map] at lengths
  have subjects : subjectsOver (refusals.filter p) = subjectsOver refusals := by
    apply subjectsOver_eq (subjectsOver_filter_subset p refusals)
    rw [subjectsOver, subjectsOver, List.length_map, List.length_map, lengths]
  rw [overThreshold_eq_map, overThreshold_eq_map refusals, subjects, List.map_map, List.map_map,
    List.map_inj_left] at cited
  intro text reached
  have counts := congrArg List.length (cited text (mem_subjectsOver.mpr reached))
  dsimp only [Function.comp_apply] at counts
  rw [List.length_map, List.length_map, filter_under, List.length_filter_eq_length_iff] at counts
  exact counts

end Kept

theorem countsDeclared_iff {now : Datetime} {events : List SecurityEvent} :
    CountsDeclared now events ↔ CountsKept info.declares (recent now events) := by
  apply forall_congr'
  intro text
  apply imp_congr_right
  intro _
  apply forall_congr'
  intro event
  rw [RuleInfo.declares, List.contains_iff_mem]
  rfl

/-- The alerts of the rule over the declared events. -/
theorem fields_declared {store : EventStore} {now : Datetime}
    (fits : WindowFits detectionWindow now) (readable : Readable store.events) :
    ∃ bodies, evaluate (info.declared store) now = .ok bodies ∧
      bodies.map (·.toAlertFields) =
        (overThreshold ((recent now store.events).filter info.declares)).map
          fun item => alertFields info now (finding item.1 item.2) := by
  have kept : Readable (info.declared store).events :=
    readable.subset (List.filter_subset_self _)
  rw [recent, ← evidence_filter]
  exact evaluate_eq (info.declared store) fits kept

theorem evaluate_declared {store : EventStore} {now : Datetime} (readable : Readable store.events)
    (counts : WindowFits detectionWindow now → CountsDeclared now store.events) :
    evaluate (info.declared store) now = evaluate store now := by
  by_cases fits : WindowFits detectionWindow now
  · have groups := overThreshold_filter (countsDeclared_iff.mp (counts fits))
    rw [recent] at groups
    rw [evaluate, evaluate, recentEvents_declared readable, recentEvents_of_readable fits readable,
      Except.map]
    simp only [bind, Except.bind, groups]
  · rw [evaluate, evaluate, recentEvents_of_misfit fits, recentEvents_of_misfit fits]

theorem countsDeclared_of_cited {store : EventStore} {now : Datetime}
    (readable : Readable store.events) (fits : WindowFits detectionWindow now)
    (cited : (evaluate (info.declared store) now).map (List.map (·.relatedEvents)) =
      (evaluate store now).map (List.map (·.relatedEvents))) :
    CountsDeclared now store.events := by
  obtain ⟨bodies, returned, fields⟩ := evaluate_eq store fits readable
  obtain ⟨others, returned', fields'⟩ := fields_declared fits readable
  rw [returned, returned'] at cited
  have ids := Except.ok.inj cited
  have first := congrArg (List.map (·.relatedEvents)) fields
  have second := congrArg (List.map (·.relatedEvents)) fields'
  rw [List.map_map, List.map_map] at first second
  refine countsDeclared_iff.mpr (countsKept_of_cited ?_)
  exact second.symm.trans (ids.trans first)

end UnauthorisedAccess

/-! ## The catalogue -/

/-- Over events with readable timestamps the declared inputs decide what the rules raise
exactly when the window of Rule 2 starts before the first moment, or all it counts is
declared. Nothing but the sentence about a recovery changes then; and otherwise the
cited events do. -/
theorem unchanged_iff [UnicodeDb] (store : EventStore) (now : Datetime)
    (readable : Readable store.events) :
    ((∀ rule ∈ allRules, Unchanged unnoted rule store now) ↔
      (WindowFits UnauthorisedAccess.detectionWindow now →
        UnauthorisedAccess.CountsDeclared now store.events)) ∧
    ((∀ rule ∈ allRules, Unchanged (·.relatedEvents) rule store now) ↔
      (WindowFits UnauthorisedAccess.detectionWindow now →
        UnauthorisedAccess.CountsDeclared now store.events)) := by
  have declared (counts : WindowFits UnauthorisedAccess.detectionWindow now →
      UnauthorisedAccess.CountsDeclared now store.events) :
      ∀ rule ∈ allRules, Unchanged unnoted rule store now := by
    intro rule hrule
    simp only [allRules, List.mem_cons, List.not_mem_nil, or_false] at hrule
    rcases hrule with rfl | rfl | rfl | rfl
    · exact .of_eq (FailedLogins.evaluate_declared now readable)
    · exact .of_eq (UnauthorisedAccess.evaluate_declared readable counts)
    · exact .of_eq (AbnormalRate.evaluate_declared now readable)
    · exact ServiceFailure.unnoted_declared now readable
  have cited (same : ∀ rule ∈ allRules, Unchanged unnoted rule store now) :
      ∀ rule ∈ allRules, Unchanged (·.relatedEvents) rule store now :=
    fun rule hrule => (same rule hrule).comp (·.relatedEvents)
  have counted (same : ∀ rule ∈ allRules, Unchanged (·.relatedEvents) rule store now)
      (fits : WindowFits UnauthorisedAccess.detectionWindow now) :
      UnauthorisedAccess.CountsDeclared now store.events := by
    have second : { UnauthorisedAccess.info with evaluate := UnauthorisedAccess.evaluate } ∈
        allRules := List.mem_cons_of_mem _ List.mem_cons_self
    exact UnauthorisedAccess.countsDeclared_of_cited readable fits (same _ second)
  exact ⟨⟨fun same => counted (cited same), declared⟩,
    ⟨counted, fun counts => cited (declared counts)⟩⟩

/-- Three requests of one user that a service accepted as access to an asset although
their status code is a refusal. -/
def refusedReads : EventStore :=
  ⟨([1, 2, 3] : List (Fin 60)).map fun n =>
    occurrence n .asset .assetAccessed 403 (some "operator") (some "203.0.113.9") forbidden_known⟩

theorem unchanged_refusedReads : letI : UnicodeDb := ⟨fun _ => true⟩
    ((∀ rule ∈ allRules, Unchanged unnoted rule refusedReads (daybreak 3).time) ↔
      (WindowFits UnauthorisedAccess.detectionWindow (daybreak 3).time →
        UnauthorisedAccess.CountsDeclared (daybreak 3).time refusedReads.events)) ∧
    ((∀ rule ∈ allRules, Unchanged (·.relatedEvents) rule refusedReads (daybreak 3).time) ↔
      (WindowFits UnauthorisedAccess.detectionWindow (daybreak 3).time →
        UnauthorisedAccess.CountsDeclared (daybreak 3).time refusedReads.events)) := by
  let _ : UnicodeDb := ⟨fun _ => true⟩
  exact unchanged_iff refusedReads (daybreak 3).time (by decide +kernel)

/-- Rule 2 raises an alert on the requests and none without them. -/
theorem refusedReads_counted : ¬ ∀ (_ : UnicodeDb) (store : EventStore) (now : Datetime),
    Readable store.events → ∀ rule ∈ allRules, Unchanged (·.severity) rule store now := by
  intro always
  let _ : UnicodeDb := ⟨fun _ => true⟩
  have same := always ⟨fun _ => true⟩ refusedReads (daybreak 3).time (by decide +kernel)
    { UnauthorisedAccess.info with evaluate := UnauthorisedAccess.evaluate }
    (List.mem_cons_of_mem _ List.mem_cons_self)
  have fits : WindowFits UnauthorisedAccess.detectionWindow (daybreak 3).time := by decide +kernel
  have readable : Readable refusedReads.events := by decide +kernel
  obtain ⟨bodies, returned, fields⟩ := UnauthorisedAccess.evaluate_eq refusedReads fits readable
  obtain ⟨others, returned', fields'⟩ := UnauthorisedAccess.fields_declared fits readable
  have severities : (UnauthorisedAccess.evaluate _ _).map _ =
      (UnauthorisedAccess.evaluate _ _).map _ := same
  rw [returned, returned'] at severities
  have lengths := congrArg List.length (Except.ok.inj severities)
  have first := congrArg List.length fields
  have second := congrArg List.length fields'
  simp only [List.length_map] at lengths first second
  rw [first, second] at lengths
  exact absurd lengths (by decide +kernel)

end SentinelIR.Rules
