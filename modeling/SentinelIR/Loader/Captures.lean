/-
# Attacks earlier in a capture

The command and the loader evaluate a captured file at one moment, its newest event.
What the catalogue would have raised at an earlier event is raised there when the
rule's window still reaches back over the evidence, and evidence that has left the
window is not looked at again.
-/

import SentinelIR.Loader.SameAlerts

namespace SentinelIR.Loader

open SentinelIR.Py SentinelIR.Common SentinelIR.Alerts SentinelIR.Collector SentinelIR.Rules
open LoadEvents

/-! ## Two moments of one stream -/

/-- At the later moment the rule's window still reaches back over the evidence of
the earlier one. -/
def Kept (newest earlier : Datetime) (events : List SecurityEvent) (subject : Subject) : Prop :=
  ∀ event ∈ subject.evidence earlier events, newest.instant ≤ timeOf event + subject.window

instance (newest earlier : Datetime) (events : List SecurityEvent) (subject : Subject) :
    Decidable (Kept newest earlier events subject) :=
  inferInstanceAs (Decidable (∀ event ∈ subject.evidence earlier events, _ ≤ _))

/-- Kept evidence is part of the evidence of the later moment. -/
theorem subperm_evidence_of_kept {newest earlier : Datetime} {events : List SecurityEvent}
    {subject : Subject} (later : earlier.instant ≤ newest.instant)
    (kept : Kept newest earlier events subject) :
    List.Subperm (subject.evidence earlier events) (subject.evidence newest events) := by
  let seen (now : Datetime) (event : SecurityEvent) : Bool :=
    decide (Windowed subject.window now event) && subject.watches event
  have included : ∀ event ∈ events, seen earlier event = true → seen newest event = true := by
    intro event hevent sees
    obtain ⟨windowed, watched⟩ : Windowed subject.window earlier event ∧
        subject.watches event = true := by
      simpa only [seen, Bool.and_eq_true, decide_eq_true_eq] using sees
    have reaches := kept event (Subject.mem_evidence.mpr ⟨hevent, windowed, watched⟩)
    have still : Windowed subject.window newest event :=
      ⟨sub_le_iff_le_add.mpr reaches, windowed.2.trans later⟩
    simp only [seen, still, watched, decide_true, Bool.and_self]
  have narrowed : (events.filter (seen newest)).filter (seen earlier) =
      events.filter (seen earlier) := by
    rw [List.filter_filter]
    apply List.filter_congr
    intro event hevent
    have implies := included event hevent
    cases hseen : seen earlier event with
    | false => rfl
    | true => rw [implies hseen, Bool.true_and]
  have sublist : (events.filter (seen earlier)).Sublist (events.filter (seen newest)) := by
    rw [← narrowed]
    exact List.filter_sublist
  exact (Subject.perm_evidence earlier events subject).subperm.trans
    (sublist.subperm.trans (Subject.perm_evidence newest events subject).symm.subperm)

/-- A subject over its threshold stays over it while its evidence is kept. -/
theorem over_of_kept {newest earlier : Datetime} {events : List SecurityEvent} {subject : Subject}
    (later : earlier.instant ≤ newest.instant) (kept : Kept newest earlier events subject)
    (hover : subject.Over earlier events) : subject.Over newest events := by
  rw [Subject.over_iff_reaches] at hover ⊢
  exact hover.mono (subperm_evidence_of_kept later kept)

/-! ## The newest event -/

/-- No event is later than the moment a file is evaluated at. -/
theorem instant_le_latest {clock : Datetime} {events : List SecurityEvent}
    (readable : Readable events) {event : SecurityEvent} (hevent : event ∈ events) :
    timeOf event ≤ (latest clock events).instant := by
  obtain ⟨last, hlast⟩ : ∃ last, (chronological events).getLast? = some last := by
    have nonempty : chronological events ≠ [] :=
      List.ne_nil_of_mem (mem_chronological.mpr hevent)
    exact ⟨_, List.getLast?_eq_some_getLast nonempty⟩
  have hmem : last ∈ events := mem_chronological.mp (List.mem_of_getLast? hlast)
  obtain ⟨t, ht⟩ := Option.isSome_iff_exists.mp (readable last hmem)
  have moment : latest clock events = t := by
    simp [latest, hlast, ht]
  have time : timeOf last = t.instant := by simp [timeOf, ht]
  rw [moment, ← time]
  exact le_getLast_of_mem_sortedBy hlast hevent

theorem resolveNow_file {clock : Datetime} {store : EventStore} (readable : Readable store.events) :
    resolveNow none .file clock store = .ok (latest clock store.events) :=
  latestEventTime_of_latestMoment (latestMoment_eq readable)

/-! ## What a captured file is missing -/

section Captures

variable [UnicodeDb]

/-- The command and the loader evaluate a file at its newest event: they raise
nothing but what is over its threshold there, and so every alert of an earlier event
whose evidence the window still covers. -/
theorem raised_of_kept (ids others : AlertIds) (digest : Digest) (clock earlier : Datetime)
    (store : EventStore) (event : SecurityEvent) (alerts : List Alert) (subject : Subject)
    (hevent : event ∈ store.events) (hread : parseTimestamp event.timestamp = .ok earlier)
    (hevaluate : evaluateAll ids store earlier = .ok alerts)
    (hsubject : subject ∈ overSubjects earlier store.events) :
    let newest := latest clock store.events
    ∃ raised, raisedAlerts others none .file clock store = .ok raised ∧
      (∀ alert ∈ raised, ∃ other : Subject, other.Over newest store.events ∧
        alert.toAlertFields = other.alert newest store.events) ∧
      (∀ keyed, stableAlerts others digest store newest = .ok keyed →
        ∀ alert ∈ keyed, ∃ other : Subject, other.Over newest store.events ∧
          alert.toAlertFields = other.alert newest store.events) ∧
      (Kept newest earlier store.events subject →
        (∃ alert ∈ raised, alert.toAlertFields = subject.alert newest store.events) ∧
        ∀ keyed, stableAlerts others digest store newest = .ok keyed →
          ∃ alert ∈ keyed, alert.toAlertFields = subject.alert newest store.events) := by
  intro newest
  obtain ⟨fits, readable⟩ := readable_of_evaluateAll hevaluate
  have moment : timeOf event = earlier.instant := by
    obtain ⟨t, ht, htime⟩ := parseTimestamp_of_readable readable hevent
    obtain rfl := Except.ok.inj (ht.symm.trans hread)
    exact htime.symm
  have later : earlier.instant ≤ newest.instant := by
    rw [← moment]
    exact instant_le_latest readable hevent
  obtain ⟨bodies, hbodies, -⟩ := evaluateBodies_eq store (le_trans fits later) readable
  have evaluated : evaluateAll others store newest = .ok (attachIds others bodies) :=
    congrArg (Except.map _) hbodies
  have raised : raisedAlerts others none .file clock store = .ok (attachIds others bodies) :=
    (bind_of_eq_ok (resolveNow_file readable) _).trans evaluated
  have stable {keyed : List Alert} (hkeyed : stableAlerts others digest store newest = .ok keyed) :
      keyed.map (·.toAlertFields) =
        (overSubjects newest store.events).map (Subject.alert newest store.events) := by
    have fields := congrArg (List.map Prod.fst) (stableAlerts_eq_ok hkeyed)
    rwa [List.map_map, List.map_map] at fields
  have found := evaluateAll_eq_ok evaluated
  refine ⟨_, raised, fun alert halert => exists_over_of_mem found halert,
    fun keyed hkeyed alert halert => exists_over_of_mem (stable hkeyed) halert, ?_⟩
  intro kept
  have hover := over_of_kept later kept (mem_overSubjects.mp hsubject)
  exact ⟨exists_mem_of_over found hover, fun keyed hkeyed =>
    exists_mem_of_over (stable hkeyed) hover⟩

end Captures

/-! ## A burst and an hour of quiet -/

/-- The burst, and one more failure an hour later. -/
def lateCapture : EventStore :=
  ⟨burst.events ++ [(failedLogin 5).toEventBody.stamp ⟨6, laterClock⟩]⟩

/-- At the newest event of the capture nothing is raised, though the burst is in
it. -/
theorem burst_missed : letI := printsAll
    ¬ ∀ (ids others : AlertIds) (clock earlier : Datetime) (store : EventStore)
      (event : SecurityEvent) (alerts raised : List Alert) (subject : Subject),
      event ∈ store.events → parseTimestamp event.timestamp = .ok earlier →
        evaluateAll ids store earlier = .ok alerts → subject ∈ overSubjects earlier store.events →
          raisedAlerts others none .file clock store = .ok raised →
            ∃ alert ∈ raised, alert.ruleName = subject.info.name := by
  have readable : Readable lateCapture.events := by decide +kernel
  have fits : WindowFits UnauthorisedAccess.detectionWindow (second 5).time := by decide +kernel
  have later : WindowFits UnauthorisedAccess.detectionWindow anHourLater := by decide +kernel
  have newest : latest anHourLater lateCapture.events = anHourLater := by decide +kernel
  have hover : (Subject.account "root").Over (second 5).time lateCapture.events := by
    decide +kernel
  have quiet : overSubjects anHourLater lateCapture.events = [] := by decide +kernel
  have read : parseTimestamp (failedLogin 5).timestamp = .ok (second 5).time := by decide +kernel
  let _ := printsAll
  intro found
  obtain ⟨alerts, halerts⟩ := evaluated_of_fits (fun _ => alertIdTag) fits readable
  obtain ⟨raised, hraised⟩ := evaluated_of_fits (fun _ => alertIdTag) later readable
  have resolved : resolveNow none .file anHourLater lateCapture = .ok anHourLater :=
    (resolveNow_file readable).trans (congrArg Except.ok newest)
  obtain ⟨alert, halert, -⟩ := found _ _ anHourLater _ lateCapture (failedLogin 5) alerts raised
    (.account "root") (by simp [lateCapture, burst]) read halerts (mem_overSubjects.mpr hover)
    ((bind_of_eq_ok resolved _).trans hraised)
  have fields : alert.toAlertFields ∈ raised.map (·.toAlertFields) := List.mem_map_of_mem halert
  rw [evaluateAll_eq_ok hraised, quiet] at fields
  cases fields

/-- The burst, and one more failure half a minute later. -/
def shortCapture : EventStore := ⟨burst.events ++ [failedLogin 35]⟩

/-- What was raised at the fifth failure is raised at the sixth one too, by the command and
by the loader. -/
theorem raised_of_kept_burst : letI := printsAll
    (second 5).time.instant < (latest anHourLater shortCapture.events).instant ∧
    ∃ raised keyed,
      raisedAlerts (fun _ => alertIdTag) none .file anHourLater shortCapture = .ok raised ∧
      stableAlerts (fun _ => alertIdTag) burstDigest shortCapture
        (latest anHourLater shortCapture.events) = .ok keyed ∧
      (∃ alert ∈ raised, alert.toAlertFields = (Subject.account "root").alert
        (latest anHourLater shortCapture.events) shortCapture.events) ∧
      ∃ alert ∈ keyed, alert.toAlertFields = (Subject.account "root").alert
        (latest anHourLater shortCapture.events) shortCapture.events := by
  have readable : Readable shortCapture.events := by decide +kernel
  have encodable : ∀ event ∈ shortCapture.events, EncodableEvent event := by decide +kernel
  have fits : WindowFits UnauthorisedAccess.detectionWindow (second 5).time := by decide +kernel
  have fits' : WindowFits UnauthorisedAccess.detectionWindow
      (latest anHourLater shortCapture.events) := by decide +kernel
  have hover : (Subject.account "root").Over (second 5).time shortCapture.events := by
    decide +kernel
  have kept : Kept (latest anHourLater shortCapture.events) (second 5).time shortCapture.events
      (.account "root") := by
    decide +kernel
  have read : parseTimestamp (failedLogin 5).timestamp = .ok (second 5).time := by decide +kernel
  let _ := printsAll
  obtain ⟨alerts, halerts⟩ := evaluated_of_fits (fun _ => alertIdTag) fits readable
  obtain ⟨keyed, hkeyed⟩ : ∃ keyed, stableAlerts (fun _ => alertIdTag) burstDigest shortCapture
      (latest anHourLater shortCapture.events) = .ok keyed :=
    exists_stableAlerts_iff.mpr
      ⟨fits', readable, fun subject hover => attributable_of_encodable encodable hover⟩
  obtain ⟨raised, hraised, -, -, among⟩ := raised_of_kept (fun _ => alertIdTag)
    (fun _ => alertIdTag) burstDigest anHourLater (second 5).time shortCapture (failedLogin 5)
    alerts (.account "root") (by simp [shortCapture, burst]) read halerts
    (mem_overSubjects.mpr hover)
  obtain ⟨again, stable⟩ := among kept
  exact ⟨by decide +kernel, raised, keyed, hraised, hkeyed, again, stable keyed hkeyed⟩

end SentinelIR.Loader
