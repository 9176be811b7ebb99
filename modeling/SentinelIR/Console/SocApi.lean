/-
# Detection requests on the shared alert store

The console clears the alert store before it persists a run, and a status change
reads an alert before it writes the copy back. The requests are served from a
thread pool over one store, so their steps interleave. `Step` is one method call
of one request.
-/

import SentinelIR.Loader.Collapse
import SentinelIR.Rules.Main

namespace SentinelIR.Console

open SentinelIR.Py SentinelIR.Common SentinelIR.Alerts SentinelIR.Collector SentinelIR.Rules
open SentinelIR.Loader

/-- A request between its two steps. -/
inductive Request
  /-- `run_detection` has cleared the store and is about to persist. -/
  | detection (events : EventStore) (alerts : List Alert)
  /-- `set_status` has read an alert and is about to store the copy. -/
  | statusChange (updated : Alert)
  deriving DecidableEq

/-- The shared store and the requests under way. -/
structure System where
  store : AlertStore
  pending : List Request

/-- One step of one request. -/
inductive Action
  /-- `run_detection` clears. -/
  | clear (events : EventStore) (alerts : List Alert)
  /-- `run_detection` persists. -/
  | persist (events : EventStore) (alerts : List Alert)
  /-- `set_status` reads. -/
  | read (alertId : Str) (status : AlertStatus)
  /-- `set_status` writes. -/
  | write (updated : Alert)

/-- The step relation. A run clears once its rules have been evaluated; a status
change of an unknown alert ends with its read. -/
inductive Step [UnicodeDb] : System → Action → System → Prop
  | clear {s : System} {ids : AlertIds} {events : EventStore} {now : Datetime}
      {alerts : List Alert} (evaluated : evaluateAll ids events now = .ok alerts) :
      Step s (.clear events alerts) ⟨AlertStore.empty, .detection events alerts :: s.pending⟩
  | persist {s : System} {events : EventStore} {alerts : List Alert}
      (cleared : .detection events alerts ∈ s.pending) :
      Step s (.persist events alerts)
        ⟨(persistAlerts alerts events s.store).2, s.pending.erase (.detection events alerts)⟩
  | read {s : System} {alertId : Str} {status : AlertStatus} {current : Alert}
      (found : s.store.get alertId = .ok current) :
      Step s (.read alertId status)
        ⟨s.store, .statusChange (current.withStatus status) :: s.pending⟩
  | missing {s : System} {alertId : Str} {status : AlertStatus} {raised : Exc}
      (absent : s.store.get alertId = .error raised) : Step s (.read alertId status) s
  | write {s : System} {updated : Alert} (held : .statusChange updated ∈ s.pending) :
      Step s (.write updated) ⟨s.store.add updated, s.pending.erase (.statusChange updated)⟩

/-- A sequence of steps, by whatever requests. -/
inductive Run [UnicodeDb] (start : System) : List Action → System → Prop
  | nil : Run start [] start
  | snoc {actions : List Action} {s t : System} {action : Action} (run : Run start actions s)
      (step : Step s action t) : Run start (actions ++ [action]) t

/-- The two steps of a status change are `set_status`. -/
theorem setStatus_eq [UnicodeDb] (store : AlertStore) (alertId : Str) (status : AlertStatus)
    (keyed : store.Keyed) :
    store.setStatus alertId status = (store.get alertId).map fun current =>
      (current.withStatus status, store.add (current.withStatus status)) := by
  rw [AlertStore.setStatus, AlertStore.get]
  cases found : store.alerts.get? alertId with
  | none => rfl
  | some current =>
      have named : current.alertId = alertId := keyed alertId current
        ((Dict.lookup_eq_some_iff store.alerts.nodup).mp found)
      simp only [bind, Except.bind, pure, Except.pure, Except.map, AlertStore.add,
        Alert.withStatus, named]

/-! ## What the store holds -/

/-- The store holds the alerts of a run, their statuses aside. -/
def Holds (store : AlertStore) (alerts : List Alert) : Prop :=
  ∀ k, (store.alerts.get? k).map (·.withStatus .opened) =
    (alerts.reverse.find? fun alert => alert.alertId = k).map (·.withStatus .opened)

theorem holds_extend_empty (alerts : List Alert) :
    Holds (AlertStore.empty.extend alerts).1 alerts := by
  intro k
  have nothing : AlertStore.empty.alerts.get? k = none := rfl
  rw [AlertStore.get?_extend, nothing, Option.or_none]

/-- Writing back an alert the store still holds keeps what it holds. -/
theorem Holds.write {store : AlertStore} {alerts : List Alert} {current updated : Alert}
    (holds : Holds store alerts) (found : store.alerts.get? updated.alertId = some current)
    (same : current.withStatus .opened = updated.withStatus .opened) :
    Holds (store.add updated) alerts := by
  intro k
  rw [← holds k, AlertStore.add, Dict.get?_set]
  by_cases key : k = updated.alertId
  · rw [if_pos key, key, found, Option.map_some, Option.map_some, same]
  · rw [if_neg key]

/-- The steps after which the store still holds one run: a run persists into an
empty store, or has nothing to persist, and a status change writes to an alert
that is still there. -/
def Uncontended (s : System) : Action → Prop
  | .persist _ alerts => s.store.alerts.entries = [] ∨ alerts = []
  | .write updated => ∃ current, s.store.alerts.get? updated.alertId = some current ∧
      current.withStatus .opened = updated.withStatus .opened
  | _ => True

/-- A run whose steps are all uncontended. -/
inductive Quiet [UnicodeDb] (start : System) : List Action → System → Prop
  | nil : Quiet start [] start
  | snoc {actions : List Action} {s t : System} {action : Action} (run : Quiet start actions s)
      (uncontended : Uncontended s action) (step : Step s action t) :
      Quiet start (actions ++ [action]) t

/-- The run is a clear by some detection request. -/
def Action.isClear : Action → Bool
  | .clear _ _ => true
  | _ => false

/-- Whose alerts the store holds after some steps: those it held before, if none
of them cleared; nobody's, while a run that cleared has yet to persist; or those
of a run that persisted after the last clear. -/
def Origin (before : List Alert) (actions : List Action) (s : System)
    (alerts : List Alert) : Prop :=
  (alerts = before ∧ ∀ action ∈ actions, action.isClear = false) ∨
  (alerts = [] ∧ ∃ events raised, Request.detection events raised ∈ s.pending) ∨
  ∃ earlier events later, actions = earlier ++ Action.persist events alerts :: later ∧
    ∀ action ∈ later, action.isClear = false

section Run

variable [UnicodeDb] {start s t : System} {before alerts : List Alert} {actions : List Action}

/-- Only evaluated alerts wait to be persisted. -/
def Evaluated (s : System) : Prop :=
  ∀ events alerts, Request.detection events alerts ∈ s.pending →
    ∃ ids now, evaluateAll ids events now = .ok alerts

theorem Evaluated.step {action : Action} (evaluated : Evaluated s) (step : Step s action t) :
    Evaluated t := by
  intro events alerts hpending
  cases step with
  | clear hevaluate =>
      rcases List.mem_cons.mp hpending with same | older
      · cases same
        exact ⟨_, _, hevaluate⟩
      · exact evaluated events alerts older
  | persist => exact evaluated events alerts (List.mem_of_mem_erase hpending)
  | read =>
      rcases List.mem_cons.mp hpending with same | older
      · cases same
      · exact evaluated events alerts older
  | missing => exact evaluated events alerts hpending
  | write => exact evaluated events alerts (List.mem_of_mem_erase hpending)

omit [UnicodeDb] in
/-- A step that neither clears nor persists keeps the origin. -/
theorem Origin.snoc {action : Action} (origin : Origin before actions s alerts)
    (quiet : action.isClear = false)
    (kept : ∀ events raised, Request.detection events raised ∈ s.pending →
      Request.detection events raised ∈ t.pending) :
    Origin before (actions ++ [action]) t alerts := by
  rcases origin with ⟨same, none⟩ | ⟨empty, events, raised, waiting⟩ |
    ⟨earlier, events, later, split, none⟩
  · refine .inl ⟨same, fun other hother => ?_⟩
    rcases List.mem_append.mp hother with old | new
    · exact none other old
    · rwa [List.mem_singleton.mp new]
  · exact .inr (.inl ⟨empty, events, raised, kept events raised waiting⟩)
  · refine .inr (.inr ⟨earlier, events, later ++ [action], by simp [split], fun other hother => ?_⟩)
    rcases List.mem_append.mp hother with old | new
    · exact none other old
    · rwa [List.mem_singleton.mp new]

/-- One uncontended step leaves the alerts of one run. -/
theorem holds_step {action : Action} (evaluated : Evaluated s) (holds : Holds s.store alerts)
    (origin : Origin before actions s alerts) (uncontended : Uncontended s action)
    (step : Step s action t) :
    ∃ after, Holds t.store after ∧ Origin before (actions ++ [action]) t after := by
  cases step with
  | clear hevaluate =>
      exact ⟨[], holds_extend_empty [], .inr (.inl ⟨rfl, _, _, List.mem_cons_self⟩)⟩
  | @persist events raised cleared =>
      obtain ⟨ids, now, hevaluate⟩ := evaluated events raised cleared
      have stored : (persistAlerts raised events s.store).2 = (s.store.extend raised).1 := by
        rw [persistAlerts_of_evaluated s.store hevaluate]
      rw [stored]
      rcases uncontended with empty | none
      · have fresh : s.store = AlertStore.empty := AlertStore.eq_empty_of_entries empty
        rw [fresh]
        exact ⟨raised, holds_extend_empty raised, .inr (.inr ⟨actions, events, [], rfl, by simp⟩)⟩
      · subst none
        rcases origin with ⟨same, none⟩ | ⟨rfl, -⟩ | ⟨earlier, events', later, split, none⟩
        · refine ⟨alerts, holds, .inl ⟨same, fun other hother => ?_⟩⟩
          rcases List.mem_append.mp hother with old | new
          · exact none other old
          · rw [List.mem_singleton.mp new]
            rfl
        · exact ⟨[], holds, .inr (.inr ⟨actions, events, [], rfl, by simp⟩)⟩
        · refine ⟨alerts, holds, .inr (.inr ⟨earlier, events', later ++ [.persist events []],
            by simp [split], fun other hother => ?_⟩)⟩
          rcases List.mem_append.mp hother with old | new
          · exact none other old
          · rw [List.mem_singleton.mp new]
            rfl
  | read found =>
      exact ⟨alerts, holds, origin.snoc rfl fun _ _ waiting => List.mem_cons_of_mem _ waiting⟩
  | missing absent => exact ⟨alerts, holds, origin.snoc rfl fun _ _ waiting => waiting⟩
  | write held =>
      obtain ⟨current, found, same⟩ := uncontended
      refine ⟨alerts, holds.write found same, origin.snoc rfl fun events raised waiting => ?_⟩
      exact (List.mem_erase_of_ne (by simp)).mpr waiting

/-- Uncontended steps leave the alerts of one run. -/
theorem holds_run (evaluated : Evaluated start) (holds : Holds start.store before)
    (run : Quiet start actions s) :
    Evaluated s ∧ ∃ alerts, Holds s.store alerts ∧ Origin before actions s alerts := by
  induction run with
  | nil => exact ⟨evaluated, before, holds, .inl ⟨rfl, by simp⟩⟩
  | snoc run uncontended step ih =>
      obtain ⟨evaluated, alerts, holds, origin⟩ := ih
      exact ⟨evaluated.step step, holds_step evaluated holds origin uncontended step⟩

/-- Once every request has finished, an uncontended run leaves the alerts of
exactly one detection run, and of one that was not cleared. -/
theorem one_run_of_uncontended (store : AlertStore) (before : List Alert)
    (holds : Holds store before) (actions : List Action) (s : System)
    (run : Quiet ⟨store, []⟩ actions s) (finished : s.pending = []) :
    ∃ alerts, Holds s.store alerts ∧
      ((alerts = before ∧ ∀ action ∈ actions, action.isClear = false) ∨
        ∃ earlier events later, actions = earlier ++ Action.persist events alerts :: later ∧
          ∀ action ∈ later, action.isClear = false) := by
  have idle : Evaluated ⟨store, []⟩ := by
    intro events alerts hpending
    cases hpending
  obtain ⟨-, alerts, holds, origin⟩ := holds_run idle holds run
  refine ⟨alerts, holds, ?_⟩
  rcases origin with kept | ⟨-, events, raised, waiting⟩ | persisted
  · exact .inl kept
  · rw [finished] at waiting
    cases waiting
  · exact .inr persisted

end Run

/-! ## A status change across a second run -/

/-- The burst has alerts to persist. -/
theorem exists_evaluated_burst : letI := printsAll
    ∃ alerts, evaluateAll (fun _ => alertIdTag) burst (second 6).time = .ok alerts ∧
      ∃ alert, alert ∈ alerts := by
  have readable : Readable burst.events := by decide +kernel
  have fits : WindowFits UnauthorisedAccess.detectionWindow (second 6).time := by decide +kernel
  let _ := printsAll
  obtain ⟨bodies, hbodies, -⟩ := evaluateBodies_eq burst fits readable
  have evaluated : evaluateAll (fun _ => alertIdTag) burst (second 6).time = .ok _ :=
    congrArg (Except.map _) hbodies
  refine ⟨_, evaluated, ?_⟩
  have raised := List.mem_map_of_mem (f := Subject.alert (second 6).time burst.events)
    (mem_overSubjects.mpr over_burst.1)
  rw [← evaluateAll_eq_ok evaluated] at raised
  obtain ⟨alert, halert, -⟩ := List.mem_map.mp raised
  exact ⟨alert, halert⟩

/-- Without events nothing is raised. -/
theorem evaluateAll_empty : letI := printsAll
    evaluateAll (fun _ => alertIdTag) EventStore.empty (second 6).time = .ok [] := by
  have fits : WindowFits UnauthorisedAccess.detectionWindow (second 6).time := by decide +kernel
  let _ := printsAll
  obtain ⟨bodies, hbodies, -⟩ := evaluateBodies_eq EventStore.empty fits
    (by simp [Readable, EventStore.empty])
  have evaluated : evaluateAll (fun _ => alertIdTag) EventStore.empty (second 6).time = .ok _ :=
    congrArg (Except.map _) hbodies
  rw [evaluated]
  have nobody : overSubjects (second 6).time EventStore.empty.events = [] :=
    List.eq_nil_iff_forall_not_mem.mpr fun subject hsubject => by
      obtain ⟨event, hevent⟩ := List.exists_mem_of_ne_nil _
        (Subject.evidence_ne_nil (mem_overSubjects.mp hsubject))
      exact absurd (Subject.mem_events_of_mem_evidence hevent) List.not_mem_nil
  have fields := evaluateAll_eq_ok evaluated
  rw [nobody, List.map_nil, List.map_eq_nil_iff] at fields
  rw [fields]

/-- An alert read before a second run clears the store is written back after the
run has persisted. -/
theorem resurrected_alert : letI := printsAll
    ¬ ∀ (store : AlertStore) (before : List Alert), Holds store before →
      ∀ (actions : List Action) (s : System), Run ⟨store, []⟩ actions s → s.pending = [] →
        ∃ alerts, Holds s.store alerts ∧
          ((alerts = before ∧ ∀ action ∈ actions, action.isClear = false) ∨
            ∃ earlier events later, actions = earlier ++ Action.persist events alerts :: later ∧
              ∀ action ∈ later, action.isClear = false) := by
  let _ := printsAll
  intro one
  obtain ⟨alerts, hevaluate, alert, halert⟩ := exists_evaluated_burst
  have stored : (persistAlerts alerts burst AlertStore.empty).2 =
      (AlertStore.empty.extend alerts).1 := by
    rw [persistAlerts_of_evaluated _ hevaluate]
  obtain ⟨current, hcurrent⟩ : ∃ current,
      (AlertStore.empty.extend alerts).1.get alert.alertId = .ok current := by
    obtain ⟨current, hcurrent⟩ := AlertStore.exists_get?_extend AlertStore.empty halert
    exact ⟨current, by rw [AlertStore.get, hcurrent]⟩
  let updated := current.withStatus .acknowledged
  have run : Run ⟨AlertStore.empty, []⟩
      [.clear burst alerts, .persist burst alerts, .read alert.alertId .acknowledged,
        .clear EventStore.empty [], .persist EventStore.empty [], .write updated]
      ⟨AlertStore.empty.add updated, []⟩ := by
    have first := Run.nil.snoc (Step.clear (s := ⟨AlertStore.empty, []⟩) hevaluate)
    have second := first.snoc (.persist List.mem_cons_self)
    simp only [stored, List.erase_cons_head] at second
    have read : Step ⟨(AlertStore.empty.extend alerts).1, []⟩ (.read alert.alertId .acknowledged)
        ⟨(AlertStore.empty.extend alerts).1, [.statusChange updated]⟩ := .read hcurrent
    have third := second.snoc read
    have fourth := third.snoc (.clear evaluateAll_empty)
    have fifth := fourth.snoc (.persist List.mem_cons_self)
    simp only [persistAlerts_of_evaluated _ evaluateAll_empty, List.erase_cons_head] at fifth
    have sixth := fifth.snoc (.write List.mem_cons_self)
    simp only [List.erase_cons_head] at sixth
    exact sixth
  obtain ⟨held, holds, origin⟩ := one _ [] (holds_extend_empty []) _ _ run rfl
  have nothing : held = [] := by
    rcases origin with ⟨-, quiet⟩ | ⟨earlier, events, later, split, quiet⟩
    · exact absurd (quiet _ List.mem_cons_self) (by simp [Action.isClear])
    · rcases earlier with _ | ⟨_, _ | ⟨_, _ | ⟨_, _ | ⟨_, _ | ⟨_, _ | ⟨_, rest⟩⟩⟩⟩⟩⟩ <;>
        simp only [List.nil_append, List.cons_append, List.cons.injEq, reduceCtorEq, false_and,
          and_false, Action.persist.injEq] at split
      · obtain ⟨-, -, rfl⟩ := split
        exact absurd (quiet (.clear EventStore.empty []) (by simp)) (by simp [Action.isClear])
      · exact split.2.2.2.2.1.2.symm
      · simp at split
  have left := holds updated.alertId
  rw [AlertStore.add, Dict.get?_set, if_pos rfl, nothing] at left
  cases left

/-- A run of the rules over the burst, a status change of one of its alerts, and a second run. -/
theorem one_run_burst : letI := printsAll
    ∃ (alerts : List Alert) (alertId : Str) (updated : Alert) (s : System),
      Quiet ⟨AlertStore.empty, []⟩
        [.clear burst alerts, .persist burst alerts, .read alertId .acknowledged, .write updated,
          .clear burst alerts, .persist burst alerts] s ∧
      ∃ held, Holds s.store held ∧
        ∃ earlier events later,
          [.clear burst alerts, .persist burst alerts, .read alertId .acknowledged,
            .write updated, .clear burst alerts, .persist burst alerts] =
              earlier ++ Action.persist events held :: later ∧
            ∀ action ∈ later, action.isClear = false := by
  let _ := printsAll
  obtain ⟨alerts, hevaluate, alert, halert⟩ := exists_evaluated_burst
  let stored := (AlertStore.empty.extend alerts).1
  obtain ⟨current, hcurrent⟩ : ∃ current, stored.alerts.get? alert.alertId = some current :=
    AlertStore.exists_get?_extend AlertStore.empty halert
  have named : current.alertId = alert.alertId := AlertStore.keyed_empty.extend alerts _ current
    ((Dict.lookup_eq_some_iff stored.alerts.nodup).mp hcurrent)
  let updated := current.withStatus .acknowledged
  have persisted (pending : List Request) :
      Step ⟨AlertStore.empty, .detection burst alerts :: pending⟩ (.persist burst alerts)
        ⟨stored, pending⟩ := by
    have step := Step.persist (s := ⟨AlertStore.empty, .detection burst alerts :: pending⟩)
      List.mem_cons_self
    rwa [persistAlerts_of_evaluated _ hevaluate, List.erase_cons_head] at step
  have alone : Uncontended ⟨AlertStore.empty, [.detection burst alerts]⟩ (.persist burst alerts) :=
    Or.inl rfl
  have read : Step ⟨stored, []⟩ (.read alert.alertId .acknowledged)
      ⟨stored, [.statusChange updated]⟩ := .read (by rw [AlertStore.get, hcurrent])
  have held : Uncontended ⟨stored, [.statusChange updated]⟩ (.write updated) := by
    refine ⟨current, ?_, rfl⟩
    rw [show updated.alertId = alert.alertId from named, hcurrent]
  have written : Step ⟨stored, [.statusChange updated]⟩ (.write updated)
      ⟨stored.add updated, []⟩ := by
    have step := Step.write (s := ⟨stored, [.statusChange updated]⟩) List.mem_cons_self
    rwa [List.erase_cons_head] at step
  have cleared : Quiet ⟨AlertStore.empty, []⟩ [.clear burst alerts]
      ⟨AlertStore.empty, [.detection burst alerts]⟩ := Quiet.nil.snoc trivial (.clear hevaluate)
  have reading : Uncontended ⟨stored, []⟩ (.read alert.alertId .acknowledged) := trivial
  have clearing : Uncontended ⟨stored.add updated, []⟩ (.clear burst alerts) := trivial
  have changed := ((cleared.snoc alone (persisted [])).snoc reading read).snoc held written
  have whole := (changed.snoc clearing (.clear hevaluate)).snoc alone (persisted [])
  refine ⟨alerts, alert.alertId, updated, _, whole, ?_⟩
  obtain ⟨last, holds, origin⟩ :=
    one_run_of_uncontended _ [] (holds_extend_empty []) _ _ whole rfl
  refine ⟨last, holds, origin.resolve_left ?_⟩
  rintro ⟨-, quiet⟩
  exact absurd (quiet (.clear burst alerts) List.mem_cons_self) (by simp [Action.isClear])

end SentinelIR.Console
