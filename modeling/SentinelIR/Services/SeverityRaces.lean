/-
# Severity changes that overlap

Each request loads the incident in a session of its own, commits its change, and
reads the row again for its event. Other requests commit in between: nothing
compares the severity a request loaded with the one it overwrites. A request that
leaves the severity as it loaded it writes nothing.
-/

import SentinelIR.Services.IncidentService

namespace SentinelIR.Services

open SentinelIR.Py SentinelIR.Common

/-! ## The incident and its requests -/

/-- A request that has loaded the incident: what it wants, the severity it loaded,
and how many changes had been committed by then. -/
structure Session where
  requested : Severity
  correlationId : CorrelationId
  previous : Severity
  version : Nat

/-- A request that has committed: with it, the severity its commit replaced and
what had been committed since it loaded. -/
structure Committed extends Session where
  before : Severity
  since : List Severity

/-- How far a request has come. -/
inductive Phase
  | loaded (session : Session)
  | committed (request : Committed)

/-- The incident as it was, the severities committed since, and the requests under
way. -/
structure Contended where
  row : Incident
  writes : List Severity
  phases : Nat → Option Phase

/-- The committed severity. -/
def Contended.severity (state : Contended) : Severity :=
  state.writes.getLast?.getD state.row.severity

/-- No request yet. -/
def Contended.start (row : Incident) : Contended := ⟨row, [], fun _ => none⟩

/-- What a request does next. -/
inductive SeverityAction
  /-- `repository.get`. Where the row cannot be loaded the request ends and is no step. -/
  | load (request : Nat) (requested : Severity) (correlationId : CorrelationId)
  /-- `session.commit`, which the database takes or refuses. -/
  | commit (request : Nat) (accepted : Bool)
  /-- `session.refresh`, which may fail, and the event. -/
  | refresh (request : Nat) (refreshes : Bool)

/-- An emitted escalation: the request it is from, and the severity the row had
when it was read again. -/
structure Escalated extends Committed where
  reported : Severity

/-- The event of an escalation. -/
def Escalated.fields (row : Incident) (escalated : Escalated) : EventFields :=
  IncidentService.escalatedFields { row with severity := escalated.reported } escalated.previous
    escalated.correlationId.1

/-- One step, and the escalation it emits. -/
def act (state : Contended) : SeverityAction → Contended × List Escalated
  | .load request requested correlationId =>
      ({ state with
          phases := Function.update state.phases request
            (some (.loaded ⟨requested, correlationId, state.severity, state.writes.length⟩)) }, [])
  | .commit request accepted =>
      match state.phases request with
      | some (.loaded session) =>
          if accepted then
            ({ state with
                writes :=
                  if session.requested = session.previous then state.writes
                  else state.writes ++ [session.requested]
                phases := Function.update state.phases request (some (.committed
                  { session with
                    before := state.severity
                    since := state.writes.drop session.version })) }, [])
          else ({ state with phases := Function.update state.phases request none }, [])
      | _ => (state, [])
  | .refresh request refreshes =>
      match state.phases request with
      | some (.committed committed) =>
          ({ state with phases := Function.update state.phases request none },
            if refreshes = true ∧ committed.requested ∈ escalationSeverities ∧
                committed.requested ≠ committed.previous then
              [{ committed with reported := state.severity }]
            else [])
      | _ => (state, [])

/-- The escalations of a run. -/
def escalated (state : Contended) : List SeverityAction → List Escalated
  | [] => []
  | action :: actions => (act state action).2 ++ escalated (act state action).1 actions

/-! ## What a request knows -/

/-- The last of some severities, if there is one, is this one. -/
def EndsIn (severity : Severity) (severities : List Severity) : Prop :=
  ∀ last, severities.getLast? = some last → last = severity

/-- A request that has committed knows what it replaced exactly when the changes
since it loaded left the severity as it was. -/
def Committed.Knows (committed : Committed) : Prop :=
  committed.previous = committed.before ↔ EndsIn committed.previous committed.since

/-- Every loaded request has the severity of its version, and every committed one
knows what it replaced when nothing came between. -/
def Consistent (state : Contended) : Prop :=
  ∀ request,
    (∀ session, state.phases request = some (.loaded session) →
      session.version ≤ state.writes.length ∧
        session.previous =
          (state.writes.take session.version).getLast?.getD state.row.severity) ∧
      ∀ committed, state.phases request = some (.committed committed) → committed.Knows

theorem consistent_start (row : Incident) : Consistent (.start row) :=
  fun _ => ⟨by rintro session ⟨⟩, by rintro committed ⟨⟩⟩

theorem getLast?_append_getD {α : Type} (front back : List α) (start : α) :
    (front ++ back).getLast?.getD start =
      back.getLast?.getD (front.getLast?.getD start) := by
  cases back using List.reverseRecOn with
  | nil => simp
  | append_singleton back last => simp [← List.append_assoc]

/-- The severity a commit replaces, from the one that was loaded. -/
theorem severity_eq {state : Contended} {session : Session}
    (loaded : session.previous = (state.writes.take session.version).getLast?.getD
      state.row.severity) :
    state.severity = (state.writes.drop session.version).getLast?.getD session.previous := by
  have split := getLast?_append_getD (state.writes.take session.version)
    (state.writes.drop session.version) state.row.severity
  rw [List.take_append_drop, ← loaded] at split
  exact split

theorem knows_of_loaded {state : Contended} {session : Session}
    (loaded : session.previous = (state.writes.take session.version).getLast?.getD
      state.row.severity) :
    Committed.Knows { session with
      before := state.severity, since := state.writes.drop session.version } := by
  unfold Committed.Knows EndsIn
  dsimp only
  rw [severity_eq loaded]
  cases (state.writes.drop session.version).getLast? with
  | none => simp
  | some last =>
      simp only [Option.getD_some, Option.some.injEq, forall_eq']
      exact eq_comm

/-- What a consistent state asks of one request. -/
def Sound (state : Contended) (phase : Option Phase) : Prop :=
  (∀ session, phase = some (.loaded session) →
    session.version ≤ state.writes.length ∧
      session.previous = (state.writes.take session.version).getLast?.getD state.row.severity) ∧
    ∀ committed, phase = some (.committed committed) → committed.Knows

section Sound

variable {state : Contended}

theorem sound_none : Sound state none :=
  ⟨by rintro session ⟨⟩, by rintro committed ⟨⟩⟩

theorem sound_loaded {session : Session} (bound : session.version ≤ state.writes.length)
    (loaded : session.previous =
      (state.writes.take session.version).getLast?.getD state.row.severity) :
    Sound state (some (.loaded session)) := by
  refine ⟨?_, by rintro committed ⟨⟩⟩
  intro other same
  obtain rfl := Phase.loaded.inj (Option.some.inj same)
  exact ⟨bound, loaded⟩

theorem sound_committed {committed : Committed} (knows : committed.Knows) :
    Sound state (some (.committed committed)) := by
  refine ⟨by rintro session ⟨⟩, ?_⟩
  intro other same
  obtain rfl := Phase.committed.inj (Option.some.inj same)
  exact knows

/-- Moving one request on leaves the others as they were. -/
theorem Consistent.update (consistent : Consistent state) (request : Nat) {phase : Option Phase}
    (sound : Sound state phase) :
    Consistent { state with phases := Function.update state.phases request phase } := by
  intro other
  by_cases same : other = request
  · subst same
    dsimp only
    rw [Function.update_self]
    exact sound
  · dsimp only
    rw [Function.update_of_ne same]
    exact consistent other

/-- A commit leaves what was there when the others loaded. -/
theorem Consistent.append (consistent : Consistent state) (later : List Severity) :
    Consistent { state with writes := state.writes ++ later } := by
  intro other
  obtain ⟨loads, commits⟩ := consistent other
  refine ⟨?_, commits⟩
  intro session hsession
  obtain ⟨bound, previous⟩ := loads session hsession
  dsimp only
  rw [List.length_append, List.take_append_of_le_length bound]
  exact ⟨Nat.le_add_right_of_le bound, previous⟩

end Sound

/-- One step keeps what the requests know. -/
theorem Consistent.step {state : Contended} (consistent : Consistent state)
    (action : SeverityAction) : Consistent (act state action).1 := by
  cases action with
  | load request requested correlationId =>
      apply consistent.update request
      apply sound_loaded le_rfl
      dsimp only
      rw [List.take_length]
      rfl
  | commit request accepted =>
      rw [act]
      split
      case h_1 session hloaded =>
          have knows := knows_of_loaded ((consistent request).1 session hloaded).2
          split
          case isTrue =>
              split
              · exact consistent.update request (sound_committed knows)
              · exact (consistent.append [session.requested]).update request
                  (sound_committed knows)
          case isFalse => exact consistent.update request sound_none
      case h_2 => exact consistent
  | refresh request refreshes =>
      rw [act]
      split
      case h_1 committed hcommitted => exact consistent.update request sound_none
      case h_2 => exact consistent

/-- Every escalation of a run escalates, and knows what it replaced when nothing
came between. -/
theorem knows_of_mem {state : Contended} {actions : List SeverityAction}
    (consistent : Consistent state) {e : Escalated} (he : e ∈ escalated state actions) :
    e.toCommitted.Knows ∧ e.requested ∈ escalationSeverities ∧ e.requested ≠ e.previous := by
  induction actions generalizing state with
  | nil => cases he
  | cons action actions ih =>
      rcases List.mem_append.mp he with here | later
      · cases action with
        | load => cases here
        | commit request accepted =>
            rw [act] at here
            split at here
            · split at here <;> cases here
            · cases here
        | refresh request refreshes =>
            rw [act] at here
            split at here
            case h_1 committed hcommitted =>
                dsimp only at here
                split at here
                case isTrue escalates =>
                    rw [List.mem_singleton.mp here]
                    exact ⟨(consistent request).2 committed hcommitted, escalates.2⟩
                case isFalse => cases here
            case h_2 => cases here
      · exact ih (consistent.step action) later

/-! ## What the events say -/

/-- The event says what happened: it names the severity its commit replaced, and a
raise it reports was one. -/
def Truthful (e : Escalated) : Prop :=
  e.previous = e.before ∧
    (rank e.previous < rank e.reported → rank e.before < rank e.requested)

/-- A commit in between left another severity than the request had loaded. -/
def Overtaken (e : Escalated) : Prop := ¬ EndsIn e.previous e.since

/-- An escalation that names what it replaced reports no raise that was none. -/
theorem raise_of_known {e : Escalated} (escalates : e.requested ∈ escalationSeverities)
    (other : e.requested ≠ e.previous) (known : e.previous = e.before)
    (raised : rank e.previous < rank e.reported) : rank e.before < rank e.requested := by
  rw [← known]
  revert escalates other raised
  generalize e.requested = requested
  generalize e.previous = previous
  generalize e.reported = reported
  cases requested <;> cases previous <;> cases reported <;> decide

/-- In a run of overlapping severity changes every escalation is truthful exactly
when none of its requests was overtaken. -/
theorem truthful_iff (row : Incident) (actions : List SeverityAction) :
    (∀ e ∈ escalated (.start row) actions, Truthful e) ↔
      ∀ e ∈ escalated (.start row) actions, ¬ Overtaken e := by
  refine forall_congr' fun e => forall_congr' fun he => ?_
  obtain ⟨knows, escalates, other⟩ := knows_of_mem (consistent_start row) he
  rw [Overtaken, not_not]
  constructor
  · exact fun truthful => knows.mp truthful.1
  · intro undisturbed
    have known := knows.mpr undisturbed
    exact ⟨known, raise_of_known escalates other known⟩

/-- Two requests load a low incident; the second overwrites `CRITICAL` and reports
a raise from `LOW`. -/
theorem demotion_reported_as_raise :
    ¬ ∀ (row : Incident) (actions : List SeverityAction),
      ∀ e ∈ escalated (.start row) actions, Truthful e := by
  intro always
  let correlationId : CorrelationId := ⟨"corr-000000000001", not_blank_lit (by decide +kernel)⟩
  have truthful := always { breach with severity := .low }
    [.load 0 .critical correlationId, .load 1 .high correlationId, .commit 0 true, .commit 1 true,
      .refresh 1 true]
  have stated := (truthful _ (List.mem_singleton_self _)).1
  exact absurd stated (by decide)

end SentinelIR.Services
