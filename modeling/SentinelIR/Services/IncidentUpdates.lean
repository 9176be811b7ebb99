/-
# Updating an incident

A payload may leave a field out, set it to null or set it to a value. The first and the
last succeed. A null title or description is refused by the database, whose columns are
not nullable, and a null status fails before, when its value is asked for. Nothing is
changed then. Where the row cannot be read back after the commit, the update raises and
the change stands.
-/

import SentinelIR.Services.IncidentService

namespace SentinelIR.Services

open SentinelIR.Py SentinelIR.Common

/-! ## The table -/

/-- The `incidents` table: every row stands under its own primary key. -/
structure IncidentTable where
  rows : Incidents
  keyed : ∀ id incident, rows.get? id = some incident → incident.id = id

/-- A field after an update: the supplied value, or what it was when none is. -/
def Supplied {α : Type} (supplied : Option (Option α)) (before after : α) : Prop :=
  match supplied with
  | none => after = before
  | some value => value = some after

/-- The supplied fields are changed, and no others. -/
structure IncidentUpdate.Changes (payload : IncidentUpdate) (before after : Incident) : Prop where
  title : Supplied payload.title before.title after.title
  description : Supplied payload.description before.description after.description
  status : Supplied payload.status before.status after.status
  others : after =
    { before with title := after.title, description := after.description, status := after.status }

/-- No field is supplied as null. -/
structure IncidentUpdate.NoNull (payload : IncidentUpdate) : Prop where
  title : payload.title ≠ some none
  description : payload.description ≠ some none
  status : payload.status ≠ some none

namespace IncidentService

/-- The update raises that there is no such incident, exactly when there is none, and
nothing else; or it returns the incident with the supplied fields changed, which is what
the table then holds. -/
structure Updates (table : IncidentTable) (incidentId : Int) (payload : IncidentUpdate)
    (reads : Bool) (commit : RowCommit Unit) : Prop where
  missing : (update table.rows incidentId payload reads commit).1.result =
      .error (notFound incidentId) ↔
    table.rows.get? incidentId = none
  raises : ∀ raised, (update table.rows incidentId payload reads commit).1.result = .error raised →
    raised = notFound incidentId ∧
      (update table.rows incidentId payload reads commit).2 = table.rows
  returns : ∀ updated, (update table.rows incidentId payload reads commit).1.result = .ok updated →
    ∃ current, table.rows.get? incidentId = some current ∧ payload.Changes current updated ∧
      (update table.rows incidentId payload reads commit).2.get? =
        Function.update table.rows.get? incidentId (some updated)

section Update

variable {table : IncidentTable} {incidentId : Int} {payload : IncidentUpdate} {reads : Bool}
  {commit : RowCommit Unit}

theorem supplied_getD {α : Type} {supplied : Option (Option α)} (value : supplied ≠ some none)
    (before : α) : Supplied supplied before ((supplied.bind id).getD before) := by
  match supplied, value with
  | none, _ => rfl
  | some (some after), _ => rfl
  | some none, null => exact absurd rfl null

/-- Without a null the row takes the supplied values. -/
theorem applyUpdate_of_noNull (noNull : payload.NoNull) (incident : Incident) :
    applyUpdate incident payload =
      .ok { incident with
        title := (payload.title.bind id).getD incident.title
        description := (payload.description.bind id).getD incident.description
        status := (payload.status.bind id).getD incident.status } := by
  obtain ⟨title, description, status⟩ := noNull
  rcases payload with ⟨_ | _ | _, _ | _ | _, _ | _ | _⟩
  all_goals first | rfl | contradiction

/-- A null is refused, by the service or by the database. -/
theorem applyUpdate_of_null (null : ¬ payload.NoNull) (incident : Incident) :
    applyUpdate incident payload = .error (.other "AttributeError") ∨
      applyUpdate incident payload = .error .database := by
  rcases payload with ⟨_ | _ | _, _ | _ | _, _ | _ | _⟩
  all_goals first | exact .inl rfl | exact .inr rfl | exact absurd ⟨nofun, nofun, nofun⟩ null

theorem changes_of_noNull (noNull : payload.NoNull) (incident : Incident) :
    payload.Changes incident
      { incident with
        title := (payload.title.bind id).getD incident.title
        description := (payload.description.bind id).getD incident.description
        status := (payload.status.bind id).getD incident.status } where
  title := supplied_getD noNull.title incident.title
  description := supplied_getD noNull.description incident.description
  status := supplied_getD noNull.status incident.status
  others := rfl

/-- An incident that is not read is not known to be missing either. -/
theorem not_updates_of_unread : ¬ Updates table incidentId payload false commit := by
  intro updates
  obtain ⟨unforeseen, -⟩ := updates.raises .database rfl
  cases unforeseen

theorem update_of_missing (missing : table.rows.get? incidentId = none) :
    update table.rows incidentId payload true commit =
      (.raise (notFound incidentId), table.rows) := by
  rw [update, IncidentRepository.get, if_pos rfl, missing]

theorem updates_of_missing (missing : table.rows.get? incidentId = none) :
    Updates table incidentId payload true commit := by
  have outcome : update table.rows incidentId payload true commit =
      (.raise (notFound incidentId), table.rows) := update_of_missing missing
  constructor
  · rw [outcome]
    exact iff_of_true rfl missing
  · intro raised raises
    rw [outcome] at raises ⊢
    exact ⟨(Except.error.inj raises).symm, rfl⟩
  · intro updated returns
    rw [outcome] at returns
    cases returns

/-- A held incident is never reported as missing, so anything it raises is unforeseen. -/
theorem not_updates_of_raised {current : Incident}
    (found : table.rows.get? incidentId = some current) {raised : Exc}
    (raises : (update table.rows incidentId payload reads commit).1.result = .error raised) :
    ¬ Updates table incidentId payload reads commit := by
  intro updates
  obtain ⟨rfl, -⟩ := updates.raises raised raises
  have missing := updates.missing.mp raises
  rw [found] at missing
  cases missing

theorem not_updates_of_null {current : Incident}
    (found : table.rows.get? incidentId = some current) (null : ¬ payload.NoNull) :
    ¬ Updates table incidentId payload true commit := by
  have raises : ∃ raised, applyUpdate current payload = .error raised := by
    rcases applyUpdate_of_null null current with unset | refused
    · exact ⟨_, unset⟩
    · exact ⟨_, refused⟩
  obtain ⟨raised, hraised⟩ := raises
  have outcome : (update table.rows incidentId payload true commit).1.result =
      .error raised := by
    rw [update, IncidentRepository.get, if_pos rfl, found]
    dsimp only
    rw [hraised]
    rfl
  exact not_updates_of_raised found outcome

/-- Where the database refuses the row or cannot read it back, the update raises. -/
theorem not_updates_of_unstored {current : Incident}
    (found : table.rows.get? incidentId = some current) (noNull : payload.NoNull)
    (unstored : commit ≠ .taken () true) : ¬ Updates table incidentId payload true commit := by
  have outcome : (update table.rows incidentId payload true commit).1.result =
      .error .database := by
    rw [update, IncidentRepository.get, if_pos rfl, found]
    dsimp only
    rw [applyUpdate_of_noNull noNull]
    cases commit with
    | refused => rfl
    | taken key refreshes =>
        cases refreshes with
        | false => rfl
        | true => exact absurd rfl unstored
  exact not_updates_of_raised found outcome

theorem updates_of_stored {current : Incident}
    (found : table.rows.get? incidentId = some current) (noNull : payload.NoNull) :
    Updates table incidentId payload true (.taken () true) := by
  have own : current.id = incidentId := table.keyed incidentId current found
  obtain ⟨changed, applied, changes⟩ : ∃ changed,
      applyUpdate current payload = .ok changed ∧ payload.Changes current changed :=
    ⟨_, applyUpdate_of_noNull noNull current, changes_of_noNull noNull current⟩
  have outcome : update table.rows incidentId payload true (.taken () true) =
      (.pure changed, table.rows.set incidentId changed) := by
    have same : changed.id = incidentId := by rw [changes.others, own]
    rw [update, IncidentRepository.get, if_pos rfl, found]
    dsimp only
    rw [applied]
    dsimp only
    rw [IncidentRepository.update, refreshed_true, same]
  constructor
  · rw [outcome, found]
    apply iff_of_false
    · intro raised
      cases raised
    · intro absent
      cases absent
  · intro raised raises
    rw [outcome] at raises
    cases raises
  · intro updated returns
    rw [outcome] at returns ⊢
    obtain rfl := Except.ok.inj returns
    refine ⟨current, found, changes, ?_⟩
    funext other
    rw [Dict.get?_set, Function.update_apply]

end Update

/-- An update keeps its promise exactly when the incident can be read and is missing, or
no field is supplied as null and the database takes the row and reads it back. -/
theorem updates_iff (table : IncidentTable) (incidentId : Int) (payload : IncidentUpdate)
    (reads : Bool) (commit : RowCommit Unit) :
    Updates table incidentId payload reads commit ↔
      reads = true ∧
        (table.rows.get? incidentId = none ∨ payload.NoNull ∧ commit = .taken () true) := by
  cases reads with
  | false =>
      apply iff_of_false not_updates_of_unread
      rintro ⟨⟨⟩, -⟩
  | true =>
  cases found : table.rows.get? incidentId with
  | none => exact iff_of_true (updates_of_missing found) ⟨rfl, .inl rfl⟩
  | some current =>
      by_cases noNull : payload.NoNull
      · by_cases stored : commit = .taken () true
        · rw [stored]
          exact iff_of_true (updates_of_stored found noNull) ⟨rfl, .inr ⟨noNull, rfl⟩⟩
        · apply iff_of_false (not_updates_of_unstored found noNull stored)
          rintro ⟨-, ⟨⟨⟩⟩ | ⟨-, taken⟩⟩
          exact stored taken
      · apply iff_of_false (not_updates_of_null found noNull)
        rintro ⟨-, ⟨⟨⟩⟩ | ⟨valued, -⟩⟩
        exact noNull valued

/-- The table with one incident. -/
def breachTable : IncidentTable where
  rows := Dict.empty.set 1 breach
  keyed := by
    intro id incident found
    rw [Dict.get?_set] at found
    split at found
    case isTrue same =>
        obtain rfl := Option.some.inj found
        exact same.symm
    case isFalse => cases found

/-- A status of null is no way to reset it. -/
theorem nullStatus_breaks : ¬ ∀ (table : IncidentTable) (incidentId : Int)
    (payload : IncidentUpdate), Updates table incidentId payload true (.taken () true) := by
  intro always
  have found : breachTable.rows.get? 1 = some breach := rfl
  exact not_updates_of_null found (fun valued => valued.status rfl)
    (always breachTable 1 { status := some none })

end IncidentService

end SentinelIR.Services
