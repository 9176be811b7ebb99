/-
# Updating an asset

A name that belongs to another asset is a conflict. The error is written after the
rollback, when the row has its old name again, so it never gives the name that was asked
for. A null is no value of any column: it is reported as a conflict of names that is not
there, or, where the criticality is null, as no typed error at all. Where the row cannot
be read back after the commit, the update raises and the change stands.
-/

import SentinelIR.Services.AssetRegister
import SentinelIR.Services.IncidentUpdates

namespace SentinelIR.Services

open SentinelIR.Py SentinelIR.Common

/-! ## The table -/

/-- The `assets` table: every row stands under its own primary key, and no two have a name
in common. -/
structure AssetTable where
  rows : Assets
  keyed : ∀ id asset, rows.get? id = some asset → asset.id = id
  unique : ∀ asset ∈ rows.values, ∀ other ∈ rows.values, asset.name = other.name →
    asset.id = other.id

/-- The payload asks for a name that belongs to another asset. -/
def AssetUpdate.Clashes (payload : AssetUpdate) (rows : Assets) (assetId : Int) : Prop :=
  ∃ requested, payload.name = some (some requested) ∧ NameTaken rows assetId requested

/-- The supplied fields are changed, and no others. -/
structure AssetUpdate.Changes (payload : AssetUpdate) (before after : Asset) : Prop where
  name : Supplied payload.name before.name after.name
  assetType : Supplied payload.assetType before.assetType after.assetType
  criticality : Supplied payload.criticality before.criticality after.criticality
  owner : Supplied payload.owner before.owner after.owner
  location : Supplied payload.location before.location after.location
  others : after =
    { before with
      name := after.name, assetType := after.assetType, criticality := after.criticality
      owner := after.owner, location := after.location }

/-- No field is supplied as null. -/
structure AssetUpdate.NoNull (payload : AssetUpdate) : Prop where
  name : payload.name ≠ some none
  assetType : payload.assetType ≠ some none
  criticality : payload.criticality ≠ some none
  owner : payload.owner ≠ some none
  location : payload.location ≠ some none

namespace AssetService

variable [UnicodeDb]

/-- The update raises that there is no such asset, exactly when there is none; it raises a
conflict exactly when the requested name belongs to another asset, and names the requested
name; it raises nothing else and changes nothing where it raises. Otherwise it returns the
asset with the supplied fields changed, which is what the table then holds. -/
structure Updates (table : AssetTable) (assetId : Int) (payload : AssetUpdate)
    (reads : Bool) (commit : RowCommit Unit) : Prop where
  missing : (update table.rows assetId payload reads commit).1.result =
      .error (.sentinel (notFound assetId)) ↔
    table.rows.get? assetId = none
  conflict : (∃ error : SentinelError, error.kind = .conflict ∧
      (update table.rows assetId payload reads commit).1.result = .error (.sentinel error)) ↔
    table.rows.get? assetId ≠ none ∧ payload.Clashes table.rows assetId
  raises : ∀ raised, (update table.rows assetId payload reads commit).1.result = .error raised →
    (raised = .sentinel (notFound assetId) ∨
      ∃ requested, payload.name = some (some requested) ∧
        raised = .sentinel (AssetRepository.nameConflict requested)) ∧
    (update table.rows assetId payload reads commit).2 = table.rows
  returns : ∀ updated, (update table.rows assetId payload reads commit).1.result = .ok updated →
    ∃ current, table.rows.get? assetId = some current ∧ payload.Changes current updated ∧
      (update table.rows assetId payload reads commit).2.get? =
        Function.update table.rows.get? assetId (some updated)

section Update

variable {table : AssetTable} {assetId : Int} {payload : AssetUpdate} {reads : Bool}
  {commit : RowCommit Unit} {current : Asset}

/-! ### What a payload does to a row -/

omit [UnicodeDb] in
theorem column_of_value {α : Type} {change : Option (Option α)} (value : change ≠ some none)
    (held : α) : column change held = some ((change.bind id).getD held) := by
  match change, value with
  | none, _ => rfl
  | some (some changed), _ => rfl
  | some none, null => exact absurd rfl null

omit [UnicodeDb] in
theorem changesOf_of_value (value : payload.criticality ≠ some none) :
    changesOf payload = .ok ⟨payload.name, payload.assetType, payload.criticality.bind id,
      payload.owner, payload.location⟩ := by
  rw [changesOf]
  match payload.criticality, value with
  | none, _ => rfl
  | some (some level), _ => rfl
  | some none, null => exact absurd rfl null

/-- The row with the supplied values. -/
def supplied (payload : AssetUpdate) (asset : Asset) : Asset :=
  { asset with
    name := (payload.name.bind id).getD asset.name
    assetType := (payload.assetType.bind id).getD asset.assetType
    criticality := (payload.criticality.bind id).getD asset.criticality
    owner := (payload.owner.bind id).getD asset.owner
    location := (payload.location.bind id).getD asset.location }

omit [UnicodeDb] in
theorem row?_of_noNull (noNull : payload.NoNull) (asset : Asset) :
    AssetChanges.row? ⟨payload.name, payload.assetType, payload.criticality.bind id,
      payload.owner, payload.location⟩ asset = some (supplied payload asset) := by
  simp only [AssetChanges.row?, column_of_value noNull.name, column_of_value noNull.assetType,
    column_of_value noNull.owner, column_of_value noNull.location]
  rfl

omit [UnicodeDb] in
/-- A null anywhere but in the criticality leaves no row. -/
theorem row?_of_null (null : ¬ payload.NoNull) (value : payload.criticality ≠ some none)
    (asset : Asset) :
    AssetChanges.row? ⟨payload.name, payload.assetType, payload.criticality.bind id,
      payload.owner, payload.location⟩ asset = none := by
  by_contra row
  apply null
  constructor
  case criticality => exact value
  all_goals
    intro unset
    simp [AssetChanges.row?, unset, column] at row

omit [UnicodeDb] in
theorem changes_of_noNull (noNull : payload.NoNull) (asset : Asset) :
    payload.Changes asset (supplied payload asset) where
  name := IncidentService.supplied_getD noNull.name asset.name
  assetType := IncidentService.supplied_getD noNull.assetType asset.assetType
  criticality := IncidentService.supplied_getD noNull.criticality asset.criticality
  owner := IncidentService.supplied_getD noNull.owner asset.owner
  location := IncidentService.supplied_getD noNull.location asset.location
  others := rfl

omit [UnicodeDb] in
/-- The row takes a name of another asset exactly when the payload asks for one: its own
name is no other asset's. -/
theorem nameTaken_supplied_iff (found : table.rows.get? assetId = some current)
    (noNull : payload.NoNull) :
    NameTaken table.rows assetId (supplied payload current).name ↔
      payload.Clashes table.rows assetId := by
  match requested : payload.name with
  | none =>
      have kept : (supplied payload current).name = current.name := by
        simp only [supplied, requested, Option.bind_none, Option.getD_none]
      rw [kept]
      apply iff_of_false
      · rintro ⟨other, held, different, same⟩
        apply different
        rw [← table.keyed assetId current found]
        exact table.unique other held current (Dict.mem_values_iff.mpr ⟨assetId, found⟩) same
      · rintro ⟨name, asked, -⟩
        rw [requested] at asked
        cases asked
  | some none => exact absurd requested noNull.name
  | some (some name) =>
      have taken : (supplied payload current).name = name := by
        simp only [supplied, requested, Option.bind_some, id, Option.getD_some]
      rw [taken, AssetUpdate.Clashes, requested]
      simp only [Option.some.injEq, exists_eq_left']

/-! ### The outcomes -/

theorem update_of_missing (missing : table.rows.get? assetId = none) :
    update table.rows assetId payload true commit =
      (.raise (.sentinel (notFound assetId)), table.rows) := by
  rw [update, AssetRepository.get, if_pos rfl, missing]

theorem update_of_null_criticality (found : table.rows.get? assetId = some current)
    (null : payload.criticality = some none) :
    update table.rows assetId payload true commit =
      (.raise (.other "AttributeError"), table.rows) := by
  rw [update, AssetRepository.get, if_pos rfl, found]
  dsimp only
  rw [changesOf, null]

/-- A row the table's constraints refuse is reported under the name it had. -/
theorem update_of_refused (found : table.rows.get? assetId = some current)
    (value : payload.criticality ≠ some none)
    (refused : ¬ payload.NoNull ∨ payload.Clashes table.rows assetId) :
    update table.rows assetId payload true commit =
      (.raise (.sentinel (AssetRepository.nameConflict current.name)), table.rows) := by
  have own : current.id = assetId := table.keyed assetId current found
  rw [update, AssetRepository.get, if_pos rfl, found]
  dsimp only
  rw [changesOf_of_value value]
  dsimp only
  by_cases noNull : payload.NoNull
  · have taken : NameTaken table.rows (supplied payload current).id
        (supplied payload current).name := by
      rw [show (supplied payload current).id = assetId from own,
        nameTaken_supplied_iff found noNull]
      exact refused.resolve_left (not_not_intro noNull)
    rw [AssetRepository.update, row?_of_noNull noNull]
    dsimp only
    rw [if_pos taken]
    rfl
  · rw [AssetRepository.update, row?_of_null noNull value]
    rfl

theorem update_of_fitting (found : table.rows.get? assetId = some current)
    (noNull : payload.NoNull) (free : ¬ payload.Clashes table.rows assetId) :
    update table.rows assetId payload true commit =
      match commit with
      | .refused => (.raise .database, table.rows)
      | .taken _ refreshes => (⟨refreshed (supplied payload current) refreshes, []⟩,
          table.rows.set assetId (supplied payload current)) := by
  have own : (supplied payload current).id = assetId := table.keyed assetId current found
  have untaken : ¬ NameTaken table.rows assetId (supplied payload current).name := by
    rwa [nameTaken_supplied_iff found noNull]
  rw [update, AssetRepository.get, if_pos rfl, found]
  dsimp only
  rw [changesOf_of_value noNull.criticality]
  dsimp only
  rw [AssetRepository.update, row?_of_noNull noNull]
  dsimp only
  rw [own, if_neg untaken]
  cases commit
  all_goals rfl

/-! ### The promise -/

/-- An asset that is not read is not known to be missing either. -/
theorem not_updates_of_unread : ¬ Updates table assetId payload false commit := by
  intro updates
  obtain ⟨missing | ⟨requested, -, conflict⟩, -⟩ := updates.raises .database rfl
  · cases missing
  · cases conflict

theorem updates_of_missing (missing : table.rows.get? assetId = none) :
    Updates table assetId payload true commit := by
  have outcome : update table.rows assetId payload true commit =
      (.raise (.sentinel (notFound assetId)), table.rows) := update_of_missing missing
  constructor
  · rw [outcome]
    exact iff_of_true rfl missing
  · rw [outcome]
    apply iff_of_false
    · rintro ⟨error, conflict, raises⟩
      obtain rfl := Exc.sentinel.inj (Except.error.inj raises)
      cases conflict
    · rintro ⟨found, -⟩
      exact found missing
  · intro raised raises
    rw [outcome] at raises ⊢
    exact ⟨.inl (Except.error.inj raises).symm, rfl⟩
  · intro updated returns
    rw [outcome] at returns
    cases returns

/-- An exception that is no typed error is unforeseen. -/
theorem not_updates_of_untyped {raised : Exc} (untyped : ∀ error, raised ≠ .sentinel error)
    (raises : (update table.rows assetId payload true commit).1.result = .error raised) :
    ¬ Updates table assetId payload true commit := by
  intro updates
  obtain ⟨missing | ⟨requested, -, conflict⟩, -⟩ := updates.raises raised raises
  · exact untyped _ missing
  · exact untyped _ conflict

/-- The name an asset has had so far is never the one that conflicts. -/
theorem not_updates_of_stale (found : table.rows.get? assetId = some current)
    (raises : (update table.rows assetId payload true commit).1.result =
      .error (.sentinel (AssetRepository.nameConflict current.name))) :
    ¬ Updates table assetId payload true commit := by
  intro updates
  obtain ⟨-, requested, asked, other, held, different, same⟩ :=
    updates.conflict.mp ⟨_, rfl, raises⟩
  obtain ⟨missing | ⟨name, asked', conflict⟩, -⟩ := updates.raises _ raises
  · exact SentinelError.noConfusion (Exc.sentinel.inj missing) nofun
  · obtain rfl : requested = name := Option.some.inj (Option.some.inj (asked.symm.trans asked'))
    have stale : current.name = requested := by
      have details := congrArg SentinelError.details (Exc.sentinel.inj conflict)
      simpa [AssetRepository.nameConflict] using details
    apply different
    rw [← table.keyed assetId current found]
    exact table.unique other held current (Dict.mem_values_iff.mpr ⟨assetId, found⟩)
      (same.trans stale.symm)

theorem updates_of_stored (found : table.rows.get? assetId = some current)
    (noNull : payload.NoNull) (free : ¬ payload.Clashes table.rows assetId) :
    Updates table assetId payload true (.taken () true) := by
  have outcome : update table.rows assetId payload true (.taken () true) =
      (.pure (supplied payload current), table.rows.set assetId (supplied payload current)) :=
    update_of_fitting found noNull free
  constructor
  · rw [outcome, found]
    exact iff_of_false nofun nofun
  · rw [outcome]
    apply iff_of_false
    · rintro ⟨error, -, ⟨⟩⟩
    · rintro ⟨-, clashes⟩
      exact free clashes
  · intro raised raises
    rw [outcome] at raises
    cases raises
  · intro updated returns
    rw [outcome] at returns ⊢
    obtain rfl := Except.ok.inj returns
    refine ⟨current, found, changes_of_noNull noNull current, ?_⟩
    funext other
    rw [Dict.get?_set, Function.update_apply]

/-- A held asset is updated as promised when nothing stands against the row. -/
theorem updates_iff_of_found (found : table.rows.get? assetId = some current) :
    Updates table assetId payload true commit ↔
      payload.NoNull ∧ ¬ payload.Clashes table.rows assetId ∧ commit = .taken () true := by
  by_cases value : payload.criticality = some none
  case pos =>
    apply iff_of_false
    · have untyped : ∀ error, Exc.other "AttributeError" ≠ .sentinel error := nofun
      apply not_updates_of_untyped untyped
      rw [update_of_null_criticality found value]
      rfl
    · rintro ⟨noNull, -⟩
      exact noNull.criticality value
  by_cases refused : ¬ payload.NoNull ∨ payload.Clashes table.rows assetId
  case pos =>
    apply iff_of_false
    · apply not_updates_of_stale found
      rw [update_of_refused found value refused]
      rfl
    · rintro ⟨noNull, free, -⟩
      exact refused.elim (· noNull) free
  obtain ⟨noNull, free⟩ := not_or.mp refused
  rw [not_not] at noNull
  by_cases stored : commit = .taken () true
  · rw [stored]
    exact iff_of_true (updates_of_stored found noNull free) ⟨noNull, free, rfl⟩
  · apply iff_of_false
    · have untyped : ∀ error, Exc.database ≠ .sentinel error := nofun
      apply not_updates_of_untyped untyped
      rw [update_of_fitting found noNull free]
      cases commit with
      | refused => rfl
      | taken key refreshes =>
          cases refreshes with
          | false => rfl
          | true => exact absurd rfl stored
    · rintro ⟨-, -, taken⟩
      exact stored taken

end Update

/-- An update keeps its promise exactly when the asset can be read and is missing, or no
field is supplied as null, the requested name is free and the database takes the row and
reads it back. -/
theorem updates_asset_iff (table : AssetTable) (assetId : Int) (payload : AssetUpdate)
    (reads : Bool) (commit : RowCommit Unit) :
    Updates table assetId payload reads commit ↔
      reads = true ∧ (table.rows.get? assetId = none ∨
        payload.NoNull ∧ ¬ payload.Clashes table.rows assetId ∧ commit = .taken () true) := by
  cases reads with
  | false =>
      apply iff_of_false not_updates_of_unread
      rintro ⟨⟨⟩, -⟩
  | true =>
  cases found : table.rows.get? assetId with
  | none => exact iff_of_true (updates_of_missing found) ⟨rfl, .inl rfl⟩
  | some current =>
      rw [updates_iff_of_found found]
      simp only [reduceCtorEq, false_or, true_and]

/-- A database server. -/
def coreDb : Asset where
  id := 1
  name := "core-db"
  assetType := "database"
  criticality := .critical
  owner := "platform"
  location := "london"
  createdAt := ⟨2026, 1, 1, 9, 0, 0, 0, by decide⟩

/-- A second server beside it. -/
def payrollDb : Asset := { coreDb with id := 2, name := "payroll-db" }

/-- The rows of the two. -/
def pairRows : Assets := (Dict.empty.set 1 coreDb).set 2 payrollDb

omit [UnicodeDb] in
theorem pairRows_unique : ∀ asset ∈ pairRows.values, ∀ other ∈ pairRows.values,
    asset.name = other.name → asset.id = other.id := by
  decide +kernel

/-- The register of the two. -/
def pairTable : AssetTable where
  rows := pairRows
  keyed := by
    intro id asset found
    rw [pairRows, Dict.get?_set, Dict.get?_set] at found
    split at found
    case isTrue same => exact Option.some.inj found ▸ same.symm
    case isFalse =>
        split at found
        case isTrue same => exact Option.some.inj found ▸ same.symm
        case isFalse => cases found
  unique := pairRows_unique

/-- A rename of the first to the name of the second. -/
def payrollName : AssetUpdate where
  name := some (some "payroll-db")
  name_length := by
    intro text asked
    obtain rfl := Option.some.inj (Option.some.inj asked)
    decide
  assetType_length := by rintro text ⟨⟩
  owner_length := by rintro text ⟨⟩
  location_length := by rintro text ⟨⟩

omit [UnicodeDb] in
/-- The conflict over the second name is reported as one over the first. -/
theorem rename_misreported : letI : UnicodeDb := ⟨fun _ => true⟩
    ¬ ∀ (table : AssetTable) (assetId : Int) (payload : AssetUpdate),
      Updates table assetId payload true (.taken () true) := by
  let _ : UnicodeDb := ⟨fun _ => true⟩
  intro always
  have clashes : payrollName.Clashes pairTable.rows 1 :=
    ⟨"payroll-db", rfl, by decide +kernel⟩
  have found : pairTable.rows.get? 1 = some coreDb := rfl
  exact ((updates_iff_of_found found).mp (always pairTable 1 payrollName)).2.1 clashes

end AssetService

end SentinelIR.Services
