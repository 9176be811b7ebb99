/-
# The asset register at work

The business logic of asset-service over its repository: assets are registered, read,
listed, updated and removed. Names are unique and every column is required. A commit
that violates either is rolled back and reported as a conflict of names. Reading one
critical asset leaves an event.
-/

import SentinelIR.Py.Dict
import SentinelIR.Py.Sorted
import SentinelIR.Services.AssetService
import SentinelIR.Services.IncidentService

namespace SentinelIR.Services

open SentinelIR.Py SentinelIR.Common

/-! ## Assets -/

/-- The four criticality levels. -/
inductive Criticality
  | low
  | medium
  | high
  | critical
  deriving DecidableEq

/-- A row of the `assets` table. -/
structure Asset where
  id : Int
  name : Str
  assetType : Str
  criticality : Criticality
  owner : Str
  location : Str
  createdAt : Datetime
  deriving DecidableEq

/-- The body of `POST /api/v1/assets`. -/
structure AssetCreate where
  name : Str
  assetType : Str
  criticality : Criticality := .low
  owner : Str
  location : Str
  name_length : 1 ≤ name.length ∧ name.length ≤ 128
  assetType_length : 1 ≤ assetType.length ∧ assetType.length ≤ 64
  owner_length : 1 ≤ owner.length ∧ owner.length ≤ 128
  location_length : 1 ≤ location.length ∧ location.length ≤ 128

/-- The body of `PUT /api/v1/assets/{id}`: a field is unset, null or a value. -/
structure AssetUpdate where
  name : Option (Option Str) := none
  assetType : Option (Option Str) := none
  criticality : Option (Option Criticality) := none
  owner : Option (Option Str) := none
  location : Option (Option Str) := none
  name_length : ∀ text, name = some (some text) → 1 ≤ text.length ∧ text.length ≤ 128
  assetType_length : ∀ text, assetType = some (some text) → 1 ≤ text.length ∧ text.length ≤ 64
  owner_length : ∀ text, owner = some (some text) → 1 ≤ text.length ∧ text.length ≤ 128
  location_length : ∀ text, location = some (some text) → 1 ≤ text.length ∧ text.length ≤ 128

/-- The `assets` table. -/
abbrev Assets := Dict Int Asset

/-! ## The repository -/

/-- The changes of an update once the criticality has been converted. -/
structure AssetChanges where
  name : Option (Option Str)
  assetType : Option (Option Str)
  criticality : Option Criticality
  owner : Option (Option Str)
  location : Option (Option Str)

/-- A column after its change. -/
def column {α : Type} (change : Option (Option α)) (held : α) : Option α := change.getD (some held)

/-- The changed row, unless a required column is null. -/
def AssetChanges.row? (changes : AssetChanges) (asset : Asset) : Option Asset := do
  let name ← column changes.name asset.name
  let assetType ← column changes.assetType asset.assetType
  let owner ← column changes.owner asset.owner
  let location ← column changes.location asset.location
  let criticality := changes.criticality.getD asset.criticality
  return { asset with name, assetType, criticality, owner, location }

/-- Another row has the name. -/
def NameTaken (rows : Assets) (id : Int) (name : Str) : Prop :=
  ∃ other ∈ rows.values, other.id ≠ id ∧ other.name = name

instance (rows : Assets) (id : Int) (name : Str) : Decidable (NameTaken rows id name) :=
  inferInstanceAs (Decidable (∃ other ∈ rows.values, _))

namespace AssetRepository

/-- What both handlers of an `IntegrityError` raise. -/
def nameConflict [UnicodeDb] (name : Str) : SentinelError where
  kind := .conflict
  message := "An asset named " ++ Py.repr name ++ " already exists."
  details := [(lit "field", .text "name"), (lit "value", .text name)]

/-- `get`. The database may fail to answer, as it does for an id outside the column. -/
def get (rows : Assets) (assetId : Int) (reads : Bool) : Except Exc (Option Asset) :=
  if reads then .ok (rows.get? assetId) else .error .database

/-- `list`: by type when one is given, oldest first. -/
def list (rows : Assets) (assetType : Option Str) (reads : Bool) : Except Exc (List Asset) :=
  if reads then
    .ok (sortedBy (·.id) (rows.values.filter fun asset => assetType.all (asset.assetType == ·)))
  else .error .database

/-- `create`: the database assigns an id, or refuses the row. A draft that has been rolled
back keeps its name. A row stays stored when only the refresh after the commit fails. -/
def create [UnicodeDb] (rows : Assets) (draft : Asset) :
    RowCommit Int → Except Exc Asset × Assets
  | .refused => (.error .database, rows)
  | .taken id refreshes =>
      if id ∈ rows.keys ∨ NameTaken rows id draft.name then
        (.error (.sentinel (nameConflict draft.name)), rows)
      else (refreshed { draft with id } refreshes, rows.set id { draft with id })

/-- `update`, by a changed row. A row that has been rolled back has its stored name again,
so that is the name the error gives. -/
def update [UnicodeDb] (rows : Assets) (asset : Asset) (changes : AssetChanges)
    (commit : RowCommit Unit) : Except Exc Asset × Assets :=
  match changes.row? asset with
  | none => (.error (.sentinel (nameConflict asset.name)), rows)
  | some changed =>
      if NameTaken rows changed.id changed.name then
        (.error (.sentinel (nameConflict asset.name)), rows)
      else
        match commit with
        | .refused => (.error .database, rows)
        | .taken _ refreshes => (refreshed changed refreshes, rows.set changed.id changed)

/-- `delete`. -/
def delete (rows : Assets) (asset : Asset) (accepted : Bool) : Except Exc Assets :=
  if accepted then .ok (rows.erase asset.id) else .error .database

end AssetRepository

/-! ## The service -/

namespace AssetService

/-- The error of an unknown id. -/
def notFound (assetId : Int) : SentinelError where
  kind := .notFound
  message := "No asset with id " ++ decimalInt assetId ++ "."
  details := [(lit "field", .text "asset_id"), (lit "value", .number assetId)]

variable [UnicodeDb]

/-- `get`. -/
def get (rows : Assets) (assetId : Int) (reads : Bool) (correlationId : Str) : Traced Asset :=
  match AssetRepository.get rows assetId reads with
  | .error raised => .raise raised
  | .ok none => .raise (.sentinel (notFound assetId))
  | .ok (some asset) =>
      if asset.criticality = .critical then do
        Traced.emit (criticalAccessFields asset.id asset.name correlationId)
        return asset
      else .pure asset

omit [UnicodeDb] in
/-- `list`. -/
def list (rows : Assets) (assetType : Option Str) (reads : Bool) : Traced (List Asset) :=
  ⟨AssetRepository.list rows assetType reads, []⟩

omit [UnicodeDb] in
/-- The row `create` hands to the repository, before the database has keyed it. -/
def draft (payload : AssetCreate) (createdAt : Datetime) : Asset where
  id := 0
  name := payload.name
  assetType := payload.assetType
  criticality := payload.criticality
  owner := payload.owner
  location := payload.location
  createdAt := createdAt

/-- `create`, and the table it leaves. -/
def create (rows : Assets) (payload : AssetCreate) (createdAt : Datetime)
    (commit : RowCommit Int) : Traced Asset × Assets :=
  let (created, after) := AssetRepository.create rows (draft payload createdAt) commit
  (⟨created, []⟩, after)

omit [UnicodeDb] in
/-- The changes of a payload. A null criticality has no `value`. -/
def changesOf (payload : AssetUpdate) : Except Exc AssetChanges :=
  match payload.criticality with
  | some none => .error (.other "AttributeError")
  | none => .ok ⟨payload.name, payload.assetType, none, payload.owner, payload.location⟩
  | some (some level) =>
      .ok ⟨payload.name, payload.assetType, some level, payload.owner, payload.location⟩

/-- `update`, and the table it leaves. -/
def update (rows : Assets) (assetId : Int) (payload : AssetUpdate) (reads : Bool)
    (commit : RowCommit Unit) : Traced Asset × Assets :=
  match AssetRepository.get rows assetId reads with
  | .error raised => (.raise raised, rows)
  | .ok none => (.raise (.sentinel (notFound assetId)), rows)
  | .ok (some asset) =>
      match changesOf payload with
      | .error raised => (.raise raised, rows)
      | .ok changes =>
          let (updated, after) := AssetRepository.update rows asset changes commit
          (⟨updated, []⟩, after)

omit [UnicodeDb] in
/-- `delete`, and the table it leaves. -/
def delete (rows : Assets) (assetId : Int) (reads accepted : Bool) : Traced Unit × Assets :=
  match AssetRepository.get rows assetId reads with
  | .error raised => (.raise raised, rows)
  | .ok none => (.raise (.sentinel (notFound assetId)), rows)
  | .ok (some asset) =>
      match AssetRepository.delete rows asset accepted with
      | .error raised => (.raise raised, rows)
      | .ok after => (.pure (), after)

end AssetService

end SentinelIR.Services
