/-
# Reads of critical assets

Every read of a critical asset is to leave an event, and nothing else is. A read of a
single asset does so. A listing leaves none, whatever it shows, so a run of requests is
mediated exactly when none of its listings comes across a critical asset.
-/

import SentinelIR.Common.Transparency
import SentinelIR.Services.AssetUpdates

namespace SentinelIR.Services

open SentinelIR.Py SentinelIR.Common

/-! ## Requests -/

/-- The five endpoints, each with what the client and the database bring to it. -/
inductive AssetRequest
  | list (assetType : Option Str) (reads : Bool)
  | get (assetId : Int) (reads : Bool)
  | create (payload : AssetCreate) (createdAt : Datetime) (commit : RowCommit Int)
  | update (assetId : Int) (payload : AssetUpdate) (reads : Bool) (commit : RowCommit Unit)
  | delete (assetId : Int) (reads accepted : Bool)

/-- A request under the correlation id that is bound to it. -/
structure AssetCall where
  request : AssetRequest
  correlationId : Str

/-- What a successful response carries. -/
inductive AssetResponse
  | listing (assets : List Asset)
  | single (asset : Asset)
  | written (asset : Asset)
  | removed

/-- The records a read response contains. -/
def AssetResponse.records : AssetResponse → List Asset
  | .listing assets => assets
  | .single asset => [asset]
  | _ => []

namespace AssetRouter

variable [UnicodeDb]

/-- One request over the register, and the register it leaves. -/
def serve (rows : Assets) (call : AssetCall) : Traced AssetResponse × Assets :=
  match call.request with
  | .list assetType reads => (.listing <$> AssetService.list rows assetType reads, rows)
  | .get assetId reads => (.single <$> AssetService.get rows assetId reads call.correlationId, rows)
  | .create payload createdAt commit =>
      let (created, after) := AssetService.create rows payload createdAt commit
      (.written <$> created, after)
  | .update assetId payload reads commit =>
      let (updated, after) := AssetService.update rows assetId payload reads commit
      (.written <$> updated, after)
  | .delete assetId reads accepted =>
      let (deleted, after) := AssetService.delete rows assetId reads accepted
      ((fun _ => .removed) <$> deleted, after)

/-- The requests of a run, each with the register at that moment. -/
def moments (rows : Assets) : List AssetCall → List (Assets × AssetCall)
  | [] => []
  | call :: rest => (rows, call) :: moments (serve rows call).2 rest

/-- The event tells of a read of the asset in the request. -/
structure Tells (event : EventBody) (asset : Asset) (correlationId : Str) : Prop where
  type : event.eventType = .assetAccessed
  entity : event.affectedEntity = some ("asset-" ++ decimalInt asset.id)
  correlation : event.correlationId = correlationId

/-- A read response shows no critical asset without an event for it, and there is no event
but for a critical asset the response shows. -/
structure Mediated (rows : Assets) (call : AssetCall) : Prop where
  complete : ∀ response, (serve rows call).1.result = .ok response →
    ∀ asset ∈ rows.values, asset.criticality = .critical → asset ∈ response.records →
      ∃ event ∈ (serve rows call).1.emitted, Tells event asset call.correlationId
  sound : ∀ event ∈ (serve rows call).1.emitted, event.eventType = .assetAccessed →
    ∃ response, (serve rows call).1.result = .ok response ∧
      ∃ asset ∈ rows.values, asset.criticality = .critical ∧ asset ∈ response.records ∧
        Tells event asset call.correlationId

omit [UnicodeDb] in
/-- A listing that is read and comes across a critical asset. -/
def ListsCritical (rows : Assets) (request : AssetRequest) : Prop :=
  ∃ assetType, request = .list assetType true ∧
    ∃ asset ∈ rows.values, assetType.all (asset.assetType == ·) ∧ asset.criticality = .critical

/-! ## One request -/

section Step

variable {rows : Assets} {request : AssetRequest} {correlationId : Str}

/-- A request that neither shows a record nor emits anything. -/
theorem mediated_of_silent {call : AssetCall} (silent : (serve rows call).1.emitted = [])
    (shows : ∀ response, (serve rows call).1.result = .ok response → response.records = []) :
    Mediated rows call where
  complete := by
    intro response returned asset held critical shown
    rw [shows response returned] at shown
    cases shown
  sound := by
    intro event left
    rw [silent] at left
    cases left

/-- A request that raises does neither. -/
theorem mediated_of_raise {call : AssetCall} {raised : Exc}
    (served : (serve rows call).1 = .raise raised) : Mediated rows call := by
  apply mediated_of_silent
  · rw [served]
    rfl
  · rw [served]
    rintro response ⟨⟩

/-- The writes leave no event. -/
theorem emitted_create (payload : AssetCreate) (createdAt : Datetime) (commit : RowCommit Int) :
    (AssetService.create rows payload createdAt commit).1.emitted = [] := rfl

theorem emitted_update (assetId : Int) (payload : AssetUpdate) (reads : Bool)
    (commit : RowCommit Unit) :
    (AssetService.update rows assetId payload reads commit).1.emitted = [] := by
  rw [AssetService.update]
  repeat' split
  all_goals rfl

omit [UnicodeDb] in
theorem emitted_delete (assetId : Int) (reads accepted : Bool) :
    (AssetService.delete rows assetId reads accepted).1.emitted = [] := by
  rw [AssetService.delete]
  repeat' split
  all_goals rfl

omit [UnicodeDb] in
/-- A wrapped result is a response of the wrapper. -/
theorem records_of_map {α : Type} {wrap : α → AssetResponse} {result : Except Exc α}
    (bare : ∀ value, (wrap value).records = []) :
    ∀ response, result.map wrap = .ok response → response.records = [] := by
  intro response returned
  cases result with
  | error raised => cases returned
  | ok value =>
      obtain rfl := Except.ok.inj returned
      exact bare value

/-- Nor does a write, whose response is no read. -/
theorem mediated_of_write {call : AssetCall} {α : Type} {wrap : α → AssetResponse}
    {written : Traced α} (served : (serve rows call).1 = wrap <$> written)
    (silent : written.emitted = []) (bare : ∀ value, (wrap value).records = []) :
    Mediated rows call := by
  rw [Traced.map_eq] at served
  apply mediated_of_silent
  · rw [served]
    exact silent
  · rw [served]
    exact records_of_map bare

/-- A critical asset is returned with its event, or not at all where the correlation id is
refused. -/
theorem get_of_critical {assetId : Int} {asset : Asset} (found : rows.get? assetId = some asset)
    (critical : asset.criticality = .critical) (correlationId : Str) :
    (∃ event : EventBody,
        AssetService.get rows assetId true correlationId = ⟨.ok asset, [event]⟩ ∧
        Tells event asset correlationId) ∨
      AssetService.get rows assetId true correlationId = .raise .validation := by
  rw [AssetService.get, AssetRepository.get, if_pos rfl, found]
  dsimp only
  rw [if_pos critical]
  by_cases valid :
      (AssetService.criticalAccessFields asset.id asset.name correlationId).normalised.Valid
  · rw [Traced.emit_of_normalised valid]
    exact .inl ⟨_, rfl, rfl, rfl, rfl⟩
  · rw [Traced.emit_of_invalid valid]
    exact .inr rfl

theorem mediated_get (assetId : Int) (reads : Bool) :
    Mediated rows ⟨.get assetId reads, correlationId⟩ := by
  have served : (serve rows ⟨.get assetId reads, correlationId⟩).1 =
      ⟨(AssetService.get rows assetId reads correlationId).result.map .single,
        (AssetService.get rows assetId reads correlationId).emitted⟩ :=
    Traced.map_eq _ _
  cases reads with
  | false => exact mediated_of_raise served
  | true =>
  cases found : rows.get? assetId with
  | none =>
      have got : AssetService.get rows assetId true correlationId =
          .raise (.sentinel (AssetService.notFound assetId)) := by
        rw [AssetService.get, AssetRepository.get, if_pos rfl, found]
      rw [got] at served
      exact mediated_of_raise served
  | some asset =>
      have held : asset ∈ rows.values := Dict.mem_values_iff.mpr ⟨assetId, found⟩
      by_cases critical : asset.criticality = .critical
      · obtain ⟨event, got, tells⟩ | got := get_of_critical found critical correlationId
        · rw [got] at served
          constructor
          · rw [served]
            rintro response ⟨⟩ other - - shown
            obtain rfl := List.mem_singleton.mp shown
            exact ⟨event, List.mem_singleton_self event, tells⟩
          · rw [served]
            intro other left _
            obtain rfl := List.mem_singleton.mp left
            exact ⟨_, rfl, asset, held, critical, List.mem_singleton_self asset, tells⟩
        · rw [got] at served
          exact mediated_of_raise served
      · have got : AssetService.get rows assetId true correlationId = .pure asset := by
          rw [AssetService.get, AssetRepository.get, if_pos rfl, found]
          dsimp only
          rw [if_neg critical]
        rw [got] at served
        constructor
        · rw [served]
          rintro response ⟨⟩ other - other_critical shown
          obtain rfl := List.mem_singleton.mp shown
          exact absurd other_critical critical
        · rw [served]
          rintro event ⟨⟩

/-- A listing is mediated when it shows nothing that matters. -/
theorem mediated_list_iff (assetType : Option Str) (reads : Bool) :
    Mediated rows ⟨.list assetType reads, correlationId⟩ ↔
      ¬ ListsCritical rows (.list assetType reads) := by
  cases reads with
  | false =>
      have served : (serve rows ⟨.list assetType false, correlationId⟩).1 = .raise .database :=
        Traced.map_eq _ _
      exact iff_of_true (mediated_of_raise served) nofun
  | true =>
  let listed := sortedBy (·.id)
    (rows.values.filter fun asset => assetType.all (asset.assetType == ·))
  have served : (serve rows ⟨.list assetType true, correlationId⟩).1 =
      ⟨.ok (.listing listed), []⟩ := Traced.map_eq _ _
  constructor
  · rintro mediated ⟨_, ⟨⟩, asset, held, asked, critical⟩
    have shown : asset ∈ (AssetResponse.listing listed).records :=
      mem_sortedBy.mpr (List.mem_filter.mpr ⟨held, asked⟩)
    obtain ⟨event, left, -⟩ := mediated.complete _ (by rw [served]) asset held critical shown
    rw [served] at left
    cases left
  · intro unseen
    constructor
    · rw [served]
      rintro response ⟨⟩ asset held critical shown
      have asked := (List.mem_filter.mp (mem_sortedBy.mp shown)).2
      exact absurd ⟨assetType, rfl, asset, held, asked, critical⟩ unseen
    · rw [served]
      rintro event ⟨⟩

theorem mediated_iff (call : AssetCall) :
    Mediated rows call ↔ ¬ ListsCritical rows call.request := by
  obtain ⟨request, correlationId⟩ := call
  cases request with
  | list assetType reads => exact mediated_list_iff assetType reads
  | get assetId reads => exact iff_of_true (mediated_get assetId reads) nofun
  | create payload createdAt commit =>
      exact iff_of_true
        (mediated_of_write rfl (emitted_create payload createdAt commit) fun _ => rfl) nofun
  | update assetId payload reads commit =>
      exact iff_of_true
        (mediated_of_write rfl (emitted_update assetId payload reads commit) fun _ => rfl) nofun
  | delete assetId reads accepted =>
      exact iff_of_true
        (mediated_of_write rfl (emitted_delete assetId reads accepted) fun _ => rfl) nofun

end Step

/-! ## Runs -/

section Register

omit [UnicodeDb]

/-- The register with a row that takes no other row's name. -/
def withRow (table : AssetTable) (asset : Asset)
    (free : ¬ NameTaken table.rows asset.id asset.name) : AssetTable where
  rows := table.rows.set asset.id asset
  keyed := by
    intro id held found
    rw [Dict.get?_set] at found
    split at found
    case isTrue same => exact Option.some.inj found ▸ same.symm
    case isFalse => exact table.keyed id held found
  unique := by
    have either : ∀ held ∈ (table.rows.set asset.id asset).values,
        held = asset ∨ held ∈ table.rows.values ∧ held.id ≠ asset.id := by
      intro held member
      obtain ⟨id, found⟩ := Dict.mem_values_iff.mp member
      rw [Dict.get?_set] at found
      split at found
      case isTrue => exact .inl (Option.some.inj found).symm
      case isFalse apart =>
          refine .inr ⟨Dict.mem_values_iff.mpr ⟨id, found⟩, ?_⟩
          rwa [table.keyed id held found]
    intro first hfirst second hsecond named
    rcases either first hfirst with rfl | ⟨old, apart⟩
    · rcases either second hsecond with rfl | ⟨old, apart⟩
      · rfl
      · exact absurd ⟨second, old, apart, named.symm⟩ free
    · rcases either second hsecond with rfl | ⟨old', -⟩
      · exact absurd ⟨first, old, apart, named⟩ free
      · exact table.unique first old second old' named

/-- The register without a row. -/
def withoutRow (table : AssetTable) (assetId : Int) : AssetTable where
  rows := table.rows.erase assetId
  keyed := by
    intro id held found
    rw [Dict.get?_erase] at found
    split at found
    case isTrue => cases found
    case isFalse => exact table.keyed id held found
  unique := by
    have old : ∀ held ∈ (table.rows.erase assetId).values, held ∈ table.rows.values := by
      intro held member
      obtain ⟨id, found⟩ := Dict.mem_values_iff.mp member
      rw [Dict.get?_erase] at found
      split at found
      case isTrue => cases found
      case isFalse => exact Dict.mem_values_iff.mpr ⟨id, found⟩
    intro first hfirst second hsecond
    exact table.unique first (old first hfirst) second (old second hsecond)

end Register

theorem exists_table_create (table : AssetTable) (payload : AssetCreate) (createdAt : Datetime)
    (commit : RowCommit Int) :
    ∃ after : AssetTable,
      (AssetService.create table.rows payload createdAt commit).2 = after.rows := by
  rw [AssetService.create]
  cases commit with
  | refused => exact ⟨table, rfl⟩
  | taken id refreshes =>
      rw [AssetRepository.create]
      dsimp only
      split
      case isTrue => exact ⟨table, rfl⟩
      case isFalse free =>
          exact ⟨withRow table { AssetService.draft payload createdAt with id }
            (not_or.mp free).2, rfl⟩

theorem exists_table_update (table : AssetTable) (assetId : Int) (payload : AssetUpdate)
    (reads : Bool) (commit : RowCommit Unit) :
    ∃ after : AssetTable,
      (AssetService.update table.rows assetId payload reads commit).2 = after.rows := by
  rw [AssetService.update]
  split
  · exact ⟨table, rfl⟩
  · exact ⟨table, rfl⟩
  next asset _ =>
  split
  · exact ⟨table, rfl⟩
  next changes _ =>
  dsimp only
  rw [AssetRepository.update]
  split
  · exact ⟨table, rfl⟩
  next changed _ =>
  split
  · exact ⟨table, rfl⟩
  next free =>
  cases commit with
  | refused => exact ⟨table, rfl⟩
  | taken _ refreshes => exact ⟨withRow table changed free, rfl⟩

omit [UnicodeDb] in
theorem exists_table_delete (table : AssetTable) (assetId : Int) (reads accepted : Bool) :
    ∃ after : AssetTable,
      (AssetService.delete table.rows assetId reads accepted).2 = after.rows := by
  rw [AssetService.delete]
  split
  · exact ⟨table, rfl⟩
  · exact ⟨table, rfl⟩
  next asset _ =>
  cases accepted with
  | true => exact ⟨withoutRow table asset.id, rfl⟩
  | false => exact ⟨table, rfl⟩

/-- Every request leaves a register whose rows are keyed and whose names are unique. -/
theorem exists_table_serve (table : AssetTable) (call : AssetCall) :
    ∃ after : AssetTable, (serve table.rows call).2 = after.rows := by
  obtain ⟨request, correlationId⟩ := call
  cases request with
  | list assetType reads => exact ⟨table, rfl⟩
  | get assetId reads => exact ⟨table, rfl⟩
  | create payload createdAt commit => exact exists_table_create table payload createdAt commit
  | update assetId payload reads commit =>
      exact exists_table_update table assetId payload reads commit
  | delete assetId reads accepted => exact exists_table_delete table assetId reads accepted

/-- So does every run. -/
theorem exists_table_moments (table : AssetTable) (calls : List AssetCall) :
    ∀ moment ∈ moments table.rows calls, ∃ held : AssetTable, moment.1 = held.rows := by
  induction calls generalizing table with
  | nil => rintro moment ⟨⟩
  | cons call rest ih =>
      intro moment reached
      rcases List.mem_cons.mp reached with rfl | later
      · exact ⟨table, rfl⟩
      · obtain ⟨after, left⟩ := exists_table_serve table call
        rw [left] at later
        exact ih after moment later

/-- A run is mediated throughout exactly when no listing in it comes across a critical
asset. -/
theorem mediated_throughout_iff (rows : Assets) (calls : List AssetCall) :
    (∀ moment ∈ moments rows calls, Mediated moment.1 moment.2) ↔
      ∀ moment ∈ moments rows calls, ¬ ListsCritical moment.1 moment.2.request := by
  apply forall₂_congr
  intro moment _
  exact mediated_iff moment.2

omit [UnicodeDb] in
/-- The listing of a register with one critical asset. -/
theorem listing_unmediated : letI : UnicodeDb := ⟨fun _ => true⟩
    ¬ ∀ (rows : Assets) (calls : List AssetCall),
      ∀ moment ∈ moments rows calls, Mediated moment.1 moment.2 := by
  let _ : UnicodeDb := ⟨fun _ => true⟩
  intro always
  have unseen := (mediated_iff _).mp
    (always AssetService.pairRows [⟨.list none true, "c-1"⟩] _ (List.mem_singleton_self _))
  exact unseen ⟨none, rfl, AssetService.coreDb, by decide +kernel, rfl, rfl⟩

end AssetRouter

end SentinelIR.Services
