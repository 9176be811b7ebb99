/-
# Degraded asset lookups

A creation whose asset lookup degraded stores the placeholder of the fallback as the
asset's name, and the mark that it is one is dropped with the summary. The row, the
event and the graph then treat the placeholder as the name of an asset, and a real
asset may have that name.
-/

import SentinelIR.Loader.AssetNames
import SentinelIR.Services.AssetGateway

namespace SentinelIR.Loader.DegradedLookups

open SentinelIR.Py SentinelIR.Common SentinelIR.Collector SentinelIR.Services LoadEvents

/-! ## Runs of creations -/

/-- One `POST /api/v1/incidents`: what the client answers to the asset lookup, what
the database answers to the row, and what the event is stamped with. -/
structure Creation where
  payload : IncidentCreate
  answer : Except Exc (Fetched Json)
  commit : RowCommit Int
  correlationId : CorrelationId
  stamp : Stamp

/-- A creation, the table it found and what it came to. -/
structure Record where
  creation : Creation
  before : Incidents
  outcome : Outcome Incident

section Runs

variable [UnicodeDb]

/-- `IncidentService.create` over the gateway. -/
def perform (rows : Incidents) (creation : Creation) : Outcome Incident :=
  IncidentService.create rows creation.payload
    (AssetGateway.fetchAsset creation.payload.assetId creation.answer) creation.commit
    creation.correlationId

/-- A run of creations, one after the other. -/
def run (rows : Incidents) : List Creation → List Record
  | [] => []
  | creation :: rest =>
      ⟨creation, rows, perform rows creation⟩ :: run (perform rows creation).2 rest

theorem outcome_of_mem_run {rows : Incidents} {creations : List Creation} {record : Record}
    (hrecord : record ∈ run rows creations) :
    record.outcome = perform record.before record.creation := by
  induction creations generalizing rows with
  | nil => cases hrecord
  | cons creation rest ih =>
      rcases List.mem_cons.mp hrecord with rfl | later
      · rfl
      · exact ih later

end Runs

/-- The events a run leaves on the stream. -/
def emitted (records : List Record) : List SecurityEvent :=
  records.flatMap fun record => record.outcome.1.emitted.map (·.stamp record.creation.stamp)

namespace Record

/-- The asset lookup of the creation degraded. -/
def Degraded (record : Record) : Prop := record.creation.answer = .ok .fallback

/-- The creation put the incident into the table. -/
def Persists (record : Record) (incident : Incident) : Prop :=
  incident.id ∉ record.before.keys ∧ record.outcome.2.get? incident.id = some incident

/-- The database refused the row: it took none, or one under a key that is in use. -/
def Refused (record : Record) : Prop :=
  ∀ id refreshes, record.creation.commit = .taken id refreshes → id ∈ record.before.keys

end Record

/-! ## What has to stay visible -/

/-- A name a lookup of an admissible asset can leave in a row. -/
def Nameable (snapshot : Str) : Prop :=
  ∃ (name : AssetName) (assetId : Int) (value : Json) (asset : AssetSummary),
    AssetGateway.Names value name.text ∧
      AssetGateway.fetchAsset assetId (.ok (.body value)) = .ok asset ∧ asset.name = snapshot

/-- The identifier of an incident in events and in the graph. -/
def entityOf (incident : Incident) : Str := "incident-" ++ decimalInt incident.id

/-- The write merges an `AFFECTS` edge from the incident. -/
def Affects (incidentId : Str) (write : Write) : Prop :=
  matchBy 'i' .incident .incidentId incidentId ∈ write.statement ∧
    Graph.Clause.mergeEdge 'i' .affects 'a' ∈ write.statement

/-- The degradation of a creation can be seen in the row it stores and in the graph
built from the events. -/
def Visible (events : List SecurityEvent) (record : Record) : Prop :=
  ∀ incident, record.Persists incident →
    ¬ Nameable incident.assetNameSnapshot ∧
      ∀ alerts writes, LoadEvents.events ⟨events⟩ alerts = .ok writes →
        ∀ write ∈ writes, ¬ Affects (entityOf incident) write

/-- The placeholder is an admissible name. -/
def unknownName : AssetName := ⟨"unknown", by decide⟩

theorem nameable_fallback (assetId : Int) : Nameable (AssetGateway.fallback assetId).name := by
  have names : AssetGateway.Names (.obj [(lit "name", .str unknownName.text)]) unknownName.text :=
    ⟨_, rfl, rfl⟩
  have summed : AssetGateway.summary assetId (.obj [(lit "name", .str unknownName.text)]) =
      .ok { assetId := assetId, name := unknownName.text } :=
    AssetGateway.summary_eq_ok_iff.mpr ⟨rfl, names⟩
  exact ⟨unknownName, assetId, _, _, names, summed, rfl⟩

/-! ## What a degraded creation leaves -/

section Degraded

variable [UnicodeDb]

/-- The row a degraded creation stores under the key the database assigned. -/
def degradedRow (payload : IncidentCreate) (id : Int) : Incident :=
  { IncidentService.draft payload (AssetGateway.fallback payload.assetId) with id }

/-- A degraded creation the database takes stores the placeholder, whether or not the row
is read back. -/
theorem perform_degraded {rows : Incidents} {creation : Creation} {id : Int} {refreshes : Bool}
    (degraded : creation.answer = .ok .fallback) (taken : creation.commit = .taken id refreshes)
    (fresh : id ∉ rows.keys) :
    (perform rows creation).2 = rows.set id (degradedRow creation.payload id) := by
  have created : IncidentRepository.create rows
      (IncidentService.draft creation.payload (AssetGateway.fallback creation.payload.assetId))
      (.taken id refreshes) =
      (refreshed (degradedRow creation.payload id) refreshes,
        rows.set id (degradedRow creation.payload id)) :=
    if_neg fresh
  rw [perform, degraded, taken, AssetGateway.fetchAsset, IncidentService.create, created]
  cases refreshes
  all_goals rfl

/-- Where it is read back, the placeholder is reported. -/
theorem emitted_degraded {rows : Incidents} {creation : Creation} {id : Int}
    (degraded : creation.answer = .ok .fallback) (taken : creation.commit = .taken id true)
    (fresh : id ∉ rows.keys) :
    (perform rows creation).1.emitted =
      [⟨_, IncidentService.createdFields_valid (degradedRow creation.payload id)
        creation.correlationId.2⟩] := by
  have created : IncidentRepository.create rows
      (IncidentService.draft creation.payload (AssetGateway.fallback creation.payload.assetId))
      (.taken id true) =
      (.ok (degradedRow creation.payload id), rows.set id (degradedRow creation.payload id)) :=
    if_neg fresh
  rw [perform, degraded, taken, AssetGateway.fetchAsset, IncidentService.create, created]
  dsimp only
  rw [Traced.emit_of_valid (IncidentService.createdFields_valid
    (degradedRow creation.payload id) creation.correlationId.2)]
  rfl

/-- A degraded creation the database refuses stores nothing. -/
theorem perform_refused {rows : Incidents} {creation : Creation}
    (degraded : creation.answer = .ok .fallback)
    (refused : ∀ id refreshes, creation.commit = .taken id refreshes → id ∈ rows.keys) :
    (perform rows creation).2 = rows := by
  rw [perform, degraded, AssetGateway.fetchAsset, IncidentService.create]
  cases committed : creation.commit with
  | refused => rfl
  | taken id refreshes =>
      simp only [IncidentRepository.create, if_pos (refused id refreshes committed)]

/-- The loader takes the placeholder for the name of an asset: the graph writes of a
degraded incident that is reported hold its `AFFECTS` edge. -/
theorem affectsWrites_degraded {rows : Incidents} {creation : Creation} {id : Int}
    (degraded : creation.answer = .ok .fallback) (taken : creation.commit = .taken id true)
    (fresh : id ∉ rows.keys) :
    ∃ event, (perform rows creation).1.emitted = [event] ∧
      ∃ write ∈ affectsWrites (entityOf (degradedRow creation.payload id)) event.message,
        Affects (entityOf (degradedRow creation.payload id)) write := by
  refine ⟨_, emitted_degraded degraded taken fresh, ?_⟩
  have plain : ∀ c ∈ (degradedRow creation.payload id).assetNameSnapshot, PrintsItself c := by
    have letters : ((lit "unknown").all fun c =>
        c ≠ quoteMark && c ≠ codePoint '\\' && c.val < 128 && 32 ≤ c.val && c.val < 127) =
          true := by decide
    intro c hc
    obtain ⟨⟨⟨⟨unquoted, unescaped⟩, ascii⟩, low⟩, high⟩ : (((c ≠ quoteMark ∧
        c ≠ codePoint '\\') ∧ c.val < 128) ∧ 32 ≤ c.val) ∧ c.val < 127 := by
      simpa only [Bool.and_eq_true, decide_eq_true_eq] using List.all_eq_true.mp letters c hc
    refine ⟨unquoted, unescaped, ?_⟩
    rw [printable, if_pos ascii, Bool.and_eq_true]
    exact ⟨decide_eq_true low, decide_eq_true high⟩
  have named := (assetNamedIn_created_iff (degradedRow creation.payload id)
    creation.correlationId (show lit "unknown" ≠ [] by decide)).mpr plain
  rw [affectsWrites, named]
  exact ⟨_, List.mem_singleton_self _, by simp, by simp⟩

end Degraded

/-! ## When the degradation stays visible -/

section Visibility

variable [UnicodeDb]

/-- In a run of creations every degradation stays visible exactly when the database
refused each degraded row. -/
theorem visible_iff (rows : Incidents) (creations : List Creation) :
    (∀ record ∈ run rows creations, record.Degraded →
        Visible (emitted (run rows creations)) record) ↔
      ∀ record ∈ run rows creations, record.Degraded → record.Refused := by
  refine forall_congr' fun record => forall_congr' fun hrecord => forall_congr' fun degraded => ?_
  have outcome := outcome_of_mem_run hrecord
  constructor
  · intro visible id refreshes taken
    by_contra fresh
    have persists : record.Persists (degradedRow record.creation.payload id) := by
      refine ⟨fresh, ?_⟩
      rw [outcome, perform_degraded degraded taken fresh, Dict.get?_set]
      exact if_pos rfl
    exact (visible _ persists).1 (nameable_fallback record.creation.payload.assetId)
  · intro refused incident persists
    rw [Record.Persists, outcome, perform_refused degraded refused] at persists
    have held : (record.before.get? incident.id).isSome = true := by rw [persists.2]; rfl
    exact absurd (Dict.get?_isSome_iff.mp held) persists.1

end Visibility

/-! ## One degraded creation -/

/-- A creation while asset-service is down. -/
def outageCreation : Creation where
  payload :=
    { title := "Repeated failures", description := "Five failed logins.", severity := .high,
      reportedBy := "analyst", assetId := 7, title_length := by decide,
      description_length := by decide, reportedBy_length := by decide, assetId_pos := by decide }
  answer := .ok .fallback
  commit := .taken 1 true
  correlationId := ⟨"corr-000000000001", lit_correlation_visible⟩
  stamp := { suffix := 1, clock := ⟨⟨2026, 1, 1, 0, 0, 0, 0, newYear_valid⟩, after_epoch⟩ }

/-- Its row could be that of an asset named `unknown`. -/
theorem outage_not_visible : letI : UnicodeDb := ⟨fun _ => true⟩
    ¬ ∀ record ∈ run Dict.empty [outageCreation], record.Degraded →
      Visible (emitted (run Dict.empty [outageCreation])) record := by
  let _ : UnicodeDb := ⟨fun _ => true⟩
  intro visible
  have degraded : outageCreation.answer = .ok .fallback := rfl
  have fresh : (1 : Int) ∉ (Dict.empty : Incidents).keys := List.not_mem_nil
  have stored := perform_degraded degraded
    (show outageCreation.commit = .taken 1 true from rfl) fresh
  refine (visible _ (List.mem_singleton_self _) degraded
    (degradedRow outageCreation.payload 1) ⟨fresh, ?_⟩).1 (nameable_fallback 7)
  dsimp only
  rw [stored, Dict.get?_set]
  exact if_pos rfl

end SentinelIR.Loader.DegradedLookups
