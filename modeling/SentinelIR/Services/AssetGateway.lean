/-
# The asset gateway

What incident-service makes of an asset lookup through the resilient client: the name
in asset-service's answer, or the declared fallback when the call degraded.
-/

import SentinelIR.Collector.Reader
import SentinelIR.Common.HttpClient
import SentinelIR.Services.IncidentService

namespace SentinelIR.Services.AssetGateway

open SentinelIR.Py SentinelIR.Common SentinelIR.Collector

/-- `_fallback`. -/
def fallback (assetId : Int) : AssetSummary where
  assetId := assetId
  name := "unknown"
  available := false

/-- The summary of an answer: `result["name"]` of the decoded body, validated. -/
def summary (assetId : Int) : Json → Except Exc AssetSummary
  | .obj members =>
      match (objectOf members).get? "name" with
      | none => .error .keyError
      | some given =>
          match textOf given with
          | some name => .ok { assetId := assetId, name := name }
          | none => .error .validation
  | _ => .error .typeError

/-- `fetch_asset`, on what the client's `get` returned or raised. -/
def fetchAsset (assetId : Int) : Except Exc (Fetched Json) → Except Exc AssetSummary
  | .ok .fallback => .ok (fallback assetId)
  | .ok (.body value) => summary assetId value
  | .error raised => .error raised

/-- An answer of asset-service that carries the name. -/
def Names (value : Json) (name : Str) : Prop :=
  ∃ members, value = .obj members ∧ (objectOf members).get? "name" = some (.str name)

/-- A summary of an answer is available and has the name the answer carries. -/
theorem summary_eq_ok_iff {assetId : Int} {value : Json} {asset : AssetSummary} :
    summary assetId value = .ok asset ↔
      asset = { assetId := assetId, name := asset.name } ∧ Names value asset.name := by
  constructor
  · intro summed
    cases value with
    | obj members =>
        rw [summary] at summed
        split at summed
        · cases summed
        · next given found =>
            split at summed
            · next name text =>
                obtain rfl := Except.ok.inj summed
                refine ⟨rfl, members, rfl, ?_⟩
                cases given with
                | str held =>
                    obtain rfl := Option.some.inj text
                    exact found
                | _ => cases text
            · cases summed
    | _ => cases summed
  · rintro ⟨named, members, rfl, found⟩
    rw [summary, found]
    exact congrArg Except.ok named.symm

/-- The summary itself still says that the lookup degraded. -/
theorem available_iff {assetId : Int} {result : Except Exc (Fetched Json)} {asset : AssetSummary}
    (fetched : fetchAsset assetId result = .ok asset) :
    asset.available = false ↔ result = .ok .fallback := by
  rcases result with raised | value | _
  · cases fetched
  · have named := (summary_eq_ok_iff.mp fetched).1
    rw [named]
    exact iff_of_false Bool.noConfusion nofun
  · obtain rfl := Except.ok.inj fetched
    exact iff_of_true rfl rfl

end SentinelIR.Services.AssetGateway
