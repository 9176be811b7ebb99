/-
# The asset register

The parts of asset-service that end up in the security graph: the name an asset
is registered under, and the event a read of a critical asset leaves.
-/

import SentinelIR.Common.Traced

namespace SentinelIR.Services

open SentinelIR.Py SentinelIR.Common

/-- `ASSETS_ENDPOINT`. -/
def assetsEndpoint : Str := "/api/v1/assets"

/-- A name `AssetCreate` admits: 1 to 128 characters. -/
structure AssetName where
  text : Str
  admitted : 1 ≤ text.length ∧ text.length ≤ 128

namespace AssetService

/-- The event of `_emit_critical_access`. -/
def criticalAccessFields [UnicodeDb] (assetId : Int) (name : Str) (correlationId : Str) :
    EventFields where
  serviceName := .asset
  eventType := .assetAccessed
  severity := .medium
  endpoint := assetsEndpoint ++ "/" ++ decimalInt assetId
  httpMethod := "GET"
  statusCode := 200
  message := "Critical asset " ++ Py.repr name ++ " was read."
  correlationId := correlationId
  affectedEntity := some ("asset-" ++ decimalInt assetId)

end AssetService

end SentinelIR.Services
