/-
# Source 1 of 3: what the application is

Services and their ports, the endpoints the gateway exposes, the one dependency,
the seeded accounts with their roles, and the asset register. The seed files are
part of the repository, so their content stands here as data.
-/

import SentinelIR.Loader.Writes

namespace SentinelIR.Loader.LoadTopology

open SentinelIR.Py

/-- `_LOADER`. -/
def loader : Str := "topology"

/-! ## The data -/

/-- An entry of `_SERVICES`. -/
structure Service where
  name : Str
  port : Int
  description : Str

/-- `_SERVICES`. -/
def services : List Service :=
  [{ name := "auth-service", port := 8001
     description := "Users, login, JWT issue and verify." },
    { name := "incident-service", port := 8002
      description := "Incident CRUD and severity workflow. Calls asset-service." },
    { name := "asset-service", port := 8003, description := "The asset register." },
    { name := "api-gateway", port := 8000
      description := "Kong DB-less gateway: routing, JWT validation, rate limiting." }]

/-- An entry of `_ENDPOINTS`. -/
structure Endpoint where
  path : Str
  method : Str
  isProtected : Bool
  service : Str

/-- `_ENDPOINTS`. -/
def endpoints : List Endpoint :=
  [{ path := "/api/v1/auth/login", method := "POST", isProtected := false
     service := "auth-service" },
    { path := "/api/v1/auth/verify", method := "GET", isProtected := true
      service := "auth-service" },
    { path := "/api/v1/auth/users", method := "POST", isProtected := true
      service := "auth-service" },
    { path := "/api/v1/incidents", method := "GET", isProtected := true
      service := "incident-service" },
    { path := "/api/v1/assets", method := "GET", isProtected := true
      service := "asset-service" }]

/-- `_DEPENDENCIES`: caller and callee. -/
def dependencies : List (Str × Str) := [(lit "incident-service", lit "asset-service")]

/-- The fields of a seeded account the loader reads. -/
structure User where
  username : Str
  role : Str

/-- `_seed_users`: the bootstrap admin and the accounts of `users.json`. -/
def seedUsers : List User :=
  [{ username := "admin", role := "admin" },
    { username := "analyst1", role := "analyst" },
    { username := "analyst2", role := "analyst" }]

/-- The fields of a seeded asset the loader reads. -/
structure Asset where
  name : Str
  assetType : Str
  criticality : Str

/-- `_seed_assets`: the assets of `assets.json`. -/
def seedAssets : List Asset :=
  [{ name := "core-auth-db", assetType := "database", criticality := "CRITICAL" },
    { name := "payments-api", assetType := "service", criticality := "CRITICAL" },
    { name := "edge-gateway-01", assetType := "network-device", criticality := "HIGH" },
    { name := "analyst-workstation-14", assetType := "endpoint", criticality := "MEDIUM" },
    { name := "build-runner-03", assetType := "server", criticality := "MEDIUM" },
    { name := "wiki-internal", assetType := "service", criticality := "LOW" }]

/-! ## The writes -/

/-- `_merge_service`. -/
def mergeService (service : Service) : Write where
  statement :=
    [mergeBy 's' .service .name service.name,
      .setProps 's' [(.port, some (.number service.port)),
        (.description, some (.text service.description))]]
  loader := loader

/-- `_merge_endpoint`. -/
def mergeEndpoint (endpoint : Endpoint) : List Write :=
  [{ statement :=
       [mergeBy 'e' .endpoint .path endpoint.path,
         .setProps 'e' [(.method, some (.text endpoint.method)),
           (.isProtected, some (.flag endpoint.isProtected))]]
     loader := loader },
    { statement :=
        [matchBy 's' .service .name endpoint.service,
          matchBy 'e' .endpoint .path endpoint.path,
          .mergeEdge 's' .exposes 'e']
      loader := loader }]

/-- `_merge_dependency`. -/
def mergeDependency (dependency : Str × Str) : Write where
  statement :=
    [matchBy 'a' .service .name dependency.1, matchBy 'b' .service .name dependency.2,
      .mergeEdge 'a' .dependsOn 'b']
  loader := loader

/-- `_merge_user`. -/
def mergeUser (user : User) : List Write :=
  [{ statement :=
       [mergeBy 'u' .user .username user.username,
         .setProps 'u' [(.role, some (.text user.role))]]
     loader := loader },
    { statement := [mergeBy 'r' .role .name user.role], loader := loader },
    { statement :=
        [matchBy 'u' .user .username user.username, matchBy 'r' .role .name user.role,
          .mergeEdge 'u' .hasRole 'r']
      loader := loader }]

/-- `_merge_asset`. -/
def mergeAsset (asset : Asset) : Write where
  statement :=
    [mergeBy 'a' .asset .name asset.name,
      .setProps 'a' [(.assetType, some (.text asset.assetType)),
        (.criticality, some (.text asset.criticality))]]
  loader := loader

/-- `topology`. -/
def topology : List Write :=
  services.map mergeService ++ endpoints.flatMap mergeEndpoint ++
    dependencies.map mergeDependency ++ seedUsers.flatMap mergeUser ++ seedAssets.map mergeAsset

end SentinelIR.Loader.LoadTopology
