/-
# Writes

The knowledge graph's vocabulary and the write every loader speaks: one Cypher
statement with its parameters filled in, and the name of the loader it came
from. Applying a list of writes runs their statements in order.
-/

import SentinelIR.Graph.Cypher

namespace SentinelIR.Loader

open SentinelIR.Py SentinelIR.Graph

/-- `NODE_LABELS`. -/
inductive Label
  | user
  | service
  | endpoint
  | asset
  | event
  | alert
  | incident
  | threat
  | control
  | vulnerability
  | role
  | document
  deriving DecidableEq

/-- `RELATIONSHIP_TYPES`. -/
inductive Relation
  | triggered
  | generatedBy
  | targeted
  | createdAlert
  | indicates
  | targets
  | exploits
  | subtechniqueOf
  | mitigates
  | contains
  | affects
  | accessed
  | concerns
  | dependsOn
  | exposes
  | hasRole
  | describes
  | supportsResponseTo
  deriving DecidableEq

/-- The property names the statements use; `isProtected` is `protected`. -/
inductive Property
  | username
  | name
  | path
  | eventId
  | alertId
  | incidentId
  | techniqueId
  | controlId
  | vulnId
  | docId
  | port
  | description
  | method
  | isProtected
  | role
  | assetType
  | criticality
  | timestamp
  | serviceName
  | eventType
  | severity
  | endpoint
  | httpMethod
  | statusCode
  | message
  | correlationId
  | userId
  | sourceIp
  | ruleName
  | status
  | affectedService
  | affectedUser
  | affectedEntity
  | recommendedAction
  | title
  | createdAt
  | reportedBy
  | tactic
  | kind
  deriving DecidableEq

/-- A property value. -/
inductive Value
  | text (value : Str)
  | number (value : Int)
  | flag (value : Bool)
  deriving DecidableEq

instance : Coe Str Value := ⟨Value.text⟩

/-- A clause of a loader's statement; variables are their first letters. -/
abbrev LoaderClause := Clause Label Relation Property Value Char

/-- The knowledge graph. -/
abbrev KnowledgeGraph := PropertyGraph Label Relation Property Value

/-- `Write`. -/
structure Write where
  statement : List LoaderClause
  loader : Str

/-- `apply`, on the graph instead of a session. -/
def apply (g : KnowledgeGraph) (writes : List Write) : KnowledgeGraph :=
  Graph.run g (writes.map (·.statement))

/-- `MERGE (x:Label {key: value})` on a text. -/
def mergeBy (x : Char) (label : Label) (key : Property) (value : Str) : LoaderClause :=
  .mergeNode x label key (.text value)

/-- `MATCH (x:Label {key: value})` on a text. -/
def matchBy (x : Char) (label : Label) (key : Property) (value : Str) : LoaderClause :=
  .matchNode x label key (.text value)

end SentinelIR.Loader
