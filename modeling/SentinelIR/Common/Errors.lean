/-
# Exceptions

The typed error hierarchy the services share, and every other exception the
modelled code raises or lets through. Handlers tell them apart by class, so a
class is a constructor.
-/

import SentinelIR.Py.Str

namespace SentinelIR.Common

open SentinelIR.Py

/-- The subclasses of `SentinelError`. -/
inductive ErrorKind
  | configuration
  | notFound
  | validation
  | authentication
  | authorisation
  | conflict
  | dependencyUnavailable
  deriving DecidableEq

namespace ErrorKind

/-- `status_code`. -/
def statusCode : ErrorKind → Nat
  | configuration => 500
  | notFound => 404
  | validation => 422
  | authentication => 401
  | authorisation => 403
  | conflict => 409
  | dependencyUnavailable => 503

/-- `error_code`. -/
def errorCode : ErrorKind → Str
  | configuration => "CONFIGURATION_ERROR"
  | notFound => "NOT_FOUND"
  | validation => "VALIDATION_ERROR"
  | authentication => "AUTHENTICATION_ERROR"
  | authorisation => "AUTHORISATION_ERROR"
  | conflict => "CONFLICT"
  | dependencyUnavailable => "DEPENDENCY_UNAVAILABLE"

end ErrorKind

/-- A value of an error's `details`. -/
inductive Detail
  | text (value : Str)
  | number (value : Int)
  deriving DecidableEq

/-- A deliberate failure: its class, its message and its details. -/
structure SentinelError where
  kind : ErrorKind
  message : Str
  details : List (Str × Detail)
  deriving DecidableEq

/-- Every exception the model distinguishes. -/
inductive Exc
  /-- A deliberate, typed failure. -/
  | sentinel (error : SentinelError)
  /-- `pydantic.ValidationError`. -/
  | validation
  /-- `MalformedEventError`, with the line that claimed to be an event. -/
  | malformedEvent (rawLine : Str)
  | valueError
  | overflowError
  | keyError
  | typeError
  | unicodeEncodeError
  | jsonDecodeError
  | recursionError
  /-- `_TransientDependencyError`. -/
  | transient (message : Str)
  /-- `pybreaker.CircuitBreakerError`. -/
  | circuitBreaker (message : Str)
  /-- `httpx.HTTPStatusError`, with the status answered. -/
  | httpStatus (status : Nat)
  /-- `sqlalchemy.exc.DBAPIError`: the database refused the statement. -/
  | database
  /-- Any class the code names nowhere. -/
  | other (name : Str)
  deriving DecidableEq

end SentinelIR.Common
