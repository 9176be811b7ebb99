/-
# Authentication

The login of auth-service. Whichever way an attempt goes it leaves exactly one
event, and a failed one names the attempted account and the address the request
was recorded under.
-/

import SentinelIR.Common.Middleware

namespace SentinelIR.Services

open SentinelIR.Py SentinelIR.Common

/-- `LOGIN_ENDPOINT`. -/
def loginEndpoint : Str := "/api/v1/auth/login"

/-- `_LOGIN_ENTITY`. -/
def loginEntity : Str := "login-endpoint"

/-- `_FAILURE_MESSAGE`. -/
def failureMessage : Str := "The username or password is incorrect."

/-- The two roles. -/
inductive Role
  | admin
  | analyst
  deriving DecidableEq

/-- The parts of a `users` row the login reads. -/
structure User where
  username : Str
  passwordHash : Str
  role : Role
  isActive : Bool

/-- Why an attempt failed; recorded on the event, never told to the client. -/
inductive FailureReason
  | unknownUser
  | accountDisabled
  | badPassword
  deriving DecidableEq

/-- The reason as the event's message writes it. -/
def FailureReason.value : FailureReason → Str
  | unknownUser => "unknown_user"
  | accountDisabled => "account_disabled"
  | badPassword => "bad_password"

namespace AuthService

/-- The arguments of `_emit_failure`'s event. -/
def failureFields [UnicodeDb] (username : Str) (sourceIp : Option Str) (correlationId : Str)
    (reason : FailureReason) : EventFields where
  serviceName := .auth
  eventType := .authFailed
  severity := .medium
  userId := some username
  sourceIp := sourceIp
  endpoint := loginEndpoint
  httpMethod := "POST"
  statusCode := 401
  message := "Failed login attempt for " ++ Py.repr username ++ " (" ++ reason.value ++ ")."
  correlationId := correlationId
  affectedEntity := some loginEntity

/-- The `AUTH_SUCCESS` event. -/
def successFields (username : Str) (sourceIp : Option Str) (correlationId : Str) :
    EventFields where
  serviceName := .auth
  eventType := .authSuccess
  severity := .low
  userId := some username
  sourceIp := sourceIp
  endpoint := loginEndpoint
  httpMethod := "POST"
  statusCode := 200
  message := "User " ++ username ++ " authenticated successfully."
  correlationId := correlationId
  affectedEntity := some loginEntity

/-- The checks of an attempt, in the source's order. -/
def checked (verifyPassword : Str → Str → Bool) (password : Str) :
    Option User → Except FailureReason User
  | none => .error .unknownUser
  | some user =>
      if !user.isActive then .error .accountDisabled
      else if !verifyPassword password user.passwordHash then .error .badPassword
      else .ok user

/-- `authenticate`, over the account the repository finds: the user it signs a
token for, or the error every refusal shares. -/
def authenticate [UnicodeDb] (verifyPassword : Str → Str → Bool) (found : Option User)
    (username password : Str) (sourceIp : Option Str) (correlationId : Str) : Traced User :=
  match checked verifyPassword password found with
  | .error reason => do
      Traced.emit (failureFields username sourceIp correlationId reason)
      Traced.raise (.sentinel
        { kind := .authentication
          message := failureMessage
          details := [("reason", .text "invalid_credentials")] })
  | .ok user => do
      Traced.emit (successFields user.username sourceIp correlationId)
      return user

variable [UnicodeDb] {username : Str} {sourceIp : Option Str} {correlationId : Str}

theorem failureFields_valid (correlation : ¬ Blank correlationId) (reason : FailureReason) :
    (failureFields username sourceIp correlationId reason).Valid where
  method := show lit "POST" ∈ permittedMethods by decide
  status := show (100 : Int) ≤ 401 ∧ (401 : Int) ≤ 599 by decide
  endpoint := not_blank_lit (by decide +kernel)
  message := not_blank_append_right (not_blank_lit (by decide +kernel))
  correlation := correlation

/-- The failed attempt, as it stands on the stream. -/
def failureEvent (username : Str) (sourceIp : Option Str) (correlation : ¬ Blank correlationId)
    (reason : FailureReason) : EventBody :=
  ⟨failureFields username sourceIp correlationId reason, failureFields_valid correlation reason⟩

/-- A refused attempt leaves its failure on the stream and raises the one error
every refusal shares. -/
theorem authenticate_refused {verifyPassword : Str → Str → Bool} {found : Option User}
    {password : Str} {reason : FailureReason} (correlation : ¬ Blank correlationId)
    (refused : checked verifyPassword password found = .error reason) :
    authenticate verifyPassword found username password sourceIp correlationId =
      ⟨.error (.sentinel ⟨.authentication, failureMessage,
          [("reason", .text "invalid_credentials")]⟩),
        [failureEvent username sourceIp correlation reason]⟩ := by
  have valid : (failureFields username sourceIp correlationId reason).Valid :=
    failureFields_valid correlation reason
  rw [authenticate, refused]
  simp only [Traced.emit_of_valid valid]
  rfl

end AuthService

end SentinelIR.Services
