/-
# Logging in

An attempt is decided by the account the table holds under the name and by the
password service, whose check never raises. Whatever decides it, the attempt
leaves one event, and every refusal looks the same to the client.
-/

import SentinelIR.Services.AuthService

namespace SentinelIR.Services

open SentinelIR.Py SentinelIR.Common

/-! ## Passwords -/

/-- `bcrypt.checkpw` on encoded texts; nothing where it raises `ValueError`. -/
abbrev Checkpw := Str → Str → Option Bool

/-- `verify_password`. A text that does not encode raises `UnicodeEncodeError`, which
is a `ValueError` too. -/
def verifyPassword (checkpw : Checkpw) (plain hashed : Str) : Bool :=
  if plain = [] ∨ hashed = [] then false
  else if Encodable plain ∧ Encodable hashed then (checkpw plain hashed).getD false
  else false

/-! ## The users table -/

/-- The `users` table: no two rows share their name. -/
structure Users where
  rows : List User
  unique : (rows.map (·.username)).Nodup

/-- `get_by_username`. -/
def Users.getByUsername (users : Users) (username : Str) : Option User :=
  users.rows.find? fun user => user.username = username

theorem Users.getByUsername_eq_some_iff {users : Users} {username : Str} {user : User} :
    users.getByUsername username = some user ↔ user ∈ users.rows ∧ user.username = username := by
  constructor
  · intro found
    unfold Users.getByUsername at found
    have named := List.find?_some found
    exact ⟨List.mem_of_find?_eq_some found, of_decide_eq_true named⟩
  · rintro ⟨held, rfl⟩
    cases hfound : users.getByUsername user.username with
    | none =>
        have absent := List.find?_eq_none.mp hfound user held
        simp at absent
    | some other =>
        unfold Users.getByUsername at hfound
        have named := List.find?_some hfound
        have same : other.username = user.username := of_decide_eq_true named
        rw [List.inj_on_of_nodup_map users.unique (List.mem_of_find?_eq_some hfound) held same]

/-! ## The attempt -/

/-- What a successful attempt returns: the token, the role and the lifetime. -/
structure Granted where
  token : Str
  role : Role
  expiresIn : Nat
  deriving DecidableEq

/-- What signs the tokens: the library's encoder under the settings, and their
lifetime in minutes. -/
structure Signer where
  issueToken : Str → Role → Str
  expiryMinutes : Nat

/-- `authenticate` of an attempt, over the table. -/
def logIn [UnicodeDb] (checkpw : Checkpw) (signer : Signer) (users : Users)
    (username password : Str) (sourceIp : Option Str) (correlationId : Str) : Traced Granted := do
  let user ← AuthService.authenticate (verifyPassword checkpw) (users.getByUsername username)
    username password sourceIp correlationId
  return { token := signer.issueToken user.username user.role
           role := user.role
           expiresIn := signer.expiryMinutes * 60 }

/-- The attempt names an active account and its password. -/
def Authentic (checkpw : Checkpw) (users : Users) (username password : Str) : Prop :=
  ∃ user ∈ users.rows, user.username = username ∧ user.isActive = true ∧
    verifyPassword checkpw password user.passwordHash = true

/-- The authentication events among some events. -/
def authentications (events : List EventBody) : List EventBody :=
  events.filter fun event => event.eventType = .authSuccess ∨ event.eventType = .authFailed

/-- The error every refusal raises. -/
def refusal : SentinelError :=
  ⟨.authentication, failureMessage, [("reason", .text "invalid_credentials")]⟩

section LogIn

variable {checkpw : Checkpw} {users : Users} {username password : Str} {sourceIp : Option Str}

theorem checked_eq_ok_iff {user : User} :
    AuthService.checked (verifyPassword checkpw) password (users.getByUsername username) =
      .ok user ↔
      (user ∈ users.rows ∧ user.username = username) ∧ user.isActive = true ∧
        verifyPassword checkpw password user.passwordHash = true := by
  rw [← Users.getByUsername_eq_some_iff]
  cases users.getByUsername username with
  | none => simp [AuthService.checked]
  | some found =>
      rw [AuthService.checked, Option.some.injEq]
      by_cases active : found.isActive = true
      · by_cases verified : verifyPassword checkpw password found.passwordHash = true
        · simp only [active, verified, Bool.not_true, Bool.false_eq_true, if_false, Except.ok.injEq]
          constructor
          · rintro rfl
            exact ⟨rfl, active, verified⟩
          · exact fun same => same.1
        · simp only [active, verified, Bool.not_true, Bool.false_eq_true, if_false,
            Bool.not_false, if_true]
          refine iff_of_false (by rintro ⟨⟩) ?_
          rintro ⟨rfl, -, other⟩
          exact verified other
      · simp only [active, Bool.not_false, if_true]
        refine iff_of_false (by rintro ⟨⟩) ?_
        rintro ⟨rfl, other, -⟩
        exact active other

theorem successFields_valid {correlationId : Str} (correlation : ¬ Blank correlationId) :
    (AuthService.successFields username sourceIp correlationId).Valid where
  method := show lit "POST" ∈ permittedMethods by decide
  status := show (100 : Int) ≤ 200 ∧ (200 : Int) ≤ 599 by decide
  endpoint := not_blank_lit (by decide +kernel)
  message := not_blank_append_right (not_blank_lit (by decide +kernel))
  correlation := correlation

/-- An attempt is granted with one `AUTH_SUCCESS`, or refused with one
`AUTH_FAILED` that names it. -/
theorem logIn_cases [UnicodeDb] (checkpw : Checkpw) (signer : Signer) (users : Users)
    (username password : Str) (sourceIp : Option Str) {correlationId : Str}
    (correlation : ¬ Blank correlationId) :
    (∃ user event, (user ∈ users.rows ∧ user.username = username) ∧ user.isActive = true ∧
        verifyPassword checkpw password user.passwordHash = true ∧
        event.eventType = .authSuccess ∧
        logIn checkpw signer users username password sourceIp correlationId =
          ⟨.ok ⟨signer.issueToken user.username user.role, user.role, signer.expiryMinutes * 60⟩,
            [event]⟩) ∨
      (¬ Authentic checkpw users username password ∧ ∃ event : EventBody,
        event.eventType = .authFailed ∧ event.userId = some username ∧ event.sourceIp = sourceIp ∧
        logIn checkpw signer users username password sourceIp correlationId =
          ⟨.error (.sentinel refusal), [event]⟩) := by
  cases hchecked : AuthService.checked (verifyPassword checkpw) password
      (users.getByUsername username) with
  | ok user =>
      left
      obtain ⟨held, active, verified⟩ := checked_eq_ok_iff.mp hchecked
      have valid : (AuthService.successFields user.username sourceIp correlationId).Valid :=
        successFields_valid correlation
      refine ⟨user, ⟨_, valid⟩, held, active, verified, rfl, ?_⟩
      rw [logIn, AuthService.authenticate, hchecked]
      dsimp only
      rw [Traced.emit_of_valid valid]
      rfl
  | error reason =>
      right
      refine ⟨?_, AuthService.failureEvent username sourceIp correlation reason, rfl, rfl, rfl, ?_⟩
      · rintro ⟨user, hmem, hname, active, verified⟩
        have granted := checked_eq_ok_iff.mpr ⟨⟨hmem, hname⟩, active, verified⟩
        rw [hchecked] at granted
        cases granted
      · rw [logIn, AuthService.authenticate_refused correlation hchecked]
        rfl

/-- Whatever the table, the credentials, the address and the id of the request: an
attempt leaves exactly one authentication event; it returns a token exactly when
it names an active account with its password, and raises otherwise; any two
refusals raise one error; and a failure on the stream names the attempt. -/
theorem logIn_spec [UnicodeDb] (checkpw : Checkpw) (signer : Signer) (users others : Users)
    (username password name word : Str) (sourceIp address : Option Str)
    (correlationId otherId : {correlationId : Str // ¬ Blank correlationId}) :
    let attempt := logIn checkpw signer users username password sourceIp correlationId
    let other := logIn checkpw signer others name word address otherId
    (∃ event, attempt.emitted = [event] ∧ authentications attempt.emitted = [event] ∧
        (event.eventType = .authFailed →
          event.userId = some username ∧ event.sourceIp = sourceIp)) ∧
      ((∃ granted, attempt.result = .ok granted) ↔ Authentic checkpw users username password) ∧
      (¬ Authentic checkpw users username password →
        ∃ error, error.kind = .authentication ∧ attempt.result = .error (.sentinel error)) ∧
      (∀ raised raised', attempt.result = .error raised → other.result = .error raised' →
        raised = raised') := by
  intro attempt other
  have refused (result : Except Exc Granted) (held : (∃ granted, result = .ok granted) ∨
      result = .error (.sentinel refusal)) {raised : Exc} (failed : result = .error raised) :
      raised = .sentinel refusal := by
    rcases held with ⟨granted, rfl⟩ | rfl
    · cases failed
    · exact (Except.error.inj failed).symm
  have ends : (∃ granted, other.result = .ok granted) ∨
      other.result = .error (.sentinel refusal) := by
    rcases logIn_cases checkpw signer others name word address otherId.2 with
      ⟨user, event, -, -, -, -, outcome⟩ | ⟨-, event, -, -, -, outcome⟩
    · exact .inl ⟨_, congrArg Traced.result outcome⟩
    · exact .inr (congrArg Traced.result outcome)
  rcases logIn_cases checkpw signer users username password sourceIp correlationId.2 with
    ⟨user, event, held, active, verified, succeeded, outcome⟩ |
    ⟨inauthentic, event, failed, named, located, outcome⟩
  · have authentic : Authentic checkpw users username password :=
      ⟨user, held.1, held.2, active, verified⟩
    have result := congrArg Traced.result outcome
    have emitted := congrArg Traced.emitted outcome
    refine ⟨⟨event, emitted, ?_, fun other => ?_⟩, iff_of_true ⟨_, result⟩ authentic,
      fun inauthentic => absurd authentic inauthentic, fun raised raised' first => ?_⟩
    · rw [show attempt.emitted = [event] from emitted]
      simp [authentications, succeeded]
    · rw [succeeded] at other
      cases other
    · rw [show attempt.result = _ from result] at first
      cases first
  · have result := congrArg Traced.result outcome
    have emitted := congrArg Traced.emitted outcome
    refine ⟨⟨event, emitted, ?_, fun _ => ⟨named, located⟩⟩, iff_of_false ?_ inauthentic,
      fun _ => ⟨refusal, rfl, result⟩, fun raised raised' first second => ?_⟩
    · rw [show attempt.emitted = [event] from emitted]
      simp [authentications, failed]
    · rintro ⟨granted, returned⟩
      rw [show attempt.result = _ from result] at returned
      cases returned
    · rw [refused _ (.inr result) first, refused _ ends second]

end LogIn

end SentinelIR.Services
