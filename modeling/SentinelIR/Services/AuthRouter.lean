/-
# The routes of auth-service

Four routes and a start-up over the one table. A run is any sequence of them, each against
whatever the database makes of it at that moment; every request meets the table in a single
statement, so a run is any interleaving of the requests.
-/

import SentinelIR.Services.UserAdmin

namespace SentinelIR.Services.AuthRouter

open SentinelIR.Py SentinelIR.Common Dependencies TokenService

/-! ## The bodies -/

/-- `LoginRequest`. -/
structure LoginRequest where
  username : Str
  password : Str
  username_length : 1 ≤ username.length ∧ username.length ≤ 64
  password_length : 1 ≤ password.length ∧ password.length ≤ 256

/-- `[^@\s]`, one character of an address. -/
def isAddressChar (c : CodePoint) : Bool := c != codePoint '@' && !isSpace c

/-- `[^@\s]+\.[^@\s]+`. -/
def isDomain (domain : Str) : Bool :=
  domain.all isAddressChar && domain.dropLast.tail.contains (codePoint '.')

/-- `_EMAIL_PATTERN.fullmatch`. -/
def isEmail (address : Str) : Bool :=
  let name := address.takeWhile isAddressChar
  match address.dropWhile isAddressChar with
  | c :: domain => !name.isEmpty && c == codePoint '@' && isDomain domain
  | [] => false

/-- `UserCreate`. The address is the validated one. -/
structure UserCreate where
  username : Str
  email : Str
  password : Str
  role : Role := .analyst
  username_length : 3 ≤ username.length ∧ username.length ≤ 64
  email_valid : isEmail email = true
  password_length : 8 ≤ password.length ∧ password.length ≤ 256

/-- `UserCreate(...)` of fields of the right types; nothing where the model refuses them. -/
def UserCreate.validate [Rag.UnicodeText] (username email password : Str) (role : Role) :
    Option UserCreate :=
  let address := Rag.UnicodeText.lower (strip email)
  if valid : (3 ≤ username.length ∧ username.length ≤ 64) ∧
      (3 ≤ email.length ∧ email.length ≤ 255) ∧ isEmail address = true ∧
        8 ≤ password.length ∧ password.length ≤ 256 then
    some { username := username, email := address, password := password, role := role
           username_length := valid.1, email_valid := valid.2.2.1
           password_length := valid.2.2.2 }
  else none

/-- `UserRead`: an account without its hash. -/
structure UserRead where
  id : Int
  username : Str
  email : Str
  role : Role
  isActive : Bool
  createdAt : Micros

/-- `UserRead.model_validate`. -/
def UserRead.ofAccount (account : Account) : UserRead where
  id := account.id
  username := account.username
  email := account.email
  role := account.role
  isActive := account.isActive
  createdAt := account.createdAt

/-- `VerifyResponse`. -/
structure VerifyResponse where
  username : Str
  role : Role
  issuedAt : Int
  expiresAt : Int

/-! ## The requests -/

/-- A start-up or a request, with the instant it is served at and what the database makes of
its statement. A body is absent where the framework refuses it. -/
inductive Request
  | startup (salt : ByteArray) (commit : Commit)
  | login (body : Option LoginRequest) (sourceIp : Option Str)
      (correlationId : {correlationId : Str // ¬ Blank correlationId}) (now : Int)
      (reads : Except Exc Unit)
  | verify (authorization : Option Str) (now : Int)
  | createUser (authorization : Option Str) (body : Option UserCreate) (now : Int)
      (salt : ByteArray) (commit : Commit)
  | listUsers (authorization : Option Str) (now : Int) (reads : Except Exc Unit)

/-- How a request ends. -/
inductive Outcome
  | started
  /-- 422, from the framework. -/
  | unprocessable
  | granted (response : Granted)
  | verified (response : VerifyResponse)
  | created (response : UserRead)
  | listed (response : List UserRead)
  | raised (raised : Exc)

/-- How `create_user` ends. -/
def Outcome.ofAccount : Except Exc Account → Outcome
  | .ok account => .created (.ofAccount account)
  | .error failure => .raised failure

/-- The parts of auth-service that do not change. -/
structure AuthServer where
  jose : Jose
  bcrypt : Bcrypt
  settings : AuthSettings

/-- What signs a login at an instant. -/
def AuthServer.signer (server : AuthServer) (now : Int) : Signer where
  issueToken username role :=
    issueToken server.jose server.settings.toTokenSettings username role now
  expiryMinutes := server.settings.jwtExpiryMinutes

section Routes

variable [UnicodeDb] [Rag.UnicodeText] (server : AuthServer) (accounts : Accounts)

/-- `login`. -/
def login (body : LoginRequest) (sourceIp : Option Str)
    (correlationId : {correlationId : Str // ¬ Blank correlationId}) (now : Int)
    (reads : Except Exc Unit) : Outcome :=
  match reads with
  | .error raised => .raised raised
  | .ok _ =>
      match (logIn (PasswordService.checkpwOf server.bcrypt) (server.signer now) accounts.users
          body.username body.password sourceIp correlationId).result with
      | .ok granted => .granted granted
      | .error raised => .raised raised

/-- `verify`. A role the response has no value for is a failed validation. -/
def verify (authorization : Option Str) (now : Int) : Outcome :=
  match getCurrentClaims server.jose server.settings.toTokenSettings authorization now with
  | .error raised => .raised raised
  | .ok claims =>
      match Role.ofValue claims.role with
      | none => .raised .validation
      | some role => .verified ⟨claims.sub, role, claims.iat, claims.exp⟩

/-- `create_user`. The guard comes before the body. -/
def createUser (authorization : Option Str) (body : Option UserCreate) (now : Int)
    (salt : ByteArray) (commit : Commit) : Outcome × Accounts :=
  match requireAdmin server.jose server.settings.toTokenSettings authorization now with
  | .error raised => (.raised raised, accounts)
  | .ok _ =>
      match body with
      | none => (.unprocessable, accounts)
      | some payload =>
          let made := UserAdminService.createUser server.bcrypt accounts payload.username
            payload.email payload.password payload.role salt commit
          (.ofAccount made.1, made.2)

/-- `list_users`. -/
def listUsers (authorization : Option Str) (now : Int) (reads : Except Exc Unit) : Outcome :=
  match requireAdmin server.jose server.settings.toTokenSettings authorization now, reads with
  | .error raised, _ => .raised raised
  | .ok _, .error raised => .raised raised
  | .ok _, .ok _ => .listed (accounts.listUsers.map .ofAccount)

/-- One request, and the table it leaves. -/
def serve : Request → Outcome × Accounts
  | .startup salt commit =>
      (.started, Bootstrap.ensureBootstrapAdmin server.bcrypt server.settings accounts salt commit)
  | .login none _ _ _ _ => (.unprocessable, accounts)
  | .login (some body) sourceIp correlationId now reads =>
      (login server accounts body sourceIp correlationId now reads, accounts)
  | .verify authorization now => (verify server authorization now, accounts)
  | .createUser authorization body now salt commit =>
      createUser server accounts authorization body now salt commit
  | .listUsers authorization now reads =>
      (listUsers server accounts authorization now reads, accounts)

/-- The table a run leaves. -/
def run (requests : List Request) : Accounts :=
  requests.foldl (fun accounts request => (serve server accounts request).2) accounts

end Routes

/-! ## One request -/

section Step

variable [UnicodeDb] [Rag.UnicodeText] {server : AuthServer} {accounts : Accounts}

/-- The request orders an account, under a token whose claims carry the admin role. -/
def Orders (server : AuthServer) (request : Request) (token : Str) (claims : TokenClaims)
    (account : Account) : Prop :=
  ∃ authorization payload now salt commit,
    request = .createUser authorization (some payload) now salt commit ∧
      getBearerToken authorization = .ok token ∧
        decodeToken server.jose server.settings.toTokenSettings token now = .ok claims ∧
          claims.role = Role.admin.value ∧
            UserAdminService.Registers server.bcrypt payload.username payload.email
              payload.password payload.role salt account

/-- **What one request does to the table**: nothing, or it adds one account, the configured
administrator at a start-up or the account an administrator's request orders. -/
theorem serve_cases (request : Request) :
    (serve server accounts request).2 = accounts ∨
      ∃ account, (serve server accounts request).2.rows = accounts.rows ++ [account] ∧
        ((∃ salt commit, request = .startup salt commit) ∧
            Bootstrap.Creates server.bcrypt server.settings account ∨
          ∃ token claims, Orders server request token claims account) := by
  cases request with
  | startup salt commit =>
      rcases Bootstrap.ensureBootstrapAdmin_cases server.bcrypt server.settings accounts salt commit
        with unchanged | ⟨account, creates, rows⟩
      · exact .inl unchanged
      · exact .inr ⟨account, rows, .inl ⟨⟨salt, commit, rfl⟩, creates⟩⟩
  | login body sourceIp correlationId now reads => cases body <;> exact .inl rfl
  | verify authorization now => exact .inl rfl
  | listUsers authorization now reads => exact .inl rfl
  | createUser authorization body now salt commit =>
      rw [serve]
      unfold createUser
      cases guarded :
          requireAdmin server.jose server.settings.toTokenSettings authorization now with
      | error raised => exact .inl rfl
      | ok claims =>
          cases body with
          | none => exact .inl rfl
          | some payload =>
              dsimp only
              rcases UserAdminService.createUser_cases server.bcrypt accounts payload.username
                  payload.email payload.password payload.role salt commit with
                ⟨raised, unchanged⟩ | ⟨account, registers, -, rows⟩
              · exact .inl (congrArg Prod.snd unchanged)
              · obtain ⟨current, admin⟩ := requireAdmin_eq_ok_iff.mp guarded
                obtain ⟨token, carried, decoded⟩ := getCurrentClaims_eq_ok_iff.mp current
                exact .inr ⟨account, rows, .inr ⟨token, claims, authorization, payload, now, salt,
                  commit, rfl, carried, decoded, admin, registers⟩⟩

/-- The rows that are there stay there, as they are. -/
theorem rows_prefix_serve (request : Request) :
    accounts.rows <+: (serve server accounts request).2.rows := by
  rcases serve_cases request with unchanged | ⟨account, rows, -⟩
  · rw [unchanged]
  · exact ⟨[account], rows.symm⟩

/-- Over a run too. -/
theorem rows_prefix_run (requests : List Request) :
    accounts.rows <+: (run server accounts requests).rows := by
  induction requests generalizing accounts with
  | nil => exact List.prefix_refl _
  | cons request rest ih => exact (rows_prefix_serve request).trans ih

end Step

end SentinelIR.Services.AuthRouter
