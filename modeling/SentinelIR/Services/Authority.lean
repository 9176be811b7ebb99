/-
# The chain of authority

Every account goes back to the configured administrator: a start-up created it, or an
administrator who is one of the accounts did, under a token that a login of theirs was granted.
So a service without a configured administrator lets nobody in, whatever it is asked. The runs
are those in which no request carries a token that is taken for one of the service's own and is
not.
-/

import SentinelIR.Services.AuthRouter

namespace SentinelIR.Services.AuthRouter

open SentinelIR.Py SentinelIR.Common Dependencies TokenService

/-- Requests and how they ended. -/
abbrev History := List (Request × Outcome)

/-- The header a request is judged by, and when. -/
def Request.credential : Request → Option (Option Str × Int)
  | .startup _ _ => none
  | .login _ _ _ _ _ => none
  | .verify authorization now => some (authorization, now)
  | .createUser authorization _ now _ _ => some (authorization, now)
  | .listUsers authorization now _ => some (authorization, now)

/-- The outcome is more than a refusal. -/
def Outcome.Admits : Outcome → Prop
  | .started => False
  | .unprocessable => False
  | .raised _ => False
  | .granted _ => True
  | .verified _ => True
  | .created _ => True
  | .listed _ => True

section Runs

variable [Rag.UnicodeText]

/-- The request carries the token, and the service reads the claims from it. -/
def Presents (server : AuthServer) (request : Request) (token : Str) (claims : TokenClaims) :
    Prop :=
  ∃ authorization now, request.credential = some (authorization, now) ∧
    getBearerToken authorization = .ok token ∧
      decodeToken server.jose server.settings.toTokenSettings token now = .ok claims

/-- A token the request presents was granted before. -/
def Unforged (server : AuthServer) (history : History) (request : Request) : Prop :=
  ∀ token claims, Presents server request token claims →
    ∃ entry ∈ history, ∃ granted, entry.2 = .granted granted ∧ granted.token = token

variable [UnicodeDb]

/-- The runs of a service over a fresh database, with their history. -/
inductive Reaches (server : AuthServer) : History → Accounts → Prop
  | fresh : Reaches server [] .empty
  | step {history : History} {accounts : Accounts} (reached : Reaches server history accounts)
      (request : Request) (unforged : Unforged server history request) :
      Reaches server (history ++ [(request, (serve server accounts request).1)])
        (serve server accounts request).2

omit [UnicodeDb] [Rag.UnicodeText] in
/-- A login of the account was granted the token. -/
def LoggedIn (server : AuthServer) (history : History) (account : Account) (token : Str) : Prop :=
  ∃ body sourceIp correlationId now reads granted,
    (Request.login (some body) sourceIp correlationId now reads,
        Outcome.granted granted) ∈ history ∧
      body.username = account.username ∧
        verifyPassword (PasswordService.checkpwOf server.bcrypt) body.password
          account.passwordHash = true ∧
          granted.token = token ∧
            token = issueToken server.jose server.settings.toTokenSettings account.username
              account.role now

/-- The account goes back to the configured administrator. -/
inductive Vouched (server : AuthServer) (history : History) : Account → Prop
  | bootstrap {account : Account}
      (creates : Bootstrap.Creates server.bcrypt server.settings account) :
      Vouched server history account
  | ordered {admin account : Account} {request : Request} {outcome : Outcome} {token : Str}
      {claims : TokenClaims} (vouched : Vouched server history admin)
      (isAdmin : admin.role = .admin) (loggedIn : LoggedIn server history admin token)
      (served : (request, outcome) ∈ history)
      (orders : Orders server request token claims account) : Vouched server history account

variable {server : AuthServer} {history later : History} {accounts : Accounts}

omit [UnicodeDb] [Rag.UnicodeText] in
theorem LoggedIn.mono {account : Account} {token : Str} (held : history ⊆ later)
    (loggedIn : LoggedIn server history account token) : LoggedIn server later account token := by
  obtain ⟨body, sourceIp, correlationId, now, reads, granted, served, rest⟩ := loggedIn
  exact ⟨body, sourceIp, correlationId, now, reads, granted, held served, rest⟩

omit [UnicodeDb] in
theorem Vouched.mono {account : Account} (held : history ⊆ later)
    (vouched : Vouched server history account) : Vouched server later account := by
  induction vouched with
  | bootstrap creates => exact .bootstrap creates
  | ordered _ isAdmin loggedIn served orders ih =>
      exact .ordered ih isAdmin (loggedIn.mono held) (held served) orders

/-! ## What is granted -/

omit [Rag.UnicodeText] in
/-- A login that is granted is one of an active account with its password. -/
theorem granted_of_login {body : LoginRequest} {sourceIp : Option Str}
    {correlationId : {correlationId : Str // ¬ Blank correlationId}} {now : Int}
    {reads : Except Exc Unit} {granted : Granted}
    (grants : login server accounts body sourceIp correlationId now reads = .granted granted) :
    ∃ account ∈ accounts.rows, account.username = body.username ∧ account.isActive = true ∧
      verifyPassword (PasswordService.checkpwOf server.bcrypt) body.password
        account.passwordHash = true ∧
        granted = ⟨issueToken server.jose server.settings.toTokenSettings account.username
          account.role now, account.role, server.settings.jwtExpiryMinutes * 60⟩ := by
  unfold login at grants
  cases reads with
  | error raised => cases grants
  | ok _ =>
      dsimp only at grants
      rcases logIn_cases (PasswordService.checkpwOf server.bcrypt) (server.signer now)
          accounts.users body.username body.password sourceIp correlationId.2 with
        ⟨user, event, ⟨held, named⟩, active, verified, -, outcome⟩ | ⟨-, event, -, -, -, outcome⟩
      · rw [outcome] at grants
        obtain ⟨account, haccount, rfl⟩ := List.mem_map.mp held
        exact ⟨account, haccount, named, active, verified, (Outcome.granted.inj grants).symm⟩
      · rw [outcome] at grants
        cases grants

/-- What is more than a refusal is a granted login, or answers a token. -/
theorem admits_cases {request : Request} (admits : (serve server accounts request).1.Admits) :
    (∃ body sourceIp correlationId now reads granted,
        request = .login (some body) sourceIp correlationId now reads ∧
          login server accounts body sourceIp correlationId now reads = .granted granted) ∨
      ∃ token claims, Presents server request token claims := by
  cases request with
  | startup salt commit => cases admits
  | login body sourceIp correlationId now reads =>
      cases body with
      | none => cases admits
      | some body =>
          refine .inl ⟨body, sourceIp, correlationId, now, reads, ?_⟩
          rw [serve] at admits
          unfold login at admits ⊢
          cases reads with
          | error raised => cases admits
          | ok _ =>
              dsimp only at admits ⊢
              cases result : (logIn (PasswordService.checkpwOf server.bcrypt) (server.signer now)
                  accounts.users body.username body.password sourceIp correlationId).result with
              | ok granted => exact ⟨granted, rfl, rfl⟩
              | error raised =>
                  rw [result] at admits
                  cases admits
  | verify authorization now =>
      right
      rw [serve, verify] at admits
      cases current : getCurrentClaims server.jose server.settings.toTokenSettings authorization
          now with
      | error raised =>
          rw [current] at admits
          cases admits
      | ok claims =>
          obtain ⟨token, carried, decoded⟩ := getCurrentClaims_eq_ok_iff.mp current
          exact ⟨token, claims, authorization, now, rfl, carried, decoded⟩
  | createUser authorization body now salt commit =>
      right
      cases guarded :
          requireAdmin server.jose server.settings.toTokenSettings authorization now with
      | error raised =>
          rw [serve] at admits
          unfold createUser at admits
          rw [guarded] at admits
          cases admits
      | ok claims =>
          obtain ⟨token, carried, decoded⟩ :=
            getCurrentClaims_eq_ok_iff.mp (requireAdmin_eq_ok_iff.mp guarded).1
          exact ⟨token, claims, authorization, now, rfl, carried, decoded⟩
  | listUsers authorization now reads =>
      right
      cases guarded :
          requireAdmin server.jose server.settings.toTokenSettings authorization now with
      | error raised =>
          rw [serve] at admits
          unfold listUsers at admits
          rw [guarded] at admits
          cases admits
      | ok claims =>
          obtain ⟨token, carried, decoded⟩ :=
            getCurrentClaims_eq_ok_iff.mp (requireAdmin_eq_ok_iff.mp guarded).1
          exact ⟨token, claims, authorization, now, rfl, carried, decoded⟩

/-- Only a login is granted anything. -/
theorem login_of_granted {request : Request} {granted : Granted}
    (grants : (serve server accounts request).1 = .granted granted) :
    ∃ body sourceIp correlationId now reads,
      request = .login (some body) sourceIp correlationId now reads ∧
        login server accounts body sourceIp correlationId now reads = .granted granted := by
  cases request with
  | startup salt commit => cases grants
  | login body sourceIp correlationId now reads =>
      cases body with
      | none => cases grants
      | some body => exact ⟨body, sourceIp, correlationId, now, reads, rfl, grants⟩
  | verify authorization now =>
      rw [serve, verify] at grants
      split at grants
      · cases grants
      · split at grants <;> cases grants
  | createUser authorization body now salt commit =>
      rw [serve] at grants
      unfold createUser at grants
      split at grants
      · cases grants
      · cases body with
        | none => cases grants
        | some payload =>
            have other (result : Except Exc Account) :
                Outcome.ofAccount result ≠ .granted granted := by
              cases result <;> rintro ⟨⟩
            exact absurd grants (other _)
  | listUsers authorization now reads =>
      rw [serve] at grants
      unfold listUsers at grants
      split at grants <;> cases grants

/-! ## The runs -/

/-- Every token a run granted is that of an account in the table. -/
theorem loggedIn_of_reaches (reached : Reaches server history accounts) :
    ∀ entry ∈ history, ∀ granted, entry.2 = .granted granted →
      ∃ account ∈ accounts.rows, LoggedIn server history account granted.token := by
  induction reached with
  | fresh => exact fun entry held => absurd held List.not_mem_nil
  | step reached request unforged ih =>
      intro entry held granted grants
      rcases List.mem_append.mp held with before | now
      · obtain ⟨account, haccount, loggedIn⟩ := ih entry before granted grants
        exact ⟨account, (rows_prefix_serve request).subset haccount,
          loggedIn.mono (List.subset_append_left _ _)⟩
      · obtain rfl := List.mem_singleton.mp now
        obtain ⟨body, sourceIp, correlationId, at_, reads, rfl, granting⟩ := login_of_granted grants
        obtain ⟨account, haccount, named, -, verified, rfl⟩ := granted_of_login granting
        refine ⟨account, haccount, body, sourceIp, correlationId, at_, reads, _,
          List.mem_append_right _ (List.mem_singleton.mpr ?_), named.symm, verified, rfl, rfl⟩
        exact congrArg (Prod.mk _) granting.symm

/-- Every account is active and goes back to the configured administrator. -/
theorem vouched_of_reaches
    (documented : server.jose.DocumentedUnder server.settings.toTokenSettings)
    (reached : Reaches server history accounts) :
    ∀ account ∈ accounts.rows, account.isActive = true ∧ Vouched server history account := by
  induction reached with
  | fresh => exact fun account held => absurd held List.not_mem_nil
  | @step history accounts reached request unforged ih =>
      have earlier : history ⊆ history ++ [(request, (serve server accounts request).1)] :=
        List.subset_append_left _ _
      have kept : ∀ account ∈ accounts.rows, account.isActive = true ∧
          Vouched server (history ++ [(request, (serve server accounts request).1)]) account :=
        fun account held => ⟨(ih account held).1, (ih account held).2.mono earlier⟩
      rcases @serve_cases _ _ server accounts request with
        unchanged | ⟨added, rows, created⟩
      · rwa [unchanged]
      intro account held
      rw [rows] at held
      rcases List.mem_append.mp held with before | new
      · exact kept account before
      obtain rfl := List.mem_singleton.mp new
      rcases created with ⟨-, creates⟩ | ⟨token, claims, orders⟩
      · obtain ⟨-, salt, registers⟩ := id creates
        exact ⟨registers.active, .bootstrap creates⟩
      obtain ⟨authorization, payload, now, salt, commit, rfl, carried, decoded, isAdmin,
        registers⟩ := id orders
      -- the token was granted, so its claims are those of an account of the table
      obtain ⟨entry, held, granted, grants, rfl⟩ :=
        unforged token claims ⟨authorization, now, rfl, carried, decoded⟩
      obtain ⟨admin, hadmin, loggedIn⟩ := loggedIn_of_reaches reached entry held granted grants
      obtain ⟨_, _, _, issued, _, _, _, _, _, _, signed⟩ := id loggedIn
      rw [signed] at decoded
      rw [eq_of_decoded documented _ _ decoded] at isAdmin
      refine ⟨registers.active, .ordered (kept admin hadmin).2 (Role.value_injective isAdmin)
        (loggedIn.mono earlier) (List.mem_append_right _ (List.mem_singleton.mpr rfl)) orders⟩

/-- What a run keeps of its accounts and of its tokens. -/
structure Governed (server : AuthServer) (history : History) (accounts : Accounts) : Prop where
  active : ∀ account ∈ accounts.rows, account.isActive = true
  vouched : ∀ account ∈ accounts.rows, Vouched server history account
  granted : ∀ entry ∈ history, ∀ granted, entry.2 = .granted granted →
    ∃ account ∈ accounts.rows, LoggedIn server history account granted.token

/-- **The chain of authority**: in every run, every account goes back to the configured
administrator through administrators who were logged in, and every token is one of an account's
own logins. -/
theorem governed_of_reaches
    (documented : server.jose.DocumentedUnder server.settings.toTokenSettings)
    (reached : Reaches server history accounts) : Governed server history accounts where
  active account held := (vouched_of_reaches documented reached account held).1
  vouched account held := (vouched_of_reaches documented reached account held).2
  granted := loggedIn_of_reaches reached

/-- **Nobody without an administrator**: where no first account is configured, a run stores no
account and lets nobody in. -/
theorem closed_of_unconfigured
    (documented : server.jose.DocumentedUnder server.settings.toTokenSettings)
    (unconfigured : ¬ Bootstrap.Configured server.settings)
    (reached : Reaches server history accounts) :
    accounts.rows = [] ∧ ∀ entry ∈ history, ¬ entry.2.Admits := by
  have unvouched {history : History} {account : Account}
      (vouched : Vouched server history account) : False := by
    induction vouched with
    | bootstrap creates => exact unconfigured creates.1
    | ordered _ _ _ _ _ ih => exact ih
  have empty {history : History} {accounts : Accounts} (reached : Reaches server history accounts) :
      accounts.rows = [] :=
    List.eq_nil_iff_forall_not_mem.mpr fun account held =>
      unvouched (vouched_of_reaches documented reached account held).2
  refine ⟨empty reached, ?_⟩
  induction reached with
  | fresh => exact fun entry held => absurd held List.not_mem_nil
  | @step history accounts reached request unforged ih =>
      intro entry held admits
      rcases List.mem_append.mp held with before | now
      · exact ih entry before admits
      obtain rfl := List.mem_singleton.mp now
      rcases admits_cases admits with
        ⟨body, sourceIp, correlationId, at_, reads, granted, rfl, granting⟩ |
        ⟨token, claims, presents⟩
      · obtain ⟨account, haccount, -⟩ := granted_of_login granting
        rw [empty reached] at haccount
        cases haccount
      · obtain ⟨entry, held, granted, grants, -⟩ := unforged token claims presents
        refine ih entry held ?_
        rw [grants]
        trivial

end Runs

end SentinelIR.Services.AuthRouter
