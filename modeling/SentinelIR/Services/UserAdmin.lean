/-
# Accounts

The `users` table and the one way into it. Two unique columns and a primary key decide an
insert, not a read before it, so an account is stored whole or not at all, and nothing changes
an account that is stored.
-/

import SentinelIR.Services.PasswordService
import SentinelIR.Services.TokenService

namespace SentinelIR.Services

open SentinelIR.Py SentinelIR.Common

/-- A `User` before it is stored. -/
structure NewUser extends User where
  email : Str

/-- A row of `users`. -/
structure Account extends NewUser where
  id : Int
  createdAt : Micros

/-- The `users` table, in the order of the commits. -/
structure Accounts where
  rows : List Account
  usernames : (rows.map (·.username)).Nodup
  emails : (rows.map (·.email)).Nodup
  ids : (rows.map (·.id)).Nodup

namespace Accounts

/-- The table `create_all` leaves in a fresh database. -/
def empty : Accounts where
  rows := []
  usernames := List.nodup_nil
  emails := List.nodup_nil
  ids := List.nodup_nil

/-- What a login reads of the table. -/
def users (accounts : Accounts) : Users where
  rows := accounts.rows.map fun account => account.toUser
  unique := by
    rw [List.map_map]
    exact accounts.usernames

/-- No row has the name, the address or the id. -/
structure Free (accounts : Accounts) (user : NewUser) (id : Int) : Prop where
  username : user.username ∉ accounts.rows.map (·.username)
  email : user.email ∉ accounts.rows.map (·.email)
  id : id ∉ accounts.rows.map (·.id)

theorem free_iff (accounts : Accounts) (user : NewUser) (id : Int) : accounts.Free user id ↔
    user.username ∉ accounts.rows.map (·.username) ∧ user.email ∉ accounts.rows.map (·.email) ∧
      id ∉ accounts.rows.map (·.id) :=
  ⟨fun free => ⟨free.username, free.email, free.id⟩, fun free => ⟨free.1, free.2.1, free.2.2⟩⟩

instance (accounts : Accounts) (user : NewUser) (id : Int) : Decidable (accounts.Free user id) :=
  decidable_of_iff' _ (accounts.free_iff user id)

theorem nodup_append_new {α β : Type} {column : α → β} {rows : List α} {row : α}
    (distinct : (rows.map column).Nodup) (new : column row ∉ rows.map column) :
    ((rows ++ [row]).map column).Nodup := by
  rw [List.map_append, List.map_singleton, List.nodup_append]
  refine ⟨distinct, List.nodup_singleton _, fun a ha b hb same => new ?_⟩
  rwa [← List.mem_singleton.mp hb, ← same]

/-- The table with one row more. -/
def insert (accounts : Accounts) (account : Account)
    (free : accounts.Free account.toNewUser account.id) : Accounts where
  rows := accounts.rows ++ [account]
  usernames := nodup_append_new accounts.usernames free.username
  emails := nodup_append_new accounts.emails free.email
  ids := nodup_append_new accounts.ids free.id

@[simp] theorem insert_rows (accounts : Accounts) (account : Account)
    (free : accounts.Free account.toNewUser account.id) :
    (accounts.insert account free).rows = accounts.rows ++ [account] := rfl

/-- `list_users`: the rows by id. -/
def listUsers (accounts : Accounts) : List Account :=
  accounts.rows.insertionSort fun first second => first.id ≤ second.id

end Accounts

/-- What the database makes of a commit: it refuses it for a reason of its own, or it takes an
id and an instant for the row, which the constraints then judge, and refreshes the row. -/
inductive Commit
  | refused (raised : Exc)
  | taken (id : Int) (createdAt : Micros) (refreshes : Except Exc Unit)

namespace UserRepository

variable [UnicodeDb]

/-- The `ConflictError` of `create`. -/
def conflict (username : Str) : Exc :=
  .sentinel
    { kind := .conflict
      message := "A user with username " ++ Py.repr username ++ " or that email already exists."
      details := [("field", .text "username"), ("value", .text username)] }

/-- `create`. A row stays stored when only the refresh after the commit fails. -/
def create (accounts : Accounts) (user : NewUser) : Commit → Except Exc Account × Accounts
  | .refused raised => (.error raised, accounts)
  | .taken id createdAt refreshes =>
      let account : Account := { user with id := id, createdAt := createdAt }
      if free : accounts.Free account.toNewUser account.id then
        (refreshes.map fun _ => account, accounts.insert account free)
      else (.error (conflict user.username), accounts)

/-- An insert leaves the table, or adds the account with the row's id and instant. -/
theorem create_cases (accounts : Accounts) (user : NewUser) (commit : Commit) :
    (∃ raised, create accounts user commit = (.error raised, accounts)) ∨
      ∃ account : Account, account.toNewUser = user ∧
        ((create accounts user commit).1 = .ok account ∨
          ∃ raised, (create accounts user commit).1 = .error raised) ∧
        (create accounts user commit).2.rows = accounts.rows ++ [account] := by
  cases commit with
  | refused raised => exact .inl ⟨raised, rfl⟩
  | taken id createdAt refreshes =>
      rw [create]
      by_cases free : accounts.Free user id
      · rw [dif_pos free]
        refine .inr ⟨{ user with id := id, createdAt := createdAt }, rfl, ?_, rfl⟩
        cases refreshes with
        | ok => exact .inl rfl
        | error raised => exact .inr ⟨raised, rfl⟩
      · rw [dif_neg free]
        exact .inl ⟨_, rfl⟩

end UserRepository

namespace UserAdminService

open PasswordService

variable [UnicodeDb] (bcrypt : Bcrypt) (accounts : Accounts) (username email password : Str)
  (role : Role) (salt : ByteArray) (commit : Commit)

/-- `create_user`, under the salt that was generated. -/
def createUser : Except Exc Account × Accounts :=
  match hashPassword bcrypt password salt with
  | .error raised => (.error raised, accounts)
  | .ok hashed =>
      UserRepository.create accounts
        { username := username, email := email, passwordHash := hashed, role := role
          isActive := true } commit

/-- What `create_user` stores: an active account with the given name, address and role, whose
hash is one of the given password. -/
structure Registers (account : Account) : Prop where
  username : account.username = username
  email : account.email = email
  role : account.role = role
  active : account.isActive = true
  hashed : hashPassword bcrypt password salt = .ok account.passwordHash

/-- **What `create_user` does to the table**: nothing, or it adds the one account it was asked
for; and where it returns an account, that one is added. -/
theorem createUser_cases :
    (∃ raised, createUser bcrypt accounts username email password role salt commit =
        (.error raised, accounts)) ∨
      ∃ account, Registers bcrypt username email password role salt account ∧
        ((createUser bcrypt accounts username email password role salt commit).1 = .ok account ∨
          ∃ raised, (createUser bcrypt accounts username email password role salt commit).1 =
            .error raised) ∧
        (createUser bcrypt accounts username email password role salt commit).2.rows =
          accounts.rows ++ [account] := by
  rw [createUser]
  cases hashed : hashPassword bcrypt password salt with
  | error raised => exact .inl ⟨raised, rfl⟩
  | ok hash =>
      dsimp only
      rcases UserRepository.create_cases accounts
          { username := username, email := email, passwordHash := hash, role := role
            isActive := true } commit with unchanged | ⟨account, same, ends, rows⟩
      · exact .inl unchanged
      · refine .inr ⟨account, ?_, ends, rows⟩
        have user := congrArg NewUser.toUser same
        exact ⟨congrArg User.username user, congrArg NewUser.email same, congrArg User.role user,
          congrArg User.isActive user, hashed.trans (congrArg Except.ok
            (congrArg User.passwordHash user).symm)⟩

end UserAdminService

/-! ## The first account -/

/-- The settings of auth-service. -/
structure AuthSettings extends TokenSettings where
  bootstrapAdminUsername : Str := []
  bootstrapAdminPassword : Str := []

namespace Bootstrap

variable [UnicodeDb] (bcrypt : Bcrypt) (settings : AuthSettings)

/-- The name of the account `ensure_bootstrap_admin` creates. -/
def adminUsername : Str := strip settings.bootstrapAdminUsername

/-- `ensure_bootstrap_admin`. What `create_user` raises is logged, not raised. -/
def ensureBootstrapAdmin (accounts : Accounts) (salt : ByteArray) (commit : Commit) : Accounts :=
  if adminUsername settings = [] ∨ settings.bootstrapAdminPassword = [] then accounts
  else
    (UserAdminService.createUser bcrypt accounts (adminUsername settings)
      (adminUsername settings ++ lit "@sentinel.local") settings.bootstrapAdminPassword .admin
      salt commit).2

/-- Whether a first account is configured, and its password one that can be hashed. -/
def Configured : Prop :=
  adminUsername settings ≠ [] ∧ PasswordService.Acceptable settings.bootstrapAdminPassword

/-- The account a start-up creates. -/
def Creates (account : Account) : Prop :=
  Configured settings ∧ ∃ salt,
    UserAdminService.Registers bcrypt (adminUsername settings)
      (adminUsername settings ++ lit "@sentinel.local") settings.bootstrapAdminPassword .admin
      salt account

/-- A start-up leaves the table, or adds the configured administrator. -/
theorem ensureBootstrapAdmin_cases (accounts : Accounts) (salt : ByteArray) (commit : Commit) :
    ensureBootstrapAdmin bcrypt settings accounts salt commit = accounts ∨
      ∃ account, Creates bcrypt settings account ∧
        (ensureBootstrapAdmin bcrypt settings accounts salt commit).rows =
          accounts.rows ++ [account] := by
  rw [ensureBootstrapAdmin]
  by_cases absent : adminUsername settings = [] ∨ settings.bootstrapAdminPassword = []
  · exact .inl (if_pos absent)
  rw [if_neg absent]
  rcases UserAdminService.createUser_cases bcrypt accounts (adminUsername settings)
      (adminUsername settings ++ lit "@sentinel.local") settings.bootstrapAdminPassword .admin
      salt commit with ⟨raised, unchanged⟩ | ⟨account, registers, -, rows⟩
  · exact .inl (congrArg Prod.snd unchanged)
  · refine .inr ⟨account, ⟨⟨(not_or.mp absent).1, ?_⟩, salt, registers⟩, rows⟩
    exact (PasswordService.hash_of_hashed registers.hashed).1

end Bootstrap

end SentinelIR.Services
