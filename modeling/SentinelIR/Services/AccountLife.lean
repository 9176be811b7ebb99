/-
# From an account to its token

What an administrator's request creates is an account that can be logged in to, with its
password and no other, however much is served in between; and the token of such a login is
verified as that account until it expires, and refused from then on.
-/

import SentinelIR.Py.Numbers
import SentinelIR.Services.Authority

namespace SentinelIR.Services.AuthRouter

open SentinelIR.Py SentinelIR.Common Dependencies TokenService PasswordService

section Life

variable [UnicodeDb] {server : AuthServer} {accounts : Accounts}

/-- A login to an active account whose hash is one of a password is granted with that password
and refused with any other, as far as bcrypt tells the two apart. -/
theorem login_eq {keys : ByteArray → Prop} (documented : server.bcrypt.DocumentedOn keys)
    {account : Account} (held : account ∈ accounts.rows) (active : account.isActive = true)
    {password : Str} (key : keys (utf8 password)) {salt : ByteArray}
    (hashed : hashPassword server.bcrypt password salt = .ok account.passwordHash)
    {body : LoginRequest} (candidate : keys (utf8 body.password))
    (named : body.username = account.username) (sourceIp : Option Str)
    (correlationId : {correlationId : Str // ¬ Blank correlationId}) (now : Int) :
    login server accounts body sourceIp correlationId now (.ok ()) =
      if body.password = password then
        .granted ⟨issueToken server.jose server.settings.toTokenSettings account.username
          account.role now, account.role, server.settings.jwtExpiryMinutes * 60⟩
      else .raised (.sentinel refusal) := by
  have matching : verifyPassword (checkpwOf server.bcrypt) body.password account.passwordHash =
      decide (body.password = password) := by
    have refines := verifyPassword_refines documented body.password account.passwordHash
    rw [matching_of_documented documented hashed key candidate] at refines
    exact (Except.ok.inj refines).symm
  have listed : account.toUser ∈ accounts.users.rows := List.mem_map_of_mem held
  unfold login
  dsimp only
  rcases logIn_cases (checkpwOf server.bcrypt) (server.signer now) accounts.users body.username
      body.password sourceIp correlationId.2 with
    ⟨user, event, ⟨huser, same⟩, -, verified, -, outcome⟩ |
    ⟨inauthentic, event, -, -, -, outcome⟩
  · obtain rfl : user = account.toUser :=
      List.inj_on_of_nodup_map accounts.users.unique huser listed (same.trans named)
    have right : body.password = password := by
      rw [matching] at verified
      exact of_decide_eq_true verified
    rw [outcome, if_pos right]
    rfl
  · have wrong : body.password ≠ password := fun right => inauthentic
      ⟨account.toUser, listed, named.symm, active, by rw [matching]; exact decide_eq_true right⟩
    rw [outcome, if_neg wrong]

variable [Rag.UnicodeText]

/-- A request that creates an account adds it to the table. -/
theorem exists_of_created {authorization : Option Str} {payload : UserCreate} {now : Int}
    {salt : ByteArray} {commit : Commit} {read : UserRead}
    (created : (serve server accounts
      (.createUser authorization (some payload) now salt commit)).1 = .created read) :
    ∃ account, (serve server accounts
        (.createUser authorization (some payload) now salt commit)).2.rows =
          accounts.rows ++ [account] ∧ read = .ofAccount account ∧
        UserAdminService.Registers server.bcrypt payload.username payload.email payload.password
          payload.role salt account := by
  rw [serve] at created ⊢
  unfold createUser at created ⊢
  cases guarded : requireAdmin server.jose server.settings.toTokenSettings authorization now with
  | error raised =>
      rw [guarded] at created
      cases created
  | ok claims =>
      rw [guarded] at created
      dsimp only at created ⊢
      rcases UserAdminService.createUser_cases server.bcrypt accounts payload.username
          payload.email payload.password payload.role salt commit with
        ⟨raised, unchanged⟩ | ⟨account, registers, returned | ⟨raised, failed⟩, rows⟩
      · rw [unchanged] at created
        cases created
      · rw [returned] at created
        exact ⟨account, rows, (Outcome.created.inj created).symm, registers⟩
      · rw [failed] at created
        cases created

omit [UnicodeDb] in
/-- A token of the account is verified as that account until it expires. -/
theorem verify_issueToken (documented : server.jose.DocumentedUnder server.settings.toTokenSettings)
    (username : Str) (role : Role) {authorization : Option Str} {issued check : Int}
    (carries : getBearerToken authorization =
      .ok (issueToken server.jose server.settings.toTokenSettings username role issued)) :
    verify server authorization check =
      if check ≤ issued + server.settings.jwtExpiryMinutes * 60 then
        .verified ⟨username, role, issued, issued + server.settings.jwtExpiryMinutes * 60⟩
      else .raised tokenExpired := by
  unfold verify
  have current : getCurrentClaims server.jose server.settings.toTokenSettings authorization check =
      decodeToken server.jose server.settings.toTokenSettings
        (issueToken server.jose server.settings.toTokenSettings username role issued) check := by
    rw [getCurrentClaims, carries]
    rfl
  rw [current]
  by_cases fresh : check ≤ issued + server.settings.jwtExpiryMinutes * 60
  · rw [decodeToken_issueToken documented _ _ fresh, if_pos fresh]
    dsimp only
    rw [show (issuedClaims server.settings.toTokenSettings username role issued).role = role.value
      from rfl, Role.ofValue_value]
    rfl
  · rw [decodeToken_expired documented _ _ (not_le.mp fresh), if_neg fresh]

/-- **From an account to its token**: after a request that creates an account, and whatever is
served then, a login under its name is granted with its password and refused with any other, no
NUL being in either; and whatever is served after that, the token is verified as the account
until it expires. -/
theorem life_of_created (server : AuthServer)
    (hjose : server.jose.DocumentedUnder server.settings.toTokenSettings)
    (hbcrypt : server.bcrypt.DocumentedOn NulFree) (accounts : Accounts)
    (authorization : Option Str) (payload : UserCreate) (key : NulFree (utf8 payload.password))
    (now : Int) (salt : ByteArray) (commit : Commit) (read : UserRead)
    (created : (serve server accounts
      (.createUser authorization (some payload) now salt commit)).1 = .created read)
    (between : List Request) (body : LoginRequest) (candidate : NulFree (utf8 body.password))
    (named : body.username = payload.username) (sourceIp : Option Str)
    (correlationId : {correlationId : Str // ¬ Blank correlationId}) (issued : Int) :
    let accounts' := run server (serve server accounts
      (.createUser authorization (some payload) now salt commit)).2 between
    let outcome := (serve server accounts'
      (.login (some body) sourceIp correlationId issued (.ok ()))).1
    let token := issueToken server.jose server.settings.toTokenSettings payload.username
      payload.role issued
    (body.password ≠ payload.password → outcome = .raised (.sentinel refusal)) ∧
      (body.password = payload.password →
        outcome = .granted ⟨token, payload.role, server.settings.jwtExpiryMinutes * 60⟩) ∧
      ∀ (others : List Request) (header : Option Str) (check : Int),
        getBearerToken header = .ok token →
          (serve server (run server accounts' others) (.verify header check)).1 =
            if check ≤ issued + server.settings.jwtExpiryMinutes * 60 then
              .verified ⟨payload.username, payload.role, issued,
                issued + server.settings.jwtExpiryMinutes * 60⟩
            else .raised tokenExpired := by
  intro accounts' outcome token
  obtain ⟨account, rows, -, registers⟩ := exists_of_created created
  have stays : account ∈ accounts'.rows := (rows_prefix_run between).subset (by
    rw [rows]
    exact List.mem_append_right _ (List.mem_singleton.mpr rfl))
  have served := login_eq hbcrypt stays registers.active key registers.hashed candidate
    (named.trans registers.username.symm) sourceIp correlationId issued
  rw [registers.username, registers.role] at served
  exact ⟨fun wrong => served.trans (if_neg wrong), fun right => served.trans (if_pos right),
    fun others header check => verify_issueToken hjose payload.username payload.role⟩

/-! ## What a run creates -/

/-- The account a request was told of. -/
def Outcome.told : Outcome → Option UserRead
  | .created read => some read
  | _ => none

/-- The accounts the requests of a run were told of, in order. -/
def toldIn (server : AuthServer) (accounts : Accounts) : List Request → List UserRead
  | [] => []
  | request :: rest => (serve server accounts request).1.told.toList ++
      toldIn server (serve server accounts request).2 rest

/-- Only a request to create an account is told of one. -/
theorem createUser_of_told {request : Request} {read : UserRead}
    (told : (serve server accounts request).1.told = some read) :
    ∃ authorization payload now salt commit,
      request = .createUser authorization (some payload) now salt commit ∧
        (serve server accounts request).1 = .created read := by
  have created : (serve server accounts request).1 = .created read := by
    cases outcome : (serve server accounts request).1 with
    | created other =>
        rw [outcome] at told
        exact congrArg Outcome.created (Option.some.inj told)
    | _ =>
        rw [outcome] at told
        cases told
  cases request with
  | startup salt commit => cases created
  | login body sourceIp correlationId now reads =>
      cases body with
      | none => cases created
      | some body =>
          rw [serve] at created
          unfold login at created
          cases reads with
          | error raised => cases created
          | ok _ =>
              dsimp only at created
              split at created <;> cases created
  | verify authorization now =>
      rw [serve] at created
      unfold verify at created
      split at created
      · cases created
      · split at created <;> cases created
  | listUsers authorization now reads =>
      rw [serve] at created
      unfold listUsers at created
      split at created <;> cases created
  | createUser authorization body now salt commit =>
      cases body with
      | some payload => exact ⟨authorization, payload, now, salt, commit, rfl, created⟩
      | none =>
          rw [serve] at created
          unfold createUser at created
          split at created <;> cases created

/-- One request adds what it is told of, and maybe an account it is not told of. -/
theorem exists_added_serve (request : Request) : ∃ added,
    (serve server accounts request).2.rows = accounts.rows ++ added ∧
      (serve server accounts request).1.told.toList.Sublist (added.map UserRead.ofAccount) := by
  cases told : (serve server accounts request).1.told with
  | none =>
      obtain ⟨added, rows⟩ := @rows_prefix_serve _ _ server accounts request
      exact ⟨added, rows.symm, List.nil_sublist _⟩
  | some read =>
      obtain ⟨authorization, payload, now, salt, commit, rfl, created⟩ := createUser_of_told told
      obtain ⟨account, rows, rfl, -⟩ := exists_of_created created
      exact ⟨[account], rows, List.Sublist.refl _⟩

/-- A run adds what it is told of. -/
theorem exists_added_run (server : AuthServer) (accounts : Accounts) (requests : List Request) :
    ∃ added, (run server accounts requests).rows = accounts.rows ++ added ∧
      (toldIn server accounts requests).Sublist (added.map UserRead.ofAccount) := by
  induction requests generalizing accounts with
  | nil => exact ⟨[], (List.append_nil _).symm, List.Sublist.refl _⟩
  | cons request rest ih =>
      obtain ⟨first, rows, toldFirst⟩ := @exists_added_serve _ server accounts _ request
      obtain ⟨later, rows', toldLater⟩ := ih (serve server accounts request).2
      refine ⟨first ++ later, ?_, ?_⟩
      · change (run server (serve server accounts request).2 rest).rows = _
        rw [rows', rows, List.append_assoc]
      · rw [List.map_append]
        exact toldFirst.append toldLater

/-- **No account twice**: over any run from any table, no two requests are told of accounts that
share a name, an address or an id, nor of one that shares it with an account there was before;
and all they are told of is listed in the end, by ascending id. -/
theorem distinct_told (server : AuthServer) (accounts : Accounts) (requests : List Request) :
    let told := toldIn server accounts requests
    let before := accounts.rows.map UserRead.ofAccount
    let listed := (run server accounts requests).listUsers.map UserRead.ofAccount
    ((before ++ told).map (·.username)).Nodup ∧ ((before ++ told).map (·.email)).Nodup ∧
      ((before ++ told).map (·.id)).Nodup ∧ (∀ read ∈ told, read ∈ listed) ∧
        listed.Pairwise (·.id < ·.id) := by
  intro told before listed
  obtain ⟨added, rows, sublist⟩ := exists_added_run server accounts requests
  have held : (before ++ told).Sublist
      ((run server accounts requests).rows.map UserRead.ofAccount) := by
    rw [rows, List.map_append]
    exact (List.Sublist.refl _).append sublist
  have column {α : Type} {f : UserRead → α}
      (distinct : ((run server accounts requests).rows.map fun account =>
        f (.ofAccount account)).Nodup) : ((before ++ told).map f).Nodup := by
    have all := (held.map f).nodup
    rw [List.map_map] at all
    exact all distinct
  have same : (run server accounts requests).listUsers.Perm (run server accounts requests).rows :=
    List.perm_insertionSort _ _
  refine ⟨column (run server accounts requests).usernames,
    column (run server accounts requests).emails, column (run server accounts requests).ids,
    fun read hread => ?_, ?_⟩
  · exact (same.map _).mem_iff.mpr (held.subset (List.mem_append_right _ hread))
  · have sorted : (run server accounts requests).listUsers.Pairwise fun first second =>
        first.id ≤ second.id := List.pairwise_insertionSort _ _
    have apart : (run server accounts requests).listUsers.Pairwise fun first second =>
        first.id ≠ second.id :=
      List.pairwise_map.mp ((same.map _).nodup_iff.mpr (run server accounts requests).ids)
    rw [List.pairwise_map]
    exact (sorted.and apart).imp fun both => lt_of_le_of_ne both.1 both.2

end Life

/-! ## One run -/

section Seeded

/-- A service with a configured administrator. -/
def seeded : AuthServer where
  jose := plainJose
  bcrypt := recorded
  settings :=
    { jwtSecret := "shared secret"
      jwtAlgorithm := "HS256"
      jwtExpiryMinutes := 60
      bootstrapAdminUsername := "admin"
      bootstrapAdminPassword := lit alphabet }

/-- The account its first start-up creates. -/
def founder : Account where
  username := "admin"
  passwordHash := lit alphabetHash
  role := .admin
  isActive := true
  email := "admin@sentinel.local"
  id := 1
  createdAt := 0

/-- The table that leaves. -/
def founded : Accounts where
  rows := [founder]
  usernames := List.nodup_singleton _
  emails := List.nodup_singleton _
  ids := List.nodup_singleton _

/-- `str.lower` and `\w` on ASCII. -/
@[reducible] def asciiText : Rag.UnicodeText where
  lower text := text.map asciiLower
  isWord c := (48 ≤ c.val && c.val ≤ 57) || (65 ≤ c.val && c.val ≤ 90) ||
    (97 ≤ c.val && c.val ≤ 122) || c.val == 95

/-- The header with the administrator's token. -/
def adminHeader : Option Str :=
  some (bearerPrefix ++ issueToken plainJose seeded.settings.toTokenSettings "admin" .admin 0)

/-- An account to create. -/
def carol : UserCreate where
  username := "carol"
  email := "carol@example.com"
  password := lit alphabet
  username_length := by decide
  email_valid := by decide +kernel
  password_length := by decide +kernel

/-- A login to an account whose password is the alphabet. -/
def loginTo (username : Str) (length : 1 ≤ username.length ∧ username.length ≤ 64) :
    LoginRequest where
  username := username
  password := lit alphabet
  username_length := length
  password_length := by decide +kernel

theorem strip_eq_self {first last : CodePoint} {middle : Str} (head : isSpace first = false)
    (tail : isSpace last = false) :
    strip (first :: (middle ++ [last])) = first :: (middle ++ [last]) := by
  rw [strip, List.dropWhile_cons_of_neg (by simp [head]), List.reverse_cons, List.reverse_append,
    List.reverse_singleton, List.singleton_append, List.cons_append,
    List.dropWhile_cons_of_neg (by simp [tail])]
  simp

/-- A header carries the token after its scheme. -/
theorem getBearerToken_sign (claims : TokenClaims) (secret algorithm : Str) :
    letI := asciiText
    getBearerToken (some (bearerPrefix ++ PlainJose.sign claims secret algorithm)) =
      .ok (PlainJose.sign claims secret algorithm) := by
  let _ := asciiText
  obtain ⟨middle, signed⟩ : ∃ middle, PlainJose.sign claims secret algorithm =
      codePoint 'e' :: (middle ++ [codePoint '.']) := by
    obtain ⟨last, framed⟩ : ∃ last, PlainJose.frame (PlainJose.writeInt claims.exp) =
        last ++ [codePoint '.'] := ⟨_, rfl⟩
    exact ⟨_, by rw [PlainJose.sign, framed]; simp only [← List.append_assoc]; rfl⟩
  have stripped : strip (PlainJose.sign claims secret algorithm) =
      PlainJose.sign claims secret algorithm := by
    rw [signed]
    exact strip_eq_self (by decide) (by decide)
  have scheme : bearerPrefix.isPrefixOf (Rag.UnicodeText.lower
      (bearerPrefix ++ PlainJose.sign claims secret algorithm)) = true := by
    have lowered : Rag.UnicodeText.lower bearerPrefix = bearerPrefix := by decide
    refine List.isPrefixOf_iff_prefix.mpr ⟨Rag.UnicodeText.lower
      (PlainJose.sign claims secret algorithm), ?_⟩
    exact (congrArg (· ++ _) lowered).symm.trans List.map_append.symm
  rw [getBearerToken]
  dsimp only [Option.getD_some]
  have visible : PlainJose.sign claims secret algorithm ≠ [] := List.cons_ne_nil _ _
  rw [if_pos scheme, List.drop_left, stripped, if_neg visible]

theorem nulFree_alphabet : NulFree (utf8 (lit alphabet)) := by
  rw [utf8_lit]
  decide +kernel

/-- The alphabet is hashed. -/
theorem hashPassword_alphabet :
    hashPassword recorded (lit alphabet) alphabetSalt.toByteArray = .ok (lit alphabetHash) := by
  have acceptable : Acceptable (lit alphabet) := by
    refine ⟨by decide +kernel, encodable_lit alphabet, ?_⟩
    rw [utf8_lit]
    decide +kernel
  rw [hashPassword, validatedBytes_eq_ok_iff.mpr ⟨acceptable, utf8_lit alphabet⟩]
  change (recorded.hashpw alphabet.toByteArray alphabetSalt.toByteArray >>= decodeUtf8) = _
  have hash : recorded.hashpw alphabet.toByteArray alphabetSalt.toByteArray =
      .ok alphabetHash.toByteArray := by
    rw [recorded]
    dsimp only
    rw [if_pos ⟨rfl, rfl⟩]
  rw [hash]
  exact decodeUtf8_toByteArray alphabetHash

variable [UnicodeDb]

/-- The first start-up creates the administrator. -/
theorem startup_founds [Rag.UnicodeText] :
    (serve seeded .empty (.startup alphabetSalt.toByteArray (.taken 1 0 (.ok ())))).2 =
      founded := by
  have configured : ¬ (Bootstrap.adminUsername seeded.settings = [] ∨
      seeded.settings.bootstrapAdminPassword = []) := by decide +kernel
  have named : Bootstrap.adminUsername seeded.settings = lit "admin" := by decide +kernel
  change Bootstrap.ensureBootstrapAdmin recorded seeded.settings _ _ _ = _
  rw [Bootstrap.ensureBootstrapAdmin, if_neg configured, named, UserAdminService.createUser]
  rw [show seeded.settings.bootstrapAdminPassword = lit alphabet from rfl, hashPassword_alphabet]
  dsimp only
  rw [UserRepository.create, dif_pos ⟨List.not_mem_nil, List.not_mem_nil, List.not_mem_nil⟩]
  rfl

/-- The administrator creates an account. -/
theorem exists_created_carol [Rag.UnicodeText] (carried : getBearerToken adminHeader =
      .ok (issueToken plainJose seeded.settings.toTokenSettings "admin" .admin 0))
    (accounts : Accounts) (rows : accounts.rows = [founder]) :
    ∃ read, (serve seeded accounts (.createUser adminHeader (some carol) 5
      alphabetSalt.toByteArray (.taken 2 0 (.ok ())))).1 = .created read := by
  have guarded : requireAdmin seeded.jose seeded.settings.toTokenSettings adminHeader 5 =
      .ok (issuedClaims seeded.settings.toTokenSettings "admin" .admin 0) :=
    requireAdmin_eq_ok_iff.mpr ⟨getCurrentClaims_eq_ok_iff.mpr ⟨_, carried,
      decodeToken_issueToken (plainJose_documented _ _) _ _ (by decide)⟩, rfl⟩
  have free (hash : Str) :
      accounts.Free ⟨⟨carol.username, hash, carol.role, true⟩, carol.email⟩ 2 := by
    rw [Accounts.free_iff, rows]
    exact ⟨show carol.username ∉ [founder.username] by decide,
      show carol.email ∉ [founder.email] by decide, show (2 : Int) ∉ [founder.id] by decide⟩
  rw [serve]
  unfold createUser
  rw [guarded]
  dsimp only
  rw [UserAdminService.createUser]
  rw [show seeded.bcrypt = recorded from rfl, show carol.password = lit alphabet from rfl,
    hashPassword_alphabet]
  dsimp only
  rw [UserRepository.create]
  rw [dif_pos (free _)]
  exact ⟨_, rfl⟩

end Seeded

/-- Another login in `carol`'s name. -/
def guess : LoginRequest where
  username := "carol"
  password := lit alphabetHash
  username_length := by decide
  password_length := by decide +kernel

/-- The accounts are listed, `carol` logs in, others try, and the token is shown in time and too
late. -/
theorem life_of_created_carol : letI : UnicodeDb := ⟨fun _ => true⟩; letI := asciiText
    let create := Request.createUser adminHeader (some carol) 5 alphabetSalt.toByteArray
      (.taken 2 0 (.ok ()))
    let table := run seeded (serve seeded founded create).2
      [.listUsers adminHeader 6 (.ok ()), create]
    let token := issueToken plainJose seeded.settings.toTokenSettings "carol" .analyst 7
    let later := run seeded table
      [.login (some guess) none ⟨lit "c-2", by decide⟩ 8 (.ok ()), .verify adminHeader 9]
    (serve seeded table (.login (some guess) none ⟨lit "c-1", by decide⟩ 7 (.ok ()))).1 =
        .raised (.sentinel refusal) ∧
      (serve seeded table (.login (some (loginTo "carol" (by decide))) none
        ⟨lit "c-1", by decide⟩ 7 (.ok ()))).1 = .granted ⟨token, .analyst, 3600⟩ ∧
      (serve seeded later (.verify (some (bearerPrefix ++ token)) 3607)).1 =
        .verified ⟨"carol", .analyst, 7, 3607⟩ ∧
      (serve seeded later (.verify (some (bearerPrefix ++ token)) 3608)).1 =
        .raised tokenExpired := by
  have nulFree : NulFree (utf8 guess.password) := by
    change NulFree (utf8 (lit alphabetHash))
    rw [utf8_lit]
    decide +kernel
  let _ : UnicodeDb := ⟨fun _ => true⟩
  let _ := asciiText
  intro create table token later
  obtain ⟨read, created⟩ := exists_created_carol (getBearerToken_sign _ _ _) founded rfl
  have refuses := life_of_created seeded (plainJose_documented _ _) (recorded_documented.on _)
    founded adminHeader carol nulFree_alphabet 5 alphabetSalt.toByteArray (.taken 2 0 (.ok ())) read
    created [.listUsers adminHeader 6 (.ok ()), create] guess nulFree rfl none
    ⟨lit "c-1", by decide⟩ 7
  have grants := life_of_created seeded (plainJose_documented _ _) (recorded_documented.on _)
    founded adminHeader carol nulFree_alphabet 5 alphabetSalt.toByteArray (.taken 2 0 (.ok ())) read
    created [.listUsers adminHeader 6 (.ok ()), create] (loginTo "carol" (by decide))
    nulFree_alphabet rfl none ⟨lit "c-1", by decide⟩ 7
  refine ⟨refuses.1 (by decide +kernel), grants.2.1 rfl, ?_, ?_⟩
  · exact (grants.2.2 _ _ 3607 (getBearerToken_sign _ _ _)).trans (if_pos (by decide))
  · exact (grants.2.2 _ _ 3608 (getBearerToken_sign _ _ _)).trans (if_neg (by decide))

/-- The administrator logs in and creates an account. -/
theorem governed_of_reaches_carol : letI : UnicodeDb := ⟨fun _ => true⟩; letI := asciiText
    ∃ history accounts, Governed seeded history accounts ∧
      ∃ account ∈ accounts.rows, account.username = lit "carol" := by
  let _ : UnicodeDb := ⟨fun _ => true⟩
  let _ := asciiText
  have silent {history : History} {request : Request} (none : request.credential = none) :
      Unforged seeded history request := by
    rintro token claims ⟨authorization, now, some, -⟩
    rw [none] at some
    cases some
  have started : Reaches seeded _ _ := Reaches.fresh.step
    (.startup alphabetSalt.toByteArray (.taken 1 0 (.ok ()))) (silent rfl)
  rw [startup_founds] at started
  have entered : Reaches seeded _ founded := started.step
    (.login (some (loginTo "admin" (by decide))) none ⟨lit "c-1", by decide⟩ 0 (.ok ()))
    (silent rfl)
  have held : founder ∈ founded.rows := List.mem_singleton.mpr rfl
  have documented : seeded.bcrypt.DocumentedOn NulFree := recorded_documented.on NulFree
  have hashed : hashPassword seeded.bcrypt (lit alphabet) alphabetSalt.toByteArray =
      .ok founder.passwordHash := hashPassword_alphabet
  have candidate : NulFree (utf8 (loginTo "admin" (by decide)).password) := nulFree_alphabet
  have granted : (serve seeded founded (.login (some (loginTo "admin" (by decide))) none
      ⟨lit "c-1", by decide⟩ 0 (.ok ()))).1 = .granted ⟨issueToken plainJose
        seeded.settings.toTokenSettings "admin" .admin 0, .admin, 3600⟩ :=
    (login_eq documented held rfl nulFree_alphabet hashed candidate rfl none
      ⟨lit "c-1", by decide⟩ 0).trans (if_pos rfl)
  have created := entered.step (.createUser adminHeader (some carol) 5 alphabetSalt.toByteArray
    (.taken 2 0 (.ok ()))) (by
      rintro token claims ⟨authorization, now, same, carried, -⟩
      cases same
      have signed := (getBearerToken_sign _ _ _).symm.trans carried
      exact ⟨_, List.mem_append_right _ (List.mem_singleton.mpr rfl), _, granted,
        Except.ok.inj signed⟩)
  have carried : getBearerToken adminHeader =
      .ok (issueToken plainJose seeded.settings.toTokenSettings "admin" .admin 0) :=
    getBearerToken_sign _ _ _
  obtain ⟨read, returned⟩ := exists_created_carol carried founded rfl
  obtain ⟨account, rows, -, registers⟩ := exists_of_created returned
  refine ⟨_, _, governed_of_reaches (plainJose_documented _ _) created, account, ?_,
    registers.username⟩
  rw [rows]
  exact List.mem_append_right _ (List.mem_singleton.mpr rfl)

/-- A service without a configured administrator. -/
def unseeded : AuthServer where
  jose := plainJose
  bcrypt := recorded
  settings := { jwtSecret := "shared secret", jwtAlgorithm := "HS256", jwtExpiryMinutes := 60 }

theorem closed_of_unconfigured_login : letI : UnicodeDb := ⟨fun _ => true⟩; letI := asciiText
    ¬ (serve unseeded .empty (.login (some (loginTo "admin" (by decide))) none
      ⟨lit "c-1", by decide⟩ 0 (.ok ()))).1.Admits := by
  let _ : UnicodeDb := ⟨fun _ => true⟩
  let _ := asciiText
  have entered : Reaches unseeded _ _ := Reaches.fresh.step
    (.login (some (loginTo "admin" (by decide))) none ⟨lit "c-1", by decide⟩ 0 (.ok ())) (by
      rintro token claims ⟨authorization, now, same, -⟩
      cases same)
  have unconfigured : ¬ Bootstrap.Configured unseeded.settings :=
    fun configured => configured.1 (by decide)
  exact (closed_of_unconfigured (plainJose_documented _ _) unconfigured entered).2 _
    (List.mem_singleton.mpr rfl)

end SentinelIR.Services.AuthRouter
