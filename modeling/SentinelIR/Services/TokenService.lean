/-
# Tokens

auth-service signs the name and the role of an account under its settings, and takes a token
back while it is signed under them, names the issuer and has not expired. Behind it stand the
bearer header, which carries the token, and the guard that lets only one role through.
-/

import SentinelIR.Rag.Intent
import SentinelIR.Services.AuthService

namespace SentinelIR.Services

open SentinelIR.Py SentinelIR.Common

/-- `Role.value`. -/
def Role.value : Role → Str
  | admin => "admin"
  | analyst => "analyst"

/-- `Role(value)`. -/
def Role.ofValue (value : Str) : Option Role :=
  if value = Role.admin.value then some .admin
  else if value = Role.analyst.value then some .analyst
  else none

@[simp] theorem Role.ofValue_value (role : Role) : Role.ofValue role.value = some role := by
  cases role <;> decide

theorem Role.value_injective {first second : Role} (same : first.value = second.value) :
    first = second := by
  rw [← Option.some.injEq, ← Role.ofValue_value, ← Role.ofValue_value, same]

/-- `TokenClaims`. -/
structure TokenClaims where
  sub : Str
  role : Str
  iss : Str
  iat : Int
  exp : Int
  deriving DecidableEq

/-! ## The library -/

/-- What `jwt.decode` raises. -/
inductive JoseError
  | expiredSignature
  /-- Any other `JWTError`. -/
  | jwt
  /-- An exception of another class. -/
  | escaped (raised : Exc)

/-- `jwt.encode` of claims under a secret and an algorithm, `jwt.decode` of a token under a
secret, an algorithm and an issuer at an instant, and `TokenClaims(**payload)`. -/
structure Jose where
  Payload : Type
  encode : TokenClaims → Str → Str → Str
  decode : Str → Str → Str → Str → Int → Except JoseError Payload
  claims : Payload → Option TokenClaims

/-- What is documented of the library under a secret and an algorithm: what was signed is read
back until it expires. -/
structure Jose.Documented (jose : Jose) (secret algorithm : Str) : Prop where
  nonempty : ∀ claims, jose.encode claims secret algorithm ≠ []
  decoded : ∀ claims now, now ≤ claims.exp →
    ∃ payload, jose.decode (jose.encode claims secret algorithm) secret algorithm claims.iss now =
      .ok payload ∧ jose.claims payload = some claims
  expired : ∀ claims now, claims.exp < now →
    jose.decode (jose.encode claims secret algorithm) secret algorithm claims.iss now =
      .error .expiredSignature

/-! ## The service -/

/-- What the tokens of a service are signed under, and how long they last. -/
structure TokenSettings where
  jwtSecret : Str
  jwtAlgorithm : Str
  jwtExpiryMinutes : Nat

/-- The library does what is documented under the settings of a service. -/
abbrev Jose.DocumentedUnder (jose : Jose) (settings : TokenSettings) : Prop :=
  jose.Documented settings.jwtSecret settings.jwtAlgorithm

namespace TokenService

/-- `TOKEN_ISSUER`. -/
def tokenIssuer : Str := "sentinel-ir-auth"

/-- The claims `issue_token` signs, at an instant in seconds. Whole minutes leave the fraction
of a second alone. -/
def issuedClaims (settings : TokenSettings) (username : Str) (role : Role) (now : Int) :
    TokenClaims where
  sub := username
  role := role.value
  iss := tokenIssuer
  iat := now
  exp := now + settings.jwtExpiryMinutes * 60

/-- `issue_token`. -/
def issueToken (jose : Jose) (settings : TokenSettings) (username : Str) (role : Role)
    (now : Int) : Str :=
  jose.encode (issuedClaims settings username role now) settings.jwtSecret settings.jwtAlgorithm

/-- An `AuthenticationError` of this service. -/
def refused (message reason : Str) : Exc :=
  .sentinel ⟨.authentication, message, [(lit "reason", .text reason)]⟩

/-- The refusal of an expired token. -/
def tokenExpired : Exc := refused "The token has expired; log in again." "expired"

/-- `decode_token`. -/
def decodeToken (jose : Jose) (settings : TokenSettings) (token : Str) (now : Int) :
    Except Exc TokenClaims :=
  if token = [] then .error (refused "No token was supplied." "missing_token")
  else
    match jose.decode token settings.jwtSecret settings.jwtAlgorithm tokenIssuer now with
    | .error .expiredSignature => .error tokenExpired
    | .error .jwt => .error (refused "The token is not valid." "invalid_token")
    | .error (.escaped raised) => .error raised
    | .ok payload =>
        match jose.claims payload with
        | some claims => .ok claims
        | none => .error (refused "The token is missing required claims." "invalid_claims")

section Issued

variable {jose : Jose} {settings : TokenSettings} (documented : jose.DocumentedUnder settings)
  (username : Str) (role : Role) {issued now : Int}

include documented

/-- An issued token is read back until it expires. -/
theorem decodeToken_issueToken (fresh : now ≤ issued + settings.jwtExpiryMinutes * 60) :
    decodeToken jose settings (issueToken jose settings username role issued) now =
      .ok (issuedClaims settings username role issued) := by
  obtain ⟨payload, decoded, read⟩ :=
    documented.decoded (issuedClaims settings username role issued) now fresh
  rw [show (issuedClaims settings username role issued).iss = tokenIssuer from rfl] at decoded
  rw [decodeToken, issueToken, if_neg (documented.nonempty _), decoded]
  dsimp only
  rw [read]

/-- From then on it is refused. -/
theorem decodeToken_expired (late : issued + settings.jwtExpiryMinutes * 60 < now) :
    decodeToken jose settings (issueToken jose settings username role issued) now =
      .error tokenExpired := by
  have expired := documented.expired (issuedClaims settings username role issued) now late
  rw [decodeToken, issueToken, if_neg (documented.nonempty _)]
  rw [show (issuedClaims settings username role issued).iss = tokenIssuer from rfl] at expired
  rw [expired]

/-- So what is read from an issued token is what was signed. -/
theorem eq_of_decoded {claims : TokenClaims}
    (decoded : decodeToken jose settings (issueToken jose settings username role issued) now =
      .ok claims) : claims = issuedClaims settings username role issued := by
  rcases le_or_gt now (issued + settings.jwtExpiryMinutes * 60) with fresh | late
  · rw [decodeToken_issueToken documented username role fresh] at decoded
    exact (Except.ok.inj decoded).symm
  · rw [decodeToken_expired documented username role late] at decoded
    cases decoded

end Issued

end TokenService

/-! ## One library -/

namespace PlainJose

/-- A text followed by others: a mark before every character, and one at the end. -/
def frame (text : Str) : Str := text.flatMap (fun c => [codePoint '+', c]) ++ [codePoint '.']

/-- The framed text at the front, and what follows it. -/
def unframe : Str → Str × Str
  | mark :: c :: rest =>
      if mark = codePoint '+' then (c :: (unframe rest).1, (unframe rest).2) else ([], c :: rest)
  | _ => ([], [])

theorem unframe_frame (text rest : Str) : unframe (frame text ++ rest) = (text, rest) := by
  induction text with
  | nil =>
      cases rest with
      | nil => rfl
      | cons c rest => exact if_neg (by decide)
  | cons c text ih =>
      have step : unframe (frame (c :: text) ++ rest) =
          (c :: (unframe (frame text ++ rest)).1, (unframe (frame text ++ rest)).2) := if_pos rfl
      rw [step, ih]

/-- An instant as a text. -/
def writeInt (value : Int) : Str :=
  (if value < 0 then codePoint '-' else codePoint '+') ::
    List.replicate value.natAbs (codePoint '1')

/-- The instant a text was written of. -/
def readInt : Str → Int
  | sign :: ones => if sign = codePoint '-' then -(ones.length : Int) else ones.length
  | [] => 0

theorem readInt_writeInt (value : Int) : readInt (writeInt value) = value := by
  rw [writeInt, readInt, List.length_replicate]
  by_cases negative : value < 0
  · rw [if_pos negative, if_pos rfl]
    omega
  · rw [if_neg negative, if_neg (by decide)]
    omega

/-- Claims under a secret and an algorithm. -/
def sign (claims : TokenClaims) (secret algorithm : Str) : Str :=
  codePoint 'e' :: (frame secret ++ (frame algorithm ++ (frame claims.sub ++ (frame claims.role ++
    (frame claims.iss ++ (frame (writeInt claims.iat) ++ frame (writeInt claims.exp)))))))

/-- What a token was made of. -/
def read (token : Str) : Str × Str × TokenClaims :=
  let secret := unframe token.tail
  let algorithm := unframe secret.2
  let sub := unframe algorithm.2
  let role := unframe sub.2
  let iss := unframe role.2
  let iat := unframe iss.2
  let exp := unframe iat.2
  (secret.1, algorithm.1, ⟨sub.1, role.1, iss.1, readInt iat.1, readInt exp.1⟩)

theorem read_sign (claims : TokenClaims) (secret algorithm : Str) :
    read (sign claims secret algorithm) = (secret, algorithm, claims) := by
  have last := unframe_frame (writeInt claims.exp) []
  rw [List.append_nil] at last
  simp only [read, sign, List.tail_cons, unframe_frame, last, readInt_writeInt]

end PlainJose

/-- A library that keeps its secrets badly, and otherwise does what is documented. -/
def plainJose : Jose where
  Payload := TokenClaims
  encode := PlainJose.sign
  decode token secret algorithm issuer now :=
    let held := PlainJose.read token
    if held.1 = secret ∧ held.2.1 = algorithm ∧ held.2.2.iss = issuer then
      if held.2.2.exp < now then .error .expiredSignature else .ok held.2.2
    else .error .jwt
  claims := some

theorem plainJose_documented (secret algorithm : Str) :
    plainJose.Documented secret algorithm where
  nonempty claims := List.cons_ne_nil _ _
  decoded claims now fresh := by
    refine ⟨claims, ?_, rfl⟩
    simp only [plainJose, PlainJose.read_sign, and_self, if_true, if_neg (not_lt.mpr fresh)]
  expired claims now late := by
    simp only [plainJose, PlainJose.read_sign, and_self, if_true, if_pos late]

/-! ## The header and the guard -/

namespace Dependencies

open TokenService

/-- `_BEARER_PREFIX`. -/
def bearerPrefix : Str := "bearer "

/-- `get_bearer_token`, of the `Authorization` header. -/
def getBearerToken [Rag.UnicodeText] (authorization : Option Str) : Except Exc Str :=
  let header := authorization.getD []
  if bearerPrefix.isPrefixOf (Rag.UnicodeText.lower header) then
    let token := strip (header.drop bearerPrefix.length)
    if token = [] then
      .error (refused "The Authorization header carries no token." "missing_bearer_token")
    else .ok token
  else
    .error (refused "An \x60Authorization: Bearer <token>\x60 header is required."
      "missing_bearer_token")

/-- `get_current_claims`. -/
def getCurrentClaims [Rag.UnicodeText] (jose : Jose) (settings : TokenSettings)
    (authorization : Option Str) (now : Int) : Except Exc TokenClaims := do
  let token ← getBearerToken authorization
  decodeToken jose settings token now

/-- The refusal of a caller of another role. -/
def restricted (role : Str) : Exc :=
  .sentinel ⟨.authorisation, lit "This endpoint is restricted to the admin role.",
    [(lit "required_role", .text Role.admin.value), (lit "role", .text role)]⟩

/-- `require_admin`. -/
def requireAdmin [Rag.UnicodeText] (jose : Jose) (settings : TokenSettings)
    (authorization : Option Str) (now : Int) : Except Exc TokenClaims := do
  let claims ← getCurrentClaims jose settings authorization now
  if claims.role ≠ Role.admin.value then .error (restricted claims.role) else .ok claims

section Guard

variable [Rag.UnicodeText] {jose : Jose} {settings : TokenSettings} {authorization : Option Str}
  {now : Int} {claims : TokenClaims}

theorem getCurrentClaims_eq_ok_iff :
    getCurrentClaims jose settings authorization now = .ok claims ↔
      ∃ token, getBearerToken authorization = .ok token ∧
        decodeToken jose settings token now = .ok claims := by
  rw [getCurrentClaims]
  cases getBearerToken authorization with
  | error raised => exact iff_of_false (by rintro ⟨⟩) (by rintro ⟨token, ⟨⟩, -⟩)
  | ok token =>
      exact ⟨fun decoded => ⟨token, rfl, decoded⟩, by rintro ⟨_, ⟨⟩, decoded⟩; exact decoded⟩

/-- Only a caller whose claims carry the admin role passes. -/
theorem requireAdmin_eq_ok_iff :
    requireAdmin jose settings authorization now = .ok claims ↔
      getCurrentClaims jose settings authorization now = .ok claims ∧
        claims.role = Role.admin.value := by
  rw [requireAdmin]
  cases getCurrentClaims jose settings authorization now with
  | error raised => exact iff_of_false (by rintro ⟨⟩) (by rintro ⟨⟨⟩, -⟩)
  | ok found =>
      change (if _ then _ else _) = _ ↔ _
      by_cases admin : found.role = Role.admin.value
      · rw [if_neg (not_not.mpr admin)]
        exact ⟨fun same => ⟨same, Except.ok.inj same ▸ admin⟩, fun both => both.1⟩
      · rw [if_pos admin]
        refine iff_of_false (by rintro ⟨⟩) ?_
        rintro ⟨same, other⟩
        exact admin (Except.ok.inj same ▸ other)

end Guard

end Dependencies

end SentinelIR.Services
