/-
# Passwords

Hashing refuses what bcrypt cannot take whole; checking leaves that to bcrypt and takes
every `ValueError` for a refusal. The two limits agree: a text checks against a hash exactly
when it is the text that was hashed, whatever its length and whatever it is written in.
-/

import SentinelIR.Py.Utf8
import SentinelIR.Services.Login

namespace SentinelIR.Services

open SentinelIR.Py SentinelIR.Common

/-! ## The library -/

/-- `bcrypt.hashpw` and `bcrypt.checkpw`. -/
structure Bcrypt where
  hashpw : ByteArray → ByteArray → Except Exc ByteArray
  checkpw : ByteArray → ByteArray → Except Exc Bool

/-- What is documented of the two: up to 72 bytes a password matches its own hash and no
other password does; a longer one, or a malformed hash, raises `ValueError`. -/
structure Bcrypt.Documented (bcrypt : Bcrypt) : Prop where
  nonempty : ∀ {password salt hash}, bcrypt.hashpw password salt = .ok hash →
    hash ≠ ByteArray.empty
  matching : ∀ {password salt hash}, password.size ≤ 72 →
    bcrypt.hashpw password salt = .ok hash → ∀ {candidate : ByteArray}, candidate.size ≤ 72 →
      bcrypt.checkpw candidate hash = .ok (decide (candidate = password))
  overlong : ∀ {candidate hash}, 72 < candidate.size →
    bcrypt.checkpw candidate hash = .error .valueError
  raises : ∀ {candidate hash raised}, bcrypt.checkpw candidate hash = .error raised →
    raised = .valueError

/-- The same with the match for some keys only. -/
structure Bcrypt.DocumentedOn (bcrypt : Bcrypt) (keys : ByteArray → Prop) : Prop where
  nonempty : ∀ {password salt hash}, bcrypt.hashpw password salt = .ok hash →
    hash ≠ ByteArray.empty
  matching : ∀ {password salt hash}, keys password → password.size ≤ 72 →
    bcrypt.hashpw password salt = .ok hash → ∀ {candidate : ByteArray}, keys candidate →
      candidate.size ≤ 72 → bcrypt.checkpw candidate hash = .ok (decide (candidate = password))
  overlong : ∀ {candidate hash}, 72 < candidate.size →
    bcrypt.checkpw candidate hash = .error .valueError
  raises : ∀ {candidate hash raised}, bcrypt.checkpw candidate hash = .error raised →
    raised = .valueError

theorem Bcrypt.Documented.on {bcrypt : Bcrypt} (documented : bcrypt.Documented)
    (keys : ByteArray → Prop) : bcrypt.DocumentedOn keys where
  nonempty := documented.nonempty
  matching := fun _ short hashes _ _ fits => documented.matching short hashes fits
  overlong := documented.overlong
  raises := documented.raises

/-- No byte is NUL, which ends a password to bcrypt before it is repeated. -/
def NulFree (key : ByteArray) : Prop := ∀ byte ∈ key.data, byte ≠ 0

instance (key : ByteArray) : Decidable (NulFree key) :=
  inferInstanceAs (Decidable (∀ byte ∈ key.data, byte ≠ 0))

namespace PasswordService

/-- `MAX_PASSWORD_BYTES`. -/
def maxPasswordBytes : Nat := 72

/-- `MIN_PASSWORD_LENGTH`. -/
def minPasswordLength : Nat := 8

/-! ## The service -/

/-- The error of `_validated_bytes` on a short password. -/
def tooShort : SentinelError where
  kind := .validation
  message := "Password must be at least 8 characters."
  details := [(lit "field", .text "password"), (lit "rule", .text "min_length=8")]

/-- The error of `_validated_bytes` on a long password. -/
def tooLong : SentinelError where
  kind := .validation
  message := "Password must be at most 72 bytes; bcrypt ignores anything beyond that."
  details := [(lit "field", .text "password"), (lit "rule", .text "max_bytes=72")]

/-- `_validated_bytes`. -/
def validatedBytes (plain : Str) : Except Exc ByteArray :=
  if plain.length < minPasswordLength then .error (.sentinel tooShort)
  else do
    let encoded ← encodeUtf8 plain
    if maxPasswordBytes < encoded.size then .error (.sentinel tooLong) else .ok encoded

/-- `hash_password`, under the salt that was generated. -/
def hashPassword (bcrypt : Bcrypt) (plain : Str) (salt : ByteArray) : Except Exc Str := do
  let encoded ← validatedBytes plain
  let hash ← bcrypt.hashpw encoded salt
  decodeUtf8 hash

/-- The call inside the `try` of `verify_password`. -/
def checked (bcrypt : Bcrypt) (plain hashed : Str) : Except Exc Bool := do
  let candidate ← encodeUtf8 plain
  let hash ← encodeUtf8 hashed
  bcrypt.checkpw candidate hash

/-- `verify_password`. A `UnicodeEncodeError` is a `ValueError` too. -/
def verifyPassword (bcrypt : Bcrypt) (plain hashed : Str) : Except Exc Bool :=
  if plain = [] ∨ hashed = [] then .ok false
  else
    match checked bcrypt plain hashed with
    | .ok matched => .ok matched
    | .error raised =>
        if raised = .valueError ∨ raised = .unicodeEncodeError then .ok false else .error raised

/-- A password checks against a hash exactly when it is the one that was hashed, which an
overlong one never is, and the check returns on any stored text. -/
structure Authenticates (bcrypt : Bcrypt) : Prop where
  matching : ∀ {password : Str} {salt : ByteArray} {hashed : Str},
    hashPassword bcrypt password salt = .ok hashed → ∀ plain,
      verifyPassword bcrypt plain hashed = .ok (decide (plain = password))
  overlong : ∀ {password : Str} {salt : ByteArray} {hashed : Str},
    hashPassword bcrypt password salt = .ok hashed → ∀ {plain encoded},
      encodeUtf8 plain = .ok encoded → maxPasswordBytes < encoded.size →
        verifyPassword bcrypt plain hashed = .ok false
  returns : ∀ plain hashed, ∃ matched, verifyPassword bcrypt plain hashed = .ok matched

/-! ## Hashing -/

/-- The passwords that can be hashed. -/
structure Acceptable (plain : Str) : Prop where
  length : minPasswordLength ≤ plain.length
  encodable : Encodable plain
  size : (utf8 plain).size ≤ maxPasswordBytes

theorem validatedBytes_eq_ok_iff {plain : Str} {encoded : ByteArray} :
    validatedBytes plain = .ok encoded ↔ Acceptable plain ∧ utf8 plain = encoded := by
  rw [validatedBytes]
  by_cases short : plain.length < minPasswordLength
  · rw [if_pos short]
    apply iff_of_false (by rintro ⟨⟩)
    rintro ⟨acceptable, -⟩
    exact absurd acceptable.length (not_le.mpr short)
  rw [if_neg short, encodeUtf8]
  by_cases encodable : Encodable plain
  case neg =>
    rw [if_neg encodable]
    apply iff_of_false (by rintro ⟨⟩)
    rintro ⟨acceptable, -⟩
    exact encodable acceptable.encodable
  rw [if_pos encodable]
  change (if maxPasswordBytes < (utf8 plain).size then _ else _) = _ ↔ _
  by_cases long : maxPasswordBytes < (utf8 plain).size
  · rw [if_pos long]
    apply iff_of_false (by rintro ⟨⟩)
    rintro ⟨acceptable, -⟩
    exact absurd acceptable.size (not_le.mpr long)
  · rw [if_neg long, Except.ok.injEq]
    exact (and_iff_right ⟨not_lt.mp short, encodable, not_lt.mp long⟩).symm

/-- A hashed password is acceptable, and its text is that of the hash. -/
theorem hash_of_hashed {bcrypt : Bcrypt} {plain hashed : Str} {salt : ByteArray}
    (accepted : hashPassword bcrypt plain salt = .ok hashed) :
    Acceptable plain ∧ ∃ hash, bcrypt.hashpw (utf8 plain) salt = .ok hash ∧
      encodeUtf8 hashed = .ok hash := by
  rw [hashPassword] at accepted
  cases validated : validatedBytes plain with
  | error raised =>
      rw [validated] at accepted
      cases accepted
  | ok encoded =>
      rw [validated] at accepted
      obtain ⟨acceptable, rfl⟩ := validatedBytes_eq_ok_iff.mp validated
      change (bcrypt.hashpw (utf8 plain) salt >>= decodeUtf8) = _ at accepted
      cases hash : bcrypt.hashpw (utf8 plain) salt with
      | error raised =>
          rw [hash] at accepted
          cases accepted
      | ok bytes =>
          rw [hash] at accepted
          exact ⟨acceptable, bytes, rfl, encodeUtf8_of_decoded accepted⟩

/-! ## Checking -/

section Checking

variable {bcrypt : Bcrypt} {keys : ByteArray → Prop}

theorem checked_of_encodable {plain hashed : Str} {hash : ByteArray} (encodable : Encodable plain)
    (encoded : encodeUtf8 hashed = .ok hash) :
    checked bcrypt plain hashed = bcrypt.checkpw (utf8 plain) hash := by
  rw [checked, encodeUtf8, if_pos encodable, encoded]
  rfl

theorem checked_of_surrogate {plain : Str} (surrogate : ¬ Encodable plain) (hashed : Str) :
    checked bcrypt plain hashed = .error .unicodeEncodeError := by
  rw [checked, encodeUtf8, if_neg surrogate]
  rfl

/-- Whatever the check raises is a `ValueError`. -/
theorem raised_of_checked (documented : bcrypt.DocumentedOn keys) {plain hashed : Str}
    {raised : Exc}
    (raises : checked bcrypt plain hashed = .error raised) :
    raised = .valueError ∨ raised = .unicodeEncodeError := by
  by_cases encodable : Encodable plain
  case neg =>
    rw [checked_of_surrogate encodable] at raises
    exact .inr (Except.error.inj raises).symm
  by_cases encodes : Encodable hashed
  · rw [checked_of_encodable encodable (if_pos encodes)] at raises
    exact .inl (documented.raises raises)
  · rw [checked, encodeUtf8, if_pos encodable, encodeUtf8, if_neg encodes] at raises
    exact .inr (Except.error.inj raises).symm

/-- A `ValueError` is a refusal. -/
theorem verifyPassword_eq (documented : bcrypt.DocumentedOn keys) {plain hashed : Str}
    (given : plain ≠ []) (stored : hashed ≠ []) :
    verifyPassword bcrypt plain hashed =
      .ok ((checked bcrypt plain hashed).toOption.getD false) := by
  rw [verifyPassword, if_neg (not_or.mpr ⟨given, stored⟩)]
  cases outcome : checked bcrypt plain hashed with
  | ok matched => rfl
  | error raised =>
      dsimp only
      rw [if_pos (raised_of_checked documented outcome)]
      rfl

theorem returns_of_documented (documented : bcrypt.DocumentedOn keys) (plain hashed : Str) :
    ∃ matched, verifyPassword bcrypt plain hashed = .ok matched := by
  by_cases empty : plain = [] ∨ hashed = []
  · exact ⟨false, if_pos empty⟩
  · obtain ⟨given, stored⟩ := not_or.mp empty
    exact ⟨_, verifyPassword_eq documented given stored⟩

theorem matching_of_documented (documented : bcrypt.DocumentedOn keys) {password hashed : Str}
    {salt : ByteArray} (accepted : hashPassword bcrypt password salt = .ok hashed)
    (key : keys (utf8 password)) {plain : Str} (candidate : keys (utf8 plain)) :
    verifyPassword bcrypt plain hashed = .ok (decide (plain = password)) := by
  obtain ⟨acceptable, hash, hashes, encoded⟩ := hash_of_hashed accepted
  have long : password ≠ [] := by
    rintro rfl
    exact absurd acceptable.length (by decide)
  have stored : hashed ≠ [] := by
    rintro rfl
    exact documented.nonempty hashes (Except.ok.inj encoded).symm
  by_cases given : plain = []
  · subst given
    rw [verifyPassword, if_pos (.inl rfl), decide_eq_false long.symm]
  rw [verifyPassword_eq documented given stored]
  congr 1
  by_cases encodable : Encodable plain
  case neg =>
    have differ : plain ≠ password := fun same => encodable (same ▸ acceptable.encodable)
    rw [checked_of_surrogate encodable, decide_eq_false differ]
    rfl
  rw [checked_of_encodable encodable encoded]
  by_cases fits : (utf8 plain).size ≤ maxPasswordBytes
  · rw [documented.matching key acceptable.size hashes candidate fits]
    exact decide_eq_decide.mpr (utf8_inj encodable acceptable.encodable)
  · have differ : plain ≠ password := fun same => fits (same ▸ acceptable.size)
    rw [documented.overlong (not_le.mp fits), decide_eq_false differ]
    rfl

end Checking

/-- What is documented of bcrypt makes the service authenticate. -/
theorem authenticates_of_documented (bcrypt : Bcrypt) (documented : bcrypt.Documented) :
    Authenticates bcrypt where
  matching accepted _ :=
    matching_of_documented (documented.on fun _ => True) accepted trivial trivial
  returns := returns_of_documented (documented.on fun _ => True)
  overlong := by
    intro password salt hashed accepted plain encoded encodes long
    have fits := (hash_of_hashed accepted).1.size
    have differ : plain ≠ password := by
      rintro rfl
      rw [encodeUtf8] at encodes
      split at encodes
      · rw [← Except.ok.inj encodes] at long
        exact absurd fits (not_le.mpr long)
      · cases encodes
    rw [matching_of_documented (documented.on fun _ => True) accepted trivial trivial,
      decide_eq_false differ]

/-! ## One hash -/

/-- A password, a salt and the hash of the two. -/
def alphabet : String := "abcdefghijklmnopqrstuvwxyz"

def alphabetSalt : String := "$2b$12$D4G5f18o7aMMfwasBL7Gpu"

def alphabetHash : String := "$2b$12$D4G5f18o7aMMfwasBL7GpuQWuP3pkrZrOAnqP.bmezbMng.QwJ/pG"

/-- The library as far as this hash goes. -/
def recorded : Bcrypt where
  hashpw password salt :=
    if password = alphabet.toByteArray ∧ salt = alphabetSalt.toByteArray then
      .ok alphabetHash.toByteArray
    else .error .valueError
  checkpw candidate hash :=
    if 72 < candidate.size then .error .valueError
    else if hash = alphabetHash.toByteArray then .ok (decide (candidate = alphabet.toByteArray))
    else .error .valueError

theorem recorded_hashes {password salt hash : ByteArray}
    (hashes : recorded.hashpw password salt = .ok hash) :
    password = alphabet.toByteArray ∧ hash = alphabetHash.toByteArray := by
  rw [recorded] at hashes
  dsimp only at hashes
  split at hashes
  · next same => exact ⟨same.1, (Except.ok.inj hashes).symm⟩
  · cases hashes

theorem recorded_documented : recorded.Documented where
  nonempty := by
    intro password salt hash hashes
    obtain ⟨-, rfl⟩ := recorded_hashes hashes
    decide +kernel
  matching := by
    intro password salt hash _ hashes candidate fits
    obtain ⟨rfl, rfl⟩ := recorded_hashes hashes
    rw [recorded]
    dsimp only
    rw [if_neg (not_lt.mpr fits), if_pos rfl]
  overlong := fun long => if_pos long
  raises := by
    intro candidate hash raised raises
    rw [recorded] at raises
    dsimp only at raises
    split at raises
    · exact (Except.error.inj raises).symm
    · split at raises
      · cases raises
      · exact (Except.error.inj raises).symm

/-- The alphabet is hashed, and it alone checks against its hash. -/
theorem recorded_authenticates :
    hashPassword recorded (lit alphabet) alphabetSalt.toByteArray = .ok (lit alphabetHash) ∧
      Authenticates recorded := by
  refine ⟨?_, authenticates_of_documented recorded recorded_documented⟩
  have acceptable : Acceptable (lit alphabet) := by
    refine ⟨by decide +kernel, encodable_lit alphabet, ?_⟩
    rw [utf8_lit]
    decide +kernel
  rw [hashPassword, validatedBytes_eq_ok_iff.mpr ⟨acceptable, utf8_lit alphabet⟩]
  change (recorded.hashpw alphabet.toByteArray alphabetSalt.toByteArray >>= decodeUtf8) = _
  rw [recorded]
  dsimp only
  rw [if_pos ⟨rfl, rfl⟩]
  exact decodeUtf8_toByteArray alphabetHash

/-! ## The check a login makes -/

/-- `checkpw` on encoded texts. -/
def checkpwOf (bcrypt : Bcrypt) : Checkpw := fun plain hashed =>
  (bcrypt.checkpw (utf8 plain) (utf8 hashed)).toOption

/-- The check of a login is the check of this service. -/
theorem verifyPassword_refines {bcrypt : Bcrypt} {keys : ByteArray → Prop}
    (documented : bcrypt.DocumentedOn keys) (plain hashed : Str) :
    verifyPassword bcrypt plain hashed =
      .ok (Services.verifyPassword (checkpwOf bcrypt) plain hashed) := by
  rw [Services.verifyPassword]
  by_cases empty : plain = [] ∨ hashed = []
  · rw [verifyPassword, if_pos empty, if_pos empty]
  obtain ⟨given, stored⟩ := not_or.mp empty
  rw [verifyPassword_eq documented given stored, if_neg empty]
  congr 1
  by_cases encodable : Encodable plain
  case neg =>
    rw [checked_of_surrogate encodable, if_neg fun both => encodable both.1]
    rfl
  by_cases encodes : Encodable hashed
  · rw [checked_of_encodable encodable (if_pos encodes), if_pos ⟨encodable, encodes⟩]
    rfl
  · rw [checked, encodeUtf8, if_pos encodable, encodeUtf8, if_neg encodes,
      if_neg fun both => encodes both.2]
    rfl

end PasswordService

end SentinelIR.Services
