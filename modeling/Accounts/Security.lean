import Accounts.Database
import Mathlib.Data.String.Basic

/-!
# Settings, password hashes, digests and access tokens

The cryptographic primitives are parameters: a `Platform` is SHA-256 of a
text, PBKDF2-HMAC-SHA256 and the signing of a set of claims, next to the
settings the service reads. Nothing is assumed about them here; a result
that needs more – that distinct tokens have distinct digests – says so.

`PasswordHasher.verify` is given with every exception it can end in. Its
docstring promises `False` for a malformed hash, but only the number of
fields is checked before the password is encoded and the fields are parsed.
-/

/-- The settings the services read. -/
structure Settings where
  /-- `iss` of every access token. -/
  jwtIssuer : String
  /-- `aud` of every access token. -/
  jwtAudience : String
  /-- Lifetime of an access token in seconds. -/
  jwtTtlSeconds : ℤ
  /-- `kid` of every access token. -/
  jwtKeyId : Option String
  /-- Lifetime of a refresh token in seconds. -/
  refreshTtlSeconds : ℤ

/-- The claims of an access token. -/
structure Claims where
  /-- Subject: the member. -/
  sub : String
  /-- The member's family. -/
  familyId : String
  /-- The member. -/
  familyMemberId : String
  /-- Issuer. -/
  iss : String
  /-- Audience. -/
  aud : String
  /-- When it was issued. -/
  iat : Datetime
  /-- When it expires. -/
  exp : Datetime
deriving DecidableEq

/-- **The primitives the service is built on**, and its settings. -/
structure Platform where
  /-- `hashlib.sha256(text.encode()).hexdigest()`. -/
  sha256 : String → String
  /-- `hashlib.pbkdf2_hmac("sha256", password.encode(), salt, iterations)`. -/
  pbkdf2 : String → List UInt8 → ℕ → List UInt8
  /-- `jwt.encode`, with the `kid` header. -/
  jwtEncode : Claims → Option String → String
  /-- The settings. -/
  settings : Settings

/-! ## Passwords -/

namespace PasswordHasher

/-- `_ALGO`. -/
def algo : String := "pbkdf2_sha256"

/-- `_ITERATIONS`. -/
def iterations : ℕ := 600000

/-- `hash(password)`, with the salt drawn for it. -/
def hash (P : Platform) (salt : Salt) (password : Password) : String :=
  String.ofList (algo.toList ++ '$' :: Nat.toDigits 10 iterations ++ '$' :: Py.hex salt.bytes
    ++ '$' :: Py.hex (P.pbkdf2 password.text salt.bytes iterations))

/-- The iteration count `pbkdf2_hmac` accepts: a C `long` is read first,
then the lengths of password and salt are checked, which a C `int` has to
hold, then the range. -/
def iterationCount (password : String) (salt : List UInt8) (n : ℤ) : Except Exn ℕ :=
  if n < -2 ^ 63 ∨ 2 ^ 31 ≤ n ∨ 2 ^ 31 ≤ password.utf8ByteSize ∨ 2 ^ 31 ≤ salt.length then
    .error .overflowError
  else if n < 1 then .error .valueError
  else .ok n.toNat

/-- `verify(password, stored)`, of any two texts. -/
def verify (P : Platform) (password : Py.Text) (stored : Option Py.Text) : Except Exn Bool :=
  match stored with
  | none => .ok false
  | some stored =>
    if stored = [] then .ok false
    else
      match stored.splitOn (.inl '$') with
      | [algo', iterations', saltHex, hashHex] =>
        if algo' ≠ Py.Text.ofString algo then .ok false
        else do
          -- the arguments of `pbkdf2_hmac`, from left to right
          let password ← password.encode.elim (.error .valueError) .ok
          let salt ← ((Py.Text.chars saltHex).bind Py.fromhex).elim (.error .valueError) .ok
          let n ← ((Py.Text.chars iterations').bind (Py.int 10)).elim (.error .valueError) .ok
          let count ← iterationCount password salt n
          -- `compare_digest` refuses text outside ASCII
          if hashHex.any (fun c => !c.isAscii) then .error .typeError
          else return Py.Text.ofChars (Py.hex (P.pbkdf2 password salt count)) = hashHex
      | _ => .ok false

/-- **The password can be hashed**: UTF-8 holds it, in bytes that a C `int`
counts. -/
def CanHash (password : Py.Text) : Prop :=
  ∃ text ∈ password.encode, text.utf8ByteSize < 2 ^ 31

instance (password : Py.Text) : Decidable (CanHash password) :=
  inferInstanceAs (Decidable (∃ text ∈ password.encode, _))

end PasswordHasher

/-- A character has at most four bytes. -/
theorem String.utf8Len_le (cs : List Char) : String.utf8Len cs ≤ 4 * cs.length := by
  induction cs with
  | nil => simp
  | cons c cs ih =>
    have hc := c.utf8Size_le_four
    simp only [String.utf8Len_cons, List.length_cons]
    omega

/-- A password that a body may set has few bytes. -/
theorem Password.utf8ByteSize_lt (password : Password) : password.text.utf8ByteSize < 2 ^ 31 := by
  have hlen := String.utf8Len_le password.text.toList
  rw [String.length_toList, ← String.utf8ByteSize_ofList, String.ofList_toList] at hlen
  have hmax := password.max_length
  omega

/-! ## Digests -/

/-- `InviteCodec.hash(code)`, of any text. -/
def InviteCodec.hash (P : Platform) (code : Py.Text) : Except Exn String :=
  code.encode.elim (.error .valueError) (fun code => .ok (P.sha256 code))

/-- `RefreshTokenCodec.hash(token)`. A token comes from a cookie, in which
there are no surrogates. -/
def RefreshTokenCodec.hash (P : Platform) (token : String) : String := P.sha256 token

/-- A code without surrogates has a digest. -/
@[simp] theorem InviteCodec.hash_ofString (P : Platform) (code : String) :
    InviteCodec.hash P (.ofString code) = .ok (P.sha256 code) := by
  rw [hash, Py.Text.encode_ofString]
  rfl

/-- **A code has a digest exactly when there is no surrogate in it.** -/
theorem InviteCodec.hash_error_iff {P : Platform} {code : Py.Text} {e : Exn} :
    InviteCodec.hash P code = .error e ↔ ¬ code.Encodable ∧ e = .valueError := by
  rw [hash, ← Py.Text.encode_eq_none_iff]
  cases code.encode <;> simp [eq_comm]

/-! ## Access tokens -/

/-- `TokenService.issue`: the expiry may overflow. -/
def TokenService.issue (P : Platform) (env : Env) (familyId familyMemberId : String) :
    Except Exn String :=
  match env.now.plusSeconds P.settings.jwtTtlSeconds with
  | none => .error .overflowError
  | some exp => .ok (P.jwtEncode
      ⟨familyMemberId, familyId, familyMemberId, P.settings.jwtIssuer, P.settings.jwtAudience,
        env.now, exp⟩
      (P.settings.jwtKeyId.filter (· ≠ "")))

/-- **Issuing an access token fails only by overflow.** -/
theorem TokenService.issue_error {P : Platform} {env : Env} {familyId familyMemberId : String}
    {e : Exn} (h : TokenService.issue P env familyId familyMemberId = .error e) :
    e = .overflowError := by
  unfold TokenService.issue at h
  split at h
  · cases h
    rfl
  · cases h

/-- **An access token is issued exactly when its expiry is representable.** -/
theorem TokenService.issue_ok_iff {P : Platform} {env : Env} {familyId familyMemberId : String} :
    (∃ a, TokenService.issue P env familyId familyMemberId = .ok a) ↔
      (env.now.plusSeconds P.settings.jwtTtlSeconds).isSome := by
  unfold TokenService.issue
  cases env.now.plusSeconds P.settings.jwtTtlSeconds <;> simp
