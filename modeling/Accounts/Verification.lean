import Accounts.Credentials

/-!
# Malformed password hashes

`PasswordHasher.verify` promises `False` for a malformed hash, so that a
login can treat every failure as bad credentials. Only the number of fields
and the first of them are checked for that: encoding the password and reading
the salt, the iteration count and the digest raise what they raise, and so
does PBKDF2, which counts in C integers.

`Readable` is what a password and a stored text have to be for this not to
happen, and `verify_returns_iff` that it is just that. Both are any `str`,
with or without surrogates. Reading is also more liberal than writing –
`bytes.fromhex` and `int` allow for whitespace, capitals, signs and
underscores – so a text of another form than `hash` writes can be accepted.
`password_verification` puts the two together.
-/

open Repository

variable {P : Platform} {env : Env} {d : Database} {password text : Py.Text}
  {stored : Option Py.Text} {count salt digest : Py.Text}

/-- SHA-256 has thirty-two bytes, and so has a key that PBKDF2 derives with
it. -/
def Platform.KeysOf32Bytes (P : Platform) : Prop :=
  ∀ password salt iterations, (P.pbkdf2 password salt iterations).length = 32

namespace PasswordHasher

/-! ## What `verify` reads -/

/-- **The form of a hash**: the algorithm, an iteration count in decimal, the
salt and the digest in hexadecimal. -/
def Form (text : Py.Text) : Prop :=
  ∃ n : ℕ, 1 ≤ n ∧ ∃ salt digest : List UInt8,
    text = .ofString (String.ofList (algo.toList ++ '$' :: Nat.toDigits 10 n
      ++ '$' :: Py.hex salt ++ '$' :: Py.hex digest))

/-- What `hash` writes has the form. -/
theorem hash_form (P : Platform) (salt : Salt) (password : Password) :
    Form (.ofString (hash P salt password)) :=
  ⟨iterations, by decide, salt.bytes, P.pbkdf2 password.text salt.bytes iterations, rfl⟩

/-- The four fields of a text that names the algorithm. -/
def Fields (text count salt digest : Py.Text) : Prop :=
  text.splitOn (.inl '$') = [Py.Text.ofString algo, count, salt, digest]

instance : Decidable (Fields text count salt digest) := inferInstanceAs (Decidable (_ = _))

/-- The fields of a text of the form of a hash. -/
theorem Form.fields (h : Form text) : ∃ n : ℕ, 1 ≤ n ∧ ∃ salt digest : List UInt8,
    Fields text (.ofChars (Nat.toDigits 10 n)) (.ofChars (Py.hex salt))
      (.ofChars (Py.hex digest)) := by
  obtain ⟨n, hn, salt, digest, rfl⟩ := h
  exact ⟨n, hn, salt, digest, splitOn_fields n salt digest⟩

/-- A text without the fields is refused. -/
theorem verify_of_not_fields (h : ∀ count salt digest, ¬ Fields text count salt digest) :
    verify P password (some text) = .ok false := by
  unfold verify
  dsimp only
  split
  · rfl
  · split
    · next algo' count salt digest hsplit =>
      rw [if_pos]
      rintro rfl
      exact h count salt digest hsplit
    · rfl

/-- **What becomes of a text with the fields**: the password is encoded, they
are read, from the salt to the digest, and the digests are compared. -/
theorem verify_of_fields (h : Fields text count salt digest) :
    verify P password (some text) = (do
      let password ← password.encode.elim (.error .valueError) .ok
      let salt ← (salt.chars.bind Py.fromhex).elim (.error .valueError) .ok
      let n ← (count.chars.bind (Py.int 10)).elim (.error .valueError) .ok
      let count ← iterationCount password salt n
      if digest.any (fun c => !c.isAscii) then .error .typeError
      else return .ofChars (Py.hex (P.pbkdf2 password salt count)) = digest) := by
  have hne : text ≠ [] := by
    rintro rfl
    cases h
  unfold verify
  dsimp only
  rw [if_neg hne, show text.splitOn (.inl '$') = _ from h]
  dsimp only
  rw [if_neg (fun hne => hne rfl)]

/-- **What checking a password raises, nobody handles.** -/
theorem handled_of_verify {e : Exn} (h : verify P password stored = .error e) :
    e.handled = false := by
  have helim : ∀ {α : Type} {o : Option α},
      o.elim (.error .valueError) .ok = (.error e : Except Exn α) → e.handled = false := by
    intro α o ho
    cases o with
    | none =>
      cases ho
      rfl
    | some a => cases ho
  cases stored with
  | none => cases h
  | some text =>
    by_cases hfields : ∃ count salt digest, Fields text count salt digest
    · obtain ⟨count, salt, digest, hf⟩ := hfields
      rw [verify_of_fields hf] at h
      rcases Except.bind_eq_error_iff.mp h with h | ⟨s, -, h⟩
      · exact helim h
      rcases Except.bind_eq_error_iff.mp h with h | ⟨bytes, -, h⟩
      · exact helim h
      rcases Except.bind_eq_error_iff.mp h with h | ⟨n, -, h⟩
      · exact helim h
      rcases Except.bind_eq_error_iff.mp h with h | ⟨k, -, h⟩
      · unfold iterationCount at h
        split at h
        · cases h
          rfl
        · split at h
          · cases h
            rfl
          · cases h
      · split at h
        · cases h
          rfl
        · cases h
    · rw [verify_of_not_fields (fun count salt digest h => hfields ⟨count, salt, digest, h⟩)] at h
      cases h

/-- **The password can be hashed and the three fields can be read**: the
salt is hexadecimal, of bytes that a C `int` counts, the iteration count a
positive number in the range of one, and the digest ASCII. -/
structure ReadableFields (password count salt digest : Py.Text) : Prop where
  /-- The password. -/
  password : CanHash password
  /-- The salt. -/
  salt : ∃ bytes, salt.chars.bind Py.fromhex = some bytes ∧ bytes.length < 2 ^ 31
  /-- The iteration count. -/
  count : ∃ n, count.chars.bind (Py.int 10) = some n ∧ 1 ≤ n ∧ n < 2 ^ 31
  /-- The digest. -/
  digest : ∀ c ∈ digest, c.isAscii = true

/-- **A password can be checked against what is stored**, or is refused
before it is. -/
def Readable (password : Py.Text) (stored : Option Py.Text) : Prop :=
  ∀ text ∈ stored, ∀ count salt digest, Fields text count salt digest →
    ReadableFields password count salt digest

/-- The ranges that are checked with the iteration count. -/
theorem iterationCount_eq_ok_iff {s : String} {bytes : List UInt8} {n : ℤ} {k : ℕ} :
    iterationCount s bytes n = .ok k ↔ s.utf8ByteSize < 2 ^ 31 ∧ bytes.length < 2 ^ 31 ∧
      (1 ≤ n ∧ n < 2 ^ 31) ∧ k = n.toNat := by
  unfold iterationCount
  split
  · simp only [reduceCtorEq, false_iff, not_and]
    omega
  · split
    · simp only [reduceCtorEq, false_iff, not_and]
      omega
    · simp only [Except.ok.injEq]
      omega

/-- Reading a field. -/
theorem elim_eq_ok_iff {α : Type} {o : Option α} {e : Exn} {a : α} :
    o.elim (.error e) .ok = (.ok a : Except Exn α) ↔ o = some a := by
  cases o with
  | none => simp
  | some b => simp

/-- **When a text with the fields is answered**, and with what. -/
theorem verify_fields_iff (h : Fields text count salt digest) {b : Bool} :
    verify P password (some text) = .ok b ↔ ∃ s bytes n,
      (password.encode = some s ∧ s.utf8ByteSize < 2 ^ 31) ∧
      (salt.chars.bind Py.fromhex = some bytes ∧ bytes.length < 2 ^ 31) ∧
      (count.chars.bind (Py.int 10) = some n ∧ 1 ≤ n ∧ n < 2 ^ 31) ∧
      (∀ c ∈ digest, c.isAscii = true) ∧
      b = decide (.ofChars (Py.hex (P.pbkdf2 s bytes n.toNat)) = digest) := by
  rw [verify_of_fields h]
  have hany : digest.any (fun c => !c.isAscii) = true ↔ ¬ ∀ c ∈ digest, c.isAscii = true := by
    simp only [List.any_eq_true, Bool.not_eq_true', not_forall, exists_prop, Bool.not_eq_true]
  constructor
  · intro hok
    obtain ⟨s, hs, hok⟩ := Except.bind_eq_ok_iff.mp hok
    obtain ⟨bytes, hbytes, hok⟩ := Except.bind_eq_ok_iff.mp hok
    obtain ⟨n, hn, hok⟩ := Except.bind_eq_ok_iff.mp hok
    obtain ⟨k, hk, hok⟩ := Except.bind_eq_ok_iff.mp hok
    obtain ⟨hsize, hlen, hrange, rfl⟩ := iterationCount_eq_ok_iff.mp hk
    split at hok
    · cases hok
    · next hascii =>
      refine ⟨s, bytes, n, ⟨elim_eq_ok_iff.mp hs, hsize⟩, ⟨elim_eq_ok_iff.mp hbytes, hlen⟩,
        ⟨elim_eq_ok_iff.mp hn, hrange⟩, not_not.mp (fun hc => hascii (hany.mpr hc)),
        (Except.ok.inj hok).symm⟩
  · rintro ⟨s, bytes, n, ⟨hs, hsize⟩, ⟨hbytes, hlen⟩, ⟨hn, hrange⟩, hascii, rfl⟩
    refine Except.bind_eq_ok_iff.mpr ⟨s, elim_eq_ok_iff.mpr hs,
      Except.bind_eq_ok_iff.mpr ⟨bytes, elim_eq_ok_iff.mpr hbytes,
        Except.bind_eq_ok_iff.mpr ⟨n, elim_eq_ok_iff.mpr hn,
          Except.bind_eq_ok_iff.mpr ⟨n.toNat,
            iterationCount_eq_ok_iff.mpr ⟨hsize, hlen, hrange, rfl⟩, ?_⟩⟩⟩⟩
    rw [if_neg (fun hc => hany.mp hc hascii)]
    rfl

/-- **`verify` returns just when the password can be checked** against what
is stored. -/
theorem verify_returns_iff :
    (∃ b, verify P password stored = .ok b) ↔ Readable password stored := by
  cases stored with
  | none => exact ⟨fun _ text h => absurd h (by simp), fun _ => ⟨false, rfl⟩⟩
  | some text =>
    by_cases hfields : ∃ count salt digest, Fields text count salt digest
    · obtain ⟨count, salt, digest, h⟩ := hfields
      constructor
      · rintro ⟨b, hb⟩ text' htext count' salt' digest' h'
        obtain rfl := Option.some.inj htext
        obtain ⟨s, bytes, n, hs, hbytes, hn, hascii, -⟩ := (verify_fields_iff h').mp hb
        exact ⟨⟨s, hs⟩, ⟨bytes, hbytes⟩, ⟨n, hn⟩, hascii⟩
      · intro hread
        obtain ⟨⟨s, hs⟩, ⟨bytes, hbytes⟩, ⟨n, hn⟩, hascii⟩ := hread text rfl count salt digest h
        exact ⟨_, (verify_fields_iff h).mpr ⟨s, bytes, n, hs, hbytes, hn, hascii, rfl⟩⟩
    · have hno : ∀ count salt digest, ¬ Fields text count salt digest :=
        fun count salt digest h => hfields ⟨count, salt, digest, h⟩
      refine ⟨fun _ text' htext count salt digest h => ?_,
        fun _ => ⟨false, verify_of_not_fields hno⟩⟩
      obtain rfl := Option.some.inj htext
      exact absurd h (hno count salt digest)

/-- **Any password that can be hashed can be checked** against what `hash`
writes. -/
theorem readable_hash (P : Platform) (salt : Salt) (password' : Password) :
    Readable password (some (.ofString (hash P salt password'))) ↔ CanHash password := by
  constructor
  · intro hread
    exact (hread _ rfl _ _ _ (hash_fields P salt password')).password
  · rintro hpassword text htext count digest key h
    obtain rfl := Option.some.inj htext
    -- the fields are those with which the password of the hash is accepted
    have hread : Readable (.ofString password'.text) (some (.ofString (hash P salt password'))) :=
      verify_returns_iff.mp ⟨true, verify_hash P salt password'⟩
    obtain ⟨-, hsalt, hcount, hdigest⟩ := hread _ rfl _ _ _ h
    exact ⟨hpassword, hsalt, hcount, hdigest⟩

/-! ## What `verify` accepts -/

/-- **A digest that could be one is only in a text of the form of a hash.** -/
def Canonical (stored : Option Py.Text) : Prop :=
  ∀ text ∈ stored, ∀ count salt, ∀ key : List UInt8, key.length = 32 →
    Fields text count salt (.ofChars (Py.hex key)) → Form text

/-- **What is accepted has the form of a hash** on every platform, if what
is stored is canonical. -/
theorem form_of_verify (hP : P.KeysOf32Bytes) (hc : Canonical stored)
    (h : verify P password stored = .ok true) : ∃ text ∈ stored, Form text := by
  cases stored with
  | none => cases h
  | some text =>
    by_cases hfields : ∃ count salt digest, Fields text count salt digest
    · obtain ⟨count, salt, digest, hf⟩ := hfields
      obtain ⟨s, bytes, n, -, -, -, -, hb⟩ := (verify_fields_iff hf).mp h
      have hkey : .ofChars (Py.hex (P.pbkdf2 s bytes n.toNat)) = digest :=
        of_decide_eq_true hb.symm
      exact ⟨text, rfl, hc text rfl count salt _ (hP s bytes n.toNat) (hkey ▸ hf)⟩
    · rw [verify_of_not_fields (fun count salt digest h => hfields ⟨count, salt, digest, h⟩)] at h
      cases h

/-- **Whatever the digest of a readable text is, it may be that of the
password.** -/
theorem exists_verify {key : List UInt8} (hkey : key.length = 32)
    (h : Fields text count salt (.ofChars (Py.hex key))) (hread : Readable password (some text)) :
    ∃ P : Platform, P.KeysOf32Bytes ∧ verify P password (some text) = .ok true := by
  obtain ⟨⟨s, hs⟩, ⟨bytes, hbytes⟩, ⟨n, hn⟩, hascii⟩ := hread text rfl count salt _ h
  refine ⟨{ Sample.platform 0 with pbkdf2 := fun _ _ _ => key }, fun _ _ _ => hkey,
    (verify_fields_iff h).mpr ⟨s, bytes, n, hs, hbytes, hn, hascii, ?_⟩⟩
  exact (decide_eq_true rfl).symm

end PasswordHasher

/-! ## What a login ends in -/

namespace AuthService

variable {m : FamilyMember} {email : String} {e : Exn}

/-- What the rest of a login raises, once the member is found, is the
answer. -/
theorem login_found (hm : m ∈ d.members) (hemail : m.email = some email) {s : Session Database}
    (h : (do
      if ← Tx.lift (PasswordHasher.verify P password (storedHash m)) then
        issueTokens P env m.familyId m.id
      else
        Tx.raise (.service (.unauthorized "invalid credentials"))).Raises ⟨d, d⟩ e s) :
    (serve P env (.auth (.login ⟨email, password⟩)) d).1 = .error e := by
  have hfound := FamilyMember.find_email_eq_some_iff.mpr ⟨hm, hemail⟩
  have hlogin : (login P env ⟨email, password⟩).Raises ⟨d, d⟩ e s := by
    rw [login, FamilyMemberRepository.getByEmail_eq_read]
    exact Tx.raises_bind.mpr (Or.inr ⟨some m, ⟨d, d⟩, Tx.returns_read.mpr ⟨hfound.symm, rfl⟩, h⟩)
  exact Tx.serve_fst_eq_error_iff.mpr ⟨s, Tx.raises_bind.mpr (Or.inl hlogin)⟩

/-- Where the password is not accepted, the credentials are bad. -/
theorem login_unauthorized (hm : m ∈ d.members) (hemail : m.email = some email)
    (hno : PasswordHasher.verify P password (storedHash m) = .ok false) :
    (serve P env (.auth (.login ⟨email, password⟩)) d).1
      = .error (.service (.unauthorized "invalid credentials")) := by
  refine login_found hm hemail (s := ⟨d, d⟩) ?_
  refine Tx.raises_bind.mpr (Or.inr ⟨false, ⟨d, d⟩, Tx.returns_lift.mpr ⟨hno, rfl⟩, ?_⟩)
  exact Tx.raises_ite.mpr (Or.inr ⟨Bool.false_ne_true, Tx.raises_raise.mpr ⟨rfl, rfl⟩⟩)

/-- Where the password cannot be checked, the login raises what checking it
does. -/
theorem login_unchecked (hm : m ∈ d.members) (hemail : m.email = some email)
    (hno : PasswordHasher.verify P password (storedHash m) = .error e) :
    (serve P env (.auth (.login ⟨email, password⟩)) d).1 = .error e :=
  login_found hm hemail (s := ⟨d, d⟩)
    (Tx.raises_bind.mpr (Or.inl (Tx.raises_lift.mpr ⟨hno, rfl⟩)))

end AuthService

namespace PasswordHasher

/-- **Verification is total on a password and what is stored**: `verify`
returns, and returns `False` for what does not have the form of a hash; and a
login with the password ends in tokens or in bad credentials. -/
structure Total (password : Py.Text) (stored : Option Py.Text) : Prop where
  /-- `verify` returns. -/
  verify : ∀ P : Platform, P.KeysOf32Bytes →
    ∃ b, PasswordHasher.verify P password stored = .ok b ∧
      ((¬ ∃ text ∈ stored, Form text) → b = false)
  /-- `login` ends. -/
  login : ∀ (P : Platform) (env : Env) (d : Database) (m : FamilyMember) (email : String),
    env.Fresh P d → TokensExpire P env.now → m ∈ d.members → m.email = some email →
    AuthService.storedHash m = stored →
      (∃ a, (serve P env (.auth (.login ⟨email, password⟩)) d).1 = .ok (.tokens a)) ∨
        (serve P env (.auth (.login ⟨email, password⟩)) d).1
          = .error (.service (.unauthorized "invalid credentials"))

end PasswordHasher

/-- **When verification is total**, of any two texts: just when the password
can be checked against what is stored, and that is canonical. -/
theorem password_verification (password : Py.Text) (stored : Option Py.Text) :
    PasswordHasher.Total password stored ↔
      PasswordHasher.Readable password stored ∧ PasswordHasher.Canonical stored := by
  constructor
  · rintro ⟨hverify, -⟩
    have hread : PasswordHasher.Readable password stored := by
      obtain ⟨b, hb, -⟩ := hverify { Sample.platform 0 with
        pbkdf2 := fun _ _ _ => List.replicate 32 0 } (fun _ _ _ => List.length_replicate)
      exact PasswordHasher.verify_returns_iff.mp ⟨b, hb⟩
    refine ⟨hread, ?_⟩
    rintro text rfl count salt key hkey hfields
    by_contra hform
    obtain ⟨P, hP, htrue⟩ : ∃ P : Platform, P.KeysOf32Bytes ∧
        PasswordHasher.verify P password (some text) = .ok true :=
      PasswordHasher.exists_verify hkey hfields hread
    obtain ⟨b, hb, hfalse⟩ := hverify P hP
    obtain rfl : b = true := Except.ok.inj (hb.symm.trans htrue)
    refine Bool.noConfusion (hfalse ?_)
    rintro ⟨text', htext, h⟩
    exact hform (Option.some.inj htext ▸ h)
  · rintro ⟨hread, hc⟩
    refine ⟨fun P hP => ?_, fun P env d m email hf hexp hm hemail hstored => ?_⟩
    · obtain ⟨b, hb⟩ := PasswordHasher.verify_returns_iff.mpr hread
      refine ⟨b, hb, fun hform => ?_⟩
      by_contra htrue
      rw [Bool.not_eq_false] at htrue
      exact hform (PasswordHasher.form_of_verify hP hc (htrue ▸ hb))
    · obtain ⟨b, hb⟩ := PasswordHasher.verify_returns_iff.mpr (hstored ▸ hread)
      cases b with
      | false => exact Or.inr (AuthService.login_unauthorized hm hemail hb)
      | true =>
        obtain ⟨a, ha, -⟩ := (AuthService.login_ok_iff hf hm hemail hb).mpr hexp
        exact Or.inl ⟨a, ha⟩

/-- A password that begins with half of a surrogate pair. -/
def Sample.loneSurrogatePassword : Py.Text :=
  .inr ⟨0, by decide⟩ :: Py.Text.ofString "aaaaaaaa"

/-- **A malformed hash is an exception**: an iteration count that is no
number, one of zero, a salt with an odd number of digits, and a digest
outside ASCII. A count that is written with a sign is accepted, although no
hash is written so. And so is a password with a surrogate, against a hash of
another and in a login. -/
theorem password_verification_malformed :
    let P := Sample.platform 2592000
    let verify := fun text => PasswordHasher.verify P (.ofString Sample.password.text)
      (some (.ofString text))
    let signed := String.ofList (PasswordHasher.algo.toList ++ "$+600000$".toList
      ++ Py.hex Sample.salt.bytes
      ++ '$' :: Py.hex (Sample.pbkdf2 Sample.password.text Sample.salt.bytes 600000))
    verify "pbkdf2_sha256$many$00$00" = .error .valueError ∧
      verify "pbkdf2_sha256$0$00$00" = .error .valueError ∧
      verify "pbkdf2_sha256$1$0$00" = .error .valueError ∧
      verify "pbkdf2_sha256$1$00$é" = .error .typeError ∧
      verify signed = .ok true ∧ ¬ PasswordHasher.Form (.ofString signed) ∧
      PasswordHasher.verify P Sample.loneSurrogatePassword
        (some (.ofString (PasswordHasher.hash P Sample.salt Sample.password)))
          = .error .valueError ∧
      (serve P (Sample.env 2 (Sample.second 60))
        (.auth (.login ⟨"ada@example.org", Sample.loneSurrogatePassword⟩))
        (Sample.signedUp 2592000)).1 = .error .valueError := by
  have hcount : ((Py.Text.ofString (String.ofList (PasswordHasher.algo.toList
      ++ "$+600000$".toList ++ Py.hex Sample.salt.bytes
      ++ '$' :: Py.hex (Sample.pbkdf2 Sample.password.text Sample.salt.bytes 600000)))).splitOn
        (Sum.inl '$'))[1]? = some (Py.Text.ofString "+600000") := by
    decide +kernel
  refine ⟨by decide +kernel, by decide +kernel, by decide +kernel, by decide +kernel,
    by decide +kernel, fun h => ?_, by decide +kernel, by decide +kernel⟩
  obtain ⟨n, -, salt, digest, hfields⟩ := h.fields
  rw [show _ = _ from hfields] at hcount
  have hplus : '+' ∈ Nat.toDigits 10 n := by
    rw [Py.Text.ofChars_injective (Option.some.inj hcount)]
    decide
  exact absurd (Nat.isDigit_of_mem_toDigits (by decide) (by decide) hplus) (by decide)
