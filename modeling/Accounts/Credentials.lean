import Accounts.Emails
import Accounts.Encodings
import Accounts.InviteLifecycle

/-!
# Credentials that were set let the member in

A password is stored as a text of four fields and checked by splitting
that text again; an email is normalised by three validators, each for
itself. `verify_hash` says that the fields are read as they were written,
and `Registers` is what the validators agree on: a member is looked up by
the form of the email it was stored with.

Nothing a member can be updated by touches its credentials, so they let
it in for as long as it is not deleted (`credentials_round_trip`). At the
end of the calendar they do not: no token can expire then.
-/

open Repository

variable {P : Platform} {env : Env} {d d' : Database}

/-! ## Password hashes -/

namespace PasswordHasher

/-- **Fields are read as they were written.** -/
theorem splitOn_fields (n : ℕ) (salt digest : List UInt8) :
    (Py.Text.ofString (String.ofList (algo.toList ++ '$' :: Nat.toDigits 10 n
        ++ '$' :: Py.hex salt ++ '$' :: Py.hex digest))).splitOn (.inl '$')
      = [Py.Text.ofString algo, .ofChars (Nat.toDigits 10 n), .ofChars (Py.hex salt),
          .ofChars (Py.hex digest)] := by
  have hhex : ∀ {bytes : List UInt8}, '$' ∉ Py.hex bytes := fun h => by
    have hall : '$' ∉ Py.hexDigits := by decide
    exact hall (Py.mem_hex h)
  have hcount : '$' ∉ Nat.toDigits 10 n := fun h =>
    absurd (Nat.isDigit_of_mem_toDigits (by decide) (by decide) h) (by decide)
  have hfields : ∀ l ∈ [Py.Text.ofString algo, .ofChars (Nat.toDigits 10 n), .ofChars (Py.hex salt),
      .ofChars (Py.hex digest)], Sum.inl '$' ∉ l := by
    intro l hl
    simp only [List.mem_cons, List.not_mem_nil, or_false] at hl
    rcases hl with rfl | rfl | rfl | rfl
    · exact fun h => absurd (Py.Text.mem_ofChars.mp h) (by decide)
    · exact fun h => hcount (Py.Text.mem_ofChars.mp h)
    · exact fun h => hhex (Py.Text.mem_ofChars.mp h)
    · exact fun h => hhex (Py.Text.mem_ofChars.mp h)
  rw [← List.splitOn_intercalate (Sum.inl '$') hfields (by simp), Py.Text.ofString,
    String.toList_ofList]
  simp [List.intercalate, Py.Text.ofString, Py.Text.ofChars]

/-- The four fields of a stored hash. -/
theorem hash_fields (P : Platform) (salt : Salt) (password : Password) :
    (Py.Text.ofString (hash P salt password)).splitOn (.inl '$')
      = [Py.Text.ofString algo, .ofChars (Nat.toDigits 10 iterations), .ofChars (Py.hex salt.bytes),
          .ofChars (Py.hex (P.pbkdf2 password.text salt.bytes iterations))] :=
  splitOn_fields iterations salt.bytes (P.pbkdf2 password.text salt.bytes iterations)

/-- **A password is accepted against its own hash.** -/
theorem verify_hash (P : Platform) (salt : Salt) (password : Password) :
    verify P (.ofString password.text) (some (.ofString (hash P salt password))) = .ok true := by
  have hne : Py.Text.ofString (hash P salt password) ≠ [] := by
    intro h
    have hf := hash_fields P salt password
    rw [h] at hf
    cases hf
  have hascii : (Py.Text.ofChars (Py.hex (P.pbkdf2 password.text salt.bytes iterations))).any
      (fun c => !c.isAscii) = false := by
    have hall : ∀ c ∈ Py.hexDigits, Py.CodePoint.isAscii (.inl c) = true :=
      Py.forall_hexDigits (by decide)
    refine List.any_eq_false.mpr (fun c hc => ?_)
    obtain ⟨digit, hdigit, rfl⟩ := List.mem_map.mp hc
    rw [hall digit (Py.mem_hex hdigit)]
    exact Bool.false_ne_true
  have hcount : Py.int 10 (Nat.toDigits 10 iterations) = some 600000 := by decide +kernel
  unfold verify
  simp only
  rw [if_neg hne, hash_fields]
  simp only
  rw [if_neg (fun h => h rfl), Py.Text.encode_ofString, Py.Text.chars_ofChars,
    Py.Text.chars_ofChars, Option.bind_some, Option.bind_some, Py.fromhex_hex, hcount]
  have hiter : iterationCount password.text salt.bytes 600000 = .ok iterations := by
    have hpassword := password.utf8ByteSize_lt
    have hsalt := salt.length_bytes
    rw [iterationCount, if_neg (by omega), if_neg (by decide)]
    rfl
  show (do
    let count ← iterationCount password.text salt.bytes 600000
    if (Py.Text.ofChars (Py.hex (P.pbkdf2 password.text salt.bytes iterations))).any
        (fun c => !c.isAscii) then
      Except.error Exn.typeError
    else return decide (Py.Text.ofChars (Py.hex (P.pbkdf2 password.text salt.bytes count))
      = Py.Text.ofChars (Py.hex (P.pbkdf2 password.text salt.bytes iterations))) :
        Except Exn Bool) = .ok true
  rw [hiter]
  show (if _ then _ else _) = _
  rw [if_neg (by rw [hascii]; exact Bool.false_ne_true), decide_eq_true rfl]
  rfl

/-- Nothing is accepted where no password is stored. -/
theorem verify_none (P : Platform) (password : Py.Text) : verify P password none = .ok false := rfl

end PasswordHasher

/-! ## Login -/

namespace AuthService

variable {s s' : Session Database} {a : IssuedTokens}

/-- **When `login` returns**: the password is accepted for the member with
the email, and tokens are issued to it. -/
theorem login_returns_iff {body : LoginRequest} :
    (login P env body).Returns s a s' ↔
      ∃ m ∈ s.working.members, m.email = some body.email ∧
        PasswordHasher.verify P body.password (AuthService.storedHash m) = .ok true ∧
        (issueTokens P env m.familyId m.id).Returns s a s' := by
  rw [login, FamilyMemberRepository.getByEmail_eq_read]
  constructor
  · intro h
    obtain ⟨found, s₁, h₁, h₂⟩ := Tx.returns_bind.mp h
    obtain ⟨hfound, rfl⟩ := Tx.returns_read.mp h₁
    cases found with
    | none => exact absurd h₂ Tx.returns_raise
    | some m =>
      obtain ⟨hm, hemail⟩ := FamilyMember.find_email_eq_some_iff.mp hfound.symm
      obtain ⟨ok, s₂, h₃, h₄⟩ := Tx.returns_bind.mp h₂
      obtain ⟨hok, rfl⟩ := Tx.returns_lift.mp h₃
      rcases Tx.returns_ite.mp h₄ with ⟨htrue, h₅⟩ | ⟨-, h₅⟩
      · exact ⟨m, hm, hemail, htrue ▸ hok, h₅⟩
      · exact absurd h₅ Tx.returns_raise
  · rintro ⟨m, hm, hemail, hok, h⟩
    have hfound := FamilyMember.find_email_eq_some_iff.mpr ⟨hm, hemail⟩
    exact Tx.returns_bind.mpr ⟨some m, s, Tx.returns_read.mpr ⟨hfound.symm, rfl⟩,
      Tx.returns_bind.mpr ⟨true, s, Tx.returns_lift.mpr ⟨hok, rfl⟩,
        Tx.returns_ite.mpr (Or.inl ⟨rfl, h⟩)⟩⟩


end AuthService

/-- **The tokens name a member and its family**, in the claims of the access
token and beside it. -/
structure IssuedTokens.Names (P : Platform) (env : Env) (a : IssuedTokens) (m f : UUID) :
    Prop where
  /-- The member. -/
  familyMemberId : a.familyMemberId = m.str
  /-- Its family. -/
  familyId : a.familyId = f.str
  /-- The claims. -/
  accessToken : TokenService.issue P env f.str m.str = .ok a.accessToken

/-- A member's family is there. -/
theorem Store.member_family (d : Database) {m : FamilyMember} (h : m ∈ d.members) :
    m.familyId ∈ d.families.map Family.id :=
  d.consistent.reference .familyMember (.family, fun r => some r.familyId)
    (List.mem_singleton.mpr rfl) m h _ rfl

/-- **Whom a login lets in**: the member with the email, whose password it
is. -/
theorem AuthService.login_serve {body : LoginRequest} {a : IssuedTokens}
    (h : (serve P env (.auth (.login body)) d).1 = .ok (.tokens a)) :
    ∃ m ∈ d.members, m.email = some body.email ∧
      PasswordHasher.verify P body.password (AuthService.storedHash m) = .ok true ∧
      a.Names P env m.id m.familyId ∧ TokensExpire P env.now := by
  obtain ⟨s', hret, -⟩ := Tx.serve_ok_iff.mp
    (show serve P env (.auth (.login body)) d = (.ok (.tokens a), _) from Prod.ext h rfl)
  obtain ⟨b, s₁, hlogin, hp⟩ := Tx.returns_bind.mp hret
  obtain rfl := Response.tokens.inj (Tx.returns_pure.mp hp).1
  obtain ⟨m, hm, hemail, hok, hissue⟩ := login_returns_iff.mp hlogin
  obtain ⟨access, exp, haccess, hexp, rfl, -⟩ := issueTokens_returns.mp hissue
  exact ⟨m, hm, hemail, hok, ⟨rfl, rfl, haccess⟩, TokenService.issue_ok_iff.mp ⟨access, haccess⟩,
    Option.isSome_iff_exists.mpr ⟨exp, hexp⟩⟩

/-- **A member's email and password let it in** exactly when both tokens
expire before the calendar ends. -/
theorem AuthService.login_ok_iff (hf : env.Fresh P d) {m : FamilyMember} (hm : m ∈ d.members)
    {email : String} {password : Py.Text} (hemail : m.email = some email)
    (hok : PasswordHasher.verify P password (storedHash m) = .ok true) :
    (∃ a, (serve P env (.auth (.login ⟨email, password⟩)) d).1 = .ok (.tokens a) ∧
        a.Names P env m.id m.familyId) ↔ TokensExpire P env.now := by
  constructor
  · rintro ⟨a, ha, -⟩
    obtain ⟨-, -, -, -, -, hexp⟩ := login_serve ha
    exact hexp
  · rintro ⟨hjwt, hrefresh⟩
    obtain ⟨exp, hexp⟩ := Option.isSome_iff_exists.mp hrefresh
    obtain ⟨access, haccess⟩ : ∃ a, TokenService.issue P env m.familyId.str m.id.str = .ok a :=
      TokenService.issue_ok_iff.mpr hjwt
    have htoken := RefreshTokenService.newToken_consistent (P := P) d.consistent
      (hf.id .refreshToken) hf.token (d.member_family hm) (List.mem_map_of_mem hm) env.sessionId exp
    have hissue : (issueTokens P env m.familyId m.id).Returns ⟨d, d⟩
        ⟨access, m.familyId.str, m.id.str, env.token⟩ ⟨d, ⟨_, htoken⟩⟩ :=
      issueTokens_returns.mpr ⟨access, exp, haccess, hexp, rfl, ⟨_, htoken⟩, rfl, rfl⟩
    have hrun : ((AuthOp.login ⟨email, password⟩).run P env).Returns ⟨d, d⟩
        (.tokens ⟨access, m.familyId.str, m.id.str, env.token⟩) ⟨d, ⟨_, htoken⟩⟩ :=
      Tx.returns_bind.mpr ⟨_, _, login_returns_iff.mpr ⟨m, hm, hemail, hok, hissue⟩,
        Tx.returns_pure.mpr ⟨rfl, rfl⟩⟩
    exact ⟨_, congrArg Prod.fst (Tx.serve_ok_iff.mpr ⟨_, hrun, rfl⟩), rfl, rfl, haccess⟩

/-! ## Credentials that stay -/

/-- **A member has credentials**: it is stored with the email, and with a
hash of the password. -/
def HasCredentials (P : Platform) (m f : UUID) (email : String) (password : Password)
    (ms : List FamilyMember) : Prop :=
  ∃ r ∈ ms, r.id = m ∧ r.familyId = f ∧ r.email = some email ∧
    ∃ salt, r.passwordHash = some (PasswordHasher.hash P salt password)

/-- **A step leaves a member its credentials**, unless it deletes the
member. -/
theorem HasCredentials.step {m f : UUID} {email : String} {password : Password}
    {fs fs' : List Family} {ms ms' : List FamilyMember} {event : Option HouseholdEvent}
    (h : HasCredentials P m f email password ms) (hs : HouseholdStep P env fs ms event fs' ms')
    (hkey : Table.Unique (fun r => some (FamilyMember.id r)) ms)
    (hdel : event ≠ some (.deleted m)) : HasCredentials P m f email password ms' := by
  obtain ⟨r, hr, hid, hrest⟩ := h
  cases hs with
  | same | renamed => exact ⟨r, hr, hid, hrest⟩
  | founded | joined | created => exact ⟨r, Table.mem_insert.mpr (Or.inl hr), hid, hrest⟩
  | @updated r' old hold hk =>
    by_cases hrr : r.id = r'.id
    · obtain rfl : r = old := hkey.eq hr hold rfl (congrArg some (hrr.trans hk.id).symm)
      refine ⟨r', Table.mem_replace.mpr (Or.inl ⟨rfl, r, hr, hrr⟩), hk.id.trans hid, ?_⟩
      rw [hk.familyId, hk.email, hk.passwordHash]
      exact hrest
    · exact ⟨r, Table.mem_replace.mpr (Or.inr ⟨hr, hrr⟩), hid, hrest⟩
  | @deleted r' hr' hp =>
    exact ⟨r, Table.mem_delete.mpr ⟨hr, fun hrr => hdel (by rw [← hrr, hid])⟩, hid, hrest⟩

/-- Only the deletion of a member deletes it. -/
theorem answeredEvent_eq_deleted {req : Request} {ans : Except Exn Response} {m : UUID}
    (h : answeredEvent req ans = some (.deleted m)) :
    ∃ f response, req = .family f (.deleteMember m) ∧ ans = .ok response := by
  cases ans with
  | error e => cases h
  | ok response =>
    cases req with
    | auth op =>
      cases op with
      | signup body =>
        have hsome : (if body.inviteCode = none then some (HouseholdEvent.founded body)
            else some (.joined body)) = some (.deleted m) := h
        split at hsome <;> cases hsome
      | _ => cases h
    | family f op =>
      cases op <;> cases h
      exact ⟨f, response, rfl, rfl⟩

/-- **A run leaves a member its credentials** that does not delete it. -/
theorem HasCredentials.run {m f : UUID} {email : String} {password : Password}
    {run : List (Env × Request)}
    (h : HasCredentials P m f email password d.members)
    (hdel : ∀ e g a, ((e, .family g (.deleteMember m)), .ok a) ∉ (service P).trace d run) :
    HasCredentials P m f email password ((service P).run d run).members := by
  induction run generalizing d with
  | nil => exact h
  | cons i run ih =>
    refine ih (h.step (household_serve P i.1 i.2 d) d.memberKey (fun hev => ?_))
      (fun e g a ha => ?_)
    · obtain ⟨g, a, hreq, hans⟩ := answeredEvent_eq_deleted hev
      refine hdel i.1 g a (List.mem_cons.mpr (Or.inl ?_))
      exact Prod.ext (Prod.ext rfl hreq.symm) hans.symm
    · exact hdel e g a (List.mem_cons_of_mem _ ha)

/-! ## The round trip -/

/-- **A request registers credentials**: its body has the email a validator
makes of the text, and the password. -/
def Request.Registers (raw : String) (password : Password) : Request → Prop
  | auth (.signup body) =>
    SignupRequest.normalizeEmail raw = .ok body.email ∧ body.password = password
  | family _ (.createMember body) =>
    body.email = MemberCreate.normalizeEmail (some raw) ∧ body.password = some password
  | _ => False

/-- The three validators agree on what they accept. -/
theorem MemberCreate.normalizeEmail_some (raw : String) :
    normalizeEmail (some raw) = some (LoginRequest.normalizeEmail raw) := by
  show some (if raw ≠ "" then Py.normalize raw else raw) = some (Py.normalize raw)
  split
  · rfl
  · next h =>
    rw [Decidable.not_not.mp h]
    rfl

/-- **A registration that succeeds** leaves a member with the
credentials. -/
theorem Request.Registers.hasCredentials {req : Request} {raw : String} {password : Password}
    {response : Response} (h : req.Registers raw password)
    (hans : (serve P env req d).1 = .ok response) :
    ∃ f, HasCredentials P (env.newId .familyMember) f (LoginRequest.normalizeEmail raw) password
      (serve P env req d).2.members := by
  have hstep := household_serve P env req d
  rw [hans] at hstep
  have hnew : ∀ {ms : List FamilyMember} {r : FamilyMember}, r.id = env.newId .familyMember →
      r.email = some (LoginRequest.normalizeEmail raw) →
      r.passwordHash = some (PasswordHasher.hash P env.salt password) →
      ∃ f, HasCredentials P (env.newId .familyMember) f (LoginRequest.normalizeEmail raw) password
        (Table.insert ms r) :=
    fun hid hemail hpw => ⟨_, _, Table.mem_insert.mpr (Or.inr rfl), hid, rfl, hemail, _, hpw⟩
  cases req with
  | auth op =>
    cases op with
    | signup body =>
      obtain ⟨hemail, rfl⟩ := h
      have hemail' : some body.email = some (LoginRequest.normalizeEmail raw) :=
        congrArg some (SignupRequest.normalizeEmail_eq_ok_iff.mp hemail).1
      have hev : answeredEvent (.auth (.signup body)) (.ok response)
          = if body.inviteCode = none then some (.founded body) else some (.joined body) := rfl
      rw [hev] at hstep
      split at hstep
      · generalize (serve P env (.auth (.signup body)) d).2.members = ms' at hstep ⊢
        generalize (serve P env (.auth (.signup body)) d).2.families = fs' at hstep
        cases hstep
        exact hnew rfl hemail' rfl
      · generalize (serve P env (.auth (.signup body)) d).2.members = ms' at hstep ⊢
        generalize (serve P env (.auth (.signup body)) d).2.families = fs' at hstep
        cases hstep
        exact hnew rfl hemail' rfl
    | _ => exact absurd h id
  | family f op =>
    cases op <;> try exact absurd h id
    case createMember body =>
      obtain ⟨hemail, hpw⟩ := h
      have hne : password.text ≠ "" := by
        intro hempty
        have hmin := password.min_length
        rw [hempty] at hmin
        exact absurd hmin (by decide)
      have hev : answeredEvent (.family f (.createMember body)) (.ok response)
          = some (.created body) := rfl
      rw [hev] at hstep
      generalize (serve P env (.family f (.createMember body)) d).2.members = ms' at hstep ⊢
      generalize (serve P env (.family f (.createMember body)) d).2.families = fs' at hstep
      cases hstep
      refine hnew rfl (hemail.trans (MemberCreate.normalizeEmail_some raw)) ?_
      show (body.password.filter (·.text ≠ "")).map (PasswordHasher.hash P env.salt) = _
      rw [hpw, Option.filter_some, if_pos (by simpa using hne)]
      rfl

/-- **Credentials round-trip**, as far as the calendar goes. Once a signup
or the creation of a member with a raw email and a password has succeeded,
a login with both is answered with tokens for that member and its family
in every later state of every run that does not delete the member –
exactly when both tokens expire before the calendar ends. And no login is
ever answered with tokens for a member whose email is not the normal form
of the one presented, or who has no password. -/
theorem credentials_round_trip (P : Platform) (run : List (Env × Request)) :
    (∀ env req raw password response (later : List (Env × Request)),
      req.Registers raw password → (serve P env req (reached P run)).1 = .ok response →
      let d := (serve P env req (reached P run)).2
      let m := env.newId .familyMember
      ∃ f, (∃ r ∈ d.members, r.id = m ∧ r.familyId = f) ∧
        ((∀ e g a, ((e, .family g (.deleteMember m)), .ok a) ∉ (service P).trace d later) →
          let d' := (service P).run d later
          (∃ r ∈ d'.members, r.id = m ∧ r.familyId = f) ∧
            ∀ e : Env, e.Fresh P d' →
              ((∃ a, (serve P e (.auth (.login
                  ⟨LoginRequest.normalizeEmail raw, .ofString password.text⟩)) d').1
                  = .ok (.tokens a) ∧ a.Names P e m f) ↔ TokensExpire P e.now))) ∧
    ∀ (e : Env) raw (password : Py.Text) a,
      (serve P e (.auth (.login ⟨LoginRequest.normalizeEmail raw, password⟩)) (reached P run)).1
        = .ok (.tokens a) →
      ∀ r ∈ (reached P run).members, a.familyMemberId = r.id.str →
        r.email = some (Py.normalize raw) ∧ r.passwordHash ≠ none := by
  constructor
  · intro env req raw password response later hreg hans d m
    obtain ⟨f, hcred⟩ := hreg.hasCredentials hans
    obtain ⟨r, hr, hid, hfam, -⟩ := id hcred
    refine ⟨f, ⟨r, hr, hid, hfam⟩, fun hdel => ?_⟩
    obtain ⟨r', hr', hid', hfam', hemail, salt, hpw⟩ := hcred.run hdel
    refine ⟨⟨r', hr', hid', hfam'⟩, fun e hf => ?_⟩
    have hok : PasswordHasher.verify P (.ofString password.text) (AuthService.storedHash r')
        = .ok true := by
      rw [AuthService.storedHash, hpw]
      exact PasswordHasher.verify_hash P salt password
    have hlogin := AuthService.login_ok_iff hf hr' hemail hok
    rwa [hid', hfam'] at hlogin
  · intro e raw password a ha r hr hname
    obtain ⟨m, hm, hemail, hok, hnames, -⟩ := AuthService.login_serve ha
    have hid : m.id = r.id := UUID.str_injective (hnames.familyMemberId.symm.trans hname)
    obtain rfl : m = r := Store.memberKey _ |>.eq hm hr rfl (congrArg some hid.symm)
    refine ⟨hemail, fun hnone => ?_⟩
    rw [AuthService.storedHash, hnone, Option.map_none, PasswordHasher.verify_none] at hok
    cases hok

/-- Ada signs up, and creates a member; then she logs in with what she typed
at first. -/
theorem credentials_round_trip_login :
    let P := Sample.platform 2592000
    ∃ f a, (serve P (Sample.env 3 (Sample.second 120))
      (.auth (.login
        ⟨LoginRequest.normalizeEmail " Ada@Example.org", .ofString Sample.password.text⟩))
      ((service P).run (Store.empty schema)
        [(Sample.env 1 (Sample.second 0), .auth (.signup (Sample.signup "ada@example.org" none))),
          (Sample.env 2 (Sample.second 60),
            .family 1 (.createMember (Sample.member (some "bob@example.org"))))])).1
        = .ok (.tokens a) ∧ a.Names P (Sample.env 3 (Sample.second 120)) 1 f := by
  obtain ⟨f, -, h⟩ := (credentials_round_trip (Sample.platform 2592000) []).1
    (Sample.env 1 (Sample.second 0)) (.auth (.signup (Sample.signup "ada@example.org" none)))
    " Ada@Example.org" Sample.password
    (.tokens ⟨UUID.str 1, UUID.str 1, UUID.str 1, "refresh-1"⟩)
    [(Sample.env 2 (Sample.second 60),
      .family 1 (.createMember (Sample.member (some "bob@example.org"))))]
    ⟨by decide +kernel, rfl⟩ (by decide +kernel)
  obtain ⟨a, ha⟩ := ((h (fun e g a ha => by
    obtain ⟨hreq, -⟩ := Prod.mk.inj (List.mem_singleton.mp ha)
    exact absurd (Prod.mk.inj hreq).2 (by simp))).2 (Sample.env 3 (Sample.second 120))
      (by decide +kernel)).mpr (by decide +kernel)
  exact ⟨f, a, ha⟩

/-- **At the end of the calendar nobody logs in**: Ada has signed up, is not
deleted and types what she typed, but no token can expire. -/
theorem credentials_round_trip_overflow :
    let P := Sample.platform 2592000
    let req := Request.auth (.signup (Sample.signup "ada@example.org" none))
    let d := (serve P (Sample.env 1 (Sample.second 0)) req (reached P [])).2
    let e := Sample.env 2 (Sample.beforeEnd 60)
    req.Registers "ada@example.org" Sample.password ∧
      (serve P (Sample.env 1 (Sample.second 0)) req (reached P [])).1.isOk ∧
      (∃ r ∈ d.members, r.id = 1) ∧ e.Fresh P d ∧
      (serve P e (.auth (.login
        ⟨LoginRequest.normalizeEmail "ada@example.org", .ofString Sample.password.text⟩)) d).1
          = .error .overflowError :=
  ⟨⟨by decide +kernel, rfl⟩, by decide +kernel, by decide +kernel, by decide +kernel,
    by decide +kernel⟩
