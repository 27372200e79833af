import Accounts.ExternalFace

/-!
# What starts is configured

`get_settings` provides the settings of the application, and refuses those
without a key pair or without a service token, so that `create_app` raises and
nothing is served. The resolver of identities and the guard of the internal
face have branches for settings without them all the same.

`startup_fails_closed` says that the two belong together: the settings that
are refused for the verifying key or the service token are exactly those under
which some call would get to one of these branches – to a `RuntimeError`, or to
the 503 of a face that is not configured.
-/

open Repository

/-! ## The settings -/

/-- The texts of the files, by their paths: those of which `is_file` says
yes. -/
abbrev Files : Type := String → Option String

/-- **The settings of the keys and of the service token**, as the environment
gives them. -/
structure KeySettings where
  /-- `jwt_private_key`. -/
  jwtPrivateKey : Option String
  /-- `jwt_private_key_path`. -/
  jwtPrivateKeyPath : Option String
  /-- `jwt_public_key`. -/
  jwtPublicKey : Option String
  /-- `jwt_public_key_path`. -/
  jwtPublicKeyPath : Option String
  /-- `service_token`. -/
  serviceToken : Option String
deriving DecidableEq

/-- `RuntimeError`, with its text. -/
structure RuntimeError where
  /-- The text. -/
  text : String
deriving DecidableEq

namespace KeySettings

/-- `_resolve_key`: the key itself if it is given, else the text of the file
if there is one. -/
def resolveKey (files : Files) (inline path : Option String) : Option String :=
  match inline.filter (· ≠ "") with
  | some key => some key
  | none => (path.filter (· ≠ "")).bind files

/-- `private_key`. -/
def privateKey (files : Files) (S : KeySettings) : Except RuntimeError String :=
  match (resolveKey files S.jwtPrivateKey S.jwtPrivateKeyPath).filter (· ≠ "") with
  | none => .error
      ⟨"no JWT private key configured (set JWT_PRIVATE_KEY or JWT_PRIVATE_KEY_PATH)"⟩
  | some key => .ok key

/-- `public_key`. -/
def publicKey (files : Files) (S : KeySettings) : Except RuntimeError String :=
  match (resolveKey files S.jwtPublicKey S.jwtPublicKeyPath).filter (· ≠ "") with
  | none => .error ⟨"no JWT public key configured (set JWT_PUBLIC_KEY or JWT_PUBLIC_KEY_PATH)"⟩
  | some key => .ok key

/-- `get_settings`. -/
def getSettings (files : Files) (S : KeySettings) : Except RuntimeError KeySettings := do
  let _ ← S.privateKey files
  let _ ← S.publicKey files
  match S.serviceToken.filter (· ≠ "") with
  | none => .error ⟨"ACCOUNTS_SERVICE_TOKEN must be set"⟩
  | some _ => .ok S

/-- `build_container`: the verifier reads the key of the settings. -/
def container (files : Files) (P : Platform) (C : CookieSettings)
    (jwtDecode : Datetime → String → String → String → String → Option (List (String × String)))
    (S : KeySettings) : Container where
  platform := P
  cookies := C
  verifier := ⟨resolveKey files S.jwtPublicKey S.jwtPublicKeyPath, jwtDecode⟩
  serviceToken := S.serviceToken

end KeySettings

/-! ## Where exceptions come from -/

variable {A : Container} {env : Env} {call : Call} {d : Database}

/-- The header a call is identified by, if it is. -/
def Call.authorization : Call → Option (Option String)
  | me authorization | family authorization _ => some authorization
  | _ => none

/-- **Who raises what a call ends in**: the services, the cookie, the resolver
of identities, or the guard of the internal face. -/
theorem Container.serve_error {e : AppExn} (h : (A.serve env call d).1 = .error e) :
    (∃ x, e = .raised x) ∨ (∃ x, e = .cookie x) ∨
      (∃ authorization x, call.authorization = some authorization ∧ e = .resolver x ∧
        BearerIdentityResolver.resolve A.platform A.verifier env.now authorization = .error x) ∨
      ∃ token x, e = .guard x ∧ serviceGuard token A.serviceToken = .error x := by
  obtain ⟨s, hs⟩ := Tx.serve_fst_eq_error_iff.mp h
  -- an exception of the resolver is one of `resolve`
  have hresolver : ∀ {authorization : Option String},
      A.identity env authorization = .error e → ∃ x, e = .resolver x ∧
        BearerIdentityResolver.resolve A.platform A.verifier env.now authorization = .error x := by
    intro authorization hid
    unfold Container.identity at hid
    cases hr : BearerIdentityResolver.resolve A.platform A.verifier env.now authorization with
    | ok i =>
      rw [hr] at hid
      cases hid
    | error x =>
      rw [hr] at hid
      exact ⟨x, (Except.error.inj hid).symm, rfl⟩
  cases call with
  | auth cookies call =>
    rcases Tx.raises_bind.mp hs with hr | ⟨_, _, -, hp⟩
    · obtain ⟨x, -, rfl⟩ := Tx.raises_liftError.mp hr
      cases x with
      | inl x => exact Or.inl ⟨x, rfl⟩
      | inr x => exact Or.inr (Or.inl ⟨x, rfl⟩)
    · exact absurd hp Tx.raises_pure
  | me authorization =>
    rcases Tx.raises_bind.mp hs with hr | ⟨_, _, -, h₁⟩
    · obtain ⟨x, rfl, hx⟩ := hresolver (Tx.raises_lift.mp hr).1
      exact Or.inr (Or.inr (Or.inl ⟨_, x, rfl, rfl, hx⟩))
    · rcases Tx.raises_bind.mp h₁ with hr | ⟨_, _, -, hp⟩
      · obtain ⟨x, -, rfl⟩ := Tx.raises_liftError.mp hr
        exact Or.inl ⟨x, rfl⟩
      · exact absurd hp Tx.raises_pure
  | family authorization route =>
    rcases Tx.raises_bind.mp hs with hr | ⟨identity, _, -, h₁⟩
    · obtain ⟨x, rfl, hx⟩ := hresolver (Tx.raises_lift.mp hr).1
      exact Or.inr (Or.inr (Or.inl ⟨_, x, rfl, rfl, hx⟩))
    · rcases Tx.raises_bind.mp h₁ with hr | ⟨p, _, -, h₂⟩
      · have hcalls := (Tx.raises_lift.mp hr).1
        cases hc : route.calls identity with
        | ok p =>
          rw [hc] at hcalls
          cases hcalls
        | error x =>
          rw [hc] at hcalls
          exact Or.inl ⟨x, (Except.error.inj hcalls).symm⟩
      · rcases Tx.raises_bind.mp h₂ with hr | ⟨_, _, -, hp⟩
        · obtain ⟨x, -, rfl⟩ := Tx.raises_liftError.mp hr
          exact Or.inl ⟨x, rfl⟩
        · exact absurd hp Tx.raises_pure
  | internal token f op hint =>
    rcases Tx.raises_bind.mp hs with hr | ⟨_, _, -, h₁⟩
    · have hguard := (Tx.raises_lift.mp hr).1
      cases hg : serviceGuard token A.serviceToken with
      | ok u =>
        rw [hg] at hguard
        cases hguard
      | error x =>
        rw [hg] at hguard
        exact Or.inr (Or.inr (Or.inr ⟨token, x, (Except.error.inj hguard).symm, hg⟩))
    · rcases Tx.raises_bind.mp h₁ with hr | ⟨_, _, -, hp⟩
      · obtain ⟨x, -, rfl⟩ := Tx.raises_liftError.mp hr
        exact Or.inl ⟨x, rfl⟩
      · exact absurd hp Tx.raises_pure

/-- The 503 of the guard. -/
abbrev GuardExn.notConfigured : GuardExn := http 503 "internal face not configured"

/-- **The guard finds the face unconfigured** where no token is. -/
theorem serviceGuard_notConfigured_iff {token : Option HeaderText} {serviceToken : Option String} :
    serviceGuard token serviceToken = .error .notConfigured ↔ ¬ Configured serviceToken := by
  constructor
  · intro h hconf
    by_cases hcomp : Comparable serviceToken token
    · rcases serviceGuard_of_comparable hcomp with ⟨-, hok⟩ | ⟨-, detail, herr⟩
      · cases hok.symm.trans h
      · rw [if_pos hconf] at herr
        cases herr.symm.trans h
    · cases (serviceGuard_of_not_comparable hcomp).symm.trans h
  · intro hno
    unfold serviceGuard
    cases serviceToken with
    | none => rfl
    | some t => exact if_pos (by_contra (fun ht => hno ⟨t, rfl, ht⟩))

/-- **The resolver fails** where a token has to be verified and there is no
key. -/
theorem BearerIdentityResolver.resolve_runtimeError_iff {P : Platform} {V : Verifier}
    {now : Datetime} {authorization : Option String} :
    resolve P V now authorization = .error .runtimeError ↔
      (∃ token, Bears authorization token) ∧ ¬ ∃ key ∈ V.publicKey, key ≠ "" := by
  have hkey : Settings.publicKey V = .error .runtimeError ↔ ¬ ∃ key ∈ V.publicKey, key ≠ "" := by
    unfold Settings.publicKey
    cases V.publicKey with
    | none => simp
    | some key => by_cases hk : key = "" <;> simp [hk]
  by_cases hb : ∃ token, Bears authorization token
  · obtain ⟨token, hb⟩ := hb
    rw [and_iff_right ⟨token, hb⟩, ← hkey, resolve_bears hb, TokenService.decode]
    cases hpem : Settings.publicKey V with
    | error e =>
      obtain rfl : e = .runtimeError := by
        unfold Settings.publicKey at hpem
        split at hpem
        · exact (Except.error.inj hpem).symm
        · split at hpem
          · exact (Except.error.inj hpem).symm
          · cases hpem
      exact ⟨fun _ => rfl, fun _ => rfl⟩
    | ok key =>
      refine ⟨fun h => absurd h ?_, fun h => by cases h⟩
      -- what is raised past the key is a 401
      cases hjwt : V.jwtDecode now token key P.settings.jwtAudience P.settings.jwtIssuer with
      | none => simp [bind, Except.bind, hjwt, Except.mapError, asUnauthorized, unauthorized]
      | some payload =>
        cases hfam : payload.lookup "family_id" with
        | none =>
          simp [bind, Except.bind, hjwt, claim, hfam, Except.mapError, asUnauthorized,
            unauthorized]
        | some familyId =>
          cases hmem : payload.lookup "family_member_id" <;>
            simp [bind, Except.bind, hjwt, claim, hfam, hmem, Except.mapError, asUnauthorized,
              unauthorized, pure, Except.pure]
  · rw [resolve_malformed (fun token ht => hb ⟨token, ht⟩)]
    exact ⟨fun h => (by cases h), fun h => absurd h.1 hb⟩

/-! ## What is refused -/

variable {files : Files} {S : KeySettings}

namespace KeySettings

theorem privateKey_ok_iff : (∃ key, S.privateKey files = .ok key) ↔
    ∃ key ∈ resolveKey files S.jwtPrivateKey S.jwtPrivateKeyPath, key ≠ "" := by
  unfold privateKey
  cases resolveKey files S.jwtPrivateKey S.jwtPrivateKeyPath with
  | none => simp
  | some key => by_cases hk : key = "" <;> simp [Option.filter, hk]

theorem publicKey_ok_iff : (∃ key, S.publicKey files = .ok key) ↔
    ∃ key ∈ resolveKey files S.jwtPublicKey S.jwtPublicKeyPath, key ≠ "" := by
  unfold publicKey
  cases resolveKey files S.jwtPublicKey S.jwtPublicKeyPath with
  | none => simp
  | some key => by_cases hk : key = "" <;> simp [Option.filter, hk]

/-- **The settings that are accepted**: both keys resolve, and there is a
service token. -/
theorem getSettings_ok_iff : (∃ s, S.getSettings files = .ok s) ↔
    (∃ key, S.privateKey files = .ok key) ∧ (∃ key, S.publicKey files = .ok key) ∧
      Configured S.serviceToken := by
  unfold getSettings
  cases S.privateKey files with
  | error e => simp [bind, Except.bind]
  | ok private' =>
    cases S.publicKey files with
    | error e => simp [bind, Except.bind]
    | ok public' =>
      unfold Configured
      cases S.serviceToken with
      | none => simp [bind, Except.bind]
      | some t => by_cases ht : t = "" <;> simp [bind, Except.bind, Option.filter, ht]

end KeySettings

/-- A call ends in the exception of the resolver. -/
theorem Container.serve_me_error {authorization : Option String} {e : AppExn}
    (h : A.identity env authorization = .error e) :
    (A.serve env (.me authorization) d).1 = .error e := by
  rw [Container.serve, Container.run, h]
  rfl

/-- **What starts is configured.** The settings that `get_settings` accepts
are those with a private key under which no call, whatever it is and in
whatever state of the database, finds the internal face unconfigured or the
verifying key missing. -/
theorem startup_fails_closed (files : Files) (P : Platform) (C : CookieSettings)
    (jwtDecode : Datetime → String → String → String → String → Option (List (String × String)))
    (S : KeySettings) :
    (∃ s, S.getSettings files = .ok s) ↔
      (∃ key, S.privateKey files = .ok key) ∧
      ∀ env call d,
        ((S.container files P C jwtDecode).serve env call d).1 ≠ .error (.guard .notConfigured) ∧
        ((S.container files P C jwtDecode).serve env call d).1
          ≠ .error (.resolver .runtimeError) := by
  rw [KeySettings.getSettings_ok_iff]
  refine and_congr_right (fun _ => ⟨fun ⟨hkey, hconf⟩ env call d => ⟨fun h => ?_, fun h => ?_⟩,
    fun h => ⟨by_contra (fun hno => ?_), by_contra (fun hno => ?_)⟩⟩)
  · -- only the guard raises its 503, and only without a token
    rcases Container.serve_error h with ⟨_, he⟩ | ⟨_, he⟩ | ⟨_, _, -, he, -⟩ | ⟨_, _, he, hguard⟩
    · cases he
    · cases he
    · cases he
    · cases he
      exact serviceGuard_notConfigured_iff.mp hguard hconf
  · -- only the resolver fails for the key
    rcases Container.serve_error h with ⟨_, he⟩ | ⟨_, he⟩ | ⟨_, _, -, he, hr⟩ | ⟨_, _, he, -⟩
    · cases he
    · cases he
    · cases he
      exact (BearerIdentityResolver.resolve_runtimeError_iff.mp hr).2
        (KeySettings.publicKey_ok_iff.mp hkey)
    · cases he
  · -- without a key, `GET /me` with any token fails
    have hb : Bears (some "Bearer x") "x" :=
      ⟨"Bearer".toList, by decide, by decide, by decide, rfl⟩
    have hr : BearerIdentityResolver.resolve P (S.container files P C jwtDecode).verifier
        (Sample.second 0) (some "Bearer x") = .error .runtimeError :=
      BearerIdentityResolver.resolve_runtimeError_iff.mpr
        ⟨⟨_, hb⟩, fun hk => hno (KeySettings.publicKey_ok_iff.mpr hk)⟩
    exact (h (Sample.env 0 (Sample.second 0)) (.me (some "Bearer x")) (Store.empty schema)).2
      (Container.serve_me_error (congrArg (Except.mapError AppExn.resolver) hr))
  · -- without a token, any call of the internal face is refused
    refine (h (Sample.env 0 (Sample.second 0)) (.internal none 0 .context rfl)
      (Store.empty schema)).1 ?_
    have hg : serviceGuard none S.serviceToken = .error .notConfigured :=
      serviceGuard_notConfigured_iff.mpr hno
    show (Tx.serve _ (Tx.lift ((serviceGuard none S.serviceToken).mapError _) >>= _) _).1 = _
    rw [hg]
    rfl
