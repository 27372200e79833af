import Accounts.Faces
import Accounts.Text

/-!
# Who the caller of the external face is

`BearerIdentityResolver` reads the access token out of the `Authorization`
header, has it verified and takes the identity from its claims. The
verification – signature, expiry, issuer, audience – is PyJWT's and a
parameter: a `Verifier`. What is assumed of it is `Verifier.Accepts`: it
accepts the access tokens the service has answered with, each until it
expires, and nothing else. A token signed for a request that then failed
was handed to nobody and is not among them.

`authenticated_callers_are_members` is about every run and every header:
an identity is that of a member who is there, and everything else is
answered with a 401.
-/

variable {P : Platform}

/-! ## Access tokens -/

/-- The claims `TokenService.issue` signs. -/
def TokenService.claims (P : Platform) (env : Env) (familyId familyMemberId : String) :
    Option Claims :=
  (env.now.plusSeconds P.settings.jwtTtlSeconds).map (fun exp =>
    ⟨familyMemberId, familyId, familyMemberId, P.settings.jwtIssuer, P.settings.jwtAudience,
      env.now, exp⟩)

/-- An access token is the encoding of its claims. -/
theorem TokenService.issue_eq (P : Platform) (env : Env) (familyId familyMemberId : String) :
    TokenService.issue P env familyId familyMemberId
      = (TokenService.claims P env familyId familyMemberId).elim (.error .overflowError)
          (fun c => .ok (P.jwtEncode c (P.settings.jwtKeyId.filter (· ≠ "")))) := by
  unfold TokenService.issue TokenService.claims
  cases env.now.plusSeconds P.settings.jwtTtlSeconds <;> rfl

/-- The textual claims, as the dictionary they are signed as. -/
def Claims.payload (c : Claims) : List (String × String) :=
  [("sub", c.sub), ("family_id", c.familyId), ("family_member_id", c.familyMemberId),
    ("iss", c.iss), ("aud", c.aud)]

/-- `exp` is signed in whole seconds, and has passed. -/
def Claims.expired (c : Claims) (now : Datetime) : Bool :=
  c.exp.us / 1000000 * 1000000 ≤ now.us

/-- **The access tokens the service has answered with**, with the claims
they encode. -/
def minted (P : Platform) (log : List (Completed Env Request Flight Exn Response)) :
    List (String × Claims) :=
  log.filterMap (fun o => (answeredTokens o).bind (fun a =>
    (TokenService.claims P o.env a.familyId a.familyMemberId).map (a.accessToken, ·)))

/-! ## Verification -/

/-- The exceptions of the resolver. -/
inductive ResolverExn where
  /-- `HTTPException`: status, detail and headers. -/
  | http (statusCode : ℕ) (detail : String) (headers : List (String × String))
  /-- `jwt.InvalidTokenError`. -/
  | invalidTokenError
  /-- `KeyError`. -/
  | keyError
  /-- `RuntimeError`. -/
  | runtimeError
deriving DecidableEq

/-- **Verification of access tokens.** -/
structure Verifier where
  /-- The PEM of `jwt_public_key` or `jwt_public_key_path`, if there is one. -/
  publicKey : Option String
  /-- `jwt.decode(token, key, audience=…, issuer=…)` at a point of time:
  `none` is `InvalidTokenError`. -/
  jwtDecode : Datetime → String → String → String → String → Option (List (String × String))

/-- `Settings.public_key`. -/
def Settings.publicKey (V : Verifier) : Except ResolverExn String :=
  match V.publicKey with
  | none => .error .runtimeError
  | some key => if key = "" then .error .runtimeError else .ok key

/-- `TokenService.decode`. -/
def TokenService.decode (P : Platform) (V : Verifier) (now : Datetime) (token : String) :
    Except ResolverExn (List (String × String)) := do
  let key ← Settings.publicKey V
  match V.jwtDecode now token key P.settings.jwtAudience P.settings.jwtIssuer with
  | none => .error .invalidTokenError
  | some payload => .ok payload

/-- **What PyJWT does**: it accepts the access tokens the service has
answered with that have not expired, returns their claims unchanged, and
refuses everything else. -/
def Verifier.Accepts (V : Verifier) (P : Platform) (key : String)
    (tokens : List (String × Claims)) : Prop :=
  ∀ now token payload,
    V.jwtDecode now token key P.settings.jwtAudience P.settings.jwtIssuer = some payload ↔
      ∃ claims, (token, claims) ∈ tokens ∧ claims.expired now = false ∧ payload = claims.payload

/-! ## The resolver -/

/-- `text.partition(" ")`, without the separator. -/
def Py.partition (cs : List Char) : List Char × List Char :=
  (cs.takeWhile (· ≠ ' '), (cs.dropWhile (· ≠ ' ')).drop 1)

namespace BearerIdentityResolver

/-- `claims[key]`. -/
def claim (payload : List (String × String)) (key : String) : Except ResolverExn String :=
  (payload.lookup key).elim (.error .keyError) .ok

/-- `HTTPException` with status 401. -/
def unauthorized (detail : String) : ResolverExn :=
  .http 401 detail [("WWW-Authenticate", "Bearer")]

/-- `except (jwt.InvalidTokenError, KeyError)`. -/
def asUnauthorized : ResolverExn → ResolverExn
  | .invalidTokenError | .keyError => unauthorized "invalid or expired token"
  | e => e

/-- `resolve`, of the value of the `Authorization` header. -/
def resolve (P : Platform) (V : Verifier) (now : Datetime) (authorization : Option String) :
    Except ResolverExn Identity :=
  let parts := Py.partition (authorization.getD "").toList
  if Py.lower parts.1 ≠ "bearer".toList ∨ parts.2 = [] then
    .error (unauthorized "missing or malformed Authorization header")
  else
    (do
      let claims ← TokenService.decode P V now (String.ofList parts.2)
      let familyId ← claim claims "family_id"
      let familyMemberId ← claim claims "family_member_id"
      return ⟨familyId, familyMemberId, none⟩ : Except ResolverExn Identity).mapError asUnauthorized

end BearerIdentityResolver

/-! ## Headers -/

/-- **The header is `Bearer <token>`**, in any case of the scheme. -/
def Bears (authorization : Option String) (token : String) : Prop :=
  ∃ scheme, ' ' ∉ scheme ∧ Py.lower scheme = "bearer".toList ∧ token ≠ "" ∧
    authorization = some (String.ofList (scheme ++ ' ' :: token.toList))

/-- A text is partitioned at its first space. -/
theorem Py.partition_append {scheme token : List Char} (h : ' ' ∉ scheme) :
    Py.partition (scheme ++ ' ' :: token) = (scheme, token) := by
  have hne : ∀ c ∈ scheme, decide (c ≠ ' ') = true :=
    fun c hc => decide_eq_true (fun hcs => h (hcs ▸ hc))
  unfold Py.partition
  rw [List.takeWhile_append_of_pos hne, List.dropWhile_append_of_pos hne]
  simp

/-- A text with something after its first space is the two parts around
it. -/
theorem Py.eq_of_partition {cs : List Char} (h : (Py.partition cs).2 ≠ []) :
    ' ' ∉ (Py.partition cs).1 ∧ cs = (Py.partition cs).1 ++ ' ' :: (Py.partition cs).2 := by
  refine ⟨fun hs => ?_, ?_⟩
  · exact absurd (List.mem_takeWhile_imp hs) (by simp)
  · conv_lhs => rw [← List.takeWhile_append_dropWhile (p := fun c => decide (c ≠ ' ')) (l := cs)]
    refine congrArg _ ?_
    unfold Py.partition at h ⊢
    cases hd : cs.dropWhile (fun c => decide (c ≠ ' ')) with
    | nil => exact absurd (by rw [hd]; rfl) h
    | cons c rest =>
      have hc := List.head?_dropWhile_not (fun c => decide (c ≠ ' ')) cs
      rw [hd] at hc
      have hc' : c = ' ' := by simpa using hc
      rw [hc']
      rfl

namespace BearerIdentityResolver

variable {V : Verifier} {key : String} {now : Datetime} {authorization : Option String}

/-- A header that bears no token is refused. -/
theorem resolve_malformed (h : ∀ token, ¬ Bears authorization token) :
    resolve P V now authorization
      = .error (unauthorized "missing or malformed Authorization header") := by
  unfold resolve
  dsimp only
  refine if_pos (Decidable.byContradiction (fun hno => ?_))
  obtain ⟨hscheme, htoken⟩ := not_or.mp hno
  obtain ⟨hspace, heq⟩ := Py.eq_of_partition htoken
  cases authorization with
  | none => exact htoken rfl
  | some header =>
    refine h (String.ofList (Py.partition header.toList).2) ⟨(Py.partition header.toList).1, hspace,
      Decidable.not_not.mp hscheme, fun hempty => htoken ?_, ?_⟩
    · have := congrArg String.toList hempty
      rwa [String.toList_ofList] at this
    · have heq' : header.toList
          = (Py.partition header.toList).1 ++ ' ' :: (Py.partition header.toList).2 := heq
      rw [String.toList_ofList, ← heq', String.ofList_toList]

/-- A header that bears a token is what verifying the token says. -/
theorem resolve_bears {token : String} (h : Bears authorization token) :
    resolve P V now authorization = (do
      let claims ← TokenService.decode P V now token
      let familyId ← claim claims "family_id"
      let familyMemberId ← claim claims "family_member_id"
      return ⟨familyId, familyMemberId, none⟩ : Except ResolverExn Identity).mapError
        asUnauthorized := by
  obtain ⟨scheme, hspace, hlower, hne, rfl⟩ := h
  have htoken : token.toList ≠ [] := fun hnil => hne (by
    rw [← String.ofList_toList (s := token), hnil])
  unfold resolve
  dsimp only [Option.getD_some]
  rw [String.toList_ofList, Py.partition_append hspace,
    if_neg (not_or.mpr ⟨not_not.mpr hlower, htoken⟩), String.ofList_toList]

/-- **A token that is accepted gives the identity of its claims.** -/
theorem resolve_accepted {tokens : List (String × Claims)} {token : String} {claims : Claims}
    (hkey : V.publicKey = some key) (hne : key ≠ "") (hV : V.Accepts P key tokens)
    (h : Bears authorization token) (hmem : (token, claims) ∈ tokens)
    (hexp : claims.expired now = false) :
    resolve P V now authorization = .ok ⟨claims.familyId, claims.familyMemberId, none⟩ := by
  have hdec := (hV now token claims.payload).mpr ⟨claims, hmem, hexp, rfl⟩
  rw [resolve_bears h, TokenService.decode, Settings.publicKey, hkey]
  dsimp only
  rw [if_neg hne]
  show ((match V.jwtDecode now token key _ _ with
    | none => Except.error ResolverExn.invalidTokenError
    | some payload => .ok payload) >>= _).mapError asUnauthorized = _
  rw [hdec]
  rfl

/-- **Every other token is refused.** -/
theorem resolve_refused {tokens : List (String × Claims)} {token : String}
    (hkey : V.publicKey = some key) (hne : key ≠ "") (hV : V.Accepts P key tokens)
    (h : Bears authorization token)
    (hno : ∀ claims, (token, claims) ∈ tokens → claims.expired now = true) :
    resolve P V now authorization = .error (unauthorized "invalid or expired token") := by
  have hdec : V.jwtDecode now token key P.settings.jwtAudience P.settings.jwtIssuer = none := by
    rw [Option.eq_none_iff_forall_ne_some]
    intro payload hp
    obtain ⟨claims, hmem, hexp, -⟩ := (hV now token payload).mp hp
    exact Bool.false_ne_true (hexp.symm.trans (hno claims hmem))
  rw [resolve_bears h, TokenService.decode, Settings.publicKey, hkey]
  dsimp only
  rw [if_neg hne]
  show ((match V.jwtDecode now token key _ _ with
    | none => Except.error ResolverExn.invalidTokenError
    | some payload => .ok payload) >>= _).mapError asUnauthorized = _
  rw [hdec]
  rfl

end BearerIdentityResolver

/-! ## Callers are members -/

/-- **The ids of a minted token are those of a member**, written out. -/
theorem minted_member {ms : List (Move Env Request)}
    (hfaces : (concurrentService P).system.Every FromFace idle ms) {token : String}
    {claims : Claims}
    (h : (token, claims) ∈ minted P ((concurrentService P).system.run idle ms).log) :
    ∃ f m, claims.familyId = UUID.str f ∧ claims.familyMemberId = UUID.str m ∧
      ∃ r ∈ ((concurrentService P).system.run idle ms).shared.members,
        r.id = m ∧ r.familyId = f := by
  obtain ⟨o, ho, hoa⟩ := List.mem_filterMap.mp h
  obtain ⟨a, ha, hclaims⟩ := Option.bind_eq_some_iff.mp hoa
  obtain ⟨c, hc, hpair⟩ := Option.map_eq_some_iff.mp hclaims
  cases hpair
  obtain ⟨exp, -, rfl⟩ := Option.map_eq_some_iff.mp hc
  obtain ⟨-, f, m, hf, hm, hback⟩ := tokens_backed P ms o ho a ha
  exact ⟨f, m, hf, hm,
    hback.member (Reachable.familyReferences ⟨ms, calledByMember hfaces, rfl⟩)⟩

/-- **Authenticated callers are real members.** After every run of the two
faces, at every point of time and for every `Authorization` header: an
identity is returned only for a header that bears an unexpired token the
service has answered with, its ids are written-out identifiers, and they
are those of a member of the family; every other header ends in a 401. -/
theorem authenticated_callers_are_members (P : Platform) (V : Verifier) (key : String)
    (ms : List (Move Env Request))
    (hfaces : (concurrentService P).system.Every FromFace idle ms)
    (hkey : V.publicKey = some key) (hne : key ≠ "")
    (hV : V.Accepts P key (minted P ((concurrentService P).system.run idle ms).log))
    (now : Datetime) (authorization : Option String) :
    (∀ identity, BearerIdentityResolver.resolve P V now authorization = .ok identity →
      ∃ token claims f m, Bears authorization token ∧
        (token, claims) ∈ minted P ((concurrentService P).system.run idle ms).log ∧
        claims.expired now = false ∧
        claims.familyId = UUID.str f ∧ claims.familyMemberId = UUID.str m ∧
        UUID.ofString identity.familyId = some f ∧
        UUID.ofString identity.familyMemberId = some m ∧
        ∃ r ∈ ((concurrentService P).system.run idle ms).shared.members,
          r.id = m ∧ r.familyId = f) ∧
    ((¬ ∃ token claims, Bears authorization token ∧
        (token, claims) ∈ minted P ((concurrentService P).system.run idle ms).log ∧
        claims.expired now = false) →
      ∃ detail, BearerIdentityResolver.resolve P V now authorization
        = .error (.http 401 detail [("WWW-Authenticate", "Bearer")])) := by
  have hminted : ∀ {token claims},
      (token, claims) ∈ minted P ((concurrentService P).system.run idle ms).log →
      ∃ f m, claims.familyId = UUID.str f ∧ claims.familyMemberId = UUID.str m ∧
        ∃ r ∈ ((concurrentService P).system.run idle ms).shared.members,
          r.id = m ∧ r.familyId = f := fun h => minted_member hfaces h
  generalize minted P ((concurrentService P).system.run idle ms).log = tokens at hV hminted ⊢
  by_cases hbears : ∃ token, Bears authorization token
  · obtain ⟨token, hbears⟩ := hbears
    by_cases hacc : ∃ claims, (token, claims) ∈ tokens ∧ claims.expired now = false
    · obtain ⟨claims, hmem, hexp⟩ := hacc
      rw [BearerIdentityResolver.resolve_accepted hkey hne hV hbears hmem hexp]
      refine ⟨fun identity hid => ?_, fun hno => absurd ⟨token, claims, hbears, hmem, hexp⟩ hno⟩
      cases hid
      obtain ⟨f, m, hf, hm, hrow⟩ := hminted hmem
      exact ⟨token, claims, f, m, hbears, hmem, hexp, hf, hm,
        (congrArg UUID.ofString hf).trans f.ofString_str,
        (congrArg UUID.ofString hm).trans m.ofString_str, hrow⟩
    · have hall : ∀ claims, (token, claims) ∈ tokens → claims.expired now = true := by
        intro claims hmem
        exact Bool.eq_true_of_not_eq_false (fun hexp => hacc ⟨claims, hmem, hexp⟩)
      rw [BearerIdentityResolver.resolve_refused hkey hne hV hbears hall]
      exact ⟨fun _ hid => (by cases hid), fun _ => ⟨_, rfl⟩⟩
  · rw [BearerIdentityResolver.resolve_malformed (fun token hb => hbears ⟨token, hb⟩)]
    exact ⟨fun _ hid => (by cases hid), fun _ => ⟨_, rfl⟩⟩

/-! ### A member that has just signed up -/

namespace Sample

/-- A family is founded. -/
def founding : List (Move Env Request) := [
  .start (Sample.env 1 (second 0)) (.auth (.signup (signup "ada@example.org" none))),
  .finish (Sample.env 1 (second 0)) 0]

/-- The claims of its founder. -/
def founder : Claims where
  sub := "00000000-0000-0000-0000-000000000001"
  familyId := "00000000-0000-0000-0000-000000000001"
  familyMemberId := "00000000-0000-0000-0000-000000000001"
  iss := "book-recommendation-accounts"
  aud := "book-recommendation"
  iat := second 0
  exp := second 3600

/-- A verifier that knows the founder's token. -/
def verifier : Verifier where
  publicKey := some "PEM"
  jwtDecode now token key audience issuer :=
    if token = founder.sub ∧ key = "PEM" ∧ audience = founder.aud ∧ issuer = founder.iss ∧
        founder.expired now = false then some founder.payload
    else none

theorem minted_founding : minted (platform 2592000)
    ((concurrentService (platform 2592000)).system.run idle founding).log
      = [(founder.sub, founder)] := by
  decide +kernel

theorem verifier_accepts : verifier.Accepts (platform 2592000) "PEM"
    (minted (platform 2592000)
      ((concurrentService (platform 2592000)).system.run idle founding).log) := by
  intro now token payload
  rw [minted_founding]
  show (if token = founder.sub ∧ "PEM" = "PEM" ∧ founder.aud = founder.aud ∧
    founder.iss = founder.iss ∧ founder.expired now = false then some founder.payload else none)
      = some payload ↔ _
  simp only [true_and, List.mem_singleton, Prod.mk.injEq]
  constructor
  · intro h
    split at h
    · next hc => exact ⟨founder, ⟨hc.1, rfl⟩, hc.2, (Option.some.inj h).symm⟩
    · cases h
  · rintro ⟨claims, ⟨rfl, rfl⟩, hexp, rfl⟩
    rw [if_pos ⟨rfl, hexp⟩]

end Sample

/-- The founder presents the access token, in time and too late. -/
theorem authenticated_callers_are_members_founder :
    (∃ r ∈ ((concurrentService (Sample.platform 2592000)).system.run idle
        Sample.founding).shared.members, r.id = 1 ∧ r.familyId = 1) ∧
    ∃ detail, BearerIdentityResolver.resolve (Sample.platform 2592000) Sample.verifier
        (Sample.second 3600) (some "Bearer 00000000-0000-0000-0000-000000000001")
      = .error (.http 401 detail [("WWW-Authenticate", "Bearer")]) := by
  have happly := fun now => authenticated_callers_are_members (Sample.platform 2592000)
    Sample.verifier "PEM" Sample.founding (by decide +kernel) rfl (by decide)
    Sample.verifier_accepts now (some "Bearer 00000000-0000-0000-0000-000000000001")
  constructor
  · obtain ⟨_, _, f, m, -, -, -, -, -, hf, hm, hrow⟩ := (happly (Sample.second 60)).1
      ⟨"00000000-0000-0000-0000-000000000001", "00000000-0000-0000-0000-000000000001", none⟩
      (by decide +kernel)
    have h1 : UUID.ofString "00000000-0000-0000-0000-000000000001" = some 1 := by decide +kernel
    obtain rfl := Option.some.inj (h1.symm.trans hf)
    obtain rfl := Option.some.inj (h1.symm.trans hm)
    exact hrow
  · refine (happly (Sample.second 3600)).2 ?_
    rintro ⟨token, claims, -, hmem, hexp⟩
    rw [Sample.minted_founding, List.mem_singleton] at hmem
    cases hmem
    exact absurd hexp (by decide +kernel)
