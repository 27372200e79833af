import Accounts.Application

/-!
# The external face

The routes of the family router and `GET /me` resolve the identity of the
caller first. `external_gate` is what this comes to after any run of the
application: a header that bears an unexpired access token reaches the service
with the family and the member of the token, who are there; every other
header is answered with a 401, and nothing is read or written.

`GET /me` has a branch for an identity without a member. No such identity gets
so far: a member who has been issued tokens cannot be deleted, so what is
answered is always the member's own row (`me_is_the_member`).
-/

open Repository

variable {A : Container} {P : Platform} {env : Env} {f : UUID} {d : Database} {s : Served}
  {authorization : Option String}

/-! ## Identities -/

/-- **The verifier is the one that goes with the tokens**: it has a key, and
accepts the tokens that calls were answered with. -/
structure Container.Verifies (A : Container) (s : Served) : Prop where
  /-- There is a key. -/
  key : ∃ key ∈ A.verifier.publicKey, key ≠ ""
  /-- It is the key of the tokens. -/
  accepts : ∀ key ∈ A.verifier.publicKey, A.verifier.Accepts A.platform key s.tokens

/-- An unexpired token gives the identity of its claims. -/
theorem Container.Verifies.identity (h : A.Verifies s) {token : String} {claims : Claims}
    (hb : Bears authorization token) (hmem : (token, claims) ∈ s.tokens)
    (hexp : claims.expired env.now = false) :
    A.identity env authorization = .ok ⟨claims.familyId, claims.familyMemberId, none⟩ := by
  obtain ⟨key, hkey, hne⟩ := h.key
  rw [Container.identity,
    BearerIdentityResolver.resolve_accepted hkey hne (h.accepts key hkey) hb hmem hexp]
  rfl

/-- **Every other header is refused with a 401.** -/
theorem Container.Verifies.refused (h : A.Verifies s)
    (hno : ¬ ∃ token claims, Bears authorization token ∧ (token, claims) ∈ s.tokens ∧
      claims.expired env.now = false) :
    ∃ e, A.identity env authorization = .error e ∧ e.statusCode = 401 := by
  obtain ⟨key, hkey, hne⟩ := h.key
  by_cases hb : ∃ token, Bears authorization token
  · obtain ⟨token, hb⟩ := hb
    refine ⟨.resolver (BearerIdentityResolver.unauthorized "invalid or expired token"), ?_, rfl⟩
    rw [Container.identity, BearerIdentityResolver.resolve_refused hkey hne (h.accepts key hkey) hb
      (fun claims hmem => Bool.eq_true_of_not_eq_false (fun hexp =>
        hno ⟨token, claims, hb, hmem, hexp⟩))]
    rfl
  · refine ⟨.resolver (BearerIdentityResolver.unauthorized
      "missing or malformed Authorization header"), ?_, rfl⟩
    rw [Container.identity,
      BearerIdentityResolver.resolve_malformed (fun token ht => hb ⟨token, ht⟩)]
    rfl

/-- **The member of an access token** is there. -/
theorem Served.Sound.member (h : s.Sound) {token : String} {claims : Claims}
    (hmem : (token, claims) ∈ s.tokens) :
    ∃ r ∈ s.db.members, claims.familyId = UUID.str r.familyId ∧
      claims.familyMemberId = UUID.str r.id := by
  obtain ⟨f, m, hf, hm, hback⟩ := h.backed _ hmem
  obtain ⟨r, hr, rfl, rfl⟩ := hback.member h.references
  exact ⟨r, hr, hf, hm⟩

/-! ## The routes of a family -/

/-- **The operation of a route**, called by a member. -/
def FamilyRoute.op (memberId : UUID) : FamilyRoute → FamilyOp
  | createInvite body => .createInvite memberId body
  | route op _ _ => op

/-- Whose identifiers can be read calls the operation. -/
theorem FamilyRoute.calls_eq {identity : Identity} {m : UUID} (route : FamilyRoute)
    (hf : UUID.ofString identity.familyId = some f)
    (hm : UUID.ofString identity.familyMemberId = some m) :
    route.calls identity = .ok (f, route.op m) := by
  cases route <;>
    simp [calls, fid, UUID.parse_of_ofString hf, UUID.parse_of_ofString hm, op, bind, Except.bind,
      pure, Except.pure]

/-- **A route of the family router whose caller is known** serves the
operation. -/
theorem Container.serve_family {identity : Identity} {m : UUID} (route : FamilyRoute)
    (hid : A.identity env authorization = .ok identity)
    (hf : UUID.ofString identity.familyId = some f)
    (hm : UUID.ofString identity.familyMemberId = some m) :
    A.serve env (.family authorization route) d
      = ((Tx.serve Exn.handled ((route.op m).run A.platform env f) d).1.mapError .raised |>.map
          AppReply.service,
        (Tx.serve Exn.handled ((route.op m).run A.platform env f) d).2) := by
  have hrun : A.run env (.family authorization route)
      = do return .service (← Tx.liftError .raised ((route.op m).run A.platform env f)) := by
    rw [Container.run, hid]
    show (Tx.lift ((route.calls identity).mapError AppExn.raised) >>= _) = _
    rw [route.calls_eq hf hm]
    rfl
  rw [Container.serve, hrun, Tx.serve_map,
    Tx.serve_liftError (show ∀ e, AppExn.handled (.raised e) = e.handled from fun _ => rfl)]

/-- **The gate of the external face.** After any run of genuine calls, a route
of the family router that is called with the unexpired access token of a
member serves the operation, for the family of that member and in its name.
With any other header it is answered with a 401, and changes nothing. -/
theorem external_gate (A : Container) (calls : List (Env × Call))
    (h : (application A).Every (Genuine A) Served.initial calls)
    (hV : A.Verifies ((application A).run Served.initial calls)) (env : Env)
    (authorization : Option String) (route : FamilyRoute) :
    let s := (application A).run Served.initial calls
    (∀ token claims, Bears authorization token → (token, claims) ∈ s.tokens →
        claims.expired env.now = false →
      ∃ r ∈ s.db.members, claims.familyId = UUID.str r.familyId ∧
        claims.familyMemberId = UUID.str r.id ∧
        A.serve env (.family authorization route) s.db
          = ((serve A.platform env (.family r.familyId (route.op r.id)) s.db).1.mapError .raised
              |>.map AppReply.service,
            (serve A.platform env (.family r.familyId (route.op r.id)) s.db).2)) ∧
    ((¬ ∃ token claims, Bears authorization token ∧ (token, claims) ∈ s.tokens ∧
        claims.expired env.now = false) →
      ∃ e, A.serve env (.family authorization route) s.db = (.error e, s.db) ∧
        e.statusCode = 401) := by
  intro s
  have hsound : s.Sound := Served.sound_run h
  refine ⟨fun token claims hb hmem hexp => ?_, fun hno => ?_⟩
  · obtain ⟨r, hr, hf, hm⟩ := hsound.member hmem
    exact ⟨r, hr, hf, hm, Container.serve_family route (hV.identity hb hmem hexp)
      ((congrArg UUID.ofString hf).trans r.familyId.ofString_str)
      ((congrArg UUID.ofString hm).trans r.id.ofString_str)⟩
  · obtain ⟨e, he, hstatus⟩ := hV.refused hno
    exact ⟨e, Container.serve_refused he _, hstatus⟩

namespace Sample

/-- The application, once the family is founded. -/
def served : Served := (application container).run Served.initial calls

/-- The token of the founder is the one that was answered. -/
theorem tokens_calls : served.tokens = [(founder.sub, founder)] := by
  decide +kernel

theorem mem_tokens_calls : (founder.sub, founder) ∈ served.tokens := by
  rw [tokens_calls]
  exact List.mem_singleton.mpr rfl

theorem not_expired : founder.expired (second 60) = false := by
  decide

theorem container_verifies : container.Verifies served := by
  refine ⟨⟨"PEM", rfl, by decide⟩, fun key hkey => ?_⟩
  obtain rfl : "PEM" = key := Option.some.inj hkey
  have hV : verifier.Accepts (platform 2592000) "PEM" (minted (platform 2592000)
      ((concurrentService (platform 2592000)).system.run idle founding).log) := verifier_accepts
  rw [minted_founding] at hV
  rw [tokens_calls]
  exact hV

/-- The header of the founder. -/
def bearer : Option String := some "Bearer 00000000-0000-0000-0000-000000000001"

theorem bears_bearer : Bears bearer founder.sub :=
  ⟨"Bearer".toList, by decide, by decide, by decide, by decide⟩

/-- After an hour, no token of the founder is left. -/
theorem expired_calls :
    ¬ ∃ token claims, Bears bearer token ∧ (token, claims) ∈ served.tokens ∧
      claims.expired (second 3600) = false := by
  rintro ⟨token, claims, -, hmem, hexp⟩
  rw [tokens_calls, List.mem_singleton] at hmem
  cases hmem
  exact absurd hexp (by decide)

end Sample

/-- The founder asks for an invite, in time and too late. -/
theorem external_gate_founder :
    (∃ r ∈ Sample.served.db.members,
      (Sample.container.serve (Sample.env 2 (Sample.second 60))
          (.family Sample.bearer (.createInvite ⟨"member", some 72⟩)) Sample.served.db).2
        = (serve Sample.container.platform (Sample.env 2 (Sample.second 60))
            (.family r.familyId (.createInvite r.id ⟨"member", some 72⟩)) Sample.served.db).2) ∧
      ∃ e, Sample.container.serve (Sample.env 2 (Sample.second 3600))
          (.family Sample.bearer (.createInvite ⟨"member", some 72⟩)) Sample.served.db
        = (.error e, Sample.served.db) ∧ e.statusCode = 401 := by
  have happly := fun now => external_gate Sample.container Sample.calls (by decide +kernel)
    Sample.container_verifies (Sample.env 2 now) Sample.bearer (.createInvite ⟨"member", some 72⟩)
  refine ⟨?_, (happly (Sample.second 3600)).2 Sample.expired_calls⟩
  obtain ⟨r, hr, -, -, hserve⟩ := (happly (Sample.second 60)).1 Sample.founder.sub Sample.founder
    Sample.bears_bearer Sample.mem_tokens_calls Sample.not_expired
  exact ⟨r, hr, congrArg Prod.snd hserve⟩

/-! ## Who am I -/

/-- What `GET /me` shows of a member. -/
def FamilyMember.me (r : FamilyMember) : List (String × Option String) :=
  [("family_id", some (UUID.str r.familyId)), ("family_member_id", some (UUID.str r.id)),
    ("child_id", none), ("email", r.email), ("display_name", r.displayName)]

/-- **`me` of a member who is there** shows the member. -/
theorem AuthRouter.me_returns {identity : Identity} {session : Session Database} {r : FamilyMember}
    (hr : r ∈ session.working.members) (hf : UUID.ofString identity.familyId = some r.familyId)
    (hm : UUID.ofString identity.familyMemberId = some r.id) :
    (me identity).Returns session
      (identity.toContext ++ [("email", r.email), ("display_name", r.displayName)]) session := by
  have hget : (MemberService.get r.familyId r.id : Op MemberDump).Returns session r.dump session :=
    Tx.returns_bind.mpr ⟨r, session, MemberService.require_returns.mpr ⟨hr, rfl, rfl, rfl⟩,
      Tx.returns_pure.mpr ⟨rfl, rfl⟩⟩
  have hbody : (do
      let familyId ← Tx.lift (UUID.parse identity.familyId)
      let memberId ← Tx.lift (UUID.parse identity.familyMemberId)
      MemberService.get familyId memberId : Op MemberDump).Returns session r.dump session := by
    rw [UUID.parse_of_ofString hf, UUID.parse_of_ofString hm]
    exact hget
  exact Tx.returns_bind.mpr ⟨.ok r.dump, session, Tx.returns_attempt.mpr hbody,
    Tx.returns_pure.mpr ⟨rfl, rfl⟩⟩

/-- `GET /me` of a caller who is known. -/
theorem Container.serve_me {identity : Identity} {r : FamilyMember}
    (hid : A.identity env authorization = .ok identity) (hr : r ∈ d.members)
    (hf : UUID.ofString identity.familyId = some r.familyId)
    (hm : UUID.ofString identity.familyMemberId = some r.id) :
    A.serve env (.me authorization) d
      = (.ok (.me (identity.toContext ++ [("email", r.email), ("display_name", r.displayName)])),
        d) := by
  have hme := @AuthRouter.me_returns identity ⟨d, d⟩ r hr hf hm
  have hrun : A.run env (.me authorization)
      = (Tx.liftError .raised (AuthRouter.me identity) >>= fun m => pure (.me m)) := by
    rw [Container.run, hid]
    rfl
  rw [Container.serve, hrun, Tx.serve_map,
    Tx.serve_liftError (show ∀ e, AppExn.handled (.raised e) = e.handled from fun _ => rfl),
    Tx.serve_ok_iff.mpr ⟨_, hme, rfl⟩]
  rfl

/-- **`GET /me` answers with the member's own row.** After any run of genuine
calls and for every header: an unexpired access token is answered with the
identifiers it names and the email and the display name that are stored for
this member – never without them –, and every other header with a 401. Nothing
is changed. -/
theorem me_is_the_member (A : Container) (calls : List (Env × Call))
    (h : (application A).Every (Genuine A) Served.initial calls)
    (hV : A.Verifies ((application A).run Served.initial calls)) (env : Env)
    (authorization : Option String) :
    let s := (application A).run Served.initial calls
    (∀ token claims, Bears authorization token → (token, claims) ∈ s.tokens →
        claims.expired env.now = false →
      ∃ r ∈ s.db.members, claims.familyId = UUID.str r.familyId ∧
        claims.familyMemberId = UUID.str r.id ∧
        A.serve env (.me authorization) s.db = (.ok (.me r.me), s.db)) ∧
    ((¬ ∃ token claims, Bears authorization token ∧ (token, claims) ∈ s.tokens ∧
        claims.expired env.now = false) →
      ∃ e, A.serve env (.me authorization) s.db = (.error e, s.db) ∧ e.statusCode = 401) := by
  intro s
  have hsound : s.Sound := Served.sound_run h
  refine ⟨fun token claims hb hmem hexp => ?_, fun hno => ?_⟩
  · obtain ⟨r, hr, hf, hm⟩ := hsound.member hmem
    have hserve := Container.serve_me (hV.identity hb hmem hexp) hr
      ((congrArg UUID.ofString hf).trans r.familyId.ofString_str)
      ((congrArg UUID.ofString hm).trans r.id.ofString_str)
    refine ⟨r, hr, hf, hm, hserve.trans ?_⟩
    rw [Identity.toContext, hf, hm]
    rfl
  · obtain ⟨e, he, hstatus⟩ := hV.refused hno
    exact ⟨e, Container.serve_refused he _, hstatus⟩

/-- The founder asks who it is, in time and too late. -/
theorem me_is_the_member_founder :
    (∃ r ∈ Sample.served.db.members,
      Sample.container.serve (Sample.env 2 (Sample.second 60)) (.me Sample.bearer) Sample.served.db
        = (.ok (.me r.me), Sample.served.db)) ∧
      ∃ e, Sample.container.serve (Sample.env 2 (Sample.second 3600)) (.me Sample.bearer)
          Sample.served.db
        = (.error e, Sample.served.db) ∧ e.statusCode = 401 := by
  have happly := fun now => me_is_the_member Sample.container Sample.calls (by decide +kernel)
    Sample.container_verifies (Sample.env 2 now) Sample.bearer
  refine ⟨?_, (happly (Sample.second 3600)).2 Sample.expired_calls⟩
  obtain ⟨r, hr, -, -, hserve⟩ := (happly (Sample.second 60)).1 Sample.founder.sub Sample.founder
    Sample.bears_bearer Sample.mem_tokens_calls Sample.not_expired
  exact ⟨r, hr, hserve⟩
