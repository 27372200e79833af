import Accounts.Cookies
import Accounts.Gate
import Accounts.Identity
import Accounts.Tenants

/-!
# The application

A call is what a client sends: cookies, an `Authorization` header or an
`X-Service-Token`, and what the route reads besides. The routes are thin. They
establish who calls and on behalf of which family, and then a service does
what it does; so the database that a call leaves is that of a request of the
service, or the one it met (`Container.serve_cases`).

`application_mediates` says what that is good for. In a run of any calls,
whatever the headers and cookies, the rows of a family change only in a call
that is entitled to them: by an unexpired access token of a member of the
family, by the service token, by the password of a member, by a refresh token
or an active invite of the family – or by founding it.
-/

open Repository

/-! ## The container -/

/-- **What the application is wired from**: the platform, the settings of the
cookie, the verification of access tokens, and the service token. -/
structure Container where
  /-- The platform, with the settings of the services. -/
  platform : Platform
  /-- The settings of the refresh cookie. -/
  cookies : CookieSettings
  /-- How access tokens are verified. -/
  verifier : Verifier
  /-- `service_token`. -/
  serviceToken : Option String

/-- **The exceptions of a call.** -/
inductive AppExn where
  /-- Raised by a service, or by a route. -/
  | raised (e : Exn)
  /-- Raised when the cookie is set. -/
  | cookie (e : CookieError)
  /-- Raised by the resolver of identities. -/
  | resolver (e : ResolverExn)
  /-- Raised by the guard of the internal face. -/
  | guard (e : GuardExn)
deriving DecidableEq

namespace AppExn

/-- Whether an exception handler answers the exception before the request
scope closes. -/
def handled : AppExn → Bool
  | raised e => e.handled
  | resolver (.http _ _ _) | guard (.http _ _) => true
  | _ => false

/-- The status a call that raises is answered with: that of `_service_exc` or
`_http_exc`, or the 500 of `_unhandled_exc`. -/
def statusCode : AppExn → ℕ
  | raised (.service e) => e.statusCode
  | resolver (.http statusCode _ _) | guard (.http statusCode _) => statusCode
  | _ => 500

end AppExn

/-- The body of a call. -/
abbrev AppOp (α : Type) : Type := Tx Database AppExn α

/-! ## The routes -/

/-- `uuid.UUID(text)`. -/
def UUID.parse (text : String) : Except Exn UUID :=
  (UUID.ofString text).elim (.error .valueError) .ok

/-- `to_context`. -/
def Identity.toContext (i : Identity) : List (String × Option String) :=
  [("family_id", some i.familyId), ("family_member_id", some i.familyMemberId),
    ("child_id", i.childId)]

/-- `_fid`. -/
def fid (identity : Identity) : Except Exn UUID := UUID.parse identity.familyId

/-- **A route of the family router**, with what it reads from the request. -/
inductive FamilyRoute where
  /-- `create_invite`, which is called by the member of the identity. -/
  | createInvite (body : InviteCreate)
  /-- A route that reads the family of the identity only. -/
  | route (op : FamilyOp) (external : op.external = true) (anonymous : op.caller = none)

/-- **The operation a route calls**, and for which family. -/
def FamilyRoute.calls (identity : Identity) : FamilyRoute → Except Exn (UUID × FamilyOp)
  | createInvite body => do
    let familyId ← fid identity
    let memberId ← UUID.parse identity.familyMemberId
    return (familyId, .createInvite memberId body)
  | route op _ _ => do
    let familyId ← fid identity
    return (familyId, op)

/-- `me`. -/
def AuthRouter.me (identity : Identity) : Op (List (String × Option String)) := do
  let member ← Tx.attempt (do
    let familyId ← Tx.lift (UUID.parse identity.familyId)
    let memberId ← Tx.lift (UUID.parse identity.familyMemberId)
    MemberService.get familyId memberId)
  match member with
  | .ok member =>
    return identity.toContext ++ [("email", member.email), ("display_name", member.displayName)]
  | .error .valueError | .error (.service (.notFound _)) => return identity.toContext
  | .error e => Tx.raise e

/-- **What a client sends.** -/
inductive Call where
  /-- To the four routes of the session, with the cookies of the request. -/
  | auth (cookies : List (String × String)) (call : AuthCall)
  /-- To `GET /me`, with its `Authorization` header. -/
  | me (authorization : Option String)
  /-- To the family router, with its `Authorization` header. -/
  | family (authorization : Option String) (route : FamilyRoute)
  /-- To the internal face, with its `X-Service-Token`. -/
  | internal (xServiceToken : Option HeaderText) (familyId : UUID) (op : FamilyOp)
      (internal : op.internal = true)

/-- What a call that returns is answered with. -/
inductive AppReply where
  /-- By a route of the session. -/
  | auth (r : Reply)
  /-- By `GET /me`. -/
  | me (fields : List (String × Option String))
  /-- By any other route. -/
  | service (r : Response)
deriving DecidableEq

/-! ## The application as a process -/

namespace Container

variable (A : Container) (env : Env)

/-- The identity of a call. -/
def identity (authorization : Option String) : Except AppExn Identity :=
  (BearerIdentityResolver.resolve A.platform A.verifier env.now authorization).mapError .resolver

/-- **The body of a call.** -/
def run : Call → AppOp AppReply
  | .auth cookies call => do
    return .auth (← Tx.liftError (Sum.elim .raised .cookie)
      (AuthRouter.handler A.platform A.cookies env cookies call))
  | .me authorization => do
    let identity ← Tx.lift (A.identity env authorization)
    return .me (← Tx.liftError .raised (AuthRouter.me identity))
  | .family authorization route => do
    let identity ← Tx.lift (A.identity env authorization)
    let (familyId, op) ← Tx.lift ((route.calls identity).mapError .raised)
    return .service (← Tx.liftError .raised (op.run A.platform env familyId))
  | .internal xServiceToken familyId op _ => do
    Tx.lift ((serviceGuard xServiceToken A.serviceToken).mapError .guard)
    return .service (← Tx.liftError .raised (op.internalRoute A.platform env familyId))

/-- **Serve one call**, in its transaction. -/
def serve (call : Call) (d : Database) : Except AppExn AppReply × Database :=
  Tx.serve AppExn.handled (A.run env call) d

/-- **The access tokens of an answer**, with the claims they encode. -/
def accessTokens : Except AppExn AppReply → List (String × Claims)
  | .ok (.auth (.tokens body _)) =>
    ((TokenService.claims A.platform env body.familyId body.familyMemberId).map
      (body.accessToken, ·)).toList
  | _ => []

end Container

/-- The database, and the access tokens that calls have been answered with. -/
structure Served where
  /-- The database. -/
  db : Database
  /-- The access tokens. -/
  tokens : List (String × Claims)

/-- Nothing has been called. -/
def Served.initial : Served := ⟨Store.empty schema, []⟩

/-- **The application**: calls, one after the other. -/
def application (A : Container) : Process Served (Env × Call) (Except AppExn AppReply) where
  step i s := ((A.serve i.1 i.2 s.db).1,
    ⟨(A.serve i.1 i.2 s.db).2, s.tokens ++ A.accessTokens i.1 (A.serve i.1 i.2 s.db).1⟩)

/-! ## What calls are assumed to be -/

/-- The token a header bears, computed. -/
def bearerToken (authorization : Option String) : Option String :=
  let parts := Py.partition (authorization.getD "").toList
  if Py.lower parts.1 ≠ "bearer".toList ∨ parts.2 = [] then none
  else some (String.ofList parts.2)

/-- The token a call bears, if it needs one. -/
def Call.bearer : Call → Option String
  | me authorization | family authorization _ => bearerToken authorization
  | _ => none

/-- **A call is genuine**: if the token it bears is accepted, it is an
unexpired one that a call was answered with, and accepted with its claims; and
the session that the call may open is new. -/
def Genuine (A : Container) (s : Served) (i : Env × Call) : Prop :=
  (∀ token ∈ i.2.bearer, ∀ key ∈ A.verifier.publicKey,
    ∀ payload ∈ A.verifier.jwtDecode i.1.now token key A.platform.settings.jwtAudience
      A.platform.settings.jwtIssuer,
    ∃ p ∈ s.tokens, p.1 = token ∧ p.2.expired i.1.now = false ∧ payload = p.2.payload) ∧
  ∀ r ∈ s.db.refreshTokens, r.sessionId ≠ i.1.sessionId

instance (A : Container) (s : Served) (i : Env × Call) : Decidable (Genuine A s i) :=
  inferInstanceAs (Decidable (_ ∧ _))

/-! ## Entitlement -/

/-- **The request is entitled to the rows of the family**: it presents a
credential of the family, or founds it. -/
def Request.Entitled (P : Platform) (env : Env) (f : UUID) (d : Database) : Request → Prop
  | family g _ => g = f
  | auth (.signup body) =>
    match body.inviteCode with
    | none => env.newId .family = f
    | some code => ∃ i ∈ d.invites, i.isActive env.now = true ∧
        InviteCodec.hash P code = .ok i.codeHash ∧ i.familyId = f
  | auth (.login body) => ∃ m ∈ d.members, m.email = some body.email ∧
      PasswordHasher.verify P body.password (AuthService.storedHash m) = .ok true ∧ m.familyId = f
  | auth (.refresh raw) | auth (.logout raw) =>
    ∃ r ∈ d.refreshTokens, r.tokenHash = RefreshTokenCodec.hash P raw ∧ r.familyId = f

/-- The request of the service a call to a route of the session comes to. -/
def AuthCall.request (cookies : List (String × String)) : AuthCall → Option AuthOp
  | signup body => some (.signup body)
  | login body => some (.login body)
  | refresh => (AuthRouter.presented (cookieParam "refresh_token" cookies)).map .refresh
  | logout => (AuthRouter.presented (cookieParam "refresh_token" cookies)).map .logout

/-- **A member calls**: the header bears an unexpired access token that a call
was answered with, and its claims name a member of the family who is there. -/
def MemberCalls (f : UUID) (now : Datetime) (s : Served) (authorization : Option String) : Prop :=
  ∃ token claims m, Bears authorization token ∧ (token, claims) ∈ s.tokens ∧
    claims.expired now = false ∧ claims.familyId = UUID.str f ∧
    claims.familyMemberId = UUID.str m ∧ ∃ r ∈ s.db.members, r.id = m ∧ r.familyId = f

/-- **The call is entitled to the rows of the family.** -/
def Call.Entitled (A : Container) (env : Env) (f : UUID) (s : Served) : Call → Prop
  | auth cookies call => ∃ op ∈ call.request cookies,
      (Request.auth op).Entitled A.platform env f s.db
  | me _ => False
  | family authorization _ => MemberCalls f env.now s authorization
  | internal xServiceToken g _ _ => g = f ∧ Admits A.serviceToken xServiceToken

variable {A : Container} {P : Platform} {S : CookieSettings} {env : Env} {f : UUID} {d : Database}

/-! ## What a call comes to -/

namespace AuthRouter

/-- **What the router makes of the service's response**: the cookie of the
tokens, or the one that deletes it. -/
def answer (P : Platform) (S : CookieSettings) : Response → Handler Reply
  | .tokens a => do
    let cookie ← setRefreshCookie P S a.refreshToken
    return .tokens (tokenBody a) cookie
  | _ => do
    let cookie ← setCookie (expiredCookie S)
    return .noContent cookie

theorem reads_answer (response : Response) : Tx.Reads (answer P S response) := by
  cases response <;> exact (Tx.Reads.lift _).bind (fun _ => Tx.Reads.pure _)

/-- Only tokens are answered with tokens. -/
theorem answer_tokens {response : Response} {body : TokenResponse} {cookie : SetCookie}
    {s s' : Session Database} (h : (answer P S response).Returns s (.tokens body cookie) s') :
    ∃ a, response = .tokens a ∧ body = tokenBody a := by
  cases response with
  | tokens a =>
    obtain ⟨_, _, -, hp⟩ := Tx.returns_bind.mp h
    exact ⟨a, rfl, (Reply.tokens.inj (Tx.returns_pure.mp hp).1).1⟩
  | _ =>
    obtain ⟨_, _, -, hp⟩ := Tx.returns_bind.mp h
    exact Reply.noConfusion (Tx.returns_pure.mp hp).1

/-- **A handler that calls a service** makes an answer of its response. -/
theorem handler_of_request (P : Platform) (S : CookieSettings) (env : Env)
    {cookies : List (String × String)} {call : AuthCall} {op : AuthOp}
    (h : call.request cookies = some op) :
    handler P S env cookies call = Tx.liftError Sum.inl (op.run P env) >>= answer P S := by
  cases call with
  | signup body | login body =>
    cases h
    rw [AuthOp.run, Tx.liftError_bind, bind_assoc]
    rfl
  | refresh =>
    obtain ⟨raw, hraw, rfl⟩ := Option.map_eq_some_iff.mp h
    unfold handler refresh
    rw [hraw, AuthOp.run, Tx.liftError_bind, bind_assoc]
    rfl
  | logout =>
    obtain ⟨raw, hraw, rfl⟩ := Option.map_eq_some_iff.mp h
    unfold handler logout
    rw [hraw, AuthOp.run, Tx.liftError_bind, bind_assoc]
    rfl

/-- **A handler that calls no service** reads, and issues no tokens. -/
theorem handler_of_no_request (P : Platform) (S : CookieSettings) (env : Env)
    {cookies : List (String × String)} {call : AuthCall} (h : call.request cookies = none) :
    Tx.Reads (handler P S env cookies call) ∧
      ∀ s body cookie s', ¬ (handler P S env cookies call).Returns s (.tokens body cookie) s' := by
  cases call with
  | signup body | login body => cases h
  | refresh =>
    have hraw := Option.map_eq_none_iff.mp h
    unfold handler refresh
    rw [hraw]
    exact ⟨Tx.Reads.raise _, fun _ _ _ _ => Tx.returns_raise⟩
  | logout =>
    have hraw := Option.map_eq_none_iff.mp h
    unfold handler logout
    rw [hraw]
    refine ⟨(Tx.Reads.pure _).bind (fun _ => (Tx.Reads.lift _).bind (fun _ => Tx.Reads.pure _)),
      fun s body cookie s' hret => ?_⟩
    obtain ⟨_, _, -, h₁⟩ := Tx.returns_bind.mp hret
    obtain ⟨_, _, -, hp⟩ := Tx.returns_bind.mp h₁
    exact Reply.noConfusion (Tx.returns_pure.mp hp).1

/-- `me` only reads. -/
theorem reads_me (identity : Identity) : Tx.Reads (me identity) := by
  refine Tx.Reads.bind (Tx.Reads.attempt ((Tx.Reads.lift _).bind (fun _ =>
    (Tx.Reads.lift _).bind (fun _ =>
      (MemberService.reads_require _ _).bind (fun _ => Tx.Reads.pure _))))) (fun r => ?_)
  split
  · exact Tx.Reads.pure _
  · exact Tx.Reads.pure _
  · exact Tx.Reads.pure _
  · exact Tx.Reads.raise _

end AuthRouter

/-- The route of the context bundle and its service leave the same. -/
theorem serveInternal_snd (op : FamilyOp) :
    (serveInternal P env f op d).2 = (serve P env (.family f op) d).2 := by
  cases op with
  | context =>
    have hroute : Tx.Reads (FamilyOp.context.internalRoute P env f) :=
      (FamilyContextLoader.reads_load f).bind (fun o => by
        cases o
        · exact Tx.Reads.raise _
        · exact Tx.Reads.pure _)
    have hop : Tx.Reads ((Request.family f .context).run P env) :=
      (FamilyContextLoader.reads_load f).bind (fun o => Tx.Reads.pure _)
    rw [serveInternal, hroute.serve, serve, hop.serve]
  | _ => rfl

/-- **The request of the service that a call comes to**, if it comes to
one. -/
def Call.request (A : Container) (env : Env) : Call → Option Request
  | auth cookies call => (call.request cookies).map .auth
  | me _ => none
  | family authorization route =>
    match A.identity env authorization with
    | .error _ => none
    | .ok identity => (route.calls identity).toOption.map (fun p => .family p.1 p.2)
  | internal xServiceToken familyId op _ =>
    match serviceGuard xServiceToken A.serviceToken with
    | .error _ => none
    | .ok () => some (.family familyId op)

namespace Container

variable {call : Call}

/-- What is refused before anything is called leaves the database. -/
theorem serve_refused {α : Type} {x : Except AppExn α} {e : AppExn} (hx : x = .error e)
    (k : α → AppOp AppReply) :
    Tx.serve AppExn.handled (Tx.lift x >>= k) d = (.error e, d) := by
  subst hx
  show (Except.error e, if AppExn.handled e then d else d) = _
  rw [ite_self]

theorem mem_accessTokens {r : Except AppExn AppReply} {p : String × Claims} :
    p ∈ A.accessTokens env r ↔ ∃ body cookie, r = .ok (.auth (.tokens body cookie)) ∧
      p.1 = body.accessToken ∧
      TokenService.claims A.platform env body.familyId body.familyMemberId = some p.2 := by
  unfold accessTokens
  constructor
  · intro h
    split at h
    · next body cookie =>
      obtain ⟨claims, hclaims, rfl⟩ := Option.map_eq_some_iff.mp (Option.mem_toList.mp h)
      exact ⟨body, cookie, rfl, rfl, hclaims⟩
    · cases h
  · rintro ⟨body, cookie, rfl, h₁, h₂⟩
    exact Option.mem_toList.mpr (Option.map_eq_some_iff.mpr ⟨p.2, h₂, by rw [← h₁]⟩)

end Container

namespace Call

/-- **The answer of a call, and what it leaves**: nothing changes and no token
is issued; or a request of the service is served, and the tokens are its. -/
def ComesTo (A : Container) (env : Env) (d : Database) (call : Call) : Prop :=
  (A.serve env call d).2 = d ∧ A.accessTokens env (A.serve env call d).1 = [] ∨
    ∃ req, call.request A env = some req ∧
      (A.serve env call d).2 = (serve A.platform env req d).2 ∧
      ∀ p ∈ A.accessTokens env (A.serve env call d).1, ∃ a,
        (serve A.platform env req d).1 = .ok (.tokens a) ∧
        TokenService.claims A.platform env a.familyId a.familyMemberId = some p.2

/-- No token is issued by a call that does not return tokens. -/
theorem accessTokens_eq_nil {call : Call}
    (h : ∀ body cookie s', ¬ (A.run env call).Returns ⟨d, d⟩ (.auth (.tokens body cookie)) s') :
    A.accessTokens env (A.serve env call d).1 = [] := by
  refine List.eq_nil_iff_forall_not_mem.mpr (fun p hp => ?_)
  obtain ⟨body, cookie, hr, -⟩ := Container.mem_accessTokens.mp hp
  obtain ⟨s, hret, -⟩ := Tx.serve_ok_iff.mp
    (show A.serve env call d = (.ok (.auth (.tokens body cookie)), _) from Prod.ext hr rfl)
  exact h _ _ _ hret

/-- A call that is refused comes to nothing. -/
theorem comesTo_of_refused {call : Call} {e : AppExn} (h : A.serve env call d = (.error e, d)) :
    call.ComesTo A env d :=
  Or.inl ⟨congrArg Prod.snd h, by rw [h]; rfl⟩

/-- A call that is answered with a response of a service. -/
theorem comesTo_of_serve {call : Call} (req : Request) (body : Op Response)
    (hreq : call.request A env = some req)
    (hrun : A.run env call = do return .service (← Tx.liftError .raised body))
    (hbody : (Tx.serve Exn.handled body d).2 = (serve A.platform env req d).2) :
    call.ComesTo A env d := by
  have hnil : A.accessTokens env (A.serve env call d).1 = [] := by
    refine accessTokens_eq_nil (fun _ _ _ hret => ?_)
    rw [hrun] at hret
    obtain ⟨_, _, -, hp⟩ := Tx.returns_bind.mp hret
    exact AppReply.noConfusion (Tx.returns_pure.mp hp).1
  refine Or.inr ⟨req, hreq, ?_, fun p hp => ?_⟩
  · rw [← hbody, Container.serve, hrun, Tx.serve_map,
      Tx.serve_liftError (show ∀ e, AppExn.handled (.raised e) = e.handled from fun _ => rfl)]
  · rw [hnil] at hp
    cases hp

/-- A call to a route of the session. -/
theorem comesTo_auth (cookies : List (String × String)) (call : AuthCall) :
    (auth cookies call).ComesTo A env d := by
  have hhandled : ∀ e, AppExn.handled (Sum.elim .raised .cookie e) = AuthRouter.handled e := by
    rintro (e | e) <;> rfl
  cases hreq : call.request cookies with
  | none =>
    obtain ⟨hreads, hno⟩ := AuthRouter.handler_of_no_request A.platform A.cookies env hreq
    refine Or.inl ⟨(hreads.liftError.bind (fun _ => Tx.Reads.pure _)).serve d,
      accessTokens_eq_nil (fun body cookie s' hret => ?_)⟩
    obtain ⟨reply, hret', hr⟩ := Tx.returns_bind_pure.mp hret
    exact hno _ body cookie _ (AppReply.auth.inj hr ▸ Tx.returns_liftError.mp hret')
  | some op =>
    have hhandler := AuthRouter.handler_of_request A.platform A.cookies env hreq
    have hserve : A.serve env (auth cookies call) d
        = ((Tx.serve AuthRouter.handled (AuthRouter.handler A.platform A.cookies env cookies call)
            d).1.mapError (Sum.elim .raised .cookie) |>.map AppReply.auth,
          (Tx.serve AuthRouter.handled
            (AuthRouter.handler A.platform A.cookies env cookies call) d).2) := by
      rw [Container.serve, Container.run, Tx.serve_map, Tx.serve_liftError hhandled]
    have hop : Tx.serve AuthRouter.handled (Tx.liftError Sum.inl (op.run A.platform env)) d
        = ((serve A.platform env (.auth op) d).1.mapError .inl,
          (serve A.platform env (.auth op) d).2) := Tx.serve_liftError (fun _ => rfl) _ _
    rcases Tx.returns_or_raises (AuthRouter.handler A.platform A.cookies env cookies call) ⟨d, d⟩
      with ⟨reply, s, hret⟩ | ⟨e, s, hraise⟩
    · -- an answer is made of the response, whose writes are committed
      rw [Tx.serve_ok_iff.mpr ⟨s, hret, rfl⟩] at hserve
      rw [hhandler] at hret
      obtain ⟨response, s₁, h₁, h₂⟩ := Tx.returns_bind.mp hret
      obtain rfl := (AuthRouter.reads_answer response).returns h₂
      have hresponse : serve A.platform env (.auth op) d = (.ok response, s.working) :=
        Tx.serve_ok_iff.mpr ⟨s, Tx.returns_liftError.mp h₁, rfl⟩
      refine Or.inr ⟨.auth op, congrArg (Option.map Request.auth) hreq, ?_, fun p hp => ?_⟩
      · rw [hserve, hresponse]
      · rw [hserve] at hp
        obtain ⟨body, cookie, hr, -, hclaims⟩ := Container.mem_accessTokens.mp hp
        obtain rfl := AppReply.auth.inj (Except.ok.inj hr)
        obtain ⟨a, rfl, rfl⟩ := AuthRouter.answer_tokens h₂
        exact ⟨a, congrArg Prod.fst hresponse, hclaims⟩
    · have hnil : A.accessTokens env (A.serve env (auth cookies call) d).1 = [] := by
        rw [hserve, Tx.serve_error_iff.mpr ⟨s, hraise, rfl⟩]
        rfl
      rcases Tx.serve_bind_reads (AuthRouter.reads_answer (P := A.platform) (S := A.cookies)) d
        with h | h
      · refine Or.inr ⟨.auth op, congrArg (Option.map Request.auth) hreq, ?_,
          by rw [hnil]; rintro p ⟨⟩⟩
        rw [hserve, hhandler, h, hop]
      · refine Or.inl ⟨?_, hnil⟩
        rw [hserve, hhandler, h]

/-- **Every call comes to a request of the service, or to nothing.** -/
theorem comesTo (A : Container) (env : Env) (d : Database) (call : Call) :
    call.ComesTo A env d := by
  cases call with
  | auth cookies call => exact comesTo_auth cookies call
  | me authorization =>
    refine Or.inl ⟨((Tx.Reads.lift _).bind (fun _ => (AuthRouter.reads_me _).liftError.bind
      (fun _ => Tx.Reads.pure _))).serve d, accessTokens_eq_nil (fun _ _ _ hret => ?_)⟩
    obtain ⟨_, _, -, h₁⟩ := Tx.returns_bind.mp hret
    obtain ⟨_, _, -, hp⟩ := Tx.returns_bind.mp h₁
    exact AppReply.noConfusion (Tx.returns_pure.mp hp).1
  | family authorization route =>
    cases hid : A.identity env authorization with
    | error e => exact comesTo_of_refused (Container.serve_refused hid _)
    | ok identity =>
      cases hcalls : route.calls identity with
      | error e =>
        refine comesTo_of_refused (e := .raised e) ?_
        rw [Container.serve, Container.run, hid]
        exact Container.serve_refused (congrArg (Except.mapError AppExn.raised) hcalls) _
      | ok p =>
        refine comesTo_of_serve (.family p.1 p.2) (p.2.run A.platform env p.1) ?_ ?_ rfl
        · simp [request, hid, hcalls, Except.toOption]
        · rw [Container.run, hid]
          show (Tx.lift ((route.calls identity).mapError AppExn.raised) >>= _) = _
          rw [hcalls]
          rfl
  | internal xServiceToken f op hint =>
    cases hguard : serviceGuard xServiceToken A.serviceToken with
    | error e =>
      exact comesTo_of_refused (e := .guard e)
        (Container.serve_refused (congrArg (Except.mapError AppExn.guard) hguard) _)
    | ok u =>
      refine comesTo_of_serve (.family f op) (op.internalRoute A.platform env f) ?_ ?_
        (serveInternal_snd op)
      · simp [request, hguard]
      · rw [Container.run, hguard]
        rfl

end Call

/-! ## Who a family changes for -/

/-- **A request that changes the rows of a family is entitled to them.** -/
theorem Request.entitled_of_slice_ne (hl : Lineages d.refreshTokens) {req : Request}
    (h : slice f (serve P env req d).2.rows ≠ slice f d.rows) : req.Entitled P env f d := by
  have hc : req.Concerns P env f d :=
    Decidable.byContradiction (fun hc => h (slice_serve_of_not_concerns hl hc))
  -- the first step does not raise: that would leave everything
  obtain ⟨r, s, hret⟩ : ∃ r s, (req.begin P env).Returns ⟨d, d⟩ r s := by
    rcases Tx.returns_or_raises (req.begin P env) ⟨d, d⟩ with ⟨r, s, hs⟩ | ⟨x, s, hs⟩
    · exact ⟨r, s, hs⟩
    · rw [serve_of_begin_raises hs] at h
      exact absurd rfl h
  cases req with
  | family g op => exact hc
  | auth op =>
    cases op with
    | refresh raw | logout raw => exact hc
    | login body =>
      obtain ⟨response, hret₁, -⟩ := Tx.returns_bind_pure.mp hret
      obtain ⟨a, s₁, hlogin, -⟩ := Tx.returns_bind.mp hret₁
      obtain ⟨m, hm, hemail, hverify, -⟩ := AuthService.login_returns_iff.mp hlogin
      obtain ⟨n, hn, hemail', rfl⟩ := hc
      exact ⟨m, hm, hemail, hverify, congrArg _ (FamilyMember.eq_of_email hm hn hemail hemail')⟩
    | signup body =>
      obtain ⟨flight, hret₁, -⟩ := Tx.returns_bind_pure.mp hret
      obtain ⟨-, -, hinvite⟩ := AuthService.beginSignup_returns.mp hret₁
      unfold Concerns SignupRequest.LeadsInto at hc
      unfold Entitled
      rcases hinvite with ⟨hcode, -⟩ | ⟨code, i, hcode, hi, hactive, hhash, -⟩
      · simp only [hcode] at hc ⊢
        exact hc
      · simp only [hcode] at hc ⊢
        obtain ⟨j, hj, hhash', rfl⟩ := hc
        exact ⟨i, hi, hactive, hhash,
          congrArg _ (FamilyInvite.eq_of_codeHash hi hj (Except.ok.inj (hhash.symm.trans hhash')))⟩

/-- **What genuine calls preserve.** -/
structure Served.Sound (s : Served) : Prop where
  /-- Rows refer to rows of their own family. -/
  references : FamilyReferences s.db.rows
  /-- Sessions are lineages. -/
  lineages : Lineages s.db.refreshTokens
  /-- The identifiers in an access token are those of a stored refresh
  token. -/
  backed : ∀ p ∈ s.tokens, ∃ f m, p.2.familyId = UUID.str f ∧ p.2.familyMemberId = UUID.str m ∧
    Backed f m s.db

/-- The token a header bears is what is computed. -/
theorem bearerToken_of_bears {authorization : Option String} {token : String}
    (h : Bears authorization token) : bearerToken authorization = some token := by
  obtain ⟨scheme, hspace, hlower, hne, rfl⟩ := h
  have htoken : token.toList ≠ [] := fun hnil => hne (by
    rw [← String.ofList_toList (s := token), hnil])
  unfold bearerToken
  dsimp only [Option.getD_some]
  rw [String.toList_ofList, Py.partition_append hspace,
    if_neg (not_or.mpr ⟨not_not.mpr hlower, htoken⟩), String.ofList_toList]

/-- A payload that is decoded was accepted under the configured key. -/
theorem TokenService.decode_ok {V : Verifier} {now : Datetime} {token : String}
    {payload : List (String × String)} (h : TokenService.decode P V now token = .ok payload) :
    ∃ key ∈ V.publicKey,
      V.jwtDecode now token key P.settings.jwtAudience P.settings.jwtIssuer = some payload := by
  unfold TokenService.decode Settings.publicKey at h
  obtain ⟨key, hkey, hdec⟩ := Except.bind_eq_ok_iff.mp h
  cases hpem : V.publicKey with
  | none =>
    rw [hpem] at hkey
    cases hkey
  | some pem =>
    rw [hpem] at hkey
    dsimp only at hkey
    split at hkey
    · cases hkey
    · cases hkey
      refine ⟨key, rfl, ?_⟩
      cases hjwt : V.jwtDecode now token key P.settings.jwtAudience P.settings.jwtIssuer with
      | none =>
        rw [hjwt] at hdec
        cases hdec
      | some p =>
        rw [hjwt] at hdec
        exact congrArg some (Except.ok.inj hdec)

/-- **The identity of a genuine call** is that of an access token that was
answered. -/
theorem Container.identity_genuine {s : Served} {call : Call} {authorization : Option String}
    {identity : Identity} (hg : Genuine A s (env, call))
    (hbearer : call.bearer = bearerToken authorization)
    (h : A.identity env authorization = .ok identity) :
    ∃ token claims, Bears authorization token ∧ (token, claims) ∈ s.tokens ∧
      claims.expired env.now = false ∧
      identity = ⟨claims.familyId, claims.familyMemberId, none⟩ := by
  have hres : BearerIdentityResolver.resolve A.platform A.verifier env.now authorization
      = .ok identity := by
    unfold Container.identity at h
    cases hr : BearerIdentityResolver.resolve A.platform A.verifier env.now authorization with
    | error e =>
      rw [hr] at h
      cases h
    | ok i =>
      rw [hr] at h
      exact congrArg _ (Except.ok.inj h)
  by_cases hb : ∃ token, Bears authorization token
  · obtain ⟨token, hb⟩ := hb
    rw [BearerIdentityResolver.resolve_bears hb] at hres
    cases hdec : TokenService.decode A.platform A.verifier env.now token with
    | error e =>
      rw [hdec] at hres
      cases hres
    | ok payload =>
      obtain ⟨key, hkey, hjwt⟩ := TokenService.decode_ok hdec
      obtain ⟨p, hp, rfl, hexp, rfl⟩ := hg.1 token
        (hbearer.trans (bearerToken_of_bears hb)) key hkey payload hjwt
      rw [hdec] at hres
      exact ⟨p.1, p.2, hb, hp, hexp, (Except.ok.inj hres).symm⟩
  · rw [BearerIdentityResolver.resolve_malformed (fun token ht => hb ⟨token, ht⟩)] at hres
    cases hres

/-- A member calls whose token a genuine call bears. -/
theorem Served.Sound.memberCalls {s : Served} (h : s.Sound) {call : Call}
    {authorization : Option String} {identity : Identity}
    (hg : Genuine A s (env, call)) (hbearer : call.bearer = bearerToken authorization)
    (hid : A.identity env authorization = .ok identity) :
    ∃ f m, UUID.ofString identity.familyId = some f ∧
      UUID.ofString identity.familyMemberId = some m ∧ MemberCalls f env.now s authorization ∧
      ∃ r ∈ s.db.members, r.id = m ∧ r.familyId = f := by
  obtain ⟨token, claims, hb, hmem, hexp, rfl⟩ := Container.identity_genuine hg hbearer hid
  obtain ⟨f, m, hf, hm, hback⟩ := h.backed _ hmem
  have hrow := hback.member h.references
  exact ⟨f, m, (congrArg UUID.ofString hf).trans f.ofString_str,
    (congrArg UUID.ofString hm).trans m.ofString_str,
    ⟨token, claims, m, hb, hmem, hexp, hf, hm, hrow⟩, hrow⟩

/-- `uuid.UUID(text)` of the text of an identifier. -/
theorem UUID.parse_of_ofString {text : String} {u : UUID} (h : UUID.ofString text = some u) :
    UUID.parse text = .ok u := by
  rw [UUID.parse, h]
  rfl

/-- **The request a genuine call comes to** is called by a member, where it
records who called it; and it is entitled to no more than the call. -/
theorem Served.Sound.request {s : Served} (h : s.Sound) {call : Call} {req : Request}
    (hg : Genuine A s (env, call)) (hreq : call.request A env = some req) :
    req.ByMember s.db ∧ (req.Entitled A.platform env f s.db → call.Entitled A env f s) := by
  cases call with
  | auth cookies call =>
    obtain ⟨op, hop, rfl⟩ := Option.map_eq_some_iff.mp hreq
    exact ⟨trivial, fun he => ⟨op, hop, he⟩⟩
  | me authorization => cases hreq
  | family authorization route =>
    rw [Call.request] at hreq
    split at hreq
    · cases hreq
    · next identity hid =>
      obtain ⟨g, m, hfam, hmem, hcalls, hrow⟩ := h.memberCalls hg rfl hid
      obtain ⟨p, hp, rfl⟩ := Option.map_eq_some_iff.mp hreq
      cases route with
      | createInvite body =>
        unfold FamilyRoute.calls fid at hp
        rw [UUID.parse_of_ofString hfam, UUID.parse_of_ofString hmem] at hp
        cases hp
        exact ⟨hrow, fun he => (show g = f from he) ▸ hcalls⟩
      | route op hext hanon =>
        unfold FamilyRoute.calls fid at hp
        rw [UUID.parse_of_ofString hfam] at hp
        cases hp
        refine ⟨?_, fun he => (show g = f from he) ▸ hcalls⟩
        cases op <;> first
          | exact trivial
          | cases hanon
  | internal x g op hint =>
    rw [Call.request] at hreq
    split at hreq
    · cases hreq
    · next hguard =>
      cases hreq
      refine ⟨?_, fun he => ⟨he, ?_⟩⟩
      · cases op <;> first
          | exact trivial
          | cases hint
      · by_contra hno
        by_cases hcomp : Comparable A.serviceToken x
        · rcases serviceGuard_of_comparable hcomp with ⟨hadm, -⟩ | ⟨-, detail, herr⟩
          · exact hno hadm
          · cases hguard.symm.trans herr
        · cases hguard.symm.trans (serviceGuard_of_not_comparable hcomp)

/-- **No request removes the refresh tokens** of a member. -/
theorem Backed.serve {m : UUID} (h : Backed f m d) (req : Request) :
    Backed f m (serve P env req d).2 := by
  rcases serve_cases P env req d with ⟨o, hfirst, -⟩ | ⟨flight, s, o, -, hsecond, -⟩
  · exact h.opens (first_opens hfirst)
  · obtain ⟨-, -, hs⟩ := TwoStep.ofPhases_second hsecond
    exact Flight.finish_backed h hs

/-- **A request that is answered with tokens has issued them.** -/
theorem serve_issued {req : Request} {a : IssuedTokens}
    (h : (serve P env req d).1 = .ok (.tokens a)) : a.Issued P env (serve P env req d).2 := by
  rcases serve_cases P env req d with ⟨o, hfirst, ho⟩ | ⟨flight, s, o, -, hsecond, ho⟩
  · obtain ⟨-, -, hs⟩ := TwoStep.ofPhases_first_done hfirst
    rw [ho, h] at hs
    obtain ⟨s', hret, hd⟩ := Tx.serve_ok_iff.mp hs
    rw [hd]
    exact Request.begin_tokens hret
  · obtain ⟨-, -, hs⟩ := TwoStep.ofPhases_second hsecond
    rw [ho, h] at hs
    exact Flight.finish_tokens hs

/-- **Genuine calls keep the application sound.** -/
theorem Served.Sound.step {s : Served} (h : s.Sound) {i : Env × Call} (hg : Genuine A s i) :
    ((application A).next s i).Sound := by
  obtain ⟨env, call⟩ := i
  have hold : ∀ {d : Database}, (∀ f m, Backed f m s.db → Backed f m d) →
      (∀ p ∈ A.accessTokens env (A.serve env call s.db).1, ∃ f m,
        p.2.familyId = UUID.str f ∧ p.2.familyMemberId = UUID.str m ∧ Backed f m d) →
      ∀ p ∈ s.tokens ++ A.accessTokens env (A.serve env call s.db).1, ∃ f m,
        p.2.familyId = UUID.str f ∧ p.2.familyMemberId = UUID.str m ∧ Backed f m d := by
    intro d hb hnew p hp
    rcases List.mem_append.mp hp with hp | hp
    · obtain ⟨f, m, hf, hm, hback⟩ := h.backed p hp
      exact ⟨f, m, hf, hm, hb f m hback⟩
    · exact hnew p hp
  show Served.Sound ⟨(A.serve env call s.db).2,
    s.tokens ++ A.accessTokens env (A.serve env call s.db).1⟩
  rcases Call.comesTo A env s.db call with ⟨hdb, hnil⟩ | ⟨req, hreq, hdb, htokens⟩
  · refine ⟨?_, ?_, ?_⟩
    · exact (congrArg (fun d => FamilyReferences (Store.rows d)) hdb).mpr h.references
    · exact (congrArg (fun d => Lineages (Database.refreshTokens d)) hdb).mpr h.lineages
    · rw [hdb]
      exact hold (fun _ _ hb => hb) (by rw [hnil]; rintro p ⟨⟩)
  · obtain ⟨hby, -⟩ := h.request (f := 0) hg hreq
    refine ⟨?_, ?_, ?_⟩
    · exact (congrArg (fun d => FamilyReferences (Store.rows d)) hdb).mpr
        (serve_familyReferences h.references hby)
    · exact (congrArg (fun d => Lineages (Database.refreshTokens d)) hdb).mpr
        (h.lineages.step (tokenStep_serve A.platform env req s.db) hg.2)
    · rw [hdb]
      refine hold (fun _ _ hb => hb.serve req) (fun p hp => ?_)
      obtain ⟨a, ha, hclaims⟩ := htokens p hp
      obtain ⟨-, f, m, hf, hm, hback⟩ := serve_issued ha
      obtain ⟨exp, -, hp2⟩ := Option.map_eq_some_iff.mp hclaims
      rw [← hp2]
      exact ⟨f, m, hf, hm, hback⟩

/-- **After a run of genuine calls, the application is sound.** -/
theorem Served.sound_run {calls : List (Env × Call)}
    (h : (application A).Every (Genuine A) Served.initial calls) :
    ((application A).run Served.initial calls).Sound :=
  (application A).run_invariant Served.Sound (fun _ _ hs hg => hs.step hg)
    ⟨by rintro f T r ⟨⟩, ⟨by rintro x ⟨⟩, by rintro x ⟨⟩, by rintro x ⟨⟩⟩, by rintro p ⟨⟩⟩ h

/-- **The application mediates every change.** After any run of genuine calls,
whoever sends them, and whatever their headers and cookies: a call in which
the rows of a family change is entitled to the family. -/
theorem application_mediates (A : Container) (calls : List (Env × Call))
    (h : (application A).Every (Genuine A) Served.initial calls) (env : Env) (call : Call)
    (hg : Genuine A ((application A).run Served.initial calls) (env, call)) (f : UUID)
    (hf : slice f ((application A).next ((application A).run Served.initial calls)
        (env, call)).db.rows
      ≠ slice f ((application A).run Served.initial calls).db.rows) :
    call.Entitled A env f ((application A).run Served.initial calls) := by
  have hsound := Served.sound_run h
  generalize (application A).run Served.initial calls = s at hg hf hsound ⊢
  have hf' : slice f (A.serve env call s.db).2.rows ≠ slice f s.db.rows := hf
  rcases Call.comesTo A env s.db call with ⟨hdb, -⟩ | ⟨req, hreq, hdb, -⟩
  · rw [hdb] at hf'
    exact absurd rfl hf'
  · rw [hdb] at hf'
    exact (hsound.request hg hreq).2 (Request.entitled_of_slice_ne hsound.lineages hf')

namespace Sample

/-- The application of the samples. -/
def container : Container where
  platform := platform 2592000
  cookies := cookieSettings "refresh_token"
  verifier
  serviceToken := some "s3cret"

/-- A family is founded. -/
def calls : List (Env × Call) :=
  [(Sample.env 1 (second 0), .auth [] (.signup (signup "ada@example.org" none)))]

end Sample

/-- The founder adds a child, with the access token of the signup. -/
theorem application_mediates_member :
    MemberCalls 1 (Sample.second 60)
      ((application Sample.container).run Served.initial Sample.calls)
      (some "Bearer 00000000-0000-0000-0000-000000000001") :=
  application_mediates Sample.container Sample.calls (by decide +kernel)
    (Sample.env 2 (Sample.second 60))
    (.family (some "Bearer 00000000-0000-0000-0000-000000000001")
      (.route (.createChild Sample.child) rfl rfl))
    (by decide +kernel) 1 (fun h => absurd (congrFun h .childProfile) (by decide +kernel))
