import Accounts.CookieJar
import Accounts.InviteLifecycle
import Accounts.Lineage

/-!
# The refresh cookie

Signups, logins and refreshes set the raw refresh token as a cookie, with
the name and the path of the settings; logouts delete the cookie of that
name and path. The two handlers that read the cookie have no settings to go
by: FastAPI takes the name of the cookie from that of the parameter, which
is `refresh_token`.

`cookie_written_is_read` says when the two agree. For a client that keeps
its cookies and sends them back, over any number of signups, logins,
refreshes and logouts, the token issued last is presented to
`AuthService.refresh` and `AuthService.logout` exactly if the settings name
the cookie `refresh_token` and let it live.
-/

open Repository

/-! ## The router -/

/-- What the settings say about the refresh cookie. -/
structure CookieSettings where
  /-- `refresh_cookie_name`. -/
  refreshCookieName : String
  /-- `refresh_cookie_secure`. -/
  refreshCookieSecure : Bool
  /-- `refresh_cookie_samesite`. -/
  refreshCookieSamesite : SameSite
  /-- `refresh_cookie_path`. -/
  refreshCookiePath : String

/-- `TokenResponse`. -/
structure TokenResponse where
  /-- The access token. -/
  accessToken : String
  /-- The type of the access token. -/
  tokenType : String
  /-- The family it names. -/
  familyId : String
  /-- The member it names. -/
  familyMemberId : String
deriving DecidableEq

/-- **What a handler of the router answers**: a body or none, and a
cookie. -/
inductive Reply where
  /-- Tokens were issued. -/
  | tokens (body : TokenResponse) (cookie : SetCookie)
  /-- 204. -/
  | noContent (cookie : SetCookie)
deriving DecidableEq

/-- The cookie of an answer. -/
def Reply.cookie : Reply → SetCookie
  | tokens _ cookie | noContent cookie => cookie

/-- The requests a client sends to the router. -/
inductive AuthCall where
  /-- `POST /auth/signup`. -/
  | signup (body : SignupRequest)
  /-- `POST /auth/login`. -/
  | login (body : LoginRequest)
  /-- `POST /auth/refresh`. -/
  | refresh
  /-- `POST /auth/logout`. -/
  | logout

/-- The path of a request. -/
def AuthCall.path : AuthCall → String
  | signup _ => "/auth/signup"
  | login _ => "/auth/login"
  | refresh => "/auth/refresh"
  | logout => "/auth/logout"

/-- The paths of the router. -/
def authPaths : List String := ["/auth/signup", "/auth/login", "/auth/refresh", "/auth/logout"]

theorem AuthCall.path_mem (call : AuthCall) : call.path ∈ authPaths := by
  cases call <;> simp [path, authPaths]

/-- A handler, which raises what the service raises, or a `CookieError`. -/
abbrev Handler (α : Type) : Type := Tx Database (Exn ⊕ CookieError) α

namespace AuthRouter

variable (P : Platform) (S : CookieSettings) (env : Env)

/-- Whether an exception is answered before the request scope closes. -/
def handled : Exn ⊕ CookieError → Bool
  | .inl e => e.handled
  | .inr _ => false

/-- A call of the service. -/
def call {α : Type} (t : Op α) : Handler α := Tx.liftError Sum.inl t

/-- `Response.set_cookie`. -/
def setCookie (cookie : SetCookie) : Handler SetCookie :=
  Tx.lift (cookie.checked.mapError Sum.inr)

/-- The cookie that carries a refresh token. -/
def refreshCookie (raw : String) : SetCookie where
  name := S.refreshCookieName
  value := raw
  maxAge := P.settings.refreshTtlSeconds
  path := S.refreshCookiePath
  httpOnly := true
  secure := S.refreshCookieSecure
  sameSite := S.refreshCookieSamesite

/-- The cookie that deletes it. -/
def expiredCookie : SetCookie where
  name := S.refreshCookieName
  value := ""
  maxAge := 0
  path := S.refreshCookiePath
  httpOnly := false
  secure := false
  sameSite := .lax

/-- `_set_refresh_cookie`. -/
def setRefreshCookie (raw : String) : Handler SetCookie := setCookie (refreshCookie P S raw)

/-- `_token_body`. -/
def tokenBody (tokens : IssuedTokens) : TokenResponse :=
  ⟨tokens.accessToken, "bearer", tokens.familyId, tokens.familyMemberId⟩

/-- Call the service, set the cookie, and answer with the tokens. -/
def issue (service : Op IssuedTokens) : Handler Reply := do
  let tokens ← call service
  let cookie ← setRefreshCookie P S tokens.refreshToken
  return .tokens (tokenBody tokens) cookie

/-- `signup`. -/
def signup (body : SignupRequest) : Handler Reply := issue P S (AuthService.signup P env body)

/-- `login`. -/
def login (body : LoginRequest) : Handler Reply := issue P S (AuthService.login P env body)

/-- The text of a cookie, if there is one and it is not empty. -/
def presented (refreshToken : Option String) : Option String :=
  refreshToken.filter (fun raw => raw ≠ "")

/-- `refresh`. -/
def refresh (refreshToken : Option String) : Handler Reply :=
  match presented refreshToken with
  | none => Tx.raise (.inl (.service (.unauthorized "missing refresh token")))
  | some raw => issue P S (AuthService.refresh P env raw)

/-- `logout`. -/
def logout (refreshToken : Option String) : Handler Reply := do
  (presented refreshToken).forM (fun raw => call (AuthService.logout P env raw))
  let cookie ← setCookie (expiredCookie S)
  return .noContent cookie

/-- The handler of a request, applied to the cookie named as its
parameter. -/
def handler (cookies : List (String × String)) : AuthCall → Handler Reply
  | .signup body => signup P S env body
  | .login body => login P S env body
  | .refresh => refresh P S env (cookieParam "refresh_token" cookies)
  | .logout => logout P S env (cookieParam "refresh_token" cookies)

end AuthRouter

/-! ## A client -/

/-- The answer to a request of a client, with the database it leaves. -/
abbrev Answered : Type := Except (Exn ⊕ CookieError) Reply × Database

/-- **A client with a cookie jar.** Each of its requests meets whatever the
database has become in the meantime. -/
def client (P : Platform) (S : CookieSettings) :
    Process Jar (Database × Env × AuthCall) Answered where
  step := fun (d, env, call) jar =>
    let answered := Tx.serve AuthRouter.handled
      (AuthRouter.handler P S env (jar.sent call.path) call) d
    (answered, match answered.1 with
      | .ok reply => jar.store call.path reply.cookie
      | .error _ => jar)

/-- **The token a client holds**: that of the last signup, login or refresh
that returned, until a logout does. -/
def Reply.held : Except (Exn ⊕ CookieError) Reply → Option String → Option String
  | .ok (.tokens _ cookie), _ => some cookie.value
  | .ok (.noContent _), _ => none
  | .error _, raw => raw

/-- **The token a client holds after a session.** -/
def held (P : Platform) (S : CookieSettings) (calls : List (Database × Env × AuthCall)) :
    Option String :=
  ((client P S).trace [] calls).foldl (fun raw answered => Reply.held answered.2.1 raw) none

/-- **The path of the cookie covers the routes.** -/
def CookieSettings.Covers (S : CookieSettings) : Prop :=
  ∀ path ∈ authPaths, pathMatches path ((AuthRouter.expiredCookie S).pathFor path) = true

instance (S : CookieSettings) : Decidable S.Covers :=
  inferInstanceAs (Decidable (∀ _ ∈ _, _))

/-- **What `secrets.token_urlsafe` draws**: a text that stands in a cookie
as it is, and is not empty. -/
def UrlSafe (raw : String) : Prop :=
  raw ≠ "" ∧ raw.toList.all (fun c => c.isAlphanum || c = '-' || c = '_') = true

instance (raw : String) : Decidable (UrlSafe raw) :=
  inferInstanceAs (Decidable (_ ∧ _))

/-- **The cookie of a token is read back**, from a jar.

A refresh presents the token to `AuthService.refresh`; so it returns if the
token can be exchanged, and then the jar has the cookie of the new token
and no other. A logout is the service's logout of the token, revokes the
token's session if the token is stored, and leaves the jar empty. -/
structure ReadsBack (P : Platform) (S : CookieSettings) (jar : Jar) (raw : String) : Prop where
  /-- The token is presented. -/
  refresh : ∀ env, AuthRouter.handler P S env (jar.sent AuthCall.refresh.path) .refresh
    = AuthRouter.issue P S (AuthService.refresh P env raw)
  /-- A token that can be exchanged is. -/
  exchange : ∀ env (d : Database), env.Fresh P d → TokensExpire P env.now →
    (∃ row ∈ d.refreshTokens, row.Exchangeable P env raw) →
    (∃ body cookie d', (client P S).answer jar (d, env, .refresh) = (.ok (.tokens body cookie), d')
      ∧ cookie.value = env.token) ∧
    ∃ path, (client P S).next jar (d, env, .refresh) = [⟨S.refreshCookieName, env.token, path⟩]
  /-- A logout revokes the token's session, and clears the jar. -/
  logout : ∀ env (d : Database),
    (∃ cookie, (client P S).answer jar (d, env, .logout)
      = (.ok (.noContent cookie), (serve P env (.auth (.logout raw)) d).2)) ∧
    (client P S).next jar (d, env, .logout) = [] ∧
    ∀ row ∈ d.refreshTokens, row.tokenHash = RefreshTokenCodec.hash P raw →
      Burnt row.sessionId (serve P env (.auth (.logout raw)) d).2.refreshTokens

variable {P : Platform} {S : CookieSettings} {env : Env} {d : Database} {jar : Jar} {raw : String}

/-! ## What the service issues -/

namespace AuthService

variable {s s' : Session Database} {a : IssuedTokens}

theorem issueTokens_token {f m : UUID} (h : (issueTokens P env f m).Returns s a s') :
    a.refreshToken = env.token := by
  obtain ⟨access, exp, -, -, rfl, -⟩ := issueTokens_returns.mp h
  rfl

/-- **A signup issues the token it draws.** -/
theorem signup_token {body : SignupRequest} (h : (signup P env body).Returns s a s') :
    a.refreshToken = env.token := by
  obtain ⟨invite, -, hfinish⟩ := signup_returns.mp h
  cases invite with
  | none =>
    obtain ⟨d₁, -, hreg⟩ := finishSignup_none_returns.mp hfinish
    obtain ⟨d₂, -, hissue⟩ := register_returns.mp hreg
    exact issueTokens_token hissue
  | some invite =>
    obtain ⟨cur, -, d₁, -, hreg⟩ := finishSignup_some_returns.mp hfinish
    obtain ⟨d₂, -, hissue⟩ := register_returns.mp hreg
    exact issueTokens_token hissue

/-- **A login issues the token it draws.** -/
theorem login_token {body : LoginRequest} (h : (login P env body).Returns s a s') :
    a.refreshToken = env.token := by
  obtain ⟨m, -, hissue⟩ := login_returns h
  exact issueTokens_token hissue

/-- **A refresh issues the token it draws.** -/
theorem refresh_token (h : (refresh P env raw).Returns s a s') : a.refreshToken = env.token := by
  obtain ⟨row, access, -, rfl, -⟩ := refresh_returns.mp h
  rfl

/-- **A logout returns**, whatever it is given. -/
theorem logout_serve (P : Platform) (env : Env) (raw : String) (d : Database) :
    ∃ s', (logout P env raw).Returns ⟨d, d⟩ () s' ∧
      s'.working = (serve P env (.auth (.logout raw)) d).2 := by
  obtain ⟨s', hret⟩ : ∃ s', (logout P env raw).Returns ⟨d, d⟩ () s' := by
    by_cases hstored : ∃ row ∈ d.refreshTokens, row.tokenHash = RefreshTokenCodec.hash P raw
    · obtain ⟨row, hmem, hhash⟩ := hstored
      obtain ⟨d', -, hret⟩ := RefreshTokenService.revoke_stored env (s := ⟨d, d⟩) hmem hhash
      exact ⟨_, hret⟩
    · exact ⟨_, RefreshTokenService.revoke_unknown env (fun r hr he => hstored ⟨r, hr, he⟩)⟩
  have hserve : serve P env (.auth (.logout raw)) d = (.ok .done, s'.working) :=
    Tx.serve_ok_iff.mpr ⟨s', Tx.returns_bind.mpr ⟨(), s', hret, Tx.returns_pure.mpr ⟨rfl, rfl⟩⟩,
      rfl⟩
  exact ⟨s', hret, (congrArg Prod.snd hserve).symm⟩

end AuthService

/-! ## What the handlers answer -/

namespace AuthRouter

variable {s s' : Session Database} {reply : Reply}

theorem setCookie_returns {cookie cookie' : SetCookie} :
    (setCookie cookie).Returns s cookie' s' ↔ cookie.checked = .ok cookie' ∧ s' = s := by
  unfold setCookie
  rw [Tx.returns_lift]
  cases cookie.checked <;> simp [Except.mapError]

/-- **When tokens are issued, and what the answer is.** -/
theorem issue_returns {service : Op IssuedTokens} :
    (issue P S service).Returns s reply s' ↔
      ∃ a, service.Returns s a s' ∧ (refreshCookie P S a.refreshToken).checked
          = .ok (refreshCookie P S a.refreshToken) ∧
        reply = .tokens (tokenBody a) (refreshCookie P S a.refreshToken) := by
  unfold issue
  constructor
  · intro h
    obtain ⟨a, s₁, h₁, h₂⟩ := Tx.returns_bind.mp h
    obtain ⟨cookie, s₂, h₃, hp⟩ := Tx.returns_bind.mp h₂
    obtain ⟨hchecked, rfl⟩ := setCookie_returns.mp h₃
    obtain ⟨rfl, rfl⟩ := Tx.returns_pure.mp hp
    obtain rfl := SetCookie.checked_eq_ok hchecked
    exact ⟨a, Tx.returns_liftError.mp h₁, hchecked, rfl⟩
  · rintro ⟨a, h, hchecked, rfl⟩
    exact Tx.returns_bind.mpr ⟨a, s', Tx.returns_liftError.mpr h, Tx.returns_bind.mpr
      ⟨_, s', setCookie_returns.mpr ⟨hchecked, rfl⟩, Tx.returns_pure.mpr ⟨rfl, rfl⟩⟩⟩

/-- **The cookie of an answer** is that of the token drawn, or the one that
deletes it. -/
theorem handler_cookie {cookies : List (String × String)} {call : AuthCall}
    (h : (handler P S env cookies call).Returns s reply s') :
    (∃ body, reply = .tokens body (refreshCookie P S env.token)) ∨
      reply = .noContent (expiredCookie S) := by
  have hissue : ∀ {service : Op IssuedTokens},
      (∀ a, service.Returns s a s' → a.refreshToken = env.token) →
      (issue P S service).Returns s reply s' →
      ∃ body, reply = .tokens body (refreshCookie P S env.token) := by
    intro service htoken h
    obtain ⟨a, ha, -, rfl⟩ := issue_returns.mp h
    exact ⟨tokenBody a, by rw [htoken a ha]⟩
  cases call with
  | signup body => exact Or.inl (hissue (fun a ha => AuthService.signup_token ha) h)
  | login body => exact Or.inl (hissue (fun a ha => AuthService.login_token ha) h)
  | refresh =>
    unfold handler refresh at h
    cases hraw : presented (cookieParam "refresh_token" cookies) with
    | none =>
      rw [hraw] at h
      exact absurd h Tx.returns_raise
    | some raw =>
      rw [hraw] at h
      exact Or.inl (hissue (fun a ha => AuthService.refresh_token ha) h)
  | logout =>
    obtain ⟨_, s₁, -, h₁⟩ := Tx.returns_bind.mp h
    obtain ⟨cookie, s₂, h₂, hp⟩ := Tx.returns_bind.mp h₁
    obtain ⟨hchecked, rfl⟩ := setCookie_returns.mp h₂
    rw [SetCookie.checked_eq_ok hchecked] at hp
    exact Or.inr (Tx.returns_pure.mp hp).1

end AuthRouter

/-! ## The jar -/

/-- **The path the cookie is kept under**, whichever route has set it. -/
def CookieSettings.cookiePath (S : CookieSettings) : String :=
  (AuthRouter.expiredCookie S).pathFor "/auth/login"

theorem CookieSettings.pathFor_eq (call : AuthCall) (cookie : SetCookie)
    (h : cookie.path = S.refreshCookiePath) : cookie.pathFor call.path = S.cookiePath := by
  have hdir : ∀ path ∈ authPaths, defaultPath path = "/auth" := by decide +kernel
  unfold cookiePath SetCookie.pathFor
  rw [h, hdir _ call.path_mem, hdir "/auth/login" (by simp [authPaths])]
  rfl

theorem CookieSettings.Covers.matches (h : S.Covers) (call : AuthCall) :
    pathMatches call.path S.cookiePath = true := by
  rw [← CookieSettings.pathFor_eq call (AuthRouter.expiredCookie S) rfl]
  exact h _ call.path_mem

/-- **What a client keeps that holds a token**: the cookie of the token,
if the settings let it live. -/
def kept (P : Platform) (S : CookieSettings) : Option String → Jar
  | some raw =>
    if 0 < P.settings.refreshTtlSeconds then [⟨S.refreshCookieName, raw, S.cookiePath⟩] else []
  | none => []

theorem kept_single {token : Option String} {x : Cookie} (h : x ∈ kept P S token) :
    x.name = S.refreshCookieName ∧ x.path = S.cookiePath ∧ 0 < P.settings.refreshTtlSeconds := by
  cases token with
  | none => exact absurd h List.not_mem_nil
  | some raw =>
    by_cases hlive : 0 < P.settings.refreshTtlSeconds
    · rw [kept, if_pos hlive] at h
      rw [List.mem_singleton.mp h]
      exact ⟨rfl, rfl, hlive⟩
    · rw [kept, if_neg hlive] at h
      exact absurd h List.not_mem_nil

/-- **A new token takes the place of the old one** in the jar. -/
theorem kept_store (call : AuthCall) (token : Option String) (raw : String) :
    (kept P S token).store call.path (AuthRouter.refreshCookie P S raw) = kept P S (some raw) := by
  have hpath : (AuthRouter.refreshCookie P S raw).pathFor call.path = S.cookiePath :=
    CookieSettings.pathFor_eq call _ rfl
  rw [Jar.store_single (fun x hx => ?_), hpath]
  · rfl
  · obtain ⟨hname, hx, -⟩ := kept_single hx
    exact ⟨hname, hx.trans hpath.symm⟩

/-- **Deleting the cookie** clears the jar. -/
theorem kept_delete (call : AuthCall) (token : Option String) :
    (kept P S token).store call.path (AuthRouter.expiredCookie S) = [] := by
  have hpath : (AuthRouter.expiredCookie S).pathFor call.path = S.cookiePath :=
    CookieSettings.pathFor_eq call _ rfl
  rw [Jar.store_single (fun x hx => ?_)]
  · rfl
  · obtain ⟨hname, hx, -⟩ := kept_single hx
    exact ⟨hname, hx.trans hpath.symm⟩

/-! ## Sessions of a client -/

/-- The cookie of a request that returns. -/
theorem client_cookie {call : AuthCall} {reply : Reply}
    (h : ((client P S).answer jar (d, env, call)).1 = .ok reply) :
    (∃ body, reply = .tokens body (AuthRouter.refreshCookie P S env.token)) ∨
      reply = .noContent (AuthRouter.expiredCookie S) := by
  obtain ⟨s', hret, -⟩ := Tx.serve_ok_iff.mp
    (show (client P S).answer jar (d, env, call) = (.ok reply, _) from Prod.ext h rfl)
  exact AuthRouter.handler_cookie hret

/-- The client keeps the cookie of a request that returns. -/
theorem client_next_ok {call : AuthCall} {reply : Reply}
    (h : ((client P S).answer jar (d, env, call)).1 = .ok reply) :
    (client P S).next jar (d, env, call) = jar.store call.path reply.cookie := by
  show (match ((client P S).answer jar (d, env, call)).1 with
    | .ok reply => jar.store call.path reply.cookie
    | .error _ => jar) = _
  rw [h]

/-- An error sets no cookie. -/
theorem client_next_error {call : AuthCall} {e : Exn ⊕ CookieError}
    (h : ((client P S).answer jar (d, env, call)).1 = .error e) :
    (client P S).next jar (d, env, call) = jar := by
  show (match ((client P S).answer jar (d, env, call)).1 with
    | .ok reply => jar.store call.path reply.cookie
    | .error _ => jar) = _
  rw [h]

/-- A request that returns is answered so. -/
theorem client_answer_ok {call : AuthCall} {reply : Reply} {s' : Session Database}
    (h : (AuthRouter.handler P S env (jar.sent call.path) call).Returns ⟨d, d⟩ reply s') :
    (client P S).answer jar (d, env, call) = (.ok reply, s'.working) :=
  Tx.serve_ok_iff.mpr ⟨s', h, rfl⟩

/-- **A request keeps the jar in step with the token held.** -/
theorem kept_next (token : Option String) (i : Database × Env × AuthCall) :
    (client P S).next (kept P S token) i
      = kept P S (Reply.held ((client P S).answer (kept P S token) i).1 token) := by
  obtain ⟨d, env, call⟩ := i
  cases hr : ((client P S).answer (kept P S token) (d, env, call)).1 with
  | error e => exact client_next_error hr
  | ok reply =>
    rw [client_next_ok hr]
    rcases client_cookie hr with ⟨body, rfl⟩ | rfl
    · exact kept_store call token env.token
    · exact kept_delete call token

/-- What a client holds after one more request. -/
theorem held_append (calls : List (Database × Env × AuthCall)) (i : Database × Env × AuthCall) :
    held P S (calls ++ [i])
      = Reply.held ((client P S).answer ((client P S).run [] calls) i).1 (held P S calls) := by
  unfold held
  rw [Process.trace_append, List.foldl_append]
  rfl

/-- **After every session the jar has the cookie of the token held**, and
nothing else. -/
theorem jar_run (P : Platform) (S : CookieSettings) (calls : List (Database × Env × AuthCall)) :
    (client P S).run [] calls = kept P S (held P S calls) := by
  induction calls using List.reverseRecOn with
  | nil => rfl
  | append_singleton calls i ih =>
    rw [Process.run_append, held_append, ih]
    exact kept_next _ i

/-- **The token held was drawn in the session.** -/
theorem held_drawn {calls : List (Database × Env × AuthCall)} (h : held P S calls = some raw) :
    ∃ i ∈ calls, i.2.1.token = raw := by
  induction calls using List.reverseRecOn with
  | nil => exact absurd h.symm (Option.some_ne_none raw)
  | append_singleton calls i ih =>
    obtain ⟨d, env, call⟩ := i
    rw [held_append] at h
    cases hr : ((client P S).answer ((client P S).run [] calls) (d, env, call)).1 with
    | error e =>
      rw [hr] at h
      obtain ⟨i, hi, htoken⟩ := ih h
      exact ⟨i, List.mem_append_left _ hi, htoken⟩
    | ok reply =>
      rw [hr] at h
      rcases client_cookie hr with ⟨body, rfl⟩ | rfl
      · exact ⟨_, List.mem_append_right _ (List.mem_singleton.mpr rfl), Option.some.inj h⟩
      · exact absurd h.symm (Option.some_ne_none raw)

/-! ## Reading the cookie back -/

/-- The name the handlers read is one a cookie can have. -/
theorem AuthRouter.checked_refresh_token {cookie : SetCookie} (h : cookie.name = "refresh_token") :
    cookie.checked = .ok cookie := by
  unfold SetCookie.checked
  rw [h, if_neg (by decide +kernel), if_pos (by decide +kernel)]

/-- **The jar of a client that holds a token**, under the settings that let
it live and name it as the handlers do. -/
theorem readsBack (hcov : S.Covers) (hname : S.refreshCookieName = "refresh_token")
    (hlive : 0 < P.settings.refreshTtlSeconds) (hraw : raw ≠ "") :
    ReadsBack P S (kept P S (some raw)) raw := by
  have hparam : ∀ call : AuthCall,
      cookieParam "refresh_token" ((kept P S (some raw)).sent call.path) = some raw := by
    intro call
    let cookie : Cookie := ⟨S.refreshCookieName, raw, S.cookiePath⟩
    have hmatch : pathMatches call.path cookie.path = true := hcov.matches call
    rw [kept, if_pos hlive, Jar.sent_single hmatch, cookieParam_single, if_pos hname]
  have hpresented : AuthRouter.presented (some raw) = some raw := by
    simp [AuthRouter.presented, hraw]
  have hrefresh : ∀ env, AuthRouter.handler P S env
      ((kept P S (some raw)).sent AuthCall.refresh.path) .refresh
        = AuthRouter.issue P S (AuthService.refresh P env raw) := by
    intro env
    rw [AuthRouter.handler, AuthRouter.refresh, hparam .refresh, hpresented]
  refine ⟨hrefresh, fun env d hf hexp hex => ?_, fun env d => ?_⟩
  · obtain ⟨row, hmem, hrow⟩ := hex
    obtain ⟨a, s', hret⟩ := AuthService.refresh_of_exchangeable hf hmem hrow hexp.2 hexp.1
    have hissue : (AuthRouter.issue P S (AuthService.refresh P env raw)).Returns ⟨d, d⟩
        (.tokens (AuthRouter.tokenBody a) (AuthRouter.refreshCookie P S a.refreshToken)) s' :=
      AuthRouter.issue_returns.mpr ⟨a, hret, AuthRouter.checked_refresh_token hname, rfl⟩
    have hanswer : (client P S).answer (kept P S (some raw)) (d, env, .refresh)
        = (.ok (.tokens (AuthRouter.tokenBody a) (AuthRouter.refreshCookie P S a.refreshToken)),
          s'.working) := client_answer_ok (by rw [hrefresh env]; exact hissue)
    refine ⟨⟨_, _, _, hanswer, AuthService.refresh_token hret⟩, S.cookiePath, ?_⟩
    rw [client_next_ok (congrArg Prod.fst hanswer), AuthService.refresh_token hret]
    show (kept P S (some raw)).store AuthCall.refresh.path
      (AuthRouter.refreshCookie P S env.token) = _
    rw [kept_store, kept, if_pos hlive]
  · obtain ⟨s', hret, hs'⟩ := AuthService.logout_serve P env raw d
    have hlogout : (AuthRouter.handler P S env ((kept P S (some raw)).sent AuthCall.logout.path)
        .logout).Returns ⟨d, d⟩ (.noContent (AuthRouter.expiredCookie S)) s' := by
      rw [AuthRouter.handler, AuthRouter.logout, hparam .logout, hpresented]
      exact Tx.returns_bind.mpr ⟨(), s', Tx.returns_liftError.mpr hret, Tx.returns_bind.mpr
        ⟨_, s', AuthRouter.setCookie_returns.mpr ⟨AuthRouter.checked_refresh_token hname, rfl⟩,
          Tx.returns_pure.mpr ⟨rfl, rfl⟩⟩⟩
    have hanswer : (client P S).answer (kept P S (some raw)) (d, env, .logout)
        = (.ok (.noContent (AuthRouter.expiredCookie S)),
          (serve P env (.auth (.logout raw)) d).2) := hs' ▸ client_answer_ok hlogout
    refine ⟨⟨_, hanswer⟩, ?_, fun row hmem hhash => ?_⟩
    · rw [client_next_ok (congrArg Prod.fst hanswer)]
      exact kept_delete .logout (some raw)
    · exact Burns.burnt (i := (env, .auth (.logout raw)))
        ⟨raw, ⟨row, hmem, hhash, rfl⟩, Or.inl rfl⟩

/-- **Where the cookie is read back**, the settings name it as the handlers
do, and let it live. -/
theorem ReadsBack.settings {token : Option String} (h : ReadsBack P S (kept P S token) raw)
    (env : Env) :
    S.refreshCookieName = "refresh_token" ∧ 0 < P.settings.refreshTtlSeconds := by
  by_contra hno
  have hparam : cookieParam "refresh_token" ((kept P S token).sent AuthCall.refresh.path) = none :=
    Jar.cookieParam_sent (fun x hx hname => by
      obtain ⟨hx, -, hlive⟩ := kept_single hx
      exact hno ⟨hx.symm.trans hname, hlive⟩)
  -- on the empty database the token is unknown, and not missing
  have hmissing := congrFun (h.refresh env) ⟨Store.empty schema, Store.empty schema⟩
  rw [AuthRouter.handler, AuthRouter.refresh, hparam] at hmissing
  have hunknown : (AuthService.refresh P env raw).Raises
      ⟨Store.empty schema, Store.empty schema⟩ (.service (.unauthorized "invalid refresh token"))
      ⟨Store.empty schema, Store.empty schema⟩ := rfl
  have hissue : (AuthRouter.issue P S (AuthService.refresh P env raw)).Raises
      ⟨Store.empty schema, Store.empty schema⟩
      (.inl (.service (.unauthorized "invalid refresh token")))
      ⟨Store.empty schema, Store.empty schema⟩ :=
    Tx.raises_bind.mpr (Or.inl (Tx.raises_liftError.mpr ⟨_, hunknown, rfl⟩))
  have htexts : (Except.error (.inl (.service (.unauthorized "missing refresh token"))) :
      Except (Exn ⊕ CookieError) Reply)
        = .error (.inl (.service (.unauthorized "invalid refresh token"))) :=
    congrArg Prod.fst (hmissing.trans hissue)
  simp at htexts

/-- **The refresh cookie written is the refresh cookie read**, exactly if
the settings name it `refresh_token` and give it a lifetime. Take any
settings whose path covers the routes, and a client that keeps its cookies
and has sent any signups, logins, refreshes and logouts, each to whatever
the database had become. If the client holds a token, then the next refresh
presents it, the next logout revokes its session, and the jar follows –
under these settings, and under no other. -/
theorem cookie_written_is_read (P : Platform) (S : CookieSettings) (hcov : S.Covers)
    (calls : List (Database × Env × AuthCall)) (hdrawn : ∀ i ∈ calls, UrlSafe i.2.1.token)
    (raw : String) (hheld : held P S calls = some raw) :
    ReadsBack P S ((client P S).run [] calls) raw ↔
      S.refreshCookieName = "refresh_token" ∧ 0 < P.settings.refreshTtlSeconds := by
  rw [jar_run, hheld]
  obtain ⟨i, hi, rfl⟩ := held_drawn hheld
  constructor
  · exact fun h => h.settings i.2.1
  · rintro ⟨hname, hlive⟩
    exact readsBack hcov hname hlive (hdrawn i hi).1

/-- The default settings, but for the name of the cookie. -/
def Sample.cookieSettings (name : String) : CookieSettings := ⟨name, true, .lax, "/auth"⟩

/-- Ada signs up, and refreshes a minute later. -/
def Sample.session : List (Database × Env × AuthCall) := [
  (Store.empty schema, Sample.env 1 (Sample.second 0),
    .signup (Sample.signup "ada@example.org" none)),
  (Sample.signedUp 2592000, Sample.env 2 (Sample.second 60), .refresh)]

/-- Under the default settings she holds the second token, and it is read
back. -/
theorem cookie_written_is_read_default :
    let P := Sample.platform 2592000
    let S := Sample.cookieSettings "refresh_token"
    held P S Sample.session = some "refresh-2" ∧
      ReadsBack P S ((client P S).run [] Sample.session) "refresh-2" :=
  ⟨by decide +kernel, (cookie_written_is_read (Sample.platform 2592000)
    (Sample.cookieSettings "refresh_token") (by decide +kernel) Sample.session (by decide +kernel)
    "refresh-2" (by decide +kernel)).mpr ⟨rfl, by decide⟩⟩

/-- **Under another name the cookie is written and not read**: the client
holds the token of the signup, a refresh finds it missing, and a logout
answers 204 and leaves the token unrevoked. -/
theorem cookie_written_is_read_renamed :
    let P := Sample.platform 2592000
    let S := Sample.cookieSettings "rt"
    let calls := Sample.session.take 1
    let jar := (client P S).run [] calls
    let env := Sample.env 2 (Sample.second 60)
    let d := Sample.signedUp 2592000
    S.Covers ∧ (∀ i ∈ calls, UrlSafe i.2.1.token) ∧ held P S calls = some "refresh-1" ∧
      ¬ ReadsBack P S jar "refresh-1" ∧
      ((client P S).answer jar (d, env, .refresh)).1
        = .error (.inl (.service (.unauthorized "missing refresh token"))) ∧
      ((client P S).answer jar (d, env, .logout)).1
        = .ok (.noContent (AuthRouter.expiredCookie S)) ∧
      ((client P S).answer jar (d, env, .logout)).2.refreshTokens.map RefreshToken.revokedAt
        = [none] := by
  refine ⟨by decide +kernel, by decide +kernel, by decide +kernel, fun h => ?_, by decide +kernel,
    by decide +kernel, by decide +kernel⟩
  have hjar : (client (Sample.platform 2592000) (Sample.cookieSettings "rt")).run []
      (Sample.session.take 1) = kept (Sample.platform 2592000) (Sample.cookieSettings "rt")
        (some "refresh-1") := by decide +kernel
  rw [hjar] at h
  exact absurd (h.settings (Sample.env 2 (Sample.second 60))).1 (by decide)
