import Accounts.Auth

/-!
# Sessions

A session is the lineage of refresh tokens that begins with a login and
grows by rotation. `TokenStep` is the machine sessions are run by: on a
table of tokens, a session is opened, a live token is exchanged for its
successor, or a session is burnt. `tokenStep_serve` connects it to the
service: serving any request is one of its steps.

On the machine two things are proved by cases on its step and carried to
all runs. A token keeps its keys, and its stamps are set once
(`TokenStep.evolves`). And a burnt session stays exactly as it is
(`Burnt.step`), which is what makes the detection of theft final. The lineage
invariant of module `Lineage` is proved on the same machine.
-/

open Repository

variable {P : Platform} {env : Env} {d : Database} {t t' : List RefreshToken}

/-! ## The machine -/

/-- **A step of the table of refresh tokens.** -/
inductive TokenStep (P : Platform) (env : Env) (t : List RefreshToken) :
    List RefreshToken → Prop where
  /-- Nothing. -/
  | same : TokenStep P env t t
  /-- A member opens a session. -/
  | opened {exp : Datetime} (familyId memberId : UUID)
    (hexp : env.now.plusSeconds P.settings.refreshTtlSeconds = some exp) :
    TokenStep P env t (Table.insert t
      (RefreshTokenService.newToken P env familyId memberId env.sessionId exp))
  /-- A live token is exchanged for a successor in its session. -/
  | exchanged {exp : Datetime} {row : RefreshToken} (hrow : row ∈ t) (hlive : row.Live)
    (hexp : env.now.plusSeconds P.settings.refreshTtlSeconds = some exp) :
    TokenStep P env t (Table.insert (Table.replace RefreshToken.id (row.consume env.now) t)
      (RefreshTokenService.newToken P env row.familyId row.familyMemberId row.sessionId exp))
  /-- The session of a token is burnt. -/
  | burnt {row : RefreshToken} (hrow : row ∈ t) :
    TokenStep P env t (t.map (fun x => x.burn env.now row.sessionId))

/-- A step that adds at most one token, in the new session of the
request. -/
def Opens (P : Platform) (env : Env) (t t' : List RefreshToken) : Prop :=
  t' = t ∨ ∃ familyId memberId exp,
    env.now.plusSeconds P.settings.refreshTtlSeconds = some exp ∧
      t' = Table.insert t
        (RefreshTokenService.newToken P env familyId memberId env.sessionId exp)

namespace Opens

variable {s s' : Session Database} {a : IssuedTokens} {body : SignupRequest}

theorem tokenStep (h : Opens P env t t') : TokenStep P env t t' := by
  rcases h with rfl | ⟨familyId, memberId, exp, hexp, rfl⟩
  · exact .same
  · exact .opened familyId memberId hexp

/-- What `_issue_tokens` leaves of the tokens. -/
theorem of_issueTokens {familyId memberId : UUID}
    (h : (AuthService.issueTokens P env familyId memberId).Returns s a s') :
    Opens P env s.working.refreshTokens s'.working.refreshTokens := by
  obtain ⟨access, exp, -, hexp, -, d', hd', rfl⟩ := AuthService.issueTokens_returns.mp h
  exact Or.inr ⟨familyId, memberId, exp, hexp,
    (congrFun hd' .refreshToken).trans Schema.insert_self⟩

/-- What registering a member leaves of the tokens. -/
theorem of_register {familyId : UUID} {role : String} {isPrimary : Bool}
    (h : (AuthService.register P env body familyId role isPrimary).Returns s a s') :
    Opens P env s.working.refreshTokens s'.working.refreshTokens := by
  obtain ⟨d₁, hd₁, h⟩ := AuthService.register_returns.mp h
  have htokens : d₁.refreshTokens = s.working.refreshTokens :=
    (congrFun hd₁ .refreshToken).trans (Schema.insert_of_ne (by simp))
  exact htokens ▸ of_issueTokens h

/-- What the rest of a signup leaves of the tokens. -/
theorem of_finishSignup {invite : Option FamilyInvite}
    (h : (AuthService.finishSignup P env body invite).Returns s a s') :
    Opens P env s.working.refreshTokens s'.working.refreshTokens := by
  cases invite with
  | none =>
    obtain ⟨d₁, hd₁, h⟩ := AuthService.finishSignup_none_returns.mp h
    have htokens : d₁.refreshTokens = s.working.refreshTokens :=
      (congrFun hd₁ .refreshToken).trans (Schema.insert_of_ne (by simp))
    exact htokens ▸ of_register h
  | some invite =>
    obtain ⟨cur, -, d₁, hd₁, h⟩ := AuthService.finishSignup_some_returns.mp h
    have htokens : d₁.refreshTokens = s.working.refreshTokens :=
      (congrFun hd₁ .refreshToken).trans (Schema.replace_of_ne (by simp))
    exact htokens ▸ of_register h

end Opens

/-- An operation scoped to a family leaves the tokens as they were. -/
theorem FamilyOp.refreshTokens_eq {s s' : Session Database} {f : UUID} {op : FamilyOp}
    {response : Response} (h : (op.run P env f).Returns s response s') :
    s'.working.refreshTokens = s.working.refreshTokens :=
  (FamilyOp.run_change h).rows_of_ne op.target_ne_refreshToken (by simp) (by simp)

/-- **An operation of `AuthService` that returns is a step of the
machine.** -/
theorem AuthOp.tokenStep {s s' : Session Database} {op : AuthOp} {response : Response}
    (hret : (op.run P env).Returns s response s') :
    TokenStep P env s.working.refreshTokens s'.working.refreshTokens := by
  cases op with
  | signup body =>
    obtain ⟨a, h, -⟩ := Tx.returns_bind_pure.mp hret
    obtain ⟨invite, -, h⟩ := AuthService.signup_returns.mp h
    exact (Opens.of_finishSignup h).tokenStep
  | login body =>
    obtain ⟨a, h, -⟩ := Tx.returns_bind_pure.mp hret
    obtain ⟨m, -, h⟩ := AuthService.login_returns h
    exact (Opens.of_issueTokens h).tokenStep
  | refresh raw =>
    obtain ⟨a, h, -⟩ := Tx.returns_bind_pure.mp hret
    obtain ⟨_, _, -, -, -, -, h⟩ := AuthService.refresh_returns.mp h
    obtain ⟨row, hmem, -, hlive, -, exp, hexp, -, d', hd', rfl⟩ :=
      RefreshTokenService.rotate_returns.mp h
    show TokenStep P env _ (d'.rows .refreshToken)
    rw [hd', Schema.insert_self, Schema.replace_self]
    exact .exchanged hmem hlive hexp
  | logout raw =>
    obtain ⟨_, h, -⟩ := Tx.returns_bind_pure.mp hret
    by_cases hstored : ∃ row ∈ s.working.refreshTokens,
        row.tokenHash = RefreshTokenCodec.hash P raw
    · obtain ⟨row, hmem, hhash⟩ := hstored
      obtain ⟨d', hd', hret'⟩ := RefreshTokenService.revoke_stored env hmem hhash
      obtain ⟨-, rfl⟩ := hret'.eq h
      show TokenStep P env _ (d'.rows .refreshToken)
      rw [hd', Function.update_self]
      exact .burnt hmem
    · obtain ⟨-, rfl⟩ := (RefreshTokenService.revoke_unknown env
        (fun r hr he => hstored ⟨r, hr, he⟩)).eq h
      exact .same

/-- **Serving a request is a step of the machine.** -/
theorem tokenStep_serve (P : Platform) (env : Env) (req : Request) (d : Database) :
    TokenStep P env d.refreshTokens (serve P env req d).2.refreshTokens := by
  cases hs : serve P env req d with
  | mk r d' =>
    cases r with
    | ok response =>
      obtain ⟨s', hret, rfl⟩ := Tx.serve_ok_iff.mp hs
      cases req with
      | auth op => exact AuthOp.tokenStep hret
      | family f op => exact FamilyOp.refreshTokens_eq hret ▸ .same
    | error e =>
      by_cases hreuse : e = .tokenReuse ∧ ∃ raw, req = .auth (.refresh raw)
      · -- the one failing request that leaves something behind
        obtain ⟨rfl, raw, rfl⟩ := hreuse
        obtain ⟨s', hr, rfl⟩ := Tx.serve_error_iff.mp hs
        replace hr := Tx.raises_bind_pure.mp hr
        obtain ⟨row, hmem, -, hrows⟩ := AuthService.refresh_reuse hr
        show TokenStep P env _ (s'.working.rows .refreshToken)
        rw [hrows, Function.update_self]
        exact .burnt hmem
      · rw [not_and_or, not_exists] at hreuse
        obtain rfl : d' = d := by
          rcases hreuse with hne | hne
          · exact (Request.clean_run req).serve hs (fun he => by
              rw [Exn.handledButReuse, he, Bool.true_and]
              exact decide_eq_true hne)
          · exact (Request.clean_run_of_ne hne).serve hs id
        exact .same

/-! ## Tokens evolve -/

/-- Tokens have an identifier of their own. -/
theorem Store.tokenKey (d : Database) :
    Table.Unique (fun r => some (RefreshToken.id r)) d.refreshTokens :=
  d.consistent.key .refreshToken

/-- **What may become of a token**: its stamps are set, each once. -/
structure RefreshToken.Evolves (x x' : RefreshToken) : Prop where
  /-- It stays the same row. -/
  id : x'.id = x.id
  /-- It keeps its family. -/
  familyId : x'.familyId = x.familyId
  /-- It keeps its member. -/
  familyMemberId : x'.familyMemberId = x.familyMemberId
  /-- It keeps its session. -/
  sessionId : x'.sessionId = x.sessionId
  /-- It keeps its digest. -/
  tokenHash : x'.tokenHash = x.tokenHash
  /-- It keeps its expiry. -/
  expiresAt : x'.expiresAt = x.expiresAt
  /-- Consumed, it stays consumed as it was. -/
  consumedAt : x.consumedAt ≠ none → x'.consumedAt = x.consumedAt
  /-- Revoked, it stays revoked as it was. -/
  revokedAt : x.revokedAt ≠ none → x'.revokedAt = x.revokedAt

namespace RefreshToken.Evolves

theorem refl (x : RefreshToken) : x.Evolves x :=
  ⟨rfl, rfl, rfl, rfl, rfl, rfl, fun _ => rfl, fun _ => rfl⟩

theorem trans {x y z : RefreshToken} (h : x.Evolves y) (h' : y.Evolves z) : x.Evolves z where
  id := h'.id.trans h.id
  familyId := h'.familyId.trans h.familyId
  familyMemberId := h'.familyMemberId.trans h.familyMemberId
  sessionId := h'.sessionId.trans h.sessionId
  tokenHash := h'.tokenHash.trans h.tokenHash
  expiresAt := h'.expiresAt.trans h.expiresAt
  consumedAt hx := (h'.consumedAt (by rwa [h.consumedAt hx])).trans (h.consumedAt hx)
  revokedAt hx := (h'.revokedAt (by rwa [h.revokedAt hx])).trans (h.revokedAt hx)

theorem consume {x : RefreshToken} (hx : x.consumedAt = none) (now : Datetime) :
    x.Evolves (x.consume now) :=
  ⟨rfl, rfl, rfl, rfl, rfl, rfl, fun h => absurd hx h, fun _ => rfl⟩

theorem burn (x : RefreshToken) (now : Datetime) (sessionId : UUID) :
    x.Evolves (x.burn now sessionId) := by
  unfold RefreshToken.burn
  split
  · next h => exact ⟨rfl, rfl, rfl, rfl, rfl, rfl, fun _ => rfl, fun hx => absurd h.1 hx⟩
  · exact refl x

end RefreshToken.Evolves

/-- **Every token is still there after a step**, evolved. -/
theorem TokenStep.evolves (h : TokenStep P env t t')
    (hkey : Table.Unique (fun r => some (RefreshToken.id r)) t) {x : RefreshToken} (hx : x ∈ t) :
    ∃ x' ∈ t', x.Evolves x' := by
  cases h with
  | same => exact ⟨x, hx, .refl x⟩
  | opened => exact ⟨x, Table.mem_insert.mpr (Or.inl hx), .refl x⟩
  | @exchanged exp row hrow hlive hexp =>
    by_cases hid : x.id = row.id
    · obtain rfl := hkey.eq hx hrow rfl (congrArg some hid.symm)
      exact ⟨x.consume env.now, Table.mem_insert.mpr (Or.inl (Table.mem_replace.mpr
        (Or.inl ⟨rfl, x, hx, rfl⟩))), .consume hlive.1 env.now⟩
    · exact ⟨x, Table.mem_insert.mpr (Or.inl (Table.mem_replace.mpr (Or.inr ⟨hx, hid⟩))),
        .refl x⟩
  | burnt => exact ⟨_, List.mem_map_of_mem hx, .burn x _ _⟩

/-- Every token of a run is there at its end, evolved. -/
theorem Evolves.run (P : Platform) (d : Database) (is : List (Env × Request)) {x : RefreshToken}
    (hx : x ∈ d.refreshTokens) : ∃ x' ∈ ((service P).run d is).refreshTokens, x.Evolves x' := by
  induction is generalizing d x with
  | nil => exact ⟨x, hx, .refl x⟩
  | cons i is ih =>
    obtain ⟨y, hy, hxy⟩ := (tokenStep_serve P i.1 i.2 d).evolves d.tokenKey hx
    obtain ⟨z, hz, hyz⟩ := ih ((service P).next d i) hy
    exact ⟨z, hz, hxy.trans hyz⟩

/-! ## Burnt sessions -/

/-- The tokens of a session. -/
def sessionRows (sessionId : UUID) (t : List RefreshToken) : List RefreshToken :=
  t.filter (fun r => r.sessionId = sessionId)

theorem mem_sessionRows {sessionId : UUID} {x : RefreshToken} :
    x ∈ sessionRows sessionId t ↔ x ∈ t ∧ x.sessionId = sessionId := by
  rw [sessionRows, List.mem_filter, decide_eq_true_iff]

/-- **A burnt session**: there is one, and all its tokens are revoked. -/
def Burnt (sessionId : UUID) (t : List RefreshToken) : Prop :=
  sessionRows sessionId t ≠ [] ∧ ∀ x ∈ sessionRows sessionId t, x.revokedAt ≠ none

theorem Burnt.exists {sessionId : UUID} (h : Burnt sessionId t) :
    ∃ x ∈ t, x.sessionId = sessionId := by
  obtain ⟨x, hx⟩ := List.exists_mem_of_ne_nil _ h.1
  exact ⟨x, mem_sessionRows.mp hx⟩

/-- Burning a session leaves it burnt. -/
theorem Burnt.of_burn {row : RefreshToken} (hrow : row ∈ t) (now : Datetime) :
    Burnt row.sessionId (t.map (fun x => x.burn now row.sessionId)) := by
  have hsession : ∀ x : RefreshToken, (x.burn now row.sessionId).sessionId = x.sessionId :=
    fun x => (RefreshToken.Evolves.burn x now row.sessionId).sessionId
  refine ⟨List.ne_nil_of_mem (mem_sessionRows.mpr
    ⟨List.mem_map_of_mem hrow, hsession row⟩), fun x' hx' => ?_⟩
  obtain ⟨hx', hs⟩ := mem_sessionRows.mp hx'
  obtain ⟨x, -, rfl⟩ := List.mem_map.mp hx'
  rw [hsession] at hs
  unfold RefreshToken.burn
  split
  · exact Option.some_ne_none _
  · next h => exact fun hr => h ⟨hr, hs⟩

/-- Burning leaves the other sessions, and those already burnt, as they
were. -/
theorem sessionRows_burn {sessionId other : UUID} {now : Datetime}
    (h : ∀ x ∈ sessionRows sessionId t, x.revokedAt = none → x.sessionId ≠ other) :
    sessionRows sessionId (t.map (fun x => x.burn now other)) = sessionRows sessionId t := by
  have hsession : ∀ x : RefreshToken, (x.burn now other).sessionId = x.sessionId :=
    fun x => (RefreshToken.Evolves.burn x now other).sessionId
  unfold sessionRows
  rw [List.filter_map]
  simp only [Function.comp_def, hsession]
  conv_rhs => rw [← List.map_id (t.filter _)]
  refine List.map_congr_left (fun x hx => ?_)
  unfold RefreshToken.burn
  exact if_neg (fun hno => h x hx hno.1 hno.2)

/-- An exchange leaves the other sessions as they were. -/
theorem sessionRows_exchange {sessionId : UUID} {row new : RefreshToken} {now : Datetime}
    (hkey : Table.Unique (fun r => some (RefreshToken.id r)) t) (hrow : row ∈ t)
    (hne : row.sessionId ≠ sessionId) (hnew : new.sessionId ≠ sessionId) :
    sessionRows sessionId (Table.insert (Table.replace RefreshToken.id (row.consume now) t) new)
      = sessionRows sessionId t := by
  unfold sessionRows
  refine (Table.filter_insert_of_false (by exact decide_eq_false hnew)).trans
    (Table.filter_replace_of_false (by exact decide_eq_false hne)
      (fun x hx hid => ?_))
  obtain rfl := hkey.eq hx hrow rfl (congrArg some hid.symm)
  exact decide_eq_false hne

/-- **A burnt session stays as it is.** -/
theorem Burnt.step {sessionId : UUID} (hb : Burnt sessionId t) (h : TokenStep P env t t')
    (hkey : Table.Unique (fun r => some (RefreshToken.id r)) t)
    (hfresh : ∀ r ∈ t, r.sessionId ≠ env.sessionId) :
    sessionRows sessionId t' = sessionRows sessionId t := by
  cases h with
  | same => rfl
  | opened =>
    obtain ⟨x, hx, rfl⟩ := hb.exists
    exact Table.filter_insert_of_false
      (by exact decide_eq_false (hfresh x hx).symm)
  | @exchanged exp row hrow hlive hexp =>
    have hne : row.sessionId ≠ sessionId :=
      fun hs => hb.2 row (mem_sessionRows.mpr ⟨hrow, hs⟩) hlive.2
    exact sessionRows_exchange hkey hrow hne hne
  | burnt => exact sessionRows_burn (fun x hx hr => absurd hr (hb.2 x hx))

/-- **Sessions are new** in every request of a run. -/
abbrev FreshSessions (P : Platform) (d : Database) (run : List (Env × Request)) : Prop :=
  (service P).Every (fun d i => ∀ r ∈ d.refreshTokens, r.sessionId ≠ i.1.sessionId) d run

/-- **A burnt session stays as it is in every run.** -/
theorem Burnt.run {sessionId : UUID} {is : List (Env × Request)}
    (hb : Burnt sessionId d.refreshTokens) (hfresh : FreshSessions P d is) :
    sessionRows sessionId ((service P).run d is).refreshTokens
      = sessionRows sessionId d.refreshTokens := by
  induction is generalizing d with
  | nil => rfl
  | cons i is ih =>
    have hstep : sessionRows sessionId ((service P).next d i).refreshTokens
        = sessionRows sessionId d.refreshTokens :=
      hb.step (tokenStep_serve P i.1 i.2 d) d.tokenKey hfresh.1
    rw [Process.run_cons, ih ?_ hfresh.2, hstep]
    rwa [Burnt, hstep]
