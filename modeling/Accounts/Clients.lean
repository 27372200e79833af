import Accounts.SessionChains

/-!
# Clients that keep to the rules

What the refresh tokens are protected against is proved elsewhere: a token is
used once, and one that is used again ends its session. Here is what they are
for. A client that hands in the token it was given last, in time, is given the
next – as often as it likes, and whatever others send in between, as long as
they have none of its tokens (`diligent_client_is_served`).

So nothing but a token of the session itself can end a session: no change of
the member or the family, no other login of the same member, and no other
session that is burnt.
-/

open Repository

variable {P : Platform} {env : Env} {d : Database} {sessionId : UUID}

/-- **A client with its session**: what it knows of it, beside the database. -/
structure Client where
  /-- The database. -/
  db : Database
  /-- The refresh token that the client was given last. -/
  token : String
  /-- When the token expires. -/
  expires : Datetime

/-- **A turn**: the client refreshes its token, or anybody sends a request. -/
inductive Turn where
  /-- The client's own. -/
  | own (env : Env)
  /-- Another. -/
  | other (env : Env) (req : Request)

/-- **The client receives an answer**: it keeps the refresh token, if there is
one. -/
def Client.received (P : Platform) (env : Env) (s : Client) (r : Except Exn Response × Database) :
    Client :=
  match r.1 with
  | .ok (.tokens a) => ⟨r.2, a.refreshToken,
      (env.now.plusSeconds P.settings.refreshTtlSeconds).getD s.expires⟩
  | _ => { s with db := r.2 }

/-- **The client and the others, by turns.** -/
def clients (P : Platform) : Process Client Turn (Except Exn Response) where
  step
    | .own env, s =>
      let r := serve P env (.auth (.refresh s.token)) s.db
      (r.1, s.received P env r)
    | .other env req, s =>
      let r := serve P env req s.db
      (r.1, { s with db := r.2 })

/-- The refresh token a request presents. -/
def Request.presents : Request → Option String
  | auth (.refresh raw) | auth (.logout raw) => some raw
  | _ => none

/-- **The turn keeps to the rules** of a session: the client refreshes before
its token expires, and while both tokens of an answer can expire; nobody else
presents a token of the session. -/
def Turn.Keeps (P : Platform) (sessionId : UUID) (s : Client) : Turn → Prop
  | own env => env.Fresh P s.db ∧ env.now < s.expires ∧ TokensExpire P env.now
  | other env req => env.Fresh P s.db ∧ ∀ raw ∈ req.presents, ¬ Presents P s.db raw sessionId

instance (s : Client) (turn : Turn) : Decidable (turn.Keeps P sessionId s) := by
  unfold Turn.Keeps
  cases turn <;> infer_instance

/-- The keys of events are the digests of the tokens that requests present. -/
theorem sessionEvent_key {req : Request} {r : Except Exn Response} {e : SessionEvent} {key : String}
    (he : sessionEvent P ((env, req), r) = some e) (hkey : key ∈ e.key) :
    ∃ raw ∈ req.presents, key = RefreshTokenCodec.hash P raw := by
  unfold sessionEvent at he
  split at he
  · next raw _ h =>
    cases h
    cases he
    exact ⟨raw, rfl, (Option.some.inj hkey).symm⟩
  · next raw _ h =>
    cases h
    cases he
    exact ⟨raw, rfl, (Option.some.inj hkey).symm⟩
  · obtain ⟨exp, -, rfl⟩ := Option.map_eq_some_iff.mp he
    cases hkey
  · cases he

/-! ## The token a client holds -/

/-- **The client holds the current key** of a chain that has not ended. -/
structure Client.Holds (P : Platform) (s : Client) (L : List SessionChain) (c : SessionChain) :
    Prop where
  /-- The chains are those of the database. -/
  represents : Represents s.db.refreshTokens L
  /-- One of them has not ended. -/
  mem : c ∈ L
  /-- It has not. -/
  ended : c.ended = false
  /-- Its key is the digest of the token. -/
  current : c.current = RefreshTokenCodec.hash P s.token
  /-- Both expire together. -/
  expires : c.expires = s.expires

namespace Client.Holds

variable {s : Client} {L : List SessionChain} {c : SessionChain}

/-- The token is stored, and the chain is found by it. -/
theorem find (h : s.Holds P L c) :
    Chain.find L (RefreshTokenCodec.hash P s.token) = some c := by
  obtain ⟨x, hx, hk, -⟩ := (h.represents.tracks c h.mem).current
  obtain ⟨hx, hs⟩ := mem_sessionRows.mp hx
  obtain ⟨c', hc', hs', hfind⟩ := h.represents.find hx
  obtain rfl := h.represents.unique.eq hc' h.mem rfl (congrArg some (hs.symm.trans hs'.symm))
  rw [← h.current, ← hk, hfind]

/-- **What others send leaves the client its token.** -/
theorem other (h : s.Holds P L c) {req : Request} (hf : env.Fresh P s.db)
    (hno : ∀ raw ∈ req.presents, ¬ Presents P s.db raw c.id) :
    ∃ L', ((clients P).next s (.other env req)).Holds P L' c := by
  refine ⟨_, h.represents.step hf req, ?_, h.ended, h.current, h.expires⟩
  cases he : sessionEvent P ((env, req), (serve P env req s.db).1) with
  | none => exact h.mem
  | some e =>
    refine Chain.mem_next_of_not_touches h.represents.unique h.mem (fun key hkey hmem => ?_)
    -- a key of the chain is the digest of a token of the session
    obtain ⟨raw, hraw, rfl⟩ := sessionEvent_key he hkey
    obtain ⟨x, hx, hk⟩ := ((h.represents.tracks c h.mem).keys _).mp hmem
    obtain ⟨hx, hs⟩ := mem_sessionRows.mp hx
    exact hno raw hraw ⟨x, hx, hk, hs⟩

/-- **A client that hands in its token in time** is given the next. -/
theorem own (h : s.Holds P L c) (hf : env.Fresh P s.db) (hlt : env.now < s.expires)
    (hexp : TokensExpire P env.now) :
    (∃ access, (clients P).answer s (.own env)
        = .ok (.tokens ⟨access, c.holder.1, c.holder.2, env.token⟩)) ∧
      ∃ L' c', ((clients P).next s (.own env)).Holds P L' c' ∧ c'.id = c.id ∧
        c'.holder = c.holder := by
  obtain ⟨hjwt, hrefresh⟩ := hexp
  obtain ⟨exp, hexp⟩ := Option.isSome_iff_exists.mp hrefresh
  obtain ⟨access, haccess⟩ : ∃ access,
      TokenService.issue P env c.holder.1 c.holder.2 = .ok access :=
    TokenService.issue_ok_iff.mpr hjwt
  have hren : renewal P env.now = some exp := renewal_eq_some_iff.mpr ⟨hjwt, hexp⟩
  have hstep : keyChains.step (presentation P env s.token) L = (.renewed c.holder,
      Table.replace Chain.id (c.advance (RefreshTokenCodec.hash P env.token) exp) L) := by
    have hle : ¬ c.expires ≤ env.now := h.expires ▸ not_le.mpr hlt
    rw [presentation, hren, Chain.step_presents_of_some h.find, ← h.current,
      Chain.present_current h.ended hle]
  obtain ⟨hanswer, hrep⟩ := h.represents.refresh hf s.token
  rw [Process.answer, hstep, ChainAnswer.reply, haccess] at hanswer
  rw [Process.next, hstep] at hrep
  have hserve : (serve P env (.auth (.refresh s.token)) s.db).1
      = .ok (.tokens ⟨access, c.holder.1, c.holder.2, env.token⟩) := hanswer
  have hnext : (clients P).next s (.own env)
      = ⟨(serve P env (.auth (.refresh s.token)) s.db).2, env.token, exp⟩ := by
    show s.received P env _ = _
    rw [Client.received, hserve]
    simp only [hexp, Option.getD_some]
  have hholds : ((clients P).next s (.own env)).Holds P
      (Table.replace Chain.id (c.advance (RefreshTokenCodec.hash P env.token) exp) L)
      (c.advance (RefreshTokenCodec.hash P env.token) exp) := by
    rw [hnext]
    exact ⟨hrep, Table.mem_replace.mpr (Or.inl ⟨rfl, c, h.mem, rfl⟩), h.ended, rfl, rfl⟩
  exact ⟨⟨access, hserve⟩, _, _, hholds, rfl, rfl⟩

end Client.Holds

/-- **The rules keep a client its session.** -/
theorem Client.Holds.run {s : Client} {L : List SessionChain} {c : SessionChain}
    (h : s.Holds P L c) {turns : List Turn}
    (hturns : (clients P).Every (Turn.Keeps P c.id) s turns) :
    ∃ L' c', ((clients P).run s turns).Holds P L' c' ∧ c'.id = c.id ∧ c'.holder = c.holder := by
  refine (clients P).run_invariant (P := fun s turn => Turn.Keeps P c.id s turn)
    (fun s => ∃ L' c', s.Holds P L' c' ∧ c'.id = c.id ∧ c'.holder = c.holder)
    (fun s turn ⟨L', c', hs, hid, hholder⟩ hk => ?_) ⟨L, c, h, rfl, rfl⟩ hturns
  cases turn with
  | own env =>
    obtain ⟨-, L'', c'', hs', hid', hholder'⟩ := hs.own hk.1 hk.2.1 hk.2.2
    exact ⟨L'', c'', hs', hid'.trans hid, hholder'.trans hholder⟩
  | other env req =>
    obtain ⟨L'', hs'⟩ := hs.other hk.1 (hid.symm ▸ hk.2)
    exact ⟨L'', c', hs', hid, hholder⟩

/-- **A client that keeps to the rules is served.** After any run of requests,
let somebody sign up or log in, and refresh the token it is given again and
again, each time in time. As long as nobody else presents a token of the
session, and whatever else is requested by anybody, it is answered with tokens
every time, for the member of the first answer. -/
theorem diligent_client_is_served (P : Platform) (is : List (Env × Request))
    (h : FreshRun P (Store.empty schema) is) (env : Env)
    (hf : env.Fresh P ((service P).run (Store.empty schema) is)) (op : AuthOp)
    (hop : ∀ raw, op ≠ .refresh raw) (a : IssuedTokens) (exp : Datetime)
    (hexp : env.now.plusSeconds P.settings.refreshTtlSeconds = some exp)
    (ha : (serve P env (.auth op) ((service P).run (Store.empty schema) is)).1
      = .ok (.tokens a)) :
    let s : Client := ⟨(serve P env (.auth op) ((service P).run (Store.empty schema) is)).2,
      a.refreshToken, exp⟩
    ∀ turns, (clients P).Every (Turn.Keeps P env.sessionId) s turns → ∀ env',
      (Turn.own env').Keeps P env.sessionId ((clients P).run s turns) →
      ∃ a', (clients P).answer ((clients P).run s turns) (.own env') = .ok (.tokens a') ∧
        a'.familyId = a.familyId ∧ a'.familyMemberId = a.familyMemberId := by
  intro s turns hturns env' hk
  have hrep := represents_run h
  have hlogout : ∀ raw, Request.auth op ≠ .auth (.logout raw) := by
    rintro raw ⟨⟩
    cases ha.symm.trans (hrep.logout env raw).1
  -- the answer opens a session, with a chain of its own
  rcases serve_opens (fun raw hr => hop raw (Request.auth.inj hr)) hlogout with
    ⟨a', ha', -, hopens⟩ | ⟨hno, -⟩
  · obtain rfl := Response.tokens.inj (Except.ok.inj (ha'.symm.trans ha))
    obtain ⟨exp', hexp', hopened⟩ := hopens.represents hrep hf.session
    obtain rfl := Option.some.inj (hexp'.symm.trans hexp)
    have hholds : s.Holds P _ ⟨env.sessionId, (a'.familyId, a'.familyMemberId), [],
        RefreshTokenCodec.hash P a'.refreshToken, exp', false⟩ :=
      ⟨hopened, Table.mem_insert.mpr (Or.inr rfl), rfl, rfl, rfl⟩
    obtain ⟨L', c', hs', -, hholder⟩ := hholds.run hturns
    obtain ⟨⟨access, hanswer⟩, -⟩ := hs'.own hk.1 hk.2.1 hk.2.2
    exact ⟨_, hanswer, by rw [hholder], by rw [hholder]⟩
  · exact absurd rfl (hno a ha op)

namespace Sample

/-- The client refreshes, another signs up, and the client goes on. -/
def turns : List Turn := [
  .own (Sample.env 2 (second 60)),
  .other (Sample.env 3 (second 90)) (.auth (.signup (signup "bob@example.org" none)))]

end Sample

/-- The founder of a family refreshes a second time. -/
theorem diligent_client_is_served_founder :
    ∃ a, (clients (Sample.platform 10000)).answer
        ((clients (Sample.platform 10000)).run
          ⟨(serve (Sample.platform 10000) (Sample.env 1 (Sample.second 0))
              (.auth (.signup (Sample.signup "ada@example.org" none))) (Store.empty schema)).2,
            "refresh-1", Sample.second 10000⟩ Sample.turns)
        (.own (Sample.env 4 (Sample.second 120))) = .ok (.tokens a) ∧
      a.familyId = UUID.str 1 ∧ a.familyMemberId = UUID.str 1 :=
  diligent_client_is_served (Sample.platform 10000) [] trivial (Sample.env 1 (Sample.second 0))
    (by decide +kernel) (.signup (Sample.signup "ada@example.org" none)) (fun _ h => by cases h)
    ⟨UUID.str 1, UUID.str 1, UUID.str 1, "refresh-1"⟩ (Sample.second 10000) (by decide +kernel)
    (by decide +kernel) Sample.turns (by decide +kernel) (Sample.env 4 (Sample.second 120))
    (by decide +kernel)
