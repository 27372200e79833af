import Accounts.InviteLifecycle
import Accounts.KeyChains
import Accounts.Lineage

/-!
# Sessions are chains of one-time keys

The table of refresh tokens stores a row for every token ever issued. What the
rows of a session are good for is a chain of one-time keys: the digest of the
token that is live is its current key, the digests of the others are spent,
and it has ended when the rows are revoked (`Chain.Tracks`).

`sessions_refine` is the refinement. Of a run of requests, of whatever kind,
take the events of the sessions only – which were opened, and which tokens were
presented. Then every refresh is answered as the chains answer it after these
events.
-/

open Repository

variable {P : Platform} {env : Env} {d : Database} {t : List RefreshToken} {raw : String}

/-! ## Events -/

/-- The chain of a session: of a member of a family, with the digests of its
tokens. -/
abbrev SessionChain : Type := Chain UUID (String × String) String Datetime

/-- What happens to sessions. -/
abbrev SessionEvent : Type := ChainEvent UUID (String × String) String Datetime

/-- When the successor of a token expires, if both tokens of an answer can. -/
def renewal (P : Platform) (now : Datetime) : Option Datetime :=
  (now.plusSeconds P.settings.jwtTtlSeconds).bind
    (fun _ => now.plusSeconds P.settings.refreshTtlSeconds)

/-- A refresh presents a token, and draws its successor. -/
def presentation (P : Platform) (env : Env) (raw : String) : SessionEvent :=
  .presents env.now (RefreshTokenCodec.hash P raw) (RefreshTokenCodec.hash P env.token)
    (renewal P env.now)

/-- **What an answered request is to the sessions.** -/
def sessionEvent (P : Platform) : (Env × Request) × Except Exn Response → Option SessionEvent
  | ((env, .auth (.refresh raw)), _) => some (presentation P env raw)
  | ((_, .auth (.logout raw)), _) => some (.closes (RefreshTokenCodec.hash P raw))
  | ((env, .auth _), .ok (.tokens a)) =>
    (env.now.plusSeconds P.settings.refreshTtlSeconds).map (fun exp =>
      .opens env.sessionId (a.familyId, a.familyMemberId)
        (RefreshTokenCodec.hash P a.refreshToken) exp)
  | _ => none

/-- **The events of a run**, from the empty database. -/
def sessionEvents (P : Platform) (is : List (Env × Request)) : List SessionEvent :=
  ((service P).trace (Store.empty schema) is).filterMap (sessionEvent P)

/-- **What a refresh is answered with.** -/
def ChainAnswer.reply (P : Platform) (env : Env) :
    ChainAnswer (String × String) → Except Exn Response
  | done => .ok .done
  | unknown => .error (.service (.unauthorized "invalid refresh token"))
  | reused => .error .tokenReuse
  | expired => .error (.service (.unauthorized "refresh token expired"))
  | failed => .error .overflowError
  | renewed holder => (TokenService.issue P env holder.1 holder.2).map (fun access =>
      .tokens ⟨access, holder.1, holder.2, env.token⟩)

theorem renewal_eq_some_iff {now exp : Datetime} : renewal P now = some exp ↔
    (now.plusSeconds P.settings.jwtTtlSeconds).isSome ∧
      now.plusSeconds P.settings.refreshTtlSeconds = some exp := by
  unfold renewal
  cases now.plusSeconds P.settings.jwtTtlSeconds <;> simp

/-! ## What a refresh does -/

namespace AuthService

/-- A text that is no token is refused. -/
theorem refresh_unknown {s : Session Database}
    (h : ∀ r ∈ s.working.refreshTokens, r.tokenHash ≠ RefreshTokenCodec.hash P raw) :
    (refresh P env raw).Raises s (.service (.unauthorized "invalid refresh token")) s := by
  refine Tx.raises_bind.mpr (Or.inl ?_)
  rw [RefreshTokenService.rotate, RefreshTokenRepository.getByTokenHash_eq_read]
  refine Tx.raises_bind.mpr (Or.inr ⟨none, s, Tx.returns_read.mpr ⟨?_, rfl⟩,
    Tx.raises_bind.mpr (Or.inl (Tx.raises_orRaise.mpr ⟨rfl, rfl, rfl⟩))⟩)
  exact (List.find?_eq_none.mpr (fun r hr => by simpa using h r hr)).symm

variable {row : RefreshToken}

/-- What `rotate` does with a live token. -/
theorem rotate_live_raises {s s' : Session Database} {e : Exn}
    (hmem : row ∈ s.working.refreshTokens) (hhash : row.tokenHash = RefreshTokenCodec.hash P raw)
    (hlive : row.Live)
    (h : (if RefreshTokenService.isExpired env row then
        Tx.raise (.service (.unauthorized "refresh token expired"))
      else RefreshTokenService.exchange P env row : Op (String × String × String)).Raises s e s') :
    (RefreshTokenService.rotate P env raw).Raises s e s' := by
  rw [RefreshTokenService.rotate, RefreshTokenRepository.getByTokenHash_eq_read]
  exact Tx.raises_bind.mpr (Or.inr ⟨_, s, Tx.returns_read.mpr ⟨rfl, rfl⟩, Tx.raises_bind.mpr
    (Or.inr ⟨row, s, Tx.returns_orRaise.mpr
        ⟨RefreshTokenService.find_tokenHash.mpr ⟨hmem, hhash⟩, rfl⟩,
      Tx.raises_ite.mpr (Or.inr ⟨fun hused => RefreshToken.used_iff.mp hused hlive, h⟩)⟩)⟩)

/-- An expired token is refused. -/
theorem refresh_expired {s : Session Database} (hmem : row ∈ s.working.refreshTokens)
    (hhash : row.tokenHash = RefreshTokenCodec.hash P raw) (hlive : row.Live)
    (hexpired : RefreshTokenService.isExpired env row = true) :
    (refresh P env raw).Raises s (.service (.unauthorized "refresh token expired")) s :=
  Tx.raises_bind.mpr (Or.inl (rotate_live_raises hmem hhash hlive
    (Tx.raises_ite.mpr (Or.inl ⟨hexpired, Tx.raises_raise.mpr ⟨rfl, rfl⟩⟩))))

/-- A live token that has not expired is exchanged, if the expiry of its
successor can be represented. -/
theorem rotate_live_returns (hf : env.Fresh P d) (hmem : row ∈ d.refreshTokens)
    (hhash : row.tokenHash = RefreshTokenCodec.hash P raw) (hlive : row.Live)
    (hexpired : RefreshTokenService.isExpired env row = false) {exp : Datetime}
    (hexp : env.now.plusSeconds P.settings.refreshTtlSeconds = some exp) :
    ∃ s', (RefreshTokenService.rotate P env raw).Returns ⟨d, d⟩
      (env.token, row.familyId.str, row.familyMemberId.str) s' :=
  ⟨_, RefreshTokenService.rotate_returns.mpr ⟨row, hmem, hhash, hlive, hexpired, exp, hexp, rfl,
    ⟨_, exchange_consistent hf hmem exp⟩, rfl, rfl⟩⟩

/-- A token that cannot be renewed ends the request. -/
theorem refresh_failed (hf : env.Fresh P d) (hmem : row ∈ d.refreshTokens)
    (hhash : row.tokenHash = RefreshTokenCodec.hash P raw) (hlive : row.Live)
    (hexpired : RefreshTokenService.isExpired env row = false)
    (hnone : renewal P env.now = none) :
    ∃ s', (refresh P env raw).Raises ⟨d, d⟩ .overflowError s' := by
  cases hexp : env.now.plusSeconds P.settings.refreshTtlSeconds with
  | none =>
    -- the row is consumed before its successor is issued
    obtain ⟨d₁, -, hupd⟩ := Repository.update_returns env (s := ⟨d, d⟩) (T := .refreshToken)
      (fun r => .ok { r with consumedAt := some env.now }) (RefreshTokenService.find_id hmem)
      (TableName.written_refreshToken env.now row _) (row.consume_sameKeys env.now)
    have hex : (RefreshTokenService.exchange P env row).Raises ⟨d, d⟩ .overflowError ⟨d, d₁⟩ :=
      Tx.raises_bind.mpr (Or.inr ⟨_, _, hupd, Tx.raises_bind.mpr (Or.inl (Tx.raises_bind.mpr
        (Or.inl (Tx.raises_orRaise.mpr ⟨hexp, rfl, rfl⟩))))⟩)
    exact ⟨_, Tx.raises_bind.mpr (Or.inl (rotate_live_raises hmem hhash hlive
      (Tx.raises_ite.mpr (Or.inr ⟨Bool.eq_false_iff.mp hexpired, hex⟩))))⟩
  | some exp =>
    obtain ⟨s', hrot⟩ := rotate_live_returns hf hmem hhash hlive hexpired hexp
    refine ⟨s', Tx.raises_bind.mpr (Or.inr ⟨_, s', hrot, Tx.raises_bind.mpr (Or.inl
      (Tx.raises_lift.mpr ⟨?_, rfl⟩))⟩)⟩
    cases hissue : TokenService.issue P env row.familyId.str row.familyMemberId.str with
    | ok access =>
      have hjwt := TokenService.issue_ok_iff.mp ⟨access, hissue⟩
      cases hnone.symm.trans (renewal_eq_some_iff.mpr ⟨hjwt, hexp⟩)
    | error e => rw [TokenService.issue_error hissue]

/-- **A token that can be renewed** is exchanged. -/
theorem serve_refresh (hf : env.Fresh P d) (hmem : row ∈ d.refreshTokens)
    (hex : row.Exchangeable P env raw) {exp : Datetime} {access : String}
    (hexp : env.now.plusSeconds P.settings.refreshTtlSeconds = some exp)
    (haccess : TokenService.issue P env row.familyId.str row.familyMemberId.str = .ok access) :
    (serve P env (.auth (.refresh raw)) d).1
        = .ok (.tokens ⟨access, row.familyId.str, row.familyMemberId.str, env.token⟩) ∧
      (serve P env (.auth (.refresh raw)) d).2.refreshTokens
        = Table.insert (Table.replace RefreshToken.id (row.consume env.now) d.refreshTokens)
          (RefreshTokenService.newToken P env row.familyId row.familyMemberId row.sessionId
            exp) := by
  obtain ⟨s', hrot⟩ := rotate_of_exchangeable hf hmem hex (by rw [hexp]; rfl)
  obtain ⟨row', hmem', hhash', -, -, exp', hexp', -, d', hd', rfl⟩ :=
    RefreshTokenService.rotate_returns.mp hrot
  obtain rfl := RefreshTokenService.eq_of_tokenHash hmem' hmem (hhash'.trans hex.1.symm)
  obtain rfl := Option.some.inj (hexp.symm.trans hexp')
  have hserve : serve P env (.auth (.refresh raw)) d = (.ok (.tokens
      ⟨access, row'.familyId.str, row'.familyMemberId.str, env.token⟩), d') :=
    Tx.serve_ok_iff.mpr ⟨_, Tx.returns_bind_pure.mpr
      ⟨_, refresh_returns.mpr ⟨row', access, haccess, rfl, hmem, hex.1, hrot⟩, rfl⟩, rfl⟩
  rw [hserve]
  refine ⟨rfl, ?_⟩
  show d'.rows .refreshToken = _
  rw [hd', Schema.insert_self, Schema.replace_self]
  rfl

end AuthService

/-! ## The rows of a chain -/

/-- **The rows of a session are those of the chain.** -/
structure Chain.Tracks (c : SessionChain) (t : List RefreshToken) : Prop where
  /-- The digests are the keys. -/
  keys : ∀ k, k ∈ c.keys ↔ ∃ x ∈ sessionRows c.id t, x.tokenHash = k
  /-- The current key is that of the token that has not been consumed. -/
  current : ∃ x ∈ sessionRows c.id t, x.tokenHash = c.current ∧ x.consumedAt = none ∧
    x.expiresAt = some c.expires
  /-- The other tokens have been. -/
  spent : ∀ x ∈ sessionRows c.id t, x.tokenHash ≠ c.current → x.consumedAt ≠ none
  /-- The holder is the member. -/
  holder : ∀ x ∈ sessionRows c.id t, (x.familyId.str, x.familyMemberId.str) = c.holder
  /-- The tokens are revoked when the chain has ended. -/
  ended : ∀ x ∈ sessionRows c.id t, x.revokedAt ≠ none ↔ c.ended = true

/-- **The chains represent the table.** -/
structure Represents (t : List RefreshToken) (L : List SessionChain) : Prop where
  /-- A session has one chain. -/
  unique : Table.Unique (fun c => some (Chain.id c)) L
  /-- Every token is in a session that has one. -/
  session : ∀ x ∈ t, ∃ c ∈ L, c.id = x.sessionId
  /-- Each chain tracks its session. -/
  tracks : ∀ c ∈ L, c.Tracks t

theorem Represents.empty : Represents [] [] :=
  ⟨List.nodup_nil, (by rintro x ⟨⟩), (by rintro c ⟨⟩)⟩

namespace Chain.Tracks

variable {c : SessionChain} {t t' : List RefreshToken}

/-- Only the rows of the session matter. -/
theorem congr (h : c.Tracks t) (ht : sessionRows c.id t' = sessionRows c.id t) : c.Tracks t' where
  keys := ht ▸ h.keys
  current := ht ▸ h.current
  spent := ht ▸ h.spent
  holder := ht ▸ h.holder
  ended := ht ▸ h.ended

/-- A session that is tracked is there. -/
theorem exists_mem (h : c.Tracks t) : ∃ x ∈ t, x.sessionId = c.id := by
  obtain ⟨x, hx, -⟩ := h.current
  exact ⟨x, mem_sessionRows.mp hx⟩

/-- A new session is tracked by its first token. -/
theorem opened {sessionId f m : UUID} {exp : Datetime} (hno : ∀ x ∈ t, x.sessionId ≠ sessionId) :
    Tracks ⟨sessionId, (f.str, m.str), [], RefreshTokenCodec.hash P env.token, exp, false⟩
      (Table.insert t (RefreshTokenService.newToken P env f m sessionId exp)) := by
  have hrows : ∀ x, x ∈ sessionRows sessionId
      (Table.insert t (RefreshTokenService.newToken P env f m sessionId exp)) ↔
      x = RefreshTokenService.newToken P env f m sessionId exp := by
    intro x
    rw [mem_sessionRows, Table.mem_insert]
    constructor
    · rintro ⟨hx, hs⟩
      exact hx.resolve_left (fun hxt => hno x hxt hs)
    · rintro rfl
      exact ⟨Or.inr rfl, rfl⟩
  refine ⟨fun k => ?_, ⟨_, (hrows _).mpr rfl, rfl, rfl, rfl⟩, fun x hx hne => ?_,
    fun x hx => ?_, fun x hx => ?_⟩
  · show k ∈ [RefreshTokenCodec.hash P env.token] ↔ _
    rw [List.mem_singleton]
    exact ⟨fun h => ⟨_, (hrows _).mpr rfl, h.symm⟩, fun ⟨x, hx, hk⟩ => hk ▸ (hrows x).mp hx ▸ rfl⟩
  · exact absurd (congrArg RefreshToken.tokenHash ((hrows x).mp hx)) hne
  · rw [(hrows x).mp hx]
    rfl
  · rw [(hrows x).mp hx]
    exact iff_of_false (fun h => h rfl) Bool.false_ne_true

/-- **Exchanging the live token of a chain that has not ended** advances the
chain. -/
theorem exchanged (h : c.Tracks d.refreshTokens) {row : RefreshToken} {exp : Datetime}
    (hrow : row ∈ d.refreshTokens) (hs : row.sessionId = c.id) (hcur : row.tokenHash = c.current)
    (hended : c.ended = false) :
    (c.advance (RefreshTokenCodec.hash P env.token) exp).Tracks
      (Table.insert (Table.replace RefreshToken.id (row.consume env.now) d.refreshTokens)
        (RefreshTokenService.newToken P env row.familyId row.familyMemberId row.sessionId
          exp)) := by
  have hmem : row ∈ sessionRows c.id d.refreshTokens := mem_sessionRows.mpr ⟨hrow, hs⟩
  generalize hnew : RefreshTokenService.newToken P env row.familyId row.familyMemberId
    row.sessionId exp = new
  have hrows : ∀ x, x ∈ sessionRows c.id
      (Table.insert (Table.replace RefreshToken.id (row.consume env.now) d.refreshTokens) new) ↔
      x = new ∨ x = row.consume env.now ∨ x ∈ sessionRows c.id d.refreshTokens ∧ x.id ≠ row.id := by
    intro x
    rw [mem_sessionRows, Table.mem_insert, Table.mem_replace, mem_sessionRows]
    constructor
    · rintro ⟨(⟨rfl, -⟩ | ⟨hx, hne⟩) | rfl, hxs⟩
      · exact Or.inr (Or.inl rfl)
      · exact Or.inr (Or.inr ⟨⟨hx, hxs⟩, hne⟩)
      · exact Or.inl rfl
    · rintro (rfl | rfl | ⟨⟨hx, hxs⟩, hne⟩)
      · exact ⟨Or.inr rfl, hnew ▸ hs⟩
      · exact ⟨Or.inl (Or.inl ⟨rfl, row, hrow, rfl⟩), hs⟩
      · exact ⟨Or.inl (Or.inr ⟨hx, hne⟩), hxs⟩
  refine ⟨fun k => ?_, ⟨new, (hrows new).mpr (Or.inl rfl), hnew ▸ rfl, hnew ▸ rfl, hnew ▸ rfl⟩,
    fun x hx hne => ?_, fun x hx => ?_, fun x hx => ?_⟩
  · rw [mem_keys_advance, h.keys]
    constructor
    · rintro (rfl | ⟨x, hx, hk⟩)
      · exact ⟨new, (hrows new).mpr (Or.inl rfl), hnew ▸ rfl⟩
      · by_cases hid : x.id = row.id
        · obtain rfl := d.tokenKey.eq (mem_sessionRows.mp hx).1 hrow rfl (congrArg some hid.symm)
          exact ⟨x.consume env.now, (hrows _).mpr (Or.inr (Or.inl rfl)), hk⟩
        · exact ⟨x, (hrows x).mpr (Or.inr (Or.inr ⟨hx, hid⟩)), hk⟩
    · rintro ⟨x, hx, hk⟩
      rcases (hrows x).mp hx with rfl | rfl | ⟨hx, -⟩
      · exact Or.inl (hk ▸ hnew ▸ rfl)
      · exact Or.inr ⟨row, hmem, hk⟩
      · exact Or.inr ⟨x, hx, hk⟩
  · rcases (hrows x).mp hx with rfl | rfl | ⟨hx, hid⟩
    · exact absurd (hnew ▸ rfl) hne
    · exact Option.some_ne_none _
    · -- only the token that was exchanged had not been consumed
      refine h.spent x hx (fun hk => hid ?_)
      rw [RefreshTokenService.eq_of_tokenHash (mem_sessionRows.mp hx).1 hrow (hk.trans hcur.symm)]
  · rcases (hrows x).mp hx with rfl | rfl | ⟨hx, -⟩
    · exact hnew ▸ h.holder row hmem
    · exact h.holder row hmem
    · exact h.holder x hx
  · rcases (hrows x).mp hx with rfl | rfl | ⟨hx, -⟩
    · exact iff_of_false (fun hr => hr (hnew ▸ rfl)) (by simp [advance, hended])
    · exact h.ended row hmem
    · exact h.ended x hx

/-- **Burning a session** ends its chain. -/
theorem burnt (h : c.Tracks t) (now : Datetime) :
    c.finish.Tracks (t.map (fun x => x.burn now c.id)) := by
  have hev : ∀ x : RefreshToken, x.Evolves (x.burn now c.id) := fun x => .burn x now c.id
  have hconsumed : ∀ x : RefreshToken, (x.burn now c.id).consumedAt = x.consumedAt := by
    intro x
    unfold RefreshToken.burn
    split <;> rfl
  have hrows : ∀ x', x' ∈ sessionRows c.id (t.map (fun x => x.burn now c.id)) ↔
      ∃ x ∈ sessionRows c.id t, x.burn now c.id = x' := by
    intro x'
    rw [mem_sessionRows, List.mem_map]
    constructor
    · rintro ⟨⟨x, hx, rfl⟩, hs⟩
      exact ⟨x, mem_sessionRows.mpr ⟨hx, (hev x).sessionId.symm.trans hs⟩, rfl⟩
    · rintro ⟨x, hx, rfl⟩
      obtain ⟨hx, hs⟩ := mem_sessionRows.mp hx
      exact ⟨⟨x, hx, rfl⟩, (hev x).sessionId.trans hs⟩
  refine ⟨fun k => ?_, ?_, fun x' hx' hne => ?_, fun x' hx' => ?_, fun x' hx' => ?_⟩
  · rw [keys_finish, h.keys]
    constructor
    · rintro ⟨x, hx, hk⟩
      exact ⟨_, (hrows _).mpr ⟨x, hx, rfl⟩, (hev x).tokenHash.trans hk⟩
    · rintro ⟨x', hx', hk⟩
      obtain ⟨x, hx, rfl⟩ := (hrows x').mp hx'
      exact ⟨x, hx, (hev x).tokenHash.symm.trans hk⟩
  · obtain ⟨x, hx, hk, hcons, hexp⟩ := h.current
    exact ⟨_, (hrows _).mpr ⟨x, hx, rfl⟩, (hev x).tokenHash.trans hk, (hconsumed x).trans hcons,
      (hev x).expiresAt.trans hexp⟩
  · obtain ⟨x, hx, rfl⟩ := (hrows x').mp hx'
    rw [hconsumed]
    exact h.spent x hx (fun hk => hne ((hev x).tokenHash.trans hk))
  · obtain ⟨x, hx, rfl⟩ := (hrows x').mp hx'
    rw [(hev x).familyId, (hev x).familyMemberId]
    exact h.holder x hx
  · obtain ⟨x, hx, rfl⟩ := (hrows x').mp hx'
    refine iff_of_true ?_ rfl
    unfold RefreshToken.burn
    split
    · exact Option.some_ne_none _
    · next hno => exact fun hr => hno ⟨hr, (mem_sessionRows.mp hx).2⟩

end Chain.Tracks

/-! ## The steps of the table -/

namespace Represents

variable {L : List SessionChain} {row : RefreshToken}

/-- **A session is opened.** -/
theorem opened (h : Represents t L) {f m : UUID} {exp : Datetime}
    (hf : ∀ x ∈ t, x.sessionId ≠ env.sessionId) :
    Represents (Table.insert t (RefreshTokenService.newToken P env f m env.sessionId exp))
      (Table.insert L ⟨env.sessionId, (f.str, m.str), [], RefreshTokenCodec.hash P env.token, exp,
        false⟩) := by
  have hne : ∀ c ∈ L, c.id ≠ env.sessionId := by
    intro c hc
    obtain ⟨x, hx, hs⟩ := (h.tracks c hc).exists_mem
    exact hs ▸ hf x hx
  refine ⟨Table.unique_insert_iff.mpr ⟨h.unique, fun k hk c hc hck => ?_⟩, fun x hx => ?_,
    fun c hc => ?_⟩
  · exact hne c hc (Option.some.inj (hck.trans hk.symm))
  · rcases Table.mem_insert.mp hx with hx | rfl
    · obtain ⟨c, hc, hs⟩ := h.session x hx
      exact ⟨c, Table.mem_insert.mpr (Or.inl hc), hs⟩
    · exact ⟨_, Table.mem_insert.mpr (Or.inr rfl), rfl⟩
  · rcases Table.mem_insert.mp hc with hc | rfl
    · exact (h.tracks c hc).congr
        (Table.filter_insert_of_false (by exact decide_eq_false (hne c hc).symm))
    · exact .opened hf

/-- One chain is replaced, and its session with it. -/
theorem replace (h : Represents t L) {t' : List RefreshToken} {c c' : SessionChain}
    (hid : c'.id = c.id) (hc : c ∈ L) (hc' : c'.Tracks t')
    (hs : ∀ x' ∈ t', x'.sessionId = c.id ∨ x' ∈ t)
    (ht : ∀ S ≠ c.id, sessionRows S t' = sessionRows S t) :
    Represents t' (Table.replace Chain.id c' L) := by
  have hmem : ∀ x ∈ L, ∃ y ∈ Table.replace Chain.id c' L, y.id = x.id := by
    intro x hx
    by_cases hxc : x.id = c'.id
    · exact ⟨c', Table.mem_replace.mpr (Or.inl ⟨rfl, x, hx, hxc⟩), hxc.symm⟩
    · exact ⟨x, Table.mem_replace.mpr (Or.inr ⟨hx, hxc⟩), rfl⟩
  refine ⟨h.unique.replace (fun x _ hx => congrArg some hx.symm), fun x' hx' => ?_,
    fun x hx => ?_⟩
  · rcases hs x' hx' with hxc | hx
    · obtain ⟨y, hy, hyc⟩ := hmem c hc
      exact ⟨y, hy, hyc.trans hxc.symm⟩
    · obtain ⟨x, hx, hxs⟩ := h.session x' hx
      obtain ⟨y, hy, hyx⟩ := hmem x hx
      exact ⟨y, hy, hyx.trans hxs⟩
  · rcases Table.mem_replace.mp hx with ⟨rfl, -⟩ | ⟨hx, hne⟩
    · exact hc'
    · exact (h.tracks x hx).congr (ht x.id (hid ▸ hne))

/-- **The chain of a stored token**: the one that is found by its digest. -/
theorem find (h : Represents d.refreshTokens L) (hrow : row ∈ d.refreshTokens) :
    ∃ c ∈ L, c.id = row.sessionId ∧ Chain.find L row.tokenHash = some c := by
  obtain ⟨c, hc, hs⟩ := h.session row hrow
  refine ⟨c, hc, hs, Chain.find_eq_some hc
    (((h.tracks c hc).keys _).mpr ⟨row, mem_sessionRows.mpr ⟨hrow, hs.symm⟩, rfl⟩)
    (fun x hx hkey => ?_)⟩
  obtain ⟨y, hy, hk⟩ := ((h.tracks x hx).keys _).mp hkey
  obtain ⟨hy, hys⟩ := mem_sessionRows.mp hy
  obtain rfl := RefreshTokenService.eq_of_tokenHash hy hrow hk
  exact h.unique.eq hx hc rfl (congrArg some (hs.trans hys))

/-- No chain has a key that is not stored. -/
theorem find_none (h : Represents t L) {key : String} (hno : ∀ x ∈ t, x.tokenHash ≠ key) :
    Chain.find L key = none :=
  Chain.find_eq_none (fun c hc hkey => by
    obtain ⟨x, hx, hk⟩ := ((h.tracks c hc).keys key).mp hkey
    exact hno x (mem_sessionRows.mp hx).1 hk)

/-- **A token is live** exactly when it is the current key of a chain that has
not ended. -/
theorem live_iff (h : Represents d.refreshTokens L) {c : SessionChain} (hc : c ∈ L)
    (hrow : row ∈ d.refreshTokens) (hs : c.id = row.sessionId) :
    row.Live ↔ c.ended = false ∧ row.tokenHash = c.current := by
  have htr := h.tracks c hc
  have hmem : row ∈ sessionRows c.id d.refreshTokens := mem_sessionRows.mpr ⟨hrow, hs.symm⟩
  have hended : row.revokedAt = none ↔ c.ended = false := by
    rw [← not_iff_not, Bool.not_eq_false]
    exact htr.ended row hmem
  have hcur : row.consumedAt = none ↔ row.tokenHash = c.current := by
    refine ⟨fun hno => by_contra (fun hne => htr.spent row hmem hne hno), fun hk => ?_⟩
    obtain ⟨x, hx, hxk, hcons, -⟩ := htr.current
    rwa [RefreshTokenService.eq_of_tokenHash hrow (mem_sessionRows.mp hx).1 (hk.trans hxk.symm)]
  exact ⟨fun hl => ⟨hended.mp hl.2, hcur.mp hl.1⟩, fun hl => ⟨hcur.mpr hl.2, hended.mpr hl.1⟩⟩

/-- The current token of a chain expires when the chain does. -/
theorem expiresAt (h : Represents d.refreshTokens L) {c : SessionChain} (hc : c ∈ L)
    (hrow : row ∈ d.refreshTokens) (hk : row.tokenHash = c.current) :
    row.expiresAt = some c.expires := by
  obtain ⟨x, hx, hxk, -, hexp⟩ := (h.tracks c hc).current
  rwa [RefreshTokenService.eq_of_tokenHash hrow (mem_sessionRows.mp hx).1 (hk.trans hxk.symm)]

/-- **A live token is exchanged.** -/
theorem exchanged (h : Represents d.refreshTokens L) {c : SessionChain} {exp : Datetime}
    (hc : c ∈ L) (hrow : row ∈ d.refreshTokens) (hs : c.id = row.sessionId) (hlive : row.Live) :
    Represents (Table.insert
        (Table.replace RefreshToken.id (row.consume env.now) d.refreshTokens)
        (RefreshTokenService.newToken P env row.familyId row.familyMemberId row.sessionId exp))
      (Table.replace Chain.id (c.advance (RefreshTokenCodec.hash P env.token) exp) L) := by
  obtain ⟨hended, hcur⟩ := (h.live_iff hc hrow hs).mp hlive
  refine h.replace (c.id_advance _ _) hc ((h.tracks c hc).exchanged hrow hs.symm hcur hended)
    (fun x' hx' => ?_)
    (fun S hS => sessionRows_exchange d.tokenKey hrow (hs ▸ hS.symm) (hs ▸ hS.symm))
  rcases Table.mem_insert.mp hx' with hx' | rfl
  · rcases Table.mem_replace.mp hx' with ⟨rfl, -⟩ | ⟨hx', -⟩
    · exact Or.inl hs.symm
    · exact Or.inr hx'
  · exact Or.inl hs.symm

/-- **A session is burnt.** -/
theorem burnt (h : Represents t L) {c : SessionChain} (hc : c ∈ L) (now : Datetime) :
    Represents (t.map (fun x => x.burn now c.id)) (Table.replace Chain.id c.finish L) := by
  refine h.replace c.id_finish hc ((h.tracks c hc).burnt now) (fun x' hx' => ?_)
    (fun S hS => sessionRows_burn (fun x hx _ hxs => hS ((mem_sessionRows.mp hx).2.symm.trans hxs)))
  obtain ⟨x, hx, rfl⟩ := List.mem_map.mp hx'
  unfold RefreshToken.burn
  split
  · next hno => exact Or.inl hno.2
  · exact Or.inr hx

end Represents

/-! ## The requests -/

variable {L : List SessionChain}

/-- **A refresh is a key handed in.** -/
theorem Represents.refresh (h : Represents d.refreshTokens L) (hf : env.Fresh P d) (raw : String) :
    (serve P env (.auth (.refresh raw)) d).1
        = (keyChains.answer L (presentation P env raw)).reply P env ∧
      Represents (serve P env (.auth (.refresh raw)) d).2.refreshTokens
        (keyChains.next L (presentation P env raw)) := by
  -- what the chains answer, when the request raises and changes nothing
  have hraises : ∀ {s' : Session Database} {e : Exn} {x : ChainAnswer (String × String)},
      (AuthService.refresh P env raw).Raises ⟨d, d⟩ e s' →
      (if e.handled then s'.working else d) = d → x.reply P env = .error e →
      keyChains.step (presentation P env raw) L = (x, L) →
      (serve P env (.auth (.refresh raw)) d).1
          = (keyChains.answer L (presentation P env raw)).reply P env ∧
        Represents (serve P env (.auth (.refresh raw)) d).2.refreshTokens
          (keyChains.next L (presentation P env raw)) := by
    intro s' e x hr hd hx hstep
    have hserve : serve P env (.auth (.refresh raw)) d = (.error e, d) :=
      Tx.serve_error_iff.mpr ⟨s', Tx.raises_bind_pure.mpr hr, hd.symm⟩
    rw [Process.answer, Process.next, hstep, hserve, hx]
    exact ⟨rfl, h⟩
  by_cases hstored : ∃ row ∈ d.refreshTokens, row.tokenHash = RefreshTokenCodec.hash P raw
  · obtain ⟨row, hrow, hhash⟩ := hstored
    obtain ⟨c, hc, hs, hfind⟩ := h.find hrow
    have hstep : keyChains.step (presentation P env raw) L = _ :=
      Chain.step_presents_of_some (hhash ▸ hfind)
    by_cases hlive : row.Live
    · obtain ⟨hended, hcur⟩ := (h.live_iff hc hrow hs).mp hlive
      have hexpires := h.expiresAt hc hrow hcur
      rw [← hhash, hcur] at hstep
      by_cases hle : c.expires ≤ env.now
      · -- too late
        rw [Chain.present_expired hended hle, Chain.replace_self h.unique hc] at hstep
        refine hraises (AuthService.refresh_expired hrow hhash hlive ?_) rfl rfl hstep
        exact Bool.eq_true_of_not_eq_false (fun hno =>
          absurd hle (not_le.mpr ((RefreshTokenService.isExpired_eq_false hexpires).mp hno)))
      · have hex : row.Exchangeable P env raw := ⟨hhash, hlive, _, hexpires, not_le.mp hle⟩
        cases hren : renewal P env.now with
        | none =>
          -- no successor
          rw [hren, Chain.present_failed hended hle, Chain.replace_self h.unique hc] at hstep
          obtain ⟨s', hr⟩ := AuthService.refresh_failed hf hrow hhash hlive
            ((RefreshTokenService.isExpired_eq_false hexpires).mpr (not_le.mp hle)) hren
          exact hraises hr rfl rfl hstep
        | some exp =>
          rw [hren, Chain.present_current hended hle] at hstep
          obtain ⟨hjwt, hexp⟩ := renewal_eq_some_iff.mp hren
          obtain ⟨access, haccess⟩ : ∃ access, TokenService.issue P env row.familyId.str
              row.familyMemberId.str = .ok access := TokenService.issue_ok_iff.mpr hjwt
          have hserve := AuthService.serve_refresh hf hrow hex hexp haccess
          have hholder := (h.tracks c hc).holder row (mem_sessionRows.mpr ⟨hrow, hs.symm⟩)
          rw [Process.answer, Process.next, hstep, hserve.1, hserve.2]
          refine ⟨?_, h.exchanged hc hrow hs hlive⟩
          rw [ChainAnswer.reply, ← hholder, haccess]
          rfl
    · -- a used token ends the chain
      have hused : c.ended = true ∨ RefreshTokenCodec.hash P raw ≠ c.current := by
        rw [h.live_iff hc hrow hs, hhash, not_and_or, Bool.not_eq_false] at hlive
        exact hlive
      rw [Chain.present_used hused] at hstep
      obtain ⟨d', hd', hr⟩ := AuthService.refresh_used env (s := ⟨d, d⟩) hrow hhash hlive
      have hserve : serve P env (.auth (.refresh raw)) d = (.error .tokenReuse, d') :=
        Tx.serve_error_iff.mpr ⟨_, Tx.raises_bind_pure.mpr hr, rfl⟩
      have htokens : d'.refreshTokens
          = d.refreshTokens.map (fun x => x.burn env.now row.sessionId) := by
        show d'.rows .refreshToken = _
        rw [hd', Function.update_self]
      rw [Process.answer, Process.next, hstep, hserve]
      refine ⟨rfl, ?_⟩
      rw [htokens, ← hs]
      exact h.burnt hc env.now
  · have hno : ∀ r ∈ d.refreshTokens, r.tokenHash ≠ RefreshTokenCodec.hash P raw :=
      fun r hr hhash => hstored ⟨r, hr, hhash⟩
    exact hraises (AuthService.refresh_unknown hno) rfl rfl
      (Chain.step_presents_of_none (h.find_none hno))

/-- **A logout is a key given up.** -/
theorem Represents.logout (h : Represents d.refreshTokens L) (env : Env) (raw : String) :
    (serve P env (.auth (.logout raw)) d).1 = .ok .done ∧
      Represents (serve P env (.auth (.logout raw)) d).2.refreshTokens
        (keyChains.next L (.closes (RefreshTokenCodec.hash P raw))) := by
  by_cases hstored : ∃ row ∈ d.refreshTokens, row.tokenHash = RefreshTokenCodec.hash P raw
  · obtain ⟨row, hrow, hhash⟩ := hstored
    obtain ⟨c, hc, hs, hfind⟩ := h.find hrow
    obtain ⟨d', hd', hret⟩ := RefreshTokenService.revoke_stored env (s := ⟨d, d⟩) hrow hhash
    have hserve : serve P env (.auth (.logout raw)) d = (.ok .done, d') :=
      Tx.serve_ok_iff.mpr ⟨_, Tx.returns_bind_pure.mpr ⟨(), hret, rfl⟩, rfl⟩
    have htokens : d'.refreshTokens
        = d.refreshTokens.map (fun x => x.burn env.now row.sessionId) := by
      show d'.rows .refreshToken = _
      rw [hd', Function.update_self]
    rw [Process.next, Chain.step_closes_of_some (hhash ▸ hfind), hserve]
    refine ⟨rfl, ?_⟩
    rw [htokens, ← hs]
    exact h.burnt hc env.now
  · have hno : ∀ r ∈ d.refreshTokens, r.tokenHash ≠ RefreshTokenCodec.hash P raw :=
      fun r hr hhash => hstored ⟨r, hr, hhash⟩
    have hserve : serve P env (.auth (.logout raw)) d = (.ok .done, d) :=
      Tx.serve_ok_iff.mpr ⟨_, Tx.returns_bind_pure.mpr
        ⟨(), RefreshTokenService.revoke_unknown env (s := ⟨d, d⟩) hno, rfl⟩, rfl⟩
    rw [Process.next, Chain.step_closes_of_none (h.find_none hno), hserve]
    exact ⟨rfl, h⟩

/-- **The tokens of an answer open a session**: of the member they name, with
the refresh token they give. -/
def IssuedTokens.Opens (P : Platform) (env : Env) (a : IssuedTokens) (t t' : List RefreshToken) :
    Prop :=
  ∃ f m exp, env.now.plusSeconds P.settings.refreshTtlSeconds = some exp ∧
    a.familyId = UUID.str f ∧ a.familyMemberId = UUID.str m ∧ a.refreshToken = env.token ∧
    t' = Table.insert t (RefreshTokenService.newToken P env f m env.sessionId exp)

namespace IssuedTokens.Opens

variable {s s' : Session Database} {a : IssuedTokens} {body : SignupRequest}

theorem of_issueTokens {f m : UUID} (h : (AuthService.issueTokens P env f m).Returns s a s') :
    a.Opens P env s.working.refreshTokens s'.working.refreshTokens := by
  obtain ⟨access, exp, -, hexp, rfl, d', hd', rfl⟩ := AuthService.issueTokens_returns.mp h
  exact ⟨f, m, exp, hexp, rfl, rfl, rfl, (congrFun hd' .refreshToken).trans Schema.insert_self⟩

theorem of_register {f : UUID} {role : String} {isPrimary : Bool}
    (h : (AuthService.register P env body f role isPrimary).Returns s a s') :
    a.Opens P env s.working.refreshTokens s'.working.refreshTokens := by
  obtain ⟨d₁, hd₁, h⟩ := AuthService.register_returns.mp h
  have htokens : d₁.refreshTokens = s.working.refreshTokens :=
    (congrFun hd₁ .refreshToken).trans (Schema.insert_of_ne (by simp))
  exact htokens ▸ of_issueTokens h

theorem of_finishSignup {invite : Option FamilyInvite}
    (h : (AuthService.finishSignup P env body invite).Returns s a s') :
    a.Opens P env s.working.refreshTokens s'.working.refreshTokens := by
  cases invite with
  | none =>
    obtain ⟨d₁, hd₁, h⟩ := AuthService.finishSignup_none_returns.mp h
    have htokens : d₁.refreshTokens = s.working.refreshTokens :=
      (congrFun hd₁ .refreshToken).trans (Schema.insert_of_ne (by simp))
    exact htokens ▸ of_register h
  | some invite =>
    obtain ⟨cur, -, d₁, hd₁, h⟩ := AuthService.finishSignup_some_returns.mp h
    have htokens : d₁.refreshTokens = s.working.refreshTokens :=
      (congrFun hd₁ .refreshToken).trans (Schema.replace_of_ne (by simp))
    exact htokens ▸ of_register h

/-- Tokens that open a session are an event of the chains. -/
theorem represents {t t' : List RefreshToken} (h : a.Opens P env t t') (hr : Represents t L)
    (hf : ∀ x ∈ t, x.sessionId ≠ env.sessionId) :
    ∃ exp, env.now.plusSeconds P.settings.refreshTtlSeconds = some exp ∧
      Represents t' (keyChains.next L (.opens env.sessionId (a.familyId, a.familyMemberId)
        (RefreshTokenCodec.hash P a.refreshToken) exp)) := by
  obtain ⟨f, m, exp, hexp, hfam, hmem, htok, rfl⟩ := h
  rw [hfam, hmem, htok]
  exact ⟨exp, hexp, hr.opened hf⟩

end IssuedTokens.Opens

/-- **Every request but those that present a token** opens a session with the
tokens it is answered with, or leaves the tokens as they were. -/
theorem serve_opens {req : Request} (hreq : ∀ raw, req ≠ .auth (.refresh raw))
    (hreq' : ∀ raw, req ≠ .auth (.logout raw)) :
    (∃ a, (serve P env req d).1 = .ok (.tokens a) ∧ (∃ op, req = .auth op) ∧
        a.Opens P env d.refreshTokens (serve P env req d).2.refreshTokens) ∨
      (∀ a, (serve P env req d).1 = .ok (.tokens a) → ∀ op, req ≠ .auth op) ∧
        (serve P env req d).2.refreshTokens = d.refreshTokens := by
  cases hs : serve P env req d with
  | mk r d' =>
    cases r with
    | error e =>
      obtain rfl : d' = d := (Request.clean_run_of_ne hreq).serve hs id
      exact Or.inr ⟨fun a ha => (by cases ha), rfl⟩
    | ok response =>
      obtain ⟨s', hret, rfl⟩ := Tx.serve_ok_iff.mp hs
      cases req with
      | family f op =>
        exact Or.inr ⟨fun _ _ op h => (by cases h), FamilyOp.refreshTokens_eq hret⟩
      | auth op =>
        cases op with
        | refresh raw => exact absurd rfl (hreq raw)
        | logout raw => exact absurd rfl (hreq' raw)
        | signup body =>
          obtain ⟨a, h, rfl⟩ := Tx.returns_bind_pure.mp hret
          obtain ⟨invite, -, h⟩ := AuthService.signup_returns.mp h
          exact Or.inl ⟨a, rfl, ⟨_, rfl⟩, .of_finishSignup h⟩
        | login body =>
          obtain ⟨a, h, rfl⟩ := Tx.returns_bind_pure.mp hret
          obtain ⟨m, -, h⟩ := AuthService.login_returns h
          exact Or.inl ⟨a, rfl, ⟨_, rfl⟩, .of_issueTokens h⟩

/-- Other requests are no events. -/
theorem sessionEvent_eq_none {req : Request} {r : Except Exn Response}
    (hreq : ∀ raw, req ≠ .auth (.refresh raw)) (hreq' : ∀ raw, req ≠ .auth (.logout raw))
    (hno : ∀ a, r = .ok (.tokens a) → ∀ op, req ≠ .auth op) :
    sessionEvent P ((env, req), r) = none := by
  unfold sessionEvent
  split
  · next h =>
    cases h
    exact absurd rfl (hreq _)
  · next h =>
    cases h
    exact absurd rfl (hreq' _)
  · next h =>
    cases h
    exact absurd rfl (hno _ rfl _)
  · rfl

/-- **A request is what its event is to the chains.** -/
theorem Represents.step (h : Represents d.refreshTokens L) (hf : env.Fresh P d) (req : Request) :
    Represents (serve P env req d).2.refreshTokens
      ((sessionEvent P ((env, req), (serve P env req d).1)).elim L (keyChains.next L)) := by
  by_cases hrefresh : ∃ raw, req = .auth (.refresh raw)
  · obtain ⟨raw, rfl⟩ := hrefresh
    exact (h.refresh hf raw).2
  by_cases hlogout : ∃ raw, req = .auth (.logout raw)
  · obtain ⟨raw, rfl⟩ := hlogout
    exact (h.logout env raw).2
  rw [not_exists] at hrefresh hlogout
  rcases @serve_opens P env d req hrefresh hlogout with
    ⟨a, ha, ⟨op, rfl⟩, hopens⟩ | ⟨hno, htokens⟩
  · obtain ⟨exp, hexp, hr⟩ := hopens.represents h hf.session
    have hevent : sessionEvent P ((env, .auth op), (serve P env (.auth op) d).1)
        = some (.opens env.sessionId (a.familyId, a.familyMemberId)
          (RefreshTokenCodec.hash P a.refreshToken) exp) := by
      rw [ha]
      cases op with
      | refresh raw => exact absurd rfl (hrefresh raw)
      | logout raw => exact absurd rfl (hlogout raw)
      | signup body | login body => exact congrArg (Option.map _) hexp
    rw [hevent]
    exact hr
  · rw [sessionEvent_eq_none hrefresh hlogout hno, htokens]
    exact h

/-- **The chains represent the table after every run.** -/
theorem represents_run {is : List (Env × Request)} (h : FreshRun P (Store.empty schema) is) :
    Represents ((service P).run (Store.empty schema) is).refreshTokens
      (keyChains.run [] (sessionEvents P is)) :=
  (service P).simulation_run keyChains (fun d L => Represents (Database.refreshTokens d) L)
    (sessionEvent P) (fun _ _ i hr hf => hr.step hf i.2) Represents.empty h

/-- **Sessions refine chains of one-time keys.** After any run of requests of
all kinds, the rows of every session are those of its chain; and a refresh is
answered as the chains answer it, which have seen nothing of the run but the
events of its sessions. -/
theorem sessions_refine (P : Platform) (is : List (Env × Request))
    (h : FreshRun P (Store.empty schema) is) :
    Represents ((service P).run (Store.empty schema) is).refreshTokens
        (keyChains.run [] (sessionEvents P is)) ∧
      ∀ env raw, env.Fresh P ((service P).run (Store.empty schema) is) →
        (service P).answer ((service P).run (Store.empty schema) is) (env, .auth (.refresh raw))
          = (keyChains.answer (keyChains.run [] (sessionEvents P is))
              (presentation P env raw)).reply P env :=
  ⟨represents_run h, fun _ raw hf => ((represents_run h).refresh hf raw).1⟩

namespace Sample

/-- A signup. -/
def signupRun : List (Env × Request) :=
  [(Sample.env 1 (second 0), .auth (.signup (signup "ada@example.org" none)))]

end Sample

/-- The token of a signup is the current key of its chain. -/
theorem sessions_refine_signup :
    (service (Sample.platform 2592000)).answer
        ((service (Sample.platform 2592000)).run (Store.empty schema) Sample.signupRun)
        (Sample.env 2 (Sample.second 60), .auth (.refresh "refresh-1"))
      = (ChainAnswer.renewed (UUID.str 1, UUID.str 1)).reply (Sample.platform 2592000)
          (Sample.env 2 (Sample.second 60)) :=
  ((sessions_refine (Sample.platform 2592000) Sample.signupRun (by decide +kernel)).2
    (Sample.env 2 (Sample.second 60)) "refresh-1" (by decide +kernel)).trans
    (congrArg (ChainAnswer.reply _ _) (by decide +kernel))
