import Accounts.Flights
import Accounts.Sessions

/-!
# One-time use under concurrent requests

What the two steps of the requests do to the table of refresh tokens when
they are interleaved, and the first of the two properties that hold
serially and are lost to a race.

`rotate` checks that a token is unconsumed in its first step and consumes
it, unconditionally, in its second: two requests that present one token can
both get through. `refresh_single_use` says that nothing else goes wrong:
as long as every exchange is written while its token is still unconsumed, a
token is exchanged at most once and a session never has two live tokens.
-/

open Repository

variable {P : Platform} {env : Env} {d d' : Database} {t t' : List RefreshToken}

/-! ## What the steps do to the tokens -/

/-- The token a completed request has exchanged. -/
def exchangedToken (o : Completed Env Request Flight Exn Response) : Option RefreshToken :=
  match o.source, o.outcome with
  | .inr (.exchange row), .ok _ => some row
  | _, _ => none

/-- The rows, those of the given identifiers revoked. -/
def revokeAll (now : Datetime) (rows t : List RefreshToken) : List RefreshToken :=
  t.map (fun x => if x.id ∈ rows.map (·.id) then x.revoke now else x)

/-- **The first step of a request** adds at most one token. -/
theorem first_opens {req : Request} {r : Flight ⊕ Completed Env Request Flight Exn Response}
    (h : (concurrentService P).first env req d = (d', r)) :
    Opens P env d.refreshTokens d'.refreshTokens := by
  rcases first_cases h with rfl | ⟨s', rfl, ⟨body, a, -, hl⟩ | ⟨f, op, response, -, -, hop⟩⟩
  · exact Or.inl rfl
  · obtain ⟨m, -, hi⟩ := AuthService.login_returns hl
    exact Opens.of_issueTokens hi
  · exact Or.inl (FamilyOp.refreshTokens_eq hop)

/-- **The second step of a request** that neither exchanges nor revokes adds
at most one token. -/
theorem finish_opens {flight : Flight} {r : Except Exn Response} (hex : flight.exchanges = none)
    (hrev : flight.revocation = none)
    (h : Tx.serve Exn.handled (flight.finish P env) d = (r, d')) :
    Opens P env d.refreshTokens d'.refreshTokens := by
  cases r with
  | error e => exact Or.inl (congrArg Database.refreshTokens (Flight.finish_error hrev h))
  | ok response =>
    cases flight with
    | exchange row => cases hex
    | reuse now sessionId rows => cases hrev
    | logout now sessionId rows => cases hrev
    | signup body invite =>
      obtain ⟨a, s', -, rfl, hs⟩ := Flight.finish_signup h
      exact Opens.of_finishSignup hs
    | revokeInvite invite | createMember familyId body | upsertProfile memberId body profile =>
      exact Or.inl (Flight.finish_frame h (by simp [Flight.tables]))

/-- **The second step of an exchange**: it fails and leaves the database as
it was, or it consumes the token as it is now and adds a successor in its
session. -/
theorem finish_exchanges {row : RefreshToken} {r : Except Exn Response}
    (h : Tx.serve Exn.handled ((Flight.exchange row).finish P env) d = (r, d')) :
    ((∃ e, r = .error e) ∧ d' = d) ∨
      ∃ response, r = .ok response ∧ ∃ cur ∈ d.refreshTokens, cur.id = row.id ∧
        ∃ new : RefreshToken, new.sessionId = cur.sessionId ∧
          d'.refreshTokens = Table.insert
            (Table.replace RefreshToken.id (cur.consume env.now) d.refreshTokens) new := by
  cases r with
  | error e => exact Or.inl ⟨⟨e, rfl⟩, Flight.finish_error rfl h⟩
  | ok response =>
    obtain ⟨cur, exp, hcur, hd'⟩ := Flight.finish_exchange h
    obtain ⟨hmem, hid⟩ := Store.find_eq_some_iff.mp hcur
    refine Or.inr ⟨response, rfl, cur, hmem, hid,
      RefreshTokenService.newToken P env cur.familyId cur.familyMemberId cur.sessionId exp, rfl, ?_⟩
    show d'.rows .refreshToken = _
    rw [hd', Schema.insert_self, Schema.replace_self]
    rfl

/-- **The second step of a revocation** revokes the rows it selected. -/
theorem finish_revokes {flight : Flight} {now : Datetime} {sessionId : UUID}
    {rows : List RefreshToken} {r : Except Exn Response}
    (hf : flight.revocation = some (now, sessionId, rows))
    (hrows : ∀ x ∈ rows, x.id ∈ d.refreshTokens.map (·.id))
    (h : Tx.serve Exn.handled (flight.finish P env) d = (r, d')) :
    d'.refreshTokens = revokeAll now rows d.refreshTokens := by
  show d'.rows .refreshToken = _
  rw [Flight.finish_revocation hf hrows h, Function.update_self]
  rfl

/-! ## Identifiers and selections -/

/-- No step drops a token. -/
theorem map_id_opens (h : Opens P env t t') {k : UUID} (hk : k ∈ t.map (·.id)) :
    k ∈ t'.map (·.id) := by
  rcases h with rfl | ⟨f, m, exp, -, rfl⟩
  · exact hk
  · rw [Table.map_insert]
    exact List.mem_append_left _ hk

theorem map_id_exchange {cur new : RefreshToken} {now : Datetime} {k : UUID}
    (hk : k ∈ t.map (·.id)) :
    k ∈ (Table.insert (Table.replace RefreshToken.id (cur.consume now) t) new).map (·.id) := by
  rw [Table.map_insert, Table.map_replace (fun x _ h => h.symm)]
  exact List.mem_append_left _ hk

/-- A revocation keeps everything but `revoked_at`. -/
theorem map_revokeAll {γ : Type} (g : RefreshToken → γ)
    (hg : ∀ x now, g (RefreshToken.revoke x now) = g x) (now : Datetime)
    (rows t : List RefreshToken) :
    (revokeAll now rows t).map g = t.map g := by
  unfold revokeAll
  rw [List.map_map]
  refine List.map_congr_left (fun x _ => ?_)
  simp only [Function.comp_apply]
  split
  · exact hg x now
  · rfl

/-- A row after a revocation was there before, and was at most revoked. -/
theorem mem_revokeAll {now : Datetime} {rows : List RefreshToken} {x' : RefreshToken}
    (h : x' ∈ revokeAll now rows t) :
    ∃ x ∈ t, x' = x ∨ (x.id ∈ rows.map (·.id) ∧ x' = x.revoke now) := by
  obtain ⟨x, hx, rfl⟩ := List.mem_map.mp h
  refine ⟨x, hx, ?_⟩
  split
  · next hid => exact Or.inr ⟨hid, rfl⟩
  · exact Or.inl rfl

/-! ## One-time use -/

/-- **A token is exchanged at most once**: the invariant. A session has at
most one unconsumed token, and the tokens of the log's exchanges are
distinct and consumed. -/
structure SingleUse (t : List RefreshToken)
    (log : List (Completed Env Request Flight Exn Response)) : Prop where
  /-- A session has at most one unconsumed token. -/
  one : ∀ x ∈ t, ∀ y ∈ t, x.sessionId = y.sessionId → x.consumedAt = none →
    y.consumedAt = none → x = y
  /-- No token was exchanged twice. -/
  nodup : (log.filterMap (fun o => (exchangedToken o).map (·.id))).Nodup
  /-- An exchanged token is consumed. -/
  consumed : ∀ k ∈ log.filterMap (fun o => (exchangedToken o).map (·.id)),
    ∃ r ∈ t, r.id = k ∧ r.consumedAt ≠ none

namespace SingleUse

variable {log : List (Completed Env Request Flight Exn Response)}
  {o : Completed Env Request Flight Exn Response}

/-- An entry that is no exchange may be logged. -/
theorem append (h : SingleUse t log) (ho : exchangedToken o = none) : SingleUse t (log ++ [o]) := by
  have hlog : (log ++ [o]).filterMap (fun o => (exchangedToken o).map (·.id))
      = log.filterMap (fun o => (exchangedToken o).map (·.id)) := by
    rw [List.filterMap_append, List.filterMap_cons, ho]
    simp
  exact ⟨h.one, hlog ▸ h.nodup, hlog ▸ h.consumed⟩

/-- A session may be opened. -/
theorem opens (h : SingleUse t log) (ho : Opens P env t t')
    (hfresh : ∀ r ∈ t, r.sessionId ≠ env.sessionId) : SingleUse t' log := by
  rcases ho with rfl | ⟨f, m, exp, -, rfl⟩
  · exact h
  · refine ⟨fun x hx y hy hs hxc hyc => ?_, h.nodup, fun k hk => ?_⟩
    · rcases Table.mem_insert.mp hx with hx | rfl <;> rcases Table.mem_insert.mp hy with hy | rfl
      · exact h.one x hx y hy hs hxc hyc
      · exact absurd hs (hfresh x hx)
      · exact absurd hs.symm (hfresh y hy)
      · rfl
    · obtain ⟨r, hr, hrk⟩ := h.consumed k hk
      exact ⟨r, Table.mem_insert.mpr (Or.inl hr), hrk⟩

/-- Rows may be revoked. -/
theorem revokes (h : SingleUse t log) (now : Datetime) (rows : List RefreshToken) :
    SingleUse (revokeAll now rows t) log := by
  refine ⟨fun x' hx' y' hy' hs hxc hyc => ?_, h.nodup, fun k hk => ?_⟩
  · obtain ⟨x, hx, rfl⟩ := List.mem_map.mp hx'
    obtain ⟨y, hy, rfl⟩ := List.mem_map.mp hy'
    have hkeep : ∀ z : RefreshToken,
        (if z.id ∈ rows.map (·.id) then z.revoke now else z).sessionId = z.sessionId ∧
        (if z.id ∈ rows.map (·.id) then z.revoke now else z).consumedAt = z.consumedAt := by
      intro z
      split <;> exact ⟨rfl, rfl⟩
    simp only [(hkeep x).1, (hkeep y).1] at hs
    simp only [(hkeep x).2] at hxc
    simp only [(hkeep y).2] at hyc
    rw [h.one x hx y hy hs hxc hyc]
  · obtain ⟨r, hr, hrk, hrc⟩ := h.consumed k hk
    refine ⟨_, List.mem_map_of_mem hr, ?_⟩
    split <;> exact ⟨hrk, hrc⟩

/-- **An unconsumed token may be exchanged.** -/
theorem exchange {cur new : RefreshToken} {row : RefreshToken} {now : Datetime}
    (h : SingleUse t log) (hkey : Table.Unique (fun r => some (RefreshToken.id r)) t)
    (hcur : cur ∈ t) (hid : cur.id = row.id) (hc : cur.consumedAt = none)
    (hs : new.sessionId = cur.sessionId) (ho : exchangedToken o = some row) :
    SingleUse (Table.insert (Table.replace RefreshToken.id (cur.consume now) t) new)
      (log ++ [o]) := by
  have hold : ∀ z ∈ Table.replace RefreshToken.id (cur.consume now) t, z.consumedAt = none →
      z ∈ t ∧ z.sessionId ≠ cur.sessionId := by
    intro z hz hzc
    rcases Table.mem_replace.mp hz with ⟨rfl, -⟩ | ⟨hz, hne⟩
    · exact absurd hzc (Option.some_ne_none _)
    · exact ⟨hz, fun hzs => hne (by rw [h.one z hz cur hcur hzs hzc hc]; rfl)⟩
  have hconsumed : ∀ k, (∃ r ∈ t, r.id = k ∧ r.consumedAt ≠ none) →
      ∃ r ∈ Table.insert (Table.replace RefreshToken.id (cur.consume now) t) new,
        r.id = k ∧ r.consumedAt ≠ none := by
    rintro k ⟨r, hr, hrk, hrc⟩
    refine ⟨r, Table.mem_insert.mpr (Or.inl (Table.mem_replace.mpr (Or.inr ⟨hr, fun hne => ?_⟩))),
      hrk, hrc⟩
    obtain rfl := hkey.eq hr hcur rfl (congrArg some hne.symm)
    exact hrc hc
  have hlog : (log ++ [o]).filterMap (fun o => (exchangedToken o).map (·.id))
      = log.filterMap (fun o => (exchangedToken o).map (·.id)) ++ [row.id] := by
    rw [List.filterMap_append, List.filterMap_cons, ho]
    rfl
  refine ⟨fun x hx y hy hxy hxc hyc => ?_, ?_, fun k hk => ?_⟩
  · rcases Table.mem_insert.mp hx with hx' | rfl <;>
      rcases Table.mem_insert.mp hy with hy' | rfl
    · exact h.one x (hold x hx' hxc).1 y (hold y hy' hyc).1 hxy hxc hyc
    · exact absurd (hxy.trans hs) (hold x hx' hxc).2
    · exact absurd (hxy.symm.trans hs) (hold y hy' hyc).2
    · rfl
  · rw [hlog]
    refine List.Nodup.append h.nodup (List.nodup_singleton _) (fun k hk hk' => ?_)
    obtain rfl := List.mem_singleton.mp hk'
    obtain ⟨r, hr, hrk, hrc⟩ := h.consumed _ hk
    obtain rfl := hkey.eq hr hcur rfl (congrArg some (hid.trans hrk.symm))
    exact hrc hc
  · rw [hlog] at hk
    rcases List.mem_append.mp hk with hk | hk
    · exact hconsumed k (h.consumed k hk)
    · obtain rfl := List.mem_singleton.mp hk
      exact ⟨cur.consume now, Table.mem_insert.mpr (Or.inl (Table.mem_replace.mpr
        (Or.inl ⟨rfl, cur, hcur, rfl⟩))), hid, Option.some_ne_none _⟩

end SingleUse

/-! ## Guards -/

/-- The session a move draws is new. -/
def NewSession (c : State) (m : Move Env Request) : Prop :=
  ∀ r ∈ c.shared.refreshTokens, r.sessionId ≠ m.env.sessionId

instance (c : State) (m : Move Env Request) : Decidable (NewSession c m) :=
  inferInstanceAs (Decidable (∀ _ ∈ _, _))

/-- **An exchange is written while its token is unconsumed.** -/
def ExchangesUnconsumed (c : State) (m : Move Env Request) : Prop :=
  ∀ row ∈ (m.finishing c).bind Flight.exchanges, ∀ r ∈ c.shared.refreshTokens,
    r.id = row.id → r.consumedAt = none

instance (c : State) (m : Move Env Request) : Decidable (ExchangesUnconsumed c m) :=
  inferInstanceAs (Decidable (∀ _ ∈ _, _))

/-- The rows a request in flight has selected are in the table. -/
def Flight.Selected (t : List RefreshToken) (flight : Flight) : Prop :=
  ∀ now sessionId rows, flight.revocation = some (now, sessionId, rows) →
    ∀ x ∈ rows, x.id ∈ t.map (·.id)

theorem Flight.Selected.mono {flight : Flight} (h : flight.Selected t)
    (hids : ∀ k, k ∈ t.map (·.id) → k ∈ t'.map (·.id)) : flight.Selected t' :=
  fun now sessionId rows hf x hx => hids _ (h now sessionId rows hf x hx)

/-- A request that is left in flight has selected rows of the table. -/
theorem Flight.ReadFrom.selected {flight : Flight} (h : flight.ReadFrom P d) :
    flight.Selected d.refreshTokens := by
  intro now sessionId rows hf x hx
  cases h with
  | reuse now' hmem =>
    cases hf
    exact List.mem_map_of_mem (List.mem_of_mem_filter hx)
  | logout now' hmem =>
    cases hf
    exact List.mem_map_of_mem (List.mem_of_mem_filter hx)
  | _ => cases hf

/-- A request in flight that exchanges is an exchange. -/
theorem Flight.eq_exchange {flight : Flight} {row : RefreshToken}
    (h : flight.exchanges = some row) : flight = .exchange row := by
  cases flight <;> cases h
  rfl

/-- Only an exchange is logged as one. -/
theorem exchangedToken_eq_none {o : Completed Env Request Flight Exn Response} {flight : Flight}
    (ho : o.source = .inr flight) (hex : flight.exchanges = none) : exchangedToken o = none := by
  unfold exchangedToken
  rw [ho]
  cases flight <;> first
    | rfl
    | cases hex

/-! ## One-time use under interleaving -/

/-- **Refresh tokens are used once, as long as no exchange is written late.**
In every interleaving of the steps of any requests, in which every exchange
is written while its token is still unconsumed: no token is exchanged
twice, and no session has two live tokens. -/
theorem refresh_single_use (P : Platform) (ms : List (Move Env Request))
    (hnew : (concurrentService P).system.Every NewSession idle ms)
    (hun : (concurrentService P).system.Every ExchangesUnconsumed idle ms) :
    (((concurrentService P).system.run idle ms).log.filterMap
      (fun o => (exchangedToken o).map (·.id))).Nodup ∧
    ∀ x ∈ ((concurrentService P).system.run idle ms).shared.refreshTokens,
      ∀ y ∈ ((concurrentService P).system.run idle ms).shared.refreshTokens,
        x.sessionId = y.sessionId → x.Live → y.Live → x = y := by
  suffices h : TwoStep.Inv (fun d log => SingleUse d.refreshTokens log)
      (fun d l => l.Selected d.refreshTokens) ((concurrentService P).system.run idle ms) from
    ⟨h.1.nodup, fun x hx y hy hs hxl hyl => h.1.one x hx y hy hs hxl.1 hyl.1⟩
  refine (concurrentService P).run_invariant ?_ ?_
    ⟨⟨by rintro x ⟨⟩, List.nodup_nil, by rintro k ⟨⟩⟩, by rintro l ⟨⟩⟩
    ((concurrentService P).system.every_and hnew hun)
  · rintro c env req ⟨hG, hL⟩ ⟨hfresh, -⟩
    constructor
    · intro d l hf
      obtain ⟨rfl, s, hret⟩ := TwoStep.ofPhases_first_flight hf
      exact ⟨hG, (Request.begin_reads hret).selected, hL⟩
    · intro d o hf
      have hopens := first_opens hf
      obtain ⟨-, hsrc, -⟩ := TwoStep.ofPhases_first_done hf
      have ho : exchangedToken o = none := by
        unfold exchangedToken
        rw [hsrc]
      exact ⟨(hG.opens hopens hfresh).append ho,
        fun l hl => (hL l hl).mono (fun k hk => map_id_opens hopens hk)⟩
  · rintro c env k l ⟨hG, hL⟩ ⟨hfresh, hguard⟩ hk d o hf
    obtain ⟨-, hsrc, hs⟩ := TwoStep.ofPhases_second hf
    have hrest : ∀ l' ∈ c.flights.eraseIdx k, l'.Selected c.shared.refreshTokens :=
      fun l' hl' => hL l' (List.mem_of_mem_eraseIdx hl')
    cases hex : l.exchanges with
    | some row =>
      obtain rfl := Flight.eq_exchange hex
      rcases finish_exchanges hs with ⟨⟨e, he⟩, rfl⟩ | ⟨response, hr, cur, hcur, hid, new, hn, hd⟩
      · have ho : exchangedToken o = none := by
          unfold exchangedToken
          rw [hsrc, he]
        exact ⟨hG.append ho, hrest⟩
      · have ho : exchangedToken o = some row := by
          unfold exchangedToken
          rw [hsrc, hr]
        have hc : cur.consumedAt = none := hguard row (by simp [Move.finishing, hk, hex])
          cur hcur hid
        rw [hd]
        exact ⟨hG.exchange c.shared.tokenKey hcur hid hc hn ho,
          fun l' hl' => (hrest l' hl').mono (fun k hk => map_id_exchange hk)⟩
    | none =>
      have ho := exchangedToken_eq_none hsrc hex
      cases hrev : l.revocation with
      | some q =>
        obtain ⟨now, sessionId, rows⟩ := q
        rw [finish_revokes hrev (hL l (List.mem_of_getElem? hk) now sessionId rows hrev) hs]
        exact ⟨(hG.revokes now rows).append ho, fun l' hl' => (hrest l' hl').mono (fun k hk => by
          rwa [map_revokeAll _ (fun _ _ => rfl)])⟩
      | none =>
        have hopens := finish_opens hex hrev hs
        exact ⟨(hG.opens hopens hfresh).append ho,
          fun l' hl' => (hrest l' hl').mono (fun k hk => map_id_opens hopens hk)⟩

/-- A rotation that nobody interferes with. -/
theorem refresh_single_use_rotation :
    let ms : List (Move Env Request) := [
      .start (Sample.env 1 (Sample.second 0))
        (.auth (.signup (Sample.signup "ada@example.org" none))),
      .finish (Sample.env 1 (Sample.second 0)) 0,
      .start (Sample.env 2 (Sample.second 60)) (.auth (.refresh "refresh-1")),
      .finish (Sample.env 2 (Sample.second 60)) 0]
    (((concurrentService (Sample.platform 2592000)).system.run idle ms).log.filterMap
      (fun o => (exchangedToken o).map (·.id))).Nodup :=
  (refresh_single_use (Sample.platform 2592000) _ (by decide +kernel) (by decide +kernel)).1

/-- **One token, exchanged twice**: two requests present the same token, both
find it unconsumed, and both exchange it. The session is left with two live
tokens. -/
theorem refresh_single_use_race :
    ∃ (P : Platform) (ms : List (Move Env Request)),
      (concurrentService P).system.Every NewSession idle ms ∧
      ¬ (((concurrentService P).system.run idle ms).log.filterMap
        (fun o => (exchangedToken o).map (·.id))).Nodup ∧
      ∃ x ∈ ((concurrentService P).system.run idle ms).shared.refreshTokens,
        ∃ y ∈ ((concurrentService P).system.run idle ms).shared.refreshTokens,
          x.sessionId = y.sessionId ∧ x.Live ∧ y.Live ∧ x ≠ y :=
  ⟨Sample.platform 2592000, [
    .start (Sample.env 1 (Sample.second 0))
      (.auth (.signup (Sample.signup "ada@example.org" none))),
    .finish (Sample.env 1 (Sample.second 0)) 0,
    .start (Sample.env 2 (Sample.second 60)) (.auth (.refresh "refresh-1")),
    .start (Sample.env 3 (Sample.second 60)) (.auth (.refresh "refresh-1")),
    .finish (Sample.env 2 (Sample.second 61)) 0,
    .finish (Sample.env 3 (Sample.second 61)) 0], by decide +kernel, by decide +kernel,
    by decide +kernel⟩
