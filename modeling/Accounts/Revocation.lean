import Accounts.TokenRaces

/-!
# Revocation under concurrent requests

The rows that a logout or the detection of reuse revokes are selected in
its first step and written in its second, and `rotate` writes without
looking for a revocation: a successor inserted in between, or after, stays
unrevoked. `revocation_wins` says that nothing else goes wrong: as long as
every exchange is written while its token is unrevoked and no revocation of
its session is in flight, a session that was ended has no unrevoked token,
and none of its tokens is exchanged later.

The proof rests on one question about each step and each session: does the
step add an unrevoked token to the session (`NoneAdded`)? Opening a session
adds one to a new session, an exchange to the session of its token, and
nothing else does.
-/

open Repository

variable {P : Platform} {env : Env} {t t' : List RefreshToken} {sessionId : UUID}

/-- The session a completed request has ended: it was a `logout`, or has
reported reuse. -/
def endedSession (o : Completed Env Request Flight Exn Response) : Option UUID :=
  match o.source, o.outcome with
  | .inr (.logout _ sessionId _), .ok _ => some sessionId
  | .inr (.reuse _ sessionId _), .error .tokenReuse => some sessionId
  | _, _ => none

/-! ## What a step adds to a session -/

/-- Every token is still there, in its session. -/
def Persists (t t' : List RefreshToken) : Prop :=
  ∀ x ∈ t, ∃ x' ∈ t', x'.id = x.id ∧ x'.sessionId = x.sessionId

/-- **The step adds no unrevoked token to the session.** -/
def NoneAdded (sessionId : UUID) (t t' : List RefreshToken) : Prop :=
  ∀ x' ∈ t', x'.sessionId = sessionId → x'.revokedAt = none →
    ∃ x ∈ t, x.id = x'.id ∧ x.sessionId = sessionId ∧ x.revokedAt = none

theorem Opens.persists (h : Opens P env t t') : Persists t t' := by
  rcases h with rfl | ⟨f, m, exp, -, rfl⟩
  · exact fun x hx => ⟨x, hx, rfl, rfl⟩
  · exact fun x hx => ⟨x, Table.mem_insert.mpr (Or.inl hx), rfl, rfl⟩

/-- Opening a session adds nothing to the sessions there are. -/
theorem Opens.noneAdded (h : Opens P env t t') (hfresh : ∀ r ∈ t, r.sessionId ≠ env.sessionId)
    (hs : ∃ r ∈ t, r.sessionId = sessionId) : NoneAdded sessionId t t' := by
  obtain ⟨r, hr, rfl⟩ := hs
  rcases h with rfl | ⟨f, m, exp, -, rfl⟩
  · exact fun x hx hxs hxr => ⟨x, hx, rfl, hxs, hxr⟩
  · intro x hx hxs hxr
    rcases Table.mem_insert.mp hx with hx | rfl
    · exact ⟨x, hx, rfl, hxs, hxr⟩
    · exact absurd hxs.symm (hfresh r hr)

theorem persists_exchange (new : RefreshToken) (now : Datetime) {cur : RefreshToken}
    (hkey : Table.Unique (fun r => some (RefreshToken.id r)) t) (hcur : cur ∈ t) :
    Persists t (Table.insert (Table.replace RefreshToken.id (cur.consume now) t) new) := by
  intro x hx
  by_cases hid : x.id = cur.id
  · obtain rfl := hkey.eq hx hcur rfl (congrArg some hid.symm)
    exact ⟨x.consume now, Table.mem_insert.mpr (Or.inl (Table.mem_replace.mpr
      (Or.inl ⟨rfl, x, hx, rfl⟩))), rfl, rfl⟩
  · exact ⟨x, Table.mem_insert.mpr (Or.inl (Table.mem_replace.mpr (Or.inr ⟨hx, hid⟩))), rfl, rfl⟩

/-- An exchange adds nothing to the other sessions. -/
theorem noneAdded_exchange {cur new : RefreshToken} {now : Datetime}
    (hn : new.sessionId = cur.sessionId) (hs : cur.sessionId ≠ sessionId) :
    NoneAdded sessionId t
      (Table.insert (Table.replace RefreshToken.id (cur.consume now) t) new) := by
  intro x hx hxs hxr
  rcases Table.mem_insert.mp hx with hx' | rfl
  · rcases Table.mem_replace.mp hx' with ⟨rfl, -⟩ | ⟨hx'', -⟩
    · exact absurd hxs hs
    · exact ⟨x, hx'', rfl, hxs, hxr⟩
  · exact absurd (hn.symm.trans hxs) hs

theorem persists_revokeAll (now : Datetime) (rows t : List RefreshToken) :
    Persists t (revokeAll now rows t) := by
  intro x hx
  refine ⟨_, List.mem_map_of_mem hx, ?_⟩
  split <;> exact ⟨rfl, rfl⟩

/-- A revocation adds nothing at all. -/
theorem noneAdded_revokeAll (now : Datetime) (rows t : List RefreshToken) :
    NoneAdded sessionId t (revokeAll now rows t) := by
  intro x' hx' hxs hxr
  obtain ⟨x, hx, rfl | ⟨-, rfl⟩⟩ := mem_revokeAll hx'
  · exact ⟨x', hx, rfl, hxs, hxr⟩
  · exact absurd hxr (Option.some_ne_none _)

/-! ## The invariants -/

/-- **The session was ended for good**: there is one, and all its tokens
are revoked. -/
theorem burnt_iff : Burnt sessionId t ↔
    (∃ x ∈ t, x.sessionId = sessionId) ∧ ∀ x ∈ t, x.sessionId = sessionId → x.revokedAt ≠ none := by
  constructor
  · exact fun h => ⟨h.exists, fun x hx hs => h.2 x (mem_sessionRows.mpr ⟨hx, hs⟩)⟩
  · rintro ⟨⟨x, hx, hs⟩, h⟩
    exact ⟨List.ne_nil_of_mem (mem_sessionRows.mpr ⟨hx, hs⟩),
      fun y hy => h y (mem_sessionRows.mp hy).1 (mem_sessionRows.mp hy).2⟩

/-- A burnt session to which nothing is added stays burnt. -/
theorem Burnt.mono (h : Burnt sessionId t) (hp : Persists t t') (hn : NoneAdded sessionId t t') :
    Burnt sessionId t' := by
  obtain ⟨⟨x, hx, hs⟩, hall⟩ := burnt_iff.mp h
  obtain ⟨x', hx', -, hs'⟩ := hp x hx
  refine burnt_iff.mpr ⟨⟨x', hx', hs'.trans hs⟩, fun y' hy' hys hyr => ?_⟩
  obtain ⟨y, hy, -, hys', hyr'⟩ := hn y' hy' hys hyr
  exact hall y hy hys' hyr'

/-- **What a request in flight has to rely on**: the rows it will revoke are
there and are all the unrevoked ones of their session, and the token it
will exchange is there, in its session. -/
structure Flight.Covers (t : List RefreshToken) (flight : Flight) : Prop where
  /-- The session to end is there. -/
  session : ∀ now sessionId rows, flight.revocation = some (now, sessionId, rows) →
    ∃ r ∈ t, r.sessionId = sessionId
  /-- The rows to revoke are there. -/
  selected : flight.Selected t
  /-- They are all there is to revoke. -/
  complete : ∀ now sessionId rows, flight.revocation = some (now, sessionId, rows) →
    ∀ r ∈ t, r.sessionId = sessionId → r.revokedAt = none → r.id ∈ rows.map (·.id)
  /-- The token to exchange is there. -/
  token : ∀ row, flight.exchanges = some row →
    ∃ r ∈ t, r.id = row.id ∧ r.sessionId = row.sessionId

theorem Flight.Covers.mono {flight : Flight} (h : flight.Covers t) (hp : Persists t t')
    (hn : ∀ now sessionId rows, flight.revocation = some (now, sessionId, rows) →
      NoneAdded sessionId t t') : flight.Covers t' where
  session now sessionId rows hf := by
    obtain ⟨r, hr, hs⟩ := h.session now sessionId rows hf
    obtain ⟨r', hr', -, hs'⟩ := hp r hr
    exact ⟨r', hr', hs'.trans hs⟩
  selected := h.selected.mono (fun k hk => by
    obtain ⟨r, hr, rfl⟩ := List.mem_map.mp hk
    obtain ⟨r', hr', hid, -⟩ := hp r hr
    exact List.mem_map.mpr ⟨r', hr', hid⟩)
  complete now sessionId rows hf r' hr' hs hrev := by
    obtain ⟨r, hr, hid, hs', hrev'⟩ := hn now sessionId rows hf r' hr' hs hrev
    exact hid ▸ h.complete now sessionId rows hf r hr hs' hrev'
  token row hf := by
    obtain ⟨r, hr, hid, hs⟩ := h.token row hf
    obtain ⟨r', hr', hid', hs'⟩ := hp r hr
    exact ⟨r', hr', hid'.trans hid, hs'.trans hs⟩

/-- A request that is left in flight covers what it will write. -/
theorem Flight.ReadFrom.covers {d : Database} {flight : Flight} (h : flight.ReadFrom P d) :
    flight.Covers d.refreshTokens := by
  have hfilter : ∀ {row : RefreshToken}, ∀ r ∈ d.refreshTokens, r.sessionId = row.sessionId →
      r.revokedAt = none → r.id ∈ (d.refreshTokens.filter
        (fun r => r.revokedAt = none && r.sessionId = row.sessionId)).map (·.id) :=
    fun r hr hs hrev => List.mem_map_of_mem (List.mem_filter.mpr ⟨hr, by simp [hs, hrev]⟩)
  refine ⟨?_, h.selected, ?_, ?_⟩
  · intro now sessionId rows hf
    cases h with
    | reuse now' hmem | logout now' hmem =>
      cases hf
      exact ⟨_, hmem, rfl⟩
    | _ => cases hf
  · intro now sessionId rows hf
    cases h with
    | reuse now' hmem | logout now' hmem =>
      cases hf
      exact hfilter
    | _ => cases hf
  · intro row hf
    cases h with
    | exchange hmem hlive =>
      cases hf
      exact ⟨_, hmem, rfl, rfl⟩
    | _ => cases hf

/-- **Ended sessions stay ended**: the invariant. The sessions that the log
ended are burnt, and no entry after the end of a session exchanges one of
its tokens. -/
structure Ended (t : List RefreshToken)
    (log : List (Completed Env Request Flight Exn Response)) : Prop where
  /-- An ended session is burnt. -/
  burnt : ∀ o ∈ log, ∀ sessionId, endedSession o = some sessionId → Burnt sessionId t
  /-- No exchange follows the end of its session. -/
  final : log.Pairwise (fun a b => ∀ sessionId row, endedSession a = some sessionId →
    exchangedToken b = some row → row.sessionId ≠ sessionId)

namespace Ended

variable {log : List (Completed Env Request Flight Exn Response)}
  {o : Completed Env Request Flight Exn Response}

/-- An entry may be logged that ends nothing but burnt sessions and
exchanges a token of no ended session. -/
theorem append (h : Ended t log)
    (ho : ∀ sessionId, endedSession o = some sessionId → Burnt sessionId t)
    (hx : ∀ a ∈ log, ∀ sessionId row, endedSession a = some sessionId →
      exchangedToken o = some row → row.sessionId ≠ sessionId) : Ended t (log ++ [o]) := by
  refine ⟨fun a ha sessionId hs => ?_, List.pairwise_append.mpr
    ⟨h.final, List.pairwise_singleton _ _, fun a ha b hb => ?_⟩⟩
  · rcases List.mem_append.mp ha with ha | ha
    · exact h.burnt a ha sessionId hs
    · obtain rfl := List.mem_singleton.mp ha
      exact ho sessionId hs
  · obtain rfl := List.mem_singleton.mp hb
    exact hx a ha

/-- A step may be taken that adds nothing to the ended sessions. -/
theorem mono (h : Ended t log) (hp : Persists t t')
    (hn : ∀ sessionId, Burnt sessionId t → NoneAdded sessionId t t') : Ended t' log :=
  ⟨fun o ho sessionId hs => (h.burnt o ho sessionId hs).mono hp
    (hn sessionId (h.burnt o ho sessionId hs)), h.final⟩

end Ended

/-! ## Revocation under interleaving -/

/-- **An exchange is written while its token is unrevoked, and while no
revocation of its session is in flight.** -/
def ExchangesUnrevoked (c : State) (m : Move Env Request) : Prop :=
  ∀ row ∈ (m.finishing c).bind Flight.exchanges,
    (∀ r ∈ c.shared.refreshTokens, r.id = row.id → r.revokedAt = none) ∧
    ∀ l ∈ c.flights, ∀ q ∈ l.revocation, q.2.1 ≠ row.sessionId

instance (c : State) (m : Move Env Request) : Decidable (ExchangesUnrevoked c m) :=
  inferInstanceAs (Decidable (∀ _ ∈ _, _ ∧ _))

/-- Only the end of a session is logged as one. -/
theorem endedSession_eq_some {o : Completed Env Request Flight Exn Response} {flight : Flight}
    (ho : o.source = .inr flight) (h : endedSession o = some sessionId) :
    ∃ now rows, flight.revocation = some (now, sessionId, rows) := by
  unfold endedSession at h
  rw [ho] at h
  split at h
  · next hf _ =>
    cases hf
    cases h
    exact ⟨_, _, rfl⟩
  · next hf _ =>
    cases hf
    cases h
    exact ⟨_, _, rfl⟩
  · cases h

/-- **Writing a revocation burns its session.** -/
theorem Flight.Covers.burnt {flight : Flight} {now : Datetime} {rows : List RefreshToken}
    (h : flight.Covers t) (hf : flight.revocation = some (now, sessionId, rows)) :
    Burnt sessionId (revokeAll now rows t) := by
  obtain ⟨r, hr, hs⟩ := h.session now sessionId rows hf
  obtain ⟨r', hr', -, hs'⟩ := persists_revokeAll now rows t r hr
  refine burnt_iff.mpr ⟨⟨r', hr', hs'.trans hs⟩, fun x' hx' hxs hxr => ?_⟩
  obtain ⟨x, hx, rfl⟩ := List.mem_map.mp hx'
  by_cases hid : x.id ∈ rows.map (·.id)
  · rw [if_pos hid] at hxr
    exact absurd hxr (Option.some_ne_none _)
  · rw [if_neg hid] at hxs hxr
    exact hid (h.complete now sessionId rows hf x hx hxs hxr)

/-- **Revocation wins, as long as no exchange races it.** In every
interleaving of the steps of any requests, in which every exchange is
written while its token is unrevoked and no revocation of its session is in
flight: once a `logout` or the detection of reuse has completed, all tokens
of its session are revoked, and no token of it is exchanged later. -/
theorem revocation_wins (P : Platform) (ms : List (Move Env Request))
    (hnew : (concurrentService P).system.Every NewSession idle ms)
    (hun : (concurrentService P).system.Every ExchangesUnrevoked idle ms) :
    (∀ o ∈ ((concurrentService P).system.run idle ms).log, ∀ sessionId,
      endedSession o = some sessionId →
      ∀ x ∈ ((concurrentService P).system.run idle ms).shared.refreshTokens,
        x.sessionId = sessionId → x.revokedAt ≠ none) ∧
    ((concurrentService P).system.run idle ms).log.Pairwise (fun a b => ∀ sessionId row,
      endedSession a = some sessionId → exchangedToken b = some row →
        row.sessionId ≠ sessionId) := by
  suffices h : TwoStep.Inv (fun d log => Ended d.refreshTokens log)
      (fun d l => l.Covers d.refreshTokens) ((concurrentService P).system.run idle ms) from
    ⟨fun o ho sessionId hs => (burnt_iff.mp (h.1.burnt o ho sessionId hs)).2, h.1.final⟩
  refine (concurrentService P).run_invariant ?_ ?_
    ⟨⟨by rintro o ⟨⟩, List.Pairwise.nil⟩, by rintro l ⟨⟩⟩
    ((concurrentService P).system.every_and hnew hun)
  · rintro c env req ⟨hG, hL⟩ ⟨hfresh, -⟩
    constructor
    · intro d l hf
      obtain ⟨rfl, s, hret⟩ := TwoStep.ofPhases_first_flight hf
      exact ⟨hG, (Request.begin_reads hret).covers, hL⟩
    · intro d o hf
      have hopens := first_opens hf
      obtain ⟨-, hsrc, -⟩ := TwoStep.ofPhases_first_done hf
      refine ⟨(hG.mono hopens.persists (fun S hb => hopens.noneAdded hfresh hb.exists)).append
        (fun S hs => ?_) (fun a ha S row hs hx => ?_), fun l hl => (hL l hl).mono hopens.persists
        (fun now S rows hr => hopens.noneAdded hfresh ((hL l hl).session now S rows hr))⟩
      · simp [endedSession, hsrc] at hs
      · simp [exchangedToken, hsrc] at hx
  · rintro c env k l ⟨hG, hL⟩ ⟨hfresh, hguard⟩ hk d o hf
    obtain ⟨-, hsrc, hs⟩ := TwoStep.ofPhases_second hf
    have hl : l ∈ c.flights := List.mem_of_getElem? hk
    have hmem : ∀ l' ∈ c.flights.eraseIdx k, l' ∈ c.flights :=
      fun l' hl' => List.mem_of_mem_eraseIdx hl'
    cases hex : l.exchanges with
    | some row =>
      obtain rfl := Flight.eq_exchange hex
      have hend : ∀ S, endedSession o ≠ some S := fun S hS => by
        obtain ⟨now, rows, hr⟩ := endedSession_eq_some hsrc hS
        cases hr
      rcases finish_exchanges hs with ⟨⟨e, he⟩, rfl⟩ | ⟨response, hr, cur, hcur, hid, new, hn, hd⟩
      · refine ⟨hG.append (fun S hS => absurd hS (hend S)) (fun a ha S r hS hx => ?_),
          fun l' hl' => hL l' (hmem l' hl')⟩
        simp [exchangedToken, hsrc, he] at hx
      · obtain ⟨hunrevoked, hnone⟩ := hguard row (by simp [Move.finishing, hk, hex])
        have hcurs : cur.sessionId = row.sessionId := by
          obtain ⟨r, hr', hrid, hrs⟩ := (hL _ hl).token row rfl
          obtain rfl := c.shared.tokenKey.eq hr' hcur rfl (congrArg some (hid.trans hrid.symm))
          exact hrs
        -- the session of the token was not ended
        have hburnt : ∀ S, Burnt S c.shared.refreshTokens → cur.sessionId ≠ S := fun S hb hS =>
          (burnt_iff.mp hb).2 cur hcur hS (hunrevoked cur hcur hid)
        have hp := persists_exchange new env.now c.shared.tokenKey hcur
        rw [hd]
        refine ⟨(hG.mono hp (fun S hb => noneAdded_exchange hn (hburnt S hb))).append
          (fun S hS => absurd hS (hend S)) (fun a ha S r hS hx => ?_),
          fun l' hl' => (hL l' (hmem l' hl')).mono hp (fun now S rows hr' =>
            noneAdded_exchange hn (fun hS => hnone l' (hmem l' hl') _ hr' (hS.symm.trans hcurs)))⟩
        obtain rfl : row = r := by simpa [exchangedToken, hsrc, hr] using hx
        exact hcurs ▸ hburnt S (hG.burnt a ha S hS)
    | none =>
      have hox := exchangedToken_eq_none hsrc hex
      cases hrev : l.revocation with
      | some q =>
        obtain ⟨now, S, rows⟩ := q
        have hp := persists_revokeAll now rows c.shared.refreshTokens
        rw [finish_revokes hrev ((hL l hl).selected now S rows hrev) hs]
        refine ⟨(hG.mono hp (fun _ _ => noneAdded_revokeAll now rows _)).append
          (fun S' hS' => ?_) (fun a ha S' r hS' hx => by rw [hox] at hx; cases hx),
          fun l' hl' => (hL l' (hmem l' hl')).mono hp
            (fun _ _ _ _ => noneAdded_revokeAll now rows _)⟩
        obtain ⟨now', rows', hr⟩ := endedSession_eq_some hsrc hS'
        cases hrev.symm.trans hr
        exact (hL l hl).burnt hrev
      | none =>
        have hopens := finish_opens hex hrev hs
        refine ⟨(hG.mono hopens.persists (fun S hb => hopens.noneAdded hfresh hb.exists)).append
          (fun S hS => ?_) (fun a ha S r hS hx => by rw [hox] at hx; cases hx),
          fun l' hl' => (hL l' (hmem l' hl')).mono hopens.persists (fun now S rows hr =>
            hopens.noneAdded hfresh ((hL l' (hmem l' hl')).session now S rows hr))⟩
        obtain ⟨now', rows', hr⟩ := endedSession_eq_some hsrc hS
        cases hrev.symm.trans hr

/-- A logout with nothing in flight beside it. -/
theorem revocation_wins_logout :
    let ms : List (Move Env Request) := [
      .start (Sample.env 1 (Sample.second 0))
        (.auth (.signup (Sample.signup "ada@example.org" none))),
      .finish (Sample.env 1 (Sample.second 0)) 0,
      .start (Sample.env 2 (Sample.second 60)) (.auth (.refresh "refresh-1")),
      .finish (Sample.env 2 (Sample.second 60)) 0,
      .start (Sample.env 3 (Sample.second 120)) (.auth (.logout "refresh-2")),
      .finish (Sample.env 3 (Sample.second 120)) 0]
    ∀ x ∈ ((concurrentService (Sample.platform 2592000)).system.run idle ms).shared.refreshTokens,
      x.sessionId = 1001#128 → x.revokedAt ≠ none := by
  intro ms
  obtain ⟨o, ho, hs⟩ : ∃ o ∈ ((concurrentService (Sample.platform 2592000)).system.run idle ms).log,
      endedSession o = some 1001#128 := by decide +kernel
  exact (revocation_wins (Sample.platform 2592000) ms (by decide +kernel) (by decide +kernel)).1
    o ho 1001#128 hs

/-- **An exchange that races a logout**: the logout completes, nothing is
left in flight, and the session has an unrevoked token. -/
theorem revocation_race :
    ∃ (P : Platform) (ms : List (Move Env Request)),
      (concurrentService P).system.Every NewSession idle ms ∧
      ((concurrentService P).system.run idle ms).flights.length = 0 ∧
      ∃ o ∈ ((concurrentService P).system.run idle ms).log,
        ∃ x ∈ ((concurrentService P).system.run idle ms).shared.refreshTokens,
          endedSession o = some x.sessionId ∧ x.Live :=
  ⟨Sample.platform 2592000, [
    .start (Sample.env 1 (Sample.second 0))
      (.auth (.signup (Sample.signup "ada@example.org" none))),
    .finish (Sample.env 1 (Sample.second 0)) 0,
    .start (Sample.env 2 (Sample.second 60)) (.auth (.refresh "refresh-1")),
    .start (Sample.env 3 (Sample.second 60)) (.auth (.logout "refresh-1")),
    .finish (Sample.env 3 (Sample.second 61)) 1,
    .finish (Sample.env 2 (Sample.second 61)) 0], by decide +kernel, by decide +kernel,
    by decide +kernel⟩
