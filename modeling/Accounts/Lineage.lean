import Accounts.Theft

/-!
# The lineage invariant

In every state a serial run of requests reaches, a session has at most one
live token, and all its tokens belong to one member; and the stamps of a
token are set once. A live token that has not expired is exchanged whenever
the expiry of its successor can be represented at all – the addition of the
lifetime to the clock is the one thing that can still fail – and exchanging
it consumes it and adds one live token to its session.
-/

open Repository

variable {P : Platform} {env : Env} {d : Database} {t t' : List RefreshToken}

/-! ## The invariant -/

/-- **The lineage invariant** of a table of refresh tokens. -/
structure Lineages (t : List RefreshToken) : Prop where
  /-- A session has at most one live token. -/
  one_live : ∀ x ∈ t, ∀ y ∈ t, x.sessionId = y.sessionId → x.Live → y.Live → x = y
  /-- The tokens of a session belong to one member. -/
  one_member : ∀ x ∈ t, ∀ y ∈ t, x.sessionId = y.sessionId →
    x.familyId = y.familyId ∧ x.familyMemberId = y.familyMemberId
  /-- Every token expires. -/
  expires : ∀ x ∈ t, ∃ e, x.expiresAt = some e

/-- A live token of a burnt session is the token it was. -/
theorem RefreshToken.Live.of_burn {x : RefreshToken} {now : Datetime} {sessionId : UUID}
    (h : (x.burn now sessionId).Live) : x.burn now sessionId = x := by
  unfold burn at h ⊢
  split at h
  · exact absurd h.2 (Option.some_ne_none _)
  · next hno => exact if_neg hno

/-- **Where a token comes from**: it was there and has evolved, or it is new
and continues the session of a token that was there, or opens one. -/
theorem TokenStep.origin (h : TokenStep P env t t') {x' : RefreshToken} (hx' : x' ∈ t') :
    (∃ x ∈ t, x.Evolves x') ∨
      (x'.id = env.newId .refreshToken ∧
        ∃ e, env.now.plusSeconds P.settings.refreshTtlSeconds = some e ∧ x'.expiresAt = some e) ∧
      (x'.sessionId = env.sessionId ∨ ∃ row ∈ t, row.sessionId = x'.sessionId ∧
        row.familyId = x'.familyId ∧ row.familyMemberId = x'.familyMemberId) ∧
      ∀ y' ∈ t', y' = x' ∨ ∃ y ∈ t, y.Evolves y' := by
  have hinsert : ∀ {u : List RefreshToken} {new : RefreshToken},
      (∀ y' ∈ u, ∃ y ∈ t, y.Evolves y') →
      ∀ y' ∈ Table.insert u new, y' = new ∨ ∃ y ∈ t, y.Evolves y' :=
    fun hu y' hy' => (Table.mem_insert.mp hy').elim (fun h => Or.inr (hu y' h)) Or.inl
  have hrefl : ∀ y' ∈ t, ∃ y ∈ t, y.Evolves y' := fun y' hy' => ⟨y', hy', .refl y'⟩
  cases h with
  | same => exact Or.inl (hrefl x' hx')
  | opened familyId memberId hexp =>
    rcases hinsert hrefl x' hx' with rfl | h
    · exact Or.inr ⟨⟨rfl, _, hexp, rfl⟩, Or.inl rfl, hinsert hrefl⟩
    · exact Or.inl h
  | @exchanged exp row hrow hlive hexp =>
    have hreplace : ∀ y' ∈ Table.replace RefreshToken.id (row.consume env.now) t,
        ∃ y ∈ t, y.Evolves y' := by
      intro y' hy'
      rcases Table.mem_replace.mp hy' with ⟨rfl, -⟩ | ⟨hy', -⟩
      · exact ⟨row, hrow, .consume hlive.1 env.now⟩
      · exact hrefl y' hy'
    rcases hinsert hreplace x' hx' with rfl | h
    · exact Or.inr ⟨⟨rfl, _, hexp, rfl⟩, Or.inr ⟨row, hrow, rfl, rfl, rfl⟩,
        hinsert hreplace⟩
    · exact Or.inl h
  | burnt =>
    obtain ⟨x, hx, rfl⟩ := List.mem_map.mp hx'
    exact Or.inl ⟨x, hx, .burn x _ _⟩

/-- **A step keeps a session to one live token.** -/
theorem Lineages.step_one_live (hl : Lineages t) (h : TokenStep P env t t')
    (hfresh : ∀ r ∈ t, r.sessionId ≠ env.sessionId) {x y : RefreshToken} (hx : x ∈ t')
    (hy : y ∈ t') (hs : x.sessionId = y.sessionId) (hxl : x.Live) (hyl : y.Live) : x = y := by
  cases h with
  | same => exact hl.one_live x hx y hy hs hxl hyl
  | opened =>
    rcases Table.mem_insert.mp hx with hx | rfl <;> rcases Table.mem_insert.mp hy with hy | rfl
    · exact hl.one_live x hx y hy hs hxl hyl
    · exact absurd hs (hfresh x hx)
    · exact absurd hs.symm (hfresh y hy)
    · rfl
  | @exchanged exp row hrow hlive hexp =>
    -- no token that stays live is in the session of the exchanged one
    have hold : ∀ z ∈ Table.replace RefreshToken.id (row.consume env.now) t, z.Live →
        z ∈ t ∧ z.sessionId ≠ row.sessionId := by
      intro z hz hzl
      rcases Table.mem_replace.mp hz with ⟨rfl, -⟩ | ⟨hz, hid⟩
      · exact absurd hzl.1 (Option.some_ne_none _)
      · exact ⟨hz, fun hs => hid (by rw [hl.one_live z hz row hrow hs hzl hlive]; rfl)⟩
    rcases Table.mem_insert.mp hx with hx | rfl <;> rcases Table.mem_insert.mp hy with hy | rfl
    · exact hl.one_live x (hold x hx hxl).1 y (hold y hy hyl).1 hs hxl hyl
    · exact absurd hs (hold x hx hxl).2
    · exact absurd hs.symm (hold y hy hyl).2
    · rfl
  | burnt =>
    obtain ⟨a, ha, rfl⟩ := List.mem_map.mp hx
    obtain ⟨b, hb, rfl⟩ := List.mem_map.mp hy
    have hae := hxl.of_burn
    have hbe := hyl.of_burn
    rw [hae, hbe] at hs ⊢
    exact hl.one_live a ha b hb hs (hae ▸ hxl) (hbe ▸ hyl)

/-- **A step keeps the lineage invariant.** -/
theorem Lineages.step (hl : Lineages t) (h : TokenStep P env t t')
    (hfresh : ∀ r ∈ t, r.sessionId ≠ env.sessionId) : Lineages t' := by
  -- the tokens of a session that a new token continues or opens
  have hnew : ∀ x' ∈ t', ∀ y ∈ t, (x'.sessionId = env.sessionId ∨ ∃ row ∈ t,
      row.sessionId = x'.sessionId ∧ row.familyId = x'.familyId ∧
        row.familyMemberId = x'.familyMemberId) → x'.sessionId = y.sessionId →
      x'.familyId = y.familyId ∧ x'.familyMemberId = y.familyMemberId := by
    rintro x' - y hy (he | ⟨row, hrow, hs, hf, hm⟩) hxy
    · exact absurd (hxy.symm.trans he) (hfresh y hy)
    · obtain ⟨hf', hm'⟩ := hl.one_member row hrow y hy (hs.trans hxy)
      exact ⟨hf.symm.trans hf', hm.symm.trans hm'⟩
  refine ⟨fun x hx y hy => hl.step_one_live h hfresh hx hy, fun x' hx' y' hy' hs => ?_,
    fun x' hx' => ?_⟩
  · rcases h.origin hx' with ⟨x, hx, hxe⟩ | ⟨-, hxo, hrest⟩
    · rcases h.origin hy' with ⟨y, hy, hye⟩ | ⟨-, hyo, -⟩
      · obtain ⟨hf, hm⟩ := hl.one_member x hx y hy
          (hxe.sessionId.symm.trans (hs.trans hye.sessionId))
        exact ⟨hxe.familyId.trans (hf.trans hye.familyId.symm),
          hxe.familyMemberId.trans (hm.trans hye.familyMemberId.symm)⟩
      · obtain ⟨hf, hm⟩ := hnew y' hy' x hx hyo (hs.symm.trans hxe.sessionId)
        exact ⟨hxe.familyId.trans hf.symm, hxe.familyMemberId.trans hm.symm⟩
    · rcases hrest y' hy' with rfl | ⟨y, hy, hye⟩
      · exact ⟨rfl, rfl⟩
      · obtain ⟨hf, hm⟩ := hnew x' hx' y hy hxo (hs.trans hye.sessionId)
        exact ⟨hf.trans hye.familyId.symm, hm.trans hye.familyMemberId.symm⟩
  · rcases h.origin hx' with ⟨x, hx, hxe⟩ | ⟨⟨-, e, -, he⟩, -, -⟩
    · obtain ⟨e, he⟩ := hl.expires x hx
      exact ⟨e, hxe.expiresAt.trans he⟩
    · exact ⟨e, he⟩

/-- **The lineage invariant holds in every state a run reaches.** -/
theorem Lineages.run {is : List (Env × Request)}
    (hfresh : FreshSessions P (Store.empty schema) is) :
    Lineages ((service P).run (Store.empty schema) is).refreshTokens :=
  (service P).run_invariant (fun d => Lineages d.refreshTokens)
    (fun d i hl hf => hl.step (tokenStep_serve P i.1 i.2 d) hf)
    ⟨by rintro x ⟨⟩, by rintro x ⟨⟩, by rintro x ⟨⟩⟩ hfresh

/-! ## Exchanging a live token -/

/-- A stored token's family and member are there. -/
theorem Store.token_references (d : Database) {row : RefreshToken} (h : row ∈ d.refreshTokens) :
    row.familyId ∈ d.families.map Family.id ∧
      row.familyMemberId ∈ d.members.map FamilyMember.id :=
  ⟨d.consistent.reference .refreshToken (.family, fun r => some r.familyId)
      List.mem_cons_self row h _ rfl,
    d.consistent.reference .refreshToken (.familyMember, fun r => some r.familyMemberId)
      (List.mem_cons_of_mem _ List.mem_cons_self) row h _ rfl⟩

/-- **The exchange of a stored token meets the constraints**, when the
identifier and the digest of its successor are new. -/
theorem exchange_consistent (hf : env.Fresh P d) {row : RefreshToken}
    (hmem : row ∈ d.refreshTokens) (exp : Datetime) :
    schema.Consistent (Schema.insert .refreshToken
      (RefreshTokenService.newToken P env row.familyId row.familyMemberId row.sessionId exp)
      (schema.replace .refreshToken (row.consume env.now) d.rows)) := by
  have hrep := d.consistent.replace hmem (row.consume_sameKeys env.now)
  -- the rows after the replacement have the keys of rows that were there
  have hkeys : ∀ x ∈ Table.replace RefreshToken.id (row.consume env.now) d.refreshTokens,
      ∃ y ∈ d.refreshTokens, x.id = y.id ∧ x.tokenHash = y.tokenHash := by
    intro x hx
    rcases Table.mem_replace.mp hx with ⟨rfl, -⟩ | ⟨hx, -⟩
    · exact ⟨row, hmem, rfl, rfl⟩
    · exact ⟨x, hx, rfl, rfl⟩
  obtain ⟨hfam, hmem'⟩ := d.token_references hmem
  refine RefreshTokenService.newToken_consistent hrep (fun x hx => ?_) (fun x hx => ?_) ?_ ?_
    row.sessionId exp
  · rw [Schema.replace_self] at hx
    obtain ⟨y, hy, hid, -⟩ := hkeys x hx
    exact fun h => hf.id .refreshToken y hy (hid.symm.trans h)
  · rw [Schema.replace_self] at hx
    obtain ⟨y, hy, -, hhash⟩ := hkeys x hx
    exact fun h => hf.token y hy (hhash.symm.trans h)
  · rw [Schema.replace_of_ne (by simp)]
    exact hfam
  · rw [Schema.replace_of_ne (by simp)]
    exact hmem'

/-- The row is live, expires later, and has the digest of the text. -/
def RefreshToken.Exchangeable (P : Platform) (env : Env) (raw : String) (row : RefreshToken) :
    Prop :=
  row.tokenHash = RefreshTokenCodec.hash P raw ∧ row.Live ∧ ∃ e ∈ row.expiresAt, env.now < e

instance (raw : String) (row : RefreshToken) : Decidable (row.Exchangeable P env raw) :=
  inferInstanceAs (Decidable (_ ∧ _ ∧ _))

/-- For a token that expires, `_is_expired` compares the clock with its
expiry. -/
theorem RefreshTokenService.isExpired_eq_false {row : RefreshToken} {e : Datetime}
    (h : row.expiresAt = some e) : isExpired env row = false ↔ env.now < e := by
  simp [isExpired, h]

/-- **A stored, live and unexpired token can be exchanged**, if the expiry of
its successor can be represented. -/
theorem rotate_of_exchangeable (hf : env.Fresh P d) {raw : String} {row : RefreshToken}
    (hmem : row ∈ d.refreshTokens) (h : row.Exchangeable P env raw)
    (hexp : (env.now.plusSeconds P.settings.refreshTtlSeconds).isSome) :
    ∃ s', (RefreshTokenService.rotate P env raw).Returns ⟨d, d⟩
      (env.token, row.familyId.str, row.familyMemberId.str) s' := by
  obtain ⟨hhash, hlive, e, he, hlt⟩ := h
  obtain ⟨exp, hexp⟩ := Option.isSome_iff_exists.mp hexp
  exact ⟨_, RefreshTokenService.rotate_returns.mpr ⟨row, hmem, hhash, hlive,
    (RefreshTokenService.isExpired_eq_false he).mpr hlt, exp, hexp, rfl,
    ⟨_, exchange_consistent hf hmem exp⟩, rfl, rfl⟩⟩

/-- **A refresh with such a token returns**, if the expiry of the access
token can be represented as well. -/
theorem AuthService.refresh_of_exchangeable (hf : env.Fresh P d) {raw : String}
    {row : RefreshToken} (hmem : row ∈ d.refreshTokens) (h : row.Exchangeable P env raw)
    (hexp : (env.now.plusSeconds P.settings.refreshTtlSeconds).isSome)
    (hjwt : (env.now.plusSeconds P.settings.jwtTtlSeconds).isSome) :
    ∃ a s', (AuthService.refresh P env raw).Returns ⟨d, d⟩ a s' := by
  obtain ⟨s', hrot⟩ := rotate_of_exchangeable hf hmem h hexp
  obtain ⟨access, haccess⟩ := TokenService.issue_ok_iff.mpr hjwt
  exact ⟨_, s', AuthService.refresh_returns.mpr ⟨row, access, haccess, rfl, hmem, h.1, hrot⟩⟩

/-- **A stored, live and unexpired token is exchanged exactly when the
expiry of its successor can be represented.** -/
theorem rotate_ok_iff (hl : Lineages d.refreshTokens) (hf : env.Fresh P d) {raw : String} :
    (∃ a, (Tx.serve Exn.handled (RefreshTokenService.rotate P env raw) d).1 = .ok a) ↔
      (∃ row ∈ d.refreshTokens, row.Exchangeable P env raw) ∧
        (env.now.plusSeconds P.settings.refreshTtlSeconds).isSome := by
  constructor
  · rintro ⟨a, ha⟩
    obtain ⟨s', hret, -⟩ := Tx.serve_ok_iff.mp
      (show Tx.serve Exn.handled (RefreshTokenService.rotate P env raw) d = (.ok a, _) from
        Prod.ext ha rfl)
    obtain ⟨row, hmem, hhash, hlive, hexpired, exp, hexp, -⟩ :=
      RefreshTokenService.rotate_returns.mp hret
    obtain ⟨e, he⟩ := hl.expires row hmem
    have hlt := (RefreshTokenService.isExpired_eq_false he).mp hexpired
    exact ⟨⟨row, hmem, hhash, hlive, e, he, hlt⟩, by rw [hexp]; rfl⟩
  · rintro ⟨⟨row, hmem, hex⟩, hexp⟩
    obtain ⟨s', hret⟩ := rotate_of_exchangeable hf hmem hex hexp
    exact ⟨_, congrArg Prod.fst (Tx.serve_ok_iff.mpr ⟨_, hret, rfl⟩)⟩

/-- **What exchanging a token returns and leaves**: its family and member;
the token consumed, one live token more in its session, and nothing else
changed. -/
theorem rotate_ok {raw : String} {a : String × String × String} {d' : Database}
    (h : Tx.serve Exn.handled (RefreshTokenService.rotate P env raw) d = (.ok a, d')) :
    ∃ row ∈ d.refreshTokens, ∃ new : RefreshToken,
      row.tokenHash = RefreshTokenCodec.hash P raw ∧
      a = (env.token, row.familyId.str, row.familyMemberId.str) ∧
      new.Live ∧ new.sessionId = row.sessionId ∧
      new.tokenHash = RefreshTokenCodec.hash P env.token ∧
      d'.refreshTokens = Table.insert
        (Table.replace RefreshToken.id (row.consume env.now) d.refreshTokens) new ∧
      (∀ S, S ≠ row.sessionId → sessionRows S d'.refreshTokens = sessionRows S d.refreshTokens) ∧
      ∀ T, T ≠ .refreshToken → d'.rows T = d.rows T := by
  obtain ⟨s', hret, rfl⟩ := Tx.serve_ok_iff.mp h
  obtain ⟨row, hmem, hhash, -, -, exp, -, rfl, d', hd', rfl⟩ :=
    RefreshTokenService.rotate_returns.mp hret
  have htokens : d'.refreshTokens = Table.insert
      (Table.replace RefreshToken.id (row.consume env.now) d.refreshTokens)
      (RefreshTokenService.newToken P env row.familyId row.familyMemberId row.sessionId exp) := by
    show d'.rows .refreshToken = _
    rw [hd', Schema.insert_self, Schema.replace_self]
    rfl
  refine ⟨row, hmem,
    RefreshTokenService.newToken P env row.familyId row.familyMemberId row.sessionId exp,
    hhash, rfl, ⟨rfl, rfl⟩, rfl, rfl, htokens, fun S hS => ?_, fun T hT => ?_⟩
  · show sessionRows S d'.refreshTokens = _
    rw [htokens]
    exact sessionRows_exchange d.tokenKey hmem hS.symm hS.symm
  · show d'.rows T = _
    rw [hd', Schema.insert_of_ne hT, Schema.replace_of_ne hT]

/-! ## The result -/

/-- **The lineage invariant.** In every state a serial run of requests
reaches, for tokens `x` and `y` of one session:

* if both are live they are the same token;
* they belong to the same family and member;

a stamp that was set at any earlier point of the run is what it was; and
`rotate` returns exactly for a stored, live and unexpired token – provided
that the expiry of its successor can be represented – with that token's
family and member, having consumed it, added one live token to its session
and changed nothing else. -/
theorem session_lineage (P : Platform) (is : List (Env × Request))
    (hfresh : FreshRun P (Store.empty schema) is) :
    (∀ x ∈ ((service P).run (Store.empty schema) is).refreshTokens,
      ∀ y ∈ ((service P).run (Store.empty schema) is).refreshTokens, x.sessionId = y.sessionId →
        (x.Live → y.Live → x = y) ∧
        x.familyId = y.familyId ∧ x.familyMemberId = y.familyMemberId) ∧
    (∀ js ks, is = js ++ ks → ∀ x ∈ ((service P).run (Store.empty schema) js).refreshTokens,
      ∀ y ∈ ((service P).run (Store.empty schema) is).refreshTokens, y.id = x.id →
        (x.consumedAt ≠ none → y.consumedAt = x.consumedAt) ∧
        (x.revokedAt ≠ none → y.revokedAt = x.revokedAt)) ∧
    ∀ env raw, env.Fresh P ((service P).run (Store.empty schema) is) →
      ((∃ a, (Tx.serve Exn.handled (RefreshTokenService.rotate P env raw)
          ((service P).run (Store.empty schema) is)).1 = .ok a) ↔
        (∃ row ∈ ((service P).run (Store.empty schema) is).refreshTokens,
          row.Exchangeable P env raw) ∧
        (env.now.plusSeconds P.settings.refreshTtlSeconds).isSome) ∧
      ∀ a d', Tx.serve Exn.handled (RefreshTokenService.rotate P env raw)
          ((service P).run (Store.empty schema) is) = (.ok a, d') →
        ∃ row ∈ ((service P).run (Store.empty schema) is).refreshTokens, ∃ new : RefreshToken,
          row.tokenHash = RefreshTokenCodec.hash P raw ∧
          a = (env.token, row.familyId.str, row.familyMemberId.str) ∧
          new.Live ∧ new.sessionId = row.sessionId ∧
          new.tokenHash = RefreshTokenCodec.hash P env.token ∧
          d'.refreshTokens = Table.insert
            (Table.replace RefreshToken.id (row.consume env.now)
              ((service P).run (Store.empty schema) is).refreshTokens) new ∧
          (∀ S, S ≠ row.sessionId → sessionRows S d'.refreshTokens
            = sessionRows S ((service P).run (Store.empty schema) is).refreshTokens) ∧
          ∀ T, T ≠ .refreshToken →
            d'.rows T = ((service P).run (Store.empty schema) is).rows T := by
  have hl : Lineages ((service P).run (Store.empty schema) is).refreshTokens :=
    Lineages.run ((service P).every_mono (fun _ _ h => h.session) hfresh)
  refine ⟨fun x hx y hy hs => ⟨hl.one_live x hx y hy hs, hl.one_member x hx y hy hs⟩, ?_,
    fun env raw hf => ⟨rotate_ok_iff hl hf, fun a d' h => rotate_ok h⟩⟩
  rintro js ks rfl x hx y hy hid
  rw [Process.run_append] at hy
  obtain ⟨x', hx', hev⟩ := Evolves.run P _ ks hx
  obtain rfl : x' = y := Schema.Consistent.eq_of_id (T := TableName.refreshToken)
    (Store.consistent _) hx' hy (hev.id.trans hid.symm)
  exact ⟨hev.consumedAt, hev.revokedAt⟩

/-- A token that is live after a login, and its session, exchanged. -/
theorem session_lineage_exchange :
    ∃ a, (Tx.serve Exn.handled (RefreshTokenService.rotate (Sample.platform 2592000)
      (Sample.env 2 (Sample.second 60)) "refresh-1")
      ((service (Sample.platform 2592000)).run (Store.empty schema)
        [(Sample.env 1 (Sample.second 0),
          .auth (.signup (Sample.signup "ada@example.org" none)))])).1 = .ok a :=
  ((session_lineage (Sample.platform 2592000)
    [(Sample.env 1 (Sample.second 0), .auth (.signup (Sample.signup "ada@example.org" none)))]
    (by decide +kernel)).2.2 (Sample.env 2 (Sample.second 60)) "refresh-1"
    (by decide +kernel)).1.mpr (by decide +kernel)

/-- **Being live and unexpired is not enough**: close to the end of the
calendar, `rotate` raises `OverflowError` on such a token. -/
theorem rotate_live_overflow :
    ∃ (P : Platform) (is : List (Env × Request)) (env : Env) (raw : String),
      FreshRun P (Store.empty schema) is ∧ (∀ i ∈ is, i.1.now ≤ env.now) ∧
      env.Fresh P ((service P).run (Store.empty schema) is) ∧
      (∃ row ∈ ((service P).run (Store.empty schema) is).refreshTokens,
        row.Exchangeable P env raw) ∧
      (Tx.serve Exn.handled (RefreshTokenService.rotate P env raw)
        ((service P).run (Store.empty schema) is)).1 = .error .overflowError :=
  ⟨Sample.platform 10000,
    [(Sample.env 1 (Sample.beforeEnd 12000),
      .auth (.signup (Sample.signup "ada@example.org" none)))],
    Sample.env 2 (Sample.beforeEnd 5000), "refresh-1", by decide +kernel, by decide +kernel,
    by decide +kernel, by decide +kernel, by decide +kernel⟩
