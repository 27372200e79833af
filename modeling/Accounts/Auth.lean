import Accounts.Effects

/-!
# What the operations of `AuthService` return and leave

`issue`, `exchange`, `rotate`, the two revocations, `redeem`, `signup`,
`login` and `refresh`, each described once: when it returns, what it
returns, and the tables it leaves. The results about refresh tokens and
invites use these descriptions only.
-/

open Repository

variable {P : Platform} {env : Env} {s s' : Session Database}

/-! ## Live and used tokens -/

namespace RefreshToken

/-- Neither consumed nor revoked. -/
def Live (r : RefreshToken) : Prop := r.consumedAt = none ∧ r.revokedAt = none

instance (r : RefreshToken) : Decidable r.Live := inferInstanceAs (Decidable (_ ∧ _))

/-- The row, consumed. -/
def consume (r : RefreshToken) (now : Datetime) : RefreshToken :=
  { r with consumedAt := some now }

/-- The check of `rotate`: a token is used exactly when it is not live. -/
theorem used_iff {r : RefreshToken} :
    (r.consumedAt.isSome || r.revokedAt.isSome) = true ↔ ¬ r.Live := by
  unfold Live
  cases r.consumedAt <;> cases r.revokedAt <;> simp

theorem consume_sameKeys (r : RefreshToken) (now : Datetime) :
    schema.SameKeys .refreshToken (r.consume now) r :=
  ⟨rfl, by simp [TableName.uniques, consume], by simp [TableName.references, consume]⟩

end RefreshToken

/-! ## Issuing and exchanging -/

namespace RefreshTokenService

/-- **What `issue` returns and leaves.** -/
theorem issue_returns {familyId memberId : UUID} {sessionId : Option UUID} {raw : String} :
    (issue P env familyId memberId sessionId).Returns s raw s' ↔ raw = env.token ∧
      ∃ exp, env.now.plusSeconds P.settings.refreshTtlSeconds = some exp ∧
        ∃ d : Database, d.rows = Schema.insert .refreshToken
            (newToken P env familyId memberId (sessionId.getD env.sessionId) exp)
            s.working.rows ∧
          s' = { s with working := d } := by
  unfold issue
  constructor
  · intro h
    obtain ⟨exp, s₁, h₁, h₂⟩ := Tx.returns_bind.mp h
    obtain ⟨hexp, rfl⟩ := Tx.returns_orRaise.mp h₁
    obtain ⟨r, hadd, rfl⟩ := Tx.returns_bind_pure.mp h₂
    obtain ⟨hr, d, hd, rfl⟩ := returns_add.mp hadd
    cases hr
    exact ⟨rfl, exp, hexp, d, hd, rfl⟩
  · rintro ⟨rfl, exp, hexp, d, hd, rfl⟩
    exact Tx.returns_bind.mpr ⟨exp, s, Tx.returns_orRaise.mpr ⟨hexp, rfl⟩,
      Tx.returns_bind.mpr ⟨_, _, returns_add.mpr ⟨rfl, d, hd, rfl⟩,
        Tx.returns_pure.mpr ⟨rfl, rfl⟩⟩⟩

/-- **A token may be inserted** for a stored member of a stored family, when
its identifier and its digest are new. -/
theorem newToken_consistent {t : (T : TableName) → List T.Row} (hc : schema.Consistent t)
    (hid : ∀ x ∈ t .refreshToken, x.id ≠ env.newId .refreshToken)
    (htoken : ∀ x ∈ t .refreshToken, x.tokenHash ≠ RefreshTokenCodec.hash P env.token)
    {f m : UUID} (hfam : f ∈ (t .family).map Family.id)
    (hmem : m ∈ (t .familyMember).map FamilyMember.id) (sessionId : UUID) (exp : Datetime) :
    schema.Consistent (Schema.insert .refreshToken (newToken P env f m sessionId exp) t) := by
  refine (Schema.consistent_insert_iff hc).mpr ⟨hid, fun u hu k hk x hx h => ?_,
    fun p hp k hk => ?_⟩
  · obtain rfl := List.mem_singleton.mp hu
    obtain rfl := Option.some.inj hk
    exact htoken x hx (Sum.inr.inj (Option.some.inj h))
  · rcases List.mem_pair.mp hp with rfl | rfl
    · obtain rfl := Option.some.inj hk
      exact hfam
    · obtain rfl := Option.some.inj hk
      exact hmem

/-- **What `exchange` returns and leaves**: the row as it is now, consumed,
and a successor in its session. -/
theorem exchange_returns {row : RefreshToken} {a : String × String × String} :
    (exchange P env row).Returns s a s' ↔
      ∃ cur exp, s.working.find .refreshToken row.id = some cur ∧
        env.now.plusSeconds P.settings.refreshTtlSeconds = some exp ∧
        a = (env.token, cur.familyId.str, cur.familyMemberId.str) ∧
        ∃ d : Database, d.rows = Schema.insert .refreshToken
            (newToken P env cur.familyId cur.familyMemberId cur.sessionId exp)
            (schema.replace .refreshToken (cur.consume env.now) s.working.rows) ∧
          s' = { s with working := d } := by
  unfold exchange
  rw [Tx.returns_bind]
  constructor
  · rintro ⟨cur', s₁, hupd, hrest⟩
    obtain ⟨cur, hcur, hw, d₁, hd₁, rfl⟩ := returns_update.mp hupd
    rw [show Except.ok { cur with consumedAt := some env.now } >>=
      TableName.written env.now .refreshToken cur = .ok (cur.consume env.now) from
      TableName.written_refreshToken env.now cur _] at hw
    cases hw
    obtain ⟨raw, s₂, hissue, hp⟩ := Tx.returns_bind.mp hrest
    obtain ⟨rfl, exp, hexp, d, hd, rfl⟩ := issue_returns.mp hissue
    obtain ⟨rfl, rfl⟩ := Tx.returns_pure.mp hp
    exact ⟨cur, exp, hcur, hexp, rfl, d, hd.trans (by rw [hd₁]; rfl), rfl⟩
  · rintro ⟨cur, exp, hcur, hexp, rfl, d, hd, rfl⟩
    obtain ⟨d₁, hd₁, hupd⟩ := Repository.update_returns env (T := .refreshToken)
      (fun r => .ok { r with consumedAt := some env.now }) hcur
      (TableName.written_refreshToken env.now cur _) (cur.consume_sameKeys env.now)
    refine ⟨_, _, hupd, Tx.returns_bind.mpr ⟨env.token, { s with working := d },
      issue_returns.mpr ⟨rfl, exp, hexp, d, ?_, rfl⟩, Tx.returns_pure.mpr ⟨rfl, rfl⟩⟩⟩
    rw [hd]
    show _ = Schema.insert .refreshToken _ d₁.rows
    rw [hd₁]
    rfl

end RefreshTokenService

/-! ## Rotation -/

namespace RefreshTokenService

/-- A look-up by digest finds the row that has it. -/
theorem find_tokenHash {d : Database} {row : RefreshToken} {tokenHash : String} :
    d.refreshTokens.find? (fun r => r.tokenHash = tokenHash) = some row ↔
      row ∈ d.refreshTokens ∧ row.tokenHash = tokenHash := by
  rw [Table.find?_eq_some_iff_of_atMostOne (Database.atMostOne_of_unique (T := .refreshToken)
    (u := fun r => some (.inr r.tokenHash)) (List.mem_singleton.mpr rfl) (k := .inr tokenHash)
    (fun r hr => by simpa using hr) d), decide_eq_true_iff]

/-- Rows with the same digest are the same row. -/
theorem eq_of_tokenHash {d : Database} {x y : RefreshToken} (hx : x ∈ d.refreshTokens)
    (hy : y ∈ d.refreshTokens) (h : x.tokenHash = y.tokenHash) : x = y :=
  Option.some.inj ((find_tokenHash.mpr ⟨hx, h⟩).symm.trans (find_tokenHash.mpr ⟨hy, rfl⟩))

/-- The row with an identifier is found by it. -/
theorem find_id {d : Database} {row : RefreshToken} (h : row ∈ d.refreshTokens) :
    d.find .refreshToken row.id = some row :=
  Store.find_eq_some_iff.mpr ⟨h, rfl⟩

/-- **When `rotate` returns, and what it leaves.** -/
theorem rotate_returns {raw : String} {a : String × String × String} :
    (rotate P env raw).Returns s a s' ↔
      ∃ row ∈ s.working.refreshTokens, row.tokenHash = RefreshTokenCodec.hash P raw ∧
        row.Live ∧ isExpired env row = false ∧
        ∃ exp, env.now.plusSeconds P.settings.refreshTtlSeconds = some exp ∧
          a = (env.token, row.familyId.str, row.familyMemberId.str) ∧
          ∃ d : Database, d.rows = Schema.insert .refreshToken
              (newToken P env row.familyId row.familyMemberId row.sessionId exp)
              (schema.replace .refreshToken (row.consume env.now) s.working.rows) ∧
            s' = { s with working := d } := by
  rw [rotate, RefreshTokenRepository.getByTokenHash_eq_read]
  constructor
  · intro h
    obtain ⟨found, s₁, h₁, h₂⟩ := Tx.returns_bind.mp h
    obtain ⟨rfl, rfl⟩ := Tx.returns_read.mp h₁
    obtain ⟨row, s₂, h₃, h₄⟩ := Tx.returns_bind.mp h₂
    obtain ⟨hrow, rfl⟩ := Tx.returns_orRaise.mp h₃
    obtain ⟨hmem, hhash⟩ := find_tokenHash.mp hrow
    rcases Tx.returns_ite.mp h₄ with ⟨-, hburn⟩ | ⟨hused, h₅⟩
    · obtain ⟨_, _, -, hr⟩ := Tx.returns_bind.mp hburn
      exact absurd hr Tx.returns_raise
    · rcases Tx.returns_ite.mp h₅ with ⟨-, hr⟩ | ⟨hexpired, hex⟩
      · exact absurd hr Tx.returns_raise
      · obtain ⟨cur, exp, hcur, hexp, ha, hd⟩ := exchange_returns.mp hex
        obtain rfl := Option.some.inj ((find_id hmem).symm.trans hcur)
        exact ⟨row, hmem, hhash, Decidable.not_not.mp (mt RefreshToken.used_iff.mpr hused),
          Bool.eq_false_iff.mpr hexpired, exp, hexp, ha, hd⟩
  · rintro ⟨row, hmem, hhash, hlive, hexpired, exp, hexp, ha, hd⟩
    refine Tx.returns_bind.mpr ⟨_, s, Tx.returns_read.mpr ⟨rfl, rfl⟩, Tx.returns_bind.mpr
      ⟨row, s, Tx.returns_orRaise.mpr ⟨find_tokenHash.mpr ⟨hmem, hhash⟩, rfl⟩, ?_⟩⟩
    refine Tx.returns_ite.mpr (Or.inr ⟨fun h => RefreshToken.used_iff.mp h hlive,
      Tx.returns_ite.mpr (Or.inr ⟨Bool.eq_false_iff.mp hexpired, ?_⟩)⟩)
    exact exchange_returns.mpr ⟨row, exp, find_id hmem, hexp, ha, hd⟩

/-- **A used token is reported, and its session burnt.** -/
theorem rotate_used (env : Env) {raw : String} {row : RefreshToken}
    (hmem : row ∈ s.working.refreshTokens) (hhash : row.tokenHash = RefreshTokenCodec.hash P raw)
    (hused : ¬ row.Live) :
    ∃ d : Database, d.rows = Function.update s.working.rows .refreshToken
        (s.working.refreshTokens.map (fun x => x.burn env.now row.sessionId)) ∧
      (rotate P env raw).Raises s .tokenReuse { s with working := d } := by
  obtain ⟨d, n, hd, hret⟩ := RefreshTokenRepository.revokeSession_returns env s row.sessionId
  refine ⟨d, hd, ?_⟩
  rw [rotate, RefreshTokenRepository.getByTokenHash_eq_read]
  refine Tx.raises_bind.mpr (Or.inr ⟨_, s, Tx.returns_read.mpr ⟨rfl, rfl⟩, Tx.raises_bind.mpr
    (Or.inr ⟨row, s, Tx.returns_orRaise.mpr ⟨find_tokenHash.mpr ⟨hmem, hhash⟩, rfl⟩, ?_⟩)⟩)
  refine Tx.raises_ite.mpr (Or.inl ⟨RefreshToken.used_iff.mpr hused, ?_⟩)
  exact Tx.raises_bind.mpr (Or.inr ⟨n, _, hret, Tx.raises_raise.mpr ⟨rfl, rfl⟩⟩)

/-- **`logout` with a stored token burns its session.** -/
theorem revoke_stored (env : Env) {raw : String} {row : RefreshToken}
    (hmem : row ∈ s.working.refreshTokens) (hhash : row.tokenHash = RefreshTokenCodec.hash P raw) :
    ∃ d : Database, d.rows = Function.update s.working.rows .refreshToken
        (s.working.refreshTokens.map (fun x => x.burn env.now row.sessionId)) ∧
      (revoke P env raw).Returns s () { s with working := d } := by
  obtain ⟨d, n, hd, hret⟩ := RefreshTokenRepository.revokeSession_returns env s row.sessionId
  refine ⟨d, hd, ?_⟩
  rw [revoke, RefreshTokenRepository.getByTokenHash_eq_read]
  refine Tx.returns_bind.mpr ⟨some row, s,
    Tx.returns_read.mpr ⟨(find_tokenHash.mpr ⟨hmem, hhash⟩).symm, rfl⟩, ?_⟩
  exact Tx.returns_bind.mpr ⟨n, _, hret, Tx.returns_pure.mpr ⟨rfl, rfl⟩⟩

/-- `logout` with an unknown token does nothing. -/
theorem revoke_unknown (env : Env) {raw : String}
    (h : ∀ r ∈ s.working.refreshTokens, r.tokenHash ≠ RefreshTokenCodec.hash P raw) :
    (revoke P env raw).Returns s () s := by
  rw [revoke, RefreshTokenRepository.getByTokenHash_eq_read]
  refine Tx.returns_bind.mpr ⟨none, s, Tx.returns_read.mpr ⟨?_, rfl⟩,
    Tx.returns_pure.mpr ⟨rfl, rfl⟩⟩
  exact (List.find?_eq_none.mpr (fun r hr => by simpa using h r hr)).symm

end RefreshTokenService

/-! ## New sessions and members -/

namespace AuthService

/-- **What `_issue_tokens` returns and leaves.** -/
theorem issueTokens_returns {familyId memberId : UUID} {a : IssuedTokens} :
    (issueTokens P env familyId memberId).Returns s a s' ↔
      ∃ access exp, TokenService.issue P env familyId.str memberId.str = .ok access ∧
        env.now.plusSeconds P.settings.refreshTtlSeconds = some exp ∧
        a = ⟨access, familyId.str, memberId.str, env.token⟩ ∧
        ∃ d : Database, d.rows = Schema.insert .refreshToken
            (RefreshTokenService.newToken P env familyId memberId env.sessionId exp)
            s.working.rows ∧
          s' = { s with working := d } := by
  unfold issueTokens
  constructor
  · intro h
    obtain ⟨access, s₁, h₁, h₂⟩ := Tx.returns_bind.mp h
    obtain ⟨haccess, rfl⟩ := Tx.returns_lift.mp h₁
    obtain ⟨raw, s₂, h₃, hp⟩ := Tx.returns_bind.mp h₂
    obtain ⟨rfl, exp, hexp, d, hd, rfl⟩ := RefreshTokenService.issue_returns.mp h₃
    obtain ⟨rfl, rfl⟩ := Tx.returns_pure.mp hp
    exact ⟨access, exp, haccess, hexp, rfl, d, hd, rfl⟩
  · rintro ⟨access, exp, haccess, hexp, rfl, d, hd, rfl⟩
    exact Tx.returns_bind.mpr ⟨access, s, Tx.returns_lift.mpr ⟨haccess, rfl⟩,
      Tx.returns_bind.mpr ⟨env.token, _,
        RefreshTokenService.issue_returns.mpr ⟨rfl, exp, hexp, d, hd, rfl⟩,
        Tx.returns_pure.mpr ⟨rfl, rfl⟩⟩⟩

/-- **What registering a member returns and leaves.** -/
theorem register_returns {body : SignupRequest} {familyId : UUID} {role : String}
    {isPrimary : Bool} {a : IssuedTokens} :
    (register P env body familyId role isPrimary).Returns s a s' ↔
      ∃ d₁ : Database, d₁.rows = Schema.insert .familyMember
          (newMember P env body familyId role isPrimary) s.working.rows ∧
        (issueTokens P env familyId (env.newId .familyMember)).Returns
          { s with working := d₁ } a s' := by
  unfold register
  constructor
  · intro h
    obtain ⟨m, s₁, h₁, h₂⟩ := Tx.returns_bind.mp h
    obtain ⟨hm, d₁, hd₁, rfl⟩ := returns_add.mp (Tx.returns_mapError.mp h₁)
    cases hm
    exact ⟨d₁, hd₁, h₂⟩
  · rintro ⟨d₁, hd₁, h⟩
    exact Tx.returns_bind.mpr ⟨newMember P env body familyId role isPrimary, _,
      Tx.returns_mapError.mpr (returns_add.mpr ⟨rfl, d₁, hd₁, rfl⟩), h⟩

/-- **What `login` returns and leaves.** -/
theorem login_returns {body : LoginRequest} {a : IssuedTokens}
    (h : (login P env body).Returns s a s') :
    ∃ m ∈ s.working.members, (issueTokens P env m.familyId m.id).Returns s a s' := by
  rw [login, FamilyMemberRepository.getByEmail_eq_read] at h
  obtain ⟨found, s₁, h₁, h₂⟩ := Tx.returns_bind.mp h
  obtain ⟨hfound, rfl⟩ := Tx.returns_read.mp h₁
  cases found with
  | none => exact absurd h₂ Tx.returns_raise
  | some m =>
    obtain ⟨ok, s₂, h₃, h₄⟩ := Tx.returns_bind.mp h₂
    obtain ⟨-, rfl⟩ := Tx.returns_lift.mp h₃
    rcases Tx.returns_ite.mp h₄ with ⟨-, h₅⟩ | ⟨-, h₅⟩
    · exact ⟨m, List.mem_of_find?_eq_some hfound.symm, h₅⟩
    · exact absurd h₅ Tx.returns_raise

/-- **When `refresh` returns, and what it leaves.** -/
theorem refresh_returns {raw : String} {a : IssuedTokens} :
    (refresh P env raw).Returns s a s' ↔
      ∃ row access, TokenService.issue P env row.familyId.str row.familyMemberId.str = .ok access ∧
        a = ⟨access, row.familyId.str, row.familyMemberId.str, env.token⟩ ∧
        row ∈ s.working.refreshTokens ∧ row.tokenHash = RefreshTokenCodec.hash P raw ∧
        (RefreshTokenService.rotate P env raw).Returns s
          (env.token, row.familyId.str, row.familyMemberId.str) s' := by
  unfold refresh
  constructor
  · intro h
    obtain ⟨a', s₁, h₁, h₂⟩ := Tx.returns_bind.mp h
    obtain ⟨access, s₂, h₃, hp⟩ := Tx.returns_bind.mp h₂
    obtain ⟨haccess, rfl⟩ := Tx.returns_lift.mp h₃
    obtain ⟨rfl, rfl⟩ := Tx.returns_pure.mp hp
    obtain ⟨row, hmem, hhash, -, -, -, -, rfl, -⟩ := RefreshTokenService.rotate_returns.mp h₁
    exact ⟨row, access, haccess, rfl, hmem, hhash, h₁⟩
  · rintro ⟨row, access, haccess, rfl, -, -, h₁⟩
    exact Tx.returns_bind.mpr ⟨_, s', h₁, Tx.returns_bind.mpr ⟨access, s',
      Tx.returns_lift.mpr ⟨haccess, rfl⟩, Tx.returns_pure.mpr ⟨rfl, rfl⟩⟩⟩

/-- **The rest of a `refresh` that found a live token.** -/
theorem finishRefresh_returns {row : RefreshToken} {a : IssuedTokens}
    (h : (finishRefresh P env row).Returns s a s') :
    (RefreshTokenService.exchange P env row).Returns s
      (a.refreshToken, a.familyId, a.familyMemberId) s' := by
  obtain ⟨b, s₁, h₁, h₂⟩ := Tx.returns_bind.mp h
  obtain ⟨access, s₂, h₃, hp⟩ := Tx.returns_bind.mp h₂
  obtain ⟨-, rfl⟩ := Tx.returns_lift.mp h₃
  obtain ⟨rfl, rfl⟩ := Tx.returns_pure.mp hp
  exact h₁

/-- A used token makes `refresh` report reuse, and burns its session. -/
theorem refresh_used (env : Env) {raw : String} {row : RefreshToken}
    (hmem : row ∈ s.working.refreshTokens) (hhash : row.tokenHash = RefreshTokenCodec.hash P raw)
    (hused : ¬ row.Live) :
    ∃ d : Database, d.rows = Function.update s.working.rows .refreshToken
        (s.working.refreshTokens.map (fun x => x.burn env.now row.sessionId)) ∧
      (refresh P env raw).Raises s .tokenReuse { s with working := d } := by
  obtain ⟨d, hd, hr⟩ := RefreshTokenService.rotate_used env hmem hhash hused
  exact ⟨d, hd, Tx.raises_bind.mpr (Or.inl hr)⟩

end AuthService

/-! ## Signing up -/

/-- The invite, accepted. -/
def FamilyInvite.accept (r : FamilyInvite) (now : Datetime) : FamilyInvite :=
  if r.acceptedAt = some now then r else { r with acceptedAt := some now, updatedAt := now }

theorem FamilyInvite.accept_acceptedAt (r : FamilyInvite) (now : Datetime) :
    (r.accept now).acceptedAt = some now := by
  unfold accept
  split
  · next h => exact h
  · rfl

theorem FamilyInvite.accept_sameKeys (r : FamilyInvite) (now : Datetime) :
    schema.SameKeys .familyInvite (r.accept now) r := by
  unfold accept
  split
  · exact ⟨rfl, fun _ _ => rfl, fun _ _ => rfl⟩
  · exact ⟨rfl, by simp [TableName.uniques], by simp [TableName.references]⟩

/-- Marking an invite accepted stores it accepted. -/
theorem TableName.written_accept (now : Datetime) (r : FamilyInvite) :
    TableName.written now .familyInvite r { r with acceptedAt := some now }
      = .ok (r.accept now) := by
  unfold TableName.written FamilyInvite.accept
  by_cases h : r.acceptedAt = some now
  · rw [if_pos h, if_pos (by rw [← h])]
  · rw [if_neg h, if_neg (fun heq => h (congrArg FamilyInvite.acceptedAt heq).symm)]
    rfl

namespace InviteService

/-- **What marking an invite accepted returns and leaves.** -/
theorem accept_returns {invite : FamilyInvite} {a : UUID × String} :
    (accept env invite).Returns s a s' ↔
      ∃ cur, s.working.find .familyInvite invite.id = some cur ∧ a = (cur.familyId, cur.role) ∧
        ∃ d : Database, d.rows = schema.replace .familyInvite (cur.accept env.now) s.working.rows ∧
          s' = { s with working := d } := by
  have hfamily : ∀ r : FamilyInvite, ((r.accept env.now).familyId, (r.accept env.now).role)
      = (r.familyId, r.role) := by
    intro r
    unfold FamilyInvite.accept
    split <;> rfl
  unfold accept
  rw [Tx.returns_bind]
  constructor
  · rintro ⟨cur', s₁, hupd, hp⟩
    obtain ⟨cur, hcur, hw, d, hd, rfl⟩ := returns_update.mp hupd
    rw [show Except.ok { cur with acceptedAt := some env.now } >>=
      TableName.written env.now .familyInvite cur = .ok (cur.accept env.now) from
      TableName.written_accept env.now cur] at hw
    cases hw
    obtain ⟨rfl, rfl⟩ := Tx.returns_pure.mp hp
    exact ⟨cur, hcur, hfamily cur, d, hd, rfl⟩
  · rintro ⟨cur, hcur, rfl, d, hd, rfl⟩
    exact ⟨cur.accept env.now, _, returns_update.mpr ⟨cur, hcur,
      TableName.written_accept env.now cur, d, hd, rfl⟩,
      Tx.returns_pure.mpr ⟨(hfamily cur).symm, rfl⟩⟩

/-- **The active invite with a code.** -/
theorem findActive_returns {code : Py.Text} {invite : FamilyInvite} :
    (findActive P env code).Returns s invite s' ↔
      invite ∈ s.working.invites ∧ invite.isActive env.now = true ∧
        InviteCodec.hash P code = .ok invite.codeHash ∧ s' = s := by
  have hlookup : ∀ codeHash,
      (FamilyInviteRepository.getActiveByCodeHash env codeHash >>= fun found =>
        Tx.orRaise (.service (.badRequest "invalid or expired invite code")) found).Returns
          s invite s' ↔
      invite ∈ s.working.invites ∧ invite.isActive env.now = true ∧
        invite.codeHash = codeHash ∧ s' = s := by
    intro codeHash
    refine (required_returns (fun d => Database.atMostOne_of_unique (T := .familyInvite)
      (u := fun r => some (.inr r.codeHash)) (List.mem_singleton.mpr rfl)
      (k := .inr codeHash) (fun r hr => ?_) d)).trans (by simp [and_assoc])
    simp only [Bool.and_eq_true, decide_eq_true_eq] at hr
    rw [hr.2]
  unfold findActive
  constructor
  · intro h
    obtain ⟨codeHash, s₁, h₁, h₂⟩ := Tx.returns_bind.mp h
    obtain ⟨hhash, hs₁⟩ := Tx.returns_lift.mp h₁
    obtain ⟨hmem, hactive, rfl, hs⟩ := (hlookup codeHash).mp (hs₁ ▸ h₂)
    exact ⟨hmem, hactive, hhash, hs⟩
  · rintro ⟨hmem, hactive, hhash, hs⟩
    exact Tx.returns_bind.mpr ⟨_, _, Tx.returns_lift.mpr ⟨hhash, rfl⟩,
      (hlookup _).mpr ⟨hmem, hactive, rfl, hs⟩⟩

end InviteService

namespace AuthService

/-- **The rest of a signup through an invite.** -/
theorem finishSignup_some_returns {body : SignupRequest} {invite : FamilyInvite}
    {a : IssuedTokens} :
    (finishSignup P env body (some invite)).Returns s a s' ↔
      ∃ cur, s.working.find .familyInvite invite.id = some cur ∧
        ∃ d₁ : Database,
          d₁.rows = schema.replace .familyInvite (cur.accept env.now) s.working.rows ∧
          (register P env body cur.familyId cur.role false).Returns
            { s with working := d₁ } a s' := by
  unfold finishSignup
  constructor
  · intro h
    obtain ⟨b, s₁, h₁, h₂⟩ := Tx.returns_bind.mp h
    obtain ⟨cur, hcur, rfl, d₁, hd₁, rfl⟩ := InviteService.accept_returns.mp h₁
    exact ⟨cur, hcur, d₁, hd₁, h₂⟩
  · rintro ⟨cur, hcur, d₁, hd₁, h⟩
    exact Tx.returns_bind.mpr ⟨_, _,
      InviteService.accept_returns.mpr ⟨cur, hcur, rfl, d₁, hd₁, rfl⟩, h⟩

/-- **The rest of a signup without an invite.** -/
theorem finishSignup_none_returns {body : SignupRequest} {a : IssuedTokens} :
    (finishSignup P env body none).Returns s a s' ↔
      ∃ d₁ : Database, d₁.rows = Schema.insert .family (newFamily env body) s.working.rows ∧
        (register P env body (env.newId .family) body.role true).Returns
          { s with working := d₁ } a s' := by
  unfold finishSignup
  constructor
  · intro h
    obtain ⟨f, s₁, h₁, h₂⟩ := Tx.returns_bind.mp h
    obtain ⟨hf, d₁, hd₁, rfl⟩ := returns_add.mp h₁
    cases hf
    exact ⟨d₁, hd₁, h₂⟩
  · rintro ⟨d₁, hd₁, h⟩
    exact Tx.returns_bind.mpr ⟨newFamily env body, _, returns_add.mpr ⟨rfl, d₁, hd₁, rfl⟩, h⟩

/-- **The first part of a signup.** -/
theorem beginSignup_returns {body : SignupRequest} {flight : Flight} :
    (beginSignup P env body).Returns s flight s' ↔
      (∀ m ∈ s.working.members, m.email ≠ some body.email) ∧ s' = s ∧
        ((body.inviteCode = none ∧ flight = .signup body none) ∨
          ∃ code invite, body.inviteCode = some code ∧ invite ∈ s.working.invites ∧
            invite.isActive env.now = true ∧ InviteCodec.hash P code = .ok invite.codeHash ∧
            flight = .signup body (some invite)) := by
  rw [beginSignup, FamilyMemberRepository.getByEmail_eq_read]
  have hunused : ¬ (s.working.members.find? (fun r => r.email = some body.email)).isSome = true ↔
      ∀ m ∈ s.working.members, m.email ≠ some body.email := by
    rw [Option.not_isSome_iff_eq_none, List.find?_eq_none]
    simp
  constructor
  · intro h
    obtain ⟨found, s₁, h₁, h₂⟩ := Tx.returns_bind.mp h
    obtain ⟨rfl, rfl⟩ := Tx.returns_read.mp h₁
    rcases Tx.returns_ite.mp h₂ with ⟨-, hr⟩ | ⟨hfree, h₃⟩
    · exact absurd hr Tx.returns_raise
    · refine ⟨hunused.mp hfree, ?_⟩
      cases hcode : body.inviteCode with
      | none =>
        rw [hcode] at h₃
        obtain ⟨rfl, rfl⟩ := Tx.returns_pure.mp h₃
        exact ⟨rfl, Or.inl ⟨rfl, rfl⟩⟩
      | some code =>
        rw [hcode] at h₃
        obtain ⟨invite, s₂, h₄, hp⟩ := Tx.returns_bind.mp h₃
        obtain ⟨hmem, hactive, hhash, rfl⟩ := InviteService.findActive_returns.mp h₄
        obtain ⟨rfl, rfl⟩ := Tx.returns_pure.mp hp
        exact ⟨rfl, Or.inr ⟨code, invite, rfl, hmem, hactive, hhash, rfl⟩⟩
  · rintro ⟨hfree, rfl, hcode⟩
    refine Tx.returns_bind.mpr ⟨_, s', Tx.returns_read.mpr ⟨rfl, rfl⟩,
      Tx.returns_ite.mpr (Or.inr ⟨hunused.mpr hfree, ?_⟩)⟩
    rcases hcode with ⟨hcode, rfl⟩ | ⟨code, invite, hcode, hmem, hactive, hhash, rfl⟩
    · rw [hcode]
      exact Tx.returns_pure.mpr ⟨rfl, rfl⟩
    · rw [hcode]
      exact Tx.returns_bind.mpr ⟨invite, s',
        InviteService.findActive_returns.mpr ⟨hmem, hactive, hhash, rfl⟩,
        Tx.returns_pure.mpr ⟨rfl, rfl⟩⟩

/-- **A signup is its two parts.** -/
theorem signup_returns {body : SignupRequest} {a : IssuedTokens} :
    (signup P env body).Returns s a s' ↔
      ∃ invite, (beginSignup P env body).Returns s (.signup body invite) s ∧
        (finishSignup P env body invite).Returns s a s' := by
  have hrun : (signup P env body).Returns s a s' ↔
      ((Request.auth (.signup body)).begin P env >>=
        Sum.elim (Flight.finish P env) pure).Returns s (.tokens a) s' := by
    rw [← Request.run_eq_begin_finish]
    exact ⟨fun h => Tx.returns_bind.mpr ⟨a, s', h, Tx.returns_pure.mpr ⟨rfl, rfl⟩⟩, fun h => by
      obtain ⟨a', h₁, ha⟩ := Tx.returns_bind_pure.mp h
      cases ha
      exact h₁⟩
  rw [hrun]
  constructor
  · intro h
    obtain ⟨r, s₁, h₁, h₂⟩ := Tx.returns_bind.mp h
    obtain ⟨flight, hbegin, rfl⟩ := Tx.returns_bind_pure.mp h₁
    obtain ⟨invite, rfl⟩ : ∃ invite, flight = .signup body invite := by
      rcases (beginSignup_returns.mp hbegin).2.2 with ⟨-, hf⟩ | ⟨_, invite, -, -, -, -, hf⟩
      · exact ⟨none, hf⟩
      · exact ⟨some invite, hf⟩
    obtain ⟨a', s₃, hfinish, hp'⟩ := Tx.returns_bind.mp h₂
    obtain ⟨ha, rfl⟩ := Tx.returns_pure.mp hp'
    cases ha
    obtain ⟨-, rfl, -⟩ := beginSignup_returns.mp hbegin
    exact ⟨invite, hbegin, hfinish⟩
  · rintro ⟨invite, hbegin, hfinish⟩
    exact Tx.returns_bind.mpr ⟨.inl (.signup body invite), s,
      Tx.returns_bind.mpr ⟨_, s, hbegin, Tx.returns_pure.mpr ⟨rfl, rfl⟩⟩,
      Tx.returns_bind.mpr ⟨a, s', hfinish, Tx.returns_pure.mpr ⟨rfl, rfl⟩⟩⟩

/-- Issuing tokens leaves every other table as it was. -/
theorem issueTokens_rows {f m : UUID} {a : IssuedTokens} {T : TableName}
    (h : (issueTokens P env f m).Returns s a s') (hT : T ≠ .refreshToken) :
    s'.working.rows T = s.working.rows T := by
  obtain ⟨_, _, -, -, -, d, hd, rfl⟩ := issueTokens_returns.mp h
  show d.rows T = _
  rw [hd, Schema.insert_of_ne hT]

/-- **Registering a member adds the member**, and leaves every table but
members and tokens as it was. -/
theorem register_rows {body : SignupRequest} {f : UUID} {role : String}
    {isPrimary : Bool} {a : IssuedTokens}
    (h : (register P env body f role isPrimary).Returns s a s') :
    s'.working.members = Table.insert s.working.members (newMember P env body f role isPrimary) ∧
      ∀ T, T ≠ .familyMember → T ≠ .refreshToken → s'.working.rows T = s.working.rows T := by
  obtain ⟨d₁, hd₁, h⟩ := register_returns.mp h
  constructor
  · show s'.working.rows .familyMember = _
    rw [issueTokens_rows h (by simp)]
    show d₁.rows .familyMember = _
    rw [hd₁, Schema.insert_self]
  · intro T hm hr
    rw [issueTokens_rows h hr]
    show d₁.rows T = _
    rw [hd₁, Schema.insert_of_ne hm]

end AuthService
