import Accounts.Auth

/-!
# What the two steps of a request leave

The steps of `concurrentService`, described by the tables they leave. A
first step leaves the database as it was, unless it is the whole of a
`login` or of an operation of a family (`first_cases`). A second step that
fails leaves the database as it was, unless it is the report of reuse; one
that returns leaves what its part of the method leaves. `finish_frame` is the
frame of all of them: the tables a flight is not about stay as they were.
-/

open Repository

variable {P : Platform} {env : Env} {d d' : Database}

/-- The token a request in flight will exchange. -/
def Flight.exchanges : Flight → Option RefreshToken
  | exchange row => some row
  | _ => none

/-- What a request in flight will revoke: when, which session, and the rows
it has selected. -/
def Flight.revocation : Flight → Option (Datetime × UUID × List RefreshToken)
  | reuse now sessionId rows => some (now, sessionId, rows)
  | logout now sessionId rows => some (now, sessionId, rows)
  | _ => none

/-- The invite a request in flight will redeem. -/
def Flight.redeems : Flight → Option FamilyInvite
  | signup _ invite => invite
  | _ => none

/-- The tables a request in flight will write. -/
def Flight.tables : Flight → List TableName
  | exchange _ | reuse _ _ _ | logout _ _ _ => [.refreshToken]
  | signup _ none => [.family, .familyMember, .refreshToken]
  | signup _ (some _) => [.familyInvite, .familyMember, .refreshToken]
  | revokeInvite _ => [.familyInvite]
  | createMember _ _ => [.familyMember]
  | upsertProfile _ _ _ => [.familyMemberProfile]

/-! ## First steps -/

/-- An operation of a family that completes in its first part is not
split. -/
theorem Request.begin_family_done {f : UUID} {op : FamilyOp} {s s' : Session Database}
    {response : Response} (h : ((Request.family f op).begin P env).Returns s (.inr response) s') :
    op.oneStep = true ∧ (op.run P env f).Returns s response s' := by
  cases hop : op.oneStep with
  | true =>
    rw [Request.begin_oneStep hop] at h
    obtain ⟨r, h₁, hr⟩ := Tx.returns_bind_pure.mp h
    cases hr
    exact ⟨rfl, h₁⟩
  | false =>
    cases op <;> try exact Bool.noConfusion hop
    case createMember body =>
      obtain ⟨_, _, -, hp⟩ := Tx.returns_bind.mp h
      exact absurd (Tx.returns_pure.mp hp).1 Sum.inr_ne_inl
    case upsertProfile memberId body =>
      obtain ⟨_, _, -, hp⟩ := Tx.returns_bind.mp h
      exact absurd (Tx.returns_pure.mp hp).1 Sum.inr_ne_inl
    case revokeInvite inviteId =>
      rw [Request.begin, ← bind_assoc] at h
      obtain ⟨_, _, -, hp⟩ := Tx.returns_bind.mp h
      exact absurd (Tx.returns_pure.mp hp).1 Sum.inr_ne_inl

/-- **A first part that completes its request** has left the database as it
was, or is the whole of a `login` or of an operation of a family. -/
theorem Request.begin_done {req : Request} {s s' : Session Database} {response : Response}
    (h : (req.begin P env).Returns s (.inr response) s') :
    s' = s ∨ (∃ body a, req = .auth (.login body) ∧ (AuthService.login P env body).Returns s a s') ∨
      ∃ f op, req = .family f op ∧ op.oneStep = true ∧ (op.run P env f).Returns s response s' := by
  have hreads : Tx.Reads (req.begin P env) → s' = s := fun hr => hr.returns h
  cases req with
  | auth op =>
    cases op with
    | signup body =>
      exact Or.inl (hreads (Tx.Reads.bind (AuthService.reads_beginSignup body)
        (fun _ => Tx.Reads.pure _)))
    | login body =>
      obtain ⟨r, h₁, -⟩ := Tx.returns_bind_pure.mp h
      obtain ⟨a, s₂, h₂, hp'⟩ := Tx.returns_bind.mp h₁
      obtain ⟨-, rfl⟩ := Tx.returns_pure.mp hp'
      exact Or.inr (Or.inl ⟨body, a, rfl, h₂⟩)
    | refresh raw =>
      exact Or.inl (hreads (Tx.Reads.bind (RefreshTokenService.reads_beginRotate raw)
        (fun _ => Tx.Reads.pure _)))
    | logout raw =>
      refine Or.inl (hreads (Tx.Reads.bind (RefreshTokenService.reads_beginRevoke raw)
        (fun r => ?_)))
      cases r <;> exact Tx.Reads.pure _
  | family f op =>
    obtain ⟨hop, hret⟩ := Request.begin_family_done h
    exact Or.inr (Or.inr ⟨f, op, rfl, hop, hret⟩)

/-- **What a request in flight remembers was there** when it was left in
flight. -/
inductive Flight.ReadFrom (P : Platform) (d : Database) : Flight → Prop where
  /-- The token to exchange. -/
  | exchange {row : RefreshToken} (hmem : row ∈ d.refreshTokens) (hlive : row.Live) :
    ReadFrom P d (.exchange row)
  /-- The unrevoked tokens of the session of a used one. -/
  | reuse {row : RefreshToken} (now : Datetime) (hmem : row ∈ d.refreshTokens) :
    ReadFrom P d (.reuse now row.sessionId
      (d.refreshTokens.filter (fun r => r.revokedAt = none && r.sessionId = row.sessionId)))
  /-- The unrevoked tokens of the session of a stored one. -/
  | logout {row : RefreshToken} (now : Datetime) (hmem : row ∈ d.refreshTokens) :
    ReadFrom P d (.logout now row.sessionId
      (d.refreshTokens.filter (fun r => r.revokedAt = none && r.sessionId = row.sessionId)))
  /-- The invite to redeem, with the code of the body. -/
  | signup (body : SignupRequest) {invite : Option FamilyInvite}
    (hmem : ∀ i ∈ invite, i ∈ d.invites ∧
      ∃ code, body.inviteCode = some code ∧ InviteCodec.hash P code = .ok i.codeHash) :
    ReadFrom P d (.signup body invite)
  /-- The invite to delete. -/
  | revokeInvite {invite : FamilyInvite} (hmem : invite ∈ d.invites) :
    ReadFrom P d (.revokeInvite invite)
  /-- Nothing. -/
  | createMember (familyId : UUID) (body : MemberCreate) :
    ReadFrom P d (.createMember familyId body)
  /-- The profile to update. -/
  | upsertProfile (memberId : UUID) (body : MemberProfileUpsert)
    (profile : Option FamilyMemberProfile) : ReadFrom P d (.upsertProfile memberId body profile)

theorem RefreshTokenRepository.unrevokedOfSession_returns {sessionId : UUID}
    {rows : List RefreshToken} {s s' : Session Database} :
    (unrevokedOfSession sessionId).Returns s rows s' ↔
      rows = s.working.refreshTokens.filter
        (fun r => r.revokedAt = none && r.sessionId = sessionId) ∧ s' = s := by
  unfold unrevokedOfSession getMany
  exact Tx.returns_read

theorem RefreshTokenService.beginRotate_reads {raw : String} {s s' : Session Database}
    {flight : Flight} (h : (beginRotate P env raw).Returns s flight s') :
    flight.ReadFrom P s.working := by
  rw [beginRotate, RefreshTokenRepository.getByTokenHash_eq_read] at h
  obtain ⟨found, s₁, h₁, h₂⟩ := Tx.returns_bind.mp h
  obtain ⟨rfl, rfl⟩ := Tx.returns_read.mp h₁
  obtain ⟨row, s₂, h₃, h₄⟩ := Tx.returns_bind.mp h₂
  obtain ⟨hrow, rfl⟩ := Tx.returns_orRaise.mp h₃
  have hmem := List.mem_of_find?_eq_some hrow
  rcases Tx.returns_ite.mp h₄ with ⟨-, h₅⟩ | ⟨hused, h₅⟩
  · obtain ⟨rows, s₃, h₆, hp⟩ := Tx.returns_bind.mp h₅
    obtain ⟨rfl, rfl⟩ := RefreshTokenRepository.unrevokedOfSession_returns.mp h₆
    obtain ⟨rfl, -⟩ := Tx.returns_pure.mp hp
    exact .reuse env.now hmem
  · rcases Tx.returns_ite.mp h₅ with ⟨-, hr⟩ | ⟨-, hp⟩
    · exact absurd hr Tx.returns_raise
    · obtain ⟨rfl, -⟩ := Tx.returns_pure.mp hp
      exact .exchange hmem (Decidable.not_not.mp (mt RefreshToken.used_iff.mpr hused))

theorem RefreshTokenService.beginRevoke_reads {raw : String} {s s' : Session Database}
    {flight : Flight} (h : (beginRevoke P env raw).Returns s (some flight) s') :
    flight.ReadFrom P s.working := by
  rw [beginRevoke, RefreshTokenRepository.getByTokenHash_eq_read] at h
  obtain ⟨found, s₁, h₁, h₂⟩ := Tx.returns_bind.mp h
  obtain ⟨hfound, rfl⟩ := Tx.returns_read.mp h₁
  cases found with
  | none => exact absurd (Tx.returns_pure.mp h₂).1 (by simp)
  | some row =>
    obtain ⟨rows, s₃, h₃, hp⟩ := Tx.returns_bind.mp h₂
    obtain ⟨rfl, rfl⟩ := RefreshTokenRepository.unrevokedOfSession_returns.mp h₃
    obtain ⟨hf, -⟩ := Tx.returns_pure.mp hp
    cases hf
    exact .logout env.now (List.mem_of_find?_eq_some hfound.symm)

/-- **A request left in flight remembers what was there.** -/
theorem Request.begin_reads {req : Request} {s s' : Session Database} {flight : Flight}
    (h : (req.begin P env).Returns s (.inl flight) s') : flight.ReadFrom P s.working := by
  cases req with
  | auth op =>
    cases op with
    | signup body =>
      obtain ⟨flight', h₁, hf⟩ := Tx.returns_bind_pure.mp h
      cases hf
      obtain ⟨-, -, ⟨-, rfl⟩ | ⟨code, invite, hcode, hmem, -, hhash, rfl⟩⟩ :=
        AuthService.beginSignup_returns.mp h₁
      · exact .signup body (by simp)
      · refine .signup body (fun i hi => ?_)
        obtain rfl := Option.some.inj hi
        exact ⟨hmem, code, hcode, hhash⟩
    | login body => exact absurd h Request.not_returns_inl
    | refresh raw =>
      obtain ⟨flight', h₁, hf⟩ := Tx.returns_bind_pure.mp h
      cases hf
      exact RefreshTokenService.beginRotate_reads h₁
    | logout raw =>
      obtain ⟨found, s₁, h₁, hp⟩ := Tx.returns_bind.mp h
      cases found with
      | none => exact absurd (Tx.returns_pure.mp hp).1 (by simp)
      | some flight' =>
        obtain ⟨hf, rfl⟩ := Tx.returns_pure.mp hp
        cases hf
        exact RefreshTokenService.beginRevoke_reads h₁
  | family f op =>
    cases hop : op.oneStep with
    | true =>
      rw [Request.begin_oneStep hop] at h
      exact absurd h Request.not_returns_inl
    | false =>
      cases op <;> try exact Bool.noConfusion hop
      case createMember body =>
        obtain ⟨_, -, hf⟩ := Tx.returns_bind_pure.mp h
        cases hf
        exact .createMember f body
      case upsertProfile memberId body =>
        obtain ⟨profile, -, hf⟩ := Tx.returns_bind_pure.mp h
        cases hf
        exact .upsertProfile memberId body profile
      case revokeInvite inviteId =>
        rw [Request.begin, ← bind_assoc] at h
        obtain ⟨invite, h₁, hf⟩ := Tx.returns_bind_pure.mp h
        cases hf
        exact .revokeInvite (InviteService.find_returns.mp h₁).1

/-- **What a first step leaves.** -/
theorem first_cases {req : Request} {r : Flight ⊕ Completed Env Request Flight Exn Response}
    (h : (concurrentService P).first env req d = (d', r)) :
    d' = d ∨ ∃ s', d' = s'.working ∧
      ((∃ body a, req = .auth (.login body) ∧
          (AuthService.login P env body).Returns ⟨d, d⟩ a s') ∨
        ∃ f op response, req = .family f op ∧ op.oneStep = true ∧
          (op.run P env f).Returns ⟨d, d⟩ response s') := by
  cases r with
  | inl flight => exact Or.inl (TwoStep.ofPhases_first_flight h).1
  | inr o =>
    obtain ⟨-, -, hs⟩ := TwoStep.ofPhases_first_done h
    cases ho : o.outcome with
    | error e =>
      rw [ho] at hs
      have hclean : Tx.Clean Exn.handled (req.begin P env) := Request.clean_begin rfl req
      exact Or.inl (hclean.serve hs id)
    | ok response =>
      rw [ho] at hs
      obtain ⟨s', hret, rfl⟩ := Tx.serve_ok_iff.mp hs
      rcases Request.begin_done hret with rfl | hl | ⟨f, op, hreq, hone, hop⟩
      · exact Or.inl rfl
      · exact Or.inr ⟨s', rfl, Or.inl hl⟩
      · exact Or.inr ⟨s', rfl, Or.inr ⟨f, op, response, hreq, hone, hop⟩⟩

/-! ## Second steps -/

namespace Flight

/-- **A second step that fails** leaves the database as it was, unless it
was to revoke. -/
theorem finish_error {flight : Flight} {e : Exn} (hr : flight.revocation = none)
    (h : Tx.serve Exn.handled (flight.finish P env) d = (.error e, d')) : d' = d := by
  refine (undoes_finish Exn.handled rfl flight ?_).clean.serve h id
  rintro ⟨now, sessionId, rows, rfl⟩
  cases hr

/-- **What an exchange that returns leaves.** -/
theorem finish_exchange {row : RefreshToken} {response : Response}
    (h : Tx.serve Exn.handled ((exchange row).finish P env) d = (.ok response, d')) :
    ∃ cur exp, d.find .refreshToken row.id = some cur ∧
      d'.rows = Schema.insert .refreshToken
        (RefreshTokenService.newToken P env cur.familyId cur.familyMemberId cur.sessionId exp)
        (schema.replace .refreshToken (cur.consume env.now) d.rows) := by
  obtain ⟨s', hret, rfl⟩ := Tx.serve_ok_iff.mp h
  obtain ⟨a, h₁, -⟩ := Tx.returns_bind_pure.mp hret
  obtain ⟨cur, exp, hcur, -, -, d', hd', rfl⟩ :=
    RefreshTokenService.exchange_returns.mp (AuthService.finishRefresh_returns h₁)
  exact ⟨cur, exp, hcur, hd'⟩

/-- **What a revocation leaves**, of rows that are there. -/
theorem finish_revocation {flight : Flight} {now : Datetime} {sessionId : UUID}
    {rows : List RefreshToken} {r : Except Exn Response}
    (hf : flight.revocation = some (now, sessionId, rows))
    (hrows : ∀ x ∈ rows, x.id ∈ d.refreshTokens.map (·.id))
    (h : Tx.serve Exn.handled (flight.finish P env) d = (r, d')) :
    d'.rows = Function.update d.rows .refreshToken (d.refreshTokens.map
      (fun x => if x.id ∈ rows.map (·.id) then x.revoke now else x)) := by
  obtain ⟨d₁, hd₁, hret⟩ := RefreshTokenRepository.revokeRows_returns { env with now := now }
    ⟨d, d⟩ rows hrows
  cases flight with
  | reuse now' sessionId' rows' =>
    cases hf
    have hs : Tx.serve Exn.handled ((reuse now sessionId rows).finish P env) d
        = (.error .tokenReuse, d₁) :=
      Tx.serve_error_iff.mpr ⟨_, Tx.raises_bind.mpr (Or.inr
        ⟨_, _, hret, Tx.raises_raise.mpr ⟨rfl, rfl⟩⟩), rfl⟩
    cases hs.symm.trans h
    exact hd₁
  | logout now' sessionId' rows' =>
    cases hf
    have hs : Tx.serve Exn.handled ((logout now sessionId rows).finish P env) d
        = (.ok .done, d₁) :=
      Tx.serve_ok_iff.mpr ⟨_, Tx.returns_bind.mpr ⟨_, _, hret,
        Tx.returns_pure.mpr ⟨rfl, rfl⟩⟩, rfl⟩
    cases hs.symm.trans h
    exact hd₁
  | _ => cases hf

/-- **What a signup that returns leaves.** -/
theorem finish_signup {body : SignupRequest} {invite : Option FamilyInvite} {response : Response}
    (h : Tx.serve Exn.handled ((signup body invite).finish P env) d = (.ok response, d')) :
    ∃ a s', response = .tokens a ∧ d' = s'.working ∧
      (AuthService.finishSignup P env body invite).Returns ⟨d, d⟩ a s' := by
  obtain ⟨s', hret, rfl⟩ := Tx.serve_ok_iff.mp h
  obtain ⟨a, h₁, rfl⟩ := Tx.returns_bind_pure.mp hret
  exact ⟨a, s', rfl, rfl, h₁⟩

/-- **What the revocation of an invite that returns leaves.** -/
theorem finish_revokeInvite {invite : FamilyInvite} {response : Response}
    (h : Tx.serve Exn.handled ((revokeInvite invite).finish P env) d = (.ok response, d')) :
    (∃ i ∈ d.invites, i.id = invite.id) ∧
      d'.rows = schema.delete .familyInvite invite.id d.rows := by
  obtain ⟨s', hret, rfl⟩ := Tx.serve_ok_iff.mp h
  obtain ⟨_, h₁, -⟩ := Tx.returns_bind_pure.mp hret
  obtain ⟨hfound, d₁, hd₁, rfl⟩ := returns_delete.mp h₁
  obtain ⟨i, hi⟩ := Option.isSome_iff_exists.mp hfound
  exact ⟨⟨i, Store.find_eq_some_iff.mp hi⟩, hd₁⟩

/-- **What the creation of a member leaves.** -/
theorem finish_createMember {familyId : UUID} {body : MemberCreate} {response : Response}
    (h : Tx.serve Exn.handled ((createMember familyId body).finish P env) d = (.ok response, d')) :
    d'.rows = Schema.insert .familyMember (MemberService.newMember P env familyId body) d.rows := by
  obtain ⟨s', hret, rfl⟩ := Tx.serve_ok_iff.mp h
  obtain ⟨a, h₁, -⟩ := Tx.returns_bind_pure.mp hret
  exact MemberService.insert_change h₁

/-- **What the upsert of a profile leaves** outside the table of
profiles. -/
theorem finish_upsertProfile {memberId : UUID} {body : MemberProfileUpsert}
    {profile : Option FamilyMemberProfile} {response : Response}
    (h : Tx.serve Exn.handled ((upsertProfile memberId body profile).finish P env) d
      = (.ok response, d')) {T : TableName} (hT : T ≠ .familyMemberProfile) :
    d'.rows T = d.rows T := by
  obtain ⟨s', hret, rfl⟩ := Tx.serve_ok_iff.mp h
  obtain ⟨a, h₁, -⟩ := Tx.returns_bind_pure.mp hret
  rcases MemberService.putProfile_change h₁ with ⟨-, -, hrows⟩ | ⟨_, -, _, -, -, -, hrows⟩
  · rw [hrows, Schema.insert_of_ne hT]
  · rw [hrows, Schema.replace_of_ne hT]

/-- **A revocation leaves every other table alone**, whatever has become of
the rows it selected. -/
theorem finish_revocation_rows {flight : Flight} {r : Except Exn Response}
    (hrev : flight.revocation ≠ none)
    (h : Tx.serve Exn.handled (flight.finish P env) d = (r, d')) {T : TableName}
    (hT : T ≠ .refreshToken) : d'.rows T = d.rows T := by
  have hframe : Tx.Preserves (fun d₁ : Database => d₁.rows T = d.rows T) (flight.finish P env) := by
    cases flight with
    | reuse now sessionId rows =>
      exact (RefreshTokenRepository.frame_revokeRows _ rows hT).bind
        (fun _ => Tx.Preserves.of_reads (Tx.Reads.raise _))
    | logout now sessionId rows =>
      exact (RefreshTokenRepository.frame_revokeRows _ rows hT).bind
        (fun _ => Tx.Preserves.of_reads (Tx.Reads.pure _))
    | _ => exact absurd rfl hrev
  have hd : (Tx.serve Exn.handled (flight.finish P env) d).2 = d' := congrArg Prod.snd h
  rw [← hd]
  exact hframe.serve rfl

/-- **A second step leaves the tables alone that its flight is not about**,
however it ends. -/
theorem finish_frame {flight : Flight} {r : Except Exn Response}
    (h : Tx.serve Exn.handled (flight.finish P env) d = (r, d')) {T : TableName}
    (hT : T ∉ flight.tables) : d'.rows T = d.rows T := by
  have hne : ∀ {U : TableName}, U ∈ flight.tables → T ≠ U := fun hU hTU => hT (hTU ▸ hU)
  by_cases hrev : flight.revocation = none
  · cases r with
    | error e => rw [finish_error hrev h]
    | ok response =>
      cases flight with
      | exchange row =>
        obtain ⟨cur, exp, -, hrows⟩ := finish_exchange h
        rw [hrows, Schema.insert_of_ne (hne (by simp [tables])),
          Schema.replace_of_ne (hne (by simp [tables]))]
      | reuse now sessionId rows => cases hrev
      | logout now sessionId rows => cases hrev
      | signup body invite =>
        obtain ⟨a, s', -, rfl, hret⟩ := finish_signup h
        cases invite with
        | none =>
          obtain ⟨d₁, hd₁, hreg⟩ := AuthService.finishSignup_none_returns.mp hret
          rw [(AuthService.register_rows hreg).2 T (hne (by simp [tables]))
            (hne (by simp [tables]))]
          show d₁.rows T = d.rows T
          rw [hd₁, Schema.insert_of_ne (hne (by simp [tables]))]
        | some invite =>
          obtain ⟨cur, -, d₁, hd₁, hreg⟩ := AuthService.finishSignup_some_returns.mp hret
          rw [(AuthService.register_rows hreg).2 T (hne (by simp [tables]))
            (hne (by simp [tables]))]
          show d₁.rows T = d.rows T
          rw [hd₁, Schema.replace_of_ne (hne (by simp [tables]))]
      | revokeInvite invite =>
        rw [(finish_revokeInvite h).2, Schema.delete_of_ne (hne (by simp [tables]))]
      | createMember f body =>
        rw [finish_createMember h, Schema.insert_of_ne (hne (by simp [tables]))]
      | upsertProfile memberId body profile =>
        exact finish_upsertProfile h (hne (by simp [tables]))
  · refine finish_revocation_rows hrev h (hne ?_)
    cases flight with
    | reuse now sessionId rows | logout now sessionId rows => simp [tables]
    | _ => exact absurd rfl hrev

end Flight
