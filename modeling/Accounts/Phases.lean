import Accounts.Interleaving
import Accounts.Requests

/-!
# Requests in flight

Under `READ COMMITTED` and without row locks, what a request read may be
out of date when it writes. Six requests decide on what another request
can change, and write later: `refresh` and `logout`, `signup`, the
revocation of an invite, the creation of a member and the upsert of a
member's profile. Each is split where the source stops reading:
`Request.begin` is the first part and ends in a `Flight` that holds what
the rest of the method remembers – of a `refresh`, which token to exchange
or which tokens to revoke; `Flight.finish` is the rest.

Every other request runs in one step, also those that read before they
write: `login`, the updates and the deletions, and what is created below a
child. What these decide on – an email and its password, the family of a
row, who is primary – is never changed. The row can be deleted in between:
then the write fails, and the transaction leaves nothing. What one step
leaves out is that the ORM writes the columns an update has changed, so
that of two updates of one row at once it may keep columns of both.

`run_eq_begin_finish` says that the two parts are the request.
-/

/-- **What a request in flight remembers.** -/
inductive Flight where
  /-- `rotate` has found a live token and will exchange it. -/
  | exchange (row : RefreshToken)
  /-- `rotate` has found a used token and selected the rows to revoke. -/
  | reuse (now : Datetime) (sessionId : UUID) (rows : List RefreshToken)
  /-- `logout` has selected the rows to revoke. -/
  | logout (now : Datetime) (sessionId : UUID) (rows : List RefreshToken)
  /-- `signup` has found the email unused and the invite, if there is a
  code, active. -/
  | signup (body : SignupRequest) (invite : Option FamilyInvite)
  /-- `InviteService.revoke` has found the invite. -/
  | revokeInvite (invite : FamilyInvite)
  /-- `MemberService.create` has found the email unused. -/
  | createMember (familyId : UUID) (body : MemberCreate)
  /-- `upsert_profile` has found the member, and the profile if there is
  one. -/
  | upsertProfile (memberId : UUID) (body : MemberProfileUpsert)
      (profile : Option FamilyMemberProfile)

variable (P : Platform) (env : Env)

/-- The first part of `refresh`. -/
def RefreshTokenService.beginRotate (raw : String) : Op Flight := do
  let row ← RefreshTokenRepository.getByTokenHash (RefreshTokenCodec.hash P raw)
  let row ← Tx.orRaise (.service (.unauthorized "invalid refresh token")) row
  if row.consumedAt.isSome || row.revokedAt.isSome then
    let rows ← RefreshTokenRepository.unrevokedOfSession row.sessionId
    return .reuse env.now row.sessionId rows
  else if isExpired env row then
    Tx.raise (.service (.unauthorized "refresh token expired"))
  else
    return .exchange row

/-- The first part of `logout`. -/
def RefreshTokenService.beginRevoke (raw : String) : Op (Option Flight) := do
  match ← RefreshTokenRepository.getByTokenHash (RefreshTokenCodec.hash P raw) with
  | none => return none
  | some row =>
    let rows ← RefreshTokenRepository.unrevokedOfSession row.sessionId
    return some (.logout env.now row.sessionId rows)

/-- The first part of `signup`. -/
def AuthService.beginSignup (body : SignupRequest) : Op Flight := do
  if (← FamilyMemberRepository.getByEmail body.email).isSome then
    Tx.raise .emailRegistered
  else
    match body.inviteCode with
    | some code => do
      let invite ← InviteService.findActive P env code
      return .signup body (some invite)
    | none => return .signup body none

/-- The second part of `signup`. -/
def AuthService.finishSignup (body : SignupRequest) (invite : Option FamilyInvite) :
    Op IssuedTokens :=
  match invite with
  | some invite => do
    let (familyId, role) ← InviteService.accept env invite
    register P env body familyId role false
  | none => do
    let family ← foundFamily env body
    register P env body (Family.id family) body.role true

/-- The second part of `refresh`, for a live token. -/
def AuthService.finishRefresh (row : RefreshToken) : Op IssuedTokens := do
  let (newRefresh, familyId, memberId) ← RefreshTokenService.exchange P env row
  let access ← Tx.lift (TokenService.issue P env familyId memberId)
  return ⟨access, familyId, memberId, newRefresh⟩

/-- The operations of a family that are not split. -/
def FamilyOp.oneStep : FamilyOp → Bool
  | createMember _ | upsertProfile _ _ | revokeInvite _ => false
  | _ => true

/-- **The first part of a request**: what it remembers, or its response
when it completes in one step. -/
def Request.begin : Request → Op (Flight ⊕ Response)
  | auth (.refresh raw) => do return .inl (← RefreshTokenService.beginRotate P env raw)
  | auth (.logout raw) => do
    match ← RefreshTokenService.beginRevoke P env raw with
    | none => return .inr .done
    | some flight => return .inl flight
  | auth (.signup body) => do return .inl (← AuthService.beginSignup P env body)
  | family familyId (.revokeInvite inviteId) => do
    let invite ← Tx.orRaise .notFound (← FamilyInviteRepository.getInFamily inviteId familyId)
    return .inl (.revokeInvite invite)
  | family familyId (.createMember body) => do
    MemberService.checkEmail body
    return .inl (.createMember familyId body)
  | family familyId (.upsertProfile memberId body) => do
    let profile ← MemberService.findProfile familyId memberId
    return .inl (.upsertProfile memberId body profile)
  | req => do return .inr (← req.run P env)

/-- **The rest of a request.** -/
def Flight.finish : Flight → Op Response
  | exchange row => do return .tokens (← AuthService.finishRefresh P env row)
  | reuse now _ rows => do
    let _ ← RefreshTokenRepository.revokeRows { env with now } rows
    Tx.raise .tokenReuse
  | logout now _ rows => do
    let _ ← RefreshTokenRepository.revokeRows { env with now } rows
    return .done
  | signup body invite => do return .tokens (← AuthService.finishSignup P env body invite)
  | revokeInvite invite => do
    Repository.delete .familyInvite invite.id
    return .done
  | createMember familyId body => do
    return .member (← MemberService.insert P env familyId body)
  | upsertProfile memberId body profile => do
    return .profile (← MemberService.putProfile env memberId body profile)

/-- **The service with requests in flight.** -/
abbrev concurrentService : TwoStep Database Env Request Flight
    (Completed Env Request Flight Exn Response) :=
  TwoStep.ofPhases Exn.handled (Request.begin P) (Flight.finish P)

/-- A configuration of the service. -/
abbrev State : Type := Config Database Flight (Completed Env Request Flight Exn Response)

/-- Nothing has happened: the empty database, and no requests. -/
def idle : State :=
  ⟨Store.empty schema, [], []⟩

/-! ## The two parts are the request -/

variable {P env}

theorem Request.begin_oneStep {familyId : UUID} {op : FamilyOp} (h : op.oneStep = true) :
    (Request.family familyId op).begin P env = do return .inr (← op.run P env familyId) := by
  cases op <;> first
    | rfl
    | cases h

/-- **A request is its first part followed by its second.** -/
theorem Request.run_eq_begin_finish (req : Request) :
    req.run P env = req.begin P env >>= Sum.elim (Flight.finish P env) pure := by
  cases req with
  | auth op =>
    cases op with
    | signup body =>
      simp only [Request.run, AuthOp.run, AuthService.signup, Request.begin,
        AuthService.beginSignup, bind_assoc, pure_bind, Sum.elim_inl]
      refine bind_congr (fun member => ?_)
      split
      · rfl
      · cases body.inviteCode with
        | none => simp only [pure_bind, bind_assoc, Flight.finish, AuthService.finishSignup]
        | some code =>
          simp only [InviteService.redeem, pure_bind, bind_assoc, Flight.finish,
            AuthService.finishSignup]
    | login body =>
      simp only [Request.begin, bind_assoc, pure_bind, Sum.elim_inr, bind_pure]
    | refresh raw =>
      simp only [Request.run, AuthOp.run, AuthService.refresh, RefreshTokenService.rotate,
        Request.begin, RefreshTokenService.beginRotate, bind_assoc, pure_bind, Sum.elim_inl]
      refine bind_congr (fun found => bind_congr (fun row => ?_))
      split
      · simp only [RefreshTokenRepository.revokeSession, bind_assoc, pure_bind, Flight.finish,
          Tx.raise_bind]
      · split
        · rfl
        · simp only [pure_bind, Flight.finish, AuthService.finishRefresh, bind_assoc]
    | logout raw =>
      simp only [Request.run, AuthOp.run, AuthService.logout, RefreshTokenService.revoke,
        Request.begin, RefreshTokenService.beginRevoke, bind_assoc]
      refine bind_congr (fun found => ?_)
      cases found with
      | none => simp only [pure_bind, Sum.elim_inr]
      | some row =>
        simp only [RefreshTokenRepository.revokeSession, bind_assoc, pure_bind, Sum.elim_inl,
          Flight.finish]
  | family familyId op =>
    cases hop : op.oneStep with
    | true => simp only [Request.begin_oneStep hop, bind_assoc, pure_bind, Sum.elim_inr, bind_pure,
        Request.run]
    | false =>
      cases op <;> try exact Bool.noConfusion hop
      case revokeInvite inviteId =>
        simp only [Request.run, FamilyOp.run, InviteService.revoke, Request.begin, bind_assoc,
          pure_bind, Sum.elim_inl, Flight.finish]
      case createMember body =>
        simp only [Request.run, FamilyOp.run, MemberService.create, Request.begin, bind_assoc,
          pure_bind, Sum.elim_inl, Flight.finish]
      case upsertProfile memberId body =>
        simp only [Request.run, FamilyOp.run, MemberService.upsertProfile, Request.begin,
          bind_assoc, pure_bind, Sum.elim_inl, Flight.finish]
