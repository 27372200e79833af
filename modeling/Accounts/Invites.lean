import Accounts.Auth

/-!
# What the requests leave of the invites

`InviteStep` is the machine invites are run by: an invite is created, is
deleted, or – while it is active – is accepted. `inviteAction` reads off an
answered request which of the three it was, and `inviteStep_serve` connects
the two: serving any request is the step its answer tells.
-/

open Repository
open Tx hiding serve

variable {P : Platform} {env : Env} {d d' : Database} {t t' : List FamilyInvite}

/-! ## The machine -/

/-- **What an answered request has done to the invites.** -/
inductive InviteAction where
  /-- It has created an invite. -/
  | created (r : FamilyInvite)
  /-- It has deleted the invite with an identifier. -/
  | revoked (id : UUID)
  /-- It has redeemed the invite with a digest. -/
  | redeemed (codeHash : String)

/-- What an answered request has done to the invites. -/
def inviteAction (P : Platform) : (Env × Request) × Except Exn Response → Option InviteAction
  | ((env, .family f (.createInvite createdBy body)), .ok (.invite i)) =>
    some (.created (InviteService.newInvite P env f createdBy body i.expiresAt))
  | ((_, .family _ (.revokeInvite id)), .ok _) => some (.revoked id)
  | ((_, .auth (.signup body)), .ok _) =>
    body.inviteCode.bind (fun code => (InviteCodec.hash P code).toOption.map .redeemed)
  | _ => none

/-- **A step of the table of invites.** -/
inductive InviteStep (P : Platform) (env : Env) (t : List FamilyInvite) :
    Option InviteAction → List FamilyInvite → Prop where
  /-- Nothing. -/
  | same : InviteStep P env t none t
  /-- An invite is created. -/
  | created {r : FamilyInvite} (hid : r.id = env.newId .familyInvite)
    (hhash : r.codeHash = P.sha256 env.code) (hopen : r.acceptedAt = none) :
    InviteStep P env t (some (.created r)) (Table.insert t r)
  /-- An invite is deleted. -/
  | revoked {r : FamilyInvite} (hr : r ∈ t) :
    InviteStep P env t (some (.revoked r.id)) (Table.delete FamilyInvite.id r.id t)
  /-- An active invite is accepted. -/
  | accepted {cur : FamilyInvite} (hcur : cur ∈ t) (hactive : cur.isActive env.now = true) :
    InviteStep P env t (some (.redeemed cur.codeHash))
      (Table.replace FamilyInvite.id (cur.accept env.now) t)

/-- An active invite is unaccepted. -/
theorem FamilyInvite.isActive_iff {r : FamilyInvite} {now : Datetime} :
    r.isActive now = true ↔ r.acceptedAt = none ∧ ∀ e ∈ r.expiresAt, now < e := by
  unfold isActive
  cases r.expiresAt <;> simp

theorem FamilyInvite.accept_codeHash (r : FamilyInvite) (now : Datetime) :
    (r.accept now).codeHash = r.codeHash := by
  unfold accept
  split <;> rfl

theorem FamilyInvite.accept_id (r : FamilyInvite) (now : Datetime) : (r.accept now).id = r.id :=
  (r.accept_sameKeys now).id

/-- Invites have an identifier of their own. -/
theorem Store.inviteKey (d : Database) :
    Table.Unique (fun r => some (FamilyInvite.id r)) d.invites :=
  d.consistent.key .familyInvite

/-- Invites with the same digest are the same invite. -/
theorem Store.eq_of_codeHash (d : Database) {x y : FamilyInvite} (hx : x ∈ d.invites)
    (hy : y ∈ d.invites) (h : x.codeHash = y.codeHash) : x = y :=
  (d.consistent.unique .familyInvite (fun r => some (.inr r.codeHash))
    (List.mem_singleton.mpr rfl)).eq hx hy rfl (congrArg (fun k => some (Sum.inr k)) h.symm)

/-! ## The operations -/

section Operations

variable {s s' : Session Database}

/-- **What creating an invite returns and leaves.** -/
theorem InviteService.create_returns {familyId createdBy : UUID} {body : InviteCreate}
    {a : InviteResponse} (h : (create P env familyId createdBy body).Returns s a s') :
    expiry env body = .ok a.expiresAt ∧
      a = ⟨(env.newId .familyInvite).str, env.code, body.role, familyId.str, a.expiresAt⟩ ∧
      s'.working.rows = Schema.insert .familyInvite
        (newInvite P env familyId createdBy body a.expiresAt) s.working.rows := by
  obtain ⟨expiresAt, s₁, h₁, h₂⟩ := Tx.returns_bind.mp h
  obtain ⟨hexp, rfl⟩ := Tx.returns_lift.mp h₁
  obtain ⟨invite, h₃, rfl⟩ := Tx.returns_bind_pure.mp h₂
  obtain ⟨hc, d, hd, rfl⟩ := returns_add.mp h₃
  cases hc
  exact ⟨hexp, rfl, hd⟩

/-- **What deleting an invite leaves.** -/
theorem InviteService.revoke_returns {familyId inviteId : UUID}
    (h : (revoke familyId inviteId).Returns s () s') :
    (∃ i ∈ s.working.invites, i.id = inviteId ∧ i.familyId = familyId) ∧
      s'.working.rows = schema.delete .familyInvite inviteId s.working.rows := by
  rw [revoke, ← bind_assoc] at h
  obtain ⟨i, s₁, h₁, h₂⟩ := Tx.returns_bind.mp h
  obtain ⟨hmem, rfl, hfam, rfl⟩ := find_returns.mp h₁
  exact ⟨⟨i, hmem, rfl, hfam⟩, delete_change h₂⟩

/-- **An operation scoped to a family is the step its answer tells.** -/
theorem FamilyOp.inviteStep {f : UUID} {op : FamilyOp} {response : Response}
    (h : (op.run P env f).Returns s response s') :
    InviteStep P env s.working.invites (inviteAction P ((env, .family f op), .ok response))
      s'.working.invites := by
  by_cases ht : op.target = some .familyInvite
  · cases op <;> try (cases ht; done)
    case createInvite createdBy body =>
      obtain ⟨a, h₁, rfl⟩ := Tx.returns_bind_pure.mp h
      obtain ⟨hexp, -, hrows⟩ := InviteService.create_returns h₁
      show InviteStep P env _ _ (s'.working.rows .familyInvite)
      rw [hrows, Schema.insert_self]
      exact .created rfl rfl rfl
    case revokeInvite inviteId =>
      obtain ⟨a, h₁, rfl⟩ := Tx.returns_bind_pure.mp h
      obtain ⟨⟨i, hi, rfl, -⟩, hrows⟩ := InviteService.revoke_returns h₁
      show InviteStep P env _ _ (s'.working.rows .familyInvite)
      rw [hrows, Schema.delete_self]
      exact .revoked hi
  · have hrows := (FamilyOp.run_change h).rows_of_ne ht (by simp) (by simp)
    have hact : inviteAction P ((env, .family f op), .ok response) = none := by
      cases op <;> first
        | rfl
        | exact absurd rfl ht
    show InviteStep P env _ _ (s'.working.rows .familyInvite)
    rw [hrows, hact]
    exact .same

/-- **What a signup through an invite leaves**: the invite accepted as it is
now, and a member of its family in its role. -/
theorem AuthService.finishSignup_some_rows {body : SignupRequest} {invite : FamilyInvite}
    {a : IssuedTokens} (h : (finishSignup P env body (some invite)).Returns s a s') :
    ∃ cur ∈ s.working.invites, cur.id = invite.id ∧
      s'.working.invites
        = Table.replace FamilyInvite.id (cur.accept env.now) s.working.invites ∧
      s'.working.members
        = Table.insert s.working.members (newMember P env body cur.familyId cur.role false) ∧
      s'.working.families = s.working.families := by
  obtain ⟨cur, hcur, d₁, hd₁, h⟩ := finishSignup_some_returns.mp h
  obtain ⟨hmem, hid⟩ := Store.find_eq_some_iff.mp hcur
  obtain ⟨hmembers, hrest⟩ := register_rows h
  refine ⟨cur, hmem, hid, ?_, ?_, ?_⟩
  · rw [Database.invites, hrest .familyInvite (by simp) (by simp)]
    show d₁.rows .familyInvite = _
    rw [hd₁, Schema.replace_self]
    rfl
  · rw [hmembers]
    show Table.insert (d₁.rows .familyMember) _ = _
    rw [hd₁, Schema.replace_of_ne (by simp)]
  · rw [Database.families, hrest .family (by simp) (by simp)]
    show d₁.rows .family = _
    rw [hd₁, Schema.replace_of_ne (by simp)]

/-- A signup without an invite leaves the invites as they were. -/
theorem AuthService.finishSignup_none_invites {body : SignupRequest} {a : IssuedTokens}
    (h : (finishSignup P env body none).Returns s a s') :
    s'.working.invites = s.working.invites := by
  obtain ⟨d₁, hd₁, h⟩ := finishSignup_none_returns.mp h
  rw [Database.invites, (register_rows h).2 .familyInvite (by simp) (by simp)]
  show d₁.rows .familyInvite = _
  rw [hd₁, Schema.insert_of_ne (by simp)]

end Operations

/-! ## Requests -/

/-- An operation of `AuthService` other than a signup leaves the invites as
they were, however it ends. -/
theorem AuthOp.frame_invites {op : AuthOp} (h : ∀ body, op ≠ .signup body)
    {rows : List FamilyInvite} :
    Preserves (fun d : Database => d.rows .familyInvite = rows) (op.run P env) := by
  have hne : TableName.familyInvite ≠ .refreshToken := by simp
  have hissue : ∀ f m S, Preserves (fun d : Database => d.rows .familyInvite = rows)
      (RefreshTokenService.issue P env f m S) :=
    fun f m S => Preserves.bind (Preserves.of_reads (Reads.orRaise _ _))
      (fun _ => Preserves.bind (frame_add _ hne) (fun _ => Preserves.of_reads (Reads.pure _)))
  have hrevoke : ∀ S, Preserves (fun d : Database => d.rows .familyInvite = rows)
      (RefreshTokenRepository.revokeSession env S) :=
    fun S => Preserves.bind (Preserves.of_reads (reads_getMany _))
      (fun selected => RefreshTokenRepository.frame_revokeRows env selected hne)
  cases op with
  | signup body => exact absurd rfl (h body)
  | login body =>
    refine Preserves.bind ?_ (fun _ => Preserves.of_reads (Reads.pure _))
    refine Preserves.bind (Preserves.of_reads (reads_getOneOrNone _)) (fun member => ?_)
    cases member with
    | none => exact Preserves.of_reads (Reads.raise _)
    | some m =>
      refine Preserves.bind (Preserves.of_reads (Reads.lift _)) (fun ok => ?_)
      split
      · exact Preserves.bind (Preserves.of_reads (Reads.lift _)) (fun _ =>
          Preserves.bind (hissue _ _ _) (fun _ => Preserves.of_reads (Reads.pure _)))
      · exact Preserves.of_reads (Reads.raise _)
  | refresh raw =>
    refine Preserves.bind (Preserves.bind ?_
      (fun _ => Preserves.bind (Preserves.of_reads (Reads.lift _))
        (fun _ => Preserves.of_reads (Reads.pure _)))) (fun _ => Preserves.of_reads (Reads.pure _))
    refine Preserves.bind (Preserves.of_reads (reads_getOneOrNone _)) (fun found =>
      Preserves.bind (Preserves.of_reads (Reads.orRaise _ _)) (fun row => ?_))
    split
    · exact Preserves.bind (hrevoke _) (fun _ => Preserves.of_reads (Reads.raise _))
    · split
      · exact Preserves.of_reads (Reads.raise _)
      · exact Preserves.bind (frame_update _ hne) (fun _ => Preserves.bind (hissue _ _ _)
          (fun _ => Preserves.of_reads (Reads.pure _)))
  | logout raw =>
    refine Preserves.bind
      (Preserves.bind (Preserves.of_reads (reads_getOneOrNone _)) (fun found => ?_))
      (fun _ => Preserves.of_reads (Reads.pure _))
    cases found with
    | none => exact Preserves.of_reads (Reads.pure _)
    | some row => exact Preserves.bind (hrevoke _) (fun _ => Preserves.of_reads (Reads.pure _))

/-- **A signup that returns is the step its answer tells.** -/
theorem AuthService.signup_inviteStep {body : SignupRequest} {a : IssuedTokens}
    {s s' : Session Database} (h : (signup P env body).Returns s a s') :
    InviteStep P env s.working.invites
      (inviteAction P ((env, .auth (.signup body)), .ok (.tokens a))) s'.working.invites := by
  obtain ⟨invite, hbegin, hfinish⟩ := signup_returns.mp h
  rcases (beginSignup_returns.mp hbegin).2.2 with
    ⟨hcode, hf⟩ | ⟨code, i, hcode, hi, hactive, hhash, hf⟩
  · cases hf
    rw [finishSignup_none_invites hfinish, inviteAction, hcode]
    exact .same
  · cases hf
    obtain ⟨cur, hcur, hid, hinvites, -, -⟩ := finishSignup_some_rows hfinish
    obtain rfl : cur = i := s.working.inviteKey.eq hcur hi rfl (congrArg some hid.symm)
    rw [hinvites, inviteAction, hcode, Option.bind_some, hhash]
    exact .accepted hcur hactive

/-- A request that fails has done nothing to the invites. -/
theorem inviteAction_error (P : Platform) (env : Env) (req : Request) (e : Exn) :
    inviteAction P ((env, req), .error e) = none := by
  cases req with
  | auth op => cases op <;> rfl
  | family f op => cases op <;> rfl

/-- **Serving a request is the step its answer tells.** -/
theorem inviteStep_serve (P : Platform) (env : Env) (req : Request) (d : Database) :
    InviteStep P env d.invites (inviteAction P ((env, req), (serve P env req d).1))
      (serve P env req d).2.invites := by
  cases hs : serve P env req d with
  | mk r d' =>
    have hfailed : (∀ raw, req ≠ .auth (.refresh raw)) → ∀ e, r = .error e →
        InviteStep P env d.invites (inviteAction P ((env, req), r)) d'.invites := by
      rintro hne e rfl
      rw [(Request.clean_run_of_ne hne).serve hs id, inviteAction_error]
      exact .same
    have hother : ∀ op, req = .auth op → (∀ body, op ≠ .signup body) →
        InviteStep P env d.invites (inviteAction P ((env, req), r)) d'.invites := by
      rintro op rfl hop
      have hd : d'.invites = d.invites := by
        have hframe : (Tx.serve Exn.handled (op.run P env) d).2.invites = d.invites :=
          (AuthOp.frame_invites hop).serve rfl
        rw [show Tx.serve Exn.handled (op.run P env) d = (r, d') from hs] at hframe
        exact hframe
      have hact : inviteAction P ((env, .auth op), r) = none := by
        cases op with
        | signup body => exact absurd rfl (hop body)
        | _ => rfl
      rw [hd, hact]
      exact .same
    cases req with
    | family f op =>
      cases r with
      | error e => exact hfailed (fun _ h => by cases h) e rfl
      | ok response =>
        obtain ⟨s', hret, rfl⟩ := Tx.serve_ok_iff.mp hs
        exact FamilyOp.inviteStep hret
    | auth op =>
      cases op with
      | signup body =>
        cases r with
        | error e => exact hfailed (fun _ h => by cases h) e rfl
        | ok response =>
          obtain ⟨s', hret, rfl⟩ := Tx.serve_ok_iff.mp hs
          obtain ⟨a, h₁, rfl⟩ := Tx.returns_bind_pure.mp hret
          exact AuthService.signup_inviteStep h₁
      | login body => exact hother _ rfl (fun _ h => by cases h)
      | refresh raw => exact hother _ rfl (fun _ h => by cases h)
      | logout raw => exact hother _ rfl (fun _ h => by cases h)
