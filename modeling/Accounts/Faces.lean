import Accounts.Encodings
import Accounts.InviteRaces
import Accounts.References
import Accounts.TokenRaces

/-!
# The two faces

The internal face offers some of the operations and takes the family from
the path; the external face offers all but the context bundle and takes the
family – and, for an invite, the member who creates it – from the identity
of an access token. Access tokens are stateless: nothing is looked up when
one is presented, so what an identity is worth depends on what the request
that was answered with the token has left in the database.

It has left a refresh token of the same member and family, which no request
removes and which keeps the member from being deleted (`tokens_backed`).
With it, an operation of the external face is called by a member of its
family (`calledByMember`), and rows refer to rows of their own family.
-/

open Repository

variable {P : Platform} {env : Env} {d d' : Database}

/-! ## The operations of the faces -/

/-- **The operations of the internal face.** -/
def FamilyOp.internal : FamilyOp → Bool
  | context | createChild _ | updateChild _ _ | upsertReadingProfile _ _ | listReadingHistory _
  | addReadingHistory _ _ | updateReadingHistory _ _ _ | createMember _ | updateMember _ _
  | upsertProfile _ _ | createPolicy _ | updatePolicy _ _ => true
  | _ => false

/-- **The operations of the external face.** -/
def FamilyOp.external : FamilyOp → Bool
  | context => false
  | _ => true

/-- The member an operation records as its caller. -/
def FamilyOp.caller : FamilyOp → Option UUID
  | createInvite createdByMemberId _ => some createdByMemberId
  | _ => none

/-- `Identity`. -/
structure Identity where
  /-- The caller's family. -/
  familyId : String
  /-- The calling member. -/
  familyMemberId : String
  /-- A child; no resolver sets it. -/
  childId : Option String
deriving DecidableEq

/-- **The operation is one an identity can call**: the routes read the
family, and the caller where it is recorded, from the identity. -/
def Identity.Calls (i : Identity) (f : UUID) (op : FamilyOp) : Prop :=
  op.external = true ∧ UUID.ofString i.familyId = some f ∧
    (op.caller = none ∨ op.caller = UUID.ofString i.familyMemberId)

instance (i : Identity) (f : UUID) (op : FamilyOp) : Decidable (i.Calls f op) :=
  inferInstanceAs (Decidable (_ ∧ _ ∧ _))

/-- The identity that an issued access token stands for. -/
def IssuedTokens.identity (a : IssuedTokens) : Identity := ⟨a.familyId, a.familyMemberId, none⟩

/-- The tokens a completed request was answered with. -/
def answeredTokens (o : Completed Env Request Flight Exn Response) : Option IssuedTokens :=
  match o.outcome with
  | .ok (.tokens a) => some a
  | _ => none

/-- **A request of one of the two faces**: the internal face passes any
family, the external one the identity of a token issued earlier. -/
def FromFace (c : State) : Move Env Request → Prop
  | .start _ (.family f op) =>
    op.internal = true ∨ ∃ a ∈ c.log.filterMap answeredTokens, a.identity.Calls f op
  | _ => True

instance (c : State) : (m : Move Env Request) → Decidable (FromFace c m)
  | .start _ (.family _ _) => inferInstanceAs (Decidable (_ ∨ _))
  | .start _ (.auth _) | .finish _ _ => inferInstanceAs (Decidable True)

/-! ## What issued tokens leave -/

/-- A refresh token of the member and the family is stored. -/
def Backed (f m : UUID) (d : Database) : Prop :=
  ∃ r ∈ d.refreshTokens, r.familyId = f ∧ r.familyMemberId = m

/-- **What the answer of `signup`, `login` and `refresh` is worth**: the
access token is one `TokenService.issue` has signed for the identifiers in
the answer, and they are those of a stored refresh token. -/
structure IssuedTokens.Issued (P : Platform) (env : Env) (d : Database) (a : IssuedTokens) :
    Prop where
  /-- The access token is signed. -/
  signed : TokenService.issue P env a.familyId a.familyMemberId = .ok a.accessToken
  /-- The identifiers are those of a refresh token. -/
  backed : ∃ f m, a.familyId = f.str ∧ a.familyMemberId = m.str ∧ Backed f m d

section Issuing

variable {s s' : Session Database} {a : IssuedTokens}

theorem AuthService.issueTokens_issued {f m : UUID}
    (h : (issueTokens P env f m).Returns s a s') : a.Issued P env s'.working := by
  obtain ⟨access, exp, haccess, -, rfl, d, hd, rfl⟩ := issueTokens_returns.mp h
  refine ⟨haccess, f, m, rfl, rfl, RefreshTokenService.newToken P env f m env.sessionId exp, ?_,
    rfl, rfl⟩
  show _ ∈ d.rows .refreshToken
  rw [hd, Schema.insert_self]
  exact Table.mem_insert.mpr (Or.inr rfl)

theorem AuthService.finishSignup_issued {body : SignupRequest} {invite : Option FamilyInvite}
    (h : (finishSignup P env body invite).Returns s a s') : a.Issued P env s'.working := by
  cases invite with
  | none =>
    obtain ⟨_, -, hreg⟩ := finishSignup_none_returns.mp h
    obtain ⟨_, -, hi⟩ := register_returns.mp hreg
    exact issueTokens_issued hi
  | some invite =>
    obtain ⟨_, -, _, -, hreg⟩ := finishSignup_some_returns.mp h
    obtain ⟨_, -, hi⟩ := register_returns.mp hreg
    exact issueTokens_issued hi

theorem AuthService.finishRefresh_issued {row : RefreshToken}
    (h : (finishRefresh P env row).Returns s a s') : a.Issued P env s'.working := by
  obtain ⟨b, s₁, h₁, h₂⟩ := Tx.returns_bind.mp h
  obtain ⟨cur, exp, -, -, rfl, d, hd, rfl⟩ := RefreshTokenService.exchange_returns.mp h₁
  obtain ⟨access, s₂, h₃, hp⟩ := Tx.returns_bind.mp h₂
  obtain ⟨haccess, rfl⟩ := Tx.returns_lift.mp h₃
  obtain ⟨rfl, rfl⟩ := Tx.returns_pure.mp hp
  refine ⟨haccess, cur.familyId, cur.familyMemberId, rfl, rfl,
    RefreshTokenService.newToken P env cur.familyId cur.familyMemberId cur.sessionId exp, ?_,
    rfl, rfl⟩
  show _ ∈ d.rows .refreshToken
  rw [hd, Schema.insert_self]
  exact Table.mem_insert.mpr (Or.inr rfl)

/-- No operation of a family is answered with tokens. -/
theorem FamilyOp.run_not_tokens {f : UUID} {op : FamilyOp} :
    ¬ (op.run P env f).Returns s (.tokens a) s' := by
  intro h
  cases op <;>
    (obtain ⟨_, _, -, hp⟩ := Tx.returns_bind.mp h
     exact Response.noConfusion (Tx.returns_pure.mp hp).1)

/-- **A first step that is answered with tokens is a `login`.** -/
theorem Request.begin_tokens {req : Request}
    (h : (req.begin P env).Returns s (.inr (.tokens a)) s') : a.Issued P env s'.working := by
  cases req with
  | auth op =>
    cases op with
    | login body =>
      obtain ⟨r, h₁, hr⟩ := Tx.returns_bind_pure.mp h
      obtain ⟨a', s₂, hl, hp'⟩ := Tx.returns_bind.mp h₁
      obtain ⟨ha, rfl⟩ := Tx.returns_pure.mp hp'
      cases hr
      cases ha
      obtain ⟨m, -, hi⟩ := AuthService.login_returns hl
      exact AuthService.issueTokens_issued hi
    | signup body | refresh raw =>
      obtain ⟨_, _, -, hp⟩ := Tx.returns_bind.mp h
      exact absurd (Tx.returns_pure.mp hp).1 Sum.inr_ne_inl
    | logout raw =>
      obtain ⟨found, _, -, hp⟩ := Tx.returns_bind.mp h
      cases found with
      | none => exact Response.noConfusion (Sum.inr.inj (Tx.returns_pure.mp hp).1)
      | some flight => exact absurd (Tx.returns_pure.mp hp).1 Sum.inr_ne_inl
  | family f op =>
    exact absurd (Request.begin_family_done h).2 FamilyOp.run_not_tokens

end Issuing

/-! ## What stays -/

section Steps

variable {f m : UUID}

/-- A refresh token may be rewritten that keeps its keys. -/
theorem Backed.replace (h : Backed f m d) {r old : RefreshToken} (hold : old ∈ d.refreshTokens)
    (hid : r.id = old.id) (hf : r.familyId = old.familyId)
    (hm : r.familyMemberId = old.familyMemberId)
    (hd' : d'.rows .refreshToken = schema.replace .refreshToken r d.rows .refreshToken) :
    Backed f m d' := by
  obtain ⟨x, hx, rfl, rfl⟩ := h
  rw [Schema.replace_self] at hd'
  unfold Backed Database.refreshTokens
  rw [hd']
  by_cases hxid : x.id = old.id
  · obtain rfl : x = old := d.tokenKey.eq hx hold rfl (congrArg some hxid.symm)
    exact ⟨r, Table.mem_replace.mpr (Or.inl ⟨rfl, x, hx, hid.symm⟩), hf, hm⟩
  · exact ⟨x, Table.mem_replace.mpr (Or.inr ⟨hx, fun h => hxid (h.trans hid)⟩), rfl, rfl⟩

/-- A refresh token may be added. -/
theorem Backed.opens (h : Backed f m d) (ho : Opens P env d.refreshTokens d'.refreshTokens) :
    Backed f m d' := by
  obtain ⟨x, hx, hxf, hxm⟩ := h
  unfold Backed
  rcases ho with ho | ⟨_, _, _, -, ho⟩
  · exact ⟨x, ho ▸ hx, hxf, hxm⟩
  · exact ⟨x, ho ▸ Table.mem_insert.mpr (Or.inl hx), hxf, hxm⟩

/-- **No second step removes a refresh token.** -/
theorem Flight.finish_backed {flight : Flight} {r : Except Exn Response} (h : Backed f m d)
    (hs : Tx.serve Exn.handled (flight.finish P env) d = (r, d')) : Backed f m d' := by
  have hrevoked : ∀ (e : Env) (rows : List RefreshToken),
      Tx.Preserves (Backed f m) (RefreshTokenRepository.revokeRows e rows) := fun e rows =>
    RefreshTokenRepository.preserves_revokeRows e rows
      (fun _ _ old hold hd' hb => hb.replace (r := old.revoke e.now) hold rfl rfl rfl
        (congrFun hd' _))
  by_cases hrev : flight.revocation = none
  · by_cases hex : flight.exchanges = none
    · exact h.opens (finish_opens hex hrev hs)
    · obtain ⟨row, hrow⟩ := Option.ne_none_iff_exists'.mp hex
      obtain rfl := Flight.eq_exchange hrow
      cases r with
      | error e => rwa [finish_error rfl hs]
      | ok response =>
        obtain ⟨cur, exp, hcur, hd'⟩ := finish_exchange hs
        obtain ⟨hmem, -⟩ := Store.find_eq_some_iff.mp hcur
        -- the token is consumed, then its successor is added
        have h₁ : Backed f m ⟨_, d.consistent.replace hmem (cur.consume_sameKeys env.now)⟩ :=
          h.replace (r := cur.consume env.now) hmem rfl rfl rfl rfl
        obtain ⟨x, hx, hxf, hxm⟩ := h₁
        refine ⟨x, ?_, hxf, hxm⟩
        show x ∈ d'.rows .refreshToken
        rw [hd']
        exact Schema.mem_insert_of_mem hx
  · have hd : (Tx.serve Exn.handled (flight.finish P env) d).2 = d' := congrArg Prod.snd hs
    rw [← hd]
    cases flight with
    | reuse now sessionId rows =>
      exact ((hrevoked _ rows).bind (fun _ => Tx.Preserves.of_reads (Tx.Reads.raise _))).serve h
    | logout now sessionId rows =>
      exact ((hrevoked _ rows).bind (fun _ => Tx.Preserves.of_reads (Tx.Reads.pure _))).serve h
    | _ => exact absurd rfl hrev

/-- **A second step that is answered with tokens has issued them.** -/
theorem Flight.finish_tokens {flight : Flight} {a : IssuedTokens}
    (hs : Tx.serve Exn.handled (flight.finish P env) d = (.ok (.tokens a), d')) :
    a.Issued P env d' := by
  obtain ⟨s', hret, rfl⟩ := Tx.serve_ok_iff.mp hs
  cases flight with
  | exchange row =>
    obtain ⟨a', h₁, ha⟩ := Tx.returns_bind_pure.mp hret
    cases ha
    exact AuthService.finishRefresh_issued h₁
  | signup body invite =>
    obtain ⟨a', h₁, ha⟩ := Tx.returns_bind_pure.mp hret
    cases ha
    exact AuthService.finishSignup_issued h₁
  | reuse now sessionId rows =>
    obtain ⟨_, _, -, hr⟩ := Tx.returns_bind.mp hret
    exact absurd hr Tx.returns_raise
  | logout now sessionId rows | revokeInvite invite | createMember familyId body
  | upsertProfile memberId body profile =>
    obtain ⟨_, _, -, hp⟩ := Tx.returns_bind.mp hret
    exact Response.noConfusion (Tx.returns_pure.mp hp).1

end Steps

theorem answeredTokens_eq_some {o : Completed Env Request Flight Exn Response} {a : IssuedTokens} :
    answeredTokens o = some a ↔ o.outcome = .ok (.tokens a) := by
  unfold answeredTokens
  constructor
  · intro h
    split at h
    · next heq =>
      cases h
      exact heq
    · cases h
  · intro h
    rw [h]

/-- **Issued tokens stay backed**, in any interleaving of any requests: the
access token is one that was signed, and a refresh token of its member and
family is stored. -/
theorem tokens_backed (P : Platform) (ms : List (Move Env Request)) :
    ∀ o ∈ ((concurrentService P).system.run idle ms).log, ∀ a, answeredTokens o = some a →
      a.Issued P o.env ((concurrentService P).system.run idle ms).shared := by
  -- the part of the invariant that a step has to keep
  have hkeep : ∀ {d d' : Database} {log : List (Completed Env Request Flight Exn Response)},
      (∀ f m, Backed f m d → Backed f m d') →
      (∀ o ∈ log, ∀ a, answeredTokens o = some a → a.Issued P o.env d) →
      ∀ o ∈ log, ∀ a, answeredTokens o = some a → a.Issued P o.env d' := by
    intro d d' log hb h o ho a ha
    obtain ⟨hsigned, f, m, hf, hm, hback⟩ := h o ho a ha
    exact ⟨hsigned, f, m, hf, hm, hb f m hback⟩
  have hadd : ∀ {d : Database} {log : List (Completed Env Request Flight Exn Response)}
      {o : Completed Env Request Flight Exn Response},
      (∀ o ∈ log, ∀ a, answeredTokens o = some a → a.Issued P o.env d) →
      (∀ a, answeredTokens o = some a → a.Issued P o.env d) →
      ∀ o' ∈ log ++ [o], ∀ a, answeredTokens o' = some a → a.Issued P o'.env d := by
    intro d log o h ho o' ho'
    rcases List.mem_append.mp ho' with h' | h'
    · exact h o' h'
    · rw [List.mem_singleton.mp h']
      exact ho
  refine ((concurrentService P).run_invariant
    (G := fun d log => ∀ o ∈ log, ∀ a, answeredTokens o = some a → a.Issued P o.env d)
    (L := fun _ _ => True) ?_ ?_ ⟨by rintro o ⟨⟩, fun _ _ => trivial⟩
    ((concurrentService P).system.every_of_forall (P := fun _ => True) _ (fun _ _ => trivial))).1
  · rintro c env req ⟨hG, -⟩ -
    refine ⟨fun d l hf => ?_, fun d o hf => ?_⟩
    · exact ⟨hkeep (fun f m hb => hb.opens (first_opens hf)) hG, trivial, fun _ _ => trivial⟩
    · refine ⟨hadd (hkeep (fun f m hb => hb.opens (first_opens hf)) hG) (fun a ha => ?_),
        fun _ _ => trivial⟩
      obtain ⟨rfl, -, hs⟩ := TwoStep.ofPhases_first_done hf
      rw [answeredTokens_eq_some.mp ha] at hs
      obtain ⟨s', hret, rfl⟩ := Tx.serve_ok_iff.mp hs
      exact Request.begin_tokens hret
  · rintro c env k l ⟨hG, -⟩ - - d o hf
    obtain ⟨rfl, -, hs⟩ := TwoStep.ofPhases_second hf
    refine ⟨hadd (hkeep (fun f m hb => Flight.finish_backed hb hs) hG) (fun a ha => ?_),
      fun _ _ => trivial⟩
    rw [answeredTokens_eq_some.mp ha] at hs
    exact Flight.finish_tokens hs

/-! ## The faces only call by members -/

/-- **A member is there whose refresh token is.** -/
theorem Backed.member {f m : UUID} (h : Backed f m d) (href : FamilyReferences d.rows) :
    ∃ r ∈ d.members, r.id = m ∧ r.familyId = f := by
  obtain ⟨t, ht, rfl, rfl⟩ := h
  obtain ⟨r, hr, hid, hown⟩ :=
    href t.familyId .refreshToken t ht rfl _ List.mem_cons_self t.familyMemberId rfl
  exact ⟨r, hr, hid, Option.some.inj hown⟩

/-- **Operations of the two faces are called by members of their family**,
where the operation records who called it. -/
theorem calledByMember {ms : List (Move Env Request)}
    (h : (concurrentService P).system.Every FromFace idle ms) :
    (concurrentService P).system.Every CalledByMember idle ms := by
  induction ms using List.reverseRecOn with
  | nil => trivial
  | append_singleton ms move ih =>
    obtain ⟨hms, hmove, -⟩ := ((concurrentService P).system.every_append _ _ _ _).mp h
    refine ((concurrentService P).system.every_append _ _ _ _).mpr ⟨ih hms, ?_, trivial⟩
    have href := Reachable.familyReferences ⟨ms, ih hms, rfl⟩
    generalize hc : (concurrentService P).system.run idle ms = c at hmove href ⊢
    cases move with
    | finish env k => trivial
    | start env req =>
      cases req with
      | auth op => trivial
      | family f op =>
        cases op with
        | createInvite createdBy body =>
          rcases hmove with hint | ⟨a, ha, -, hfam, hcaller⟩
          · exact absurd hint Bool.false_ne_true
          · obtain ⟨o, ho, hoa⟩ := List.mem_filterMap.mp ha
            obtain ⟨-, g, m, hg, hm, hb⟩ := tokens_backed P ms o (hc ▸ ho) a hoa
            rw [hc] at hb
            -- the identity is read as the identifiers that were written into it
            have hf : UUID.ofString a.familyId = some f := hfam
            have hcr : some createdBy = UUID.ofString a.familyMemberId :=
              hcaller.resolve_left (Option.some_ne_none _)
            rw [hg, UUID.ofString_str] at hf
            rw [hm, UUID.ofString_str] at hcr
            obtain rfl := Option.some.inj hf
            obtain rfl := Option.some.inj hcr
            exact hb.member href
        | _ => trivial

/-! ## Who created an invite -/

/-- **An invite names the member who has created it.** -/
def InvitesNamed (t : List FamilyInvite) : Prop := ∀ i ∈ t, i.createdByMemberId ≠ none

/-- Accepting an invite leaves who has created it. -/
theorem InvitesNamed.accept {t : List FamilyInvite} (h : InvitesNamed t) {cur : FamilyInvite}
    (hcur : cur ∈ t) (now : Datetime) :
    InvitesNamed (Table.replace FamilyInvite.id (cur.accept now) t) := by
  intro i hi
  rcases Table.mem_replace.mp hi with ⟨rfl, -⟩ | ⟨hi, -⟩
  · rw [show (cur.accept now).createdByMemberId = cur.createdByMemberId from
      (cur.accept_sameKeys now).reference _ (List.mem_cons_of_mem _ List.mem_cons_self)]
    exact h cur hcur
  · exact h i hi

/-- A step of the table of invites leaves who has created them, if a new
invite names a member. -/
theorem InvitesNamed.step {t t' : List FamilyInvite} {a : Option InviteAction}
    (h : InvitesNamed t) (hs : InviteStep P env t a t')
    (hnew : ∀ i, a = some (.created i) → i.createdByMemberId ≠ none) : InvitesNamed t' := by
  cases hs with
  | same => exact h
  | created =>
    intro i hi
    rcases Table.mem_insert.mp hi with hi | rfl
    · exact h i hi
    · exact hnew i rfl
  | revoked => exact fun i hi => h i (Table.mem_delete.mp hi).1
  | accepted hcur => exact h.accept hcur env.now

/-- A created invite names a member. -/
theorem inviteAction_named {f : UUID} {op : FamilyOp} {response : Response} {i : FamilyInvite}
    (h : inviteAction P ((env, .family f op), .ok response) = some (.created i)) :
    i.createdByMemberId ≠ none := by
  unfold inviteAction at h
  split at h
  · cases h
    exact Option.some_ne_none _
  · cases h
  · next heq => cases heq
  · cases h

/-- **No second step leaves an invite without the member who created it.** -/
theorem Flight.finish_invitesNamed {flight : Flight} {r : Except Exn Response}
    (h : InvitesNamed d.invites)
    (hs : Tx.serve Exn.handled (flight.finish P env) d = (r, d')) : InvitesNamed d'.invites := by
  cases hred : flight.redeems with
  | some invite =>
    obtain ⟨body, rfl⟩ := Flight.eq_signup hred
    rcases finish_redeems hs with ⟨-, rfl⟩ | ⟨_, -, cur, hcur, -, hinv, -⟩
    · exact h
    · rw [hinv]
      exact h.accept hcur env.now
  | none =>
    by_cases hdel : ∃ invite, flight = .revokeInvite invite
    · obtain ⟨invite, rfl⟩ := hdel
      cases r with
      | error e => rwa [finish_error rfl hs]
      | ok response =>
        intro i hi
        rw [Database.invites, (finish_revokeInvite hs).2] at hi
        exact h i (Schema.mem_of_mem_delete (T := .familyInvite) (t := d.rows) hi)
    · rwa [finish_invites hred (fun invite hf => hdel ⟨invite, hf⟩) hs]

/-- **In every interleaving, every invite names the member who created
it.** -/
theorem invitesNamed_run (P : Platform) (ms : List (Move Env Request)) :
    InvitesNamed ((concurrentService P).system.run idle ms).shared.invites := by
  refine ((concurrentService P).run_invariant
    (G := fun d _ => InvitesNamed d.invites) (L := fun _ _ => True) ?_ ?_
    ⟨by rintro i ⟨⟩, fun _ _ => trivial⟩
    ((concurrentService P).system.every_of_forall (P := fun _ => True) _ (fun _ _ => trivial))).1
  · rintro c env req ⟨hG, -⟩ -
    have hstep : ∀ d r, (concurrentService P).first env req c.shared = (d, r) →
        InvitesNamed d.invites := by
      intro d r hf
      rcases first_cases hf with rfl | ⟨s', rfl, ⟨body, a, -, hl⟩ | ⟨f, op, response, -, -, hop⟩⟩
      · exact hG
      · obtain ⟨m, -, hi⟩ := AuthService.login_returns hl
        rw [show s'.working.invites = c.shared.invites from
          AuthService.issueTokens_rows hi (by simp)]
        exact hG
      · exact InvitesNamed.step hG (FamilyOp.inviteStep hop) (fun i hi => inviteAction_named hi)
    exact ⟨fun d l hf => ⟨hstep d _ hf, trivial, fun _ _ => trivial⟩,
      fun d o hf => ⟨hstep d _ hf, fun _ _ => trivial⟩⟩
  · rintro c env k l ⟨hG, -⟩ - - d o hf
    obtain ⟨-, -, hs⟩ := TwoStep.ofPhases_second hf
    exact ⟨Flight.finish_invitesNamed hG hs, fun _ _ => trivial⟩

/-! ## References never cross families -/

/-- **Stored references never cross families.** In every interleaving of
requests of the two faces, the child of a policy is a child of the policy's
family, the member who created an invite one of the invite's, and the
member of a refresh token one of the token's. -/
theorem stored_references_within_family (P : Platform) (ms : List (Move Env Request))
    (hfaces : (concurrentService P).system.Every FromFace idle ms) :
    (∀ p ∈ ((concurrentService P).system.run idle ms).shared.policies, ∀ k ∈ p.childId,
      ∃ c ∈ ((concurrentService P).system.run idle ms).shared.children,
        c.id = k ∧ c.familyId = p.familyId) ∧
    (∀ i ∈ ((concurrentService P).system.run idle ms).shared.invites,
      ∃ m ∈ ((concurrentService P).system.run idle ms).shared.members,
        i.createdByMemberId = some m.id ∧ m.familyId = i.familyId) ∧
    ∀ t ∈ ((concurrentService P).system.run idle ms).shared.refreshTokens,
      ∃ m ∈ ((concurrentService P).system.run idle ms).shared.members,
        m.id = t.familyMemberId ∧ m.familyId = t.familyId := by
  have href := Reachable.familyReferences ⟨ms, calledByMember hfaces, rfl⟩
  have hnamed := invitesNamed_run P ms
  generalize ((concurrentService P).system.run idle ms).shared = d at href hnamed ⊢
  refine ⟨fun p hp k hk => ?_, fun i hi => ?_, fun t ht => ?_⟩
  · obtain ⟨c, hc, hid, hown⟩ :=
      href p.familyId .familyReadingPolicy p hp rfl _ List.mem_cons_self k hk
    exact ⟨c, hc, hid, Option.some.inj hown⟩
  · obtain ⟨k, hk⟩ := Option.ne_none_iff_exists'.mp (hnamed i hi)
    obtain ⟨m, hm, hid, hown⟩ :=
      href i.familyId .familyInvite i hi rfl _ List.mem_cons_self k hk
    exact ⟨m, hm, hk.trans (congrArg some hid.symm), Option.some.inj hown⟩
  · exact Backed.member ⟨t, ht, rfl, rfl⟩ href

/-- A family is founded, and an invite created by its member. -/
theorem stored_references_within_family_invite :
    let ms : List (Move Env Request) := [
      .start (Sample.env 1 (Sample.second 0))
        (.auth (.signup (Sample.signup "ada@example.org" none))),
      .finish (Sample.env 1 (Sample.second 0)) 0,
      .start (Sample.env 2 (Sample.second 60)) (.family 1 (.createInvite 1 ⟨"member", some 72⟩))]
    let d := ((concurrentService (Sample.platform 2592000)).system.run idle ms).shared
    ∃ i ∈ d.invites, ∃ m ∈ d.members,
      i.createdByMemberId = some m.id ∧ m.familyId = i.familyId := by
  intro ms d
  obtain ⟨i, hi⟩ : ∃ i, i ∈ d.invites := List.exists_mem_of_ne_nil _ (by decide +kernel)
  exact ⟨i, hi, (stored_references_within_family (Sample.platform 2592000) ms
    (by decide +kernel)).2.1 i hi⟩
