import Accounts.Credentials
import Accounts.Isolation
import Accounts.Lineage
import Accounts.Registrations
import Accounts.Restriction

/-!
# The family a request concerns

An operation of a family names it. A login concerns the family of the
member it finds, a refresh or a logout the family of the token, a signup
with a code the family of the invite, and one without a code the family it
is about to found. A request concerns at most one family
(`Request.Concerns.eq`), and one that concerns none is refused, or has
nothing to do.

Both steps of a request that concerns the family are local to it, and
neither step of one that does not touches its slice.
-/

open Repository Tx

variable {P : Platform} {env : Env} {f g : UUID} {d e : Database}

/-! ## Requests -/

/-- **The family a signup leads into**: that of the invite with its code, or
a new one. -/
def SignupRequest.LeadsInto (P : Platform) (env : Env) (f : UUID) (d : Database)
    (body : SignupRequest) : Prop :=
  match body.inviteCode with
  | none => env.newId .family = f
  | some code => ∃ i ∈ d.invites, InviteCodec.hash P code = .ok i.codeHash ∧ i.familyId = f

instance (P : Platform) (env : Env) (f : UUID) (d : Database) (body : SignupRequest) :
    Decidable (body.LeadsInto P env f d) := by
  unfold SignupRequest.LeadsInto
  cases body.inviteCode <;> infer_instance

/-- **The request concerns the family**, in the state it is met in. -/
def Request.Concerns (P : Platform) (env : Env) (f : UUID) (d : Database) : Request → Prop
  | family g _ => g = f
  | auth (.signup body) => body.LeadsInto P env f d
  | auth (.login body) => ∃ m ∈ d.members, m.email = some body.email ∧ m.familyId = f
  | auth (.refresh raw) | auth (.logout raw) =>
    ∃ r ∈ d.refreshTokens, r.tokenHash = RefreshTokenCodec.hash P raw ∧ r.familyId = f

instance (P : Platform) (env : Env) (f : UUID) (d : Database) (req : Request) :
    Decidable (req.Concerns P env f d) :=
  match req with
  | .family g _ => inferInstanceAs (Decidable (g = f))
  | .auth (.signup body) => inferInstanceAs (Decidable (body.LeadsInto P env f d))
  | .auth (.login _) => inferInstanceAs (Decidable (∃ m ∈ d.members, _ ∧ _))
  | .auth (.refresh _) | .auth (.logout _) =>
    inferInstanceAs (Decidable (∃ r ∈ d.refreshTokens, _ ∧ _))

/-- Invites with the same digest are the same invite. -/
theorem FamilyInvite.eq_of_codeHash {i j : FamilyInvite} (hi : i ∈ d.invites) (hj : j ∈ d.invites)
    (h : i.codeHash = j.codeHash) : i = j :=
  d.atMostOne_of_unique (T := .familyInvite) (u := fun r => some (.inr r.codeHash))
    (p := fun r => decide (r.codeHash = j.codeHash)) (List.mem_singleton.mpr rfl)
    (k := .inr j.codeHash) (fun r hr => by simpa using hr) i hi j hj (decide_eq_true h)
    (decide_eq_true rfl)

/-- Members with the same email are the same member. -/
theorem FamilyMember.eq_of_email {m n : FamilyMember} {email : String} (hm : m ∈ d.members)
    (hn : n ∈ d.members) (hme : m.email = some email) (hne : n.email = some email) : m = n :=
  FamilyMember.atMostOne_email email d m hm n hn (decide_eq_true hme) (decide_eq_true hne)

/-- A signup leads into one family. -/
theorem SignupRequest.LeadsInto.eq {body : SignupRequest} (hf : body.LeadsInto P env f d)
    (hg : body.LeadsInto P env g d) : f = g := by
  unfold LeadsInto at hf hg
  cases hcode : body.inviteCode with
  | none =>
    rw [hcode] at hf hg
    exact hf.symm.trans hg
  | some code =>
    rw [hcode] at hf hg
    obtain ⟨i, hi, hih, rfl⟩ := hf
    obtain ⟨j, hj, hjh, rfl⟩ := hg
    rw [FamilyInvite.eq_of_codeHash hi hj (Except.ok.inj (hih.symm.trans hjh))]

/-- **A request concerns at most one family.** -/
theorem Request.Concerns.eq {req : Request} (hf : req.Concerns P env f d)
    (hg : req.Concerns P env g d) : f = g := by
  cases req with
  | family k op => exact hf.symm.trans hg
  | auth op =>
    cases op with
    | signup body => exact SignupRequest.LeadsInto.eq hf hg
    | login body =>
      obtain ⟨m, hm, hme, rfl⟩ := hf
      obtain ⟨n, hn, hne, rfl⟩ := hg
      rw [FamilyMember.eq_of_email hm hn hme hne]
    | refresh raw | logout raw =>
      obtain ⟨x, hx, hxh, rfl⟩ := hf
      obtain ⟨y, hy, hyh, rfl⟩ := hg
      rw [RefreshTokenService.eq_of_tokenHash hx hy (hxh.trans hyh.symm)]

/-! ## Requests in flight -/

/-- The requests that may be left in flight. -/
def Request.twoSteps : Request → Bool
  | auth (.login _) => false
  | auth _ => true
  | family _ op => !op.oneStep

/-- A request that is left in flight is one of them. -/
theorem Request.twoSteps_of_begin {req : Request} {s s' : Session Database} {flight : Flight}
    (h : (req.begin P env).Returns s (.inl flight) s') : req.twoSteps = true := by
  cases req with
  | auth op =>
    cases op with
    | login body => exact absurd h Request.not_returns_inl
    | _ => rfl
  | family g op =>
    cases hop : op.oneStep with
    | true =>
      rw [Request.begin_oneStep hop] at h
      exact absurd h Request.not_returns_inl
    | false => rw [twoSteps, hop, Bool.not_false]

/-- **What the request in flight remembers are rows of the family.** -/
def Flight.Within (f : UUID) (d : Database) : Flight → Prop
  | exchange row => row ∈ d.refreshTokens ∧ row.familyId = f
  | reuse _ _ rows | logout _ _ rows => ∀ r ∈ rows, r ∈ d.refreshTokens ∧ r.familyId = f
  | signup _ invite => ∀ i ∈ invite, i ∈ d.invites ∧ i.familyId = f
  | revokeInvite invite => invite ∈ d.invites ∧ invite.familyId = f
  | createMember g _ => g = f
  | upsertProfile memberId _ profile => (∃ m ∈ d.members, m.id = memberId ∧ m.familyId = f) ∧
      ∀ r ∈ profile, r ∈ d.memberProfiles ∧ r.memberId = memberId

/-- The request in flight founds no family but this one. -/
def Flight.FoundsOnly (env : Env) (f : UUID) (flight : Flight) : Prop :=
  ∀ body, flight = .signup body none → env.newId .family = f

/-- The request in flight registers the email. -/
def Flight.RegistersEmail (email : String) : Flight → Prop
  | signup body _ => body.email = email
  | createMember _ body => body.email = some email
  | _ => False

/-- **What a request has left in flight**, for a family: the request concerns
the family, and what is left to do is about it and no other. -/
structure Flight.LeftBy (P : Platform) (env : Env) (f : UUID) (d : Database) (req : Request)
    (flight : Flight) : Prop where
  /-- The request concerns the family. -/
  concerns : req.Concerns P env f d
  /-- What it remembers are rows of the family. -/
  within : flight.Within f d
  /-- It founds no other family. -/
  founds : flight.FoundsOnly env f
  /-- It registers no email but that of the request. -/
  registers : ∀ email, flight.RegistersEmail email → req.RegistersEmail email

/-- The unrevoked tokens of the session of a token of the family are the
family's. -/
theorem Lineages.familyId_unrevoked (hl : Lineages d.refreshTokens) {row : RefreshToken}
    (hrow : row ∈ d.refreshTokens) : ∀ r ∈ d.refreshTokens.filter
      (fun r => r.revokedAt = none && r.sessionId = row.sessionId),
      r ∈ d.refreshTokens ∧ r.familyId = row.familyId := by
  intro r hr
  obtain ⟨hmem, hr⟩ := List.mem_filter.mp hr
  exact ⟨hmem, (hl.one_member r hmem row hrow (by simpa using (Bool.and_eq_true_iff.mp hr).2)).1⟩

/-- **What a first step leaves in flight** is about one family, that of what
it remembers. -/
theorem Request.begin_leaves {req : Request} {s s' : Session Database} {flight : Flight}
    (hl : Lineages s.working.refreshTokens) (h : (req.begin P env).Returns s (.inl flight) s') :
    ∃ f, flight.LeftBy P env f s.working req := by
  cases req with
  | auth op =>
    cases op with
    | login body => exact absurd h Request.not_returns_inl
    | refresh raw =>
      obtain ⟨flight', h, hf⟩ := Tx.returns_bind_pure.mp h
      cases hf
      rw [RefreshTokenService.beginRotate, RefreshTokenRepository.getByTokenHash_eq_read] at h
      obtain ⟨found, s₁, h₁, h⟩ := Tx.returns_bind.mp h
      obtain ⟨rfl, rfl⟩ := Tx.returns_read.mp h₁
      obtain ⟨row, s₂, h₂, hrest⟩ := Tx.returns_bind.mp h
      obtain ⟨hrow, rfl⟩ := Tx.returns_orRaise.mp h₂
      obtain ⟨hmem, hhash⟩ := RefreshTokenService.find_tokenHash.mp hrow
      refine ⟨row.familyId, ?_⟩
      rcases Tx.returns_ite.mp hrest with ⟨-, hused⟩ | ⟨-, hlive⟩
      · obtain ⟨rows, s₃, h₃, hp⟩ := Tx.returns_bind.mp hused
        obtain ⟨rfl, rfl⟩ := RefreshTokenRepository.unrevokedOfSession_returns.mp h₃
        obtain ⟨rfl, -⟩ := Tx.returns_pure.mp hp
        exact ⟨⟨row, hmem, hhash, rfl⟩, hl.familyId_unrevoked hmem, fun _ hb => (by cases hb),
          fun _ he => he.elim⟩
      · rcases Tx.returns_ite.mp hlive with ⟨-, hr⟩ | ⟨-, hp⟩
        · exact absurd hr Tx.returns_raise
        · obtain ⟨rfl, -⟩ := Tx.returns_pure.mp hp
          exact ⟨⟨row, hmem, hhash, rfl⟩, ⟨hmem, rfl⟩, fun _ hb => (by cases hb),
            fun _ he => he.elim⟩
    | logout raw =>
      obtain ⟨found, s₁, h, hp⟩ := Tx.returns_bind.mp h
      cases found with
      | none => exact absurd (Tx.returns_pure.mp hp).1 (by simp)
      | some flight' =>
        obtain ⟨hf, rfl⟩ := Tx.returns_pure.mp hp
        cases hf
        rw [RefreshTokenService.beginRevoke, RefreshTokenRepository.getByTokenHash_eq_read] at h
        obtain ⟨found, s₂, h₁, h⟩ := Tx.returns_bind.mp h
        obtain ⟨hfound, rfl⟩ := Tx.returns_read.mp h₁
        cases found with
        | none => exact absurd (Tx.returns_pure.mp h).1 (by simp)
        | some row =>
          obtain ⟨hmem, hhash⟩ := RefreshTokenService.find_tokenHash.mp hfound.symm
          obtain ⟨rows, s₃, h₃, hp⟩ := Tx.returns_bind.mp h
          obtain ⟨rfl, rfl⟩ := RefreshTokenRepository.unrevokedOfSession_returns.mp h₃
          obtain ⟨hf, -⟩ := Tx.returns_pure.mp hp
          cases hf
          exact ⟨row.familyId, ⟨row, hmem, hhash, rfl⟩, hl.familyId_unrevoked hmem,
            fun _ hb => (by cases hb), fun _ he => he.elim⟩
    | signup body =>
      obtain ⟨flight', h, hf⟩ := Tx.returns_bind_pure.mp h
      cases hf
      obtain ⟨-, -, ⟨hcode, rfl⟩ | ⟨code, invite, hcode, hmem, -, hhash, rfl⟩⟩ :=
        AuthService.beginSignup_returns.mp h
      · exact ⟨env.newId .family, by rw [Concerns, SignupRequest.LeadsInto, hcode],
          by simp [Flight.Within], fun _ _ => rfl, fun _ he => he⟩
      · refine ⟨invite.familyId, ?_, ?_, fun _ hb => (by cases hb), fun _ he => he⟩
        · rw [Concerns, SignupRequest.LeadsInto, hcode]
          exact ⟨invite, hmem, hhash, rfl⟩
        · rintro _ ⟨⟩
          exact ⟨hmem, rfl⟩
  | family f op =>
    refine ⟨f, ?_⟩
    cases hop : op.oneStep with
    | true =>
      rw [Request.begin_oneStep hop] at h
      exact absurd h Request.not_returns_inl
    | false =>
      cases op <;> try exact Bool.noConfusion hop
      case createMember body =>
        obtain ⟨_, -, hf⟩ := Tx.returns_bind_pure.mp h
        cases hf
        exact ⟨rfl, rfl, fun _ hb => (by cases hb), fun _ he => he⟩
      case upsertProfile memberId body =>
        obtain ⟨profile, hfind, hf⟩ := Tx.returns_bind_pure.mp h
        cases hf
        obtain ⟨m, s₁, h₁, h₂⟩ := Tx.returns_bind.mp hfind
        obtain ⟨hm, hid, hfam, rfl⟩ := MemberService.require_returns.mp h₁
        rw [FamilyMemberProfileRepository.getByMember_eq_read] at h₂
        obtain ⟨rfl, -⟩ := Tx.returns_read.mp h₂
        refine ⟨rfl, ⟨⟨m, hm, hid, hfam⟩, fun r hr => ?_⟩, fun _ hb => (by cases hb),
          fun _ he => he.elim⟩
        exact ⟨List.mem_of_find?_eq_some hr, by simpa using List.find?_some hr⟩
      case revokeInvite inviteId =>
        rw [Request.begin, ← bind_assoc] at h
        obtain ⟨invite, hfind, hf⟩ := Tx.returns_bind_pure.mp h
        cases hf
        obtain ⟨hmem, -, hfam, -⟩ := InviteService.find_returns.mp hfind
        exact ⟨rfl, ⟨hmem, hfam⟩, fun _ hb => (by cases hb), fun _ he => he.elim⟩

/-! ## Second steps of the family -/

section Tokens

variable (h : Restricts f d e) (hid : ∀ x ∈ d.refreshTokens, x.id ≠ env.newId .refreshToken)
  (htoken : ∀ x ∈ d.refreshTokens, x.tokenHash ≠ RefreshTokenCodec.hash P env.token)
include h hid htoken

/-- A token is issued to a member of the family. -/
theorem RefreshTokenService.local_issue {memberId : UUID}
    (hm : ∃ m ∈ d.members, m.id = memberId ∧ m.familyId = f) (sessionId : Option UUID) :
    Local f d e (issue P env f memberId sessionId) := by
  refine (Sees.orRaise (Q := fun _ => True) _ (fun _ _ => trivial)).bind (fun exp _ => ?_)
  have hown : Owns d.rows f .refreshToken
      (newToken P env f memberId (sessionId.getD env.sessionId) exp) := rfl
  refine Local.map (h.local_add hown hid (fun u hu k hk x hx hxk => ?_)
    (fun p hp k hk y hy hyk => ?_)) (fun _ => env.token)
  · obtain rfl := List.mem_singleton.mp hu
    obtain rfl := Option.some.inj hk
    exact absurd (Sum.inr.inj (Option.some.inj hxk)) (htoken x hx)
  · obtain rfl := List.mem_singleton.mp hp
    obtain rfl := Option.some.inj hk
    obtain ⟨m, hm, hmid, hfam⟩ := hm
    obtain rfl : y = m := d.consistent.eq_of_id (T := .familyMember) hy hm (hyk.trans hmid.symm)
    exact congrArg some hfam

theorem AuthService.local_issueTokens {memberId : UUID}
    (hm : ∃ m ∈ d.members, m.id = memberId ∧ m.familyId = f) :
    Local f d e (issueTokens P env f memberId) :=
  (Sees.lift _).bind (fun _ _ =>
    (RefreshTokenService.local_issue h hid htoken hm none).map _)

theorem AuthService.local_register {body : SignupRequest}
    (hmember : ∀ x ∈ d.members, x.id ≠ env.newId .familyMember)
    (hemail : EmailFree f d body.email) (role : String) (isPrimary : Bool) :
    Local f d e (register P env body f role isPrimary) := by
  have hown : Owns d.rows f .familyMember (newMember P env body f role isPrimary) := rfl
  refine Paired.bind (Paired.mapError _ (h.paired_add hown hmember (fun u hu k hk x hx hxk => ?_)
    (fun _ hp => by cases hp))) (fun m _ => Paired.of_at ?_)
  · obtain rfl := List.mem_singleton.mp hu
    obtain rfl := Option.some.inj hk
    obtain ⟨email, hxe, heq⟩ := Option.map_eq_some_iff.mp hxk
    obtain rfl := Sum.inr.inj heq
    exact congrArg some (hemail x hx hxe)
  · rintro d' e' ⟨⟨rfl, hr⟩, hk, hd'⟩
    have htokens : d'.refreshTokens = d.refreshTokens :=
      (congrFun hd' .refreshToken).trans (Schema.insert_of_ne (by simp))
    have hmem : m ∈ d'.members := by
      show m ∈ d'.rows .familyMember
      rw [hd', Schema.insert_self]
      exact Table.mem_insert.mpr (Or.inr rfl)
    exact local_issueTokens hr (htokens ▸ hid) (htokens ▸ htoken)
      ⟨m, hmem, rfl, Option.some.inj (hk.reference _ List.mem_cons_self)⟩

/-- The token is consumed, and its successor issued to the same member. -/
theorem RefreshTokenService.local_exchange {row : RefreshToken} (hrow : row ∈ d.refreshTokens)
    (hfam : row.familyId = f) : Local f d e (exchange P env row) := by
  refine Paired.bind (h.paired_update (T := .refreshToken) hrow (congrArg some hfam)
    (fun r _ hc => by
      cases hc
      exact r.consume_sameKeys env.now)) (fun a _ => Paired.of_at ?_)
  rintro d' e' ⟨⟨rfl, hr⟩, hk, hd'⟩
  have hmem : ∀ x ∈ d'.refreshTokens, ∃ y ∈ d.refreshTokens, x.id = y.id ∧
      x.tokenHash = y.tokenHash := by
    intro x hx
    rw [show d'.refreshTokens = Table.replace RefreshToken.id a d.refreshTokens from
      (congrFun hd' .refreshToken).trans Schema.replace_self] at hx
    rcases Table.mem_replace.mp hx with ⟨rfl, -⟩ | ⟨hx, -⟩
    · exact ⟨row, hrow, hk.id,
        Sum.inr.inj (Option.some.inj (hk.unique _ List.mem_cons_self))⟩
    · exact ⟨x, hx, rfl, rfl⟩
  have hf : a.familyId = f :=
    (Option.some.inj (hk.reference _ List.mem_cons_self)).trans hfam
  have hm : a.familyMemberId = row.familyMemberId :=
    Option.some.inj (hk.reference _ (List.mem_cons_of_mem _ List.mem_cons_self))
  -- the member of a token of the family is the family's
  obtain ⟨m, hmm, hmid, hmf⟩ := h.references f .refreshToken row hrow (congrArg some hfam) _
    List.mem_cons_self _ rfl
  have hmembers : d'.members = d.members :=
    (congrFun hd' .familyMember).trans (Schema.replace_of_ne (by simp))
  subst hf
  refine Local.map (local_issue hr (fun x hx => ?_) (fun x hx => ?_) ⟨m, ?_, ?_, ?_⟩ _)
    (fun newRaw => (newRaw, a.familyId.str, a.familyMemberId.str))
  · obtain ⟨y, hy, hxid, -⟩ := hmem x hx
    exact hxid ▸ hid y hy
  · obtain ⟨y, hy, -, hxt⟩ := hmem x hx
    exact hxt ▸ htoken y hy
  · exact hmembers ▸ hmm
  · exact hmid.trans hm.symm
  · exact Option.some.inj hmf

end Tokens

/-- Rows of the family are revoked, one after the other. -/
theorem RefreshTokenRepository.local_revokeRows (h : Restricts f d e) {rows : List RefreshToken}
    (hrows : ∀ r ∈ rows, ∃ old ∈ d.refreshTokens, old.id = r.id ∧ old.familyId = f) :
    Local f d e (revokeRows env rows) := by
  refine Local.map (t := (forM rows (fun row => do
    let _ ← update env .refreshToken row.id
      (fun r => .ok { r with revokedAt := some env.now })) : Op Unit)) ?_ (fun _ => rows.length)
  induction rows generalizing d e with
  | nil => exact Local.pure h ()
  | cons row rows ih =>
    rw [List.forM_cons]
    obtain ⟨old, hold, hid, hfam⟩ := hrows row List.mem_cons_self
    have hone : Paired (At d e)
        (do let _ ← update env .refreshToken row.id
              (fun r => .ok { r with revokedAt := some env.now }) : Op Unit)
        (do let _ ← update env .refreshToken row.id
              (fun r => .ok { r with revokedAt := some env.now }) : Op Unit)
        (fun _ _ d' e' => Restricts f d' e' ∧ ∃ a, schema.SameKeys .refreshToken a old ∧
          d'.rows = schema.replace .refreshToken a d.rows) := by
      rw [← hid]
      refine Paired.bind (h.paired_update (T := .refreshToken) hold (congrArg some hfam)
        (fun r _ hc => ?_)) (fun a _ => Paired.pure (fun _ _ hs => ⟨hs.1.2, a, hs.2⟩))
      cases hc
      exact ⟨rfl, by simp [TableName.uniques], by simp [TableName.references]⟩
    refine Paired.bind hone (fun _ _ => Paired.of_at ?_)
    rintro d' e' ⟨hr, a, hk, hd'⟩
    refine ih hr (fun r hmem => ?_)
    obtain ⟨x, hx, hxid, hxf⟩ := hrows r (List.mem_cons_of_mem _ hmem)
    rw [show d'.refreshTokens = Table.replace RefreshToken.id a d.refreshTokens from
      (congrFun hd' .refreshToken).trans Schema.replace_self]
    by_cases heq : x.id = old.id
    · exact ⟨a, Table.mem_replace.mpr (Or.inl ⟨rfl, old, hold, hk.id.symm⟩),
        hk.id.trans (heq.symm.trans hxid),
        (Option.some.inj (hk.reference _ List.mem_cons_self)).trans hfam⟩
    · exact ⟨x, Table.mem_replace.mpr (Or.inr ⟨hx, fun hc => heq (hc.trans hk.id)⟩), hxid, hxf⟩

theorem AuthService.local_finishSignup (h : Restricts f d e) (hf : env.Fresh P d)
    {body : SignupRequest} {invite : Option FamilyInvite}
    (hw : (Flight.signup body invite).Within f d)
    (hfounds : (Flight.signup body invite).FoundsOnly env f) (hemail : EmailFree f d body.email) :
    Local f d e (finishSignup P env body invite) := by
  cases invite with
  | none =>
    have hfam : env.newId .family = f := hfounds body rfl
    have hown : Owns d.rows f .family (newFamily env body) := congrArg some hfam
    refine Paired.bind (h.paired_add hown (hf.id _) (fun u hu => absurd hu List.not_mem_nil)
      (fun _ hp => by cases hp)) (fun a _ => Paired.of_at ?_)
    rintro d' e' ⟨⟨rfl, hr⟩, hk, hd'⟩
    have hrest : ∀ T, T ≠ TableName.family → d'.rows T = d.rows T :=
      fun T hT => by rw [hd', Schema.insert_of_ne hT]
    rw [show Family.id a = f from hk.id.trans hfam]
    refine local_register hr ?_ ?_ ?_ ?_ _ _
    · rw [show d'.refreshTokens = d.refreshTokens from hrest _ (by simp)]
      exact hf.id .refreshToken
    · rw [show d'.refreshTokens = d.refreshTokens from hrest _ (by simp)]
      exact hf.token
    · rw [show d'.members = d.members from hrest _ (by simp)]
      exact hf.id .familyMember
    · rwa [EmailFree, show d'.members = d.members from hrest _ (by simp)]
  | some invite =>
    obtain ⟨hmem, hfam⟩ := hw invite rfl
    rw [finishSignup, InviteService.accept, bind_assoc]
    refine Paired.bind (h.paired_update (T := .familyInvite) hmem (congrArg some hfam)
      (fun r _ hc => ?_)) (fun a _ => Paired.of_at ?_)
    · cases hc
      exact ⟨rfl, by simp [TableName.uniques], by simp [TableName.references]⟩
    · rintro d' e' ⟨⟨rfl, hr⟩, hk, hd'⟩
      have hrest : ∀ T, T ≠ TableName.familyInvite → d'.rows T = d.rows T :=
        fun T hT => by rw [hd', Schema.replace_of_ne hT]
      rw [pure_bind]
      dsimp only
      rw [show FamilyInvite.familyId a = f from
        (Option.some.inj (hk.reference _ List.mem_cons_self)).trans hfam]
      refine local_register hr ?_ ?_ ?_ ?_ _ _
      · rw [show d'.refreshTokens = d.refreshTokens from hrest _ (by simp)]
        exact hf.id .refreshToken
      · rw [show d'.refreshTokens = d.refreshTokens from hrest _ (by simp)]
        exact hf.token
      · rw [show d'.members = d.members from hrest _ (by simp)]
        exact hf.id .familyMember
      · rwa [EmailFree, show d'.members = d.members from hrest _ (by simp)]

/-- **The second step of a request of the family is local to it.** -/
theorem Flight.local_finish (h : Restricts f d e) (hf : env.Fresh P d) {flight : Flight}
    (hw : flight.Within f d) (hfounds : flight.FoundsOnly env f)
    (hemail : ∀ email, flight.RegistersEmail email → EmailFree f d email) :
    (Tx.serve Exn.handled (flight.finish P env) e).1
        = (Tx.serve Exn.handled (flight.finish P env) d).1 ∧
      Restricts f (Tx.serve Exn.handled (flight.finish P env) d).2
        (Tx.serve Exn.handled (flight.finish P env) e).2 := by
  have hserve : Local f d e (flight.finish P env) →
      (¬ ∃ now sessionId rows, flight = .reuse now sessionId rows) →
      (Tx.serve Exn.handled (flight.finish P env) e).1
          = (Tx.serve Exn.handled (flight.finish P env) d).1 ∧
        Restricts f (Tx.serve Exn.handled (flight.finish P env) d).2
          (Tx.serve Exn.handled (flight.finish P env) e).2 :=
    fun hl hne => hl.serve h (Flight.undoes_finish Exn.handled rfl flight
      (fun hr => absurd hr hne)).clean
  cases flight with
  | exchange row =>
    obtain ⟨hrow, hfam⟩ := hw
    refine hserve (Local.map (Paired.bind (RefreshTokenService.local_exchange h
      (hf.id .refreshToken) hf.token hrow hfam) (fun a b => Paired.of_at ?_)) _) (by simp)
    rintro d' e' ⟨rfl, hr⟩
    exact (Sees.lift _).bind (fun _ _ => Local.pure hr _)
  | reuse now sessionId rows =>
    have hrows : ∀ r ∈ rows, ∃ old ∈ d.refreshTokens, old.id = r.id ∧ old.familyId = f :=
      fun r hr => ⟨r, (hw r hr).1, rfl, (hw r hr).2⟩
    -- the rows are there, so the revocation returns, and then reuse is reported
    have hrevoke : Local f d e (RefreshTokenRepository.revokeRows { env with now := now } rows) :=
      RefreshTokenRepository.local_revokeRows h hrows
    rcases hrevoke ⟨d, d⟩ ⟨e, e⟩ ⟨rfl, rfl⟩ with
      ⟨n, _, s, s', hs, hs', rfl, hr⟩ | ⟨x, s, s', hs, -⟩
    · have hend : ∀ {d : Database} {s : Session Database},
          (RefreshTokenRepository.revokeRows { env with now := now } rows).Returns ⟨d, d⟩ n s →
          Tx.serve Exn.handled ((reuse now sessionId rows).finish P env) d
            = (.error .tokenReuse, s.working) :=
        fun hs => Tx.serve_error_iff.mpr ⟨_, Tx.raises_bind.mpr (Or.inr
          ⟨_, _, hs, Tx.raises_raise.mpr ⟨rfl, rfl⟩⟩), rfl⟩
      rw [hend hs, hend hs']
      exact ⟨rfl, hr⟩
    · obtain ⟨d₁, -, hret⟩ := RefreshTokenRepository.revokeRows_returns { env with now := now }
        ⟨d, d⟩ rows (fun r hr => List.mem_map_of_mem (hw r hr).1)
      exact absurd hs hret.not_raises
  | logout now sessionId rows =>
    have hrevoke : Local f d e (RefreshTokenRepository.revokeRows { env with now := now } rows) :=
      RefreshTokenRepository.local_revokeRows h
        (fun r hr => ⟨r, (hw r hr).1, rfl, (hw r hr).2⟩)
    exact hserve (hrevoke.map (fun _ => Response.done)) (by simp)
  | signup body invite =>
    exact hserve ((AuthService.local_finishSignup h hf hw hfounds (hemail _ rfl)).map _) (by simp)
  | revokeInvite invite =>
    exact hserve ((h.paired_delete (T := .familyInvite) hw.1 (congrArg some hw.2)).map _) (by simp)
  | createMember g body =>
    obtain rfl : g = f := hw
    exact hserve ((MemberService.local_insert h hf (fun email hb => hemail email hb)).map _)
      (by simp)
  | upsertProfile memberId body profile =>
    obtain ⟨⟨m, hm, rfl, hfam⟩, hp⟩ := hw
    exact hserve ((MemberService.local_putProfile h hf hm hfam body hp).map _) (by simp)

/-! ## First steps of the family -/

section FirstSteps

variable (h : Restricts f d e)
include h

/-- The token of a request of the family. -/
theorem RefreshTokenService.sees_token {raw : String}
    (hc : ∃ r ∈ d.refreshTokens, r.tokenHash = RefreshTokenCodec.hash P raw ∧ r.familyId = f) :
    Sees d e (RefreshTokenRepository.getByTokenHash (RefreshTokenCodec.hash P raw))
      (fun o => ∀ r ∈ o, r ∈ d.refreshTokens ∧ r.familyId = f) := by
  have hown : ∀ x ∈ d.refreshTokens, x.tokenHash = RefreshTokenCodec.hash P raw →
      x.familyId = f := by
    intro x hx hxh
    obtain ⟨r, hr, hrh, hfam⟩ := hc
    rwa [eq_of_tokenHash hx hr (hxh.trans hrh.symm)]
  rw [RefreshTokenRepository.getByTokenHash_eq_read]
  refine Sees.read (h.find (T := .refreshToken) (fun x hx hxh => congrArg some
    (hown x hx (of_decide_eq_true hxh)))).symm (fun r hr => ?_)
  obtain ⟨hmem, hhash⟩ := find_tokenHash.mp hr
  exact ⟨hmem, hown r hmem hhash⟩

/-- The unrevoked tokens of its session. -/
theorem RefreshTokenService.sees_unrevoked (hl : Lineages d.refreshTokens) {row : RefreshToken}
    (hrow : row ∈ d.refreshTokens) (hfam : row.familyId = f) :
    Sees d e (RefreshTokenRepository.unrevokedOfSession row.sessionId) (fun _ => True) := by
  unfold RefreshTokenRepository.unrevokedOfSession getMany
  exact Sees.read (h.filter (T := .refreshToken) (fun x hx hxs => congrArg some
    ((hl.familyId_unrevoked hrow x (List.mem_filter.mpr ⟨hx, hxs⟩)).2.trans hfam))).symm trivial

/-- The invite of the family with a code. -/
theorem InviteService.sees_findActive {code : Py.Text}
    (hc : ∃ i ∈ d.invites, InviteCodec.hash P code = .ok i.codeHash ∧ i.familyId = f) :
    Sees d e (findActive P env code) (fun _ => True) := by
  unfold findActive
  refine (Sees.lift _).bind (fun codeHash hhash => ?_)
  rw [FamilyInviteRepository.getActiveByCodeHash_eq_read]
  refine Sees.bind (Sees.read (Q := fun _ => True) (h.find (T := .familyInvite)
    (fun i hi hp => ?_)).symm trivial) (fun _ _ => Sees.orRaise _ (fun _ _ => trivial))
  obtain ⟨j, hj, hjh, hfam⟩ := hc
  obtain rfl := FamilyInvite.eq_of_codeHash hi hj
    ((of_decide_eq_true (Bool.and_eq_true_iff.mp hp).2).trans
      (Except.ok.inj (hhash.symm.trans hjh)))
  exact congrArg some hfam

/-- The invite of a signup of the family. -/
theorem AuthService.sees_beginSignup {body : SignupRequest} (hc : body.LeadsInto P env f d)
    (hemail : EmailFree f d body.email) : Sees d e (beginSignup P env body) (fun _ => True) := by
  rw [beginSignup, FamilyMemberRepository.getByEmail_eq_read]
  refine Sees.bind (Sees.read (Q := fun _ => True) (h.find (T := .familyMember)
    (fun m hm hme => ?_)).symm trivial) (fun o _ => ?_)
  · exact congrArg some (hemail m hm (of_decide_eq_true hme))
  · split
    · exact Paired.raise _
    · unfold SignupRequest.LeadsInto at hc
      cases hcode : body.inviteCode with
      | none => exact Sees.pure trivial
      | some code =>
        rw [hcode] at hc
        exact (InviteService.sees_findActive h hc).bind (fun _ _ => Sees.pure trivial)

/-- The member who logs in. -/
theorem AuthService.local_login (hf : env.Fresh P d) {body : LoginRequest}
    (hc : ∃ m ∈ d.members, m.email = some body.email ∧ m.familyId = f) :
    Local f d e (login P env body) := by
  obtain ⟨m, hm, hme, hfam⟩ := hc
  rw [login, FamilyMemberRepository.getByEmail_eq_read]
  refine Sees.bind (Sees.read (Q := (· = some m)) (h.find (T := .familyMember)
    (fun x hx hxe => ?_)).symm (FamilyMember.find_email_eq_some_iff.mpr ⟨hm, hme⟩)) ?_
  · rw [FamilyMember.eq_of_email hx hm (of_decide_eq_true hxe) hme]
    exact congrArg some hfam
  · rintro _ rfl
    refine (Sees.lift _).bind (fun verified _ => ?_)
    split
    · exact hfam ▸ local_issueTokens (hfam ▸ h) (hf.id .refreshToken) hf.token ⟨m, hm, rfl, rfl⟩
    · exact Paired.raise _

/-- **The first step of a request that concerns the family** looks up the same
in its own database, when it is one that may be left in flight. -/
theorem Request.sees_begin (hl : Lineages d.refreshTokens) {req : Request}
    (hc : req.Concerns P env f d) (htwo : req.twoSteps = true)
    (hemail : ∀ email, req.RegistersEmail email → EmailFree f d email) :
    Sees d e (req.begin P env) (fun _ => True) := by
  cases req with
  | auth op =>
    cases op with
    | login body => cases htwo
    | signup body =>
      exact (AuthService.sees_beginSignup h hc (hemail _ rfl)).bind
        (fun _ _ => Sees.pure trivial)
    | refresh raw =>
      refine Sees.bind (Q := fun _ => True) ?_ (fun _ _ => Sees.pure trivial)
      refine (RefreshTokenService.sees_token h hc).bind (fun o ho => ?_)
      refine (Sees.orRaise _ ho).bind (fun row hrow => ?_)
      split
      · exact (RefreshTokenService.sees_unrevoked h hl hrow.1 hrow.2).bind
          (fun _ _ => Sees.pure trivial)
      · split
        · exact Paired.raise _
        · exact Sees.pure trivial
    | logout raw =>
      refine Sees.bind (Q := fun _ => True) ?_ (fun flight _ => ?_)
      · refine (RefreshTokenService.sees_token h hc).bind (fun o ho => ?_)
        cases o with
        | none => exact Sees.pure trivial
        | some row =>
          exact (RefreshTokenService.sees_unrevoked h hl (ho row rfl).1 (ho row rfl).2).bind
            (fun _ _ => Sees.pure trivial)
      · cases flight <;> exact Sees.pure trivial
  | family g op =>
    obtain rfl : g = f := hc
    cases op <;> try exact Bool.noConfusion htwo
    case createMember body =>
      exact (MemberService.sees_checkEmail h (fun email hb => hemail email hb)).bind
        (fun _ _ => Sees.pure trivial)
    case upsertProfile memberId body =>
      exact (MemberService.sees_findProfile h memberId).bind (fun _ _ => Sees.pure trivial)
    case revokeInvite inviteId =>
      rw [Request.begin, ← bind_assoc]
      exact (InviteService.sees_find h inviteId).bind (fun _ _ => Sees.pure trivial)

/-- **The first step of a request that concerns the family is local to
it.** -/
theorem Request.local_begin (hl : Lineages d.refreshTokens) (hf : env.Fresh P d) {req : Request}
    (hc : req.Concerns P env f d) (hby : ∀ g op, req = .family g op → op.ByMember g d)
    (hemail : ∀ email, req.RegistersEmail email → EmailFree f d email) :
    Local f d e (req.begin P env) := by
  cases htwo : req.twoSteps with
  | true => exact (Request.sees_begin h hl hc htwo hemail).local h
  | false =>
    cases req with
    | auth op =>
      cases op <;> try exact Bool.noConfusion htwo
      case login body => exact ((AuthService.local_login h hf hc).map Response.tokens).map _
    | family g op =>
      obtain rfl : g = f := hc
      have hone : op.oneStep = true := by simpa [twoSteps] using htwo
      rw [Request.begin_oneStep hone]
      exact (FamilyOp.local h hf (hby g op rfl) hone).map _

end FirstSteps

/-! ## The slices of the other families -/

section Slices

variable {s s' : Session Database} {a : IssuedTokens} (hg : f ≠ g)
include hg

/-- Tokens of another family may be stamped. -/
theorem slice_stamp {u : RefreshToken → RefreshToken} (hfam : ∀ x, (u x).familyId = x.familyId)
    (hu : ∀ x ∈ d.refreshTokens, x.familyId ≠ g → u x = x) :
    slice f (Function.update d.rows .refreshToken (d.refreshTokens.map u)) = slice f d.rows := by
  have hkeep : ∀ T (x : T.Row), decide (Owns (Function.update d.rows .refreshToken
      (d.refreshTokens.map u)) f T x) = decide (Owns d.rows f T x) := by
    intro T x
    refine decide_eq_decide.mpr (iff_of_eq (congrArg (· = some f) ?_))
    cases T.scope x with
    | family id => rfl
    | member id | child id => rw [familyOf, familyOf, Function.update_of_ne (by simp)]
  funext T
  rw [slice, slice, funext (hkeep T)]
  by_cases hT : T = .refreshToken
  · subst hT
    have hown : (fun x : RefreshToken => decide (Owns d.rows f .refreshToken x)) ∘ u
        = fun x => decide (Owns d.rows f .refreshToken x) := funext (fun x =>
      decide_eq_decide.mpr (iff_of_eq (congrArg (fun id => some id = some f) (hfam x))))
    rw [Function.update_self, List.filter_map, hown]
    refine (List.map_congr_left (fun x hx => ?_)).trans (List.map_id _)
    obtain ⟨hx, hown⟩ := List.mem_filter.mp hx
    exact hu x hx (Option.some.inj (of_decide_eq_true hown) ▸ hg)
  · rw [Function.update_of_ne hT]

/-- Tokens are issued to a member of another family. -/
theorem AuthService.slice_issueTokens {memberId : UUID}
    (h : (issueTokens P env g memberId).Returns s a s') :
    slice f s'.working.rows = slice f s.working.rows := by
  obtain ⟨_, _, -, -, -, d, hd, rfl⟩ := issueTokens_returns.mp h
  exact (congrArg _ hd).trans (slice_insert s.working.consistent (T := .refreshToken) rfl hg)

/-- A member of another family is registered. -/
theorem AuthService.slice_register {body : SignupRequest} {role : String} {isPrimary : Bool}
    (h : (register P env body g role isPrimary).Returns s a s') :
    slice f s'.working.rows = slice f s.working.rows := by
  obtain ⟨d₁, hd₁, hissue⟩ := register_returns.mp h
  refine (slice_issueTokens hg hissue).trans ?_
  exact (congrArg _ hd₁).trans (slice_insert s.working.consistent (T := .familyMember) rfl hg)

theorem AuthService.slice_finishSignup {body : SignupRequest} {invite : Option FamilyInvite}
    (hw : (Flight.signup body invite).Within g s.working)
    (hfounds : (Flight.signup body invite).FoundsOnly env g)
    (h : (finishSignup P env body invite).Returns s a s') :
    slice f s'.working.rows = slice f s.working.rows := by
  cases invite with
  | none =>
    obtain ⟨d₁, hd₁, hreg⟩ := finishSignup_none_returns.mp h
    rw [hfounds body rfl] at hreg
    refine (slice_register hg hreg).trans ((congrArg _ hd₁).trans ?_)
    exact slice_insert s.working.consistent (T := .family) (congrArg some (hfounds body rfl)) hg
  | some invite =>
    obtain ⟨hmem, hfam⟩ := hw invite rfl
    obtain ⟨cur, hcur, d₁, hd₁, hreg⟩ := finishSignup_some_returns.mp h
    obtain rfl : cur = invite := Option.some.inj
      (hcur.symm.trans (Store.find_eq_some_iff.mpr ⟨hmem, rfl⟩))
    rw [hfam] at hreg
    refine (slice_register hg hreg).trans ((congrArg _ hd₁).trans ?_)
    exact slice_replace s.working.consistent (T := .familyInvite) hmem
      (cur.accept_sameKeys env.now) (congrArg some hfam) hg

/-- **The second step of a request of another family** leaves the slice of
this one. -/
theorem Flight.slice_finish {flight : Flight} (hw : flight.Within g d)
    (hfounds : flight.FoundsOnly env g) :
    slice f (Tx.serve Exn.handled (flight.finish P env) d).2.rows = slice f d.rows := by
  cases hs : Tx.serve Exn.handled (flight.finish P env) d with
  | mk r d' =>
    have hrevoke : ∀ now sessionId rows, flight.revocation = some (now, sessionId, rows) →
        (∀ x ∈ rows, x ∈ d.refreshTokens ∧ x.familyId = g) → slice f d'.rows = slice f d.rows := by
      intro now sessionId rows hf hrows
      rw [finish_revocation hf (fun x hx => List.mem_map_of_mem (hrows x hx).1) hs]
      refine slice_stamp hg (fun x => ?_) (fun x hx hne => if_neg (fun hid => ?_))
      · split <;> rfl
      · obtain ⟨y, hy, hyid⟩ := List.mem_map.mp hid
        obtain rfl : y = x :=
          d.consistent.eq_of_id (T := TableName.refreshToken) (hrows y hy).1 hx hyid
        exact hne (hrows y hy).2
    by_cases hrev : flight.revocation = none
    · cases r with
      | error x => rw [finish_error hrev hs]
      | ok response =>
        cases flight with
        | exchange row =>
          obtain ⟨hrow, hfam⟩ := hw
          obtain ⟨cur, exp, hcur, hrows⟩ := finish_exchange hs
          obtain rfl : cur = row := Option.some.inj
            (hcur.symm.trans (Store.find_eq_some_iff.mpr ⟨hrow, rfl⟩))
          have hk := cur.consume_sameKeys env.now
          show slice f d'.rows = _
          have hown : Owns (schema.replace .refreshToken (cur.consume env.now) d.rows) g
              .refreshToken (RefreshTokenService.newToken P env cur.familyId cur.familyMemberId
                cur.sessionId exp) := congrArg some hfam
          rw [hrows]
          exact (slice_insert (d.consistent.replace hrow hk) hown hg).trans
            (slice_replace d.consistent hrow hk (congrArg some hfam) hg)
        | reuse now sessionId rows => cases hrev
        | logout now sessionId rows => cases hrev
        | signup body invite =>
          obtain ⟨a, s', -, rfl, hret⟩ := finish_signup hs
          exact AuthService.slice_finishSignup (s := ⟨d, d⟩) hg hw hfounds hret
        | revokeInvite invite =>
          show slice f d'.rows = _
          rw [(finish_revokeInvite hs).2]
          exact slice_delete (T := .familyInvite) d.consistent hw.1 (congrArg some hw.2) hg
        | createMember k body =>
          show slice f d'.rows = _
          rw [finish_createMember hs]
          exact slice_insert (T := .familyMember) d.consistent (congrArg some hw) hg
        | upsertProfile memberId body profile =>
          obtain ⟨⟨m, hm, rfl, hfam⟩, hp⟩ := hw
          obtain ⟨s', hret, rfl⟩ := Tx.serve_ok_iff.mp hs
          obtain ⟨a, h₁, -⟩ := Tx.returns_bind_pure.mp hret
          show slice f s'.working.rows = _
          rcases MemberService.putProfile_change h₁ with
            ⟨-, hk, hrows⟩ | ⟨loaded, rfl, old, hold, hid, hk, hrows⟩
          · rw [hrows]
            exact slice_insert (T := .familyMemberProfile) d.consistent (Store.owns_of_member hm
              hfam (congrArg Scope.member (Option.some.inj (hk.reference _ List.mem_cons_self)))) hg
          · obtain ⟨hl, hlm⟩ := hp loaded rfl
            obtain rfl : old = loaded :=
              d.consistent.eq_of_id (T := TableName.familyMemberProfile) hold hl hid
            rw [hrows]
            exact slice_replace (T := .familyMemberProfile) d.consistent hold hk
              (Store.owns_of_member hm hfam (congrArg Scope.member hlm)) hg
    · cases flight with
      | reuse now sessionId rows => exact hrevoke now sessionId rows rfl hw
      | logout now sessionId rows => exact hrevoke now sessionId rows rfl hw
      | _ => exact absurd rfl hrev

end Slices

/-- **A request that completes in its first step** and does not concern the
family leaves its slice. -/
theorem Request.slice_begin {req : Request} (hc : ¬ req.Concerns P env f d) {response : Response}
    {s : Session Database} (h : (req.begin P env).Returns ⟨d, d⟩ (.inr response) s) :
    slice f s.working.rows = slice f d.rows := by
  rcases Request.begin_done h with rfl | ⟨body, a, rfl, hl⟩ | ⟨g, op, rfl, -, hop⟩
  · rfl
  · obtain ⟨m, hm, hme, -, hissue⟩ := AuthService.login_returns_iff.mp hl
    exact AuthService.slice_issueTokens (s := ⟨d, d⟩) (fun hf => hc ⟨m, hm, hme, hf.symm⟩) hissue
  · exact (FamilyOp.run_change hop).slice_eq (fun hf => hc hf.symm)
