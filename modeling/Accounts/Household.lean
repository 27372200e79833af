import Accounts.InviteRaces

/-!
# What the requests leave of the families and their members

`HouseholdStep` is the machine the two tables are run by. A signup without
an invite founds a family together with its primary member; a signup
through an invite and the creation of a member add a member that is not
primary; an update keeps the family, the credentials and the mark of a
member; and a member may be deleted that is not primary. Families are
never deleted.

`householdEvent` reads off a completed request what it has done, and
`first_household`, `finish_household` and `household_serve` connect the
machine to the steps of the service and to its serial runs.
-/

open Repository

variable {P : Platform} {env : Env} {d d' : Database}

/-! ## The machine -/

/-- **What a step does to the members**: one comes to be – with the family,
through an invite, or by a request of the family – or one is deleted. -/
inductive HouseholdEvent where
  /-- A signup founds a family. -/
  | founded (body : SignupRequest)
  /-- A signup joins a family. -/
  | joined (body : SignupRequest)
  /-- A member is created. -/
  | created (body : MemberCreate)
  /-- A member is deleted. -/
  | deleted (id : UUID)

/-- **What an update leaves of a member**: the identifier, the family, the
mark of the primary member and the credentials. -/
structure FamilyMember.Keeps (r old : FamilyMember) : Prop where
  /-- The identifier. -/
  id : r.id = old.id
  /-- The family. -/
  familyId : r.familyId = old.familyId
  /-- The mark. -/
  isPrimaryUser : r.isPrimaryUser = old.isPrimaryUser
  /-- The login email. -/
  email : r.email = old.email
  /-- The password. -/
  passwordHash : r.passwordHash = old.passwordHash

theorem FamilyMember.Keeps.refl (r : FamilyMember) : r.Keeps r := ⟨rfl, rfl, rfl, rfl, rfl⟩

/-- **A step of the tables of families and members.** -/
inductive HouseholdStep (P : Platform) (env : Env) (fs : List Family) (ms : List FamilyMember) :
    Option HouseholdEvent → List Family → List FamilyMember → Prop where
  /-- Nothing. -/
  | same : HouseholdStep P env fs ms none fs ms
  /-- A family is founded. -/
  | founded (body : SignupRequest) :
    HouseholdStep P env fs ms (some (.founded body))
      (Table.insert fs (AuthService.newFamily env body))
      (Table.insert ms (AuthService.newMember P env body (env.newId .family) body.role true))
  /-- A member joins through an invite. -/
  | joined (body : SignupRequest) (f : UUID) (role : String) :
    HouseholdStep P env fs ms (some (.joined body)) fs
      (Table.insert ms (AuthService.newMember P env body f role false))
  /-- A member is created. -/
  | created (f : UUID) (body : MemberCreate) :
    HouseholdStep P env fs ms (some (.created body)) fs
      (Table.insert ms (MemberService.newMember P env f body))
  /-- A family is updated. -/
  | renamed {r old : Family} (hold : old ∈ fs) (hid : r.id = old.id) :
    HouseholdStep P env fs ms none (Table.replace Family.id r fs) ms
  /-- A member is updated. -/
  | updated {r old : FamilyMember} (hold : old ∈ ms) (hk : r.Keeps old) :
    HouseholdStep P env fs ms none fs (Table.replace FamilyMember.id r ms)
  /-- A member is deleted, not the primary one. -/
  | deleted {r : FamilyMember} (hr : r ∈ ms) (hp : r.isPrimaryUser = false) :
    HouseholdStep P env fs ms (some (.deleted r.id)) fs (Table.delete FamilyMember.id r.id ms)

theorem Store.familyKey (d : Database) : (d.families.map (·.id)).Nodup := by
  have h := d.consistent.key .family
  rw [Table.Unique, List.filterMap_eq_map'] at h
  exact h

theorem Store.memberKey (d : Database) :
    Table.Unique (fun r => some (FamilyMember.id r)) d.members :=
  d.consistent.key .familyMember

/-! ## Operations of a family -/

/-- Updating a member keeps who it is. -/
theorem FamilyMember.applyChanges_keeps {r r' : FamilyMember} {b : MemberUpdate}
    (h : r.applyChanges b = .ok r') : r'.Keeps r := by
  obtain ⟨role, -, h⟩ := Except.bind_eq_ok_iff.mp h
  cases h
  exact ⟨rfl, rfl, rfl, rfl, rfl⟩

/-- What is written of a member is what was set. -/
theorem FamilyMember.written_keeps {now : Datetime} {old draft a : FamilyMember}
    (h : TableName.written now .familyMember old draft = .ok a) (hd : draft.Keeps old) :
    a.Keeps old := by
  unfold TableName.written at h
  split at h
  · cases h
    exact .refl old
  · cases h
    exact ⟨hd.id, hd.familyId, hd.isPrimaryUser, hd.email, hd.passwordHash⟩

namespace MemberService

variable {s s' : Session Database} {f memberId : UUID}

/-- **What updating a member leaves.** -/
theorem update_change {body : MemberUpdate} {a : MemberDump}
    (h : (update env f memberId body).Returns s a s') :
    ∃ r, ∃ old ∈ s.working.members, r.Keeps old ∧
      s'.working.rows = schema.replace .familyMember r s.working.rows := by
  obtain ⟨m, s₁, h₁, h₂⟩ := Tx.returns_bind.mp h
  obtain ⟨-, -, -, rfl⟩ := require_returns.mp h₁
  obtain ⟨r, h₃, -⟩ := Tx.returns_bind_pure.mp h₂
  obtain ⟨old, hold, hw, d, hd, rfl⟩ := returns_update.mp h₃
  obtain ⟨draft, hdraft, hw⟩ := Except.bind_eq_ok_iff.mp hw
  exact ⟨r, old, (Store.find_eq_some_iff.mp hold).1,
    FamilyMember.written_keeps hw (FamilyMember.applyChanges_keeps hdraft), hd⟩

/-- **What deleting a member leaves**: it was not the primary one. -/
theorem delete_change (h : (delete f memberId).Returns s () s') :
    ∃ r ∈ s.working.members, r.id = memberId ∧ r.isPrimaryUser = false ∧
      s'.working.rows = schema.delete .familyMember r.id
        (TableName.cascade .familyMember r.id s.working.rows) := by
  obtain ⟨m, s₁, h₁, h₂⟩ := Tx.returns_bind.mp h
  obtain ⟨hmem, hid, -, rfl⟩ := require_returns.mp h₁
  rcases Tx.returns_ite.mp h₂ with ⟨-, hr⟩ | ⟨hp, hdel⟩
  · exact absurd hr Tx.returns_raise
  · exact ⟨m, hmem, hid, Bool.eq_false_iff.mpr hp, Repository.delete_change hdel⟩

end MemberService

/-- What an operation of a family does to the members. -/
def FamilyOp.householdEvent : FamilyOp → Option HouseholdEvent
  | createMember body => some (.created body)
  | deleteMember id => some (.deleted id)
  | _ => none

/-- **An operation of a family that is not split** is a step of the
machine. -/
theorem FamilyOp.household {s s' : Session Database} {f : UUID} {op : FamilyOp}
    {response : Response} (hone : op.oneStep = true)
    (h : (op.run P env f).Returns s response s') :
    HouseholdStep P env s.working.families s.working.members op.householdEvent
      s'.working.families s'.working.members := by
  have hmemb : ∀ {T : TableName} {t t' : (T : TableName) → List T.Row}, t' = t → t' T = t T :=
    fun ht => by rw [ht]
  by_cases hm : op.target = some .familyMember
  · have hfam : s'.working.families = s.working.families :=
      (FamilyOp.run_change h).rows_of_ne (by rw [hm]; simp) (by simp) (by simp)
    rw [hfam]
    cases op <;> try (cases hm; done)
    case createMember body => cases hone
    case updateMember memberId body =>
      obtain ⟨a, h₁, -⟩ := Tx.returns_bind_pure.mp h
      obtain ⟨r, old, hold, hk, hrows⟩ := MemberService.update_change h₁
      rw [show s'.working.members = Table.replace FamilyMember.id r s.working.members from
        (hmemb hrows).trans Schema.replace_self]
      exact .updated hold hk
    case deleteMember memberId =>
      obtain ⟨_, h₁, -⟩ := Tx.returns_bind_pure.mp h
      obtain ⟨r, hr, rfl, hprim, hrows⟩ := MemberService.delete_change h₁
      rw [show s'.working.members = Table.delete FamilyMember.id r.id s.working.members from
        (hmemb hrows).trans (Schema.delete_self.trans (congrArg _
          (cascade_of_ne (Or.inr (by simp)) (Or.inr (by simp)))))]
      exact .deleted hr hprim
  · have hmem : s'.working.members = s.working.members :=
      (FamilyOp.run_change h).rows_of_ne hm (by simp) (by simp)
    rw [hmem]
    by_cases hf : op.target = some .family
    · cases op <;> try (cases hf; done)
      case updateFamily body =>
        obtain ⟨r, h₁, -⟩ := Tx.returns_bind_pure.mp h
        rw [FamilyService.update, ← bind_assoc] at h₁
        obtain ⟨family, s₂, h₂, h₃⟩ := Tx.returns_bind.mp h₁
        obtain ⟨-, -, rfl⟩ := FamilyService.get_returns.mp h₂
        obtain ⟨old, hold, -, hk, hrows⟩ :=
          update_change (fun _ _ hr => Family.applyChanges_sameKeys hr) h₃
        rw [show s'.working.families = Table.replace Family.id r s₂.working.families from
          (hmemb hrows).trans Schema.replace_self]
        exact .renamed hold hk.id
    · have hfam : s'.working.families = s.working.families :=
        (FamilyOp.run_change h).rows_of_ne hf (by simp) (by simp)
      rw [hfam, show op.householdEvent = none by
        cases op <;> first
          | rfl
          | exact absurd rfl hm]
      exact .same

/-! ## The two steps of a request -/

/-- What a request does to the members when it returns. -/
def Request.householdEvent : Request → Option HouseholdEvent
  | auth (.signup body) =>
    if body.inviteCode = none then some (.founded body) else some (.joined body)
  | auth _ => none
  | family _ op => op.householdEvent

/-- What a request in flight will do to the members. -/
def Flight.householdEvent : Flight → Option HouseholdEvent
  | signup body none => some (.founded body)
  | signup body (some _) => some (.joined body)
  | createMember _ body => some (.created body)
  | _ => none

/-- **What a completed request has done to the members.** -/
def householdEvent (o : Completed Env Request Flight Exn Response) : Option HouseholdEvent :=
  match o.outcome with
  | .ok _ => o.source.elim Request.householdEvent Flight.householdEvent
  | .error _ => none

/-- What a completed request has done it was to do. -/
theorem source_of_householdEvent {o : Completed Env Request Flight Exn Response}
    {event : HouseholdEvent} (h : householdEvent o = some event) :
    o.source.elim Request.householdEvent Flight.householdEvent = some event := by
  unfold householdEvent at h
  split at h
  · exact h
  · cases h

/-- A request to `AuthService` that completes in its first part adds
nobody. -/
theorem Request.begin_auth_done {op : AuthOp} {s s' : Session Database} {response : Response}
    (h : ((Request.auth op).begin P env).Returns s (.inr response) s') :
    (Request.auth op).householdEvent = none := by
  cases op with
  | signup body =>
    obtain ⟨_, _, -, hp⟩ := Tx.returns_bind.mp h
    exact absurd (Tx.returns_pure.mp hp).1 Sum.inr_ne_inl
  | _ => rfl

/-- **The first step of a request** does what its completion tells, and
nothing when the request is left in flight. -/
theorem first_household {req : Request} {r : Flight ⊕ Completed Env Request Flight Exn Response}
    (h : (concurrentService P).first env req d = (d', r)) :
    HouseholdStep P env d.families d.members (r.elim (fun _ => none) householdEvent) d'.families
      d'.members := by
  cases r with
  | inl flight =>
    obtain ⟨rfl, -⟩ := TwoStep.ofPhases_first_flight h
    exact .same
  | inr o =>
    obtain ⟨-, hsrc, hs⟩ := TwoStep.ofPhases_first_done h
    show HouseholdStep P env d.families d.members (householdEvent o) d'.families d'.members
    cases ho : o.outcome with
    | error e =>
      rw [ho] at hs
      have hclean : Tx.Clean Exn.handled (req.begin P env) := Request.clean_begin rfl req
      rw [householdEvent, ho, hclean.serve hs id]
      exact .same
    | ok response =>
      rw [ho] at hs
      obtain ⟨s', hret, rfl⟩ := Tx.serve_ok_iff.mp hs
      have hev : householdEvent o = req.householdEvent := by
        rw [householdEvent, ho, hsrc]
        rfl
      rw [hev]
      cases req with
      | family f op =>
        obtain ⟨hone, hop⟩ := Request.begin_family_done hret
        exact FamilyOp.household hone hop
      | auth op =>
        rw [Request.begin_auth_done hret]
        rcases Request.begin_done hret with rfl | ⟨body, a, -, hl⟩ | ⟨f, op, hreq, -, -⟩
        · exact .same
        · obtain ⟨m, -, hi⟩ := AuthService.login_returns hl
          rw [show s'.working.families = d.families from AuthService.issueTokens_rows hi (by simp),
            show s'.working.members = d.members from AuthService.issueTokens_rows hi (by simp)]
          exact .same
        · cases hreq

/-- What founding a family leaves. -/
theorem AuthService.finishSignup_none_rows {s s' : Session Database} {body : SignupRequest}
    {a : IssuedTokens} (h : (finishSignup P env body none).Returns s a s') :
    s'.working.families = Table.insert s.working.families (newFamily env body) ∧
      s'.working.members = Table.insert s.working.members
        (newMember P env body (env.newId .family) body.role true) := by
  obtain ⟨d₁, hd₁, hreg⟩ := finishSignup_none_returns.mp h
  obtain ⟨hmem, hrest⟩ := register_rows hreg
  constructor
  · rw [Database.families, hrest .family (by simp) (by simp)]
    show d₁.rows .family = _
    rw [hd₁, Schema.insert_self]
  · rw [hmem]
    show Table.insert (d₁.rows .familyMember) _ = _
    rw [hd₁, Schema.insert_of_ne (by simp)]

/-- **The second step of a request** is the step its completion tells. -/
theorem finish_household {flight : Flight} {o : Completed Env Request Flight Exn Response}
    (h : (concurrentService P).second env flight d = (d', o)) :
    HouseholdStep P env d.families d.members (householdEvent o) d'.families d'.members := by
  obtain ⟨-, hsrc, hs⟩ := TwoStep.ofPhases_second h
  have hsame : householdEvent o = none → (∀ T : TableName, T = .family ∨ T = .familyMember →
      d'.rows T = d.rows T) →
      HouseholdStep P env d.families d.members (householdEvent o) d'.families d'.members := by
    intro hev hrows
    rw [hev, show d'.families = d.families from hrows .family (Or.inl rfl),
      show d'.members = d.members from hrows .familyMember (Or.inr rfl)]
    exact .same
  cases ho : o.outcome with
  | error e =>
    rw [ho] at hs
    have hnone : householdEvent o = none := by
      rw [householdEvent, ho]
    refine hsame hnone (fun T hT => ?_)
    by_cases hrev : flight.revocation = none
    · rw [Flight.finish_error hrev hs]
    · exact Flight.finish_revocation_rows hrev hs (by rcases hT with rfl | rfl <;> simp)
  | ok response =>
    rw [ho] at hs
    have hev : householdEvent o = flight.householdEvent := by
      rw [householdEvent, ho, hsrc]
      rfl
    cases flight with
    | exchange row | reuse now sessionId rows | logout now sessionId rows | revokeInvite invite
    | upsertProfile memberId body profile =>
      refine hsame hev (fun T hT => Flight.finish_frame hs ?_)
      rcases hT with rfl | rfl <;> simp [Flight.tables]
    | createMember f body =>
      have hrows := Flight.finish_createMember hs
      rw [show householdEvent o = some (.created body) from hev,
        show d'.families = d.families by
          rw [Database.families, hrows, Schema.insert_of_ne (by simp)],
        show d'.members = Table.insert d.members (MemberService.newMember P env f body) by
          rw [Database.members, hrows, Schema.insert_self]]
      exact .created f body
    | signup body invite =>
      obtain ⟨a, s', -, rfl, hret⟩ := Flight.finish_signup hs
      cases invite with
      | none =>
        obtain ⟨hfam, hmem⟩ := AuthService.finishSignup_none_rows hret
        rw [show householdEvent o = some (.founded body) from hev, hfam, hmem]
        exact .founded body
      | some invite =>
        obtain ⟨cur, -, -, -, hmem, hfam⟩ := AuthService.finishSignup_some_rows hret
        rw [show householdEvent o = some (.joined body) from hev, hfam, hmem]
        exact .joined body cur.familyId cur.role

/-- **A move of a schedule** does what the request it completes, if it
does, has done. -/
theorem household_move (P : Platform) (c : State) (m : Move Env Request) :
    (((concurrentService P).move c m).log = c.log ∧
        HouseholdStep P m.env c.shared.families c.shared.members none
          ((concurrentService P).move c m).shared.families
          ((concurrentService P).move c m).shared.members) ∨
      ∃ o, ((concurrentService P).move c m).log = c.log ++ [o] ∧ o.env = m.env ∧
        HouseholdStep P m.env c.shared.families c.shared.members (householdEvent o)
          ((concurrentService P).move c m).shared.families
          ((concurrentService P).move c m).shared.members := by
  have hfirst : ∀ req d (r : Flight ⊕ Completed Env Request Flight Exn Response),
      (concurrentService P).first m.env req c.shared = (d, r) →
        (∀ o ∈ r.elim (fun _ => none) some, o.env = m.env) ∧
          HouseholdStep P m.env c.shared.families c.shared.members
            ((r.elim (fun _ => none) some).bind householdEvent) d.families d.members := by
    intro req d r hf
    cases r with
    | inl flight => exact ⟨fun _ ho => (Option.not_mem_none _ ho).elim, first_household hf⟩
    | inr o =>
      refine ⟨fun o' ho' => ?_, first_household hf⟩
      rw [← Option.some.inj ho']
      exact (TwoStep.ofPhases_first_done hf).1
  have hsecond : ∀ flight d o, (concurrentService P).second m.env flight c.shared = (d, o) →
      (∀ o' ∈ some o, o'.env = m.env) ∧
        HouseholdStep P m.env c.shared.families c.shared.members ((some o).bind householdEvent)
          d.families d.members := by
    intro flight d o hf
    refine ⟨fun o' ho' => ?_, finish_household hf⟩
    rw [← Option.some.inj ho']
    exact (TwoStep.ofPhases_second hf).1
  obtain ⟨r, hlog, henv, hs⟩ := TwoStep.move_cases (M := concurrentService P)
    (R := fun r d => (∀ o ∈ r, o.env = m.env) ∧
      HouseholdStep P m.env c.shared.families c.shared.members (r.bind householdEvent) d.families
        d.members) c m ⟨fun _ ho => (Option.not_mem_none _ ho).elim, .same⟩ hfirst hsecond
  cases r with
  | none => exact Or.inl ⟨hlog.trans (List.append_nil _), hs⟩
  | some o => exact Or.inr ⟨o, hlog, henv o rfl, hs⟩

/-! ## Serial runs -/

/-- **What an answered request has done to the members.** -/
def answeredEvent (req : Request) : Except Exn Response → Option HouseholdEvent
  | .ok _ => req.householdEvent
  | .error _ => none

/-- The first part of `refresh` adds nobody. -/
theorem RefreshTokenService.beginRotate_householdEvent {raw : String} {s s' : Session Database}
    {flight : Flight} (h : (beginRotate P env raw).Returns s flight s') :
    flight.householdEvent = none := by
  obtain ⟨found, s₁, -, h₁⟩ := Tx.returns_bind.mp h
  obtain ⟨row, s₂, -, h₂⟩ := Tx.returns_bind.mp h₁
  rcases Tx.returns_ite.mp h₂ with ⟨-, h₃⟩ | ⟨-, h₃⟩
  · obtain ⟨rows, s₃, -, hp⟩ := Tx.returns_bind.mp h₃
    rw [(Tx.returns_pure.mp hp).1]
    rfl
  · rcases Tx.returns_ite.mp h₃ with ⟨-, hr⟩ | ⟨-, hp⟩
    · exact absurd hr Tx.returns_raise
    · rw [(Tx.returns_pure.mp hp).1]
      rfl

/-- The first part of `logout` adds nobody. -/
theorem RefreshTokenService.beginRevoke_householdEvent {raw : String} {s s' : Session Database}
    {flight : Flight} (h : (beginRevoke P env raw).Returns s (some flight) s') :
    flight.householdEvent = none := by
  obtain ⟨found, s₁, -, h₁⟩ := Tx.returns_bind.mp h
  cases found with
  | none => exact absurd (Tx.returns_pure.mp h₁).1 (Option.some_ne_none _)
  | some row =>
    obtain ⟨rows, s₂, -, hp⟩ := Tx.returns_bind.mp h₁
    rw [Option.some.inj (Tx.returns_pure.mp hp).1]
    rfl

/-- **A request left in flight** will add whom it was to add. -/
theorem Request.begin_householdEvent {req : Request} {s s' : Session Database} {flight : Flight}
    (h : (req.begin P env).Returns s (.inl flight) s') :
    flight.householdEvent = req.householdEvent := by
  cases req with
  | auth op =>
    cases op with
    | signup body =>
      obtain ⟨flight', s₁, h₁, hp⟩ := Tx.returns_bind.mp h
      obtain rfl := Sum.inl.inj (Tx.returns_pure.mp hp).1
      show _ = if body.inviteCode = none then some (HouseholdEvent.founded body) else
        some (HouseholdEvent.joined body)
      obtain ⟨-, -, ⟨hcode, rfl⟩ | ⟨code, invite, hcode, -, -, -, rfl⟩⟩ :=
        AuthService.beginSignup_returns.mp h₁
      · rw [if_pos hcode]
        rfl
      · rw [if_neg (by rw [hcode]; exact Option.some_ne_none _)]
        rfl
    | login body =>
      obtain ⟨_, _, -, hp⟩ := Tx.returns_bind.mp h
      exact absurd (Tx.returns_pure.mp hp).1 Sum.inl_ne_inr
    | refresh raw =>
      obtain ⟨flight', s₁, h₁, hp⟩ := Tx.returns_bind.mp h
      obtain rfl := Sum.inl.inj (Tx.returns_pure.mp hp).1
      exact RefreshTokenService.beginRotate_householdEvent h₁
    | logout raw =>
      obtain ⟨found, s₁, h₁, hp⟩ := Tx.returns_bind.mp h
      cases found with
      | none => exact absurd (Tx.returns_pure.mp hp).1 Sum.inl_ne_inr
      | some flight' =>
        obtain rfl := Sum.inl.inj (Tx.returns_pure.mp hp).1
        exact RefreshTokenService.beginRevoke_householdEvent h₁
  | family f op =>
    cases hop : op.oneStep with
    | true =>
      rw [Request.begin_oneStep hop] at h
      obtain ⟨_, _, -, hp⟩ := Tx.returns_bind.mp h
      exact absurd (Tx.returns_pure.mp hp).1 Sum.inl_ne_inr
    | false =>
      cases op <;> try exact Bool.noConfusion hop
      case createMember body =>
        obtain ⟨_, _, -, hp⟩ := Tx.returns_bind.mp h
        rw [Sum.inl.inj (Tx.returns_pure.mp hp).1]
        rfl
      case upsertProfile memberId body =>
        obtain ⟨_, _, -, hp⟩ := Tx.returns_bind.mp h
        rw [Sum.inl.inj (Tx.returns_pure.mp hp).1]
        rfl
      case revokeInvite inviteId =>
        rw [Request.begin, ← bind_assoc] at h
        obtain ⟨_, _, -, hp⟩ := Tx.returns_bind.mp h
        rw [Sum.inl.inj (Tx.returns_pure.mp hp).1]
        rfl

/-- **Serving a request** does what its answer tells. -/
theorem household_serve (P : Platform) (env : Env) (req : Request) (d : Database) :
    HouseholdStep P env d.families d.members (answeredEvent req (serve P env req d).1)
      (serve P env req d).2.families (serve P env req d).2.members := by
  rcases serve_cases P env req d with ⟨o, hf, ho⟩ | ⟨flight, s, o, hb, hs, ho⟩
  · have hev : answeredEvent req (serve P env req d).1 = householdEvent o := by
      rw [← ho, householdEvent, (TwoStep.ofPhases_first_done hf).2.1]
      cases o.outcome <;> rfl
    rw [hev]
    exact first_household hf
  · have hev : answeredEvent req (serve P env req d).1 = householdEvent o := by
      rw [← ho, householdEvent, (TwoStep.ofPhases_second hs).2.1]
      cases o.outcome with
      | error e => rfl
      | ok response => exact (Request.begin_householdEvent hb).symm
    rw [hev]
    exact finish_household hs
