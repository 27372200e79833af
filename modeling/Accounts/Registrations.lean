import Accounts.Emails
import Accounts.InviteLifecycle

/-!
# Racing registrations of one email

A signup and the creation of a member look whether the email is taken, and
insert the member later. Two of them can both find it free: what keeps the
second from succeeding is the unique column, and what keeps it from leaving
the family it has founded, or the invite it has accepted, is that a failed
flush takes the transaction with it.

`registration_race` is the outcome of any number of such requests with one
email, interleaved in any way: either all of them have lost and the
database is what it was, or one has won, and the database is what its
second step alone makes of it.
-/

open Repository

variable {P : Platform} {env : Env} {d d' : Database} {e : String}

/-- **The email is taken.** -/
def Taken (e : String) (d : Database) : Prop := ∃ m ∈ d.members, m.email = some e

/-! ## Registering on a database -/

/-- **A member with a taken email cannot be inserted**, and the attempt
undoes what the transaction has done so far. -/
theorem FamilyMember.add_taken {s : Session Database} {r : FamilyMember} (hr : r.email = some e)
    (h : Taken e s.working) :
    (Tx.mapError AuthService.integrityAsConflict (add .familyMember r)).Raises s .emailRegistered
      { s with working := s.committed } := by
  obtain ⟨m, hm, hemail⟩ := h
  refine Tx.raises_mapError.mpr ⟨.integrityError,
    raises_add.mpr ⟨rfl, Or.inr ⟨r, rfl, rfl, fun hc => ?_⟩⟩, rfl⟩
  have hunique := ((Schema.consistent_insert_iff s.working.consistent).mp hc).2.1
    (fun r => r.email.map .inr) (List.mem_singleton.mpr rfl) (.inr e)
    (congrArg (Option.map _) hr) m hm
  exact hunique (by rw [hemail]; rfl)

/-- Inserting a member fails as if its email were taken, for whatever
reason. -/
theorem MemberService.insert_raises {s s' : Session Database} {body : MemberCreate} {f : UUID}
    {x : Exn} (h : (insert P env f body).Raises s x s') :
    x = .emailRegistered ∧ s' = { s with working := s.committed } := by
  have h₁ := Tx.raises_bind_pure.mp h
  obtain ⟨x', hadd, rfl⟩ := Tx.raises_mapError.mp h₁
  obtain ⟨rfl, hc | ⟨a, -, rfl, -⟩⟩ := raises_add.mp hadd
  · cases hc
  · exact ⟨rfl, rfl⟩

namespace AuthService

variable (body : SignupRequest)

/-- **Registering a member of a family that is there** fails and leaves
nothing if the email is taken, and succeeds if it is not, as long as both
tokens expire before the calendar ends. -/
theorem register_outcome (hid : ∀ x ∈ d.members, x.id ≠ env.newId .familyMember)
    (htokenId : ∀ x ∈ d.refreshTokens, x.id ≠ env.newId .refreshToken)
    (htoken : ∀ x ∈ d.refreshTokens, x.tokenHash ≠ RefreshTokenCodec.hash P env.token)
    {f : UUID} (hfam : f ∈ d.families.map Family.id) (role : String) (isPrimary : Bool)
    (committed : Database) :
    (Taken body.email d ∧ (register P env body f role isPrimary).Raises ⟨committed, d⟩
        .emailRegistered ⟨committed, committed⟩) ∨
      (¬ Taken body.email d ∧ (TokensExpire P env.now →
        ∃ a s', (register P env body f role isPrimary).Returns ⟨committed, d⟩ a s')) := by
  by_cases htaken : Taken body.email d
  · exact Or.inl ⟨htaken, Tx.raises_bind.mpr (Or.inl (FamilyMember.add_taken rfl htaken))⟩
  · refine Or.inr ⟨htaken, fun hexp => ?_⟩
    obtain ⟨exp, hexp'⟩ := Option.isSome_iff_exists.mp hexp.2
    obtain ⟨access, haccess⟩ : ∃ a, TokenService.issue P env f.str (env.newId .familyMember).str
        = .ok a := TokenService.issue_ok_iff.mpr hexp.1
    exact register_ok hid htokenId htoken body hfam
      (fun m hm hemail => htaken ⟨m, hm, hemail⟩) role isPrimary committed haccess hexp'

/-- **The second part of a signup**, through no invite or one that is
there: it fails and leaves nothing if the email is taken, and succeeds if it
is not, as long as both tokens expire before the calendar ends. -/
theorem finishSignup_outcome (hf : env.Fresh P d) {invite : Option FamilyInvite}
    (hinvite : ∀ i ∈ invite, i.id ∈ d.invites.map (·.id)) :
    (Taken body.email d ∧ (finishSignup P env body invite).Raises ⟨d, d⟩ .emailRegistered ⟨d, d⟩) ∨
      (¬ Taken body.email d ∧ (TokensExpire P env.now →
        ∃ a s', (finishSignup P env body invite).Returns ⟨d, d⟩ a s')) := by
  cases invite with
  | none =>
    have hfamily : schema.Consistent (Schema.insert .family (newFamily env body) d.rows) :=
      (Schema.consistent_insert_iff d.consistent).mpr ⟨hf.id .family,
        fun _ hu => absurd hu List.not_mem_nil, fun _ hp => absurd hp List.not_mem_nil⟩
    -- the database with the family
    let d₁ : Database := ⟨_, hfamily⟩
    have hrest : ∀ T, T ≠ .family → d₁.rows T = d.rows T := fun T hT => Schema.insert_of_ne hT
    have hmembers : d₁.members = d.members := hrest .familyMember (by simp)
    have htokens : d₁.refreshTokens = d.refreshTokens := hrest .refreshToken (by simp)
    have hfound : (foundFamily env body).Returns ⟨d, d⟩ (newFamily env body) ⟨d, d₁⟩ :=
      returns_add.mpr ⟨rfl, d₁, rfl, rfl⟩
    have hnew : env.newId .family ∈ d₁.families.map Family.id := by
      show _ ∈ (Schema.insert .family (newFamily env body) d.rows .family).map Family.id
      rw [Schema.insert_self]
      exact List.mem_map.mpr ⟨_, Table.mem_insert.mpr (Or.inr rfl), rfl⟩
    have hreg := register_outcome (d := d₁) body (hmembers ▸ hf.id .familyMember)
      (htokens ▸ hf.id .refreshToken) (htokens ▸ hf.token) hnew body.role true d
    rw [Taken, hmembers] at hreg
    rcases hreg with ⟨htaken, hraise⟩ | ⟨hfree, hok⟩
    · exact Or.inl ⟨htaken, Tx.raises_bind.mpr (Or.inr ⟨_, _, hfound, hraise⟩)⟩
    · refine Or.inr ⟨hfree, fun hexp => ?_⟩
      obtain ⟨a, s', hret⟩ := hok hexp
      exact ⟨a, s', Tx.returns_bind.mpr ⟨_, _, hfound, hret⟩⟩
  | some invite =>
    obtain ⟨cur, hcur, hid⟩ := List.mem_map.mp (hinvite invite rfl)
    -- the database with the invite accepted
    let d₁ : Database := ⟨_, d.consistent.replace hcur (cur.accept_sameKeys env.now)⟩
    have hrest : ∀ T, T ≠ .familyInvite → d₁.rows T = d.rows T :=
      fun T hT => Schema.replace_of_ne hT
    have hmembers : d₁.members = d.members := hrest .familyMember (by simp)
    have hf₁ : env.Fresh P d₁ := hf.accept hcur rfl
    have haccept : (InviteService.accept env invite).Returns ⟨d, d⟩ (cur.familyId, cur.role)
        ⟨d, d₁⟩ := InviteService.accept_returns.mpr
      ⟨cur, Store.find_eq_some_iff.mpr ⟨hcur, hid⟩, rfl, d₁, rfl, rfl⟩
    have hfam : cur.familyId ∈ d₁.families.map Family.id := by
      rw [show d₁.families = d.families from hrest .family (by simp)]
      exact d.consistent.reference .familyInvite (.family, fun r => some r.familyId)
        List.mem_cons_self cur hcur _ rfl
    have hreg := register_outcome body (hf₁.id .familyMember)
      (hf₁.id .refreshToken) hf₁.token hfam cur.role false d
    rw [Taken, hmembers] at hreg
    rcases hreg with ⟨htaken, hraise⟩ | ⟨hfree, hok⟩
    · exact Or.inl ⟨htaken, Tx.raises_bind.mpr (Or.inr ⟨_, _, haccept, hraise⟩)⟩
    · refine Or.inr ⟨hfree, fun hexp => ?_⟩
      obtain ⟨a, s', hret⟩ := hok hexp
      exact ⟨a, s', Tx.returns_bind.mpr ⟨_, _, haccept, hret⟩⟩

end AuthService

/-! ## The steps of a registration -/

/-- **The request registers the email**: a signup with it, or the creation
of a member with it. -/
def Request.RegistersEmail (e : String) : Request → Prop
  | auth (.signup body) => body.email = e
  | family _ (.createMember body) => body.email = some e
  | _ => False

/-- The move starts no request that does not register the email. -/
def Move.RegistersEmail (e : String) : Move Env Request → Prop
  | .start _ req => req.RegistersEmail e
  | .finish _ _ => True

/-- **A registration in flight**, whose invite is there. -/
def Flight.Registers (e : String) (d : Database) : Flight → Prop
  | signup body invite => body.email = e ∧ ∀ i ∈ invite, i.id ∈ d.invites.map (·.id)
  | createMember _ body => body.email = some e
  | _ => False

/-- A registration in flight does not mind what keeps the invites there. -/
theorem Flight.Registers.mono {flight : Flight} (h : flight.Registers e d)
    (hsub : ∀ i ∈ d.invites.map (·.id), i ∈ d'.invites.map (·.id)) : flight.Registers e d' := by
  cases flight with
  | signup body invite => exact ⟨h.1, fun i hi => hsub _ (h.2 i hi)⟩
  | createMember f body => exact h
  | _ => exact h

/-- A registration revokes nothing. -/
theorem Flight.Registers.revocation {flight : Flight} (h : flight.Registers e d) :
    flight.revocation = none := by
  cases flight with
  | reuse now sessionId rows => exact h.elim
  | logout now sessionId rows => exact h.elim
  | _ => rfl

/-- **The active invite with a code is not found** if the code cannot be
encoded, or if there is none. -/
theorem InviteService.findActive_raises {code : Py.Text} {s s' : Session Database} {x : Exn}
    (h : (findActive P env code).Raises s x s') :
    x = .service (.badRequest "invalid or expired invite code") ∨
      x = .valueError ∧ ¬ code.Encodable := by
  rcases Tx.raises_bind.mp h with h₁ | ⟨codeHash, s₁, -, h₂⟩
  · obtain ⟨hno, rfl⟩ := InviteCodec.hash_error_iff.mp (Tx.raises_lift.mp h₁).1
    exact Or.inr ⟨rfl, hno⟩
  · rw [FamilyInviteRepository.getActiveByCodeHash_eq_read] at h₂
    rcases Tx.raises_bind.mp h₂ with h₃ | ⟨found, s₂, -, h₄⟩
    · exact absurd h₃ Tx.raises_read
    · exact Or.inl (Tx.raises_orRaise.mp h₄).2.1

/-- **The first part of a signup** fails for one of three reasons: the email
is taken, there is no such invite, or the code cannot be encoded. -/
theorem AuthService.beginSignup_raises {body : SignupRequest} {s s' : Session Database} {x : Exn}
    (h : (beginSignup P env body).Raises s x s') :
    x = .emailRegistered ∧ Taken body.email s.working ∨
      x = .service (.badRequest "invalid or expired invite code") ∨
        x = .valueError ∧ ¬ ∀ code ∈ body.inviteCode, code.Encodable := by
  rw [beginSignup, FamilyMemberRepository.getByEmail_eq_read] at h
  rcases Tx.raises_bind.mp h with h₁ | ⟨found, s₁, hread, h₂⟩
  · exact absurd h₁ Tx.raises_read
  · rcases Tx.raises_ite.mp h₂ with ⟨hsome, hr⟩ | ⟨-, h₃⟩
    · obtain ⟨m, hm⟩ := Option.isSome_iff_exists.mp hsome
      have hfound := (Tx.returns_read.mp hread).1.symm.trans hm
      exact Or.inl ⟨(Tx.raises_raise.mp hr).1, m, List.mem_of_find?_eq_some hfound,
        by simpa using List.find?_some hfound⟩
    · cases hcode : body.inviteCode with
      | none =>
        rw [hcode] at h₃
        exact absurd h₃ Tx.raises_pure
      | some code =>
        rw [hcode] at h₃
        refine Or.inr ((InviteService.findActive_raises (Tx.raises_bind_pure.mp h₃)).imp_right ?_)
        rintro ⟨rfl, hno⟩
        exact ⟨rfl, fun hcodes => hno (hcodes code rfl)⟩

/-- **The invite code of a request can be encoded**, if it comes with one. -/
def Request.CodeEncodable : Request → Prop
  | auth (.signup body) => ∀ code ∈ body.inviteCode, code.Encodable
  | _ => True

/-- **A request has lost the race**: it ended in `ConflictError` or, for the
invite it came with, in `BadRequestError` – unless the tokens it was to
issue would have outlived the calendar, or it ended before it was in flight,
with a code that cannot be encoded. -/
def Lost (P : Platform) (o : Completed Env Request Flight Exn Response) : Prop :=
  ∃ x, o.outcome = .error x ∧ (TokensExpire P o.env.now →
    o.source.elim Request.CodeEncodable (fun _ => True) →
    x = .emailRegistered ∨ x = .service (.badRequest "invalid or expired invite code"))

/-- **The first step of a registration** leaves the database as it was, and
the request in flight or lost. -/
theorem first_registers {req : Request} (hreq : req.RegistersEmail e)
    {r : Flight ⊕ Completed Env Request Flight Exn Response}
    (h : (concurrentService P).first env req d = (d', r)) :
    d' = d ∧ r.elim (Flight.Registers e d) (Lost P) := by
  cases r with
  | inl flight =>
    obtain ⟨rfl, s, hret⟩ := TwoStep.ofPhases_first_flight h
    refine ⟨rfl, ?_⟩
    show flight.Registers e d'
    cases req with
    | auth op =>
      cases op with
      | signup body =>
        obtain ⟨flight', s₁, h₁, hp⟩ := Tx.returns_bind.mp hret
        obtain rfl := Sum.inl.inj (Tx.returns_pure.mp hp).1
        obtain ⟨-, -, ⟨-, rfl⟩ | ⟨code, invite, -, hmem, -, -, rfl⟩⟩ :=
          AuthService.beginSignup_returns.mp h₁
        · exact ⟨hreq, fun i hi => absurd hi (Option.not_mem_none i)⟩
        · refine ⟨hreq, fun i hi => ?_⟩
          obtain rfl := Option.some.inj hi
          exact List.mem_map_of_mem hmem
      | _ => exact hreq.elim
    | family f op =>
      cases op with
      | createMember body =>
        obtain ⟨_, s₁, -, hp⟩ := Tx.returns_bind.mp hret
        obtain rfl := Sum.inl.inj (Tx.returns_pure.mp hp).1
        exact hreq
      | _ => exact hreq.elim
  | inr o =>
    obtain ⟨-, hsrc, hs⟩ := TwoStep.ofPhases_first_done h
    cases ho : o.outcome with
    | error x =>
      rw [ho] at hs
      have hclean : Tx.Clean Exn.handled (req.begin P env) := Request.clean_begin rfl req
      refine ⟨hclean.serve hs id, x, ho, fun _ hcodes => ?_⟩
      rw [hsrc] at hcodes
      obtain ⟨s, hraise, -⟩ := Tx.serve_error_iff.mp hs
      cases req with
      | auth op =>
        cases op with
        | signup body =>
          rcases AuthService.beginSignup_raises (Tx.raises_bind_pure.mp hraise) with
            ⟨hx, -⟩ | hx | ⟨-, hno⟩
          · exact Or.inl hx
          · exact Or.inr hx
          · exact absurd hcodes hno
        | _ => exact hreq.elim
      | family f op =>
        cases op with
        | createMember body =>
          exact Or.inl (MemberService.checkEmail_raises (Tx.raises_bind_pure.mp hraise))
        | _ => exact hreq.elim
    | ok response =>
      rw [ho] at hs
      obtain ⟨s, hret, -⟩ := Tx.serve_ok_iff.mp hs
      cases req with
      | auth op =>
        cases op with
        | signup body =>
          obtain ⟨flight, s₁, -, hp⟩ := Tx.returns_bind.mp hret
          exact absurd (Tx.returns_pure.mp hp).1 Sum.inr_ne_inl
        | _ => exact hreq.elim
      | family f op =>
        obtain ⟨hone, -⟩ := Request.begin_family_done hret
        cases op with
        | createMember body => exact Bool.noConfusion hone
        | _ => exact hreq.elim

/-- **Whoever comes to be has taken the email.** -/
theorem HouseholdStep.email_taken {fs fs' : List Family} {ms ms' : List FamilyMember}
    {event : HouseholdEvent} (h : HouseholdStep P env fs ms (some event) fs' ms')
    (he : event.email = some e) : ∃ m ∈ ms', m.email = some e := by
  cases h with
  | founded | joined | created => exact ⟨_, Table.mem_insert.mpr (Or.inr rfl), he⟩
  | deleted hr hp => cases he

/-- A registration in flight will take the email. -/
theorem Flight.Registers.event {flight : Flight} (h : flight.Registers e d) :
    ∃ event, flight.householdEvent = some event ∧ event.email = some e := by
  cases flight with
  | signup body invite =>
    cases invite with
    | none => exact ⟨.founded body, rfl, congrArg some h.1⟩
    | some invite => exact ⟨.joined body, rfl, congrArg some h.1⟩
  | createMember f body => exact ⟨.created body, rfl, h⟩
  | _ => exact h.elim

/-- A second step that raises was served so. -/
theorem Flight.outcome_of_raises {flight : Flight}
    {o : Completed Env Request Flight Exn Response} {x : Exn}
    (h : (concurrentService P).second env flight d = (d', o))
    (hr : (flight.finish P env).Raises ⟨d, d⟩ x ⟨d, d⟩) : o.outcome = .error x ∧ d' = d := by
  obtain ⟨-, -, hs⟩ := TwoStep.ofPhases_second h
  have hserve : Tx.serve Exn.handled (flight.finish P env) d = (.error x, d) :=
    Tx.serve_error_iff.mpr ⟨_, hr, (ite_self d).symm⟩
  exact Prod.ext_iff.mp (hs.symm.trans hserve)

/-- **The outcome of the second step of a registration**: if the email is
taken, `ConflictError`, and if it is not, success, as long as the tokens a
signup issues expire before the calendar ends. -/
theorem Flight.Registers.outcome {flight : Flight} (h : flight.Registers e d)
    (hf : env.Fresh P d) {o : Completed Env Request Flight Exn Response}
    (hs : (concurrentService P).second env flight d = (d', o)) :
    (Taken e d ∧ o.outcome = .error .emailRegistered) ∨
      (¬ Taken e d ∧ ∀ x, o.outcome = .error x → TokensExpire P env.now →
        x = .emailRegistered) := by
  obtain ⟨-, -, hserve⟩ := TwoStep.ofPhases_second hs
  cases flight with
  | signup body invite =>
    obtain ⟨rfl, hinvite⟩ := h
    rcases AuthService.finishSignup_outcome body hf hinvite with
      ⟨htaken, hraise⟩ | ⟨hfree, hok⟩
    · exact Or.inl ⟨htaken, (outcome_of_raises hs (Tx.raises_bind.mpr (Or.inl hraise))).1⟩
    · refine Or.inr ⟨hfree, fun x hx hexp => ?_⟩
      obtain ⟨a, s', hret⟩ := hok hexp
      rw [hx] at hserve
      obtain ⟨s₁, hraise, -⟩ := Tx.serve_error_iff.mp hserve
      have hfinish : ((signup body invite).finish P env).Returns ⟨d, d⟩ (.tokens a) s' :=
        Tx.returns_bind.mpr ⟨a, s', hret, Tx.returns_pure.mpr ⟨rfl, rfl⟩⟩
      exact absurd hraise hfinish.not_raises
  | createMember f body =>
    by_cases htaken : Taken e d
    · have hraise : (MemberService.insert P env f body).Raises ⟨d, d⟩ .emailRegistered ⟨d, d⟩ :=
        Tx.raises_bind.mpr (Or.inl (FamilyMember.add_taken h htaken))
      exact Or.inl ⟨htaken, (outcome_of_raises hs (Tx.raises_bind.mpr (Or.inl hraise))).1⟩
    · refine Or.inr ⟨htaken, fun x hx _ => ?_⟩
      rw [hx] at hserve
      obtain ⟨s₁, hraise, -⟩ := Tx.serve_error_iff.mp hserve
      exact (MemberService.insert_raises (Tx.raises_bind_pure.mp hraise)).1
  | _ => exact h.elim

/-- **The second step of a registration**: it is lost and leaves the
database as it was, or it succeeds and takes the email, which was free. -/
theorem finish_registers {flight : Flight} (h : flight.Registers e d) (hf : env.Fresh P d)
    {o : Completed Env Request Flight Exn Response}
    (hs : (concurrentService P).second env flight d = (d', o)) :
    (Lost P o ∧ d' = d) ∨ ((∃ response, o.outcome = .ok response) ∧ ¬ Taken e d ∧ Taken e d') := by
  have hout := h.outcome hf hs
  obtain ⟨henv, hsrc, hserve⟩ := TwoStep.ofPhases_second hs
  cases ho : o.outcome with
  | error x =>
    rw [ho] at hserve hout
    refine Or.inl ⟨⟨x, ho, fun hexp _ => Or.inl ?_⟩, Flight.finish_error h.revocation hserve⟩
    rcases hout with ⟨-, hx⟩ | ⟨-, hx⟩
    · exact Except.error.inj hx
    · exact hx x rfl (henv ▸ hexp)
  | ok response =>
    rw [ho] at hout
    rcases hout with ⟨-, hx⟩ | ⟨hfree, -⟩
    · cases hx
    · obtain ⟨event, hevent, hemail⟩ := h.event
      have hstep := finish_household hs
      rw [show householdEvent o = some event by
        rw [householdEvent, ho, hsrc]
        exact hevent] at hstep
      exact Or.inr ⟨⟨response, rfl⟩, hfree, hstep.email_taken hemail⟩

/-- A registration leaves the invites there. -/
theorem finish_registers_invites {flight : Flight} (h : flight.Registers e d)
    {o : Completed Env Request Flight Exn Response}
    (hs : (concurrentService P).second env flight d = (d', o)) :
    d'.invites.map (·.id) = d.invites.map (·.id) := by
  obtain ⟨-, -, hserve⟩ := TwoStep.ofPhases_second hs
  cases hred : flight.redeems with
  | none =>
    rw [Flight.finish_invites hred (fun invite hrevoke => ?_) hserve]
    subst hrevoke
    exact h.elim
  | some invite =>
    obtain ⟨body, rfl⟩ := Flight.eq_signup hred
    rcases Flight.finish_redeems hserve with ⟨-, rfl⟩ | ⟨response, -, cur, hcur, -, hinvites, -⟩
    · rfl
    · rw [hinvites]
      exact Table.map_replace (fun x hx hid => hid.symm)

/-! ## The race -/

/-- **One registration has won**: every other one is lost, and the database
is what its second step alone makes of the one the race began with. -/
def WonBy (P : Platform) (d d' : Database)
    (log : List (Completed Env Request Flight Exn Response)) : Prop :=
  ∃ before o after flight, log = before ++ o :: after ∧ (∀ x ∈ before ++ after, Lost P x) ∧
    (∃ response, o.outcome = .ok response) ∧ o.source = .inr flight ∧
    (concurrentService P).second o.env flight d = (d', o)

/-- **How the race stands**: nobody has won and nothing has happened, or
one registration has won, and the email is taken. -/
inductive RaceStands (P : Platform) (e : String) (d d' : Database)
    (log : List (Completed Env Request Flight Exn Response)) : Prop where
  /-- Nobody has won. -/
  | undecided (hlost : ∀ o ∈ log, Lost P o) (hd : d' = d)
  /-- Somebody has. -/
  | won (hwon : WonBy P d d' log) (htaken : Taken e d')

/-- **A lost registration leaves the race as it stands.** -/
theorem RaceStands.lost {log : List (Completed Env Request Flight Exn Response)}
    {o : Completed Env Request Flight Exn Response} {d₀ : Database} (h : RaceStands P e d₀ d log)
    (ho : Lost P o) : RaceStands P e d₀ d (log ++ [o]) := by
  cases h with
  | undecided hlost hd =>
    refine .undecided (fun x hx => ?_) hd
    rcases List.mem_append.mp hx with hx | hx
    · exact hlost x hx
    · rw [List.mem_singleton.mp hx]
      exact ho
  | won hwon htaken =>
    obtain ⟨before, w, after, flight, rfl, hlost, hok, hsrc, hs⟩ := hwon
    refine .won ⟨before, w, after ++ [o], flight, by simp, fun x hx => ?_, hok, hsrc, hs⟩ htaken
    rw [← List.append_assoc] at hx
    rcases List.mem_append.mp hx with hx | hx
    · exact hlost x hx
    · rw [List.mem_singleton.mp hx]
      exact ho

/-- **Racing registrations of one email.** Take any database, and any
number of signups – with or without an invite code – and of creations of
members that all come with one email, in any interleaving of their two
steps. At most one of them succeeds. Every other one ends in `ConflictError`
or in `BadRequestError`, as long as its code can be encoded and the tokens it
would have issued expire before the calendar ends, and leaves nothing: the
database is what it was before the race, or what the second step of the winner
makes of it. -/
theorem registration_race (P : Platform) (d : Database) (e : String)
    (ms : List (Move Env Request)) (hreq : ∀ m ∈ ms, m.RegistersEmail e)
    (hfresh : (concurrentService P).system.Every (fun c m => m.env.Fresh P c.shared)
      ⟨d, [], []⟩ ms) :
    let c := (concurrentService P).system.run ⟨d, [], []⟩ ms
    ((∀ o ∈ c.log, Lost P o) ∧ c.shared = d) ∨ WonBy P d c.shared c.log := by
  intro c
  suffices h : TwoStep.Inv (fun d' log => RaceStands P e d d' log)
      (fun d' l => l.Registers e d') c by
    cases h.1 with
    | undecided hlost hd => exact Or.inl ⟨hlost, hd⟩
    | won hwon htaken => exact Or.inr hwon
  have hstarts : (concurrentService P).system.Every (fun _ m => m.RegistersEmail e)
      ⟨d, [], []⟩ ms := (concurrentService P).system.every_of_forall _ hreq
  refine (concurrentService P).run_invariant ?_ ?_
    ⟨.undecided (by rintro o ⟨⟩) rfl, by rintro l ⟨⟩⟩
    ((concurrentService P).system.every_and hstarts hfresh)
  · rintro c env req ⟨hG, hL⟩ ⟨hreg, -⟩
    constructor
    · intro d' l hf
      obtain ⟨rfl, hl⟩ := first_registers hreg hf
      exact ⟨hG, hl, hL⟩
    · intro d' o hf
      obtain ⟨rfl, hlost⟩ := first_registers hreg hf
      exact ⟨hG.lost hlost, hL⟩
  · rintro c env k l ⟨hG, hL⟩ ⟨-, hfr⟩ hk d' o hf
    have hl := hL l (List.mem_of_getElem? hk)
    have hinvites := finish_registers_invites hl hf
    have hflights : ∀ l' ∈ c.flights.eraseIdx k, l'.Registers e d' := fun l' hl' =>
      (hL l' (List.mem_of_mem_eraseIdx hl')).mono (fun i hi => hinvites ▸ hi)
    refine ⟨?_, hflights⟩
    rcases finish_registers hl hfr hf with ⟨hlost, rfl⟩ | ⟨hok, hfree, htaken⟩
    · exact hG.lost hlost
    · cases hG with
      | undecided hlost hd =>
        obtain ⟨henv, hsrc, -⟩ := TwoStep.ofPhases_second hf
        refine .won ⟨c.log, o, [], l, rfl, fun x hx => hlost x (by simpa using hx), hok, hsrc, ?_⟩
          htaken
        rw [← hd, henv]
        exact hf
      | won hwon htaken' => exact absurd htaken' hfree

/-- Three requests for one email: Bob signs up with the code of an invite
and without, and Ada creates a member with his email. All have found the
email free before the first of them writes. -/
def Sample.race (now : Datetime) : List (Move Env Request) := [
  .start (Sample.env 3 now) (.auth (.signup (Sample.signup "bob@example.org" (some "code-2")))),
  .start (Sample.env 4 now) (.auth (.signup (Sample.signup "bob@example.org" none))),
  .start (Sample.env 5 now) (.family 1 (.createMember (Sample.member (some "bob@example.org")))),
  .finish (Sample.env 4 now) 1,
  .finish (Sample.env 3 now) 0,
  .finish (Sample.env 5 now) 0]

theorem Sample.race_registersEmail (now : Datetime) :
    ∀ m ∈ Sample.race now, m.RegistersEmail "bob@example.org" := by
  intro m hm
  simp only [race, List.mem_cons, List.not_mem_nil, or_false] at hm
  rcases hm with rfl | rfl | rfl | rfl | rfl | rfl
  · exact rfl
  · exact rfl
  · exact rfl
  · trivial
  · trivial
  · trivial

/-- One of the three wins. -/
theorem registration_race_three :
    let P := Sample.platform 2592000
    let d := reached P (Sample.invited (Sample.second 60))
    let c := (concurrentService P).system.run ⟨d, [], []⟩ (Sample.race (Sample.second 120))
    WonBy P d c.shared c.log :=
  (registration_race (Sample.platform 2592000) _ "bob@example.org" _
    (Sample.race_registersEmail _) (by decide +kernel)).resolve_left
    (fun h => absurd (congrArg (fun d : Database => d.families.length) h.2) (by decide +kernel))

/-- Bob signs up with a code that is half of a surrogate pair. -/
def Sample.loneSurrogate : List (Move Env Request) := [
  .start (Sample.env 3 (Sample.second 120)) (.auth (.signup
    { Sample.signup "bob@example.org" none with inviteCode := some [.inr 0] }))]

/-- **Errors that are not handled.** At the end of the calendar both signups
end in an overflow, and it is the creation of the member that wins; at any
time a signup whose code has a surrogate ends in a `ValueError`. -/
theorem registration_race_overflow :
    let P := Sample.platform 2592000
    let d := reached P (Sample.invited (Sample.beforeEnd 120))
    let ms := Sample.race (Sample.beforeEnd 60)
    let d' := reached P (Sample.invited (Sample.second 60))
    ((∀ m ∈ ms, m.RegistersEmail "bob@example.org") ∧
      (concurrentService P).system.Every (fun c m => m.env.Fresh P c.shared) ⟨d, [], []⟩ ms ∧
      ∃ o ∈ ((concurrentService P).system.run ⟨d, [], []⟩ ms).log,
        o.outcome = .error .overflowError) ∧
    (∀ m ∈ Sample.loneSurrogate, m.RegistersEmail "bob@example.org") ∧
      (concurrentService P).system.Every (fun c m => m.env.Fresh P c.shared) ⟨d', [], []⟩
        Sample.loneSurrogate ∧
      ∃ o ∈ ((concurrentService P).system.run ⟨d', [], []⟩ Sample.loneSurrogate).log,
        o.outcome = .error .valueError := by
  refine ⟨⟨Sample.race_registersEmail _, by decide +kernel, by decide +kernel⟩, ?_,
    by decide +kernel, by decide +kernel⟩
  intro m hm
  obtain rfl := List.mem_singleton.mp hm
  exact rfl
