import Accounts.Phases

/-!
# A failing request leaves the committed state as it was

A handled exception commits. So a request whose service method raises
after it has written would leave half of its work behind, unless what
made it raise undid the transaction. Every method is of one of three
shapes, and the rules for `Tx.Clean` and `Tx.Undoes` follow them:

* it only reads (`reads_…`);
* it reads, and then sends statements of which a failing one undoes the
  transaction (`clean_…`, `undoes_…`) – this includes the insert of a
  member, whose failure is renamed to a handled `ConflictError`;
* it is the rest of a `rotate` that has detected reuse, which revokes the
  session and then raises an exception that is handled. That one commits
  on purpose.
-/

open Tx hiding serve

variable {P : Platform} {env : Env} {handled : Exn → Bool}

/-! ## The repository -/

namespace Repository

variable {T : TableName}

theorem reads_getMany (p : T.Row → Bool) : Reads (getMany T p) := Reads.read _

theorem reads_getOneOrNone (p : T.Row → Bool) : Reads (getOneOrNone T p) := by
  refine Reads.bind (reads_getMany p) (fun rows => ?_)
  match rows with
  | [] => exact Reads.pure _
  | [r] => exact Reads.pure _
  | _ :: _ :: _ => exact Reads.raise _

theorem undoes_add (r : T.Row) : Undoes handled (add T r) := Undoes.flush _

theorem undoes_update (id : UUID) (changes : T.Row → Except Exn T.Row) :
    Undoes handled (update env T id changes) := Undoes.flush _

theorem undoes_delete (id : UUID) : Undoes handled (delete T id) := Undoes.flush _

/-- A list of rows in some order. -/
theorem reads_sorted {β : Type} (p : T.Row → Bool) (f : List T.Row → β) :
    Reads (do let rows ← getMany T p; return f rows) :=
  Reads.bind (reads_getMany p) (fun _ => Reads.pure _)

/-- A row that has to be there. -/
theorem reads_required (p : T.Row → Bool) (e : Exn) :
    Reads (do Tx.orRaise e (← getOneOrNone T p)) :=
  Reads.bind (reads_getOneOrNone p) (fun _ => Reads.orRaise _ _)

end Repository

open Repository

/-! ## Statements of the services -/

theorem RefreshTokenRepository.undoes_revokeRows (rows : List RefreshToken) :
    Undoes handled (RefreshTokenRepository.revokeRows env rows) :=
  Undoes.bind (Undoes.forM (fun _ => Undoes.bind (undoes_update _ _) (fun _ => Undoes.pure _)) _)
    (fun _ => Undoes.pure _)

section Overflow

variable (hover : handled .overflowError = false)

include hover

theorem RefreshTokenService.undoes_issue (familyId memberId : UUID) (sessionId : Option UUID) :
    Undoes handled (RefreshTokenService.issue P env familyId memberId sessionId) :=
  Undoes.bind (Undoes.orRaise hover _)
    (fun _ => Undoes.bind (undoes_add _) (fun _ => Undoes.pure _))

theorem TokenService.undoes_issue (familyId memberId : String) :
    Undoes handled (Tx.lift (TokenService.issue P env familyId memberId) : Op String) :=
  Undoes.lift (fun e he => by rw [TokenService.issue_error he, hover])

theorem AuthService.undoes_issueTokens (familyId memberId : UUID) :
    Undoes handled (AuthService.issueTokens P env familyId memberId) :=
  Undoes.bind (TokenService.undoes_issue hover _ _)
    (fun _ => Undoes.bind (RefreshTokenService.undoes_issue hover _ _ _) (fun _ => Undoes.pure _))

/-- **The insert of a member fails cleanly**, although the failure is
reported as a handled conflict. -/
theorem AuthService.undoes_register (body : SignupRequest) (familyId : UUID) (role : String)
    (isPrimary : Bool) : Undoes handled (AuthService.register P env body familyId role isPrimary) :=
  Undoes.bind (Undoes.mapError_flush _ _) (fun _ => AuthService.undoes_issueTokens hover _ _)

theorem AuthService.undoes_finishSignup (body : SignupRequest) (invite : Option FamilyInvite) :
    Undoes handled (AuthService.finishSignup P env body invite) := by
  cases invite with
  | none =>
    exact Undoes.bind (undoes_add _) (fun _ => AuthService.undoes_register hover _ _ _ _)
  | some invite =>
    refine Undoes.bind (Undoes.bind (undoes_update _ _) (fun _ => Undoes.pure _)) (fun _ => ?_)
    exact AuthService.undoes_register hover _ _ _ _

theorem AuthService.undoes_finishRefresh (row : RefreshToken) :
    Undoes handled (AuthService.finishRefresh P env row) := by
  refine Undoes.bind (Undoes.bind (undoes_update _ _) (fun _ => ?_)) (fun _ => ?_)
  · exact Undoes.bind (RefreshTokenService.undoes_issue hover _ _ _) (fun _ => Undoes.pure _)
  · exact Undoes.bind (TokenService.undoes_issue hover _ _) (fun _ => Undoes.pure _)

end Overflow

/-- **The rest of a request in flight undoes what it wrote when it
fails** – of a reuse detection, as far as its own exception does not count
as handled. -/
theorem Flight.undoes_finish (handled : Exn → Bool) (hover : handled .overflowError = false)
    (flight : Flight)
    (hreuse : (∃ now sessionId rows, flight = .reuse now sessionId rows) →
      handled .tokenReuse = false) :
    Undoes handled (flight.finish P env) := by
  cases flight with
  | exchange row =>
    exact Undoes.bind (AuthService.undoes_finishRefresh hover row) (fun _ => Undoes.pure _)
  | reuse now sessionId rows =>
    exact Undoes.bind (RefreshTokenRepository.undoes_revokeRows rows)
      (fun _ => Undoes.raise (hreuse ⟨now, sessionId, rows, rfl⟩))
  | logout now sessionId rows =>
    exact Undoes.bind (RefreshTokenRepository.undoes_revokeRows rows) (fun _ => Undoes.pure _)
  | signup body invite =>
    exact Undoes.bind (AuthService.undoes_finishSignup hover body invite) (fun _ => Undoes.pure _)
  | revokeInvite invite =>
    exact Undoes.bind (undoes_delete _) (fun _ => Undoes.pure _)
  | createMember familyId body =>
    exact Undoes.bind (Undoes.bind (Undoes.mapError_flush _ _) (fun _ => Undoes.pure _))
      (fun _ => Undoes.pure _)
  | upsertProfile memberId body profile =>
    refine Undoes.bind ?_ (fun _ => Undoes.pure _)
    cases profile with
    | none => exact undoes_add _
    | some profile => exact undoes_update _ _

/-! ## Reading methods -/

namespace MemberService

theorem reads_require (familyId memberId : UUID) : Reads (require familyId memberId) :=
  reads_required _ _

theorem reads_checkEmail (body : MemberCreate) : Reads (checkEmail body) := by
  unfold checkEmail
  split
  · exact Reads.pure _
  · refine Reads.bind (reads_getOneOrNone _) (fun found => ?_)
    split
    · exact Reads.raise _
    · exact Reads.pure _

theorem reads_findProfile (familyId memberId : UUID) : Reads (findProfile familyId memberId) :=
  Reads.bind (reads_require _ _) (fun _ => reads_getOneOrNone _)

end MemberService

theorem ChildService.reads_require (familyId childId : UUID) : Reads (require familyId childId) :=
  reads_required _ _

theorem ChildService.reads_requireEntry (childId entryId : UUID) :
    Reads (requireEntry childId entryId) :=
  reads_required _ _

theorem PolicyService.reads_require (familyId policyId : UUID) :
    Reads (require familyId policyId) :=
  reads_required _ _

theorem PolicyService.reads_resolveChild (childId : Option String) (familyId : UUID) :
    Reads (resolveChild childId familyId) := by
  unfold resolveChild
  split
  · exact Reads.pure _
  · refine Reads.bind (Reads.orRaise _ _) (fun _ => Reads.bind (reads_getOneOrNone _) (fun _ => ?_))
    exact Reads.bind (Reads.orRaise _ _) (fun _ => Reads.pure _)

theorem FamilyContextLoader.reads_load (familyId : UUID) : Reads (load env familyId) := by
  refine Reads.bind (reads_getOneOrNone _) (fun family => ?_)
  cases family with
  | none => exact Reads.pure _
  | some family =>
    refine Reads.bind (reads_sorted _ _) (fun _ => Reads.bind (Reads.read _) (fun _ => ?_))
    refine Reads.bind (reads_sorted _ _) (fun _ => Reads.bind (Reads.read _) (fun _ => ?_))
    exact Reads.bind (reads_sorted _ _) (fun _ => Reads.pure _)

theorem RefreshTokenService.reads_beginRotate (raw : String) : Reads (beginRotate P env raw) := by
  refine Reads.bind (reads_getOneOrNone _) (fun _ => Reads.bind (Reads.orRaise _ _) (fun row => ?_))
  split
  · exact Reads.bind (reads_getMany _) (fun _ => Reads.pure _)
  · split
    · exact Reads.raise _
    · exact Reads.pure _

theorem RefreshTokenService.reads_beginRevoke (raw : String) : Reads (beginRevoke P env raw) := by
  refine Reads.bind (reads_getOneOrNone _) (fun row => ?_)
  cases row with
  | none => exact Reads.pure _
  | some row => exact Reads.bind (reads_getMany _) (fun _ => Reads.pure _)

theorem InviteService.reads_findActive (code : Py.Text) : Reads (findActive P env code) :=
  Reads.bind (Reads.lift _)
    (fun _ => Reads.bind (reads_getOneOrNone _) (fun _ => Reads.orRaise _ _))

theorem AuthService.reads_beginSignup (body : SignupRequest) : Reads (beginSignup P env body) := by
  refine Reads.bind (reads_getOneOrNone _) (fun found => ?_)
  split
  · exact Reads.raise _
  · split
    · exact Reads.bind (InviteService.reads_findActive _) (fun _ => Reads.pure _)
    · exact Reads.pure _

/-! ## Writing methods -/

theorem AuthService.clean_login (hover : handled .overflowError = false) (body : LoginRequest) :
    Clean handled (login P env body) := by
  refine Clean.bind (reads_getOneOrNone _) (fun member => ?_)
  cases member with
  | none => exact Clean.of_reads (Reads.raise _)
  | some member =>
    refine Clean.bind (Reads.lift _) (fun ok => ?_)
    split
    · exact (undoes_issueTokens hover _ _).clean
    · exact Clean.of_reads (Reads.raise _)

theorem InviteService.clean_create (familyId createdByMemberId : UUID) (body : InviteCreate) :
    Clean handled (create P env familyId createdByMemberId body) :=
  Clean.bind (Reads.lift _) (fun _ => (undoes_add _).clean.map _)

theorem MemberService.clean_delete (familyId memberId : UUID) :
    Clean handled (delete familyId memberId) := by
  refine Clean.bind (reads_require _ _) (fun member => ?_)
  split
  · exact Clean.of_reads (Reads.raise _)
  · exact (undoes_delete _).clean

theorem ChildService.clean_create (familyId : UUID) (body : ChildCreate) :
    Clean handled (create env familyId body) :=
  (Undoes.bind (undoes_add _) (fun _ => Undoes.bind (undoes_add _) (fun _ => Undoes.pure _))).clean

theorem ChildService.clean_upsertReadingProfile (familyId childId : UUID)
    (body : ReadingProfileUpsert) :
    Clean handled (upsertReadingProfile env familyId childId body) := by
  refine Clean.bind (reads_require _ _) (fun _ =>
    Clean.bind (reads_getOneOrNone _) (fun found => ?_))
  cases found with
  | none => exact (undoes_add _).clean
  | some profile => exact (undoes_update _ _).clean

/-- **Every operation scoped to a family that runs in one step is clean.** -/
theorem FamilyOp.clean_run (familyId : UUID) {op : FamilyOp} (h : op.oneStep = true) :
    Clean handled (op.run P env familyId) := by
  cases op with
  | getFamily => exact (Clean.of_reads (reads_required _ _)).map _
  | updateFamily body =>
    exact (Clean.bind (reads_getOneOrNone _) (fun _ => Clean.bind (Reads.orRaise _ _)
      (fun _ => (undoes_update _ _).clean))).map _
  | listMembers =>
    exact (Clean.of_reads (Reads.bind (reads_sorted _ _) (fun _ => Reads.pure _))).map _
  | createMember body => cases h
  | getMember memberId =>
    exact (Clean.of_reads (MemberService.reads_require _ _)).map _ |>.map _
  | updateMember memberId body =>
    exact (Clean.bind (MemberService.reads_require _ _)
      (fun _ => (undoes_update _ _).clean.map _)).map _
  | deleteMember memberId => exact (MemberService.clean_delete _ _).map _
  | getProfile memberId =>
    exact (Clean.of_reads (Reads.bind (MemberService.reads_require _ _)
      (fun _ => reads_required _ _))).map _
  | upsertProfile memberId body => cases h
  | createInvite createdByMemberId body => exact (InviteService.clean_create _ _ _).map _
  | listInvites =>
    exact (Clean.of_reads (Reads.bind (reads_sorted _ _) (fun _ => Reads.pure _))).map _
  | revokeInvite inviteId => cases h
  | listChildren => exact (Clean.of_reads (reads_sorted _ _)).map _
  | createChild body => exact (ChildService.clean_create _ _).map _
  | getChild childId => exact (Clean.of_reads (ChildService.reads_require _ _)).map _
  | updateChild childId body =>
    exact (Clean.bind (ChildService.reads_require _ _) (fun _ => (undoes_update _ _).clean)).map _
  | deleteChild childId =>
    exact (Clean.bind (ChildService.reads_require _ _) (fun _ => (undoes_delete _).clean)).map _
  | getReadingProfile childId =>
    exact (Clean.of_reads (Reads.bind (ChildService.reads_require _ _)
      (fun _ => reads_required _ _))).map _
  | upsertReadingProfile childId body =>
    exact (ChildService.clean_upsertReadingProfile _ _ _).map _
  | listReadingHistory childId =>
    exact (Clean.of_reads (Reads.bind (ChildService.reads_require _ _)
      (fun _ => reads_sorted _ _))).map _
  | addReadingHistory childId body =>
    exact (Clean.bind (ChildService.reads_require _ _) (fun _ => (undoes_add _).clean)).map _
  | updateReadingHistory childId entryId body =>
    exact (Clean.bind (ChildService.reads_require _ _) (fun _ =>
      Clean.bind (ChildService.reads_requireEntry _ _) (fun _ => (undoes_update _ _).clean))).map _
  | deleteReadingHistory childId entryId =>
    exact (Clean.bind (ChildService.reads_require _ _) (fun _ =>
      Clean.bind (ChildService.reads_requireEntry _ _) (fun _ => (undoes_delete _).clean))).map _
  | listPolicies => exact (Clean.of_reads (reads_sorted _ _)).map _
  | createPolicy body =>
    exact (Clean.bind (PolicyService.reads_resolveChild _ _)
      (fun _ => (undoes_add _).clean)).map _
  | updatePolicy policyId body =>
    exact (Clean.bind (PolicyService.reads_require _ _)
      (fun _ => (undoes_update _ _).clean)).map _
  | deletePolicy policyId =>
    exact (Clean.bind (PolicyService.reads_require _ _)
      (fun _ => (undoes_delete _).clean)).map _
  | context => exact (Clean.of_reads (FamilyContextLoader.reads_load _)).map _

/-! ## Requests -/

/-- **The first part of a request is clean.** -/
theorem Request.clean_begin (hover : handled .overflowError = false) (req : Request) :
    Clean handled (req.begin P env) := by
  cases req with
  | auth op =>
    cases op with
    | signup body => exact (Clean.of_reads (AuthService.reads_beginSignup body)).map _
    | login body => exact (Clean.map (AuthService.clean_login hover body) _).map _
    | refresh raw => exact (Clean.of_reads (RefreshTokenService.reads_beginRotate raw)).map _
    | logout raw =>
      refine Clean.of_reads (Reads.bind (RefreshTokenService.reads_beginRevoke raw) (fun r => ?_))
      cases r <;> exact Reads.pure _
  | family familyId op =>
    cases h : op.oneStep with
    | true =>
      rw [Request.begin_oneStep h]
      exact (FamilyOp.clean_run familyId h).map _
    | false =>
      cases op <;> try exact Bool.noConfusion h
      case createMember body =>
        exact Clean.of_reads (Reads.bind (MemberService.reads_checkEmail body)
          (fun _ => Reads.pure _))
      case upsertProfile memberId body =>
        exact (Clean.of_reads (MemberService.reads_findProfile familyId memberId)).map _
      case revokeInvite inviteId =>
        exact Clean.of_reads (Reads.bind (reads_getOneOrNone _)
          (fun _ => Reads.bind (Reads.orRaise _ _) (fun _ => Reads.pure _)))

/-- A step that is the whole of its request leaves none in flight. -/
theorem Request.not_returns_inl {t : Op Response} {s s' : Session Database} {flight : Flight} :
    ¬ (do return .inr (← t) : Op (Flight ⊕ Response)).Returns s (.inl flight) s' := by
  intro ht
  obtain ⟨r, s₁, -, h₂⟩ := Tx.returns_bind.mp ht
  exact absurd (Tx.returns_pure.mp h₂).1 (by simp)

/-- A request left in flight has only read. -/
theorem Request.begin_flight {req : Request} {s s' : Session Database} {flight : Flight}
    (h : (req.begin P env).Returns s (.inl flight) s') : s' = s := by
  cases req with
  | auth op =>
    cases op with
    | signup body =>
      exact (Reads.bind (AuthService.reads_beginSignup body) (fun _ => Reads.pure _)).returns h
    | login body => exact absurd h Request.not_returns_inl
    | refresh raw =>
      exact (Reads.bind (RefreshTokenService.reads_beginRotate raw)
        (fun _ => Reads.pure _)).returns h
    | logout raw =>
      refine Reads.returns (Reads.bind (RefreshTokenService.reads_beginRevoke raw)
        (fun r => ?_)) h
      cases r <;> exact Reads.pure _
  | family familyId op =>
    cases hop : op.oneStep with
    | true =>
      rw [Request.begin_oneStep hop] at h
      exact absurd h Request.not_returns_inl
    | false =>
      cases op <;> try exact Bool.noConfusion hop
      case createMember body =>
        exact (Reads.bind (MemberService.reads_checkEmail body) (fun _ => Reads.pure _)).returns h
      case upsertProfile memberId body =>
        exact (Reads.bind (MemberService.reads_findProfile familyId memberId)
          (fun _ => Reads.pure _)).returns h
      case revokeInvite inviteId =>
        exact (Reads.bind (reads_getOneOrNone _)
          (fun _ => Reads.bind (Reads.orRaise _ _) (fun _ => Reads.pure _))).returns h

/-- **Without interference the two steps of a request are the request.** -/
theorem concurrentService_serial (req : Request) (d : Database) :
    (((concurrentService P).serial env env req d).1.outcome,
        ((concurrentService P).serial env env req d).2)
      = serve P env req d := by
  rw [TwoStep.ofPhases_serial env env req d (fun l s h => Request.begin_flight h), serve,
    Request.run_eq_begin_finish]

/-- **Serving a request is its first step**, followed by the second when it
was left in flight. -/
theorem serve_cases (P : Platform) (env : Env) (req : Request) (d : Database) :
    (∃ o, (concurrentService P).first env req d = ((serve P env req d).2, .inr o) ∧
        o.outcome = (serve P env req d).1) ∨
      ∃ flight s o, ((req.begin P env).Returns ⟨d, d⟩ (.inl flight) s) ∧
        (concurrentService P).second env flight d = ((serve P env req d).2, o) ∧
        o.outcome = (serve P env req d).1 := by
  have h : (((concurrentService P).serial env env req d).1.outcome,
      ((concurrentService P).serial env env req d).2) = serve P env req d :=
    concurrentService_serial req d
  cases hf : (concurrentService P).first env req d with
  | mk d' r =>
    cases r with
    | inr o =>
      rw [TwoStep.serial, hf] at h
      exact Or.inl ⟨o, Prod.ext (congrArg Prod.snd h) rfl, congrArg Prod.fst h⟩
    | inl flight =>
      rw [TwoStep.serial, hf] at h
      obtain ⟨rfl, s, hs⟩ := TwoStep.ofPhases_first_flight hf
      exact Or.inr ⟨flight, s, _, hs, Prod.ext (congrArg Prod.snd h) rfl, congrArg Prod.fst h⟩

/-- **A serial run is a schedule**: each request is finished as soon as it
is started. -/
theorem exists_schedule (P : Platform) (run : List (Env × Request)) (c : State) :
    ∃ ms, ((concurrentService P).system.run c ms).shared = (service P).run c.shared run := by
  induction run generalizing c with
  | nil => exact ⟨[], rfl⟩
  | cons i run ih =>
    obtain ⟨env, req⟩ := i
    have hnext : (service P).next c.shared (env, req)
        = ((concurrentService P).serial env env req c.shared).2 :=
      (congrArg Prod.snd (concurrentService_serial req c.shared)).symm
    rw [Process.run_cons, hnext]
    cases hf : (concurrentService P).first env req c.shared with
    | mk d r =>
      cases r with
      | inl flight =>
        obtain ⟨ms, hms⟩ := ih ⟨((concurrentService P).serial env env req c.shared).2, c.flights,
          c.log ++ [((concurrentService P).serial env env req c.shared).1]⟩
        refine ⟨[.start env req, .finish env c.flights.length] ++ ms, ?_⟩
        rw [Process.run_append, TwoStep.run_start_finish _ env env req c hf]
        exact hms
      | inr o =>
        obtain ⟨ms, hms⟩ := ih ⟨d, c.flights, c.log ++ [o]⟩
        refine ⟨.start env req :: ms, ?_⟩
        rw [Process.run_cons, TwoStep.system_next, TwoStep.move_start_done hf, hms,
          TwoStep.serial, hf]

/-! ## Exceptions nobody handles

Exchanging a live token can fail – the clock may be too close to the end
of the calendar – but never with an exception that is handled. So the only
way `refresh` reports reuse is to have detected it. -/

theorem Repository.escapes_add (r : RefreshToken) : Escapes Exn.handled (add .refreshToken r) := by
  refine Escapes.flush (fun d e h => ?_)
  simp only [TableName.coerce] at h
  split at h
  · cases h
    rfl
  · cases h

theorem Repository.escapes_update (id : UUID) (changes : RefreshToken → RefreshToken) :
    Escapes Exn.handled (update env .refreshToken id (fun r => .ok (changes r))) := by
  refine Escapes.flush (fun d e h => ?_)
  split at h
  · cases h
    rfl
  · next old _ =>
    rw [show (Except.ok (changes old) >>= TableName.written env.now .refreshToken old)
      = .ok (changes old) from TableName.written_refreshToken env.now old (changes old)] at h
    dsimp only at h
    split at h
    · cases h
      rfl
    · cases h

theorem AuthService.escapes_issue (familyId memberId : String) :
    Escapes Exn.handled (Tx.lift (TokenService.issue P env familyId memberId) : Op String) :=
  Escapes.lift (fun e he => by rw [TokenService.issue_error he]; rfl)

theorem RefreshTokenService.escapes_exchange (row : RefreshToken) :
    Escapes Exn.handled (exchange P env row) := by
  refine Escapes.bind (Repository.escapes_update _ _) (fun row => ?_)
  refine Escapes.bind (Escapes.bind (Escapes.orRaise rfl _) (fun _ => ?_)) (fun _ => Escapes.pure _)
  exact Escapes.bind (Repository.escapes_add _) (fun _ => Escapes.pure _)

/-- **What `refresh` leaves when it reports reuse**: the session of the
presented token, burnt. -/
theorem AuthService.refresh_reuse {raw : String} {s s' : Session Database}
    (h : (AuthService.refresh P env raw).Raises s .tokenReuse s') :
    ∃ row ∈ s.working.refreshTokens, row.tokenHash = RefreshTokenCodec.hash P raw ∧
      s'.working.rows = Function.update s.working.rows .refreshToken
        (s.working.refreshTokens.map (fun x => x.burn env.now row.sessionId)) := by
  rcases Tx.raises_bind.mp h with hrot | ⟨r, s₁, -, hissue⟩
  · simp only [RefreshTokenService.rotate, RefreshTokenRepository.getByTokenHash_eq_read,
      Tx.raises_bind, Tx.raises_read, Tx.returns_read, Tx.raises_orRaise, Tx.returns_orRaise,
      false_or, exists_and_left, exists_eq_left, and_assoc] at hrot
    rcases hrot with ⟨-, he, -⟩ | ⟨row, hrow, hrest⟩
    · exact absurd he (by decide)
    · have hmem := List.mem_of_find?_eq_some hrow
      have hhash : row.tokenHash = RefreshTokenCodec.hash P raw := by
        simpa using List.find?_some hrow
      rcases Tx.raises_ite.mp hrest with ⟨-, hburn⟩ | ⟨-, hrest⟩
      · obtain ⟨d, n, hd, hret⟩ := RefreshTokenRepository.revokeSession_returns env s
          row.sessionId
        rcases Tx.raises_bind.mp hburn with hno | ⟨n', s₂, hret', hraise⟩
        · exact absurd hno hret.not_raises
        · obtain ⟨-, rfl⟩ := hret.eq hret'
          obtain ⟨-, rfl⟩ := Tx.raises_raise.mp hraise
          exact ⟨row, hmem, hhash, hd⟩
      · rcases Tx.raises_ite.mp hrest with ⟨-, hexp⟩ | ⟨-, hexch⟩
        · exact absurd (Tx.raises_raise.mp hexp).1 (by decide)
        · exact absurd (RefreshTokenService.escapes_exchange row _ _ _ hexch) (by decide)
  · have hesc : Escapes Exn.handled (do
        let access ← Tx.lift (TokenService.issue P env r.2.1 r.2.2)
        return (⟨access, r.2.1, r.2.2, r.1⟩ : IssuedTokens) : Op IssuedTokens) :=
      Escapes.bind (AuthService.escapes_issue _ _) (fun _ => Escapes.pure _)
    exact absurd (hesc _ _ _ hissue) (by decide)

/-! ## The result -/

/-- What counts as handled when the deliberate exception of reuse detection
does not. -/
def Exn.handledButReuse (e : Exn) : Bool := e.handled && e ≠ .tokenReuse

/-- **Every request is clean, but for reuse detection.** -/
theorem Request.clean_run (req : Request) : Clean Exn.handledButReuse (req.run P env) := by
  rw [Request.run_eq_begin_finish]
  refine (Request.clean_begin rfl req).bind_undoes (fun r => ?_) (fun r _ _ _ => ?_)
  · cases r with
    | inl flight => exact (Flight.undoes_finish Exn.handledButReuse rfl flight
        (fun _ => rfl)).keeps
    | inr response => exact KeepsCommitted.of_reads (Reads.pure _)
  · cases r with
    | inl flight => exact Flight.undoes_finish _ rfl flight (fun _ => rfl)
    | inr response => exact Undoes.pure _

/-- Only `refresh` leaves a reuse detection in flight. -/
theorem Request.begin_reuse {req : Request} {s s' : Session Database} {now : Datetime}
    {sessionId : UUID} {rows : List RefreshToken}
    (h : (req.begin P env).Returns s (.inl (.reuse now sessionId rows)) s') :
    ∃ raw, req = .auth (.refresh raw) := by
  cases req with
  | auth op =>
    cases op with
    | refresh raw => exact ⟨raw, rfl⟩
    | login body => exact absurd h Request.not_returns_inl
    | signup body =>
      obtain ⟨flight, s₁, h₁, h₂⟩ := Tx.returns_bind.mp h
      obtain ⟨hf, -⟩ := Tx.returns_pure.mp h₂
      cases hf
      obtain ⟨found, s₂, -, h₃⟩ := Tx.returns_bind.mp h₁
      rcases Tx.returns_ite.mp h₃ with ⟨-, h₄⟩ | ⟨-, h₄⟩
      · exact absurd h₄ Tx.returns_raise
      · split at h₄
        · obtain ⟨_, _, -, h₅⟩ := Tx.returns_bind.mp h₄
          cases (Tx.returns_pure.mp h₅).1
        · cases (Tx.returns_pure.mp h₄).1
    | logout raw =>
      obtain ⟨found, s₁, h₁, h₂⟩ := Tx.returns_bind.mp h
      cases found with
      | none => simp at h₂
      | some flight =>
        obtain ⟨hf, -⟩ := Tx.returns_pure.mp h₂
        cases hf
        obtain ⟨row, s₂, -, h₃⟩ := Tx.returns_bind.mp h₁
        cases row <;> simp at h₃
  | family familyId op =>
    cases hop : op.oneStep with
    | true =>
      rw [Request.begin_oneStep hop] at h
      exact absurd h Request.not_returns_inl
    | false => cases op <;> first | exact Bool.noConfusion hop | simp [Request.begin] at h

/-- **Every request but `refresh` is clean.** -/
theorem Request.clean_run_of_ne {req : Request} (h : ∀ raw, req ≠ .auth (.refresh raw)) :
    Clean Exn.handled (req.run P env) := by
  rw [Request.run_eq_begin_finish]
  refine (Request.clean_begin rfl req).bind_undoes (fun r => ?_) (fun r _ _ hr => ?_)
  · cases r with
    | inl flight => exact (Flight.undoes_finish Exn.handledButReuse rfl flight
        (fun _ => rfl)).keeps
    | inr response => exact KeepsCommitted.of_reads (Reads.pure _)
  · cases r with
    | inl flight =>
      refine Flight.undoes_finish _ rfl flight ?_
      rintro ⟨now, sessionId, rows, rfl⟩
      obtain ⟨raw, hraw⟩ := Request.begin_reuse hr
      exact absurd hraw (h raw)
    | inr response => exact Undoes.pure _

/-- **What a failing request leaves.** A request that ends in any exception
– other than `refresh` ending in its own report of reuse – leaves the
committed state as it was; and reuse detection changes nothing but
`revoked_at` of the unrevoked rows of the presented token's session. The
same holds of the second half of a request, whatever the database has
become since the first: this is where a signup loses the race for its
email after it has created a family or accepted an invite. -/
theorem failed_request_frame (P : Platform) (env : Env) (d d' : Database) (e : Exn) :
    (∀ req, serve P env req d = (.error e, d') →
      ((e ≠ .tokenReuse ∨ ∀ raw, req ≠ .auth (.refresh raw)) → d' = d) ∧
      ∀ raw, req = .auth (.refresh raw) → e = .tokenReuse →
        ∃ row ∈ d.refreshTokens, row.tokenHash = RefreshTokenCodec.hash P raw ∧
          d'.rows = Function.update d.rows .refreshToken
            (d.refreshTokens.map (fun x => x.burn env.now row.sessionId))) ∧
    ∀ flight : Flight, Tx.serve Exn.handled (flight.finish P env) d = (.error e, d') →
      (e ≠ .tokenReuse ∨ ∀ now sessionId rows, flight ≠ .reuse now sessionId rows) → d' = d := by
  refine ⟨fun req h => ⟨fun hne => ?_, ?_⟩, fun flight h hne => ?_⟩
  · rcases hne with hne | hne
    · exact (Request.clean_run req).serve h (fun he => by
        rw [Exn.handledButReuse, he, Bool.true_and]
        exact decide_eq_true hne)
    · exact (Request.clean_run_of_ne hne).serve h id
  · rintro raw rfl rfl
    obtain ⟨s', hr, rfl⟩ := Tx.serve_error_iff.mp h
    exact AuthService.refresh_reuse (Tx.raises_bind_pure.mp hr)
  · rcases hne with hne | hne
    · exact (Flight.undoes_finish Exn.handledButReuse rfl flight
        (fun _ => rfl)).clean.serve h (fun he => by
          rw [Exn.handledButReuse, he, Bool.true_and]
          exact decide_eq_true hne)
    · refine (Flight.undoes_finish Exn.handled rfl flight ?_).clean.serve h id
      rintro ⟨now, sessionId, rows, rfl⟩
      exact absurd rfl (hne now sessionId rows)

/-- A signup that has lost the race for its email, after it has inserted
its family: nothing is left of it. -/
theorem failed_request_frame_race :
    (Tx.serve Exn.handled (Flight.finish (Sample.platform 2592000) (Sample.env 2 (Sample.second 1))
        (.signup (Sample.signup "ada@example.org" none) none)) (Sample.signedUp 2592000)).2
      = Sample.signedUp 2592000 :=
  (failed_request_frame (Sample.platform 2592000) (Sample.env 2 (Sample.second 1))
    (Sample.signedUp 2592000) _ .emailRegistered).2 _ (Prod.ext (by decide +kernel) rfl)
    (Or.inl (by decide))
