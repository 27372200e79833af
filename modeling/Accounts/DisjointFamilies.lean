import Accounts.Serializable
import Accounts.Tenants
import Accounts.TokenRaces

/-!
# Requests of different families do not race

Every race of the service that loses an update, or lets two requests succeed
where one should, is between requests about one family or one email. Said the
other way round: take a schedule in which a step of a request is taken only
while no other request in flight is about the same family or registers the
same email. Each request that is finished is then current, and the schedule is
a serial run in the order of completion (`disjoint_families_serialize`). In
that run a request is served whole, what it reads at the time it was started
and what it writes at the time it was finished.

What a request in flight has read are rows of its family, and a step of a
request about another family leaves them. So its first step, taken again when
it is finished, would read the same: the two looks are compared through the
database that holds the family alone.
-/

open Repository

variable {P : Platform} {env : Env} {f g : UUID} {d d' : Database}

/-! ## A family alone -/

/-- **The rows of one family are a database.** -/
theorem slice_consistent (href : FamilyReferences d.rows) :
    schema.Consistent (slice f d.rows) where
  key T := (d.consistent.key T).filter _
  unique T u hu := (d.consistent.unique T u hu).filter _
  reference T p hp r hr k hk := by
    obtain ⟨hmem, hown⟩ := mem_slice.mp hr
    obtain ⟨y, hy, hyk⟩ := List.mem_map.mp (d.consistent.reference T p hp r hmem k hk)
    refine List.mem_map.mpr ⟨y, mem_slice.mpr ⟨hy, ?_⟩, hyk⟩
    by_cases hside : p ∈ T.sideReferences
    · obtain ⟨y', hy', hyk', hown'⟩ := href f T r hmem hown p hside k hk
      obtain rfl : y = y' := d.consistent.eq_of_id hy hy' (hyk.trans hyk'.symm)
      exact hown'
    · exact hown.target d.consistent hp hside hy (hk.trans (congrArg some hyk.symm))

/-- The database that holds the family alone. -/
def alone (f : UUID) (d : Database) (href : FamilyReferences d.rows) : Database :=
  ⟨slice f d.rows, slice_consistent href⟩

theorem alone_restricts (href : FamilyReferences d.rows) : Restricts f d (alone f d href) :=
  ⟨rfl, href⟩

/-! ## Taken emails -/

/-- **A request is left in flight** only when no member has the email it
registers. -/
theorem Request.free_of_begin {req : Request} {s s' : Session Database} {flight : Flight}
    (h : (req.begin P env).Returns s (.inl flight) s') {email : String}
    (he : req.RegistersEmail email) : EmailsSatisfy (· ≠ email) s.working.members := by
  cases req with
  | auth op =>
    cases op <;> try exact he.elim
    case signup body =>
      obtain ⟨_, hb, -⟩ := Tx.returns_bind_pure.mp h
      obtain rfl : body.email = email := he
      rintro m hm e hme rfl
      exact (AuthService.beginSignup_returns.mp hb).1 m hm hme
  | family g op =>
    cases op <;> try exact he.elim
    case createMember body =>
      obtain ⟨_, hb, -⟩ := Tx.returns_bind_pure.mp h
      rintro m hm e hme rfl
      exact (MemberService.checkEmail_returns.mp hb).1 e he m hm hme

/-- What a request does to the members stores the email it registers. -/
theorem Request.email_householdEvent {req : Request} {event : HouseholdEvent}
    (h : req.householdEvent = some event) {email : String} (he : event.email = some email) :
    req.RegistersEmail email := by
  cases req with
  | auth op =>
    cases op with
    | signup body =>
      rw [householdEvent] at h
      split at h
      all_goals
        cases h
        exact Option.some.inj he
    | _ => cases h
  | family g op =>
    cases op with
    | createMember body =>
      cases h
      exact he
    | deleteMember id =>
      cases h
      cases he
    | _ => cases h

/-- So does what a request in flight will do. -/
theorem Flight.email_householdEvent {flight : Flight} {event : HouseholdEvent}
    (h : flight.householdEvent = some event) {email : String} (he : event.email = some email) :
    flight.RegistersEmail email := by
  cases flight with
  | signup body invite =>
    cases invite <;>
      (cases h
       exact Option.some.inj he)
  | createMember g body =>
    cases h
    exact he
  | _ => cases h

/-- **The second step of a request leaves an email free** that it does not
register. -/
theorem finish_free {flight : Flight} {email : String} (h : EmailsSatisfy (· ≠ email) d.members)
    (he : ¬ flight.RegistersEmail email) {o : Completed Env Request Flight Exn Response}
    (hs : (concurrentService P).second env flight d = (d', o)) :
    EmailsSatisfy (· ≠ email) d'.members := by
  refine h.step (finish_household hs) (fun event hev e hee => ?_)
  rintro rfl
  have hsource := source_of_householdEvent hev
  rw [(TwoStep.ofPhases_second hs).2.1] at hsource
  exact he (Flight.email_householdEvent hsource hee)

/-- **So does a request** that is served whole. -/
theorem serve_free (hl : Lineages d.refreshTokens) {req : Request} {email : String}
    (h : EmailsSatisfy (· ≠ email) d.members) (he : ¬ req.RegistersEmail email) :
    EmailsSatisfy (· ≠ email) (serve P env req d).2.members := by
  rcases serve_cases P env req d with ⟨o, hfirst, -⟩ | ⟨flight, s, o, hbegin, hsecond, -⟩
  · refine h.step (first_household hfirst) (fun event hev e hee => ?_)
    rintro rfl
    have hsource := source_of_householdEvent hev
    rw [(TwoStep.ofPhases_first_done hfirst).2.1] at hsource
    exact he (Request.email_householdEvent hsource hee)
  · obtain ⟨f, hleft⟩ := Request.begin_leaves hl hbegin
    exact finish_free h (fun hreg => he (hleft.registers email hreg)) hsecond

/-! ## Sessions

Finishing a request that has just been left in flight is a step of the machine
of sessions, also when its two steps are at different times. -/

/-- Revoking the unrevoked tokens of a session burns it. -/
theorem revokeAll_unrevoked (d : Database) (now : Datetime) (sessionId : UUID) :
    revokeAll now (d.refreshTokens.filter (fun r => r.revokedAt = none && r.sessionId = sessionId))
        d.refreshTokens
      = d.refreshTokens.map (fun x => x.burn now sessionId) := by
  refine List.map_congr_left (fun x hx => if_congr ?_ rfl rfl)
  rw [RefreshTokenRepository.id_mem_filter d _ hx]
  simp

/-- The session that is looked up is burnt. -/
theorem burnt_of_finish {flight : Flight} {row : RefreshToken} {now : Datetime}
    {r : Except Exn Response} (hmem : row ∈ d.refreshTokens)
    (hrev : flight.revocation = some (now, row.sessionId,
      d.refreshTokens.filter (fun r => r.revokedAt = none && r.sessionId = row.sessionId)))
    (hs : Tx.serve Exn.handled (flight.finish P env) d = (r, d')) :
    TokenStep P { env with now := now } d.refreshTokens d'.refreshTokens := by
  rw [finish_revokes hrev (fun x hx => List.mem_map_of_mem (List.mem_filter.mp hx).1) hs,
    revokeAll_unrevoked]
  exact .burnt hmem

/-- The token that is looked up is exchanged, unless the exchange fails. -/
theorem exchanged_of_finish {row : RefreshToken} {r : Except Exn Response}
    (hmem : row ∈ d.refreshTokens) (hlive : row.Live)
    (hs : Tx.serve Exn.handled ((Flight.exchange row).finish P env) d = (r, d')) :
    TokenStep P env d.refreshTokens d'.refreshTokens := by
  cases r with
  | error e => exact Flight.finish_error rfl hs ▸ .same
  | ok response =>
    obtain ⟨s', hret, rfl⟩ := Tx.serve_ok_iff.mp hs
    obtain ⟨a, hrefresh, -⟩ := Tx.returns_bind_pure.mp hret
    obtain ⟨cur, exp, hcur, hexp, -, d', hd', rfl⟩ :=
      RefreshTokenService.exchange_returns.mp (AuthService.finishRefresh_returns hrefresh)
    obtain rfl : row = cur :=
      Option.some.inj ((Store.find_eq_some_iff.mpr ⟨hmem, rfl⟩).symm.trans hcur)
    show TokenStep P env _ (d'.rows .refreshToken)
    rw [hd', Schema.insert_self, Schema.replace_self]
    exact .exchanged hmem hlive hexp

/-- **Finishing what was looked up in the same database is a step of the
machine**, at the time of one of the two steps. -/
theorem Flight.ReadFrom.tokenStep {flight : Flight} (h : flight.ReadFrom P d)
    {r : Except Exn Response} (hs : Tx.serve Exn.handled (flight.finish P env) d = (r, d')) :
    ∃ now, TokenStep P { env with now := now } d.refreshTokens d'.refreshTokens := by
  cases h with
  | exchange hmem hlive => exact ⟨env.now, exchanged_of_finish hmem hlive hs⟩
  | reuse now hmem => exact ⟨now, burnt_of_finish hmem rfl hs⟩
  | logout now hmem => exact ⟨now, burnt_of_finish hmem rfl hs⟩
  | signup | revokeInvite | createMember | upsertProfile =>
    exact ⟨env.now, (finish_opens rfl rfl hs).tokenStep⟩

/-! ## A request in flight -/

/-- Rows of the family are there in every database with its slice. -/
theorem mem_of_slice_eq (h : slice f d'.rows = slice f d.rows) {T : TableName} {r : T.Row}
    (hr : r ∈ d.rows T) (hown : Owns d.rows f T r) : r ∈ d'.rows T := by
  have hmem : r ∈ slice f d'.rows T := by
    rw [h]
    exact mem_slice.mpr ⟨hr, hown⟩
  exact (mem_slice.mp hmem).1

/-- What was left in flight for the family is still about it. -/
theorem Flight.LeftBy.of_slice {req : Request} {flight : Flight}
    (h : flight.LeftBy P env f d req) (hs : slice f d'.rows = slice f d.rows) :
    flight.LeftBy P env f d' req where
  concerns := by
    have hc := h.concerns
    cases req with
    | family g op => exact hc
    | auth op =>
      cases op with
      | login body =>
        obtain ⟨m, hm, hme, hfam⟩ := hc
        exact ⟨m, mem_of_slice_eq hs (T := .familyMember) hm (congrArg some hfam), hme, hfam⟩
      | refresh raw | logout raw =>
        obtain ⟨r, hr, hrh, hfam⟩ := hc
        exact ⟨r, mem_of_slice_eq hs (T := .refreshToken) hr (congrArg some hfam), hrh, hfam⟩
      | signup body =>
        unfold Request.Concerns SignupRequest.LeadsInto at hc ⊢
        dsimp only at hc ⊢
        cases hcode : body.inviteCode with
        | none =>
          rw [hcode] at hc
          exact hc
        | some code =>
          rw [hcode] at hc
          obtain ⟨i, hi, hih, hfam⟩ := hc
          exact ⟨i, mem_of_slice_eq hs (T := .familyInvite) hi (congrArg some hfam), hih, hfam⟩
  within := by
    have hw := h.within
    cases flight with
    | exchange row =>
      exact ⟨mem_of_slice_eq hs (T := .refreshToken) hw.1 (congrArg some hw.2), hw.2⟩
    | reuse now sessionId rows | logout now sessionId rows =>
      intro r hr
      exact ⟨mem_of_slice_eq hs (T := .refreshToken) (hw r hr).1 (congrArg some (hw r hr).2),
        (hw r hr).2⟩
    | signup body invite =>
      intro i hi
      exact ⟨mem_of_slice_eq hs (T := .familyInvite) (hw i hi).1 (congrArg some (hw i hi).2),
        (hw i hi).2⟩
    | revokeInvite invite =>
      exact ⟨mem_of_slice_eq hs (T := .familyInvite) hw.1 (congrArg some hw.2), hw.2⟩
    | createMember g body => exact hw
    | upsertProfile memberId body profile =>
      obtain ⟨⟨m, hm, rfl, hfam⟩, hp⟩ := hw
      refine ⟨⟨m, mem_of_slice_eq hs (T := .familyMember) hm (congrArg some hfam), rfl, hfam⟩,
        fun r hr => ⟨mem_of_slice_eq hs (T := .familyMemberProfile) (hp r hr).1 ?_, (hp r hr).2⟩⟩
      exact Store.owns_of_member hm hfam (congrArg Scope.member (hp r hr).2)
  founds := h.founds
  registers := h.registers

/-- **A look of the family is the same** in every database with its slice. -/
theorem Request.begin_of_slice (hs : slice f d'.rows = slice f d.rows)
    (href : FamilyReferences d.rows) (href' : FamilyReferences d'.rows)
    (hl : Lineages d.refreshTokens) (hl' : Lineages d'.refreshTokens) {req : Request}
    {flight : Flight} (hleft : flight.LeftBy P env f d req)
    (h : (req.begin P env).Returns ⟨d, d⟩ (.inl flight) ⟨d, d⟩)
    (hfree : ∀ email, req.RegistersEmail email → EmailsSatisfy (· ≠ email) d'.members) :
    (req.begin P env).Returns ⟨d', d'⟩ (.inl flight) ⟨d', d'⟩ := by
  have htwo := Request.twoSteps_of_begin h
  have hr : Restricts f d (alone f d href) := alone_restricts href
  have hr' : Restricts f d' (alone f d href) := ⟨hs.symm, href'⟩
  have hno : ∀ {d : Database}, (∀ email, req.RegistersEmail email →
      EmailsSatisfy (· ≠ email) d.members) → ∀ email, req.RegistersEmail email →
      EmailFree f d email :=
    fun hf email he m hm hme => absurd rfl (hf email he m hm email hme)
  have hlook := Request.sees_begin hr hl hleft.concerns htwo
    (hno (fun email he => Request.free_of_begin h he))
  have hlook' := Request.sees_begin hr' hl' (hleft.of_slice hs).concerns htwo (hno hfree)
  -- both look as the family alone does
  rcases hlook ⟨d, d⟩ ⟨alone f d href, alone f d href⟩ ⟨rfl, rfl⟩ with
    ⟨a, _, s, s₂, h₁, h₂, -, rfl, -⟩ | ⟨x, s, s₂, h₁, -⟩
  · obtain ⟨rfl, -⟩ := h₁.eq h
    rcases hlook' ⟨d', d'⟩ ⟨alone f d href, alone f d href⟩ ⟨rfl, rfl⟩ with
      ⟨a, _, s', s₂', h₁', h₂', -, rfl, -⟩ | ⟨x, s', s₂', -, h₂'⟩
    · obtain ⟨rfl, -⟩ := h₂'.eq h₂
      rwa [Request.begin_flight h₁'] at h₁'
    · exact absurd h₂' h₂.not_raises
  · exact absurd h₁ h.not_raises

/-- **The request in flight would be left in flight again**, as it is. -/
def Standing (P : Platform) (d : Database) (i : Env × Request) (flight : Flight) : Prop :=
  (i.2.begin P i.1).Returns ⟨d, d⟩ (.inl flight) ⟨d, d⟩

namespace Standing

variable {i : Env × Request} {flight : Flight}

/-- What stands is current. -/
theorem current (h : Standing P d i flight) : (concurrentService P).Current d i flight := by
  have hserve : Tx.serve Exn.handled (i.2.begin P i.1) d = (.ok (.inl flight), d) :=
    Tx.serve_ok_iff.mpr ⟨_, h, rfl⟩
  show (TwoStep.ofPhases Exn.handled (Request.begin P) (Flight.finish P)).first i.1 i.2 d = _
  unfold TwoStep.ofPhases
  simp only [hserve]

/-- **A first step draws nothing**: the request stands with other draws, as
long as the time is the same. -/
theorem of_now (h : Standing P d i flight) (env : Env) (hnow : env.now = i.1.now) :
    Standing P d (env, i.2) flight := by
  obtain ⟨⟨now, today, sessionId, token, code, salt, newId⟩, req⟩ := i
  obtain rfl : env.now = now := hnow
  cases req with
  | auth op =>
    cases op with
    | login body => exact absurd h Request.not_returns_inl
    | signup body | refresh raw | logout raw => exact h
  | family f op =>
    cases hop : op.oneStep with
    | true =>
      rw [Standing, Request.begin_oneStep hop] at h
      exact absurd h Request.not_returns_inl
    | false => cases op <;> first
        | exact h
        | exact Bool.noConfusion hop

/-- **What stands is about one family**, whatever is drawn when it is
finished. -/
theorem leaves (h : Standing P d i flight) (hl : Lineages d.refreshTokens) (env : Env) :
    ∃ f, flight.LeftBy P env f d i.2 := by
  obtain ⟨f, hleft⟩ := Request.begin_leaves hl (h.of_now { env with now := i.1.now } rfl)
  exact ⟨f, hleft.concerns, hleft.within, hleft.founds, hleft.registers⟩

end Standing

/-! ## Steps of others -/

/-- **The two requests are about different families**, and register different
emails. -/
structure Request.DisjointFrom (P : Platform) (d : Database) (i j : Env × Request) : Prop where
  /-- No family concerns both. -/
  families : ∀ f, i.2.Concerns P i.1 f d → ¬ j.2.Concerns P j.1 f d
  /-- No email is registered by both. -/
  emails : ∀ email, i.2.RegistersEmail email → ¬ j.2.RegistersEmail email

/-- The families a request concerns, computed. -/
def Request.families (P : Platform) (env : Env) (d : Database) : Request → List UUID
  | family g _ => [g]
  | auth (.signup body) =>
    match body.inviteCode with
    | none => [env.newId .family]
    | some code =>
      (d.invites.filter (fun i => InviteCodec.hash P code = .ok i.codeHash)).map (·.familyId)
  | auth (.login body) =>
    (d.members.filter (fun m => m.email = some body.email)).map (·.familyId)
  | auth (.refresh raw) | auth (.logout raw) =>
    (d.refreshTokens.filter (fun r => r.tokenHash = RefreshTokenCodec.hash P raw)).map (·.familyId)

theorem Request.mem_families {req : Request} :
    f ∈ req.families P env d ↔ req.Concerns P env f d := by
  cases req with
  | family g op => exact List.mem_singleton.trans eq_comm
  | auth op =>
    cases op with
    | signup body =>
      unfold families Concerns SignupRequest.LeadsInto
      dsimp only
      cases body.inviteCode with
      | none => exact List.mem_singleton.trans eq_comm
      | some code => simp [and_assoc]
    | login body | refresh raw | logout raw => simp [families, Concerns, and_assoc]

instance (P : Platform) (d : Database) (i j : Env × Request) :
    Decidable (Request.DisjointFrom P d i j) :=
  -- over the list: identifiers are too many to go through
  decidable_of_iff ((i.2.families P i.1 d).all (fun f => ¬ j.2.Concerns P j.1 f d) = true ∧
    ∀ email ∈ i.2.registers, j.2.registers ≠ some email)
    ⟨fun ⟨hf, he⟩ => ⟨fun f hi => of_decide_eq_true (List.all_eq_true.mp hf f
        (Request.mem_families.mpr hi)), fun email hi hj =>
        he email (Request.registers_iff.mpr hi) (Request.registers_iff.mpr hj)⟩,
      fun h => ⟨List.all_eq_true.mpr (fun f hi => decide_eq_true
        (h.families f (Request.mem_families.mp hi))), fun email hi hj => h.emails email
        (Request.registers_iff.mp hi) (Request.registers_iff.mp hj)⟩⟩

/-- **The step is none of the request's**: it leaves the rows of its family,
and the email it registers free. -/
structure Request.SparedBy (P : Platform) (d d' : Database) (i : Env × Request) : Prop where
  /-- The rows are left. -/
  slice : ∀ f, i.2.Concerns P i.1 f d → slice f d'.rows = slice f d.rows
  /-- The email is free if it was. -/
  free : ∀ email, i.2.RegistersEmail email → EmailsSatisfy (· ≠ email) d.members →
    EmailsSatisfy (· ≠ email) d'.members

namespace Request.SparedBy

variable {i : Env × Request}

/-- **Serving a request** that is about another family spares it. -/
theorem serve (hl : Lineages d.refreshTokens) {req : Request}
    (h : DisjointFrom P d i (env, req)) : SparedBy P d (serve P env req d).2 i where
  slice f hf := slice_serve_of_not_concerns hl (h.families f hf)
  free email he hfree := serve_free hl hfree (h.emails email he)

/-- **So does finishing one**, whatever is drawn. -/
theorem finish (hl : Lineages d.refreshTokens) {j : Env × Request} {flight : Flight}
    (hj : Standing P d j flight) (h : DisjointFrom P d i (env, j.2))
    {o : Completed Env Request Flight Exn Response}
    (hs : (concurrentService P).second env flight d = (d', o)) : SparedBy P d d' i := by
  obtain ⟨g, hleft⟩ := hj.leaves hl env
  refine ⟨fun f hf => ?_, fun email he hfree => finish_free hfree
    (fun hreg => h.emails email he (hleft.registers email hreg)) hs⟩
  have hne : f ≠ g := by
    rintro rfl
    exact h.families f hf hleft.concerns
  have hslice := Flight.slice_finish (P := P) hne hleft.within hleft.founds
  rwa [(TwoStep.ofPhases_second hs).2.2] at hslice

end Request.SparedBy

/-- **What stands, stands after a step of others.** -/
theorem Standing.of_sparedBy {i : Env × Request} {flight : Flight} (h : Standing P d i flight)
    (hs : Request.SparedBy P d d' i) (href : FamilyReferences d.rows)
    (href' : FamilyReferences d'.rows) (hl : Lineages d.refreshTokens)
    (hl' : Lineages d'.refreshTokens) : Standing P d' i flight := by
  obtain ⟨f, hleft⟩ := Request.begin_leaves hl h
  exact Request.begin_of_slice (hs.slice f hleft.concerns) href href' hl hl' hleft h
    (fun email he => hs.free email he (Request.free_of_begin h he))

/-! ## Schedules that keep families apart -/

/-- **The step meets nobody**: none of the others is about its family, or
registers its email. The session it may open is new. -/
def MeetsNobody (P : Platform) (d : Database) (i : Env × Request) (others : List (Env × Request)) :
    Prop :=
  (∀ j ∈ others, Request.DisjointFrom P d j i) ∧ ∀ r ∈ d.refreshTokens, r.sessionId ≠ i.1.sessionId

instance (P : Platform) (d : Database) (i : Env × Request) (others : List (Env × Request)) :
    Decidable (MeetsNobody P d i others) :=
  inferInstanceAs (Decidable (_ ∧ _))

/-- **The move keeps families apart.** A step of a request is taken only while
no other request in flight is about its family, or with its email; the time,
and what is drawn, may be others in its second step than in its first. An
operation that records who called it is called by a member. -/
def KeepsApart (P : Platform) (s : State × List (Env × Request)) : Move Env Request → Prop
  | .start env req => req.ByMember s.1.shared ∧ MeetsNobody P s.1.shared (env, req) s.2
  | .finish env k => ∀ i ∈ s.2[k]?, MeetsNobody P s.1.shared (env, i.2) (s.2.eraseIdx k)

instance (P : Platform) (s : State × List (Env × Request)) :
    (m : Move Env Request) → Decidable (KeepsApart P s m)
  | .start _ req => inferInstanceAs (Decidable (req.ByMember s.1.shared ∧ _))
  | .finish _ k => inferInstanceAs (Decidable (∀ i ∈ s.2[k]?, _))

/-- **What keeping families apart preserves.** -/
structure KeptApart (P : Platform) (s : State × List (Env × Request)) : Prop where
  /-- The requests in flight are known. -/
  length : s.1.flights.length = s.2.length
  /-- Each would be left in flight again. -/
  standing : ∀ (k : ℕ) flight i, s.1.flights[k]? = some flight → s.2[k]? = some i →
    Standing P s.1.shared i flight
  /-- Sessions are lineages. -/
  lineages : Lineages s.1.shared.refreshTokens
  /-- Rows refer to rows of their own family. -/
  references : FamilyReferences s.1.shared.rows

namespace KeptApart

variable {c c' : State} {p p' : List (Env × Request)}

/-- **A step that spares the requests that stay in flight** leaves them
apart. -/
theorem of_sparedBy (h : KeptApart P (c, p)) (hlen : c'.flights.length = p'.length)
    (hold : ∀ (k : ℕ) flight i, c'.flights[k]? = some flight → p'[k]? = some i →
      Standing P c.shared i flight)
    (hspared : ∀ i ∈ p', Request.SparedBy P c.shared c'.shared i)
    (hl : Lineages c'.shared.refreshTokens) (href : FamilyReferences c'.shared.rows) :
    KeptApart P (c', p') where
  length := hlen
  standing k flight i hk hi := (hold k flight i hk hi).of_sparedBy
    (hspared i (List.mem_of_getElem? hi)) h.references href h.lineages hl
  lineages := hl
  references := href

/-- **A request that completes in one step** leaves the others apart. -/
theorem start_done (h : KeptApart P (c, p)) {req : Request} (hby : req.ByMember c.shared)
    (hmeets : MeetsNobody P c.shared (env, req) p)
    {o : Completed Env Request Flight Exn Response}
    (hf : (concurrentService P).first env req c.shared = (d, .inr o)) :
    KeptApart P (⟨d, c.flights, c.log ++ [o]⟩, p) := by
  have hserve : d = (serve P env req c.shared).2 := by
    have hserial : _ = serve P env req c.shared := concurrentService_serial req c.shared
    rw [TwoStep.serial, hf] at hserial
    exact congrArg Prod.snd hserial
  subst hserve
  exact h.of_sparedBy h.length h.standing
    (fun i hi => .serve h.lineages (hmeets.1 i hi))
    (h.lineages.step (tokenStep_serve P env req c.shared) hmeets.2)
    (serve_familyReferences h.references hby)

/-- **A request that is left in flight** stands, beside the others. -/
theorem start_flight (h : KeptApart P (c, p)) {req : Request} {flight : Flight}
    (hf : (concurrentService P).first env req c.shared = (c.shared, .inl flight)) :
    KeptApart P (⟨c.shared, c.flights ++ [flight], c.log⟩, p ++ [(env, req)]) := by
  obtain ⟨-, s, hs⟩ := TwoStep.ofPhases_first_flight hf
  have hstands : Standing P c.shared (env, req) flight := by
    rwa [Request.begin_flight hs] at hs
  obtain ⟨hlen, hold, hl, href⟩ := h
  have hlen : c.flights.length = p.length := hlen
  refine ⟨by simp [hlen], fun k flight' i hk hi => ?_, hl, href⟩
  rcases lt_or_ge k p.length with hlt | hge
  · rw [List.getElem?_append_left (hlen ▸ hlt)] at hk
    rw [List.getElem?_append_left hlt] at hi
    exact hold k flight' i hk hi
  · rw [List.getElem?_append_right (hlen ▸ hge), List.getElem?_singleton] at hk
    rw [List.getElem?_append_right hge, List.getElem?_singleton] at hi
    split at hk
    · rw [if_pos (by omega)] at hi
      cases hk
      cases hi
      exact hstands
    · cases hk

/-- **A request that is finished** leaves the others apart. -/
theorem finish (h : KeptApart P (c, p)) {k : ℕ} {flight : Flight} {i : Env × Request}
    (hk : c.flights[k]? = some flight) (hi : p[k]? = some i)
    (hmeets : MeetsNobody P c.shared (env, i.2) (p.eraseIdx k))
    {o : Completed Env Request Flight Exn Response}
    (hs : (concurrentService P).second env flight c.shared = (d, o)) :
    KeptApart P (⟨d, c.flights.eraseIdx k, c.log ++ [o]⟩, p.eraseIdx k) := by
  have hstands : Standing P c.shared i flight := h.standing k flight i hk hi
  have hserve := (TwoStep.ofPhases_second hs).2.2
  obtain ⟨now, hstep⟩ := (Request.begin_reads hstands).tokenStep hserve
  refine h.of_sparedBy ?_ (fun j flight' i' hj hi' => ?_)
    (fun i' hi' => .finish h.lineages hstands (hmeets.1 i' hi') hs)
    (h.lineages.step hstep hmeets.2)
    (Flight.finish_familyReferences h.references hserve)
  · rw [List.length_eraseIdx_of_lt (List.getElem?_eq_some_iff.mp hk).1,
      List.length_eraseIdx_of_lt (List.getElem?_eq_some_iff.mp hi).1]
    exact congrArg (· - 1) h.length
  · rw [List.getElem?_eraseIdx] at hj hi'
    split at hj
    · next hlt =>
      rw [if_pos hlt] at hi'
      exact h.standing j flight' i' hj hi'
    · next hge =>
      rw [if_neg hge] at hi'
      exact h.standing (j + 1) flight' i' hj hi'

end KeptApart

/-- **A move that keeps families apart** leaves them apart. -/
theorem KeptApart.move {s : State × List (Env × Request)} {m : Move Env Request}
    (h : KeptApart P s) (hm : KeepsApart P s m) :
    KeptApart P ((concurrentService P).tracked.next s m) := by
  obtain ⟨c, p⟩ := s
  show KeptApart P ((concurrentService P).move c m, ((concurrentService P).track c p m).2)
  cases m with
  | start env req =>
    cases hf : (concurrentService P).first env req c.shared with
    | mk d r =>
      rw [TwoStep.track, hf]
      cases r with
      | inr o =>
        rw [TwoStep.move_start_done hf]
        exact h.start_done hm.1 hm.2 hf
      | inl flight =>
        obtain ⟨rfl, -⟩ := TwoStep.ofPhases_first_flight hf
        rw [TwoStep.move_start_flight hf]
        exact h.start_flight hf
  | finish env k =>
    have hlen : c.flights.length = p.length := h.length
    cases hk : c.flights[k]? with
    | none =>
      have hp : p.length ≤ k := hlen ▸ List.getElem?_eq_none_iff.mp hk
      rw [TwoStep.move_finish_none hk, TwoStep.track, List.eraseIdx_of_length_le hp]
      exact h
    | some flight =>
      have hlt : k < p.length := hlen ▸ (List.getElem?_eq_some_iff.mp hk).1
      have hi : p[k]? = some p[k] := List.getElem?_eq_getElem hlt
      rw [TwoStep.move_finish hk, TwoStep.track]
      exact h.finish hk hi (hm p[k] hi) rfl

/-! ## The result -/

/-- **Serving a request while the clock runs**, in one transaction: what it
reads first it reads in the one environment, the rest it does in the other. -/
def serveBetween (P : Platform) (env env' : Env) (req : Request) (d : Database) :
    Except Exn Response × Database :=
  Tx.serve Exn.handled (req.begin P env >>= Sum.elim (Flight.finish P env') pure) d

/-- Where the clock stands still, this is serving the request. -/
theorem serveBetween_self (req : Request) : serveBetween P env env req d = serve P env req d := by
  rw [serveBetween, serve, Request.run_eq_begin_finish]

/-- **The service while the clock runs**: requests, each with the environments
of its two parts, one after the other. -/
def clockedService (P : Platform) : Process Database ((Env × Request) × Env) (Except Exn Response)
    where
  step i d := serveBetween P i.1.1 i.2 i.1.2 d

/-- **Requests of different families do not race.** Take any schedule in which
a step of a request is taken only while no other request in flight is about
its family, or registers its email. The database and the outcomes it ends in
are those of a serial run: of the same requests, each served whole and at the
times of its two steps, in the order in which they complete. -/
theorem disjoint_families_serialize (P : Platform) (ms : List (Move Env Request))
    (h : (concurrentService P).tracked.Every (KeepsApart P) (idle, []) ms) :
    ((concurrentService P).system.run idle ms).shared
        = (clockedService P).run (Store.empty schema)
            ((concurrentService P).order (idle, []) ms) ∧
      ((concurrentService P).system.run idle ms).log.map Completed.outcome
        = ((clockedService P).trace (Store.empty schema)
            ((concurrentService P).order (idle, []) ms)).map Prod.snd := by
  have hserially : (concurrentService P).serially Completed.outcome = clockedService P :=
    congrArg Process.mk (funext (fun i => funext (fun d =>
      TwoStep.ofPhases_serial i.1.1 i.2 i.1.2 d (fun l s h => Request.begin_flight h))))
  have hinit : KeptApart P (idle, []) :=
    ⟨rfl, by simp [idle], ⟨by rintro x ⟨⟩, by rintro x ⟨⟩, by rintro x ⟨⟩⟩, by rintro f T r ⟨⟩⟩
  have hcurrent := (concurrentService P).tracked.every_of_invariant (KeptApart P)
    (fun s m hs hm => hs.move hm)
    (Q := (concurrentService P).FinishesCurrent) (fun s m hs hm => ?_) hinit h
  · have hrun := TwoStep.serializable_run Completed.outcome (fun e i d d' l hf =>
      (TwoStep.ofPhases_first_flight hf).1) hinit.length hcurrent
    rw [hserially, TwoStep.tracked_run_fst] at hrun
    exact hrun
  · cases m with
    | start env req => trivial
    | finish env k => exact fun flight i hk hi => (hs.standing k flight i hk hi).current

/-- Bob's signup is in flight while Ada signs up, and while her token is
exchanged. -/
def Sample.crossing : List (Move Env Request) :=
  [.start (Sample.env 2 (Sample.second 0))
      (.auth (.signup (Sample.signup "bob@example.org" none))),
    .start (Sample.env 1 (Sample.second 1))
      (.auth (.signup (Sample.signup "ada@example.org" none))),
    .finish (Sample.env 1 (Sample.second 2)) 1,
    .start (Sample.env 3 (Sample.second 3)) (.auth (.refresh "refresh-1")),
    .finish (Sample.env 3 (Sample.second 4)) 1,
    .finish (Sample.env 2 (Sample.second 5)) 0]

/-- His signup is the last of the three in the serial run. -/
theorem disjoint_families_serialize_crossing :
    ((concurrentService (Sample.platform 2592000)).system.run idle Sample.crossing).shared
      = (clockedService (Sample.platform 2592000)).run (Store.empty schema)
          ((concurrentService (Sample.platform 2592000)).order (idle, []) Sample.crossing) :=
  (disjoint_families_serialize (Sample.platform 2592000) Sample.crossing (by decide +kernel)).1
