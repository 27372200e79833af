import Accounts.Calendar
import Accounts.ContextBundle
import Accounts.Merges
import Accounts.Numbers
import Accounts.ReadingProfiles

/-!
# Ages in the context bundle

The bundle gives the age of every member and child, from the birth date
stored and the day of the read: the difference of the years, less one while
the birthday of the year is still to come. `FamilyContextLoader.age_eq`
says that this is the number of whole years of the calendar, so an age is
the number of birthdays reached whenever there is a birthday to start from,
and otherwise it is negative. The bodies do not ask a birth date to be in
the past.

Two things have to be said about runs. An age never goes down from one read
to a later one, and an age is in completed years when no birth date was
ahead of the day on which it was given (`bornBy_run`).
-/

open Calendar Repository

variable {P : Platform} {env : Env} {d d' : Database}

/-! ## Days -/

namespace Date

/-- The day as a point in time: the year, then the month and the day. -/
def point (d : Date) : Point (ℕ ×ₗ ℕ) := toLex ((d.year : ℤ), toLex (d.month, d.day))

theorem point_injective : Function.Injective point := by
  rintro ⟨y, m, k, h⟩ ⟨y', m', k', h'⟩ heq
  obtain ⟨hy, hmk⟩ := Prod.ext_iff.mp (toLex_inj.mp heq)
  obtain ⟨hm, hk⟩ := Prod.ext_iff.mp (toLex_inj.mp hmk)
  cases Int.ofNat.inj hy
  cases hm
  cases hk
  rfl

/-- Dates are compared as their year, month and day. -/
instance : LinearOrder Date := LinearOrder.lift' point point_injective

/-- **The anniversary of a day**, some years later: of 29 February it is 1
March in a common year. -/
def anniversary (b : Date) (n : ℕ) : Point (ℕ ×ₗ ℕ) :=
  if b.month = 2 ∧ b.day = 29 ∧ isLeap (b.year + n) = false then
    toLex ((b.year : ℤ) + n, toLex (3, 1))
  else toLex ((b.year : ℤ) + n, toLex (b.month, b.day))

theorem toLex_le_point {y : ℤ} {m k : ℕ} {d : Date} :
    (toLex (y, toLex (m, k)) : Point (ℕ ×ₗ ℕ)) ≤ d.point ↔
      y < d.year ∨ y = d.year ∧ (m < d.month ∨ m = d.month ∧ k ≤ d.day) := by
  rw [point, Prod.Lex.toLex_le_toLex, Prod.Lex.toLex_le_toLex]

/-- **29 February and 1 March of a common year are one**, for the days of the
calendar that come after them. -/
theorem common_february_le_iff {year : ℕ} (h : isLeap year = false) {d : Date} :
    (toLex ((year : ℤ), toLex (3, 1)) : Point (ℕ ×ₗ ℕ)) ≤ d.point ↔
      (toLex ((year : ℤ), toLex (2, 29)) : Point (ℕ ×ₗ ℕ)) ≤ d.point := by
  rw [toLex_le_point, toLex_le_point]
  have hday : d.year = year → d.month = 2 → d.day ≤ 28 := by
    intro hy hm
    have hv := d.valid.2.2.2.2.2
    rwa [hy, hm, daysInMonth, if_pos rfl, h] at hv
  have hfirst : 1 ≤ d.day := d.valid.2.2.2.2.1
  omega

/-- **No day is between a month and day and the anniversary on it.** -/
theorem anniversary_le_iff (b d : Date) (n : ℕ) :
    b.anniversary n ≤ d.point ↔ b.point.later n ≤ d.point := by
  unfold anniversary
  split
  · next h =>
    obtain ⟨hm, hk, hyear⟩ := h
    have hfeb := common_february_le_iff hyear (d := d)
    rw [Nat.cast_add] at hfeb
    rw [hfeb, ← hm, ← hk]
    rfl
  · exact Iff.rfl

end Date

/-! ## Ages -/

/-- **An age in completed years**: there is none exactly when there is no
birth date, and otherwise it is the greatest number of years whose anniversary
is not after the day. -/
def CompletedYears (birthDate : Option Date) (today : Date) (age : Option ℤ) : Prop :=
  (age = none ↔ birthDate = none) ∧
    ∀ b ∈ birthDate, ∃ n : ℕ, age = some (n : ℤ) ∧
      IsGreatest {k : ℕ | b.anniversary k ≤ today.point} n

namespace FamilyContextLoader

variable {today today' : Date} {dob : Option Date}

/-- **`_age` counts whole years.** -/
theorem age_eq (today : Date) (dob : Option Date) :
    age today dob = dob.map (fun b => Point.wholePeriods b.point today.point) := by
  have hlt : ∀ b : Date, (today.month < b.month ∨ today.month = b.month ∧ today.day < b.day) ↔
      (toLex (today.month, today.day) : ℕ ×ₗ ℕ) < toLex (b.month, b.day) := fun b => by
    rw [Prod.Lex.toLex_lt_toLex]
  unfold age
  simp only [hlt]
  rfl

/-- **The age is in completed years** exactly when the birth date, if there is
one, is not ahead. -/
theorem completedYears_age_iff :
    CompletedYears dob today (age today dob) ↔ ∀ b ∈ dob, b ≤ today := by
  rw [CompletedYears, age_eq, Option.map_eq_none_iff, and_iff_right Iff.rfl]
  refine forall₂_congr (fun b hb => ?_)
  rw [Option.mem_def.mp hb, Option.map_some]
  simp only [Option.some.injEq, Date.anniversary_le_iff]
  exact Point.exists_isGreatest_iff

/-- **An age never goes down.** -/
theorem age_mono (h : today ≤ today') {n n' : ℤ} (hn : n ∈ age today dob)
    (hn' : n' ∈ age today' dob) : n ≤ n' := by
  rw [age_eq] at hn hn'
  obtain ⟨b, hb, rfl⟩ := Option.mem_map.mp hn
  obtain ⟨b', hb', rfl⟩ := Option.mem_map.mp hn'
  obtain rfl := Option.mem_unique hb hb'
  exact Point.wholePeriods_mono h

end FamilyContextLoader

/-! ## The bundle -/

/-- **The birth dates and the ages** in a bundle: of the members, then of the
children. -/
def FamilyContext.ages (c : FamilyContext) : List (Option Date × Option ℤ) :=
  c.members.map (fun m => (m.member.birthDate, m.age)) ++
    c.children.map (fun p => (p.2.child.birthDate, p.2.age))

/-- **What the agent reads of a family** in the state a schedule reaches. -/
def ContextRead (P : Platform) (ms : List (Move Env Request)) (env : Env) (f : UUID)
    (bundle : FamilyContext) : Prop :=
  (serve P env (.family f .context) ((concurrentService P).system.run idle ms).shared).1
    = .ok (.context (some bundle))

instance (P : Platform) (ms : List (Move Env Request)) (env : Env) (f : UUID)
    (bundle : FamilyContext) : Decidable (ContextRead P ms env f bundle) :=
  inferInstanceAs (Decidable (_ = _))

namespace FamilyContextLoader

variable {f : UUID} {bundle : FamilyContext}

/-- **The bundle gives the birth dates stored**, each with its age. -/
theorem mem_ages (h : answer (load env f) d = .ok (some bundle)) {p : Option Date × Option ℤ}
    (hp : p ∈ bundle.ages) : p.2 = age env.today p.1 ∧
      ((∃ m ∈ d.members, m.birthDate = p.1) ∨ ∃ c ∈ d.children, c.birthDate = p.1) := by
  rw [answer_load] at h
  obtain ⟨family, -, rfl⟩ := Option.map_eq_some_iff.mp (Except.ok.inj h)
  rcases List.mem_append.mp hp with hp | hp
  · obtain ⟨x, hx, rfl⟩ := List.mem_map.mp hp
    obtain ⟨m, hm, rfl⟩ := List.mem_map.mp hx
    exact ⟨rfl, Or.inl ⟨m, (mem_membersOf.mp hm).1, rfl⟩⟩
  · obtain ⟨x, hx, rfl⟩ := List.mem_map.mp hp
    obtain ⟨c, hc, rfl⟩ := List.mem_map.mp hx
    exact ⟨rfl, Or.inr ⟨c, (mem_childrenOf.mp hc).1, rfl⟩⟩

/-- What the agent reads was loaded from the state reached. -/
theorem answer_of_contextRead {ms : List (Move Env Request)} (h : ContextRead P ms env f bundle) :
    answer (load env f) ((concurrentService P).system.run idle ms).shared = .ok (some bundle) := by
  obtain ⟨s, hs, -⟩ := Tx.serve_ok_iff.mp (Prod.ext h rfl)
  obtain ⟨found, hload, heq⟩ := Tx.returns_bind_pure.mp hs
  cases heq
  exact answer_of_returns hload

end FamilyContextLoader

/-! ## Birth dates in the tables -/

/-- **No birth date is after a day.** -/
def BirthsBy {α : Type} (birthDate : α → Option Date) (day : Date) (rows : List α) : Prop :=
  ∀ r ∈ rows, ∀ b ∈ birthDate r, b ≤ day

namespace BirthsBy

variable {α : Type} {birthDate : α → Option Date} {day : Date} {rows : List α} {r : α}

theorem insert (h : BirthsBy birthDate day rows) (hr : ∀ b ∈ birthDate r, b ≤ day) :
    BirthsBy birthDate day (Table.insert rows r) := by
  intro x hx
  rcases Table.mem_insert.mp hx with hx | rfl
  · exact h x hx
  · exact hr

theorem replace {κ : Type} [DecidableEq κ] {key : α → κ} (h : BirthsBy birthDate day rows)
    (hr : ∀ b ∈ birthDate r, b ≤ day) : BirthsBy birthDate day (Table.replace key r rows) := by
  intro x hx
  rcases Table.mem_replace.mp hx with ⟨rfl, -⟩ | ⟨hx, -⟩
  · exact hr
  · exact h x hx

theorem delete {κ : Type} [DecidableEq κ] {key : α → κ} {k : κ} (h : BirthsBy birthDate day rows) :
    BirthsBy birthDate day (Table.delete key k rows) := fun x hx => h x (Table.mem_delete.mp hx).1

end BirthsBy

/-- **No member and no child is born after a day.** -/
def Database.BornBy (day : Date) (d : Database) : Prop :=
  BirthsBy FamilyMember.birthDate day d.members ∧ BirthsBy ChildProfile.birthDate day d.children

/-- The birth date an operation gives. -/
def FamilyOp.birthDate : FamilyOp → Option Date
  | createMember body => body.birthDate
  | updateMember _ body => body.birthDate.given
  | createChild body => body.birthDate
  | updateChild _ body => body.birthDate.given
  | _ => none

/-- The birth date a request gives. -/
def Request.birthDate : Request → Option Date
  | family _ op => op.birthDate
  | auth _ => none

section Writes

variable {s s' : Session Database} {f : UUID} {day : Date}

/-- **An update leaves a birth date that was there, or gives one.** -/
theorem Repository.update_birthsBy {T : TableName} {birthDate : T.Row → Option Date} {id : UUID}
    {changes : T.Row → Except Exn T.Row} {a : T.Row} {given : BodyField Date}
    (hd : ∀ r r', changes r = .ok r' → birthDate r' = given.nullable (birthDate r))
    (hc : ∀ r c, T.coerce r = .ok c → birthDate c = birthDate r)
    (ht : ∀ now r, birthDate (T.touch now r) = birthDate r)
    (hg : ∀ b ∈ given.given, b ≤ day) (h : (update env T id changes).Returns s a s')
    (hs : BirthsBy birthDate day (s.working.rows T)) :
    BirthsBy birthDate day (s'.working.rows T) := by
  obtain ⟨old, hold, hw', d, hrows, rfl⟩ := returns_update.mp h
  obtain ⟨draft, hdraft, hwritten⟩ := Except.bind_eq_ok_iff.mp hw'
  have ha : ∀ b ∈ birthDate a, b ≤ day := by
    have hstored : birthDate a = birthDate draft := by
      rcases TableName.written_cases hwritten with ⟨rfl, rfl⟩ | ⟨c, hcoerce, rfl⟩
      · rfl
      · rw [ht, hc draft c hcoerce]
    rw [hstored, hd old draft hdraft]
    exact (BodyField.forall_nullable_iff (hs old (Store.find_eq_some_iff.mp hold).1)).mpr hg
  show BirthsBy birthDate day (d.rows T)
  rw [hrows, Schema.replace_self]
  exact hs.replace ha

/-- **The updates of members.** -/
theorem MemberService.update_birthsBy {memberId : UUID} {body : MemberUpdate} {a : MemberDump}
    (hg : ∀ b ∈ body.birthDate.given, b ≤ day) (h : (update env f memberId body).Returns s a s')
    (hs : BirthsBy FamilyMember.birthDate day s.working.members) :
    BirthsBy FamilyMember.birthDate day s'.working.members := by
  obtain ⟨m, s₁, h₁, h₂⟩ := Tx.returns_bind.mp h
  obtain ⟨-, -, -, rfl⟩ := require_returns.mp h₁
  obtain ⟨r, h₃, -⟩ := Tx.returns_bind_pure.mp h₂
  refine Repository.update_birthsBy (T := .familyMember) ?_ ?_ (fun _ _ => rfl) hg h₃ hs
  · intro r r' hr
    obtain ⟨role, -, hr⟩ := Except.bind_eq_ok_iff.mp hr
    cases hr
    rfl
  · intro r c hc
    cases hc
    rfl

/-- **The updates of children.** -/
theorem ChildService.update_birthsBy {childId : UUID} {body : ChildUpdate} {a : ChildProfile}
    (hg : ∀ b ∈ body.birthDate.given, b ≤ day) (h : (update env f childId body).Returns s a s')
    (hs : BirthsBy ChildProfile.birthDate day s.working.children) :
    BirthsBy ChildProfile.birthDate day s'.working.children := by
  obtain ⟨c, s₁, h₁, h₂⟩ := Tx.returns_bind.mp h
  obtain ⟨-, -, -, rfl⟩ := require_returns.mp h₁
  refine Repository.update_birthsBy (T := .childProfile) ?_ ?_ (fun _ _ => rfl) hg h₂ hs
  · intro r r' hr
    obtain ⟨aliases, -, hr⟩ := Except.bind_eq_ok_iff.mp hr
    cases hr
    rfl
  · intro r c hc
    cases hc
    rfl

/-- A child is created with the birth date given. -/
theorem ChildService.create_birthsBy {body : ChildCreate} {a : ChildProfile}
    (hg : ∀ b ∈ body.birthDate, b ≤ day) (h : (create env f body).Returns s a s')
    (hs : BirthsBy ChildProfile.birthDate day s.working.children) :
    BirthsBy ChildProfile.birthDate day s'.working.children := by
  obtain ⟨c, s₁, h₁, h₂⟩ := Tx.returns_bind.mp h
  obtain ⟨p, h₃, -⟩ := Tx.returns_bind_pure.mp h₂
  obtain ⟨hc, d, hd, rfl⟩ := returns_add.mp h₁
  cases hc
  show BirthsBy ChildProfile.birthDate day (s'.working.rows .childProfile)
  rw [(add_change h₃).2, Schema.insert_of_ne (by simp), show d.rows = _ from hd, Schema.insert_self]
  exact hs.insert hg

/-- **Operations of a family** give the birth dates they come with. -/
theorem FamilyOp.run_bornBy {op : FamilyOp} {response : Response} (hone : op.oneStep = true)
    (hg : ∀ b ∈ op.birthDate, b ≤ day) (h : (op.run P env f).Returns s response s')
    (hs : s.working.BornBy day) : s'.working.BornBy day := by
  have hmembers : op.target ≠ some .familyMember → s'.working.members = s.working.members :=
    fun hm => (FamilyOp.run_change h).rows_of_ne hm (by simp) (by simp)
  have hchildren : op.target ≠ some .childProfile → s'.working.children = s.working.children :=
    fun hc => (FamilyOp.run_change h).rows_of_ne hc (by simp) (by simp)
  cases op with
  | createMember body => cases hone
  | updateMember memberId body =>
    obtain ⟨a, h₁, -⟩ := Tx.returns_bind_pure.mp h
    exact ⟨MemberService.update_birthsBy hg h₁ hs.1, hchildren (by simp [target]) ▸ hs.2⟩
  | deleteMember memberId =>
    obtain ⟨_, h₁, -⟩ := Tx.returns_bind_pure.mp h
    obtain ⟨r, -, rfl, -, hrows⟩ := MemberService.delete_change h₁
    have hdel : s'.working.members = Table.delete FamilyMember.id r.id s.working.members :=
      (congrFun hrows _).trans (Schema.delete_self.trans (congrArg _
        (cascade_of_ne (Or.inr (by simp)) (Or.inr (by simp)))))
    exact ⟨hdel ▸ hs.1.delete, hchildren (by simp [target]) ▸ hs.2⟩
  | createChild body =>
    obtain ⟨a, h₁, -⟩ := Tx.returns_bind_pure.mp h
    exact ⟨hmembers (by simp [target]) ▸ hs.1, ChildService.create_birthsBy hg h₁ hs.2⟩
  | updateChild childId body =>
    obtain ⟨a, h₁, -⟩ := Tx.returns_bind_pure.mp h
    exact ⟨hmembers (by simp [target]) ▸ hs.1, ChildService.update_birthsBy hg h₁ hs.2⟩
  | deleteChild childId =>
    obtain ⟨_, h₁, -⟩ := Tx.returns_bind_pure.mp h
    obtain ⟨k, hdel, -⟩ := ChildService.delete_change h₁
    exact ⟨hmembers (by simp [target]) ▸ hs.1, hdel ▸ hs.2.delete⟩
  | _ => exact ⟨hmembers (by simp [target]) ▸ hs.1, hchildren (by simp [target]) ▸ hs.2⟩

end Writes

/-! ## The two steps of a request -/

/-- **The first step of a request.** -/
theorem first_bornBy {day : Date} {req : Request}
    {r : Flight ⊕ Completed Env Request Flight Exn Response} (hg : ∀ b ∈ req.birthDate, b ≤ day)
    (h : (concurrentService P).first env req d = (d', r)) (hd : d.BornBy day) : d'.BornBy day := by
  rcases first_cases h with rfl | ⟨s', rfl, ⟨body, a, -, hl⟩ | ⟨f, op, response, rfl, hone, hop⟩⟩
  · exact hd
  · obtain ⟨m, -, hi⟩ := AuthService.login_returns hl
    rw [Database.BornBy,
      show s'.working.members = d.members from AuthService.issueTokens_rows hi (by simp),
      show s'.working.children = d.children from AuthService.issueTokens_rows hi (by simp)]
    exact hd
  · exact FamilyOp.run_bornBy hone hg hop hd

/-- **The second step of a request.** -/
theorem finish_bornBy {day : Date} {flight : Flight}
    {o : Completed Env Request Flight Exn Response}
    (hg : ∀ f body, flight = .createMember f body → ∀ b ∈ body.birthDate, b ≤ day)
    (h : (concurrentService P).second env flight d = (d', o)) (hd : d.BornBy day) :
    d'.BornBy day := by
  have hchildren : d'.children = d.children := finish_childTables h (by decide)
  refine ⟨?_, hchildren ▸ hd.2⟩
  obtain ⟨-, -, hs⟩ := TwoStep.ofPhases_second h
  cases flight with
  | signup body invite =>
    cases ho : o.outcome with
    | error e =>
      rw [ho] at hs
      rw [Flight.finish_error rfl hs]
      exact hd.1
    | ok response =>
      rw [ho] at hs
      obtain ⟨a, s', -, rfl, hret⟩ := Flight.finish_signup hs
      cases invite with
      | none =>
        rw [(AuthService.finishSignup_none_rows hret).2]
        exact hd.1.insert (by rintro b ⟨⟩)
      | some invite =>
        obtain ⟨cur, -, -, -, hmembers, -⟩ := AuthService.finishSignup_some_rows hret
        rw [hmembers]
        exact hd.1.insert (by rintro b ⟨⟩)
  | createMember f body =>
    cases ho : o.outcome with
    | error e =>
      rw [ho] at hs
      rw [Flight.finish_error rfl hs]
      exact hd.1
    | ok response =>
      rw [ho] at hs
      rw [Database.members, Flight.finish_createMember hs, Schema.insert_self]
      exact hd.1.insert (hg f body rfl)
  | _ =>
    have hmembers : d'.members = d.members := Flight.finish_frame hs (by simp [Flight.tables])
    exact hmembers ▸ hd.1

/-- **A request in flight to create a member** was given the birth date of its
body. -/
theorem Request.birthDate_of_createMember {req : Request} {s s' : Session Database} {f : UUID}
    {body : MemberCreate} (h : (req.begin P env).Returns s (.inl (.createMember f body)) s') :
    req.birthDate = body.birthDate := by
  have hev : some (HouseholdEvent.created body) = req.householdEvent :=
    Request.begin_householdEvent h
  cases req with
  | auth op =>
    cases op with
    | signup body' =>
      have hsome : some (HouseholdEvent.created body)
          = if body'.inviteCode = none then some (.founded body') else some (.joined body') := hev
      split at hsome <;> cases hsome
    | _ => cases hev
  | family g op =>
    cases op with
    | createMember body' =>
      cases hev
      rfl
    | _ => cases hev

/-- **Every schedule** leaves no birth date after a day, if none is given. -/
theorem bornBy_run (P : Platform) {day : Date} {ms : List (Move Env Request)}
    (hg : ∀ env req, .start env req ∈ ms → ∀ b ∈ req.birthDate, b ≤ day) :
    ((concurrentService P).system.run idle ms).shared.BornBy day := by
  refine ((concurrentService P).run_invariant (G := fun d _ => d.BornBy day)
    (L := fun _ l => ∀ f body, l = .createMember f body → ∀ b ∈ body.birthDate, b ≤ day) ?_ ?_
    ⟨⟨by rintro r ⟨⟩, by rintro r ⟨⟩⟩, by rintro l ⟨⟩⟩ ((concurrentService P).system.every_of_forall
      (P := fun m => ∀ env req, m = .start env req → ∀ b ∈ req.birthDate, b ≤ day) _
      (fun m hm env req hmove => hg env req (hmove ▸ hm)))).1
  · rintro c env req ⟨hG, hL⟩ hguard
    have hreq := hguard env req rfl
    refine ⟨fun d l hf => ⟨first_bornBy hreq hf hG, ?_, hL⟩,
      fun d o hf => ⟨first_bornBy hreq hf hG, hL⟩⟩
    rintro f body rfl
    obtain ⟨-, s, hs⟩ := TwoStep.ofPhases_first_flight hf
    rwa [Request.birthDate_of_createMember hs] at hreq
  · rintro c env k l ⟨hG, hL⟩ - hk d o hf
    exact ⟨finish_bornBy (hL l (List.mem_of_getElem? hk)) hf hG,
      fun l' hl' => hL l' (List.mem_of_mem_eraseIdx hl')⟩

/-- **Ages in the context bundle.** In every state an interleaving reaches, for
every family and every day, an age in the bundle is in completed years exactly
when the birth date it stands next to, if there is one, is not after the day.
So all of them are, when no request has given a birth date ahead of its own
day, and the day of the read is none before that of a step. And an age does not
go down, from a read to a later one, while the birth date is the same. -/
theorem ages_in_completed_years (P : Platform) (ms : List (Move Env Request)) (env : Env)
    (f : UUID) (bundle : FamilyContext) (h : ContextRead P ms env f bundle) :
    (∀ p ∈ bundle.ages, CompletedYears p.1 env.today p.2 ↔ ∀ b ∈ p.1, b ≤ env.today) ∧
    ((∀ m ∈ ms, m.env.today ≤ env.today) →
      (∀ env' req, .start env' req ∈ ms → ∀ b ∈ req.birthDate, b ≤ env'.today) →
      ∀ p ∈ bundle.ages, CompletedYears p.1 env.today p.2) ∧
    ∀ later env' bundle', env.today ≤ env'.today → ContextRead P (ms ++ later) env' f bundle' →
      ∀ p ∈ bundle.ages, ∀ p' ∈ bundle'.ages, p.1 = p'.1 → ∀ n ∈ p.2, ∀ n' ∈ p'.2, n ≤ n' := by
  have hread := FamilyContextLoader.answer_of_contextRead h
  have hyears : ∀ p ∈ bundle.ages,
      CompletedYears p.1 env.today p.2 ↔ ∀ b ∈ p.1, b ≤ env.today := by
    intro p hp
    rw [(FamilyContextLoader.mem_ages hread hp).1]
    exact FamilyContextLoader.completedYears_age_iff
  refine ⟨hyears, fun hdays hbirths p hp => (hyears p hp).mpr ?_, ?_⟩
  · have hborn := bornBy_run P (fun env' req hm b hb =>
      (hbirths env' req hm b hb).trans (hdays _ hm))
    rcases (FamilyContextLoader.mem_ages hread hp).2 with ⟨m, hm, hb⟩ | ⟨c, hc, hb⟩
    · exact hb ▸ hborn.1 m hm
    · exact hb ▸ hborn.2 c hc
  · intro later env' bundle' hday h' p hp p' hp' hbirth n hn n' hn'
    have hread' := FamilyContextLoader.answer_of_contextRead h'
    rw [(FamilyContextLoader.mem_ages hread hp).1] at hn
    rw [(FamilyContextLoader.mem_ages hread' hp').1, ← hbirth] at hn'
    exact FamilyContextLoader.age_mono hday hn hn'

namespace Sample

/-- Born on a leap day. -/
def leapDay : Date := ⟨2020, 2, 29, by decide⟩

/-- A child is due in June. -/
def due : Date := ⟨2025, 6, 1, by decide⟩

/-- A child with a birth date. -/
def born (day : Date) : ChildCreate := { Sample.child with birthDate := some day }

/-- Ada signs up and creates the child. -/
def births (day : Date) : List (Move Env Request) :=
  Sample.founded ++ [.start (Sample.env 2 (second 60)) (.family 1 (.createChild (born day)))]

/-- What the agent reads of them, the child being of some age. -/
def bundle (day : Date) (age : ℤ) : FamilyContext where
  family := AuthService.newFamily (Sample.env 1 (second 0)) (signup "ada@example.org" none)
  members := [⟨(AuthService.newMember (platform 2592000) (Sample.env 1 (second 0))
    (signup "ada@example.org" none) 1 "parent" true).dump, none, none⟩]
  children := [(UUID.str 2, ⟨ChildService.newChild (Sample.env 2 (second 60)) 1 (born day),
    some (ChildService.newReadingProfile (Sample.env 2 (second 60)) 2
      ChildService.emptyReadingProfile), some age⟩)]
  policies := []

/-- The day of a read. -/
def readOn (day : Date) : Env := { Sample.env 3 (second 90) with today := day }

end Sample

/-- Born on a leap day, one is four on the last of February 2025, and five the
day after. -/
theorem ages_in_completed_years_leap_day :
    CompletedYears (some Sample.leapDay) ⟨2025, 2, 28, by decide⟩ (some 4) ∧
      CompletedYears (some Sample.leapDay) ⟨2025, 3, 1, by decide⟩ (some 5) := by
  have hmem : ∀ age, (some Sample.leapDay, some age) ∈ (Sample.bundle Sample.leapDay age).ages :=
    fun _ => List.mem_cons_of_mem _ List.mem_cons_self
  have hfour := ages_in_completed_years (Sample.platform 2592000) (Sample.births Sample.leapDay)
    (Sample.readOn ⟨2025, 2, 28, by decide⟩) 1 (Sample.bundle Sample.leapDay 4) (by decide +kernel)
  have hfive := ages_in_completed_years (Sample.platform 2592000) (Sample.births Sample.leapDay)
    (Sample.readOn ⟨2025, 3, 1, by decide⟩) 1 (Sample.bundle Sample.leapDay 5) (by decide +kernel)
  refine ⟨hfour.2.1 (by decide +kernel) ?_ _ (hmem 4), (hfive.1 _ (hmem 5)).mpr ?_⟩
  · -- the one birth date given is that of the child
    intro env req hm b hb
    simp only [Sample.births, Sample.founded, List.cons_append, List.nil_append, List.mem_cons,
      Move.start.injEq, reduceCtorEq, List.not_mem_nil, or_false, false_or] at hm
    rcases hm with ⟨rfl, rfl⟩ | ⟨rfl, rfl⟩
    · cases hb
    · cases hb
      decide +kernel
  · rintro b ⟨⟩
    decide +kernel

/-- **A child that is due is of age minus one**: the birth date is accepted,
and it is stored and read on the same day. -/
theorem ages_in_completed_years_due :
    let env := Sample.env 3 (Sample.second 90)
    (∀ m ∈ Sample.births Sample.due, m.env.today ≤ env.today) ∧
      ContextRead (Sample.platform 2592000) (Sample.births Sample.due) env 1
        (Sample.bundle Sample.due (-1)) ∧
      (some Sample.due, some (-1)) ∈ (Sample.bundle Sample.due (-1)).ages ∧
      ¬ CompletedYears (some Sample.due) env.today (some (-1)) := by
  refine ⟨by decide +kernel, by decide +kernel, by decide +kernel, ?_⟩
  rintro ⟨-, h⟩
  obtain ⟨n, hn, -⟩ := h _ rfl
  have hneg : (-1 : ℤ) = n := Option.some.inj hn
  omega
