import Accounts.ContextBundle
import Accounts.Household

/-!
# Every child has one reading profile

The unique column keeps a second reading profile of a child out, and the
foreign key keeps a profile from outliving its child. That no child is
without a profile is nowhere declared: it holds because a child is created
together with a profile, because deleting a child is the only way a profile
is deleted, and because a request that fails halfway leaves nothing.

`ChildrenStep` lists what a step of the service may do to the two tables.
From the invariant `Covered` follows what the methods can rely on:
`get_reading_profile` raises for a foreign child only, and the branch of
`upsert_reading_profile` that inserts is dead (`exactly_one_reading_profile`).
-/

open Repository

variable {P : Platform} {env : Env} {d d' : Database} {cs cs' : List ChildProfile}
  {ps ps' : List ChildReadingProfile}

/-! ## The machine -/

/-- **A step of the tables of children and reading profiles.** -/
inductive ChildrenStep (cs : List ChildProfile) (ps : List ChildReadingProfile) :
    List ChildProfile → List ChildReadingProfile → Prop where
  /-- Nothing. -/
  | same : ChildrenStep cs ps cs ps
  /-- A child is created, with a reading profile. -/
  | created {c : ChildProfile} {p : ChildReadingProfile} (hchild : p.childId = c.id) :
    ChildrenStep cs ps (Table.insert cs c) (Table.insert ps p)
  /-- A child is updated. -/
  | updated {r old : ChildProfile} (hold : old ∈ cs) (hid : r.id = old.id) :
    ChildrenStep cs ps (Table.replace ChildProfile.id r cs) ps
  /-- A child is deleted, and its reading profile. -/
  | deleted (k : UUID) : ChildrenStep cs ps (Table.delete ChildProfile.id k cs)
      (ps.filter (fun p => !decide (p.childId = k)))
  /-- A reading profile is updated. -/
  | filled {r old : ChildReadingProfile} (hold : old ∈ ps) (hid : r.id = old.id)
    (hchild : r.childId = old.childId) :
    ChildrenStep cs ps cs (Table.replace ChildReadingProfile.id r ps)
  /-- A reading profile is added to a child that has none. -/
  | seeded {p : ChildReadingProfile} (hnone : ∀ x ∈ ps, x.childId ≠ p.childId) :
    ChildrenStep cs ps cs (Table.insert ps p)

/-- **Every child has a reading profile.** -/
def Covered (cs : List ChildProfile) (ps : List ChildReadingProfile) : Prop :=
  ∀ c ∈ cs, ∃ p ∈ ps, p.childId = c.id

/-- **A step leaves every child a reading profile.** -/
theorem Covered.step (h : Covered cs ps) (hs : ChildrenStep cs ps cs' ps')
    (hkey : Table.Unique (fun r => some (ChildReadingProfile.id r)) ps) : Covered cs' ps' := by
  intro c hc
  cases hs with
  | same => exact h c hc
  | @created c' p hchild =>
    rcases Table.mem_insert.mp hc with hc | rfl
    · obtain ⟨p', hp', hpc⟩ := h c hc
      exact ⟨p', Table.mem_insert.mpr (Or.inl hp'), hpc⟩
    · exact ⟨p, Table.mem_insert.mpr (Or.inr rfl), hchild⟩
  | @updated r old hold hid =>
    rcases Table.mem_replace.mp hc with ⟨rfl, -⟩ | ⟨hc, -⟩
    · obtain ⟨p, hp, hpc⟩ := h old hold
      exact ⟨p, hp, hpc.trans hid.symm⟩
    · exact h c hc
  | deleted k =>
    -- the profile of a child that stays is not the one of the deleted child
    obtain ⟨hc, hne⟩ := Table.mem_delete.mp hc
    obtain ⟨p, hp, hpc⟩ := h c hc
    refine ⟨p, List.mem_filter.mpr ⟨hp, ?_⟩, hpc⟩
    rw [hpc]
    simpa using hne
  | @filled r old hold hid hchild =>
    obtain ⟨p, hp, hpc⟩ := h c hc
    by_cases hpr : p.id = r.id
    · have hpo : p = old := hkey.eq hp hold rfl (congrArg some (hpr.trans hid).symm)
      exact ⟨r, Table.mem_replace.mpr (Or.inl ⟨rfl, p, hp, hpr⟩), hchild.trans (hpo ▸ hpc)⟩
    · exact ⟨p, Table.mem_replace.mpr (Or.inr ⟨hp, hpr⟩), hpc⟩
  | seeded hnone =>
    obtain ⟨p, hp, hpc⟩ := h c hc
    exact ⟨p, Table.mem_insert.mpr (Or.inl hp), hpc⟩

/-! ## Operations of a family -/

/-- The reading profiles are left alone by an operation that is not about
children. -/
theorem ScopedChange.readingProfiles {f : UUID} {T : Option TableName}
    {t' : (T : TableName) → List T.Row} (h : ScopedChange env f d T t')
    (hc : T ≠ some .childProfile) (hp : T ≠ some .childReadingProfile) :
    t' .childReadingProfile = d.readingProfiles :=
  h.rows_of_ne hp (by simp) (fun _ => hc)

namespace ChildService

variable {s s' : Session Database} {f childId : UUID}

/-- **What creating a child leaves.** -/
theorem create_change {body : ChildCreate} {a : ChildProfile}
    (h : (create env f body).Returns s a s') :
    ∃ c p, p.childId = c.id ∧ s'.working.children = Table.insert s.working.children c ∧
      s'.working.readingProfiles = Table.insert s.working.readingProfiles p := by
  obtain ⟨c, s₁, h₁, h₂⟩ := Tx.returns_bind.mp h
  obtain ⟨p, h₃, -⟩ := Tx.returns_bind_pure.mp h₂
  obtain ⟨hk, hrows⟩ := add_change h₁
  obtain ⟨hk', hrows'⟩ := add_change h₃
  refine ⟨c, p, Option.some.inj (hk'.reference _ List.mem_cons_self), ?_, ?_⟩
  · show s'.working.rows .childProfile = _
    rw [hrows', Schema.insert_of_ne (by simp), hrows, Schema.insert_self]
  · show s'.working.rows .childReadingProfile = _
    rw [hrows', Schema.insert_self, hrows, Schema.insert_of_ne (by simp)]

/-- **What deleting a child leaves.** -/
theorem delete_change (h : (delete f childId).Returns s () s') :
    ∃ k, s'.working.children = Table.delete ChildProfile.id k s.working.children ∧
      s'.working.readingProfiles
        = s.working.readingProfiles.filter (fun p => !decide (p.childId = k)) := by
  obtain ⟨c, s₁, h₁, h₂⟩ := Tx.returns_bind.mp h
  obtain ⟨-, -, -, rfl⟩ := require_returns.mp h₁
  have hrows := Repository.delete_change h₂
  refine ⟨c.id, ?_, ?_⟩
  · show s'.working.rows .childProfile = _
    rw [hrows, Schema.delete_self, cascade_of_ne (Or.inr (by simp)) (Or.inr (by simp))]
    rfl
  · show s'.working.rows .childReadingProfile = _
    rw [hrows, Schema.delete_of_ne (by simp)]
    exact Schema.discard_self

end ChildService

/-- **An operation of a family is a step of the machine.** -/
theorem FamilyOp.childrenStep {s s' : Session Database} {f : UUID} {op : FamilyOp}
    {response : Response} (h : (op.run P env f).Returns s response s') :
    ChildrenStep s.working.children s.working.readingProfiles s'.working.children
      s'.working.readingProfiles := by
  have hchange := FamilyOp.run_change h
  by_cases hc : op.target = some .childProfile
  · cases op <;> try (cases hc; done)
    case createChild body =>
      obtain ⟨a, h₁, -⟩ := Tx.returns_bind_pure.mp h
      obtain ⟨c, p, hchild, hchildren, hprofiles⟩ := ChildService.create_change h₁
      rw [hchildren, hprofiles]
      exact .created hchild
    case updateChild childId body =>
      obtain ⟨a, h₁, -⟩ := Tx.returns_bind_pure.mp h
      obtain ⟨c, s₂, h₂, h₃⟩ := Tx.returns_bind.mp h₁
      obtain ⟨-, -, -, rfl⟩ := ChildService.require_returns.mp h₂
      obtain ⟨old, hold, -, hk, hrows⟩ :=
        update_change (fun _ _ hr => ChildProfile.applyChanges_sameKeys hr) h₃
      rw [show s'.working.children = Table.replace ChildProfile.id a s₂.working.children by
          rw [Database.children, hrows, Schema.replace_self]
          rfl,
        show s'.working.readingProfiles = s₂.working.readingProfiles by
          rw [Database.readingProfiles, hrows, Schema.replace_of_ne (by simp)]]
      exact .updated hold hk.id
    case deleteChild childId =>
      obtain ⟨_, h₁, -⟩ := Tx.returns_bind_pure.mp h
      obtain ⟨k, hchildren, hprofiles⟩ := ChildService.delete_change h₁
      rw [hchildren, hprofiles]
      exact .deleted k
  · have hchildren : s'.working.children = s.working.children :=
      hchange.rows_of_ne hc (by simp) (by simp)
    rw [hchildren]
    by_cases hp : op.target = some .childReadingProfile
    · cases op <;> try (cases hp; done)
      case upsertReadingProfile childId body =>
        obtain ⟨a, h₁, -⟩ := Tx.returns_bind_pure.mp h
        obtain ⟨c, s₂, h₂, h₃⟩ := Tx.returns_bind.mp h₁
        obtain ⟨-, -, -, rfl⟩ := ChildService.require_returns.mp h₂
        rw [ChildReadingProfileRepository.getByChild_eq_read] at h₃
        obtain ⟨found, s₃, h₄, h₅⟩ := Tx.returns_bind.mp h₃
        obtain ⟨hfound, rfl⟩ := Tx.returns_read.mp h₄
        cases found with
        | none =>
          obtain ⟨hk, hrows⟩ := add_change h₅
          have hchild : a.childId = childId :=
            Option.some.inj (hk.reference _ List.mem_cons_self)
          rw [show s'.working.readingProfiles = Table.insert s₃.working.readingProfiles a by
            rw [Database.readingProfiles, hrows, Schema.insert_self]]
          refine .seeded (fun x hx hxa => ?_)
          exact List.find?_eq_none.mp hfound.symm x hx (by simpa using hxa.trans hchild)
        | some profile =>
          obtain ⟨old, hold, -, hk, hrows⟩ :=
            update_change (fun _ _ hr => ChildReadingProfile.applyChanges_sameKeys hr) h₅
          rw [show s'.working.readingProfiles
              = Table.replace ChildReadingProfile.id a s₃.working.readingProfiles by
            rw [Database.readingProfiles, hrows, Schema.replace_self]
            rfl]
          exact .filled hold hk.id (Option.some.inj (hk.reference _ List.mem_cons_self))
    · rw [show s'.working.readingProfiles = s.working.readingProfiles from
        hchange.readingProfiles hc hp]
      exact .same

/-! ## The two steps of a request -/

/-- **The first step of a request** is a step of the machine. -/
theorem first_children {req : Request} {r : Flight ⊕ Completed Env Request Flight Exn Response}
    (h : (concurrentService P).first env req d = (d', r)) :
    ChildrenStep d.children d.readingProfiles d'.children d'.readingProfiles := by
  rcases first_cases h with rfl | ⟨s', rfl, ⟨body, a, -, hl⟩ | ⟨f, op, response, -, -, hop⟩⟩
  · exact .same
  · obtain ⟨m, -, hi⟩ := AuthService.login_returns hl
    rw [show s'.working.children = d.children from AuthService.issueTokens_rows hi (by simp),
      show s'.working.readingProfiles = d.readingProfiles from
        AuthService.issueTokens_rows hi (by simp)]
    exact .same
  · exact FamilyOp.childrenStep hop

/-- **The tables the second steps of requests write**, next to the profiles of
members. -/
def flightTables : List TableName := [.family, .familyMember, .familyInvite, .refreshToken]

/-- **The second step of a request leaves every other table alone.** -/
theorem Flight.finish_rows {flight : Flight} {r : Except Exn Response}
    (h : Tx.serve Exn.handled (flight.finish P env) d = (r, d')) {T : TableName}
    (hT : T ∉ flightTables)
    (hp : T = .familyMemberProfile → ∀ memberId body profile,
      flight ≠ .upsertProfile memberId body profile) : d'.rows T = d.rows T := by
  refine finish_frame h (fun hTf => ?_)
  have hsub : flight.tables ⊆ flightTables → False := fun hsub => hT (hsub hTf)
  cases flight with
  | upsertProfile memberId body profile => exact hp (List.mem_singleton.mp hTf) _ _ _ rfl
  | signup body invite => cases invite <;> exact hsub (by simp [tables, flightTables])
  | _ => exact hsub (by simp [tables, flightTables])

/-- The tables no second step of a request is about. -/
def childTables : List TableName :=
  [.familyReadingPolicy, .childProfile, .childReadingProfile, .readingHistory]

/-- **The second step of a request leaves the tables of children alone.** -/
theorem finish_childTables {flight : Flight} {o : Completed Env Request Flight Exn Response}
    (h : (concurrentService P).second env flight d = (d', o)) {T : TableName}
    (hT : T ∈ childTables) : d'.rows T = d.rows T := by
  obtain ⟨-, -, hs⟩ := TwoStep.ofPhases_second h
  have hdisjoint : ∀ T ∈ childTables, T ∉ flightTables ∧ T ≠ .familyMemberProfile := by decide
  exact Flight.finish_rows hs (hdisjoint T hT).1 (fun hTp => absurd hTp (hdisjoint T hT).2)

/-- **The second step of a request** leaves both tables as they were. -/
theorem finish_children {flight : Flight} {o : Completed Env Request Flight Exn Response}
    (h : (concurrentService P).second env flight d = (d', o)) :
    ChildrenStep d.children d.readingProfiles d'.children d'.readingProfiles := by
  rw [show d'.children = d.children from finish_childTables h (by decide),
    show d'.readingProfiles = d.readingProfiles from finish_childTables h (by decide)]
  exact .same

/-- **A move of a schedule** is a step of the machine. -/
theorem children_move (P : Platform) (c : State) (m : Move Env Request) :
    ChildrenStep c.shared.children c.shared.readingProfiles
      ((concurrentService P).move c m).shared.children
      ((concurrentService P).move c m).shared.readingProfiles := by
  obtain ⟨-, -, hs⟩ := TwoStep.move_cases (M := concurrentService P)
    (R := fun _ d => ChildrenStep c.shared.children c.shared.readingProfiles d.children
      d.readingProfiles) c m .same (fun _ _ _ hf => first_children hf)
    (fun _ _ _ hf => finish_children hf)
  exact hs

/-! ## The invariant -/

/-- **Every child has a reading profile**, in every state an interleaving
reaches. -/
theorem covered_run (P : Platform) (ms : List (Move Env Request)) :
    Covered ((concurrentService P).system.run idle ms).shared.children
      ((concurrentService P).system.run idle ms).shared.readingProfiles := by
  refine (concurrentService P).system.run_invariant (P := fun _ _ => True)
    (fun c => Covered c.shared.children c.shared.readingProfiles) (fun c m h _ => ?_)
    (by rintro c ⟨⟩) ((concurrentService P).system.every_of_forall _ (fun _ _ => trivial))
  exact h.step (children_move P c m) (c.shared.consistent.key .childReadingProfile)

/-! ## What the methods can rely on -/

theorem Store.childKey (d : Database) :
    Table.Unique (fun r => some (ChildProfile.id r)) d.children :=
  d.consistent.key .childProfile

namespace ChildService

/-- `upsert_reading_profile`, with anything in place of the branch that
inserts a profile. -/
def upsertReadingProfileOr (other : Op ChildReadingProfile) (env : Env) (familyId childId : UUID)
    (body : ReadingProfileUpsert) : Op ChildReadingProfile := do
  let _ ← require familyId childId
  match ← ChildReadingProfileRepository.getByChild childId with
  | none => other
  | some profile => Repository.update env .childReadingProfile profile.id (fun r =>
      ChildReadingProfile.applyChanges r body)

variable {f childId : UUID}

/-- **A foreign child** is the one thing `get_reading_profile` raises for,
where every child has a profile. -/
theorem getReadingProfile_notFound_iff (h : Covered d.children d.readingProfiles) :
    answer (getReadingProfile f childId) d = .error .notFound ↔
      ¬ ∃ c ∈ d.children, c.id = childId ∧ c.familyId = f := by
  constructor
  · rintro hraise ⟨c, hc, rfl, hf⟩
    obtain ⟨p, hp, hpc⟩ := h c hc
    have hpiece := piece_readingProfile hc hf
    cases hfind : d.readingProfiles.find? (fun r => r.childId = c.id) with
    | none => exact List.find?_eq_none.mp hfind p hp (by simpa using hpc)
    | some profile =>
      rw [hfind] at hpiece
      cases hraise.symm.trans hpiece
  · intro hforeign
    exact answer_of_raises (Tx.raises_bind.mpr (Or.inl (require_raises hforeign)))

/-- **The branch that inserts is dead**, where every child has a profile. -/
theorem upsertReadingProfile_eq (h : Covered d.children d.readingProfiles)
    (other : Op ChildReadingProfile) (env : Env) (body : ReadingProfileUpsert) :
    upsertReadingProfileOr other env f childId body ⟨d, d⟩
      = upsertReadingProfile env f childId body ⟨d, d⟩ := by
  refine Tx.bind_congr_returns (fun c s hc => ?_)
  obtain ⟨hmem, rfl, -, rfl⟩ := require_returns.mp hc
  rw [ChildReadingProfileRepository.getByChild_eq_read]
  refine Tx.bind_congr_returns (fun found s hread => ?_)
  obtain ⟨hfound, rfl⟩ := Tx.returns_read.mp hread
  cases found with
  | none =>
    obtain ⟨p, hp, hpc⟩ := h c hmem
    exact absurd (decide_eq_true hpc) (List.find?_eq_none.mp hfound.symm p hp)
  | some profile => rfl

end ChildService

/-- **Every child has exactly one reading profile.** In every interleaving
of any requests from the empty database – the serial runs among them
(`exists_schedule`): every child has one reading profile, and every reading
profile one child. So `get_reading_profile` raises `NotFoundError` for those
that are not children of the family, and for nobody else, and whatever stands
in place of the branch of `upsert_reading_profile` that inserts makes no
difference. -/
theorem exactly_one_reading_profile (P : Platform) (ms : List (Move Env Request)) :
    let d := ((concurrentService P).system.run idle ms).shared
    (∀ c ∈ d.children, ∃! p, p ∈ d.readingProfiles ∧ p.childId = c.id) ∧
    (∀ p ∈ d.readingProfiles, ∃! c, c ∈ d.children ∧ c.id = p.childId) ∧
    (∀ f childId, answer (ChildService.getReadingProfile f childId) d = .error .notFound ↔
      ¬ ∃ c ∈ d.children, c.id = childId ∧ c.familyId = f) ∧
    ∀ other env f childId body,
      ChildService.upsertReadingProfileOr other env f childId body ⟨d, d⟩
        = ChildService.upsertReadingProfile env f childId body ⟨d, d⟩ := by
  intro d
  have hcov : Covered d.children d.readingProfiles := covered_run P ms
  refine ⟨fun c hc => ?_, fun p hp => ?_, fun f childId =>
    ChildService.getReadingProfile_notFound_iff hcov, fun other env f childId body =>
    ChildService.upsertReadingProfile_eq hcov other env body⟩
  · obtain ⟨p, hp, hpc⟩ := hcov c hc
    have hunique := d.consistent.unique .childReadingProfile _ (List.mem_singleton.mpr rfl)
    exact ⟨p, ⟨hp, hpc⟩, fun p' ⟨hp', hpc'⟩ => hunique.eq hp' hp
      (congrArg (some ∘ Sum.inl) hpc') (congrArg (some ∘ Sum.inl) hpc)⟩
  · have href : p.childId ∈ d.children.map ChildProfile.id := d.consistent.reference
      .childReadingProfile (.childProfile, fun r => some r.childId) List.mem_cons_self p hp _ rfl
    obtain ⟨c, hc, hcp⟩ := List.mem_map.mp href
    exact ⟨c, ⟨hc, hcp⟩, fun c' ⟨hc', hcp'⟩ =>
      d.childKey.eq hc' hc (congrArg some hcp') (congrArg some hcp)⟩
