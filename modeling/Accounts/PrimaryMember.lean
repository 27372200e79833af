import Accounts.Household

/-!
# The primary member of a family

No constraint says that a family has exactly one primary member. It is a
property of the service: the pairs of a family and its primary member,
read off the table of members in the order of its rows, are those the
completed signups have founded, in the order they completed – and so are
the families. `PrimaryMembers` is that invariant.

It holds without any assumption on what the requests draw: a signup that
draws the identifier of a family or of a member that is there fails, and a
signup that fails leaves nothing.
-/

open Repository

variable {P : Platform} {env : Env} {d d' : Database}

/-! ## Founders -/

/-- The family and its primary member, if one is founded. -/
def HouseholdEvent.founder (env : Env) : HouseholdEvent → Option (UUID × UUID)
  | founded _ => some (env.newId .family, env.newId .familyMember)
  | joined _ | created _ | deleted _ => none

/-- **The family and the primary member a completed request has
created.** -/
def founding (o : Completed Env Request Flight Exn Response) : Option (UUID × UUID) :=
  (householdEvent o).bind (HouseholdEvent.founder o.env)

/-- The family a member is the primary one of, and the member. -/
def FamilyMember.primaryOf (r : FamilyMember) : Option (UUID × UUID) :=
  if r.isPrimaryUser then some (r.familyId, r.id) else none

theorem FamilyMember.primaryOf_eq_some_iff {r : FamilyMember} {f m : UUID} :
    r.primaryOf = some (f, m) ↔ r.isPrimaryUser = true ∧ r.familyId = f ∧ r.id = m := by
  unfold primaryOf
  split
  · next h => simp [h]
  · next h => simp [h]

theorem FamilyMember.Keeps.primaryOf {r old : FamilyMember} (h : r.Keeps old) :
    r.primaryOf = old.primaryOf := by
  unfold FamilyMember.primaryOf
  rw [h.isPrimaryUser, h.familyId, h.id]

/-! ## Steps -/

section Steps

variable {fs fs' : List Family} {ms ms' : List FamilyMember} {event : Option HouseholdEvent}

/-- **The families are those that were founded**, after a step as well. -/
theorem HouseholdStep.families (h : HouseholdStep P env fs ms event fs' ms') :
    fs'.map (·.id)
      = fs.map (·.id) ++ ((event.bind (HouseholdEvent.founder env)).toList.map Prod.fst) := by
  cases h with
  | founded body => exact Table.map_insert _ _ _
  | @renamed r old hold hid =>
    show _ = _ ++ []
    rw [List.append_nil]
    exact Table.map_replace (fun x _ hx => hx.symm)
  | _ => exact (List.append_nil _).symm

/-- **The primary members are those who were founders**, after a step as
well. -/
theorem HouseholdStep.founders (h : HouseholdStep P env fs ms event fs' ms')
    (hkey : Table.Unique (fun r => some (FamilyMember.id r)) ms) :
    ms'.filterMap FamilyMember.primaryOf
      = ms.filterMap FamilyMember.primaryOf
        ++ (event.bind (HouseholdEvent.founder env)).toList := by
  cases h with
  | same | renamed => exact (List.append_nil _).symm
  | founded body =>
    rw [Table.insert, List.filterMap_append]
    rfl
  | joined body f role | created f body =>
    rw [Table.insert, List.filterMap_append]
    rfl
  | @updated r old hold hk =>
    show _ = _ ++ []
    rw [List.append_nil, Table.replace, List.filterMap_map]
    refine List.filterMap_congr (fun x hx => ?_)
    show FamilyMember.primaryOf (if x.id = r.id then r else x) = _
    split
    · next hid =>
      rw [hkey.eq hx hold rfl (congrArg some (hid.trans hk.id).symm), hk.primaryOf]
    · rfl
  | @deleted r hr hp =>
    show _ = _ ++ []
    rw [List.append_nil, Table.delete, List.filterMap_filter]
    refine List.filterMap_congr (fun x hx => ?_)
    split
    · rfl
    · next hid =>
      have hxr : x.id = r.id := by simpa using hid
      rw [hkey.eq hx hr rfl (congrArg some hxr.symm), FamilyMember.primaryOf, hp]
      rfl

end Steps

/-! ## The invariant -/

/-- **Families and primary members are what was founded**, in the order of
the log. -/
structure PrimaryMembers (d : Database)
    (log : List (Completed Env Request Flight Exn Response)) : Prop where
  /-- The families. -/
  families : d.families.map (·.id) = (log.filterMap founding).map Prod.fst
  /-- The primary members. -/
  members : d.members.filterMap FamilyMember.primaryOf = log.filterMap founding

namespace PrimaryMembers

variable {log : List (Completed Env Request Flight Exn Response)}
  {o : Completed Env Request Flight Exn Response}

/-- **A step keeps the invariant** that is logged as what it is. -/
theorem step (h : PrimaryMembers d log) (henv : o.env = env)
    (hs : HouseholdStep P env d.families d.members (householdEvent o) d'.families d'.members) :
    PrimaryMembers d' (log ++ [o]) := by
  have hlog : (log ++ [o]).filterMap founding = log.filterMap founding
      ++ ((householdEvent o).bind (HouseholdEvent.founder env)).toList := by
    rw [List.filterMap_append, ← henv]
    show _ ++ List.filterMap founding [o] = _ ++ (founding o).toList
    cases ho : founding o <;> simp [ho]
  constructor
  · rw [hs.families, h.families, hlog, List.map_append]
  · rw [hs.founders d.memberKey, h.members, hlog]

/-- A step that adds nobody keeps the invariant. -/
theorem step_none (h : PrimaryMembers d log)
    (hs : HouseholdStep P env d.families d.members none d'.families d'.members) :
    PrimaryMembers d' log := by
  constructor
  · rw [hs.families, h.families]
    exact List.append_nil _
  · rw [hs.founders d.memberKey, h.members]
    exact List.append_nil _

/-- The signup that created a family created its primary member. -/
theorem exists_founding (h : PrimaryMembers d log) {f : Family} (hf : f ∈ d.families) :
    ∃ o ∈ log, ∃ m ∈ d.members, founding o = some (f.id, m.id) ∧ m.familyId = f.id ∧
      m.isPrimaryUser = true := by
  have hmem : f.id ∈ (log.filterMap founding).map Prod.fst :=
    h.families ▸ List.mem_map_of_mem hf
  obtain ⟨⟨_, k⟩, hk, rfl⟩ := List.mem_map.mp hmem
  obtain ⟨o, ho, hok⟩ := List.mem_filterMap.mp hk
  obtain ⟨m, hm, hmk⟩ := List.mem_filterMap.mp (h.members ▸ hk)
  obtain ⟨hprim, hfam, rfl⟩ := FamilyMember.primaryOf_eq_some_iff.mp hmk
  exact ⟨o, ho, m, hm, hok, hfam, hprim⟩

/-- A family was founded by one member. -/
theorem founder_unique (h : PrimaryMembers d log) {f k k' : UUID}
    (hk : (f, k) ∈ log.filterMap founding) (hk' : (f, k') ∈ log.filterMap founding) : k = k' := by
  have hnd : ((log.filterMap founding).map Prod.fst).Nodup := h.families ▸ d.familyKey
  exact congrArg Prod.snd (List.inj_on_of_nodup_map hnd hk hk' rfl)

/-- **A family has one primary member.** -/
theorem unique (h : PrimaryMembers d log) {m m' : FamilyMember} (hm : m ∈ d.members)
    (hm' : m' ∈ d.members) (hfam : m.familyId = m'.familyId) (hp : m.isPrimaryUser = true)
    (hp' : m'.isPrimaryUser = true) : m = m' := by
  have hmem : ∀ {r : FamilyMember}, r ∈ d.members → r.isPrimaryUser = true →
      (r.familyId, r.id) ∈ log.filterMap founding := by
    intro r hr hrp
    rw [← h.members]
    exact List.mem_filterMap.mpr ⟨r, hr, FamilyMember.primaryOf_eq_some_iff.mpr ⟨hrp, rfl, rfl⟩⟩
  have hid : m.id = m'.id := h.founder_unique (hmem hm hp) (hfam ▸ hmem hm' hp')
  exact d.memberKey.eq hm hm' rfl (congrArg some hid.symm)

end PrimaryMembers

/-- **Every schedule keeps the invariant.** -/
theorem primaryMembers_run (P : Platform) (ms : List (Move Env Request)) :
    PrimaryMembers ((concurrentService P).system.run idle ms).shared
      ((concurrentService P).system.run idle ms).log := by
  refine (concurrentService P).system.run_invariant (P := fun _ _ => True)
    (fun c => PrimaryMembers c.shared c.log) (fun c m h _ => ?_) ⟨rfl, rfl⟩
    ((concurrentService P).system.every_of_forall _ (fun _ _ => trivial))
  rcases household_move P c m with ⟨hlog, hs⟩ | ⟨o, hlog, henv, hs⟩
  · rw [TwoStep.system_next, hlog]
    exact h.step_none hs
  · rw [TwoStep.system_next, hlog]
    exact h.step henv hs

/-! ## The primary member -/

/-- **Looking up the primary member** never meets several. -/
theorem FamilyMemberRepository.primaryUser_returns {f : UUID}
    (h : ∀ m ∈ d.members, ∀ m' ∈ d.members, m.familyId = m'.familyId → m.isPrimaryUser = true →
      m'.isPrimaryUser = true → m = m') :
    (primaryUser f).Returns ⟨d, d⟩
      (d.members.find? (fun m => m.familyId = f && m.isPrimaryUser)) ⟨d, d⟩ := by
  have hone : Table.AtMostOne (fun m : FamilyMember => m.familyId = f && m.isPrimaryUser)
      d.members := by
    intro m hm m' hm' hp hp'
    obtain ⟨hfam, hprim⟩ : m.familyId = f ∧ m.isPrimaryUser = true := by simpa using hp
    obtain ⟨hfam', hprim'⟩ : m'.familyId = f ∧ m'.isPrimaryUser = true := by simpa using hp'
    exact h m hm m' hm' (hfam.trans hfam'.symm) hprim hprim'
  exact getOneOrNone_returns hone

/-- **A step leaves the primary members there are.** -/
theorem HouseholdStep.primary_stays {fs fs' : List Family} {ms ms' : List FamilyMember}
    {event : Option HouseholdEvent} (h : HouseholdStep P env fs ms event fs' ms')
    (hkey : Table.Unique (fun r => some (FamilyMember.id r)) ms) {m : FamilyMember}
    (hm : m ∈ ms) (hp : m.isPrimaryUser = true) :
    ∃ m' ∈ ms', m'.id = m.id ∧ m'.familyId = m.familyId ∧ m'.isPrimaryUser = true := by
  have hmem : (m.familyId, m.id) ∈ ms'.filterMap FamilyMember.primaryOf := by
    rw [h.founders hkey]
    exact List.mem_append_left _ (List.mem_filterMap.mpr
      ⟨m, hm, FamilyMember.primaryOf_eq_some_iff.mpr ⟨hp, rfl, rfl⟩⟩)
  obtain ⟨m', hm', h'⟩ := List.mem_filterMap.mp hmem
  obtain ⟨hp', hfam, hid⟩ := FamilyMember.primaryOf_eq_some_iff.mp h'
  exact ⟨m', hm', hid, hfam, hp'⟩

/-- **A member that has become primary** has founded its family, and was
not there before. -/
theorem HouseholdStep.primary_new {fs fs' : List Family} {ms ms' : List FamilyMember}
    {event : Option HouseholdEvent} (h : HouseholdStep P env fs ms event fs' ms')
    (hkey : Table.Unique (fun r => some (FamilyMember.id r)) ms)
    (hkey' : Table.Unique (fun r => some (FamilyMember.id r)) ms') {m' : FamilyMember}
    (hm' : m' ∈ ms') (hp : m'.isPrimaryUser = true) :
    (∃ m ∈ ms, m.id = m'.id ∧ m.familyId = m'.familyId ∧ m.isPrimaryUser = true) ∨
      (event.bind (HouseholdEvent.founder env) = some (m'.familyId, m'.id) ∧
        ∀ m ∈ ms, m.id ≠ m'.id) := by
  have hmem : (m'.familyId, m'.id) ∈ ms'.filterMap FamilyMember.primaryOf :=
    List.mem_filterMap.mpr ⟨m', hm', FamilyMember.primaryOf_eq_some_iff.mpr ⟨hp, rfl, rfl⟩⟩
  rw [h.founders hkey] at hmem
  rcases List.mem_append.mp hmem with hold | hnew
  · obtain ⟨m, hm, hmk⟩ := List.mem_filterMap.mp hold
    obtain ⟨hprim, hfam, hid⟩ := FamilyMember.primaryOf_eq_some_iff.mp hmk
    exact Or.inl ⟨m, hm, hid, hfam, hprim⟩
  · rw [Option.mem_toList] at hnew
    refine Or.inr ⟨hnew, fun m hm hid => ?_⟩
    cases h with
    | founded body =>
      have hidnew : env.newId .familyMember = m'.id := congrArg Prod.snd (Option.some.inj hnew)
      exact (Table.unique_insert_iff.mp hkey').2 _ rfl m hm (congrArg some (hid.trans hidnew.symm))
    | _ => cases hnew

/-- **Exactly one primary member per family.** In every interleaving of any
requests from the empty database, with whatever bodies, whether they
return, fail or lose a race: every family has exactly one primary member;
it is the one created by the signup that created the family. No further
step sets the mark on a member, clears it or deletes a primary member, and
the look-up of a family's primary member never meets several rows. -/
theorem exactly_one_primary_member (P : Platform) (ms : List (Move Env Request)) :
    let c := (concurrentService P).system.run idle ms
    (∀ f ∈ c.shared.families, ∃ o ∈ c.log, ∃ m ∈ c.shared.members,
      founding o = some (f.id, m.id) ∧ m.familyId = f.id ∧ m.isPrimaryUser = true ∧
        (∀ o' ∈ c.log, ∀ k, founding o' = some (f.id, k) → k = m.id) ∧
        ∀ m' ∈ c.shared.members, m'.familyId = f.id → m'.isPrimaryUser = true → m' = m) ∧
    (∀ move, let c' := (concurrentService P).move c move
      (∀ m ∈ c.shared.members, m.isPrimaryUser = true → ∃ m' ∈ c'.shared.members,
        m'.id = m.id ∧ m'.familyId = m.familyId ∧ m'.isPrimaryUser = true) ∧
      ∀ m' ∈ c'.shared.members, m'.isPrimaryUser = true →
        (∃ m ∈ c.shared.members, m.id = m'.id ∧ m.familyId = m'.familyId ∧
          m.isPrimaryUser = true) ∨
        ((∀ m ∈ c.shared.members, m.id ≠ m'.id) ∧
          ∃ o, c'.log = c.log ++ [o] ∧ founding o = some (m'.familyId, m'.id))) ∧
    ∀ f, (FamilyMemberRepository.primaryUser f).Returns ⟨c.shared, c.shared⟩
      (c.shared.members.find? (fun m => m.familyId = f && m.isPrimaryUser))
      ⟨c.shared, c.shared⟩ := by
  intro c
  have hinv : PrimaryMembers c.shared c.log := primaryMembers_run P ms
  refine ⟨fun f hf => ?_, fun move => ⟨fun m hm hp => ?_, fun m' hm' hp => ?_⟩, fun f => ?_⟩
  · obtain ⟨o, ho, m, hm, hfound, hfam, hprim⟩ := hinv.exists_founding hf
    have hlog : ∀ o ∈ c.log, ∀ k, founding o = some (f.id, k) →
        (f.id, k) ∈ c.log.filterMap founding :=
      fun o ho k hk => List.mem_filterMap.mpr ⟨o, ho, hk⟩
    exact ⟨o, ho, m, hm, hfound, hfam, hprim,
      fun o' ho' k hk => hinv.founder_unique (hlog o' ho' k hk) (hlog o ho _ hfound),
      fun m' hm' hfam' hprim' => hinv.unique hm' hm (hfam'.trans hfam.symm) hprim' hprim⟩
  · rcases household_move P c move with ⟨-, hs⟩ | ⟨o, -, -, hs⟩ <;>
      exact hs.primary_stays c.shared.memberKey hm hp
  · rcases household_move P c move with ⟨-, hs⟩ | ⟨o, hlog, henv, hs⟩
    · rcases hs.primary_new c.shared.memberKey (Store.memberKey _) hm' hp with h | ⟨h, -⟩
      · exact Or.inl h
      · exact absurd h.symm (Option.some_ne_none _)
    · rcases hs.primary_new c.shared.memberKey (Store.memberKey _) hm' hp with h | ⟨h, hnew⟩
      · exact Or.inl h
      · refine Or.inr ⟨hnew, o, hlog, ?_⟩
        rw [founding, henv]
        exact h
  · exact FamilyMemberRepository.primaryUser_returns
      (fun m hm m' hm' hfam hp hp' => hinv.unique hm hm' hfam hp hp')
