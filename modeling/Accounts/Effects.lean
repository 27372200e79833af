import Accounts.Ownership
import Accounts.Atomicity

/-!
# What an operation scoped to a family may do

Said once, for all of them: an operation that returns has read, or has
inserted, updated or deleted one row that belongs to its family, in the
one table it is about – creating a child inserts its reading profile as
well. `ScopedChange` is that list, `FamilyOp.run_change` is the theorem,
and the results about operations scoped to a family are case analyses on
it.

Before it come the look-ups of the services, each described by the row it
returns, and the fact that applying the changes of a body keeps the keys
of a row.
-/

open Repository

variable {P : Platform} {env : Env} {s s' : Session Database}

/-! ## Looking a row up -/

section Required

variable {T : TableName} {p : T.Row → Bool} {e : Exn}
  (h : ∀ d : Database, Table.AtMostOne p (d.rows T))

include h

/-- **A row that has to be there** is returned when it is. -/
theorem Repository.required_returns {r : T.Row} :
    (do Tx.orRaise e (← getOneOrNone T p) : Op T.Row).Returns s r s' ↔
      r ∈ s.working.rows T ∧ p r = true ∧ s' = s := by
  rw [getOneOrNone_eq_read h]
  simp only [Tx.returns_bind, Tx.returns_read, Tx.returns_orRaise]
  constructor
  · rintro ⟨o, s₁, ⟨rfl, rfl⟩, hr, rfl⟩
    exact ⟨List.mem_of_find?_eq_some hr, List.find?_some hr, rfl⟩
  · rintro ⟨hr, hp, rfl⟩
    exact ⟨_, _, ⟨rfl, rfl⟩,
      (Table.find?_eq_some_iff_of_atMostOne (h s'.working)).mpr ⟨hr, hp⟩, rfl⟩

/-- When it is not, the look-up raises. -/
theorem Repository.required_raises {x : Exn} :
    (do Tx.orRaise e (← getOneOrNone T p) : Op T.Row).Raises s x s' ↔
      (∀ r ∈ s.working.rows T, ¬ p r = true) ∧ x = e ∧ s' = s := by
  rw [getOneOrNone_eq_read h]
  simp only [Tx.raises_bind, Tx.raises_read, Tx.returns_read, Tx.raises_orRaise, false_or]
  constructor
  · rintro ⟨o, s₁, ⟨rfl, rfl⟩, hr, rfl, rfl⟩
    exact ⟨List.find?_eq_none.mp hr, rfl, rfl⟩
  · rintro ⟨hr, rfl, rfl⟩
    exact ⟨_, _, ⟨rfl, rfl⟩, List.find?_eq_none.mpr hr, rfl, rfl⟩

end Required

theorem Family.atMostOne (familyId : UUID) (d : Database) :
    Table.AtMostOne (fun r : Family => decide (r.id = familyId)) d.families :=
  Database.atMostOne_of_id (T := .family) (k := familyId) (fun r hr => by simpa using hr) d

theorem FamilyMember.atMostOne (memberId familyId : UUID) (d : Database) :
    Table.AtMostOne (fun r : FamilyMember => r.id = memberId && r.familyId = familyId)
      d.members :=
  Database.atMostOne_of_id (T := .familyMember) (k := memberId)
    (fun r hr => by simp at hr; exact hr.1) d

theorem FamilyInvite.atMostOne (inviteId familyId : UUID) (d : Database) :
    Table.AtMostOne (fun r : FamilyInvite => r.id = inviteId && r.familyId = familyId)
      d.invites :=
  Database.atMostOne_of_id (T := .familyInvite) (k := inviteId)
    (fun r hr => by simp at hr; exact hr.1) d

theorem FamilyReadingPolicy.atMostOne (policyId familyId : UUID) (d : Database) :
    Table.AtMostOne (fun r : FamilyReadingPolicy => r.id = policyId && r.familyId = familyId)
      d.policies :=
  Database.atMostOne_of_id (T := .familyReadingPolicy) (k := policyId)
    (fun r hr => by simp at hr; exact hr.1) d

theorem ChildProfile.atMostOne (childId familyId : UUID) (d : Database) :
    Table.AtMostOne (fun r : ChildProfile => r.id = childId && r.familyId = familyId)
      d.children :=
  Database.atMostOne_of_id (T := .childProfile) (k := childId)
    (fun r hr => by simp at hr; exact hr.1) d

theorem ReadingHistory.atMostOne (entryId childId : UUID) (d : Database) :
    Table.AtMostOne (fun r : ReadingHistory => r.id = entryId && r.childId = childId)
      d.readingHistory :=
  Database.atMostOne_of_id (T := .readingHistory) (k := entryId)
    (fun r hr => by simp at hr; exact hr.1) d

theorem FamilyService.get_returns {familyId : UUID} {r : Family} :
    (get familyId).Returns s r s' ↔ r ∈ s.working.families ∧ r.id = familyId ∧ s' = s :=
  (required_returns (Family.atMostOne familyId)).trans (by simp)

theorem MemberService.require_returns {familyId memberId : UUID} {r : FamilyMember} :
    (require familyId memberId).Returns s r s' ↔
      r ∈ s.working.members ∧ r.id = memberId ∧ r.familyId = familyId ∧ s' = s :=
  (required_returns (FamilyMember.atMostOne memberId familyId)).trans (by simp [and_assoc])

theorem InviteService.find_returns {familyId inviteId : UUID} {r : FamilyInvite} :
    (do Tx.orRaise .notFound (← FamilyInviteRepository.getInFamily inviteId familyId) :
      Op FamilyInvite).Returns s r s' ↔
      r ∈ s.working.invites ∧ r.id = inviteId ∧ r.familyId = familyId ∧ s' = s :=
  (required_returns (FamilyInvite.atMostOne inviteId familyId)).trans (by simp [and_assoc])

theorem PolicyService.require_returns {familyId policyId : UUID} {r : FamilyReadingPolicy} :
    (require familyId policyId).Returns s r s' ↔
      r ∈ s.working.policies ∧ r.id = policyId ∧ r.familyId = familyId ∧ s' = s :=
  (required_returns (FamilyReadingPolicy.atMostOne policyId familyId)).trans (by simp [and_assoc])

theorem ChildService.require_returns {familyId childId : UUID} {r : ChildProfile} :
    (require familyId childId).Returns s r s' ↔
      r ∈ s.working.children ∧ r.id = childId ∧ r.familyId = familyId ∧ s' = s :=
  (required_returns (ChildProfile.atMostOne childId familyId)).trans (by simp [and_assoc])

theorem ChildService.requireEntry_returns {childId entryId : UUID} {r : ReadingHistory} :
    (requireEntry childId entryId).Returns s r s' ↔
      r ∈ s.working.readingHistory ∧ r.id = entryId ∧ r.childId = childId ∧ s' = s :=
  (required_returns (ReadingHistory.atMostOne entryId childId)).trans (by simp [and_assoc])

/-- **The child of a policy is a child of the family.** -/
theorem PolicyService.resolveChild_returns {childId : Option String} {familyId : UUID}
    {c : Option UUID} (h : (resolveChild childId familyId).Returns s c s') :
    s' = s ∧ ∀ id ∈ c, ∃ r ∈ s.working.children, r.id = id ∧ r.familyId = familyId := by
  refine ⟨(reads_resolveChild childId familyId).returns h, ?_⟩
  cases childId with
  | none =>
    obtain ⟨rfl, -⟩ := Tx.returns_pure.mp h
    simp
  | some text =>
    obtain ⟨u, s₁, hu, hrest⟩ := Tx.returns_bind.mp h
    obtain ⟨-, rfl⟩ := Tx.returns_orRaise.mp hu
    rw [← bind_assoc] at hrest
    obtain ⟨r, s₂, hr, hp⟩ := Tx.returns_bind.mp hrest
    obtain ⟨hmem, hid, hfam, -⟩ := ChildService.require_returns.mp hr
    obtain ⟨rfl, -⟩ := Tx.returns_pure.mp hp
    simp only [Option.mem_some_iff, forall_eq']
    exact ⟨r, hmem, hid, hfam⟩

/-! ## Changes keep the keys -/

section Changes

open TableName

theorem Family.applyChanges_sameKeys {r r' : Family} {b : FamilyUpdate}
    (h : r.applyChanges b = .ok r') : schema.SameKeys .family r' r := by
  cases h
  exact ⟨rfl, by simp [uniques], by simp [references]⟩

theorem FamilyMember.applyChanges_sameKeys {r r' : FamilyMember} {b : MemberUpdate}
    (h : r.applyChanges b = .ok r') : schema.SameKeys .familyMember r' r := by
  obtain ⟨role, -, h⟩ := Except.bind_eq_ok_iff.mp h
  cases h
  exact ⟨rfl, by simp [uniques], by simp [references]⟩

theorem FamilyMemberProfile.applyChanges_sameKeys {r r' : FamilyMemberProfile}
    {b : MemberProfileUpsert} (h : r.applyChanges b = .ok r') :
    schema.SameKeys .familyMemberProfile r' r := by
  obtain ⟨concerns, -, h⟩ := Except.bind_eq_ok_iff.mp h
  cases h
  exact ⟨rfl, by simp [uniques], by simp [references]⟩

theorem ChildProfile.applyChanges_sameKeys {r r' : ChildProfile} {b : ChildUpdate}
    (h : r.applyChanges b = .ok r') : schema.SameKeys .childProfile r' r := by
  obtain ⟨aliases, -, h⟩ := Except.bind_eq_ok_iff.mp h
  cases h
  exact ⟨rfl, by simp [uniques], by simp [references]⟩

theorem ChildReadingProfile.applyChanges_sameKeys {r r' : ChildReadingProfile}
    {b : ReadingProfileUpsert} (h : r.applyChanges b = .ok r') :
    schema.SameKeys .childReadingProfile r' r := by
  simp only [applyChanges, Except.bind_eq_ok_iff] at h
  obtain ⟨_, -, _, -, _, -, _, -, _, -, _, -, _, -, h⟩ := h
  cases h
  exact ⟨rfl, by simp [uniques], by simp [references]⟩

theorem ReadingHistory.applyChanges_sameKeys {r r' : ReadingHistory} {b : ReadingHistoryUpdate}
    (h : r.applyChanges b = .ok r') : schema.SameKeys .readingHistory r' r := by
  obtain ⟨reasons, -, h⟩ := Except.bind_eq_ok_iff.mp h
  cases h
  exact ⟨rfl, by simp [uniques], by simp [references]⟩

theorem FamilyReadingPolicy.applyChanges_sameKeys {r r' : FamilyReadingPolicy} {b : PolicyUpdate}
    (h : r.applyChanges b = .ok r') : schema.SameKeys .familyReadingPolicy r' r := by
  simp only [applyChanges, Except.bind_eq_ok_iff] at h
  obtain ⟨_, -, _, -, _, -, _, -, h⟩ := h
  cases h
  exact ⟨rfl, by simp [uniques], by simp [references]⟩

/-- Setting the columns that differ keeps the keys. -/
theorem MemberService.rebase_sameKeys (loaded draft r : FamilyMemberProfile) :
    schema.SameKeys .familyMemberProfile (rebase loaded draft r) r :=
  ⟨rfl, by simp [uniques, rebase], by simp [references, rebase]⟩

end Changes

/-- **What an update that keeps the keys leaves.** -/
theorem Repository.update_change {T : TableName} {id : UUID} {changes : T.Row → Except Exn T.Row}
    {a : T.Row} (hc : ∀ r r', changes r = .ok r' → schema.SameKeys T r' r)
    (h : (update env T id changes).Returns s a s') :
    ∃ old ∈ s.working.rows T, T.id old = id ∧ schema.SameKeys T a old ∧
      s'.working.rows = schema.replace T a s.working.rows := by
  obtain ⟨old, hold, hw, d, hd, rfl⟩ := returns_update.mp h
  obtain ⟨hmem, hid⟩ := Store.find_eq_some_iff.mp hold
  obtain ⟨draft, hdraft, hw⟩ := Except.bind_eq_ok_iff.mp hw
  exact ⟨old, hmem, hid, TableName.written_sameKeys (hc old draft hdraft) hw, hd⟩

/-! ## Changes of one family -/

/-- The table an operation writes. -/
def FamilyOp.target : FamilyOp → Option TableName
  | updateFamily _ => some .family
  | createMember _ | updateMember _ _ | deleteMember _ => some .familyMember
  | upsertProfile _ _ => some .familyMemberProfile
  | createInvite _ _ | revokeInvite _ => some .familyInvite
  | createChild _ | updateChild _ _ | deleteChild _ => some .childProfile
  | upsertReadingProfile _ _ => some .childReadingProfile
  | addReadingHistory _ _ | updateReadingHistory _ _ _ | deleteReadingHistory _ _ =>
    some .readingHistory
  | createPolicy _ | updatePolicy _ _ | deletePolicy _ => some .familyReadingPolicy
  | getFamily | listMembers | getMember _ | getProfile _ | listInvites | listChildren
  | getChild _ | getReadingProfile _ | listReadingHistory _ | listPolicies | context => none

/-- **What an operation scoped to the family `f` may make of the tables.** -/
inductive ScopedChange (env : Env) (f : UUID) (d : Database) :
    Option TableName → ((T : TableName) → List T.Row) → Prop where
  /-- Nothing. -/
  | nothing (T : Option TableName) : ScopedChange env f d T d.rows
  /-- Insert a row of the family. Who has created an invite is up to the
  caller. -/
  | insert {T : TableName} {r : T.Row} (hid : T.id r = env.newId T) (hown : Owns d.rows f T r)
    (hwithin : T ≠ .familyInvite → RefersWithin d.rows f T r) :
    ScopedChange env f d (some T) (Schema.insert T r d.rows)
  /-- Insert a child of the family and its reading profile. -/
  | insertChild {c : ChildProfile} {p : ChildReadingProfile} (hid : c.id = env.newId .childProfile)
    (hfam : c.familyId = f) (hchild : p.childId = c.id)
    (hmid : schema.Consistent (Schema.insert .childProfile c d.rows)) :
    ScopedChange env f d (some .childProfile)
      (Schema.insert .childReadingProfile p (Schema.insert .childProfile c d.rows))
  /-- Update a row of the family. -/
  | replace {T : TableName} {r old : T.Row} (hold : old ∈ d.rows T) (hk : schema.SameKeys T r old)
    (hown : Owns d.rows f T old) : ScopedChange env f d (some T) (schema.replace T r d.rows)
  /-- Delete a row of the family. -/
  | delete {T : TableName} {r : T.Row} (hmem : r ∈ d.rows T) (hown : Owns d.rows f T r) :
    ScopedChange env f d (some T) (schema.delete T (T.id r) (T.cascade (T.id r) d.rows))

/-- A row under a member or a child of the family belongs to the family. -/
theorem Store.owns_of_find {d : Database} {T : TableName} {r : T.Row} {f : UUID} {s : Scope}
    (hs : T.scope r = s) (h : familyOf d.rows s = some f) : Owns d.rows f T r := by
  rw [Owns, hs, h]

/-- What an accepted insert leaves, with the row as it is stored. -/
theorem Repository.add_change {T : TableName} {r a : T.Row} (h : (add T r).Returns s a s') :
    schema.SameKeys T a r ∧ s'.working.rows = Schema.insert T a s.working.rows := by
  obtain ⟨hc, d, hd, rfl⟩ := returns_add.mp h
  exact ⟨TableName.coerce_sameKeys hc, hd⟩

/-- **When an email may be given to a new member**: no member has it. -/
theorem MemberService.checkEmail_returns {body : MemberCreate} {a : Unit} :
    (checkEmail body).Returns s a s' ↔
      (∀ email, body.email = some email → ∀ m ∈ s.working.members, m.email ≠ some email) ∧
        s' = s := by
  unfold checkEmail
  cases body.email with
  | none => simp
  | some email =>
    dsimp only
    rw [FamilyMemberRepository.getByEmail_eq_read]
    constructor
    · intro h
      obtain ⟨found, s₁, h₁, h₂⟩ := Tx.returns_bind.mp h
      obtain ⟨rfl, rfl⟩ := Tx.returns_read.mp h₁
      rcases Tx.returns_ite.mp h₂ with ⟨-, hr⟩ | ⟨hnone, hp⟩
      · exact absurd hr Tx.returns_raise
      · refine ⟨?_, (Tx.returns_pure.mp hp).2⟩
        rintro _ ⟨⟩ m hm hemail
        exact hnone (List.find?_isSome.mpr ⟨m, hm, by simpa using hemail⟩)
    · rintro ⟨hfree, rfl⟩
      refine Tx.returns_bind.mpr ⟨_, s', Tx.returns_read.mpr ⟨rfl, rfl⟩,
        Tx.returns_ite.mpr (Or.inr ⟨fun hsome => ?_, Tx.returns_pure.mpr ⟨rfl, rfl⟩⟩)⟩
      obtain ⟨m, hm, hemail⟩ := List.find?_isSome.mp hsome
      exact hfree email rfl m hm (by simpa using hemail)

/-- **A taken email** is the one thing the check raises. -/
theorem MemberService.checkEmail_raises {body : MemberCreate} {e : Exn}
    (h : (checkEmail body).Raises s e s') : e = .emailRegistered := by
  unfold checkEmail at h
  cases hemail : body.email with
  | none =>
    rw [hemail] at h
    exact absurd h Tx.raises_pure
  | some email =>
    rw [hemail] at h
    dsimp only at h
    rw [FamilyMemberRepository.getByEmail_eq_read] at h
    rcases Tx.raises_bind.mp h with h₁ | ⟨found, s₁, -, h₂⟩
    · exact absurd h₁ Tx.raises_read
    · rcases Tx.raises_ite.mp h₂ with ⟨-, hr⟩ | ⟨-, hp⟩
      · exact (Tx.raises_raise.mp hr).1
      · exact absurd hp Tx.raises_pure

/-- What an accepted delete leaves. -/
theorem Repository.delete_change {T : TableName} {id : UUID} (h : (delete T id).Returns s () s') :
    s'.working.rows = schema.delete T id (T.cascade id s.working.rows) := by
  obtain ⟨-, d, hd, rfl⟩ := returns_delete.mp h
  exact hd

theorem MemberService.insert_change {familyId : UUID} {body : MemberCreate} {a : MemberDump}
    (h : (insert P env familyId body).Returns s a s') :
    s'.working.rows
      = Schema.insert .familyMember (newMember P env familyId body) s.working.rows := by
  obtain ⟨m, s₁, h₁, h₂⟩ := Tx.returns_bind.mp h
  obtain ⟨-, rfl⟩ := Tx.returns_pure.mp h₂
  obtain ⟨hc, d, hd, rfl⟩ := returns_add.mp (Tx.returns_mapError.mp h₁)
  cases hc
  exact hd

theorem MemberService.putProfile_change {memberId : UUID} {body : MemberProfileUpsert}
    {profile : Option FamilyMemberProfile} {a : FamilyMemberProfile}
    (h : (putProfile env memberId body profile).Returns s a s') :
    (profile = none ∧ schema.SameKeys .familyMemberProfile a (newProfile env memberId body) ∧
      s'.working.rows = Schema.insert .familyMemberProfile a s.working.rows) ∨
    ∃ loaded, profile = some loaded ∧ ∃ old ∈ s.working.memberProfiles, old.id = loaded.id ∧
      schema.SameKeys .familyMemberProfile a old ∧
      s'.working.rows = schema.replace .familyMemberProfile a s.working.rows := by
  cases profile with
  | none =>
    obtain ⟨hk, hrows⟩ := add_change h
    exact Or.inl ⟨rfl, hk, hrows⟩
  | some loaded =>
    obtain ⟨old, hold, hid, hk, hrows⟩ := update_change (fun r r' hr => by
      obtain ⟨draft, -, hr⟩ := Except.bind_eq_ok_iff.mp hr
      cases hr
      exact rebase_sameKeys loaded draft r) h
    exact Or.inr ⟨loaded, rfl, old, hold, hid, hk, hrows⟩

theorem MemberService.findProfile_returns {familyId memberId : UUID}
    {profile : Option FamilyMemberProfile}
    (h : (findProfile familyId memberId).Returns s profile s') :
    s' = s ∧ (∃ m ∈ s.working.members, m.id = memberId ∧ m.familyId = familyId) ∧
      profile = s.working.memberProfiles.find? (fun r => r.memberId = memberId) := by
  obtain ⟨m, s₁, h₁, h₂⟩ := Tx.returns_bind.mp h
  obtain ⟨hmem, hid, hfam, rfl⟩ := require_returns.mp h₁
  rw [FamilyMemberProfileRepository.getByMember_eq_read] at h₂
  obtain ⟨rfl, rfl⟩ := Tx.returns_read.mp h₂
  exact ⟨rfl, ⟨m, hmem, hid, hfam⟩, rfl⟩

/-- **An operation scoped to a family that returns has made such a
change.** -/
theorem FamilyOp.run_change {familyId : UUID} {op : FamilyOp} {response : Response}
    (h : (op.run P env familyId).Returns s response s') :
    ScopedChange env familyId s.working op.target s'.working.rows := by
  have hreads : Tx.Reads (op.run P env familyId) →
      ScopedChange env familyId s.working op.target s'.working.rows := by
    intro hr
    rw [hr.returns h]
    exact .nothing _
  cases op with
  | getFamily => exact hreads (Tx.Reads.bind (reads_required _ _) (fun _ => Tx.Reads.pure _))
  | listMembers | listInvites =>
    exact hreads (Tx.Reads.bind (Tx.Reads.bind (reads_sorted _ _) (fun _ => Tx.Reads.pure _))
      (fun _ => Tx.Reads.pure _))
  | getMember memberId =>
    exact hreads (Tx.Reads.bind (Tx.Reads.bind (MemberService.reads_require _ _)
      (fun _ => Tx.Reads.pure _)) (fun _ => Tx.Reads.pure _))
  | getProfile memberId =>
    exact hreads (Tx.Reads.bind (Tx.Reads.bind (MemberService.reads_require _ _)
      (fun _ => reads_required _ _)) (fun _ => Tx.Reads.pure _))
  | listChildren | listPolicies =>
    exact hreads (Tx.Reads.bind (reads_sorted _ _) (fun _ => Tx.Reads.pure _))
  | getChild childId =>
    exact hreads (Tx.Reads.bind (ChildService.reads_require _ _) (fun _ => Tx.Reads.pure _))
  | getReadingProfile childId =>
    exact hreads (Tx.Reads.bind (Tx.Reads.bind (ChildService.reads_require _ _)
      (fun _ => reads_required _ _)) (fun _ => Tx.Reads.pure _))
  | listReadingHistory childId =>
    exact hreads (Tx.Reads.bind (Tx.Reads.bind (ChildService.reads_require _ _)
      (fun _ => reads_sorted _ _)) (fun _ => Tx.Reads.pure _))
  | context =>
    exact hreads (Tx.Reads.bind (FamilyContextLoader.reads_load _) (fun _ => Tx.Reads.pure _))
  | updateFamily body =>
    obtain ⟨r, h₁, -⟩ := Tx.returns_bind_pure.mp h
    rw [FamilyService.update, ← bind_assoc] at h₁
    obtain ⟨family, s₂, h₂, h₃⟩ := Tx.returns_bind.mp h₁
    obtain ⟨-, hid, rfl⟩ := FamilyService.get_returns.mp h₂
    obtain ⟨old, hold, hid', hk, hrows⟩ :=
      update_change (fun _ _ hr => Family.applyChanges_sameKeys hr) h₃
    rw [hrows]
    exact .replace hold hk (congrArg some (hid'.trans hid))
  | createMember body =>
    obtain ⟨r, h₁, -⟩ := Tx.returns_bind_pure.mp h
    obtain ⟨u, s₂, h₂, h₃⟩ := Tx.returns_bind.mp h₁
    obtain rfl := (MemberService.reads_checkEmail body).returns h₂
    rw [MemberService.insert_change h₃]
    exact .insert rfl rfl (fun _ _ hp => by cases hp)
  | updateMember memberId body =>
    obtain ⟨r, h₁, -⟩ := Tx.returns_bind_pure.mp h
    obtain ⟨m, s₂, h₂, h₃⟩ := Tx.returns_bind.mp h₁
    obtain ⟨hmem, hid, hfam, rfl⟩ := MemberService.require_returns.mp h₂
    obtain ⟨a, s₃, h₄, hp'⟩ := Tx.returns_bind.mp h₃
    obtain ⟨-, rfl⟩ := Tx.returns_pure.mp hp'
    obtain ⟨old, hold, hid', hk, hrows⟩ :=
      update_change (fun _ _ hr => FamilyMember.applyChanges_sameKeys hr) h₄
    obtain rfl := s₂.working.consistent.eq_of_id (T := TableName.familyMember) hold hmem hid'
    rw [hrows]
    exact .replace hold hk (congrArg some hfam)
  | deleteMember memberId =>
    obtain ⟨r, h₁, -⟩ := Tx.returns_bind_pure.mp h
    obtain ⟨m, s₂, h₂, h₃⟩ := Tx.returns_bind.mp h₁
    obtain ⟨hmem, hid, hfam, rfl⟩ := MemberService.require_returns.mp h₂
    rcases Tx.returns_ite.mp h₃ with ⟨-, h₄⟩ | ⟨-, h₄⟩
    · exact absurd h₄ Tx.returns_raise
    · rw [delete_change h₄]
      exact .delete hmem (congrArg some hfam)
  | upsertProfile memberId body =>
    obtain ⟨r, h₁, -⟩ := Tx.returns_bind_pure.mp h
    obtain ⟨profile, s₂, h₂, h₃⟩ := Tx.returns_bind.mp h₁
    obtain ⟨rfl, ⟨m, hmem, rfl, rfl⟩, rfl⟩ := MemberService.findProfile_returns h₂
    rcases MemberService.putProfile_change h₃ with ⟨-, hk, hrows⟩ |
      ⟨loaded, hl, old, hold, hid, hk, hrows⟩
    · rw [hrows]
      refine .insert hk.id (Store.owns_of_find ?_ ((Store.consistent _).familyOf_member hmem))
        (fun _ _ hp => by cases hp)
      exact congrArg Scope.member (Option.some.inj (hk.reference _ List.mem_cons_self))
    · have hloaded : loaded = old := s₂.working.consistent.eq_of_id
        (T := TableName.familyMemberProfile) (List.mem_of_find?_eq_some hl) hold hid.symm
      have hm : loaded.memberId = m.id := by simpa using List.find?_some hl
      rw [hrows]
      refine .replace hold hk (Store.owns_of_find ?_ ((Store.consistent _).familyOf_member hmem))
      exact congrArg Scope.member (hloaded ▸ hm)
  | createInvite createdByMemberId body =>
    obtain ⟨r, h₁, -⟩ := Tx.returns_bind_pure.mp h
    obtain ⟨expiresAt, s₂, h₂, h₃⟩ := Tx.returns_bind.mp h₁
    obtain ⟨-, rfl⟩ := Tx.returns_lift.mp h₂
    obtain ⟨i, s₃, h₄, hp'⟩ := Tx.returns_bind.mp h₃
    obtain ⟨-, rfl⟩ := Tx.returns_pure.mp hp'
    obtain ⟨hk, hrows⟩ := add_change h₄
    rw [hrows]
    exact .insert hk.id (congrArg some (Option.some.inj (hk.reference _ List.mem_cons_self)))
      (fun h => absurd rfl h)
  | revokeInvite inviteId =>
    obtain ⟨r, h₁, -⟩ := Tx.returns_bind_pure.mp h
    rw [InviteService.revoke, ← bind_assoc] at h₁
    obtain ⟨i, s₂, h₂, h₃⟩ := Tx.returns_bind.mp h₁
    obtain ⟨hmem, hid, hfam, rfl⟩ := InviteService.find_returns.mp h₂
    rw [delete_change h₃]
    exact .delete hmem (congrArg some hfam)
  | createChild body =>
    obtain ⟨r, h₁, -⟩ := Tx.returns_bind_pure.mp h
    obtain ⟨c, s₂, h₂, h₃⟩ := Tx.returns_bind.mp h₁
    obtain ⟨p, s₃, h₄, hp'⟩ := Tx.returns_bind.mp h₃
    obtain ⟨-, rfl⟩ := Tx.returns_pure.mp hp'
    obtain ⟨hk, hrows⟩ := add_change h₂
    obtain ⟨hk', hrows'⟩ := add_change h₄
    rw [hrows', hrows]
    exact .insertChild hk.id (Option.some.inj (hk.reference _ List.mem_cons_self))
      (Option.some.inj (hk'.reference _ List.mem_cons_self)) (hrows ▸ s₂.working.consistent)
  | updateChild childId body =>
    obtain ⟨r, h₁, -⟩ := Tx.returns_bind_pure.mp h
    obtain ⟨c, s₂, h₂, h₃⟩ := Tx.returns_bind.mp h₁
    obtain ⟨hmem, hid, hfam, rfl⟩ := ChildService.require_returns.mp h₂
    obtain ⟨old, hold, hid', hk, hrows⟩ :=
      update_change (fun _ _ hr => ChildProfile.applyChanges_sameKeys hr) h₃
    obtain rfl := s₂.working.consistent.eq_of_id (T := TableName.childProfile) hold hmem hid'
    rw [hrows]
    exact .replace hold hk (congrArg some hfam)
  | deleteChild childId =>
    obtain ⟨r, h₁, -⟩ := Tx.returns_bind_pure.mp h
    obtain ⟨c, s₂, h₂, h₃⟩ := Tx.returns_bind.mp h₁
    obtain ⟨hmem, hid, hfam, rfl⟩ := ChildService.require_returns.mp h₂
    rw [delete_change h₃]
    exact .delete hmem (congrArg some hfam)
  | upsertReadingProfile childId body =>
    obtain ⟨r, h₁, -⟩ := Tx.returns_bind_pure.mp h
    obtain ⟨c, s₂, h₂, h₃⟩ := Tx.returns_bind.mp h₁
    obtain ⟨hmem, rfl, rfl, rfl⟩ := ChildService.require_returns.mp h₂
    rw [ChildReadingProfileRepository.getByChild_eq_read] at h₃
    obtain ⟨found, s₃, h₄, h₅⟩ := Tx.returns_bind.mp h₃
    obtain ⟨hfound, rfl⟩ := Tx.returns_read.mp h₄
    cases found with
    | none =>
      obtain ⟨hk, hrows⟩ := add_change h₅
      rw [hrows]
      refine .insert hk.id (Store.owns_of_find ?_ ((Store.consistent _).familyOf_child hmem))
        (fun _ _ hp => by cases hp)
      exact congrArg Scope.child (Option.some.inj (hk.reference _ List.mem_cons_self))
    | some profile =>
      obtain ⟨old, hold, hid', hk, hrows⟩ :=
        update_change (fun _ _ hr => ChildReadingProfile.applyChanges_sameKeys hr) h₅
      have hprofile : old = profile := s₃.working.consistent.eq_of_id
        (T := TableName.childReadingProfile) hold (List.mem_of_find?_eq_some hfound.symm) hid'
      have hc : profile.childId = c.id := by simpa using List.find?_some hfound.symm
      rw [hrows]
      refine .replace hold hk (Store.owns_of_find ?_ ((Store.consistent _).familyOf_child hmem))
      exact congrArg Scope.child (hprofile ▸ hc)
  | addReadingHistory childId body =>
    obtain ⟨r, h₁, -⟩ := Tx.returns_bind_pure.mp h
    obtain ⟨c, s₂, h₂, h₃⟩ := Tx.returns_bind.mp h₁
    obtain ⟨hmem, rfl, rfl, rfl⟩ := ChildService.require_returns.mp h₂
    obtain ⟨hk, hrows⟩ := add_change h₃
    rw [hrows]
    refine .insert hk.id (Store.owns_of_find ?_ ((Store.consistent _).familyOf_child hmem))
      (fun _ _ hp => by cases hp)
    exact congrArg Scope.child (Option.some.inj (hk.reference _ List.mem_cons_self))
  | updateReadingHistory childId entryId body =>
    obtain ⟨r, h₁, -⟩ := Tx.returns_bind_pure.mp h
    obtain ⟨c, s₂, h₂, h₃⟩ := Tx.returns_bind.mp h₁
    obtain ⟨hmem, rfl, rfl, rfl⟩ := ChildService.require_returns.mp h₂
    obtain ⟨e, s₃, h₄, h₅⟩ := Tx.returns_bind.mp h₃
    obtain ⟨hentry, -, hchild, rfl⟩ := ChildService.requireEntry_returns.mp h₄
    obtain ⟨old, hold, hid', hk, hrows⟩ :=
      update_change (fun _ _ hr => ReadingHistory.applyChanges_sameKeys hr) h₅
    obtain rfl := s₃.working.consistent.eq_of_id (T := TableName.readingHistory) hold hentry hid'
    rw [hrows]
    exact .replace hold hk (Store.owns_of_find (congrArg Scope.child hchild)
      ((Store.consistent _).familyOf_child hmem))
  | deleteReadingHistory childId entryId =>
    obtain ⟨r, h₁, -⟩ := Tx.returns_bind_pure.mp h
    obtain ⟨c, s₂, h₂, h₃⟩ := Tx.returns_bind.mp h₁
    obtain ⟨hmem, rfl, rfl, rfl⟩ := ChildService.require_returns.mp h₂
    obtain ⟨e, s₃, h₄, h₅⟩ := Tx.returns_bind.mp h₃
    obtain ⟨hentry, -, hchild, rfl⟩ := ChildService.requireEntry_returns.mp h₄
    rw [delete_change h₅]
    exact .delete hentry (Store.owns_of_find (congrArg Scope.child hchild)
      ((Store.consistent _).familyOf_child hmem))
  | createPolicy body =>
    obtain ⟨r, h₁, -⟩ := Tx.returns_bind_pure.mp h
    obtain ⟨c, s₂, h₂, h₃⟩ := Tx.returns_bind.mp h₁
    obtain ⟨rfl, hchild⟩ := PolicyService.resolveChild_returns h₂
    obtain ⟨hk, hrows⟩ := add_change h₃
    rw [hrows]
    refine .insert hk.id (congrArg some (Option.some.inj (hk.reference _ List.mem_cons_self)))
      (fun _ p hp k hpk => ?_)
    obtain rfl := List.mem_singleton.mp hp
    rw [hk.reference _ (List.mem_cons_of_mem _ List.mem_cons_self)] at hpk
    obtain ⟨c, hmem, hid, hfam⟩ := hchild k hpk
    exact ⟨c, hmem, hid, congrArg some hfam⟩
  | updatePolicy policyId body =>
    obtain ⟨r, h₁, -⟩ := Tx.returns_bind_pure.mp h
    obtain ⟨p, s₂, h₂, h₃⟩ := Tx.returns_bind.mp h₁
    obtain ⟨hmem, hid, hfam, rfl⟩ := PolicyService.require_returns.mp h₂
    obtain ⟨old, hold, hid', hk, hrows⟩ :=
      update_change (fun _ _ hr => FamilyReadingPolicy.applyChanges_sameKeys hr) h₃
    obtain rfl := s₂.working.consistent.eq_of_id (T := TableName.familyReadingPolicy) hold hmem hid'
    rw [hrows]
    exact .replace hold hk (congrArg some hfam)
  | deletePolicy policyId =>
    obtain ⟨r, h₁, -⟩ := Tx.returns_bind_pure.mp h
    obtain ⟨p, s₂, h₂, h₃⟩ := Tx.returns_bind.mp h₁
    obtain ⟨hmem, hid, hfam, rfl⟩ := PolicyService.require_returns.mp h₂
    rw [delete_change h₃]
    exact .delete hmem (congrArg some hfam)

/-- **The tables an operation does not write**: all but the one it is about,
and the profiles that go along with a member or a child. -/
theorem ScopedChange.rows_of_ne {f : UUID} {d : Database} {T : Option TableName}
    {t' : (T : TableName) → List T.Row} (h : ScopedChange env f d T t') {U : TableName}
    (hU : T ≠ some U) (hm : U = .familyMemberProfile → T ≠ some .familyMember)
    (hc : U = .childReadingProfile → T ≠ some .childProfile) : t' U = d.rows U := by
  cases h with
  | nothing => rfl
  | insert => exact Schema.insert_of_ne (fun h => hU (congrArg some h.symm))
  | insertChild =>
    rw [Schema.insert_of_ne (fun h => hc h rfl),
      Schema.insert_of_ne (fun h => hU (congrArg some h.symm))]
  | replace => exact Schema.replace_of_ne (fun h => hU (congrArg some h.symm))
  | delete =>
    rw [Schema.delete_of_ne (fun h => hU (congrArg some h.symm)),
      cascade_of_ne (not_and_or.mp fun h => hm h.2 (congrArg some h.1))
        (not_and_or.mp fun h => hc h.2 (congrArg some h.1))]

/-- No operation scoped to a family is about refresh tokens. -/
theorem FamilyOp.target_ne_refreshToken (op : FamilyOp) : op.target ≠ some .refreshToken := by
  cases op <;> simp [FamilyOp.target]
