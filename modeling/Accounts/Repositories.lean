import Accounts.Database
import Mathlib.Data.List.Sort

/-!
# The repositories

The named queries of each repository, as filters over its table, and the
two bulk revocations of refresh tokens. Every look-up by identifier that a
service uses on behalf of a family goes through `getInFamily`, which pins
the identifier *and* the family.

Each look-up pins a primary key or a unique column, so it is the plain
read of the one row there can be; the `_eq_read` lemmas say so, and they
are all the services' proofs use of it.
-/

open Repository

/-! ## Families and members -/

/-- `FamilyRepository.get_one_or_none(id=…)`. -/
def FamilyRepository.get (familyId : UUID) : Op (Option Family) :=
  getOneOrNone .family (fun r => r.id = familyId)

namespace FamilyMemberRepository

/-- `list_by_family`. -/
def listByFamily (familyId : UUID) : Op (List FamilyMember) := do
  let rows ← getMany .familyMember (fun r => r.familyId = familyId)
  return rows.insertionSort (fun a b => a.createdAt ≤ b.createdAt)

/-- `primary_user`. -/
def primaryUser (familyId : UUID) : Op (Option FamilyMember) :=
  getOneOrNone .familyMember (fun r => r.familyId = familyId && r.isPrimaryUser)

/-- `get_by_email`. -/
def getByEmail (email : String) : Op (Option FamilyMember) :=
  getOneOrNone .familyMember (fun r => r.email = some email)

/-- `get_in_family`. -/
def getInFamily (memberId familyId : UUID) : Op (Option FamilyMember) :=
  getOneOrNone .familyMember (fun r => r.id = memberId && r.familyId = familyId)

end FamilyMemberRepository

/-- `get_by_member`. -/
def FamilyMemberProfileRepository.getByMember (memberId : UUID) :
    Op (Option FamilyMemberProfile) :=
  getOneOrNone .familyMemberProfile (fun r => r.memberId = memberId)

/-! ## Invites -/

/-- `_active_filters`: unaccepted, and without an expiry or not yet
expired. -/
def FamilyInvite.isActive (r : FamilyInvite) (now : Datetime) : Bool :=
  r.acceptedAt = none && r.expiresAt.all (fun e => now < e)

namespace FamilyInviteRepository

/-- `get_active_by_code_hash`. -/
def getActiveByCodeHash (env : Env) (codeHash : String) : Op (Option FamilyInvite) :=
  getOneOrNone .familyInvite (fun r => r.isActive env.now && r.codeHash = codeHash)

/-- `list_active_for_family`. -/
def listActiveForFamily (env : Env) (familyId : UUID) : Op (List FamilyInvite) := do
  let rows ← getMany .familyInvite (fun r => r.isActive env.now && r.familyId = familyId)
  return rows.insertionSort (fun a b => a.createdAt ≤ b.createdAt)

/-- `get_in_family`. -/
def getInFamily (inviteId familyId : UUID) : Op (Option FamilyInvite) :=
  getOneOrNone .familyInvite (fun r => r.id = inviteId && r.familyId = familyId)

end FamilyInviteRepository

/-! ## Policies -/

namespace FamilyReadingPolicyRepository

/-- `list_active`. -/
def listActive (familyId : UUID) (childId : Option UUID) : Op (List FamilyReadingPolicy) := do
  let rows ← getMany .familyReadingPolicy (fun r =>
    r.familyId = familyId && r.isActive
      && childId.all (fun c => r.childId = some c || r.childId = none))
  return rows.insertionSort (fun a b => a.createdAt ≤ b.createdAt)

/-- `get_in_family`. -/
def getInFamily (policyId familyId : UUID) : Op (Option FamilyReadingPolicy) :=
  getOneOrNone .familyReadingPolicy (fun r => r.id = policyId && r.familyId = familyId)

end FamilyReadingPolicyRepository

/-! ## Refresh tokens -/

namespace RefreshTokenRepository

/-- `get_by_token_hash`. -/
def getByTokenHash (tokenHash : String) : Op (Option RefreshToken) :=
  getOneOrNone .refreshToken (fun r => r.tokenHash = tokenHash)

/-- `row.revoked_at = now; update(row)`, for each of the rows. -/
def revokeRows (env : Env) (rows : List RefreshToken) : Op ℕ := do
  forM rows (fun row => do
    let _ ← update env .refreshToken row.id (fun r => .ok { r with revokedAt := some env.now }))
  return rows.length

/-- The rows `revoke_session` selects. -/
def unrevokedOfSession (sessionId : UUID) : Op (List RefreshToken) :=
  getMany .refreshToken (fun r => r.revokedAt = none && r.sessionId = sessionId)

/-- `revoke_session`. -/
def revokeSession (env : Env) (sessionId : UUID) : Op ℕ := do
  let rows ← unrevokedOfSession sessionId
  revokeRows env rows

/-- `revoke_all_for_member`. -/
def revokeAllForMember (env : Env) (memberId familyId : UUID) : Op ℕ := do
  let rows ← getMany .refreshToken (fun r =>
    r.revokedAt = none && r.familyMemberId = memberId && r.familyId = familyId)
  revokeRows env rows

end RefreshTokenRepository

/-! ## Children -/

namespace ChildProfileRepository

/-- `list_by_family`. -/
def listByFamily (familyId : UUID) : Op (List ChildProfile) := do
  let rows ← getMany .childProfile (fun r => r.familyId = familyId)
  return rows.insertionSort (fun a b => a.createdAt ≤ b.createdAt)

/-- `get_in_family`. -/
def getInFamily (childId familyId : UUID) : Op (Option ChildProfile) :=
  getOneOrNone .childProfile (fun r => r.id = childId && r.familyId = familyId)

end ChildProfileRepository

/-- `get_by_child`. -/
def ChildReadingProfileRepository.getByChild (childId : UUID) :
    Op (Option ChildReadingProfile) :=
  getOneOrNone .childReadingProfile (fun r => r.childId = childId)

namespace ReadingHistoryRepository

/-- `list_by_child`, latest first. -/
def listByChild (childId : UUID) : Op (List ReadingHistory) := do
  let rows ← getMany .readingHistory (fun r => r.childId = childId)
  return rows.insertionSort (fun a b => b.createdAt ≤ a.createdAt)

/-- `get_for_child`. -/
def getForChild (entryId childId : UUID) : Op (Option ReadingHistory) :=
  getOneOrNone .readingHistory (fun r => r.id = entryId && r.childId = childId)

end ReadingHistoryRepository

/-! ## Look-ups are plain reads -/

theorem FamilyRepository.get_eq_read (familyId : UUID) :
    FamilyRepository.get familyId
      = Tx.read (fun d => d.families.find? (fun r => r.id = familyId)) :=
  getOneOrNone_eq_read (Database.atMostOne_of_id (k := familyId) (fun r hr => by simpa using hr))

theorem FamilyMember.atMostOne_email (email : String) (d : Database) :
    Table.AtMostOne (fun r : FamilyMember => r.email = some email) d.members :=
  d.atMostOne_of_unique (T := .familyMember) (u := fun r => r.email.map .inr)
    (List.mem_singleton.mpr rfl) (k := .inr email) (fun r hr => by simpa using hr)

/-- **The member with an email** is the one the look-up finds. -/
theorem FamilyMember.find_email_eq_some_iff {email : String} {d : Database} {m : FamilyMember} :
    d.members.find? (fun r => r.email = some email) = some m ↔
      m ∈ d.members ∧ m.email = some email := by
  rw [Table.find?_eq_some_iff_of_atMostOne (FamilyMember.atMostOne_email email d),
    decide_eq_true_eq]

theorem FamilyMemberRepository.getByEmail_eq_read (email : String) :
    FamilyMemberRepository.getByEmail email
      = Tx.read (fun d => d.members.find? (fun r => r.email = some email)) :=
  getOneOrNone_eq_read (FamilyMember.atMostOne_email email)

theorem FamilyMemberProfileRepository.getByMember_eq_read (memberId : UUID) :
    FamilyMemberProfileRepository.getByMember memberId
      = Tx.read (fun d => d.memberProfiles.find? (fun r => r.memberId = memberId)) :=
  getOneOrNone_eq_read (Database.atMostOne_of_unique (T := .familyMemberProfile)
    (u := fun r => some (.inl r.memberId)) (List.mem_singleton.mpr rfl) (k := .inl memberId)
    (fun r hr => by simpa using hr))

theorem FamilyInviteRepository.getActiveByCodeHash_eq_read (env : Env) (codeHash : String) :
    FamilyInviteRepository.getActiveByCodeHash env codeHash
      = Tx.read (fun d =>
          d.invites.find? (fun r => r.isActive env.now && r.codeHash = codeHash)) :=
  getOneOrNone_eq_read (Database.atMostOne_of_unique (T := .familyInvite)
    (u := fun r => some (.inr r.codeHash)) (List.mem_singleton.mpr rfl) (k := .inr codeHash)
    (fun r hr => by simp at hr; simp [hr.2]))

theorem RefreshTokenRepository.getByTokenHash_eq_read (tokenHash : String) :
    RefreshTokenRepository.getByTokenHash tokenHash
      = Tx.read (fun d => d.refreshTokens.find? (fun r => r.tokenHash = tokenHash)) :=
  getOneOrNone_eq_read (Database.atMostOne_of_unique (T := .refreshToken)
    (u := fun r => some (.inr r.tokenHash)) (List.mem_singleton.mpr rfl) (k := .inr tokenHash)
    (fun r hr => by simpa using hr))

theorem ChildReadingProfileRepository.getByChild_eq_read (childId : UUID) :
    ChildReadingProfileRepository.getByChild childId
      = Tx.read (fun d => d.readingProfiles.find? (fun r => r.childId = childId)) :=
  getOneOrNone_eq_read (Database.atMostOne_of_unique (T := .childReadingProfile)
    (u := fun r => some (.inl r.childId)) (List.mem_singleton.mpr rfl) (k := .inl childId)
    (fun r hr => by simpa using hr))

/-! ## What a bulk revocation does -/

/-- The row, revoked. -/
def RefreshToken.revoke (r : RefreshToken) (now : Datetime) : RefreshToken :=
  { r with revokedAt := some now }

/-- **A row after its session was revoked**: revoked, unless it already was
or belongs to another session. -/
def RefreshToken.burn (r : RefreshToken) (now : Datetime) (sessionId : UUID) : RefreshToken :=
  if r.revokedAt = none ∧ r.sessionId = sessionId then r.revoke now else r

/-- A refresh token is stored as it is written. -/
theorem TableName.written_refreshToken (now : Datetime) (old draft : RefreshToken) :
    TableName.written now .refreshToken old draft = .ok draft := by
  unfold TableName.written
  split
  · next h => rw [h]
  · rfl

namespace RefreshTokenRepository

/-- Revoking rows that are there one after the other. -/
theorem forM_update_returns (env : Env) (s : Session Database) (rows : List RefreshToken)
    (hrows : ∀ r ∈ rows, r.id ∈ s.working.refreshTokens.map (·.id)) :
    ∃ d : Database,
      d.rows = Function.update s.working.rows .refreshToken (s.working.refreshTokens.map
        (fun x => if x.id ∈ rows.map (·.id) then x.revoke env.now else x)) ∧
      (forM rows (fun row => do
        let _ ← update env .refreshToken row.id
          (fun r => .ok { r with revokedAt := some env.now })) : Op Unit).Returns s ()
        { s with working := d } := by
  induction rows generalizing s with
  | nil =>
    refine ⟨s.working, ?_, Tx.returns_pure.mpr ⟨rfl, rfl⟩⟩
    simp only [List.map_nil, List.not_mem_nil, if_false, List.map_id']
    exact (Function.update_eq_self ..).symm
  | cons row rows ih =>
    obtain ⟨old, hold, hid⟩ := List.mem_map.mp (hrows row List.mem_cons_self)
    have hfind : s.working.find .refreshToken row.id = some old :=
      Store.find_eq_some_iff.mpr ⟨hold, hid⟩
    obtain ⟨d₁, hd₁, hret₁⟩ := Repository.update_returns env (T := .refreshToken)
      (fun r => .ok { r with revokedAt := some env.now }) hfind
      (TableName.written_refreshToken env.now old _) ⟨rfl, by simp [TableName.uniques], by
        simp [TableName.references]⟩
    -- the first update, as a map over the rows
    have htok₁ : d₁.refreshTokens = s.working.refreshTokens.map
        (fun x => if x.id = row.id then x.revoke env.now else x) := by
      show d₁.rows .refreshToken = _
      rw [hd₁, Schema.replace_self, ← hid]
      exact Table.replace_eq_map (s.working.consistent.key .refreshToken) hold
        (f := fun x => x.revoke env.now) rfl
    have hids : d₁.refreshTokens.map (·.id) = s.working.refreshTokens.map (·.id) := by
      rw [htok₁, List.map_map]
      refine List.map_congr_left (fun x _ => ?_)
      simp only [Function.comp_apply]
      split <;> rfl
    obtain ⟨d₂, hd₂, hret₂⟩ := ih { s with working := d₁ }
      (fun r hr => by rw [hids]; exact hrows r (List.mem_cons_of_mem _ hr))
    refine ⟨d₂, ?_, ?_⟩
    · rw [hd₂, hd₁]
      funext T
      by_cases hT : T = .refreshToken
      · subst hT
        rw [Function.update_self, Function.update_self, htok₁, List.map_map]
        refine List.map_congr_left (fun x _ => ?_)
        by_cases h₁ : x.id = row.id <;> by_cases h₂ : x.id ∈ rows.map (·.id) <;>
          simp_all [RefreshToken.revoke]
      · rw [Function.update_of_ne hT, Function.update_of_ne hT]
        exact Schema.replace_of_ne hT
    · rw [List.forM_cons]
      refine Tx.returns_bind.mpr ⟨(), { s with working := d₁ }, ?_, hret₂⟩
      exact Tx.returns_bind.mpr ⟨_, _, hret₁, Tx.returns_pure.mpr ⟨rfl, rfl⟩⟩

/-- **What revoking rows that are there leaves.** -/
theorem revokeRows_returns (env : Env) (s : Session Database) (rows : List RefreshToken)
    (hrows : ∀ r ∈ rows, r.id ∈ s.working.refreshTokens.map (·.id)) :
    ∃ d : Database,
      d.rows = Function.update s.working.rows .refreshToken (s.working.refreshTokens.map
        (fun x => if x.id ∈ rows.map (·.id) then x.revoke env.now else x)) ∧
      (revokeRows env rows).Returns s rows.length { s with working := d } := by
  obtain ⟨d, hd, hret⟩ := forM_update_returns env s rows hrows
  exact ⟨d, hd, Tx.returns_bind.mpr ⟨(), _, hret, Tx.returns_pure.mpr ⟨rfl, rfl⟩⟩⟩

/-- **An invariant of a bulk revocation**: of each of its updates. -/
theorem preserves_revokeRows (env : Env) (rows : List RefreshToken) {I : Database → Prop}
    (h : ∀ (d d' : Database) (old : RefreshToken), old ∈ d.refreshTokens →
      d'.rows = schema.replace .refreshToken (old.revoke env.now) d.rows → I d → I d') :
    Tx.Preserves I (revokeRows env rows) := by
  refine Tx.Preserves.bind (Tx.Preserves.forM (fun row => ?_) rows)
    (fun _ => Tx.Preserves.of_reads (Tx.Reads.pure _))
  refine Tx.Preserves.bind
    (preserves_update (T := .refreshToken) (fun d d' old a hold hw hd' => ?_))
    (fun _ => Tx.Preserves.of_reads (Tx.Reads.pure _))
  rw [show Except.ok { old with revokedAt := some env.now } >>=
    TableName.written env.now .refreshToken old = .ok (old.revoke env.now) from
    TableName.written_refreshToken env.now old _] at hw
  cases hw
  exact h d d' old (Store.find_eq_some_iff.mp hold).1 hd'

/-- Revoking rows leaves every other table alone. -/
theorem frame_revokeRows (env : Env) (rows : List RefreshToken) {T : TableName}
    {rows' : List T.Row} (hT : T ≠ .refreshToken) :
    Tx.Preserves (fun d : Database => d.rows T = rows') (revokeRows env rows) :=
  preserves_revokeRows env rows (fun _ _ _ _ hd' hd => by rwa [hd', Schema.replace_of_ne hT])

/-- A stored row is selected when its identifier is. -/
theorem id_mem_filter (d : Database) (p : RefreshToken → Bool) {x : RefreshToken}
    (hx : x ∈ d.refreshTokens) : x.id ∈ (d.refreshTokens.filter p).map (·.id) ↔ p x = true := by
  rw [List.mem_map]
  constructor
  · rintro ⟨y, hy, hid⟩
    have hyx : y = x := d.consistent.eq_of_id (T := TableName.refreshToken)
      (List.mem_of_mem_filter hy) hx hid
    exact hyx ▸ List.of_mem_filter hy
  · intro h
    exact ⟨x, List.mem_filter.mpr ⟨hx, h⟩, rfl⟩

/-- **Selecting rows and revoking them** revokes exactly the rows that are
selected, and counts them. -/
theorem revokeMany_returns (env : Env) (s : Session Database) (p : RefreshToken → Bool) :
    ∃ d : Database,
      d.rows = Function.update s.working.rows .refreshToken
        (s.working.refreshTokens.map (fun x => if p x then x.revoke env.now else x)) ∧
      (getMany .refreshToken p >>= revokeRows env).Returns s
        (s.working.refreshTokens.countP p) { s with working := d } := by
  obtain ⟨d, hd, hret⟩ := revokeRows_returns env s (s.working.refreshTokens.filter p)
    (fun r hr => List.mem_map_of_mem (List.mem_of_mem_filter hr))
  have hsel : (getMany .refreshToken p).Returns s (s.working.refreshTokens.filter p) s := rfl
  refine ⟨d, ?_, ?_⟩
  · rw [hd]
    refine congrArg _ (List.map_congr_left (fun x hx => ?_))
    exact if_congr (id_mem_filter s.working p hx) rfl rfl
  · rw [List.countP_eq_length_filter]
    exact Tx.returns_bind.mpr ⟨_, s, hsel, hret⟩

/-- **Revoking a session burns exactly its unrevoked rows.** -/
theorem revokeSession_returns (env : Env) (s : Session Database) (sessionId : UUID) :
    ∃ (d : Database) (n : ℕ),
      d.rows = Function.update s.working.rows .refreshToken
        (s.working.refreshTokens.map (fun x => x.burn env.now sessionId)) ∧
      (revokeSession env sessionId).Returns s n { s with working := d } := by
  obtain ⟨d, hd, hret⟩ := revokeMany_returns env s
    (fun r => r.revokedAt = none && r.sessionId = sessionId)
  refine ⟨d, _, ?_, hret⟩
  rw [hd]
  refine congrArg _ (List.map_congr_left (fun x _ => ?_))
  exact if_congr (by simp) rfl rfl

end RefreshTokenRepository
