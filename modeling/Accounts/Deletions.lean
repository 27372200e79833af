import Accounts.Emails
import Accounts.Faces
import Accounts.Isolation
import Accounts.InviteLifecycle
import Accounts.TokenRaces
import Accounts.UnknownFamily

/-!
# What can be deleted

Deleting a member also deletes its profile, and deleting a child its reading
profile: for these two the models declare a cascade. Every other row that
refers to a member or to a child makes the delete break a foreign key, and
nothing handles that. So what a member or a child has been used for decides
whether it can go: a member stays that has ever been issued a refresh token –
these rows are never removed – or whose invite is still there, and a child
stays that has a history entry or a policy.

`member_deletion` and `child_deletion` say that this is all there is to it.
-/

open Repository

variable {P : Platform} {env : Env} {d d' : Database} {f : UUID}

/-! ## A delete with what goes along -/

/-- Some row refers to the row of `T` with the identifier. -/
def Database.RefersTo (d : Database) (T : TableName) (id : UUID) : Prop :=
  ∃ U : TableName, ∃ p ∈ U.references, p.1 = T ∧ ∃ x ∈ d.rows U, p.2 x = some id

/-- **A member that cannot be deleted**: it has been issued a refresh token,
or has an invite open or accepted. -/
def FamilyMember.Held (d : Database) (id : UUID) : Prop :=
  (∃ t ∈ d.refreshTokens, t.familyMemberId = id) ∨
    ∃ i ∈ d.invites, i.createdByMemberId = some id

/-- **A child that cannot be deleted**: it has a history entry or a policy. -/
def ChildProfile.Held (d : Database) (id : UUID) : Prop :=
  (∃ e ∈ d.readingHistory, e.childId = id) ∨ ∃ p ∈ d.policies, p.childId = some id

instance (id : UUID) : Decidable (FamilyMember.Held d id) := inferInstanceAs (Decidable (_ ∨ _))

instance (id : UUID) : Decidable (ChildProfile.Held d id) := inferInstanceAs (Decidable (_ ∨ _))

/-- What refers to a member. -/
theorem FamilyMember.refersTo_iff {id : UUID} :
    d.RefersTo .familyMember id ↔ (∃ p ∈ d.memberProfiles, p.memberId = id) ∨ Held d id := by
  constructor
  · rintro ⟨U, p, hp, hp1, x, hx, hxid⟩
    cases U with
    | family => cases hp
    | familyMember | childProfile | childReadingProfile | readingHistory =>
      obtain rfl := List.mem_singleton.mp hp
      cases hp1
    | familyReadingPolicy => rcases List.mem_pair.mp hp with rfl | rfl <;> cases hp1
    | familyMemberProfile =>
      obtain rfl := List.mem_singleton.mp hp
      exact Or.inl ⟨x, hx, Option.some.inj hxid⟩
    | refreshToken =>
      rcases List.mem_pair.mp hp with rfl | rfl
      · cases hp1
      · exact Or.inr (Or.inl ⟨x, hx, Option.some.inj hxid⟩)
    | familyInvite =>
      rcases List.mem_pair.mp hp with rfl | rfl
      · cases hp1
      · exact Or.inr (Or.inr ⟨x, hx, hxid⟩)
  · rintro (⟨r, hr, rfl⟩ | ⟨t, ht, rfl⟩ | ⟨i, hi, hid⟩)
    · exact ⟨.familyMemberProfile, _, List.mem_cons_self, rfl, r, hr, rfl⟩
    · exact ⟨.refreshToken, _, List.mem_cons_of_mem _ List.mem_cons_self, rfl, t, ht, rfl⟩
    · exact ⟨.familyInvite, _, List.mem_cons_of_mem _ List.mem_cons_self, rfl, i, hi, hid⟩

/-- What refers to a child. -/
theorem ChildProfile.refersTo_iff {id : UUID} :
    d.RefersTo .childProfile id ↔ (∃ p ∈ d.readingProfiles, p.childId = id) ∨ Held d id := by
  constructor
  · rintro ⟨U, p, hp, hp1, x, hx, hxid⟩
    cases U with
    | family => cases hp
    | familyMember | childProfile | familyMemberProfile =>
      obtain rfl := List.mem_singleton.mp hp
      cases hp1
    | refreshToken | familyInvite => rcases List.mem_pair.mp hp with rfl | rfl <;> cases hp1
    | childReadingProfile =>
      obtain rfl := List.mem_singleton.mp hp
      exact Or.inl ⟨x, hx, Option.some.inj hxid⟩
    | readingHistory =>
      obtain rfl := List.mem_singleton.mp hp
      exact Or.inr (Or.inl ⟨x, hx, Option.some.inj hxid⟩)
    | familyReadingPolicy =>
      rcases List.mem_pair.mp hp with rfl | rfl
      · cases hp1
      · exact Or.inr (Or.inr ⟨x, hx, hxid⟩)
  · rintro (⟨r, hr, rfl⟩ | ⟨e, he, rfl⟩ | ⟨p, hp, hid⟩)
    · exact ⟨.childReadingProfile, _, List.mem_cons_self, rfl, r, hr, rfl⟩
    · exact ⟨.readingHistory, _, List.mem_cons_self, rfl, e, he, rfl⟩
    · exact ⟨.familyReadingPolicy, _, List.mem_cons_of_mem _ List.mem_cons_self, rfl, p, hp, hid⟩

/-- A delete of what nothing refers to is accepted, and no other. -/
theorem Database.consistent_delete_iff {T : TableName} {id : UUID} :
    schema.Consistent (schema.delete T id d.rows) ↔ ¬ d.RefersTo T id := by
  refine (Schema.consistent_delete_iff d.consistent).trans
    ⟨fun h => ?_, fun h U p hp hp1 x hx hid => h ⟨U, p, hp, hp1, x, hx, hid⟩⟩
  rintro ⟨U, p, hp, hp1, x, hx, hid⟩
  exact h U p hp hp1 x hx hid

/-- Nothing refers to the rows of a profile. -/
theorem TableName.not_referenced {T : TableName}
    (hT : T ∈ [familyMemberProfile, childReadingProfile]) (U : TableName) :
    ∀ p ∈ U.references, p.1 ≠ T := by
  intro p hp hp1
  cases U with
  | family => cases hp
  | familyMember | childProfile | familyMemberProfile | childReadingProfile | readingHistory =>
    obtain rfl := List.mem_singleton.mp hp
    subst hp1
    revert hT
    decide
  | familyReadingPolicy | refreshToken | familyInvite =>
    rcases List.mem_pair.mp hp with rfl | rfl <;>
    · subst hp1
      revert hT
      decide

/-- The profile goes with its member. -/
theorem TableName.cascade_familyMember {id : UUID} {t : (T : TableName) → List T.Row} :
    cascade .familyMember id t .familyMemberProfile
      = (t .familyMemberProfile).filter fun r => !decide (r.memberId = id) := by
  rw [cascade, Schema.discard_self]

/-- The reading profile goes with its child. -/
theorem TableName.cascade_childProfile {id : UUID} {t : (T : TableName) → List T.Row} :
    cascade .childProfile id t .childReadingProfile
      = (t .childReadingProfile).filter fun r => !decide (r.childId = id) := by
  rw [cascade, Schema.discard_self]

/-- **What the database says to deleting a member**, after its profile. -/
theorem FamilyMember.consistent_delete_iff {id : UUID} :
    schema.Consistent (schema.delete .familyMember id
      (TableName.cascade .familyMember id d.rows)) ↔ ¬ Held d id := by
  -- the database without the profile
  let d₁ : Database := ⟨TableName.cascade .familyMember id d.rows,
    d.consistent.discard (TableName.not_referenced (by decide)) _⟩
  have hrest : ∀ U, U ≠ .familyMemberProfile → d₁.rows U = d.rows U :=
    fun _ hU => Schema.discard_of_ne hU
  have hprofile : ¬ ∃ p ∈ d₁.memberProfiles, p.memberId = id := by
    rw [show d₁.memberProfiles = _ from TableName.cascade_familyMember]
    simp
  have hheld : Held d₁ id ↔ Held d id := by
    unfold Held
    rw [show d₁.refreshTokens = d.refreshTokens from hrest .refreshToken (by simp),
      show d₁.invites = d.invites from hrest .familyInvite (by simp)]
  refine (Database.consistent_delete_iff (d := d₁)).trans (not_congr ?_)
  rw [refersTo_iff, or_iff_right hprofile, hheld]

/-- **What the database says to deleting a child**, after its reading
profile. -/
theorem ChildProfile.consistent_delete_iff {id : UUID} :
    schema.Consistent (schema.delete .childProfile id
      (TableName.cascade .childProfile id d.rows)) ↔ ¬ Held d id := by
  let d₁ : Database := ⟨TableName.cascade .childProfile id d.rows,
    d.consistent.discard (TableName.not_referenced (by decide)) _⟩
  have hrest : ∀ U, U ≠ .childReadingProfile → d₁.rows U = d.rows U :=
    fun _ hU => Schema.discard_of_ne hU
  have hprofile : ¬ ∃ p ∈ d₁.readingProfiles, p.childId = id := by
    rw [show d₁.readingProfiles = _ from TableName.cascade_childProfile]
    simp
  have hheld : Held d₁ id ↔ Held d id := by
    unfold Held
    rw [show d₁.readingHistory = d.readingHistory from hrest .readingHistory (by simp),
      show d₁.policies = d.policies from hrest .familyReadingPolicy (by simp)]
  refine (Database.consistent_delete_iff (d := d₁)).trans (not_congr ?_)
  rw [refersTo_iff, or_iff_right hprofile, hheld]

/-! ## What a delete leaves -/

/-- **The member and its profile are gone**, no row refers to the member, and
every other row is as it was. -/
structure FamilyMember.DeletedIn (m : FamilyMember) (d d' : Database) : Prop where
  /-- Of the members, this one. -/
  members : d'.members = Table.delete FamilyMember.id m.id d.members
  /-- Of the profiles, its own. -/
  memberProfiles : d'.memberProfiles = d.memberProfiles.filter fun r => !decide (r.memberId = m.id)
  /-- Nothing else. -/
  others : ∀ T, T ≠ .familyMember → T ≠ .familyMemberProfile → d'.rows T = d.rows T
  /-- No reference to it. -/
  unreferred : ¬ d'.RefersTo .familyMember m.id

/-- **The child, its reading profile and its history are gone**, no row
refers to the child, and every other row is as it was. -/
structure ChildProfile.DeletedIn (k : ChildProfile) (d d' : Database) : Prop where
  /-- Of the children, this one. -/
  children : d'.children = Table.delete ChildProfile.id k.id d.children
  /-- Of the reading profiles, its own. -/
  readingProfiles :
    d'.readingProfiles = d.readingProfiles.filter fun r => !decide (r.childId = k.id)
  /-- Of the history, its own. -/
  readingHistory :
    d'.readingHistory = d.readingHistory.filter fun r => !decide (r.childId = k.id)
  /-- Nothing else. -/
  others : ∀ T, T ≠ .childProfile → T ≠ .childReadingProfile → T ≠ .readingHistory →
    d'.rows T = d.rows T
  /-- No reference to it. -/
  unreferred : ¬ d'.RefersTo .childProfile k.id

/-- Nothing refers to a row that is not there. -/
theorem Database.not_refersTo {T : TableName} {id : UUID} (h : ∀ r ∈ d.rows T, T.id r ≠ id) :
    ¬ d.RefersTo T id := by
  rintro ⟨U, p, hp, rfl, x, hx, hid⟩
  obtain ⟨r, hr, hrid⟩ := List.mem_map.mp (d.consistent.reference U p hp x hx id hid)
  exact h r hr hrid

/-- What the tables are when a member has been deleted. -/
theorem FamilyMember.deletedIn_of_rows {m : FamilyMember}
    (h : d'.rows = schema.delete .familyMember m.id
      (TableName.cascade .familyMember m.id d.rows)) : m.DeletedIn d d' := by
  have hmembers : d'.members = Table.delete FamilyMember.id m.id d.members := by
    show d'.rows .familyMember = _
    rw [h, Schema.delete_self, TableName.cascade, Schema.discard_of_ne (by simp)]
    rfl
  refine ⟨hmembers, ?_, fun T hT hT' => ?_, Database.not_refersTo (fun r hr => ?_)⟩
  · show d'.rows .familyMemberProfile = _
    rw [h, Schema.delete_of_ne (by simp), TableName.cascade_familyMember]
  · rw [h, Schema.delete_of_ne hT, TableName.cascade, Schema.discard_of_ne hT']
  · rw [show d'.rows .familyMember = _ from hmembers] at hr
    exact (Table.mem_delete.mp hr).2

/-- What the tables are when a child that is not held has been deleted. -/
theorem ChildProfile.deletedIn_of_rows {k : ChildProfile} (hk : ¬ Held d k.id)
    (h : d'.rows = schema.delete .childProfile k.id
      (TableName.cascade .childProfile k.id d.rows)) : k.DeletedIn d d' := by
  have hchildren : d'.children = Table.delete ChildProfile.id k.id d.children := by
    show d'.rows .childProfile = _
    rw [h, Schema.delete_self, TableName.cascade, Schema.discard_of_ne (by simp)]
    rfl
  have hother : ∀ T, T ≠ .childProfile → T ≠ .childReadingProfile → d'.rows T = d.rows T :=
    fun T hT hT' => by
      rw [h, Schema.delete_of_ne hT, TableName.cascade, Schema.discard_of_ne hT']
  refine ⟨hchildren, ?_, ?_, fun T hT hT' _ => hother T hT hT',
    Database.not_refersTo (fun r hr => ?_)⟩
  · show d'.rows .childReadingProfile = _
    rw [h, Schema.delete_of_ne (by simp), TableName.cascade_childProfile]
  · rw [show d'.readingHistory = d.readingHistory from hother .readingHistory (by simp) (by simp)]
    refine (List.filter_eq_self.mpr (fun e he => ?_)).symm
    simpa using fun hid => hk (Or.inl ⟨e, he, hid⟩)
  · rw [show d'.rows .childProfile = _ from hchildren] at hr
    exact (Table.mem_delete.mp hr).2

/-- Deleting a row that is there. -/
theorem Repository.delete_returns {T : TableName} {r : T.Row} (hr : r ∈ d.rows T)
    {s' : Session Database} :
    (delete T (T.id r)).Returns ⟨d, d⟩ () s' ↔
      ∃ d₁ : Database, d₁.rows = schema.delete T (T.id r) (T.cascade (T.id r) d.rows) ∧
        s' = ⟨d, d₁⟩ := by
  rw [returns_delete, show Store.find d T (T.id r) = some r from
    Store.find_eq_some_iff.mpr ⟨hr, rfl⟩]
  exact and_iff_right rfl

/-- **What a delete that succeeds leaves** of a member that is not the
primary one. -/
theorem MemberService.serve_delete {m : FamilyMember} (hm : m ∈ d.members)
    (hprimary : m.isPrimaryUser = false) :
    serve P env (.family m.familyId (.deleteMember m.id)) d = (.ok .done, d') ↔
      d'.rows = schema.delete .familyMember m.id
        (TableName.cascade .familyMember m.id d.rows) := by
  have hfound : (require m.familyId m.id).Returns ⟨d, d⟩ m ⟨d, d⟩ :=
    require_returns.mpr ⟨hm, rfl, rfl, rfl⟩
  refine Tx.serve_ok_iff.trans ⟨?_, fun h => ?_⟩
  · rintro ⟨s, h, rfl⟩
    obtain ⟨⟨⟩, s₁, h₁, h₂⟩ := Tx.returns_bind.mp h
    obtain ⟨-, rfl⟩ := Tx.returns_pure.mp h₂
    obtain ⟨m', s₂, hreq, hdel⟩ := Tx.returns_bind.mp h₁
    obtain ⟨rfl, rfl⟩ := hfound.eq hreq
    rw [hprimary] at hdel
    obtain ⟨d₁, hd₁, rfl⟩ := (delete_returns (T := .familyMember) hm).mp hdel
    exact hd₁
  · refine ⟨⟨d, d'⟩, Tx.returns_bind.mpr ⟨(), ⟨d, d'⟩, Tx.returns_bind.mpr ⟨m, _, hfound, ?_⟩,
      Tx.returns_pure.mpr ⟨rfl, rfl⟩⟩, rfl⟩
    rw [hprimary]
    exact (delete_returns (T := .familyMember) hm).mpr ⟨d', h, rfl⟩

/-- **What a delete that succeeds leaves** of a child. -/
theorem ChildService.serve_delete {k : ChildProfile} (hk : k ∈ d.children) :
    serve P env (.family k.familyId (.deleteChild k.id)) d = (.ok .done, d') ↔
      d'.rows = schema.delete .childProfile k.id
        (TableName.cascade .childProfile k.id d.rows) := by
  have hfound : (require k.familyId k.id).Returns ⟨d, d⟩ k ⟨d, d⟩ :=
    require_returns.mpr ⟨hk, rfl, rfl, rfl⟩
  refine Tx.serve_ok_iff.trans ⟨?_, fun h => ?_⟩
  · rintro ⟨s, h, rfl⟩
    obtain ⟨⟨⟩, s₁, h₁, h₂⟩ := Tx.returns_bind.mp h
    obtain ⟨-, rfl⟩ := Tx.returns_pure.mp h₂
    obtain ⟨k', s₂, hreq, hdel⟩ := Tx.returns_bind.mp h₁
    obtain ⟨rfl, rfl⟩ := hfound.eq hreq
    obtain ⟨d₁, hd₁, rfl⟩ := (delete_returns (T := .childProfile) hk).mp hdel
    exact hd₁
  · exact ⟨⟨d, d'⟩, Tx.returns_bind.mpr ⟨(), ⟨d, d'⟩, Tx.returns_bind.mpr ⟨k, _, hfound,
      (delete_returns (T := .childProfile) hk).mpr ⟨d', h, rfl⟩⟩,
      Tx.returns_pure.mpr ⟨rfl, rfl⟩⟩, rfl⟩

/-- A delete is served in one step. -/
theorem TwoStep.next_deleteMember {c : State} {id : UUID} :
    (concurrentService P).system.next c (.start env (.family f (.deleteMember id)))
      = ⟨(serve P env (.family f (.deleteMember id)) c.shared).2, c.flights, c.log ++
        [⟨env, .inl (.family f (.deleteMember id)),
          (serve P env (.family f (.deleteMember id)) c.shared).1⟩]⟩ := by
  obtain ⟨o, hfirst, ho⟩ | ⟨flight, s, -, hflight, -⟩ :=
      serve_cases P env (.family f (.deleteMember id)) c.shared
  · obtain ⟨henv, hsource, -⟩ := TwoStep.ofPhases_first_done hfirst
    rw [TwoStep.system_next, TwoStep.move_start_done hfirst, ← hsource, ← ho, ← henv]
  · rw [Request.begin_oneStep rfl] at hflight
    obtain ⟨_, _, -, h⟩ := Tx.returns_bind.mp hflight
    cases (Tx.returns_pure.mp h).1

/-! ## What can be deleted -/

/-- **No refresh token that was issued to the member up to `c` is accepted
after `c'`.** -/
def FamilyMember.TokensRefused (P : Platform) (m : FamilyMember) (c c' : State) : Prop :=
  ∀ o ∈ c.log, ∀ a, answeredTokens o = some a → a.familyMemberId = m.id.str → ∀ ms,
    ∀ o' ∈ ((concurrentService P).system.run c' ms).log.drop c'.log.length, ∀ row,
      exchangedToken o' = some row → row.tokenHash ≠ RefreshTokenCodec.hash P a.refreshToken

/-- **A member that is not the primary one can be deleted just when it is not
held.** After any schedule of requests, the delete succeeds, the member and
its profile are gone with every reference to it, and its tokens are refused
from then on, if and only if no refresh token has been issued to it and no
invite of it is there. -/
theorem member_deletion (P : Platform) (env : Env) (ms : List (Move Env Request))
    (m : FamilyMember) (hm : m ∈ ((concurrentService P).system.run idle ms).shared.members)
    (hprimary : m.isPrimaryUser = false) :
    let c := (concurrentService P).system.run idle ms
    let c' := (concurrentService P).system.next c
      (.start env (.family m.familyId (.deleteMember m.id)))
    c'.log = c.log ++ [⟨env, .inl (.family m.familyId (.deleteMember m.id)), .ok .done⟩] ∧
        m.DeletedIn c.shared c'.shared ∧ m.TokensRefused P c c' ↔
      ¬ FamilyMember.Held c.shared m.id := by
  intro c c'
  have hnext : c' = _ := TwoStep.next_deleteMember
  constructor
  · rintro ⟨hlog, -, -⟩
    have hok : (serve P env (.family m.familyId (.deleteMember m.id)) c.shared).1 = .ok .done := by
      rw [hnext] at hlog
      simpa using hlog
    have hrows := (MemberService.serve_delete hm hprimary).mp (Prod.ext hok rfl)
    exact FamilyMember.consistent_delete_iff.mp (hrows ▸ Store.consistent _)
  · intro hheld
    let d₁ : Database := ⟨_, FamilyMember.consistent_delete_iff.mpr hheld⟩
    have hserve : serve P env (.family m.familyId (.deleteMember m.id)) c.shared
        = (.ok .done, d₁) := (MemberService.serve_delete hm hprimary).mpr rfl
    rw [hserve] at hnext
    rw [hnext]
    refine ⟨rfl, FamilyMember.deletedIn_of_rows rfl, fun o ho a ha hname => ?_⟩
    -- what was issued to the member is stored, so nothing was
    obtain ⟨f, k, -, hk, t, ht, -, htk⟩ := (tokens_backed P ms o ho a ha).backed
    obtain rfl := UUID.str_injective (hk.symm.trans hname)
    exact absurd (Or.inl ⟨t, ht, htk⟩) hheld

/-- A member that was only ever created goes. -/
theorem member_deletion_created :
    let P := Sample.platform 2592000
    let c := (concurrentService P).system.run idle (Sample.creates none)
    ∃ m ∈ c.shared.members, m.isPrimaryUser = false ∧
      m.DeletedIn c.shared ((concurrentService P).system.next c
        (.start (Sample.env 3 (Sample.second 90))
          (.family m.familyId (.deleteMember m.id)))).shared := by
  refine ⟨MemberService.newMember (Sample.platform 2592000) (Sample.env 2 (Sample.second 60)) 1
    (Sample.member none), by decide +kernel, rfl, ?_⟩
  exact ((member_deletion (Sample.platform 2592000) (Sample.env 3 (Sample.second 90))
    (Sample.creates none) (MemberService.newMember (Sample.platform 2592000)
      (Sample.env 2 (Sample.second 60)) 1 (Sample.member none)) (by decide +kernel) rfl).mpr
    (by decide +kernel)).2.1

/-- Ada signs up and creates an invite, and Bob joins with it. -/
def Sample.joins : List (Move Env Request) := [
  .start (Sample.env 1 (Sample.second 0)) (.auth (.signup (Sample.signup "ada@example.org" none))),
  .finish (Sample.env 1 (Sample.second 0)) 0,
  .start (Sample.env 2 (Sample.second 60)) (.family 1 (.createInvite 1 ⟨"parent", none⟩)),
  .start (Sample.env 3 (Sample.second 90))
    (.auth (.signup (Sample.signup "bob@example.org" (some "code-2")))),
  .finish (Sample.env 3 (Sample.second 90)) 0]

/-- **Bob cannot be deleted**: joining issued him a refresh token. -/
theorem member_deletion_joined :
    let P := Sample.platform 2592000
    let d := ((concurrentService P).system.run idle Sample.joins).shared
    ∃ m ∈ d.members, m.isPrimaryUser = false ∧
      (serve P (Sample.env 4 (Sample.second 120)) (.family m.familyId (.deleteMember m.id)) d).1
        = .error .integrityError := by
  decide +kernel

/-- **A child can be deleted just when it is not held.** The delete succeeds,
and the child, its reading profile and its history are gone with every
reference to it, if and only if it has no history entry and no policy. -/
theorem child_deletion (P : Platform) (env : Env) (d : Database) (k : ChildProfile)
    (hk : k ∈ d.children) :
    (serve P env (.family k.familyId (.deleteChild k.id)) d).1 = .ok .done ∧
        k.DeletedIn d (serve P env (.family k.familyId (.deleteChild k.id)) d).2 ↔
      ¬ ChildProfile.Held d k.id := by
  constructor
  · rintro ⟨hok, -⟩
    have hrows := (ChildService.serve_delete hk).mp (Prod.ext hok rfl)
    exact ChildProfile.consistent_delete_iff.mp (hrows ▸ Store.consistent _)
  · intro hheld
    let d₁ : Database := ⟨_, ChildProfile.consistent_delete_iff.mpr hheld⟩
    have hserve : serve P env (.family k.familyId (.deleteChild k.id)) d = (.ok .done, d₁) :=
      (ChildService.serve_delete hk).mpr rfl
    rw [hserve]
    exact ⟨rfl, ChildProfile.deletedIn_of_rows hheld rfl⟩

/-- Ada signs up, adds a child, and lets the service do something more. -/
def Sample.childAnd (op : FamilyOp) : List (Env × Request) := [
  (Sample.env 1 (Sample.second 0), .auth (.signup (Sample.signup "ada@example.org" none))),
  (Sample.env 2 (Sample.second 60), .family 1 (.createChild Sample.child)),
  (Sample.env 3 (Sample.second 90), .family 1 op)]

/-- A history entry that says nothing. -/
def Sample.entry : ReadingHistoryCreate where
  title := none
  author := none
  seriesName := none
  bookOrder := none
  status := none
  liked := none
  reasons := []
  parentNote := none
  childNote := none
  startedAt := none
  finishedAt := none

/-- A child nobody has noted anything about goes. -/
theorem child_deletion_unused :
    let P := Sample.platform 2592000
    (serve P (Sample.env 4 (Sample.second 120)) (.family 1 (.deleteChild 2))
      (reached P (Sample.childAnd .listChildren))).1 = .ok .done :=
  ((child_deletion (Sample.platform 2592000) (Sample.env 4 (Sample.second 120))
    (reached (Sample.platform 2592000) (Sample.childAnd .listChildren))
    (ChildService.newChild (Sample.env 2 (Sample.second 60)) 1 Sample.child)
    (by decide +kernel)).mpr (by decide +kernel)).1

/-- **A child that has read something cannot be deleted**, nor one that a
policy is about. -/
theorem child_deletion_held :
    let P := Sample.platform 2592000
    let answer op := (serve P (Sample.env 4 (Sample.second 120)) (.family 1 (.deleteChild 2))
      (reached P (Sample.childAnd op))).1
    answer (.addReadingHistory 2 Sample.entry) = .error .integrityError ∧
      answer (.createPolicy { Sample.policy with childId := some (UUID.str 2) })
        = .error .integrityError := by
  decide +kernel
