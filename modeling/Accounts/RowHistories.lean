import Accounts.Emails
import Accounts.Faces
import Accounts.Histories
import Accounts.Patches

/-!
# The history of a row

Of a row, some columns are said once and for all: no update of the service
sets them. They are what is left of the row when the others are blank
(`TableName.fixed`), and they hold who the row belongs to, when it was
created, and – of a member, an invite, a token – all that lets somebody in.
The marks that an invite is redeemed and a token is used are set, but never
cleared (`TableName.marks`).

A completed request says which rows it has inserted, updated or deleted:
`Inserts`, `Updates` and `Deletes` read that off the request. The log of a
schedule then explains every row of the database (`log_explains_rows`),
whatever was in flight at the same time: a row that has gone was deleted by a
request for it, a row that has come was inserted by a request that says so,
and a row that is not what it was was updated by one (`row_histories`). The
internal face has no request that would delete a row, or touch a family, an
invite or a token (`internal_least_privilege`).
-/

open Repository Relation

variable {P : Platform} {env : Env} {d d' : Database} {T : TableName}

/-! ## What is said once and for all -/

namespace TableName

/-- When the row was inserted. -/
def createdAt : (T : TableName) → T.Row → Datetime
  | family, r => r.createdAt
  | familyMember, r => r.createdAt
  | familyMemberProfile, r => r.createdAt
  | familyReadingPolicy, r => r.createdAt
  | familyInvite, r => r.createdAt
  | refreshToken, r => r.createdAt
  | childProfile, r => r.createdAt
  | childReadingProfile, r => r.createdAt
  | readingHistory, r => r.createdAt

/-- **The row, blank where an update may set it.** -/
def fixed : (T : TableName) → T.Row → T.Row
  | family, r => { r with familyName := none, defaultLanguage := none, updatedAt := r.createdAt }
  | familyMember, r => { r with
      displayName := none
      gender := none
      birthDate := none
      role := ""
      languagePreference := none
      updatedAt := r.createdAt }
  | familyMemberProfile, r => { r with
      occupationBackground := none
      educationBackground := none
      communicationStyle := none
      concerns := []
      source := none
      confidence := none
      updatedAt := r.createdAt }
  | familyReadingPolicy, r => { r with
      goals := []
      constraints := []
      avoidTopics := []
      contentPreferences := .null
      notes := none
      isActive := true
      updatedAt := r.createdAt }
  | familyInvite, r => { r with acceptedAt := none, updatedAt := r.createdAt }
  | refreshToken, r => { r with consumedAt := none, revokedAt := none }
  | childProfile, r => { r with
      displayName := none
      aliases := []
      gender := none
      birthDate := none
      grade := none
      schoolSystem := none
      countryOrCurriculum := none
      primaryLanguage := none
      readingLanguage := none
      notes := none
      updatedAt := r.createdAt }
  | childReadingProfile, r => { r with
      readingLevelNote := none
      cefrLevel := none
      lexile := none
      arLevel := none
      currentStage := none
      independentReading := none
      needsDictionary := none
      canReadChapterBooks := none
      canHandleOldLanguage := none
      interests := []
      preferredGenres := []
      dislikedGenres := []
      likedThemes := []
      dislikedThemes := []
      preferredTone := []
      avoidTopics := []
      summary := none
      confidence := none
      updatedAt := r.createdAt }
  | readingHistory, r => { r with
      title := none
      author := none
      seriesName := none
      bookOrder := none
      status := none
      liked := none
      reasons := []
      parentNote := none
      childNote := none
      startedAt := none
      finishedAt := none
      updatedAt := r.createdAt }

theorem id_fixed (r : T.Row) : T.id (T.fixed r) = T.id r := by
  cases T <;> rfl

theorem createdAt_fixed (r : T.Row) : T.createdAt (T.fixed r) = T.createdAt r := by
  cases T <;> rfl

/-- **The columns that are set and never cleared.** -/
def marks : (T : TableName) → List (T.Row → Option Datetime)
  | familyInvite => [(·.acceptedAt)]
  | refreshToken => [(·.consumedAt), (·.revokedAt)]
  | family | familyMember | familyMemberProfile | familyReadingPolicy | childProfile
  | childReadingProfile | readingHistory => []

/-- **`r'` is what has become of `r`**: what is said once and for all is the
same, and the marks are still there. -/
structure Keeps (T : TableName) (r r' : T.Row) : Prop where
  /-- The columns that no update sets. -/
  fixed : T.fixed r' = T.fixed r
  /-- The marks. -/
  marks : ∀ c ∈ T.marks, (c r).isSome → (c r').isSome

namespace Keeps

variable {r r' r'' : T.Row}

theorem refl (r : T.Row) : T.Keeps r r := ⟨rfl, fun _ _ hr => hr⟩

theorem trans (h : T.Keeps r r') (h' : T.Keeps r' r'') : T.Keeps r r'' :=
  ⟨h'.fixed.trans h.fixed, fun c hc hr => h'.marks c hc (h.marks c hc hr)⟩

/-- A table without marks. -/
theorem of_fixed (hm : T.marks = []) (h : T.fixed r' = T.fixed r) : T.Keeps r r' :=
  ⟨h, by simp [hm]⟩

theorem id_eq (h : T.Keeps r r') : T.id r' = T.id r := by
  rw [← id_fixed r', h.fixed, id_fixed]

theorem createdAt_eq (h : T.Keeps r r') : T.createdAt r' = T.createdAt r := by
  rw [← createdAt_fixed r', h.fixed, createdAt_fixed]

/-- Of a member, the family, the mark and the credentials are among it. -/
theorem member {r r' : FamilyMember} (h : Keeps .familyMember r r') : r'.Keeps r where
  id := (congrArg FamilyMember.id h.fixed :)
  familyId := (congrArg FamilyMember.familyId h.fixed :)
  isPrimaryUser := (congrArg FamilyMember.isPrimaryUser h.fixed :)
  email := (congrArg FamilyMember.email h.fixed :)
  passwordHash := (congrArg FamilyMember.passwordHash h.fixed :)

end Keeps

/-- Storing a row keeps it. -/
theorem keeps_coerce {r c : T.Row} (h : T.coerce r = .ok c) : T.Keeps r c := by
  cases T
  case familyMemberProfile =>
    obtain ⟨confidence, -, hc⟩ := Except.bind_eq_ok_iff.mp h
    cases hc
    exact .of_fixed rfl rfl
  case childReadingProfile =>
    obtain ⟨lexile, -, hc⟩ := Except.bind_eq_ok_iff.mp h
    obtain ⟨arLevel, -, hc⟩ := Except.bind_eq_ok_iff.mp hc
    obtain ⟨confidence, -, hc⟩ := Except.bind_eq_ok_iff.mp hc
    cases hc
    exact .of_fixed rfl rfl
  all_goals
    cases h
    exact .refl _

/-- So does stamping it. -/
theorem keeps_touch (now : Datetime) (r : T.Row) : T.Keeps r (T.touch now r) := by
  cases T
  case familyInvite => exact ⟨rfl, by simp [TableName.marks, touch]⟩
  case refreshToken => exact .refl r
  all_goals exact .of_fixed rfl rfl

/-- **What is written keeps the row**, when what was set does. -/
theorem Keeps.written {now : Datetime} {old draft a : T.Row} (hd : T.Keeps old draft)
    (h : T.written now old draft = .ok a) : T.Keeps old a := by
  rcases written_cases h with ⟨-, rfl⟩ | ⟨c, hc, rfl⟩
  · exact .refl _
  · exact (hd.trans (keeps_coerce hc)).trans (keeps_touch now c)

end TableName

/-- **No field of a body is said once and for all.** -/
theorem Patch.applyChanges_keeps {p : Patch T} {r r' : T.Row} (h : p.applyChanges r = .ok r') :
    T.Keeps r r' := by
  cases p with
  | family b =>
    cases h
    exact .of_fixed rfl rfl
  | member b | memberProfile b | child b | entry b =>
    obtain ⟨_, -, h⟩ := Except.bind_eq_ok_iff.mp h
    cases h
    exact .of_fixed rfl rfl
  | policy b =>
    simp only [applyChanges, FamilyReadingPolicy.applyChanges, Except.bind_eq_ok_iff] at h
    obtain ⟨_, -, _, -, _, -, _, -, h⟩ := h
    cases h
    exact .of_fixed rfl rfl
  | readingProfile b =>
    simp only [applyChanges, ChildReadingProfile.applyChanges, Except.bind_eq_ok_iff] at h
    obtain ⟨_, -, _, -, _, -, _, -, _, -, _, -, _, -, h⟩ := h
    cases h
    exact .of_fixed rfl rfl

theorem RefreshToken.keeps_consume (r : RefreshToken) (now : Datetime) :
    TableName.Keeps .refreshToken r (r.consume now) :=
  ⟨rfl, by simp [TableName.marks, consume]⟩

theorem RefreshToken.keeps_revoke (r : RefreshToken) (now : Datetime) :
    TableName.Keeps .refreshToken r (r.revoke now) :=
  ⟨rfl, by simp [TableName.marks, revoke]⟩

theorem FamilyInvite.keeps_accept (r : FamilyInvite) (now : Datetime) :
    TableName.Keeps .familyInvite r (r.accept now) := by
  unfold accept
  split
  · exact TableName.Keeps.refl (T := .familyInvite) r
  · exact ⟨rfl, by simp [TableName.marks]⟩

/-! ## What a completed request accounts for -/

/-- A request that completed at once, or what had been in flight. -/
abbrev Source : Type := Request ⊕ Flight

namespace Source

/-- **The rows a request inserts**: whose they are, and what lets somebody
in. -/
inductive Inserts : Source → (T : TableName) → T.Row → Prop where
  /-- A signup without an invite founds a family. -/
  | family (body : SignupRequest) (r : Family) : Inserts (.inr (.signup body none)) .family r
  /-- A signup registers a member, the primary one of a new family. -/
  | member {body : SignupRequest} {invite : Option FamilyInvite} {r : FamilyMember}
    (hemail : r.email = some body.email) (hprimary : r.isPrimaryUser = invite.isNone) :
    Inserts (.inr (.signup body invite)) .familyMember r
  /-- A signup opens a session. -/
  | signup (body : SignupRequest) (invite : Option FamilyInvite) {r : RefreshToken}
    (hunused : r.Live) : Inserts (.inr (.signup body invite)) .refreshToken r
  /-- A login opens a session. -/
  | login (body : LoginRequest) {r : RefreshToken} (hunused : r.Live) :
    Inserts (.inl (.auth (.login body))) .refreshToken r
  /-- An exchange goes on with one. -/
  | exchange (row : RefreshToken) {r : RefreshToken} (hunused : r.Live) :
    Inserts (.inr (.exchange row)) .refreshToken r
  /-- A family adds a member, who is not the primary one. -/
  | createMember {f : UUID} {body : MemberCreate} {r : FamilyMember} (hfam : r.familyId = f)
    (hemail : r.email = body.email) (hprimary : r.isPrimaryUser = false) :
    Inserts (.inr (.createMember f body)) .familyMember r
  /-- A member without a profile gets one. -/
  | memberProfile {memberId : UUID} (body : MemberProfileUpsert) {r : FamilyMemberProfile}
    (hmember : r.memberId = memberId) :
    Inserts (.inr (.upsertProfile memberId body none)) .familyMemberProfile r
  /-- A member invites. -/
  | invite {f createdByMemberId : UUID} {body : InviteCreate} {r : FamilyInvite}
    (hfam : r.familyId = f) (hby : r.createdByMemberId = some createdByMemberId)
    (hrole : r.role = body.role) (hunused : r.acceptedAt = none) :
    Inserts (.inl (.family f (.createInvite createdByMemberId body))) .familyInvite r
  /-- A family adds a child. -/
  | child {f : UUID} (body : ChildCreate) {r : ChildProfile} (hfam : r.familyId = f) :
    Inserts (.inl (.family f (.createChild body))) .childProfile r
  /-- The child gets a reading profile. -/
  | seed (f : UUID) (body : ChildCreate) (r : ChildReadingProfile) :
    Inserts (.inl (.family f (.createChild body))) .childReadingProfile r
  /-- A child without a reading profile gets one. -/
  | readingProfile (f : UUID) {childId : UUID} (body : ReadingProfileUpsert)
    {r : ChildReadingProfile} (hchild : r.childId = childId) :
    Inserts (.inl (.family f (.upsertReadingProfile childId body))) .childReadingProfile r
  /-- A book is added. -/
  | entry (f : UUID) {childId : UUID} (body : ReadingHistoryCreate) {r : ReadingHistory}
    (hchild : r.childId = childId) :
    Inserts (.inl (.family f (.addReadingHistory childId body))) .readingHistory r
  /-- A policy is added. -/
  | policy {f : UUID} (body : PolicyCreate) {r : FamilyReadingPolicy} (hfam : r.familyId = f) :
    Inserts (.inl (.family f (.createPolicy body))) .familyReadingPolicy r

/-- **The rows a request updates.** -/
inductive Updates : Source → (T : TableName) → T.Row → Prop where
  /-- A signup redeems its invite. -/
  | accept (body : SignupRequest) {invite r : FamilyInvite} (hid : r.id = invite.id) :
    Updates (.inr (.signup body (some invite))) .familyInvite r
  /-- An exchange uses its token. -/
  | exchange {row r : RefreshToken} (hid : r.id = row.id) :
    Updates (.inr (.exchange row)) .refreshToken r
  /-- A reported reuse revokes the rows it has selected. -/
  | reuse (now : Datetime) (sessionId : UUID) {rows : List RefreshToken} {r : RefreshToken}
    (hid : r.id ∈ rows.map (·.id)) : Updates (.inr (.reuse now sessionId rows)) .refreshToken r
  /-- So does a logout. -/
  | logout (now : Datetime) (sessionId : UUID) {rows : List RefreshToken} {r : RefreshToken}
    (hid : r.id ∈ rows.map (·.id)) : Updates (.inr (.logout now sessionId rows)) .refreshToken r
  /-- An upsert updates the profile it has found. -/
  | memberProfile (memberId : UUID) (body : MemberProfileUpsert) {profile r : FamilyMemberProfile}
    (hid : r.id = profile.id) :
    Updates (.inr (.upsertProfile memberId body (some profile))) .familyMemberProfile r
  /-- Any other update is of the row it names, in the family if that is what
  the row names. -/
  | patch {f : UUID} {T : TableName} (p : Patch T) {r : T.Row}
    (hfam : ∀ g, T.scope r = .family g → g = f) : Updates (.inl (.family f (p.op r))) T r

/-- **The rows a request deletes**, with what goes along with them. -/
inductive Deletes : Source → (T : TableName) → T.Row → Prop where
  /-- A member who is not the primary one. -/
  | member {f : UUID} {r : FamilyMember} (hfam : r.familyId = f)
    (hprimary : r.isPrimaryUser = false) :
    Deletes (.inl (.family f (.deleteMember r.id))) .familyMember r
  /-- The profile goes along. -/
  | memberProfile (f : UUID) (r : FamilyMemberProfile) :
    Deletes (.inl (.family f (.deleteMember r.memberId))) .familyMemberProfile r
  /-- An invite is revoked. -/
  | invite {invite r : FamilyInvite} (hid : r.id = invite.id) :
    Deletes (.inr (.revokeInvite invite)) .familyInvite r
  /-- A child. -/
  | child {f : UUID} {r : ChildProfile} (hfam : r.familyId = f) :
    Deletes (.inl (.family f (.deleteChild r.id))) .childProfile r
  /-- The reading profile goes along. -/
  | readingProfile (f : UUID) (r : ChildReadingProfile) :
    Deletes (.inl (.family f (.deleteChild r.childId))) .childReadingProfile r
  /-- A book. -/
  | entry (f : UUID) (r : ReadingHistory) :
    Deletes (.inl (.family f (.deleteReadingHistory r.childId r.id))) .readingHistory r
  /-- A policy. -/
  | policy {f : UUID} {r : FamilyReadingPolicy} (hfam : r.familyId = f) :
    Deletes (.inl (.family f (.deletePolicy r.id))) .familyReadingPolicy r

end Source

/-- **A request that has taken effect**: it has returned, or has reported that
a token is used again. -/
def Completed.Took (o : Completed Env Request Flight Exn Response) : Prop :=
  o.outcome.isOk = true ∨ o.outcome = .error .tokenReuse

/-- **A change of a row that a completed request accounts for.** -/
inductive RowChange (T : TableName) (o : Completed Env Request Flight Exn Response) :
    Option T.Row → Option T.Row → Prop where
  /-- The row is inserted, under a fresh identifier and with the time. -/
  | inserted {r : T.Row} (htook : o.Took) (hins : Source.Inserts o.source T r)
    (hid : T.id r = o.env.newId T) (hat : T.createdAt r = o.env.now) :
    RowChange T o none (some r)
  /-- The row is updated. -/
  | updated {r r' : T.Row} (htook : o.Took) (hupd : Source.Updates o.source T r)
    (hk : T.Keeps r r') : RowChange T o (some r) (some r')
  /-- The row is deleted. -/
  | deleted {r : T.Row} (htook : o.Took) (hdel : Source.Deletes o.source T r) :
    RowChange T o (some r) none

/-- No row is found under an identifier that none has. -/
theorem Store.find_eq_none {k : UUID} (h : ∀ r ∈ d.rows T, T.id r ≠ k) : d.find T k = none :=
  List.find?_eq_none.mpr (fun r hr hid => h r hr (of_decide_eq_true hid))

/-- **A request accounts for what it makes of the database**, row by row. -/
def Completed.Accounts (o : Completed Env Request Flight Exn Response) (d d' : Database) : Prop :=
  ∀ T k, ReflTransGen (RowChange T o) (d.find T k) (d'.find T k)

namespace Completed.Accounts

variable {o : Completed Env Request Flight Exn Response} {d₁ : Database}

theorem refl (d : Database) : o.Accounts d d := fun _ _ => .refl

theorem trans (h : o.Accounts d d₁) (h' : o.Accounts d₁ d') : o.Accounts d d' :=
  fun T k => (h T k).trans (h' T k)

/-- Where every table but one stays. -/
theorem of_table (hrest : ∀ U, U ≠ T → d'.rows U = d.rows U)
    (h : ∀ k, ReflTransGen (RowChange T o) (d.find T k) (d'.find T k)) : o.Accounts d d' := by
  intro U k
  by_cases hU : U = T
  · exact hU ▸ h k
  · rw [Store.find, Store.find, hrest U hU]

/-- A row is inserted. -/
theorem of_insert {a : T.Row} (htook : o.Took) (hins : Source.Inserts o.source T a)
    (hid : T.id a = o.env.newId T) (hat : T.createdAt a = o.env.now)
    (hd' : d'.rows = Schema.insert T a d.rows) : o.Accounts d d' := by
  refine of_table (T := T) (fun U hU => by rw [hd', Schema.insert_of_ne hU]) (fun k => ?_)
  have hrows : d'.rows T = Table.insert (d.rows T) a := by rw [hd', Schema.insert_self]
  rw [Store.find_insert hrows]
  split
  · next hk =>
    have hfree := ((Schema.consistent_insert_iff d.consistent).mp (hd' ▸ d'.consistent)).1
    rw [Store.find_eq_none (fun r hr hid' => hfree r hr (hid'.trans hk.symm))]
    exact .single (.inserted htook hins hid hat)
  · exact .refl

/-- A row is updated. -/
theorem of_replace {a old : T.Row} (htook : o.Took) (hupd : Source.Updates o.source T old)
    (hk : T.Keeps old a) (hold : old ∈ d.rows T) (hd' : d'.rows = schema.replace T a d.rows) :
    o.Accounts d d' := by
  refine of_table (T := T) (fun U hU => by rw [hd', Schema.replace_of_ne hU]) (fun k => ?_)
  have hrows : d'.rows T = Table.replace (schema.id T) a (d.rows T) := by
    rw [hd', Schema.replace_self]
  rw [Store.find_replace hold hk.id_eq.symm hrows]
  split
  · next hka =>
    rw [Store.find_eq_some_iff.mpr ⟨hold, hk.id_eq.symm.trans hka⟩]
    exact .single (.updated htook hupd hk)
  · exact .refl

/-- Rows are deleted. -/
theorem of_delete (htook : o.Took) (hsub : ∀ U, ∀ r ∈ d'.rows U, r ∈ d.rows U)
    (hdel : ∀ U, ∀ r ∈ d.rows U, r ∈ d'.rows U ∨ Source.Deletes o.source U r) :
    o.Accounts d d' := by
  intro U k
  cases hk : d.find U k with
  | none =>
    rw [Store.find_eq_none (fun r hr hid => by
      cases hk.symm.trans (Store.find_eq_some_iff.mpr ⟨hsub U r hr, hid⟩))]
  | some r =>
    obtain ⟨hmem, hid⟩ := Store.find_eq_some_iff.mp hk
    rcases hdel U r hmem with hstays | hgone
    · rw [Store.find_eq_some_iff.mpr ⟨hstays, hid⟩]
    · cases hk' : d'.find U k with
      | none => exact .single (.deleted htook hgone)
      | some r' =>
        obtain ⟨hmem', hid'⟩ := Store.find_eq_some_iff.mp hk'
        obtain rfl : r' = r := d.consistent.eq_of_id (hsub U r' hmem') hmem (hid'.trans hid.symm)
        exact .refl

end Completed.Accounts

/-! ## Statements -/

namespace Repository

variable {o : Completed Env Request Flight Exn Response} {s s' : Session Database} {id : UUID}

/-- **What an accepted insert is accounted for by.** -/
theorem add_accounts {r a : T.Row} (h : (add T r).Returns s a s') (htook : o.Took)
    (hins : ∀ a, T.coerce r = .ok a → Source.Inserts o.source T a)
    (hid : T.id r = o.env.newId T) (hat : T.createdAt r = o.env.now) :
    o.Accounts s.working s'.working := by
  obtain ⟨hc, d, hd, rfl⟩ := returns_add.mp h
  have hk := TableName.keeps_coerce hc
  exact .of_insert htook (hins a hc) (hk.id_eq.trans hid) (hk.createdAt_eq.trans hat) hd

/-- **What an accepted update is accounted for by.** -/
theorem update_accounts {changes : T.Row → Except Exn T.Row} {a : T.Row}
    (h : (update env T id changes).Returns s a s') (htook : o.Took)
    (hk : ∀ r r', changes r = .ok r' → T.Keeps r r')
    (hupd : ∀ r ∈ s.working.rows T, T.id r = id → Source.Updates o.source T r) :
    o.Accounts s.working s'.working := by
  obtain ⟨old, hold, hw, d, hd, rfl⟩ := returns_update.mp h
  obtain ⟨hmem, hid⟩ := Store.find_eq_some_iff.mp hold
  obtain ⟨draft, hdraft, hw⟩ := Except.bind_eq_ok_iff.mp hw
  exact .of_replace htook (hupd old hmem hid) ((hk old draft hdraft).written hw) hmem hd

/-- **What an accepted delete is accounted for by**: the row, and what the ORM
deletes first. -/
theorem delete_accounts (h : (delete T id).Returns s () s') (htook : o.Took)
    (hself : ∀ r ∈ s.working.rows T, T.id r = id → Source.Deletes o.source T r)
    (hmember : T = .familyMember → ∀ r ∈ s.working.memberProfiles, r.memberId = id →
      Source.Deletes o.source .familyMemberProfile r)
    (hchild : T = .childProfile → ∀ r ∈ s.working.readingProfiles, r.childId = id →
      Source.Deletes o.source .childReadingProfile r) : o.Accounts s.working s'.working := by
  have hrows := delete_change h
  have hdel : ∀ U, ∀ r ∈ T.cascade id s.working.rows U,
      r ∈ s'.working.rows U ∨ Source.Deletes o.source U r := by
    intro U r hr
    rw [hrows]
    by_cases hU : U = T
    · subst hU
      rw [Schema.delete_self, Table.mem_delete]
      by_cases hid : U.id r = id
      · refine Or.inr (hself r ?_ hid)
        rwa [cascade_of_ne (by cases U <;> simp) (by cases U <;> simp)] at hr
      · exact Or.inl ⟨hr, hid⟩
    · rw [Schema.delete_of_ne hU]
      exact Or.inl hr
  refine .of_delete htook (fun U r hr => ?_) (fun U r hr => ?_)
  · rw [hrows] at hr
    have hr := Schema.mem_of_mem_delete hr
    cases T with
    | familyMember | childProfile => exact Schema.mem_of_mem_discard hr
    | _ => exact hr
  · by_cases hm : T = .familyMember ∧ U = .familyMemberProfile
    · obtain ⟨rfl, rfl⟩ := hm
      by_cases hid : r.memberId = id
      · exact Or.inr (hmember rfl r hr hid)
      · refine hdel _ r ?_
        rw [TableName.cascade, Schema.discard_self]
        exact List.mem_filter.mpr ⟨hr, by simpa using hid⟩
    · by_cases hc : T = .childProfile ∧ U = .childReadingProfile
      · obtain ⟨rfl, rfl⟩ := hc
        by_cases hid : r.childId = id
        · exact Or.inr (hchild rfl r hr hid)
        · refine hdel _ r ?_
          rw [TableName.cascade, Schema.discard_self]
          exact List.mem_filter.mpr ⟨hr, by simpa using hid⟩
      · exact hdel U r (by rwa [cascade_of_ne (not_and_or.mp hm) (not_and_or.mp hc)])

end Repository

/-! ## Operations of a family -/

/-- **An operation of a family that is not split accounts for what it
makes of the database.** -/
theorem FamilyOp.run_accounts {s s' : Session Database} {f : UUID} {op : FamilyOp}
    {response : Response} (hone : op.oneStep = true)
    (h : (op.run P env f).Returns s response s') :
    Completed.Accounts ⟨env, .inl (.family f op), .ok response⟩ s.working s'.working := by
  have htook : Completed.Took ⟨env, .inl (.family f op), .ok response⟩ := Or.inl rfl
  have hpatch : ∀ {T : TableName} {r a : T.Row} {s₁ s₂ : Session Database} (p : Patch T),
      (update env T (T.id r) p.applyChanges).Returns s₁ a s₂ → r ∈ s₁.working.rows T →
      (∀ g, T.scope r = .family g → g = f) → p.op r = op →
      Completed.Accounts ⟨env, .inl (.family f op), .ok response⟩ s₁.working s₂.working := by
    intro T r a s₁ s₂ p hu hr hfam hop
    refine update_accounts hu htook (fun _ _ => p.applyChanges_keeps) (fun x hx hid => ?_)
    obtain rfl : x = r := s₁.working.consistent.eq_of_id hx hr hid
    exact hop ▸ .patch p hfam
  have hnames : ∀ {g : UUID}, g = f → ∀ g', Scope.family g = .family g' → g' = f :=
    fun hg _ hg' => (Scope.family.inj hg').symm.trans hg
  have hreads : op.target = none →
      Completed.Accounts ⟨env, .inl (.family f op), .ok response⟩ s.working s'.working := by
    intro ht
    have hd : s'.working = s.working := Store.ext fun U =>
      (FamilyOp.run_change h).rows_of_ne (by simp [ht]) (fun _ => by simp [ht])
        (fun _ => by simp [ht])
    rw [hd]
    exact .refl _
  cases op with
  | createMember | upsertProfile | revokeInvite => cases hone
  | updateFamily body =>
    obtain ⟨a, h, -⟩ := Tx.returns_bind_pure.mp h
    rw [FamilyService.update, ← bind_assoc] at h
    obtain ⟨family, s₁, h₁, h₂⟩ := Tx.returns_bind.mp h
    obtain ⟨hmem, hid, rfl⟩ := FamilyService.get_returns.mp h₁
    exact hpatch (.family body) h₂ hmem (hnames hid) rfl
  | updateMember memberId body =>
    obtain ⟨a, h, -⟩ := Tx.returns_bind_pure.mp h
    obtain ⟨m, s₁, h₁, h₂⟩ := Tx.returns_bind.mp h
    obtain ⟨hmem, rfl, hfam, rfl⟩ := MemberService.require_returns.mp h₁
    obtain ⟨m', h₃, -⟩ := Tx.returns_bind_pure.mp h₂
    exact hpatch (.member body) h₃ hmem (hnames hfam) rfl
  | deleteMember memberId =>
    obtain ⟨_, h, -⟩ := Tx.returns_bind_pure.mp h
    obtain ⟨m, s₁, h₁, h₂⟩ := Tx.returns_bind.mp h
    obtain ⟨hmem, rfl, hfam, rfl⟩ := MemberService.require_returns.mp h₁
    rcases Tx.returns_ite.mp h₂ with ⟨-, h₃⟩ | ⟨hprimary, h₃⟩
    · exact absurd h₃ Tx.returns_raise
    · refine delete_accounts h₃ htook (fun r hr hid => ?_) (fun _ r _ hid => ?_) (by simp)
      · obtain rfl : r = m := s₁.working.consistent.eq_of_id (T := .familyMember) hr hmem hid
        exact .member hfam (Bool.eq_false_iff.mpr hprimary)
      · exact hid ▸ .memberProfile f r
  | createInvite createdByMemberId body =>
    obtain ⟨a, h, -⟩ := Tx.returns_bind_pure.mp h
    obtain ⟨expiresAt, s₁, h₁, h₂⟩ := Tx.returns_bind.mp h
    obtain ⟨-, rfl⟩ := Tx.returns_lift.mp h₁
    obtain ⟨i, h₃, -⟩ := Tx.returns_bind_pure.mp h₂
    refine add_accounts h₃ htook (fun a ha => ?_) rfl rfl
    cases ha
    exact .invite rfl rfl rfl rfl
  | createChild body =>
    obtain ⟨a, h, -⟩ := Tx.returns_bind_pure.mp h
    obtain ⟨c, s₁, h₁, h₂⟩ := Tx.returns_bind.mp h
    obtain ⟨p, h₃, -⟩ := Tx.returns_bind_pure.mp h₂
    refine (add_accounts h₁ htook (fun a ha => ?_) rfl rfl).trans
      (add_accounts h₃ htook (fun a _ => .seed f body a) rfl rfl)
    cases ha
    exact .child body rfl
  | updateChild childId body =>
    obtain ⟨a, h, -⟩ := Tx.returns_bind_pure.mp h
    obtain ⟨c, s₁, h₁, h₂⟩ := Tx.returns_bind.mp h
    obtain ⟨hmem, rfl, hfam, rfl⟩ := ChildService.require_returns.mp h₁
    exact hpatch (.child body) h₂ hmem (hnames hfam) rfl
  | deleteChild childId =>
    obtain ⟨_, h, -⟩ := Tx.returns_bind_pure.mp h
    obtain ⟨c, s₁, h₁, h₂⟩ := Tx.returns_bind.mp h
    obtain ⟨hmem, rfl, hfam, rfl⟩ := ChildService.require_returns.mp h₁
    refine delete_accounts h₂ htook (fun r hr hid => ?_) (by simp) (fun _ r _ hid => ?_)
    · obtain rfl : r = c := s₁.working.consistent.eq_of_id (T := .childProfile) hr hmem hid
      exact .child hfam
    · exact hid ▸ .readingProfile f r
  | upsertReadingProfile childId body =>
    obtain ⟨a, h, -⟩ := Tx.returns_bind_pure.mp h
    obtain ⟨c, s₁, h₁, h₂⟩ := Tx.returns_bind.mp h
    obtain ⟨-, -, -, rfl⟩ := ChildService.require_returns.mp h₁
    rw [ChildReadingProfileRepository.getByChild_eq_read] at h₂
    obtain ⟨found, s₂, h₃, h₄⟩ := Tx.returns_bind.mp h₂
    obtain ⟨hfound, rfl⟩ := Tx.returns_read.mp h₃
    cases found with
    | none =>
      refine add_accounts h₄ htook (fun a ha => .readingProfile f body ?_) rfl rfl
      exact (congrArg ChildReadingProfile.childId (TableName.keeps_coerce ha).fixed :)
    | some profile =>
      obtain ⟨hmem, rfl⟩ := Store.find_readingProfile.mp hfound.symm
      exact hpatch (.readingProfile body) h₄ hmem (fun _ hg => (by cases hg)) rfl
  | addReadingHistory childId body =>
    obtain ⟨a, h, -⟩ := Tx.returns_bind_pure.mp h
    obtain ⟨c, s₁, h₁, h₂⟩ := Tx.returns_bind.mp h
    obtain ⟨-, -, -, rfl⟩ := ChildService.require_returns.mp h₁
    refine add_accounts h₂ htook (fun a ha => ?_) rfl rfl
    cases ha
    exact .entry f body rfl
  | updateReadingHistory childId entryId body =>
    obtain ⟨a, h, -⟩ := Tx.returns_bind_pure.mp h
    obtain ⟨c, s₁, h₁, h₂⟩ := Tx.returns_bind.mp h
    obtain ⟨-, -, -, rfl⟩ := ChildService.require_returns.mp h₁
    obtain ⟨e, s₂, h₃, h₄⟩ := Tx.returns_bind.mp h₂
    obtain ⟨hmem, rfl, rfl, rfl⟩ := ChildService.requireEntry_returns.mp h₃
    exact hpatch (.entry body) h₄ hmem (fun _ hg => (by cases hg)) rfl
  | deleteReadingHistory childId entryId =>
    obtain ⟨_, h, -⟩ := Tx.returns_bind_pure.mp h
    obtain ⟨c, s₁, h₁, h₂⟩ := Tx.returns_bind.mp h
    obtain ⟨-, -, -, rfl⟩ := ChildService.require_returns.mp h₁
    obtain ⟨e, s₂, h₃, h₄⟩ := Tx.returns_bind.mp h₂
    obtain ⟨hmem, rfl, rfl, rfl⟩ := ChildService.requireEntry_returns.mp h₃
    refine delete_accounts h₄ htook (fun r hr hid => ?_) (by simp) (by simp)
    obtain rfl : r = e := s₂.working.consistent.eq_of_id (T := .readingHistory) hr hmem hid
    exact .entry f r
  | createPolicy body =>
    obtain ⟨a, h, -⟩ := Tx.returns_bind_pure.mp h
    obtain ⟨c, s₁, h₁, h₂⟩ := Tx.returns_bind.mp h
    obtain ⟨rfl, -⟩ := PolicyService.resolveChild_returns h₁
    refine add_accounts h₂ htook (fun a ha => ?_) rfl rfl
    cases ha
    exact .policy body rfl
  | updatePolicy policyId body =>
    obtain ⟨a, h, -⟩ := Tx.returns_bind_pure.mp h
    obtain ⟨p, s₁, h₁, h₂⟩ := Tx.returns_bind.mp h
    obtain ⟨hmem, rfl, hfam, rfl⟩ := PolicyService.require_returns.mp h₁
    exact hpatch (.policy body) h₂ hmem (hnames hfam) rfl
  | deletePolicy policyId =>
    obtain ⟨_, h, -⟩ := Tx.returns_bind_pure.mp h
    obtain ⟨p, s₁, h₁, h₂⟩ := Tx.returns_bind.mp h
    obtain ⟨hmem, rfl, hfam, rfl⟩ := PolicyService.require_returns.mp h₁
    refine delete_accounts h₂ htook (fun r hr hid => ?_) (by simp) (by simp)
    obtain rfl : r = p := s₁.working.consistent.eq_of_id (T := .familyReadingPolicy) hr hmem hid
    exact .policy hfam
  | _ => exact hreads rfl

/-! ## The two steps of a request -/

/-- A loop of statements, one for each element of a list. -/
theorem Tx.Preserves.forM_of_mem {σ ε β : Type} {I : σ → Prop} {g : β → Tx σ ε PUnit}
    {bs : List β} (hg : ∀ b ∈ bs, Preserves I (g b)) :
    Preserves I (ForM.forM bs g : Tx σ ε PUnit) := by
  induction bs with
  | nil => exact Preserves.of_reads (Reads.pure _)
  | cons b bs ih =>
    rw [List.forM_cons]
    exact (hg b List.mem_cons_self).bind (fun _ => ih (fun b' hb' =>
      hg b' (List.mem_cons_of_mem b hb')))

/-- **What revoking rows is accounted for by**, whatever has become of them. -/
theorem RefreshTokenRepository.revokeRows_accounts
    {o : Completed Env Request Flight Exn Response} (htook : o.Took) (env : Env)
    {rows : List RefreshToken} (hupd : ∀ r : RefreshToken, r.id ∈ rows.map (·.id) →
      Source.Updates o.source .refreshToken r) :
    Tx.Preserves (fun d₁ => o.Accounts d d₁) (revokeRows env rows) := by
  refine (Tx.Preserves.forM_of_mem (fun row hrow => ?_)).bind
    (fun _ => Tx.Preserves.of_reads (Tx.Reads.pure _))
  refine (preserves_update (T := .refreshToken) (fun d₁ d₂ old a hold hw hd₂ h => ?_)).bind
    (fun _ => Tx.Preserves.of_reads (Tx.Reads.pure _))
  obtain ⟨hmem, hid⟩ := Store.find_eq_some_iff.mp hold
  have hk : TableName.Keeps .refreshToken old { old with revokedAt := some env.now } :=
    old.keeps_revoke env.now
  exact h.trans (.of_replace htook (hupd old (List.mem_map.mpr ⟨row, hrow, hid.symm⟩))
    (hk.written hw) hmem hd₂)

namespace AuthService

variable {o : Completed Env Request Flight Exn Response} {s s' : Session Database}
  {a : IssuedTokens} {f : UUID}

/-- A session is opened. -/
theorem issueTokens_accounts {m : UUID} (h : (issueTokens P o.env f m).Returns s a s')
    (htook : o.Took)
    (hins : ∀ r : RefreshToken, r.Live → Source.Inserts o.source .refreshToken r) :
    o.Accounts s.working s'.working := by
  obtain ⟨_, _, -, -, -, d, hd, rfl⟩ := issueTokens_returns.mp h
  exact .of_insert htook (hins _ ⟨rfl, rfl⟩) rfl rfl hd

/-- A member is registered, and a session opened. -/
theorem register_accounts {body : SignupRequest} {role : String} {isPrimary : Bool}
    {invite : Option FamilyInvite} (h : (register P o.env body f role isPrimary).Returns s a s')
    (htook : o.Took) (hsrc : o.source = .inr (.signup body invite))
    (hprimary : isPrimary = invite.isNone) : o.Accounts s.working s'.working := by
  obtain ⟨d₁, hd₁, hissue⟩ := register_returns.mp h
  have hmember : o.Accounts s.working d₁ :=
    .of_insert htook (hsrc ▸ .member rfl hprimary) rfl rfl hd₁
  exact hmember.trans (issueTokens_accounts hissue htook
    (fun _ hr => hsrc ▸ .signup body invite hr))

/-- A signup founds a family or redeems its invite, and registers a member. -/
theorem finishSignup_accounts {body : SignupRequest} {invite : Option FamilyInvite}
    (h : (finishSignup P o.env body invite).Returns s a s') (htook : o.Took)
    (hsrc : o.source = .inr (.signup body invite)) : o.Accounts s.working s'.working := by
  cases invite with
  | none =>
    obtain ⟨d₁, hd₁, hreg⟩ := finishSignup_none_returns.mp h
    have hfamily : o.Accounts s.working d₁ :=
      .of_insert (T := .family) htook (hsrc ▸ .family body _) rfl rfl hd₁
    exact hfamily.trans (register_accounts hreg htook hsrc rfl)
  | some invite =>
    obtain ⟨cur, hcur, d₁, hd₁, hreg⟩ := finishSignup_some_returns.mp h
    obtain ⟨hmem, hid⟩ := Store.find_eq_some_iff.mp hcur
    have haccept : o.Accounts s.working d₁ :=
      .of_replace (T := .familyInvite) htook (hsrc ▸ .accept body hid) (cur.keeps_accept o.env.now)
        hmem hd₁
    exact haccept.trans (register_accounts hreg htook hsrc rfl)

end AuthService

/-- **The first step of a request** that completes it accounts for what it
makes of the database. -/
theorem first_accounts {req : Request} {o : Completed Env Request Flight Exn Response}
    (h : (concurrentService P).first env req d = (d', .inr o)) : o.Accounts d d' := by
  obtain ⟨henv, hsrc, hs⟩ := TwoStep.ofPhases_first_done h
  obtain ⟨env', src, outcome⟩ := o
  obtain rfl : env' = env := henv
  obtain rfl : src = .inl req := hsrc
  cases outcome with
  | error e =>
    have hclean : Tx.Clean Exn.handled (req.begin P env') := Request.clean_begin rfl req
    rw [hclean.serve hs id]
    exact .refl _
  | ok response =>
    obtain ⟨s', hret, rfl⟩ := Tx.serve_ok_iff.mp hs
    rcases Request.begin_done hret with rfl | ⟨body, a, rfl, hl⟩ | ⟨f, op, rfl, hone, hop⟩
    · exact .refl _
    · obtain ⟨m, -, hissue⟩ := AuthService.login_returns hl
      exact AuthService.issueTokens_accounts (o := ⟨env', _, _⟩) hissue (Or.inl rfl)
        (fun _ hr => .login body hr)
    · exact FamilyOp.run_accounts hone hop

namespace Flight

/-- **A second step that fails** leaves the database as it was, unless it
reports reuse. -/
theorem finish_failed {flight : Flight} {e : Exn} (he : e ≠ .tokenReuse)
    (h : Tx.serve Exn.handled (flight.finish P env) d = (.error e, d')) : d' = d :=
  (undoes_finish Exn.handledButReuse rfl flight (fun _ => rfl)).clean.serve h
    (fun hh => by simp [Exn.handledButReuse, hh, he])

/-- **A revocation** accounts for the rows it had selected. -/
theorem finish_revocation_accounts {flight : Flight} {r : Except Exn Response}
    (hrev : flight.revocation ≠ none)
    (h : Tx.serve Exn.handled (flight.finish P env) d = (r, d')) :
    Completed.Accounts ⟨env, .inr flight, r⟩ d d' := by
  by_cases htook : Completed.Took ⟨env, .inr flight, r⟩
  · have hrevoke : Tx.Preserves (fun d₁ => Completed.Accounts ⟨env, .inr flight, r⟩ d d₁)
        (flight.finish P env) := by
      cases flight with
      | reuse now sessionId rows =>
        exact (RefreshTokenRepository.revokeRows_accounts htook _
          (fun _ => .reuse now sessionId)).bind
          (fun _ => Tx.Preserves.of_reads (Tx.Reads.raise _))
      | logout now sessionId rows =>
        exact (RefreshTokenRepository.revokeRows_accounts htook _
          (fun _ => .logout now sessionId)).bind
          (fun _ => Tx.Preserves.of_reads (Tx.Reads.pure _))
      | _ => exact absurd rfl hrev
    have hd : (Tx.serve Exn.handled (flight.finish P env) d).2 = d' := congrArg Prod.snd h
    rw [← hd]
    exact hrevoke.serve (.refl d)
  · cases r with
    | ok response => exact absurd (Or.inl rfl) htook
    | error e =>
      -- a row it had selected is not there any more, and all is rolled back
      rw [finish_failed (fun he => htook (Or.inr (congrArg Except.error he))) h]
      exact .refl _

/-- **The second step of a request accounts for what it makes of the
database.** -/
theorem finish_accounts {flight : Flight} {r : Except Exn Response}
    (h : Tx.serve Exn.handled (flight.finish P env) d = (r, d')) :
    Completed.Accounts ⟨env, .inr flight, r⟩ d d' := by
  by_cases hrev : flight.revocation = none
  · cases r with
    | error e =>
      rw [finish_error hrev h]
      exact .refl _
    | ok response =>
      have htook : Completed.Took ⟨env, .inr flight, .ok response⟩ := Or.inl rfl
      cases flight with
      | reuse now sessionId rows => cases hrev
      | logout now sessionId rows => cases hrev
      | exchange row =>
        obtain ⟨cur, exp, hcur, hrows⟩ := finish_exchange h
        obtain ⟨hmem, hid⟩ := Store.find_eq_some_iff.mp hcur
        let d₁ : Database := ⟨_, d.consistent.replace hmem (cur.consume_sameKeys env.now)⟩
        have hused : Completed.Accounts ⟨env, .inr (.exchange row), .ok response⟩ d d₁ :=
          .of_replace (T := .refreshToken) htook (.exchange hid) (cur.keeps_consume env.now) hmem
            rfl
        exact hused.trans (.of_insert htook (.exchange row ⟨rfl, rfl⟩) rfl rfl hrows)
      | signup body invite =>
        obtain ⟨a, s', -, rfl, hret⟩ := finish_signup h
        exact AuthService.finishSignup_accounts (o := ⟨env, _, _⟩) hret htook rfl
      | revokeInvite invite =>
        obtain ⟨s', hret, rfl⟩ := Tx.serve_ok_iff.mp h
        obtain ⟨_, h₁, -⟩ := Tx.returns_bind_pure.mp hret
        exact delete_accounts h₁ htook (fun r _ hid => .invite hid) (by simp) (by simp)
      | createMember f body =>
        exact .of_insert htook (.createMember rfl rfl rfl) rfl rfl (finish_createMember h)
      | upsertProfile memberId body profile =>
        obtain ⟨s', hret, rfl⟩ := Tx.serve_ok_iff.mp h
        obtain ⟨a, h₁, -⟩ := Tx.returns_bind_pure.mp hret
        cases profile with
        | none =>
          refine add_accounts h₁ htook (fun a ha => .memberProfile body ?_) rfl rfl
          exact (congrArg FamilyMemberProfile.memberId (TableName.keeps_coerce ha).fixed :)
        | some profile =>
          refine update_accounts h₁ htook (fun r r' hr => ?_)
            (fun r _ hid => .memberProfile memberId body hid)
          obtain ⟨draft, -, hr⟩ := Except.bind_eq_ok_iff.mp hr
          cases hr
          exact .of_fixed rfl rfl
  · exact finish_revocation_accounts hrev h

end Flight

/-! ## Runs -/

/-- **The log of a schedule explains every row of the database**, whatever was
in flight at the same time. -/
theorem log_explains_rows (P : Platform) (c : State) (ms : List (Move Env Request)) :
    ∃ os, ((concurrentService P).system.run c ms).log = c.log ++ os ∧
      ∀ (T : TableName) (k : UUID), Explained (RowChange T) os (c.shared.find T k)
        (((concurrentService P).system.run c ms).shared.find T k) := by
  obtain ⟨os, hlog, hos⟩ := TwoStep.run_explained (M := concurrentService P)
    (E := fun o d d' => o.Accounts d d') (fun _ _ _ _ _ hf => (TwoStep.ofPhases_first_flight hf).1)
    (fun _ _ _ _ _ hf => first_accounts hf)
    (fun env flight d d' o hs => by
      obtain ⟨henv, hsrc, hserve⟩ := TwoStep.ofPhases_second hs
      obtain ⟨env', src, outcome⟩ := o
      obtain rfl : env' = env := henv
      obtain rfl : src = .inr flight := hsrc
      exact Flight.finish_accounts hserve) c ms
  exact ⟨os, hlog, fun T k => hos.map (g := fun d => d.find T k) (fun o d d' h => h T k)⟩

/-- **Nothing comes, goes or changes unaccounted for.** Of two states of a
schedule, whatever was in flight at the first and whatever is at the second:
a row that has gone was deleted by a request completed in between, a row that
has come was inserted by one, and a row that is not as it was was updated or
deleted by one – each a request for that very row. What is said once and for
all of a row is the same as long as it is there. -/
theorem row_histories (P : Platform) (c : State) (ms : List (Move Env Request)) :
    ∃ os, ((concurrentService P).system.run c ms).log = c.log ++ os ∧
      (∀ T : TableName, ∀ r ∈ c.shared.rows T,
        (∃ r' ∈ ((concurrentService P).system.run c ms).shared.rows T, T.Keeps r r') ∨
          ∃ o ∈ os, o.Took ∧ ∃ r', T.Keeps r r' ∧ Source.Deletes o.source T r') ∧
      (∀ T : TableName, ∀ r' ∈ ((concurrentService P).system.run c ms).shared.rows T,
        (∃ r ∈ c.shared.rows T, T.Keeps r r') ∨
          ∃ o ∈ os, o.Took ∧ ∃ r, T.Keeps r r' ∧ T.id r = o.env.newId T ∧
            T.createdAt r = o.env.now ∧ Source.Inserts o.source T r) ∧
      (∀ T : TableName, ∀ r ∈ c.shared.rows T,
        r ∈ ((concurrentService P).system.run c ms).shared.rows T ∨
          ∃ o ∈ os, o.Took ∧ (Source.Updates o.source T r ∨ Source.Deletes o.source T r)) := by
  obtain ⟨os, hlog, hos⟩ := log_explains_rows P c ms
  refine ⟨os, hlog, fun T r hr => ?_, fun T r' hr' => ?_, fun T r hr => ?_⟩
  · refine or_iff_not_imp_left.mpr (fun hgone => ?_)
    -- the change after which nothing keeps the row any more
    obtain ⟨o, ho, x, y, hxy, ⟨r', rfl, hk⟩, hy⟩ := (hos T (T.id r)).exists_break
      (p := fun x => ∃ r', x = some r' ∧ T.Keeps r r')
      ⟨r, Store.find_eq_some_iff.mpr ⟨hr, rfl⟩, .refl r⟩
      (fun ⟨r', hr', hk⟩ => hgone ⟨r', (Store.find_eq_some_iff.mp hr').1, hk⟩)
    cases hxy with
    | updated htook hupd hk' => exact absurd ⟨_, rfl, hk.trans hk'⟩ hy
    | deleted htook hdel => exact ⟨o, ho, htook, r', hk, hdel⟩
  · refine or_iff_not_imp_left.mpr (fun hnew => ?_)
    -- the change after which there is a row that `r'` keeps
    obtain ⟨o, ho, x, y, hxy, hx, hy⟩ := (hos T (T.id r')).exists_break
      (p := fun x => ¬ ∃ r, x = some r ∧ T.Keeps r r')
      (fun ⟨r, hr, hk⟩ => hnew ⟨r, (Store.find_eq_some_iff.mp hr).1, hk⟩)
      (not_not.mpr ⟨r', Store.find_eq_some_iff.mpr ⟨hr', rfl⟩, .refl r'⟩)
    obtain ⟨r, rfl, hk⟩ := not_not.mp hy
    cases hxy with
    | inserted htook hins hid hat => exact ⟨o, ho, htook, r, hk, hid, hat, hins⟩
    | updated htook hupd hk' => exact absurd ⟨_, rfl, hk'.trans hk⟩ hx
  · refine or_iff_not_imp_left.mpr (fun hgone => ?_)
    obtain ⟨o, ho, x, y, hxy, rfl, hy⟩ := (hos T (T.id r)).exists_break
      (p := fun x => x = some r) (Store.find_eq_some_iff.mpr ⟨hr, rfl⟩)
      (fun hr' => hgone (Store.find_eq_some_iff.mp hr').1)
    cases hxy with
    | updated htook hupd hk => exact ⟨o, ho, htook, Or.inl hupd⟩
    | deleted htook hdel => exact ⟨o, ho, htook, Or.inr hdel⟩

/-! ## What the internal face can do -/

/-- The requests of the internal face, and what they leave in flight. -/
def Source.internal : Source → Bool
  | .inl (.family _ op) => op.internal
  | .inr (.createMember _ _) | .inr (.upsertProfile _ _ _) => true
  | _ => false

namespace Source

variable {src : Source}

/-- The internal face deletes nothing. -/
theorem not_deletes_of_internal (hint : src.internal = true) {r : T.Row} :
    ¬ src.Deletes T r := by
  intro h
  cases h <;> cases hint

/-- It is not about families, invites and tokens. -/
theorem not_updates_of_internal (hint : src.internal = true)
    (hT : T = .family ∨ T = .familyInvite ∨ T = .refreshToken) {r : T.Row} :
    ¬ src.Updates T r := by
  intro h
  rcases hT with rfl | rfl | rfl
  · cases h with
    | patch p => cases p with
      | family => cases hint
  · cases h with
    | accept => cases hint
    | patch p => cases p
  · cases h with
    | patch p => cases p
    | _ => cases hint

theorem not_inserts_of_internal (hint : src.internal = true)
    (hT : T = .family ∨ T = .familyInvite ∨ T = .refreshToken) {r : T.Row} :
    ¬ src.Inserts T r := by
  intro h
  rcases hT with rfl | rfl | rfl <;> cases h <;> cases hint

/-- A member it adds is not the primary one. -/
theorem isPrimaryUser_of_internal (hint : src.internal = true) {r : FamilyMember}
    (h : src.Inserts .familyMember r) : r.isPrimaryUser = false := by
  cases h with
  | createMember _ _ hprimary => exact hprimary
  | member => cases hint

end Source

/-- **What the service token can do**: while no request completes but those of
the internal face, families, invites and tokens stay as they are, nothing is
deleted, no member's family, email, password or mark changes, and no primary
member is added. -/
theorem internal_least_privilege (P : Platform) (c : State) (ms : List (Move Env Request))
    (hint : ∀ o ∈ ((concurrentService P).system.run c ms).log.drop c.log.length,
      Source.internal o.source = true) :
    (∀ T : TableName, T = .family ∨ T = .familyInvite ∨ T = .refreshToken → ∀ r : T.Row,
      r ∈ ((concurrentService P).system.run c ms).shared.rows T ↔ r ∈ c.shared.rows T) ∧
    (∀ T : TableName, ∀ r ∈ c.shared.rows T,
      ∃ r' ∈ ((concurrentService P).system.run c ms).shared.rows T, T.Keeps r r') ∧
    ∀ m ∈ ((concurrentService P).system.run c ms).shared.members,
      (∃ old ∈ c.shared.members, m.Keeps old) ∨ m.isPrimaryUser = false := by
  obtain ⟨os, hlog, hgone, hcome, hchanged⟩ := row_histories P c ms
  have hos : ∀ o ∈ os, Source.internal o.source = true := by
    rw [hlog, List.drop_left] at hint
    exact hint
  have hstays : ∀ T : TableName, ∀ r ∈ c.shared.rows T,
      ∃ r' ∈ ((concurrentService P).system.run c ms).shared.rows T, T.Keeps r r' := by
    intro T r hr
    refine (hgone T r hr).resolve_right ?_
    rintro ⟨o, ho, -, r', -, hdel⟩
    exact Source.not_deletes_of_internal (hos o ho) hdel
  have hsame : ∀ T : TableName, T = .family ∨ T = .familyInvite ∨ T = .refreshToken →
      ∀ r ∈ c.shared.rows T, r ∈ ((concurrentService P).system.run c ms).shared.rows T := by
    intro T hT r hr
    refine (hchanged T r hr).resolve_right ?_
    rintro ⟨o, ho, -, hupd | hdel⟩
    · exact Source.not_updates_of_internal (hos o ho) hT hupd
    · exact Source.not_deletes_of_internal (hos o ho) hdel
  refine ⟨fun T hT r => ⟨fun hr => ?_, hsame T hT r⟩, hstays, fun m hm => ?_⟩
  · rcases hcome T r hr with ⟨old, hold, hk⟩ | ⟨o, ho, -, _, -, -, -, hins⟩
    · rwa [Schema.Consistent.eq_of_id (Store.consistent _) hr (hsame T hT old hold) hk.id_eq]
    · exact absurd hins (Source.not_inserts_of_internal (hos o ho) hT)
  · rcases hcome .familyMember m hm with ⟨old, hold, hk⟩ | ⟨o, ho, -, r, hk, -, -, hins⟩
    · exact Or.inl ⟨old, hold, hk.member⟩
    · exact Or.inr (hk.member.isPrimaryUser.trans
        (Source.isPrimaryUser_of_internal (hos o ho) hins))

/-- Through the internal face a member is added to the family of one who has
signed up. -/
theorem internal_least_privilege_member :
    let M := concurrentService (Sample.platform 2592000)
    let c := M.system.run idle ((Sample.creates none).take 2)
    ∃ m ∈ (M.system.run c ((Sample.creates none).drop 2)).shared.members,
      TableName.Keeps .familyMember Sample.ada m :=
  (internal_least_privilege (Sample.platform 2592000)
    ((concurrentService (Sample.platform 2592000)).system.run idle ((Sample.creates none).take 2))
    ((Sample.creates none).drop 2) (by decide +kernel)).2.1 .familyMember Sample.ada
    (by decide +kernel)
