import Accounts.Repositories
import Accounts.Security

/-!
# The services

Every service method as the body of a request. A method that reads and
then writes on the strength of what it read is given with its second half
under a name of its own – `exchange`, `accept`, `register`, … – because
concurrent requests are interleaved between the two.

The look-up of a row that has to be there is `Tx.orRaise`: the row, or
`NotFoundError`.
-/

open Repository

/-! ## Refresh tokens -/

namespace RefreshTokenService

variable (P : Platform) (env : Env)

/-- The row `issue` inserts. -/
def newToken (familyId familyMemberId sessionId : UUID) (expiresAt : Datetime) :
    RefreshToken where
  id := env.newId .refreshToken
  familyId
  familyMemberId
  sessionId
  tokenHash := RefreshTokenCodec.hash P env.token
  expiresAt := some expiresAt
  consumedAt := none
  revokedAt := none
  createdAt := env.now

/-- `issue`: without a session a new lineage begins. -/
def issue (familyId familyMemberId : UUID) (sessionId : Option UUID) : Op String := do
  let expiresAt ← Tx.orRaise .overflowError (env.now.plusSeconds P.settings.refreshTtlSeconds)
  let _ ← add .refreshToken
    (newToken P env familyId familyMemberId (sessionId.getD env.sessionId) expiresAt)
  return env.token

/-- `_is_expired`. -/
def isExpired (row : RefreshToken) : Bool := row.expiresAt.any (fun e => e ≤ env.now)

/-- The second half of `rotate`: consume the row, issue its successor. -/
def exchange (row : RefreshToken) : Op (String × String × String) := do
  let row ← update env .refreshToken row.id (fun r => .ok { r with consumedAt := some env.now })
  let newRaw ← issue P env row.familyId row.familyMemberId (some row.sessionId)
  return (newRaw, row.familyId.str, row.familyMemberId.str)

/-- `rotate`. -/
def rotate (raw : String) : Op (String × String × String) := do
  let row ← RefreshTokenRepository.getByTokenHash (RefreshTokenCodec.hash P raw)
  let row ← Tx.orRaise (.service (.unauthorized "invalid refresh token")) row
  if row.consumedAt.isSome || row.revokedAt.isSome then
    let _ ← RefreshTokenRepository.revokeSession env row.sessionId
    Tx.raise .tokenReuse
  else if isExpired env row then
    Tx.raise (.service (.unauthorized "refresh token expired"))
  else
    exchange P env row

/-- `revoke`: an unknown token is no error. -/
def revoke (raw : String) : Op Unit := do
  match ← RefreshTokenRepository.getByTokenHash (RefreshTokenCodec.hash P raw) with
  | none => return
  | some row =>
    let _ ← RefreshTokenRepository.revokeSession env row.sessionId

end RefreshTokenService

/-! ## Invites -/

namespace InviteService

variable (P : Platform) (env : Env)

/-- The expiry of an invite: `now + timedelta(hours=ttl_hours)`. -/
def expiry (body : InviteCreate) : Except Exn (Option Datetime) :=
  match body.ttlHours with
  | none => .ok none
  | some hours =>
    match env.now.plusSeconds (hours * 3600) with
    | none => .error .overflowError
    | some t => .ok (some t)

/-- The row `create` inserts. A code that `generate` has drawn has a digest:
there are no surrogates in it. -/
def newInvite (familyId createdByMemberId : UUID) (body : InviteCreate)
    (expiresAt : Option Datetime) : FamilyInvite where
  id := env.newId .familyInvite
  familyId
  codeHash := P.sha256 env.code
  role := body.role
  createdByMemberId := some createdByMemberId
  expiresAt
  acceptedAt := none
  createdAt := env.now
  updatedAt := env.now

/-- `create`. -/
def create (familyId createdByMemberId : UUID) (body : InviteCreate) : Op InviteResponse := do
  let expiresAt ← Tx.lift (expiry env body)
  let invite ← add .familyInvite (newInvite P env familyId createdByMemberId body expiresAt)
  return {
    id := UUID.str invite.id
    code := env.code
    role := invite.role
    familyId := familyId.str
    expiresAt := invite.expiresAt }

/-- `list`. -/
def list (familyId : UUID) : Op (List InviteDump) := do
  let rows ← FamilyInviteRepository.listActiveForFamily env familyId
  return rows.map FamilyInvite.dump

/-- `revoke`. -/
def revoke (familyId inviteId : UUID) : Op Unit := do
  let invite ← Tx.orRaise .notFound (← FamilyInviteRepository.getInFamily inviteId familyId)
  delete .familyInvite invite.id

/-- The second half of `redeem`: mark the invite accepted. -/
def accept (invite : FamilyInvite) : Op (UUID × String) := do
  let invite ← update env .familyInvite invite.id (fun r =>
    .ok { r with acceptedAt := some env.now })
  return (invite.familyId, invite.role)

/-- The first half of `redeem`: the active invite with the code. -/
def findActive (code : Py.Text) : Op FamilyInvite := do
  let codeHash ← Tx.lift (InviteCodec.hash P code)
  let invite ← FamilyInviteRepository.getActiveByCodeHash env codeHash
  Tx.orRaise (.service (.badRequest "invalid or expired invite code")) invite

/-- `redeem`. -/
def redeem (code : Py.Text) : Op (UUID × String) := do
  let invite ← findActive P env code
  accept env invite

end InviteService

/-! ## Signup, login, refresh, logout -/

/-- `IssuedTokens`. -/
structure IssuedTokens where
  /-- The access token. -/
  accessToken : String
  /-- The family it names. -/
  familyId : String
  /-- The member it names. -/
  familyMemberId : String
  /-- The raw refresh token. -/
  refreshToken : String
deriving DecidableEq

namespace AuthService

variable (P : Platform) (env : Env)

/-- `_issue_tokens`. -/
def issueTokens (familyId memberId : UUID) : Op IssuedTokens := do
  let access ← Tx.lift (TokenService.issue P env familyId.str memberId.str)
  let refresh ← RefreshTokenService.issue P env familyId memberId none
  return ⟨access, familyId.str, memberId.str, refresh⟩

/-- `except IntegrityError: raise ConflictError("email already registered")`. -/
def integrityAsConflict : Exn → Exn
  | .integrityError => .emailRegistered
  | e => e

/-- The member `signup` inserts. -/
def newMember (body : SignupRequest) (familyId : UUID) (role : String) (isPrimary : Bool) :
    FamilyMember where
  id := env.newId .familyMember
  familyId
  displayName := body.displayName
  gender := none
  birthDate := none
  role
  isPrimaryUser := isPrimary
  languagePreference := some (body.languagePreference.getD "zh-CN")
  email := some body.email
  passwordHash := some (PasswordHasher.hash P env.salt body.password)
  createdAt := env.now
  updatedAt := env.now

/-- The last part of `signup`: insert the member, issue tokens. -/
def register (body : SignupRequest) (familyId : UUID) (role : String) (isPrimary : Bool) :
    Op IssuedTokens := do
  let member ← Tx.mapError integrityAsConflict
    (add .familyMember (newMember P env body familyId role isPrimary))
  issueTokens P env familyId (FamilyMember.id member)

/-- The family a signup without an invite inserts. -/
def newFamily (body : SignupRequest) : Family where
  id := env.newId .family
  familyName := body.familyName
  defaultLanguage := some (Py.textOr body.languagePreference "en-US")
  createdAt := env.now
  updatedAt := env.now

/-- A signup without an invite creates a family. -/
def foundFamily (body : SignupRequest) : Op Family := add .family (newFamily env body)

/-- `signup`. -/
def signup (body : SignupRequest) : Op IssuedTokens := do
  if (← FamilyMemberRepository.getByEmail body.email).isSome then
    Tx.raise .emailRegistered
  else
    match body.inviteCode with
    | some code => do
      let (familyId, role) ← InviteService.redeem P env code
      register P env body familyId role false
    | none => do
      let family ← foundFamily env body
      register P env body family.id body.role true

/-- `member.password_hash`, a `str` or `None`. -/
def storedHash (member : FamilyMember) : Option Py.Text :=
  member.passwordHash.map Py.Text.ofString

/-- `login`. Without a member nothing is verified. -/
def login (body : LoginRequest) : Op IssuedTokens := do
  let member ← FamilyMemberRepository.getByEmail body.email
  match member with
  | none => Tx.raise (.service (.unauthorized "invalid credentials"))
  | some member =>
    if ← Tx.lift (PasswordHasher.verify P body.password (storedHash member)) then
      issueTokens P env member.familyId member.id
    else
      Tx.raise (.service (.unauthorized "invalid credentials"))

/-- `refresh`. -/
def refresh (raw : String) : Op IssuedTokens := do
  let (newRefresh, familyId, memberId) ← RefreshTokenService.rotate P env raw
  let access ← Tx.lift (TokenService.issue P env familyId memberId)
  return ⟨access, familyId, memberId, newRefresh⟩

/-- `logout`. -/
def logout (raw : String) : Op Unit := RefreshTokenService.revoke P env raw

end AuthService

/-! ## The family -/

namespace FamilyService

variable (env : Env)

/-- `get`. -/
def get (familyId : UUID) : Op Family := do
  Tx.orRaise .notFound (← FamilyRepository.get familyId)

/-- `update`. -/
def update (familyId : UUID) (body : FamilyUpdate) : Op Family := do
  let family ← Tx.orRaise .notFound (← FamilyRepository.get familyId)
  Repository.update env .family family.id (fun r => Family.applyChanges r body)

end FamilyService

/-! ## Members -/

namespace MemberService

variable (P : Platform) (env : Env)

/-- `list`. -/
def list (familyId : UUID) : Op (List MemberDump) := do
  let rows ← FamilyMemberRepository.listByFamily familyId
  return rows.map FamilyMember.dump

/-- The row `create` inserts. -/
def newMember (familyId : UUID) (body : MemberCreate) : FamilyMember where
  id := env.newId .familyMember
  familyId
  displayName := body.displayName
  gender := body.gender
  birthDate := body.birthDate
  role := body.role
  isPrimaryUser := false
  languagePreference := some (body.languagePreference.getD "zh-CN")
  email := body.email
  passwordHash := (body.password.filter (·.text ≠ "")).map (PasswordHasher.hash P env.salt)
  createdAt := env.now
  updatedAt := env.now

/-- The second half of `create`: insert the member. -/
def insert (familyId : UUID) (body : MemberCreate) : Op MemberDump := do
  let member ← Tx.mapError AuthService.integrityAsConflict
    (add .familyMember (newMember P env familyId body))
  return FamilyMember.dump member

/-- The first half of `create`: the email is not taken. -/
def checkEmail (body : MemberCreate) : Op Unit :=
  match body.email with
  | none => return
  | some email => do
    if (← FamilyMemberRepository.getByEmail email).isSome then
      Tx.raise .emailRegistered

/-- `create`. -/
def create (familyId : UUID) (body : MemberCreate) : Op MemberDump := do
  checkEmail body
  insert P env familyId body

/-- The member, if it belongs to the family. -/
def require (familyId memberId : UUID) : Op FamilyMember := do
  Tx.orRaise .notFound (← FamilyMemberRepository.getInFamily memberId familyId)

/-- `get`. -/
def get (familyId memberId : UUID) : Op MemberDump := do
  let member ← require familyId memberId
  return member.dump

/-- `update`. -/
def update (familyId memberId : UUID) (body : MemberUpdate) : Op MemberDump := do
  let member ← require familyId memberId
  let member ← Repository.update env .familyMember member.id (fun r =>
    FamilyMember.applyChanges r body)
  return FamilyMember.dump member

/-- `delete`. -/
def delete (familyId memberId : UUID) : Op Unit := do
  let member ← require familyId memberId
  if member.isPrimaryUser then
    Tx.raise (.service (.conflict "cannot delete the primary member"))
  else
    Repository.delete .familyMember member.id

/-- `get_profile`. -/
def getProfile (familyId memberId : UUID) : Op FamilyMemberProfile := do
  let _ ← require familyId memberId
  Tx.orRaise .notFound (← FamilyMemberProfileRepository.getByMember memberId)

/-- The row a first `upsert_profile` inserts. -/
def newProfile (memberId : UUID) (body : MemberProfileUpsert) : FamilyMemberProfile where
  id := env.newId .familyMemberProfile
  memberId
  occupationBackground := body.occupationBackground.given
  educationBackground := body.educationBackground.given
  communicationStyle := body.communicationStyle.given
  concerns := body.concerns.given.getD []
  source := some (body.source.given.getD "parent_report")
  confidence := body.confidence.given
  observedAt := none
  createdAt := env.now
  updatedAt := env.now

/-- The first half of `upsert_profile`: the profile there is. -/
def findProfile (familyId memberId : UUID) : Op (Option FamilyMemberProfile) := do
  let _ ← require familyId memberId
  FamilyMemberProfileRepository.getByMember memberId

/-- The columns in which `draft` differs from the profile it was made of,
set on the row as it is now: the ORM writes no other column. -/
def rebase (loaded draft r : FamilyMemberProfile) : FamilyMemberProfile :=
  { r with
    occupationBackground :=
      if draft.occupationBackground = loaded.occupationBackground then r.occupationBackground
      else draft.occupationBackground
    educationBackground :=
      if draft.educationBackground = loaded.educationBackground then r.educationBackground
      else draft.educationBackground
    communicationStyle :=
      if draft.communicationStyle = loaded.communicationStyle then r.communicationStyle
      else draft.communicationStyle
    concerns := if draft.concerns = loaded.concerns then r.concerns else draft.concerns
    source := if draft.source = loaded.source then r.source else draft.source
    confidence := if draft.confidence = loaded.confidence then r.confidence else draft.confidence }

/-- The second half of `upsert_profile`: insert, or update what was
found. -/
def putProfile (memberId : UUID) (body : MemberProfileUpsert)
    (profile : Option FamilyMemberProfile) : Op FamilyMemberProfile :=
  match profile with
  | none => add .familyMemberProfile (newProfile env memberId body)
  | some profile => Repository.update env .familyMemberProfile profile.id (fun r => do
      let draft ← profile.applyChanges body
      return rebase profile draft r)

/-- `upsert_profile`. -/
def upsertProfile (familyId memberId : UUID) (body : MemberProfileUpsert) :
    Op FamilyMemberProfile := do
  let profile ← findProfile familyId memberId
  putProfile env memberId body profile

end MemberService

/-! ## Children -/

namespace ChildService

variable (env : Env)

/-- `list`. -/
def list (familyId : UUID) : Op (List ChildProfile) :=
  ChildProfileRepository.listByFamily familyId

/-- The reading profile of a child, with the values given and the defaults
of its columns elsewhere. -/
def newReadingProfile (childId : UUID) (body : ReadingProfileUpsert) : ChildReadingProfile where
  id := env.newId .childReadingProfile
  childId
  readingLevelNote := body.readingLevelNote.given
  cefrLevel := body.cefrLevel.given
  lexile := body.lexile.given
  arLevel := body.arLevel.given
  currentStage := body.currentStage.given
  independentReading := body.independentReading.given
  needsDictionary := body.needsDictionary.given
  canReadChapterBooks := body.canReadChapterBooks.given
  canHandleOldLanguage := body.canHandleOldLanguage.given
  interests := body.interests.given.getD []
  preferredGenres := body.preferredGenres.given.getD []
  dislikedGenres := body.dislikedGenres.given.getD []
  likedThemes := body.likedThemes.given.getD []
  dislikedThemes := body.dislikedThemes.given.getD []
  preferredTone := body.preferredTone.given.getD []
  avoidTopics := body.avoidTopics.given.getD []
  summary := body.summary.given
  confidence := none
  source := some "parent_report"
  observedAt := none
  createdAt := env.now
  updatedAt := env.now

/-- The child a `create` inserts. -/
def newChild (familyId : UUID) (body : ChildCreate) : ChildProfile where
  id := env.newId .childProfile
  familyId
  displayName := body.displayName
  aliases := body.aliases
  gender := body.gender
  birthDate := body.birthDate
  grade := body.grade
  schoolSystem := body.schoolSystem
  countryOrCurriculum := body.countryOrCurriculum
  primaryLanguage := body.primaryLanguage
  readingLanguage := some (body.readingLanguage.getD "English")
  notes := body.notes
  createdAt := env.now
  updatedAt := env.now

/-- A body that sets nothing. -/
def emptyReadingProfile : ReadingProfileUpsert where
  readingLevelNote := none
  cefrLevel := none
  lexile := none
  arLevel := none
  currentStage := none
  independentReading := none
  needsDictionary := none
  canReadChapterBooks := none
  canHandleOldLanguage := none
  interests := none
  preferredGenres := none
  dislikedGenres := none
  likedThemes := none
  dislikedThemes := none
  preferredTone := none
  avoidTopics := none
  summary := none

/-- `create`: the child, and an empty reading profile. -/
def create (familyId : UUID) (body : ChildCreate) : Op ChildProfile := do
  let child ← add .childProfile (newChild env familyId body)
  let _ ← add .childReadingProfile
    (newReadingProfile env (ChildProfile.id child) emptyReadingProfile)
  return child

/-- `_require_child`, and the look-up every other method begins with. -/
def require (familyId childId : UUID) : Op ChildProfile := do
  Tx.orRaise .notFound (← ChildProfileRepository.getInFamily childId familyId)

/-- `get`. -/
def get (familyId childId : UUID) : Op ChildProfile := require familyId childId

/-- `update`. -/
def update (familyId childId : UUID) (body : ChildUpdate) : Op ChildProfile := do
  let child ← require familyId childId
  Repository.update env .childProfile child.id (fun r => ChildProfile.applyChanges r body)

/-- `delete`. -/
def delete (familyId childId : UUID) : Op Unit := do
  let child ← require familyId childId
  Repository.delete .childProfile child.id

/-- `get_reading_profile`. -/
def getReadingProfile (familyId childId : UUID) : Op ChildReadingProfile := do
  let _ ← require familyId childId
  Tx.orRaise .notFound (← ChildReadingProfileRepository.getByChild childId)

/-- `upsert_reading_profile`. -/
def upsertReadingProfile (familyId childId : UUID) (body : ReadingProfileUpsert) :
    Op ChildReadingProfile := do
  let _ ← require familyId childId
  match ← ChildReadingProfileRepository.getByChild childId with
  | none => add .childReadingProfile (newReadingProfile env childId body)
  | some profile => Repository.update env .childReadingProfile profile.id (fun r =>
      ChildReadingProfile.applyChanges r body)

/-- `list_reading_history`. -/
def listReadingHistory (familyId childId : UUID) : Op (List ReadingHistory) := do
  let _ ← require familyId childId
  ReadingHistoryRepository.listByChild childId

/-- The row `add_reading_history` inserts. -/
def newEntry (childId : UUID) (body : ReadingHistoryCreate) : ReadingHistory where
  id := env.newId .readingHistory
  childId
  title := body.title
  author := body.author
  seriesName := body.seriesName
  bookOrder := body.bookOrder
  status := body.status
  liked := body.liked
  reasons := body.reasons
  parentNote := body.parentNote
  childNote := body.childNote
  startedAt := body.startedAt
  finishedAt := body.finishedAt
  createdAt := env.now
  updatedAt := env.now

/-- `add_reading_history`. -/
def addReadingHistory (familyId childId : UUID) (body : ReadingHistoryCreate) :
    Op ReadingHistory := do
  let _ ← require familyId childId
  add .readingHistory (newEntry env childId body)

/-- The history entry, if it belongs to the child. -/
def requireEntry (childId entryId : UUID) : Op ReadingHistory := do
  Tx.orRaise .notFound (← ReadingHistoryRepository.getForChild entryId childId)

/-- `update_reading_history`. -/
def updateReadingHistory (familyId childId entryId : UUID) (body : ReadingHistoryUpdate) :
    Op ReadingHistory := do
  let _ ← require familyId childId
  let entry ← requireEntry childId entryId
  Repository.update env .readingHistory entry.id (fun r => ReadingHistory.applyChanges r body)

/-- `delete_reading_history`. -/
def deleteReadingHistory (familyId childId entryId : UUID) : Op Unit := do
  let _ ← require familyId childId
  let entry ← requireEntry childId entryId
  Repository.delete .readingHistory entry.id

end ChildService

/-! ## Policies -/

namespace PolicyService

variable (env : Env)

/-- `list`. -/
def list (familyId : UUID) : Op (List FamilyReadingPolicy) :=
  FamilyReadingPolicyRepository.listActive familyId none

/-- `_resolve_child`. -/
def resolveChild (childId : Option String) (familyId : UUID) : Op (Option UUID) :=
  match childId with
  | none => return none
  | some text => do
    let childUuid ← Tx.orRaise .notFound (UUID.ofString text)
    let _ ← Tx.orRaise .notFound (← ChildProfileRepository.getInFamily childUuid familyId)
    return some childUuid

/-- The row `create` inserts. -/
def newPolicy (familyId : UUID) (childUuid : Option UUID) (body : PolicyCreate) :
    FamilyReadingPolicy where
  id := env.newId .familyReadingPolicy
  familyId
  childId := childUuid
  goals := body.goals
  constraints := body.constraints
  avoidTopics := body.avoidTopics
  contentPreferences := body.contentPreferences
  notes := body.notes
  isActive := body.isActive
  createdAt := env.now
  updatedAt := env.now

/-- `create`. -/
def create (familyId : UUID) (body : PolicyCreate) : Op FamilyReadingPolicy := do
  let childUuid ← resolveChild body.childId familyId
  add .familyReadingPolicy (newPolicy env familyId childUuid body)

/-- The policy, if it belongs to the family. -/
def require (familyId policyId : UUID) : Op FamilyReadingPolicy := do
  Tx.orRaise .notFound (← FamilyReadingPolicyRepository.getInFamily policyId familyId)

/-- `update`. -/
def update (familyId policyId : UUID) (body : PolicyUpdate) : Op FamilyReadingPolicy := do
  let policy ← require familyId policyId
  Repository.update env .familyReadingPolicy policy.id (fun r =>
    FamilyReadingPolicy.applyChanges r body)

/-- `delete`. -/
def delete (familyId policyId : UUID) : Op Unit := do
  let policy ← require familyId policyId
  Repository.delete .familyReadingPolicy policy.id

end PolicyService

/-! ## The context bundle -/

namespace FamilyContextLoader

variable (env : Env)

/-- `_age`. -/
def age (today : Date) (dob : Option Date) : Option ℤ :=
  dob.map (fun dob => today.year - dob.year
    - if today.month < dob.month ∨ today.month = dob.month ∧ today.day < dob.day then 1 else 0)

/-- `_serialize_member`, with the profile the ORM loads next to it. -/
def serializeMember (d : Database) (m : FamilyMember) : MemberContext where
  member := m.dump
  profile := d.memberProfiles.find? (fun r => r.memberId = m.id)
  age := age env.today m.birthDate

/-- `_serialize_child`, with the reading profile the ORM loads next to
it. -/
def serializeChild (d : Database) (c : ChildProfile) : ChildContext where
  child := c
  readingProfile := d.readingProfiles.find? (fun r => r.childId = c.id)
  age := age env.today c.birthDate

/-- `load`. -/
def load (familyId : UUID) : Op (Option FamilyContext) := do
  match ← FamilyRepository.get familyId with
  | none => return none
  | some family =>
    let members ← FamilyMemberRepository.listByFamily familyId
    let members ← Tx.read (fun d => members.map (serializeMember env d))
    let children ← ChildProfileRepository.listByFamily familyId
    let children ← Tx.read (fun d =>
      Dict.ofList (children.map (fun c => (c.id.str, serializeChild env d c))))
    let policies ← FamilyReadingPolicyRepository.listActive familyId none
    return some { family, members, children, policies }

end FamilyContextLoader
