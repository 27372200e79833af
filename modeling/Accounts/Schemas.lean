import Accounts.Models
import Mathlib.Data.Rat.Floor

/-!
# Errors, request bodies and responses

The bodies are those pydantic hands to the services, after validation. A
field of an update body is *unset*, or set to a value, or set to `null` –
`model_dump(exclude_unset=True)` keeps the three apart, and so does
`BodyField`.

What an update or an upsert does to a row is decided here, column by
column: an unset field keeps the column, `null` empties a nullable column
and violates `NOT NULL` on the others, and on an insert a column with a
server default takes it when the field is unset or `null`. A numeric
column rounds to its scale and refuses what does not fit.

A text that goes to the database is a `String`: the texts UTF-8 holds are
those the database takes. The password of a login and the code of an invite
do not go there, they are encoded and digested, and so they are any `str` –
a `Py.Text`, with or without surrogates. A field with a bound on its length
has no surrogates in it either, which pydantic refuses there: a `Password`
that a body sets is a `String`, with the bounds.

`dump` is what a response shows of a row: every column except the secret
ones – `password_hash`, `code_hash` and `token_hash`. A table without a
secret column is dumped as it is.
-/

/-! ## Errors -/

/-- The errors the services raise, with their detail text. -/
inductive ServiceError where
  /-- 404. -/
  | notFound (detail : String)
  /-- 409. -/
  | conflict (detail : String)
  /-- 400. -/
  | badRequest (detail : String)
  /-- 401. -/
  | unauthorized (detail : String)
deriving DecidableEq

namespace ServiceError

/-- The HTTP status an error is answered with. -/
def statusCode : ServiceError → ℕ
  | notFound _ => 404
  | conflict _ => 409
  | badRequest _ => 400
  | unauthorized _ => 401

/-- The detail text an error is answered with. -/
def detail : ServiceError → String
  | notFound d | conflict d | badRequest d | unauthorized d => d

end ServiceError

/-- **The exceptions of a request.** The application handles the service
errors; every other exception ends the request unhandled. -/
inductive Exn where
  /-- An error of the service layer. -/
  | service (e : ServiceError)
  /-- Advanced Alchemy's `IntegrityError`: a violated constraint. -/
  | integrityError
  /-- Any other error of the repository: a value out of its column's
  range, a row that is gone, several rows where one was expected. -/
  | repositoryError
  /-- `OverflowError`. -/
  | overflowError
  /-- `ValueError`, and with it `UnicodeEncodeError`. -/
  | valueError
  /-- `TypeError`. -/
  | typeError
deriving DecidableEq

namespace Exn

/-- Whether an exception handler answers the exception before the request
scope closes. -/
def handled : Exn → Bool
  | service _ => true
  | _ => false

/-- `NotFoundError()`. -/
abbrev notFound : Exn := service (.notFound "not found")

/-- The 409 of a taken email. -/
abbrev emailRegistered : Exn := service (.conflict "email already registered")

/-- The 401 of reuse detection. -/
abbrev tokenReuse : Exn := service (.unauthorized "refresh token reuse detected")

end Exn

/-! ## Values in their columns -/

/-- Rounding to two decimals, halves away from zero. -/
def roundCents (q : ℚ) : ℚ :=
  let n := ⌊|q| * 100 + 1 / 2⌋
  (if q < 0 then -(n : ℚ) else (n : ℚ)) / 100

/-- **A `Numeric(digits + 2, 2)` column**: the rounded value has to have
at most `digits` digits before the point. -/
def numericColumn (digits : ℕ) (q : ℚ) : Except Exn ℚ :=
  if |roundCents q| < 10 ^ digits then .ok (roundCents q) else .error .repositoryError

/-- A 32-bit `Integer` column. -/
def integerColumn (n : ℤ) : Except Exn ℤ :=
  if -2 ^ 31 ≤ n ∧ n < 2 ^ 31 then .ok n else .error .repositoryError

/-! ## Fields of an update body -/

/-- A field of an update body: unset, or set to `null` or to a value. -/
abbrev BodyField (α : Type) : Type := Option (Option α)

namespace BodyField

variable {α : Type}

/-- `setattr` on a nullable column. -/
def nullable (f : BodyField α) (old : Option α) : Option α := f.getD old

/-- `setattr` on a `NOT NULL` column: `null` violates it when the row is
flushed. -/
def required (f : BodyField α) (old : α) : Except Exn α :=
  match f with
  | none => .ok old
  | some none => .error .integrityError
  | some (some v) => .ok v

/-- The value a constructor passes to an insert: unset and `null` are both
left to the column's default. -/
def given (f : BodyField α) : Option α := f.join

end BodyField

/-! ## Request bodies -/

/-- **A password that a body may set**: `Field(min_length=8, max_length=256)`. -/
structure Password where
  /-- The text. -/
  text : String
  /-- It is not too short. -/
  min_length : 8 ≤ text.length
  /-- It is not too long. -/
  max_length : text.length ≤ 256
deriving DecidableEq

/-- The password a text is, if it is of that length. -/
def Password.ofText (text : String) : Option Password :=
  if h : 8 ≤ text.length ∧ text.length ≤ 256 then some ⟨text, h.1, h.2⟩ else none

/-- `SignupRequest`. -/
structure SignupRequest where
  /-- Login email, stripped and in lower case. -/
  email : String
  /-- Password. -/
  password : Password
  /-- Name of the family to create. -/
  familyName : Option String
  /-- Display name. -/
  displayName : Option String
  /-- Role in the family to create. -/
  role : String
  /-- Language. -/
  languagePreference : Option String
  /-- Code of the invite to join through, any text. -/
  inviteCode : Option Py.Text

/-- `LoginRequest`. -/
structure LoginRequest where
  /-- Login email, stripped and in lower case. -/
  email : String
  /-- Password, any text. -/
  password : Py.Text

/-- `InviteCreate`. -/
structure InviteCreate where
  /-- The role a joining member gets. -/
  role : String
  /-- Hours until the code expires; `none` never. -/
  ttlHours : Option ℤ

/-- `FamilyUpdate`. -/
structure FamilyUpdate where
  /-- New name. -/
  familyName : BodyField String
  /-- New default language. -/
  defaultLanguage : BodyField String

/-- `MemberCreate`. -/
structure MemberCreate where
  /-- Display name. -/
  displayName : Option String
  /-- Role. -/
  role : String
  /-- Gender. -/
  gender : Option Gender
  /-- Date of birth. -/
  birthDate : Option Date
  /-- Language. -/
  languagePreference : Option String
  /-- Login email, stripped and in lower case. -/
  email : Option String
  /-- Password. -/
  password : Option Password

/-- `MemberUpdate`. -/
structure MemberUpdate where
  /-- Display name. -/
  displayName : BodyField String
  /-- Role, `NOT NULL`. -/
  role : BodyField String
  /-- Gender. -/
  gender : BodyField Gender
  /-- Date of birth. -/
  birthDate : BodyField Date
  /-- Language. -/
  languagePreference : BodyField String

/-- `MemberProfileUpsert`. -/
structure MemberProfileUpsert where
  /-- Occupation. -/
  occupationBackground : BodyField String
  /-- Education. -/
  educationBackground : BodyField String
  /-- Style of communication. -/
  communicationStyle : BodyField String
  /-- Concerns, `NOT NULL`. -/
  concerns : BodyField (List String)
  /-- Source. -/
  source : BodyField String
  /-- Confidence. -/
  confidence : BodyField ℚ

/-- `ChildCreate`. -/
structure ChildCreate where
  /-- Display name. -/
  displayName : Option String
  /-- Other names. -/
  aliases : List String
  /-- Gender. -/
  gender : Option Gender
  /-- Date of birth. -/
  birthDate : Option Date
  /-- School grade. -/
  grade : Option String
  /-- School system. -/
  schoolSystem : Option String
  /-- Country or curriculum. -/
  countryOrCurriculum : Option String
  /-- First language. -/
  primaryLanguage : Option String
  /-- Language of reading. -/
  readingLanguage : Option String
  /-- Notes. -/
  notes : Option String

/-- `ChildUpdate`. -/
structure ChildUpdate where
  /-- Display name. -/
  displayName : BodyField String
  /-- Other names, `NOT NULL`. -/
  aliases : BodyField (List String)
  /-- Gender. -/
  gender : BodyField Gender
  /-- Date of birth. -/
  birthDate : BodyField Date
  /-- School grade. -/
  grade : BodyField String
  /-- School system. -/
  schoolSystem : BodyField String
  /-- Country or curriculum. -/
  countryOrCurriculum : BodyField String
  /-- First language. -/
  primaryLanguage : BodyField String
  /-- Language of reading. -/
  readingLanguage : BodyField String
  /-- Notes. -/
  notes : BodyField String

/-- `ReadingProfileUpsert`. -/
structure ReadingProfileUpsert where
  /-- A note on the level. -/
  readingLevelNote : BodyField String
  /-- CEFR level. -/
  cefrLevel : BodyField String
  /-- Lexile measure. -/
  lexile : BodyField ℤ
  /-- AR level. -/
  arLevel : BodyField ℚ
  /-- Current stage. -/
  currentStage : BodyField String
  /-- Reads alone. -/
  independentReading : BodyField Bool
  /-- Needs a dictionary. -/
  needsDictionary : BodyField Bool
  /-- Reads chapter books. -/
  canReadChapterBooks : BodyField Bool
  /-- Copes with old language. -/
  canHandleOldLanguage : BodyField Bool
  /-- Interests, `NOT NULL`. -/
  interests : BodyField (List String)
  /-- Genres preferred, `NOT NULL`. -/
  preferredGenres : BodyField (List String)
  /-- Genres disliked, `NOT NULL`. -/
  dislikedGenres : BodyField (List String)
  /-- Themes liked, `NOT NULL`. -/
  likedThemes : BodyField (List String)
  /-- Themes disliked, `NOT NULL`. -/
  dislikedThemes : BodyField (List String)
  /-- Tone preferred, `NOT NULL`. -/
  preferredTone : BodyField (List String)
  /-- Topics to avoid, `NOT NULL`. -/
  avoidTopics : BodyField (List String)
  /-- Summary. -/
  summary : BodyField String

/-- `ReadingHistoryCreate`. -/
structure ReadingHistoryCreate where
  /-- Title. -/
  title : Option String
  /-- Author. -/
  author : Option String
  /-- Series. -/
  seriesName : Option String
  /-- Place in the series. -/
  bookOrder : Option String
  /-- Reading status. -/
  status : Option String
  /-- Whether the child liked it. -/
  liked : Option Bool
  /-- Why. -/
  reasons : List String
  /-- Note of a parent. -/
  parentNote : Option String
  /-- Note of the child. -/
  childNote : Option String
  /-- First day of reading. -/
  startedAt : Option Date
  /-- Last day of reading. -/
  finishedAt : Option Date

/-- `ReadingHistoryUpdate`. -/
structure ReadingHistoryUpdate where
  /-- Title. -/
  title : BodyField String
  /-- Author. -/
  author : BodyField String
  /-- Series. -/
  seriesName : BodyField String
  /-- Place in the series. -/
  bookOrder : BodyField String
  /-- Reading status. -/
  status : BodyField String
  /-- Whether the child liked it. -/
  liked : BodyField Bool
  /-- Why, `NOT NULL`. -/
  reasons : BodyField (List String)
  /-- Note of a parent. -/
  parentNote : BodyField String
  /-- Note of the child. -/
  childNote : BodyField String
  /-- First day of reading. -/
  startedAt : BodyField Date
  /-- Last day of reading. -/
  finishedAt : BodyField Date

/-- `PolicyCreate`. -/
structure PolicyCreate where
  /-- The child the policy is about, as the client wrote it. -/
  childId : Option String
  /-- Goals. -/
  goals : List String
  /-- Constraints. -/
  constraints : List String
  /-- Topics to avoid. -/
  avoidTopics : List String
  /-- Free-form preferences, an object. -/
  contentPreferences : Json
  /-- Notes. -/
  notes : Option String
  /-- Whether the policy is listed. -/
  isActive : Bool

/-- `PolicyUpdate`. -/
structure PolicyUpdate where
  /-- Goals, `NOT NULL`. -/
  goals : BodyField (List String)
  /-- Constraints, `NOT NULL`. -/
  constraints : BodyField (List String)
  /-- Topics to avoid, `NOT NULL`. -/
  avoidTopics : BodyField (List String)
  /-- Free-form preferences. -/
  contentPreferences : BodyField Json
  /-- Notes. -/
  notes : BodyField String
  /-- Whether the policy is listed, `NOT NULL`. -/
  isActive : BodyField Bool

/-! ## `apply_changes`

What setting the fields of a body makes of a row, before the row is
written: `apply_changes(row, body.model_dump(exclude_unset=True))`. -/

/-- `apply_changes` on a family. -/
def Family.applyChanges (r : Family) (b : FamilyUpdate) : Except Exn Family :=
  .ok { r with
    familyName := b.familyName.nullable r.familyName
    defaultLanguage := b.defaultLanguage.nullable r.defaultLanguage }

/-- `apply_changes` on a member. -/
def FamilyMember.applyChanges (r : FamilyMember) (b : MemberUpdate) : Except Exn FamilyMember := do
  let role ← b.role.required r.role
  return { r with
    displayName := b.displayName.nullable r.displayName
    role
    gender := b.gender.nullable r.gender
    birthDate := b.birthDate.nullable r.birthDate
    languagePreference := b.languagePreference.nullable r.languagePreference }

/-- `apply_changes` on a member's profile. -/
def FamilyMemberProfile.applyChanges (r : FamilyMemberProfile) (b : MemberProfileUpsert) :
    Except Exn FamilyMemberProfile := do
  let concerns ← b.concerns.required r.concerns
  return { r with
    occupationBackground := b.occupationBackground.nullable r.occupationBackground
    educationBackground := b.educationBackground.nullable r.educationBackground
    communicationStyle := b.communicationStyle.nullable r.communicationStyle
    concerns
    source := b.source.nullable r.source
    confidence := b.confidence.nullable r.confidence }

/-- `apply_changes` on a child. -/
def ChildProfile.applyChanges (r : ChildProfile) (b : ChildUpdate) : Except Exn ChildProfile := do
  let aliases ← b.aliases.required r.aliases
  return { r with
    displayName := b.displayName.nullable r.displayName
    aliases
    gender := b.gender.nullable r.gender
    birthDate := b.birthDate.nullable r.birthDate
    grade := b.grade.nullable r.grade
    schoolSystem := b.schoolSystem.nullable r.schoolSystem
    countryOrCurriculum := b.countryOrCurriculum.nullable r.countryOrCurriculum
    primaryLanguage := b.primaryLanguage.nullable r.primaryLanguage
    readingLanguage := b.readingLanguage.nullable r.readingLanguage
    notes := b.notes.nullable r.notes }

/-- `apply_changes` on a child's reading profile. -/
def ChildReadingProfile.applyChanges (r : ChildReadingProfile) (b : ReadingProfileUpsert) :
    Except Exn ChildReadingProfile := do
  let interests ← b.interests.required r.interests
  let preferredGenres ← b.preferredGenres.required r.preferredGenres
  let dislikedGenres ← b.dislikedGenres.required r.dislikedGenres
  let likedThemes ← b.likedThemes.required r.likedThemes
  let dislikedThemes ← b.dislikedThemes.required r.dislikedThemes
  let preferredTone ← b.preferredTone.required r.preferredTone
  let avoidTopics ← b.avoidTopics.required r.avoidTopics
  return { r with
    readingLevelNote := b.readingLevelNote.nullable r.readingLevelNote
    cefrLevel := b.cefrLevel.nullable r.cefrLevel
    lexile := b.lexile.nullable r.lexile
    arLevel := b.arLevel.nullable r.arLevel
    currentStage := b.currentStage.nullable r.currentStage
    independentReading := b.independentReading.nullable r.independentReading
    needsDictionary := b.needsDictionary.nullable r.needsDictionary
    canReadChapterBooks := b.canReadChapterBooks.nullable r.canReadChapterBooks
    canHandleOldLanguage := b.canHandleOldLanguage.nullable r.canHandleOldLanguage
    interests
    preferredGenres
    dislikedGenres
    likedThemes
    dislikedThemes
    preferredTone
    avoidTopics
    summary := b.summary.nullable r.summary }

/-- `apply_changes` on a history entry. -/
def ReadingHistory.applyChanges (r : ReadingHistory) (b : ReadingHistoryUpdate) :
    Except Exn ReadingHistory := do
  let reasons ← b.reasons.required r.reasons
  return { r with
    title := b.title.nullable r.title
    author := b.author.nullable r.author
    seriesName := b.seriesName.nullable r.seriesName
    bookOrder := b.bookOrder.nullable r.bookOrder
    status := b.status.nullable r.status
    liked := b.liked.nullable r.liked
    reasons
    parentNote := b.parentNote.nullable r.parentNote
    childNote := b.childNote.nullable r.childNote
    startedAt := b.startedAt.nullable r.startedAt
    finishedAt := b.finishedAt.nullable r.finishedAt }

/-- `apply_changes` on a policy. A JSON column stores an explicit `null`
as the JSON value `null`, which `NOT NULL` allows. -/
def FamilyReadingPolicy.applyChanges (r : FamilyReadingPolicy) (b : PolicyUpdate) :
    Except Exn FamilyReadingPolicy := do
  let goals ← b.goals.required r.goals
  let constraints ← b.constraints.required r.constraints
  let avoidTopics ← b.avoidTopics.required r.avoidTopics
  let isActive ← b.isActive.required r.isActive
  return { r with
    goals
    constraints
    avoidTopics
    contentPreferences :=
      match b.contentPreferences with
      | none => r.contentPreferences
      | some v => v.getD .null
    notes := b.notes.nullable r.notes
    isActive }

/-! ## Responses -/

/-- `dump` of a member: every column but `password_hash`. -/
structure MemberDump where
  /-- Primary key. -/
  id : UUID
  /-- The member's family. -/
  familyId : UUID
  /-- Display name. -/
  displayName : Option String
  /-- Gender. -/
  gender : Option Gender
  /-- Date of birth. -/
  birthDate : Option Date
  /-- Role in the family. -/
  role : String
  /-- Whether this is the member who created the family. -/
  isPrimaryUser : Bool
  /-- Language. -/
  languagePreference : Option String
  /-- Login email. -/
  email : Option String
  /-- When the row was inserted. -/
  createdAt : Datetime
  /-- When the row was last written. -/
  updatedAt : Datetime
deriving DecidableEq

/-- `dump` of an invite: every column but `code_hash`. -/
structure InviteDump where
  /-- Primary key. -/
  id : UUID
  /-- The family the invite leads into. -/
  familyId : UUID
  /-- The role a joining member gets. -/
  role : String
  /-- The member who issued it. -/
  createdByMemberId : Option UUID
  /-- When it expires. -/
  expiresAt : Option Datetime
  /-- When it was redeemed. -/
  acceptedAt : Option Datetime
  /-- When the row was inserted. -/
  createdAt : Datetime
  /-- When the row was last written. -/
  updatedAt : Datetime
deriving DecidableEq

/-- `dump` of a member. -/
def FamilyMember.dump (r : FamilyMember) : MemberDump :=
  ⟨r.id, r.familyId, r.displayName, r.gender, r.birthDate, r.role, r.isPrimaryUser,
    r.languagePreference, r.email, r.createdAt, r.updatedAt⟩

/-- `dump` of an invite. -/
def FamilyInvite.dump (r : FamilyInvite) : InviteDump :=
  ⟨r.id, r.familyId, r.role, r.createdByMemberId, r.expiresAt, r.acceptedAt, r.createdAt,
    r.updatedAt⟩

/-- `InviteResponse`: the only time the raw code is shown. -/
structure InviteResponse where
  /-- The invite. -/
  id : String
  /-- The raw code. -/
  code : String
  /-- The role a joining member gets. -/
  role : String
  /-- The family it leads into. -/
  familyId : String
  /-- When it expires. -/
  expiresAt : Option Datetime
deriving DecidableEq

/-- A member in the context bundle. -/
structure MemberContext where
  /-- The row. -/
  member : MemberDump
  /-- The profile, `{}` when there is none. -/
  profile : Option FamilyMemberProfile
  /-- The age in years. -/
  age : Option ℤ
deriving DecidableEq

/-- A child in the context bundle. -/
structure ChildContext where
  /-- The row. -/
  child : ChildProfile
  /-- The reading profile, `{}` when there is none. -/
  readingProfile : Option ChildReadingProfile
  /-- The age in years. -/
  age : Option ℤ
deriving DecidableEq

/-- The context bundle of a family. -/
structure FamilyContext where
  /-- The family. -/
  family : Family
  /-- Its members. -/
  members : List MemberContext
  /-- Its children, by the text of their identifier. -/
  children : List (String × ChildContext)
  /-- Its active policies. -/
  policies : List FamilyReadingPolicy
deriving DecidableEq
