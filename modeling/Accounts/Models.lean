import Accounts.Python
import Mathlib.Data.Rat.Defs

/-!
# The rows of the `accounts` schema

One structure per ORM model, with its columns under their own names.
A column the model declares `NOT NULL` has a plain type, a nullable one
an `Option`, so a row that violates `NOT NULL` cannot be built.

One column is left out: `updated_at` of `refresh_token`, which no function
reads and no response shows.
-/

/-! ## Values of a JSON column -/

/-- A JSON value. -/
inductive Json where
  /-- `null`. -/
  | null
  /-- A boolean. -/
  | bool (b : Bool)
  /-- A number. -/
  | num (q : ℚ)
  /-- A string. -/
  | str (s : String)
  /-- An array. -/
  | arr (xs : List Json)
  /-- An object, its members in order. -/
  | obj (fields : List (String × Json))

namespace Json

mutual

/-- Equality of JSON values is decidable. -/
def decEq : (a b : Json) → Decidable (a = b)
  | .null, .null => isTrue rfl
  | .bool a, .bool b => decidable_of_iff (a = b) (by simp)
  | .num a, .num b => decidable_of_iff (a = b) (by simp)
  | .str a, .str b => decidable_of_iff (a = b) (by simp)
  | .arr a, .arr b =>
    have := decEqList a b
    decidable_of_iff (a = b) (by simp)
  | .obj a, .obj b =>
    have := decEqFields a b
    decidable_of_iff (a = b) (by simp)
  | .null, .bool _ | .null, .num _ | .null, .str _ | .null, .arr _ | .null, .obj _
  | .bool _, .null | .bool _, .num _ | .bool _, .str _ | .bool _, .arr _ | .bool _, .obj _
  | .num _, .null | .num _, .bool _ | .num _, .str _ | .num _, .arr _ | .num _, .obj _
  | .str _, .null | .str _, .bool _ | .str _, .num _ | .str _, .arr _ | .str _, .obj _
  | .arr _, .null | .arr _, .bool _ | .arr _, .num _ | .arr _, .str _ | .arr _, .obj _
  | .obj _, .null | .obj _, .bool _ | .obj _, .num _ | .obj _, .str _ | .obj _, .arr _ =>
    isFalse (by simp)

/-- Equality of JSON arrays. -/
def decEqList : (a b : List Json) → Decidable (a = b)
  | [], [] => isTrue rfl
  | x :: xs, y :: ys =>
    have := decEq x y
    have := decEqList xs ys
    decidable_of_iff (x = y ∧ xs = ys) (by simp)
  | [], _ :: _ | _ :: _, [] => isFalse (by simp)

/-- Equality of JSON objects. -/
def decEqFields : (a b : List (String × Json)) → Decidable (a = b)
  | [], [] => isTrue rfl
  | (k, x) :: xs, (l, y) :: ys =>
    have := decEq x y
    have := decEqFields xs ys
    decidable_of_iff ((k = l ∧ x = y) ∧ xs = ys) (by simp)
  | [], _ :: _ | _ :: _, [] => isFalse (by simp)

end

instance : DecidableEq Json := decEq

end Json

/-- `_columns.Gender`. -/
inductive Gender where
  /-- `"Male"`. -/
  | male
  /-- `"Female"`. -/
  | female
deriving DecidableEq

/-! ## The family domain -/

/-- `family`. -/
structure Family where
  /-- Primary key. -/
  id : UUID
  /-- Display name of the family. -/
  familyName : Option String
  /-- Default language, `en-US` unless set. -/
  defaultLanguage : Option String
  /-- Set by the database when the row is inserted. -/
  createdAt : Datetime
  /-- Set by the database when the row is inserted or updated. -/
  updatedAt : Datetime
deriving DecidableEq

/-- `family_member`. -/
structure FamilyMember where
  /-- Primary key. -/
  id : UUID
  /-- The member's family. -/
  familyId : UUID
  /-- Display name. -/
  displayName : Option String
  /-- Gender. -/
  gender : Option Gender
  /-- Date of birth. -/
  birthDate : Option Date
  /-- Role in the family. -/
  role : String
  /-- Whether this is the member who created the family. -/
  isPrimaryUser : Bool
  /-- Language, `zh-CN` unless set. -/
  languagePreference : Option String
  /-- Login email, unique. -/
  email : Option String
  /-- Self-describing password hash; secret. -/
  passwordHash : Option String
  /-- Set by the database when the row is inserted. -/
  createdAt : Datetime
  /-- Set by the database when the row is inserted or updated. -/
  updatedAt : Datetime
deriving DecidableEq

/-- `family_member_profile`, at most one per member. -/
structure FamilyMemberProfile where
  /-- Primary key. -/
  id : UUID
  /-- The member, unique. -/
  memberId : UUID
  /-- Occupation. -/
  occupationBackground : Option String
  /-- Education. -/
  educationBackground : Option String
  /-- Style of communication. -/
  communicationStyle : Option String
  /-- Concerns. -/
  concerns : List String
  /-- Where the profile comes from, `parent_report` unless set. -/
  source : Option String
  /-- Confidence, `Numeric(3, 2)`. -/
  confidence : Option ℚ
  /-- When it was observed; never set by this service. -/
  observedAt : Option Datetime
  /-- Set by the database when the row is inserted. -/
  createdAt : Datetime
  /-- Set by the database when the row is inserted or updated. -/
  updatedAt : Datetime
deriving DecidableEq

/-- `family_reading_policy`, optionally about one child. -/
structure FamilyReadingPolicy where
  /-- Primary key. -/
  id : UUID
  /-- The policy's family. -/
  familyId : UUID
  /-- The child it is about, if any. -/
  childId : Option UUID
  /-- Goals. -/
  goals : List String
  /-- Constraints. -/
  constraints : List String
  /-- Topics to avoid. -/
  avoidTopics : List String
  /-- Free-form preferences. -/
  contentPreferences : Json
  /-- Notes. -/
  notes : Option String
  /-- Whether the policy is listed. -/
  isActive : Bool
  /-- Set by the database when the row is inserted. -/
  createdAt : Datetime
  /-- Set by the database when the row is inserted or updated. -/
  updatedAt : Datetime
deriving DecidableEq

/-- `family_invite`: a single-use invite into an existing family. -/
structure FamilyInvite where
  /-- Primary key. -/
  id : UUID
  /-- The family the invite leads into. -/
  familyId : UUID
  /-- Digest of the raw code, unique; secret. -/
  codeHash : String
  /-- The role a joining member gets. -/
  role : String
  /-- The member who issued it. -/
  createdByMemberId : Option UUID
  /-- When it expires; `none` never. -/
  expiresAt : Option Datetime
  /-- When it was redeemed. -/
  acceptedAt : Option Datetime
  /-- Set by the database when the row is inserted. -/
  createdAt : Datetime
  /-- Set by the database when the row is inserted or updated. -/
  updatedAt : Datetime
deriving DecidableEq

/-- `refresh_token`: one token of a rotation lineage. -/
structure RefreshToken where
  /-- Primary key. -/
  id : UUID
  /-- The family of the member it was issued to. -/
  familyId : UUID
  /-- The member it was issued to. -/
  familyMemberId : UUID
  /-- The rotation lineage. -/
  sessionId : UUID
  /-- Digest of the raw token, unique; secret. -/
  tokenHash : String
  /-- Expiry. -/
  expiresAt : Option Datetime
  /-- When it was exchanged for its successor. -/
  consumedAt : Option Datetime
  /-- When its lineage was revoked. -/
  revokedAt : Option Datetime
  /-- Set by the database when the row is inserted. -/
  createdAt : Datetime
deriving DecidableEq

/-! ## The child domain -/

/-- `child_profile`. -/
structure ChildProfile where
  /-- Primary key. -/
  id : UUID
  /-- The child's family. -/
  familyId : UUID
  /-- Display name. -/
  displayName : Option String
  /-- Other names. -/
  aliases : List String
  /-- Gender. -/
  gender : Option Gender
  /-- Date of birth. -/
  birthDate : Option Date
  /-- School grade. -/
  grade : Option String
  /-- School system. -/
  schoolSystem : Option String
  /-- Country or curriculum. -/
  countryOrCurriculum : Option String
  /-- First language. -/
  primaryLanguage : Option String
  /-- Language of reading, `English` unless set. -/
  readingLanguage : Option String
  /-- Notes. -/
  notes : Option String
  /-- Set by the database when the row is inserted. -/
  createdAt : Datetime
  /-- Set by the database when the row is inserted or updated. -/
  updatedAt : Datetime
deriving DecidableEq

/-- `child_reading_profile`, at most one per child. -/
structure ChildReadingProfile where
  /-- Primary key. -/
  id : UUID
  /-- The child, unique. -/
  childId : UUID
  /-- A note on the level. -/
  readingLevelNote : Option String
  /-- CEFR level. -/
  cefrLevel : Option String
  /-- Lexile measure, a 32-bit column. -/
  lexile : Option ℤ
  /-- AR level, `Numeric(4, 2)`. -/
  arLevel : Option ℚ
  /-- Current stage. -/
  currentStage : Option String
  /-- Reads alone. -/
  independentReading : Option Bool
  /-- Needs a dictionary. -/
  needsDictionary : Option Bool
  /-- Reads chapter books. -/
  canReadChapterBooks : Option Bool
  /-- Copes with old language. -/
  canHandleOldLanguage : Option Bool
  /-- Interests. -/
  interests : List String
  /-- Genres preferred. -/
  preferredGenres : List String
  /-- Genres disliked. -/
  dislikedGenres : List String
  /-- Themes liked. -/
  likedThemes : List String
  /-- Themes disliked. -/
  dislikedThemes : List String
  /-- Tone preferred. -/
  preferredTone : List String
  /-- Topics to avoid. -/
  avoidTopics : List String
  /-- Summary. -/
  summary : Option String
  /-- Confidence, `Numeric(3, 2)`; never set by this service. -/
  confidence : Option ℚ
  /-- Where the profile comes from, `parent_report`. -/
  source : Option String
  /-- When it was observed; never set by this service. -/
  observedAt : Option Datetime
  /-- Set by the database when the row is inserted. -/
  createdAt : Datetime
  /-- Set by the database when the row is inserted or updated. -/
  updatedAt : Datetime
deriving DecidableEq

/-- `reading_history`: one book of a child. -/
structure ReadingHistory where
  /-- Primary key. -/
  id : UUID
  /-- The child. -/
  childId : UUID
  /-- Title. -/
  title : Option String
  /-- Author. -/
  author : Option String
  /-- Series. -/
  seriesName : Option String
  /-- Place in the series. -/
  bookOrder : Option String
  /-- Reading status. -/
  status : Option String
  /-- Whether the child liked it. -/
  liked : Option Bool
  /-- Why. -/
  reasons : List String
  /-- Note of a parent. -/
  parentNote : Option String
  /-- Note of the child. -/
  childNote : Option String
  /-- First day of reading. -/
  startedAt : Option Date
  /-- Last day of reading. -/
  finishedAt : Option Date
  /-- Set by the database when the row is inserted. -/
  createdAt : Datetime
  /-- Set by the database when the row is inserted or updated. -/
  updatedAt : Datetime
deriving DecidableEq
