import Accounts.Process
import Accounts.Services

/-!
# Requests, and the service as a process

The operations of both faces. An operation of a family is called with the
family it is scoped to – taken from the caller's verified identity by the
external face, from the path by the internal one – so a `Request` carries
an arbitrary family identifier.

`serve` runs one request inside its transaction: what a request that
returns, or that ends in a handled `ServiceError`, has written is
committed, and any other exception rolls back. `service` is the process
of serving requests one after the other.
-/

/-! ## Operations -/

/-- The operations of `AuthService`. -/
inductive AuthOp where
  /-- `POST /auth/signup`. -/
  | signup (body : SignupRequest)
  /-- `POST /auth/login`. -/
  | login (body : LoginRequest)
  /-- `POST /auth/refresh`, with the token of the cookie. -/
  | refresh (raw : String)
  /-- `POST /auth/logout`, with the token of the cookie. -/
  | logout (raw : String)

/-- The operations scoped to a family. -/
inductive FamilyOp where
  /-- `FamilyService.get`. -/
  | getFamily
  /-- `FamilyService.update`. -/
  | updateFamily (body : FamilyUpdate)
  /-- `MemberService.list`. -/
  | listMembers
  /-- `MemberService.create`. -/
  | createMember (body : MemberCreate)
  /-- `MemberService.get`. -/
  | getMember (memberId : UUID)
  /-- `MemberService.update`. -/
  | updateMember (memberId : UUID) (body : MemberUpdate)
  /-- `MemberService.delete`. -/
  | deleteMember (memberId : UUID)
  /-- `MemberService.get_profile`. -/
  | getProfile (memberId : UUID)
  /-- `MemberService.upsert_profile`. -/
  | upsertProfile (memberId : UUID) (body : MemberProfileUpsert)
  /-- `InviteService.create`, by the calling member. -/
  | createInvite (createdByMemberId : UUID) (body : InviteCreate)
  /-- `InviteService.list`. -/
  | listInvites
  /-- `InviteService.revoke`. -/
  | revokeInvite (inviteId : UUID)
  /-- `ChildService.list`. -/
  | listChildren
  /-- `ChildService.create`. -/
  | createChild (body : ChildCreate)
  /-- `ChildService.get`. -/
  | getChild (childId : UUID)
  /-- `ChildService.update`. -/
  | updateChild (childId : UUID) (body : ChildUpdate)
  /-- `ChildService.delete`. -/
  | deleteChild (childId : UUID)
  /-- `ChildService.get_reading_profile`. -/
  | getReadingProfile (childId : UUID)
  /-- `ChildService.upsert_reading_profile`. -/
  | upsertReadingProfile (childId : UUID) (body : ReadingProfileUpsert)
  /-- `ChildService.list_reading_history`. -/
  | listReadingHistory (childId : UUID)
  /-- `ChildService.add_reading_history`. -/
  | addReadingHistory (childId : UUID) (body : ReadingHistoryCreate)
  /-- `ChildService.update_reading_history`. -/
  | updateReadingHistory (childId entryId : UUID) (body : ReadingHistoryUpdate)
  /-- `ChildService.delete_reading_history`. -/
  | deleteReadingHistory (childId entryId : UUID)
  /-- `PolicyService.list`. -/
  | listPolicies
  /-- `PolicyService.create`. -/
  | createPolicy (body : PolicyCreate)
  /-- `PolicyService.update`. -/
  | updatePolicy (policyId : UUID) (body : PolicyUpdate)
  /-- `PolicyService.delete`. -/
  | deletePolicy (policyId : UUID)
  /-- `FamilyContextLoader.load`. -/
  | context

/-- A request. -/
inductive Request where
  /-- An operation of `AuthService`. -/
  | auth (op : AuthOp)
  /-- An operation scoped to a family. -/
  | family (familyId : UUID) (op : FamilyOp)

/-- What a request that returns is answered with. -/
inductive Response where
  /-- Nothing. -/
  | done
  /-- Issued tokens. -/
  | tokens (t : IssuedTokens)
  /-- A family. -/
  | family (r : Family)
  /-- A member. -/
  | member (r : MemberDump)
  /-- Members. -/
  | members (rs : List MemberDump)
  /-- A member's profile. -/
  | profile (r : FamilyMemberProfile)
  /-- A new invite. -/
  | invite (r : InviteResponse)
  /-- Invites. -/
  | invites (rs : List InviteDump)
  /-- A child. -/
  | child (r : ChildProfile)
  /-- Children. -/
  | children (rs : List ChildProfile)
  /-- A reading profile. -/
  | readingProfile (r : ChildReadingProfile)
  /-- A history entry. -/
  | entry (r : ReadingHistory)
  /-- History entries. -/
  | entries (rs : List ReadingHistory)
  /-- A policy. -/
  | policy (r : FamilyReadingPolicy)
  /-- Policies. -/
  | policies (rs : List FamilyReadingPolicy)
  /-- The context bundle, if there is such a family. -/
  | context (r : Option FamilyContext)
deriving DecidableEq

/-! ## Serving -/

/-- The body of an operation of `AuthService`. -/
def AuthOp.run (P : Platform) (env : Env) : AuthOp → Op Response
  | signup body => do return .tokens (← AuthService.signup P env body)
  | login body => do return .tokens (← AuthService.login P env body)
  | refresh raw => do return .tokens (← AuthService.refresh P env raw)
  | logout raw => do
    AuthService.logout P env raw
    return .done

/-- The body of an operation scoped to a family. -/
def FamilyOp.run (P : Platform) (env : Env) (familyId : UUID) : FamilyOp → Op Response
  | getFamily => do return .family (← FamilyService.get familyId)
  | updateFamily body => do return .family (← FamilyService.update env familyId body)
  | listMembers => do return .members (← MemberService.list familyId)
  | createMember body => do return .member (← MemberService.create P env familyId body)
  | getMember memberId => do return .member (← MemberService.get familyId memberId)
  | updateMember memberId body => do
    return .member (← MemberService.update env familyId memberId body)
  | deleteMember memberId => do
    MemberService.delete familyId memberId
    return .done
  | getProfile memberId => do return .profile (← MemberService.getProfile familyId memberId)
  | upsertProfile memberId body => do
    return .profile (← MemberService.upsertProfile env familyId memberId body)
  | createInvite createdByMemberId body => do
    return .invite (← InviteService.create P env familyId createdByMemberId body)
  | listInvites => do return .invites (← InviteService.list env familyId)
  | revokeInvite inviteId => do
    InviteService.revoke familyId inviteId
    return .done
  | listChildren => do return .children (← ChildService.list familyId)
  | createChild body => do return .child (← ChildService.create env familyId body)
  | getChild childId => do return .child (← ChildService.get familyId childId)
  | updateChild childId body => do
    return .child (← ChildService.update env familyId childId body)
  | deleteChild childId => do
    ChildService.delete familyId childId
    return .done
  | getReadingProfile childId => do
    return .readingProfile (← ChildService.getReadingProfile familyId childId)
  | upsertReadingProfile childId body => do
    return .readingProfile (← ChildService.upsertReadingProfile env familyId childId body)
  | listReadingHistory childId => do
    return .entries (← ChildService.listReadingHistory familyId childId)
  | addReadingHistory childId body => do
    return .entry (← ChildService.addReadingHistory env familyId childId body)
  | updateReadingHistory childId entryId body => do
    return .entry (← ChildService.updateReadingHistory env familyId childId entryId body)
  | deleteReadingHistory childId entryId => do
    ChildService.deleteReadingHistory familyId childId entryId
    return .done
  | listPolicies => do return .policies (← PolicyService.list familyId)
  | createPolicy body => do return .policy (← PolicyService.create env familyId body)
  | updatePolicy policyId body => do
    return .policy (← PolicyService.update env familyId policyId body)
  | deletePolicy policyId => do
    PolicyService.delete familyId policyId
    return .done
  | context => do return .context (← FamilyContextLoader.load env familyId)

/-- The body of a request. -/
def Request.run (P : Platform) (env : Env) : Request → Op Response
  | auth op => op.run P env
  | family familyId op => op.run P env familyId

/-- **Serve one request**, in its transaction. -/
def serve (P : Platform) (env : Env) (req : Request) (d : Database) :
    Except Exn Response × Database :=
  Tx.serve Exn.handled (req.run P env) d

/-- **The service**: requests, each with its environment, one after the
other. -/
def service (P : Platform) : Process Database (Env × Request) (Except Exn Response) where
  step i d := serve P i.1 i.2 d

/-! ## Fresh environments -/

/-- **What a request draws is new to the database**: no stored row has its
identifiers, its session, or the digest of its token or its code. The
digests are compared, so this is also where collisions are excluded. -/
structure Env.Fresh (P : Platform) (env : Env) (d : Database) : Prop where
  /-- New identifiers. -/
  id : ∀ T, ∀ r ∈ d.rows T, T.id r ≠ env.newId T
  /-- A new session. -/
  session : ∀ r ∈ d.refreshTokens, r.sessionId ≠ env.sessionId
  /-- A new token. -/
  token : ∀ r ∈ d.refreshTokens, r.tokenHash ≠ RefreshTokenCodec.hash P env.token
  /-- A new code. -/
  code : ∀ i ∈ d.invites, i.codeHash ≠ P.sha256 env.code

instance (P : Platform) (env : Env) (d : Database) : Decidable (env.Fresh P d) :=
  decidable_of_iff
    ((∀ T, ∀ r ∈ d.rows T, T.id r ≠ env.newId T)
      ∧ (∀ r ∈ d.refreshTokens, r.sessionId ≠ env.sessionId)
      ∧ (∀ r ∈ d.refreshTokens, r.tokenHash ≠ RefreshTokenCodec.hash P env.token)
      ∧ ∀ i ∈ d.invites, i.codeHash ≠ P.sha256 env.code)
    ⟨fun ⟨h₁, h₂, h₃, h₄⟩ => ⟨h₁, h₂, h₃, h₄⟩, fun h => ⟨h.id, h.session, h.token, h.code⟩⟩

/-- Every request of a run draws what is new to the database it meets. -/
abbrev FreshRun (P : Platform) (d : Database) (run : List (Env × Request)) : Prop :=
  (service P).Every (fun d i => i.1.Fresh P d) d run

/-! ## A platform to evaluate on

The digests are those of SHA-256 on the tokens and codes the sample
environments draw, and the key that of PBKDF2 on the sample password. -/

namespace Sample

/-- SHA-256 on the texts of the samples. -/
def sha256 : String → String
  | "refresh-1" => "bd473e5dcdce2510c2df4f0c5a54a605fa3647fe74afae20a8cdb8b91b1a1f63"
  | "refresh-2" => "f865a88f563b9fbc4c224f6fbabd2ec9f810efefc61b212bda20ee64a6fb2840"
  | "refresh-3" => "4482e973ec11c6135fee76b488ae112dbad4fd03fea792ace9c0cf7875e714fe"
  | "refresh-4" => "a0744df26f439d9e287ff8d81273a123f22276e5a264269aa343f1479ecdacbd"
  | "code-1" => "51bd6639fed7c0b4826af6c06bfe4f4cce3aa7a8db3653978cd4d88ad0a18a8a"
  | "code-2" => "0caa88c257d7122268f6494539faedf6b1d213409ff0dd264107182f174ea14a"
  | text => text

/-- The password of the samples. -/
def password : Password := ⟨"correct horse", by decide +kernel, by decide +kernel⟩

/-- The salt of the samples. -/
def salt : Salt := ⟨[0, 1, 2, 3, 4, 5, 6, 7, 8, 9, 10, 11, 12, 13, 14, 15], rfl⟩

/-- PBKDF2 on the password of the samples. -/
def pbkdf2 (password : String) (salt : List UInt8) (iterations : ℕ) : List UInt8 :=
  if password = Sample.password.text ∧ salt = Sample.salt.bytes ∧ iterations = 600000 then
    [0x96, 0xa5, 0x90, 0x4c, 0x2e, 0x08, 0xc8, 0xda, 0x42, 0x30, 0x5d, 0xbc, 0xc5, 0xd7, 0xcf,
      0x18, 0xea, 0xd2, 0x63, 0x6d, 0x49, 0xf5, 0x95, 0x26, 0xb6, 0x06, 0xf2, 0x66, 0x96, 0x28,
      0x14, 0x73]
  else []

/-- The default settings, with a refresh token that lives as long as
given. -/
def platform (refreshTtlSeconds : ℤ) : Platform where
  sha256 := sha256
  pbkdf2 := pbkdf2
  jwtEncode claims _ := claims.sub
  settings := {
    jwtIssuer := "book-recommendation-accounts"
    jwtAudience := "book-recommendation"
    jwtTtlSeconds := 3600
    jwtKeyId := none
    refreshTtlSeconds }

/-- A second of the first of January 2025, counted from its beginning. -/
def second (n : ℕ) : Datetime :=
  ⟨(63871286400 + n % 86400) * 1000000, by unfold Datetime.count; omega⟩

/-- A point of time that many seconds before the last there is. -/
def beforeEnd (n : ℕ) : Datetime :=
  ⟨Datetime.count - 1 - n * 1000000, by unfold Datetime.count; omega⟩

/-- The `k`-th environment, at a point of time. -/
def env (k : ℕ) (now : Datetime) : Env where
  now
  today := ⟨2025, 1, 1, by decide⟩
  sessionId := BitVec.ofNat 128 (1000 + k)
  token := "refresh-" ++ Nat.repr k
  code := "code-" ++ Nat.repr k
  salt
  newId _ := BitVec.ofNat 128 k

/-- A signup. -/
def signup (email : String) (inviteCode : Option String) : SignupRequest where
  email
  password
  familyName := none
  displayName := none
  role := "parent"
  languagePreference := none
  inviteCode := inviteCode.map .ofString

/-- The database after a first signup: family, member and token `1`. -/
def signedUp (refreshTtlSeconds : ℤ) : Database :=
  (serve (platform refreshTtlSeconds) (env 1 (second 0))
    (.auth (.signup (signup "ada@example.org" none))) (Store.empty schema)).2

end Sample
