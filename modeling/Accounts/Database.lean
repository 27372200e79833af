import Accounts.Relational
import Accounts.Transaction
import Accounts.Schemas
import Mathlib.Data.Fintype.Basic

/-!
# The database and the generic repository

The nine tables with their constraints, and the operations every
repository inherits: `get_many`, `get_one_or_none`, `add`, `update` and
`delete`. Each of the last three is one statement of the surrounding
transaction.

An update writes the columns that changed and the `updated_at` of the row
– nothing at all when no column changed. A delete first deletes what the
ORM cascades to: the profile of a member, the reading profile of a child.
Everything else that refers to the row makes the delete fail.
-/

/-- The tables of the `accounts` schema. -/
inductive TableName where
  /-- `family`. -/
  | family
  /-- `family_member`. -/
  | familyMember
  /-- `family_member_profile`. -/
  | familyMemberProfile
  /-- `family_reading_policy`. -/
  | familyReadingPolicy
  /-- `family_invite`. -/
  | familyInvite
  /-- `refresh_token`. -/
  | refreshToken
  /-- `child_profile`. -/
  | childProfile
  /-- `child_reading_profile`. -/
  | childReadingProfile
  /-- `reading_history`. -/
  | readingHistory
deriving DecidableEq

namespace TableName

instance : Fintype TableName where
  elems := ⟨[family, familyMember, familyMemberProfile, familyReadingPolicy, familyInvite,
    refreshToken, childProfile, childReadingProfile, readingHistory], by decide⟩
  complete T := by cases T <;> decide

/-- The rows of a table. -/
@[reducible] def Row : TableName → Type
  | family => Family
  | familyMember => FamilyMember
  | familyMemberProfile => FamilyMemberProfile
  | familyReadingPolicy => FamilyReadingPolicy
  | familyInvite => FamilyInvite
  | refreshToken => RefreshToken
  | childProfile => ChildProfile
  | childReadingProfile => ChildReadingProfile
  | readingHistory => ReadingHistory

instance decEqRow : (T : TableName) → DecidableEq T.Row
  | family => inferInstanceAs (DecidableEq Family)
  | familyMember => inferInstanceAs (DecidableEq FamilyMember)
  | familyMemberProfile => inferInstanceAs (DecidableEq FamilyMemberProfile)
  | familyReadingPolicy => inferInstanceAs (DecidableEq FamilyReadingPolicy)
  | familyInvite => inferInstanceAs (DecidableEq FamilyInvite)
  | refreshToken => inferInstanceAs (DecidableEq RefreshToken)
  | childProfile => inferInstanceAs (DecidableEq ChildProfile)
  | childReadingProfile => inferInstanceAs (DecidableEq ChildReadingProfile)
  | readingHistory => inferInstanceAs (DecidableEq ReadingHistory)

/-! ## Constraints -/

/-- The primary key. -/
@[simp] def id : (T : TableName) → T.Row → UUID
  | family, r => r.id
  | familyMember, r => r.id
  | familyMemberProfile, r => r.id
  | familyReadingPolicy, r => r.id
  | familyInvite, r => r.id
  | refreshToken, r => r.id
  | childProfile, r => r.id
  | childReadingProfile, r => r.id
  | readingHistory, r => r.id

/-- The columns declared `unique=True`. -/
def uniques : (T : TableName) → List (T.Row → Option (UUID ⊕ String))
  | familyMember => [fun r => r.email.map .inr]
  | familyMemberProfile => [fun r => some (.inl r.memberId)]
  | familyInvite => [fun r => some (.inr r.codeHash)]
  | refreshToken => [fun r => some (.inr r.tokenHash)]
  | childReadingProfile => [fun r => some (.inl r.childId)]
  | family | familyReadingPolicy | childProfile | readingHistory => []

/-- The columns declared `ForeignKey(…)`. -/
def references : (T : TableName) → List (TableName × (T.Row → Option UUID))
  | family => []
  | familyMember => [(family, fun r => some r.familyId)]
  | familyMemberProfile => [(familyMember, fun r => some r.memberId)]
  | familyReadingPolicy => [(family, fun r => some r.familyId), (childProfile, (·.childId))]
  | familyInvite => [(family, fun r => some r.familyId), (familyMember, (·.createdByMemberId))]
  | refreshToken => [(family, fun r => some r.familyId),
      (familyMember, fun r => some r.familyMemberId)]
  | childProfile => [(family, fun r => some r.familyId)]
  | childReadingProfile => [(childProfile, fun r => some r.childId)]
  | readingHistory => [(childProfile, fun r => some r.childId)]

end TableName

/-- The constraints the models declare. -/
abbrev schema : Schema TableName TableName.Row UUID (UUID ⊕ String) where
  id := TableName.id
  uniques := TableName.uniques
  references := TableName.references
  hierarchical := by
    intro T p hp
    cases T <;> simp [TableName.references] at hp
    all_goals (try rcases hp with rfl | rfl) <;> simp_all

/-- **A database**: tables that meet the constraints of the models. -/
abbrev Database : Type := Store schema

namespace Database

/-- The rows of `family`. -/
abbrev families (d : Database) : List Family := d.rows .family

/-- The rows of `family_member`. -/
abbrev members (d : Database) : List FamilyMember := d.rows .familyMember

/-- The rows of `family_member_profile`. -/
abbrev memberProfiles (d : Database) : List FamilyMemberProfile := d.rows .familyMemberProfile

/-- The rows of `family_reading_policy`. -/
abbrev policies (d : Database) : List FamilyReadingPolicy := d.rows .familyReadingPolicy

/-- The rows of `family_invite`. -/
abbrev invites (d : Database) : List FamilyInvite := d.rows .familyInvite

/-- The rows of `refresh_token`. -/
abbrev refreshTokens (d : Database) : List RefreshToken := d.rows .refreshToken

/-- The rows of `child_profile`. -/
abbrev children (d : Database) : List ChildProfile := d.rows .childProfile

/-- The rows of `child_reading_profile`. -/
abbrev readingProfiles (d : Database) : List ChildReadingProfile := d.rows .childReadingProfile

/-- The rows of `reading_history`. -/
abbrev readingHistory (d : Database) : List ReadingHistory := d.rows .readingHistory

end Database

/-! ## What a statement makes of a row -/

namespace TableName

/-- `onupdate=func.now()` of `updated_at`. -/
def touch (now : Datetime) : (T : TableName) → T.Row → T.Row
  | family, r => { r with updatedAt := now }
  | familyMember, r => { r with updatedAt := now }
  | familyMemberProfile, r => { r with updatedAt := now }
  | familyReadingPolicy, r => { r with updatedAt := now }
  | familyInvite, r => { r with updatedAt := now }
  | refreshToken, r => r
  | childProfile, r => { r with updatedAt := now }
  | childReadingProfile, r => { r with updatedAt := now }
  | readingHistory, r => { r with updatedAt := now }

/-- The row as its columns store it. Only the numeric columns of the two
profiles change or refuse a value. -/
def coerce : (T : TableName) → T.Row → Except Exn T.Row
  | familyMemberProfile, r => do
    let confidence ← r.confidence.mapM (numericColumn 1)
    return { r with confidence }
  | childReadingProfile, r => do
    let lexile ← r.lexile.mapM integerColumn
    let arLevel ← r.arLevel.mapM (numericColumn 2)
    let confidence ← r.confidence.mapM (numericColumn 1)
    return { r with lexile, arLevel, confidence }
  | family, r => .ok r
  | familyMember, r => .ok r
  | familyReadingPolicy, r => .ok r
  | familyInvite, r => .ok r
  | refreshToken, r => .ok r
  | childProfile, r => .ok r
  | readingHistory, r => .ok r

/-- **What an update stores**: the row as it was when no column changed,
else the columns as set, stamped. -/
def written (now : Datetime) (T : TableName) (old draft : T.Row) : Except Exn T.Row :=
  if draft = old then .ok old else (T.coerce draft).map (T.touch now)

/-- What deleting a row deletes first: `cascade="all, delete-orphan"` of
the one-to-one profiles. -/
def cascade : TableName → UUID → ((T : TableName) → List T.Row) → (T : TableName) → List T.Row
  | familyMember, k, t => Schema.discard familyMemberProfile (fun r => r.memberId = k) t
  | childProfile, k, t => Schema.discard childReadingProfile (fun r => r.childId = k) t
  | _, _, t => t

end TableName

/-! ## The environment of a request -/

/-- `secrets.token_bytes(_SALT_BYTES)`. -/
structure Salt where
  /-- The bytes. -/
  bytes : List UInt8
  /-- There are `_SALT_BYTES` of them. -/
  length_bytes : bytes.length = 16
deriving DecidableEq

/-- **What a request draws from outside the database**: the clock, and
fresh identifiers, tokens, codes and salts. -/
structure Env where
  /-- `datetime.now(UTC)`, and the database's `now()`. -/
  now : Datetime
  /-- `date.today()`. -/
  today : Date
  /-- The `uuid4()` of a new session. -/
  sessionId : UUID
  /-- `RefreshTokenCodec.generate()`. -/
  token : String
  /-- `InviteCodec.generate()`. -/
  code : String
  /-- The salt of a new password hash. -/
  salt : Salt
  /-- The primary key of a row inserted into each table. -/
  newId : TableName → UUID

/-- The body of a request on the database. -/
abbrev Op (α : Type) : Type := Tx Database Exn α

/-! ## The generic repository -/

namespace Repository

/-- `get_many(filters)`. -/
def getMany (T : TableName) (p : T.Row → Bool) : Op (List T.Row) :=
  Tx.read (fun d => (d.rows T).filter p)

/-- `get_one_or_none(filters)`. -/
def getOneOrNone (T : TableName) (p : T.Row → Bool) : Op (Option T.Row) := do
  match ← getMany T p with
  | [] => return none
  | [r] => return some r
  | _ => Tx.raise .repositoryError

/-- `add(row)`. -/
def add (T : TableName) (r : T.Row) : Op T.Row := Tx.flush (fun d =>
  match T.coerce r with
  | .error e => .error e
  | .ok stored =>
    match d.execute (Schema.insert T stored) with
    | none => .error .integrityError
    | some d' => .ok (stored, d'))

/-- `update(row)`, the changes to the row as a function. The row is read
again by its key first. -/
def update (env : Env) (T : TableName) (id : UUID) (changes : T.Row → Except Exn T.Row) :
    Op T.Row := Tx.flush (fun d =>
  match d.find T id with
  | none => .error .repositoryError
  | some old =>
    match changes old >>= T.written env.now old with
    | .error e => .error e
    | .ok stored =>
      match d.execute (schema.replace T stored) with
      | none => .error .integrityError
      | some d' => .ok (stored, d'))

/-- `delete(id)`. The row is read by its key first. -/
def delete (T : TableName) (id : UUID) : Op Unit := Tx.flush (fun d =>
  match d.find T id with
  | none => .error .repositoryError
  | some _ =>
    match d.execute (fun t => schema.delete T id (T.cascade id t)) with
    | none => .error .integrityError
    | some d' => .ok ((), d'))

end Repository

/-! ## What the operations do

A look-up whose filter pins a key is a plain read of the one row there
can be. The three statements are described by what they return on and by
the tables they leave. -/

/-- At most one row has a primary key. -/
theorem Database.atMostOne_of_id {T : TableName} {p : T.Row → Bool} {k : UUID}
    (hp : ∀ r, p r = true → T.id r = k) (d : Database) : Table.AtMostOne p (d.rows T) :=
  (d.consistent.key T).atMostOne (fun r hr => congrArg some (hp r hr))

/-- At most one row has a value of a unique column. -/
theorem Database.atMostOne_of_unique {T : TableName} {p : T.Row → Bool}
    {u : T.Row → Option (UUID ⊕ String)} (hu : u ∈ T.uniques) {k : UUID ⊕ String}
    (hp : ∀ r, p r = true → u r = some k) (d : Database) : Table.AtMostOne p (d.rows T) :=
  (d.consistent.unique T u hu).atMostOne hp

namespace Repository

variable {T : TableName} {env : Env} {id : UUID} {s s' : Session Database}

/-- A look-up that one row at most satisfies finds it. -/
theorem getOneOrNone_returns {p : T.Row → Bool} (h : Table.AtMostOne p (s.working.rows T)) :
    (getOneOrNone T p).Returns s ((s.working.rows T).find? p) s := by
  have hf := Table.filter_eq_find?_toList (s.working.nodup T) h
  show (match (s.working.rows T).filter p with
    | [] => (pure none : Op (Option T.Row))
    | [r] => pure (some r)
    | _ => Tx.raise .repositoryError) s = (.ok ((s.working.rows T).find? p), s)
  rw [hf]
  cases (s.working.rows T).find? p <;> rfl

/-- **A look-up by a key never meets several rows.** -/
theorem getOneOrNone_eq_read {p : T.Row → Bool}
    (h : ∀ d : Database, Table.AtMostOne p (d.rows T)) :
    getOneOrNone T p = Tx.read (fun d => (d.rows T).find? p) := by
  funext s
  exact getOneOrNone_returns (h s.working)

/-- **What `add` leaves.** -/
theorem returns_add {r a : T.Row} :
    (add T r).Returns s a s' ↔ T.coerce r = .ok a ∧
      ∃ d : Database, d.rows = Schema.insert T a s.working.rows ∧
        s' = { s with working := d } := by
  rw [add, Tx.returns_flush]
  cases T.coerce r with
  | error e => simp
  | ok stored =>
    dsimp only
    cases hx : Store.execute (Schema.insert T stored) s.working with
    | none =>
      rw [Store.execute_eq_none_iff] at hx
      simp only [reduceCtorEq, false_and, exists_false, Except.ok.injEq, false_iff, not_and,
        not_exists]
      rintro rfl d hd -
      exact hx (hd ▸ d.consistent)
    | some d' =>
      rw [Store.execute_eq_some_iff] at hx
      simp only [Except.ok.injEq, Prod.mk.injEq]
      constructor
      · rintro ⟨d, ⟨rfl, rfl⟩, rfl⟩
        exact ⟨rfl, _, hx, rfl⟩
      · rintro ⟨rfl, d, hd, rfl⟩
        exact ⟨_, ⟨rfl, rfl⟩, by rw [show d' = d from Store.ext (congrFun (hx.trans hd.symm))]⟩

/-- **What `add` raises.** -/
theorem raises_add {r : T.Row} {e : Exn} :
    (add T r).Raises s e s' ↔ s' = { s with working := s.committed } ∧
      (T.coerce r = .error e ∨ ∃ a, T.coerce r = .ok a ∧ e = .integrityError ∧
        ¬ schema.Consistent (Schema.insert T a s.working.rows)) := by
  rw [add, Tx.raises_flush]
  cases T.coerce r with
  | error e' => simp [and_comm]
  | ok stored =>
    dsimp only
    cases hx : Store.execute (Schema.insert T stored) s.working with
    | none =>
      rw [Store.execute_eq_none_iff] at hx
      simp only [Except.error.injEq, Except.ok.injEq, reduceCtorEq, false_or]
      constructor
      · rintro ⟨rfl, rfl⟩
        exact ⟨rfl, stored, rfl, rfl, hx⟩
      · rintro ⟨rfl, a, rfl, rfl, -⟩
        exact ⟨rfl, rfl⟩
    | some d' =>
      rw [Store.execute_eq_some_iff] at hx
      simp only [reduceCtorEq, false_and, Except.ok.injEq, false_or, false_iff, not_and,
        not_exists]
      rintro - a rfl -
      exact fun hno => hno (hx ▸ d'.consistent)

/-- **What `update` leaves.** -/
theorem returns_update {changes : T.Row → Except Exn T.Row} {a : T.Row} :
    (update env T id changes).Returns s a s' ↔
      ∃ old, s.working.find T id = some old ∧
        changes old >>= T.written env.now old = .ok a ∧
        ∃ d : Database, d.rows = schema.replace T a s.working.rows ∧
          s' = { s with working := d } := by
  rw [update, Tx.returns_flush]
  cases s.working.find T id with
  | none => simp
  | some old =>
    simp only [Option.some.injEq, exists_eq_left']
    cases changes old >>= T.written env.now old with
    | error e => simp
    | ok stored =>
      dsimp only
      cases hx : Store.execute (schema.replace T stored) s.working with
      | none =>
        rw [Store.execute_eq_none_iff] at hx
        simp only [reduceCtorEq, false_and, exists_false, Except.ok.injEq, false_iff, not_and,
          not_exists]
        rintro rfl d hd -
        exact hx (hd ▸ d.consistent)
      | some d' =>
        rw [Store.execute_eq_some_iff] at hx
        simp only [Except.ok.injEq, Prod.mk.injEq]
        constructor
        · rintro ⟨d, ⟨rfl, rfl⟩, rfl⟩
          exact ⟨rfl, _, hx, rfl⟩
        · rintro ⟨rfl, d, hd, rfl⟩
          exact ⟨_, ⟨rfl, rfl⟩, by
            rw [show d' = d from Store.ext (congrFun (hx.trans hd.symm))]⟩

/-- **What `delete` leaves.** -/
theorem returns_delete {a : Unit} :
    (delete T id).Returns s a s' ↔ (s.working.find T id).isSome ∧
      ∃ d : Database, d.rows = schema.delete T id (T.cascade id s.working.rows) ∧
        s' = { s with working := d } := by
  rw [delete, Tx.returns_flush]
  cases s.working.find T id with
  | none => simp
  | some old =>
    dsimp only
    cases hx : Store.execute (fun t => schema.delete T id (T.cascade id t)) s.working with
    | none =>
      rw [Store.execute_eq_none_iff] at hx
      simp only [reduceCtorEq, false_and, exists_false, Option.isSome_some, true_and, false_iff,
        not_exists, not_and]
      intro d hd
      exact absurd (hd ▸ d.consistent) hx
    | some d' =>
      rw [Store.execute_eq_some_iff] at hx
      simp only [Except.ok.injEq, Prod.mk.injEq, true_and, Option.isSome_some]
      constructor
      · rintro ⟨d, rfl, rfl⟩
        exact ⟨_, hx, rfl⟩
      · rintro ⟨d, hd, rfl⟩
        exact ⟨_, rfl, by rw [show d' = d from Store.ext (congrFun (hx.trans hd.symm))]⟩

/-- **An invariant of `add`.** -/
theorem preserves_add {I : Database → Prop} {r : T.Row}
    (h : ∀ (d d' : Database) (a : T.Row), T.coerce r = .ok a →
      d'.rows = Schema.insert T a d.rows → I d → I d') : Tx.Preserves I (add T r) := by
  refine Tx.Preserves.flush (fun d a d' hf hd => ?_)
  obtain ⟨hc, d₁, hd₁, hs⟩ := returns_add.mp
    (show (add T r).Returns ⟨d, d⟩ a ⟨d, d'⟩ from Tx.returns_flush.mpr ⟨d', hf, rfl⟩)
  cases hs
  exact h d d' a hc hd₁ hd

/-- **An invariant of `update`.** -/
theorem preserves_update {I : Database → Prop} {changes : T.Row → Except Exn T.Row}
    (h : ∀ (d d' : Database) (old a : T.Row), d.find T id = some old →
      changes old >>= T.written env.now old = .ok a →
      d'.rows = schema.replace T a d.rows → I d → I d') :
    Tx.Preserves I (update env T id changes) := by
  refine Tx.Preserves.flush (fun d a d' hf hd => ?_)
  obtain ⟨old, hold, hw, d₁, hd₁, hs⟩ := returns_update.mp
    (show (update env T id changes).Returns ⟨d, d⟩ a ⟨d, d'⟩ from
      Tx.returns_flush.mpr ⟨d', hf, rfl⟩)
  cases hs
  exact h d d' old a hold hw hd₁ hd

/-- An insert leaves every other table alone. -/
theorem frame_add {T' : TableName} {rows : List T'.Row} (r : T.Row) (h : T' ≠ T) :
    Tx.Preserves (fun d : Database => d.rows T' = rows) (add T r) :=
  preserves_add (fun _ _ _ _ hd' hd => by rwa [hd', Schema.insert_of_ne h])

/-- An update leaves every other table alone. -/
theorem frame_update {T' : TableName} {rows : List T'.Row} (changes : T.Row → Except Exn T.Row)
    (h : T' ≠ T) :
    Tx.Preserves (fun d : Database => d.rows T' = rows) (update env T id changes) :=
  preserves_update (fun _ _ _ _ _ _ hd' hd => by rwa [hd', Schema.replace_of_ne h])

end Repository

/-! ## Updates that keep the keys

Every update of the services keeps the constrained columns, so the only
way it can fail is by a `null` or a number that its column refuses. -/

namespace TableName

variable {T : TableName}

theorem coerce_sameKeys {r stored : T.Row} (h : T.coerce r = .ok stored) :
    schema.SameKeys T stored r := by
  cases T
  case familyMemberProfile =>
    obtain ⟨c, -, hc⟩ := Except.bind_eq_ok_iff.mp h
    cases hc
    exact ⟨rfl, by simp [uniques], by simp [references]⟩
  case childReadingProfile =>
    obtain ⟨l, -, h⟩ := Except.bind_eq_ok_iff.mp h
    obtain ⟨a, -, h⟩ := Except.bind_eq_ok_iff.mp h
    obtain ⟨c, -, hc⟩ := Except.bind_eq_ok_iff.mp h
    cases hc
    exact ⟨rfl, by simp [uniques], by simp [references]⟩
  all_goals
    cases h
    exact ⟨rfl, fun _ _ => rfl, fun _ _ => rfl⟩

theorem touch_sameKeys (now : Datetime) (r : T.Row) : schema.SameKeys T (T.touch now r) r := by
  cases T <;> exact ⟨rfl, by simp [uniques, touch], by simp [references, touch]⟩

/-- **What is written has the keys of the draft.** -/
theorem written_sameKeys {now : Datetime} {old draft stored : T.Row}
    (hd : schema.SameKeys T draft old) (h : T.written now old draft = .ok stored) :
    schema.SameKeys T stored old := by
  unfold written at h
  split at h
  · cases h
    exact ⟨rfl, fun _ _ => rfl, fun _ _ => rfl⟩
  · cases hc : T.coerce draft with
    | error e =>
      rw [hc] at h
      cases h
    | ok c =>
      rw [hc] at h
      cases h
      exact (touch_sameKeys now c).trans ((coerce_sameKeys hc).trans hd)

end TableName

/-- **An update of a row that is there, to a row with the same keys,
returns.** -/
theorem Repository.update_returns {T : TableName} (env : Env) {id : UUID}
    (changes : T.Row → Except Exn T.Row) {s : Session Database} {old stored : T.Row}
    (hold : s.working.find T id = some old)
    (hc : changes old >>= T.written env.now old = .ok stored)
    (hk : schema.SameKeys T stored old) :
    ∃ d : Database, d.rows = schema.replace T stored s.working.rows ∧
      (Repository.update env T id changes).Returns s stored { s with working := d } := by
  have hmem := (Store.find_eq_some_iff.mp hold).1
  exact ⟨⟨_, s.working.consistent.replace hmem hk⟩, rfl,
    Repository.returns_update.mpr ⟨old, hold, hc, _, rfl, rfl⟩⟩
