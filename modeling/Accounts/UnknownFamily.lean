import Accounts.Faces
import Accounts.Isolation

/-!
# A family that is not there

The internal face takes the family from the caller. An operation that
looks up a row of the family does not find one, and raises `NotFoundError`
– as does the route of the context bundle. An operation that only inserts
gets as far as the foreign key: the creation of a child and of a policy
about no child end in an exception nobody handles, and the creation of a
member is told that its email is taken, whether it has one or not.

`unknown_family_not_found` says that this is all: nothing is ever written,
and the answer is `NotFoundError` exactly where something is looked up.
-/

open Repository

variable {P : Platform} {env : Env} {d : Database} {f : UUID}

/-! ## The routes of the internal face -/

/-- **The body of a route of the internal face**: `get_family_context`
raises where the loader finds no family, the others return what the
service returns. -/
def FamilyOp.internalRoute (P : Platform) (env : Env) (familyId : UUID) : FamilyOp → Op Response
  | context => do
    match ← FamilyContextLoader.load env familyId with
    | none => Tx.raise .notFound
    | some bundle => return .context (some bundle)
  | op => op.run P env familyId

/-- **Serve one request of the internal face**, in its transaction. -/
def serveInternal (P : Platform) (env : Env) (familyId : UUID) (op : FamilyOp) (d : Database) :
    Except Exn Response × Database :=
  Tx.serve Exn.handled (op.internalRoute P env familyId) d

/-- **The operation looks something up** before it writes: it is neither the
creation of a child or a member, nor of a policy that names no child. -/
def FamilyOp.looksUp : FamilyOp → Bool
  | createChild _ | createMember _ => false
  | createPolicy body => body.childId.isSome
  | _ => true

/-- **No family has the identifier.** -/
def UnknownFamily (f : UUID) (d : Database) : Prop := f ∉ d.families.map Family.id

instance (f : UUID) (d : Database) : Decidable (UnknownFamily f d) :=
  inferInstanceAs (Decidable (¬ _))

/-! ## Looking up -/

namespace UnknownFamily

/-- No member is a member of the family. -/
theorem no_member (h : UnknownFamily f d) (id : UUID) :
    ¬ ∃ r ∈ d.members, r.id = id ∧ r.familyId = f := by
  rintro ⟨r, hr, -, rfl⟩
  exact h (d.consistent.reference .familyMember (.family, fun r => some r.familyId)
    (List.mem_singleton.mpr rfl) r hr _ rfl)

/-- No child is a child of the family. -/
theorem no_child (h : UnknownFamily f d) (p : ChildProfile → Prop) :
    ¬ ∃ r ∈ d.children, p r ∧ r.familyId = f := by
  rintro ⟨r, hr, -, rfl⟩
  exact h (d.consistent.reference .childProfile (.family, fun r => some r.familyId)
    (List.mem_singleton.mpr rfl) r hr _ rfl)

/-- No policy is one of the family. -/
theorem no_policy (h : UnknownFamily f d) (id : UUID) :
    ¬ ∃ r ∈ d.policies, r.id = id ∧ r.familyId = f := by
  rintro ⟨r, hr, -, rfl⟩
  exact h (d.consistent.reference .familyReadingPolicy (.family, fun r => some r.familyId)
    List.mem_cons_self r hr _ rfl)

/-- **An operation that looks something up** addresses a row outside the
family. -/
theorem not_addressesOwn (h : UnknownFamily f d) {op : FamilyOp} (hint : op.internal = true)
    (hlooks : op.looksUp = true) (hcontext : op ≠ .context) : ¬ op.AddressesOwn f d := by
  cases op with
  | context => exact absurd rfl hcontext
  | updateMember memberId _ | upsertProfile memberId _ => exact h.no_member memberId
  | updateChild childId _ | upsertReadingProfile childId _ | listReadingHistory childId
  | addReadingHistory childId _ => exact h.no_child (·.id = childId)
  | updateReadingHistory childId entryId _ => exact fun hown => h.no_child (·.id = childId) hown.1
  | createPolicy body =>
    obtain ⟨text, htext⟩ := Option.isSome_iff_exists.mp hlooks
    exact fun hown => h.no_child (fun r => UUID.ofString text = some r.id) (hown text htext)
  | updatePolicy policyId _ => exact h.no_policy policyId
  | _ => first
    | exact Bool.noConfusion hint
    | exact Bool.noConfusion hlooks

end UnknownFamily

/-- **The context bundle of a family that is not there** is none. -/
theorem FamilyContextLoader.load_unknown (h : UnknownFamily f d) (s : Session Database)
    (hs : s.working = d) : (load env f).Returns s none s := by
  have hnone : s.working.families.find? (fun r => r.id = f) = none := by
    rw [hs]
    refine List.find?_eq_none.mpr (fun r hr hid => h (List.mem_map.mpr ⟨r, hr, ?_⟩))
    simpa using hid
  rw [load, FamilyRepository.get_eq_read]
  exact Tx.returns_bind.mpr ⟨none, s, Tx.returns_read.mpr ⟨hnone.symm, rfl⟩,
    Tx.returns_pure.mpr ⟨rfl, rfl⟩⟩

/-! ## Inserting -/

/-- **A row that refers to nothing** cannot be inserted. -/
theorem not_consistent_insert {T : TableName} {t : (T : TableName) → List T.Row} {r : T.Row}
    (hc : schema.Consistent t) {p : TableName × (T.Row → Option UUID)} (hp : p ∈ T.references)
    {k : UUID} (hk : p.2 r = some k) (hno : k ∉ (t p.1).map p.1.id) :
    ¬ schema.Consistent (Schema.insert T r t) :=
  fun h => hno (((Schema.consistent_insert_iff hc).mp h).2.2 p hp k hk)

namespace UnknownFamily

/-- Adding a row of the family fails at the foreign key. -/
theorem add_raises (h : UnknownFamily f d) {T : TableName} {r : T.Row}
    (hcoerce : T.coerce r = .ok r) {fk : T.Row → Option UUID}
    (hfk : (TableName.family, fk) ∈ T.references) (hr : fk r = some f) :
    (add T r).Raises ⟨d, d⟩ .integrityError ⟨d, d⟩ :=
  raises_add.mpr ⟨rfl, Or.inr ⟨r, hcoerce, rfl, not_consistent_insert d.consistent hfk hr h⟩⟩

/-- **The creation of a child** ends in an exception nobody handles. -/
theorem createChild_raises (h : UnknownFamily f d) (body : ChildCreate) :
    ((FamilyOp.createChild body).run P env f).Raises ⟨d, d⟩ .integrityError ⟨d, d⟩ :=
  Tx.raises_bind.mpr (Or.inl (Tx.raises_bind.mpr (Or.inl
    (h.add_raises (T := .childProfile) rfl (List.mem_singleton.mpr rfl) rfl))))

/-- **The creation of a policy about no child** ends in an exception nobody
handles. -/
theorem createPolicy_raises (h : UnknownFamily f d) {body : PolicyCreate}
    (hchild : body.childId = none) :
    ((FamilyOp.createPolicy body).run P env f).Raises ⟨d, d⟩ .integrityError ⟨d, d⟩ := by
  have hresolve : (PolicyService.resolveChild body.childId f).Returns ⟨d, d⟩ none ⟨d, d⟩ := by
    rw [hchild]
    exact Tx.returns_pure.mpr ⟨rfl, rfl⟩
  exact Tx.raises_bind.mpr (Or.inl (Tx.raises_bind.mpr (Or.inr ⟨none, _, hresolve,
    h.add_raises (T := .familyReadingPolicy) rfl List.mem_cons_self rfl⟩)))

/-- **The creation of a member** is told that the email is taken. -/
theorem createMember_raises (h : UnknownFamily f d) (body : MemberCreate) :
    ((FamilyOp.createMember body).run P env f).Raises ⟨d, d⟩ .emailRegistered ⟨d, d⟩ := by
  have hinsert : (MemberService.insert P env f body).Raises ⟨d, d⟩ .emailRegistered ⟨d, d⟩ :=
    Tx.raises_bind.mpr (Or.inl (Tx.raises_mapError.mpr ⟨.integrityError,
      h.add_raises (T := .familyMember) rfl (List.mem_singleton.mpr rfl) rfl, rfl⟩))
  refine Tx.raises_bind.mpr (Or.inl (Tx.raises_bind.mpr ?_))
  rcases Tx.returns_or_raises (MemberService.checkEmail body) ⟨d, d⟩ with
    ⟨a, s, hret⟩ | ⟨e, s, hraise⟩
  · obtain rfl := (MemberService.checkEmail_returns.mp hret).2
    exact Or.inr ⟨a, _, hret, hinsert⟩
  · obtain rfl := MemberService.checkEmail_raises hraise
    obtain rfl := (MemberService.reads_checkEmail body).raises hraise
    exact Or.inl hraise

end UnknownFamily

/-! ## The result -/

/-- **An unknown family is a 404 where something is looked up.** On every
database that meets its constraints, an operation of the internal face
with a family that is not there changes nothing, whatever its body; and it
ends in `NotFoundError` exactly when it is not one that only inserts. -/
theorem unknown_family_not_found (P : Platform) (env : Env) (d : Database) (f : UUID)
    (op : FamilyOp) (hint : op.internal = true) (hf : UnknownFamily f d) :
    (serveInternal P env f op d).2 = d ∧
      ((serveInternal P env f op d).1 = .error .notFound ↔ op.looksUp = true) := by
  have hserve : ∀ {e : Exn}, (op.internalRoute P env f).Raises ⟨d, d⟩ e ⟨d, d⟩ →
      serveInternal P env f op d = (.error e, d) :=
    fun h => Tx.serve_error_iff.mpr ⟨_, h, by split <;> rfl⟩
  by_cases hlooks : op.looksUp = true
  · have hraise : (op.internalRoute P env f).Raises ⟨d, d⟩ .notFound ⟨d, d⟩ := by
      by_cases hcontext : op = .context
      · subst hcontext
        exact Tx.raises_bind.mpr (Or.inr ⟨none, _, FamilyContextLoader.load_unknown hf _ rfl,
          Tx.raises_raise.mpr ⟨rfl, rfl⟩⟩)
      · have hrun : (op.run P env f).Raises ⟨d, d⟩ .notFound ⟨d, d⟩ :=
          FamilyOp.run_raises (hf.not_addressesOwn hint hlooks hcontext)
        cases op <;> first
          | exact hrun
          | exact absurd rfl hcontext
    rw [hserve hraise]
    exact ⟨rfl, iff_of_true rfl hlooks⟩
  · have hraise : ∃ e, e ≠ .notFound ∧ (op.internalRoute P env f).Raises ⟨d, d⟩ e ⟨d, d⟩ := by
      cases op with
      | createChild body => exact ⟨_, by decide, hf.createChild_raises (P := P) body⟩
      | createMember body => exact ⟨_, by decide, hf.createMember_raises body⟩
      | createPolicy body =>
        exact ⟨_, by decide,
          hf.createPolicy_raises (P := P) (by simpa [FamilyOp.looksUp] using hlooks)⟩
      | _ => exact absurd rfl hlooks
    obtain ⟨e, hne, he⟩ := hraise
    rw [hserve he]
    exact ⟨rfl, iff_of_false (fun h => hne (Except.error.inj h)) hlooks⟩

/-- The context bundle of a family that is not there. -/
theorem unknown_family_not_found_context :
    (serveInternal (Sample.platform 2592000) (Sample.env 2 (Sample.second 1)) 7 .context
        (Sample.signedUp 2592000)).1 = .error .notFound :=
  (unknown_family_not_found (Sample.platform 2592000) (Sample.env 2 (Sample.second 1))
    (Sample.signedUp 2592000) 7 .context rfl (by decide +kernel)).2.mpr rfl

/-- A child nothing is known of. -/
def Sample.child : ChildCreate where
  displayName := some "Cleo"
  aliases := []
  gender := none
  birthDate := none
  grade := none
  schoolSystem := none
  countryOrCurriculum := none
  primaryLanguage := none
  readingLanguage := none
  notes := none

/-- A member nothing is known of, without an email. -/
def Sample.guest : MemberCreate where
  displayName := some "Cleo"
  role := "member"
  gender := none
  birthDate := none
  languagePreference := none
  email := none
  password := none

/-- A policy about the whole family. -/
def Sample.policy : PolicyCreate where
  childId := none
  goals := []
  constraints := []
  avoidTopics := []
  contentPreferences := .obj []
  notes := none
  isActive := true

/-- **Creating something in a family that is not there**: a child or a
policy is an unhandled error, a member without an email has a taken one. -/
theorem unknown_family_not_found_create :
    let answer op := (serveInternal (Sample.platform 2592000) (Sample.env 2 (Sample.second 1)) 7 op
      (Sample.signedUp 2592000)).1
    UnknownFamily 7 (Sample.signedUp 2592000) ∧
      answer (.createChild Sample.child) = .error .integrityError ∧
      answer (.createPolicy Sample.policy) = .error .integrityError ∧
      answer (.createMember Sample.guest)
        = .error (.service (.conflict "email already registered")) := by
  decide +kernel
