import Accounts.Merges

/-!
# Upserts

`upsert_profile` and `upsert_reading_profile` have two branches: where there
is a row they set the fields of the body on it, and where there is none they
insert a row made of the body. The branches agree on values. On an explicit
`null` they do not: an insert leaves the column to its default, an update
writes the `null` – which `source` stores and `concerns` refuses.

So a first upsert with a `null` in one of the two is not what the second one
makes of it (`upserts_idempotent_source`), and that is all there is:
`upserts_idempotent` says for which bodies and states an upsert may be
repeated, and made on an empty profile as well as on none. A child is given
a reading profile with it, so the second branch of its upsert is never
taken.
-/

open Repository TableName

variable {P : Platform} {env e e' : Env} {d d' : Database} {f : UUID} {T : TableName}

/-! ## What an upsert yields -/

/-- A profile but for its id and timestamps. -/
def FamilyMemberProfile.content (r : FamilyMemberProfile) : FamilyMemberProfile :=
  { r with id := 0, createdAt := .first, updatedAt := .first }

/-- A reading profile but for its id and timestamps. -/
def ChildReadingProfile.content (r : ChildReadingProfile) : ChildReadingProfile :=
  { r with id := 0, createdAt := .first, updatedAt := .first }

/-- The profile a request answers with, if it does. -/
def profileOf : Except Exn Response → Option FamilyMemberProfile
  | .ok (.profile r) => some r.content
  | _ => none

/-- The reading profile a request answers with, if it does. -/
def readingProfileOf : Except Exn Response → Option ChildReadingProfile
  | .ok (.readingProfile r) => some r.content
  | _ => none

/-- `PUT` of the profile of a member. -/
def FamilyMember.put (P : Platform) (env : Env) (m : FamilyMember) (b : MemberProfileUpsert)
    (d : Database) : Except Exn Response × Database :=
  serve P env (.family m.familyId (.upsertProfile m.id b)) d

/-- `PUT` of the reading profile of a child. -/
def ChildProfile.put (P : Platform) (env : Env) (c : ChildProfile) (b : ReadingProfileUpsert)
    (d : Database) : Except Exn Response × Database :=
  serve P env (.family c.familyId (.upsertReadingProfile c.id b)) d

/-- The body that sets nothing. -/
def MemberProfileUpsert.empty : MemberProfileUpsert := ⟨none, none, none, none, none, none⟩

theorem MemberProfileUpsert.fits_empty : (Patch.memberProfile .empty).Fits := by
  rintro q ⟨⟩

/-- **The body sets no column with a default to `null`.** -/
def MemberProfileUpsert.KeepsDefaults (b : MemberProfileUpsert) : Prop :=
  b.concerns ≠ some none ∧ b.source ≠ some none

theorem FamilyMemberProfile.content_eq {r r' : FamilyMemberProfile}
    (h : SameUpToStamp (T := .familyMemberProfile) r r') : r.content = r'.content := by
  have ht := congrArg FamilyMemberProfile.content (h .first)
  exact ht

theorem ChildReadingProfile.content_eq {r r' : ChildReadingProfile}
    (h : SameUpToStamp (T := .childReadingProfile) r r') : r.content = r'.content := by
  have ht := congrArg ChildReadingProfile.content (h .first)
  exact ht

/-! ## On a row that is there -/

namespace BodyField

variable {α : Type}

@[simp] theorem merge_self (field : BodyField α) : field.merge field = field := by
  cases field <;> rfl

/-- Set on an empty column, a field leaves what is given. -/
theorem nullable_none_right (field : BodyField α) : field.nullable none = field.given := by
  rcases field with _ | _ | a <;> rfl

/-- Set on what is given, it leaves it. -/
theorem nullable_given (field : BodyField α) : field.nullable field.given = field.given := by
  rcases field with _ | _ | a <;> rfl

/-- A column keeps its default where the field is not `null`. -/
theorem nullable_default {field : BodyField α} (h : field ≠ some none) (default : α) :
    field.nullable (some default) = some (field.given.getD default) := by
  rcases field with _ | _ | a
  · rfl
  · exact absurd rfl h
  · rfl

@[simp] theorem getD_given_getD (field : BodyField α) (default : α) :
    field.given.getD (field.given.getD default) = field.given.getD default := by
  rcases field with _ | _ | a <;> rfl

end BodyField

namespace Patch

/-- A body after itself is itself. -/
@[simp] theorem merge_self (p : Patch T) : p.merge p = p := by
  cases p <;> simp [merge]

/-- **An update that cannot be stored** fails. -/
theorem serve_of_not_stores {p : Patch T} {r : T.Row} (hr : r ∈ d.rows T)
    (hown : Owns d.rows f T r) (hstored : T.coerce r = .ok r) (h : ¬ ∃ c, p.stores r = .ok c)
    (env : Env) : ∃ x, serve P env (.family f (p.op r)) d = (.error x, d) := by
  cases hw : p.applyChanges r >>= T.written env.now r with
  | ok r' =>
    obtain ⟨c, hc, -⟩ := stores_of_written hstored hw
    exact absurd ⟨c, hc⟩ h
  | error x => exact ⟨x, serve_error hr hown hw⟩

/-- **An update of a row that is there may be repeated**: it fails again, or
makes the same of the row. -/
theorem serve_twice (p : Patch T) {r : T.Row} (hr : r ∈ d.rows T) (hown : Owns d.rows f T r)
    (hstored : T.coerce r = .ok r) (e e' : Env) :
    let once := serve P e (.family f (p.op r)) d
    let twice := serve P e' (.family f (p.op r)) once.2
    (∃ x x', once.1 = .error x ∧ twice.1 = .error x') ∨
      ∃ a b, once.1 = .ok (p.response a) ∧ twice.1 = .ok (p.response b) ∧ SameUpToStamp b a := by
  intro once twice
  by_cases hok : ∃ c, p.stores r = .ok c
  · obtain ⟨c, hc⟩ := hok
    obtain ⟨a, d₁, hs, hup⟩ : ∃ a d₁, serve P e (.family f (p.op r)) d = (.ok (p.response a), d₁) ∧
        p.Updated d d₁ r a := serve_of_stores hr hown hstored hc
    obtain ⟨c', hc'⟩ := exists_stores_of hstored hup.coerce hc
    obtain ⟨b, d₂, hs', hup'⟩ : ∃ b d₂,
        serve P e' (.family f (p.op a)) d₁ = (.ok (p.response b), d₂) ∧ p.Updated d₁ d₂ a b :=
      serve_of_stores (hup.mem hr) (hup.owns hr hown) hup.coerce hc'
    rw [p.op_congr hup.keys] at hs'
    have htwice : twice = (.ok (p.response b), d₂) := by
      show serve P e' _ (serve P e _ d).2 = _
      rw [hs]
      exact hs'
    have hmerged := hup.merge hup'
    rw [merge_self] at hmerged
    exact Or.inr ⟨a, b, congrArg Prod.fst hs, congrArg Prod.fst htwice, hmerged.sameUpToStamp hup⟩
  · obtain ⟨x, hx⟩ := serve_of_not_stores (P := P) hr hown hstored hok e
    obtain ⟨x', hx'⟩ := serve_of_not_stores (P := P) hr hown hstored hok e'
    refine Or.inl ⟨x, x', congrArg Prod.fst hx, ?_⟩
    show (serve P e' _ (serve P e _ d).2).1 = _
    rw [hx]
    exact congrArg Prod.fst hx'

end Patch

/-- The profile of a member is the family's. -/
theorem FamilyMember.owns_profile {m : FamilyMember} (hm : m ∈ d.members)
    {r : FamilyMemberProfile} (hid : r.memberId = m.id) :
    Owns d.rows m.familyId .familyMemberProfile r := by
  rw [Owns, TableName.scope, hid]
  exact d.consistent.familyOf_member hm

/-- So is the reading profile of a child. -/
theorem ChildProfile.owns_readingProfile {c : ChildProfile} (hc : c ∈ d.children)
    {r : ChildReadingProfile} (hid : r.childId = c.id) :
    Owns d.rows c.familyId .childReadingProfile r := by
  rw [Owns, TableName.scope, hid]
  exact d.consistent.familyOf_child hc

/-- Of a member with a profile. -/
theorem FamilyMember.put_twice {m : FamilyMember} (hm : m ∈ d.members) {r : FamilyMemberProfile}
    (hr : r ∈ d.memberProfiles) (hid : r.memberId = m.id)
    (hstored : TableName.coerce .familyMemberProfile r = .ok r) (b : MemberProfileUpsert)
    (e e' : Env) :
    profileOf (m.put P e' b (m.put P e b d).2).1 = profileOf (m.put P e b d).1 := by
  have hown := m.owns_profile hm hid
  have h := (Patch.memberProfile b).serve_twice (P := P) (T := .familyMemberProfile) hr hown hstored
    e e'
  rw [show (Patch.memberProfile b).op r = .upsertProfile m.id b by rw [Patch.op, hid]] at h
  rcases h with ⟨x, x', hx, hx'⟩ | ⟨a, a', ha, ha', hsame⟩
  · rw [put, put, hx, hx']
    rfl
  · rw [put, put, ha, ha']
    exact congrArg some (FamilyMemberProfile.content_eq hsame)

/-- What it yields is what the update makes of the profile. -/
theorem FamilyMember.profileOf_put {m : FamilyMember} (hm : m ∈ d.members)
    {r : FamilyMemberProfile} (hr : r ∈ d.memberProfiles) (hid : r.memberId = m.id)
    (hstored : TableName.coerce .familyMemberProfile r = .ok r) (b : MemberProfileUpsert)
    (e : Env) :
    profileOf (m.put P e b d).1
      = ((Patch.memberProfile b).stores r).toOption.map FamilyMemberProfile.content := by
  have hown := m.owns_profile hm hid
  have hop : (Patch.memberProfile b).op r = .upsertProfile m.id b := by rw [Patch.op, hid]
  rw [put, ← hop]
  cases hs : (Patch.memberProfile b).stores r with
  | ok c =>
    obtain ⟨a, d', hserve, hup⟩ : ∃ (a : FamilyMemberProfile) (d' : Database),
        serve P e (.family m.familyId ((Patch.memberProfile b).op r)) d = (.ok (.profile a), d') ∧
          (Patch.memberProfile b).Updated d d' r a :=
      Patch.serve_of_stores (T := .familyMemberProfile) hr hown hstored hs
    obtain ⟨c', hc', ha⟩ := hup.stores
    obtain rfl := Except.ok.inj (hs.symm.trans hc')
    rw [hserve]
    exact congrArg some (FamilyMemberProfile.content_eq ha)
  | error x =>
    obtain ⟨x', hserve⟩ := Patch.serve_of_not_stores (P := P) (T := .familyMemberProfile) hr hown
      hstored (p := .memberProfile b) (by rintro ⟨c, hc⟩; rw [hs] at hc; cases hc) e
    rw [hserve]
    rfl

/-- Of a child with a reading profile. -/
theorem ChildProfile.put_twice {c : ChildProfile} (hc : c ∈ d.children) {r : ChildReadingProfile}
    (hr : r ∈ d.readingProfiles) (hid : r.childId = c.id)
    (hstored : TableName.coerce .childReadingProfile r = .ok r) (b : ReadingProfileUpsert)
    (e e' : Env) :
    readingProfileOf (c.put P e' b (c.put P e b d).2).1 = readingProfileOf (c.put P e b d).1 := by
  have hown := c.owns_readingProfile hc hid
  have h := (Patch.readingProfile b).serve_twice (P := P) (T := .childReadingProfile) hr hown
    hstored e e'
  rw [show (Patch.readingProfile b).op r = .upsertReadingProfile c.id b by rw [Patch.op, hid]] at h
  rcases h with ⟨x, x', hx, hx'⟩ | ⟨a, a', ha, ha', hsame⟩
  · rw [put, put, hx, hx']
    rfl
  · rw [put, put, ha, ha']
    exact congrArg some (ChildReadingProfile.content_eq hsame)

/-! ## Where there is none -/

namespace MemberService

/-- The profile is inserted as its columns store it. -/
theorem coerce_newProfile {env : Env} {k : UUID} {b : MemberProfileUpsert} :
    (∃ c, TableName.coerce .familyMemberProfile (newProfile env k b) = .ok c) ↔
      (Patch.memberProfile b).Fits := by
  have hgiven : b.confidence.given = b.confidence.nullable none := by
    rcases b.confidence with _ | _ | q <;> rfl
  rw [exists_coerce_memberProfile, newProfile, hgiven,
    BodyField.exists_mapM_nullable rfl, forall_numericColumn_iff]
  rfl

/-- Only the id and the timestamps of it depend on when it is inserted. -/
theorem content_newProfile {k : UUID} {b : MemberProfileUpsert} {c c' : FamilyMemberProfile}
    (hc : TableName.coerce .familyMemberProfile (newProfile e k b) = .ok c)
    (hc' : TableName.coerce .familyMemberProfile (newProfile e' k b) = .ok c') :
    c.content = c'.content := by
  obtain ⟨confidence, hconf, hc⟩ := Except.bind_eq_ok_iff.mp hc
  cases hc
  obtain ⟨confidence', hconf', hc'⟩ := Except.bind_eq_ok_iff.mp hc'
  cases hc'
  obtain rfl := Except.ok.inj (hconf.symm.trans hconf')
  rfl

/-- **Setting the fields of a body on a row of defaults** is making the row
of the body. -/
theorem applyChanges_newProfile_empty {k : UUID} {b : MemberProfileUpsert}
    (h : b.KeepsDefaults) :
    (newProfile env k .empty).applyChanges b = .ok (newProfile env k b) := by
  refine Except.bind_eq_ok_iff.mpr
    ⟨_, BodyField.required_eq_ok_iff.mpr ⟨h.1, rfl⟩, ?_⟩
  simp only [newProfile, MemberProfileUpsert.empty, BodyField.given, Option.join_none]
  simp only [BodyField.nullable_none_right, BodyField.nullable_default h.2, Option.getD_none]
  rfl

/-- **Setting them on the row made of the body** changes nothing. -/
theorem applyChanges_newProfile_self {k : UUID} {b : MemberProfileUpsert}
    (h : b.KeepsDefaults) : (newProfile env k b).applyChanges b = .ok (newProfile env k b) := by
  refine Except.bind_eq_ok_iff.mpr
    ⟨_, BodyField.required_eq_ok_iff.mpr ⟨h.1, rfl⟩, ?_⟩
  simp only [newProfile, BodyField.nullable_given, BodyField.nullable_default h.2,
    BodyField.getD_given_getD]
  rfl

/-- **A `null` for a column with a default** is refused, or stored in place
of the default. -/
theorem source_of_stores {r c : FamilyMemberProfile} {b : MemberProfileUpsert}
    (h : (Patch.memberProfile b).stores r = .ok c) (hb : ¬ b.KeepsDefaults) : c.source = none := by
  obtain ⟨draft, hdraft, hc⟩ := Except.bind_eq_ok_iff.mp h
  obtain ⟨concerns, hconcerns, hdraft⟩ := Except.bind_eq_ok_iff.mp hdraft
  cases hdraft
  obtain ⟨confidence, -, hc⟩ := Except.bind_eq_ok_iff.mp hc
  cases hc
  have hnull := (BodyField.required_eq_ok_iff.mp hconcerns).1
  have hsource : b.source = some none := by
    by_contra hne
    exact hb ⟨hnull, hne⟩
  show b.source.nullable r.source = none
  rw [hsource]
  rfl

/-- A member without a profile is found to have none. -/
theorem findProfile_none {m : FamilyMember} (hm : m ∈ d.members)
    (hnone : ∀ r ∈ d.memberProfiles, r.memberId ≠ m.id) :
    (findProfile m.familyId m.id).Returns ⟨d, d⟩ none ⟨d, d⟩ := by
  refine Tx.returns_bind.mpr ⟨m, _, require_returns.mpr ⟨hm, rfl, rfl, rfl⟩, ?_⟩
  rw [FamilyMemberProfileRepository.getByMember_eq_read]
  refine Tx.returns_read.mpr ⟨?_, rfl⟩
  exact (List.find?_eq_none.mpr (fun r hr => by simpa using hnone r hr)).symm

/-- An insert leaves no column with a default empty. -/
theorem source_of_newProfile {k : UUID} {b : MemberProfileUpsert} {c : FamilyMemberProfile}
    (hc : TableName.coerce .familyMemberProfile (newProfile env k b) = .ok c) :
    c.source ≠ none := by
  obtain ⟨confidence, -, hc⟩ := Except.bind_eq_ok_iff.mp hc
  cases hc
  exact Option.some_ne_none _

/-- **Where there is no profile**, one is inserted, if its number fits. -/
theorem putProfile_insert (hf : env.Fresh P d) {m : FamilyMember} (hm : m ∈ d.members)
    (hnone : ∀ r ∈ d.memberProfiles, r.memberId ≠ m.id) {b : MemberProfileUpsert}
    {c : FamilyMemberProfile}
    (hc : TableName.coerce .familyMemberProfile (newProfile env m.id b) = .ok c) :
    ∃ d' : Database, d'.rows = Schema.insert .familyMemberProfile c d.rows ∧
      (putProfile env m.id b none).Returns ⟨d, d⟩ c ⟨d, d'⟩ := by
  have hkeys := coerce_sameKeys hc
  have hid : c.id = env.newId .familyMemberProfile := hkeys.id
  have hmember : c.memberId = m.id := Option.some.inj (hkeys.reference _ List.mem_cons_self)
  have hcons : schema.Consistent (Schema.insert .familyMemberProfile c d.rows) := by
    refine (Schema.consistent_insert_iff d.consistent).mpr
      ⟨fun r hr => ?_, fun u hu k hk r hr h => ?_, fun p hp k hk => ?_⟩
    · show r.id ≠ c.id
      rw [hid]
      exact hf.id .familyMemberProfile r hr
    · obtain rfl := List.mem_singleton.mp hu
      obtain rfl := Option.some.inj hk
      exact hnone r hr (by simpa [hmember] using h)
    · obtain rfl := List.mem_singleton.mp hp
      obtain rfl := Option.some.inj hk
      rw [show c.memberId = _ from hmember]
      exact List.mem_map_of_mem hm
  exact ⟨⟨_, hcons⟩, rfl, returns_add.mpr ⟨hc, ⟨_, hcons⟩, rfl, rfl⟩⟩

/-- So an upsert inserts it. -/
theorem put_insert (hf : env.Fresh P d) {m : FamilyMember} (hm : m ∈ d.members)
    (hnone : ∀ r ∈ d.memberProfiles, r.memberId ≠ m.id) {b : MemberProfileUpsert}
    {c : FamilyMemberProfile}
    (hc : TableName.coerce .familyMemberProfile (newProfile env m.id b) = .ok c) :
    ∃ d' : Database, m.put P env b d = (.ok (.profile c), d') ∧
      d'.rows = Schema.insert .familyMemberProfile c d.rows := by
  obtain ⟨d', hrows, hput⟩ := putProfile_insert hf hm hnone hc
  refine ⟨d', Tx.serve_ok_iff.mpr ⟨⟨d, d'⟩, ?_, rfl⟩, hrows⟩
  exact Tx.returns_bind.mpr ⟨c, _, Tx.returns_bind.mpr ⟨none, _, findProfile_none hm hnone, hput⟩,
    Tx.returns_pure.mpr ⟨rfl, rfl⟩⟩

/-- And inserts none if it does not. -/
theorem put_error {m : FamilyMember} (hm : m ∈ d.members)
    (hnone : ∀ r ∈ d.memberProfiles, r.memberId ≠ m.id) {b : MemberProfileUpsert} {x : Exn}
    (hc : TableName.coerce .familyMemberProfile (newProfile env m.id b) = .error x) :
    m.put P env b d = (.error x, d) := by
  refine Tx.serve_error_iff.mpr ⟨⟨d, d⟩, ?_, by rw [ite_self]⟩
  refine Tx.raises_bind.mpr (Or.inl (Tx.raises_bind.mpr (Or.inr
    ⟨none, _, findProfile_none hm hnone, ?_⟩)))
  exact raises_add.mpr ⟨rfl, Or.inl hc⟩

/-- What an upsert yields where there is no profile. -/
theorem profileOf_put (hf : env.Fresh P d) {m : FamilyMember} (hm : m ∈ d.members)
    (hnone : ∀ r ∈ d.memberProfiles, r.memberId ≠ m.id) (b : MemberProfileUpsert) :
    profileOf (m.put P env b d).1 = (TableName.coerce .familyMemberProfile
      (newProfile env m.id b)).toOption.map FamilyMemberProfile.content := by
  cases hc : TableName.coerce .familyMemberProfile (newProfile env m.id b) with
  | ok c =>
    obtain ⟨d', hput, -⟩ := put_insert hf hm hnone hc
    rw [hput]
    rfl
  | error x =>
    rw [put_error hm hnone hc]
    rfl

/-- **An upsert after an upsert that inserted a row** yields what it yields
without that row just when its number does not fit or it keeps the defaults –
whatever was inserted, if setting the fields on it makes the row of the
body. -/
theorem put_put_iff {m : FamilyMember} (hm : m ∈ d.members)
    (hnone : ∀ r ∈ d.memberProfiles, r.memberId ≠ m.id) {e₀ e₁ : Env} (he₀ : e₀.Fresh P d)
    (he₁ : e₁.Fresh P d) {b₀ b : MemberProfileUpsert} (hb₀ : (Patch.memberProfile b₀).Fits)
    (happly : b.KeepsDefaults →
      (newProfile e₀ m.id b₀).applyChanges b = .ok (newProfile e₀ m.id b)) (e₂ : Env) :
    profileOf (m.put P e₂ b (m.put P e₀ b₀ d).2).1 = profileOf (m.put P e₁ b d).1 ↔
      ¬ (Patch.memberProfile b).Fits ∨ b.KeepsDefaults := by
  obtain ⟨c₀, hc₀⟩ := coerce_newProfile.mpr hb₀
  obtain ⟨d₀, hput₀, hrows₀⟩ := put_insert he₀ hm hnone hc₀
  have hmem : c₀ ∈ d₀.memberProfiles := by
    show c₀ ∈ d₀.rows .familyMemberProfile
    rw [hrows₀, Schema.insert_self]
    exact Table.mem_insert.mpr (Or.inr rfl)
  have hmember : m ∈ d₀.members := by
    rw [show d₀.members = d.members from (congrFun hrows₀ .familyMember).trans
      (Schema.insert_of_ne (by simp))]
    exact hm
  have hid : c₀.memberId = m.id :=
    Option.some.inj ((coerce_sameKeys hc₀).reference _ List.mem_cons_self)
  have hstored := coerce_coerce hc₀
  rw [hput₀, FamilyMember.profileOf_put hmember hmem hid hstored, profileOf_put he₁ hm hnone]
  by_cases hfits : (Patch.memberProfile b).Fits
  · obtain ⟨c₁, hc₁⟩ :
        ∃ c₁, TableName.coerce .familyMemberProfile (newProfile e₁ m.id b) = .ok c₁ :=
      coerce_newProfile.mpr hfits
    rw [hc₁]
    by_cases hkeeps : b.KeepsDefaults
    · refine iff_of_true ?_ (Or.inr hkeeps)
      obtain ⟨c, hs⟩ :=
        (Patch.exists_stores_iff (p := .memberProfile b) hstored).mpr ⟨hkeeps.1, hfits⟩
      obtain ⟨x, hx, hc⟩ := Except.bind_eq_ok_iff.mp (Patch.stores_of_coerce hc₀ hs)
      obtain rfl := Except.ok.inj (hx.symm.trans (happly hkeeps))
      rw [hs]
      exact congrArg some (content_newProfile hc hc₁)
    · refine iff_of_false (fun h => ?_) (not_or.mpr ⟨not_not.mpr hfits, hkeeps⟩)
      cases hs : (Patch.memberProfile b).stores c₀ with
      | ok c =>
        rw [hs] at h
        have hsource := congrArg FamilyMemberProfile.source (Option.some.inj h)
        have hnull : c.source = none := source_of_stores hs hkeeps
        rw [show c.content.source = none from hnull] at hsource
        exact source_of_newProfile hc₁ hsource.symm
      | error x =>
        rw [hs] at h
        cases h
  · refine iff_of_true ?_ (Or.inl hfits)
    cases hs : (Patch.memberProfile b).stores c₀ with
    | ok c => exact absurd ((Patch.exists_stores_iff hstored).mp ⟨c, hs⟩).2 hfits
    | error x =>
      cases hc₁ : TableName.coerce .familyMemberProfile (newProfile e₁ m.id b) with
      | ok c₁ => exact absurd (coerce_newProfile.mp ⟨c₁, hc₁⟩) hfits
      | error x' => rfl

end MemberService

/-! ## The two upserts -/

/-- **When an upsert may be repeated, and made on an empty profile as well as
on none.** For a member: where there is a profile already, where the body has
a number that does not fit – it then fails each time – or where the body sets
neither `concerns` nor `source` to `null`. For a child: always, since a child
has a reading profile from the start. -/
theorem upserts_idempotent (P : Platform) (ms : List (Move Env Request)) (e₀ e₁ e₂ : Env) :
    let d := ((concurrentService P).system.run idle ms).shared
    e₀.Fresh P d → e₁.Fresh P d →
    (∀ m ∈ d.members, ∀ b : MemberProfileUpsert,
      (profileOf (m.put P e₂ b (m.put P e₁ b d).2).1 = profileOf (m.put P e₁ b d).1 ∧
        ((∀ r ∈ d.memberProfiles, r.memberId ≠ m.id) →
          profileOf (m.put P e₂ b (m.put P e₀ .empty d).2).1 = profileOf (m.put P e₁ b d).1)) ↔
      (∃ r ∈ d.memberProfiles, r.memberId = m.id) ∨ ¬ (Patch.memberProfile b).Fits ∨
        b.KeepsDefaults) ∧
    ∀ c ∈ d.children, ∀ b : ReadingProfileUpsert,
      readingProfileOf (c.put P e₂ b (c.put P e₁ b d).2).1 = readingProfileOf (c.put P e₁ b d).1 ∧
        ∃ r ∈ d.readingProfiles, r.childId = c.id := by
  intro d he₀ he₁
  refine ⟨fun m hm b => ?_, fun c hc b => ?_⟩
  · by_cases hrow : ∃ r ∈ d.memberProfiles, r.memberId = m.id
    · obtain ⟨r, hr, hid⟩ := hrow
      have hstored := stored_run P ms .familyMemberProfile r hr
      exact iff_of_true ⟨FamilyMember.put_twice hm hr hid hstored b e₁ e₂,
        fun hnone => absurd hid (hnone r hr)⟩ (Or.inl ⟨r, hr, hid⟩)
    · have hnone : ∀ r ∈ d.memberProfiles, r.memberId ≠ m.id := fun r hr hid => hrow ⟨r, hr, hid⟩
      have hempty : profileOf (m.put P e₂ b (m.put P e₀ .empty d).2).1
          = profileOf (m.put P e₁ b d).1 ↔ ¬ (Patch.memberProfile b).Fits ∨ b.KeepsDefaults :=
        MemberService.put_put_iff hm hnone he₀ he₁ MemberProfileUpsert.fits_empty
          MemberService.applyChanges_newProfile_empty e₂
      rw [or_iff_right hrow, forall_prop_of_true hnone, hempty]
      refine and_iff_right_of_imp (fun hcond => ?_)
      by_cases hfits : (Patch.memberProfile b).Fits
      · exact (MemberService.put_put_iff hm hnone he₁ he₁ hfits
          MemberService.applyChanges_newProfile_self e₂).mpr hcond
      · -- it fails each time
        have hnothing : ∀ e, ∃ x, m.put P e b d = (.error x, d) := by
          intro e
          cases hc : TableName.coerce .familyMemberProfile (MemberService.newProfile e m.id b) with
          | ok c => exact absurd (MemberService.coerce_newProfile.mp ⟨c, hc⟩) hfits
          | error x => exact ⟨x, MemberService.put_error hm hnone hc⟩
        obtain ⟨x, hx⟩ := hnothing e₁
        obtain ⟨x', hx'⟩ := hnothing e₂
        rw [hx, hx']
        rfl
  · obtain ⟨r, hr, hid⟩ := covered_run P ms c hc
    have hstored := stored_run P ms .childReadingProfile r hr
    exact ⟨ChildProfile.put_twice hc hr hid hstored b e₁ e₂, r, hr, hid⟩

/-- A first upsert of values may be repeated. -/
theorem upserts_idempotent_value :
    let P := Sample.platform 2592000
    let d := ((concurrentService P).system.run idle Sample.founded).shared
    let b := { MemberProfileUpsert.empty with source := some (some "interview") }
    let once := Sample.ada.put P (Sample.env 2 (Sample.second 60)) b d
    profileOf (Sample.ada.put P (Sample.env 3 (Sample.second 61)) b once.2).1
      = profileOf once.1 :=
  (((upserts_idempotent (Sample.platform 2592000) Sample.founded (Sample.env 2 (Sample.second 60))
    (Sample.env 2 (Sample.second 60)) (Sample.env 3 (Sample.second 61)) (by decide +kernel)
    (by decide +kernel)).1 Sample.ada (by decide +kernel) _).mpr
      (Or.inr (Or.inr ⟨by simp [MemberProfileUpsert.empty], by simp⟩))).1

/-- **A first upsert of a `null` is not.** The insert leaves the source to its
default, the repetition removes it; and on an empty profile it would have
removed it at once. -/
theorem upserts_idempotent_source :
    let P := Sample.platform 2592000
    let d := ((concurrentService P).system.run idle Sample.founded).shared
    let b := { MemberProfileUpsert.empty with source := some none }
    let put := fun k b => Sample.ada.put P (Sample.env k (Sample.second 60)) b
    (profileOf (put 3 b (put 2 b d).2).1 ≠ profileOf (put 2 b d).1) ∧
      profileOf (put 3 b (put 2 .empty d).2).1 ≠ profileOf (put 2 b d).1 := by
  decide +kernel
