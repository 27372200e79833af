import Accounts.Upserts
import Accounts.UnknownFamily

/-!
# Numbers

The schemas bound a number of a body on one side or not at all: an invite may
live for any positive number of hours, a level or a confidence may be any
number. What is made of them has bounds of its own – the calendar ends with
the year 9999, and a column holds so many digits. Beyond them there is no
error of the service, but one that nothing handles.

`numbers_fit` says which numbers can be computed with and stored, for the
three operations that take one: those within the bounds, and no others.
-/

open Repository TableName

variable {P : Platform} {env : Env} {d d' : Database} {f : UUID}

/-- **A request overflows**: in the arithmetic of dates, or in a column. -/
def Overflows (answer : Except Exn Response) : Prop :=
  answer = .error .overflowError ∨ answer = .error .repositoryError

theorem not_overflows_ok (a : Response) : ¬ Overflows (.ok a) := by
  rintro (h | h) <;> cases h

/-! ## The expiry of an invite -/

/-- `timedelta(hours=n)` is as long as it says. -/
theorem Datetime.plusSeconds_hours_eq_some_iff {now t : Datetime} {hours : ℤ} (h : 0 < hours) :
    now.plusSeconds (hours * 3600) = some t ↔ (t.us : ℤ) = now.us + hours * 3600000000 := by
  unfold plusSeconds timedelta
  constructor
  · intro ht
    obtain ⟨δ, hδ, ht⟩ := Option.bind_eq_some_iff.mp ht
    split at hδ
    · obtain rfl := Option.some.inj hδ
      rw [add_eq_some_iff.mp ht]
      ring
    · cases hδ
  · intro ht
    have hlt : (t.us : ℤ) < 315537897600000000 := by exact_mod_cast t.inRange
    -- a time that is in the calendar is not that many days away
    rw [if_pos ⟨by omega, by omega⟩]
    exact add_eq_some_iff.mpr (by rw [ht]; ring)

/-- It ends before the calendar does, or it overflows. -/
theorem Datetime.exists_plusSeconds_hours_iff {now : Datetime} {hours : ℤ} (h : 0 < hours) :
    (∃ t, now.plusSeconds (hours * 3600) = some t) ↔
      now.us + hours * 3600000000 < Datetime.count := by
  constructor
  · rintro ⟨t, ht⟩
    rw [← (plusSeconds_hours_eq_some_iff h).mp ht]
    exact_mod_cast t.inRange
  · intro hlt
    have hnn : 0 ≤ (now.us : ℤ) + hours * 3600000000 := by positivity
    refine ⟨⟨((now.us : ℤ) + hours * 3600000000).toNat, ?_⟩,
      (plusSeconds_hours_eq_some_iff h).mpr (Int.toNat_of_nonneg hnn)⟩
    exact (Int.toNat_lt hnn).mpr hlt

namespace InviteCreate

/-- **What the schema accepts**: `Field(default=72, gt=0)`. -/
def Accepted (body : InviteCreate) : Prop := ∀ hours ∈ body.ttlHours, 0 < hours

/-- **The invite expires before the calendar ends**, if it does. -/
def Representable (now : Datetime) (body : InviteCreate) : Prop :=
  ∀ hours ∈ body.ttlHours, now.us + hours * 3600000000 < Datetime.count

end InviteCreate

namespace InviteService

variable {body : InviteCreate} {createdBy : UUID}

/-- The expiry of an invite that does not expire. -/
theorem expiry_none (h : body.ttlHours = none) : expiry env body = .ok none := by
  unfold expiry
  rw [h]

/-- The expiry of one that does. -/
theorem expiry_some_iff {hours : ℤ} (h : body.ttlHours = some hours) {o : Option Datetime} :
    expiry env body = .ok o ↔ ∃ t, env.now.plusSeconds (hours * 3600) = some t ∧ o = some t := by
  unfold expiry
  rw [h]
  dsimp only
  cases env.now.plusSeconds (hours * 3600) with
  | none => simp
  | some t => simp [eq_comm]

/-- **The expiry is computed** just when it can be represented. -/
theorem exists_expiry_iff (hacc : body.Accepted) :
    (∃ o, expiry env body = .ok o) ↔ body.Representable env.now := by
  cases h : body.ttlHours with
  | none => exact iff_of_true ⟨none, expiry_none h⟩ (by rw [InviteCreate.Representable, h]; simp)
  | some hours =>
    have hpos : 0 < hours := hacc hours h
    have hrep : body.Representable env.now ↔ env.now.us + hours * 3600000000 < Datetime.count := by
      rw [InviteCreate.Representable, h]
      simp
    rw [hrep, ← Datetime.exists_plusSeconds_hours_iff hpos]
    simp only [expiry_some_iff h]
    exact ⟨fun ⟨_, t, ht, _⟩ => ⟨t, ht⟩, fun ⟨t, ht⟩ => ⟨_, t, ht, rfl⟩⟩

/-- What it fails on. -/
theorem expiry_eq_error {x : Exn} (h : expiry env body = .error x) : x = .overflowError := by
  unfold expiry at h
  split at h
  · cases h
  · split at h
    · exact (Except.error.inj h).symm
    · cases h

/-- **It is later than now.** -/
theorem lt_expiry (hacc : body.Accepted) {t : Datetime} (h : expiry env body = .ok (some t)) :
    env.now < t := by
  cases httl : body.ttlHours with
  | none => cases (expiry_none httl).symm.trans h
  | some hours =>
    obtain ⟨t', ht, hsome⟩ := (expiry_some_iff httl).mp h
    obtain rfl := Option.some.inj hsome
    have hpos : 0 < hours := hacc hours httl
    have hus := (Datetime.plusSeconds_hours_eq_some_iff hpos).mp ht
    show env.now.us < t.us
    omega

/-- **Creating an invite overflows** just when its expiry cannot be
computed. -/
theorem overflows_create_iff :
    Overflows (serve P env (.family f (.createInvite createdBy body)) d).1 ↔
      ¬ ∃ o, expiry env body = .ok o := by
  cases hexp : expiry env body with
  | error x =>
    obtain rfl := expiry_eq_error hexp
    refine iff_of_true (Or.inl (Tx.serve_fst_eq_error_iff.mpr ⟨⟨d, d⟩, ?_⟩)) (fun ⟨o, h⟩ => ?_)
    · exact Tx.raises_bind.mpr (Or.inl (Tx.raises_bind.mpr
        (Or.inl (Tx.raises_lift.mpr ⟨hexp, rfl⟩))))
    · cases h
  | ok o =>
    have hraises : ∀ x, (serve P env (.family f (.createInvite createdBy body)) d).1 = .error x →
        x = .integrityError := by
      intro x hx
      obtain ⟨s, hs⟩ := Tx.serve_fst_eq_error_iff.mp hx
      replace hs := Tx.raises_bind_pure.mp hs
      rcases Tx.raises_bind.mp hs with hs | ⟨_, _, -, hs⟩
      · cases hexp.symm.trans (Tx.raises_lift.mp hs).1
      · replace hs := Tx.raises_bind_pure.mp hs
        obtain ⟨-, hc | ⟨_, -, rfl, -⟩⟩ := raises_add.mp hs
        · cases hc
        · rfl
    refine iff_of_false ?_ (not_not.mpr ⟨o, rfl⟩)
    rintro (h | h)
    · cases hraises _ h
    · cases hraises _ h

end InviteService

/-! ## The numbers of a profile -/

/-- **The confidence an upsert leaves** in the profile of a member: the one of
the body, or the one that is there. -/
def MemberProfileUpsert.confidenceOf (d : Database) (memberId : UUID)
    (body : MemberProfileUpsert) : Option ℚ :=
  body.confidence.nullable
    ((d.memberProfiles.find? (fun r => r.memberId = memberId)).bind (·.confidence))

/-- **The Lexile measure an upsert leaves** in the reading profile of a
child. -/
def ReadingProfileUpsert.lexileOf (d : Database) (childId : UUID)
    (body : ReadingProfileUpsert) : Option ℤ :=
  body.lexile.nullable ((d.readingProfiles.find? (fun r => r.childId = childId)).bind (·.lexile))

/-- **The AR level it leaves** there. -/
def ReadingProfileUpsert.arLevelOf (d : Database) (childId : UUID)
    (body : ReadingProfileUpsert) : Option ℚ :=
  body.arLevel.nullable ((d.readingProfiles.find? (fun r => r.childId = childId)).bind (·.arLevel))

/-- **What is left in a column has a property** just when what is given has,
if what is there has it. -/
theorem BodyField.forall_nullable_iff {α : Type} {field : BodyField α} {old : Option α}
    {p : α → Prop} (hold : ∀ a ∈ old, p a) :
    (∀ a ∈ field.nullable old, p a) ↔ ∀ a ∈ field.given, p a := by
  rcases field with _ | _ | a
  · exact iff_of_true hold (by rintro a ⟨⟩)
  · exact Iff.rfl
  · exact Iff.rfl

/-- What is as its column stores it is in the range of the column. -/
theorem Option.forall_of_mapM {α : Type} {g : α → Except Exn α} {p : α → Prop}
    (hg : ∀ a b, g a = .ok b → p a) {o : Option α} (h : o.mapM g = .ok o) : ∀ a ∈ o, p a := by
  rintro a rfl
  rcases Option.mapM_eq_ok_iff.mp h with ⟨h, -⟩ | ⟨a', b, h, hab, -⟩
  · cases h
  · obtain rfl := Option.some.inj h
    exact hg a b hab

namespace Database.Stored

/-- **Every confidence there is fits.** -/
theorem confidence (h : d.Stored) (memberId : UUID) :
    ∀ q ∈ (d.memberProfiles.find? (fun r => r.memberId = memberId)).bind (·.confidence),
      |roundCents q| < 10 ^ 1 := by
  intro q hq
  obtain ⟨r, hr, hq⟩ := Option.bind_eq_some_iff.mp hq
  have hstored := coerce_memberProfile.mp
    (h .familyMemberProfile r (List.mem_of_find?_eq_some hr))
  exact Option.forall_of_mapM (fun _ _ hv => (numericColumn_eq_ok_iff.mp hv).1) hstored q hq

/-- **Every Lexile measure.** -/
theorem lexile (h : d.Stored) (childId : UUID) :
    ∀ n ∈ (d.readingProfiles.find? (fun r => r.childId = childId)).bind (·.lexile),
      -2 ^ 31 ≤ n ∧ n < 2 ^ 31 := by
  intro n hn
  obtain ⟨r, hr, hn⟩ := Option.bind_eq_some_iff.mp hn
  have hstored := coerce_readingProfile.mp
    (h .childReadingProfile r (List.mem_of_find?_eq_some hr))
  exact Option.forall_of_mapM (fun _ _ hv => (integerColumn_eq_ok_iff.mp hv).1) hstored.1 n hn

/-- **Every AR level.** -/
theorem arLevel (h : d.Stored) (childId : UUID) :
    ∀ q ∈ (d.readingProfiles.find? (fun r => r.childId = childId)).bind (·.arLevel),
      |roundCents q| < 10 ^ 2 := by
  intro q hq
  obtain ⟨r, hr, hq⟩ := Option.bind_eq_some_iff.mp hq
  have hstored := coerce_readingProfile.mp
    (h .childReadingProfile r (List.mem_of_find?_eq_some hr))
  exact Option.forall_of_mapM (fun _ _ hv => (numericColumn_eq_ok_iff.mp hv).1) hstored.2.1 q hq

end Database.Stored

/-! ## The upserts -/

/-- **An operation that addresses a row outside the family** does not
overflow: it finds nothing. -/
theorem not_overflows_of_not_addressesOwn {op : FamilyOp} (h : ¬ op.AddressesOwn f d) :
    ¬ Overflows (serve P env (.family f op) d).1 := by
  have hraise : (op.run P env f).Raises ⟨d, d⟩ .notFound ⟨d, d⟩ := FamilyOp.run_raises h
  have hs : (serve P env (.family f op) d).1 = .error .notFound :=
    Tx.serve_fst_eq_error_iff.mpr ⟨_, hraise⟩
  rw [hs]
  rintro (h | h) <;> cases h

/-- **An update of a row that is there overflows** just when its numbers do
not fit – and it does not fail on a `null` first. -/
theorem Patch.overflows_iff {T : TableName} {p : Patch T} {r : T.Row} (hr : r ∈ d.rows T)
    (hown : Owns d.rows f T r) (hstored : T.coerce r = .ok r) :
    Overflows (serve P env (.family f (p.op r)) d).1 ↔ ¬ p.NullsRequired ∧ ¬ p.Fits := by
  cases hw : p.applyChanges r >>= T.written env.now r with
  | ok r' =>
    obtain ⟨d', -, hs⟩ := serve_ok (P := P) hr hown hw
    obtain ⟨c, hc, -⟩ := stores_of_written hstored hw
    rw [hs]
    exact iff_of_false (not_overflows_ok _)
      (fun h => h.2 ((exists_stores_iff hstored).mp ⟨c, hc⟩).2)
  | error x =>
    rw [serve_error hr hown hw]
    rcases Except.bind_eq_error_iff.mp hw with h | ⟨draft, hdraft, h⟩
    · obtain ⟨hnull, rfl⟩ := applyChanges_eq_error_iff.mp h
      refine iff_of_false ?_ (fun hn => hn.1 hnull)
      rintro (h | h) <;> cases h
    · obtain rfl := TableName.written_eq_error h
      have hnull : ¬ p.NullsRequired := exists_applyChanges_iff.mp ⟨draft, hdraft⟩
      refine iff_of_true (Or.inr rfl) ⟨hnull, fun hfits => ?_⟩
      obtain ⟨c, hc⟩ := (exists_stores_iff hstored).mpr ⟨hnull, hfits⟩
      obtain ⟨r', hr', -⟩ := written_of_stores env.now hstored hc
      cases hr'.symm.trans hw

/-- **A profile whose number fits** is inserted, unless a constraint is
violated. -/
theorem MemberService.put_eq_error {m : FamilyMember} (hm : m ∈ d.members)
    (hnone : ∀ r ∈ d.memberProfiles, r.memberId ≠ m.id) {body : MemberProfileUpsert}
    {c : FamilyMemberProfile} {x : Exn}
    (hc : TableName.coerce .familyMemberProfile (newProfile env m.id body) = .ok c)
    (h : (m.put P env body d).1 = .error x) : x = .integrityError := by
  have hfind := findProfile_none hm hnone
  obtain ⟨s, hs⟩ := Tx.serve_fst_eq_error_iff.mp h
  replace hs := Tx.raises_bind_pure.mp hs
  rcases Tx.raises_bind.mp hs with hs | ⟨found, s₁, hfound, hs⟩
  · exact absurd hs hfind.not_raises
  · cases hfound.symm.trans hfind
    obtain ⟨-, hc' | ⟨_, -, rfl, -⟩⟩ := raises_add.mp hs
    · cases hc.symm.trans hc'
    · rfl

/-- **An upsert of a member's profile overflows** just when the member is the
family's, the number of the body does not fit, and no `null` is refused
first. -/
theorem MemberService.overflows_upsertProfile_iff (hd : d.Stored) {memberId : UUID}
    {body : MemberProfileUpsert} :
    Overflows (serve P env (.family f (.upsertProfile memberId body)) d).1 ↔
      (∃ m ∈ d.members, m.id = memberId ∧ m.familyId = f) ∧
        ¬ (Patch.memberProfile body).Fits ∧
        ¬ ((∃ r ∈ d.memberProfiles, r.memberId = memberId) ∧ body.concerns = some none) := by
  by_cases hmember : ∃ m ∈ d.members, m.id = memberId ∧ m.familyId = f
  · rw [and_iff_right hmember]
    obtain ⟨m, hm, rfl, rfl⟩ := hmember
    by_cases hrow : ∃ r ∈ d.memberProfiles, r.memberId = m.id
    · rw [and_iff_right hrow]
      obtain ⟨r, hr, hid⟩ := hrow
      have hop : (Patch.memberProfile body).op r = .upsertProfile m.id body := by rw [Patch.op, hid]
      rw [← hop]
      refine (Patch.overflows_iff (T := .familyMemberProfile) hr (m.owns_profile hm hid)
        (hd .familyMemberProfile r hr)).trans ?_
      rw [and_comm]
      rfl
    · rw [and_iff_left (fun h => hrow h.1)]
      have hnone : ∀ r ∈ d.memberProfiles, r.memberId ≠ m.id := fun r hr hid => hrow ⟨r, hr, hid⟩
      show Overflows (m.put P env body d).1 ↔ _
      cases hc : TableName.coerce .familyMemberProfile (newProfile env m.id body) with
      | ok c =>
        refine iff_of_false ?_ (not_not.mpr (coerce_newProfile.mp ⟨c, hc⟩))
        rintro (h | h)
        · cases put_eq_error hm hnone hc h
        · cases put_eq_error hm hnone hc h
      | error x =>
        rw [put_error hm hnone hc]
        obtain rfl := coerce_eq_error hc
        refine iff_of_true (Or.inr rfl) (fun hfits => ?_)
        obtain ⟨c, hc'⟩ := coerce_newProfile.mpr hfits
        cases hc'.symm.trans hc
  · exact iff_of_false (not_overflows_of_not_addressesOwn hmember) (fun h => hmember h.1)

/-- **An upsert of a child's reading profile overflows** just when the child
is the family's, a number of the body does not fit, and no `null` is refused
first – where every child has a reading profile. -/
theorem ChildService.overflows_upsertReadingProfile_iff (hd : d.Stored)
    (hcov : Covered d.children d.readingProfiles) {childId : UUID} {body : ReadingProfileUpsert} :
    Overflows (serve P env (.family f (.upsertReadingProfile childId body)) d).1 ↔
      (∃ c ∈ d.children, c.id = childId ∧ c.familyId = f) ∧
        ¬ (Patch.readingProfile body).NullsRequired ∧ ¬ (Patch.readingProfile body).Fits := by
  by_cases hchild : ∃ c ∈ d.children, c.id = childId ∧ c.familyId = f
  · rw [and_iff_right hchild]
    obtain ⟨c, hc, rfl, rfl⟩ := hchild
    obtain ⟨r, hr, hid⟩ := hcov c hc
    have hop : (Patch.readingProfile body).op r = .upsertReadingProfile c.id body := by
      rw [Patch.op, hid]
    rw [← hop]
    exact Patch.overflows_iff (T := .childReadingProfile) hr (c.owns_readingProfile hc hid)
      (hd .childReadingProfile r hr)
  · exact iff_of_false (not_overflows_of_not_addressesOwn hchild) (fun h => hchild h.1)

/-! ## The result -/

/-- **Which numbers can be computed with and stored.** In every state the
service reaches and at every time: an invite is given an expiry, later than
now, just when the expiry comes before the end of the calendar; and an upsert
leaves its columns in their range just when the numbers of its body are, if
the row is the family's to change. Nothing else overflows. -/
theorem numbers_fit (P : Platform) (ms : List (Move Env Request)) (env : Env) (f : UUID) :
    let d := ((concurrentService P).system.run idle ms).shared
    (∀ (createdBy : UUID) (body : InviteCreate), body.Accepted →
      ((∃ o, InviteService.expiry env body = .ok o ∧ (∀ t ∈ o, env.now < t)) ∧
        ¬ Overflows (serve P env (.family f (.createInvite createdBy body)) d).1 ↔
        body.Representable env.now)) ∧
    (∀ (memberId : UUID) (body : MemberProfileUpsert),
      let op := FamilyOp.upsertProfile memberId body
      (op.AddressesOwn f d → ∀ q ∈ body.confidenceOf d memberId, |roundCents q| < 10 ^ 1) ∧
        ¬ Overflows (serve P env (.family f op) d).1 ↔
      (op.AddressesOwn f d → ∀ q ∈ body.confidence.given, |roundCents q| < 10 ^ 1)) ∧
    ∀ (childId : UUID) (body : ReadingProfileUpsert),
      let op := FamilyOp.upsertReadingProfile childId body
      (op.AddressesOwn f d → (∀ n ∈ body.lexileOf d childId, -2 ^ 31 ≤ n ∧ n < 2 ^ 31) ∧
          ∀ q ∈ body.arLevelOf d childId, |roundCents q| < 10 ^ 2) ∧
        ¬ Overflows (serve P env (.family f op) d).1 ↔
      (op.AddressesOwn f d → (∀ n ∈ body.lexile.given, -2 ^ 31 ≤ n ∧ n < 2 ^ 31) ∧
        ∀ q ∈ body.arLevel.given, |roundCents q| < 10 ^ 2) := by
  intro d
  have hstored : d.Stored := stored_run P ms
  refine ⟨fun createdBy body hacc => ?_, fun memberId body => ?_, fun childId body => ?_⟩
  · rw [InviteService.overflows_create_iff, not_not, ← InviteService.exists_expiry_iff hacc]
    refine ⟨fun h => h.2, fun h => ⟨?_, h⟩⟩
    obtain ⟨o, ho⟩ := h
    refine ⟨o, ho, ?_⟩
    rintro t rfl
    exact InviteService.lt_expiry hacc ho
  · intro op
    rw [MemberService.overflows_upsertProfile_iff hstored, MemberProfileUpsert.confidenceOf,
      BodyField.forall_nullable_iff (hstored.confidence memberId)]
    exact and_iff_left_of_imp (fun hfits h => h.2.1 (hfits h.1))
  · intro op
    rw [ChildService.overflows_upsertReadingProfile_iff hstored (covered_run P ms),
      ReadingProfileUpsert.lexileOf, ReadingProfileUpsert.arLevelOf,
      BodyField.forall_nullable_iff (hstored.lexile childId),
      BodyField.forall_nullable_iff (hstored.arLevel childId)]
    exact and_iff_left_of_imp (fun hfits h => h.2.2 (hfits h.1))

/-- An invite for three days. -/
theorem numbers_fit_invite :
    ¬ Overflows (serve (Sample.platform 2592000) (Sample.env 2 (Sample.second 60))
      (.family 1 (.createInvite 1 ⟨"member", some 72⟩))
      ((concurrentService (Sample.platform 2592000)).system.run idle Sample.founded).shared).1 := by
  refine (((numbers_fit (Sample.platform 2592000) Sample.founded
    (Sample.env 2 (Sample.second 60)) 1).1 1 ⟨"member", some 72⟩ ?_).mpr ?_).2
  · rintro hours ⟨⟩
    decide
  · rintro hours ⟨⟩
    decide +kernel

/-- **An invite for a hundred million hours, a confidence of ten and a Lexile
measure of `2 ^ 31`** are accepted, and overflow. -/
theorem numbers_fit_overflow :
    let P := Sample.platform 2592000
    let env := Sample.env 3 (Sample.second 60)
    let d := ((concurrentService P).system.run idle (Sample.founded ++ [
      .start (Sample.env 2 (Sample.second 30)) (.family 1 (.createChild Sample.child))])).shared
    (serve P env (.family 1 (.createInvite 1 ⟨"member", some 100000000⟩)) d).1
        = .error .overflowError ∧
      (serve P env (.family 1 (.upsertProfile 1 { MemberProfileUpsert.empty with
        confidence := some (some 10) })) d).1 = .error .repositoryError ∧
      (serve P env (.family 1 (.upsertReadingProfile 2 { ChildService.emptyReadingProfile with
        lexile := some (some (2 ^ 31)) })) d).1 = .error .repositoryError := by
  decide +kernel
