import Accounts.Columns

/-!
# Updates

Seven operations change a row that is there: a family, a member, a member's
profile, a policy, a child, a child's reading profile and a history entry are
updated from a body that may leave fields unset. They differ in how they find
the row and are one in what they do to it: `apply_changes` sets the fields of
the body, and the ORM writes the columns.

`Patch` is the seven bodies, each of the table it is about, and `Patch.serve_ok`
and `Patch.serve_error` say what serving any of them does, so that what holds
of all seven is stated and proved once. The first such result is about `null`:
which of the fields may be, and what becomes of the others
(`null_in_required_column`).
-/

open Repository TableName

variable {P : Platform} {env : Env} {d d' : Database} {f : UUID} {T : TableName}

/-! ## The seven bodies -/

/-- **A body that updates a row**, of the table of the row. -/
inductive Patch : TableName → Type where
  /-- `FamilyUpdate`. -/
  | family (b : FamilyUpdate) : Patch .family
  /-- `MemberUpdate`. -/
  | member (b : MemberUpdate) : Patch .familyMember
  /-- `MemberProfileUpsert`, where there is a profile. -/
  | memberProfile (b : MemberProfileUpsert) : Patch .familyMemberProfile
  /-- `PolicyUpdate`. -/
  | policy (b : PolicyUpdate) : Patch .familyReadingPolicy
  /-- `ChildUpdate`. -/
  | child (b : ChildUpdate) : Patch .childProfile
  /-- `ReadingProfileUpsert`, where there is a reading profile. -/
  | readingProfile (b : ReadingProfileUpsert) : Patch .childReadingProfile
  /-- `ReadingHistoryUpdate`. -/
  | entry (b : ReadingHistoryUpdate) : Patch .readingHistory

namespace Patch

/-- `apply_changes(row, body.model_dump(exclude_unset=True))`. -/
def applyChanges : {T : TableName} → Patch T → T.Row → Except Exn T.Row
  | _, family b, r => Family.applyChanges r b
  | _, member b, r => FamilyMember.applyChanges r b
  | _, memberProfile b, r => FamilyMemberProfile.applyChanges r b
  | _, policy b, r => FamilyReadingPolicy.applyChanges r b
  | _, child b, r => ChildProfile.applyChanges r b
  | _, readingProfile b, r => ChildReadingProfile.applyChanges r b
  | _, entry b, r => ReadingHistory.applyChanges r b

/-- The operation that updates the row. -/
def op : {T : TableName} → Patch T → T.Row → FamilyOp
  | _, family b, _ => .updateFamily b
  | _, member b, r => .updateMember r.id b
  | _, memberProfile b, r => .upsertProfile r.memberId b
  | _, policy b, r => .updatePolicy r.id b
  | _, child b, r => .updateChild r.id b
  | _, readingProfile b, r => .upsertReadingProfile r.childId b
  | _, entry b, r => .updateReadingHistory r.childId r.id b

/-- The answer it gives. -/
def response : {T : TableName} → Patch T → T.Row → Response
  | _, family _, r => .family r
  | _, member _, r => .member r.dump
  | _, memberProfile _, r => .profile r
  | _, policy _, r => .policy r
  | _, child _, r => .child r
  | _, readingProfile _, r => .readingProfile r
  | _, entry _, r => .entry r

/-- **No field of a body is a key.** -/
theorem applyChanges_sameKeys {p : Patch T} {r r' : T.Row} (h : p.applyChanges r = .ok r') :
    schema.SameKeys T r' r := by
  cases p with
  | family b => exact Family.applyChanges_sameKeys h
  | member b => exact FamilyMember.applyChanges_sameKeys h
  | memberProfile b => exact FamilyMemberProfile.applyChanges_sameKeys h
  | policy b => exact FamilyReadingPolicy.applyChanges_sameKeys h
  | child b => exact ChildProfile.applyChanges_sameKeys h
  | readingProfile b => exact ChildReadingProfile.applyChanges_sameKeys h
  | entry b => exact ReadingHistory.applyChanges_sameKeys h

end Patch

/-! ## Serving one of them -/

/-- A body that has returned is followed by the rest. -/
theorem Tx.Returns.bind_eq {σ ε α β : Type} {t : Tx σ ε α} {k : α → Tx σ ε β} {s s' : Session σ}
    {a : α} (h : t.Returns s a s') : (t >>= k) s = k a s' := by
  rcases Tx.returns_or_raises (k a) s' with ⟨b, s'', hb⟩ | ⟨e, s'', he⟩
  · exact (Tx.returns_bind.mpr ⟨a, s', h, hb⟩).trans hb.symm
  · exact (Tx.raises_bind.mpr (Or.inr ⟨a, s', h, he⟩)).trans he.symm

/-- Bodies that end alike are followed by the rest alike. -/
theorem Tx.bind_eq_bind {σ ε α β : Type} {t u : Tx σ ε α} {k : α → Tx σ ε β} {s : Session σ}
    (h : t s = u s) : (t >>= k) s = (u >>= k) s := by
  rcases Tx.returns_or_raises t s with ⟨a, s', ha⟩ | ⟨e, s', he⟩
  · exact (Returns.bind_eq ha).trans (Returns.bind_eq (h.symm.trans ha)).symm
  · exact (Tx.raises_bind.mpr (Or.inl he)).trans
      (Tx.raises_bind.mpr (Or.inl (h.symm.trans he))).symm

/-- An update depends on its changes at the row it finds. -/
theorem Repository.update_congr {r : T.Row} (hr : r ∈ d.rows T)
    {changes changes' : T.Row → Except Exn T.Row} (h : changes r = changes' r) :
    update env T (T.id r) changes ⟨d, d⟩ = update env T (T.id r) changes' ⟨d, d⟩ := by
  have hfind : d.find T (T.id r) = some r := Store.find_eq_some_iff.mpr ⟨hr, rfl⟩
  unfold update Tx.flush
  simp only [hfind, h]

/-- **An update of a row that is there**, where its changes can be written. -/
theorem Repository.update_ok {r a : T.Row} (hr : r ∈ d.rows T)
    {changes : T.Row → Except Exn T.Row}
    (hk : ∀ r', changes r = .ok r' → schema.SameKeys T r' r)
    (hw : changes r >>= T.written env.now r = .ok a) :
    ∃ d' : Database, d'.rows = schema.replace T a d.rows ∧
      (update env T (T.id r) changes).Returns ⟨d, d⟩ a ⟨d, d'⟩ := by
  obtain ⟨draft, hdraft, hwritten⟩ := Except.bind_eq_ok_iff.mp hw
  have hkeys := TableName.written_sameKeys (hk draft hdraft) hwritten
  exact ⟨⟨_, d.consistent.replace hr hkeys⟩, rfl, returns_update.mpr
    ⟨r, Store.find_eq_some_iff.mpr ⟨hr, rfl⟩, hw, _, rfl, rfl⟩⟩

/-- **An update of a row that is there**, where they cannot. -/
theorem Repository.update_error {r : T.Row} {e : Exn} (hr : r ∈ d.rows T)
    {changes : T.Row → Except Exn T.Row} (hw : changes r >>= T.written env.now r = .error e) :
    (update env T (T.id r) changes).Raises ⟨d, d⟩ e ⟨d, d⟩ := by
  have hfind : d.find T (T.id r) = some r := Store.find_eq_some_iff.mpr ⟨hr, rfl⟩
  refine Tx.raises_flush.mpr ⟨?_, rfl⟩
  simp only [hfind, hw]

namespace MemberService

/-- On the row it was made of, a draft replaces it. -/
theorem rebase_applyChanges {r draft : FamilyMemberProfile} {b : MemberProfileUpsert}
    (h : r.applyChanges b = .ok draft) : rebase r draft r = draft := by
  obtain ⟨concerns, -, h⟩ := Except.bind_eq_ok_iff.mp h
  cases h
  unfold rebase
  congr 1 <;> split <;> simp_all

end MemberService

/-- The member a profile of the family is of. -/
theorem Owns.exists_member {r : FamilyMemberProfile}
    (h : Owns d.rows f .familyMemberProfile r) :
    ∃ m ∈ d.members, m.id = r.memberId ∧ m.familyId = f := by
  obtain ⟨m, hm, hf⟩ := Option.map_eq_some_iff.mp (show (d.members.find? _).map _ = some f from h)
  exact ⟨m, List.mem_of_find?_eq_some hm, by simpa using List.find?_some hm, hf⟩

/-- The child a reading profile or an entry of the family is of. -/
theorem Owns.exists_child {k : UUID} (h : familyOf d.rows (.child k) = some f) :
    ∃ c ∈ d.children, c.id = k ∧ c.familyId = f := by
  obtain ⟨c, hc, hf⟩ := Option.map_eq_some_iff.mp (show (d.children.find? _).map _ = some f from h)
  exact ⟨c, List.mem_of_find?_eq_some hc, by simpa using List.find?_some hc, hf⟩

/-- The profile of a member is found. -/
theorem Store.find_memberProfile {k : UUID} {r : FamilyMemberProfile} :
    d.memberProfiles.find? (fun r => r.memberId = k) = some r ↔
      r ∈ d.memberProfiles ∧ r.memberId = k := by
  rw [Table.find?_eq_some_iff_of_atMostOne (d.atMostOne_of_unique (T := .familyMemberProfile)
    (u := fun r => some (.inl r.memberId)) (List.mem_singleton.mpr rfl) (k := .inl k)
    (fun r hr => by simpa using hr)), decide_eq_true_iff]

/-- The reading profile of a child is found. -/
theorem Store.find_readingProfile {k : UUID} {r : ChildReadingProfile} :
    d.readingProfiles.find? (fun r => r.childId = k) = some r ↔
      r ∈ d.readingProfiles ∧ r.childId = k := by
  rw [Table.find?_eq_some_iff_of_atMostOne (d.atMostOne_of_unique (T := .childReadingProfile)
    (u := fun r => some (.inl r.childId)) (List.mem_singleton.mpr rfl) (k := .inl k)
    (fun r hr => by simpa using hr)), decide_eq_true_iff]

namespace Patch

/-- **The seven operations find the row, and update it.** -/
theorem run_eq (p : Patch T) {r : T.Row} (hr : r ∈ d.rows T) (hown : Owns d.rows f T r) :
    (p.op r).run P env f ⟨d, d⟩
      = (update env T (T.id r) p.applyChanges >>= fun a => pure (p.response a)) ⟨d, d⟩ := by
  cases p with
  | family b =>
    have hid : r.id = f := Option.some.inj hown
    have hget : (FamilyService.get f).Returns ⟨d, d⟩ r ⟨d, d⟩ :=
      FamilyService.get_returns.mpr ⟨hr, hid, rfl⟩
    show (FamilyService.update env f b >>= fun a => pure (Response.family a)) ⟨d, d⟩ = _
    rw [FamilyService.update, ← bind_assoc, bind_assoc]
    exact hget.bind_eq
  | member b =>
    have hfound : (MemberService.require f (FamilyMember.id r)).Returns ⟨d, d⟩ r ⟨d, d⟩ :=
      MemberService.require_returns.mpr ⟨hr, rfl, Option.some.inj hown, rfl⟩
    show (MemberService.update env f (FamilyMember.id r) b
      >>= fun a => pure (Response.member a)) ⟨d, d⟩ = _
    rw [MemberService.update, bind_assoc, hfound.bind_eq, bind_assoc]
    rfl
  | memberProfile b =>
    obtain ⟨m, hm, hid, hfam⟩ := Owns.exists_member hown
    have hmember : (MemberService.require f (FamilyMemberProfile.memberId r)).Returns
        ⟨d, d⟩ m ⟨d, d⟩ := MemberService.require_returns.mpr ⟨hm, hid, hfam, rfl⟩
    have hfound : (FamilyMemberProfileRepository.getByMember
        (FamilyMemberProfile.memberId r)).Returns ⟨d, d⟩ (some r) ⟨d, d⟩ := by
      rw [FamilyMemberProfileRepository.getByMember_eq_read]
      exact Tx.returns_read.mpr ⟨(Store.find_memberProfile.mpr ⟨hr, rfl⟩).symm, rfl⟩
    have hput : MemberService.putProfile env (FamilyMemberProfile.memberId r) b (some r) ⟨d, d⟩
        = update env .familyMemberProfile (FamilyMemberProfile.id r)
          (memberProfile b).applyChanges ⟨d, d⟩ := by
      refine update_congr (T := .familyMemberProfile) hr ?_
      show (FamilyMemberProfile.applyChanges r b >>= fun draft =>
        (.ok (MemberService.rebase r draft r) : Except Exn FamilyMemberProfile)) = _
      cases hdraft : FamilyMemberProfile.applyChanges r b with
      | error e => exact hdraft.symm
      | ok draft =>
        show Except.ok (MemberService.rebase r draft r) = _
        rw [MemberService.rebase_applyChanges hdraft]
        exact hdraft.symm
    show (MemberService.upsertProfile env f (FamilyMemberProfile.memberId r) b
      >>= fun a => pure (Response.profile a)) ⟨d, d⟩ = _
    rw [MemberService.upsertProfile, MemberService.findProfile, bind_assoc, bind_assoc,
      hmember.bind_eq, hfound.bind_eq]
    exact Tx.bind_eq_bind hput
  | policy b =>
    have hfound : (PolicyService.require f (FamilyReadingPolicy.id r)).Returns ⟨d, d⟩ r ⟨d, d⟩ :=
      PolicyService.require_returns.mpr ⟨hr, rfl, Option.some.inj hown, rfl⟩
    show (PolicyService.update env f (FamilyReadingPolicy.id r) b
      >>= fun a => pure (Response.policy a)) ⟨d, d⟩ = _
    rw [PolicyService.update, bind_assoc]
    exact hfound.bind_eq
  | child b =>
    have hfound : (ChildService.require f (ChildProfile.id r)).Returns ⟨d, d⟩ r ⟨d, d⟩ :=
      ChildService.require_returns.mpr ⟨hr, rfl, Option.some.inj hown, rfl⟩
    show (ChildService.update env f (ChildProfile.id r) b
      >>= fun a => pure (Response.child a)) ⟨d, d⟩ = _
    rw [ChildService.update, bind_assoc]
    exact hfound.bind_eq
  | readingProfile b =>
    obtain ⟨c, hc, hid, hfam⟩ := Owns.exists_child hown
    have hchild : (ChildService.require f (ChildReadingProfile.childId r)).Returns
        ⟨d, d⟩ c ⟨d, d⟩ := ChildService.require_returns.mpr ⟨hc, hid, hfam, rfl⟩
    have hfound : (ChildReadingProfileRepository.getByChild
        (ChildReadingProfile.childId r)).Returns ⟨d, d⟩ (some r) ⟨d, d⟩ := by
      rw [ChildReadingProfileRepository.getByChild_eq_read]
      exact Tx.returns_read.mpr ⟨(Store.find_readingProfile.mpr ⟨hr, rfl⟩).symm, rfl⟩
    show (ChildService.upsertReadingProfile env f (ChildReadingProfile.childId r) b
      >>= fun a => pure (Response.readingProfile a)) ⟨d, d⟩ = _
    rw [ChildService.upsertReadingProfile, bind_assoc, hchild.bind_eq, bind_assoc,
      hfound.bind_eq]
    rfl
  | entry b =>
    obtain ⟨c, hc, hid, hfam⟩ := Owns.exists_child hown
    have hchild : (ChildService.require f (ReadingHistory.childId r)).Returns ⟨d, d⟩ c ⟨d, d⟩ :=
      ChildService.require_returns.mpr ⟨hc, hid, hfam, rfl⟩
    have hentry : (ChildService.requireEntry (ReadingHistory.childId r)
        (ReadingHistory.id r)).Returns ⟨d, d⟩ r ⟨d, d⟩ :=
      ChildService.requireEntry_returns.mpr ⟨hr, rfl, rfl, rfl⟩
    show (ChildService.updateReadingHistory env f (ReadingHistory.childId r) (ReadingHistory.id r) b
      >>= fun a => pure (Response.entry a)) ⟨d, d⟩ = _
    rw [ChildService.updateReadingHistory, bind_assoc, hchild.bind_eq, bind_assoc]
    exact hentry.bind_eq

/-- **Serving an update that can be written.** -/
theorem serve_ok {p : Patch T} {r r' : T.Row} (hr : r ∈ d.rows T) (hown : Owns d.rows f T r)
    (h : p.applyChanges r >>= T.written env.now r = .ok r') :
    ∃ d' : Database, d'.rows = schema.replace T r' d.rows ∧
      serve P env (.family f (p.op r)) d = (.ok (p.response r'), d') := by
  obtain ⟨d', hd', hret⟩ := update_ok hr (fun _ => applyChanges_sameKeys) h
  refine ⟨d', hd', Tx.serve_ok_iff.mpr ⟨⟨d, d'⟩, ?_, rfl⟩⟩
  refine (p.run_eq hr hown).trans ?_
  exact Tx.returns_bind.mpr ⟨r', _, hret, Tx.returns_pure.mpr ⟨rfl, rfl⟩⟩

/-- **Serving an update that cannot.** -/
theorem serve_error {p : Patch T} {r : T.Row} {e : Exn} (hr : r ∈ d.rows T)
    (hown : Owns d.rows f T r) (h : p.applyChanges r >>= T.written env.now r = .error e) :
    serve P env (.family f (p.op r)) d = (.error e, d) := by
  refine Tx.serve_error_iff.mpr ⟨⟨d, d⟩, ?_, by rw [ite_self]⟩
  refine (p.run_eq hr hown).trans ?_
  exact Tx.raises_bind.mpr (Or.inl (update_error hr h))

end Patch

/-! ## `null` in a required column -/

/-- What a required column is set to. -/
theorem BodyField.required_eq_ok_iff {α : Type} {field : BodyField α} {old v : α} :
    field.required old = .ok v ↔ field ≠ some none ∧ v = field.given.getD old := by
  rcases field with _ | _ | w
  · exact ⟨fun h => ⟨by simp, (Except.ok.inj h).symm⟩, fun h => by rw [h.2]; rfl⟩
  · exact ⟨fun h => (by cases h), fun h => absurd rfl h.1⟩
  · exact ⟨fun h => ⟨by simp, (Except.ok.inj h).symm⟩, fun h => by rw [h.2]; rfl⟩

/-- **`null` is what a required column refuses.** -/
theorem BodyField.required_bind_eq_error_iff {α β : Type} {field : BodyField α} {old : α}
    {k : α → Except Exn β} {e : Exn} :
    field.required old >>= k = .error e ↔
      (field = some none ∧ e = .integrityError) ∨
        (field ≠ some none ∧ k (field.given.getD old) = .error e) := by
  rcases field with _ | _ | w
  · exact ⟨fun h => Or.inr ⟨by simp, h⟩, fun h => (h.resolve_left (by simp)).2⟩
  · refine ⟨fun h => Or.inl ⟨rfl, (Except.error.inj h).symm⟩, fun h => ?_⟩
    rw [(h.resolve_right (fun h => h.1 rfl)).2]
    rfl
  · exact ⟨fun h => Or.inr ⟨by simp, h⟩, fun h => (h.resolve_left (by simp)).2⟩

/-- Where nothing fails, there is no error. -/
theorem Except.pure_ne_error {ε α : Type} {a : α} {e : ε} :
    (pure a : Except ε α) = .error e ↔ False :=
  ⟨fun h => (by cases h), False.elim⟩

namespace Patch

/-- **The body sets a required column to `null`.** No column of a family is
required, and a `null` is a value of the JSON column of a policy. -/
def NullsRequired : {T : TableName} → Patch T → Prop
  | _, family _ => False
  | _, member b => b.role = some none
  | _, memberProfile b => b.concerns = some none
  | _, policy b => b.goals = some none ∨ b.constraints = some none ∨ b.avoidTopics = some none ∨
      b.isActive = some none
  | _, child b => b.aliases = some none
  | _, readingProfile b => b.interests = some none ∨ b.preferredGenres = some none ∨
      b.dislikedGenres = some none ∨ b.likedThemes = some none ∨ b.dislikedThemes = some none ∨
      b.preferredTone = some none ∨ b.avoidTopics = some none
  | _, entry b => b.reasons = some none

/-- **What `apply_changes` fails on.** -/
theorem applyChanges_eq_error_iff {p : Patch T} {r : T.Row} {e : Exn} :
    p.applyChanges r = .error e ↔ p.NullsRequired ∧ e = .integrityError := by
  cases p with
  | family b => exact ⟨fun h => (by cases h), fun h => h.1.elim⟩
  | member b =>
    unfold applyChanges FamilyMember.applyChanges NullsRequired
    simp only [BodyField.required_bind_eq_error_iff, Except.pure_ne_error, and_false, or_false]
  | memberProfile b =>
    unfold applyChanges FamilyMemberProfile.applyChanges NullsRequired
    simp only [BodyField.required_bind_eq_error_iff, Except.pure_ne_error, and_false, or_false]
  | policy b =>
    unfold applyChanges FamilyReadingPolicy.applyChanges NullsRequired
    simp only [BodyField.required_bind_eq_error_iff, Except.pure_ne_error, and_false, or_false]
    tauto
  | child b =>
    unfold applyChanges ChildProfile.applyChanges NullsRequired
    simp only [BodyField.required_bind_eq_error_iff, Except.pure_ne_error, and_false, or_false]
  | readingProfile b =>
    unfold applyChanges ChildReadingProfile.applyChanges NullsRequired
    simp only [BodyField.required_bind_eq_error_iff, Except.pure_ne_error, and_false, or_false]
    tauto
  | entry b =>
    unfold applyChanges ReadingHistory.applyChanges NullsRequired
    simp only [BodyField.required_bind_eq_error_iff, Except.pure_ne_error, and_false, or_false]

/-- Setting the fields succeeds where none is a `null` that is refused. -/
theorem exists_applyChanges {p : Patch T} {r : T.Row} (h : ¬ p.NullsRequired) :
    ∃ r', p.applyChanges r = .ok r' := by
  cases hr : p.applyChanges r with
  | ok r' => exact ⟨r', rfl⟩
  | error e => exact absurd (applyChanges_eq_error_iff.mp hr).1 h

end Patch

/-! ## What is stored

Up to the stamp, an update stores its draft as the columns do, whatever the
row was: where nothing changed the row is left, but then it is as its columns
store it. -/

namespace Patch

/-- **What an update makes of a row**, but for the stamp. -/
def stores (p : Patch T) (r : T.Row) : Except Exn T.Row := p.applyChanges r >>= T.coerce

/-- **What an update that returns has done**: the row is stored as `a`, and
every other row is as it was. -/
structure Updated (p : Patch T) (d d' : Database) (r a : T.Row) : Prop where
  /-- The row keeps its keys. -/
  keys : schema.SameKeys T a r
  /-- It is replaced. -/
  rows : d'.rows = schema.replace T a d.rows
  /-- By what the update makes of it, but for the stamp. -/
  stores : ∃ c, p.stores r = .ok c ∧ SameUpToStamp a c

theorem stores_of_written {p : Patch T} {r r' : T.Row} {now : Datetime} (hr : T.coerce r = .ok r)
    (h : p.applyChanges r >>= T.written now r = .ok r') :
    ∃ c, p.stores r = .ok c ∧ SameUpToStamp r' c := by
  obtain ⟨draft, hdraft, hw⟩ := Except.bind_eq_ok_iff.mp h
  rcases TableName.written_cases hw with ⟨rfl, rfl⟩ | ⟨c, hc, rfl⟩
  · exact ⟨r', Except.bind_eq_ok_iff.mpr ⟨r', hdraft, hr⟩, .refl _⟩
  · exact ⟨c, Except.bind_eq_ok_iff.mpr ⟨draft, hdraft, hc⟩, sameUpToStamp_touch now c⟩

theorem written_of_stores {p : Patch T} {r c : T.Row} (now : Datetime) (hr : T.coerce r = .ok r)
    (h : p.stores r = .ok c) :
    ∃ r', p.applyChanges r >>= T.written now r = .ok r' ∧ SameUpToStamp r' c := by
  obtain ⟨draft, hdraft, hc⟩ := Except.bind_eq_ok_iff.mp h
  obtain ⟨r', hw, hsame⟩ := written_of_coerce now hr hc
  exact ⟨r', Except.bind_eq_ok_iff.mpr ⟨draft, hdraft, hw⟩, hsame⟩

/-- **Serving an update** that returns stores what it makes of the row. -/
theorem serve_updated {p : Patch T} {r : T.Row} {a : Response} (hr : r ∈ d.rows T)
    (hown : Owns d.rows f T r) (hstored : T.coerce r = .ok r)
    (h : serve P env (.family f (p.op r)) d = (.ok a, d')) :
    ∃ r', a = p.response r' ∧ p.Updated d d' r r' := by
  cases hw : p.applyChanges r >>= T.written env.now r with
  | ok r' =>
    obtain ⟨d₁, hd₁, hs⟩ := serve_ok hr hown hw
    obtain ⟨ha, rfl⟩ := Prod.mk.inj (h.symm.trans hs)
    obtain ⟨draft, hdraft, hw'⟩ := Except.bind_eq_ok_iff.mp hw
    exact ⟨r', Except.ok.inj ha, TableName.written_sameKeys (applyChanges_sameKeys hdraft) hw', hd₁,
      stores_of_written hstored hw⟩
  | error e => cases (Prod.mk.inj (h.symm.trans (serve_error hr hown hw))).1

/-- **An update that can be stored** is served. -/
theorem serve_of_stores {p : Patch T} {r c : T.Row} (hr : r ∈ d.rows T)
    (hown : Owns d.rows f T r) (hstored : T.coerce r = .ok r) (h : p.stores r = .ok c) :
    ∃ (r' : T.Row) (d' : Database),
      serve P env (.family f (p.op r)) d = (.ok (p.response r'), d') ∧ p.Updated d d' r r' := by
  obtain ⟨r', hw, -⟩ := written_of_stores env.now hstored h
  obtain ⟨d', -, hs⟩ := serve_ok hr hown hw
  obtain ⟨r'', ha, hup⟩ := serve_updated hr hown hstored hs
  exact ⟨r'', d', ha ▸ hs, hup⟩

/-- **The numbers of the body are in the range of their columns**, once they
are rounded. -/
def Fits : {T : TableName} → Patch T → Prop
  | _, memberProfile b => ∀ q ∈ b.confidence.given, |roundCents q| < 10 ^ 1
  | _, readingProfile b => (∀ n ∈ b.lexile.given, -2 ^ 31 ≤ n ∧ n < 2 ^ 31) ∧
      ∀ q ∈ b.arLevel.given, |roundCents q| < 10 ^ 2
  | _, _ => True

end Patch

/-- Which numbers a column takes. -/
theorem numericColumn_eq_ok_iff {digits : ℕ} {q v : ℚ} :
    numericColumn digits q = .ok v ↔ |roundCents q| < 10 ^ digits ∧ v = roundCents q := by
  unfold numericColumn
  split
  · next h => exact ⟨fun hv => ⟨h, (Except.ok.inj hv).symm⟩, fun hv => by rw [hv.2]⟩
  · next h => exact ⟨fun hv => (by cases hv), fun hv => absurd hv.1 h⟩

theorem integerColumn_eq_ok_iff {n v : ℤ} :
    integerColumn n = .ok v ↔ (-2 ^ 31 ≤ n ∧ n < 2 ^ 31) ∧ v = n := by
  unfold integerColumn
  split
  · next h => exact ⟨fun hv => ⟨h, (Except.ok.inj hv).symm⟩, fun hv => by rw [hv.2]⟩
  · next h => exact ⟨fun hv => (by cases hv), fun hv => absurd hv.1 h⟩

/-- **A column takes the value of a field**, or the one it has. -/
theorem BodyField.exists_mapM_nullable {α : Type} {g : α → Except Exn α} {field : BodyField α}
    {old : Option α} (hold : old.mapM g = .ok old) :
    (∃ v, (field.nullable old).mapM g = .ok v) ↔ ∀ a ∈ field.given, ∃ v, g a = .ok v := by
  rcases field with _ | _ | a
  · exact ⟨fun _ a ha => (by cases ha), fun _ => ⟨old, hold⟩⟩
  · exact ⟨fun _ a ha => (by cases ha), fun _ => ⟨none, rfl⟩⟩
  · constructor
    · rintro ⟨v, hv⟩ a' ha'
      obtain rfl := Option.some.inj ha'
      obtain ⟨h, -⟩ | ⟨a', b, h, hb, -⟩ := Option.mapM_eq_ok_iff.mp hv
      · cases h
      · obtain rfl : a = a' := Option.some.inj h
        exact ⟨b, hb⟩
    · intro h
      obtain ⟨v, hv⟩ := h a rfl
      exact ⟨some v, Option.mapM_eq_ok_iff.mpr (Or.inr ⟨a, v, rfl, hv, rfl⟩)⟩

namespace TableName

/-- What it is for a member's profile to be as its columns store it. -/
theorem coerce_memberProfile {r : FamilyMemberProfile} :
    coerce .familyMemberProfile r = .ok r ↔
      r.confidence.mapM (numericColumn 1) = .ok r.confidence := by
  constructor
  · intro h
    obtain ⟨confidence, hconf, h⟩ := Except.bind_eq_ok_iff.mp h
    rw [hconf]
    exact congrArg (fun r : Except Exn FamilyMemberProfile => r.map (·.confidence)) h
  · exact fun h => Except.bind_eq_ok_iff.mpr ⟨_, h, rfl⟩

/-- What it is for a reading profile. -/
theorem coerce_readingProfile {r : ChildReadingProfile} :
    coerce .childReadingProfile r = .ok r ↔ r.lexile.mapM integerColumn = .ok r.lexile ∧
      r.arLevel.mapM (numericColumn 2) = .ok r.arLevel ∧
      r.confidence.mapM (numericColumn 1) = .ok r.confidence := by
  constructor
  · intro h
    obtain ⟨lexile, hlexile, h⟩ := Except.bind_eq_ok_iff.mp h
    obtain ⟨arLevel, har, h⟩ := Except.bind_eq_ok_iff.mp h
    obtain ⟨confidence, hconf, h⟩ := Except.bind_eq_ok_iff.mp h
    have hr := Except.ok.inj h
    rw [hlexile, har, hconf]
    exact ⟨congrArg (fun r => Except.ok (ChildReadingProfile.lexile r)) hr,
      congrArg (fun r => Except.ok (ChildReadingProfile.arLevel r)) hr,
      congrArg (fun r => Except.ok (ChildReadingProfile.confidence r)) hr⟩
  · rintro ⟨h₁, h₂, h₃⟩
    exact Except.bind_eq_ok_iff.mpr ⟨_, h₁, Except.bind_eq_ok_iff.mpr ⟨_, h₂,
      Except.bind_eq_ok_iff.mpr ⟨_, h₃, rfl⟩⟩⟩

theorem exists_coerce_memberProfile {r : FamilyMemberProfile} :
    (∃ c, coerce .familyMemberProfile r = .ok c) ↔
      ∃ v, r.confidence.mapM (numericColumn 1) = .ok v := by
  constructor
  · rintro ⟨c, hc⟩
    obtain ⟨confidence, hconf, -⟩ := Except.bind_eq_ok_iff.mp hc
    exact ⟨confidence, hconf⟩
  · rintro ⟨confidence, hconf⟩
    exact ⟨_, Except.bind_eq_ok_iff.mpr ⟨confidence, hconf, rfl⟩⟩

theorem exists_coerce_readingProfile {r : ChildReadingProfile} :
    (∃ c, coerce .childReadingProfile r = .ok c) ↔
      (∃ v, r.lexile.mapM integerColumn = .ok v) ∧ (∃ v, r.arLevel.mapM (numericColumn 2) = .ok v) ∧
        ∃ v, r.confidence.mapM (numericColumn 1) = .ok v := by
  constructor
  · rintro ⟨c, hc⟩
    obtain ⟨lexile, hlexile, hc⟩ := Except.bind_eq_ok_iff.mp hc
    obtain ⟨arLevel, har, hc⟩ := Except.bind_eq_ok_iff.mp hc
    obtain ⟨confidence, hconf, -⟩ := Except.bind_eq_ok_iff.mp hc
    exact ⟨⟨lexile, hlexile⟩, ⟨arLevel, har⟩, confidence, hconf⟩
  · rintro ⟨⟨lexile, hlexile⟩, ⟨arLevel, har⟩, confidence, hconf⟩
    exact ⟨_, Except.bind_eq_ok_iff.mpr ⟨lexile, hlexile, Except.bind_eq_ok_iff.mpr
      ⟨arLevel, har, Except.bind_eq_ok_iff.mpr ⟨confidence, hconf, rfl⟩⟩⟩⟩

end TableName

/-- When a column takes the numbers there are. -/
theorem forall_numericColumn_iff {digits : ℕ} {o : Option ℚ} :
    (∀ q ∈ o, ∃ v, numericColumn digits q = .ok v) ↔ ∀ q ∈ o, |roundCents q| < 10 ^ digits :=
  forall₂_congr fun _ _ => ⟨fun ⟨_, hv⟩ => (numericColumn_eq_ok_iff.mp hv).1,
    fun h => ⟨_, numericColumn_eq_ok_iff.mpr ⟨h, rfl⟩⟩⟩

theorem forall_integerColumn_iff {o : Option ℤ} :
    (∀ n ∈ o, ∃ v, integerColumn n = .ok v) ↔ ∀ n ∈ o, -2 ^ 31 ≤ n ∧ n < 2 ^ 31 :=
  forall₂_congr fun _ _ => ⟨fun ⟨_, hv⟩ => (integerColumn_eq_ok_iff.mp hv).1,
    fun h => ⟨_, integerColumn_eq_ok_iff.mpr ⟨h, rfl⟩⟩⟩

namespace Patch

/-- When the fields can be set. -/
theorem exists_applyChanges_iff {p : Patch T} {r : T.Row} :
    (∃ x, p.applyChanges r = .ok x) ↔ ¬ p.NullsRequired := by
  refine ⟨?_, exists_applyChanges⟩
  rintro ⟨x, hx⟩ hnull
  rw [applyChanges_eq_error_iff.mpr ⟨hnull, rfl⟩] at hx
  cases hx

/-- **When an update can be stored**: it sets no required column to `null`,
and its numbers fit. -/
theorem exists_stores_iff {p : Patch T} {r : T.Row} (hr : T.coerce r = .ok r) :
    (∃ c, p.stores r = .ok c) ↔ ¬ p.NullsRequired ∧ p.Fits := by
  have hcoerce : ∀ x, p.applyChanges r = .ok x → ((∃ c, T.coerce x = .ok c) ↔ p.Fits) := by
    intro x hx
    cases p with
    | memberProfile b =>
      obtain ⟨concerns, -, hx⟩ := Except.bind_eq_ok_iff.mp hx
      cases hx
      rw [TableName.exists_coerce_memberProfile,
        BodyField.exists_mapM_nullable (TableName.coerce_memberProfile.mp hr),
        forall_numericColumn_iff, Fits]
    | readingProfile b =>
      simp only [applyChanges, ChildReadingProfile.applyChanges, Except.bind_eq_ok_iff] at hx
      obtain ⟨_, -, _, -, _, -, _, -, _, -, _, -, _, -, hx⟩ := hx
      cases hx
      obtain ⟨hlexile, har, hconf⟩ := TableName.coerce_readingProfile.mp hr
      have hkept : ∃ v, r.confidence.mapM (numericColumn 1) = .ok v := ⟨_, hconf⟩
      rw [TableName.exists_coerce_readingProfile, and_iff_left hkept,
        BodyField.exists_mapM_nullable hlexile, BodyField.exists_mapM_nullable har,
        forall_integerColumn_iff, forall_numericColumn_iff, Fits]
    | family | member | policy | child | entry => exact iff_of_true ⟨x, rfl⟩ trivial
  rw [← exists_applyChanges_iff (r := r)]
  constructor
  · rintro ⟨c, hc⟩
    obtain ⟨x, hx, hc⟩ := Except.bind_eq_ok_iff.mp hc
    exact ⟨⟨x, hx⟩, (hcoerce x hx).mp ⟨c, hc⟩⟩
  · rintro ⟨⟨x, hx⟩, hfits⟩
    obtain ⟨c, hc⟩ := (hcoerce x hx).mpr hfits
    exact ⟨c, Except.bind_eq_ok_iff.mpr ⟨x, hx, hc⟩⟩

end Patch

/-! ## The required columns -/

/-- **An update leaves no required column empty just when its body sets none
to `null`.** An explicit `null` for such a column is a constraint violation
that nothing handles. -/
theorem null_in_required_column (P : Platform) (env : Env) (d : Database) (f : UUID)
    (T : TableName) (p : Patch T) (r : T.Row) (hr : r ∈ d.rows T) (hown : Owns d.rows f T r) :
    (serve P env (.family f (p.op r)) d).1 ≠ .error .integrityError ↔ ¬ p.NullsRequired := by
  refine not_congr ?_
  cases hw : p.applyChanges r >>= T.written env.now r with
  | ok r' =>
    obtain ⟨d', -, hs⟩ := Patch.serve_ok hr hown hw
    obtain ⟨draft, hdraft, -⟩ := Except.bind_eq_ok_iff.mp hw
    rw [hs]
    refine iff_of_false (by simp) (fun hnull => ?_)
    rw [Patch.applyChanges_eq_error_iff.mpr ⟨hnull, rfl⟩] at hdraft
    cases hdraft
  | error e =>
    rw [Patch.serve_error hr hown hw]
    rcases Except.bind_eq_error_iff.mp hw with h | ⟨draft, hdraft, h⟩
    · obtain ⟨hnull, rfl⟩ := Patch.applyChanges_eq_error_iff.mp h
      exact iff_of_true rfl hnull
    · obtain rfl := TableName.written_eq_error h
      refine iff_of_false (by simp) (fun hnull => ?_)
      rw [Patch.applyChanges_eq_error_iff.mpr ⟨hnull, rfl⟩] at hdraft
      cases hdraft

/-- A body that sets one nullable column of a member to `null`. -/
def Sample.memberUpdate : MemberUpdate where
  displayName := some none
  role := none
  gender := none
  birthDate := none
  languagePreference := none

/-- The member who signs up in the samples. -/
def Sample.ada : FamilyMember :=
  AuthService.newMember (Sample.platform 2592000) (Sample.env 1 (Sample.second 0))
    (Sample.signup "ada@example.org" none) 1 "parent" true

/-- The name of a member may be removed. -/
theorem null_in_required_column_name :
    let P := Sample.platform 2592000
    (serve P (Sample.env 2 (Sample.second 60)) (.family 1 (.updateMember 1 Sample.memberUpdate))
      (Sample.signedUp 2592000)).1 ≠ .error .integrityError :=
  (null_in_required_column (Sample.platform 2592000) (Sample.env 2 (Sample.second 60))
    (Sample.signedUp 2592000) 1 .familyMember (.member Sample.memberUpdate) Sample.ada
    (by decide +kernel) (by decide +kernel)).mpr (by rintro ⟨⟩)

/-- **The role of a member may not**, and nothing keeps a client from asking
for it. -/
theorem null_in_required_column_role :
    let P := Sample.platform 2592000
    (serve P (Sample.env 2 (Sample.second 60))
      (.family 1 (.updateMember 1 { Sample.memberUpdate with role := some none }))
      (Sample.signedUp 2592000)).1 = .error .integrityError := by
  decide +kernel
