import Accounts.Effects

/-!
# Operations of one family do not write to another

The slice of every other family is the same before and after an operation
scoped to `f`, whatever identifiers and bodies it is called with
(`slice_serve`). That rows keep their family and that every new row
belongs to `f` follow from the slices alone: in consistent tables every
row belongs to exactly one family.

An operation that addresses a row of another family – or one that is not
there, or an entry of another child – ends in `NotFoundError` and changes
nothing.
-/

open Repository

variable {P : Platform} {env : Env} {f g : UUID} {d d' : Database}

/-! ## Slices -/

/-- **A change of `f` leaves the other slices as they were.** -/
theorem ScopedChange.slice_eq {T : Option TableName} {t' : (T : TableName) → List T.Row}
    (h : ScopedChange env f d T t') (hg : g ≠ f) : slice g t' = slice g d.rows := by
  cases h with
  | nothing => rfl
  | insert hid hown => exact slice_insert d.consistent hown hg
  | insertChild hid hfam hchild hmid =>
    rw [slice_insert hmid (f := f) ?_ hg, slice_insert (T := .childProfile) d.consistent
      (show Owns d.rows f .childProfile _ from congrArg some hfam) hg]
    -- the reading profile belongs to the family of the child just inserted
    rw [Owns, TableName.scope, hchild, familyOf, Schema.insert_self, Table.insert,
      List.find?_append, List.find?_eq_none.mpr]
    · simp [hfam]
    · intro x hx hxid
      exact ((Schema.consistent_insert_iff d.consistent).mp hmid).1 x hx (by simpa using hxid)
  | replace hold hk hown => exact slice_replace d.consistent hold hk hown hg
  | delete hmem hown => exact slice_delete d.consistent hmem hown hg

/-- **An operation scoped to `f` leaves the slice of every other family as
it was**, however it ends. -/
theorem slice_serve (P : Platform) (env : Env) (d : Database) (op : FamilyOp) (hg : g ≠ f) :
    slice g (serve P env (.family f op) d).2.rows = slice g d.rows := by
  cases hs : serve P env (.family f op) d with
  | mk r d' =>
    cases r with
    | ok response =>
      obtain ⟨s, hret, rfl⟩ := Tx.serve_ok_iff.mp hs
      exact (FamilyOp.run_change hret).slice_eq hg
    | error e =>
      have hclean : Tx.Clean Exn.handled (Request.run P env (.family f op)) :=
        Request.clean_run_of_ne (fun raw h => by cases h)
      rw [hclean.serve hs id]

/-- **Equal slices keep the family of a row.** -/
theorem Owns.eq_of_slices (hs : ∀ g, g ≠ f → slice g d'.rows = slice g d.rows) {T : TableName}
    {r r' : T.Row} (hr : r ∈ d.rows T) (hr' : r' ∈ d'.rows T) (hid : T.id r' = T.id r) {g g' : UUID}
    (hg : Owns d.rows g T r) (hg' : Owns d'.rows g' T r') : g' = g := by
  by_cases h : g' = f
  · by_cases h₀ : g = f
    · rw [h, h₀]
    · -- `r` is still there, and can only be `r'`
      have hmem : r ∈ slice g d'.rows T := by
        rw [hs g h₀]
        exact mem_slice.mpr ⟨hr, hg⟩
      obtain ⟨hmem, hown⟩ := mem_slice.mp hmem
      obtain rfl : r' = r := d'.consistent.eq_of_id hr' hmem hid
      exact hg'.eq hown
  · have hmem : r' ∈ slice g' d.rows T := by
      rw [← hs g' h]
      exact mem_slice.mpr ⟨hr', hg'⟩
    obtain ⟨hmem, hown⟩ := mem_slice.mp hmem
    obtain rfl : r' = r := d.consistent.eq_of_id hmem hr hid
    exact hown.eq hg

/-- **Equal slices leave new rows to `f` alone.** -/
theorem Owns.of_slices (hs : ∀ g, g ≠ f → slice g d'.rows = slice g d.rows) {T : TableName}
    {r' : T.Row} (hr' : r' ∈ d'.rows T) (hnew : ∀ r ∈ d.rows T, T.id r ≠ T.id r') :
    Owns d'.rows f T r' := by
  obtain ⟨g, hg⟩ := d'.consistent.exists_owner hr'
  by_cases h : g = f
  · exact h ▸ hg
  · have hmem : r' ∈ slice g d.rows T := by
      rw [← hs g h]
      exact mem_slice.mpr ⟨hr', hg⟩
    exact absurd rfl (hnew r' (mem_slice.mp hmem).1)

/-! ## Addressed rows -/

/-- **The rows an operation addresses belong to the family** – and the
entry to the addressed child. -/
def FamilyOp.AddressesOwn (f : UUID) (d : Database) : FamilyOp → Prop
  | getMember memberId | updateMember memberId _ | deleteMember memberId | getProfile memberId
  | upsertProfile memberId _ => ∃ r ∈ d.members, r.id = memberId ∧ r.familyId = f
  | revokeInvite inviteId => ∃ r ∈ d.invites, r.id = inviteId ∧ r.familyId = f
  | getChild childId | updateChild childId _ | deleteChild childId | getReadingProfile childId
  | upsertReadingProfile childId _ | listReadingHistory childId | addReadingHistory childId _ =>
    ∃ r ∈ d.children, r.id = childId ∧ r.familyId = f
  | updateReadingHistory childId entryId _ | deleteReadingHistory childId entryId =>
    (∃ r ∈ d.children, r.id = childId ∧ r.familyId = f) ∧
      ∃ r ∈ d.readingHistory, r.id = entryId ∧ r.childId = childId
  | createPolicy body => ∀ text ∈ body.childId, ∃ r ∈ d.children,
      UUID.ofString text = some r.id ∧ r.familyId = f
  | updatePolicy policyId _ | deletePolicy policyId =>
    ∃ r ∈ d.policies, r.id = policyId ∧ r.familyId = f
  | getFamily | updateFamily _ | listMembers | createMember _ | createInvite _ _ | listInvites
  | listChildren | createChild _ | listPolicies | context => True

section NotFound

variable {s : Session Database}

theorem MemberService.require_raises {memberId : UUID}
    (h : ¬ ∃ r ∈ s.working.members, r.id = memberId ∧ r.familyId = f) :
    (require f memberId).Raises s .notFound s :=
  (required_raises (FamilyMember.atMostOne memberId f)).mpr
    ⟨fun r hr hp => h ⟨r, hr, by simpa using hp⟩, rfl, rfl⟩

theorem ChildService.require_raises {childId : UUID}
    (h : ¬ ∃ r ∈ s.working.children, r.id = childId ∧ r.familyId = f) :
    (require f childId).Raises s .notFound s :=
  (required_raises (ChildProfile.atMostOne childId f)).mpr
    ⟨fun r hr hp => h ⟨r, hr, by simpa using hp⟩, rfl, rfl⟩

theorem PolicyService.require_raises {policyId : UUID}
    (h : ¬ ∃ r ∈ s.working.policies, r.id = policyId ∧ r.familyId = f) :
    (require f policyId).Raises s .notFound s :=
  (required_raises (FamilyReadingPolicy.atMostOne policyId f)).mpr
    ⟨fun r hr hp => h ⟨r, hr, by simpa using hp⟩, rfl, rfl⟩

theorem InviteService.revoke_raises {inviteId : UUID}
    (h : ¬ ∃ r ∈ s.working.invites, r.id = inviteId ∧ r.familyId = f) :
    (revoke f inviteId).Raises s .notFound s := by
  rw [revoke, ← bind_assoc]
  exact Tx.raises_bind.mpr (Or.inl ((required_raises (FamilyInvite.atMostOne inviteId f)).mpr
    ⟨fun r hr hp => h ⟨r, hr, by simpa using hp⟩, rfl, rfl⟩))

theorem ChildService.requireEntry_raises {childId entryId : UUID}
    (h : ¬ ∃ r ∈ s.working.readingHistory, r.id = entryId ∧ r.childId = childId) :
    (requireEntry childId entryId).Raises s .notFound s :=
  (required_raises (ReadingHistory.atMostOne entryId childId)).mpr
    ⟨fun r hr hp => h ⟨r, hr, by simpa using hp⟩, rfl, rfl⟩

theorem PolicyService.resolveChild_raises {childId : Option String}
    (h : ¬ ∀ text ∈ childId, ∃ r ∈ s.working.children,
      UUID.ofString text = some r.id ∧ r.familyId = f) :
    (resolveChild childId f).Raises s .notFound s := by
  cases childId with
  | none => exact absurd (by simp) h
  | some text =>
    cases hu : UUID.ofString text with
    | none =>
      refine Tx.raises_bind.mpr (Or.inl (Tx.raises_orRaise.mpr ⟨hu, rfl, rfl⟩))
    | some u =>
      have hraise : (ChildService.require f u).Raises s .notFound s := by
        refine ChildService.require_raises (fun ⟨r, hr, hid, hfam⟩ => h ?_)
        simp only [Option.mem_some_iff, forall_eq']
        exact ⟨r, hr, by rw [hu, hid], hfam⟩
      refine Tx.raises_bind.mpr (Or.inr ⟨u, s, Tx.returns_orRaise.mpr ⟨hu, rfl⟩, ?_⟩)
      have := Tx.raises_bind (k := fun _ => (pure (some u) : Op (Option UUID))).mpr
        (Or.inl hraise)
      rw [ChildService.require, bind_assoc] at this
      exact this

/-- An entry of a child that is not there, or not the child's. -/
theorem ChildService.entry_raises {α : Type} {childId entryId : UUID}
    {k : ReadingHistory → Op α}
    (h : ¬ ((∃ r ∈ s.working.children, r.id = childId ∧ r.familyId = f) ∧
      ∃ r ∈ s.working.readingHistory, r.id = entryId ∧ r.childId = childId)) :
    (do
      let _ ← require f childId
      let entry ← requireEntry childId entryId
      k entry : Op α).Raises s .notFound s := by
  by_cases hc : ∃ r ∈ s.working.children, r.id = childId ∧ r.familyId = f
  · obtain ⟨r, hr, hid, hfam⟩ := hc
    refine Tx.raises_bind.mpr (Or.inr ⟨r, s, require_returns.mpr ⟨hr, hid, hfam, rfl⟩, ?_⟩)
    exact Tx.raises_bind.mpr (Or.inl (requireEntry_raises (fun he => h ⟨⟨r, hr, hid, hfam⟩, he⟩)))
  · exact Tx.raises_bind.mpr (Or.inl (require_raises hc))

/-- **An operation that addresses a row outside the family raises
`NotFoundError`.** -/
theorem FamilyOp.run_raises {op : FamilyOp} (h : ¬ op.AddressesOwn f s.working) :
    (op.run P env f).Raises s .notFound s := by
  cases op with
  | getMember memberId | updateMember memberId body | deleteMember memberId | getProfile memberId =>
    exact Tx.raises_bind.mpr (Or.inl (Tx.raises_bind.mpr
      (Or.inl (MemberService.require_raises h))))
  | upsertProfile memberId body =>
    exact Tx.raises_bind.mpr (Or.inl (Tx.raises_bind.mpr (Or.inl (Tx.raises_bind.mpr
      (Or.inl (MemberService.require_raises h))))))
  | revokeInvite inviteId =>
    exact Tx.raises_bind.mpr (Or.inl (InviteService.revoke_raises h))
  | getChild childId =>
    exact Tx.raises_bind.mpr (Or.inl (ChildService.require_raises h))
  | updateChild childId body | deleteChild childId | getReadingProfile childId
  | upsertReadingProfile childId body | listReadingHistory childId
  | addReadingHistory childId body =>
    exact Tx.raises_bind.mpr (Or.inl (Tx.raises_bind.mpr
      (Or.inl (ChildService.require_raises h))))
  | updateReadingHistory childId entryId body | deleteReadingHistory childId entryId =>
    exact Tx.raises_bind.mpr (Or.inl (ChildService.entry_raises h))
  | createPolicy body =>
    exact Tx.raises_bind.mpr (Or.inl (Tx.raises_bind.mpr
      (Or.inl (PolicyService.resolveChild_raises h))))
  | updatePolicy policyId body | deletePolicy policyId =>
    exact Tx.raises_bind.mpr (Or.inl (Tx.raises_bind.mpr
      (Or.inl (PolicyService.require_raises h))))
  | _ => exact absurd trivial h

end NotFound

/-! ## The result -/

/-- **Cross-family write isolation.** Whatever an operation scoped to `f`
is called with, in every state: the rows of every other family are what
they were, no row changes its family, every new row belongs to `f`, and an
operation that addresses a row outside of `f` raises `NotFoundError` and
changes nothing. -/
theorem family_write_isolation (P : Platform) (env : Env) (f : UUID) (op : FamilyOp)
    (d d' : Database) (answer : Except Exn Response)
    (hserve : serve P env (.family f op) d = (answer, d')) :
    (∀ g, g ≠ f → ∀ T, slice g d'.rows T = slice g d.rows T) ∧
    (∀ (T : TableName) (r r' : T.Row), r ∈ d.rows T → r' ∈ d'.rows T → T.id r' = T.id r →
      ∀ g g', Owns d.rows g T r → Owns d'.rows g' T r' → g' = g) ∧
    (∀ (T : TableName) (r' : T.Row), r' ∈ d'.rows T → (∀ r ∈ d.rows T, T.id r ≠ T.id r') →
      Owns d'.rows f T r') ∧
    (¬ op.AddressesOwn f d → answer = .error .notFound ∧ d' = d) := by
  have hslice : ∀ g, g ≠ f → slice g d'.rows = slice g d.rows := by
    intro g hg
    have := slice_serve P env d op hg
    rw [hserve] at this
    exact this
  refine ⟨fun g hg T => congrFun (hslice g hg) T, ?_, ?_, fun h => ?_⟩
  · intro T r r' hr hr' hid g g' hg hg'
    exact Owns.eq_of_slices hslice hr hr' hid hg hg'
  · intro T r' hr' hnew
    exact Owns.of_slices hslice hr' hnew
  · have hraise : (op.run P env f).Raises ⟨d, d⟩ .notFound ⟨d, d⟩ := FamilyOp.run_raises h
    rw [show serve P env (.family f op) d = Tx.serve Exn.handled (op.run P env f) d from rfl,
      Tx.serve_error_iff.mpr ⟨_, hraise, rfl⟩] at hserve
    cases hserve
    exact ⟨rfl, rfl⟩

/-- Deleting the member of another family. -/
theorem family_write_isolation_foreign_member :
    (serve (Sample.platform 2592000) (Sample.env 2 (Sample.second 1))
        (.family 7 (.deleteMember 1)) (Sample.signedUp 2592000)).1 = .error .notFound ∧
      (serve (Sample.platform 2592000) (Sample.env 2 (Sample.second 1))
        (.family 7 (.deleteMember 1)) (Sample.signedUp 2592000)).2 = Sample.signedUp 2592000 :=
  (family_write_isolation (Sample.platform 2592000) (Sample.env 2 (Sample.second 1)) 7
    (.deleteMember 1) (Sample.signedUp 2592000) _ _ rfl).2.2.2 (by
      show ¬ ∃ r ∈ (Sample.signedUp 2592000).members, r.id = 1 ∧ r.familyId = 7
      decide +kernel)
