import Accounts.Database

/-!
# Which family a row belongs to

A member, a policy, an invite, a refresh token and a child name their
family; the profile of a member belongs to the member's family, a reading
profile and a history entry to the child's. `TableName.scope` says which
of the three a row names, and `familyOf` follows the name in the tables.

The rows of one family, table by table, are its `slice` of the database.
The three lemmas at the end are the isolation property of single
statements: inserting a row that belongs to `f`, replacing one, or
deleting one – with what the ORM deletes along – leaves the slice of every
other family as it was.
-/

/-- What a row names its family by. -/
inductive Scope where
  /-- The family itself. -/
  | family (id : UUID)
  /-- A member of the family. -/
  | member (id : UUID)
  /-- A child of the family. -/
  | child (id : UUID)
deriving DecidableEq

/-- What a row names its family by. -/
def TableName.scope : (T : TableName) → T.Row → Scope
  | family, r => .family r.id
  | familyMember, r => .family r.familyId
  | familyMemberProfile, r => .member r.memberId
  | familyReadingPolicy, r => .family r.familyId
  | familyInvite, r => .family r.familyId
  | refreshToken, r => .family r.familyId
  | childProfile, r => .family r.familyId
  | childReadingProfile, r => .child r.childId
  | readingHistory, r => .child r.childId

/-- **The family a scope leads to.** -/
def familyOf (t : (T : TableName) → List T.Row) : Scope → Option UUID
  | .family id => some id
  | .member id => ((t .familyMember).find? (fun r => r.id = id)).map (·.familyId)
  | .child id => ((t .childProfile).find? (fun r => r.id = id)).map (·.familyId)

/-- The row belongs to the family. -/
def Owns (t : (T : TableName) → List T.Row) (familyId : UUID) (T : TableName) (r : T.Row) : Prop :=
  familyOf t (T.scope r) = some familyId

instance (t : (T : TableName) → List T.Row) (familyId : UUID) (T : TableName) (r : T.Row) :
    Decidable (Owns t familyId T r) :=
  inferInstanceAs (Decidable (_ = _))

/-- **The rows of a family.** -/
def slice (familyId : UUID) (t : (T : TableName) → List T.Row) (T : TableName) : List T.Row :=
  (t T).filter (fun r => decide (Owns t familyId T r))

variable {t t' : (T : TableName) → List T.Row} {f g : UUID} {T : TableName}

theorem mem_slice {r : T.Row} : r ∈ slice f t T ↔ r ∈ t T ∧ Owns t f T r := by
  simp [slice]

/-- A row belongs to one family. -/
theorem Owns.eq {r : T.Row} (hf : Owns t f T r) (hg : Owns t g T r) : f = g :=
  Option.some.inj (hf.symm.trans hg)

/-! ## References within a family -/

/-- **The references a row does not name its family by.** -/
def TableName.sideReferences : (T : TableName) → List (TableName × (T.Row → Option UUID))
  | familyReadingPolicy => [(childProfile, (·.childId))]
  | familyInvite => [(familyMember, (·.createdByMemberId))]
  | refreshToken => [(familyMember, fun r => some r.familyMemberId)]
  | family | familyMember | familyMemberProfile | childProfile | childReadingProfile
  | readingHistory => []

/-- What a row may refer to, if it belongs to the family: rows of the
family. -/
def RefersWithin (t : (T : TableName) → List T.Row) (f : UUID) (T : TableName) (r : T.Row) : Prop :=
  ∀ p ∈ T.sideReferences, ∀ k ∈ p.2 r, ∃ r' ∈ t p.1, p.1.id r' = k ∧ Owns t f p.1 r'

/-! ## Where a scope leads after a statement -/

/-- A scope leads somewhere in consistent tables: the parent of a row is
there. -/
theorem Schema.Consistent.exists_owner (h : schema.Consistent t) {r : T.Row} (hr : r ∈ t T) :
    ∃ f, Owns t f T r := by
  have hfind : ∀ {p : TableName × (T.Row → Option UUID)}, p ∈ T.references → ∀ {k}, p.2 r = some k →
      k ∈ (t p.1).map (TableName.id p.1) := fun hp k hk => h.reference T _ hp r hr _ hk
  unfold Owns
  cases T
  case familyMemberProfile =>
    obtain ⟨m, hm, hid⟩ := List.mem_map.mp (hfind (List.mem_singleton.mpr rfl) rfl)
    cases hx : (t .familyMember).find? (fun x => x.id = r.memberId) with
    | none => exact absurd hid (by simpa using List.find?_eq_none.mp hx m hm)
    | some x => exact ⟨x.familyId, by rw [TableName.scope, familyOf, hx]; rfl⟩
  case childReadingProfile | readingHistory =>
    obtain ⟨c, hc, hid⟩ := List.mem_map.mp (hfind (List.mem_singleton.mpr rfl) rfl)
    cases hx : (t .childProfile).find? (fun x => x.id = r.childId) with
    | none => exact absurd hid (by simpa using List.find?_eq_none.mp hx c hc)
    | some x => exact ⟨x.familyId, by rw [TableName.scope, familyOf, hx]; rfl⟩
  all_goals exact ⟨_, rfl⟩

/-- An insert leaves where the scopes of the rows there are lead. -/
theorem familyOf_insert {r : T.Row} {s : Scope} (hs : familyOf t s = some f) :
    familyOf (Schema.insert T r t) s = some f := by
  have happ : ∀ {β : Type} (p : β → Bool) (g : β → UUID) (rows : List β) (x : β),
      (rows.find? p).map g = some f → ((Table.insert rows x).find? p).map g = some f := by
    intro β p g rows x hx
    obtain ⟨y, hy, hg⟩ := Option.map_eq_some_iff.mp hx
    rw [Table.insert, List.find?_append, hy]
    exact congrArg some hg
  cases s with
  | family id => exact hs
  | member id =>
    by_cases hT : TableName.familyMember = T
    · subst hT
      rw [familyOf, Schema.insert_self]
      exact happ _ _ _ _ hs
    · rw [familyOf, Schema.insert_of_ne hT]
      exact hs
  | child id =>
    by_cases hT : TableName.childProfile = T
    · subst hT
      rw [familyOf, Schema.insert_self]
      exact happ _ _ _ _ hs
    · rw [familyOf, Schema.insert_of_ne hT]
      exact hs

/-- The scope under a stored member leads to its family. -/
theorem Schema.Consistent.familyOf_member (h : schema.Consistent t) {m : FamilyMember}
    (hm : m ∈ t .familyMember) :
    familyOf t (.member m.id) = some m.familyId :=
  congrArg (Option.map FamilyMember.familyId)
    ((h.key .familyMember).find?_eq_some_iff.mpr ⟨hm, rfl⟩)

/-- The scope under a stored child leads to its family. -/
theorem Schema.Consistent.familyOf_child (h : schema.Consistent t) {c : ChildProfile}
    (hc : c ∈ t .childProfile) :
    familyOf t (.child c.id) = some c.familyId :=
  congrArg (Option.map ChildProfile.familyId)
    ((h.key .childProfile).find?_eq_some_iff.mpr ⟨hc, rfl⟩)

/-- An update that keeps the keys leaves where scopes lead. -/
theorem familyOf_replace (h : schema.Consistent t) {r old : T.Row} (hold : old ∈ t T)
    (hk : schema.SameKeys T r old) (s : Scope) :
    familyOf (schema.replace T r t) s = familyOf t s := by
  cases s with
  | family id => rfl
  | member id =>
    by_cases hT : TableName.familyMember = T
    · subst hT
      rw [familyOf, familyOf, Schema.replace_self]
      refine Table.find?_map_replace (fun x hx hid => ?_)
      obtain rfl : x = old := h.eq_of_id hx hold (hid.trans hk.id)
      have hid : r.id = x.id := hk.id
      have hfam := hk.reference _ (List.mem_singleton.mpr rfl)
      exact ⟨by rw [hid], Option.some.inj hfam⟩
    · rw [familyOf, familyOf, Schema.replace_of_ne hT]
  | child id =>
    by_cases hT : TableName.childProfile = T
    · subst hT
      rw [familyOf, familyOf, Schema.replace_self]
      refine Table.find?_map_replace (fun x hx hid => ?_)
      obtain rfl : x = old := h.eq_of_id hx hold (hid.trans hk.id)
      have hid : r.id = x.id := hk.id
      have hfam := hk.reference _ (List.mem_singleton.mpr rfl)
      exact ⟨by rw [hid], Option.some.inj hfam⟩
    · rw [familyOf, familyOf, Schema.replace_of_ne hT]

/-! ## The slices of the other families -/

/-- A row that keeps its keys keeps its scope. -/
theorem Schema.SameKeys.scope {r old : T.Row} (h : schema.SameKeys T r old) :
    T.scope r = T.scope old := by
  cases T
  case family => exact congrArg Scope.family h.id
  case familyMember | familyReadingPolicy | familyInvite | refreshToken | childProfile =>
    exact congrArg Scope.family (Option.some.inj (h.reference _ List.mem_cons_self))
  case familyMemberProfile =>
    exact congrArg Scope.member (Option.some.inj (h.reference _ List.mem_cons_self))
  case childReadingProfile | readingHistory =>
    exact congrArg Scope.child (Option.some.inj (h.reference _ List.mem_cons_self))

/-- **Inserting a row of `f` leaves the other slices as they were.** -/
theorem slice_insert (h : schema.Consistent t) {r : T.Row} (hr : Owns t f T r) (hg : g ≠ f) :
    slice g (Schema.insert T r t) = slice g t := by
  -- the rows that are there keep their owner
  have hkeep : ∀ T' : TableName, ∀ x ∈ t T',
      decide (Owns (Schema.insert T r t) g T' x) = decide (Owns t g T' x) := by
    intro T' x hx
    obtain ⟨f', hf'⟩ := h.exists_owner hx
    refine decide_eq_decide.mpr ?_
    rw [Owns, Owns, familyOf_insert hf', hf']
  have hnew : decide (Owns (Schema.insert T r t) g T r) = false :=
    decide_eq_false (fun hown => hg (hown.eq (familyOf_insert hr)))
  funext T'
  rw [slice, slice]
  by_cases hT : T' = T
  · subst hT
    rw [Schema.insert_self]
    refine (Table.filter_insert_of_false
      (p := fun x => decide (Owns (Schema.insert T' r t) g T' x)) hnew).trans ?_
    exact List.filter_congr (hkeep T')
  · rw [Schema.insert_of_ne hT]
    exact List.filter_congr (hkeep T')

/-- **Updating a row of `f` leaves the other slices as they were.** -/
theorem slice_replace (h : schema.Consistent t) {r old : T.Row} (hold : old ∈ t T)
    (hk : schema.SameKeys T r old) (hr : Owns t f T old) (hg : g ≠ f) :
    slice g (schema.replace T r t) = slice g t := by
  have hkeep : ∀ (T' : TableName) (x : T'.Row),
      decide (Owns (schema.replace T r t) g T' x) = decide (Owns t g T' x) := by
    intro T' x
    refine decide_eq_decide.mpr ?_
    rw [Owns, Owns, familyOf_replace h hold hk]
  have hno : ∀ x ∈ t T, TableName.id T x = TableName.id T old → ¬ Owns t g T x := by
    intro x hx hid hown
    obtain rfl : x = old := h.eq_of_id hx hold hid
    exact hg (hown.eq hr)
  have hnew : ¬ Owns t g T r := by
    unfold Owns
    rw [hk.scope]
    exact hno old hold rfl
  funext T'
  rw [slice, slice, funext (hkeep T')]
  by_cases hT : T' = T
  · subst hT
    rw [Schema.replace_self]
    exact Table.filter_replace_of_false (decide_eq_false hnew)
      (fun x hx hid => decide_eq_false (hno x hx (hid.trans hk.id)))
  · rw [Schema.replace_of_ne hT]

/-- What the ORM deletes along with a row. -/
theorem cascade_of_ne {k : UUID} {T' : TableName}
    (h₁ : T ≠ .familyMember ∨ T' ≠ .familyMemberProfile)
    (h₂ : T ≠ .childProfile ∨ T' ≠ .childReadingProfile) : T.cascade k t T' = t T' := by
  cases T
  case familyMember =>
    exact Schema.discard_of_ne (h₁.resolve_left (by simp))
  case childProfile =>
    exact Schema.discard_of_ne (h₂.resolve_left (by simp))
  all_goals rfl

/-- Deleting a row of `f` leaves which scopes lead to another family. -/
theorem familyOf_delete (h : schema.Consistent t) {r : T.Row} (hmem : r ∈ t T) (hr : Owns t f T r)
    (hg : g ≠ f) (s : Scope) :
    familyOf (schema.delete T (T.id r) (T.cascade (T.id r) t)) s = some g
      ↔ familyOf t s = some g := by
  have hne : ∀ {f' : UUID}, some f' = some f → f' ≠ g :=
    fun hf hfg => hg (hfg.symm.trans (Option.some.inj hf))
  cases s with
  | family id => rfl
  | member id =>
    by_cases hT : TableName.familyMember = T
    · subst hT
      rw [familyOf, familyOf, Schema.delete_self, cascade_of_ne (Or.inr (by simp))
        (Or.inr (by simp))]
      exact (h.key .familyMember).find?_delete_map_eq_some_iff hmem (hne hr) id
    · rw [familyOf, familyOf, Schema.delete_of_ne hT, cascade_of_ne (Or.inr (by simp))
        (Or.inr (by simp))]
  | child id =>
    by_cases hT : TableName.childProfile = T
    · subst hT
      rw [familyOf, familyOf, Schema.delete_self, cascade_of_ne (Or.inr (by simp))
        (Or.inr (by simp))]
      exact (h.key .childProfile).find?_delete_map_eq_some_iff hmem (hne hr) id
    · rw [familyOf, familyOf, Schema.delete_of_ne hT, cascade_of_ne (Or.inr (by simp))
        (Or.inr (by simp))]

/-- What goes along with a row of `f` is no row of another family. -/
theorem filter_cascade (h : schema.Consistent t) {r : T.Row} (hmem : r ∈ t T) (hr : Owns t f T r)
    (hg : g ≠ f) (T' : TableName) :
    (T.cascade (T.id r) t T').filter (fun x => decide (Owns t g T' x))
      = (t T').filter (fun x => decide (Owns t g T' x)) := by
  by_cases h₁ : T = .familyMember ∧ T' = .familyMemberProfile
  · obtain ⟨rfl, rfl⟩ := h₁
    refine (congrArg _ Schema.discard_self).trans
      (Table.filter_filter_of_false (fun x _ hx => decide_eq_false (fun hown => hg ?_)))
    have hid : r.id = x.memberId := by simpa [eq_comm] using hx
    rw [Owns, TableName.scope, ← hid, h.familyOf_member hmem] at hown
    exact (Option.some.inj hown).symm.trans (Option.some.inj hr)
  · by_cases h₂ : T = .childProfile ∧ T' = .childReadingProfile
    · obtain ⟨rfl, rfl⟩ := h₂
      refine (congrArg _ Schema.discard_self).trans
        (Table.filter_filter_of_false (fun x _ hx => decide_eq_false (fun hown => hg ?_)))
      have hid : r.id = x.childId := by simpa [eq_comm] using hx
      rw [Owns, TableName.scope, ← hid, h.familyOf_child hmem] at hown
      exact (Option.some.inj hown).symm.trans (Option.some.inj hr)
    · rw [cascade_of_ne (not_and_or.mp h₁) (not_and_or.mp h₂)]

/-- **Deleting a row of `f`, with what goes along with it, leaves the other
slices as they were.** -/
theorem slice_delete (h : schema.Consistent t) {r : T.Row} (hmem : r ∈ t T) (hr : Owns t f T r)
    (hg : g ≠ f) :
    slice g (schema.delete T (T.id r) (T.cascade (T.id r) t)) = slice g t := by
  have hkeep : ∀ (T' : TableName) (x : T'.Row),
      decide (Owns (schema.delete T (T.id r) (T.cascade (T.id r) t)) g T' x)
        = decide (Owns t g T' x) :=
    fun T' x => decide_eq_decide.mpr (familyOf_delete h hmem hr hg _)
  funext T'
  rw [slice, slice, funext (hkeep T'), ← filter_cascade h hmem hr hg T']
  by_cases hT : T' = T
  · subst hT
    rw [Schema.delete_self]
    refine Table.filter_delete_of_false (fun x hx hid => decide_eq_false (fun hown => hg ?_))
    have hself : T'.cascade (T'.id r) t T' = t T' :=
      cascade_of_ne (by cases T' <;> simp) (by cases T' <;> simp)
    rw [hself] at hx
    obtain rfl : x = r := h.eq_of_id hx hmem hid
    exact hown.eq hr
  · rw [Schema.delete_of_ne hT]
