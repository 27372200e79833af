import Accounts.Bodies

/-!
# An update is a merge

Setting the fields of one body and then those of another is setting the
fields of the two merged – also with the columns stored in between, since
what is stored is stored as it is. That is shown for a field, then for what
`apply_changes` makes of a row, then for what the columns hold of it, and
from there for the requests (`patch_is_merge`).

The stamp `updated_at` is left out throughout: `SameUpToStamp` are two rows
that differ in nothing else.
-/

open Repository TableName

variable {P : Platform} {env : Env} {d d' : Database} {f : UUID} {T : TableName}

/-! ## Fields -/

namespace BodyField

variable {α : Type} {field later : BodyField α}

theorem nullable_merge (field later : BodyField α) (old : Option α) :
    (field.merge later).nullable old = later.nullable (field.nullable old) := by
  cases later <;> rfl

theorem required_merge {old v w : α} (h₁ : field.required old = .ok v)
    (h₂ : later.required v = .ok w) : (field.merge later).required old = .ok w := by
  rcases later with _ | _ | x
  · exact h₁.trans h₂
  · cases h₂
  · exact h₂

/-- A column that stores what is stored as it is may store before the field
is set. -/
theorem mapM_nullable {g : α → Except Exn α} (hg : ∀ a b, g a = .ok b → g b = .ok b)
    {old v w : Option α} (h : old.mapM g = .ok v) (hv : (field.nullable v).mapM g = .ok w) :
    (field.nullable old).mapM g = .ok w := by
  cases field with
  | none => exact h.trans ((Option.mapM_mapM hg h).symm.trans hv)
  | some x => exact hv

/-- Fields commute where one of them is unset. -/
theorem merge_comm (h : field.isSome = false ∨ later.isSome = false) :
    field.merge later = later.merge field := by
  cases field <;> cases later <;> simp_all [merge]

@[simp] theorem nullable_none (old : Option α) : nullable none old = old := rfl

theorem eq_of_required {old v : α} (h : field = none) (hv : field.required old = .ok v) :
    v = old := by
  subst h
  exact (Except.ok.inj hv).symm

end BodyField

/-! ## Rows up to their stamp -/

namespace TableName

/-- No column is the stamp. -/
theorem get_touch (t : Datetime) (r : T.Row) :
    ∀ col ∈ T.columns, col.get (T.touch t r) = col.get r := by
  cases T <;>
  · simp only [columns, List.forall_mem_cons]
    simp [Column.kept, Column.field, touch]

theorem SameUpToStamp.get {r r' : T.Row} (h : SameUpToStamp r r') :
    ∀ col ∈ T.columns, col.get r = col.get r' := by
  intro col hcol
  obtain ⟨t, ht⟩ := exists_touch_eq r
  rw [← get_touch t r' col hcol, ← h t, ht]

/-- **A column that is stored as it is** keeps its value where the draft
keeps it. -/
theorem get_of_coerce {r x c : T.Row} (hr : T.coerce r = .ok r) (hx : T.coerce x = .ok c) :
    ∀ col ∈ T.columns, col.get x = col.get r → col.get c = col.get r := by
  cases T with
  | familyMemberProfile =>
    obtain ⟨confidence, hconf, hx⟩ := Except.bind_eq_ok_iff.mp hx
    cases hx
    have hkept : x.confidence = r.confidence → confidence = r.confidence := fun h =>
      Except.ok.inj ((h ▸ hconf).symm.trans (coerce_memberProfile.mp hr))
    simp only [columns, List.forall_mem_cons]
    simp +contextual [Column.kept, Column.field, hkept]
  | childReadingProfile =>
    obtain ⟨hlexile', har', hconf'⟩ := coerce_readingProfile.mp hr
    obtain ⟨lexile, hlexile, hx⟩ := Except.bind_eq_ok_iff.mp hx
    obtain ⟨arLevel, har, hx⟩ := Except.bind_eq_ok_iff.mp hx
    obtain ⟨confidence, hconf, hx⟩ := Except.bind_eq_ok_iff.mp hx
    cases hx
    have hkept : x.confidence = r.confidence → confidence = r.confidence := fun h =>
      Except.ok.inj ((h ▸ hconf).symm.trans hconf')
    have hkept' : x.lexile = r.lexile → lexile = r.lexile := fun h =>
      Except.ok.inj ((h ▸ hlexile).symm.trans hlexile')
    have hkept'' : x.arLevel = r.arLevel → arLevel = r.arLevel := fun h =>
      Except.ok.inj ((h ▸ har).symm.trans har')
    simp only [columns, List.forall_mem_cons]
    simp +contextual [Column.kept, Column.field, hkept, hkept', hkept'']
  | family | familyMember | familyReadingPolicy | familyInvite | refreshToken | childProfile
  | readingHistory =>
    cases hx
    exact fun _ _ h => h

end TableName

/-! ## Rows -/

namespace Patch

/-- **Setting the fields of one body and then of another** is setting those
of the two merged. -/
theorem applyChanges_merge {p₁ p₂ : Patch T} {r r₁ r₂ : T.Row} (h₁ : p₁.applyChanges r = .ok r₁)
    (h₂ : p₂.applyChanges r₁ = .ok r₂) : (p₁.merge p₂).applyChanges r = .ok r₂ := by
  cases p₁ with
  | family b =>
    obtain ⟨b', rfl⟩ : ∃ b', p₂ = family b' := by
      cases p₂
      exact ⟨_, rfl⟩
    cases h₁
    cases h₂
    simp only [merge, applyChanges, Family.applyChanges, BodyField.nullable_merge]
  | member b =>
    obtain ⟨b', rfl⟩ : ∃ b', p₂ = member b' := by
      cases p₂
      exact ⟨_, rfl⟩
    obtain ⟨role, hrole, h₁⟩ := Except.bind_eq_ok_iff.mp h₁
    cases h₁
    obtain ⟨role', hrole', h₂⟩ := Except.bind_eq_ok_iff.mp h₂
    cases h₂
    refine Except.bind_eq_ok_iff.mpr ⟨role', BodyField.required_merge hrole hrole', ?_⟩
    simp only [BodyField.nullable_merge]
    rfl
  | memberProfile b =>
    obtain ⟨b', rfl⟩ : ∃ b', p₂ = memberProfile b' := by
      cases p₂
      exact ⟨_, rfl⟩
    obtain ⟨concerns, hconcerns, h₁⟩ := Except.bind_eq_ok_iff.mp h₁
    cases h₁
    obtain ⟨concerns', hconcerns', h₂⟩ := Except.bind_eq_ok_iff.mp h₂
    cases h₂
    refine Except.bind_eq_ok_iff.mpr ⟨concerns', BodyField.required_merge hconcerns hconcerns', ?_⟩
    simp only [BodyField.nullable_merge]
    rfl
  | policy b =>
    obtain ⟨b', rfl⟩ : ∃ b', p₂ = policy b' := by
      cases p₂
      exact ⟨_, rfl⟩
    simp only [applyChanges, FamilyReadingPolicy.applyChanges, Except.bind_eq_ok_iff] at h₁ h₂
    obtain ⟨_, h1, _, h2, _, h3, _, h4, h₁⟩ := h₁
    cases h₁
    obtain ⟨_, h1', _, h2', _, h3', _, h4', h₂⟩ := h₂
    cases h₂
    refine Except.bind_eq_ok_iff.mpr ⟨_, BodyField.required_merge h1 h1', ?_⟩
    refine Except.bind_eq_ok_iff.mpr ⟨_, BodyField.required_merge h2 h2', ?_⟩
    refine Except.bind_eq_ok_iff.mpr ⟨_, BodyField.required_merge h3 h3', ?_⟩
    refine Except.bind_eq_ok_iff.mpr ⟨_, BodyField.required_merge h4 h4', ?_⟩
    simp only [BodyField.nullable_merge]
    unfold BodyField.merge
    cases b'.contentPreferences <;> rfl
  | child b =>
    obtain ⟨b', rfl⟩ : ∃ b', p₂ = child b' := by
      cases p₂
      exact ⟨_, rfl⟩
    obtain ⟨aliases, haliases, h₁⟩ := Except.bind_eq_ok_iff.mp h₁
    cases h₁
    obtain ⟨aliases', haliases', h₂⟩ := Except.bind_eq_ok_iff.mp h₂
    cases h₂
    refine Except.bind_eq_ok_iff.mpr ⟨aliases', BodyField.required_merge haliases haliases', ?_⟩
    simp only [BodyField.nullable_merge]
    rfl
  | readingProfile b =>
    obtain ⟨b', rfl⟩ : ∃ b', p₂ = readingProfile b' := by
      cases p₂
      exact ⟨_, rfl⟩
    simp only [applyChanges, ChildReadingProfile.applyChanges, Except.bind_eq_ok_iff] at h₁ h₂
    obtain ⟨_, h1, _, h2, _, h3, _, h4, _, h5, _, h6, _, h7, h₁⟩ := h₁
    cases h₁
    obtain ⟨_, h1', _, h2', _, h3', _, h4', _, h5', _, h6', _, h7', h₂⟩ := h₂
    cases h₂
    refine Except.bind_eq_ok_iff.mpr ⟨_, BodyField.required_merge h1 h1', ?_⟩
    refine Except.bind_eq_ok_iff.mpr ⟨_, BodyField.required_merge h2 h2', ?_⟩
    refine Except.bind_eq_ok_iff.mpr ⟨_, BodyField.required_merge h3 h3', ?_⟩
    refine Except.bind_eq_ok_iff.mpr ⟨_, BodyField.required_merge h4 h4', ?_⟩
    refine Except.bind_eq_ok_iff.mpr ⟨_, BodyField.required_merge h5 h5', ?_⟩
    refine Except.bind_eq_ok_iff.mpr ⟨_, BodyField.required_merge h6 h6', ?_⟩
    refine Except.bind_eq_ok_iff.mpr ⟨_, BodyField.required_merge h7 h7', ?_⟩
    simp only [BodyField.nullable_merge]
    rfl
  | entry b =>
    obtain ⟨b', rfl⟩ : ∃ b', p₂ = entry b' := by
      cases p₂
      exact ⟨_, rfl⟩
    obtain ⟨reasons, hreasons, h₁⟩ := Except.bind_eq_ok_iff.mp h₁
    cases h₁
    obtain ⟨reasons', hreasons', h₂⟩ := Except.bind_eq_ok_iff.mp h₂
    cases h₂
    refine Except.bind_eq_ok_iff.mpr ⟨reasons', BodyField.required_merge hreasons hreasons', ?_⟩
    simp only [BodyField.nullable_merge]
    rfl

/-- **Storing the row before its fields are set** makes no difference to what
is stored after. -/
theorem stores_of_coerce {p : Patch T} {r c c' : T.Row} (hc : T.coerce r = .ok c)
    (h : p.stores c = .ok c') : p.stores r = .ok c' := by
  cases p with
  | family | member | policy | child | entry =>
    cases hc
    exact h
  | memberProfile b =>
    obtain ⟨confidence, hconf, hc⟩ := Except.bind_eq_ok_iff.mp hc
    cases hc
    obtain ⟨draft, hdraft, h⟩ := Except.bind_eq_ok_iff.mp h
    obtain ⟨concerns, hconcerns, hdraft⟩ := Except.bind_eq_ok_iff.mp hdraft
    cases hdraft
    obtain ⟨confidence', hconf', h⟩ := Except.bind_eq_ok_iff.mp h
    cases h
    have hstored := BodyField.mapM_nullable (fun _ _ => numericColumn_numericColumn) hconf hconf'
    exact Except.bind_eq_ok_iff.mpr ⟨_, Except.bind_eq_ok_iff.mpr ⟨concerns, hconcerns, rfl⟩,
      Except.bind_eq_ok_iff.mpr ⟨confidence', hstored, rfl⟩⟩
  | readingProfile b =>
    obtain ⟨lexile, hlexile, hc⟩ := Except.bind_eq_ok_iff.mp hc
    obtain ⟨arLevel, har, hc⟩ := Except.bind_eq_ok_iff.mp hc
    obtain ⟨confidence, hconf, hc⟩ := Except.bind_eq_ok_iff.mp hc
    cases hc
    obtain ⟨draft, hdraft, h⟩ := Except.bind_eq_ok_iff.mp h
    simp only [applyChanges, ChildReadingProfile.applyChanges, Except.bind_eq_ok_iff] at hdraft
    obtain ⟨_, h1, _, h2, _, h3, _, h4, _, h5, _, h6, _, h7, hdraft⟩ := hdraft
    have hdraft' : (readingProfile b).applyChanges r = .ok { draft with
        lexile := b.lexile.nullable r.lexile
        arLevel := b.arLevel.nullable r.arLevel
        confidence := r.confidence } := by
      simp only [applyChanges, ChildReadingProfile.applyChanges, Except.bind_eq_ok_iff]
      cases hdraft
      exact ⟨_, h1, _, h2, _, h3, _, h4, _, h5, _, h6, _, h7, rfl⟩
    cases hdraft
    obtain ⟨lexile', hlexile', h⟩ := Except.bind_eq_ok_iff.mp h
    obtain ⟨arLevel', har', h⟩ := Except.bind_eq_ok_iff.mp h
    obtain ⟨confidence', hconf', h⟩ := Except.bind_eq_ok_iff.mp h
    cases h
    obtain rfl := Except.ok.inj (hconf'.symm.trans
      (Option.mapM_mapM (fun _ _ => numericColumn_numericColumn) hconf))
    have hlexile'' :=
      BodyField.mapM_nullable (fun _ _ => integerColumn_integerColumn) hlexile hlexile'
    have har'' := BodyField.mapM_nullable (fun _ _ => numericColumn_numericColumn) har har'
    exact Except.bind_eq_ok_iff.mpr ⟨_, hdraft', Except.bind_eq_ok_iff.mpr ⟨lexile', hlexile'',
      Except.bind_eq_ok_iff.mpr ⟨arLevel', har'', Except.bind_eq_ok_iff.mpr ⟨_, hconf, rfl⟩⟩⟩⟩

/-- **Storing the fields of one body and then of another** stores those of
the two merged. -/
theorem stores_merge {p₁ p₂ : Patch T} {r c₁ c₂ : T.Row} (h₁ : p₁.stores r = .ok c₁)
    (h₂ : p₂.stores c₁ = .ok c₂) : (p₁.merge p₂).stores r = .ok c₂ := by
  obtain ⟨r₁, hr₁, hc₁⟩ := Except.bind_eq_ok_iff.mp h₁
  obtain ⟨r₂, hr₂, hc₂⟩ := Except.bind_eq_ok_iff.mp (stores_of_coerce hc₁ h₂)
  exact Except.bind_eq_ok_iff.mpr ⟨r₂, applyChanges_merge hr₁ hr₂, hc₂⟩

/-- The stamp is no field. -/
theorem applyChanges_touch {p : Patch T} {r x : T.Row} (t : Datetime)
    (h : p.applyChanges r = .ok x) : p.applyChanges (T.touch t r) = .ok (T.touch t x) := by
  cases p with
  | family b =>
    cases h
    rfl
  | member b | memberProfile b | child b | entry b =>
    obtain ⟨v, hv, h⟩ := Except.bind_eq_ok_iff.mp h
    cases h
    exact Except.bind_eq_ok_iff.mpr ⟨v, hv, rfl⟩
  | policy b =>
    simp only [applyChanges, FamilyReadingPolicy.applyChanges, Except.bind_eq_ok_iff] at h ⊢
    obtain ⟨_, h1, _, h2, _, h3, _, h4, h⟩ := h
    cases h
    exact ⟨_, h1, _, h2, _, h3, _, h4, rfl⟩
  | readingProfile b =>
    simp only [applyChanges, ChildReadingProfile.applyChanges, Except.bind_eq_ok_iff] at h ⊢
    obtain ⟨_, h1, _, h2, _, h3, _, h4, _, h5, _, h6, _, h7, h⟩ := h
    cases h
    exact ⟨_, h1, _, h2, _, h3, _, h4, _, h5, _, h6, _, h7, rfl⟩

theorem stores_touch {p : Patch T} {r c : T.Row} (t : Datetime) (h : p.stores r = .ok c) :
    p.stores (T.touch t r) = .ok (T.touch t c) := by
  obtain ⟨x, hx, hc⟩ := Except.bind_eq_ok_iff.mp h
  refine Except.bind_eq_ok_iff.mpr ⟨T.touch t x, applyChanges_touch t hx, ?_⟩
  rw [TableName.coerce_touch, hc]
  rfl

/-- **Rows that differ in their stamp are stored as such.** -/
theorem stores_of_sameUpToStamp {p : Patch T} {r r' c : T.Row}
    (hr : TableName.SameUpToStamp r r') (h : p.stores r = .ok c) :
    ∃ c', p.stores r' = .ok c' ∧ TableName.SameUpToStamp c c' := by
  obtain ⟨t, ht⟩ := TableName.exists_touch_eq r'
  refine ⟨T.touch t c, ?_, (TableName.sameUpToStamp_touch t c).symm⟩
  rw [← ht, ← hr t]
  exact stores_touch t h

/-- A body leaves the columns it does not set, before the row is stored. -/
theorem get_of_applyChanges {p : Patch T} {r x : T.Row} (h : p.applyChanges r = .ok x) :
    ∀ col ∈ T.columns, col.set p = false → col.get x = col.get r := by
  cases p with
  | family b =>
    cases h
    simp only [TableName.columns, List.forall_mem_cons]
    simp +contextual [Column.kept, Column.field]
  | member b | memberProfile b | child b | entry b =>
    obtain ⟨v, hv, h⟩ := Except.bind_eq_ok_iff.mp h
    cases h
    have hv' := fun h => BodyField.eq_of_required h hv
    simp only [TableName.columns, List.forall_mem_cons]
    simp +contextual [Column.kept, Column.field, hv']
  | policy b =>
    simp only [applyChanges, FamilyReadingPolicy.applyChanges, Except.bind_eq_ok_iff] at h
    obtain ⟨_, h1, _, h2, _, h3, _, h4, h⟩ := h
    cases h
    have h1' := fun h => BodyField.eq_of_required h h1
    have h2' := fun h => BodyField.eq_of_required h h2
    have h3' := fun h => BodyField.eq_of_required h h3
    have h4' := fun h => BodyField.eq_of_required h h4
    simp only [TableName.columns, List.forall_mem_cons]
    simp +contextual [Column.kept, Column.field, h1', h2', h3', h4']
  | readingProfile b =>
    simp only [applyChanges, ChildReadingProfile.applyChanges, Except.bind_eq_ok_iff] at h
    obtain ⟨_, h1, _, h2, _, h3, _, h4, _, h5, _, h6, _, h7, h⟩ := h
    cases h
    have h1' := fun h => BodyField.eq_of_required h h1
    have h2' := fun h => BodyField.eq_of_required h h2
    have h3' := fun h => BodyField.eq_of_required h h3
    have h4' := fun h => BodyField.eq_of_required h h4
    have h5' := fun h => BodyField.eq_of_required h h5
    have h6' := fun h => BodyField.eq_of_required h h6
    have h7' := fun h => BodyField.eq_of_required h h7
    simp only [TableName.columns, List.forall_mem_cons]
    simp +contextual [Column.kept, Column.field, h1', h2', h3', h4', h5', h6', h7']

/-- **A body leaves the columns it does not set.** -/
theorem get_of_stores {p : Patch T} {r c : T.Row} (hr : T.coerce r = .ok r)
    (h : p.stores r = .ok c) : ∀ col ∈ T.columns, col.set p = false → col.get c = col.get r := by
  obtain ⟨x, hx, hc⟩ := Except.bind_eq_ok_iff.mp h
  exact fun col hcol hset =>
    TableName.get_of_coerce hr hc col hcol (get_of_applyChanges hx col hcol hset)

/-- **Bodies that set no column in common commute.** -/
theorem merge_comm {p₁ p₂ : Patch T}
    (h : ∀ col ∈ T.columns, col.set p₁ = false ∨ col.set p₂ = false) :
    p₁.merge p₂ = p₂.merge p₁ := by
  cases p₁ <;> cases p₂ <;>
  · simp only [TableName.columns, List.forall_mem_cons, Column.kept, Column.field] at h
    simp only [merge]
    grind [BodyField.merge_comm]

end Patch

/-! ## Requests -/

namespace Patch

/-- An operation addresses a row by its keys. -/
theorem op_congr (p : Patch T) {r r' : T.Row} (h : schema.SameKeys T r r') : p.op r = p.op r' := by
  cases p with
  | family b => rfl
  | member b => exact congrArg (fun k => FamilyOp.updateMember k b) h.id
  | memberProfile b =>
    exact congrArg (fun k => FamilyOp.upsertProfile k b)
      (Option.some.inj (h.reference _ List.mem_cons_self))
  | policy b => exact congrArg (fun k => FamilyOp.updatePolicy k b) h.id
  | child b => exact congrArg (fun k => FamilyOp.updateChild k b) h.id
  | readingProfile b =>
    exact congrArg (fun k => FamilyOp.upsertReadingProfile k b)
      (Option.some.inj (h.reference _ List.mem_cons_self))
  | entry b =>
    exact congrArg₂ (fun k k' => FamilyOp.updateReadingHistory k k' b)
      (Option.some.inj (h.reference _ List.mem_cons_self)) h.id

namespace Updated

variable {p p₁ p₂ : Patch T} {d₁ d₂ : Database} {r a b : T.Row}

/-- The row is there. -/
theorem mem (h : p.Updated d d' r a) (hr : r ∈ d.rows T) : a ∈ d'.rows T := by
  rw [h.rows, Schema.replace_self]
  exact Table.mem_replace.mpr (Or.inl ⟨rfl, r, hr, h.keys.id.symm⟩)

/-- It is the family's. -/
theorem owns (h : p.Updated d d' r a) (hr : r ∈ d.rows T) (hown : Owns d.rows f T r) :
    Owns d'.rows f T a := by
  rw [Owns, h.rows, h.keys.scope, familyOf_replace d.consistent hr h.keys]
  exact hown

/-- It is as its columns store it. -/
theorem coerce (h : p.Updated d d' r a) : T.coerce a = .ok a := by
  obtain ⟨c, hc, ha⟩ := h.stores
  obtain ⟨x, -, hx⟩ := Except.bind_eq_ok_iff.mp hc
  exact ha.coerce (coerce_coerce hx)

/-- **Two updates of a row** are the update that merges them. -/
theorem merge (h₁ : p₁.Updated d d₁ r a) (h₂ : p₂.Updated d₁ d₂ a b) :
    (p₁.merge p₂).Updated d d₂ r b := by
  obtain ⟨c₁, hc₁, ha⟩ := h₁.stores
  obtain ⟨c₂, hc₂, hb⟩ := h₂.stores
  obtain ⟨c, hc, hcc⟩ := stores_of_sameUpToStamp ha hc₂
  refine ⟨h₂.keys.trans h₁.keys, ?_, c, stores_merge hc₁ hc, hb.trans hcc⟩
  rw [h₂.rows, h₁.rows, Schema.replace_replace h₂.keys.id]

/-- **An update makes one row of a row**, whenever it is made. -/
theorem sameUpToStamp (h₁ : p.Updated d d₁ r a) (h₂ : p.Updated d d₂ r b) : SameUpToStamp a b := by
  obtain ⟨c, hc, ha⟩ := h₁.stores
  obtain ⟨c', hc', hb⟩ := h₂.stores
  obtain rfl := Except.ok.inj (hc.symm.trans hc')
  exact ha.trans hb.symm

/-- **It leaves the columns it does not set.** -/
theorem get (h : p.Updated d d' r a) (hr : T.coerce r = .ok r) :
    ∀ col ∈ T.columns, col.set p = false → col.get a = col.get r := by
  intro col hcol hset
  obtain ⟨c, hc, ha⟩ := h.stores
  rw [ha.get col hcol, get_of_stores hr hc col hcol hset]

end Updated

/-- **Whether an update succeeds** does not depend on the row. -/
theorem exists_stores_of {p : Patch T} {r r' c : T.Row} (hr : T.coerce r = .ok r)
    (hr' : T.coerce r' = .ok r') (h : p.stores r = .ok c) : ∃ c', p.stores r' = .ok c' :=
  (exists_stores_iff hr').mpr ((exists_stores_iff hr).mp ⟨c, h⟩)

end Patch

/-! ## The seven updates -/

namespace Sample

/-- `str`. -/
def str : Json → Option String
  | .str s => some s
  | _ => none

/-- A validation library for the samples, which have no dates. -/
def validators : Validators where
  str
  bool | .bool b => some b | _ => none
  int | .num q => if q.den = 1 then some q.num else none | _ => none
  float | .num q => some q | _ => none
  date _ := none
  gender | .str "Male" => some .male | .str "Female" => some .female | _ => none
  strs | .arr xs => xs.mapM str | _ => none
  dict | .obj fields => some (.obj fields) | _ => none

/-- One member has signed up, who has no profile. -/
def founded : List (Move Env Request) := [
  .start (Sample.env 1 (second 0)) (.auth (.signup (signup "ada@example.org" none))),
  .finish (Sample.env 1 (second 0)) 0]

/-- A client names herself, and a column that is not hers to set. -/
def named : JsonObject := [("display_name", .str "Ada"), ("is_primary_user", .bool false)]

/-- And her language. -/
def speaking : JsonObject := [("language_preference", .str "en")]

end Sample
