import Accounts.References

/-!
# What a family is answered depends on its own rows

Noninterference: two databases that show the same rows of a family – its
slice, with the password hashes and the digests erased – give the same
answer to every operation scoped to the family. No response, no error and
no refused statement tells anything about another family or about a
secret column.

That a delete is refused because rows refer to what it deletes is the one
place where the rows of other families could matter; `FamilyReferences`
says that they do not. The email of a new member is the one exception:
emails are unique across families.
-/

open Repository Tx

variable {P : Platform} {env : Env} {f : UUID} {d₁ d₂ : Database} {T : TableName}

/-! ## What is shown of a family -/

/-- **The row without its secret column.** -/
def TableName.erase : (T : TableName) → T.Row → T.Row
  | familyMember, r => { r with passwordHash := none }
  | familyInvite, r => { r with codeHash := "" }
  | refreshToken, r => { r with tokenHash := "" }
  | family, r => r
  | familyMemberProfile, r => r
  | familyReadingPolicy, r => r
  | childProfile, r => r
  | childReadingProfile, r => r
  | readingHistory, r => r

/-- **What is shown of a family**: its slice, without the secret columns. -/
def view (f : UUID) (t : (T : TableName) → List T.Row) (T : TableName) : List T.Row :=
  (slice f t T).map T.erase

/-- **The two databases show the same of a family**: the same rows, in the
order in which they were inserted. -/
def Agree (f : UUID) (d₁ d₂ : Database) : Prop := ∀ T, view f d₁.rows T = view f d₂.rows T

instance (f : UUID) (d₁ d₂ : Database) : Decidable (Agree f d₁ d₂) :=
  inferInstanceAs (Decidable (∀ _, _ = _))

/-- The keys of a row are not secret. -/
theorem TableName.id_erase (r : T.Row) : T.id (T.erase r) = T.id r := by
  cases T <;> rfl

/-- What a row refers to is not secret. -/
theorem TableName.reference_erase {p : TableName × (T.Row → Option UUID)} (hp : p ∈ T.references)
    (r : T.Row) : p.2 (T.erase r) = p.2 r := by
  cases T
  case familyMember =>
    obtain rfl := List.mem_singleton.mp hp
    rfl
  case familyInvite | refreshToken =>
    rcases List.mem_pair.mp hp with rfl | rfl <;> rfl
  all_goals rfl

/-! ## Rows shown in both databases -/

/-- **A row of the family in each database**, the same but for its secret
column. -/
structure Same (f : UUID) (d₁ d₂ : Database) (T : TableName) (r₁ r₂ : T.Row) : Prop where
  /-- It is in the first database. -/
  mem₁ : r₁ ∈ d₁.rows T
  /-- It is in the second. -/
  mem₂ : r₂ ∈ d₂.rows T
  /-- It belongs to the family in the first. -/
  owns₁ : Owns d₁.rows f T r₁
  /-- It belongs to the family in the second. -/
  owns₂ : Owns d₂.rows f T r₂
  /-- What is shown of it is the same. -/
  erase : T.erase r₁ = T.erase r₂

namespace Same

variable {r₁ r₂ : T.Row}

theorem symm (h : Same f d₁ d₂ T r₁ r₂) : Same f d₂ d₁ T r₂ r₁ :=
  ⟨h.mem₂, h.mem₁, h.owns₂, h.owns₁, h.erase.symm⟩

theorem id (h : Same f d₁ d₂ T r₁ r₂) : T.id r₁ = T.id r₂ := by
  rw [← T.id_erase r₁, h.erase, T.id_erase]

/-- A column that is not secret is the same. -/
theorem column {γ : Type} {g : T.Row → γ} (h : Same f d₁ d₂ T r₁ r₂)
    (hg : ∀ r, g (T.erase r) = g r) : g r₁ = g r₂ := by
  rw [← hg r₁, h.erase, hg]

end Same

/-- **What a query selects by.** Only rows of the family are selected, in
both databases, and not by a secret column. -/
structure Scoped (f : UUID) (d₁ d₂ : Database) (p : T.Row → Bool) : Prop where
  /-- Rows of the family, in the first database. -/
  owns₁ : ∀ r ∈ d₁.rows T, p r = true → Owns d₁.rows f T r
  /-- Rows of the family, in the second. -/
  owns₂ : ∀ r ∈ d₂.rows T, p r = true → Owns d₂.rows f T r
  /-- Not by a secret column. -/
  erase : ∀ r, p (T.erase r) = p r

/-- Such a selection reads off what is shown. -/
theorem map_erase_filter {p : T.Row → Bool} (d : Database)
    (hp : ∀ r ∈ d.rows T, p r = true → Owns d.rows f T r) (he : ∀ r, p (T.erase r) = p r) :
    ((d.rows T).filter p).map T.erase = (view f d.rows T).filter p := by
  rw [view, List.filter_map, show p ∘ T.erase = p from funext he, slice, List.filter_filter]
  refine congrArg _ (List.filter_congr (fun r hr => ?_))
  cases hpr : p r with
  | false => rfl
  | true => simp [hp r hr hpr]

/-- Lists related entry by entry give the same list of values. -/
theorem List.Forall₂.map_eq {α β γ : Type} {R : α → β → Prop} {xs : List α} {ys : List β}
    {g : α → γ} {k : β → γ} (h : List.Forall₂ R xs ys) (hg : ∀ a b, R a b → g a = k b) :
    xs.map g = ys.map k := by
  induction h with
  | nil => rfl
  | cons hab _ ih => rw [List.map_cons, List.map_cons, hg _ _ hab, ih]

/-- Entries related by equality make the same list. -/
theorem List.Forall₂.eq {α : Type} {R : α → α → Prop} {xs ys : List α} (h : List.Forall₂ R xs ys)
    (hR : ∀ a b, R a b → a = b) : xs = ys := by
  simpa using h.map_eq (g := id) (k := id) hR

/-- A relation between optional values may be weakened. -/
theorem Option.Rel.imp {α β : Type} {R S : α → β → Prop} {o : Option α} {o' : Option β}
    (h : Option.Rel R o o') (hRS : ∀ a b, R a b → S a b) : Option.Rel S o o' := by
  cases h with
  | some h => exact .some (hRS _ _ h)
  | none => exact .none

namespace Agree

variable {p : T.Row → Bool}

theorem symm (h : Agree f d₁ d₂) : Agree f d₂ d₁ := fun T => (h T).symm

/-- **Selections of rows of the family show the same.** -/
theorem filter (h : Agree f d₁ d₂) (hp : Scoped f d₁ d₂ p) :
    ((d₁.rows T).filter p).map T.erase = ((d₂.rows T).filter p).map T.erase := by
  rw [map_erase_filter d₁ hp.owns₁ hp.erase, map_erase_filter d₂ hp.owns₂ hp.erase, h T]

/-- **So does what a look-up finds.** -/
theorem find_map (h : Agree f d₁ d₂) (hp : Scoped f d₁ d₂ p) :
    ((d₁.rows T).find? p).map T.erase = ((d₂.rows T).find? p).map T.erase := by
  rw [← List.head?_filter, ← List.head?_filter, ← List.head?_map, ← List.head?_map, h.filter hp]

/-- A look-up finds a row of the family in both databases, or in neither. -/
theorem find (h : Agree f d₁ d₂) (hp : Scoped f d₁ d₂ p) :
    Option.Rel (fun r₁ r₂ => Same f d₁ d₂ T r₁ r₂ ∧ p r₁ = true)
      ((d₁.rows T).find? p) ((d₂.rows T).find? p) := by
  have heq := h.find_map hp
  cases h₁ : (d₁.rows T).find? p with
  | none =>
    rw [h₁] at heq
    rw [Option.map_eq_none_iff.mp heq.symm]
    exact .none
  | some r₁ =>
    rw [h₁] at heq
    obtain ⟨r₂, h₂, he⟩ := Option.map_eq_some_iff.mp heq.symm
    rw [h₂]
    have hm₁ := List.mem_of_find?_eq_some h₁
    have hm₂ := List.mem_of_find?_eq_some h₂
    exact .some ⟨⟨hm₁, hm₂, hp.owns₁ r₁ hm₁ (List.find?_some h₁),
      hp.owns₂ r₂ hm₂ (List.find?_some h₂), he.symm⟩, List.find?_some h₁⟩

/-- **Listings show the same**, when the order is not by a secret
column. -/
theorem sorted (h : Agree f d₁ d₂) (hp : Scoped f d₁ d₂ p) (le : T.Row → T.Row → Prop)
    [DecidableRel le] (hle : ∀ a b, le (T.erase a) (T.erase b) ↔ le a b) :
    List.Forall₂ (Same f d₁ d₂ T) (((d₁.rows T).filter p).insertionSort le)
      (((d₂.rows T).filter p).insertionSort le) := by
  have hmap : ∀ rows : List T.Row, (rows.insertionSort le).map T.erase =
      (rows.map T.erase).insertionSort le :=
    fun rows => List.map_insertionSort _ _ _ _ (fun a _ b _ => (hle a b).symm)
  have heq : List.Forall₂ (fun r₁ r₂ => T.erase r₁ = T.erase r₂)
      (((d₁.rows T).filter p).insertionSort le) (((d₂.rows T).filter p).insertionSort le) := by
    refine (List.forall₂_map_left_iff (R := fun a r₂ => a = T.erase r₂)).mp
      ((List.forall₂_map_right_iff (R := Eq)).mp ?_)
    rw [List.forall₂_eq_eq_eq, hmap, hmap, h.filter hp]
  refine List.forall₂_iff_zip.mpr ⟨heq.length_eq, fun {r₁ r₂} hz => ?_⟩
  obtain ⟨h₁, h₂⟩ := List.of_mem_zip hz
  obtain ⟨hm₁, hp₁⟩ := List.mem_filter.mp ((List.mem_insertionSort _).mp h₁)
  obtain ⟨hm₂, hp₂⟩ := List.mem_filter.mp ((List.mem_insertionSort _).mp h₂)
  exact ⟨hm₁, hm₂, hp.owns₁ r₁ hm₁ hp₁, hp.owns₂ r₂ hm₂ hp₂, (List.forall₂_iff_zip.mp heq).2 hz⟩

/-- **A row of the family is there in both databases.** -/
theorem mem (h : Agree f d₁ d₂) {r : T.Row} (hr : r ∈ d₁.rows T) (hown : Owns d₁.rows f T r) :
    ∃ r', Same f d₁ d₂ T r r' := by
  have hview : T.erase r ∈ view f d₂.rows T := by
    rw [← h T]
    exact List.mem_map_of_mem (mem_slice.mpr ⟨hr, hown⟩)
  obtain ⟨r', hr', he⟩ := List.mem_map.mp hview
  obtain ⟨hmem, hown'⟩ := mem_slice.mp hr'
  exact ⟨r', hr, hmem, hown, hown', he.symm⟩

end Agree

/-! ## Queries on two databases -/

namespace Repository

variable {p : T.Row → Bool}

/-- **A row of the family that has to be there.** -/
theorem look_required (h : Agree f d₁ d₂) (hp : Scoped f d₁ d₂ p)
    (hat : ∀ d : Database, Table.AtMostOne p (d.rows T)) (e : Exn) :
    Look d₁ d₂ (do orRaise e (← getOneOrNone T p)) (do orRaise e (← getOneOrNone T p))
      (fun r₁ r₂ => Same f d₁ d₂ T r₁ r₂ ∧ p r₁ = true) := by
  rw [getOneOrNone_eq_read hat]
  exact Look.bind (Look.read (h.find hp)) (fun _ _ ho => Look.orRaise e ho)

/-- **A listing of rows of the family.** -/
theorem look_sorted (h : Agree f d₁ d₂) (hp : Scoped f d₁ d₂ p) (le : T.Row → T.Row → Prop)
    [DecidableRel le] (hle : ∀ a b, le (T.erase a) (T.erase b) ↔ le a b) :
    Look d₁ d₂ (do return (← getMany T p).insertionSort le)
      (do return (← getMany T p).insertionSort le) (List.Forall₂ (Same f d₁ d₂ T)) :=
  Look.bind (S := fun xs ys => xs = (d₁.rows T).filter p ∧ ys = (d₂.rows T).filter p)
    (Look.read ⟨rfl, rfl⟩) (by
      rintro _ _ ⟨rfl, rfl⟩
      exact Look.pure (h.sorted hp le hle))

/-! ## Statements on two databases -/

/-- **An insert of a row with a new identifier ends alike** when the unique
columns of the row clash, and what it refers to is there, in both databases
or in neither. -/
theorem paired_add {r : T.Row} (hid₁ : ∀ x ∈ d₁.rows T, T.id x ≠ T.id r)
    (hid₂ : ∀ x ∈ d₂.rows T, T.id x ≠ T.id r)
    (hu : ∀ u ∈ T.uniques, ∀ k ∈ u r,
      ((∀ x ∈ d₁.rows T, u x ≠ some k) ↔ ∀ x ∈ d₂.rows T, u x ≠ some k))
    (hr : ∀ p ∈ T.references, ∀ k ∈ p.2 r,
      (k ∈ (d₁.rows p.1).map (TableName.id p.1) ↔ k ∈ (d₂.rows p.1).map (TableName.id p.1))) :
    Paired (At d₁ d₂) (add T r) (add T r) (fun a b e₁ e₂ => a = b ∧ schema.SameKeys T a r ∧
      e₁.rows = Schema.insert T a d₁.rows ∧ e₂.rows = Schema.insert T a d₂.rows) := by
  refine Paired.flush ?_
  cases hc : T.coerce r with
  | error e => exact Or.inl ⟨e, rfl, rfl⟩
  | ok a =>
    have hk := TableName.coerce_sameKeys hc
    have hiff : schema.Consistent (Schema.insert T a d₁.rows) ↔
        schema.Consistent (Schema.insert T a d₂.rows) := by
      rw [Schema.consistent_insert_iff d₁.consistent, Schema.consistent_insert_iff d₂.consistent]
      refine and_congr (iff_of_true ?_ ?_) (and_congr ?_ ?_)
      · exact fun x hx => hk.id ▸ hid₁ x hx
      · exact fun x hx => hk.id ▸ hid₂ x hx
      · exact forall₂_congr (fun u hu' => forall₂_congr (fun k hku => hu u hu' k (by
          rwa [hk.unique u hu'] at hku)))
      · exact forall₂_congr (fun p hp => forall₂_congr (fun k hkp => hr p hp k (by
          rwa [hk.reference p hp] at hkp)))
    dsimp only
    by_cases hcons : schema.Consistent (Schema.insert T a d₁.rows)
    · have h₁ : d₁.execute (Schema.insert T a) = some ⟨_, hcons⟩ :=
        Store.execute_eq_some_iff.mpr rfl
      have h₂ : d₂.execute (Schema.insert T a) = some ⟨_, hiff.mp hcons⟩ :=
        Store.execute_eq_some_iff.mpr rfl
      rw [h₁, h₂]
      exact Or.inr ⟨a, a, _, _, rfl, rfl, rfl, hk, rfl, rfl⟩
    · have h₁ := Store.execute_eq_none_iff.mpr hcons
      have h₂ := Store.execute_eq_none_iff.mpr (mt hiff.mpr hcons)
      rw [h₁, h₂]
      exact Or.inl ⟨.integrityError, rfl, rfl⟩

/-- **An update that keeps the keys ends alike** when what it writes is
alike. -/
theorem paired_update {r₁ r₂ : T.Row} {changes : T.Row → Except Exn T.Row}
    {Q : T.Row → T.Row → Prop} (hs : Same f d₁ d₂ T r₁ r₂)
    (hk : ∀ r r', changes r = .ok r' → schema.SameKeys T r' r)
    (h : (∃ e, changes r₁ >>= T.written env.now r₁ = .error e ∧
        changes r₂ >>= T.written env.now r₂ = .error e) ∨
      ∃ a b, changes r₁ >>= T.written env.now r₁ = .ok a ∧
        changes r₂ >>= T.written env.now r₂ = .ok b ∧ Q a b) :
    Paired (At d₁ d₂) (update env T (T.id r₁) changes) (update env T (T.id r₂) changes)
      (fun a b _ _ => Q a b) := by
  have hfind : ∀ {d : Database} {r : T.Row}, r ∈ d.rows T → d.find T (T.id r) = some r :=
    fun hr => Store.find_eq_some_iff.mpr ⟨hr, rfl⟩
  have hexec : ∀ {d : Database} {r a : T.Row}, r ∈ d.rows T →
      changes r >>= T.written env.now r = .ok a → ∃ e, d.execute (schema.replace T a) = some e := by
    intro d r a hr hw
    obtain ⟨draft, hdraft, hw⟩ := Except.bind_eq_ok_iff.mp hw
    exact ⟨⟨_, d.consistent.replace hr (TableName.written_sameKeys (hk r draft hdraft) hw)⟩,
      Store.execute_eq_some_iff.mpr rfl⟩
  refine Paired.flush ?_
  rw [hfind hs.mem₁, hfind hs.mem₂]
  dsimp only
  rcases h with ⟨e, hw₁, hw₂⟩ | ⟨a, b, hw₁, hw₂, hQ⟩
  · rw [hw₁, hw₂]
    exact Or.inl ⟨e, rfl, rfl⟩
  · obtain ⟨e₁, he₁⟩ := hexec hs.mem₁ hw₁
    obtain ⟨e₂, he₂⟩ := hexec hs.mem₂ hw₂
    rw [hw₁, hw₂]
    dsimp only
    rw [he₁, he₂]
    exact Or.inr ⟨a, b, e₁, e₂, rfl, rfl, hQ⟩

/-- **A row without a secret is updated alike.** -/
theorem alike_update {r₁ r₂ : T.Row} {changes : T.Row → Except Exn T.Row}
    (hs : Same f d₁ d₂ T r₁ r₂) (heq : r₁ = r₂)
    (hk : ∀ r r', changes r = .ok r' → schema.SameKeys T r' r) :
    Alike d₁ d₂ (update env T (T.id r₁) changes) (update env T (T.id r₂) changes) := by
  refine paired_update hs hk ?_
  subst heq
  cases hw : changes r₁ >>= T.written env.now r₁ with
  | error e => exact Or.inl ⟨e, rfl, rfl⟩
  | ok a => exact Or.inr ⟨a, a, rfl, rfl, rfl⟩

end Repository

/-! ## Deletes -/

/-- Nothing refers to what goes along with a row. -/
theorem Schema.Consistent.cascade {t : (T : TableName) → List T.Row} (h : schema.Consistent t)
    (k : UUID) : schema.Consistent (T.cascade k t) := by
  cases T
  case familyMember | childProfile =>
    refine h.discard (fun U p hp => ?_) _
    cases U <;> simp [TableName.references] at hp <;> rcases hp with rfl | rfl <;> simp
  all_goals exact h

/-- What goes along with a row does not depend on a secret column. -/
theorem mem_cascade_of_erase {t t' : (T : TableName) → List T.Row} {k : UUID} {U : TableName}
    {x x' : U.Row} (hx : x ∈ T.cascade k t U) (hx' : x' ∈ t' U) (he : U.erase x = U.erase x') :
    x' ∈ T.cascade k t' U := by
  cases T
  case familyMember =>
    by_cases hU : U = .familyMemberProfile
    · subst hU
      obtain rfl : x = x' := he
      rw [TableName.cascade, Schema.discard_self] at hx ⊢
      exact List.mem_filter.mpr ⟨hx', (List.mem_filter.mp hx).2⟩
    · rwa [TableName.cascade, Schema.discard_of_ne hU]
  case childProfile =>
    by_cases hU : U = .childReadingProfile
    · subst hU
      obtain rfl : x = x' := he
      rw [TableName.cascade, Schema.discard_self] at hx ⊢
      exact List.mem_filter.mpr ⟨hx', (List.mem_filter.mp hx).2⟩
    · rwa [TableName.cascade, Schema.discard_of_ne hU]
  all_goals exact hx'

namespace Agree

variable {r₁ r₂ : T.Row}

/-- **A row of the family that may be deleted in one database may be deleted
in the other**: what refers to it belongs to the family. -/
theorem consistent_delete (h : Agree f d₁ d₂) (href : FamilyReferences d₁.rows)
    (hs : Same f d₁ d₂ T r₁ r₂)
    (h₂ : schema.Consistent (schema.delete T (T.id r₂) (T.cascade (T.id r₂) d₂.rows))) :
    schema.Consistent (schema.delete T (T.id r₁) (T.cascade (T.id r₁) d₁.rows)) := by
  rw [Schema.consistent_delete_iff (d₁.consistent.cascade _)]
  rw [Schema.consistent_delete_iff (d₂.consistent.cascade _)] at h₂
  rintro U ⟨_, fk⟩ hp rfl x hx hk
  have hmem := mem_of_mem_cascade U x hx
  obtain ⟨x', hsame⟩ := h.mem hmem
    (href.owns_of_reference d₁.consistent hmem hp hs.mem₁ hk hs.owns₁)
  refine h₂ U _ hp rfl x' (mem_cascade_of_erase (hs.id ▸ hx) hsame.mem₂ hsame.erase) ?_
  rw [← hs.id, ← hk]
  exact (hsame.column (TableName.reference_erase hp)).symm

/-- **A row of the family is deleted alike.** -/
theorem alike_delete (h : Agree f d₁ d₂) (href₁ : FamilyReferences d₁.rows)
    (href₂ : FamilyReferences d₂.rows) (hs : Same f d₁ d₂ T r₁ r₂) :
    Alike d₁ d₂ (Repository.delete T (T.id r₁)) (Repository.delete T (T.id r₂)) := by
  refine Paired.flush ?_
  rw [show d₁.find T (T.id r₁) = some r₁ from Store.find_eq_some_iff.mpr ⟨hs.mem₁, rfl⟩,
    show d₂.find T (T.id r₂) = some r₂ from Store.find_eq_some_iff.mpr ⟨hs.mem₂, rfl⟩]
  dsimp only
  by_cases hcons : schema.Consistent (schema.delete T (T.id r₁) (T.cascade (T.id r₁) d₁.rows))
  · have hcons' := h.symm.consistent_delete href₂ hs.symm hcons
    have h₁ : d₁.execute (fun t => schema.delete T (T.id r₁) (T.cascade (T.id r₁) t))
        = some ⟨_, hcons⟩ := Store.execute_eq_some_iff.mpr rfl
    have h₂ : d₂.execute (fun t => schema.delete T (T.id r₂) (T.cascade (T.id r₂) t))
        = some ⟨_, hcons'⟩ := Store.execute_eq_some_iff.mpr rfl
    rw [h₁, h₂]
    exact Or.inr ⟨(), (), _, _, rfl, rfl, rfl⟩
  · have h₁ : d₁.execute (fun t => schema.delete T (T.id r₁) (T.cascade (T.id r₁) t)) = none :=
      Store.execute_eq_none_iff.mpr hcons
    have h₂ : d₂.execute (fun t => schema.delete T (T.id r₂) (T.cascade (T.id r₂) t)) = none :=
      Store.execute_eq_none_iff.mpr (mt (h.consistent_delete href₁ hs) hcons)
    rw [h₁, h₂]
    exact Or.inl ⟨.integrityError, rfl, rfl⟩

end Agree

/-! ## What a query of the family selects -/

section Selections

variable {m₁ m₂ : FamilyMember} {c₁ c₂ : ChildProfile}

/-- A row under a member of the family belongs to the family. -/
theorem Same.owns_of_member (hs : Same f d₁ d₂ .familyMember m₁ m₂) {r : T.Row}
    (hr : T.scope r = .member m₁.id) : Owns d₁.rows f T r ∧ Owns d₂.rows f T r := by
  refine ⟨Store.owns_of_find hr ((d₁.consistent.familyOf_member hs.mem₁).trans hs.owns₁),
    Store.owns_of_find (hr.trans (congrArg Scope.member hs.id))
      ((d₂.consistent.familyOf_member hs.mem₂).trans hs.owns₂)⟩

/-- So does a row under a child of the family. -/
theorem Same.owns_of_child (hs : Same f d₁ d₂ .childProfile c₁ c₂) {r : T.Row}
    (hr : T.scope r = .child c₁.id) : Owns d₁.rows f T r ∧ Owns d₂.rows f T r := by
  refine ⟨Store.owns_of_find hr ((d₁.consistent.familyOf_child hs.mem₁).trans hs.owns₁),
    Store.owns_of_find (hr.trans (congrArg Scope.child hs.id))
      ((d₂.consistent.familyOf_child hs.mem₂).trans hs.owns₂)⟩

/-- A selection by the family itself. -/
theorem Scoped.of_family {p : T.Row → Bool} (hp : ∀ r, p r = true → T.scope r = .family f)
    (he : ∀ r, p (T.erase r) = p r) : Scoped f d₁ d₂ p :=
  ⟨fun r _ hr => congrArg (familyOf d₁.rows) (hp r hr),
    fun r _ hr => congrArg (familyOf d₂.rows) (hp r hr), he⟩

/-- A selection by a member of the family. -/
theorem Scoped.of_member (hs : Same f d₁ d₂ .familyMember m₁ m₂) {p : T.Row → Bool}
    (hp : ∀ r, p r = true → T.scope r = .member m₁.id) (he : ∀ r, p (T.erase r) = p r) :
    Scoped f d₁ d₂ p :=
  ⟨fun r _ hr => (hs.owns_of_member (hp r hr)).1, fun r _ hr => (hs.owns_of_member (hp r hr)).2, he⟩

/-- A selection by a child of the family. -/
theorem Scoped.of_child (hs : Same f d₁ d₂ .childProfile c₁ c₂) {p : T.Row → Bool}
    (hp : ∀ r, p r = true → T.scope r = .child c₁.id) (he : ∀ r, p (T.erase r) = p r) :
    Scoped f d₁ d₂ p :=
  ⟨fun r _ hr => (hs.owns_of_child (hp r hr)).1, fun r _ hr => (hs.owns_of_child (hp r hr)).2, he⟩

/-- The profile of a member. -/
theorem Scoped.profile (hs : Same f d₁ d₂ .familyMember m₁ m₂) :
    Scoped (T := .familyMemberProfile) f d₁ d₂ (fun r => decide (r.memberId = m₁.id)) :=
  .of_member hs (fun _ hr => congrArg Scope.member (of_decide_eq_true hr)) (fun _ => rfl)

/-- The reading profile of a child. -/
theorem Scoped.readingProfile (hs : Same f d₁ d₂ .childProfile c₁ c₂) :
    Scoped (T := .childReadingProfile) f d₁ d₂ (fun r => decide (r.childId = c₁.id)) :=
  .of_child hs (fun _ hr => congrArg Scope.child (of_decide_eq_true hr)) (fun _ => rfl)

/-- A value of a column is unused in both databases or in neither. -/
theorem Agree.unused_iff (h : Agree f d₁ d₂) {p : T.Row → Bool} (hp : Scoped f d₁ d₂ p) :
    (∀ r ∈ d₁.rows T, ¬ p r = true) ↔ ∀ r ∈ d₂.rows T, ¬ p r = true := by
  rw [← List.filter_eq_nil_iff, ← List.filter_eq_nil_iff, ← List.map_eq_nil_iff (f := T.erase),
    h.filter hp, List.map_eq_nil_iff]

/-- The family is there in both databases or in neither. -/
theorem Agree.family_mem_iff (h : Agree f d₁ d₂) :
    f ∈ d₁.families.map (TableName.id .family) ↔ f ∈ d₂.families.map (TableName.id .family) := by
  have himp : ∀ {e₁ e₂ : Database}, Agree f e₁ e₂ → f ∈ e₁.families.map (TableName.id .family) →
      f ∈ e₂.families.map (TableName.id .family) := by
    intro e₁ e₂ he hf
    obtain ⟨r, hr, hid⟩ := List.mem_map.mp hf
    obtain ⟨r', hs⟩ := he.mem hr (congrArg some hid)
    exact List.mem_map.mpr ⟨r', hs.mem₂, hs.id.symm.trans hid⟩
  exact ⟨himp h, himp h.symm⟩

/-- A row of the family is there in both databases. -/
theorem Same.mem_ids_iff {r₁ r₂ : T.Row} (hs : Same f d₁ d₂ T r₁ r₂) :
    T.id r₁ ∈ (d₁.rows T).map T.id ↔ T.id r₁ ∈ (d₂.rows T).map T.id :=
  iff_of_true (List.mem_map_of_mem hs.mem₁) (List.mem_map.mpr ⟨r₂, hs.mem₂, hs.id.symm⟩)

end Selections

/-! ## Families and members -/

section Members

variable (h : Agree f d₁ d₂)
include h

/-- The family itself. -/
theorem FamilyService.look_get : Look d₁ d₂ (get f) (get f) (Same f d₁ d₂ .family) :=
  (look_required (T := .family) h (.of_family
    (fun _ hr => congrArg Scope.family (of_decide_eq_true hr)) (fun _ => rfl))
    (Family.atMostOne f) .notFound).mono (fun _ _ _ _ hs => ⟨hs.1, hs.2.1⟩)

theorem FamilyService.alike_update (body : FamilyUpdate) :
    Alike d₁ d₂ (update env f body) (update env f body) := by
  rw [FamilyService.update, ← bind_assoc]
  exact (look_get h).bind (fun _ _ hs => Repository.alike_update hs hs.erase
    (fun _ _ hr => Family.applyChanges_sameKeys hr))

/-- The members of the family. -/
theorem MemberService.look_list : Look d₁ d₂ (FamilyMemberRepository.listByFamily f)
    (FamilyMemberRepository.listByFamily f) (List.Forall₂ (Same f d₁ d₂ .familyMember)) :=
  look_sorted (T := .familyMember) h (.of_family
    (fun _ hr => congrArg Scope.family (of_decide_eq_true hr)) (fun _ => rfl)) _
    (fun _ _ => Iff.rfl)

/-- A member of the family. -/
theorem MemberService.look_require (memberId : UUID) :
    Look d₁ d₂ (require f memberId) (require f memberId)
      (fun m₁ m₂ => Same f d₁ d₂ .familyMember m₁ m₂ ∧ m₁.id = memberId) := by
  refine (look_required (T := .familyMember) h (.of_family (fun r hr => ?_) (fun _ => rfl))
    (FamilyMember.atMostOne memberId f) .notFound).mono (fun m _ _ _ hs => ⟨hs.1, hs.2.1, ?_⟩)
  · exact congrArg Scope.family (by simpa using (Bool.and_eq_true_iff.mp hr).2)
  · simpa using (Bool.and_eq_true_iff.mp hs.2.2).1

theorem MemberService.alike_list : Alike d₁ d₂ (list f) (list f) :=
  (look_list h).bind (fun _ _ hs => Paired.pure (fun _ _ _ =>
    hs.map_eq (fun _ _ hs => hs.column (g := FamilyMember.dump) (fun _ => rfl))))

theorem MemberService.alike_get (memberId : UUID) :
    Alike d₁ d₂ (get f memberId) (get f memberId) :=
  (look_require h memberId).bind (fun _ _ hs => Paired.pure (fun _ _ _ =>
    hs.1.column (g := FamilyMember.dump) (fun _ => rfl)))

omit h in
/-- Whether an email is taken is one question to both databases. -/
theorem MemberService.look_checkEmail {body : MemberCreate}
    (hemail : ∀ email, body.email = some email →
      ((∃ m ∈ d₁.members, m.email = some email) ↔ ∃ m ∈ d₂.members, m.email = some email)) :
    Look d₁ d₂ (checkEmail body) (checkEmail body) (fun _ _ => True) := by
  rw [checkEmail]
  split
  · exact Look.pure trivial
  · next email hbody =>
    rw [FamilyMemberRepository.getByEmail_eq_read]
    refine Look.bind (S := fun o o' => o.isSome = o'.isSome) (Look.read ?_) (fun o o' ho => ?_)
    · rw [Bool.eq_iff_iff, List.find?_isSome, List.find?_isSome]
      simpa using hemail email hbody
    · rw [ho]
      split
      · exact Paired.raise _
      · exact Look.pure trivial

theorem MemberService.alike_create {body : MemberCreate} (hf₁ : env.Fresh P d₁)
    (hf₂ : env.Fresh P d₂) (hemail : ∀ email, body.email = some email →
      ((∃ m ∈ d₁.members, m.email = some email) ↔ ∃ m ∈ d₂.members, m.email = some email)) :
    Alike d₁ d₂ (create P env f body) (create P env f body) := by
  refine Look.bind (look_checkEmail hemail) (fun _ _ _ => Paired.map (Paired.mapError _ ?_))
  refine (paired_add (T := .familyMember) (hf₁.id _) (hf₂.id _) ?_ ?_).mono
    (fun _ _ _ _ ha => congrArg FamilyMember.dump ha.1)
  · intro u hu k hk
    obtain rfl := List.mem_singleton.mp hu
    obtain ⟨email, hbody, rfl⟩ := Option.map_eq_some_iff.mp hk
    have := not_congr (hemail email hbody)
    simpa using this
  · intro p hp k hk
    obtain rfl := List.mem_singleton.mp hp
    obtain rfl := Option.some.inj hk
    exact h.family_mem_iff

end Members

/-- **The password plays no part in an update**: of the changes, -/
theorem FamilyMember.applyChanges_password (r : FamilyMember) (b : MemberUpdate)
    (password : Option String) : { r with passwordHash := password }.applyChanges b =
      (r.applyChanges b).map (fun x => { x with passwordHash := password }) := by
  show (b.role.required r.role >>= _) = Except.map _ (b.role.required r.role >>= _)
  cases b.role.required r.role <;> rfl

/-- – and of what is written. -/
theorem FamilyMember.written_password (now : Datetime) {r draft : FamilyMember}
    (hd : draft.passwordHash = r.passwordHash) (password : Option String) :
    TableName.written now .familyMember { r with passwordHash := password }
        { draft with passwordHash := password }
      = (TableName.written now .familyMember r draft).map
        (fun x => { x with passwordHash := password }) := by
  have hiff : { draft with passwordHash := password } = { r with passwordHash := password } ↔
      draft = r := by
    cases r
    cases draft
    simp_all
  by_cases heq : draft = r
  · rw [TableName.written, if_pos (hiff.mpr heq), TableName.written, if_pos heq]
    rfl
  · rw [TableName.written, if_neg (mt hiff.mp heq), TableName.written, if_neg heq]
    rfl

/-- So two members that differ by their password are updated alike. -/
theorem FamilyMember.update_password (now : Datetime) (r : FamilyMember) (b : MemberUpdate)
    (password : Option String) :
    ({ r with passwordHash := password }.applyChanges b >>=
        TableName.written now .familyMember { r with passwordHash := password })
      = (r.applyChanges b >>= TableName.written now .familyMember r).map
        (fun x => { x with passwordHash := password }) := by
  rw [applyChanges_password]
  cases hc : r.applyChanges b with
  | error e => rfl
  | ok draft =>
    refine written_password now ?_ password
    obtain ⟨role, -, hd⟩ := Except.bind_eq_ok_iff.mp hc
    cases hd
    rfl

section MemberUpdates

variable (h : Agree f d₁ d₂)
include h

theorem MemberService.alike_update (memberId : UUID) (body : MemberUpdate) :
    Alike d₁ d₂ (update env f memberId body) (update env f memberId body) := by
  refine (look_require h memberId).bind (fun m₁ m₂ hs => Paired.map (paired_update
    (T := .familyMember) hs.1 (fun _ _ hr => FamilyMember.applyChanges_sameKeys hr) ?_))
  obtain ⟨password, rfl⟩ : ∃ p, m₂ = { m₁ with passwordHash := p } := ⟨m₂.passwordHash, by
    have he := hs.1.erase
    cases m₁
    cases m₂
    simpa [TableName.erase] using he.symm⟩
  have hw₂ := FamilyMember.update_password env.now m₁ body password
  cases hw : m₁.applyChanges body >>= TableName.written env.now .familyMember m₁ with
  | error e => exact Or.inl ⟨e, rfl, hw₂.trans (congrArg _ hw)⟩
  | ok a => exact Or.inr ⟨a, _, rfl, hw₂.trans (congrArg _ hw), rfl⟩

theorem MemberService.alike_delete (href₁ : FamilyReferences d₁.rows)
    (href₂ : FamilyReferences d₂.rows) (memberId : UUID) :
    Alike d₁ d₂ (delete f memberId) (delete f memberId) := by
  refine (look_require h memberId).bind (fun m₁ m₂ hs => ?_)
  rw [hs.1.column (g := FamilyMember.isPrimaryUser) (fun _ => rfl)]
  split
  · exact Paired.raise _
  · exact h.alike_delete href₁ href₂ hs.1

omit h in
/-- The profile of a member of the family. -/
theorem MemberService.look_profile (h : Agree f d₁ d₂) {m₁ m₂ : FamilyMember}
    (hs : Same f d₁ d₂ .familyMember m₁ m₂) :
    Look d₁ d₂ (FamilyMemberProfileRepository.getByMember m₁.id)
      (FamilyMemberProfileRepository.getByMember m₁.id)
      (Option.Rel (Same f d₁ d₂ .familyMemberProfile)) := by
  rw [FamilyMemberProfileRepository.getByMember_eq_read]
  exact Look.read ((h.find (Scoped.profile hs)).imp (fun _ _ hr => hr.1))

theorem MemberService.alike_getProfile (memberId : UUID) :
    Alike d₁ d₂ (getProfile f memberId) (getProfile f memberId) := by
  refine (look_require h memberId).bind (fun m₁ m₂ hs => ?_)
  obtain ⟨hs, rfl⟩ := hs
  exact (look_profile h hs).bind (fun _ _ ho =>
    (Look.orRaise Exn.notFound ho).mono (fun _ _ _ _ hr => hr.2.erase))

theorem MemberService.alike_upsertProfile (hf₁ : env.Fresh P d₁) (hf₂ : env.Fresh P d₂)
    (memberId : UUID) (body : MemberProfileUpsert) :
    Alike d₁ d₂ (upsertProfile env f memberId body) (upsertProfile env f memberId body) := by
  rw [upsertProfile, findProfile, bind_assoc]
  refine (look_require h memberId).bind (fun m₁ m₂ hs => ?_)
  obtain ⟨hs, rfl⟩ := hs
  refine (look_profile h hs).bind (fun o₁ o₂ ho => ?_)
  cases ho with
  | none =>
    refine (paired_add (T := .familyMemberProfile) (hf₁.id _) (hf₂.id _) ?_ ?_).mono
      (fun _ _ _ _ ha => ha.1)
    · intro u hu k hk
      obtain rfl := List.mem_singleton.mp hu
      obtain rfl := Option.some.inj hk
      simpa [newProfile] using h.unused_iff (Scoped.profile hs)
    · intro p hp k hk
      obtain rfl := List.mem_singleton.mp hp
      obtain rfl := Option.some.inj hk
      exact hs.mem_ids_iff
  | some hr =>
    obtain rfl := hr.erase
    exact Repository.alike_update hr rfl (fun r _ hw => by
      obtain ⟨draft, -, hw⟩ := Except.bind_eq_ok_iff.mp hw
      cases hw
      exact rebase_sameKeys _ draft r)

end MemberUpdates

/-! ## Invites -/

section Invites

variable (h : Agree f d₁ d₂)
include h

theorem InviteService.alike_create {createdBy : UUID} (hf₁ : env.Fresh P d₁) (hf₂ : env.Fresh P d₂)
    (hby : ∃ m ∈ d₁.members, m.id = createdBy ∧ m.familyId = f) (body : InviteCreate) :
    Alike d₁ d₂ (create P env f createdBy body) (create P env f createdBy body) := by
  obtain ⟨m, hm, rfl, hfam⟩ := hby
  obtain ⟨m', hs⟩ := h.mem (T := .familyMember) hm (congrArg some hfam)
  refine (Look.lift _).bind (fun expiresAt _ he => Paired.map ?_)
  obtain rfl := he
  refine (paired_add (T := .familyInvite) (hf₁.id _) (hf₂.id _) ?_ ?_).mono
    (fun _ _ _ _ ha => by rw [ha.1])
  · intro u hu k hk
    obtain rfl := List.mem_singleton.mp hu
    obtain rfl := Option.some.inj hk
    refine iff_of_true (fun x hx hc => hf₁.code x hx ?_) (fun x hx hc => hf₂.code x hx ?_)
    · exact Sum.inr.inj (Option.some.inj hc)
    · exact Sum.inr.inj (Option.some.inj hc)
  · intro p hp k hk
    rcases List.mem_pair.mp hp with rfl | rfl
    · obtain rfl := Option.some.inj hk
      exact h.family_mem_iff
    · obtain rfl := Option.some.inj hk
      exact hs.mem_ids_iff

theorem InviteService.alike_list : Alike d₁ d₂ (list env f) (list env f) :=
  (look_sorted (T := .familyInvite) h (.of_family
    (fun r hr => congrArg Scope.family (by simpa using (Bool.and_eq_true_iff.mp hr).2))
    (fun _ => rfl)) _ (fun _ _ => Iff.rfl)).bind (fun _ _ hs => Paired.pure (fun _ _ _ =>
      hs.map_eq (fun _ _ hs => hs.column (g := FamilyInvite.dump) (fun _ => rfl))))

theorem InviteService.alike_revoke (href₁ : FamilyReferences d₁.rows)
    (href₂ : FamilyReferences d₂.rows) (inviteId : UUID) :
    Alike d₁ d₂ (revoke f inviteId) (revoke f inviteId) := by
  rw [revoke, ← bind_assoc]
  exact (look_required (T := .familyInvite) h (.of_family
    (fun r hr => congrArg Scope.family (by simpa using (Bool.and_eq_true_iff.mp hr).2))
    (fun _ => rfl)) (FamilyInvite.atMostOne inviteId f) .notFound).bind
    (fun _ _ hs => h.alike_delete href₁ href₂ hs.1)

end Invites

/-! ## Children -/

section Children

variable (h : Agree f d₁ d₂) {c₁ c₂ : ChildProfile}
include h

/-- A child of the family. -/
theorem ChildService.look_require (childId : UUID) :
    Look d₁ d₂ (require f childId) (require f childId)
      (fun c₁ c₂ => Same f d₁ d₂ .childProfile c₁ c₂ ∧ c₁.id = childId) := by
  refine (look_required (T := .childProfile) h (.of_family (fun r hr => ?_) (fun _ => rfl))
    (ChildProfile.atMostOne childId f) .notFound).mono (fun m _ _ _ hs => ⟨hs.1, hs.2.1, ?_⟩)
  · exact congrArg Scope.family (by simpa using (Bool.and_eq_true_iff.mp hr).2)
  · simpa using (Bool.and_eq_true_iff.mp hs.2.2).1

/-- The children of the family. -/
theorem ChildService.look_list :
    Look d₁ d₂ (list f) (list f) (List.Forall₂ (Same f d₁ d₂ .childProfile)) :=
  look_sorted (T := .childProfile) h (.of_family
    (fun _ hr => congrArg Scope.family (of_decide_eq_true hr)) (fun _ => rfl)) _
    (fun _ _ => Iff.rfl)

/-- The reading profile of a child of the family. -/
theorem ChildService.look_readingProfile (hs : Same f d₁ d₂ .childProfile c₁ c₂) :
    Look d₁ d₂ (ChildReadingProfileRepository.getByChild c₁.id)
      (ChildReadingProfileRepository.getByChild c₁.id)
      (Option.Rel (Same f d₁ d₂ .childReadingProfile)) := by
  rw [ChildReadingProfileRepository.getByChild_eq_read]
  exact Look.read ((h.find (Scoped.readingProfile hs)).imp (fun _ _ hr => hr.1))

/-- An entry of a child of the family. -/
theorem ChildService.look_requireEntry (hs : Same f d₁ d₂ .childProfile c₁ c₂) (entryId : UUID) :
    Look d₁ d₂ (requireEntry c₁.id entryId) (requireEntry c₁.id entryId)
      (Same f d₁ d₂ .readingHistory) :=
  (look_required (T := .readingHistory) h (.of_child hs
    (fun r hr => congrArg Scope.child (by simpa using (Bool.and_eq_true_iff.mp hr).2))
    (fun _ => rfl)) (ReadingHistory.atMostOne entryId c₁.id) .notFound).mono
    (fun _ _ _ _ hs => ⟨hs.1, hs.2.1⟩)

theorem ChildService.alike_create (hf₁ : env.Fresh P d₁) (hf₂ : env.Fresh P d₂)
    (body : ChildCreate) : Alike d₁ d₂ (create env f body) (create env f body) := by
  refine Paired.bind (paired_add (T := .childProfile) (hf₁.id _) (hf₂.id _) ?_ ?_)
    (fun c _ => Paired.of_at ?_)
  · exact fun u hu => absurd hu List.not_mem_nil
  · intro p hp k hk
    obtain rfl := List.mem_singleton.mp hp
    obtain rfl := Option.some.inj hk
    exact h.family_mem_iff
  · rintro e₁ e₂ ⟨rfl, hk, he₁, he₂⟩
    have hid : c.id = env.newId .childProfile := hk.id
    -- the reading profiles are those that were there, and none is of the new child
    have hold : ∀ {d e : Database}, env.Fresh P d → e.rows = Schema.insert .childProfile c d.rows →
        (∀ x ∈ e.readingProfiles, x.id ≠ env.newId .childReadingProfile) ∧
        (∀ x ∈ e.readingProfiles, some (.inl x.childId) ≠ some (.inl c.id : UUID ⊕ String)) ∧
        c.id ∈ e.children.map (TableName.id .childProfile) := by
      intro d e hf he
      have hrows : e.readingProfiles = d.readingProfiles := by
        show e.rows .childReadingProfile = _
        rw [he, Schema.insert_of_ne (by simp)]
      refine ⟨hrows ▸ hf.id .childReadingProfile, fun x hx hc => ?_, ?_⟩
      · rw [hrows] at hx
        obtain ⟨y, hy, hyid⟩ := List.mem_map.mp
          (d.consistent.reference .childReadingProfile _ List.mem_cons_self x hx _ rfl)
        exact hf.id .childProfile y hy (hyid.trans ((Sum.inl.inj (Option.some.inj hc)).trans hid))
      · show _ ∈ (e.rows .childProfile).map _
        rw [he, Schema.insert_self]
        exact List.mem_map_of_mem (Table.mem_insert.mpr (Or.inr rfl))
    obtain ⟨hfresh₁, hno₁, hin₁⟩ := hold hf₁ he₁
    obtain ⟨hfresh₂, hno₂, hin₂⟩ := hold hf₂ he₂
    refine Paired.bind (paired_add (T := .childReadingProfile) hfresh₁ hfresh₂ ?_ ?_)
      (fun _ _ => Paired.pure (fun _ _ _ => rfl))
    · intro u hu k hk
      obtain rfl := List.mem_singleton.mp hu
      obtain rfl := Option.some.inj hk
      exact iff_of_true hno₁ hno₂
    · intro p hp k hk
      obtain rfl := List.mem_singleton.mp hp
      obtain rfl := Option.some.inj hk
      exact iff_of_true hin₁ hin₂

theorem ChildService.alike_update (childId : UUID) (body : ChildUpdate) :
    Alike d₁ d₂ (update env f childId body) (update env f childId body) :=
  (look_require h childId).bind (fun _ _ hs => Repository.alike_update hs.1 hs.1.erase
    (fun _ _ hr => ChildProfile.applyChanges_sameKeys hr))

theorem ChildService.alike_delete (href₁ : FamilyReferences d₁.rows)
    (href₂ : FamilyReferences d₂.rows) (childId : UUID) :
    Alike d₁ d₂ (delete f childId) (delete f childId) :=
  (look_require h childId).bind (fun _ _ hs => h.alike_delete href₁ href₂ hs.1)

theorem ChildService.alike_getReadingProfile (childId : UUID) :
    Alike d₁ d₂ (getReadingProfile f childId) (getReadingProfile f childId) := by
  refine (look_require h childId).bind (fun c₁ c₂ hs => ?_)
  obtain ⟨hs, rfl⟩ := hs
  exact (look_readingProfile h hs).bind (fun _ _ ho =>
    (Look.orRaise Exn.notFound ho).mono (fun _ _ _ _ hr => hr.2.erase))

theorem ChildService.alike_upsertReadingProfile (hf₁ : env.Fresh P d₁) (hf₂ : env.Fresh P d₂)
    (childId : UUID) (body : ReadingProfileUpsert) :
    Alike d₁ d₂ (upsertReadingProfile env f childId body)
      (upsertReadingProfile env f childId body) := by
  refine (look_require h childId).bind (fun c₁ c₂ hs => ?_)
  obtain ⟨hs, rfl⟩ := hs
  refine (look_readingProfile h hs).bind (fun o₁ o₂ ho => ?_)
  cases ho with
  | none =>
    refine (paired_add (T := .childReadingProfile) (hf₁.id _) (hf₂.id _) ?_ ?_).mono
      (fun _ _ _ _ ha => ha.1)
    · intro u hu k hk
      obtain rfl := List.mem_singleton.mp hu
      obtain rfl := Option.some.inj hk
      simpa [newReadingProfile] using h.unused_iff (Scoped.readingProfile hs)
    · intro p hp k hk
      obtain rfl := List.mem_singleton.mp hp
      obtain rfl := Option.some.inj hk
      exact hs.mem_ids_iff
  | some hr =>
    exact Repository.alike_update hr hr.erase
      (fun _ _ hw => ChildReadingProfile.applyChanges_sameKeys hw)

theorem ChildService.alike_listReadingHistory (childId : UUID) :
    Alike d₁ d₂ (listReadingHistory f childId) (listReadingHistory f childId) := by
  refine (look_require h childId).bind (fun c₁ c₂ hs => ?_)
  obtain ⟨hs, rfl⟩ := hs
  exact (look_sorted (T := .readingHistory) h (.of_child hs
    (fun _ hr => congrArg Scope.child (of_decide_eq_true hr)) (fun _ => rfl)) _
    (fun _ _ => Iff.rfl)).mono (fun _ _ _ _ hr => hr.2.eq (fun _ _ hs => hs.erase))

theorem ChildService.alike_addReadingHistory (hf₁ : env.Fresh P d₁) (hf₂ : env.Fresh P d₂)
    (childId : UUID) (body : ReadingHistoryCreate) :
    Alike d₁ d₂ (addReadingHistory env f childId body) (addReadingHistory env f childId body) := by
  refine (look_require h childId).bind (fun c₁ c₂ hs => ?_)
  obtain ⟨hs, rfl⟩ := hs
  refine (paired_add (T := .readingHistory) (hf₁.id _) (hf₂.id _) ?_ ?_).mono
    (fun _ _ _ _ ha => ha.1)
  · exact fun u hu => absurd hu List.not_mem_nil
  · intro p hp k hk
    obtain rfl := List.mem_singleton.mp hp
    obtain rfl := Option.some.inj hk
    exact hs.mem_ids_iff

theorem ChildService.alike_updateReadingHistory (childId entryId : UUID)
    (body : ReadingHistoryUpdate) :
    Alike d₁ d₂ (updateReadingHistory env f childId entryId body)
      (updateReadingHistory env f childId entryId body) := by
  refine (look_require h childId).bind (fun c₁ c₂ hs => ?_)
  obtain ⟨hs, rfl⟩ := hs
  exact (look_requireEntry h hs entryId).bind (fun _ _ he => Repository.alike_update he he.erase
    (fun _ _ hr => ReadingHistory.applyChanges_sameKeys hr))

theorem ChildService.alike_deleteReadingHistory (href₁ : FamilyReferences d₁.rows)
    (href₂ : FamilyReferences d₂.rows) (childId entryId : UUID) :
    Alike d₁ d₂ (deleteReadingHistory f childId entryId)
      (deleteReadingHistory f childId entryId) := by
  refine (look_require h childId).bind (fun c₁ c₂ hs => ?_)
  obtain ⟨hs, rfl⟩ := hs
  exact (look_requireEntry h hs entryId).bind (fun _ _ he => h.alike_delete href₁ href₂ he)

end Children

/-! ## Policies -/

section Policies

variable (h : Agree f d₁ d₂)
include h

/-- The active policies of the family. -/
theorem PolicyService.look_list :
    Look d₁ d₂ (list f) (list f) (List.Forall₂ (Same f d₁ d₂ .familyReadingPolicy)) :=
  look_sorted (T := .familyReadingPolicy) h (.of_family
    (fun r hr => congrArg Scope.family (by simp at hr; exact hr.1)) (fun _ => rfl)) _
    (fun _ _ => Iff.rfl)

/-- A policy of the family. -/
theorem PolicyService.look_require (policyId : UUID) :
    Look d₁ d₂ (require f policyId) (require f policyId)
      (Same f d₁ d₂ .familyReadingPolicy) :=
  (look_required (T := .familyReadingPolicy) h (.of_family
    (fun r hr => congrArg Scope.family (by simpa using (Bool.and_eq_true_iff.mp hr).2))
    (fun _ => rfl)) (FamilyReadingPolicy.atMostOne policyId f) .notFound).mono
    (fun _ _ _ _ hs => ⟨hs.1, hs.2.1⟩)

/-- The child of a policy is resolved to a child of the family. -/
theorem PolicyService.look_resolveChild (childId : Option String) :
    Look d₁ d₂ (resolveChild childId f) (resolveChild childId f) (fun c c' => c = c' ∧
      ∀ id ∈ c, ∃ c₁ c₂, Same f d₁ d₂ .childProfile c₁ c₂ ∧ c₁.id = id) := by
  cases childId with
  | none => exact Look.pure ⟨rfl, by simp⟩
  | some text =>
    refine Look.bind (Look.orRaise (S := (· = ·)) _ ?_) (fun u _ hu => ?_)
    · cases UUID.ofString text with
      | none => exact .none
      | some u => exact .some rfl
    · obtain rfl := hu
      rw [← bind_assoc]
      refine (ChildService.look_require h u).bind (fun c₁ c₂ hs => Look.pure ⟨rfl, ?_⟩)
      simp only [Option.mem_some_iff, forall_eq']
      exact ⟨c₁, c₂, hs⟩

theorem PolicyService.alike_create (hf₁ : env.Fresh P d₁) (hf₂ : env.Fresh P d₂)
    (body : PolicyCreate) : Alike d₁ d₂ (create env f body) (create env f body) := by
  refine (look_resolveChild h body.childId).bind (fun c _ hc => ?_)
  obtain ⟨rfl, hchild⟩ := hc
  refine (paired_add (T := .familyReadingPolicy) (hf₁.id _) (hf₂.id _) ?_ ?_).mono
    (fun _ _ _ _ ha => ha.1)
  · exact fun u hu => absurd hu List.not_mem_nil
  · intro p hp k hk
    rcases List.mem_pair.mp hp with rfl | rfl
    · obtain rfl := Option.some.inj hk
      exact h.family_mem_iff
    · obtain ⟨c₁, c₂, hs, rfl⟩ := hchild k hk
      exact hs.mem_ids_iff

theorem PolicyService.alike_update (policyId : UUID) (body : PolicyUpdate) :
    Alike d₁ d₂ (update env f policyId body) (update env f policyId body) :=
  (look_require h policyId).bind (fun _ _ hs => Repository.alike_update hs hs.erase
    (fun _ _ hr => FamilyReadingPolicy.applyChanges_sameKeys hr))

theorem PolicyService.alike_delete (href₁ : FamilyReferences d₁.rows)
    (href₂ : FamilyReferences d₂.rows) (policyId : UUID) :
    Alike d₁ d₂ (delete f policyId) (delete f policyId) :=
  (look_require h policyId).bind (fun _ _ hs => h.alike_delete href₁ href₂ hs)

end Policies

/-! ## The context bundle -/

namespace FamilyContextLoader

variable (h : Agree f d₁ d₂)
include h

/-- A member is serialized alike, with its profile. -/
theorem serializeMember_eq {m₁ m₂ : FamilyMember} (hs : Same f d₁ d₂ .familyMember m₁ m₂) :
    serializeMember env d₁ m₁ = serializeMember env d₂ m₂ := by
  have hprofile := h.find_map (Scoped.profile hs)
  rw [show TableName.erase .familyMemberProfile = id from rfl, Option.map_id] at hprofile
  have hid : m₁.id = m₂.id := hs.id
  rw [serializeMember, serializeMember, hs.column (g := FamilyMember.dump) (fun _ => rfl),
    hs.column (g := FamilyMember.birthDate) (fun _ => rfl), ← hid]
  exact congrArg (MemberContext.mk _ · _) hprofile

/-- A child is serialized alike, with its reading profile. -/
theorem serializeChild_eq {c₁ c₂ : ChildProfile} (hs : Same f d₁ d₂ .childProfile c₁ c₂) :
    serializeChild env d₁ c₁ = serializeChild env d₂ c₂ := by
  have hprofile := h.find_map (Scoped.readingProfile hs)
  rw [show TableName.erase .childReadingProfile = id from rfl, Option.map_id] at hprofile
  obtain rfl : c₁ = c₂ := hs.erase
  exact congrArg (ChildContext.mk _ · _) hprofile

theorem alike_load : Alike d₁ d₂ (load env f) (load env f) := by
  have hget : Look d₁ d₂ (FamilyRepository.get f) (FamilyRepository.get f)
      (Option.Rel (Same f d₁ d₂ .family)) := by
    rw [FamilyRepository.get_eq_read]
    exact Look.read ((h.find (T := .family) (.of_family
      (fun _ hr => congrArg Scope.family (of_decide_eq_true hr)) (fun _ => rfl))).imp
      (fun _ _ hr => hr.1))
  refine hget.bind (fun o₁ o₂ ho => ?_)
  cases ho with
  | none => exact Paired.pure (fun _ _ _ => rfl)
  | @some family family' hs =>
    obtain rfl : family = family' := hs.erase
    refine (MemberService.look_list h).bind (fun ms₁ ms₂ hms => ?_)
    refine Look.bind (S := (· = ·)) (Look.read (hms.map_eq (fun _ _ hs => serializeMember_eq h hs)))
      (fun members _ he => ?_)
    obtain rfl := he
    refine (ChildService.look_list h).bind (fun cs₁ cs₂ hcs => ?_)
    refine Look.bind (S := (· = ·))
      (Look.read (congrArg Dict.ofList (hcs.map_eq (fun c₁ c₂ hs => ?_))))
      (fun children _ he => ?_)
    · rw [serializeChild_eq h hs, show c₁.id = c₂.id from hs.id]
    · obtain rfl := he
      exact (PolicyService.look_list h).bind (fun ps₁ ps₂ hps => Paired.pure (fun _ _ _ => by
        rw [hps.eq (fun _ _ hs => hs.erase)]))

end FamilyContextLoader

/-! ## Every operation of a family -/

/-- **Every operation scoped to the family answers alike** on databases that
show the same of the family. -/
theorem FamilyOp.alike {op : FamilyOp} (h : Agree f d₁ d₂) (href₁ : FamilyReferences d₁.rows)
    (href₂ : FamilyReferences d₂.rows) (hf₁ : env.Fresh P d₁) (hf₂ : env.Fresh P d₂)
    (hby : op.ByMember f d₁) (hemail : ∀ body email, op = .createMember body →
      body.email = some email →
      ((∃ m ∈ d₁.members, m.email = some email) ↔ ∃ m ∈ d₂.members, m.email = some email)) :
    Alike d₁ d₂ (op.run P env f) (op.run P env f) := by
  cases op with
  | getFamily =>
    exact Alike.map ((FamilyService.look_get h).mono (fun _ _ _ _ hs => hs.2.erase)) _
  | updateFamily body => exact (FamilyService.alike_update h body).map _
  | listMembers => exact (MemberService.alike_list h).map _
  | createMember body =>
    exact (MemberService.alike_create h hf₁ hf₂ (fun email => hemail body email rfl)).map _
  | getMember memberId => exact (MemberService.alike_get h memberId).map _
  | updateMember memberId body => exact (MemberService.alike_update h memberId body).map _
  | deleteMember memberId => exact (MemberService.alike_delete h href₁ href₂ memberId).map _
  | getProfile memberId => exact (MemberService.alike_getProfile h memberId).map _
  | upsertProfile memberId body =>
    exact (MemberService.alike_upsertProfile h hf₁ hf₂ memberId body).map _
  | createInvite createdBy body => exact (InviteService.alike_create h hf₁ hf₂ hby body).map _
  | listInvites => exact (InviteService.alike_list h).map _
  | revokeInvite inviteId => exact (InviteService.alike_revoke h href₁ href₂ inviteId).map _
  | listChildren =>
    exact Alike.map ((ChildService.look_list h).mono (fun _ _ _ _ hs =>
      hs.2.eq (fun _ _ hs => hs.erase))) _
  | createChild body => exact (ChildService.alike_create h hf₁ hf₂ body).map _
  | getChild childId =>
    exact Alike.map ((ChildService.look_require h childId).mono (fun _ _ _ _ hs => hs.2.1.erase)) _
  | updateChild childId body => exact (ChildService.alike_update h childId body).map _
  | deleteChild childId => exact (ChildService.alike_delete h href₁ href₂ childId).map _
  | getReadingProfile childId => exact (ChildService.alike_getReadingProfile h childId).map _
  | upsertReadingProfile childId body =>
    exact (ChildService.alike_upsertReadingProfile h hf₁ hf₂ childId body).map _
  | listReadingHistory childId => exact (ChildService.alike_listReadingHistory h childId).map _
  | addReadingHistory childId body =>
    exact (ChildService.alike_addReadingHistory h hf₁ hf₂ childId body).map _
  | updateReadingHistory childId entryId body =>
    exact (ChildService.alike_updateReadingHistory h childId entryId body).map _
  | deleteReadingHistory childId entryId =>
    exact (ChildService.alike_deleteReadingHistory h href₁ href₂ childId entryId).map _
  | listPolicies =>
    exact Alike.map ((PolicyService.look_list h).mono (fun _ _ _ _ hs =>
      hs.2.eq (fun _ _ hs => hs.erase))) _
  | createPolicy body => exact (PolicyService.alike_create h hf₁ hf₂ body).map _
  | updatePolicy policyId body => exact (PolicyService.alike_update h policyId body).map _
  | deletePolicy policyId => exact (PolicyService.alike_delete h href₁ href₂ policyId).map _
  | context => exact (FamilyContextLoader.alike_load h).map _

/-- **Cross-family read isolation.** From two databases the service reaches
that show the same of a family, every operation scoped to the family, called
in the same environment with the same arguments, is answered with the same
response or the same error. An invite is created by a member of the family;
and whether the email of a new member is taken anywhere has to be the same,
which is the one thing another family may be noticed by. -/
theorem family_read_isolation (P : Platform) (env : Env) (f : UUID) (op : FamilyOp)
    (d₁ d₂ : Database) (h₁ : Reachable P d₁) (h₂ : Reachable P d₂) (hf₁ : env.Fresh P d₁)
    (hf₂ : env.Fresh P d₂) (hagree : Agree f d₁ d₂) (hby : op.ByMember f d₁)
    (hemail : ∀ body email, op = .createMember body → body.email = some email →
      ((∃ m ∈ d₁.members, m.email = some email) ↔ ∃ m ∈ d₂.members, m.email = some email)) :
    (serve P env (.family f op) d₁).1 = (serve P env (.family f op) d₂).1 :=
  (FamilyOp.alike hagree h₁.familyReferences h₂.familyReferences hf₁ hf₂ hby hemail).serve

/-- A database with one family. -/
def Sample.oneFamily : List (Move Env Request) :=
  [.start (Sample.env 1 (Sample.second 0))
      (.auth (.signup (Sample.signup "ada@example.org" none))),
    .finish (Sample.env 1 (Sample.second 0)) 0]

/-- One with a second family, in which the member of the first was issued
another token. -/
def Sample.twoFamilies : List (Move Env Request) :=
  [.start (Sample.env 2 (Sample.second 0))
      (.auth (.signup (Sample.signup "bob@example.org" none))),
    .start { Sample.env 1 (Sample.second 0) with token := "refresh-3" }
      (.auth (.signup (Sample.signup "ada@example.org" none))),
    .finish { Sample.env 1 (Sample.second 0) with token := "refresh-3" } 1,
    .finish (Sample.env 2 (Sample.second 0)) 0]

/-- What a schedule reaches. -/
def Sample.reach (ms : List (Move Env Request)) : Database :=
  ((concurrentService (Sample.platform 2592000)).system.run idle ms).shared

/-- A member with an email. -/
def Sample.newMember : MemberCreate where
  displayName := some "Cleo"
  role := "child"
  gender := none
  birthDate := none
  languagePreference := none
  email := some "cleo@example.org"
  password := none

/-- A member is added, with and without a second family. -/
theorem family_read_isolation_new_member :
    (serve (Sample.platform 2592000) (Sample.env 4 (Sample.second 60))
        (.family 1 (.createMember Sample.newMember)) (Sample.reach Sample.oneFamily)).1
      = (serve (Sample.platform 2592000) (Sample.env 4 (Sample.second 60))
        (.family 1 (.createMember Sample.newMember)) (Sample.reach Sample.twoFamilies)).1 :=
  family_read_isolation _ _ _ _ _ _ ⟨Sample.oneFamily, by decide +kernel, rfl⟩
    ⟨Sample.twoFamilies, by decide +kernel, rfl⟩ (by decide +kernel) (by decide +kernel)
    (by decide +kernel) trivial (by
      rintro _ _ ⟨⟩ ⟨⟩
      decide +kernel)
