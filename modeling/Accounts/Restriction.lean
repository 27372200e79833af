import Accounts.Noninterference

/-!
# A family alone in the database

`Restricts f d e` says that `e` is what is left of `d` without the rows of
the other families. A statement about a row of `f` – an insert, an update, a
delete with what goes along – is accepted by both databases or refused by
both, and leaves `e` what is left of `d`. So does every operation scoped to
`f`, since all it looks up are rows of `f`; the email of a new member is
again the one exception.

Where noninterference compares what two databases *show*, the two databases
here hold the same rows of the family, secret columns included, and what an
operation leaves is compared as well as its answer. That is what lets the
result be carried over runs.
-/

open Repository Tx

variable {P : Platform} {env : Env} {f g : UUID} {d e : Database} {T : TableName}

/-! ## Statements on a slice -/

section Slices

variable {t : (T : TableName) → List T.Row}

/-- A row of the family is inserted into its slice. -/
theorem slice_insert_own (h : schema.Consistent t) {r : T.Row} (hr : Owns t f T r) :
    slice f (Schema.insert T r t) = Schema.insert T r (slice f t) := by
  have hkeep : ∀ (T' : TableName), ∀ x ∈ t T',
      decide (Owns (Schema.insert T r t) f T' x) = decide (Owns t f T' x) :=
    fun T' x hx => decide_eq_decide.mpr (owns_insert_iff h hx)
  funext T'
  by_cases hT : T' = T
  · subst hT
    rw [slice, Schema.insert_self, Schema.insert_self, slice]
    refine (Table.filter_insert_of_true
      (p := fun x => decide (Owns (Schema.insert T' r t) f T' x))
      (decide_eq_true (familyOf_insert hr))).trans ?_
    rw [List.filter_congr (hkeep T')]
  · rw [slice, Schema.insert_of_ne hT, Schema.insert_of_ne hT, List.filter_congr (hkeep T'), slice]

/-- A row is replaced in the slice it is in. -/
theorem slice_replace_own (h : schema.Consistent t) {r old : T.Row} (hold : old ∈ t T)
    (hk : schema.SameKeys T r old) :
    slice f (schema.replace T r t) = schema.replace T r (slice f t) := by
  have hkeep : ∀ (T' : TableName) (x : T'.Row),
      decide (Owns (schema.replace T r t) f T' x) = decide (Owns t f T' x) := by
    intro T' x
    refine decide_eq_decide.mpr ?_
    rw [Owns, Owns, familyOf_replace h hold hk]
  funext T'
  rw [slice, funext (hkeep T')]
  by_cases hT : T' = T
  · subst hT
    rw [Schema.replace_self, Schema.replace_self, slice]
    refine Table.filter_replace (fun x hx hid => decide_eq_decide.mpr ?_)
    obtain rfl : x = old := h.eq_of_id hx hold (hid.trans hk.id)
    rw [Owns, Owns, hk.scope]
  · rw [Schema.replace_of_ne hT, Schema.replace_of_ne hT, slice]

/-- **What a delete leaves of a table** is what a filter leaves of it. -/
theorem exists_filter_delete (k : UUID) (T' : TableName) : ∃ q : T'.Row → Bool,
    ∀ t : (T : TableName) → List T.Row, schema.delete T k (T.cascade k t) T' = (t T').filter q := by
  by_cases hT : T' = T
  · subst hT
    refine ⟨fun x => decide (T'.id x ≠ k), fun t => ?_⟩
    rw [Schema.delete_self, cascade_of_ne (by cases T' <;> simp) (by cases T' <;> simp)]
    rfl
  · by_cases h₁ : T = .familyMember ∧ T' = .familyMemberProfile
    · obtain ⟨rfl, rfl⟩ := h₁
      exact ⟨_, fun t => (Schema.delete_of_ne hT).trans Schema.discard_self⟩
    · by_cases h₂ : T = .childProfile ∧ T' = .childReadingProfile
      · obtain ⟨rfl, rfl⟩ := h₂
        exact ⟨_, fun t => (Schema.delete_of_ne hT).trans Schema.discard_self⟩
      · refine ⟨fun _ => true, fun t => ?_⟩
        rw [Schema.delete_of_ne hT, cascade_of_ne (not_and_or.mp h₁) (not_and_or.mp h₂),
          List.filter_true]

/-- Rows that are left belong to the family they belonged to. -/
theorem owns_iff_of_subset {t' : (T : TableName) → List T.Row} (h : schema.Consistent t)
    (h' : schema.Consistent t') (hsub : ∀ U, ∀ x ∈ t' U, x ∈ t U) {x : T.Row} (hx : x ∈ t' T) :
    Owns t' f T x ↔ Owns t f T x := by
  obtain ⟨g, hg⟩ := h'.exists_owner hx
  have hg' : Owns t g T x := familyOf_of_subset h hsub hg
  exact ⟨fun hf => hg.eq hf ▸ hg', fun hf => hg'.eq hf ▸ hg⟩

/-- A row is deleted from the slice it is in, with what goes along. -/
theorem slice_delete_own (h : schema.Consistent t) {k : UUID}
    (h' : schema.Consistent (schema.delete T k (T.cascade k t))) :
    slice f (schema.delete T k (T.cascade k t)) = schema.delete T k (T.cascade k (slice f t)) := by
  funext T'
  obtain ⟨q, hq⟩ := exists_filter_delete (T := T) k T'
  rw [hq, slice, slice, List.filter_congr (fun x hx =>
    decide_eq_decide.mpr (owns_iff_of_subset h h' mem_of_mem_delete_cascade hx)), hq,
    List.filter_filter, List.filter_filter]
  exact List.filter_congr (fun x _ => Bool.and_comm _ _)

/-- What a row names its family by is a row of the family. -/
theorem Owns.target {r : T.Row} (hr : Owns t f T r) (h : schema.Consistent t)
    {p : TableName × (T.Row → Option UUID)} (hp : p ∈ T.references) (hside : p ∉ T.sideReferences)
    {y : p.1.Row} (hy : y ∈ t p.1) (hk : p.2 r = some (p.1.id y)) : Owns t f p.1 y := by
  have hfamily : ∀ {id : UUID} {y : Family}, some id = some y.id →
      familyOf t (.family id) = some f → Owns t f .family y := fun hid hf => hid.symm.trans hf
  have hmember : ∀ {id : UUID} {y : FamilyMember}, y ∈ t .familyMember → some id = some y.id →
      familyOf t (.member id) = some f → Owns t f .familyMember y := by
    intro id y hy hid hf
    rw [Option.some.inj hid, h.familyOf_member hy] at hf
    exact hf
  have hchild : ∀ {id : UUID} {y : ChildProfile}, y ∈ t .childProfile → some id = some y.id →
      familyOf t (.child id) = some f → Owns t f .childProfile y := by
    intro id y hy hid hf
    rw [Option.some.inj hid, h.familyOf_child hy] at hf
    exact hf
  cases T
  case family => exact absurd hp List.not_mem_nil
  case familyMember | childProfile =>
    obtain rfl := List.mem_singleton.mp hp
    exact hfamily hk hr
  case familyReadingPolicy | familyInvite | refreshToken =>
    rcases List.mem_pair.mp hp with rfl | rfl
    · exact hfamily hk hr
    · exact absurd List.mem_cons_self hside
  case familyMemberProfile =>
    obtain rfl := List.mem_singleton.mp hp
    exact hmember hy hk hr
  case childReadingProfile | readingHistory =>
    obtain rfl := List.mem_singleton.mp hp
    exact hchild hy hk hr

end Slices

/-! ## The rows of one family -/

/-- **The second database is the first without the rows of other
families.** -/
structure Restricts (f : UUID) (d e : Database) : Prop where
  /-- Its tables are the slice of the family. -/
  rows : e.rows = slice f d.rows
  /-- Rows refer to rows of their own family. -/
  references : FamilyReferences d.rows

namespace Restricts

variable (h : Restricts f d e)
include h

theorem mem_iff {r : T.Row} : r ∈ e.rows T ↔ r ∈ d.rows T ∧ Owns d.rows f T r := by
  rw [h.rows]
  exact mem_slice

/-- **A selection of rows of the family** is the same in both databases. -/
theorem filter {p : T.Row → Bool} (hp : ∀ r ∈ d.rows T, p r = true → Owns d.rows f T r) :
    (e.rows T).filter p = (d.rows T).filter p := by
  rw [h.rows, slice, List.filter_filter]
  refine List.filter_congr (fun r hr => ?_)
  cases hpr : p r with
  | false => rfl
  | true => rw [Bool.true_and, decide_eq_true (hp r hr hpr)]

/-- So is what a look-up finds. -/
theorem find {p : T.Row → Bool} (hp : ∀ r ∈ d.rows T, p r = true → Owns d.rows f T r) :
    (e.rows T).find? p = (d.rows T).find? p := by
  rw [← List.head?_filter, ← List.head?_filter, h.filter hp]

end Restricts

/-! ## Statements on the two databases -/

/-- **The two runs of a body end alike**, and leave a database and what is
left of it. -/
abbrev Local (f : UUID) {α : Type} (d e : Database) (t : Op α) : Prop :=
  Paired (At d e) t t (fun a b d' e' => a = b ∧ Restricts f d' e')

/-- **A body that looks up the same in both databases**, of which the value
is known to satisfy `Q`. -/
abbrev Sees {α : Type} (d e : Database) (t : Op α) (Q : α → Prop) : Prop :=
  Look d e t t (fun a b => a = b ∧ Q a)

section Bodies

variable {α β : Type} {t : Op α} {k : α → Op β} {Q : α → Prop}
  {R : β → β → Database → Database → Prop}

/-- Look, then go on from what was seen. -/
theorem Sees.bind (ht : Sees d e t Q) (hk : ∀ a, Q a → Paired (At d e) (k a) (k a) R) :
    Paired (At d e) (t >>= k) (t >>= k) R :=
  Look.bind ht (fun a _ hab => hab.1 ▸ hk a hab.2)

theorem Sees.pure {a : α} (ha : Q a) : Sees d e (Pure.pure a : Op α) Q := Look.pure ⟨rfl, ha⟩

theorem Sees.read {q : Database → α} (hq : q d = q e) (hQ : Q (q d)) : Sees d e (Tx.read q) Q :=
  Look.read ⟨hq, hQ⟩

theorem Sees.orRaise (x : Exn) {o : Option α} (ho : ∀ a ∈ o, Q a) :
    Sees d e (Tx.orRaise x o) Q := by
  cases o with
  | none => exact Paired.raise x
  | some a => exact Look.pure ⟨rfl, ho a rfl⟩

theorem Sees.lift (x : Except Exn α) : Sees d e (Tx.lift x) (fun a => x = .ok a) := by
  cases x with
  | error x => exact Paired.raise x
  | ok a => exact Look.pure ⟨rfl, rfl⟩

/-- What only looks is local. -/
theorem Sees.local (h : Restricts f d e) (ht : Sees d e t Q) : Local f d e t :=
  ht.mono (fun _ _ _ _ hs => by
    obtain ⟨⟨rfl, rfl⟩, rfl, -⟩ := hs
    exact ⟨rfl, h⟩)

theorem Local.pure (h : Restricts f d e) (a : α) : Local f d e (Pure.pure a : Op α) :=
  Sees.local h (Sees.pure (Q := fun _ => True) trivial)

/-- A value is dressed as a response. -/
theorem Local.map (ht : Local f d e t) (g : α → β) :
    Local f d e (t >>= fun a => Pure.pure (g a)) :=
  Paired.bind ht (fun _ _ => Paired.pure (fun _ _ hs => ⟨congrArg g hs.1, hs.2⟩))

/-- **Bodies that are local are requests that are**, when they leave nothing
behind as they fail. -/
theorem Local.serve {handled : Exn → Bool} (ht : Local f d e t) (h : Restricts f d e)
    (hclean : Tx.Clean handled t) :
    (Tx.serve handled t e).1 = (Tx.serve handled t d).1 ∧
      Restricts f (Tx.serve handled t d).2 (Tx.serve handled t e).2 := by
  rcases ht ⟨d, d⟩ ⟨e, e⟩ ⟨rfl, rfl⟩ with ⟨a, _, s, s', hs, hs', rfl, hr⟩ | ⟨x, s, s', hs, hs'⟩
  · rw [Tx.serve_ok_iff.mpr ⟨s, hs, rfl⟩, Tx.serve_ok_iff.mpr ⟨s', hs', rfl⟩]
    exact ⟨rfl, hr⟩
  · have hd : Tx.serve handled t d = (.error x, _) := Tx.serve_error_iff.mpr ⟨s, hs, rfl⟩
    have he : Tx.serve handled t e = (.error x, _) := Tx.serve_error_iff.mpr ⟨s', hs', rfl⟩
    have hd' := hclean.serve hd id
    have he' := hclean.serve he id
    rw [hd, he]
    exact ⟨rfl, by rw [hd', he']; exact h⟩

end Bodies

/-! ## Rows of the family are written alike -/

namespace Restricts

variable (h : Restricts f d e)
include h

/-- **An insert of a row of the family** is accepted by both databases or
refused by both, if what it refers to besides is the family's, and no row of
another family has the values of its unique columns. -/
theorem paired_add {r : T.Row} (hown : Owns d.rows f T r) (hid : ∀ x ∈ d.rows T, T.id x ≠ T.id r)
    (hu : ∀ u ∈ T.uniques, ∀ k ∈ u r, ∀ x ∈ d.rows T, u x = some k → Owns d.rows f T x)
    (hside : ∀ p ∈ T.sideReferences, ∀ k ∈ p.2 r, ∀ y ∈ d.rows p.1, p.1.id y = k →
      Owns d.rows f p.1 y) :
    Paired (At d e) (add T r) (add T r) (fun a b d' e' => (a = b ∧ Restricts f d' e') ∧
      schema.SameKeys T a r ∧ d'.rows = Schema.insert T a d.rows) := by
  -- every row it refers to is the family's
  have htarget : ∀ p ∈ T.references, ∀ k ∈ p.2 r, ∀ y ∈ d.rows p.1, p.1.id y = k →
      Owns d.rows f p.1 y := by
    intro p hp k hk y hy hyk
    by_cases hs : p ∈ T.sideReferences
    · exact hside p hs k hk y hy hyk
    · exact hown.target d.consistent hp hs hy (hyk ▸ hk)
  refine (@Repository.paired_add d e T r hid (fun x hx => hid x (h.mem_iff.mp hx).1)
    (fun u hu' k hk => ⟨fun hno x hx => hno x (h.mem_iff.mp hx).1, fun hno x hx hxk => ?_⟩)
    (fun p hp k hk => ⟨fun hin => ?_, fun hin => ?_⟩)).mono ?_
  · exact hno x (h.mem_iff.mpr ⟨hx, hu u hu' k hk x hx hxk⟩) hxk
  · obtain ⟨y, hy, hyk⟩ := List.mem_map.mp hin
    exact List.mem_map.mpr ⟨y, h.mem_iff.mpr ⟨hy, htarget p hp k hk y hy hyk⟩, hyk⟩
  · obtain ⟨y, hy, hyk⟩ := List.mem_map.mp hin
    exact List.mem_map.mpr ⟨y, (h.mem_iff.mp hy).1, hyk⟩
  · rintro a _ d' e' ⟨rfl, hk, hd', he'⟩
    have hown' : Owns d.rows f T a := by rwa [Owns, hk.scope]
    have hc' := hd' ▸ d'.consistent
    refine ⟨⟨rfl, ?_, ?_⟩, hk, hd'⟩
    · rw [he', hd', slice_insert_own d.consistent hown', h.rows]
    · rw [hd']
      refine h.references.insert d.consistent hc' (fun g hg p hp k hkp => ?_)
      have hpr := TableName.sideReferences_subset hp
      have hne : p.1 ≠ T := schema.hierarchical T p hpr
      obtain ⟨y, hy, hyk⟩ := List.mem_map.mp (hc'.reference T p hpr a (by
        rw [Schema.insert_self]
        exact Table.mem_insert.mpr (Or.inr rfl)) k hkp)
      rw [Schema.insert_of_ne hne] at hy
      rw [hk.reference p hpr] at hkp
      exact ⟨y, hy, hyk, hg.eq hown' ▸ htarget p hpr k hkp y hy hyk⟩

/-- **An update of a row of the family.** -/
theorem paired_update {old : T.Row} {changes : T.Row → Except Exn T.Row} (hold : old ∈ d.rows T)
    (hown : Owns d.rows f T old) (hk : ∀ r r', changes r = .ok r' → schema.SameKeys T r' r) :
    Paired (At d e) (update env T (T.id old) changes) (update env T (T.id old) changes)
      (fun a b d' e' => (a = b ∧ Restricts f d' e') ∧ schema.SameKeys T a old ∧
        d'.rows = schema.replace T a d.rows) := by
  have hold' : old ∈ e.rows T := h.mem_iff.mpr ⟨hold, hown⟩
  refine Paired.flush ?_
  rw [show d.find T (T.id old) = some old from Store.find_eq_some_iff.mpr ⟨hold, rfl⟩,
    show e.find T (T.id old) = some old from Store.find_eq_some_iff.mpr ⟨hold', rfl⟩]
  dsimp only
  cases hw : changes old >>= T.written env.now old with
  | error x => exact Or.inl ⟨x, rfl, rfl⟩
  | ok a =>
    obtain ⟨draft, hdraft, hw⟩ := Except.bind_eq_ok_iff.mp hw
    have hkeys := TableName.written_sameKeys (hk old draft hdraft) hw
    have hd : d.execute (schema.replace T a) = some ⟨_, d.consistent.replace hold hkeys⟩ :=
      Store.execute_eq_some_iff.mpr rfl
    have he : e.execute (schema.replace T a) = some ⟨_, e.consistent.replace hold' hkeys⟩ :=
      Store.execute_eq_some_iff.mpr rfl
    dsimp only
    rw [hd, he]
    refine Or.inr ⟨a, a, _, _, rfl, rfl, ⟨rfl, ?_, ?_⟩, hkeys, rfl⟩
    · show schema.replace T a e.rows = slice f (schema.replace T a d.rows)
      rw [slice_replace_own d.consistent hold hkeys, h.rows]
    · exact h.references.replace d.consistent hold hkeys

/-- **A delete of a row of the family**: what refers to it is the
family's. -/
theorem paired_delete {old : T.Row} (hold : old ∈ d.rows T) (hown : Owns d.rows f T old) :
    Local f d e (delete T (T.id old)) := by
  have hold' : old ∈ e.rows T := h.mem_iff.mpr ⟨hold, hown⟩
  have hcascade : ∀ U : TableName, ∀ x ∈ T.cascade (T.id old) d.rows U, Owns d.rows f U x →
      x ∈ T.cascade (T.id old) e.rows U := by
    intro U x hx hxf
    exact mem_cascade_of_erase hx (h.mem_iff.mpr ⟨mem_of_mem_cascade U x hx, hxf⟩) rfl
  have hiff : schema.Consistent (schema.delete T (T.id old) (T.cascade (T.id old) d.rows)) ↔
      schema.Consistent (schema.delete T (T.id old) (T.cascade (T.id old) e.rows)) := by
    rw [Schema.consistent_delete_iff (d.consistent.cascade _),
      Schema.consistent_delete_iff (e.consistent.cascade _)]
    constructor
    · intro hno U p hp hp1 x hx
      have hmem := (h.mem_iff.mp (mem_of_mem_cascade U x hx)).1
      exact hno U p hp hp1 x (mem_cascade_of_erase hx hmem rfl)
    · rintro hno U ⟨_, fk⟩ hp rfl x hx hxk
      have hmem := mem_of_mem_cascade U x hx
      exact hno U _ hp rfl x (hcascade U x hx
        (h.references.owns_of_reference d.consistent hmem hp hold hxk hown)) hxk
  refine Paired.flush ?_
  rw [show d.find T (T.id old) = some old from Store.find_eq_some_iff.mpr ⟨hold, rfl⟩,
    show e.find T (T.id old) = some old from Store.find_eq_some_iff.mpr ⟨hold', rfl⟩]
  dsimp only
  by_cases hcons : schema.Consistent (schema.delete T (T.id old) (T.cascade (T.id old) d.rows))
  · have hd : d.execute (fun t => schema.delete T (T.id old) (T.cascade (T.id old) t))
        = some ⟨_, hcons⟩ := Store.execute_eq_some_iff.mpr rfl
    have he : e.execute (fun t => schema.delete T (T.id old) (T.cascade (T.id old) t))
        = some ⟨_, hiff.mp hcons⟩ := Store.execute_eq_some_iff.mpr rfl
    rw [hd, he]
    refine Or.inr ⟨(), (), _, _, rfl, rfl, rfl, ?_, ?_⟩
    · show schema.delete T (T.id old) (T.cascade (T.id old) e.rows)
        = slice f (schema.delete T (T.id old) (T.cascade (T.id old) d.rows))
      rw [slice_delete_own d.consistent hcons, h.rows]
    · exact h.references.subset d.consistent hcons mem_of_mem_delete_cascade
  · rw [Store.execute_eq_none_iff.mpr hcons, Store.execute_eq_none_iff.mpr (mt hiff.mpr hcons)]
    exact Or.inl ⟨.integrityError, rfl, rfl⟩

end Restricts

namespace Restricts

variable (h : Restricts f d e)
include h

/-- A row of the family that has to be there. -/
theorem sees_required {p : T.Row → Bool} (hp : ∀ r ∈ d.rows T, p r = true → Owns d.rows f T r)
    (hat : ∀ d : Database, Table.AtMostOne p (d.rows T)) (x : Exn) :
    Sees d e (do Tx.orRaise x (← getOneOrNone T p)) (fun r => r ∈ d.rows T ∧ p r = true) := by
  rw [getOneOrNone_eq_read hat]
  refine Sees.bind (Sees.read (Q := (· = (d.rows T).find? p)) (h.find hp).symm rfl) ?_
  rintro _ rfl
  exact Sees.orRaise x (fun r hr => ⟨List.mem_of_find?_eq_some hr, List.find?_some hr⟩)

/-- A listing of rows of the family. -/
theorem sees_sorted {p : T.Row → Bool} (hp : ∀ r ∈ d.rows T, p r = true → Owns d.rows f T r)
    (le : T.Row → T.Row → Prop) [DecidableRel le] :
    Sees d e (do return (← getMany T p).insertionSort le)
      (fun rows => ∀ r ∈ rows, r ∈ d.rows T ∧ p r = true) := by
  refine Sees.bind (Sees.read (Q := (· = (d.rows T).filter p)) (h.filter hp).symm rfl) ?_
  rintro _ rfl
  exact Sees.pure (fun r hr => List.mem_filter.mp ((List.mem_insertionSort _).mp hr))

/-- An insert, and nothing after it. -/
theorem local_add {r : T.Row} (hown : Owns d.rows f T r) (hid : ∀ x ∈ d.rows T, T.id x ≠ T.id r)
    (hu : ∀ u ∈ T.uniques, ∀ k ∈ u r, ∀ x ∈ d.rows T, u x = some k → Owns d.rows f T x)
    (hside : ∀ p ∈ T.sideReferences, ∀ k ∈ p.2 r, ∀ y ∈ d.rows p.1, p.1.id y = k →
      Owns d.rows f p.1 y) : Local f d e (add T r) :=
  (h.paired_add hown hid hu hside).mono (fun _ _ _ _ hs => hs.1)

/-- An update, and nothing after it. -/
theorem local_update {old : T.Row} {changes : T.Row → Except Exn T.Row} (hold : old ∈ d.rows T)
    (hown : Owns d.rows f T old) (hk : ∀ r r', changes r = .ok r' → schema.SameKeys T r' r) :
    Local f d e (update env T (T.id old) changes) :=
  (h.paired_update hold hown hk).mono (fun _ _ _ _ hs => hs.1)

end Restricts

/-! ## Families and members -/

section Members

variable (h : Restricts f d e)
include h

theorem FamilyService.sees_get :
    Sees d e (get f) (fun r => r ∈ d.families ∧ Owns d.rows f .family r) :=
  (h.sees_required (T := .family) (fun _ _ hr => congrArg some (of_decide_eq_true hr))
    (Family.atMostOne f) .notFound).mono (fun _ _ _ _ hs =>
      ⟨hs.1, hs.2.1, hs.2.2.1, congrArg some (of_decide_eq_true hs.2.2.2)⟩)

theorem FamilyService.local_update (body : FamilyUpdate) : Local f d e (update env f body) := by
  rw [FamilyService.update, ← bind_assoc]
  exact (sees_get h).bind (fun _ hr => h.local_update (T := .family) hr.1 hr.2
    (fun _ _ hc => Family.applyChanges_sameKeys hc))

/-- The members of the family. -/
theorem MemberService.sees_members : Sees d e (FamilyMemberRepository.listByFamily f)
    (fun rows => ∀ r ∈ rows, r ∈ d.members ∧ r.familyId = f) :=
  (h.sees_sorted (T := .familyMember) (fun _ _ hr => congrArg some (of_decide_eq_true hr)) _).mono
    (fun _ _ _ _ hs => ⟨hs.1, hs.2.1, fun r hr => by simpa using hs.2.2 r hr⟩)

/-- A member of the family. -/
theorem MemberService.sees_require (memberId : UUID) : Sees d e (require f memberId)
    (fun m => m ∈ d.members ∧ m.id = memberId ∧ m.familyId = f) :=
  (h.sees_required (T := .familyMember)
    (fun _ _ hr => congrArg some (by simpa using (Bool.and_eq_true_iff.mp hr).2))
    (FamilyMember.atMostOne memberId f) .notFound).mono
    (fun _ _ _ _ hs => ⟨hs.1, hs.2.1, by simpa using hs.2.2⟩)

theorem MemberService.local_update (memberId : UUID) (body : MemberUpdate) :
    Local f d e (update env f memberId body) :=
  (sees_require h memberId).bind (fun _ hm => (h.local_update (T := .familyMember) hm.1
    (congrArg some hm.2.2) (fun _ _ hc => FamilyMember.applyChanges_sameKeys hc)).map _)

theorem MemberService.local_delete (memberId : UUID) : Local f d e (delete f memberId) := by
  refine (sees_require h memberId).bind (fun m hm => ?_)
  split
  · exact Paired.raise _
  · exact h.paired_delete (T := .familyMember) hm.1 (congrArg some hm.2.2)

omit h in
/-- Rows under a member of the family are the family's. -/
theorem Store.owns_of_member {m : FamilyMember} (hm : m ∈ d.members) (hf : m.familyId = f)
    {r : T.Row} (hr : T.scope r = .member m.id) : Owns d.rows f T r :=
  Store.owns_of_find hr (hf ▸ d.consistent.familyOf_member hm)

omit h in
/-- Rows under a child of the family are. -/
theorem Store.owns_of_child {c : ChildProfile} (hc : c ∈ d.children) (hf : c.familyId = f)
    {r : T.Row} (hr : T.scope r = .child c.id) : Owns d.rows f T r :=
  Store.owns_of_find hr (hf ▸ d.consistent.familyOf_child hc)

/-- The profile of a member of the family. -/
theorem MemberService.sees_profile {m : FamilyMember} (hm : m ∈ d.members) (hf : m.familyId = f) :
    Sees d e (FamilyMemberProfileRepository.getByMember m.id)
      (fun o => ∀ r ∈ o, r ∈ d.memberProfiles ∧ r.memberId = m.id) := by
  rw [FamilyMemberProfileRepository.getByMember_eq_read]
  refine Sees.read (h.find (T := .familyMemberProfile) (fun r _ hr => ?_)).symm (fun r hr => ?_)
  · exact Store.owns_of_member hm hf (congrArg Scope.member (of_decide_eq_true hr))
  · exact ⟨List.mem_of_find?_eq_some hr, by simpa using List.find?_some hr⟩

theorem MemberService.sees_getProfile (memberId : UUID) :
    Sees d e (getProfile f memberId) (fun _ => True) := by
  refine (sees_require h memberId).bind (fun m hm => ?_)
  obtain ⟨hmem, rfl, hf⟩ := hm
  exact (sees_profile h hmem hf).bind (fun _ _ => Sees.orRaise _ (fun _ _ => trivial))

/-- What the first half of `upsert_profile` finds. -/
theorem MemberService.sees_findProfile (memberId : UUID) : Sees d e (findProfile f memberId)
    (fun o => (∃ m ∈ d.members, m.id = memberId ∧ m.familyId = f) ∧
      ∀ r ∈ o, r ∈ d.memberProfiles ∧ r.memberId = memberId) := by
  refine (sees_require h memberId).bind (fun m hm => ?_)
  obtain ⟨hmem, rfl, hf⟩ := hm
  exact (sees_profile h hmem hf).mono (fun _ _ _ _ hs => ⟨hs.1, hs.2.1, ⟨m, hmem, rfl, hf⟩, hs.2.2⟩)

theorem MemberService.local_putProfile (hf : env.Fresh P d) {m : FamilyMember}
    (hm : m ∈ d.members) (hfam : m.familyId = f) (body : MemberProfileUpsert)
    {profile : Option FamilyMemberProfile}
    (hp : ∀ r ∈ profile, r ∈ d.memberProfiles ∧ r.memberId = m.id) :
    Local f d e (putProfile env m.id body profile) := by
  cases profile with
  | none =>
    refine h.local_add (T := .familyMemberProfile) (Store.owns_of_member hm hfam rfl) (hf.id _)
      (fun u hu k hk x _ hxk => ?_) (fun _ hp => by cases hp)
    obtain rfl := List.mem_singleton.mp hu
    obtain rfl := Option.some.inj hk
    exact Store.owns_of_member hm hfam
      (congrArg Scope.member (Sum.inl.inj (Option.some.inj hxk)))
  | some profile =>
    obtain ⟨hmem, hid⟩ := hp profile rfl
    refine h.local_update (T := .familyMemberProfile) hmem
      (Store.owns_of_member hm hfam (congrArg Scope.member hid)) (fun r _ hw => ?_)
    obtain ⟨draft, -, hw⟩ := Except.bind_eq_ok_iff.mp hw
    cases hw
    exact rebase_sameKeys profile draft r

/-- **The email of a new member** is the one thing that is looked for outside
the family: it has to be nobody's there. -/
def EmailFree (f : UUID) (d : Database) (email : String) : Prop :=
  ∀ m ∈ d.members, m.email = some email → m.familyId = f

theorem MemberService.sees_checkEmail {body : MemberCreate}
    (hemail : ∀ email ∈ body.email, EmailFree f d email) :
    Sees d e (checkEmail body) (fun _ => True) := by
  rw [checkEmail]
  split
  · exact Sees.pure trivial
  · next email hbody =>
    rw [FamilyMemberRepository.getByEmail_eq_read]
    refine Sees.bind (Sees.read (Q := fun _ => True) (h.find (T := .familyMember)
      (fun r hr hre => ?_)).symm trivial) (fun o _ => ?_)
    · exact congrArg some (hemail email hbody r hr (of_decide_eq_true hre))
    · split
      · exact Paired.raise _
      · exact Sees.pure trivial

theorem MemberService.local_insert (hf : env.Fresh P d) {body : MemberCreate}
    (hemail : ∀ email ∈ body.email, EmailFree f d email) :
    Local f d e (insert P env f body) := by
  have hown : Owns d.rows f .familyMember (newMember P env f body) := rfl
  refine Local.map (Paired.mapError _ (h.local_add hown (hf.id _)
    (fun u hu k hk x hx hxk => ?_) (fun _ hp => by cases hp))) _
  obtain rfl := List.mem_singleton.mp hu
  obtain ⟨email, hbody, rfl⟩ := Option.map_eq_some_iff.mp hk
  obtain ⟨email', hx', heq⟩ := Option.map_eq_some_iff.mp hxk
  obtain rfl := Sum.inr.inj heq
  exact congrArg some (hemail email' hbody x hx hx')

end Members

/-! ## Invites -/

section Invites

variable (h : Restricts f d e)
include h

theorem InviteService.local_create {createdBy : UUID} (hf : env.Fresh P d)
    (hby : ∃ m ∈ d.members, m.id = createdBy ∧ m.familyId = f) (body : InviteCreate) :
    Local f d e (create P env f createdBy body) := by
  refine (Sees.lift _).bind (fun expiresAt _ => ?_)
  have hown : Owns d.rows f .familyInvite (newInvite P env f createdBy body expiresAt) := rfl
  refine Local.map (h.local_add hown (hf.id _) (fun u hu k hk x hx hxk => ?_)
    (fun p hp k hk y hy hyk => ?_)) _
  · obtain rfl := List.mem_singleton.mp hu
    obtain rfl := Option.some.inj hk
    exact absurd (Sum.inr.inj (Option.some.inj hxk)) (hf.code x hx)
  · obtain rfl := List.mem_singleton.mp hp
    obtain rfl := Option.some.inj hk
    obtain ⟨m, hm, hid, hfam⟩ := hby
    obtain rfl : y = m := d.consistent.eq_of_id (T := .familyMember) hy hm (hyk.trans hid.symm)
    exact congrArg some hfam

theorem InviteService.sees_list : Sees d e (list env f) (fun _ => True) := by
  refine (h.sees_sorted (T := .familyInvite)
    (fun r _ hr => congrArg some (by simpa using (Bool.and_eq_true_iff.mp hr).2)) _).bind
    (fun _ _ => Sees.pure trivial)

/-- An invite of the family. -/
theorem InviteService.sees_find (inviteId : UUID) : Sees d e
    (do Tx.orRaise .notFound (← FamilyInviteRepository.getInFamily inviteId f) : Op FamilyInvite)
    (fun i => i ∈ d.invites ∧ i.familyId = f) :=
  (h.sees_required (T := .familyInvite)
    (fun _ _ hr => congrArg some (by simpa using (Bool.and_eq_true_iff.mp hr).2))
    (FamilyInvite.atMostOne inviteId f) .notFound).mono
    (fun _ _ _ _ hs => ⟨hs.1, hs.2.1, hs.2.2.1, (by simpa using hs.2.2.2 : _ ∧ _).2⟩)

end Invites

/-! ## Children -/

section Children

variable (h : Restricts f d e)
include h

/-- A child of the family. -/
theorem ChildService.sees_require (childId : UUID) : Sees d e (require f childId)
    (fun c => c ∈ d.children ∧ c.id = childId ∧ c.familyId = f) :=
  (h.sees_required (T := .childProfile)
    (fun _ _ hr => congrArg some (by simpa using (Bool.and_eq_true_iff.mp hr).2))
    (ChildProfile.atMostOne childId f) .notFound).mono
    (fun _ _ _ _ hs => ⟨hs.1, hs.2.1, by simpa using hs.2.2⟩)

/-- The children of the family. -/
theorem ChildService.sees_list :
    Sees d e (list f) (fun rows => ∀ r ∈ rows, r ∈ d.children ∧ r.familyId = f) :=
  (h.sees_sorted (T := .childProfile) (fun _ _ hr => congrArg some (of_decide_eq_true hr)) _).mono
    (fun _ _ _ _ hs => ⟨hs.1, hs.2.1, fun r hr => by simpa using hs.2.2 r hr⟩)

/-- The child, and then its reading profile. -/
theorem ChildService.local_create (hf : env.Fresh P d) (body : ChildCreate) :
    Local f d e (create env f body) := by
  have hown : Owns d.rows f .childProfile (newChild env f body) := rfl
  refine Paired.bind (h.paired_add hown (hf.id _) (fun u hu => absurd hu List.not_mem_nil)
    (fun _ hp => by cases hp)) (fun c _ => Paired.of_at ?_)
  rintro d' e' ⟨⟨rfl, hr⟩, hk, hd'⟩
  have hid : c.id = env.newId .childProfile := hk.id
  have hmem : c ∈ d'.children := by
    show c ∈ d'.rows .childProfile
    rw [hd', Schema.insert_self]
    exact Table.mem_insert.mpr (Or.inr rfl)
  have hfam : c.familyId = f := Option.some.inj (hk.reference _ List.mem_cons_self)
  have hrows : d'.readingProfiles = d.readingProfiles := by
    show d'.rows .childReadingProfile = _
    rw [hd', Schema.insert_of_ne (by simp)]
  refine Local.map (hr.local_add (T := .childReadingProfile)
    (Store.owns_of_child hmem hfam rfl) ?_ (fun u hu k hk x hx hxk => ?_)
    (fun _ hp => by cases hp)) (fun _ => c)
  · show ∀ x ∈ d'.readingProfiles, x.id ≠ env.newId .childReadingProfile
    rw [hrows]
    exact hf.id .childReadingProfile
  · obtain rfl := List.mem_singleton.mp hu
    obtain rfl := Option.some.inj hk
    exact Store.owns_of_child hmem hfam
      (congrArg Scope.child (Sum.inl.inj (Option.some.inj hxk)))

theorem ChildService.local_update (childId : UUID) (body : ChildUpdate) :
    Local f d e (update env f childId body) :=
  (sees_require h childId).bind (fun _ hc => h.local_update (T := .childProfile) hc.1
    (congrArg some hc.2.2) (fun _ _ hr => ChildProfile.applyChanges_sameKeys hr))

theorem ChildService.local_delete (childId : UUID) : Local f d e (delete f childId) :=
  (sees_require h childId).bind (fun _ hc => h.paired_delete (T := .childProfile) hc.1
    (congrArg some hc.2.2))

variable {c : ChildProfile}

/-- The reading profile of a child of the family. -/
theorem ChildService.sees_readingProfile (hc : c ∈ d.children) (hf : c.familyId = f) :
    Sees d e (ChildReadingProfileRepository.getByChild c.id)
      (fun o => ∀ r ∈ o, r ∈ d.readingProfiles ∧ r.childId = c.id) := by
  rw [ChildReadingProfileRepository.getByChild_eq_read]
  refine Sees.read (h.find (T := .childReadingProfile) (fun r _ hr => ?_)).symm (fun r hr => ?_)
  · exact Store.owns_of_child hc hf (congrArg Scope.child (of_decide_eq_true hr))
  · exact ⟨List.mem_of_find?_eq_some hr, by simpa using List.find?_some hr⟩

/-- An entry of a child of the family. -/
theorem ChildService.sees_requireEntry (hc : c ∈ d.children) (hf : c.familyId = f)
    (entryId : UUID) : Sees d e (requireEntry c.id entryId)
      (fun r => r ∈ d.readingHistory ∧ Owns d.rows f .readingHistory r) := by
  have hown : ∀ r ∈ d.readingHistory, (r.id = entryId && r.childId = c.id) = true →
      Owns d.rows f .readingHistory r := fun r _ hr =>
    Store.owns_of_child hc hf
      (congrArg Scope.child (by simpa using (Bool.and_eq_true_iff.mp hr).2))
  exact (h.sees_required (T := .readingHistory) hown
    (ReadingHistory.atMostOne entryId c.id) .notFound).mono
    (fun r _ _ _ hs => ⟨hs.1, hs.2.1, hs.2.2.1, hown r hs.2.2.1 hs.2.2.2⟩)

theorem ChildService.sees_getReadingProfile (childId : UUID) :
    Sees d e (getReadingProfile f childId) (fun _ => True) := by
  refine (sees_require h childId).bind (fun c hc => ?_)
  obtain ⟨hmem, rfl, hf⟩ := hc
  exact (sees_readingProfile h hmem hf).bind (fun _ _ => Sees.orRaise _ (fun _ _ => trivial))

theorem ChildService.local_upsertReadingProfile (hf : env.Fresh P d) (childId : UUID)
    (body : ReadingProfileUpsert) : Local f d e (upsertReadingProfile env f childId body) := by
  refine (sees_require h childId).bind (fun c hc => ?_)
  obtain ⟨hmem, rfl, hfam⟩ := hc
  refine (sees_readingProfile h hmem hfam).bind (fun o ho => ?_)
  cases o with
  | none =>
    refine h.local_add (T := .childReadingProfile) (Store.owns_of_child hmem hfam rfl) (hf.id _)
      (fun u hu k hk x _ hxk => ?_) (fun _ hp => by cases hp)
    obtain rfl := List.mem_singleton.mp hu
    obtain rfl := Option.some.inj hk
    exact Store.owns_of_child hmem hfam
      (congrArg Scope.child (Sum.inl.inj (Option.some.inj hxk)))
  | some profile =>
    obtain ⟨hp, hid⟩ := ho profile rfl
    exact h.local_update (T := .childReadingProfile) hp
      (Store.owns_of_child hmem hfam (congrArg Scope.child hid))
      (fun _ _ hr => ChildReadingProfile.applyChanges_sameKeys hr)

theorem ChildService.sees_listReadingHistory (childId : UUID) :
    Sees d e (listReadingHistory f childId) (fun _ => True) := by
  refine (sees_require h childId).bind (fun c hc => ?_)
  obtain ⟨hmem, rfl, hfam⟩ := hc
  exact (h.sees_sorted (T := .readingHistory) (fun r _ hr => Store.owns_of_child hmem hfam
    (congrArg Scope.child (of_decide_eq_true hr))) _).mono
    (fun _ _ _ _ hs => ⟨hs.1, hs.2.1, trivial⟩)

theorem ChildService.local_addReadingHistory (hf : env.Fresh P d) (childId : UUID)
    (body : ReadingHistoryCreate) : Local f d e (addReadingHistory env f childId body) := by
  refine (sees_require h childId).bind (fun c hc => ?_)
  obtain ⟨hmem, rfl, hfam⟩ := hc
  exact h.local_add (T := .readingHistory) (Store.owns_of_child hmem hfam rfl) (hf.id _)
    (fun u hu => absurd hu List.not_mem_nil) (fun _ hp => by cases hp)

theorem ChildService.local_updateReadingHistory (childId entryId : UUID)
    (body : ReadingHistoryUpdate) :
    Local f d e (updateReadingHistory env f childId entryId body) := by
  refine (sees_require h childId).bind (fun c hc => ?_)
  obtain ⟨hmem, rfl, hfam⟩ := hc
  exact (sees_requireEntry h hmem hfam entryId).bind (fun _ hr =>
    h.local_update (T := .readingHistory) hr.1 hr.2
      (fun _ _ hw => ReadingHistory.applyChanges_sameKeys hw))

theorem ChildService.local_deleteReadingHistory (childId entryId : UUID) :
    Local f d e (deleteReadingHistory f childId entryId) := by
  refine (sees_require h childId).bind (fun c hc => ?_)
  obtain ⟨hmem, rfl, hfam⟩ := hc
  exact (sees_requireEntry h hmem hfam entryId).bind (fun _ hr =>
    h.paired_delete (T := .readingHistory) hr.1 hr.2)

end Children

/-! ## Policies -/

section Policies

variable (h : Restricts f d e)
include h

theorem PolicyService.sees_list : Sees d e (list f) (fun _ => True) :=
  (h.sees_sorted (T := .familyReadingPolicy)
    (fun _ _ hr => congrArg some (by simp at hr; exact hr.1)) _).mono
    (fun _ _ _ _ hs => ⟨hs.1, hs.2.1, trivial⟩)

/-- A policy of the family. -/
theorem PolicyService.sees_require (policyId : UUID) : Sees d e (require f policyId)
    (fun r => r ∈ d.policies ∧ r.familyId = f) :=
  (h.sees_required (T := .familyReadingPolicy)
    (fun _ _ hr => congrArg some (by simpa using (Bool.and_eq_true_iff.mp hr).2))
    (FamilyReadingPolicy.atMostOne policyId f) .notFound).mono
    (fun _ _ _ _ hs => ⟨hs.1, hs.2.1, hs.2.2.1, (by simpa using hs.2.2.2 : _ ∧ _).2⟩)

/-- The child of a policy is a child of the family. -/
theorem PolicyService.sees_resolveChild (childId : Option String) :
    Sees d e (resolveChild childId f)
      (fun c => ∀ id ∈ c, ∃ r ∈ d.children, r.id = id ∧ r.familyId = f) := by
  cases childId with
  | none => exact Sees.pure (by simp)
  | some text =>
    refine Sees.bind (Sees.orRaise (Q := fun _ => True) _ (fun _ _ => trivial)) (fun u _ => ?_)
    rw [← bind_assoc]
    refine (ChildService.sees_require h u).bind (fun c hc => Sees.pure ?_)
    simp only [Option.mem_some_iff, forall_eq']
    exact ⟨c, hc⟩

theorem PolicyService.local_create (hf : env.Fresh P d) (body : PolicyCreate) :
    Local f d e (create env f body) := by
  refine (sees_resolveChild h body.childId).bind (fun c hc => ?_)
  have hown : Owns d.rows f .familyReadingPolicy (newPolicy env f c body) := rfl
  refine h.local_add hown (hf.id _) (fun u hu => absurd hu List.not_mem_nil)
    (fun p hp k hk y hy hyk => ?_)
  obtain rfl := List.mem_singleton.mp hp
  obtain ⟨r, hr, hid, hfam⟩ := hc k hk
  obtain rfl : y = r := d.consistent.eq_of_id (T := .childProfile) hy hr (hyk.trans hid.symm)
  exact congrArg some hfam

theorem PolicyService.local_update (policyId : UUID) (body : PolicyUpdate) :
    Local f d e (update env f policyId body) :=
  (sees_require h policyId).bind (fun _ hr => h.local_update (T := .familyReadingPolicy) hr.1
    (congrArg some hr.2) (fun _ _ hw => FamilyReadingPolicy.applyChanges_sameKeys hw))

theorem PolicyService.local_delete (policyId : UUID) : Local f d e (delete f policyId) :=
  (sees_require h policyId).bind (fun _ hr => h.paired_delete (T := .familyReadingPolicy) hr.1
    (congrArg some hr.2))

end Policies

/-! ## The context bundle -/

namespace FamilyContextLoader

variable (h : Restricts f d e)
include h

/-- A member of the family is serialized alike. -/
theorem serializeMember_local {m : FamilyMember} (hm : m ∈ d.members) (hf : m.familyId = f) :
    serializeMember env d m = serializeMember env e m :=
  congrArg (MemberContext.mk _ · _) (h.find (T := .familyMemberProfile) (fun _ _ hr =>
    Store.owns_of_member hm hf (congrArg Scope.member (of_decide_eq_true hr)))).symm

/-- So is a child of it. -/
theorem serializeChild_local {c : ChildProfile} (hc : c ∈ d.children) (hf : c.familyId = f) :
    serializeChild env d c = serializeChild env e c :=
  congrArg (ChildContext.mk _ · _) (h.find (T := .childReadingProfile) (fun _ _ hr =>
    Store.owns_of_child hc hf (congrArg Scope.child (of_decide_eq_true hr)))).symm

theorem sees_load : Sees d e (load env f) (fun _ => True) := by
  rw [load, FamilyRepository.get_eq_read]
  refine Sees.bind (Sees.read (Q := fun _ => True) (h.find (T := .family)
    (fun _ _ hr => congrArg some (of_decide_eq_true hr))).symm trivial) (fun o _ => ?_)
  cases o with
  | none => exact Sees.pure trivial
  | some family =>
    refine (MemberService.sees_members h).bind (fun members hmembers => ?_)
    refine Sees.bind (Sees.read (Q := fun _ => True) (List.map_congr_left (fun m hm => ?_)) trivial)
      (fun _ _ => ?_)
    · exact serializeMember_local h (hmembers m hm).1 (hmembers m hm).2
    refine (ChildService.sees_list h).bind (fun children hchildren => ?_)
    refine Sees.bind (Sees.read (Q := fun _ => True)
      (congrArg Dict.ofList (List.map_congr_left (fun c hc => ?_))) trivial) (fun _ _ => ?_)
    · rw [serializeChild_local h (hchildren c hc).1 (hchildren c hc).2]
    exact (PolicyService.sees_list h).bind (fun _ _ => Sees.pure trivial)

end FamilyContextLoader

/-! ## Every operation that is not split -/

/-- **Every operation scoped to the family is local to it**, of those that
run in one step. -/
theorem FamilyOp.local {op : FamilyOp} (h : Restricts f d e) (hf : env.Fresh P d)
    (hby : op.ByMember f d) (hone : op.oneStep = true) : Local f d e (op.run P env f) := by
  cases op with
  | getFamily => exact ((FamilyService.sees_get h).local h).map _
  | updateFamily body => exact (FamilyService.local_update h body).map _
  | listMembers =>
    exact (((MemberService.sees_members h).local h).map (List.map FamilyMember.dump)).map _
  | createMember body => cases hone
  | getMember memberId =>
    exact (((MemberService.sees_require h memberId).local h).map FamilyMember.dump).map _
  | updateMember memberId body => exact (MemberService.local_update h memberId body).map _
  | deleteMember memberId => exact (MemberService.local_delete h memberId).map _
  | getProfile memberId => exact ((MemberService.sees_getProfile h memberId).local h).map _
  | upsertProfile memberId body => cases hone
  | createInvite createdBy body => exact (InviteService.local_create h hf hby body).map _
  | listInvites => exact ((InviteService.sees_list h).local h).map _
  | revokeInvite inviteId => cases hone
  | listChildren => exact ((ChildService.sees_list h).local h).map _
  | createChild body => exact (ChildService.local_create h hf body).map _
  | getChild childId => exact ((ChildService.sees_require h childId).local h).map _
  | updateChild childId body => exact (ChildService.local_update h childId body).map _
  | deleteChild childId => exact (ChildService.local_delete h childId).map _
  | getReadingProfile childId =>
    exact ((ChildService.sees_getReadingProfile h childId).local h).map _
  | upsertReadingProfile childId body =>
    exact (ChildService.local_upsertReadingProfile h hf childId body).map _
  | listReadingHistory childId =>
    exact ((ChildService.sees_listReadingHistory h childId).local h).map _
  | addReadingHistory childId body =>
    exact (ChildService.local_addReadingHistory h hf childId body).map _
  | updateReadingHistory childId entryId body =>
    exact (ChildService.local_updateReadingHistory h childId entryId body).map _
  | deleteReadingHistory childId entryId =>
    exact (ChildService.local_deleteReadingHistory h childId entryId).map _
  | listPolicies => exact ((PolicyService.sees_list h).local h).map _
  | createPolicy body => exact (PolicyService.local_create h hf body).map _
  | updatePolicy policyId body => exact (PolicyService.local_update h policyId body).map _
  | deletePolicy policyId => exact (PolicyService.local_delete h policyId).map _
  | context => exact ((FamilyContextLoader.sees_load h).local h).map _
