import Accounts.Table
import Mathlib.Data.Fintype.Defs
import Mathlib.Logic.Function.Basic

/-!
# Stores that keep the constraints of a schema

A schema names, for every table, the primary key, the unique columns and
the foreign keys of its rows. A `Store` is a family of tables together
with the proof that it meets the schema, so an inconsistent one cannot be
built; a statement is executed by computing the tables it asks for and
refusing them when they break a constraint – the check a database does at
the end of each statement.

The index of tables is an arbitrary type and every table has its own type
of rows. So each of the three kinds of statements is treated once for all
tables: when an insert is accepted (`consistent_insert_iff`), that a
replacement which keeps the constrained columns always is
(`Consistent.replace`), and when a delete is accepted
(`consistent_delete_iff`).
-/

/-- **A schema** over tables `ι` with rows `Row`: primary keys in `κ`,
unique columns with values in `υ`. -/
structure Schema (ι : Type) (Row : ι → Type) (κ υ : Type) where
  /-- The primary key. -/
  id : (T : ι) → Row T → κ
  /-- The unique columns. -/
  uniques : (T : ι) → List (Row T → Option υ)
  /-- The foreign keys, each with the table it refers to. -/
  references : (T : ι) → List (ι × (Row T → Option κ))
  /-- No table refers to itself. -/
  hierarchical : ∀ T, ∀ p ∈ references T, p.1 ≠ T

namespace Schema

variable {ι : Type} {Row : ι → Type} {κ υ : Type}

/-- **The tables meet the schema.** -/
structure Consistent (S : Schema ι Row κ υ) (t : (T : ι) → List (Row T)) : Prop where
  /-- Primary keys are unique. -/
  key : ∀ T, Table.Unique (fun r => some (S.id T r)) (t T)
  /-- Unique columns are. -/
  unique : ∀ T, ∀ u ∈ S.uniques T, Table.Unique u (t T)
  /-- Foreign keys refer to rows that are there. -/
  reference : ∀ T, ∀ p ∈ S.references T, Table.References p.2 (t T) (S.id p.1) (t p.1)

instance decidableConsistent [Fintype ι] [DecidableEq κ] [DecidableEq υ]
    (S : Schema ι Row κ υ) (t : (T : ι) → List (Row T)) : Decidable (S.Consistent t) :=
  decidable_of_iff
    ((∀ T, Table.Unique (fun r => some (S.id T r)) (t T))
      ∧ (∀ T, ∀ u ∈ S.uniques T, Table.Unique u (t T))
      ∧ ∀ T, ∀ p ∈ S.references T, Table.References p.2 (t T) (S.id p.1) (t p.1))
    ⟨fun ⟨hk, hu, hr⟩ => ⟨hk, hu, hr⟩, fun h => ⟨h.key, h.unique, h.reference⟩⟩

/-! ## Statements -/

section Statements

variable [DecidableEq ι] [DecidableEq κ] (S : Schema ι Row κ υ) (T : ι)

/-- `INSERT INTO T`. -/
def insert (r : Row T) (t : (T : ι) → List (Row T)) : (T : ι) → List (Row T) :=
  Function.update t T (Table.insert (t T) r)

/-- `UPDATE T … WHERE id = …`. -/
def replace (r : Row T) (t : (T : ι) → List (Row T)) : (T : ι) → List (Row T) :=
  Function.update t T (Table.replace (S.id T) r (t T))

/-- `DELETE FROM T WHERE p`. -/
def discard (p : Row T → Bool) (t : (T : ι) → List (Row T)) : (T : ι) → List (Row T) :=
  Function.update t T ((t T).filter (fun r => !p r))

/-- `DELETE FROM T WHERE id = k`. -/
def delete (k : κ) (t : (T : ι) → List (Row T)) : (T : ι) → List (Row T) :=
  Function.update t T (Table.delete (S.id T) k (t T))

end Statements

section Tables

variable [DecidableEq ι] {T T' : ι} {t : (T : ι) → List (Row T)}

@[simp] theorem insert_self {r : Row T} : insert T r t T = Table.insert (t T) r :=
  Function.update_self ..

theorem insert_of_ne {r : Row T} (h : T' ≠ T) : insert T r t T' = t T' :=
  Function.update_of_ne h ..

@[simp] theorem discard_self {p : Row T → Bool} :
    discard T p t T = (t T).filter (fun r => !p r) :=
  Function.update_self ..

theorem discard_of_ne {p : Row T → Bool} (h : T' ≠ T) : discard T p t T' = t T' :=
  Function.update_of_ne h ..

/-- What was there is there after an insert. -/
theorem mem_insert_of_mem {r : Row T} {x : Row T'} (hx : x ∈ t T') : x ∈ insert T r t T' := by
  by_cases hT : T' = T
  · subst hT
    rw [insert_self]
    exact Table.mem_insert.mpr (Or.inl hx)
  · rwa [insert_of_ne hT]

/-- What is there after rows were dropped was there. -/
theorem mem_of_mem_discard {p : Row T → Bool} {x : Row T'} (hx : x ∈ discard T p t T') :
    x ∈ t T' := by
  by_cases hT : T' = T
  · subst hT
    rw [discard_self] at hx
    exact List.mem_of_mem_filter hx
  · rwa [discard_of_ne hT] at hx

variable [DecidableEq κ] {S : Schema ι Row κ υ}

@[simp] theorem replace_self {r : Row T} :
    S.replace T r t T = Table.replace (S.id T) r (t T) :=
  Function.update_self ..

theorem replace_of_ne {r : Row T} (h : T' ≠ T) : S.replace T r t T' = t T' :=
  Function.update_of_ne h ..

/-- Of two replacements of a row the later one counts. -/
theorem replace_replace {r r' : Row T} (h : S.id T r' = S.id T r) :
    S.replace T r' (S.replace T r t) = S.replace T r' t := by
  unfold replace
  rw [Function.update_self, Function.update_idem, Table.replace_replace h]

@[simp] theorem delete_self {k : κ} : S.delete T k t T = Table.delete (S.id T) k (t T) :=
  Function.update_self ..

theorem delete_of_ne {k : κ} (h : T' ≠ T) : S.delete T k t T' = t T' :=
  Function.update_of_ne h ..

/-- What is there after a delete was there. -/
theorem mem_of_mem_delete {k : κ} {x : Row T'} (hx : x ∈ S.delete T k t T') : x ∈ t T' := by
  by_cases hT : T' = T
  · subst hT
    rw [delete_self] at hx
    exact (Table.mem_delete.mp hx).1
  · rwa [delete_of_ne hT] at hx

end Tables

/-! ## When a statement is accepted -/

section Accepted

variable {S : Schema ι Row κ υ} {T : ι} {t : (T : ι) → List (Row T)}

/-- **Rows with the same primary key are the same row.** -/
theorem Consistent.eq_of_id (h : S.Consistent t) {x y : Row T} (hx : x ∈ t T) (hy : y ∈ t T)
    (hid : S.id T x = S.id T y) : x = y :=
  (h.key T).eq hx hy rfl (congrArg some hid.symm)

variable [DecidableEq ι]

/-- **An insert is accepted exactly when its keys are unused and its
references are there.** -/
theorem consistent_insert_iff (h : S.Consistent t) {r : Row T} :
    S.Consistent (insert T r t) ↔
      (∀ x ∈ t T, S.id T x ≠ S.id T r)
      ∧ (∀ u ∈ S.uniques T, ∀ k ∈ u r, ∀ x ∈ t T, u x ≠ some k)
      ∧ ∀ p ∈ S.references T, ∀ k ∈ p.2 r, k ∈ (t p.1).map (S.id p.1) := by
  constructor
  · intro h'
    refine ⟨fun x hx hid => ?_, fun u hu => ?_, fun p hp => ?_⟩
    · have := h'.key T
      rw [insert_self, Table.unique_insert_iff] at this
      exact this.2 _ rfl x hx (congrArg some hid)
    · have := h'.unique T u hu
      rw [insert_self, Table.unique_insert_iff] at this
      exact this.2
    · have := h'.reference T p hp
      rw [insert_self, insert_of_ne (S.hierarchical T p hp), Table.references_insert_iff] at this
      exact this.2
  · rintro ⟨hk, hu, hr⟩
    refine ⟨fun T' => ?_, fun T' u hu' => ?_, fun T' p hp => ?_⟩
    · by_cases hT : T' = T
      · subst hT
        rw [insert_self, Table.unique_insert_iff]
        refine ⟨h.key T', fun k hk' x hx hxk => hk x hx ?_⟩
        rw [Option.mem_some_iff.mp hk']
        exact Option.some.inj hxk
      · rw [insert_of_ne hT]
        exact h.key T'
    · by_cases hT : T' = T
      · subst hT
        rw [insert_self, Table.unique_insert_iff]
        exact ⟨h.unique T' u hu', hu u hu'⟩
      · rw [insert_of_ne hT]
        exact h.unique T' u hu'
    · have htarget : Table.References p.2 (t T') (S.id p.1) (insert T r t p.1) := by
        by_cases hp1 : p.1 = T
        · obtain ⟨T₁, fk⟩ := p
          obtain rfl : T₁ = T := hp1
          rw [insert_self]
          exact (h.reference T' _ hp).insert_target r
        · rw [insert_of_ne hp1]
          exact h.reference T' p hp
      by_cases hT : T' = T
      · subst hT
        rw [insert_self, Table.references_insert_iff, insert_of_ne (S.hierarchical T' p hp)]
        exact ⟨h.reference T' p hp, hr p hp⟩
      · rw [insert_of_ne hT]
        exact htarget

/-- Dropping rows of a table nothing refers to is always accepted. -/
theorem Consistent.discard (h : S.Consistent t)
    (hno : ∀ T', ∀ p ∈ S.references T', p.1 ≠ T) (q : Row T → Bool) :
    S.Consistent (discard T q t) := by
  refine ⟨fun T' => ?_, fun T' u hu => ?_, fun T' p hp => ?_⟩
  · by_cases hT : T' = T
    · subst hT
      rw [discard_self]
      exact (h.key T').filter _
    · rw [discard_of_ne hT]
      exact h.key T'
  · by_cases hT : T' = T
    · subst hT
      rw [discard_self]
      exact (h.unique T' u hu).filter _
    · rw [discard_of_ne hT]
      exact h.unique T' u hu
  · rw [discard_of_ne (hno T' p hp)]
    by_cases hT : T' = T
    · subst hT
      rw [discard_self]
      exact (h.reference T' p hp).filter _
    · rw [discard_of_ne hT]
      exact h.reference T' p hp

/-- The rows agree on the columns the schema constrains. -/
structure SameKeys (S : Schema ι Row κ υ) (T : ι) (r old : Row T) : Prop where
  /-- On the primary key. -/
  id : S.id T r = S.id T old
  /-- On the unique columns. -/
  unique : ∀ u ∈ S.uniques T, u r = u old
  /-- On the foreign keys. -/
  reference : ∀ p ∈ S.references T, p.2 r = p.2 old

namespace SameKeys

variable {S : Schema ι Row κ υ} {T : ι} {r r' r'' : Row T}

omit [DecidableEq ι] in
theorem trans (h : S.SameKeys T r r') (h' : S.SameKeys T r' r'') : S.SameKeys T r r'' :=
  ⟨h.id.trans h'.id, fun u hu => (h.unique u hu).trans (h'.unique u hu),
    fun p hp => (h.reference p hp).trans (h'.reference p hp)⟩

end SameKeys

variable [DecidableEq κ]

/-- **An update that keeps the constrained columns of a row is always
accepted.** -/
theorem Consistent.replace (h : S.Consistent t) {r old : Row T} (hold : old ∈ t T)
    (hr : S.SameKeys T r old) : S.Consistent (S.replace T r t) := by
  -- the row that is replaced can only be `old`
  have hat : ∀ x ∈ t T, S.id T x = S.id T r → x = old :=
    fun x hx hid => h.eq_of_id hx hold (hid.trans hr.id)
  refine ⟨fun T' => ?_, fun T' u hu => ?_, fun T' p hp => ?_⟩
  · by_cases hT : T' = T
    · subst hT
      rw [replace_self]
      exact (h.key T').replace (fun x hx hid => congrArg some hid.symm)
    · rw [replace_of_ne hT]
      exact h.key T'
  · by_cases hT : T' = T
    · subst hT
      rw [replace_self]
      exact (h.unique T' u hu).replace (fun x hx hid => by rw [hat x hx hid, hr.unique u hu])
    · rw [replace_of_ne hT]
      exact h.unique T' u hu
  · have htarget : Table.References p.2 (t T') (S.id p.1) (S.replace T r t p.1) := by
      by_cases hp1 : p.1 = T
      · obtain ⟨T₁, fk⟩ := p
        obtain rfl : T₁ = T := hp1
        rw [replace_self]
        exact (h.reference T' _ hp).replace_target (fun x _ hid => hid.symm)
      · rw [replace_of_ne hp1]
        exact h.reference T' p hp
    by_cases hT : T' = T
    · subst hT
      rw [replace_self]
      exact htarget.replace (fun x hx hid => by rw [hat x hx hid, hr.reference p hp])
    · rw [replace_of_ne hT]
      exact htarget

/-- **A delete is accepted exactly when no row refers to what it
deletes.** -/
theorem consistent_delete_iff (h : S.Consistent t) {k : κ} :
    S.Consistent (S.delete T k t) ↔
      ∀ T', ∀ p ∈ S.references T', p.1 = T → ∀ x ∈ t T', p.2 x ≠ some k := by
  constructor
  · intro h' T' p hp hp1
    have := h'.reference T' p hp
    obtain ⟨T₁, fk⟩ := p
    obtain rfl : T₁ = T := hp1
    rw [delete_self, delete_of_ne (S.hierarchical T' _ hp).symm] at this
    exact (Table.references_delete_target_iff (h.reference T' _ hp)).mp this
  · intro hno
    refine ⟨fun T' => ?_, fun T' u hu => ?_, fun T' p hp => ?_⟩
    · by_cases hT : T' = T
      · subst hT
        rw [delete_self]
        exact (h.key T').delete
      · rw [delete_of_ne hT]
        exact h.key T'
    · by_cases hT : T' = T
      · subst hT
        rw [delete_self]
        exact (h.unique T' u hu).delete
      · rw [delete_of_ne hT]
        exact h.unique T' u hu
    · have htarget : Table.References p.2 (t T') (S.id p.1) (S.delete T k t p.1) := by
        by_cases hp1 : p.1 = T
        · have := hno T' p hp hp1
          obtain ⟨T₁, fk⟩ := p
          obtain rfl : T₁ = T := hp1
          rw [delete_self]
          exact (Table.references_delete_target_iff (h.reference T' _ hp)).mpr this
        · rw [delete_of_ne hp1]
          exact h.reference T' p hp
      by_cases hT : T' = T
      · subst hT
        rw [delete_self]
        exact htarget.delete
      · rw [delete_of_ne hT]
        exact htarget

end Accepted

end Schema

/-! ## Stores -/

/-- **A store**: tables that meet the schema. -/
structure Store {ι : Type} {Row : ι → Type} {κ υ : Type} (S : Schema ι Row κ υ) where
  /-- The rows of each table, in the order they were inserted. -/
  rows : (T : ι) → List (Row T)
  /-- The tables meet the schema. -/
  consistent : S.Consistent rows

namespace Store

variable {ι : Type} {Row : ι → Type} {κ υ : Type} {S : Schema ι Row κ υ}

@[ext] theorem ext {d d' : Store S} (h : ∀ T, d.rows T = d'.rows T) : d = d' := by
  cases d
  cases d'
  congr
  exact funext h

/-- No rows. -/
def empty (S : Schema ι Row κ υ) : Store S :=
  ⟨fun _ => [], ⟨fun _ => List.nodup_nil, fun _ _ _ => List.nodup_nil, fun _ _ _ => by
    intro r hr
    exact absurd hr List.not_mem_nil⟩⟩

section Execute

variable [Fintype ι] [DecidableEq κ] [DecidableEq υ]

/-- **Execute a statement**: the tables it asks for, unless they break a
constraint. -/
def execute (f : ((T : ι) → List (Row T)) → (T : ι) → List (Row T)) (d : Store S) :
    Option (Store S) :=
  if h : S.Consistent (f d.rows) then some ⟨f d.rows, h⟩ else none

theorem execute_eq_some_iff {f : ((T : ι) → List (Row T)) → (T : ι) → List (Row T)}
    {d d' : Store S} : execute f d = some d' ↔ d'.rows = f d.rows := by
  unfold execute
  constructor
  · intro h
    split at h
    · cases h
      rfl
    · exact absurd h (by simp)
  · intro h
    rw [dif_pos (h ▸ d'.consistent)]
    exact congrArg some (Store.ext (fun T => (congrFun h T).symm))

theorem execute_eq_none_iff {f : ((T : ι) → List (Row T)) → (T : ι) → List (Row T)}
    {d : Store S} : execute f d = none ↔ ¬ S.Consistent (f d.rows) := by
  unfold execute
  split
  · next h => simp [h]
  · next h => simp [h]

end Execute

/-- The row with a primary key. -/
def find [DecidableEq κ] (d : Store S) (T : ι) (k : κ) : Option (Row T) :=
  (d.rows T).find? (fun r => S.id T r = k)

theorem find_eq_some_iff [DecidableEq κ] {d : Store S} {T : ι} {k : κ} {r : Row T} :
    d.find T k = some r ↔ r ∈ d.rows T ∧ S.id T r = k :=
  (d.consistent.key T).find?_eq_some_iff

/-- The rows of a table do not repeat. -/
theorem nodup (d : Store S) (T : ι) : (d.rows T).Nodup :=
  Table.Unique.nodup (d.consistent.key T)

/-! ### Looking up after a write -/

section Find

variable [DecidableEq κ] {d d' : Store S} {T : ι} {k : κ}

/-- An inserted row is found, and the others as before. -/
theorem find_insert {a : Row T} (h : d'.rows T = Table.insert (d.rows T) a) :
    d'.find T k = if S.id T a = k then some a else d.find T k := by
  ext r
  split
  · next hk =>
    rw [Option.some.injEq, find_eq_some_iff]
    have ha : d'.find T k = some a :=
      find_eq_some_iff.mpr ⟨h ▸ Table.mem_insert.mpr (Or.inr rfl), hk⟩
    exact ⟨fun hr => Option.some.inj (ha.symm.trans (find_eq_some_iff.mpr hr)),
      fun hr => hr ▸ find_eq_some_iff.mp ha⟩
  · next hk =>
    rw [find_eq_some_iff, find_eq_some_iff, h, Table.mem_insert]
    exact ⟨fun ⟨hr, hid⟩ => ⟨hr.resolve_right (fun hra => hk (hra ▸ hid)), hid⟩,
      fun ⟨hr, hid⟩ => ⟨Or.inl hr, hid⟩⟩

/-- A row that replaces another is found, and the others as before. -/
theorem find_replace {a old : Row T} (hold : old ∈ d.rows T) (hid : S.id T old = S.id T a)
    (h : d'.rows T = Table.replace (S.id T) a (d.rows T)) :
    d'.find T k = if S.id T a = k then some a else d.find T k := by
  ext r
  split
  · next hk =>
    rw [Option.some.injEq, find_eq_some_iff]
    have ha : d'.find T k = some a :=
      find_eq_some_iff.mpr ⟨h ▸ Table.mem_replace.mpr (Or.inl ⟨rfl, old, hold, hid⟩), hk⟩
    exact ⟨fun hr => Option.some.inj (ha.symm.trans (find_eq_some_iff.mpr hr)),
      fun hr => hr ▸ find_eq_some_iff.mp ha⟩
  · next hk =>
    rw [find_eq_some_iff, find_eq_some_iff, h, Table.mem_replace]
    constructor
    · rintro ⟨⟨rfl, -⟩ | ⟨hr, -⟩, hrk⟩
      · exact absurd hrk hk
      · exact ⟨hr, hrk⟩
    · exact fun ⟨hr, hrk⟩ => ⟨Or.inr ⟨hr, fun heq => hk (heq.symm.trans hrk)⟩, hrk⟩

/-- A deleted row is not found, and the others as before. -/
theorem find_delete {k' : κ} (h : d'.rows T = Table.delete (S.id T) k' (d.rows T)) :
    d'.find T k = if k' = k then none else d.find T k := by
  ext r
  rw [find_eq_some_iff, h, Table.mem_delete]
  split
  · next hk => exact ⟨fun ⟨⟨_, hne⟩, hid⟩ => absurd (hid.trans hk.symm) hne, fun hr => by cases hr⟩
  · next hk =>
    rw [find_eq_some_iff]
    exact ⟨fun ⟨⟨hr, _⟩, hid⟩ => ⟨hr, hid⟩,
      fun ⟨hr, hid⟩ => ⟨⟨hr, fun heq => hk (heq.symm.trans hid)⟩, hid⟩⟩

end Find

end Store

/-! ## Writes by key -/

/-- **A write by key.** -/
inductive Write (κ α : Type) where
  /-- The value of a key is set. -/
  | put (k : κ) (v : α)
  /-- The key has no value any more. -/
  | remove (k : κ)

namespace Write

variable {κ α : Type} [DecidableEq κ]

/-- What a key has after a write. -/
def apply (m : κ → Option α) : Write κ α → κ → Option α
  | put k v, k' => if k = k' then some v else m k'
  | remove k, k' => if k = k' then none else m k'

/-- **What a key has after writes**: what the last write about it says. -/
def last (ws : List (Write κ α)) : κ → Option α := ws.foldl apply (fun _ => none)

@[simp] theorem last_nil (k : κ) : last ([] : List (Write κ α)) k = none := rfl

@[simp] theorem last_concat (ws : List (Write κ α)) (w : Write κ α) (k : κ) :
    last (ws ++ [w]) k = apply (last ws) w k := by
  rw [last, List.foldl_append]
  rfl

end Write
