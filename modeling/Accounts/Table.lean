import Mathlib.Data.List.Nodup
import Mathlib.Data.List.Basic

/-!
# Tables as lists of rows

A relational table is the list of its rows in the order they were
inserted. A statement rewrites the list: an insert appends one row, an
update replaces the row it addresses in place, a delete drops it. The
declared constraints of a schema are then properties of the lists –
a column (or a nullable column) is *unique*, a column *references* the
key of another table.

Everything here is about arbitrary rows and arbitrary keys. A key is
read through `α → Option κ`, so that one notion covers a column that is
`NOT NULL` (the key is always `some`) and a nullable one, whose `NULL`s
neither clash with each other nor refer to anything.

The lemmas say when each kind of statement keeps each kind of
constraint. They are stated so that a statement never has to be unfolded:
a replacement that keeps a key leaves the list of keys as it was
(`map_replace`), and a constraint only reads the list of keys.
-/

namespace Table

variable {α β κ : Type}

/-! ## Statements -/

/-- `INSERT`: the new row goes to the end. -/
def insert (rows : List α) (r : α) : List α := rows ++ [r]

/-- `UPDATE … WHERE key = …`: the row with the key of `r` is replaced by
`r`, in place. -/
def replace [DecidableEq κ] (key : α → κ) (r : α) (rows : List α) : List α :=
  rows.map (fun x => if key x = key r then r else x)

/-- `DELETE … WHERE key = k`. -/
def delete [DecidableEq κ] (key : α → κ) (k : κ) (rows : List α) : List α :=
  rows.filter (fun r => key r ≠ k)

/-! ## Constraints -/

/-- **A unique column**: no two rows carry the same non-null key. -/
def Unique (key : α → Option κ) (rows : List α) : Prop :=
  (rows.filterMap key).Nodup

/-- **A foreign key**: every non-null reference names the key of a row of
the referenced table. -/
def References (fk : α → Option κ) (rows : List α) (pk : β → κ) (targets : List β) : Prop :=
  ∀ r ∈ rows, ∀ k ∈ fk r, k ∈ targets.map pk

instance [DecidableEq κ] (key : α → Option κ) (rows : List α) : Decidable (Unique key rows) :=
  inferInstanceAs (Decidable (List.Nodup _))

instance [DecidableEq κ] (fk : α → Option κ) (rows : List α) (pk : β → κ)
    (targets : List β) : Decidable (References fk rows pk targets) :=
  inferInstanceAs (Decidable (∀ r ∈ rows, ∀ k ∈ fk r, k ∈ targets.map pk))

/-! ## Membership -/

@[simp] theorem mem_insert {rows : List α} {r x : α} :
    x ∈ insert rows r ↔ x ∈ rows ∨ x = r := by
  simp [insert]

@[simp] theorem mem_delete [DecidableEq κ] {key : α → κ} {k : κ} {rows : List α} {x : α} :
    x ∈ delete key k rows ↔ x ∈ rows ∧ key x ≠ k := by
  simp [delete]

/-- **The rows after a replacement**: the new row where there was one to
replace, and the rows with another key. -/
theorem mem_replace [DecidableEq κ] {key : α → κ} {r x : α} {rows : List α} :
    x ∈ replace key r rows ↔
      (x = r ∧ ∃ y ∈ rows, key y = key r) ∨ (x ∈ rows ∧ key x ≠ key r) := by
  rw [replace, List.mem_map]
  constructor
  · rintro ⟨y, hy, rfl⟩
    by_cases h : key y = key r
    · exact Or.inl ⟨if_pos h, y, hy, h⟩
    · rw [if_neg h]
      exact Or.inr ⟨hy, h⟩
  · rintro (⟨rfl, y, hy, h⟩ | ⟨hx, h⟩)
    · exact ⟨y, hy, if_pos h⟩
    · exact ⟨x, hx, if_neg h⟩

/-! ## What a statement does to a column -/

@[simp] theorem map_insert {γ : Type} (g : α → γ) (rows : List α) (r : α) :
    (insert rows r).map g = rows.map g ++ [g r] := by
  simp [insert]

/-- **A replacement that keeps a column leaves the column as it was.** -/
theorem map_replace {γ : Type} [DecidableEq κ] {key : α → κ} {r : α} {g : α → γ}
    {rows : List α} (h : ∀ x ∈ rows, key x = key r → g r = g x) :
    (replace key r rows).map g = rows.map g := by
  rw [replace, List.map_map]
  refine List.map_congr_left (fun x hx => ?_)
  simp only [Function.comp_apply]
  split
  · next hk => exact h x hx hk
  · rfl

/-- A replacement that keeps what a filter reads commutes with the filter. -/
theorem filter_replace [DecidableEq κ] {key : α → κ} {r : α} {p : α → Bool} {rows : List α}
    (h : ∀ x ∈ rows, key x = key r → p r = p x) :
    (replace key r rows).filter p = replace key r (rows.filter p) := by
  rw [replace, replace, List.filter_map]
  refine congrArg _ (List.filter_congr (fun x hx => ?_))
  simp only [Function.comp_apply]
  split
  · next hk => exact h x hx hk
  · rfl

/-- Of two replacements of a row the later one counts. -/
theorem replace_replace [DecidableEq κ] {key : α → κ} {r r' : α} {rows : List α}
    (h : key r' = key r) : replace key r' (replace key r rows) = replace key r' rows := by
  rw [replace, replace, replace, List.map_map]
  refine List.map_congr_left (fun x _ => ?_)
  by_cases hx : key x = key r
  · simp [hx, h]
  · simp [hx, h]

/-- A replacement of a row that is not there changes nothing. -/
theorem replace_eq_self [DecidableEq κ] {key : α → κ} {r : α} {rows : List α}
    (h : ∀ x ∈ rows, key x ≠ key r) : replace key r rows = rows := by
  rw [replace]
  conv_rhs => rw [← List.map_id rows]
  exact List.map_congr_left (fun x hx => if_neg (h x hx))

/-- A replacement a filter does not see, before or after. -/
theorem filter_replace_of_false [DecidableEq κ] {key : α → κ} {r : α} {p : α → Bool}
    {rows : List α} (hr : p r = false) (h : ∀ x ∈ rows, key x = key r → p x = false) :
    (replace key r rows).filter p = rows.filter p := by
  rw [filter_replace (fun x hx hk => hr.trans (h x hx hk).symm)]
  refine replace_eq_self (fun x hx hk => ?_)
  have := h x (List.mem_of_mem_filter hx) hk
  rw [List.of_mem_filter hx] at this
  exact Bool.false_ne_true this.symm

/-- **A replacement that keeps what a look-up reads** leaves what it finds. -/
theorem find?_map_replace {γ : Type} [DecidableEq κ] {key : α → κ} {r : α} {p : α → Bool}
    {g : α → γ} {rows : List α} (h : ∀ x ∈ rows, key x = key r → p r = p x ∧ g r = g x) :
    ((replace key r rows).find? p).map g = (rows.find? p).map g := by
  induction rows with
  | nil => rfl
  | cons x rows ih =>
    have ih := ih (fun y hy => h y (List.mem_cons_of_mem x hy))
    rw [replace, List.map_cons]
    by_cases hk : key x = key r
    · obtain ⟨hp, hg⟩ := h x List.mem_cons_self hk
      rw [if_pos hk]
      cases hx : p x with
      | true =>
        rw [List.find?_cons_of_pos (hp.trans hx), List.find?_cons_of_pos hx]
        exact congrArg some hg
      | false =>
        rw [List.find?_cons_of_neg (by simp [hp, hx]), List.find?_cons_of_neg (by simp [hx])]
        exact ih
    · rw [if_neg hk]
      cases hx : p x with
      | true => rw [List.find?_cons_of_pos hx, List.find?_cons_of_pos hx]
      | false =>
        rw [List.find?_cons_of_neg (by simp [hx]), List.find?_cons_of_neg (by simp [hx])]
        exact ih

/-- Dropping rows a filter does not see. -/
theorem filter_filter_of_false {p q : α → Bool} {rows : List α}
    (h : ∀ x ∈ rows, q x = true → p x = false) :
    (rows.filter (fun x => !q x)).filter p = rows.filter p := by
  rw [List.filter_filter]
  refine List.filter_congr (fun x hx => ?_)
  cases hq : q x with
  | true => rw [h x hx hq, Bool.false_and]
  | false => rw [Bool.not_false, Bool.and_true]

/-- A delete of a row a look-up does not find. -/
theorem find?_delete_of_ne [DecidableEq κ] {key : α → κ} {k : κ} {p : α → Bool} {rows : List α}
    (h : ∀ x, p x = true → key x ≠ k) : (delete key k rows).find? p = rows.find? p := by
  rw [delete, List.find?_filter]
  congr 1
  funext x
  cases hp : p x with
  | true => simp [h x hp]
  | false => simp

/-- A delete a filter does not see. -/
theorem filter_delete_of_false [DecidableEq κ] {key : α → κ} {k : κ} {p : α → Bool}
    {rows : List α} (h : ∀ x ∈ rows, key x = k → p x = false) :
    (delete key k rows).filter p = rows.filter p := by
  rw [delete, List.filter_filter]
  refine List.filter_congr (fun x hx => ?_)
  by_cases hk : key x = k
  · rw [h x hx hk, Bool.false_and]
  · simp [hk]

/-- An insert a filter does not see. -/
theorem filter_insert_of_false {p : α → Bool} {rows : List α} {r : α} (hr : p r = false) :
    (insert rows r).filter p = rows.filter p := by
  rw [insert, List.filter_append, List.filter_cons_of_neg (by simp [hr]), List.filter_nil,
    List.append_nil]

/-- An insert a filter sees. -/
theorem filter_insert_of_true {p : α → Bool} {rows : List α} {r : α} (hr : p r = true) :
    (insert rows r).filter p = insert (rows.filter p) r := by
  rw [insert, List.filter_append, List.filter_cons_of_pos hr, List.filter_nil, insert]

/-! ## Uniqueness -/

theorem unique_eq_of_map {key : α → Option κ} {rows rows' : List α}
    (h : rows'.map key = rows.map key) : Unique key rows' ↔ Unique key rows := by
  have hk : ∀ l : List α, l.filterMap key = (l.map key).filterMap id := by
    intro l
    rw [List.filterMap_map]
    rfl
  rw [Unique, Unique, hk, hk, h]

/-- A replacement that keeps the key keeps its uniqueness. -/
theorem Unique.replace {ι : Type} [DecidableEq ι] {key : α → Option κ}
    {pk : α → ι} {r : α} {rows : List α} (hu : Unique key rows)
    (h : ∀ x ∈ rows, pk x = pk r → key r = key x) : Unique key (replace pk r rows) :=
  (unique_eq_of_map (map_replace h)).mpr hu

/-- **An insert keeps a key unique exactly when the new key is unused.** -/
theorem unique_insert_iff {key : α → Option κ} {rows : List α} {r : α} :
    Unique key (insert rows r) ↔
      Unique key rows ∧ ∀ k ∈ key r, ∀ x ∈ rows, key x ≠ some k := by
  rw [Unique, Unique, insert, List.filterMap_append]
  cases hr : key r with
  | none => simp [hr]
  | some k =>
    simp only [List.filterMap_cons, hr, List.filterMap_nil, List.nodup_append, List.nodup_cons,
      List.not_mem_nil, not_false_eq_true, List.nodup_nil, and_self, true_and,
      List.mem_singleton, forall_eq, List.mem_filterMap, Option.mem_some_iff, forall_eq']
    refine and_congr_right (fun _ => ?_)
    exact ⟨fun h x hx hk => h k ⟨x, hx, hk⟩ rfl,
      fun h a ⟨x, hx, hk⟩ hak => h x hx (hak ▸ hk)⟩

/-- Dropping rows keeps a key unique. -/
theorem Unique.filter {key : α → Option κ} {rows : List α} (hu : Unique key rows)
    (p : α → Bool) : Unique key (rows.filter p) :=
  List.Nodup.sublist (List.Sublist.filterMap key (List.filter_sublist)) hu

theorem Unique.delete {ι : Type} [DecidableEq ι] {key : α → Option κ}
    {pk : α → ι} {k : ι} {rows : List α} (hu : Unique key rows) :
    Unique key (delete pk k rows) :=
  hu.filter _

/-- **Rows with the same unique key are the same row.** -/
theorem Unique.eq {key : α → Option κ} {rows : List α} (hu : Unique key rows) {x y : α}
    (hx : x ∈ rows) (hy : y ∈ rows) {k : κ} (hkx : key x = some k) (hky : key y = some k) :
    x = y := by
  induction rows with
  | nil => exact absurd hx List.not_mem_nil
  | cons r rows ih =>
    have hin : ∀ z ∈ rows, key z = some k → k ∈ rows.filterMap key :=
      fun z hz hk => List.mem_filterMap.mpr ⟨z, hz, hk⟩
    have htail : Unique key rows :=
      List.Nodup.sublist (List.Sublist.filterMap key (List.sublist_cons_self r rows)) hu
    have hhead : key r = some k → k ∉ rows.filterMap key := by
      intro hr
      rw [Unique, List.filterMap_cons, hr] at hu
      exact (List.nodup_cons.mp hu).1
    rcases List.mem_cons.mp hx with rfl | hx' <;> rcases List.mem_cons.mp hy with rfl | hy'
    · rfl
    · exact absurd (hin y hy' hky) (hhead hkx)
    · exact absurd (hin x hx' hkx) (hhead hky)
    · exact ih htail hx' hy'

/-- **Replacing a row by a function of it** maps the function over the one
row with its key. -/
theorem replace_eq_map [DecidableEq κ] {key : α → κ} {rows : List α}
    (hu : Unique (fun r => some (key r)) rows) {old : α} (hold : old ∈ rows) {f : α → α}
    (hf : key (f old) = key old) :
    replace key (f old) rows = rows.map (fun x => if key x = key old then f x else x) := by
  refine List.map_congr_left (fun x hx => ?_)
  rw [hf]
  split
  · next hk =>
    rw [hu.eq hx hold (congrArg some hk) rfl]
  · rfl

/-! ## References -/

/-- Inserting into the referencing table. -/
theorem references_insert_iff {fk : α → Option κ} {rows : List α} {r : α} {pk : β → κ}
    {targets : List β} :
    References fk (insert rows r) pk targets ↔
      References fk rows pk targets ∧ ∀ k ∈ fk r, k ∈ targets.map pk := by
  constructor
  · intro h
    exact ⟨fun x hx => h x (mem_insert.mpr (Or.inl hx)),
      h r (mem_insert.mpr (Or.inr rfl))⟩
  · rintro ⟨h, hr⟩ x hx
    rcases mem_insert.mp hx with hx | rfl
    · exact h x hx
    · exact hr

/-- Inserting into the referenced table breaks no reference. -/
theorem References.insert_target {fk : α → Option κ} {rows : List α} {pk : β → κ}
    {targets : List β} (h : References fk rows pk targets) (t : β) :
    References fk rows pk (insert targets t) := by
  intro r hr k hk
  rw [map_insert]
  exact List.mem_append_left _ (h r hr k hk)

/-- Replacing a referencing row without touching its reference. -/
theorem References.replace {ι : Type} [DecidableEq ι] {fk : α → Option κ}
    {rows : List α} {pk : β → κ} {targets : List β} (h : References fk rows pk targets)
    {key : α → ι} {r : α} (hf : ∀ x ∈ rows, key x = key r → fk r = fk x) :
    References fk (Table.replace key r rows) pk targets := by
  intro x hx
  rcases mem_replace.mp hx with ⟨rfl, y, hy, hk⟩ | ⟨hx, -⟩
  · rw [hf y hy hk]
    exact h y hy
  · exact h x hx

/-- Replacing a referenced row without touching its key. -/
theorem References.replace_target {ι : Type} [DecidableEq ι] {fk : α → Option κ}
    {rows : List α} {pk : β → κ} {targets : List β} (h : References fk rows pk targets)
    {key : β → ι} {t : β} (hf : ∀ x ∈ targets, key x = key t → pk t = pk x) :
    References fk rows pk (Table.replace key t targets) := by
  intro r hr l hl
  rw [map_replace hf]
  exact h r hr l hl

/-- Dropping referencing rows. -/
theorem References.filter {fk : α → Option κ} {rows : List α} {pk : β → κ} {targets : List β}
    (h : References fk rows pk targets) (p : α → Bool) :
    References fk (rows.filter p) pk targets :=
  fun r hr => h r (List.mem_of_mem_filter hr)

theorem References.delete [DecidableEq κ] {ι : Type} [DecidableEq ι] {fk : α → Option κ}
    {rows : List α} {pk : β → κ} {targets : List β} (h : References fk rows pk targets)
    {key : α → ι} {k : ι} : References fk (Table.delete key k rows) pk targets :=
  h.filter _

/-- **Deleting a referenced row is allowed exactly when nothing refers to
it.** -/
theorem references_delete_target_iff [DecidableEq κ] {fk : α → Option κ} {rows : List α}
    {pk : β → κ} {targets : List β} (h : References fk rows pk targets) {k : κ} :
    References fk rows pk (Table.delete pk k targets) ↔ ∀ r ∈ rows, fk r ≠ some k := by
  constructor
  · intro h' r hr hk
    obtain ⟨t, ht, hpk⟩ := List.mem_map.mp (h' r hr k hk)
    exact (mem_delete.mp ht).2 hpk
  · intro hno r hr l hl
    obtain ⟨t, ht, hpk⟩ := List.mem_map.mp (h r hr l hl)
    refine List.mem_map.mpr ⟨t, mem_delete.mpr ⟨ht, fun hk => hno r hr ?_⟩, hpk⟩
    rw [← hk, hpk]
    exact hl

/-! ## Looking a row up

`scalar_one_or_none` returns the only matching row, nothing when there is
none, and fails when there are several. Where the filter pins a unique
key there are never several, and the look-up is `List.find?`. -/

/-- At most one row satisfies the filter. -/
def AtMostOne (p : α → Bool) (rows : List α) : Prop :=
  ∀ x ∈ rows, ∀ y ∈ rows, p x = true → p y = true → x = y

/-- A filter that pins a unique key is satisfied at most once. -/
theorem Unique.atMostOne {key : α → Option κ} {rows : List α} (hu : Unique key rows) {k : κ}
    {p : α → Bool} (hp : ∀ x, p x = true → key x = some k) : AtMostOne p rows :=
  fun _ hx _ hy hpx hpy => hu.eq hx hy (hp _ hpx) (hp _ hpy)

/-- **A filter satisfied at most once, over rows without repetition,
selects nothing or exactly what `find?` finds.** -/
theorem filter_eq_find?_toList {p : α → Bool} {rows : List α} (hnd : rows.Nodup)
    (h : AtMostOne p rows) : rows.filter p = (rows.find? p).toList := by
  induction rows with
  | nil => rfl
  | cons r rows ih =>
    have hnd' := (List.nodup_cons.mp hnd)
    by_cases hp : p r = true
    · rw [List.filter_cons_of_pos hp, List.find?_cons_of_pos hp, Option.toList_some]
      refine congrArg _ (List.filter_eq_nil_iff.mpr (fun x hx hpx => ?_))
      have : r = x := h r List.mem_cons_self x (List.mem_cons_of_mem r hx) hp hpx
      exact hnd'.1 (this ▸ hx)
    · rw [List.filter_cons_of_neg hp, List.find?_cons_of_neg hp]
      exact ih hnd'.2 (fun x hx y hy => h x (List.mem_cons_of_mem r hx) y
        (List.mem_cons_of_mem r hy))

/-- Rows with a total unique key do not repeat. -/
theorem Unique.nodup {key : α → κ} {rows : List α}
    (hu : Unique (fun r => some (key r)) rows) : rows.Nodup := by
  have h : (rows.map key).Nodup := by
    rw [Unique, List.filterMap_eq_map'] at hu
    exact hu
  exact h.of_map key

/-- **The row a look-up by a unique filter finds is the one that
satisfies it.** -/
theorem find?_eq_some_iff_of_atMostOne {p : α → Bool} {rows : List α} (h : AtMostOne p rows)
    {r : α} : rows.find? p = some r ↔ r ∈ rows ∧ p r = true := by
  constructor
  · intro hf
    exact ⟨List.mem_of_find?_eq_some hf, List.find?_some hf⟩
  · rintro ⟨hr, hp⟩
    cases hf : rows.find? p with
    | none => exact absurd hp (by simpa using List.find?_eq_none.mp hf r hr)
    | some x =>
      rw [h x (List.mem_of_find?_eq_some hf) r hr (List.find?_some hf) hp]

/-- **The row a look-up by a primary key finds is the one that has the
key.** -/
theorem Unique.find?_eq_some_iff [DecidableEq κ] {key : α → κ} {rows : List α}
    (hu : Unique (fun r => some (key r)) rows) {k : κ} {r : α} :
    rows.find? (fun x => key x = k) = some r ↔ r ∈ rows ∧ key r = k := by
  rw [find?_eq_some_iff_of_atMostOne (hu.atMostOne (k := k) (fun x hx => by simpa using hx)),
    decide_eq_true_iff]

/-- **A delete does not change which look-ups lead to a value that the
deleted row does not have.** -/
theorem Unique.find?_delete_map_eq_some_iff {γ : Type} [DecidableEq κ] {key : α → κ}
    {rows : List α} (hu : Unique (fun r => some (key r)) rows) {r : α} (hr : r ∈ rows)
    {g : α → γ} {b : γ} (hb : g r ≠ b) (k : κ) :
    ((Table.delete key (key r) rows).find? (fun x => key x = k)).map g = some b ↔
      (rows.find? (fun x => key x = k)).map g = some b := by
  by_cases hk : key r = k
  · subst hk
    have hgone : (Table.delete key (key r) rows).find? (fun x => key x = key r) = none :=
      List.find?_eq_none.mpr (fun x hx => by simpa using (mem_delete.mp hx).2)
    rw [hgone, hu.find?_eq_some_iff.mpr ⟨hr, rfl⟩]
    exact iff_of_false (by simp) (fun hg => hb (Option.some.inj hg))
  · rw [find?_delete_of_ne (fun x hx hx' => hk (hx'.symm.trans (of_decide_eq_true hx)))]

end Table
