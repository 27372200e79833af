import Mathlib.Data.Prod.Lex
import Mathlib.Algebra.Order.Ring.Int
import Mathlib.Order.Bounds.Basic

/-!
# Points in time and whole periods

A calendar numbers its periods – years, say – and orders the positions in a
period. `Point β` is a point in time: a period and a position, compared in
this order. Not every position has to occur in every period, so moving a
point by a number of periods (`later`) gives a place in the order that may
be no day of the calendar.

`wholePeriods a b` is the number of whole periods from `a` to `b`: the
difference of the periods, less one when `b` lies earlier in its period
than `a`. `later_le_iff` says that it is adjoint to moving – `a`, moved by
`n` periods, is not after `b` exactly when `n ≤ wholePeriods a b` – and
what else one expects of it follows: it is the greatest such `n`, it grows
with `b`, and it is negative exactly when `b` is before `a`.
-/

namespace Calendar

/-- **A point in time**: a period, and a position in it. -/
abbrev Point (β : Type) : Type := ℤ ×ₗ β

namespace Point

variable {β : Type} {a b c : Point β} {n : ℤ}

/-- The same position, `n` periods later. -/
def later (a : Point β) (n : ℤ) : Point β := toLex ((ofLex a).1 + n, (ofLex a).2)

@[simp] theorem later_zero : a.later 0 = a := by
  rw [later, add_zero]
  rfl

variable [LinearOrder β]

/-- **The whole periods** from `a` to `b`. -/
def wholePeriods (a b : Point β) : ℤ :=
  (ofLex b).1 - (ofLex a).1 - if (ofLex b).2 < (ofLex a).2 then 1 else 0

/-- **Counting whole periods is adjoint to moving by them.** -/
theorem later_le_iff : a.later n ≤ b ↔ n ≤ wholePeriods a b := by
  rw [Prod.Lex.le_iff]
  show (ofLex a).1 + n < (ofLex b).1 ∨
    (ofLex a).1 + n = (ofLex b).1 ∧ (ofLex a).2 ≤ (ofLex b).2 ↔ _
  unfold wholePeriods
  split
  · next h =>
    -- the last period is not complete
    have hpos : ¬ (ofLex a).2 ≤ (ofLex b).2 := not_le.mpr h
    simp only [hpos, and_false, or_false]
    omega
  · next h =>
    have hpos : (ofLex a).2 ≤ (ofLex b).2 := not_lt.mp h
    simp only [hpos, and_true]
    omega

/-- **The greatest number of periods** that still leads to `b`, or before
it. -/
theorem isGreatest_wholePeriods (a b : Point β) :
    IsGreatest {n : ℤ | a.later n ≤ b} (wholePeriods a b) :=
  ⟨later_le_iff.mpr le_rfl, fun _ hn => later_le_iff.mp hn⟩

/-- More periods are over at a later point. -/
theorem wholePeriods_mono (h : b ≤ c) : wholePeriods a b ≤ wholePeriods a c :=
  later_le_iff.mp ((isGreatest_wholePeriods a b).1.trans h)

theorem wholePeriods_nonneg_iff : 0 ≤ wholePeriods a b ↔ a ≤ b := by
  rw [← later_le_iff, later_zero]

/-- **Counted from zero**, there is a greatest number of periods that leads
to `b` or before it exactly when `a` does, and it is the number of whole
periods. -/
theorem exists_isGreatest_iff :
    (∃ n : ℕ, wholePeriods a b = n ∧ IsGreatest {k : ℕ | a.later k ≤ b} n) ↔ a ≤ b := by
  constructor
  · rintro ⟨n, hn, -⟩
    exact wholePeriods_nonneg_iff.mp (hn ▸ Int.natCast_nonneg n)
  · intro h
    obtain ⟨n, hn⟩ := Int.eq_ofNat_of_zero_le (wholePeriods_nonneg_iff.mpr h)
    refine ⟨n, hn, later_le_iff.mpr hn.ge, fun k hk => ?_⟩
    exact Int.ofNat_le.mp ((later_le_iff.mp hk).trans hn.le)

end Point

end Calendar
