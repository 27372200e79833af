import Accounts.Interleaving
import Mathlib.Logic.Relation

/-!
# What a log explains

A log of completed requests is worth something when whatever has changed is
accounted for in it. `E o a b` says that the entry `o` accounts for a change
from `a` to `b`; `Explained E os a b` says that the entries of the log, in
their order, lead from `a` to `b`, each by changes it accounts for.

`run_explained` is the rule for requests in two steps: when every step that
completes a request is accounted for by what it logs, and no other step
changes anything, then the log of a schedule explains what the schedule has
made of the shared state, whichever steps were taken in between.
`Explained.exists_break` is what such an explanation is good for: whatever was
so and is not any more, some entry has changed.
-/

open Relation

/-- **The entries lead from one to the other**, each by changes it accounts
for. -/
def Explained {ο β : Type} (E : ο → β → β → Prop) : List ο → β → β → Prop
  | [], a, b => a = b
  | o :: os, a, c => ∃ b, ReflTransGen (E o) a b ∧ Explained E os b c

namespace Explained

variable {ο β γ : Type} {E : ο → β → β → Prop} {os os' : List ο} {a b c : β}

theorem append (h : Explained E os a b) (h' : Explained E os' b c) :
    Explained E (os ++ os') a c := by
  induction os generalizing a with
  | nil =>
    obtain rfl : a = b := h
    exact h'
  | cons o os ih =>
    obtain ⟨x, hx, h⟩ := h
    exact ⟨x, hx, ih h⟩

/-- One entry. -/
theorem single {o : ο} (h : ReflTransGen (E o) a b) : Explained E [o] a b := ⟨b, h, rfl⟩

/-- **What is explained is explained of whatever one looks at**, when every
change that is accounted for is. -/
theorem map {F : ο → γ → γ → Prop} {g : β → γ}
    (hE : ∀ o x y, E o x y → ReflTransGen (F o) (g x) (g y)) (h : Explained E os a b) :
    Explained F os (g a) (g b) := by
  induction os generalizing a with
  | nil => exact congrArg g h
  | cons o os ih =>
    obtain ⟨x, hx, h⟩ := h
    exact ⟨g x, .lift' g (hE o) _ _ hx, ih h⟩

/-- **Whatever was so and is not any more, an entry has changed.** -/
theorem exists_break {p : β → Prop} (h : Explained E os a b) (ha : p a) (hb : ¬ p b) :
    ∃ o ∈ os, ∃ x y, E o x y ∧ p x ∧ ¬ p y := by
  induction os generalizing a with
  | nil =>
    obtain rfl : a = b := h
    exact absurd ha hb
  | cons o os ih =>
    obtain ⟨x, hx, h⟩ := h
    by_cases hpx : p x
    · obtain ⟨o', ho', hbreak⟩ := ih h hpx
      exact ⟨o', List.mem_cons_of_mem o ho', hbreak⟩
    · refine ⟨o, List.mem_cons_self, ?_⟩
      clear h
      induction hx with
      | refl => exact absurd ha hpx
      | @tail y z _ hyz ihx =>
        by_cases hpy : p y
        · exact ⟨y, z, hyz, hpy, hpx⟩
        · exact ihx hpy

end Explained

/-- **The log of a schedule explains what the schedule has made of the shared
state.** -/
theorem TwoStep.run_explained {σ ε ι κ ο : Type} {M : TwoStep σ ε ι κ ο} {E : ο → σ → σ → Prop}
    (hflight : ∀ e i d d' l, M.first e i d = (d', .inl l) → d' = d)
    (hfirst : ∀ e i d d' o, M.first e i d = (d', .inr o) → E o d d')
    (hsecond : ∀ e l d d' o, M.second e l d = (d', o) → E o d d')
    (c : Config σ κ ο) (ms : List (Move ε ι)) :
    ∃ os, (M.system.run c ms).log = c.log ++ os ∧
      Explained E os c.shared (M.system.run c ms).shared := by
  refine M.system.run_invariant (P := fun _ _ => True)
    (fun c' => ∃ os, c'.log = c.log ++ os ∧ Explained E os c.shared c'.shared)
    (fun c' m hinv _ => ?_) ⟨[], (List.append_nil _).symm, rfl⟩
    (M.system.every_of_forall _ (fun _ _ => trivial))
  obtain ⟨os, hlog, hos⟩ := hinv
  obtain ⟨r, hr, hstep⟩ := move_cases (M := M)
    (R := fun r d => r.elim (d = c'.shared) (fun o => E o c'.shared d)) c' m rfl
    (fun i d r hf => by
      cases r with
      | inl l => exact hflight _ _ _ _ _ hf
      | inr o => exact hfirst _ _ _ _ _ hf)
    (fun l d o hs => hsecond _ _ _ _ _ hs)
  refine ⟨os ++ r.toList, by rw [system_next, hr, hlog, List.append_assoc], ?_⟩
  cases r with
  | none =>
    rw [system_next, show (M.move c' m).shared = c'.shared from hstep]
    exact hos.append rfl
  | some o => exact hos.append (.single (.single hstep))
