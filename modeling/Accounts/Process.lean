import Mathlib.Data.List.Induction

/-!
# Serial runs

A server answers one input at a time: each input takes a state to a next
state and produces an answer. A run is a list of inputs, and everything
said about runs is said by recursion on that list – the state a run
reaches, the inputs with their answers (the *trace*), and a condition
that every step of the run meets in the state it is taken in.

Three rules carry every result about runs. `run_invariant` is the
induction that takes a step lemma to all runs, `history_invariant` the
same for an invariant that speaks of the run so far. `refinement_run` is
the induction for a refinement: if reading the state through an
abstraction turns every step into a step an automaton can take – or into
none – then the traces of the server are histories of the automaton, which
end where the state a run reaches is.
-/

/-- **A server**: an input answers and moves the state. -/
structure Process (σ ι ο : Type) where
  /-- Answer one input. -/
  step : ι → σ → ο × σ

namespace Process

variable {σ ι ο α : Type} (M : Process σ ι ο)

/-- The answer to an input. -/
def answer (d : σ) (i : ι) : ο := (M.step i d).1

/-- The state after an input. -/
def next (d : σ) (i : ι) : σ := (M.step i d).2

/-- The state a run reaches. -/
def run (d : σ) : List ι → σ
  | [] => d
  | i :: is => run (M.next d i) is

/-- The inputs of a run with their answers. -/
def trace (d : σ) : List ι → List (ι × ο)
  | [] => []
  | i :: is => (i, M.answer d i) :: trace (M.next d i) is

/-- Every step of a run meets a condition, in the state it is taken in. -/
def Every (P : σ → ι → Prop) (d : σ) : List ι → Prop
  | [] => True
  | i :: is => P d i ∧ Every P (M.next d i) is

instance decidableEvery {P : σ → ι → Prop} [∀ d i, Decidable (P d i)] :
    (d : σ) → (is : List ι) → Decidable (M.Every P d is)
  | _, [] => isTrue trivial
  | d, i :: is => @instDecidableAnd _ _ _ (decidableEvery (M.next d i) is)

@[simp] theorem run_nil (d : σ) : M.run d [] = d := rfl

@[simp] theorem run_cons (d : σ) (i : ι) (is : List ι) :
    M.run d (i :: is) = M.run (M.next d i) is := rfl

@[simp] theorem every_nil (P : σ → ι → Prop) (d : σ) : M.Every P d [] := trivial

@[simp] theorem every_cons (P : σ → ι → Prop) (d : σ) (i : ι) (is : List ι) :
    M.Every P d (i :: is) ↔ P d i ∧ M.Every P (M.next d i) is := Iff.rfl

theorem run_append (d : σ) (is js : List ι) :
    M.run d (is ++ js) = M.run (M.run d is) js := by
  induction is generalizing d with
  | nil => rfl
  | cons i is ih => exact ih _

theorem trace_append (d : σ) (is js : List ι) :
    M.trace d (is ++ js) = M.trace d is ++ M.trace (M.run d is) js := by
  induction is generalizing d with
  | nil => rfl
  | cons i is ih => exact congrArg _ (ih _)

theorem every_append (P : σ → ι → Prop) (d : σ) (is js : List ι) :
    M.Every P d (is ++ js) ↔ M.Every P d is ∧ M.Every P (M.run d is) js := by
  induction is generalizing d with
  | nil => simp
  | cons i is ih => simp only [List.cons_append, every_cons, run_cons, ih, and_assoc]

/-- A condition on the inputs alone. -/
theorem every_of_forall {P : ι → Prop} (d : σ) {is : List ι} (h : ∀ i ∈ is, P i) :
    M.Every (fun _ i => P i) d is := by
  induction is generalizing d with
  | nil => trivial
  | cons i is ih =>
    exact ⟨h i List.mem_cons_self, ih _ (fun j hj => h j (List.mem_cons_of_mem _ hj))⟩

theorem every_mono {P Q : σ → ι → Prop} (h : ∀ d i, P d i → Q d i) {d : σ} {is : List ι}
    (he : M.Every P d is) : M.Every Q d is := by
  induction is generalizing d with
  | nil => trivial
  | cons i is ih => exact ⟨h d i he.1, ih he.2⟩

theorem every_and {P Q : σ → ι → Prop} {d : σ} {is : List ι} (hp : M.Every P d is)
    (hq : M.Every Q d is) : M.Every (fun d i => P d i ∧ Q d i) d is := by
  induction is generalizing d with
  | nil => trivial
  | cons i is ih => exact ⟨⟨hp.1, hq.1⟩, ih hp.2 hq.2⟩

/-- **What every step preserves, every run preserves.** -/
theorem run_invariant {P : σ → ι → Prop} (Inv : σ → Prop)
    (hstep : ∀ d i, Inv d → P d i → Inv (M.next d i)) {d : σ} (hd : Inv d) {is : List ι}
    (he : M.Every P d is) : Inv (M.run d is) := by
  induction is generalizing d with
  | nil => exact hd
  | cons i is ih => exact ih (hstep d i hd he.1) he.2

/-- What an invariant implies of every input holds along the run. -/
theorem every_of_invariant {P Q : σ → ι → Prop} (Inv : σ → Prop)
    (hstep : ∀ d i, Inv d → P d i → Inv (M.next d i)) (hq : ∀ d i, Inv d → P d i → Q d i) {d : σ}
    (hd : Inv d) {is : List ι} (he : M.Every P d is) : M.Every Q d is := by
  induction is generalizing d with
  | nil => trivial
  | cons i is ih => exact ⟨hq d i hd he.1, ih (hstep d i hd he.1) he.2⟩

/-- **What every step preserves, every run preserves** – of an invariant
that speaks of the run so far as well. -/
theorem history_invariant {P : σ → ι → Prop} (Inv : List ι → σ → Prop) {d : σ} (hd : Inv [] d)
    (hstep : ∀ is i, Inv is (M.run d is) → P (M.run d is) i →
      Inv (is ++ [i]) (M.next (M.run d is) i)) {is : List ι} (he : M.Every P d is) :
    Inv is (M.run d is) := by
  induction is using List.reverseRecOn with
  | nil => exact hd
  | append_singleton is i ih =>
    obtain ⟨he, hi, -⟩ := (M.every_append P d is [i]).mp he
    rw [run_append]
    exact hstep is i (ih he) hi

/-- An answered input of a trace was answered in some state of the run. -/
theorem mem_trace {d : σ} {is : List ι} {p : ι × ο} (hp : p ∈ M.trace d is) :
    ∃ js ks, is = js ++ p.1 :: ks ∧ p.2 = M.answer (M.run d js) p.1 := by
  induction is generalizing d with
  | nil => exact absurd hp List.not_mem_nil
  | cons i is ih =>
    rcases List.mem_cons.mp hp with rfl | hp
    · exact ⟨[], is, rfl, rfl⟩
    · obtain ⟨js, ks, rfl, ha⟩ := ih hp
      exact ⟨i :: js, ks, rfl, ha⟩

/-- **Refinement.** The automaton is partial, and labels tell what an
answered input is to it – nothing, for some. If every step of the server,
read through the abstraction, is one the automaton can take, then the
labels of every trace are a history of the automaton, and the history ends
in the abstraction of the state the run reaches. -/
theorem refinement_run {ε : Type} {P : σ → ι → Prop} (Inv : σ → Prop) (abs : σ → α)
    (label : ι × ο → Option ε) (δ : α → ε → Option α)
    (hinv : ∀ d i, Inv d → P d i → Inv (M.next d i))
    (hsim : ∀ d i, Inv d → P d i →
      (label (i, M.answer d i)).elim (some (abs d)) (δ (abs d)) = some (abs (M.next d i)))
    {d : σ} (hd : Inv d) {is : List ι} (he : M.Every P d is) :
    ((M.trace d is).filterMap label).foldlM δ (abs d) = some (abs (M.run d is)) := by
  induction is generalizing d with
  | nil => rfl
  | cons i is ih =>
    have hi := hsim d i hd he.1
    have hrest := ih (hinv d i hd he.1) he.2
    rw [trace, List.filterMap_cons]
    cases hl : label (i, M.answer d i) with
    | none =>
      rw [hl] at hi
      rw [Option.some.inj hi]
      exact hrest
    | some e =>
      rw [hl] at hi
      rw [List.foldlM_cons, show δ (abs d) e = _ from hi]
      exact hrest

/-- **Simulation.** A second server is fed the events of the first: what an
answered input is to it, which is nothing for some. A relation of their states
that every step keeps is kept by every run. -/
theorem simulation_run {ε ω : Type} {P : σ → ι → Prop} (N : Process α ε ω) (R : σ → α → Prop)
    (event : ι × ο → Option ε)
    (hsim : ∀ d a i, R d a → P d i →
      R (M.next d i) ((event (i, M.answer d i)).elim a (N.next a)))
    {d : σ} {a : α} (hd : R d a) {is : List ι} (he : M.Every P d is) :
    R (M.run d is) (N.run a ((M.trace d is).filterMap event)) := by
  induction is generalizing d a with
  | nil => exact hd
  | cons i is ih =>
    have hi := hsim d a i hd he.1
    rw [trace, List.filterMap_cons]
    cases hl : event (i, M.answer d i) with
    | none =>
      rw [hl] at hi
      exact ih hi he.2
    | some e =>
      rw [hl] at hi
      exact ih hi he.2

/-! ## When a property first holds -/

/-- **The first input of a run after which a property holds.** -/
def firstWhen (p : σ → Bool) (d : σ) : List ι → Option ι
  | [] => none
  | i :: is => if p (M.next d i) then some i else firstWhen p (M.next d i) is

section FirstWhen

variable {M} {p : σ → Bool} {d : σ} {is js : List ι} {i : ι}

theorem firstWhen_append :
    M.firstWhen p d (is ++ js) = (M.firstWhen p d is).or (M.firstWhen p (M.run d is) js) := by
  induction is generalizing d with
  | nil => rfl
  | cons i is ih =>
    rw [List.cons_append, firstWhen, firstWhen]
    split
    · rfl
    · exact ih

/-- What was first reached in a run is not reached later. -/
theorem firstWhen_of_some (h : M.firstWhen p d is = some i) :
    M.firstWhen p d (is ++ js) = some i := by
  rw [firstWhen_append, h, Option.some_or]

/-- What was not reached before may be reached now. -/
theorem firstWhen_of_none (h : M.firstWhen p d is = none) (hp : p (M.next (M.run d is) i) = true) :
    M.firstWhen p d (is ++ [i]) = some i := by
  rw [firstWhen_append, h, Option.none_or, firstWhen, if_pos hp]

/-- A stable property that was reached holds at the end of the run. -/
theorem firstWhen_stable (hp : ∀ d i, p d = true → p (M.next d i) = true)
    (h : M.firstWhen p d is ≠ none) : p (M.run d is) = true := by
  have hrun : ∀ (is : List ι) (d : σ), p d = true → p (M.run d is) = true := by
    intro is
    induction is with
    | nil => exact fun _ hd => hd
    | cons i is ih => exact fun d hd => ih _ (hp d i hd)
  induction is generalizing d with
  | nil => exact absurd rfl h
  | cons i is ih =>
    rw [firstWhen] at h
    split at h
    · next hi => exact hrun is _ hi
    · exact ih h

end FirstWhen

end Process
