import Accounts.Process

/-!
# A server seen from one of its parts

A server that serves many parties out of one state may keep them apart: a
part of the state belongs to one of them, some inputs concern it, and the
others are as if they had not been there. `kept` drops the inputs of a run
that do not concern the part. Whether an input does may depend on the state
it is met in, which is why it is defined along the run.

`projection_run` is the rule. A second server takes the inputs that are
kept. If an input that is kept is answered alike by both, and one that is
dropped leaves the relation between the two states as it is, then the second
server answers the kept inputs of every run as the first one does, and the
states they reach are related. The two conditions are about single steps.
-/

namespace Process

variable {σ σ' ι ο : Type} (M : Process σ ι ο)

/-- **The inputs of a run that concern the part**, each in the state it is
met in. -/
def kept (concerns : σ → ι → Bool) (d : σ) : List ι → List ι
  | [] => []
  | i :: is =>
    if concerns d i then i :: kept concerns (M.next d i) is
    else kept concerns (M.next d i) is

/-- These inputs with the answers they are given. -/
def keptTrace (concerns : σ → ι → Bool) (d : σ) : List ι → List (ι × ο)
  | [] => []
  | i :: is =>
    if concerns d i then (i, M.answer d i) :: keptTrace concerns (M.next d i) is
    else keptTrace concerns (M.next d i) is

section Lemmas

variable {M} {concerns : σ → ι → Bool} {d : σ} {i : ι} {is : List ι}

theorem kept_cons_of_pos (h : concerns d i = true) :
    M.kept concerns d (i :: is) = i :: M.kept concerns (M.next d i) is := if_pos h

theorem kept_cons_of_neg (h : concerns d i = false) :
    M.kept concerns d (i :: is) = M.kept concerns (M.next d i) is :=
  if_neg (Bool.not_eq_true _ ▸ h)

theorem keptTrace_cons_of_pos (h : concerns d i = true) :
    M.keptTrace concerns d (i :: is)
      = (i, M.answer d i) :: M.keptTrace concerns (M.next d i) is := if_pos h

theorem keptTrace_cons_of_neg (h : concerns d i = false) :
    M.keptTrace concerns d (i :: is) = M.keptTrace concerns (M.next d i) is :=
  if_neg (Bool.not_eq_true _ ▸ h)

end Lemmas

/-- **Projection.** Inputs that do not concern the part keep the relation,
inputs that do are answered alike and lead to related states: so the second
server, given the inputs that are kept, answers as the first one did. -/
theorem projection_run {M : Process σ ι ο} {N : Process σ' ι ο} (concerns : σ → ι → Bool)
    {P : σ → ι → Prop} (R : σ → σ' → Prop)
    (hskip : ∀ d e i, R d e → P d i → concerns d i = false → R (M.next d i) e)
    (hkeep : ∀ d e i, R d e → P d i → concerns d i = true →
      N.answer e i = M.answer d i ∧ R (M.next d i) (N.next e i))
    {d : σ} {e : σ'} (h : R d e) {is : List ι} (he : M.Every P d is) :
    R (M.run d is) (N.run e (M.kept concerns d is)) ∧
      N.trace e (M.kept concerns d is) = M.keptTrace concerns d is := by
  induction is generalizing d e with
  | nil => exact ⟨h, rfl⟩
  | cons i is ih =>
    cases hc : concerns d i with
    | false =>
      rw [kept_cons_of_neg hc, keptTrace_cons_of_neg hc]
      exact ih (hskip d e i h he.1 hc) he.2
    | true =>
      obtain ⟨hanswer, hnext⟩ := hkeep d e i h he.1 hc
      obtain ⟨hrun, htrace⟩ := ih hnext he.2
      rw [kept_cons_of_pos hc, keptTrace_cons_of_pos hc]
      exact ⟨hrun, by rw [trace, hanswer, htrace]⟩

end Process
