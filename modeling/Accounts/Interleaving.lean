import Accounts.Process
import Accounts.Transaction

/-!
# Requests in two atomic steps

A request that reads, then writes on the strength of what it read, is
two atomic steps on the shared state with any number of steps of other
requests in between. `TwoStep` describes such requests: the first step
either completes the request or leaves it *in flight* with what it
remembers, the second step completes it. What a store guarantees between
the two steps – here nothing beyond each step being atomic – is in what
is *not* said: the second step runs on whatever the shared state has
become.

A configuration is the shared state, the requests in flight and the log
of completed requests. A schedule is a list of moves, each starting a
request or finishing one of those in flight, so the configurations
schedules reach are exactly those of some interleaving, of any number of
requests.

`run_invariant` is the proof rule: an invariant of the shared state and
the log, and one for each request in flight, which every move of *any*
request has to leave intact – the interference check that the serial
rule does not have.
-/

/-- **Requests in two steps**, each taking place in an environment. -/
structure TwoStep (σ ε ι κ ο : Type) where
  /-- The first step: it completes the request, or leaves it in flight. -/
  first : ε → ι → σ → σ × (κ ⊕ ο)
  /-- The second step completes the request. -/
  second : ε → κ → σ → σ × ο

/-- A configuration of a system of two-step requests. -/
structure Config (σ κ ο : Type) where
  /-- The shared state, as committed. -/
  shared : σ
  /-- The requests in flight. -/
  flights : List κ
  /-- The completed requests, in the order they completed. -/
  log : List ο

/-- A move of a schedule. -/
inductive Move (ε ι : Type) where
  /-- Take the first step of a new request. -/
  | start : ε → ι → Move ε ι
  /-- Take the second step of the `k`-th request in flight. -/
  | finish : ε → ℕ → Move ε ι

/-- The environment a move takes place in. -/
def Move.env {ε ι : Type} : Move ε ι → ε
  | .start e _ | .finish e _ => e

/-- The request in flight that a move finishes, if it does. -/
def Move.finishing {σ ε ι κ ο : Type} (c : Config σ κ ο) : Move ε ι → Option κ
  | .start _ _ => none
  | .finish _ k => c.flights[k]?

namespace TwoStep

variable {σ ε ι κ ο : Type} (M : TwoStep σ ε ι κ ο)

/-- One move. Finishing a request that is not in flight does nothing. -/
def move (c : Config σ κ ο) : Move ε ι → Config σ κ ο
  | .start e i =>
    match M.first e i c.shared with
    | (d, .inl l) => ⟨d, c.flights ++ [l], c.log⟩
    | (d, .inr o) => ⟨d, c.flights, c.log ++ [o]⟩
  | .finish e k =>
    match c.flights[k]? with
    | none => c
    | some l => ⟨(M.second e l c.shared).1, c.flights.eraseIdx k,
        c.log ++ [(M.second e l c.shared).2]⟩

section Moves

variable {M} {c : Config σ κ ο} {e : ε}

theorem move_start_flight {i : ι} {d : σ} {l : κ} (h : M.first e i c.shared = (d, .inl l)) :
    M.move c (.start e i) = ⟨d, c.flights ++ [l], c.log⟩ := by
  simp only [move, h]

theorem move_start_done {i : ι} {d : σ} {o : ο} (h : M.first e i c.shared = (d, .inr o)) :
    M.move c (.start e i) = ⟨d, c.flights, c.log ++ [o]⟩ := by
  simp only [move, h]

theorem move_finish_none {k : ℕ} (h : c.flights[k]? = none) : M.move c (.finish e k) = c := by
  simp only [move, h]

theorem move_finish {k : ℕ} {l : κ} (h : c.flights[k]? = some l) :
    M.move c (.finish e k) = ⟨(M.second e l c.shared).1, c.flights.eraseIdx k,
      c.log ++ [(M.second e l c.shared).2]⟩ := by
  simp only [move, h]

end Moves

/-- **A move does what the step it takes does**, to the shared state and to
the log: a first step that leaves a request in flight logs nothing, any other
step logs the request it completes. -/
theorem move_cases {M : TwoStep σ ε ι κ ο} {R : Option ο → σ → Prop} (c : Config σ κ ο)
    (m : Move ε ι) (hnone : R none c.shared)
    (hfirst : ∀ i d r, M.first m.env i c.shared = (d, r) → R (r.elim (fun _ => none) some) d)
    (hsecond : ∀ l d o, M.second m.env l c.shared = (d, o) → R (some o) d) :
    ∃ r : Option ο, (M.move c m).log = c.log ++ r.toList ∧ R r (M.move c m).shared := by
  cases m with
  | start e i =>
    cases hf : M.first e i c.shared with
    | mk d r =>
      have hR := hfirst i d r hf
      cases r with
      | inl l =>
        rw [move_start_flight hf]
        exact ⟨none, (List.append_nil _).symm, hR⟩
      | inr o =>
        rw [move_start_done hf]
        exact ⟨some o, rfl, hR⟩
  | finish e k =>
    cases hk : c.flights[k]? with
    | none =>
      rw [move_finish_none hk]
      exact ⟨none, (List.append_nil _).symm, hnone⟩
    | some l =>
      rw [move_finish hk]
      exact ⟨some _, rfl, hsecond l _ _ rfl⟩

/-- The schedules of the system, as runs of moves. -/
def system : Process (Config σ κ ο) (Move ε ι) Unit where
  step m c := ((), M.move c m)

@[simp] theorem system_next (c : Config σ κ ο) (m : Move ε ι) :
    M.system.next c m = M.move c m := rfl

/-- **Serving a request without interference**: its second step directly
after its first, each in an environment of its own. -/
def serial (e e' : ε) (i : ι) (d : σ) : ο × σ :=
  match M.first e i d with
  | (d', .inl l) => ((M.second e' l d').2, (M.second e' l d').1)
  | (d', .inr o) => (o, d')

/-- Starting a request and finishing it at once is serving it. -/
theorem run_start_finish (e e' : ε) (i : ι) (c : Config σ κ ο) {d' : σ} {l : κ}
    (h : M.first e i c.shared = (d', .inl l)) :
    M.system.run c [.start e i, .finish e' c.flights.length]
      = ⟨(M.serial e e' i c.shared).2, c.flights, c.log ++ [(M.serial e e' i c.shared).1]⟩ := by
  have hk : (⟨d', c.flights ++ [l], c.log⟩ : Config σ κ ο).flights[c.flights.length]? = some l :=
    List.getElem?_concat_length
  rw [Process.run_cons, Process.run_cons, Process.run_nil, system_next, system_next,
    move_start_flight h, move_finish hk, serial, h,
    List.eraseIdx_append_of_length_le (Nat.le_refl _), Nat.sub_self, List.eraseIdx_cons_zero,
    List.append_nil]

section Invariants

variable {guard : Config σ κ ο → Move ε ι → Prop} {G : σ → List ο → Prop} {L : σ → κ → Prop}

/-- The invariant of a configuration: one about the shared state and the
log, one about every request in flight. -/
def Inv (G : σ → List ο → Prop) (L : σ → κ → Prop) (c : Config σ κ ο) : Prop :=
  G c.shared c.log ∧ ∀ l ∈ c.flights, L c.shared l

/-- **The interference rule.** Whatever a move does to the shared state,
it has to keep the invariant of every request that stays in flight. -/
theorem run_invariant
    (hfirst : ∀ (c : Config σ κ ο) e i, Inv G L c → guard c (.start e i) →
      (∀ d l, M.first e i c.shared = (d, .inl l) →
        G d c.log ∧ L d l ∧ ∀ l' ∈ c.flights, L d l') ∧
      (∀ d o, M.first e i c.shared = (d, .inr o) →
        G d (c.log ++ [o]) ∧ ∀ l' ∈ c.flights, L d l'))
    (hsecond : ∀ (c : Config σ κ ο) e k l, Inv G L c → guard c (.finish e k) →
      c.flights[k]? = some l → ∀ d o, M.second e l c.shared = (d, o) →
        G d (c.log ++ [o]) ∧ ∀ l' ∈ c.flights.eraseIdx k, L d l')
    {c : Config σ κ ο} (hc : Inv G L c) {ms : List (Move ε ι)}
    (he : M.system.Every guard c ms) : Inv G L (M.system.run c ms) := by
  refine M.system.run_invariant (P := guard) (Inv G L) (fun c m hinv hg => ?_) hc he
  rw [system_next]
  cases m with
  | start e i =>
    obtain ⟨h₁, h₂⟩ := hfirst c e i hinv hg
    cases hf : M.first e i c.shared with
    | mk d r =>
      cases r with
      | inl l =>
        obtain ⟨hG, hl, hL⟩ := h₁ d l hf
        rw [move_start_flight hf]
        refine ⟨hG, fun l' hl' => ?_⟩
        rcases List.mem_append.mp hl' with h | h
        · exact hL l' h
        · rw [List.mem_singleton.mp h]
          exact hl
      | inr o =>
        rw [move_start_done hf]
        exact h₂ d o hf
  | finish e k =>
    cases hk : c.flights[k]? with
    | none =>
      rw [move_finish_none hk]
      exact hinv
    | some l =>
      rw [move_finish hk]
      exact hsecond c e k l hinv hg hk _ _ rfl

end Invariants

end TwoStep

/-! ## Requests in two phases

A request given as two bodies – one that reads and decides, one that
writes – is served as two steps, each in its own transaction: what the
first phase read may be out of date when the second phase writes. When
the first phase completes the request by itself, there is no second
step. -/

/-- A completed request: the environment of its last step, what it was –
a request completed in its first step, or one that had been in flight –
and how it ended. -/
structure Completed (ε ι κ ξ α : Type) where
  /-- The environment of the last step. -/
  env : ε
  /-- The request, or what it remembered in flight. -/
  source : ι ⊕ κ
  /-- The value it returned or the exception it raised. -/
  outcome : Except ξ α

namespace TwoStep

variable {σ ε ι κ ξ α : Type} {handled : ξ → Bool}
  {begin : ε → ι → Tx σ ξ (κ ⊕ α)} {finish : ε → κ → Tx σ ξ α}

/-- **Two phases as two steps.** A first phase that leaves a request in
flight has nothing to commit. -/
def ofPhases (handled : ξ → Bool) (begin : ε → ι → Tx σ ξ (κ ⊕ α)) (finish : ε → κ → Tx σ ξ α) :
    TwoStep σ ε ι κ (Completed ε ι κ ξ α) where
  first e i d :=
    match Tx.serve handled (begin e i) d with
    | (.ok (.inl l), _) => (d, .inl l)
    | (.ok (.inr a), d') => (d', .inr ⟨e, .inl i, .ok a⟩)
    | (.error x, d') => (d', .inr ⟨e, .inl i, .error x⟩)
  second e l d :=
    ((Tx.serve handled (finish e l) d).2, ⟨e, .inr l, (Tx.serve handled (finish e l) d).1⟩)

/-- **A flight remembers what the first phase returned**, and the state
stays as it was. -/
theorem ofPhases_first_flight {e : ε} {i : ι} {d d' : σ} {l : κ}
    (h : (ofPhases handled begin finish).first e i d = (d', .inl l)) :
    d' = d ∧ ∃ s, (begin e i).Returns ⟨d, d⟩ (.inl l) s := by
  unfold ofPhases at h
  simp only at h
  split at h
  · next hs =>
    cases h
    obtain ⟨s, hs, -⟩ := Tx.serve_ok_iff.mp hs
    exact ⟨rfl, s, hs⟩
  · cases h
  · cases h

/-- A request completed in its first step was served as one. -/
theorem ofPhases_first_done {e : ε} {i : ι} {d d' : σ} {o : Completed ε ι κ ξ α}
    (h : (ofPhases handled begin finish).first e i d = (d', .inr o)) :
    o.env = e ∧ o.source = .inl i ∧
      Tx.serve handled (begin e i) d = (o.outcome.map Sum.inr, d') := by
  unfold ofPhases at h
  simp only at h
  split at h
  · cases h
  · next hs =>
    cases h
    exact ⟨rfl, rfl, hs⟩
  · next hs =>
    cases h
    exact ⟨rfl, rfl, hs⟩

/-- A flight that completes has served its second phase. -/
theorem ofPhases_second {e : ε} {l : κ} {d d' : σ} {o : Completed ε ι κ ξ α}
    (h : (ofPhases handled begin finish).second e l d = (d', o)) :
    o.env = e ∧ o.source = .inr l ∧ Tx.serve handled (finish e l) d = (o.outcome, d') := by
  cases h
  exact ⟨rfl, rfl, rfl⟩

/-- **Without interference, two phases are one body.** When a first phase
that leaves a request in flight only reads, serving the phases one after
the other is serving their sequence. -/
theorem ofPhases_serial (e e' : ε) (i : ι) (d : σ)
    (hread : ∀ l s, (begin e i).Returns ⟨d, d⟩ (.inl l) s → s = ⟨d, d⟩) :
    (((ofPhases handled begin finish).serial e e' i d).1.outcome,
      ((ofPhases handled begin finish).serial e e' i d).2)
      = Tx.serve handled (begin e i >>= Sum.elim (finish e') pure) d := by
  rcases Tx.returns_or_raises (begin e i) ⟨d, d⟩ with ⟨r, s, hr⟩ | ⟨x, s, hx⟩
  · have hb : begin e i ⟨d, d⟩ = (.ok r, s) := hr
    cases r with
    | inl l =>
      obtain rfl := hread l s hr
      unfold Tx.serve serial ofPhases Tx.serve
      simp only [hb, bind, Sum.elim_inl]
    | inr a =>
      unfold Tx.serve serial ofPhases Tx.serve
      simp only [hb, bind]
      rfl
  · have hb : begin e i ⟨d, d⟩ = (.error x, s) := hx
    unfold Tx.serve serial ofPhases Tx.serve
    simp only [hb, bind]

end TwoStep
