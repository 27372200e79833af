import Accounts.Transaction

/-!
# Bodies that tell what they spend

What a body answers does not tell how much work it was, and a clock may.
A `Metered` body also tells the work it has done, in the order in which it
was done, whether it returns or raises. What counts as work is a parameter.

A program is metered by writing it a second time, with `Metered.spend` where
it works. That it is the same program is an equation: `Metered.body` forgets
the work, and the simp lemmas about it compute the program that is left. The
lemmas about `Metered.spent` compute the work, part by part.
-/

/-- **A body that tells the work it has done.** -/
def Metered (ω σ ε α : Type) : Type := Session σ → List ω × Except ε α × Session σ

namespace Metered

variable {ω σ ε α β : Type}

instance : Monad (Metered ω σ ε) where
  pure a := fun s => ([], .ok a, s)
  bind t k := fun s =>
    match t s with
    | (w, .ok a, s') => (w ++ (k a s').1, (k a s').2)
    | (w, .error e, s') => (w, .error e, s')

/-- Do some work. -/
def spend (w : ω) : Metered ω σ ε Unit := fun s => ([w], .ok (), s)

/-- A body that does no work that counts. -/
def free (t : Tx σ ε α) : Metered ω σ ε α := fun s => ([], t s)

/-- **The body**, without the work. -/
def body (t : Metered ω σ ε α) : Tx σ ε α := fun s => (t s).2

/-- **The work** the body does in a session. -/
def spent (t : Metered ω σ ε α) (s : Session σ) : List ω := (t s).1

/-! ## What is left without the work -/

@[simp] theorem body_pure (a : α) : (pure a : Metered ω σ ε α).body = pure a := rfl

@[simp] theorem body_spend (w : ω) : (spend w : Metered ω σ ε Unit).body = pure () := rfl

@[simp] theorem body_free (t : Tx σ ε α) : (free t : Metered ω σ ε α).body = t := rfl

@[simp] theorem body_bind (t : Metered ω σ ε α) (k : α → Metered ω σ ε β) :
    (t >>= k).body = t.body >>= fun a => (k a).body := by
  funext s
  rcases hts : t s with ⟨w, e | a, s'⟩
  · simp only [body, bind, hts]
  · simp only [body, bind, hts]

/-! ## The work -/

variable {s s' : Session σ}

@[simp] theorem spent_pure (a : α) : (pure a : Metered ω σ ε α).spent s = [] := rfl

@[simp] theorem spent_spend (w : ω) : (spend w : Metered ω σ ε Unit).spent s = [w] := rfl

@[simp] theorem spent_free (t : Tx σ ε α) : (free t : Metered ω σ ε α).spent s = [] := rfl

/-- **The work of a sequence**, if its first part returns. -/
theorem spent_bind_of_returns {t : Metered ω σ ε α} {k : α → Metered ω σ ε β} {a : α}
    (h : t.body.Returns s a s') : (t >>= k).spent s = t.spent s ++ (k a).spent s' := by
  have ht : t s = (t.spent s, .ok a, s') := Prod.ext rfl h
  show (match t s with
    | (w, .ok a, s') => (w ++ (k a s').1, (k a s').2)
    | (w, .error e, s') => (w, .error e, s')).1 = _
  rw [ht]
  rfl

/-- **The work of a sequence**, if its first part raises. -/
theorem spent_bind_of_raises {t : Metered ω σ ε α} {k : α → Metered ω σ ε β} {e : ε}
    (h : t.body.Raises s e s') : (t >>= k).spent s = t.spent s := by
  have ht : t s = (t.spent s, .error e, s') := Prod.ext rfl h
  show (match t s with
    | (w, .ok a, s') => (w ++ (k a s').1, (k a s').2)
    | (w, .error e, s') => (w, .error e, s')).1 = _
  rw [ht]

/-- A part that does no work, before another. -/
theorem spent_free_bind {t : Tx σ ε α} {k : α → Metered ω σ ε β} {a : α} (h : t.Returns s a s') :
    (free t >>= k).spent s = (k a).spent s' :=
  spent_bind_of_returns (t := free t) h

/-- A part that does no work, before one that does none when it is come to. -/
theorem spent_free_bind_eq_nil {t : Tx σ ε α} {k : α → Metered ω σ ε β}
    (h : ∀ a s', t.Returns s a s' → (k a).spent s' = []) : (free t >>= k).spent s = [] := by
  rcases t.returns_or_raises s with ⟨a, s', ht⟩ | ⟨e, s', ht⟩
  · exact (spent_free_bind ht).trans (h a s' ht)
  · exact spent_bind_of_raises (t := free t) ht

/-- A part that does no work, after another. -/
theorem spent_bind_free {t : Metered ω σ ε α} {k : α → Tx σ ε β} :
    (t >>= fun a => free (k a)).spent s = t.spent s := by
  rcases t.body.returns_or_raises s with ⟨a, s', h⟩ | ⟨e, s', h⟩
  · rw [spent_bind_of_returns h, spent_free, List.append_nil]
  · exact spent_bind_of_raises h

end Metered
