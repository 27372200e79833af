import Mathlib.Control.Basic

/-!
# Request-scoped transactions

A request runs one body of code inside one transaction on a shared
state. The body reads what its own statements have led to, sends
statements, and may raise. What is committed when the request ends is a
matter of *how* it ended: a body that returns, and a body that raises an
exception the application handles, both commit what they had written; an
exception nobody handles rolls the transaction back.

That handled exceptions commit is what makes atomicity something to be
proved. `Clean` is the property a body needs: whenever it raises a
handled exception, it leaves nothing behind. The rules below establish
it from the shape of the body – reads first, then statements, and after
the first statement nothing but statements whose failure undoes the
transaction.

A statement that fails (a violated constraint, a value out of range)
undoes everything the transaction had written, which is `flush`.

The state, the exceptions and which of them are handled are parameters.
-/

/-- A fallible computation in sequence returns when both parts do. -/
theorem Except.bind_eq_ok_iff {ε α β : Type} {x : Except ε α} {f : α → Except ε β} {b : β} :
    x >>= f = .ok b ↔ ∃ a, x = .ok a ∧ f a = .ok b := by
  cases x with
  | error e =>
    constructor
    · intro h
      cases h
    · rintro ⟨a, h, -⟩
      cases h
  | ok a =>
    constructor
    · intro h
      exact ⟨a, rfl, h⟩
    · rintro ⟨a', h, hf⟩
      cases h
      exact hf

/-- It raises when one of them does. -/
theorem Except.bind_eq_error_iff {ε α β : Type} {x : Except ε α} {k : α → Except ε β} {e : ε} :
    x >>= k = .error e ↔ x = .error e ∨ ∃ a, x = .ok a ∧ k a = .error e := by
  cases x with
  | error e' =>
    show Except.error e' = .error e ↔ _
    simp
  | ok a =>
    show k a = .error e ↔ _
    simp

/-- A computation that says it returned has returned something. -/
theorem Except.isOk_iff_exists {ε α : Type} {x : Except ε α} :
    x.isOk = true ↔ ∃ a, x = .ok a := by
  cases x <;> simp [Except.isOk, Except.toBool]

/-- What a transaction holds: the state it began from, and the state its
own statements have led to. -/
structure Session (σ : Type) where
  /-- The state when the transaction began. -/
  committed : σ
  /-- The state the transaction sees. -/
  working : σ

/-- **The body of a request**: it returns a value or raises, and leaves a
session behind either way. -/
def Tx (σ ε α : Type) : Type := Session σ → Except ε α × Session σ

namespace Tx

variable {σ ε α β γ : Type}

instance : Monad (Tx σ ε) where
  pure a := fun s => (.ok a, s)
  bind t k := fun s =>
    match t s with
    | (.ok a, s') => k a s'
    | (.error e, s') => (.error e, s')

/-- Raise an exception. -/
def raise (e : ε) : Tx σ ε α := fun s => (.error e, s)

/-- Read the state the transaction sees. -/
def read (g : σ → α) : Tx σ ε α := fun s => (.ok (g s.working), s)

/-- **Send one statement.** When the store refuses it, everything the
transaction had written is undone and the store's exception is raised. -/
def flush (f : σ → Except ε (α × σ)) : Tx σ ε α := fun s =>
  match f s.working with
  | .ok (a, d) => (.ok a, { s with working := d })
  | .error e => (.error e, { s with working := s.committed })

/-- Raise what a fallible computation raises. -/
def lift : Except ε α → Tx σ ε α
  | .ok a => pure a
  | .error e => raise e

/-- Raise `e` unless a value is there. -/
def orRaise (e : ε) : Option α → Tx σ ε α
  | some a => pure a
  | none => raise e

/-- `try: … except …: raise …`: exceptions are replaced, the session is
left as the body left it. -/
def mapError (g : ε → ε) (t : Tx σ ε α) : Tx σ ε α := fun s =>
  match t s with
  | (.ok a, s') => (.ok a, s')
  | (.error e, s') => (.error (g e), s')

/-- **A body among more exceptions** than its own. -/
def liftError {ε' : Type} (g : ε → ε') (t : Tx σ ε α) : Tx σ ε' α := fun s =>
  match t s with
  | (.ok a, s') => (.ok a, s')
  | (.error e, s') => (.error (g e), s')

/-- `try: … except …:` – the body's exception is a value, and the session
what the body has left. -/
def attempt {ε' : Type} (t : Tx σ ε α) : Tx σ ε' (Except ε α) := fun s => (.ok (t s).1, (t s).2)

/-- **Serve one request** on a committed state: a return and a handled
exception commit, any other exception rolls back. -/
def serve (handled : ε → Bool) (t : Tx σ ε α) (d : σ) : Except ε α × σ :=
  match t ⟨d, d⟩ with
  | (.ok a, s) => (.ok a, s.working)
  | (.error e, s) => (.error e, if handled e then s.working else d)

/-! ## How a body ends -/

/-- The body returns `a` and leaves `s'`. -/
def Returns (t : Tx σ ε α) (s : Session σ) (a : α) (s' : Session σ) : Prop :=
  t s = (.ok a, s')

/-- The body raises `e` and leaves `s'`. -/
def Raises (t : Tx σ ε α) (s : Session σ) (e : ε) (s' : Session σ) : Prop :=
  t s = (.error e, s')

@[simp] theorem returns_pure {a b : α} {s s' : Session σ} :
    (pure a : Tx σ ε α).Returns s b s' ↔ b = a ∧ s' = s := by
  show ((Except.ok a, s) : Except ε α × Session σ) = (.ok b, s') ↔ _
  simp [eq_comm]

@[simp] theorem raises_pure {a : α} {e : ε} {s s' : Session σ} :
    ¬ (pure a : Tx σ ε α).Raises s e s' := by
  intro h
  cases h

@[simp] theorem returns_raise {e : ε} {a : α} {s s' : Session σ} :
    ¬ (raise e : Tx σ ε α).Returns s a s' := by
  intro h
  cases h

@[simp] theorem raises_raise {e e' : ε} {s s' : Session σ} :
    (raise e : Tx σ ε α).Raises s e' s' ↔ e' = e ∧ s' = s := by
  simp [Raises, raise, eq_comm]

@[simp] theorem returns_read {g : σ → α} {a : α} {s s' : Session σ} :
    (read g : Tx σ ε α).Returns s a s' ↔ a = g s.working ∧ s' = s := by
  simp [Returns, read, eq_comm]

@[simp] theorem raises_read {g : σ → α} {e : ε} {s s' : Session σ} :
    ¬ (read g : Tx σ ε α).Raises s e s' := by
  intro h
  cases h

/-- **A sequence returns when both parts return.** -/
@[simp] theorem returns_bind {t : Tx σ ε α} {k : α → Tx σ ε β} {s s' : Session σ} {b : β} :
    (t >>= k).Returns s b s' ↔ ∃ a s₁, t.Returns s a s₁ ∧ (k a).Returns s₁ b s' := by
  unfold Returns
  show (match t s with | (.ok a, s') => k a s' | (.error e, s') => (.error e, s')) = _ ↔ _
  cases h : t s with
  | mk r s₁ =>
    cases r with
    | ok a =>
      exact ⟨fun hk => ⟨a, s₁, rfl, hk⟩, fun ⟨_, _, ha, hk⟩ => by cases ha; exact hk⟩
    | error e => simp

/-- **A sequence raises when its first part does, or the second after the
first returned.** -/
@[simp] theorem raises_bind {t : Tx σ ε α} {k : α → Tx σ ε β} {s s' : Session σ} {e : ε} :
    (t >>= k).Raises s e s' ↔
      t.Raises s e s' ∨ ∃ a s₁, t.Returns s a s₁ ∧ (k a).Raises s₁ e s' := by
  unfold Raises Returns
  show (match t s with | (.ok a, s') => k a s' | (.error e, s') => (.error e, s')) = _ ↔ _
  cases h : t s with
  | mk r s₁ =>
    cases r with
    | ok a =>
      refine ⟨fun hk => Or.inr ⟨a, s₁, rfl, hk⟩, fun hk => ?_⟩
      rcases hk with hk | ⟨_, _, ha, hk⟩
      · cases hk
      · cases ha
        exact hk
    | error e' => simp

@[simp] theorem returns_flush {f : σ → Except ε (α × σ)} {s s' : Session σ} {a : α} :
    (flush f).Returns s a s' ↔
      ∃ d, f s.working = .ok (a, d) ∧ s' = { s with working := d } := by
  unfold Returns flush
  cases f s.working with
  | ok p => exact ⟨fun h => by cases h; exact ⟨p.2, rfl, rfl⟩, fun ⟨_, h, hs⟩ => by
      cases h; rw [hs]⟩
  | error e => simp

@[simp] theorem raises_flush {e : ε} {f : σ → Except ε (α × σ)} {s s' : Session σ} :
    (flush f).Raises s e s' ↔
      f s.working = .error e ∧ s' = { s with working := s.committed } := by
  unfold Raises flush
  cases f s.working with
  | ok p => simp
  | error e' => simp [eq_comm]

@[simp] theorem returns_lift {x : Except ε α} {a : α} {s s' : Session σ} :
    (lift x : Tx σ ε α).Returns s a s' ↔ x = .ok a ∧ s' = s := by
  cases x <;> simp [lift, eq_comm]

@[simp] theorem raises_lift {x : Except ε α} {e : ε} {s s' : Session σ} :
    (lift x : Tx σ ε α).Raises s e s' ↔ x = .error e ∧ s' = s := by
  cases x <;> simp [lift, eq_comm]

@[simp] theorem returns_orRaise {e : ε} {o : Option α} {a : α} {s s' : Session σ} :
    (orRaise e o : Tx σ ε α).Returns s a s' ↔ o = some a ∧ s' = s := by
  cases o <;> simp [orRaise, eq_comm]

@[simp] theorem raises_orRaise {e e' : ε} {o : Option α} {s s' : Session σ} :
    (orRaise e o : Tx σ ε α).Raises s e' s' ↔ o = none ∧ e' = e ∧ s' = s := by
  cases o <;> simp [orRaise]

@[simp] theorem returns_liftError {ε' : Type} {g : ε → ε'} {t : Tx σ ε α} {s s' : Session σ}
    {a : α} : (liftError g t).Returns s a s' ↔ t.Returns s a s' := by
  unfold Returns liftError
  cases h : t s with
  | mk r s₁ => cases r <;> simp

@[simp] theorem raises_liftError {ε' : Type} {g : ε → ε'} {t : Tx σ ε α} {s s' : Session σ}
    {e : ε'} : (liftError g t).Raises s e s' ↔ ∃ e₀, t.Raises s e₀ s' ∧ e = g e₀ := by
  unfold Raises liftError
  cases h : t s with
  | mk r s₁ =>
    cases r with
    | ok a => simp
    | error e₀ =>
      simp only [Prod.mk.injEq, Except.error.injEq]
      exact ⟨fun ⟨h₁, h₂⟩ => ⟨e₀, ⟨rfl, h₂⟩, h₁.symm⟩, fun ⟨e', ⟨h₁, h₂⟩, h₃⟩ =>
        ⟨by rw [h₃, h₁], h₂⟩⟩

@[simp] theorem returns_mapError {g : ε → ε} {t : Tx σ ε α} {s s' : Session σ} {a : α} :
    (mapError g t).Returns s a s' ↔ t.Returns s a s' := returns_liftError

@[simp] theorem raises_mapError {g : ε → ε} {t : Tx σ ε α} {s s' : Session σ} {e : ε} :
    (mapError g t).Raises s e s' ↔ ∃ e₀, t.Raises s e₀ s' ∧ e = g e₀ := raises_liftError

@[simp] theorem returns_ite {c : Prop} [Decidable c] {t u : Tx σ ε α} {s s' : Session σ}
    {a : α} : (if c then t else u).Returns s a s' ↔
      (c ∧ t.Returns s a s') ∨ (¬ c ∧ u.Returns s a s') := by
  by_cases h : c <;> simp [h]

@[simp] theorem raises_ite {c : Prop} [Decidable c] {t u : Tx σ ε α} {s s' : Session σ}
    {e : ε} : (if c then t else u).Raises s e s' ↔
      (c ∧ t.Raises s e s') ∨ (¬ c ∧ u.Raises s e s') := by
  by_cases h : c <;> simp [h]

/-- A body either returns or raises. -/
theorem returns_or_raises (t : Tx σ ε α) (s : Session σ) :
    (∃ a s', t.Returns s a s') ∨ ∃ e s', t.Raises s e s' := by
  unfold Returns Raises
  cases h : t s with
  | mk r s₁ => cases r <;> simp

/-- A body ends in one way. -/
theorem Returns.eq {t : Tx σ ε α} {s s₁ s₂ : Session σ} {a b : α} (h₁ : t.Returns s a s₁)
    (h₂ : t.Returns s b s₂) : a = b ∧ s₁ = s₂ := by
  have h := h₁.symm.trans h₂
  cases h
  exact ⟨rfl, rfl⟩

theorem Returns.not_raises {t : Tx σ ε α} {s s₁ s₂ : Session σ} {a : α} {e : ε}
    (h₁ : t.Returns s a s₁) : ¬ t.Raises s e s₂ := by
  intro h₂
  have h := h₁.symm.trans h₂
  cases h

/-- **Two ways to go on are the same** where they are from what the
beginning returns. -/
theorem bind_congr_returns {t : Tx σ ε α} {k l : α → Tx σ ε β} {s : Session σ}
    (h : ∀ a s', t.Returns s a s' → k a s' = l a s') : (t >>= k) s = (t >>= l) s := by
  show (match t s with | (.ok a, s') => k a s' | (.error e, s') => (.error e, s'))
    = (match t s with | (.ok a, s') => l a s' | (.error e, s') => (.error e, s'))
  cases ht : t s with
  | mk r s₁ =>
    cases r with
    | ok a => exact h a s₁ ht
    | error e => rfl

instance : LawfulMonad (Tx σ ε) := LawfulMonad.mk' (Tx σ ε)
  (fun t => by
    funext s
    show (match t s with
      | (.ok a, s') => (Except.ok (id a), s')
      | (.error e, s') => (.error e, s')) = _
    cases t s with
    | mk r s₁ => cases r <;> rfl)
  (fun _ _ => rfl)
  (fun t k l => by
    funext s
    show (match (match t s with | (.ok a, s') => k a s' | (.error e, s') => (.error e, s')) with
      | (.ok a, s') => l a s' | (.error e, s') => (.error e, s')) =
      (match t s with
      | (.ok a, s') => (match k a s' with
        | (.ok b, s'') => l b s''
        | (.error e, s'') => (.error e, s''))
      | (.error e, s') => (.error e, s'))
    cases t s with
    | mk r s₁ => cases r <;> rfl)

/-- Fallible computations in sequence, raised one after the other. -/
theorem lift_bind (x : Except ε α) (f : α → Except ε β) :
    (lift (x >>= f) : Tx σ ε β) = lift x >>= fun a => lift (f a) := by
  cases x <;> rfl

/-- Nothing follows an exception. -/
@[simp] theorem raise_bind (e : ε) (k : α → Tx σ ε β) : (raise e : Tx σ ε α) >>= k = raise e :=
  rfl

/-- **A body that dresses what another returns** returns when that one
does, and leaves what it leaves. -/
theorem returns_bind_pure {t : Tx σ ε α} {f : α → β} {b : β} {s s' : Session σ} :
    (t >>= fun a => pure (f a)).Returns s b s' ↔ ∃ a, t.Returns s a s' ∧ b = f a := by
  rw [returns_bind]
  constructor
  · rintro ⟨a, s₁, ht, hp⟩
    obtain ⟨rfl, rfl⟩ := returns_pure.mp hp
    exact ⟨a, ht, rfl⟩
  · rintro ⟨a, ht, rfl⟩
    exact ⟨a, s', ht, returns_pure.mpr ⟨rfl, rfl⟩⟩

/-- And raises when that one does. -/
theorem raises_bind_pure {t : Tx σ ε α} {f : α → β} {e : ε} {s s' : Session σ} :
    (t >>= fun a => pure (f a)).Raises s e s' ↔ t.Raises s e s' := by
  rw [raises_bind]
  constructor
  · rintro (h | ⟨_, _, -, hp⟩)
    · exact h
    · exact absurd hp raises_pure
  · exact Or.inl

@[simp] theorem returns_map {t : Tx σ ε α} {f : α → β} {b : β} {s s' : Session σ} :
    (f <$> t).Returns s b s' ↔ ∃ a, t.Returns s a s' ∧ b = f a := by
  rw [← bind_pure_comp]
  exact returns_bind_pure

/-! ## Serving -/

/-- A request that returns commits what its body wrote. -/
theorem serve_ok_iff {handled : ε → Bool} {t : Tx σ ε α} {d d' : σ} {a : α} :
    serve handled t d = (.ok a, d') ↔ ∃ s, t.Returns ⟨d, d⟩ a s ∧ d' = s.working := by
  unfold serve Returns
  cases h : t ⟨d, d⟩ with
  | mk r s₁ =>
    cases r with
    | ok b =>
      simp only [Prod.mk.injEq, Except.ok.injEq]
      constructor
      · rintro ⟨rfl, rfl⟩
        exact ⟨s₁, ⟨rfl, rfl⟩, rfl⟩
      · rintro ⟨s, ⟨rfl, rfl⟩, rfl⟩
        exact ⟨rfl, rfl⟩
    | error e => simp

/-- A request that raises commits or rolls back, by who handles the
exception. -/
theorem serve_error_iff {handled : ε → Bool} {t : Tx σ ε α} {d d' : σ} {e : ε} :
    serve handled t d = (.error e, d') ↔
      ∃ s, t.Raises ⟨d, d⟩ e s ∧ d' = if handled e then s.working else d := by
  unfold serve Raises
  cases h : t ⟨d, d⟩ with
  | mk r s₁ =>
    cases r with
    | ok a => simp
    | error e' =>
      simp only [Prod.mk.injEq, Except.error.injEq]
      constructor
      · rintro ⟨rfl, rfl⟩
        exact ⟨s₁, ⟨rfl, rfl⟩, rfl⟩
      · rintro ⟨s, ⟨rfl, rfl⟩, rfl⟩
        exact ⟨rfl, rfl⟩

/-- How a request fails is how its body does. -/
theorem serve_fst_eq_error_iff {handled : ε → Bool} {t : Tx σ ε α} {d : σ} {e : ε} :
    (serve handled t d).1 = .error e ↔ ∃ s, t.Raises ⟨d, d⟩ e s := by
  constructor
  · intro h
    have hserve : serve handled t d = (.error e, _) := Prod.ext h rfl
    obtain ⟨s, hs, -⟩ := serve_error_iff.mp hserve
    exact ⟨s, hs⟩
  · rintro ⟨s, hs⟩
    exact congrArg Prod.fst (serve_error_iff.mpr ⟨s, hs, rfl⟩)

/-- A request whose value is mapped. -/
theorem serve_map {handled : ε → Bool} (t : Tx σ ε α) (g : α → β) (d : σ) :
    serve handled (t >>= fun a => Pure.pure (g a)) d
      = ((serve handled t d).1.map g, (serve handled t d).2) := by
  rcases returns_or_raises t ⟨d, d⟩ with ⟨a, s, h⟩ | ⟨e, s, h⟩
  · rw [show serve handled t d = (.ok a, s.working) from serve_ok_iff.mpr ⟨s, h, rfl⟩]
    exact serve_ok_iff.mpr ⟨s, returns_bind_pure.mpr ⟨a, h, rfl⟩, rfl⟩
  · rw [show serve handled t d = (.error e, _) from serve_error_iff.mpr ⟨s, h, rfl⟩]
    exact serve_error_iff.mpr ⟨s, raises_bind.mpr (Or.inl h), rfl⟩

/-- A sequence among more exceptions is a sequence of its parts. -/
theorem liftError_bind {ε' : Type} (g : ε → ε') (t : Tx σ ε α) (k : α → Tx σ ε β) :
    liftError g (t >>= k) = liftError g t >>= fun a => liftError g (k a) := by
  funext s
  unfold liftError
  cases h : t s with
  | mk r s' =>
    cases r <;> simp only [bind, h]

/-- **A body among more exceptions** is served as it is alone, if the same
ones are handled. -/
theorem serve_liftError {ε' : Type} {g : ε → ε'} {handled : ε → Bool} {handled' : ε' → Bool}
    (hg : ∀ e, handled' (g e) = handled e) (t : Tx σ ε α) (d : σ) :
    serve handled' (liftError g t) d
      = ((serve handled t d).1.mapError g, (serve handled t d).2) := by
  unfold serve liftError
  cases h : t ⟨d, d⟩ with
  | mk r s =>
    cases r with
    | ok a => rfl
    | error e => simp only [hg, Except.mapError]

/-- An attempt returns how its body ends. -/
theorem returns_attempt {ε' : Type} {t : Tx σ ε α} {s s' : Session σ} {r : Except ε α} :
    (attempt t : Tx σ ε' (Except ε α)).Returns s r s' ↔ t s = (r, s') := by
  unfold Returns attempt
  simp only [Prod.ext_iff, Except.ok.injEq]

/-! ## Atomicity -/

/-- The body only reads. -/
def Reads (t : Tx σ ε α) : Prop := ∀ s, (t s).2 = s

/-- The body never moves the state the transaction began from. -/
def KeepsCommitted (t : Tx σ ε α) : Prop := ∀ s, (t s).2.committed = s.committed

/-- **The body leaves nothing behind when it raises a handled exception**,
provided the transaction had written nothing before it. -/
structure Clean (handled : ε → Bool) (t : Tx σ ε α) : Prop where
  /-- It keeps the state the transaction began from. -/
  keeps : KeepsCommitted t
  /-- It leaves that state when it raises a handled exception. -/
  clean : ∀ s e s', s.working = s.committed → t.Raises s e s' → handled e = true →
    s'.working = s.committed

/-- **The body undoes the transaction when it raises a handled
exception**, whatever the transaction had written before it. -/
structure Undoes (handled : ε → Bool) (t : Tx σ ε α) : Prop where
  /-- It keeps the state the transaction began from. -/
  keeps : KeepsCommitted t
  /-- It goes back to that state when it raises a handled exception. -/
  undoes : ∀ s e s', t.Raises s e s' → handled e = true → s'.working = s.committed

/-- **The body preserves a property of the state** – provided the state the
transaction began from has it, which is where a refused statement goes back
to. -/
structure Preserves (I : σ → Prop) (t : Tx σ ε α) : Prop where
  /-- It keeps the state the transaction began from. -/
  keeps : KeepsCommitted t
  /-- It keeps the property. -/
  preserves : ∀ s, I s.committed → I s.working → I (t s).2.working

/-- **Whatever the body raises, nobody handles.** -/
def Escapes (handled : ε → Bool) (t : Tx σ ε α) : Prop :=
  ∀ s e s', t.Raises s e s' → handled e = false

section Rules

variable {handled : ε → Bool}

theorem Reads.pure (a : α) : Reads (Pure.pure a : Tx σ ε α) := fun _ => rfl

theorem Reads.raise (e : ε) : Reads (Tx.raise e : Tx σ ε α) := fun _ => rfl

theorem Reads.read (g : σ → α) : Reads (Tx.read g : Tx σ ε α) := fun _ => rfl

theorem Reads.lift (x : Except ε α) : Reads (Tx.lift x : Tx σ ε α) := by
  cases x <;> exact fun _ => rfl

theorem Reads.orRaise (e : ε) (o : Option α) : Reads (Tx.orRaise e o : Tx σ ε α) := by
  cases o <;> exact fun _ => rfl

theorem Reads.bind {t : Tx σ ε α} {k : α → Tx σ ε β} (ht : Reads t)
    (hk : ∀ a, Reads (k a)) : Reads (t >>= k) := by
  intro s
  have h := ht s
  show (match t s with | (.ok a, s') => k a s' | (.error e, s') => (.error e, s')).2 = s
  cases hts : t s with
  | mk r s₁ =>
    rw [hts] at h
    cases r with
    | ok a => exact (hk a s₁).trans h
    | error e => exact h

/-- A body that only reads returns with the session it was given. -/
theorem Reads.returns {t : Tx σ ε α} (ht : Reads t) {s s' : Session σ} {a : α}
    (h : t.Returns s a s') : s' = s := by
  have := ht s
  rw [show t s = _ from h] at this
  exact this

theorem Reads.raises {t : Tx σ ε α} (ht : Reads t) {s s' : Session σ} {e : ε}
    (h : t.Raises s e s') : s' = s := by
  have := ht s
  rw [show t s = _ from h] at this
  exact this

/-- A body that only reads does so among more exceptions. -/
theorem Reads.liftError {ε' : Type} {g : ε → ε'} {t : Tx σ ε α} (ht : Reads t) :
    Reads (Tx.liftError g t) := by
  intro s
  have hs : (t s).2 = s := ht s
  unfold Tx.liftError
  cases h : t s with
  | mk r s' =>
    rw [h] at hs
    cases r <;> exact hs

/-- An attempt reads what its body does. -/
theorem Reads.attempt {ε' : Type} {t : Tx σ ε α} (ht : Reads t) :
    Reads (Tx.attempt t : Tx σ ε' (Except ε α)) := ht

/-- A request that only reads leaves the state. -/
theorem Reads.serve {handled : ε → Bool} {t : Tx σ ε α} (ht : Reads t) (d : σ) :
    (Tx.serve handled t d).2 = d := by
  rcases returns_or_raises t ⟨d, d⟩ with ⟨a, s, h⟩ | ⟨e, s, h⟩
  · obtain rfl := ht.returns h
    rw [serve_ok_iff.mpr ⟨_, h, rfl⟩]
  · obtain rfl := ht.raises h
    rw [serve_error_iff.mpr ⟨_, h, rfl⟩]
    split <;> rfl

/-- **After a body, code that only reads** either has what the body wrote
committed, or raises and has it rolled back. -/
theorem serve_bind_reads {handled : ε → Bool} {t : Tx σ ε α} {k : α → Tx σ ε β}
    (hk : ∀ a, Reads (k a)) (d : σ) :
    (serve handled (t >>= k) d).2 = (serve handled t d).2 ∨ (serve handled (t >>= k) d).2 = d := by
  rcases returns_or_raises t ⟨d, d⟩ with ⟨a, s, ht⟩ | ⟨e, s, ht⟩
  · have hserve : serve handled t d = (.ok a, s.working) := serve_ok_iff.mpr ⟨s, ht, rfl⟩
    rcases returns_or_raises (k a) s with ⟨b, s', hb⟩ | ⟨e, s', he⟩
    · obtain rfl := (hk a).returns hb
      left
      rw [hserve, serve_ok_iff.mpr ⟨s', returns_bind.mpr ⟨a, s', ht, hb⟩, rfl⟩]
    · obtain rfl := (hk a).raises he
      rw [hserve, serve_error_iff.mpr ⟨s', raises_bind.mpr (Or.inr ⟨a, s', ht, he⟩), rfl⟩]
      dsimp only
      split
      · exact Or.inl rfl
      · exact Or.inr rfl
  · left
    rw [serve_error_iff.mpr ⟨s, ht, rfl⟩,
      serve_error_iff.mpr ⟨s, raises_bind.mpr (Or.inl ht), rfl⟩]

theorem KeepsCommitted.of_reads {t : Tx σ ε α} (h : Reads t) : KeepsCommitted t :=
  fun s => congrArg Session.committed (h s)

theorem KeepsCommitted.flush (f : σ → Except ε (α × σ)) : KeepsCommitted (Tx.flush f) := by
  intro s
  unfold Tx.flush
  cases f s.working <;> rfl

theorem KeepsCommitted.mapError {g : ε → ε} {t : Tx σ ε α} (h : KeepsCommitted t) :
    KeepsCommitted (Tx.mapError g t) := by
  intro s
  have := h s
  unfold Tx.mapError
  cases hts : t s with
  | mk r s₁ =>
    rw [hts] at this
    cases r <;> exact this

theorem KeepsCommitted.bind {t : Tx σ ε α} {k : α → Tx σ ε β} (ht : KeepsCommitted t)
    (hk : ∀ a, KeepsCommitted (k a)) : KeepsCommitted (t >>= k) := by
  intro s
  have h := ht s
  show (match t s with | (.ok a, s') => k a s' | (.error e, s') => (.error e, s')).2.committed = _
  cases hts : t s with
  | mk r s₁ =>
    rw [hts] at h
    cases r with
    | ok a => exact (hk a s₁).trans h
    | error e => exact h

theorem KeepsCommitted.returns {t : Tx σ ε α} (ht : KeepsCommitted t) {s s' : Session σ} {a : α}
    (h : t.Returns s a s') : s'.committed = s.committed := by
  have := ht s
  rw [show t s = _ from h] at this
  exact this

section Invariants

variable {I : σ → Prop}

theorem Preserves.of_reads {t : Tx σ ε α} (h : Reads t) : Preserves I t :=
  ⟨KeepsCommitted.of_reads h, fun s _ hs => by rwa [h s]⟩

/-- A statement that preserves the property. -/
theorem Preserves.flush {f : σ → Except ε (α × σ)}
    (h : ∀ d a d', f d = .ok (a, d') → I d → I d') : Preserves I (Tx.flush f) := by
  refine ⟨KeepsCommitted.flush f, fun s hc hs => ?_⟩
  unfold Tx.flush
  cases hf : f s.working with
  | ok p => exact h _ _ _ hf hs
  | error e => exact hc

theorem Preserves.bind {t : Tx σ ε α} {k : α → Tx σ ε β} (ht : Preserves I t)
    (hk : ∀ a, Preserves I (k a)) : Preserves I (t >>= k) := by
  refine ⟨ht.keeps.bind (fun a => (hk a).keeps), fun s hc hs => ?_⟩
  have hw := ht.preserves s hc hs
  have hc' : I (t s).2.committed := ht.keeps s ▸ hc
  show I (match t s with | (.ok a, s') => k a s' | (.error e, s') => (.error e, s')).2.working
  cases hts : t s with
  | mk r s₁ =>
    rw [hts] at hw hc'
    cases r with
    | ok a => exact (hk a).preserves s₁ hc' hw
    | error e => exact hw

/-- A loop of statements. -/
theorem Preserves.forM {f : β → Tx σ ε PUnit} (hf : ∀ b, Preserves I (f b)) (bs : List β) :
    Preserves I (ForM.forM bs f : Tx σ ε PUnit) := by
  induction bs with
  | nil => exact Preserves.of_reads (Reads.pure _)
  | cons b bs ih =>
    rw [List.forM_cons]
    exact Preserves.bind (hf b) (fun _ => ih)

/-- **Serving the body preserves the property**, however it ends. -/
theorem Preserves.serve {t : Tx σ ε α} (h : Preserves I t) {d : σ} (hd : I d) :
    I (Tx.serve handled t d).2 := by
  have hw := h.preserves ⟨d, d⟩ hd hd
  unfold Tx.serve
  cases ht : t ⟨d, d⟩ with
  | mk r s =>
    rw [ht] at hw
    cases r with
    | ok a => exact hw
    | error e =>
      show I (if handled e then s.working else d)
      split
      · exact hw
      · exact hd

end Invariants

theorem Escapes.pure (a : α) : Escapes handled (Pure.pure a : Tx σ ε α) :=
  fun _ _ _ h => absurd h raises_pure

theorem Escapes.lift {x : Except ε α} (h : ∀ e, x = .error e → handled e = false) :
    Escapes handled (Tx.lift x : Tx σ ε α) :=
  fun _ e _ hr => h e (raises_lift.mp hr).1

theorem Escapes.orRaise {e : ε} (h : handled e = false) (o : Option α) :
    Escapes handled (Tx.orRaise e o : Tx σ ε α) := by
  intro s e' s' hr
  rw [(raises_orRaise.mp hr).2.1, h]

theorem Escapes.flush {f : σ → Except ε (α × σ)} (h : ∀ d e, f d = .error e → handled e = false) :
    Escapes handled (Tx.flush f) :=
  fun _ e _ hr => h _ e (raises_flush.mp hr).1

theorem Escapes.bind {t : Tx σ ε α} {k : α → Tx σ ε β} (ht : Escapes handled t)
    (hk : ∀ a, Escapes handled (k a)) : Escapes handled (t >>= k) := by
  intro s e s' hr
  rcases raises_bind.mp hr with h | ⟨a, s₁, -, h⟩
  · exact ht s e s' h
  · exact hk a s₁ e s' h

/-- Reads raise before anything is written. -/
theorem Clean.of_reads {t : Tx σ ε α} (h : Reads t) : Clean handled t :=
  ⟨KeepsCommitted.of_reads h, fun s e s' hs ht _ => by rw [h.raises ht, hs]⟩

theorem Undoes.clean {t : Tx σ ε α} (h : Undoes handled t) : Clean handled t :=
  ⟨h.keeps, fun s e s' _ ht he => h.undoes s e s' ht he⟩

theorem Undoes.pure (a : α) : Undoes handled (Pure.pure a : Tx σ ε α) :=
  ⟨KeepsCommitted.of_reads (Reads.pure a), fun _ _ _ h => absurd h raises_pure⟩

/-- An exception nobody handles undoes everything. -/
theorem Undoes.raise {e : ε} (h : handled e = false) :
    Undoes handled (Tx.raise e : Tx σ ε α) := by
  refine ⟨KeepsCommitted.of_reads (Reads.raise e), fun s e' s' hr he => ?_⟩
  obtain ⟨rfl, rfl⟩ := raises_raise.mp hr
  exact absurd he (by rw [h]; exact Bool.false_ne_true)

theorem Undoes.lift {x : Except ε α} (h : ∀ e, x = .error e → handled e = false) :
    Undoes handled (Tx.lift x : Tx σ ε α) := by
  cases x with
  | ok a => exact Undoes.pure a
  | error e => exact Undoes.raise (h e rfl)

theorem Undoes.orRaise {e : ε} (h : handled e = false) (o : Option α) :
    Undoes handled (Tx.orRaise e o : Tx σ ε α) := by
  cases o with
  | none => exact Undoes.raise h
  | some a => exact Undoes.pure a

/-- A failed statement undoes everything, whatever it is reported as. -/
theorem Undoes.flush (f : σ → Except ε (α × σ)) : Undoes handled (Tx.flush f) := by
  refine ⟨KeepsCommitted.flush f, fun s e s' hr _ => ?_⟩
  obtain ⟨-, rfl⟩ := raises_flush.mp hr
  rfl

/-- **Renaming the exception of a statement keeps what it undid.** -/
theorem Undoes.mapError_flush (g : ε → ε) (f : σ → Except ε (α × σ)) :
    Undoes handled (Tx.mapError g (Tx.flush f)) := by
  refine ⟨KeepsCommitted.mapError (KeepsCommitted.flush f), fun s e s' hr _ => ?_⟩
  obtain ⟨e₀, h₀, -⟩ := raises_mapError.mp hr
  obtain ⟨-, rfl⟩ := raises_flush.mp h₀
  rfl

theorem Undoes.bind {t : Tx σ ε α} {k : α → Tx σ ε β} (ht : Undoes handled t)
    (hk : ∀ a, Undoes handled (k a)) : Undoes handled (t >>= k) := by
  refine ⟨ht.keeps.bind (fun a => (hk a).keeps), fun s e s' hr he => ?_⟩
  rcases raises_bind.mp hr with h | ⟨a, s₁, h₁, h₂⟩
  · exact ht.undoes s e s' h he
  · rw [(hk a).undoes s₁ e s' h₂ he, ht.keeps.returns h₁]

/-- A loop of statements. -/
theorem Undoes.forM {f : β → Tx σ ε PUnit} (hf : ∀ b, Undoes handled (f b)) (bs : List β) :
    Undoes handled (ForM.forM bs f : Tx σ ε PUnit) := by
  induction bs with
  | nil => exact Undoes.pure _
  | cons b bs ih =>
    rw [List.forM_cons]
    exact Undoes.bind (hf b) (fun _ => ih)

/-- **Reads first, then a clean rest.** -/
theorem Clean.bind {t : Tx σ ε α} {k : α → Tx σ ε β} (ht : Reads t)
    (hk : ∀ a, Clean handled (k a)) : Clean handled (t >>= k) := by
  refine ⟨(KeepsCommitted.of_reads ht).bind (fun a => (hk a).keeps), fun s e s' hs hr he => ?_⟩
  rcases raises_bind.mp hr with h | ⟨a, s₁, h₁, h₂⟩
  · rw [ht.raises h, hs]
  · obtain rfl := ht.returns h₁
    exact (hk a).clean s₁ e s' hs h₂ he

/-- **A clean beginning, then statements**: every way to go on from a value
the beginning may return undoes the transaction when it fails. -/
theorem Clean.bind_undoes {t : Tx σ ε α} {k : α → Tx σ ε β} (ht : Clean handled t)
    (hkeeps : ∀ a, KeepsCommitted (k a))
    (hk : ∀ a s s', t.Returns s a s' → Undoes handled (k a)) : Clean handled (t >>= k) := by
  refine ⟨ht.keeps.bind hkeeps, fun s e s' hs hr he => ?_⟩
  rcases raises_bind.mp hr with h | ⟨a, s₁, h₁, h₂⟩
  · exact ht.clean s e s' hs h he
  · rw [(hk a s s₁ h₁).undoes s₁ e s' h₂ he, ht.keeps.returns h₁]

/-- A clean beginning whose value is returned. -/
theorem Clean.map {t : Tx σ ε α} (ht : Clean handled t) (f : α → β) :
    Clean handled (t >>= fun a => Pure.pure (f a)) :=
  ht.bind_undoes (fun a => KeepsCommitted.of_reads (Reads.pure (f a)))
    (fun a _ _ _ => Undoes.pure (f a))

/-- **A clean request that ends in a handled exception leaves the committed
state as it was** – and so does any request that ends in another one. -/
theorem Clean.serve {handled' : ε → Bool} {t : Tx σ ε α} (h : Clean handled t) {d d' : σ} {e : ε}
    (hs : Tx.serve handled' t d = (.error e, d')) (he : handled' e = true → handled e = true) :
    d' = d := by
  obtain ⟨s, hr, rfl⟩ := serve_error_iff.mp hs
  split
  · next hh => exact h.clean _ e s rfl hr (he hh)
  · rfl

end Rules

/-! ## Two runs

Noninterference compares a body started on two states. `Paired P t u Q`
says that from states related by `P` the two bodies either raise the same
exception, or return values and reach states related by `Q`. While the
bodies only read, the states stay the two they were started on (`At`), and
only what is read has to be related: that is a `Look`. -/

/-- **The two bodies end alike**: with the same exception, or with values
and states related by `Q`. -/
def Paired (P : σ → σ → Prop) (t : Tx σ ε α) (u : Tx σ ε β)
    (Q : α → β → σ → σ → Prop) : Prop :=
  ∀ s₁ s₂, P s₁.working s₂.working →
    (∃ a b s₁' s₂', t.Returns s₁ a s₁' ∧ u.Returns s₂ b s₂' ∧
      Q a b s₁'.working s₂'.working)
    ∨ ∃ e s₁' s₂', t.Raises s₁ e s₁' ∧ u.Raises s₂ e s₂'

/-- The states are the two given ones. -/
def At (d₁ d₂ e₁ e₂ : σ) : Prop := e₁ = d₁ ∧ e₂ = d₂

/-- **The two bodies look up related values**, and write nothing. -/
abbrev Look (d₁ d₂ : σ) (t : Tx σ ε α) (u : Tx σ ε β) (S : α → β → Prop) : Prop :=
  Paired (At d₁ d₂) t u (fun a b e₁ e₂ => At d₁ d₂ e₁ e₂ ∧ S a b)

/-- **The two bodies answer alike**, started on the two states. -/
abbrev Alike (d₁ d₂ : σ) (t u : Tx σ ε α) : Prop :=
  Paired (At d₁ d₂) t u (fun a b _ _ => a = b)

section Pairs

variable {P : σ → σ → Prop} {Q : α → β → σ → σ → Prop} {S : α → β → Prop} {d₁ d₂ : σ}

theorem Paired.pure {a : α} {b : β} (h : ∀ e₁ e₂, P e₁ e₂ → Q a b e₁ e₂) :
    Paired P (Pure.pure a : Tx σ ε α) (Pure.pure b : Tx σ ε β) Q :=
  fun s₁ s₂ hP => Or.inl ⟨a, b, s₁, s₂, rfl, rfl, h _ _ hP⟩

theorem Paired.raise (e : ε) : Paired P (Tx.raise e : Tx σ ε α) (Tx.raise e : Tx σ ε β) Q :=
  fun s₁ s₂ _ => Or.inr ⟨e, s₁, s₂, rfl, rfl⟩

/-- **A statement accepted in both states, or refused in both with the
same exception.** -/
theorem Paired.flush {f : σ → Except ε (α × σ)} {g : σ → Except ε (β × σ)}
    (h : (∃ e, f d₁ = .error e ∧ g d₂ = .error e) ∨
      ∃ a b e₁ e₂, f d₁ = .ok (a, e₁) ∧ g d₂ = .ok (b, e₂) ∧ Q a b e₁ e₂) :
    Paired (At d₁ d₂) (Tx.flush f) (Tx.flush g) Q := by
  rintro s₁ s₂ ⟨rfl, rfl⟩
  rcases h with ⟨e, h₁, h₂⟩ | ⟨a, b, e₁, e₂, h₁, h₂, hQ⟩
  · exact Or.inr ⟨e, _, _, raises_flush.mpr ⟨h₁, rfl⟩, raises_flush.mpr ⟨h₂, rfl⟩⟩
  · exact Or.inl ⟨a, b, _, _, returns_flush.mpr ⟨e₁, h₁, rfl⟩,
      returns_flush.mpr ⟨e₂, h₂, rfl⟩, hQ⟩

theorem Paired.mapError {t : Tx σ ε α} {u : Tx σ ε β} (g : ε → ε) (h : Paired P t u Q) :
    Paired P (Tx.mapError g t) (Tx.mapError g u) Q := by
  intro s₁ s₂ hP
  rcases h s₁ s₂ hP with ⟨a, b, s₁', s₂', h₁, h₂, hQ⟩ | ⟨e, s₁', s₂', h₁, h₂⟩
  · exact Or.inl ⟨a, b, s₁', s₂', returns_mapError.mpr h₁, returns_mapError.mpr h₂, hQ⟩
  · exact Or.inr ⟨g e, s₁', s₂', raises_mapError.mpr ⟨e, h₁, rfl⟩,
      raises_mapError.mpr ⟨e, h₂, rfl⟩⟩

/-- What the bodies end in may be weakened. -/
theorem Paired.mono {t : Tx σ ε α} {u : Tx σ ε β} {R : α → β → σ → σ → Prop}
    (h : Paired P t u Q) (hR : ∀ a b e₁ e₂, Q a b e₁ e₂ → R a b e₁ e₂) : Paired P t u R := by
  intro s₁ s₂ hP
  rcases h s₁ s₂ hP with ⟨a, b, s₁', s₂', h₁, h₂, hQ⟩ | h
  · exact Or.inl ⟨a, b, s₁', s₂', h₁, h₂, hR _ _ _ _ hQ⟩
  · exact Or.inr h

/-- The related states may be fixed. -/
theorem Paired.of_at {t : Tx σ ε α} {u : Tx σ ε β}
    (h : ∀ e₁ e₂, P e₁ e₂ → Paired (At e₁ e₂) t u Q) : Paired P t u Q :=
  fun s₁ s₂ hP => h _ _ hP s₁ s₂ ⟨rfl, rfl⟩

section Binds

variable {α' β' : Type} {t : Tx σ ε α} {u : Tx σ ε β} {k : α → Tx σ ε α'} {l : β → Tx σ ε β'}
  {R : α' → β' → σ → σ → Prop}

/-- **Two sequences end alike when their parts do.** -/
theorem Paired.bind (ht : Paired P t u Q) (hk : ∀ a b, Paired (Q a b) (k a) (l b) R) :
    Paired P (t >>= k) (u >>= l) R := by
  intro s₁ s₂ hP
  rcases ht s₁ s₂ hP with ⟨a, b, s₁', s₂', h₁, h₂, hQ⟩ | ⟨e, s₁', s₂', h₁, h₂⟩
  · rcases hk a b s₁' s₂' hQ with ⟨a', b', r₁, r₂, g₁, g₂, hR⟩ | ⟨e, r₁, r₂, g₁, g₂⟩
    · exact Or.inl ⟨a', b', r₁, r₂, returns_bind.mpr ⟨a, s₁', h₁, g₁⟩,
        returns_bind.mpr ⟨b, s₂', h₂, g₂⟩, hR⟩
    · exact Or.inr ⟨e, r₁, r₂, raises_bind.mpr (Or.inr ⟨a, s₁', h₁, g₁⟩),
        raises_bind.mpr (Or.inr ⟨b, s₂', h₂, g₂⟩)⟩
  · exact Or.inr ⟨e, s₁', s₂', raises_bind.mpr (Or.inl h₁), raises_bind.mpr (Or.inl h₂)⟩

/-- **Look, then go on from related values.** -/
theorem Look.bind (ht : Look d₁ d₂ t u S)
    (hk : ∀ a b, S a b → Paired (At d₁ d₂) (k a) (l b) R) :
    Paired (At d₁ d₂) (t >>= k) (u >>= l) R :=
  Paired.bind ht (fun a b s₁ s₂ h => hk a b h.2 s₁ s₂ h.1)

end Binds

theorem Look.pure {a : α} {b : β} (h : S a b) :
    Look d₁ d₂ (Pure.pure a : Tx σ ε α) (Pure.pure b : Tx σ ε β) S :=
  Paired.pure (fun _ _ hP => ⟨hP, h⟩)

/-- **A read is what it reads**, in each of the two states. -/
theorem Look.read {g : σ → α} {g' : σ → β} (h : S (g d₁) (g' d₂)) :
    Look d₁ d₂ (Tx.read g : Tx σ ε α) (Tx.read g' : Tx σ ε β) S := by
  rintro s₁ s₂ ⟨rfl, rfl⟩
  exact Or.inl ⟨_, _, s₁, s₂, rfl, rfl, ⟨rfl, rfl⟩, h⟩

/-- Related values are there in both runs, or none in either. -/
theorem Look.orRaise (e : ε) {o : Option α} {o' : Option β} (h : Option.Rel S o o') :
    Look d₁ d₂ (Tx.orRaise e o) (Tx.orRaise e o') S := by
  cases h with
  | some h => exact Look.pure h
  | none => exact Paired.raise e

/-- The same fallible computation fails in both runs or in neither. -/
theorem Look.lift (x : Except ε α) : Look d₁ d₂ (Tx.lift x) (Tx.lift x) (· = ·) := by
  cases x with
  | error e => exact Paired.raise e
  | ok a => exact Look.pure rfl

/-- Values that are the same to a function are the same response. -/
theorem Paired.map {t : Tx σ ε α} {u : Tx σ ε β} {g : α → γ} {g' : β → γ}
    (h : Paired P t u (fun a b _ _ => g a = g' b)) :
    Paired P (t >>= fun a => Pure.pure (g a)) (u >>= fun b => Pure.pure (g' b))
      (fun a b _ _ => a = b) :=
  h.bind (fun _ _ => Paired.pure (fun _ _ hab => hab))

/-- Equal values are the same response. -/
theorem Alike.map {t u : Tx σ ε α} (h : Alike d₁ d₂ t u) (g : α → γ) :
    Alike d₁ d₂ (t >>= fun a => Pure.pure (g a)) (u >>= fun a => Pure.pure (g a)) :=
  Paired.map (h.mono (fun _ _ _ _ hab => congrArg g hab))

/-- **Bodies that answer alike are requests that answer alike.** -/
theorem Alike.serve {handled : ε → Bool} {t u : Tx σ ε α} (h : Alike d₁ d₂ t u) :
    (Tx.serve handled t d₁).1 = (Tx.serve handled u d₂).1 := by
  rcases h ⟨d₁, d₁⟩ ⟨d₂, d₂⟩ ⟨rfl, rfl⟩ with ⟨a, b, s₁, s₂, h₁, h₂, rfl⟩ | ⟨e, s₁, s₂, h₁, h₂⟩
  · rw [serve_ok_iff.mpr ⟨s₁, h₁, rfl⟩, serve_ok_iff.mpr ⟨s₂, h₂, rfl⟩]
  · rw [serve_error_iff.mpr ⟨s₁, h₁, rfl⟩, serve_error_iff.mpr ⟨s₂, h₂, rfl⟩]

end Pairs

end Tx
