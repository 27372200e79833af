import Accounts.Process
import Accounts.Table

/-!
# Chains of one-time keys

Whoever opens a chain is given a key, and hands it in for the next one before
it expires. A key that is handed in again must have been copied, so it ends
the chain; and an ended chain takes no key. `keyChains` is this as a process
over the list of all chains, whose inputs say only which keys are given, handed
in and given up. What an input does to the chains it does not present a key of
is `mem_next_of_not_touches`: nothing.

Identifiers, holders, keys and points of time are arbitrary.
-/

/-- **A chain of one-time keys.** -/
structure Chain (ι α κ τ : Type) where
  /-- The identifier. -/
  id : ι
  /-- Whose chain it is. -/
  holder : α
  /-- The keys that were handed in. -/
  spent : List κ
  /-- The key that was given last. -/
  current : κ
  /-- When it expires. -/
  expires : τ
  /-- Whether the chain has ended. -/
  ended : Bool
deriving DecidableEq

variable {ι α κ τ : Type}

namespace Chain

/-- The keys that were given. -/
def keys (c : Chain ι α κ τ) : List κ := c.current :: c.spent

/-- The current key has been handed in for the next. -/
def advance (c : Chain ι α κ τ) (next : κ) (expires : τ) : Chain ι α κ τ :=
  { c with spent := c.keys, current := next, expires }

/-- The chain has ended. -/
def finish (c : Chain ι α κ τ) : Chain ι α κ τ := { c with ended := true }

@[simp] theorem id_advance (c : Chain ι α κ τ) (next : κ) (expires : τ) :
    (c.advance next expires).id = c.id := rfl

@[simp] theorem id_finish (c : Chain ι α κ τ) : c.finish.id = c.id := rfl

@[simp] theorem keys_finish (c : Chain ι α κ τ) : c.finish.keys = c.keys := rfl

@[simp] theorem mem_keys_advance {c : Chain ι α κ τ} {next k : κ} {expires : τ} :
    k ∈ (c.advance next expires).keys ↔ k = next ∨ k ∈ c.keys :=
  List.mem_cons

end Chain

/-- **What happens to chains.** -/
inductive ChainEvent (ι α κ τ : Type) where
  /-- A chain is opened. -/
  | opens (id : ι) (holder : α) (key : κ) (expires : τ)
  /-- A key is handed in, for the next if it can expire. -/
  | presents (now : τ) (key next : κ) (renewal : Option τ)
  /-- A key is given up, and its chain with it. -/
  | closes (key : κ)

/-- What an event is answered with. -/
inductive ChainAnswer (α : Type) where
  /-- Nothing. -/
  | done
  /-- The key belongs to no chain. -/
  | unknown
  /-- The key has been handed in before, or its chain has ended. -/
  | reused
  /-- The key has expired. -/
  | expired
  /-- There is no next key. -/
  | failed
  /-- The next key, for the holder. -/
  | renewed (holder : α)
deriving DecidableEq

/-- The key an event presents, handed in or given up. -/
def ChainEvent.key : ChainEvent ι α κ τ → Option κ
  | opens _ _ _ _ => none
  | presents _ key _ _ | closes key => some key

section Steps

variable [DecidableEq κ]

/-- The chain a key belongs to. -/
def Chain.find (L : List (Chain ι α κ τ)) (key : κ) : Option (Chain ι α κ τ) :=
  L.find? (fun c => key ∈ c.keys)

/-- **What handing in a key of a chain does.** -/
def Chain.present [LE τ] [DecidableLE τ] (c : Chain ι α κ τ) (now : τ) (key next : κ)
    (renewal : Option τ) : ChainAnswer α × Chain ι α κ τ :=
  if c.ended = true ∨ key ≠ c.current then (.reused, c.finish)
  else if c.expires ≤ now then (.expired, c)
  else
    match renewal with
    | none => (.failed, c)
    | some expires => (.renewed c.holder, c.advance next expires)

/-- **The chains as a process.** -/
def keyChains [DecidableEq ι] [LE τ] [DecidableLE τ] :
    Process (List (Chain ι α κ τ)) (ChainEvent ι α κ τ) (ChainAnswer α) where
  step
    | .opens id holder key expires, L =>
      (.done, Table.insert L ⟨id, holder, [], key, expires, false⟩)
    | .presents now key next renewal, L =>
      match Chain.find L key with
      | none => (.unknown, L)
      | some c => ((c.present now key next renewal).1,
          Table.replace Chain.id (c.present now key next renewal).2 L)
    | .closes key, L =>
      match Chain.find L key with
      | none => (.done, L)
      | some c => (.done, Table.replace Chain.id c.finish L)

namespace Chain

variable {L : List (Chain ι α κ τ)} {c : Chain ι α κ τ} {key : κ}

/-- Nobody has the key. -/
theorem find_eq_none (h : ∀ c ∈ L, key ∉ c.keys) : find L key = none :=
  List.find?_eq_none.mpr (fun c hc => by simpa using h c hc)

/-- The key is found in the one chain that has it. -/
theorem find_eq_some (hc : c ∈ L) (hkey : key ∈ c.keys) (h : ∀ x ∈ L, key ∈ x.keys → x = c) :
    find L key = some c := by
  have hone : Table.AtMostOne (fun x : Chain ι α κ τ => decide (key ∈ x.keys)) L := by
    intro x hx y hy hkx hky
    exact (h x hx (of_decide_eq_true hkx)).trans (h y hy (of_decide_eq_true hky)).symm
  exact (Table.find?_eq_some_iff_of_atMostOne hone).mpr ⟨hc, decide_eq_true hkey⟩

theorem of_find_eq_some (h : find L key = some c) : c ∈ L ∧ key ∈ c.keys :=
  ⟨List.mem_of_find?_eq_some h, by simpa using List.find?_some h⟩

section Present

variable [LE τ] [DecidableLE τ] {now : τ} {next : κ} {renewal : Option τ}

/-- Handing in a key keeps the identifier of the chain. -/
theorem id_present : (c.present now key next renewal).2.id = c.id := by
  unfold present
  split
  · rfl
  · split
    · rfl
    · cases renewal <;> rfl

/-- A key that is spent, or of a chain that has ended. -/
theorem present_used (h : c.ended = true ∨ key ≠ c.current) :
    c.present now key next renewal = (.reused, c.finish) := if_pos h

/-- The current key, too late. -/
theorem present_expired (hended : c.ended = false) (hle : c.expires ≤ now) :
    c.present now c.current next renewal = (.expired, c) := by
  unfold present
  rw [if_neg (by simp [hended]), if_pos hle]

/-- The current key, where there is no next. -/
theorem present_failed (hended : c.ended = false) (hlt : ¬ c.expires ≤ now) :
    c.present now c.current next none = (.failed, c) := by
  unfold present
  rw [if_neg (by simp [hended]), if_neg hlt]

/-- **The current key of a chain that has not ended** is renewed in time. -/
theorem present_current {expires : τ} (hended : c.ended = false) (hlt : ¬ c.expires ≤ now) :
    c.present now c.current next (some expires)
      = (.renewed c.holder, c.advance next expires) := by
  unfold present
  rw [if_neg (by simp [hended]), if_neg hlt]

end Present

variable [DecidableEq ι]

omit [DecidableEq κ] in
/-- A chain that is replaced by itself. -/
theorem replace_self (hu : Table.Unique (fun c => some (Chain.id c)) L) (hc : c ∈ L) :
    Table.replace Chain.id c L = L := by
  rw [Table.replace]
  conv_rhs => rw [← List.map_id L]
  refine List.map_congr_left (fun x hx => ?_)
  split
  · next hid => exact hu.eq hc hx rfl (congrArg some hid)
  · rfl

variable [LE τ] [DecidableLE τ] {now : τ} {next : κ} {renewal : Option τ}

theorem step_presents_of_none (h : find L key = none) :
    keyChains.step (.presents now key next renewal) L = (.unknown, L) := by
  simp only [keyChains, h]

theorem step_presents_of_some (h : find L key = some c) :
    keyChains.step (.presents now key next renewal) L
      = ((c.present now key next renewal).1,
        Table.replace Chain.id (c.present now key next renewal).2 L) := by
  simp only [keyChains, h]

theorem step_closes_of_none (h : find L key = none) :
    keyChains.step (.closes key) L = (.done, L) := by
  simp only [keyChains, h]

theorem step_closes_of_some (h : find L key = some c) :
    keyChains.step (.closes key) L = (.done, Table.replace Chain.id c.finish L) := by
  simp only [keyChains, h]

/-- **A chain stays as it is** when no key of it is presented. -/
theorem mem_next_of_not_touches (hu : Table.Unique (fun c => some (Chain.id c)) L) (hc : c ∈ L)
    {e : ChainEvent ι α κ τ} (he : ∀ key ∈ e.key, key ∉ c.keys) : c ∈ keyChains.next L e := by
  -- a chain that is found by the key is another
  have hne : ∀ {key : κ} {x y : Chain ι α κ τ}, key ∉ c.keys → find L key = some x →
      y.id = x.id → c ∈ Table.replace Chain.id y L := by
    intro key x y hkey hf hid
    obtain ⟨hx, hkx⟩ := of_find_eq_some hf
    refine Table.mem_replace.mpr (Or.inr ⟨hc, fun hcy => hkey ?_⟩)
    obtain rfl := hu.eq hc hx rfl (congrArg some (hcy.trans hid).symm)
    exact hkx
  cases e with
  | opens => exact Table.mem_insert.mpr (Or.inl hc)
  | presents now key next renewal =>
    cases hf : find L key with
    | none => rwa [Process.next, step_presents_of_none hf]
    | some x =>
      rw [Process.next, step_presents_of_some hf]
      exact hne (he key rfl) hf id_present
  | closes key =>
    cases hf : find L key with
    | none => rwa [Process.next, step_closes_of_none hf]
    | some x =>
      rw [Process.next, step_closes_of_some hf]
      exact hne (he key rfl) hf (id_finish x)

end Chain

end Steps
