import Accounts.Python
import Mathlib.Data.Rat.Defs

/-!
# What `json.dumps` serialises

`JSONResponse` renders its content by `json.dumps` – with `allow_nan=False`,
with `ensure_ascii=False`, and without a fallback for objects it does not
know – and encodes the text as UTF-8. Three things make it fail: an object
that is no JSON value, a number that is not finite, and a text that cannot be
encoded.

`exists_render_iff` says that nothing else does: content is rendered just
when it is `Serialisable`, with whatever it contains.
-/

namespace Py

/-! ## Objects -/

/-- A `float`, but for the sign of zero. -/
inductive Float where
  /-- A number. -/
  | finite (q : ℚ)
  /-- `nan`. -/
  | nan
  /-- `inf`. -/
  | inf
  /-- `-inf`. -/
  | negInf
deriving DecidableEq

/-- **An object**: what `json.loads` returns, and exceptions. -/
inductive Object where
  /-- `None`. -/
  | none
  /-- A `bool`. -/
  | bool (b : Bool)
  /-- An `int`. -/
  | int (n : ℤ)
  /-- A `float`. -/
  | float (x : Float)
  /-- A `str`. -/
  | str (s : Text)
  /-- A `list`, or a `tuple`. -/
  | list (xs : List Object)
  /-- A `dict` with its members in order. -/
  | dict (fields : List (Text × Object))
  /-- An exception, with its message. -/
  | exception (message : String)

/-- A `str` without surrogates. -/
def Object.ofString (s : String) : Object := .str (.ofString s)

/-- A `dict` whose keys are without. -/
def Object.ofFields (fields : List (String × Object)) : Object :=
  .dict (fields.map (fun p => (.ofString p.1, p.2)))

/-- The value of a key of a `dict`, if it has one. -/
def Object.get? (fields : List (Text × Object)) (key : String) : Option Object :=
  (fields.find? (fun p => p.1 = .ofString key)).map Prod.snd

/-! ## Serialisation -/

/-- What rendering raises. -/
inductive RenderError where
  /-- `TypeError`: an object that is not JSON serializable. -/
  | typeError
  /-- `ValueError`: a number that is not JSON compliant. -/
  | valueError
  /-- `UnicodeEncodeError`. -/
  | unicodeEncodeError
deriving DecidableEq

/-- What a code point is written as between quotes: `ensure_ascii=False`
escapes quotes, backslashes and control characters only. -/
def escape : CodePoint → Text
  | .inr u => [.inr u]
  | .inl c => .map .inl <|
    if c = '"' ∨ c = '\\' then ['\\', c]
    else if c = '\n' then ['\\', 'n']
    else if c = '\r' then ['\\', 'r']
    else if c = '\t' then ['\\', 't']
    else if c.toNat = 0x0c then ['\\', 'f']
    else if c.toNat = 0x08 then ['\\', 'b']
    else if c.toNat < 0x20 then
      ['\\', 'u', '0', '0', Nat.digitChar (c.toNat / 16), Nat.digitChar (c.toNat % 16)]
    else [c]

/-- A text between quotes. -/
def quote (s : Text) : Text := .inl '"' :: s.flatMap escape ++ [.inl '"']

/-- Texts with commas between them. -/
def commas : List Text → Text
  | [] => []
  | [t] => t
  | t :: ts => t ++ .inl ',' :: commas ts

/-- Texts between brackets. -/
def brackets (left right : Char) (ts : List Text) : Text := .inl left :: commas ts ++ [.inl right]

mutual

/-- **`json.dumps`**, with `allow_nan=False`, `ensure_ascii=False` and no
`default`; `repr` is that of a finite `float`. -/
def dumps (repr : ℚ → String) : Object → Except RenderError Text
  | .none => .ok (.ofString "null")
  | .bool b => .ok (.ofString (if b then "true" else "false"))
  | .int n => .ok (.ofString (toString n))
  | .float (.finite q) => .ok (.ofString (repr q))
  | .float _ => .error .valueError
  | .str s => .ok (quote s)
  | .list xs => (dumpsItems repr xs).map (brackets '[' ']')
  | .dict fields => (dumpsMembers repr fields).map (brackets '\x7b' '\x7d')
  | .exception _ => .error .typeError

/-- The items of a list. -/
def dumpsItems (repr : ℚ → String) : List Object → Except RenderError (List Text)
  | [] => .ok []
  | x :: xs => do return (← dumps repr x) :: (← dumpsItems repr xs)

/-- The members of a `dict`. -/
def dumpsMembers (repr : ℚ → String) : List (Text × Object) → Except RenderError (List Text)
  | [] => .ok []
  | (key, x) :: fields => do
    return (quote key ++ .inl ':' :: (← dumps repr x)) :: (← dumpsMembers repr fields)

end

/-- **`JSONResponse.render`**: the content as UTF-8. -/
def render (repr : ℚ → String) (content : Object) : Except RenderError String := do
  match (← dumps repr content).encode with
  | some s => return s
  | none => throw .unicodeEncodeError

/-! ## What is serialised -/

mutual

/-- **Content that can be rendered**: no exception, no number that is not
finite and no surrogate is in it. -/
def Object.Serialisable : Object → Prop
  | .none | .bool _ | .int _ | .float (.finite _) => True
  | .float _ => False
  | .str s => s.Encodable
  | .list xs => Object.ItemsSerialisable xs
  | .dict fields => Object.MembersSerialisable fields
  | .exception _ => False

/-- The items of a list can. -/
def Object.ItemsSerialisable : List Object → Prop
  | [] => True
  | x :: xs => x.Serialisable ∧ Object.ItemsSerialisable xs

/-- The members of a `dict` can, and their keys. -/
def Object.MembersSerialisable : List (Text × Object) → Prop
  | [] => True
  | (key, x) :: fields =>
    (key.Encodable ∧ x.Serialisable) ∧ Object.MembersSerialisable fields

end

namespace Object

@[simp] theorem serialisable_list {xs : List Object} :
    (list xs).Serialisable ↔ ∀ x ∈ xs, x.Serialisable := by
  show ItemsSerialisable xs ↔ _
  induction xs with
  | nil => simp [ItemsSerialisable]
  | cons x xs ih => rw [ItemsSerialisable, ih, List.forall_mem_cons]

@[simp] theorem serialisable_dict {fields : List (Text × Object)} :
    (dict fields).Serialisable ↔ ∀ p ∈ fields, p.1.Encodable ∧ p.2.Serialisable := by
  show MembersSerialisable fields ↔ _
  induction fields with
  | nil => simp [MembersSerialisable]
  | cons p fields ih => rw [MembersSerialisable, ih, List.forall_mem_cons]

@[simp] theorem serialisable_int (n : ℤ) : (int n).Serialisable := trivial

@[simp] theorem serialisable_none : none.Serialisable := trivial

@[simp] theorem serialisable_str {s : Text} : (str s).Serialisable ↔ s.Encodable := Iff.rfl

@[simp] theorem not_serialisable_exception (message : String) :
    ¬ (exception message).Serialisable :=
  id

@[simp] theorem serialisable_ofString (s : String) : (ofString s).Serialisable :=
  Text.encodable_ofString s

@[simp] theorem serialisable_ofFields {fields : List (String × Object)} :
    (ofFields fields).Serialisable ↔ ∀ p ∈ fields, p.2.Serialisable := by
  rw [ofFields, serialisable_dict, List.forall_mem_map]
  exact forall₂_congr fun p _ => and_iff_right (Text.encodable_ofString p.1)

end Object

/-! ## Nothing else fails -/

namespace Text

/-- Escaping leaves surrogates alone, and adds none. -/
theorem encodable_escape {c : CodePoint} : (escape c).Encodable ↔ c.isLeft := by
  cases c with
  | inr u => simp [escape]
  | inl c =>
    refine iff_of_true (fun x hx => ?_) rfl
    obtain ⟨c', -, rfl⟩ := List.mem_map.mp hx
    rfl

@[simp] theorem encodable_quote {s : Text} : (quote s).Encodable ↔ s.Encodable := by
  unfold quote
  rw [encodable_append, encodable_cons, encodable_flatMap]
  simp only [encodable_escape, Sum.isLeft_inl, encodable_cons, encodable_nil, and_true, true_and]
  rfl

@[simp] theorem encodable_commas {ts : List Text} :
    (commas ts).Encodable ↔ ∀ t ∈ ts, t.Encodable := by
  induction ts with
  | nil => simp [commas]
  | cons t ts ih =>
    cases ts with
    | nil => simp [commas]
    | cons t' ts =>
      rw [commas, encodable_append, encodable_cons, ih, List.forall_mem_cons]
      · simp
      · simp

@[simp] theorem encodable_brackets {left right : Char} {ts : List Text} :
    (brackets left right ts).Encodable ↔ ∀ t ∈ ts, t.Encodable := by
  unfold brackets
  simp

end Text

/-- A result that is there, and has a property, after a map. -/
theorem exists_map_eq_ok_iff {ε α β : Type} {x : Except ε α} {g : α → β} {p : β → Prop} :
    (∃ b, x.map g = .ok b ∧ p b) ↔ ∃ a, x = .ok a ∧ p (g a) := by
  cases x with
  | error e => simp [Except.map]
  | ok a => simp [Except.map]

/-- And after two steps. -/
theorem exists_cons_eq_ok_iff {ε α : Type} {x : Except ε α} {y : Except ε (List α)} {g : α → α}
    {p : α → Prop} :
    (∃ ts, (do return g (← x) :: (← y)) = Except.ok ts ∧ ∀ t ∈ ts, p t) ↔
      (∃ a, x = .ok a ∧ p (g a)) ∧ ∃ as, y = .ok as ∧ ∀ t ∈ as, p t := by
  cases x with
  | error e => exact ⟨fun ⟨_, h, _⟩ => (by cases h), fun ⟨⟨_, h, _⟩, _⟩ => (by cases h)⟩
  | ok a =>
    cases y with
    | error e => exact ⟨fun ⟨_, h, _⟩ => (by cases h), fun ⟨_, ⟨_, h, _⟩⟩ => (by cases h)⟩
    | ok as =>
      show (∃ ts, Except.ok (g a :: as) = Except.ok ts ∧ _) ↔ _
      simp

mutual

/-- **An object is dumped to text without surrogates** just when it is
serialisable. -/
theorem exists_dumps_iff (repr : ℚ → String) :
    (x : Object) → ((∃ t, dumps repr x = .ok t ∧ t.Encodable) ↔ x.Serialisable)
  | .none => iff_of_true ⟨_, rfl, Text.encodable_ofString _⟩ trivial
  | .bool _ => iff_of_true ⟨_, rfl, Text.encodable_ofString _⟩ trivial
  | .int _ => iff_of_true ⟨_, rfl, Text.encodable_ofString _⟩ trivial
  | .float (.finite _) => iff_of_true ⟨_, rfl, Text.encodable_ofString _⟩ trivial
  | .float .nan => iff_of_false (fun ⟨_, h, _⟩ => by cases h) id
  | .float .inf => iff_of_false (fun ⟨_, h, _⟩ => by cases h) id
  | .float .negInf => iff_of_false (fun ⟨_, h, _⟩ => by cases h) id
  | .str s => by
    simp [dumps]
  | .list xs => by
    rw [dumps, exists_map_eq_ok_iff]
    simp only [Text.encodable_brackets]
    exact exists_dumpsItems_iff repr xs
  | .dict fields => by
    rw [dumps, exists_map_eq_ok_iff]
    simp only [Text.encodable_brackets]
    exact exists_dumpsMembers_iff repr fields
  | .exception _ => iff_of_false (fun ⟨_, h, _⟩ => by cases h) id

theorem exists_dumpsItems_iff (repr : ℚ → String) :
    (xs : List Object) → ((∃ ts, dumpsItems repr xs = .ok ts ∧ ∀ t ∈ ts, t.Encodable) ↔
      Object.ItemsSerialisable xs)
  | [] => iff_of_true ⟨[], rfl, List.forall_mem_nil _⟩ trivial
  | x :: xs => by
    rw [Object.ItemsSerialisable, ← exists_dumps_iff repr x, ← exists_dumpsItems_iff repr xs]
    exact exists_cons_eq_ok_iff (g := id)

theorem exists_dumpsMembers_iff (repr : ℚ → String) :
    (fields : List (Text × Object)) →
      ((∃ ts, dumpsMembers repr fields = .ok ts ∧ ∀ t ∈ ts, t.Encodable) ↔
        Object.MembersSerialisable fields)
  | [] => iff_of_true ⟨[], rfl, List.forall_mem_nil _⟩ trivial
  | (key, x) :: fields => by
    rw [Object.MembersSerialisable, ← exists_dumps_iff repr x,
      ← exists_dumpsMembers_iff repr fields]
    refine exists_cons_eq_ok_iff.trans (and_congr_left fun _ => ?_)
    simp only [Text.encodable_append, Text.encodable_cons, Text.encodable_quote, Sum.isLeft_inl,
      true_and]
    tauto

end

/-- **Content is rendered** just when it is serialisable. -/
theorem exists_render_iff {repr : ℚ → String} {content : Object} :
    (∃ s, render repr content = .ok s) ↔ content.Serialisable := by
  rw [← exists_dumps_iff repr content]
  unfold render
  cases h : dumps repr content with
  | error e => exact ⟨fun ⟨_, h⟩ => (by cases h), fun ⟨_, h, _⟩ => (by cases h)⟩
  | ok t =>
    have hencode : (∃ t', Except.ok t = (Except.ok t' : Except RenderError Text) ∧ t'.Encodable) ↔
        ∃ s, t.encode = some s := by
      rw [Text.exists_encode_iff]
      exact ⟨fun ⟨_, h, ht⟩ => Except.ok.inj h ▸ ht, fun ht => ⟨t, rfl, ht⟩⟩
    rw [hencode]
    show (∃ s, (match t.encode with
      | some s => return s
      | none => throw RenderError.unicodeEncodeError : Except RenderError String) = .ok s) ↔ _
    cases t.encode with
    | some s => exact iff_of_true ⟨s, rfl⟩ ⟨s, rfl⟩
    | none => exact iff_of_false (fun ⟨_, h⟩ => by cases h) (fun ⟨_, h⟩ => by cases h)

end Py
