import Mathlib.Data.List.DropRight
import Mathlib.Order.Basic
import Mathlib.Data.Nat.Basic
import Mathlib.Algebra.Order.Ring.Int

/-!
# What the code uses of Python

The service computes with strings, identifiers, byte strings, instants
and dates of the Python standard library. This module gives the few
operations it calls, with the values on which each of them raises: an
operation that may raise is an `Option`, and `none` is the exception.

* `Py.int` is `int(text, base)` – surrounding whitespace, a sign, the
  `0x` mark of base 16, underscores between digits, decimal digits of any
  script;
* `Py.hex` and `Py.fromhex` are `bytes.hex` and `bytes.fromhex`;
* `Text.encode` is `text.encode("utf-8")`, which half of a surrogate pair –
  a `str` of Python may hold it, UTF-8 does not – makes raise;
* `UUID.ofString` is `uuid.UUID(text)`, `UUID.str` is `str(uuid)`;
* `Datetime.add` is `datetime + timedelta`, which overflows outside the
  years 1 to 9999, and `timedelta` overflows past 999999999 days.
-/

namespace Py

/-! ## Characters -/

/-- The zeros of the decimal digit blocks of Unicode: each is followed by
the digits one to nine of its script. -/
def decimalZeros : List ℕ :=
  [0x30, 0x660, 0x6f0, 0x7c0, 0x966, 0x9e6, 0xa66, 0xae6, 0xb66, 0xbe6, 0xc66, 0xce6, 0xd66,
    0xde6, 0xe50, 0xed0, 0xf20, 0x1040, 0x1090, 0x17e0, 0x1810, 0x1946, 0x19d0, 0x1a80, 0x1a90,
    0x1b50, 0x1bb0, 0x1c40, 0x1c50, 0xa620, 0xa8d0, 0xa900, 0xa9d0, 0xa9f0, 0xaa50, 0xabf0,
    0xff10, 0x104a0, 0x10d30, 0x11066, 0x110f0, 0x11136, 0x111d0, 0x112f0, 0x11450, 0x114d0,
    0x11650, 0x116c0, 0x11730, 0x118e0, 0x11950, 0x11c50, 0x11d50, 0x11da0, 0x11f50, 0x16a60,
    0x16ac0, 0x16b50, 0x1d7ce, 0x1d7d8, 0x1d7e2, 0x1d7ec, 0x1d7f6, 0x1e140, 0x1e2f0, 0x1e4f0,
    0x1e950, 0x1fbf0]

/-- The value of a decimal digit of any script. -/
def decimalValue (c : Char) : Option ℕ :=
  decimalZeros.findSome? (fun z =>
    if z ≤ c.toNat ∧ c.toNat < z + 10 then some (c.toNat - z) else none)

/-- The value of a digit in a base up to 36. -/
def digitValue (base : ℕ) (c : Char) : Option ℕ :=
  let v :=
    if 'a' ≤ c ∧ c ≤ 'z' then some (c.toNat - 'a'.toNat + 10)
    else if 'A' ≤ c ∧ c ≤ 'Z' then some (c.toNat - 'A'.toNat + 10)
    else decimalValue c
  v.bind (fun d => if d < base then some d else none)

/-- ASCII whitespace. -/
def isAsciiSpace (c : Char) : Bool :=
  c = ' ' || (9 ≤ c.toNat && c.toNat ≤ 13)

/-- The whitespace `int` strips: that of ASCII, and of Unicode outside
ASCII. -/
def isIntSpace (c : Char) : Bool :=
  isAsciiSpace c || c.toNat ∈ [0x85, 0xa0, 0x1680, 0x2028, 0x2029, 0x202f, 0x205f, 0x3000]
    || (0x2000 ≤ c.toNat && c.toNat ≤ 0x200a)

/-! ## Integers -/

/-- Digits with single underscores between them. `afterMark` is whether an
underscore may not come next and the text may not end here. -/
def digits (base : ℕ) : ℕ → Bool → List Char → Option ℕ
  | acc, afterMark, [] => if afterMark then none else some acc
  | acc, afterMark, c :: cs =>
    if c = '_' then (if afterMark then none else digits base acc true cs)
    else (digitValue base c).bind (fun d => digits base (acc * base + d) false cs)

/-- The `0x` mark of base 16, with the underscore that may follow it. -/
def dropMark (base : ℕ) : List Char → List Char
  | '0' :: x :: cs =>
    if base = 16 ∧ (x = 'x' ∨ x = 'X') then
      match cs with
      | '_' :: cs' => cs'
      | _ => cs
    else '0' :: x :: cs
  | cs => cs

/-- An integer without surrounding whitespace. A decimal text of more than
4300 digits is refused. -/
def signed (base : ℕ) (cs : List Char) : Option ℤ :=
  let body := fun ds : List Char =>
    if base = 10 ∧ 4300 < (ds.filter (· ≠ '_')).length then none
    else digits base 0 true (dropMark base ds)
  match cs with
  | '-' :: ds => (body ds).map (fun n => -(n : ℤ))
  | '+' :: ds => (body ds).map (fun n => (n : ℤ))
  | ds => (body ds).map (fun n => (n : ℤ))

/-- `int(text, base)`: `none` is `ValueError`. -/
def int (base : ℕ) (text : List Char) : Option ℤ :=
  signed base ((text.dropWhile isIntSpace).rdropWhile isIntSpace)

/-! ## Byte strings -/

/-- `bytes.hex()`. -/
def hex (bytes : List UInt8) : List Char :=
  bytes.flatMap (fun b => [Nat.digitChar (b.toNat / 16), Nat.digitChar (b.toNat % 16)])

/-- The value of an ASCII hexadecimal digit. -/
def hexValue (c : Char) : Option ℕ :=
  if c.toNat < 128 then digitValue 16 c else none

/-- `bytes.fromhex(text)`: pairs of digits, whitespace only between pairs.
`none` is `ValueError`. -/
def fromhex : List Char → Option (List UInt8)
  | [] => some []
  | [c] => if isAsciiSpace c then some [] else none
  | c :: d :: cs =>
    if isAsciiSpace c then fromhex (d :: cs)
    else
      match hexValue c, hexValue d with
      | some x, some y => (fromhex cs).map (UInt8.ofNat (16 * x + y) :: ·)
      | _, _ => none

/-! ## Text -/

/-- `text.replace(word, "")`, scanning from the left; `skip` characters of
an occurrence are still to be dropped. -/
def removeWord (word : List Char) : ℕ → List Char → List Char
  | _, [] => []
  | skip + 1, _ :: cs => removeWord word skip cs
  | 0, c :: cs =>
    if word.isPrefixOf (c :: cs) then removeWord word (word.length - 1) cs
    else c :: removeWord word 0 cs

/-- `text or default`: an empty text counts as no text. -/
def textOr (text : Option String) (default : String) : String :=
  match text with
  | none => default
  | some t => if t = "" then default else t

/-! ## Surrogates -/

/-- **A code point of a `str`**: a character, or a surrogate. -/
abbrev CodePoint : Type := Char ⊕ Fin 2048

instance : LawfulBEq CodePoint where
  rfl {c} := by
    cases c with
    | inl c => exact beq_self_eq_true c
    | inr u => exact beq_self_eq_true u
  eq_of_beq {c c'} h := by
    cases c <;> cases c' <;> first
      | exact congrArg _ (eq_of_beq h)
      | cases h

/-- The code point is in ASCII. -/
def CodePoint.isAscii : CodePoint → Bool
  | .inl c => c.toNat < 128
  | .inr _ => false

/-- **A `str`.** Surrogates in it need not be paired. -/
abbrev Text : Type := List CodePoint

namespace Text

/-- A text of characters. -/
def ofChars (cs : List Char) : Text := cs.map .inl

/-- The text of a `String`. -/
def ofString (s : String) : Text := ofChars s.toList

/-- The characters of a text, if there is no surrogate among them. -/
def chars (t : Text) : Option (List Char) := t.mapM Sum.getLeft?

/-- `text.encode("utf-8")`: `none` is `UnicodeEncodeError`. -/
def encode (t : Text) : Option String := t.chars.map String.ofList

/-- **There is no surrogate** in the text. -/
def Encodable (t : Text) : Prop := ∀ c ∈ t, c.isLeft

instance (t : Text) : Decidable t.Encodable := inferInstanceAs (Decidable (∀ c ∈ t, _))

@[simp] theorem mem_ofChars {c : Char} {cs : List Char} : Sum.inl c ∈ ofChars cs ↔ c ∈ cs :=
  List.mem_map_of_injective Sum.inl_injective

theorem ofChars_injective : Function.Injective ofChars :=
  List.map_injective_iff.mpr Sum.inl_injective

theorem encodable_ofChars (cs : List Char) : (ofChars cs).Encodable := by
  intro c hc
  obtain ⟨c, -, rfl⟩ := List.mem_map.mp hc
  rfl

theorem encodable_ofString (s : String) : (ofString s).Encodable := encodable_ofChars s.toList

@[simp] theorem encodable_nil : Encodable [] := by
  rintro c ⟨⟩

@[simp] theorem encodable_cons {c : CodePoint} {t : Text} :
    Encodable (c :: t) ↔ c.isLeft ∧ t.Encodable :=
  List.forall_mem_cons

@[simp] theorem encodable_append {t t' : Text} :
    Encodable (t ++ t') ↔ t.Encodable ∧ t'.Encodable :=
  List.forall_mem_append

theorem encodable_flatMap {α : Type} {f : α → Text} {xs : List α} :
    Encodable (xs.flatMap f) ↔ ∀ x ∈ xs, (f x).Encodable := by
  induction xs with
  | nil => simp
  | cons x xs ih => rw [List.flatMap_cons, encodable_append, ih, List.forall_mem_cons]

/-- **The characters of a text** are those it is of. -/
theorem chars_eq_some_iff {t : Text} {cs : List Char} : t.chars = some cs ↔ t = ofChars cs := by
  unfold chars ofChars
  induction t generalizing cs with
  | nil => cases cs <;> simp
  | cons c t ih =>
    rw [List.mapM_cons]
    cases c with
    | inl c => cases cs <;> simp [Option.bind_eq_some_iff, ih, and_comm]
    | inr u => cases cs <;> simp

@[simp] theorem chars_ofChars (cs : List Char) : (ofChars cs).chars = some cs :=
  chars_eq_some_iff.mpr rfl

/-- What is encoded is the text of its encoding. -/
theorem encode_eq_some_iff {t : Text} {s : String} : t.encode = some s ↔ t = ofString s := by
  unfold encode ofString
  rw [Option.map_eq_some_iff]
  constructor
  · rintro ⟨cs, hcs, rfl⟩
    rw [String.toList_ofList, chars_eq_some_iff.mp hcs]
  · rintro rfl
    exact ⟨s.toList, chars_ofChars _, String.ofList_toList⟩

@[simp] theorem encode_ofString (s : String) : (ofString s).encode = some s :=
  encode_eq_some_iff.mpr rfl

/-- **Texts without surrogates are encoded.** -/
theorem exists_encode_iff {t : Text} : (∃ s, t.encode = some s) ↔ t.Encodable := by
  constructor
  · rintro ⟨s, hs⟩
    rw [encode_eq_some_iff.mp hs]
    exact encodable_ofString s
  · intro h
    obtain ⟨cs, rfl⟩ : ∃ cs, t = ofChars cs := by
      induction t with
      | nil => exact ⟨[], rfl⟩
      | cons c t ih =>
        obtain ⟨hc, ht⟩ := encodable_cons.mp h
        obtain ⟨cs, rfl⟩ := ih ht
        obtain ⟨c, rfl⟩ := Sum.isLeft_iff.mp hc
        exact ⟨c :: cs, rfl⟩
    exact ⟨String.ofList cs, encode_eq_some_iff.mpr (by rw [ofString, String.toList_ofList])⟩

/-- A text with a surrogate is not encoded. -/
theorem encode_eq_none_iff {t : Text} : t.encode = none ↔ ¬ t.Encodable := by
  rw [← exists_encode_iff, Option.eq_none_iff_forall_ne_some, not_exists]

end Text

end Py

/-! ## Identifiers -/

/-- A UUID is its 128 bits. -/
abbrev UUID := BitVec 128

namespace UUID

/-- `uuid.UUID(text)`: `none` is `ValueError`. -/
def ofString (text : String) : Option UUID :=
  let bare := Py.removeWord "uuid:".toList 0 (Py.removeWord "urn:".toList 0 text.toList)
  let inner := (bare.dropWhile (· ∈ ['{', '}'])).rdropWhile (· ∈ ['{', '}'])
  let ds := inner.filter (· ≠ '-')
  if ds.length ≠ 32 then none
  else (Py.int 16 ds).bind (fun n =>
    if 0 ≤ n ∧ n < 2 ^ 128 then some (BitVec.ofNat 128 n.toNat) else none)

/-- The thirty-two digits, most significant first. -/
def digits (u : UUID) : List Char :=
  (List.range 32).map (fun i => Nat.digitChar (u.toNat / 16 ^ (31 - i) % 16))

/-- `str(uuid)`: the digits in groups of 8, 4, 4, 4 and 12. -/
def str (u : UUID) : String :=
  let ds := u.digits
  String.ofList (ds.take 8 ++ ['-'] ++ (ds.drop 8).take 4 ++ ['-'] ++ (ds.drop 12).take 4
    ++ ['-'] ++ (ds.drop 16).take 4 ++ ['-'] ++ ds.drop 20)

end UUID

/-! ## Instants -/

/-- The microseconds from the beginning of the year 1 to the end of the
year 9999. -/
abbrev Datetime.count : ℕ := 315537897600000000

/-- **A UTC `datetime`**: the microseconds since the beginning of the year
1. Nothing after the year 9999 can be built. -/
structure Datetime where
  /-- Microseconds since `datetime.min`. -/
  us : ℕ
  /-- The instant is not after `datetime.max`. -/
  inRange : us < Datetime.count
deriving DecidableEq

namespace Datetime

theorem us_injective : Function.Injective us := by
  rintro ⟨a, ha⟩ ⟨b, hb⟩ h
  cases h
  rfl

instance : LinearOrder Datetime := LinearOrder.lift' us us_injective

/-- `datetime.min`. -/
def first : Datetime := ⟨0, by decide⟩

/-- `datetime + timedelta`, the difference in microseconds: `none` is
`OverflowError`. -/
def add (t : Datetime) (δ : ℤ) : Option Datetime :=
  if h : (0 : ℤ) ≤ t.us + δ ∧ (t.us + δ).toNat < count then some ⟨(t.us + δ).toNat, h.2⟩
  else none

theorem add_eq_some_iff {t t' : Datetime} {δ : ℤ} :
    t.add δ = some t' ↔ (t'.us : ℤ) = t.us + δ := by
  unfold add
  constructor
  · intro h
    split at h
    · next hc =>
      cases h
      exact Int.toNat_of_nonneg hc.1
    · exact absurd h (by simp)
  · intro h
    have hn : (t.us + δ).toNat = t'.us := by rw [← h, Int.toNat_natCast]
    have hc : (0 : ℤ) ≤ t.us + δ ∧ (t.us + δ).toNat < count :=
      ⟨by rw [← h]; exact Int.natCast_nonneg _, by rw [hn]; exact t'.inRange⟩
    rw [dif_pos hc]
    exact congrArg some (us_injective hn)

end Datetime

/-- `timedelta(seconds=n)` in microseconds: `none` is the `OverflowError`
of more than 999999999 days. -/
def timedelta (seconds : ℤ) : Option ℤ :=
  if -999999999 ≤ seconds / 86400 ∧ seconds / 86400 ≤ 999999999 then some (seconds * 1000000)
  else none

/-- `now + timedelta(seconds=n)`. -/
def Datetime.plusSeconds (t : Datetime) (seconds : ℤ) : Option Datetime :=
  (timedelta seconds).bind t.add

/-! ## Dates -/

/-- Leap years of the proleptic Gregorian calendar. -/
def isLeap (year : ℕ) : Bool := year % 4 = 0 && (year % 100 ≠ 0 || year % 400 = 0)

/-- The days of a month. -/
def daysInMonth (year month : ℕ) : ℕ :=
  if month = 2 then (if isLeap year then 29 else 28)
  else if month ∈ [4, 6, 9, 11] then 30
  else 31

/-- **A `date`**: only days of the calendar can be built. -/
structure Date where
  /-- The year, from 1 to 9999. -/
  year : ℕ
  /-- The month, from 1 to 12. -/
  month : ℕ
  /-- The day of the month. -/
  day : ℕ
  /-- The day exists. -/
  valid : 1 ≤ year ∧ year ≤ 9999 ∧ 1 ≤ month ∧ month ≤ 12 ∧ 1 ≤ day ∧
    day ≤ daysInMonth year month
deriving DecidableEq

/-! ## Dictionaries -/

/-- `d[key] = value`: a key keeps the place it was first put in. -/
def Dict.set {κ α : Type} [DecidableEq κ] (d : List (κ × α)) (key : κ) (value : α) :
    List (κ × α) :=
  if key ∈ d.map Prod.fst then d.map (fun p => if p.1 = key then (key, value) else p)
  else d ++ [(key, value)]

/-- A dictionary comprehension. -/
def Dict.ofList {κ α : Type} [DecidableEq κ] (ps : List (κ × α)) : List (κ × α) :=
  ps.foldl (fun d p => Dict.set d p.1 p.2) []

/-- The fallible parsers agree with the interpreter on the marks they
allow: a sign or a `0x` inside the thirty-two digits of an identifier. -/
example : UUID.ofString "urn:uuid:{0x111111111111111111111111111111}"
    = some (BitVec.ofNat 128 0x00111111111111111111111111111111) := by decide +kernel
