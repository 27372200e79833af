import Accounts.Python

/-!
# What is written can be read back

An identifier is written with `str` and read with `uuid.UUID`, a byte
string with `hex` and `fromhex`. Reading is far more liberal than writing
– marks, underscores, digits of any script – but on what was written it
is the inverse: `UUID.ofString_str`, `Py.fromhex_hex`. Distinct
identifiers are therefore written differently, which is what makes them
usable as keys of a dictionary.
-/

namespace Py

/-! ## Hexadecimal digits -/

/-- A written digit is read as its value. -/
theorem digitValue_digitChar {n : ℕ} (h : n < 16) : digitValue 16 (Nat.digitChar n) = some n := by
  have hall : ∀ n < 16, digitValue 16 (Nat.digitChar n) = some n := by decide +kernel
  exact hall n h

theorem hexValue_digitChar {n : ℕ} (h : n < 16) : hexValue (Nat.digitChar n) = some n := by
  have hall : ∀ n < 16, hexValue (Nat.digitChar n) = some n := by decide +kernel
  exact hall n h

/-- **The characters a digit is written with.** -/
def hexDigits : List Char := (List.range 16).map Nat.digitChar

/-- A property of the sixteen is checked one by one. -/
theorem forall_hexDigits {p : Char → Prop} [DecidablePred p]
    (h : hexDigits.all (fun c => decide (p c)) = true) : ∀ c ∈ hexDigits, p c :=
  fun c hc => of_decide_eq_true (List.all_eq_true.mp h c hc)

theorem digitChar_mem_hexDigits {n : ℕ} (h : n < 16) : Nat.digitChar n ∈ hexDigits :=
  List.mem_map_of_mem (List.mem_range.mpr h)

/-! ## Numbers -/

/-- **Digits are read as the number they are written for.** -/
theorem digits_digitChar (ns : List ℕ) (h : ∀ n ∈ ns, n < 16) (acc : ℕ) (mark : Bool)
    (hns : ns ≠ []) :
    digits 16 acc mark (ns.map Nat.digitChar) = some (ns.foldl (fun a n => a * 16 + n) acc) := by
  induction ns generalizing acc mark with
  | nil => exact absurd rfl hns
  | cons n ns ih =>
    have hn := h n List.mem_cons_self
    have hmark : Nat.digitChar n ≠ '_' := by
      have hall : ∀ c ∈ hexDigits, c ≠ '_' :=
        forall_hexDigits (by decide)
      exact hall _ (digitChar_mem_hexDigits hn)
    rw [List.map_cons, digits, if_neg hmark, digitValue_digitChar hn, List.foldl_cons]
    show digits 16 (acc * 16 + n) false (ns.map Nat.digitChar) = _
    cases ns with
    | nil => rfl
    | cons m ns => exact ih (fun k hk => h k (List.mem_cons_of_mem _ hk)) _ false (by simp)

/-- A text of hexadecimal digits is neither trimmed, nor does it have a
sign or a mark. -/
theorem int_digitChar (ns : List ℕ) (h : ∀ n ∈ ns, n < 16) (hns : ns ≠ []) :
    int 16 (ns.map Nat.digitChar) = some ((ns.foldl (fun a n => a * 16 + n) 0 : ℕ) : ℤ) := by
  have hmem : ∀ c ∈ ns.map Nat.digitChar, c ∈ hexDigits := by
    intro c hc
    obtain ⟨n, hn, rfl⟩ := List.mem_map.mp hc
    exact digitChar_mem_hexDigits (h n hn)
  have hspace : ∀ c ∈ hexDigits, isIntSpace c = false :=
    forall_hexDigits (by decide)
  have hsign : ∀ c ∈ hexDigits, c ≠ '-' ∧ c ≠ '+' ∧ c ≠ 'x' ∧ c ≠ 'X' :=
    forall_hexDigits (by decide)
  have hdigits := digits_digitChar ns h 0 true hns
  generalize hcs : ns.map Nat.digitChar = cs at hmem hdigits
  have hne : cs ≠ [] := hcs ▸ by simpa using hns
  -- nothing is trimmed
  have hleft : cs.dropWhile isIntSpace = cs := by
    refine List.dropWhile_eq_self_iff.mpr (fun hl => ?_)
    rw [hspace _ (hmem _ (List.getElem_mem hl))]
    exact Bool.false_ne_true
  have hright : cs.rdropWhile isIntSpace = cs := by
    refine List.rdropWhile_eq_self_iff.mpr (fun hl => ?_)
    rw [hspace _ (hmem _ (List.getLast_mem hl))]
    exact Bool.false_ne_true
  have hmark : dropMark 16 cs = cs := by
    unfold dropMark
    split
    · next x rest =>
      have hx := hsign x (hmem x (List.mem_cons_of_mem _ List.mem_cons_self))
      rw [if_neg (fun hc => hc.2.elim hx.2.2.1 hx.2.2.2)]
    · rfl
  have hfirst : ∀ c' rest, cs = c' :: rest → c' ≠ '-' ∧ c' ≠ '+' := by
    rintro c' rest rfl
    have hc := hsign c' (hmem c' List.mem_cons_self)
    exact ⟨hc.1, hc.2.1⟩
  rw [int, hleft, hright]
  unfold signed
  split
  · next rest => exact absurd rfl (hfirst '-' rest rfl).1
  · next rest => exact absurd rfl (hfirst '+' rest rfl).2
  · dsimp only
    rw [if_neg (by simp), hmark, hdigits]
    rfl

/-! ## Byte strings -/

/-- **A byte string is read back as it was written.** -/
theorem fromhex_hex (bytes : List UInt8) : fromhex (hex bytes) = some bytes := by
  have hspace : ∀ c ∈ hexDigits, isAsciiSpace c = false :=
    forall_hexDigits (by decide)
  induction bytes with
  | nil => rfl
  | cons b bytes ih =>
    have hb : b.toNat < 256 := b.toNat_lt_size
    have h₁ : b.toNat / 16 < 16 := by omega
    have h₂ : b.toNat % 16 < 16 := by omega
    have hcons : hex (b :: bytes)
        = Nat.digitChar (b.toNat / 16) :: Nat.digitChar (b.toNat % 16) :: hex bytes := rfl
    rw [hcons, fromhex, hspace _ (digitChar_mem_hexDigits h₁), if_neg Bool.false_ne_true,
      hexValue_digitChar h₁, hexValue_digitChar h₂, ih]
    show some (UInt8.ofNat (16 * (b.toNat / 16) + b.toNat % 16) :: bytes) = _
    rw [Nat.div_add_mod, UInt8.ofNat_toNat]

/-- What is written of a byte string are hexadecimal digits. -/
theorem mem_hex {bytes : List UInt8} {c : Char} (h : c ∈ hex bytes) : c ∈ hexDigits := by
  obtain ⟨b, -, hc⟩ := List.mem_flatMap.mp h
  have hb : b.toNat < 256 := b.toNat_lt_size
  rcases List.mem_pair.mp hc with rfl | rfl
  · exact digitChar_mem_hexDigits (by omega)
  · exact digitChar_mem_hexDigits (by omega)

/-- Nothing is removed from a text without the first letter of the
word. -/
theorem removeWord_eq_self {a : Char} {word cs : List Char} (h : a ∉ cs) :
    removeWord (a :: word) 0 cs = cs := by
  induction cs with
  | nil => rfl
  | cons c cs ih =>
    have hc : (a :: word).isPrefixOf (c :: cs) = false := by
      rw [List.isPrefixOf, Bool.and_eq_false_iff]
      exact Or.inl (beq_eq_false_iff_ne.mpr (fun hac => h (hac ▸ List.mem_cons_self)))
    rw [removeWord, if_neg (by rw [hc]; exact Bool.false_ne_true),
      ih (fun hcs => h (List.mem_cons_of_mem _ hcs))]

end Py

/-! ## Identifiers -/

namespace UUID

/-- The values of the thirty-two digits. -/
def nibbles (u : UUID) : List ℕ := (List.range 32).map (fun i => u.toNat / 16 ^ (31 - i) % 16)

theorem digits_eq (u : UUID) : u.digits = u.nibbles.map Nat.digitChar := by
  rw [digits, nibbles, List.map_map]
  rfl

theorem nibbles_lt (u : UUID) : ∀ n ∈ u.nibbles, n < 16 := by
  intro n hn
  obtain ⟨i, -, rfl⟩ := List.mem_map.mp hn
  exact Nat.mod_lt _ (by omega)

/-- **The digits add up to the identifier.** -/
theorem foldl_nibbles (u : UUID) : u.nibbles.foldl (fun a n => a * 16 + n) 0 = u.toNat := by
  have hu : u.toNat < 16 ^ 32 := u.isLt
  have hdigits : ∀ k, k ≤ 32 →
      ((List.range k).map (fun i => u.toNat / 16 ^ (31 - i) % 16)).foldl
        (fun a n => a * 16 + n) 0 = u.toNat / 16 ^ (32 - k) := by
    intro k
    induction k with
    | zero =>
      intro _
      exact (Nat.div_eq_of_lt hu).symm
    | succ k ih =>
      intro hk
      rw [List.range_succ, List.map_append, List.foldl_append, ih (by omega), List.map_singleton,
        List.foldl_cons, List.foldl_nil, show 32 - (k + 1) = 31 - k by omega,
        show 32 - k = (31 - k) + 1 by omega, Nat.pow_succ, ← Nat.div_div_eq_div_mul]
      omega
  exact (hdigits 32 (Nat.le_refl _)).trans (Nat.div_one _)

/-- The characters of a written identifier. -/
theorem mem_str {u : UUID} {c : Char} (h : c ∈ u.str.toList) : c ∈ Py.hexDigits ∨ c = '-' := by
  have hd : ∀ c ∈ u.digits, c ∈ Py.hexDigits := by
    intro c hc
    rw [digits_eq] at hc
    obtain ⟨n, hn, rfl⟩ := List.mem_map.mp hc
    exact Py.digitChar_mem_hexDigits (u.nibbles_lt n hn)
  rw [str, String.toList_ofList] at h
  simp only [List.mem_append, List.mem_singleton] at h
  rcases h with (((((((h | h) | h) | h) | h) | h) | h) | h) | h
  · exact Or.inl (hd c (List.mem_of_mem_take h))
  · exact Or.inr h
  · exact Or.inl (hd c (List.mem_of_mem_drop (List.mem_of_mem_take h)))
  · exact Or.inr h
  · exact Or.inl (hd c (List.mem_of_mem_drop (List.mem_of_mem_take h)))
  · exact Or.inr h
  · exact Or.inl (hd c (List.mem_of_mem_drop (List.mem_of_mem_take h)))
  · exact Or.inr h
  · exact Or.inl (hd c (List.mem_of_mem_drop h))

/-- Without the hyphens, the digits are left. -/
theorem filter_str (u : UUID) : u.str.toList.filter (· ≠ '-') = u.digits := by
  have hd : ∀ c ∈ u.digits, decide (c ≠ '-') = true := by
    intro c hc
    rw [digits_eq] at hc
    obtain ⟨n, hn, rfl⟩ := List.mem_map.mp hc
    have hall : ∀ c ∈ Py.hexDigits, decide (c ≠ '-') = true :=
      Py.forall_hexDigits (by decide)
    exact hall _ (Py.digitChar_mem_hexDigits (u.nibbles_lt n hn))
  have hpart : ∀ cs : List Char, (∀ c ∈ cs, c ∈ u.digits) → cs.filter (· ≠ '-') = cs :=
    fun cs hcs => List.filter_eq_self.mpr (fun c hc => hd c (hcs c hc))
  rw [str, String.toList_ofList]
  simp only [List.filter_append, List.filter_cons, ne_eq, not_true_eq_false, decide_false,
    Bool.false_eq_true, if_false, List.filter_nil, List.append_nil]
  rw [hpart _ (fun c hc => List.mem_of_mem_take hc),
    hpart _ (fun c hc => List.mem_of_mem_drop (List.mem_of_mem_take hc)),
    hpart _ (fun c hc => List.mem_of_mem_drop (List.mem_of_mem_take hc)),
    hpart _ (fun c hc => List.mem_of_mem_drop (List.mem_of_mem_take hc)),
    hpart _ (fun c hc => List.mem_of_mem_drop hc)]
  have hsplit : ∀ (n m : ℕ) (cs : List Char), (cs.drop n).take m ++ cs.drop (n + m) = cs.drop n :=
    fun n m cs => by rw [← List.drop_drop, List.take_append_drop]
  simp only [List.append_assoc]
  rw [hsplit 16 4, hsplit 12 4, hsplit 8 4, List.take_append_drop]

theorem digits_length (u : UUID) : u.digits.length = 32 := by
  rw [digits, List.length_map, List.length_range]

/-- **An identifier is read back as it was written.** -/
theorem ofString_str (u : UUID) : ofString u.str = some u := by
  have hmem : ∀ c ∈ u.str.toList, c ≠ 'u' ∧ c ∉ ['{', '}'] := by
    intro c hc
    have hall : ∀ c ∈ Py.hexDigits, c ≠ 'u' ∧ c ∉ ['{', '}'] :=
      Py.forall_hexDigits (by decide)
    rcases mem_str hc with h | rfl
    · exact hall c h
    · decide
  have hbare : ∀ w : List Char, Py.removeWord ('u' :: w) 0 u.str.toList = u.str.toList :=
    fun w => Py.removeWord_eq_self (fun h => (hmem 'u' h).1 rfl)
  have hleft : u.str.toList.dropWhile (· ∈ ['{', '}']) = u.str.toList := by
    refine List.dropWhile_eq_self_iff.mpr (fun hl h => ?_)
    exact (hmem _ (List.getElem_mem hl)).2 (of_decide_eq_true h)
  have hright : u.str.toList.rdropWhile (· ∈ ['{', '}']) = u.str.toList := by
    refine List.rdropWhile_eq_self_iff.mpr (fun hl h => ?_)
    exact (hmem _ (List.getLast_mem hl)).2 (of_decide_eq_true h)
  have hne : u.nibbles ≠ [] := fun h => by
    have hlen := congrArg List.length h
    rw [nibbles, List.length_map, List.length_range] at hlen
    exact absurd hlen (by decide)
  have hu : u.toNat < 2 ^ 128 := u.isLt
  unfold ofString
  dsimp only
  have hurn : Py.removeWord "urn:".toList 0 u.str.toList = u.str.toList := hbare _
  have huuid : Py.removeWord "uuid:".toList 0 u.str.toList = u.str.toList := hbare _
  rw [hurn, huuid, hleft, hright, filter_str, if_neg (fun h => h u.digits_length), digits_eq,
    Py.int_digitChar _ u.nibbles_lt hne, foldl_nibbles, Option.bind_some,
    if_pos ⟨Int.natCast_nonneg _, by exact_mod_cast hu⟩, Int.toNat_natCast, BitVec.ofNat_toNat,
    BitVec.setWidth_eq]

/-- **Distinct identifiers are written differently.** -/
theorem str_injective : Function.Injective str := fun u v h =>
  Option.some.inj ((ofString_str u).symm.trans ((congrArg ofString h).trans (ofString_str v)))

end UUID
