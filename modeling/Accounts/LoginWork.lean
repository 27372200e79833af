import Accounts.Metering
import Accounts.Verification

/-!
# How much hashing a login is

Deriving a key with PBKDF2 is most of the time a login takes. `login` says
that it verifies even when the member is missing, so that the time does not
tell which emails there are – but the `or` in its condition is lazy, and
`verify` returns before it derives anything where no password is stored.

`loginWork` is the list of the derivations of a login, by their iteration
counts. What is stored of a password is only ever what `hash` has written
(`HashesWritten`), so in a state the service reaches the list is the same for
every email with a password, and empty for every other one: two failed logins
are alike exactly when neither email has a password, or both have – or when
the password presented cannot be hashed, and no key is derived from it
(`failed_login_work`).
-/

open Repository

variable {P : Platform} {env : Env} {d d' : Database} {password text : Py.Text}
  {stored : Option Py.Text} {s : Session Database}

/-! ## `verify` and `login`, metered -/

/-- **`verify`**, with the iteration counts of the keys it derives. -/
def PasswordHasher.meteredVerify (P : Platform) (password : Py.Text) (stored : Option Py.Text) :
    Metered ℕ Database Exn Bool :=
  match stored with
  | none => return false
  | some stored =>
    if stored = [] then return false
    else
      match stored.splitOn (.inl '$') with
      | [algo', iterations', saltHex, hashHex] =>
        if algo' ≠ Py.Text.ofString algo then return false
        else do
          let password ← .free (Tx.lift (password.encode.elim (.error .valueError) .ok))
          let salt ← .free (Tx.lift
            (((Py.Text.chars saltHex).bind Py.fromhex).elim (.error .valueError) .ok))
          let n ← .free (Tx.lift
            (((Py.Text.chars iterations').bind (Py.int 10)).elim (.error .valueError) .ok))
          let count ← .free (Tx.lift (iterationCount password salt n))
          Metered.spend count
          if hashHex.any (fun c => !c.isAscii) then .free (Tx.raise .typeError)
          else return Py.Text.ofChars (Py.hex (P.pbkdf2 password salt count)) = hashHex
      | _ => return false

/-- **`login`**, with the iteration counts of the keys it derives. -/
def AuthService.meteredLogin (P : Platform) (env : Env) (body : LoginRequest) :
    Metered ℕ Database Exn IssuedTokens := do
  let member ← .free (FamilyMemberRepository.getByEmail body.email)
  match member with
  | none => .free (Tx.raise (.service (.unauthorized "invalid credentials")))
  | some member =>
    if ← PasswordHasher.meteredVerify P body.password (storedHash member) then
      .free (issueTokens P env member.familyId member.id)
    else
      .free (Tx.raise (.service (.unauthorized "invalid credentials")))

/-- **The PBKDF2 evaluations of a login**, by their iteration counts. -/
def loginWork (P : Platform) (env : Env) (body : LoginRequest) (d : Database) : List ℕ :=
  (AuthService.meteredLogin P env body).spent ⟨d, d⟩

namespace PasswordHasher

variable {count salt digest : Py.Text}

/-- A text without the fields is refused. -/
theorem meteredVerify_of_not_fields (h : ∀ count salt digest, ¬ Fields text count salt digest) :
    meteredVerify P password (some text) = pure false := by
  unfold meteredVerify
  dsimp only
  split
  · rfl
  · split
    · next algo' count salt digest hsplit =>
      rw [if_pos]
      rintro rfl
      exact h count salt digest hsplit
    · rfl

/-- **What becomes of a text with the fields**: between reading them and
comparing the digests, one key is derived. -/
theorem meteredVerify_of_fields (h : Fields text count salt digest) :
    meteredVerify P password (some text) = (do
      let password ← .free (Tx.lift (password.encode.elim (.error .valueError) .ok))
      let salt ← .free (Tx.lift ((salt.chars.bind Py.fromhex).elim (.error .valueError) .ok))
      let n ← .free (Tx.lift ((count.chars.bind (Py.int 10)).elim (.error .valueError) .ok))
      let count ← .free (Tx.lift (iterationCount password salt n))
      Metered.spend count
      if digest.any (fun c => !c.isAscii) then .free (Tx.raise .typeError)
      else return .ofChars (Py.hex (P.pbkdf2 password salt count)) = digest) := by
  have hne : text ≠ [] := by
    rintro rfl
    cases h
  unfold meteredVerify
  dsimp only
  rw [if_neg hne, show text.splitOn (.inl '$') = _ from h]
  dsimp only
  rw [if_neg (fun hne => hne rfl)]

/-- **The metered `verify` is `verify`.** -/
theorem body_meteredVerify :
    (meteredVerify P password stored).body = Tx.lift (verify P password stored) := by
  cases stored with
  | none => rfl
  | some text =>
    by_cases hfields : ∃ count salt digest, Fields text count salt digest
    · obtain ⟨count, salt, digest, h⟩ := hfields
      rw [meteredVerify_of_fields h, verify_of_fields h]
      simp only [Metered.body_bind, Metered.body_free, Metered.body_spend, pure_bind,
        Tx.lift_bind]
      refine bind_congr (fun password => bind_congr (fun salt => bind_congr (fun n =>
        bind_congr (fun count => ?_))))
      split <;> rfl
    · have hno : ∀ count salt digest, ¬ Fields text count salt digest :=
        fun count salt digest h => hfields ⟨count, salt, digest, h⟩
      rw [meteredVerify_of_not_fields hno, verify_of_not_fields hno]
      rfl

/-- No key is derived where no password is stored. -/
theorem spent_meteredVerify_none : (meteredVerify P password none).spent s = [] := rfl

/-- **One key is derived** where the password can be checked. -/
theorem spent_meteredVerify_of_readable (h : Fields text count salt digest)
    (hread : ReadableFields password count salt digest) :
    ∃ n : ℤ, count.chars.bind (Py.int 10) = some n ∧
      (meteredVerify P password (some text)).spent s = [n.toNat] := by
  obtain ⟨⟨p, hp, hsize⟩, ⟨bytes, hbytes, hlen⟩, ⟨n, hn, hrange⟩, -⟩ := hread
  have hk : iterationCount p bytes n = .ok n.toNat :=
    iterationCount_eq_ok_iff.mpr ⟨hsize, hlen, hrange, rfl⟩
  refine ⟨n, hn, ?_⟩
  rw [meteredVerify_of_fields h, show password.encode = some p from hp, hbytes, hn,
    Option.elim_some, Option.elim_some, Option.elim_some,
    Metered.spent_free_bind (Tx.returns_lift.mpr ⟨rfl, rfl⟩),
    Metered.spent_free_bind (Tx.returns_lift.mpr ⟨rfl, rfl⟩),
    Metered.spent_free_bind (Tx.returns_lift.mpr ⟨rfl, rfl⟩),
    Metered.spent_free_bind (Tx.returns_lift.mpr ⟨hk, rfl⟩),
    Metered.spent_bind_of_returns (Tx.returns_pure.mpr ⟨rfl, rfl⟩), Metered.spent_spend]
  split <;> rfl

/-- **No key is derived** from a password that cannot be hashed. -/
theorem spent_meteredVerify_of_not_canHash (h : Fields text count salt digest)
    (hpassword : ¬ CanHash password) : (meteredVerify P password (some text)).spent s = [] := by
  rw [meteredVerify_of_fields h]
  refine Metered.spent_free_bind_eq_nil (fun p s₁ hp => Metered.spent_free_bind_eq_nil
    (fun bytes s₂ _ => Metered.spent_free_bind_eq_nil (fun n s₃ _ =>
      Metered.spent_free_bind_eq_nil (fun k s₄ hk => absurd ?_ hpassword))))
  -- the count is come to with a password that is encoded and short enough
  exact ⟨p, elim_eq_ok_iff.mp (Tx.returns_lift.mp hp).1,
    (iterationCount_eq_ok_iff.mp (Tx.returns_lift.mp hk).1).1⟩

/-- **What is spent against a text `hash` has written**: its number of
iterations. -/
theorem spent_meteredVerify_hash (salt : Salt) (password' : Password) :
    (meteredVerify P password (some (.ofString (hash P salt password')))).spent s
      = if CanHash password then [iterations] else [] := by
  have hfields := hash_fields P salt password'
  split
  · next hpassword =>
    obtain ⟨n, hn, hspent⟩ := spent_meteredVerify_of_readable (P := P) (s := s) hfields
      ((readable_hash P salt password').mpr hpassword _ rfl _ _ _ hfields)
    have hcount : (Py.Text.ofChars (Nat.toDigits 10 iterations)).chars.bind (Py.int 10)
        = some 600000 := by decide +kernel
    rw [hspent, ← Option.some.inj (hcount.symm.trans hn)]
    rfl
  · next hpassword => exact spent_meteredVerify_of_not_canHash hfields hpassword

end PasswordHasher

/-- **The metered `login` is `login`.** -/
theorem AuthService.body_meteredLogin (body : LoginRequest) :
    (meteredLogin P env body).body = login P env body := by
  unfold meteredLogin login
  rw [Metered.body_bind, Metered.body_free]
  refine bind_congr (fun member => ?_)
  cases member with
  | none => rfl
  | some member =>
    dsimp only
    rw [Metered.body_bind, PasswordHasher.body_meteredVerify]
    refine bind_congr (fun ok => ?_)
    cases ok <;> rfl

/-! ## What is stored of passwords -/

/-- **What is stored of a password is what `hash` has written.** -/
def HashesWritten (P : Platform) (ms : List FamilyMember) : Prop :=
  ∀ m ∈ ms, ∀ text ∈ m.passwordHash, ∃ salt password, text = PasswordHasher.hash P salt password

/-- **A step stores what `hash` writes.** -/
theorem HashesWritten.step {fs fs' : List Family} {ms ms' : List FamilyMember}
    {event : Option HouseholdEvent} (h : HashesWritten P ms)
    (hs : HouseholdStep P env fs ms event fs' ms') : HashesWritten P ms' := by
  have hadd : ∀ {m : FamilyMember},
      (∀ text ∈ m.passwordHash, ∃ salt password, text = PasswordHasher.hash P salt password) →
      HashesWritten P (Table.insert ms m) := by
    intro m hm x hx
    rcases Table.mem_insert.mp hx with hx | rfl
    · exact h x hx
    · exact hm
  cases hs with
  | same | renamed => exact h
  | founded body | joined body =>
    refine hadd (fun text htext => ⟨env.salt, body.password, ?_⟩)
    exact (Option.some.inj htext).symm
  | created f body =>
    refine hadd (fun text htext => ?_)
    obtain ⟨password, -, rfl⟩ := Option.map_eq_some_iff.mp htext
    exact ⟨env.salt, password, rfl⟩
  | updated hold hk =>
    intro x hx
    rcases Table.mem_replace.mp hx with ⟨rfl, -⟩ | ⟨hx, -⟩
    · rw [hk.passwordHash]
      exact h _ hold
    · exact h x hx
  | deleted hr hp => exact fun x hx => h x (Table.mem_delete.mp hx).1

/-- **So does every schedule.** -/
theorem hashesWritten_run (P : Platform) (ms : List (Move Env Request)) :
    HashesWritten P ((concurrentService P).system.run idle ms).shared.members := by
  refine (concurrentService P).system.run_invariant (P := fun _ _ => True)
    (fun c => HashesWritten P c.shared.members) (fun c m h _ => ?_) (by rintro m ⟨⟩)
    ((concurrentService P).system.every_of_forall (P := fun _ => True) idle
      (fun _ _ => trivial))
  rcases household_move P c m with ⟨-, hs⟩ | ⟨o, -, -, hs⟩
  · exact h.step hs
  · exact h.step hs

/-! ## The work of a login -/

/-- **A member with the email has a password.** -/
def HasPassword (email : String) (d : Database) : Prop :=
  ∃ m ∈ d.members, m.email = some email ∧ m.passwordHash ≠ none

instance (email : String) (d : Database) : Decidable (HasPassword email d) :=
  inferInstanceAs (Decidable (∃ m ∈ d.members, m.email = some email ∧ m.passwordHash ≠ none))

/-- **A login derives a key** where the email has a password and the one
presented can be hashed, and none elsewhere. -/
theorem loginWork_eq (h : HashesWritten P d.members) (body : LoginRequest) :
    loginWork P env body d
      = if HasPassword body.email d ∧ PasswordHasher.CanHash body.password then
          [PasswordHasher.iterations]
        else [] := by
  rw [loginWork, AuthService.meteredLogin, FamilyMemberRepository.getByEmail_eq_read,
    Metered.spent_free_bind (Tx.returns_read.mpr ⟨rfl, rfl⟩)]
  cases hfind : d.members.find? (fun r => r.email = some body.email) with
  | none =>
    rw [if_neg]
    · rfl
    · rintro ⟨⟨m, hm, hemail, -⟩, -⟩
      exact List.find?_eq_none.mp hfind m hm (by simpa using hemail)
  | some m =>
    obtain ⟨hm, hemail⟩ := FamilyMember.find_email_eq_some_iff.mp hfind
    have hfree : ∀ ok : Bool,
        (if ok then .free (AuthService.issueTokens P env m.familyId m.id)
          else .free (Tx.raise (.service (.unauthorized "invalid credentials"))) :
            Metered ℕ Database Exn IssuedTokens)
        = .free (if ok then AuthService.issueTokens P env m.familyId m.id
          else Tx.raise (.service (.unauthorized "invalid credentials"))) := by
      intro ok
      cases ok <;> rfl
    simp only [hfree, Metered.spent_bind_free, AuthService.storedHash]
    cases hpw : m.passwordHash with
    | none =>
      rw [Option.map_none, PasswordHasher.spent_meteredVerify_none, if_neg]
      rintro ⟨⟨m', hm', hemail', hpw'⟩, -⟩
      obtain rfl : m' = m := Option.some.inj
        ((FamilyMember.find_email_eq_some_iff.mpr ⟨hm', hemail'⟩).symm.trans hfind)
      exact hpw' hpw
    | some text =>
      obtain ⟨salt, password, rfl⟩ := h m hm text hpw
      have hhas : HasPassword body.email d :=
        ⟨m, hm, hemail, by rw [hpw]; exact Option.some_ne_none _⟩
      rw [Option.map_some, PasswordHasher.spent_meteredVerify_hash]
      exact if_congr (and_iff_right hhas).symm rfl rfl

/-! ## The result -/

/-- Two lists that may be empty. -/
theorem ite_singleton_eq_iff {α : Type} {x : α} {p q : Prop} [Decidable p] [Decidable q] :
    (if p then [x] else []) = (if q then [x] else []) ↔ (p ↔ q) := by
  by_cases hp : p <;> by_cases hq : q <;> simp [hp, hq]

/-- **When two logins with the same body are the same work**, in any two
states that any interleavings of requests reach: just when a member with the
email has a password in both of them, or in neither, or the password presented
cannot be hashed. This is so of every login, so of those that end in bad
credentials. -/
theorem failed_login_work (P : Platform) (ms₁ ms₂ : List (Move Env Request)) (env₁ env₂ : Env)
    (body : LoginRequest) :
    let d₁ := ((concurrentService P).system.run idle ms₁).shared
    let d₂ := ((concurrentService P).system.run idle ms₂).shared
    loginWork P env₁ body d₁ = loginWork P env₂ body d₂ ↔
      (PasswordHasher.CanHash body.password →
        (HasPassword body.email d₁ ↔ HasPassword body.email d₂)) := by
  intro d₁ d₂
  rw [loginWork_eq (hashesWritten_run P ms₁), loginWork_eq (hashesWritten_run P ms₂),
    ite_singleton_eq_iff, and_congr_left_iff]

/-- A state in which the only requests have been a signup and the creation of
a member, without a password. -/
def Sample.created : Database :=
  ((concurrentService (Sample.platform 2592000)).system.run idle
    (Sample.creates (some "bob@example.org"))).shared

/-- A state in which Bob has signed up. -/
def Sample.bobSignedUp : Database :=
  ((concurrentService (Sample.platform 2592000)).system.run idle [
    .start (Sample.env 1 (Sample.second 0))
      (.auth (.signup (Sample.signup "bob@example.org" none))),
    .finish (Sample.env 1 (Sample.second 0)) 0]).shared

/-- **Two failed logins that are not the same work.** Ada mistypes her
password, before she has signed up and after: a key is derived only then. And
so does Bob, whom Ada has created without a password and who elsewhere has
signed up. All four end in bad credentials. -/
theorem failed_login_work_differs :
    let P := Sample.platform 2592000
    let env := Sample.env 3 (Sample.second 120)
    let ada : LoginRequest := ⟨"ada@example.org", .ofString "wrong horse"⟩
    let bob : LoginRequest := ⟨"bob@example.org", .ofString "wrong horse"⟩
    let answer := fun body d => (serve P env (.auth (.login body)) d).1
    let bad : Except Exn Response := .error (.service (.unauthorized "invalid credentials"))
    (answer ada idle.shared = bad ∧ answer ada Sample.created = bad ∧
      loginWork P env ada idle.shared = [] ∧ loginWork P env ada Sample.created = [600000]) ∧
    (answer bob Sample.created = bad ∧ answer bob Sample.bobSignedUp = bad ∧
      loginWork P env bob Sample.created = [] ∧
      loginWork P env bob Sample.bobSignedUp = [600000]) := by
  decide +kernel
