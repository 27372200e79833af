import Accounts.Credentials
import Accounts.ReadingProfiles
import Mathlib.Algebra.Order.Floor.Ring
import Mathlib.Tactic.Linarith
import Mathlib.Tactic.FieldSimp

/-!
# What columns hold

A number is stored as its column holds it: rounded to two decimals, and
refused if it is out of range. What has been stored is stored as it is when
it is written again (`TableName.coerce_coerce`), and in every database the
service reaches every row is such (`stored_run`). So a column that an update
does not set keeps its value, also where the whole row is written.
-/

open Repository

variable {P : Platform} {env : Env} {d d' : Database} {T : TableName}

/-! ## Errors -/

/-- A value that is there is stored, and none is where none is. -/
theorem Option.mapM_eq_ok_iff {ε α β : Type} {g : α → Except ε β} {o : Option α} {o' : Option β} :
    o.mapM g = .ok o' ↔ (o = none ∧ o' = none) ∨ ∃ a b, o = some a ∧ g a = .ok b ∧ o' = some b := by
  cases o with
  | none =>
    show Except.ok none = .ok o' ↔ _
    simp [eq_comm]
  | some a =>
    show some <$> g a = .ok o' ↔ _
    cases hg : g a with
    | error e =>
      show Except.error e = .ok o' ↔ _
      simp [hg]
    | ok b =>
      show Except.ok (some b) = .ok o' ↔ _
      simp [hg, eq_comm]

/-- A value that is there can be refused. -/
theorem Option.mapM_eq_error {ε α β : Type} {g : α → Except ε β} {o : Option α} {e : ε}
    (h : o.mapM g = .error e) : ∃ a, o = some a ∧ g a = .error e := by
  cases o with
  | none => cases h
  | some a =>
    refine ⟨a, rfl, ?_⟩
    cases hg : g a with
    | error e' =>
      rw [show (some a).mapM g = some <$> g a from rfl, hg] at h
      exact congrArg Except.error (Except.error.inj h)
    | ok b =>
      rw [show (some a).mapM g = some <$> g a from rfl, hg] at h
      cases h

/-! ## Numbers -/

/-- A number of cents is not rounded. -/
theorem floor_cents {n : ℤ} {q : ℚ} (hq : |q| * 100 = n) : ⌊|q| * 100 + 1 / 2⌋ = n := by
  rw [hq, Int.floor_eq_iff]
  constructor <;> linarith

theorem roundCents_of_nonneg {n : ℤ} (hn : 0 ≤ n) : roundCents ((n : ℚ) / 100) = (n : ℚ) / 100 := by
  have hq : (0 : ℚ) ≤ (n : ℚ) / 100 := div_nonneg (by exact_mod_cast hn) (by norm_num)
  unfold roundCents
  rw [floor_cents (by rw [abs_of_nonneg hq]; field_simp)]
  simp only [if_neg (not_lt.mpr hq)]

/-- Halves are rounded away from zero on both sides of it. -/
theorem roundCents_neg {q : ℚ} : roundCents (-q) = -roundCents q := by
  unfold roundCents
  rw [abs_neg]
  rcases lt_trichotomy q 0 with h | rfl | h
  · simp only [if_pos h, if_neg (show ¬ -q < 0 by linarith)]
    ring
  · norm_num
  · simp only [if_neg (not_lt.mpr h.le), if_pos (show -q < 0 by linarith)]
    ring

/-- **What is rounded is rounded to itself.** -/
theorem roundCents_roundCents (q : ℚ) : roundCents (roundCents q) = roundCents q := by
  have hn : 0 ≤ ⌊|q| * 100 + 1 / 2⌋ := Int.floor_nonneg.mpr (by positivity)
  by_cases hq : q < 0
  · have hround : roundCents q = -((⌊|q| * 100 + 1 / 2⌋ : ℚ) / 100) := by
      unfold roundCents
      simp only [if_pos hq]
      ring
    rw [hround, roundCents_neg, roundCents_of_nonneg hn]
  · have hround : roundCents q = (⌊|q| * 100 + 1 / 2⌋ : ℚ) / 100 := by
      unfold roundCents
      simp only [if_neg hq]
    rw [hround, roundCents_of_nonneg hn]

theorem numericColumn_eq_error {digits : ℕ} {q : ℚ} {e : Exn}
    (h : numericColumn digits q = .error e) : e = .repositoryError := by
  unfold numericColumn at h
  split at h
  · cases h
  · exact (Except.error.inj h).symm

theorem integerColumn_eq_error {n : ℤ} {e : Exn} (h : integerColumn n = .error e) :
    e = .repositoryError := by
  unfold integerColumn at h
  split at h
  · cases h
  · exact (Except.error.inj h).symm

/-- A number that has been stored is stored as it is. -/
theorem numericColumn_numericColumn {digits : ℕ} {q v : ℚ} (h : numericColumn digits q = .ok v) :
    numericColumn digits v = .ok v := by
  unfold numericColumn at h ⊢
  split at h
  · next hq =>
    obtain rfl := Except.ok.inj h
    rw [roundCents_roundCents, if_pos hq]
  · cases h

theorem integerColumn_integerColumn {n v : ℤ} (h : integerColumn n = .ok v) :
    integerColumn v = .ok v := by
  have hv : v = n := by
    unfold integerColumn at h
    split at h
    · exact (Except.ok.inj h).symm
    · cases h
  exact hv ▸ (hv ▸ h)

/-- What has been stored is stored as it is, also where nothing is. -/
theorem Option.mapM_mapM {ε α : Type} {g : α → Except ε α} (hg : ∀ a b, g a = .ok b → g b = .ok b)
    {o o' : Option α} (h : o.mapM g = .ok o') : o'.mapM g = .ok o' := by
  rcases Option.mapM_eq_ok_iff.mp h with ⟨-, rfl⟩ | ⟨a, b, -, hab, rfl⟩
  · rfl
  · exact Option.mapM_eq_ok_iff.mpr (Or.inr ⟨b, b, rfl, hg a b hab, rfl⟩)

/-! ## Rows -/

namespace TableName

/-- **Numbers are all a column refuses.** -/
theorem coerce_eq_error {r : T.Row} {e : Exn} (h : T.coerce r = .error e) :
    e = .repositoryError := by
  cases T with
  | familyMemberProfile =>
    rcases Except.bind_eq_error_iff.mp h with h | ⟨_, -, h⟩
    · obtain ⟨q, -, hq⟩ := Option.mapM_eq_error h
      exact numericColumn_eq_error hq
    · cases h
  | childReadingProfile =>
    rcases Except.bind_eq_error_iff.mp h with h | ⟨_, -, h⟩
    · obtain ⟨n, -, hn⟩ := Option.mapM_eq_error h
      exact integerColumn_eq_error hn
    · rcases Except.bind_eq_error_iff.mp h with h | ⟨_, -, h⟩
      · obtain ⟨q, -, hq⟩ := Option.mapM_eq_error h
        exact numericColumn_eq_error hq
      · rcases Except.bind_eq_error_iff.mp h with h | ⟨_, -, h⟩
        · obtain ⟨q, -, hq⟩ := Option.mapM_eq_error h
          exact numericColumn_eq_error hq
        · cases h
  | family | familyMember | familyReadingPolicy | familyInvite | refreshToken | childProfile
  | readingHistory => cases h

/-- Nor does writing the columns fail on anything else. -/
theorem written_eq_error {now : Datetime} {old draft : T.Row} {e : Exn}
    (h : T.written now old draft = .error e) : e = .repositoryError := by
  unfold written at h
  split at h
  · cases h
  · cases hc : T.coerce draft with
    | error e' =>
      rw [hc] at h
      exact coerce_eq_error (Except.error.inj h ▸ hc)
    | ok c =>
      rw [hc] at h
      cases h

/-- **A row that has been stored is stored as it is.** -/
theorem coerce_coerce {r stored : T.Row} (h : T.coerce r = .ok stored) :
    T.coerce stored = .ok stored := by
  cases T with
  | familyMemberProfile =>
    obtain ⟨confidence, hconf, h⟩ := Except.bind_eq_ok_iff.mp h
    cases h
    exact Except.bind_eq_ok_iff.mpr
      ⟨confidence, Option.mapM_mapM (fun _ _ => numericColumn_numericColumn) hconf, rfl⟩
  | childReadingProfile =>
    obtain ⟨lexile, hlexile, h⟩ := Except.bind_eq_ok_iff.mp h
    obtain ⟨arLevel, har, h⟩ := Except.bind_eq_ok_iff.mp h
    obtain ⟨confidence, hconf, h⟩ := Except.bind_eq_ok_iff.mp h
    cases h
    exact Except.bind_eq_ok_iff.mpr
      ⟨lexile, Option.mapM_mapM (fun _ _ => integerColumn_integerColumn) hlexile,
        Except.bind_eq_ok_iff.mpr
          ⟨arLevel, Option.mapM_mapM (fun _ _ => numericColumn_numericColumn) har,
            Except.bind_eq_ok_iff.mpr
              ⟨confidence, Option.mapM_mapM (fun _ _ => numericColumn_numericColumn) hconf, rfl⟩⟩⟩
  | family | familyMember | familyReadingPolicy | familyInvite | refreshToken | childProfile
  | readingHistory => rfl

/-- The stamp is no number. -/
theorem coerce_touch (now : Datetime) (r : T.Row) :
    T.coerce (T.touch now r) = (T.coerce r).map (T.touch now) := by
  cases T with
  | familyMemberProfile =>
    unfold coerce touch
    dsimp only
    cases r.confidence.mapM (numericColumn 1) <;> rfl
  | childReadingProfile =>
    unfold coerce touch
    dsimp only
    cases r.lexile.mapM integerColumn with
    | error e => rfl
    | ok lexile =>
      cases r.arLevel.mapM (numericColumn 2) with
      | error e => rfl
      | ok arLevel => cases r.confidence.mapM (numericColumn 1) <;> rfl
  | family | familyMember | familyReadingPolicy | familyInvite | refreshToken | childProfile
  | readingHistory => rfl

@[simp] theorem touch_touch (now now' : Datetime) (r : T.Row) :
    T.touch now' (T.touch now r) = T.touch now' r := by
  cases T <;> rfl

/-- **The rows differ in their stamp at most.** -/
def SameUpToStamp {T : TableName} (r r' : T.Row) : Prop := ∀ t, T.touch t r = T.touch t r'

/-- A row has the stamp it has. -/
theorem exists_touch_eq (r : T.Row) : ∃ t, T.touch t r = r := by
  cases T with
  | refreshToken => exact ⟨.first, rfl⟩
  | _ => exact ⟨r.updatedAt, rfl⟩

theorem sameUpToStamp_touch (t : Datetime) (r : T.Row) : SameUpToStamp (T.touch t r) r :=
  fun t' => touch_touch t t' r

namespace SameUpToStamp

variable {r r' r'' : T.Row}

theorem refl (r : T.Row) : SameUpToStamp r r := fun _ => rfl

theorem symm (h : SameUpToStamp r r') : SameUpToStamp r' r := fun t => (h t).symm

theorem trans (h : SameUpToStamp r r') (h' : SameUpToStamp r' r'') : SameUpToStamp r r'' :=
  fun t => (h t).trans (h' t)

/-- Nor is it a number. -/
theorem coerce (h : SameUpToStamp r r') (hr' : T.coerce r' = .ok r') : T.coerce r = .ok r := by
  obtain ⟨t, ht⟩ := exists_touch_eq r
  rw [← ht, h t, coerce_touch, hr']
  rfl

end SameUpToStamp

/-- **What is written is the row that was there, or as its columns store
it.** -/
theorem written_cases {now : Datetime} {old draft stored : T.Row}
    (h : T.written now old draft = .ok stored) :
    (draft = old ∧ stored = old) ∨ ∃ c, T.coerce draft = .ok c ∧ stored = T.touch now c := by
  unfold written at h
  split at h
  · next heq => exact Or.inl ⟨heq, (Except.ok.inj h).symm⟩
  · cases hc : T.coerce draft with
    | error e =>
      rw [hc] at h
      cases h
    | ok c =>
      rw [hc] at h
      exact Or.inr ⟨c, rfl, (Except.ok.inj h).symm⟩

/-- **A draft that its columns take is written**, but for the stamp as they
store it. -/
theorem written_of_coerce {old draft c : T.Row} (now : Datetime) (hold : T.coerce old = .ok old)
    (hc : T.coerce draft = .ok c) : ∃ a, T.written now old draft = .ok a ∧ SameUpToStamp a c := by
  by_cases heq : draft = old
  · subst heq
    obtain rfl := Except.ok.inj (hold.symm.trans hc)
    exact ⟨draft, by rw [written, if_pos rfl], .refl _⟩
  · refine ⟨T.touch now c, ?_, sameUpToStamp_touch now c⟩
    rw [written, if_neg heq, hc]
    rfl

/-- What has been stamped is stored as it is. -/
theorem coerce_touch_of_coerce {now : Datetime} {draft c : T.Row} (hc : T.coerce draft = .ok c) :
    T.coerce (T.touch now c) = .ok (T.touch now c) := by
  rw [coerce_touch, coerce_coerce hc]
  rfl

end TableName

/-! ## Databases -/

/-- **Every row is as its columns store it.** -/
def Database.Stored (d : Database) : Prop :=
  ∀ T : TableName, ∀ r ∈ d.rows T, T.coerce r = .ok r

/-- **The rows of `d'` are rows of `d`**, or as their columns store them. -/
def Database.Stores (d d' : Database) : Prop :=
  ∀ T : TableName, ∀ r ∈ d'.rows T, r ∈ d.rows T ∨ T.coerce r = .ok r

theorem Database.Stored.of_stores (h : d.Stored) (hs : d.Stores d') : d'.Stored :=
  fun T r hr => (hs T r hr).elim (h T r) id

namespace Database.Stores

theorem refl (d : Database) : d.Stores d := fun _ _ hr => Or.inl hr

theorem trans {d₁ d₂ : Database} (h : d.Stores d₁) (h' : d₁.Stores d₂) : d.Stores d₂ :=
  fun T r hr => (h' T r hr).elim (h T r) Or.inr

/-- Only the two profiles have numbers. -/
theorem of_profiles (hm : d'.memberProfiles = d.memberProfiles)
    (hc : d'.readingProfiles = d.readingProfiles) : d.Stores d' := by
  intro T r hr
  cases T with
  | familyMemberProfile => exact Or.inl (by rwa [show d'.rows _ = d.rows _ from hm] at hr)
  | childReadingProfile => exact Or.inl (by rwa [show d'.rows _ = d.rows _ from hc] at hr)
  | family | familyMember | familyReadingPolicy | familyInvite | refreshToken | childProfile
  | readingHistory => exact Or.inr rfl

/-- A row that is inserted as its columns store it. -/
theorem of_insert {a : T.Row} (ha : T.coerce a = .ok a)
    (hd' : d'.rows = Schema.insert T a d.rows) : d.Stores d' := by
  intro U r hr
  rw [hd'] at hr
  by_cases hU : U = T
  · subst hU
    rw [Schema.insert_self] at hr
    rcases Table.mem_insert.mp hr with hr | rfl
    · exact Or.inl hr
    · exact Or.inr ha
  · rw [Schema.insert_of_ne hU] at hr
    exact Or.inl hr

/-- A row that is replaced by one that was there, or is as its columns store
it. -/
theorem of_replace {a : T.Row} (ha : a ∈ d.rows T ∨ T.coerce a = .ok a)
    (hd' : d'.rows = schema.replace T a d.rows) : d.Stores d' := by
  intro U r hr
  rw [hd'] at hr
  by_cases hU : U = T
  · subst hU
    rw [Schema.replace_self] at hr
    rcases Table.mem_replace.mp hr with ⟨rfl, -⟩ | ⟨hr, -⟩
    · exact ha
    · exact Or.inl hr
  · rw [Schema.replace_of_ne hU] at hr
    exact Or.inl hr

end Database.Stores

namespace Repository

variable {s s' : Session Database}

theorem add_stores {r a : T.Row} (h : (add T r).Returns s a s') :
    s.working.Stores s'.working := by
  obtain ⟨hc, d, hd, rfl⟩ := returns_add.mp h
  exact .of_insert (TableName.coerce_coerce hc) hd

theorem update_stores {id : UUID} {changes : T.Row → Except Exn T.Row} {a : T.Row}
    (h : (update env T id changes).Returns s a s') : s.working.Stores s'.working := by
  obtain ⟨old, hold, hw, d, hd, rfl⟩ := returns_update.mp h
  obtain ⟨draft, -, hwritten⟩ := Except.bind_eq_ok_iff.mp hw
  refine .of_replace ?_ hd
  rcases TableName.written_cases hwritten with ⟨-, rfl⟩ | ⟨c, hc, rfl⟩
  · exact Or.inl (Store.find_eq_some_iff.mp hold).1
  · exact Or.inr (TableName.coerce_touch_of_coerce hc)

theorem delete_stores {id : UUID} (h : (delete T id).Returns s () s') :
    s.working.Stores s'.working := by
  obtain ⟨-, d, hd, rfl⟩ := returns_delete.mp h
  intro U r hr
  rw [show d.rows U = _ from congrFun hd U] at hr
  have hcascade : r ∈ T.cascade id s.working.rows U := Schema.mem_of_mem_delete hr
  left
  cases T with
  | familyMember | childProfile => exact Schema.mem_of_mem_discard hcascade
  | family | familyMemberProfile | familyReadingPolicy | familyInvite | refreshToken
  | childReadingProfile | readingHistory => exact hcascade

end Repository

theorem MemberService.putProfile_stores {s s' : Session Database} {memberId : UUID}
    {body : MemberProfileUpsert} {profile : Option FamilyMemberProfile} {a : FamilyMemberProfile}
    (h : (putProfile env memberId body profile).Returns s a s') :
    s.working.Stores s'.working := by
  cases profile with
  | none => exact add_stores h
  | some profile => exact update_stores h

/-- **Operations store rows as their columns do.** -/
theorem FamilyOp.run_stores {s s' : Session Database} {f : UUID} {op : FamilyOp}
    {response : Response} (h : (op.run P env f).Returns s response s') :
    s.working.Stores s'.working := by
  have hother : op.target ≠ some .familyMemberProfile → op.target ≠ some .childReadingProfile →
      op.target ≠ some .familyMember → op.target ≠ some .childProfile →
      s.working.Stores s'.working := fun hm hc hm' hc' =>
    .of_profiles ((FamilyOp.run_change h).rows_of_ne hm (fun _ => hm') (by simp))
      ((FamilyOp.run_change h).rows_of_ne hc (by simp) (fun _ => hc'))
  cases op with
  | createMember body =>
    obtain ⟨a, h, -⟩ := Tx.returns_bind_pure.mp h
    obtain ⟨u, s₁, h₁, h₂⟩ := Tx.returns_bind.mp h
    obtain rfl := (MemberService.reads_checkEmail body).returns h₁
    have hrows := MemberService.insert_change h₂
    exact .of_profiles ((congrFun hrows _).trans (Schema.insert_of_ne (by simp)))
      ((congrFun hrows _).trans (Schema.insert_of_ne (by simp)))
  | updateMember memberId body =>
    obtain ⟨a, h, -⟩ := Tx.returns_bind_pure.mp h
    obtain ⟨m, s₁, h₁, h₂⟩ := Tx.returns_bind.mp h
    obtain ⟨-, -, -, rfl⟩ := MemberService.require_returns.mp h₁
    obtain ⟨m', h₃, -⟩ := Tx.returns_bind_pure.mp h₂
    exact update_stores h₃
  | deleteMember memberId =>
    obtain ⟨a, h, -⟩ := Tx.returns_bind_pure.mp h
    obtain ⟨m, s₁, h₁, h₂⟩ := Tx.returns_bind.mp h
    obtain ⟨-, -, -, rfl⟩ := MemberService.require_returns.mp h₁
    rcases Tx.returns_ite.mp h₂ with ⟨-, h₃⟩ | ⟨-, h₃⟩
    · exact absurd h₃ Tx.returns_raise
    · exact delete_stores h₃
  | upsertProfile memberId body =>
    obtain ⟨a, h, -⟩ := Tx.returns_bind_pure.mp h
    obtain ⟨profile, s₁, h₁, h₂⟩ := Tx.returns_bind.mp h
    obtain ⟨rfl, -⟩ := MemberService.findProfile_returns h₁
    exact MemberService.putProfile_stores h₂
  | createChild body =>
    obtain ⟨a, h, -⟩ := Tx.returns_bind_pure.mp h
    obtain ⟨c, s₁, h₁, h₂⟩ := Tx.returns_bind.mp h
    obtain ⟨p, h₃, -⟩ := Tx.returns_bind_pure.mp h₂
    exact (add_stores h₁).trans (add_stores h₃)
  | updateChild childId body =>
    obtain ⟨a, h, -⟩ := Tx.returns_bind_pure.mp h
    obtain ⟨c, s₁, h₁, h₂⟩ := Tx.returns_bind.mp h
    obtain ⟨-, -, -, rfl⟩ := ChildService.require_returns.mp h₁
    exact update_stores h₂
  | deleteChild childId =>
    obtain ⟨a, h, -⟩ := Tx.returns_bind_pure.mp h
    obtain ⟨c, s₁, h₁, h₂⟩ := Tx.returns_bind.mp h
    obtain ⟨-, -, -, rfl⟩ := ChildService.require_returns.mp h₁
    exact delete_stores h₂
  | upsertReadingProfile childId body =>
    obtain ⟨a, h, -⟩ := Tx.returns_bind_pure.mp h
    obtain ⟨c, s₁, h₁, h₂⟩ := Tx.returns_bind.mp h
    obtain ⟨-, -, -, rfl⟩ := ChildService.require_returns.mp h₁
    rw [ChildReadingProfileRepository.getByChild_eq_read] at h₂
    obtain ⟨found, s₂, h₃, h₄⟩ := Tx.returns_bind.mp h₂
    obtain ⟨-, rfl⟩ := Tx.returns_read.mp h₃
    cases found with
    | none => exact add_stores h₄
    | some profile => exact update_stores h₄
  | _ => exact hother (by simp [target]) (by simp [target]) (by simp [target]) (by simp [target])

/-- **The first step of a request.** -/
theorem first_stores {req : Request} {r : Flight ⊕ Completed Env Request Flight Exn Response}
    (h : (concurrentService P).first env req d = (d', r)) : d.Stores d' := by
  rcases first_cases h with rfl | ⟨s', rfl, ⟨body, a, -, hlogin⟩ | ⟨f, op, response, -, -, hop⟩⟩
  · exact .refl _
  · obtain ⟨m, -, -, -, hissue⟩ := AuthService.login_returns_iff.mp hlogin
    obtain ⟨_, _, -, -, -, d₁, hd₁, rfl⟩ := AuthService.issueTokens_returns.mp hissue
    exact .of_profiles ((congrFun hd₁ _).trans (Schema.insert_of_ne (by simp)))
      ((congrFun hd₁ _).trans (Schema.insert_of_ne (by simp)))
  · exact FamilyOp.run_stores hop

/-- **The second step of a request.** -/
theorem Flight.finish_stores {flight : Flight} {r : Except Exn Response}
    (h : Tx.serve Exn.handled (flight.finish P env) d = (r, d')) : d.Stores d' := by
  by_cases hp : ∃ memberId body profile, flight = .upsertProfile memberId body profile
  · obtain ⟨memberId, body, profile, rfl⟩ := hp
    cases r with
    | error e =>
      rw [finish_error rfl h]
      exact .refl _
    | ok response =>
      obtain ⟨s', hret, rfl⟩ := Tx.serve_ok_iff.mp h
      obtain ⟨a, hput, -⟩ := Tx.returns_bind_pure.mp hret
      exact MemberService.putProfile_stores hput
  · exact .of_profiles
      (finish_rows h (by decide)
        (fun _ memberId body profile he => hp ⟨memberId, body, profile, he⟩))
      (finish_rows h (by decide) (by simp))

/-- **In every state an interleaving reaches, every row is as its columns
store it.** -/
theorem stored_run (P : Platform) (ms : List (Move Env Request)) :
    ((concurrentService P).system.run idle ms).shared.Stored := by
  refine (concurrentService P).system.run_invariant (P := fun _ _ => True)
    (fun c => c.shared.Stored) (fun c m h _ => ?_) (by rintro T r ⟨⟩)
    ((concurrentService P).system.every_of_forall _ (fun _ _ => trivial))
  obtain ⟨-, -, hs⟩ := TwoStep.move_cases (M := concurrentService P)
    (R := fun _ d => c.shared.Stores d) c m (.refl _) (fun _ _ _ hf => first_stores hf)
    (fun _ _ _ hf => Flight.finish_stores (TwoStep.ofPhases_second hf).2.2)
  exact h.of_stores hs
