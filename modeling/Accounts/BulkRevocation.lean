import Accounts.Requests

/-!
# Bulk revocations

`revoke_session` and `revoke_all_for_member` select the unrevoked rows they
are about and revoke them one after the other. The two are one
`BulkRevocation` here, with the rows it `Targets`.

What a call makes of the table it makes of each row by itself
(`BulkRevocation.row`), so what any calls make of it in any order is what the
rows go through (`rowAfter`). A row that a call has gone over is revoked, and
stays as it is: this is why the call finds nothing the next time, whatever
other calls there were in between.
-/

open Repository

/-- **A bulk revocation.** -/
inductive BulkRevocation where
  /-- `revoke_session`. -/
  | session (sessionId : UUID)
  /-- `revoke_all_for_member`. -/
  | allForMember (memberId familyId : UUID)

namespace BulkRevocation

/-- The call. -/
def run (env : Env) : BulkRevocation → Op ℕ
  | session sessionId => RefreshTokenRepository.revokeSession env sessionId
  | allForMember memberId familyId =>
    RefreshTokenRepository.revokeAllForMember env memberId familyId

/-- **The row is one the call is about**: of the session, or of the member and
the family. -/
def Targets : BulkRevocation → RefreshToken → Prop
  | session sessionId, r => r.sessionId = sessionId
  | allForMember memberId familyId, r => r.familyMemberId = memberId ∧ r.familyId = familyId

instance (c : BulkRevocation) (r : RefreshToken) : Decidable (c.Targets r) := by
  cases c <;> unfold Targets <;> infer_instance

/-- **A row after a call**: its `revoked_at` is set if it was null and the call
is about the row, and nothing else. -/
def row (c : BulkRevocation) (now : Datetime) (r : RefreshToken) : RefreshToken :=
  if r.revokedAt = none ∧ c.Targets r then { r with revokedAt := some now } else r

/-- A row after calls. -/
def rowAfter (calls : List (Env × BulkRevocation)) (r : RefreshToken) : RefreshToken :=
  calls.foldl (fun r p => p.2.row p.1.now r) r

/-- Calls, one after the other. -/
def runAll (calls : List (Env × BulkRevocation)) : Op (List ℕ) :=
  calls.mapM (fun p => p.2.run p.1)

/-! ## Rows -/

section Rows

variable {c c' : BulkRevocation} {now : Datetime} {r : RefreshToken}

/-- What a call is about does not change. -/
@[simp] theorem targets_row : c'.Targets (c.row now r) ↔ c'.Targets r := by
  unfold row
  split
  · cases c' <;> rfl
  · rfl

/-- **The rows that change** are those a call revokes. -/
theorem row_ne_iff : c.row now r ≠ r ↔ r.revokedAt = none ∧ c.Targets r := by
  unfold row
  split
  · next h =>
    refine iff_of_true (fun heq => ?_) h
    have hnow : some now = r.revokedAt := congrArg RefreshToken.revokedAt heq
    rw [h.1] at hnow
    cases hnow
  · next h => exact iff_of_false (fun hne => hne rfl) h

/-- A revoked row stays as it is. -/
theorem row_of_revoked (h : r.revokedAt ≠ none) : c.row now r = r :=
  if_neg (fun hr => h hr.1)

/-- **A row that a call has gone over** is not one that is still to be
revoked. -/
theorem row_settled (h : c.Targets r) : (c.row now r).revokedAt ≠ none := by
  by_cases hr : r.revokedAt = none
  · rw [row, if_pos ⟨hr, h⟩]
    exact Option.some_ne_none now
  · rwa [row_of_revoked hr]

variable {calls : List (Env × BulkRevocation)}

@[simp] theorem targets_rowAfter : c.Targets (rowAfter calls r) ↔ c.Targets r := by
  induction calls generalizing r with
  | nil => rfl
  | cons p calls ih => exact ih.trans targets_row

/-- A revoked row stays as it is, whatever calls there are. -/
theorem rowAfter_of_revoked (h : r.revokedAt ≠ none) : rowAfter calls r = r := by
  induction calls with
  | nil => rfl
  | cons p calls ih =>
    rw [rowAfter, List.foldl_cons, row_of_revoked h]
    exact ih

/-- **After a call that is about it, a row is revoked**, whatever calls there
were before and after. -/
theorem rowAfter_settled {env : Env} (hc : (env, c) ∈ calls) (h : c.Targets r) :
    (rowAfter calls r).revokedAt ≠ none := by
  induction calls generalizing r with
  | nil => exact absurd hc List.not_mem_nil
  | cons p calls ih =>
    show (rowAfter calls (p.2.row p.1.now r)).revokedAt ≠ none
    rcases List.mem_cons.mp hc with rfl | hc
    · rw [rowAfter_of_revoked (row_settled h)]
      exact row_settled h
    · exact ih hc (targets_row.mpr h)

end Rows

/-! ## Calls -/

/-- **What a call does**: to each row what `row` says, and to no other table
anything. It returns the number of rows it changes. -/
theorem run_returns (c : BulkRevocation) (env : Env) (s : Session Database) :
    ∃ d : Database,
      d.rows = Function.update s.working.rows .refreshToken
        (s.working.refreshTokens.map (c.row env.now)) ∧
      (c.run env).Returns s (s.working.refreshTokens.countP (fun r => c.row env.now r ≠ r))
        { s with working := d } := by
  have hmany : ∀ p : RefreshToken → Bool,
      (∀ r, p r = true ↔ r.revokedAt = none ∧ c.Targets r) →
      c.run env = getMany .refreshToken p >>= RefreshTokenRepository.revokeRows env →
      ∃ d : Database,
        d.rows = Function.update s.working.rows .refreshToken
          (s.working.refreshTokens.map (c.row env.now)) ∧
        (c.run env).Returns s (s.working.refreshTokens.countP (fun r => c.row env.now r ≠ r))
          { s with working := d } := by
    intro p hp hrun
    obtain ⟨d, hd, hret⟩ := RefreshTokenRepository.revokeMany_returns env s p
    have hrow : (fun x => if p x then RefreshToken.revoke x env.now else x) = c.row env.now := by
      funext r
      exact if_congr (hp r) rfl rfl
    have hcount : s.working.refreshTokens.countP p
        = s.working.refreshTokens.countP (fun r => c.row env.now r ≠ r) := by
      refine List.countP_congr (fun r _ => ?_)
      rw [hp, decide_eq_true_eq, row_ne_iff]
    rw [hrun, ← hcount, ← hrow]
    exact ⟨d, hd, hret⟩
  cases c with
  | session sessionId =>
    exact hmany (fun r => r.revokedAt = none && r.sessionId = sessionId)
      (fun r => by simp [Targets]) rfl
  | allForMember memberId familyId =>
    exact hmany (fun r => r.revokedAt = none && r.familyMemberId = memberId
      && r.familyId = familyId) (fun r => by simp [Targets, and_assoc]) rfl

/-- **What calls do, one after the other.** -/
theorem runAll_returns (calls : List (Env × BulkRevocation)) (s : Session Database) :
    ∃ (d : Database) (counts : List ℕ),
      d.rows = Function.update s.working.rows .refreshToken
        (s.working.refreshTokens.map (rowAfter calls)) ∧
      (runAll calls).Returns s counts { s with working := d } := by
  induction calls generalizing s with
  | nil =>
    refine ⟨s.working, [], ?_, Tx.returns_pure.mpr ⟨rfl, rfl⟩⟩
    rw [show rowAfter [] = id from rfl, List.map_id]
    exact (Function.update_eq_self ..).symm
  | cons p calls ih =>
    obtain ⟨d₁, hd₁, hret₁⟩ := p.2.run_returns p.1 s
    obtain ⟨d₂, counts, hd₂, hret₂⟩ := ih { s with working := d₁ }
    have htok : d₁.refreshTokens = s.working.refreshTokens.map (p.2.row p.1.now) := by
      rw [Database.refreshTokens, hd₁, Function.update_self]
    refine ⟨d₂, s.working.refreshTokens.countP (fun r => p.2.row p.1.now r ≠ r) :: counts, ?_, ?_⟩
    · rw [hd₂, htok, hd₁, Function.update_idem, List.map_map]
      rfl
    · rw [runAll, List.mapM_cons]
      exact Tx.returns_bind.mpr ⟨_, _, hret₁,
        Tx.returns_bind.mpr ⟨counts, _, hret₂, Tx.returns_pure.mpr ⟨rfl, rfl⟩⟩⟩

/-- **A call that finds nothing to revoke** returns zero, and leaves
everything as it was. -/
theorem run_of_settled {c : BulkRevocation} {env : Env} {s : Session Database}
    (h : ∀ r ∈ s.working.refreshTokens, c.Targets r → r.revokedAt ≠ none) :
    (c.run env).Returns s 0 s := by
  obtain ⟨d, hd, hret⟩ := c.run_returns env s
  have hrow : ∀ r ∈ s.working.refreshTokens, c.row env.now r = r := fun r hr =>
    if_neg (fun hc => h r hr hc.2 hc.1)
  have hcount : s.working.refreshTokens.countP (fun r => c.row env.now r ≠ r) = 0 :=
    List.countP_eq_zero.mpr (fun r hr => by simpa using hrow r hr)
  have hsame : d = s.working := by
    refine Store.ext (fun T => ?_)
    rw [hd, List.map_congr_left hrow, List.map_id', Function.update_eq_self]
  rw [hcount, hsame] at hret
  exact hret

end BulkRevocation

/-! ## The result -/

/-- **A bulk revocation touches exactly its target set**, whatever the table
holds. A call sets `revoked_at` of the rows it targets that have none, to the
time of the call, and leaves every other row and table as it is; it returns
the number of the rows it changes. After any calls in any order, to each of
them again – at any time, in the same transaction or in a later one – is left
nothing to do: it returns zero and changes nothing. -/
theorem bulk_revocation (s : Session Database) (calls : List (Env × BulkRevocation)) :
    (∀ (c : BulkRevocation) (env : Env), ∃ d : Database,
      (c.run env).Returns s (s.working.refreshTokens.countP (fun r => c.row env.now r ≠ r))
        { s with working := d } ∧
      d.refreshTokens = s.working.refreshTokens.map (c.row env.now) ∧
      ∀ T ≠ TableName.refreshToken, d.rows T = s.working.rows T) ∧
    ∃ (d : Database) (counts : List ℕ),
      (BulkRevocation.runAll calls).Returns s counts { s with working := d } ∧
      d.refreshTokens = s.working.refreshTokens.map (BulkRevocation.rowAfter calls) ∧
      (∀ T ≠ TableName.refreshToken, d.rows T = s.working.rows T) ∧
      ∀ p ∈ calls, ∀ (env : Env) (s' : Session Database), s'.working = d →
        (p.2.run env).Returns s' 0 s' := by
  -- the two clauses about tables, of an update of one of them
  have htables : ∀ {d : Database} {rows : List RefreshToken},
      d.rows = Function.update s.working.rows .refreshToken rows →
      d.refreshTokens = rows ∧ ∀ T ≠ TableName.refreshToken, d.rows T = s.working.rows T := by
    intro d rows hd
    refine ⟨?_, fun T hT => ?_⟩
    · rw [Database.refreshTokens, hd, Function.update_self]
    · rw [hd, Function.update_of_ne hT]
  refine ⟨fun c env => ?_, ?_⟩
  · obtain ⟨d, hd, hret⟩ := c.run_returns env s
    exact ⟨d, hret, htables hd⟩
  · obtain ⟨d, counts, hd, hret⟩ := BulkRevocation.runAll_returns calls s
    refine ⟨d, counts, hret, (htables hd).1, (htables hd).2, fun p hp env s' hs' => ?_⟩
    refine BulkRevocation.run_of_settled (fun r hr htarget => ?_)
    rw [hs', (htables hd).1] at hr
    obtain ⟨r₀, -, rfl⟩ := List.mem_map.mp hr
    exact BulkRevocation.rowAfter_settled hp (BulkRevocation.targets_rowAfter.mp htarget)

/-- Ada's session is ended, then all her sessions: the first call revokes her
token, and to neither is left anything to do. -/
theorem bulk_revocation_session :
    ∃ (d : Database) (counts : List ℕ),
      (BulkRevocation.runAll [(Sample.env 2 (Sample.second 60), .session 1001),
        (Sample.env 3 (Sample.second 120), .allForMember 1 1)]).Returns
          ⟨Sample.signedUp 2592000, Sample.signedUp 2592000⟩ counts
          ⟨Sample.signedUp 2592000, d⟩ ∧
      ((BulkRevocation.session 1001).run (Sample.env 4 (Sample.second 180))).Returns ⟨d, d⟩ 0
        ⟨d, d⟩ := by
  obtain ⟨-, d, counts, hret, -, -, hzero⟩ := bulk_revocation
    ⟨Sample.signedUp 2592000, Sample.signedUp 2592000⟩
    [(Sample.env 2 (Sample.second 60), .session 1001),
      (Sample.env 3 (Sample.second 120), .allForMember 1 1)]
  exact ⟨d, counts, hret, hzero _ List.mem_cons_self _ _ rfl⟩

/-- The calls count the rows they change: Ada's token, and none. -/
example : ((BulkRevocation.runAll [(Sample.env 2 (Sample.second 60), .session 1001),
    (Sample.env 3 (Sample.second 120), .allForMember 1 1)])
      ⟨Sample.signedUp 2592000, Sample.signedUp 2592000⟩).1 = .ok [1, 0] := by
  decide +kernel
