import Accounts.LoginWork
import Accounts.SessionChains
import Accounts.Statuses

/-!
# The status of signing up, logging in and refreshing

What `family_statuses` says of the operations of a family, `auth_statuses`
says of the four operations of a session. A signup is refused for its email or
its invite, a login for its password, a refresh for its token – each with a
status of its own; a logout is never refused. What is left to fail is the
clock and the hashing: an operation that would issue tokens past the end of
the calendar breaks, and so does one that comes to an invite code or a
password that UTF-8 cannot hold, or to a password of too many bytes. What is
stored of a password is never a reason to fail – the one presented can be – and
an invite that is redeemed, a token that is exchanged or a family that is
founded is never lost to a constraint.
-/

open Repository

variable {P : Platform} {env : Env} {d : Database} {op : AuthOp}

/-! ## The five answers -/

/-- The status a route declares. -/
def AuthOp.statusCode : AuthOp → ℕ
  | signup _ => 201
  | logout _ => 204
  | login _ | refresh _ => 200

/-- **The status of an answer.** -/
def AuthOp.status (op : AuthOp) : Except Exn Response → ℕ
  | .ok _ => op.statusCode
  | .error e => (AppExn.raised e).statusCode

/-- **The invite code is that of no active invite**, and the email is free. -/
def AuthOp.BadRequest (P : Platform) (env : Env) (d : Database) : AuthOp → Prop
  | signup body => ¬ Taken body.email d ∧ ∃ code ∈ body.inviteCode, code.Encodable ∧
      ∀ i ∈ d.invites, i.isActive env.now = true → InviteCodec.hash P code ≠ .ok i.codeHash
  | _ => False

/-- **The credentials are not accepted**: no member has the email, or the
password is not that of the member, or the token is unknown, used or
expired. -/
def AuthOp.Unauthorized (P : Platform) (env : Env) (d : Database) : AuthOp → Prop
  | login body => ∀ m ∈ d.members, m.email = some body.email →
      PasswordHasher.verify P body.password (AuthService.storedHash m) = .ok false
  | refresh raw => ∀ r ∈ d.refreshTokens, r.tokenHash = RefreshTokenCodec.hash P raw → r.Live →
      RefreshTokenService.isExpired env r = true
  | _ => False

/-- **The email is taken.** -/
def AuthOp.Conflicts (d : Database) : AuthOp → Prop
  | signup body => Taken body.email d
  | _ => False

/-- **What is presented cannot be hashed**: the code of a signup whose email
is free, or the password of a login whose email has one. -/
def AuthOp.CannotHash (d : Database) : AuthOp → Prop
  | signup body => ¬ Taken body.email d ∧ ∃ code ∈ body.inviteCode, ¬ code.Encodable
  | login body => HasPassword body.email d ∧ ¬ PasswordHasher.CanHash body.password
  | _ => False

/-- **The operation is let in**: there is no reason to refuse it, and what it
presents can be hashed. -/
def AuthOp.Admitted (P : Platform) (env : Env) (d : Database) (op : AuthOp) : Prop :=
  ¬ op.BadRequest P env d ∧ ¬ op.Unauthorized P env d ∧ ¬ op.Conflicts d ∧ ¬ op.CannotHash d

/-- The operation issues tokens. -/
def AuthOp.issues : AuthOp → Bool
  | logout _ => false
  | _ => true

/-- **The operation breaks**: on what cannot be hashed, or, if it is let in,
on tokens that would not expire before the calendar ends. -/
def AuthOp.Breaks (P : Platform) (env : Env) (d : Database) (op : AuthOp) : Prop :=
  op.CannotHash d ∨ op.Admitted P env d ∧ op.issues = true ∧ ¬ TokensExpire P env.now

/-- What each verdict is caused by. -/
def AuthOp.Cause (P : Platform) (env : Env) (d : Database) (op : AuthOp) : Verdict → Prop
  | .declared => op.Admitted P env d ∧ (op.issues = true → TokensExpire P env.now)
  | .badRequest => op.BadRequest P env d
  | .unauthorized => op.Unauthorized P env d
  | .conflict => op.Conflicts d
  | .unhandled => op.Breaks P env d
  | .notFound => False

/-- **The operation is answered as the conditions say.** -/
structure AuthOp.Settled (P : Platform) (env : Env) (d : Database) (op : AuthOp) : Prop where
  /-- With a 400. -/
  badRequest : op.BadRequest P env d →
    ∃ text, (serve P env (.auth op) d).1 = .error (.service (.badRequest text))
  /-- With a 401. -/
  unauthorized : op.Unauthorized P env d →
    ∃ text, (serve P env (.auth op) d).1 = .error (.service (.unauthorized text))
  /-- With a 409. -/
  conflict : op.Conflicts d → (serve P env (.auth op) d).1 = .error .emailRegistered
  /-- With a 500. -/
  breaks : op.Breaks P env d →
    ∃ e, (serve P env (.auth op) d).1 = .error e ∧ e.handled = false
  /-- As the route declares. -/
  returns : op.Admitted P env d → (op.issues = true → TokensExpire P env.now) →
    ∃ a, (serve P env (.auth op) d).1 = .ok a

/-- **The statuses of an operation that is settled.** -/
theorem AuthOp.Settled.status_iff (h : op.Settled P env d) :
    let status := op.status (serve P env (.auth op) d).1
    (status = 400 ↔ op.BadRequest P env d) ∧ (status = 401 ↔ op.Unauthorized P env d) ∧
      (status = 409 ↔ op.Conflicts d) ∧ (status = 500 ↔ op.Breaks P env d) ∧
      (status = op.statusCode ↔
        op.Admitted P env d ∧ (op.issues = true → TokensExpire P env.now)) := by
  intro status
  have hcode : op.statusCode < 400 := by cases op <;> simp [statusCode]
  have hstatus : ∀ v, op.Cause P env d v → status = v.statusCode op.statusCode := by
    intro v hv
    show op.status _ = _
    cases v with
    | declared =>
      obtain ⟨a, ha⟩ := h.returns hv.1 hv.2
      rw [ha]
      rfl
    | badRequest =>
      obtain ⟨text, ht⟩ := h.badRequest hv
      rw [ht]
      rfl
    | unauthorized =>
      obtain ⟨text, ht⟩ := h.unauthorized hv
      rw [ht]
      rfl
    | conflict =>
      rw [h.conflict hv]
      rfl
    | unhandled =>
      obtain ⟨e, he, hhandled⟩ := h.breaks hv
      rw [he]
      cases e <;> first | rfl | cases hhandled
    | notFound => exact hv.elim
  have hsome : ∃ v, op.Cause P env d v := by
    by_contra hno
    rw [not_exists] at hno
    have hin : op.Admitted P env d := ⟨hno .badRequest, hno .unauthorized, hno .conflict,
      fun h => hno .unhandled (Or.inl h)⟩
    exact hno .declared
      ⟨hin, fun hi => by_contra (fun ht => hno .unhandled (Or.inr ⟨hin, hi, ht⟩))⟩
  have hiff := (Verdict.statusCode_injective hcode).eq_iff_of_causes hstatus hsome
  exact ⟨hiff .badRequest, hiff .unauthorized, hiff .conflict, hiff .unhandled, hiff .declared⟩

/-! ## Issuing tokens -/

namespace AuthService

/-- Where tokens are issued, they expire. -/
theorem tokensExpire_of_issueTokens {familyId memberId : UUID} {a : IssuedTokens}
    {s s' : Session Database} (h : (issueTokens P env familyId memberId).Returns s a s') :
    TokensExpire P env.now := by
  obtain ⟨access, exp, haccess, hexp, -⟩ := issueTokens_returns.mp h
  exact ⟨TokenService.issue_ok_iff.mp ⟨access, haccess⟩,
    Option.isSome_iff_exists.mpr ⟨exp, hexp⟩⟩

/-- So they do where a signup returns. -/
theorem tokensExpire_of_finishSignup {body : SignupRequest} {invite : Option FamilyInvite}
    {a : IssuedTokens} {s s' : Session Database}
    (h : (finishSignup P env body invite).Returns s a s') : TokensExpire P env.now := by
  cases invite with
  | none =>
    obtain ⟨d₁, -, hreg⟩ := finishSignup_none_returns.mp h
    obtain ⟨d₂, -, hissue⟩ := register_returns.mp hreg
    exact tokensExpire_of_issueTokens hissue
  | some invite =>
    obtain ⟨cur, -, d₁, -, hreg⟩ := finishSignup_some_returns.mp h
    obtain ⟨d₂, -, hissue⟩ := register_returns.mp hreg
    exact tokensExpire_of_issueTokens hissue

/-- Every exception but the conflict. -/
def butConflict (e : Exn) : Bool := e.handled && e ≠ .emailRegistered

/-- Registering ends in the conflict, or in what nobody handles. -/
theorem escapes_register (body : SignupRequest) (familyId : UUID) (role : String)
    (isPrimary : Bool) : Tx.Escapes butConflict (register P env body familyId role isPrimary) := by
  rintro s e s' h
  rcases Tx.raises_bind.mp h with h₁ | ⟨m, s₁, -, h₂⟩
  · obtain ⟨x, hadd, rfl⟩ := Tx.raises_mapError.mp h₁
    obtain ⟨-, hc | ⟨a, ha, rfl, -⟩⟩ := raises_add.mp hadd
    · cases hc
    · rfl
  · rw [butConflict, escapes_issueTokens _ _ _ _ _ h₂, Bool.false_and]

/-- So does the second half of a signup. -/
theorem escapes_finishSignup (body : SignupRequest) (invite : Option FamilyInvite) :
    Tx.Escapes butConflict (finishSignup P env body invite) := by
  rintro s e s' h
  cases invite with
  | none =>
    rcases Tx.raises_bind.mp h with h₁ | ⟨a, s₁, -, h₂⟩
    · obtain ⟨-, hc | ⟨_, -, rfl, -⟩⟩ := raises_add.mp h₁
      · cases hc
      · rfl
    · exact escapes_register _ _ _ _ _ _ _ h₂
  | some invite =>
    rcases Tx.raises_bind.mp h with h₁ | ⟨a, s₁, -, h₂⟩
    · have haccept : Tx.Escapes Exn.handled (InviteService.accept env invite) :=
        Tx.Escapes.bind (escapes_update_ok _ _) (fun _ => Tx.Escapes.pure _)
      rw [butConflict, haccept _ _ _ h₁, Bool.false_and]
    · exact escapes_register _ _ _ _ _ _ _ h₂

end AuthService

/-! ## Signing up -/

namespace AuthService

variable {body : SignupRequest}

/-- What the first half of a signup ends in is the answer. -/
theorem serve_signup_of_begin {e : Exn} {s : Session Database}
    (h : (beginSignup P env body).Raises ⟨d, d⟩ e s) :
    (serve P env (.auth (.signup body)) d).1 = .error e := by
  refine Tx.serve_fst_eq_error_iff.mpr ⟨s, ?_⟩
  rw [Request.run_eq_begin_finish]
  exact Tx.raises_bind.mpr (Or.inl (Tx.raises_bind.mpr (Or.inl h)))

/-- So is what the second half ends in. -/
theorem serve_signup_of_finish {invite : Option FamilyInvite} {e : Exn} {s : Session Database}
    (h : (beginSignup P env body).Returns ⟨d, d⟩ (.signup body invite) ⟨d, d⟩)
    (hfinish : (finishSignup P env body invite).Raises ⟨d, d⟩ e s) :
    (serve P env (.auth (.signup body)) d).1 = .error e := by
  refine Tx.serve_fst_eq_error_iff.mpr ⟨s, ?_⟩
  rw [Request.run_eq_begin_finish]
  exact Tx.raises_bind.mpr (Or.inr ⟨.inl (.signup body invite), _, Tx.returns_bind.mpr
    ⟨_, _, h, Tx.returns_pure.mpr ⟨rfl, rfl⟩⟩, Tx.raises_bind.mpr (Or.inl hfinish)⟩)

/-- **A signup that is let in** comes to its second half, with an invite that
is there. -/
theorem beginSignup_of_admitted (h : (AuthOp.signup body).Admitted P env d) :
    ∃ invite, (beginSignup P env body).Returns ⟨d, d⟩ (.signup body invite) ⟨d, d⟩ ∧
      ∀ i ∈ invite, i.id ∈ d.invites.map (·.id) := by
  obtain ⟨hbad, -, hfree, hencode⟩ := h
  have hemail : ∀ m ∈ d.members, m.email ≠ some body.email := fun m hm he => hfree ⟨m, hm, he⟩
  cases hcode : body.inviteCode with
  | none =>
    exact ⟨none, beginSignup_returns.mpr ⟨hemail, rfl, Or.inl ⟨hcode, rfl⟩⟩, by simp⟩
  | some code =>
    by_cases hactive : ∃ i ∈ d.invites, i.isActive env.now = true ∧
        InviteCodec.hash P code = .ok i.codeHash
    · obtain ⟨i, hi, hactive, hhash⟩ := hactive
      refine ⟨some i, beginSignup_returns.mpr ⟨hemail, rfl,
        Or.inr ⟨code, i, hcode, hi, hactive, hhash, rfl⟩⟩, fun j hj => ?_⟩
      obtain rfl := Option.some.inj hj
      exact List.mem_map_of_mem hi
    · have hcodable : code.Encodable := by
        by_contra hno
        exact hencode ⟨hfree, code, hcode, hno⟩
      exact absurd ⟨hfree, code, hcode, hcodable, fun i hi ha hh => hactive ⟨i, hi, ha, hh⟩⟩ hbad

/-- A signup breaks on a code that cannot be encoded. -/
theorem beginSignup_unencodable {code : Py.Text} (hfree : ¬ Taken body.email d)
    (hcode : body.inviteCode = some code) (hno : ¬ code.Encodable) :
    (beginSignup P env body).Raises ⟨d, d⟩ .valueError ⟨d, d⟩ := by
  have hfind : (InviteService.findActive P env code).Raises ⟨d, d⟩ .valueError ⟨d, d⟩ :=
    Tx.raises_bind.mpr (Or.inl (Tx.raises_lift.mpr
      ⟨InviteCodec.hash_error_iff.mpr ⟨hno, rfl⟩, rfl⟩))
  have hnone : d.members.find? (fun r => r.email = some body.email) = none :=
    List.find?_eq_none.mpr (fun m hm he => hfree ⟨m, hm, by simpa using he⟩)
  rw [beginSignup, FamilyMemberRepository.getByEmail_eq_read, hcode]
  refine Tx.raises_bind.mpr (Or.inr ⟨none, _, Tx.returns_read.mpr ⟨hnone.symm, rfl⟩, ?_⟩)
  exact Tx.raises_ite.mpr (Or.inr ⟨Bool.false_ne_true, Tx.raises_bind.mpr (Or.inl hfind)⟩)

end AuthService

namespace AuthOp

/-- Signing up. -/
theorem settled_signup (hf : env.Fresh P d) (body : SignupRequest) :
    (signup body).Settled P env d := by
  refine ⟨fun ⟨hfree, code, hcode, hcodable, hno⟩ => ?_, False.elim, fun htaken => ?_,
    fun hbreaks => ?_, fun hin hexp => ?_⟩
  · rcases Tx.returns_or_raises (AuthService.beginSignup P env body) ⟨d, d⟩ with
      ⟨flight, s, h⟩ | ⟨e, s, h⟩
    · -- the invite it would have found
      rcases (AuthService.beginSignup_returns.mp h).2.2 with
        ⟨hnone, -⟩ | ⟨code', i, hcode', hi, hactive, hhash, -⟩
      · cases hnone.symm.trans hcode
      · obtain rfl := Option.some.inj (hcode'.symm.trans hcode)
        exact absurd hhash (hno i hi hactive)
    · rcases AuthService.beginSignup_raises h with ⟨-, htaken⟩ | rfl | ⟨-, hnone⟩
      · exact absurd htaken hfree
      · exact ⟨_, AuthService.serve_signup_of_begin h⟩
      · refine absurd (fun c hc => ?_) hnone
        obtain rfl := Option.some.inj (hc.symm.trans hcode)
        exact hcodable
  · obtain ⟨s, hs⟩ := AuthService.beginSignup_conflict_iff.mpr htaken
    exact AuthService.serve_signup_of_begin hs
  · rcases hbreaks with ⟨hfree, code, hcode, hno⟩ | ⟨hin, -, hexp⟩
    · exact ⟨.valueError, AuthService.serve_signup_of_begin
        (AuthService.beginSignup_unencodable hfree hcode hno), rfl⟩
    obtain ⟨invite, hbegin, hinvite⟩ := AuthService.beginSignup_of_admitted hin
    rcases Tx.returns_or_raises (AuthService.finishSignup P env body invite) ⟨d, d⟩ with
      ⟨a, s, h⟩ | ⟨e, s, h⟩
    · exact absurd (AuthService.tokensExpire_of_finishSignup h) hexp
    · refine ⟨e, AuthService.serve_signup_of_finish hbegin h, ?_⟩
      have hescapes := AuthService.escapes_finishSignup _ _ _ _ _ h
      by_contra hhandled
      rw [AuthService.butConflict, Bool.eq_true_of_not_eq_false hhandled, Bool.true_and,
        decide_eq_false_iff_not, not_not] at hescapes
      subst hescapes
      exact hin.2.2.1 ((AuthService.finishSignup_conflict_iff hf).mp ⟨s, h⟩).2
  · obtain ⟨invite, hbegin, hinvite⟩ := AuthService.beginSignup_of_admitted hin
    rcases AuthService.finishSignup_outcome body hf hinvite with ⟨htaken, -⟩ | ⟨-, hok⟩
    · exact absurd htaken hin.2.2.1
    · obtain ⟨a, s, h⟩ := hok (hexp rfl)
      have hrun : ((AuthOp.signup body).run P env).Returns ⟨d, d⟩ (.tokens a) s :=
        Tx.returns_bind.mpr ⟨a, s, AuthService.signup_returns.mpr ⟨invite, hbegin, h⟩,
          Tx.returns_pure.mpr ⟨rfl, rfl⟩⟩
      exact ⟨_, congrArg Prod.fst (Tx.serve_ok_iff.mpr ⟨s, hrun, rfl⟩)⟩

end AuthOp

/-! ## Logging in -/

namespace AuthService

/-- An email that no member has is refused. -/
theorem login_unknown {body : LoginRequest} (h : ∀ m ∈ d.members, m.email ≠ some body.email) :
    (serve P env (.auth (.login body)) d).1
      = .error (.service (.unauthorized "invalid credentials")) := by
  have hnone : d.members.find? (fun r => r.email = some body.email) = none :=
    List.find?_eq_none.mpr (fun m hm => by simpa using h m hm)
  have hlogin : (login P env body).Raises ⟨d, d⟩
      (.service (.unauthorized "invalid credentials")) ⟨d, d⟩ := by
    rw [login, FamilyMemberRepository.getByEmail_eq_read]
    exact Tx.raises_bind.mpr (Or.inr ⟨none, _, Tx.returns_read.mpr ⟨hnone.symm, rfl⟩,
      Tx.raises_raise.mpr ⟨rfl, rfl⟩⟩)
  exact Tx.serve_fst_eq_error_iff.mpr ⟨_, Tx.raises_bind.mpr (Or.inl hlogin)⟩

/-- What issuing the tokens of a login ends in is the answer. -/
theorem login_of_issueTokens {body : LoginRequest} {m : FamilyMember} (hm : m ∈ d.members)
    (hemail : m.email = some body.email)
    (hok : PasswordHasher.verify P body.password (storedHash m) = .ok true) {e : Exn}
    {s : Session Database} (h : (issueTokens P env m.familyId m.id).Raises ⟨d, d⟩ e s) :
    (serve P env (.auth (.login body)) d).1 = .error e := by
  refine login_found hm hemail (s := s) ?_
  refine Tx.raises_bind.mpr (Or.inr ⟨true, ⟨d, d⟩, Tx.returns_lift.mpr ⟨hok, rfl⟩, ?_⟩)
  exact Tx.raises_ite.mpr (Or.inl ⟨rfl, h⟩)

end AuthService

/-- **A password is checked**, where what is stored was written by `hash`,
unless it cannot be hashed and there is something stored. -/
theorem HashesWritten.verify_returns (hw : HashesWritten P d.members) {m : FamilyMember}
    (hm : m ∈ d.members) {password : Py.Text}
    (h : m.passwordHash ≠ none → PasswordHasher.CanHash password) :
    ∃ b, PasswordHasher.verify P password (AuthService.storedHash m) = .ok b := by
  unfold AuthService.storedHash
  cases hp : m.passwordHash with
  | none => exact ⟨false, PasswordHasher.verify_none P password⟩
  | some text =>
    obtain ⟨salt, password', rfl⟩ := hw m hm text hp
    exact PasswordHasher.verify_returns_iff.mpr
      ((PasswordHasher.readable_hash P salt password').mpr (h (by simp [hp])))

namespace AuthOp

/-- A login that is let in: the member whose email and password it has. -/
theorem exists_member (hw : HashesWritten P d.members) {body : LoginRequest}
    (h : (login body).Admitted P env d) :
    ∃ m ∈ d.members, m.email = some body.email ∧
      PasswordHasher.verify P body.password (AuthService.storedHash m) = .ok true := by
  obtain ⟨-, hin, -, hencode⟩ := h
  by_contra hno
  refine hin (fun m hm he => ?_)
  obtain ⟨b, hb⟩ := hw.verify_returns hm (fun hp => by_contra (fun hpassword =>
    hencode ⟨⟨m, hm, he, hp⟩, hpassword⟩))
  cases b with
  | false => exact hb
  | true => exact absurd ⟨m, hm, he, hb⟩ hno

/-- Logging in. -/
theorem settled_login (hf : env.Fresh P d) (hw : HashesWritten P d.members) (body : LoginRequest) :
    (login body).Settled P env d := by
  refine ⟨False.elim, fun h => ⟨"invalid credentials", ?_⟩, False.elim, fun hbreaks => ?_,
    fun hin hexp => ?_⟩
  · by_cases hemail : ∃ m ∈ d.members, m.email = some body.email
    · obtain ⟨m, hm, he⟩ := hemail
      exact AuthService.login_unauthorized hm he (h m hm he)
    · exact AuthService.login_unknown (fun m hm he => hemail ⟨m, hm, he⟩)
  · rcases hbreaks with ⟨⟨m, hm, he, hp⟩, hpassword⟩ | ⟨hin, -, hexp⟩
    · obtain ⟨text, htext⟩ := Option.ne_none_iff_exists'.mp hp
      obtain ⟨salt, password, rfl⟩ := hw m hm text htext
      cases hv : PasswordHasher.verify P body.password (AuthService.storedHash m) with
      | error e =>
        exact ⟨e, AuthService.login_unchecked hm he hv, PasswordHasher.handled_of_verify hv⟩
      | ok b =>
        rw [AuthService.storedHash, htext] at hv
        exact absurd ((PasswordHasher.readable_hash P salt password).mp
          (PasswordHasher.verify_returns_iff.mp ⟨b, hv⟩)) hpassword
    obtain ⟨m, hm, he, hok⟩ := exists_member hw hin
    rcases Tx.returns_or_raises (AuthService.issueTokens P env m.familyId m.id) ⟨d, d⟩ with
      ⟨a, s, hs⟩ | ⟨e, s, hs⟩
    · exact absurd (AuthService.tokensExpire_of_issueTokens hs) hexp
    · exact ⟨e, AuthService.login_of_issueTokens hm he hok hs,
        AuthService.escapes_issueTokens _ _ _ _ _ hs⟩
  · obtain ⟨m, hm, he, hok⟩ := exists_member hw hin
    obtain ⟨a, ha, -⟩ := (AuthService.login_ok_iff hf hm he hok).mpr (hexp rfl)
    exact ⟨_, ha⟩

/-! ## Refreshing and logging out -/

/-- A refresh that is let in: the token it presents. -/
theorem exists_token {raw : String} (h : (refresh raw).Admitted P env d) :
    ∃ r ∈ d.refreshTokens, r.tokenHash = RefreshTokenCodec.hash P raw ∧ r.Live ∧
      RefreshTokenService.isExpired env r = false := by
  by_contra hno
  refine h.2.1 (fun r hr hhash hlive => Bool.eq_true_of_not_eq_false (fun hexp => ?_))
  exact hno ⟨r, hr, hhash, hlive, hexp⟩

/-- Refreshing. -/
theorem settled_refresh (hf : env.Fresh P d) (raw : String) : (refresh raw).Settled P env d := by
  have hserve : ∀ {e : Exn} {s : Session Database},
      (AuthService.refresh P env raw).Raises ⟨d, d⟩ e s →
      (serve P env (.auth (.refresh raw)) d).1 = .error e :=
    fun h => Tx.serve_fst_eq_error_iff.mpr ⟨_, Tx.raises_bind_pure.mpr h⟩
  refine ⟨False.elim, fun h => ?_, False.elim, fun hbreaks => ?_, fun hin hexp => ?_⟩
  · by_cases hrow : ∃ r ∈ d.refreshTokens, r.tokenHash = RefreshTokenCodec.hash P raw
    · obtain ⟨r, hr, hhash⟩ := hrow
      by_cases hlive : r.Live
      · exact ⟨_, hserve (AuthService.refresh_expired hr hhash hlive (h r hr hhash hlive))⟩
      · obtain ⟨d', -, hused⟩ := AuthService.refresh_used env (s := ⟨d, d⟩) hr hhash hlive
        exact ⟨_, hserve hused⟩
    · exact ⟨_, hserve (AuthService.refresh_unknown (s := ⟨d, d⟩)
        (fun r hr hhash => hrow ⟨r, hr, hhash⟩))⟩
  · obtain ⟨hin, -, hexp⟩ := hbreaks.resolve_left id
    obtain ⟨r, hr, hhash, hlive, hexpired⟩ := exists_token hin
    have hnone : renewal P env.now = none := by
      by_contra hsome
      obtain ⟨exp, hsome⟩ := Option.ne_none_iff_exists'.mp hsome
      obtain ⟨hjwt, hrefresh⟩ := renewal_eq_some_iff.mp hsome
      exact hexp ⟨hjwt, Option.isSome_iff_exists.mpr ⟨exp, hrefresh⟩⟩
    obtain ⟨s, hs⟩ := AuthService.refresh_failed hf hr hhash hlive hexpired hnone
    exact ⟨_, hserve hs, rfl⟩
  · obtain ⟨r, hr, hhash, hlive, hexpired⟩ := exists_token hin
    obtain ⟨hjwt, hrefresh⟩ := hexp rfl
    obtain ⟨exp, hrefresh⟩ := Option.isSome_iff_exists.mp hrefresh
    obtain ⟨s, hrot⟩ := AuthService.rotate_live_returns hf hr hhash hlive hexpired hrefresh
    obtain ⟨access, haccess⟩ :
        ∃ access, TokenService.issue P env r.familyId.str r.familyMemberId.str = .ok access :=
      TokenService.issue_ok_iff.mpr hjwt
    exact ⟨_, congrArg Prod.fst (Tx.serve_ok_iff.mpr ⟨s, Tx.returns_bind_pure.mpr
      ⟨_, AuthService.refresh_returns.mpr ⟨r, access, haccess, rfl, hr, hhash, hrot⟩, rfl⟩, rfl⟩)⟩

/-- Logging out. -/
theorem settled_logout (raw : String) : (logout raw).Settled P env d := by
  refine ⟨False.elim, False.elim, False.elim, fun hbreaks => ?_, fun _ _ => ?_⟩
  · obtain ⟨-, hi, -⟩ := hbreaks.resolve_left id
    cases hi
  by_cases hrow : ∃ r ∈ d.refreshTokens, r.tokenHash = RefreshTokenCodec.hash P raw
  · obtain ⟨r, hr, hhash⟩ := hrow
    obtain ⟨d', -, hret⟩ := RefreshTokenService.revoke_stored env (s := ⟨d, d⟩) hr hhash
    exact ⟨.done, congrArg Prod.fst
      (Tx.serve_ok_iff.mpr ⟨_, Tx.returns_bind_pure.mpr ⟨(), hret, rfl⟩, rfl⟩)⟩
  · have hret : (RefreshTokenService.revoke P env raw).Returns ⟨d, d⟩ () ⟨d, d⟩ :=
      RefreshTokenService.revoke_unknown env (fun r hr hhash => hrow ⟨r, hr, hhash⟩)
    exact ⟨.done, congrArg Prod.fst
      (Tx.serve_ok_iff.mpr ⟨_, Tx.returns_bind_pure.mpr ⟨(), hret, rfl⟩, rfl⟩)⟩

/-- **Every operation is answered as the conditions say**, in a database as
the service leaves it. -/
theorem settled (hf : env.Fresh P d) (hw : HashesWritten P d.members) (op : AuthOp) :
    op.Settled P env d := by
  cases op with
  | signup body => exact settled_signup hf body
  | login body => exact settled_login hf hw body
  | refresh raw => exact settled_refresh hf raw
  | logout raw => exact settled_logout raw

end AuthOp

/-! ## The result -/

/-- **The status of every answer to an operation of a session**, in every
state that an interleaving of requests leaves: a 400 just where the invite of
a signup is not active, a 401 just where a login or a refresh is not accepted,
a 409 just where the email of a signup is taken, and a 500 just where the code
of a signup or the password of a login is needed and cannot be hashed, or
none of this is so and the tokens to be issued would not expire before the
calendar ends. Everywhere else it is answered as its route declares. -/
theorem auth_statuses (P : Platform) (ms : List (Move Env Request)) (env : Env)
    (hf : env.Fresh P ((concurrentService P).system.run idle ms).shared) (op : AuthOp) :
    let d := ((concurrentService P).system.run idle ms).shared
    let status := op.status (serve P env (.auth op) d).1
    (status = 400 ↔ op.BadRequest P env d) ∧ (status = 401 ↔ op.Unauthorized P env d) ∧
      (status = 409 ↔ op.Conflicts d) ∧ (status = 500 ↔ op.Breaks P env d) ∧
      (status = op.statusCode ↔
        op.Admitted P env d ∧ (op.issues = true → TokensExpire P env.now)) :=
  (AuthOp.settled hf (hashesWritten_run P ms) op).status_iff

/-- A signup with the email of the member who has signed up. -/
theorem auth_statuses_taken :
    let P := Sample.platform 2592000
    let d := ((concurrentService P).system.run idle Sample.founded).shared
    (AuthOp.signup (Sample.signup "ada@example.org" none)).status
      (serve P (Sample.env 2 (Sample.second 60))
        (.auth (.signup (Sample.signup "ada@example.org" none))) d).1 = 409 :=
  (auth_statuses (Sample.platform 2592000) Sample.founded (Sample.env 2 (Sample.second 60))
    (by decide +kernel) (.signup (Sample.signup "ada@example.org" none))).2.2.1.mpr
    ⟨Sample.ada, by decide +kernel, rfl⟩
