import Accounts.Registrations
import Accounts.UnknownFamily
import Accounts.Columns

/-!
# What a conflict says

Creating a member and signing up answer "email already registered" where the
email is found taken, and where inserting the member violates a constraint:
the `except` clause around the insert is there for the race on the email, and
catches what the database raises for any reason.

For a signup the email is the only reason there is – the family is the one
it has founded, or the one of its invite. For the creation of a member it is
not: the family is the caller's to name, and `email_conflict` says that a
family that does not exist is exactly what the conflict is mistaken for.
-/

open Repository

variable {P : Platform} {env env₁ env₂ : Env} {d d' d₁ d₂ : Database} {e : String} {f : UUID}

/-- **How a request ends** whose first step takes place on `d₁` and whose
second step, if it comes to it, on `d₂`. -/
def Request.endsOn (P : Platform) (env₁ env₂ : Env) (d₁ d₂ : Database) (req : Request) :
    Except Exn Response :=
  match (concurrentService P).first env₁ req d₁ with
  | (_, .inl flight) => ((concurrentService P).second env₂ flight d₂).2.outcome
  | (_, .inr o) => o.outcome

namespace Request

/-- A first step that raises ends the request. -/
theorem endsOn_of_raises {req : Request} {x : Exn} {s : Session Database}
    (h : (req.begin P env₁).Raises ⟨d₁, d₁⟩ x s) : req.endsOn P env₁ env₂ d₁ d₂ = .error x := by
  have hs : Tx.serve Exn.handled (req.begin P env₁) d₁ = (.error x, _) :=
    Tx.serve_error_iff.mpr ⟨s, h, rfl⟩
  unfold endsOn concurrentService TwoStep.ofPhases
  simp only [hs]

/-- A first step that leaves the request in flight leaves the end to the
second. -/
theorem endsOn_of_returns {req : Request} {flight : Flight} {s : Session Database}
    (h : (req.begin P env₁).Returns ⟨d₁, d₁⟩ (.inl flight) s) :
    req.endsOn P env₁ env₂ d₁ d₂ = (Tx.serve Exn.handled (flight.finish P env₂) d₂).1 := by
  have hs : Tx.serve Exn.handled (req.begin P env₁) d₁ = (.ok (.inl flight), s.working) :=
    Tx.serve_ok_iff.mpr ⟨s, h, rfl⟩
  unfold endsOn concurrentService TwoStep.ofPhases
  simp only [hs]

end Request

/-- **A member is inserted** where its id is new, its family there and its
email free. -/
theorem Database.consistent_insert_member {r : FamilyMember}
    (hid : ∀ x ∈ d.members, x.id ≠ r.id) (hfam : r.familyId ∈ d.families.map Family.id)
    (hfree : ∀ e, r.email = some e → ¬ Taken e d) :
    schema.Consistent (Schema.insert .familyMember r d.rows) := by
  refine (Schema.consistent_insert_iff d.consistent).mpr ⟨hid, fun u hu k hk m hm hmk => ?_,
    fun p hp k hk => ?_⟩
  · obtain rfl := List.mem_singleton.mp hu
    obtain ⟨e, hemail, rfl⟩ := Option.map_eq_some_iff.mp hk
    obtain ⟨e', hme, he⟩ := Option.map_eq_some_iff.mp hmk
    obtain rfl := Sum.inr.inj he
    exact hfree e' hemail ⟨m, hm, hme⟩
  · obtain rfl := List.mem_singleton.mp hp
    obtain rfl := Option.some.inj hk
    exact hfam

/-! ## The creation of a member -/

namespace MemberService

variable {body : MemberCreate}

/-- The email of the body is taken. -/
def EmailTaken (body : MemberCreate) (d : Database) : Prop :=
  ∃ e, body.email = some e ∧ Taken e d

/-- **The check** finds the email taken just when it is. -/
theorem checkEmail_raises_iff :
    (∃ x s, (checkEmail body).Raises ⟨d, d⟩ x s) ↔ EmailTaken body d := by
  rcases Tx.returns_or_raises (checkEmail body) ⟨d, d⟩ with ⟨a, s, h⟩ | ⟨x, s, h⟩
  · refine iff_of_false (fun ⟨x, s', h'⟩ => h.not_raises h') ?_
    rintro ⟨e, hemail, m, hm, hme⟩
    exact (checkEmail_returns.mp h).1 e hemail m hm hme
  · refine iff_of_true ⟨x, s, h⟩ ?_
    by_contra hfree
    have hret : (checkEmail body).Returns ⟨d, d⟩ () ⟨d, d⟩ :=
      checkEmail_returns.mpr ⟨fun e he m hm hme => hfree ⟨e, he, m, hm, hme⟩, rfl⟩
    exact hret.not_raises h

/-- **The insert** fails just when the email is taken or there is no such
family. -/
theorem insert_raises_iff (hf : env.Fresh P d) :
    (∃ x s, (insert P env f body).Raises ⟨d, d⟩ x s) ↔
      f ∉ d.families.map Family.id ∨ EmailTaken body d := by
  constructor
  · rintro ⟨x, s, h⟩
    by_contra hno
    obtain ⟨hfam, hfree⟩ := not_or.mp hno
    have h₁ := Tx.raises_bind_pure.mp h
    obtain ⟨x', hadd, rfl⟩ := Tx.raises_mapError.mp h₁
    obtain ⟨-, hc | ⟨a, ha, -, hcons⟩⟩ := raises_add.mp hadd
    · cases hc
    · cases ha
      exact hcons (d.consistent_insert_member (hf.id .familyMember)
        (Decidable.not_not.mp hfam) (fun e hemail htaken => hfree ⟨e, hemail, htaken⟩))
  · rintro (hfam | ⟨e, hemail, htaken⟩)
    · exact ⟨_, _, Tx.raises_bind.mpr (Or.inl (Tx.raises_mapError.mpr ⟨.integrityError,
        UnknownFamily.add_raises (T := .familyMember) hfam rfl (List.mem_singleton.mpr rfl) rfl,
        rfl⟩))⟩
    · exact ⟨_, _, Tx.raises_bind.mpr (Or.inl (FamilyMember.add_taken hemail htaken))⟩

/-- **Creating a member ends in the conflict** where the email is taken at
the check or at the insert – and where there is no such family. -/
theorem create_conflict_iff (hf : env₂.Fresh P d₂) :
    (Request.family f (.createMember body)).endsOn P env₁ env₂ d₁ d₂ = .error .emailRegistered ↔
      EmailTaken body d₁ ∨ UnknownFamily f d₂ ∨ EmailTaken body d₂ := by
  rcases Tx.returns_or_raises (checkEmail body) ⟨d₁, d₁⟩ with ⟨a, s, h⟩ | ⟨x, s, h⟩
  · have hfree : ¬ EmailTaken body d₁ := fun htaken => by
      obtain ⟨x, s', h'⟩ := checkEmail_raises_iff.mpr htaken
      exact h.not_raises h'
    have hbegin : ((Request.family f (.createMember body)).begin P env₁).Returns ⟨d₁, d₁⟩
        (.inl (.createMember f body)) s :=
      Tx.returns_bind.mpr ⟨a, s, h, Tx.returns_pure.mpr ⟨rfl, rfl⟩⟩
    rw [Request.endsOn_of_returns hbegin, Tx.serve_fst_eq_error_iff, or_iff_right hfree]
    refine Iff.trans ⟨?_, ?_⟩ (insert_raises_iff hf)
    · rintro ⟨s, hs⟩
      exact ⟨_, s, Tx.raises_bind_pure.mp hs⟩
    · rintro ⟨x, s, hs⟩
      obtain rfl := (insert_raises hs).1
      exact ⟨s, Tx.raises_bind_pure.mpr hs⟩
  · obtain rfl := checkEmail_raises h
    have hbegin : ((Request.family f (.createMember body)).begin P env₁).Raises ⟨d₁, d₁⟩
        .emailRegistered s := Tx.raises_bind.mpr (Or.inl h)
    rw [Request.endsOn_of_raises hbegin]
    exact iff_of_true rfl (Or.inl (checkEmail_raises_iff.mp ⟨_, s, h⟩))

end MemberService

/-! ## Signing up -/

/-- An update that sets values fails on no handled exception. -/
theorem Repository.escapes_update_ok {T : TableName} (id : UUID) (changes : T.Row → T.Row) :
    Tx.Escapes Exn.handled (update env T id (fun r => .ok (changes r))) := by
  refine Tx.Escapes.flush (fun d e h => ?_)
  split at h
  · cases h
    rfl
  · next old _ =>
    split at h
    · next e' he =>
      rcases Except.bind_eq_error_iff.mp he with he | ⟨_, -, he⟩
      · cases he
      · obtain rfl := TableName.written_eq_error he
        cases h
        rfl
    · split at h
      · cases h
        rfl
      · cases h

namespace AuthService

variable {body : SignupRequest} {invite : Option FamilyInvite}

/-- Issuing tokens fails on none either. -/
theorem escapes_issueTokens (familyId memberId : UUID) :
    Tx.Escapes Exn.handled (issueTokens P env familyId memberId) := by
  refine Tx.Escapes.bind (escapes_issue _ _)
    (fun _ => Tx.Escapes.bind ?_ (fun _ => Tx.Escapes.pure _))
  refine Tx.Escapes.bind (Tx.Escapes.orRaise rfl _) (fun _ => ?_)
  exact Tx.Escapes.bind (escapes_add _) (fun _ => Tx.Escapes.pure _)

/-- **Registering in a family that is there** is told of a conflict only
where the email is taken. -/
theorem taken_of_register_raises {s s' : Session Database} {role : String} {isPrimary : Bool}
    (hid : ∀ x ∈ s.working.members, x.id ≠ env.newId .familyMember)
    (hfam : f ∈ s.working.families.map Family.id)
    (h : (register P env body f role isPrimary).Raises s .emailRegistered s') :
    Taken body.email s.working := by
  rcases Tx.raises_bind.mp h with h₁ | ⟨m, s₁, -, hissue⟩
  · by_contra hfree
    obtain ⟨x, hadd, hx⟩ := Tx.raises_mapError.mp h₁
    obtain ⟨-, hc | ⟨a, ha, -, hcons⟩⟩ := raises_add.mp hadd
    · cases hc
    · cases ha
      refine hcons (s.working.consistent_insert_member hid hfam (fun e hemail htaken => ?_))
      obtain rfl := Option.some.inj hemail
      exact hfree htaken
  · cases escapes_issueTokens _ _ _ _ _ hissue

/-- **The second half of a signup** ends in the conflict just when the invite
is still there and the email is taken. -/
theorem finishSignup_conflict_iff (hf : env.Fresh P d) :
    (∃ s, (finishSignup P env body invite).Raises ⟨d, d⟩ .emailRegistered s) ↔
      (∀ i ∈ invite, i.id ∈ d.invites.map (·.id)) ∧ Taken body.email d := by
  constructor
  · rintro ⟨s, h⟩
    cases invite with
    | none =>
      refine ⟨fun i hi => absurd hi (Option.not_mem_none i), ?_⟩
      rcases Tx.raises_bind.mp h with h₁ | ⟨a, s₁, h₁, h₂⟩
      · obtain ⟨-, hc | ⟨_, -, hx, -⟩⟩ := raises_add.mp h₁
        · cases hc
        · cases hx
      · obtain ⟨ha, d₁, hd₁, rfl⟩ := returns_add.mp h₁
        cases ha
        have hmembers : d₁.members = d.members :=
          (congrFun hd₁ .familyMember).trans (Schema.insert_of_ne (by simp))
        have hfamily : env.newId .family ∈ d₁.families.map Family.id := by
          show _ ∈ (d₁.rows .family).map Family.id
          rw [hd₁, Schema.insert_self]
          exact List.mem_map.mpr ⟨_, Table.mem_insert.mpr (Or.inr rfl), rfl⟩
        have htaken : Taken body.email d₁ :=
          taken_of_register_raises (hmembers ▸ hf.id .familyMember) hfamily h₂
        rwa [Taken, hmembers] at htaken
    | some invite =>
      rcases Tx.raises_bind.mp h with h₁ | ⟨a, s₁, h₁, h₂⟩
      · have hescapes : Tx.Escapes Exn.handled (InviteService.accept env invite) :=
          Tx.Escapes.bind (escapes_update_ok _ _) (fun _ => Tx.Escapes.pure _)
        cases hescapes _ _ _ h₁
      · obtain ⟨cur, hcur, rfl, d₁, hd₁, rfl⟩ := InviteService.accept_returns.mp h₁
        obtain ⟨hmem, hid⟩ := Store.find_eq_some_iff.mp hcur
        have hmembers : d₁.members = d.members :=
          (congrFun hd₁ .familyMember).trans (Schema.replace_of_ne (by simp))
        have hfamily : cur.familyId ∈ d₁.families.map Family.id := by
          rw [show d₁.families = d.families from
            (congrFun hd₁ .family).trans (Schema.replace_of_ne (by simp))]
          exact d.consistent.reference .familyInvite (.family, fun r => some r.familyId)
            List.mem_cons_self cur hmem _ rfl
        have htaken : Taken body.email d₁ :=
          taken_of_register_raises (hmembers ▸ hf.id .familyMember) hfamily h₂
        refine ⟨fun i hi => ?_, by rwa [Taken, hmembers] at htaken⟩
        obtain rfl := Option.some.inj hi
        exact List.mem_map.mpr ⟨cur, hmem, hid⟩
  · rintro ⟨hinvite, htaken⟩
    rcases finishSignup_outcome body hf hinvite with ⟨-, hraise⟩ | ⟨hfree, -⟩
    · exact ⟨_, hraise⟩
    · exact absurd htaken hfree

/-- **The first half of a signup** ends in the conflict just when the email
is taken. -/
theorem beginSignup_conflict_iff :
    (∃ s, (beginSignup P env body).Raises ⟨d, d⟩ .emailRegistered s) ↔ Taken body.email d := by
  constructor
  · rintro ⟨s, h⟩
    rcases beginSignup_raises h with ⟨-, htaken⟩ | hx | ⟨hx, -⟩
    · exact htaken
    · cases hx
    · cases hx
  · rintro ⟨m, hm, hemail⟩
    rw [beginSignup, FamilyMemberRepository.getByEmail_eq_read]
    refine ⟨_, Tx.raises_bind.mpr (Or.inr ⟨_, _, Tx.returns_read.mpr ⟨rfl, rfl⟩,
      Tx.raises_ite.mpr (Or.inl ⟨?_, Tx.raises_raise.mpr ⟨rfl, rfl⟩⟩)⟩)⟩
    exact List.find?_isSome.mpr ⟨m, hm, by simpa using hemail⟩

/-- **A signup comes to its insert**: its first half returns, and the invite
it returns is still there. -/
def Inserts (P : Platform) (env : Env) (body : SignupRequest) (d₁ d₂ : Database) : Prop :=
  ∃ invite, (beginSignup P env body).Returns ⟨d₁, d₁⟩ (.signup body invite) ⟨d₁, d₁⟩ ∧
    ∀ i ∈ invite, i.id ∈ d₂.invites.map (·.id)

/-- **Signing up ends in the conflict** where the email is taken at the check
or at the insert, and nowhere else. -/
theorem signup_conflict_iff (hf : env₂.Fresh P d₂) :
    (Request.auth (.signup body)).endsOn P env₁ env₂ d₁ d₂ = .error .emailRegistered ↔
      Taken body.email d₁ ∨ Inserts P env₁ body d₁ d₂ ∧ Taken body.email d₂ := by
  rcases Tx.returns_or_raises (beginSignup P env₁ body) ⟨d₁, d₁⟩ with ⟨flight, s, h⟩ | ⟨x, s, h⟩
  · have hfree : ¬ Taken body.email d₁ := fun htaken => by
      obtain ⟨s', h'⟩ := beginSignup_conflict_iff.mpr htaken
      exact h.not_raises h'
    obtain rfl := (beginSignup_returns.mp h).2.1
    obtain ⟨invite, rfl⟩ : ∃ invite, flight = .signup body invite := by
      rcases (beginSignup_returns.mp h).2.2 with ⟨-, hflight⟩ | ⟨_, invite, -, -, -, -, hflight⟩
      · exact ⟨none, hflight⟩
      · exact ⟨some invite, hflight⟩
    have hbegin : ((Request.auth (.signup body)).begin P env₁).Returns ⟨d₁, d₁⟩
        (.inl (.signup body invite)) ⟨d₁, d₁⟩ :=
      Tx.returns_bind.mpr ⟨_, _, h, Tx.returns_pure.mpr ⟨rfl, rfl⟩⟩
    have hinserts : Inserts P env₁ body d₁ d₂ ↔ ∀ i ∈ invite, i.id ∈ d₂.invites.map (·.id) := by
      refine ⟨?_, fun hi => ⟨invite, h, hi⟩⟩
      rintro ⟨invite', h', hi⟩
      cases (h.symm.trans h')
      exact hi
    rw [Request.endsOn_of_returns hbegin, Tx.serve_fst_eq_error_iff, or_iff_right hfree, hinserts]
    exact (exists_congr fun _ => Tx.raises_bind_pure).trans (finishSignup_conflict_iff hf)
  · have hbegin : ((Request.auth (.signup body)).begin P env₁).Raises ⟨d₁, d₁⟩ x s :=
      Tx.raises_bind.mpr (Or.inl h)
    have hnot : ¬ Inserts P env₁ body d₁ d₂ := fun ⟨_, h', _⟩ => h'.not_raises h
    have hiff : (∃ s, (beginSignup P env₁ body).Raises ⟨d₁, d₁⟩ .emailRegistered s) ↔
        Taken body.email d₁ := beginSignup_conflict_iff
    rw [Request.endsOn_of_raises hbegin, or_iff_left (fun hins => hnot hins.1), ← hiff]
    constructor
    · intro hx
      obtain rfl := Except.error.inj hx
      exact ⟨s, h⟩
    · rintro ⟨s', h'⟩
      cases h.symm.trans h'
      rfl

end AuthService

/-! ## The result -/

/-- **The conflict says that the email is taken** – for a signup always; for
the creation of a member just when its family is there, or the email is taken
all the same. -/
theorem email_conflict (P : Platform) (env₁ env₂ : Env) (d₁ d₂ : Database)
    (hf : env₂.Fresh P d₂) :
    (∀ (f : UUID) (body : MemberCreate),
      ((Request.family f (.createMember body)).endsOn P env₁ env₂ d₁ d₂ = .error .emailRegistered ↔
        ∃ e, body.email = some e ∧ (Taken e d₁ ∨ Taken e d₂)) ↔
      (∃ r ∈ d₂.families, r.id = f) ∨ ∃ e, body.email = some e ∧ (Taken e d₁ ∨ Taken e d₂)) ∧
    ∀ body : SignupRequest,
      (Request.auth (.signup body)).endsOn P env₁ env₂ d₁ d₂ = .error .emailRegistered ↔
        Taken body.email d₁ ∨ AuthService.Inserts P env₁ body d₁ d₂ ∧ Taken body.email d₂ := by
  refine ⟨fun f body => ?_, fun body => AuthService.signup_conflict_iff hf⟩
  have htaken : (∃ e, body.email = some e ∧ (Taken e d₁ ∨ Taken e d₂)) ↔
      MemberService.EmailTaken body d₁ ∨ MemberService.EmailTaken body d₂ := by
    simp only [MemberService.EmailTaken, and_or_left, exists_or]
  have hfamily : (∃ r ∈ d₂.families, r.id = f) ↔ ¬ UnknownFamily f d₂ := by
    rw [UnknownFamily, not_not, List.mem_map]
  rw [MemberService.create_conflict_iff hf, htaken, hfamily]
  tauto

/-- A guest without an email is no conflict in a family that is there. -/
theorem email_conflict_guest :
    (Request.family 1 (.createMember Sample.guest)).endsOn (Sample.platform 2592000)
        (Sample.env 2 (Sample.second 1)) (Sample.env 2 (Sample.second 1))
        (Sample.signedUp 2592000) (Sample.signedUp 2592000)
      ≠ .error .emailRegistered := by
  have h := ((email_conflict (Sample.platform 2592000) (Sample.env 2 (Sample.second 1))
    (Sample.env 2 (Sample.second 1)) (Sample.signedUp 2592000) (Sample.signedUp 2592000)
    (by decide +kernel)).1 1 Sample.guest).mpr (Or.inl (by decide +kernel))
  rw [Ne, h]
  rintro ⟨e, hemail, -⟩
  cases hemail

/-- **In a family that is not there** she is: the conflict is told of a body
that has no email. -/
theorem email_conflict_unknown_family :
    (Request.family 7 (.createMember Sample.guest)).endsOn (Sample.platform 2592000)
        (Sample.env 2 (Sample.second 1)) (Sample.env 2 (Sample.second 1))
        (Sample.signedUp 2592000) (Sample.signedUp 2592000)
      = .error .emailRegistered ∧
    Sample.guest.email = none := by
  decide +kernel
