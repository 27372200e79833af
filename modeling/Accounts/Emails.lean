import Accounts.Household
import Accounts.Text

/-!
# The form of stored emails

Three request models normalise an email, each for itself. `SignupRequest`
strips it, lowers it and refuses what has no `@` inside; `LoginRequest`
strips and lowers; `MemberCreate` strips and lowers what is not empty and
refuses nothing.

What is stored is what one of the three has made of some text, so every
stored email is its own stripped lower-case form. That it is an address as
well holds for the emails of signups (`emails_of_one_form`): the creation
of a member stores whatever text it is given.
-/

open Repository

variable {P : Platform} {env : Env} {d d' : Database}

/-! ## The three validators -/

/-- **An email as signups have it**: an `@` that neither begins nor ends
it. -/
def IsAddress (v : String) : Prop :=
  '@' ∈ v.toList ∧ v.toList.head? ≠ some '@' ∧ v.toList.getLast? ≠ some '@'

instance (v : String) : Decidable (IsAddress v) :=
  inferInstanceAs (Decidable (_ ∧ _ ∧ _))

/-- `SignupRequest._normalize_email`. -/
def SignupRequest.normalizeEmail (v : String) : Except String String :=
  let v := Py.normalize v
  if '@' ∉ v.toList ∨ v.toList.head? = some '@' ∨ v.toList.getLast? = some '@' then
    .error "invalid email address"
  else .ok v

/-- `LoginRequest._normalize_email`. -/
def LoginRequest.normalizeEmail (v : String) : String := Py.normalize v

/-- `MemberCreate._normalize_email`. -/
def MemberCreate.normalizeEmail : Option String → Option String
  | none => none
  | some v => some (if v ≠ "" then Py.normalize v else v)

/-- **What signups accept** is an address, in its stripped lower-case
form. -/
theorem SignupRequest.normalizeEmail_eq_ok_iff {v w : String} :
    normalizeEmail v = .ok w ↔ w = Py.normalize v ∧ IsAddress w := by
  unfold normalizeEmail
  simp only
  split
  · next h =>
    refine iff_of_false (by simp) ?_
    rintro ⟨rfl, hat, hhead, hlast⟩
    exact h.elim (· hat) (fun h => h.elim hhead hlast)
  · next h =>
    rw [not_or, not_or, Decidable.not_not] at h
    constructor
    · intro hw
      obtain rfl := Except.ok.inj hw
      exact ⟨rfl, h⟩
    · rintro ⟨rfl, -⟩
      rfl

/-- **The emails a signup can come with**: addresses in normal form. -/
theorem SignupRequest.exists_normalizeEmail_iff {w : String} :
    (∃ v, normalizeEmail v = .ok w) ↔ Py.normalize w = w ∧ IsAddress w := by
  constructor
  · rintro ⟨v, hv⟩
    obtain ⟨rfl, h⟩ := normalizeEmail_eq_ok_iff.mp hv
    exact ⟨Py.normalize_idem v, h⟩
  · rintro ⟨hw, h⟩
    exact ⟨w, normalizeEmail_eq_ok_iff.mpr ⟨hw.symm, h⟩⟩

/-- The emails a created member can come with are in normal form. -/
theorem MemberCreate.normalize_of_normalizeEmail {v : Option String} {w : String}
    (h : normalizeEmail v = some w) : Py.normalize w = w := by
  cases v with
  | none => cases h
  | some v =>
    obtain rfl := Option.some.inj h
    split
    · exact Py.normalize_idem v
    · next hv =>
      rw [Decidable.not_not.mp hv]
      rfl

/-! ## Accepted requests -/

/-- The email that is stored with a member. -/
def HouseholdEvent.email : HouseholdEvent → Option String
  | founded body | joined body => some body.email
  | created body => body.email
  | deleted _ => none

/-- **The schemas accept the emails of a request**: they are what the
validators make of some text. -/
def Request.EmailAccepted : Request → Prop
  | auth (.signup body) => ∃ v, SignupRequest.normalizeEmail v = .ok body.email
  | auth (.login body) => ∃ v, LoginRequest.normalizeEmail v = body.email
  | family _ (.createMember body) => ∃ v, MemberCreate.normalizeEmail v = body.email
  | _ => True

/-- The members a request creates have an address for email, or none. -/
def Request.CreatesAddress : Request → Prop
  | family _ (.createMember body) => ∀ e, body.email = some e → IsAddress e
  | _ => True

/-- **What an accepted request stores** is in normal form; and an address,
where it creates a member with an address. -/
theorem Request.householdEvent_email {req : Request} (h : req.EmailAccepted)
    {event : HouseholdEvent} (hev : req.householdEvent = some event) {e : String}
    (he : event.email = some e) :
    Py.normalize e = e ∧ (req.CreatesAddress → IsAddress e) := by
  cases req with
  | auth op =>
    cases op with
    | signup body =>
      have hbody : event.email = some body.email := by
        have hsome : (if body.inviteCode = none then some (HouseholdEvent.founded body)
            else some (.joined body)) = some event := hev
        split at hsome <;> cases hsome <;> rfl
      obtain rfl := Option.some.inj (hbody.symm.trans he)
      obtain ⟨hnorm, haddr⟩ := SignupRequest.exists_normalizeEmail_iff.mp h
      exact ⟨hnorm, fun _ => haddr⟩
    | _ => cases hev
  | family f op =>
    cases op with
    | createMember body =>
      cases hev
      obtain ⟨v, hv⟩ := h
      exact ⟨MemberCreate.normalize_of_normalizeEmail (hv.trans he), fun haddr => haddr e he⟩
    | deleteMember id =>
      cases hev
      cases he
    | _ => cases hev

/-! ## Stored emails -/

/-- **The stored emails satisfy a condition.** -/
def EmailsSatisfy (p : String → Prop) (ms : List FamilyMember) : Prop :=
  ∀ m ∈ ms, ∀ e, m.email = some e → p e

/-- **A step stores the email of whom it adds**, and no other. -/
theorem EmailsSatisfy.step {p : String → Prop} {fs fs' : List Family}
    {ms ms' : List FamilyMember} {event : Option HouseholdEvent} (h : EmailsSatisfy p ms)
    (hs : HouseholdStep P env fs ms event fs' ms')
    (hev : ∀ r ∈ event, ∀ e, r.email = some e → p e) : EmailsSatisfy p ms' := by
  have hadd : ∀ {m : FamilyMember} {r : HouseholdEvent}, event = some r → m.email = r.email →
      EmailsSatisfy p (Table.insert ms m) := by
    intro m r hr hm x hx e he
    rcases Table.mem_insert.mp hx with hx | rfl
    · exact h x hx e he
    · exact hev r hr e (hm.symm.trans he)
  cases hs with
  | same | renamed => exact h
  | founded | joined | created => exact hadd rfl rfl
  | updated hold hk =>
    intro x hx e he
    rcases Table.mem_replace.mp hx with ⟨rfl, -⟩ | ⟨hx, -⟩
    · exact h _ hold e (hk.email.symm.trans he)
    · exact h x hx e he
  | deleted hr hp => exact fun x hx => h x (Table.mem_delete.mp hx).1

/-- **Every schedule** stores what its requests come with. -/
theorem emailsSatisfy_run (P : Platform) {p : String → Prop} {ms : List (Move Env Request)}
    (h : ∀ env req, .start env req ∈ ms → ∀ r ∈ req.householdEvent, ∀ e, r.email = some e → p e) :
    EmailsSatisfy p ((concurrentService P).system.run idle ms).shared.members := by
  refine ((concurrentService P).run_invariant
    (G := fun d _ => EmailsSatisfy p d.members)
    (L := fun _ l => ∀ r ∈ l.householdEvent, ∀ e, r.email = some e → p e) ?_ ?_
    ⟨by rintro m ⟨⟩, by rintro l ⟨⟩⟩ ((concurrentService P).system.every_of_forall
      (P := fun m => ∀ env req, m = .start env req →
        ∀ r ∈ req.householdEvent, ∀ e, r.email = some e → p e) _
      (fun m hm env req hmove => h env req (hmove ▸ hm)))).1
  · rintro c env req ⟨hG, hL⟩ hguard
    constructor
    · intro d l hf
      refine ⟨hG.step (first_household hf) (by rintro r ⟨⟩), ?_, hL⟩
      obtain ⟨-, s, hs⟩ := TwoStep.ofPhases_first_flight hf
      rw [Request.begin_householdEvent hs]
      exact hguard env req rfl
    · intro d o hf
      refine ⟨hG.step (first_household hf) (fun r hr => hguard env req rfl r ?_), hL⟩
      have hsrc := source_of_householdEvent hr
      rwa [(TwoStep.ofPhases_first_done hf).2.1] at hsrc
  · rintro c env k l ⟨hG, hL⟩ - hk d o hf
    refine ⟨hG.step (finish_household hf) (fun r hr => hL l (List.mem_of_getElem? hk) r ?_),
      fun l' hl' => hL l' (List.mem_of_mem_eraseIdx hl')⟩
    have hsrc := source_of_householdEvent hr
    rwa [(TwoStep.ofPhases_second hf).2.1] at hsrc

/-- **Every stored email has the form signups give it**, in any
interleaving of accepted requests in which the members that are created
have an address for email, or none. -/
theorem emails_of_one_form (P : Platform) (ms : List (Move Env Request))
    (haccepted : ∀ env req, .start env req ∈ ms → req.EmailAccepted)
    (haddress : ∀ env req, .start env req ∈ ms → req.CreatesAddress) :
    ∀ m ∈ ((concurrentService P).system.run idle ms).shared.members, ∀ e, m.email = some e →
      (∃ v, SignupRequest.normalizeEmail v = .ok e) ∧ Py.normalize e = e ∧ '@' ∈ e.toList ∧
        e.toList.head? ≠ some '@' ∧ e.toList.getLast? ≠ some '@' := by
  have hrun : EmailsSatisfy (fun e => Py.normalize e = e ∧ IsAddress e)
      ((concurrentService P).system.run idle ms).shared.members := by
    refine emailsSatisfy_run P (fun env req hm r hr e he => ?_)
    obtain ⟨hnorm, haddr⟩ := Request.householdEvent_email (haccepted env req hm) hr he
    exact ⟨hnorm, haddr (haddress env req hm)⟩
  intro m hm e he
  exact ⟨SignupRequest.exists_normalizeEmail_iff.mpr (hrun m hm e he), hrun m hm e he⟩

/-- A member that is created with an email alone. -/
def Sample.member (email : Option String) : MemberCreate where
  displayName := none
  role := "member"
  gender := none
  birthDate := none
  languagePreference := none
  email
  password := none

/-- Ada signs up and creates a member with the email given. -/
def Sample.creates (email : Option String) : List (Move Env Request) := [
  .start (Sample.env 1 (Sample.second 0)) (.auth (.signup (Sample.signup "ada@example.org" none))),
  .finish (Sample.env 1 (Sample.second 0)) 0,
  .start (Sample.env 2 (Sample.second 60)) (.family 1 (.createMember (Sample.member email))),
  .finish (Sample.env 2 (Sample.second 60)) 0]

/-- The requests of the sample satisfy what its two do. -/
theorem Sample.forall_creates {p : Request → Prop} {email : Option String}
    (hsignup : p (.auth (.signup (Sample.signup "ada@example.org" none))))
    (hcreate : p (.family 1 (.createMember (Sample.member email)))) (e : Env) (req : Request)
    (h : .start e req ∈ Sample.creates email) : p req := by
  unfold Sample.creates at h
  simp only [List.mem_cons, Move.start.injEq, reduceCtorEq, List.not_mem_nil, or_false,
    false_or] at h
  rcases h with ⟨-, rfl⟩ | ⟨-, rfl⟩
  · exact hsignup
  · exact hcreate

/-- Ada creates a member with an address. -/
theorem emails_of_one_form_address :
    (∃ v, SignupRequest.normalizeEmail v = .ok "bob@example.org") ∧
      Py.normalize "bob@example.org" = "bob@example.org" := by
  obtain ⟨m, hm, he⟩ : ∃ m ∈ ((concurrentService (Sample.platform 2592000)).system.run idle
      (Sample.creates (some "bob@example.org"))).shared.members,
      m.email = some "bob@example.org" := by
    decide +kernel
  obtain ⟨hv, hnorm, -⟩ := emails_of_one_form (Sample.platform 2592000)
    (Sample.creates (some "bob@example.org"))
    (Sample.forall_creates ⟨"Ada@Example.org ", by decide +kernel⟩
      ⟨some "bob@example.org", by decide +kernel⟩)
    (Sample.forall_creates trivial (fun e he => by
      obtain rfl := Option.some.inj he
      decide)) m hm _ he
  exact ⟨hv, hnorm⟩

/-- A text is stored as the email of a member that is created with it, and
no signup can come with it. -/
def Sample.StoresWord (e : String) : Prop :=
  (∀ env req, .start env req ∈ Sample.creates (some e) → req.EmailAccepted) ∧
    (∃ m ∈ ((concurrentService (Sample.platform 2592000)).system.run idle
      (Sample.creates (some e))).shared.members, m.email = some e) ∧
    ¬ ∃ v, SignupRequest.normalizeEmail v = .ok e

/-- **Whatever text a member is created with** is stored: a word that is no
address, or nothing at all. -/
theorem emails_of_one_form_words : Sample.StoresWord "nobody" ∧ Sample.StoresWord "" := by
  have hwords : ∀ e ∈ ["nobody", ""], ¬ IsAddress e ∧
      MemberCreate.normalizeEmail (some e) = some e ∧
      ∃ m ∈ ((concurrentService (Sample.platform 2592000)).system.run idle
        (Sample.creates (some e))).shared.members, m.email = some e := by
    decide +kernel
  have hstores : ∀ e ∈ ["nobody", ""], Sample.StoresWord e := by
    intro e he
    obtain ⟨hno, hnorm, hstored⟩ := hwords e he
    exact ⟨Sample.forall_creates ⟨"Ada@Example.org ", by decide +kernel⟩ ⟨some e, hnorm⟩, hstored,
      fun h => hno (SignupRequest.exists_normalizeEmail_iff.mp h).2⟩
  exact ⟨hstores _ List.mem_cons_self, hstores _ (List.mem_cons_of_mem _ List.mem_cons_self)⟩
