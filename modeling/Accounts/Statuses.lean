import Accounts.Application
import Accounts.Conflicts
import Accounts.Deletions
import Accounts.Numbers

/-!
# The status of every answer

An operation of a family can be answered in four ways: as its route declares,
with a 404, with a 409, or – where an exception gets past the services – with
a 500. `family_statuses` says exactly when, for each of the operations and in
every state the service reaches under any interleaving: which rows have to be
there, what conflicts, and all that nobody handles. It leaves no case out, so
an operation that meets none of the conditions succeeds.
-/

open Repository

variable {P : Platform} {env : Env} {d : Database} {f : UUID} {op : FamilyOp}

/-! ## Verdicts -/

/-- **Each outcome has a cause, and there always is one**: then an outcome is
there just when its cause is. -/
theorem Function.Injective.eq_iff_of_causes {κ α : Type} {code : κ → α}
    (hcode : Function.Injective code) {cause : κ → Prop} {a : α}
    (h : ∀ k, cause k → a = code k) (hsome : ∃ k, cause k) (k : κ) : a = code k ↔ cause k := by
  refine ⟨fun ha => ?_, h k⟩
  obtain ⟨k', hk'⟩ := hsome
  obtain rfl := hcode ((h k' hk').symm.trans ha)
  exact hk'

/-- **How a request can be answered.** -/
inductive Verdict where
  /-- As its route declares. -/
  | declared
  /-- With a `BadRequestError`. -/
  | badRequest
  /-- With an `UnauthorizedError`. -/
  | unauthorized
  /-- With a `NotFoundError`. -/
  | notFound
  /-- With a `ConflictError`. -/
  | conflict
  /-- With an exception nobody handles. -/
  | unhandled

/-- The status of the answer, where the route declares `declared`. -/
def Verdict.statusCode (declared : ℕ) : Verdict → ℕ
  | .declared => declared
  | badRequest => 400
  | unauthorized => 401
  | notFound => 404
  | conflict => 409
  | unhandled => 500

theorem Verdict.statusCode_injective {declared : ℕ} (h : declared < 400) :
    Function.Injective (statusCode declared) := by
  intro v w hvw
  cases v <;> cases w <;> first | rfl | (simp only [statusCode] at hvw; omega)

/-! ## The four answers -/

/-- The status a route declares. -/
def FamilyOp.statusCode : FamilyOp → ℕ
  | createMember _ | createInvite _ _ | createChild _ | addReadingHistory _ _
  | createPolicy _ => 201
  | deleteMember _ | revokeInvite _ | deleteChild _ | deleteReadingHistory _ _
  | deletePolicy _ => 204
  | _ => 200

/-- **The status of an answer.** -/
def FamilyOp.status (op : FamilyOp) : Except Exn Response → ℕ
  | .ok _ => op.statusCode
  | .error e => (AppExn.raised e).statusCode

/-- **Something is not there**: the row that is addressed, in the family; the
family itself, where it is read; or the profile of the member. -/
def FamilyOp.NotFound (f : UUID) (d : Database) : FamilyOp → Prop
  | getFamily | updateFamily _ | context => UnknownFamily f d
  | getProfile memberId => ¬ (getProfile memberId).AddressesOwn f d ∨
      ∀ r ∈ d.memberProfiles, r.memberId ≠ memberId
  | op => ¬ op.AddressesOwn f d

/-- **The operation conflicts** with what is there: the email is taken – which
is also said where there is no such family –, or the member is the primary
one. -/
def FamilyOp.Conflicts (f : UUID) (d : Database) : FamilyOp → Prop
  | createMember body => MemberService.EmailTaken body d ∨ UnknownFamily f d
  | deleteMember memberId =>
    ∃ m ∈ d.members, m.id = memberId ∧ m.familyId = f ∧ m.isPrimaryUser = true
  | _ => False

/-- **Nobody handles what the operation ends in**: a violated constraint, a
number out of range, or a time past the end of the calendar. -/
def FamilyOp.Breaks (env : Env) (f : UUID) (d : Database) : FamilyOp → Prop
  | updateMember memberId body =>
    (updateMember memberId body).AddressesOwn f d ∧ (Patch.member body).NullsRequired
  | deleteMember memberId => (∃ m ∈ d.members, m.id = memberId ∧ m.familyId = f ∧
      m.isPrimaryUser = false) ∧ FamilyMember.Held d memberId
  | upsertProfile memberId body => (upsertProfile memberId body).AddressesOwn f d ∧
      (¬ (Patch.memberProfile body).Fits ∨ (∃ r ∈ d.memberProfiles, r.memberId = memberId) ∧
        (Patch.memberProfile body).NullsRequired)
  | createInvite createdByMemberId body =>
    (∃ hours ∈ body.ttlHours, env.now.plusSeconds (hours * 3600) = none) ∨ UnknownFamily f d ∨
      createdByMemberId ∉ d.members.map FamilyMember.id
  | createChild _ => UnknownFamily f d
  | updateChild childId body =>
    (updateChild childId body).AddressesOwn f d ∧ (Patch.child body).NullsRequired
  | deleteChild childId =>
    (deleteChild childId).AddressesOwn f d ∧ ChildProfile.Held d childId
  | upsertReadingProfile childId body => (upsertReadingProfile childId body).AddressesOwn f d ∧
      ((Patch.readingProfile body).NullsRequired ∨ ¬ (Patch.readingProfile body).Fits)
  | updateReadingHistory childId entryId body =>
    (updateReadingHistory childId entryId body).AddressesOwn f d ∧ (Patch.entry body).NullsRequired
  | createPolicy body => body.childId = none ∧ UnknownFamily f d
  | updatePolicy policyId body =>
    (updatePolicy policyId body).AddressesOwn f d ∧ (Patch.policy body).NullsRequired
  | _ => False

/-- What each verdict is caused by: the first by nothing of the others. -/
def FamilyOp.Cause (env : Env) (f : UUID) (d : Database) (op : FamilyOp) : Verdict → Prop
  | .declared => ¬ op.NotFound f d ∧ ¬ op.Conflicts f d ∧ ¬ op.Breaks env f d
  | .notFound => op.NotFound f d
  | .conflict => op.Conflicts f d
  | .unhandled => op.Breaks env f d
  | _ => False

/-- **The operation is answered as the conditions say.** -/
structure FamilyOp.Settled (P : Platform) (env : Env) (f : UUID) (d : Database) (op : FamilyOp) :
    Prop where
  /-- With a 404. -/
  notFound : op.NotFound f d → (serveInternal P env f op d).1 = .error .notFound
  /-- With a 409. -/
  conflict : op.Conflicts f d →
    ∃ text, (serveInternal P env f op d).1 = .error (.service (.conflict text))
  /-- With a 500. -/
  breaks : op.Breaks env f d → ∃ e, (serveInternal P env f op d).1 = .error e ∧ e.handled = false
  /-- As the route declares. -/
  returns : ¬ op.NotFound f d → ¬ op.Conflicts f d → ¬ op.Breaks env f d →
    ∃ a, (serveInternal P env f op d).1 = .ok a

/-! ## Serving one of them -/

section Route

variable (hroute : op.internalRoute P env f = op.run P env f)
include hroute

/-- What a body ends in is the answer. -/
theorem serveInternal_error {e : Exn} {s : Session Database}
    (h : (op.run P env f).Raises ⟨d, d⟩ e s) : (serveInternal P env f op d).1 = .error e :=
  Tx.serve_fst_eq_error_iff.mpr ⟨s, hroute ▸ h⟩

theorem serveInternal_ok {a : Response} {s : Session Database}
    (h : (op.run P env f).Returns ⟨d, d⟩ a s) : (serveInternal P env f op d).1 = .ok a :=
  congrArg Prod.fst (Tx.serve_ok_iff.mpr ⟨s, hroute ▸ h, rfl⟩)

/-- The routes are one for both faces. -/
theorem serveInternal_eq :
    (serveInternal P env f op d).1 = (serve P env (.family f op) d).1 := by
  rw [serveInternal, hroute]
  rfl

end Route

namespace FamilyOp.Settled

/-- **The statuses of an operation that is settled.** -/
theorem status_iff (h : op.Settled P env f d) :
    let status := op.status (serveInternal P env f op d).1
    (status = 404 ↔ op.NotFound f d) ∧ (status = 409 ↔ op.Conflicts f d) ∧
      (status = 500 ↔ op.Breaks env f d) ∧
      (status = op.statusCode ↔ ¬ op.NotFound f d ∧ ¬ op.Conflicts f d ∧ ¬ op.Breaks env f d) := by
  intro status
  have hcode : op.statusCode < 400 := by cases op <;> simp [statusCode]
  have hstatus : ∀ v, op.Cause env f d v → status = v.statusCode op.statusCode := by
    intro v hv
    show op.status _ = _
    cases v with
    | declared =>
      obtain ⟨a, ha⟩ := h.returns hv.1 hv.2.1 hv.2.2
      rw [ha]
      rfl
    | notFound =>
      rw [h.notFound hv]
      rfl
    | conflict =>
      obtain ⟨text, ht⟩ := h.conflict hv
      rw [ht]
      rfl
    | unhandled =>
      obtain ⟨e, he, hhandled⟩ := h.breaks hv
      rw [he]
      cases e <;> first | rfl | cases hhandled
    | badRequest | unauthorized => exact hv.elim
  have hsome : ∃ v, op.Cause env f d v := by
    by_contra hno
    rw [not_exists] at hno
    exact hno .declared ⟨hno .notFound, hno .conflict, hno .unhandled⟩
  have hiff := (Verdict.statusCode_injective hcode).eq_iff_of_causes hstatus hsome
  exact ⟨hiff .notFound, hiff .conflict, hiff .unhandled, hiff .declared⟩

/-- An operation that neither conflicts nor breaks. -/
theorem of_found (hroute : op.internalRoute P env f = op.run P env f)
    (hc : ¬ op.Conflicts f d) (hb : ¬ op.Breaks env f d)
    (hn : op.NotFound f d → ∃ s, (op.run P env f).Raises ⟨d, d⟩ .notFound s)
    (hr : ¬ op.NotFound f d → ∃ a s, (op.run P env f).Returns ⟨d, d⟩ a s) :
    op.Settled P env f d where
  notFound h := by
    obtain ⟨s, hs⟩ := hn h
    exact serveInternal_error hroute hs
  conflict h := absurd h hc
  breaks h := absurd h hb
  returns h _ _ := by
    obtain ⟨a, s, hs⟩ := hr h
    exact ⟨a, serveInternal_ok hroute hs⟩

end FamilyOp.Settled

/-! ## Reading -/

namespace FamilyOp

/-- The lists are always answered. -/
theorem settled_list (h : op ∈ [listMembers, listInvites, listChildren, listPolicies]) :
    op.Settled P env f d := by
  simp only [List.mem_cons, List.not_mem_nil, or_false] at h
  rcases h with rfl | rfl | rfl | rfl <;>
    exact .of_found rfl id id (fun hn => absurd trivial hn) (fun _ => ⟨_, _, rfl⟩)

/-- A family is there, or it is not. -/
theorem unknownFamily_iff : UnknownFamily f d ↔ ∀ r ∈ d.families, ¬ decide (r.id = f) = true := by
  simp [UnknownFamily]

theorem settled_getFamily : getFamily.Settled P env f d := by
  refine .of_found rfl id id (fun hn => ⟨⟨d, d⟩, ?_⟩) (fun hn => ?_)
  · exact Tx.raises_bind.mpr (Or.inl ((required_raises (Family.atMostOne f)).mpr
      ⟨unknownFamily_iff.mp hn, rfl, rfl⟩))
  · obtain ⟨r, hr, hid⟩ := List.mem_map.mp (Decidable.not_not.mp hn)
    exact ⟨_, _, Tx.returns_bind.mpr ⟨r, _, FamilyService.get_returns.mpr ⟨hr, hid, rfl⟩,
      Tx.returns_pure.mpr ⟨rfl, rfl⟩⟩⟩

/-- The bundle of a family that is there. -/
theorem settled_context : context.Settled P env f d where
  notFound h := Tx.serve_fst_eq_error_iff.mpr ⟨⟨d, d⟩, Tx.raises_bind.mpr (Or.inr ⟨none, _,
    FamilyContextLoader.load_unknown h _ rfl, Tx.raises_raise.mpr ⟨rfl, rfl⟩⟩)⟩
  conflict h := h.elim
  breaks h := h.elim
  returns h _ _ := by
    obtain ⟨r, hr, hid⟩ := List.mem_map.mp (Decidable.not_not.mp h)
    have hfound : d.families.find? (fun r => r.id = f) = some r :=
      (Table.find?_eq_some_iff_of_atMostOne (Family.atMostOne f d)).mpr ⟨hr, decide_eq_true hid⟩
    have hload : ∃ bundle,
        (FamilyContextLoader.load env f).Returns ⟨d, d⟩ (some bundle) ⟨d, d⟩ := by
      rw [FamilyContextLoader.load, FamilyRepository.get_eq_read]
      exact ⟨_, Tx.returns_bind.mpr ⟨some r, _, Tx.returns_read.mpr ⟨hfound.symm, rfl⟩, rfl⟩⟩
    obtain ⟨bundle, hbundle⟩ := hload
    have hret : (context.internalRoute P env f).Returns ⟨d, d⟩ (.context (some bundle)) ⟨d, d⟩ :=
      Tx.returns_bind.mpr ⟨some bundle, _, hbundle, Tx.returns_pure.mpr ⟨rfl, rfl⟩⟩
    exact ⟨_, congrArg Prod.fst (Tx.serve_ok_iff.mpr ⟨_, hret, rfl⟩)⟩

/-- A row of a member, of a child, or the history of a child. -/
theorem settled_get (h : (∃ k, op = getMember k) ∨ (∃ k, op = getChild k) ∨
    ∃ k, op = listReadingHistory k) : op.Settled P env f d := by
  rcases h with ⟨k, rfl⟩ | ⟨k, rfl⟩ | ⟨k, rfl⟩
  · refine .of_found rfl id id (fun hn => ⟨_, run_raises hn⟩) (fun hn => ?_)
    obtain ⟨r, hr, hid, hfam⟩ := not_not.mp hn
    exact ⟨_, _, Tx.returns_bind.mpr ⟨r.dump, ⟨d, d⟩, Tx.returns_bind.mpr ⟨r, _,
      MemberService.require_returns.mpr ⟨hr, hid, hfam, rfl⟩, Tx.returns_pure.mpr ⟨rfl, rfl⟩⟩,
      Tx.returns_pure.mpr ⟨rfl, rfl⟩⟩⟩
  · refine .of_found rfl id id (fun hn => ⟨_, run_raises hn⟩) (fun hn => ?_)
    obtain ⟨r, hr, hid, hfam⟩ := not_not.mp hn
    exact ⟨_, _, Tx.returns_bind.mpr ⟨r, ⟨d, d⟩,
      ChildService.require_returns.mpr ⟨hr, hid, hfam, rfl⟩, Tx.returns_pure.mpr ⟨rfl, rfl⟩⟩⟩
  · refine .of_found rfl id id (fun hn => ⟨_, run_raises hn⟩) (fun hn => ?_)
    obtain ⟨r, hr, hid, hfam⟩ := not_not.mp hn
    exact ⟨_, _, Tx.returns_bind.mpr ⟨_, ⟨d, d⟩, Tx.returns_bind.mpr ⟨r, _,
      ChildService.require_returns.mpr ⟨hr, hid, hfam, rfl⟩, rfl⟩,
      Tx.returns_pure.mpr ⟨rfl, rfl⟩⟩⟩

/-- The profile of a member. -/
theorem settled_getProfile (k : UUID) : (getProfile k).Settled P env f d := by
  by_cases hown : (getProfile k).AddressesOwn f d
  · obtain ⟨m, hm, hid, hfam⟩ := hown
    have hmember : (MemberService.require f k).Returns ⟨d, d⟩ m ⟨d, d⟩ :=
      MemberService.require_returns.mpr ⟨hm, hid, hfam, rfl⟩
    refine .of_found rfl id id (fun hn => ⟨⟨d, d⟩, ?_⟩) (fun hn => ?_)
    · have hnone := hn.resolve_left (not_not.mpr ⟨m, hm, hid, hfam⟩)
      refine Tx.raises_bind.mpr (Or.inl (Tx.raises_bind.mpr (Or.inr ⟨m, _, hmember, ?_⟩)))
      rw [FamilyMemberProfileRepository.getByMember_eq_read]
      refine Tx.raises_bind.mpr (Or.inr ⟨none, _, Tx.returns_read.mpr ⟨?_, rfl⟩,
        Tx.raises_orRaise.mpr ⟨rfl, rfl, rfl⟩⟩)
      exact (List.find?_eq_none.mpr (fun r hr => by simpa using hnone r hr)).symm
    · obtain ⟨r, hr⟩ := not_forall.mp (not_or.mp hn).2
      obtain ⟨hr, hmid⟩ := Classical.not_imp.mp hr
      rw [not_not] at hmid
      refine ⟨_, _, Tx.returns_bind.mpr ⟨r, ⟨d, d⟩, Tx.returns_bind.mpr ⟨m, _, hmember, ?_⟩,
        Tx.returns_pure.mpr ⟨rfl, rfl⟩⟩⟩
      rw [FamilyMemberProfileRepository.getByMember_eq_read]
      exact Tx.returns_bind.mpr ⟨some r, _, Tx.returns_read.mpr
        ⟨(Store.find_memberProfile.mpr ⟨hr, hmid⟩).symm, rfl⟩, Tx.returns_orRaise.mpr ⟨rfl, rfl⟩⟩
  · exact .of_found rfl id id (fun _ => ⟨_, run_raises hown⟩) (fun hn => absurd (Or.inl hown) hn)

/-- The reading profile of a child, which every child has. -/
theorem settled_getReadingProfile (hcov : Covered d.children d.readingProfiles) (k : UUID) :
    (getReadingProfile k).Settled P env f d := by
  refine .of_found rfl id id (fun hn => ⟨_, run_raises hn⟩) (fun hn => ?_)
  obtain ⟨c, hc, rfl, hfam⟩ := not_not.mp hn
  obtain ⟨r, hr, hid⟩ := hcov c hc
  refine ⟨_, _, Tx.returns_bind.mpr ⟨r, ⟨d, d⟩, Tx.returns_bind.mpr ⟨c, _,
    ChildService.require_returns.mpr ⟨hc, rfl, hfam, rfl⟩, ?_⟩, Tx.returns_pure.mpr ⟨rfl, rfl⟩⟩⟩
  rw [ChildReadingProfileRepository.getByChild_eq_read]
  exact Tx.returns_bind.mpr ⟨some r, _, Tx.returns_read.mpr
    ⟨(Store.find_readingProfile.mpr ⟨hr, hid⟩).symm, rfl⟩, Tx.returns_orRaise.mpr ⟨rfl, rfl⟩⟩

/-! ## Updating -/

end FamilyOp

namespace Patch

variable {T : TableName} {p : Patch T} {r : T.Row}

/-- **An update that cannot be stored** ends in an exception nobody
handles. -/
theorem serve_unhandled (hr : r ∈ d.rows T) (hown : Owns d.rows f T r)
    (hstored : T.coerce r = .ok r) (h : p.NullsRequired ∨ ¬ p.Fits) :
    ∃ e, (serve P env (.family f (p.op r)) d).1 = .error e ∧ e.handled = false := by
  cases hw : p.applyChanges r >>= T.written env.now r with
  | ok r' =>
    obtain ⟨c, hc, -⟩ := stores_of_written hstored hw
    obtain ⟨hnull, hfits⟩ := (exists_stores_iff hstored).mp ⟨c, hc⟩
    exact absurd h (not_or.mpr ⟨hnull, not_not.mpr hfits⟩)
  | error e =>
    refine ⟨e, congrArg Prod.fst (serve_error hr hown hw), ?_⟩
    rcases Except.bind_eq_error_iff.mp hw with hnull | ⟨_, -, hdata⟩
    · rw [(applyChanges_eq_error_iff.mp hnull).2]
      rfl
    · rw [TableName.written_eq_error hdata]
      rfl

/-- Any other one returns. -/
theorem serve_returns (hr : r ∈ d.rows T) (hown : Owns d.rows f T r)
    (hstored : T.coerce r = .ok r) (h : ¬ (p.NullsRequired ∨ ¬ p.Fits)) :
    ∃ a, (serve P env (.family f (p.op r)) d).1 = .ok a := by
  obtain ⟨hnull, hfits⟩ := not_or.mp h
  obtain ⟨c, hc⟩ := (exists_stores_iff hstored).mpr ⟨hnull, not_not.mp hfits⟩
  obtain ⟨r', d', hs, -⟩ := serve_of_stores (P := P) hr hown hstored hc
  exact ⟨_, congrArg Prod.fst hs⟩

/-- **An operation that is an update**, of the row it finds. -/
theorem settled (p : Patch T) (hd : d.Stored) (hroute : op.internalRoute P env f = op.run P env f)
    (hc : ¬ op.Conflicts f d)
    (hn : op.NotFound f d → ∃ s, (op.run P env f).Raises ⟨d, d⟩ .notFound s)
    (hb : op.Breaks env f d ↔ ¬ op.NotFound f d ∧ (p.NullsRequired ∨ ¬ p.Fits))
    (hrow : ¬ op.NotFound f d → ∃ r ∈ d.rows T, p.op r = op ∧ Owns d.rows f T r) :
    op.Settled P env f d := by
  have hserve : (serveInternal P env f op d).1 = (serve P env (.family f op) d).1 :=
    serveInternal_eq hroute
  constructor
  · intro h
    rw [hserve]
    exact Tx.serve_fst_eq_error_iff.mpr (hn h)
  · exact fun h => absurd h hc
  · intro h
    obtain ⟨hfound, hbreaks⟩ := hb.mp h
    obtain ⟨r, hr, rfl, hown⟩ := hrow hfound
    rw [hserve]
    exact serve_unhandled hr hown (hd T r hr) hbreaks
  · intro hfound _ hnb
    obtain ⟨r, hr, rfl, hown⟩ := hrow hfound
    rw [hserve]
    exact serve_returns hr hown (hd T r hr) (fun h => hnb (hb.mpr ⟨hfound, h⟩))

end Patch

namespace FamilyOp

/-- Updating a row that is addressed by its identifier. -/
theorem settled_update (hd : d.Stored) (h : (∃ k body, op = updateMember k body) ∨
    (∃ k body, op = updateChild k body) ∨ (∃ k body, op = updatePolicy k body) ∨
    ∃ k e body, op = updateReadingHistory k e body) : op.Settled P env f d := by
  rcases h with ⟨k, body, rfl⟩ | ⟨k, body, rfl⟩ | ⟨k, body, rfl⟩ | ⟨k, e, body, rfl⟩
  · refine (Patch.member body).settled hd rfl id (fun hn => ⟨_, run_raises hn⟩)
      (by simp [NotFound, Breaks, Patch.Fits]) (fun hn => ?_)
    obtain ⟨r, hr, rfl, rfl⟩ := not_not.mp hn
    exact ⟨r, hr, rfl, rfl⟩
  · refine (Patch.child body).settled hd rfl id (fun hn => ⟨_, run_raises hn⟩)
      (by simp [NotFound, Breaks, Patch.Fits]) (fun hn => ?_)
    obtain ⟨r, hr, rfl, rfl⟩ := not_not.mp hn
    exact ⟨r, hr, rfl, rfl⟩
  · refine (Patch.policy body).settled hd rfl id (fun hn => ⟨_, run_raises hn⟩)
      (by simp [NotFound, Breaks, Patch.Fits]) (fun hn => ?_)
    obtain ⟨r, hr, rfl, rfl⟩ := not_not.mp hn
    exact ⟨r, hr, rfl, rfl⟩
  · refine (Patch.entry body).settled hd rfl id (fun hn => ⟨_, run_raises hn⟩)
      (by simp [NotFound, Breaks, Patch.Fits]) (fun hn => ?_)
    obtain ⟨⟨c, hc, rfl, rfl⟩, r, hr, rfl, hchild⟩ := not_not.mp hn
    refine ⟨r, hr, by rw [Patch.op, hchild], ?_⟩
    rw [Owns, TableName.scope, hchild]
    exact d.consistent.familyOf_child hc

/-- Updating a family. -/
theorem settled_updateFamily (hd : d.Stored) (body : FamilyUpdate) :
    (updateFamily body).Settled P env f d := by
  refine (Patch.family body).settled hd rfl id (fun hn => ⟨⟨d, d⟩, ?_⟩)
    (by simp [Breaks, Patch.NullsRequired, Patch.Fits]) (fun hn => ?_)
  · refine Tx.raises_bind.mpr (Or.inl ?_)
    show (FamilyService.update env f body).Raises _ _ _
    rw [FamilyService.update, ← bind_assoc]
    exact Tx.raises_bind.mpr (Or.inl ((required_raises (Family.atMostOne f)).mpr
      ⟨unknownFamily_iff.mp hn, rfl, rfl⟩))
  · obtain ⟨r, hr, rfl⟩ := List.mem_map.mp (Decidable.not_not.mp hn)
    exact ⟨r, hr, rfl, rfl⟩

/-- Updating the reading profile of a child, which every child has. -/
theorem settled_upsertReadingProfile (hd : d.Stored)
    (hcov : Covered d.children d.readingProfiles) (k : UUID) (body : ReadingProfileUpsert) :
    (upsertReadingProfile k body).Settled P env f d := by
  refine (Patch.readingProfile body).settled hd rfl id (fun hn => ⟨_, run_raises hn⟩)
    (by simp [NotFound, Breaks]) (fun hn => ?_)
  obtain ⟨c, hc, rfl, rfl⟩ := not_not.mp hn
  obtain ⟨r, hr, hid⟩ := hcov c hc
  exact ⟨r, hr, by rw [Patch.op, hid], c.owns_readingProfile hc hid⟩

/-- Updating the profile of a member, or inserting it. -/
theorem settled_upsertProfile (hd : d.Stored) (hf : env.Fresh P d) (k : UUID)
    (body : MemberProfileUpsert) : (upsertProfile k body).Settled P env f d := by
  by_cases hrow : ∃ r ∈ d.memberProfiles, r.memberId = k
  · refine (Patch.memberProfile body).settled hd rfl id (fun hn => ⟨_, run_raises hn⟩)
      (by simp [NotFound, Breaks, hrow, or_comm]) (fun hn => ?_)
    obtain ⟨m, hm, rfl, rfl⟩ := not_not.mp hn
    obtain ⟨r, hr, hid⟩ := hrow
    exact ⟨r, hr, by rw [Patch.op, hid], m.owns_profile hm hid⟩
  · have hb : (upsertProfile k body).Breaks env f d ↔
        (upsertProfile k body).AddressesOwn f d ∧ ¬ (Patch.memberProfile body).Fits := by
      simp [Breaks, hrow]
    refine ⟨fun h => ?_, False.elim, fun h => ?_, fun hn _ hnb => ?_⟩
    · exact Tx.serve_fst_eq_error_iff.mpr ⟨_, run_raises (P := P) (s := ⟨d, d⟩) h⟩
    · obtain ⟨⟨m, hm, rfl, rfl⟩, hfits⟩ := hb.mp h
      have hnone : ∀ r ∈ d.memberProfiles, r.memberId ≠ m.id := fun r hr hid => hrow ⟨r, hr, hid⟩
      cases hc : TableName.coerce .familyMemberProfile (MemberService.newProfile env m.id body) with
      | ok c => exact absurd (MemberService.coerce_newProfile.mp ⟨c, hc⟩) hfits
      | error e =>
        refine ⟨e, congrArg Prod.fst (MemberService.put_error (P := P) hm hnone hc), ?_⟩
        rw [TableName.coerce_eq_error hc]
        rfl
    · obtain ⟨m, hm, rfl, rfl⟩ := not_not.mp hn
      have hnone : ∀ r ∈ d.memberProfiles, r.memberId ≠ m.id := fun r hr hid => hrow ⟨r, hr, hid⟩
      have hfits : (Patch.memberProfile body).Fits :=
        by_contra (fun h => hnb (hb.mpr ⟨⟨m, hm, rfl, rfl⟩, h⟩))
      obtain ⟨c, hc⟩ : ∃ c, TableName.coerce .familyMemberProfile
          (MemberService.newProfile env m.id body) = .ok c :=
        MemberService.coerce_newProfile.mpr hfits
      obtain ⟨d', hput, -⟩ := MemberService.put_insert hf hm hnone hc
      exact ⟨_, congrArg Prod.fst hput⟩

end FamilyOp

/-! ## Inserting and deleting -/

namespace Repository

variable {T : TableName} {r : T.Row} {c : Database}

/-- A row that meets the constraints is inserted. -/
theorem add_inserts (hc : T.coerce r = .ok r) (h : schema.Consistent (Schema.insert T r d.rows)) :
    ∃ d' : Database, d'.rows = Schema.insert T r d.rows ∧ (add T r).Returns ⟨c, d⟩ r ⟨c, d'⟩ :=
  ⟨⟨_, h⟩, rfl, returns_add.mpr ⟨hc, ⟨_, h⟩, rfl, rfl⟩⟩

/-- A row that is referred to is not deleted. -/
theorem delete_raises (hr : r ∈ d.rows T)
    (h : ¬ schema.Consistent (schema.delete T (T.id r) (T.cascade (T.id r) d.rows))) :
    (delete T (T.id r)).Raises ⟨d, d⟩ .integrityError ⟨d, d⟩ := by
  have hfind : d.find T (T.id r) = some r := Store.find_eq_some_iff.mpr ⟨hr, rfl⟩
  have hexecute : d.execute (fun t => schema.delete T (T.id r) (T.cascade (T.id r) t)) = none :=
    Store.execute_eq_none_iff.mpr h
  refine Tx.raises_flush.mpr ⟨?_, rfl⟩
  simp only [hfind, hexecute]

/-- Any other one is. -/
theorem delete_removes (hr : r ∈ d.rows T)
    (h : schema.Consistent (schema.delete T (T.id r) (T.cascade (T.id r) d.rows))) :
    ∃ s, (delete T (T.id r)).Returns ⟨d, d⟩ () s :=
  ⟨_, (delete_returns hr).mpr ⟨⟨_, h⟩, rfl, rfl⟩⟩

/-- **Nothing refers to an invite, a policy or a history entry.** -/
theorem delete_unreferred (hT : T ∈ [.familyInvite, .familyReadingPolicy, .readingHistory])
    (hr : r ∈ d.rows T) : ∃ s, (delete T (T.id r)).Returns ⟨d, d⟩ () s := by
  have hcascade : T.cascade (T.id r) d.rows = d.rows := by
    simp only [List.mem_cons, List.not_mem_nil, or_false] at hT
    rcases hT with rfl | rfl | rfl <;> rfl
  refine delete_removes hr ?_
  rw [hcascade, Database.consistent_delete_iff]
  rintro ⟨U, p, hp, rfl, -⟩
  revert hT p
  cases U <;> simp [TableName.references]

end Repository

namespace FamilyOp

/-- Adding a member. -/
theorem settled_createMember (hf : env.Fresh P d) (body : MemberCreate) :
    (createMember body).Settled P env f d := by
  refine ⟨fun h => absurd trivial h, fun h => ⟨"email already registered", ?_⟩, False.elim,
    fun _ h _ => ?_⟩
  · rcases h with htaken | hunknown
    · obtain ⟨x, s, hs⟩ := MemberService.checkEmail_raises_iff.mpr htaken
      obtain rfl := MemberService.checkEmail_raises hs
      exact serveInternal_error rfl (Tx.raises_bind.mpr (Or.inl (Tx.raises_bind.mpr (Or.inl hs))))
    · exact serveInternal_error rfl (UnknownFamily.createMember_raises hunknown body)
  · obtain ⟨hfree, hknown⟩ := not_or.mp h
    have hcheck : (MemberService.checkEmail body).Returns ⟨d, d⟩ () ⟨d, d⟩ :=
      MemberService.checkEmail_returns.mpr
        ⟨fun e he m hm hme => hfree ⟨e, he, m, hm, hme⟩, rfl⟩
    have hno : ¬ ∃ x s, (MemberService.insert P env f body).Raises ⟨d, d⟩ x s :=
      (MemberService.insert_raises_iff hf).not.mpr (not_or.mpr ⟨hknown, hfree⟩)
    rcases Tx.returns_or_raises (MemberService.insert P env f body) ⟨d, d⟩ with
      ⟨a, s, hs⟩ | ⟨x, s, hs⟩
    · exact ⟨_, serveInternal_ok rfl (Tx.returns_bind.mpr ⟨a, s,
        Tx.returns_bind.mpr ⟨(), _, hcheck, hs⟩, Tx.returns_pure.mpr ⟨rfl, rfl⟩⟩)⟩
    · exact absurd ⟨x, s, hs⟩ hno

/-- Adding an invite. -/
theorem settled_createInvite (hf : env.Fresh P d) (k : UUID) (body : InviteCreate) :
    (createInvite k body).Settled P env f d := by
  refine ⟨fun h => absurd trivial h, False.elim, fun h => ?_, fun _ _ h => ?_⟩
  · cases hexp : InviteService.expiry env body with
    | error e =>
      obtain rfl := InviteService.expiry_eq_error hexp
      exact ⟨_, serveInternal_error rfl (Tx.raises_bind.mpr (Or.inl (Tx.raises_bind.mpr (Or.inl
        (Tx.raises_lift.mpr ⟨hexp, rfl⟩))))), rfl⟩
    | ok expiresAt =>
      have hcons : ¬ schema.Consistent (Schema.insert .familyInvite
          (InviteService.newInvite P env f k body expiresAt) d.rows) := by
        rcases h with ⟨hours, hhours, hnone⟩ | hunknown | hmember
        · obtain ⟨t, ht, -⟩ := (InviteService.expiry_some_iff hhours).mp hexp
          cases hnone.symm.trans ht
        · exact not_consistent_insert (T := .familyInvite) d.consistent List.mem_cons_self rfl
            hunknown
        · exact not_consistent_insert (T := .familyInvite) d.consistent
            (List.mem_cons_of_mem _ List.mem_cons_self) rfl hmember
      have hadd : (add .familyInvite (InviteService.newInvite P env f k body expiresAt)).Raises
          ⟨d, d⟩ .integrityError ⟨d, d⟩ :=
        raises_add.mpr ⟨rfl, Or.inr ⟨_, rfl, rfl, hcons⟩⟩
      exact ⟨_, serveInternal_error rfl (Tx.raises_bind.mpr (Or.inl (Tx.raises_bind.mpr (Or.inr
        ⟨expiresAt, _, Tx.returns_lift.mpr ⟨hexp, rfl⟩, Tx.raises_bind.mpr (Or.inl hadd)⟩)))), rfl⟩
  · obtain ⟨hexp, h⟩ := not_or.mp h
    obtain ⟨hknown, hmember⟩ := not_or.mp h
    obtain ⟨expiresAt, hexp⟩ : ∃ o, InviteService.expiry env body = .ok o := by
      cases hhours : body.ttlHours with
      | none => exact ⟨none, InviteService.expiry_none hhours⟩
      | some hours =>
        obtain ⟨t, ht⟩ := Option.ne_none_iff_exists'.mp
          (fun hnone => hexp ⟨hours, hhours, hnone⟩)
        exact ⟨some t, (InviteService.expiry_some_iff hhours).mpr ⟨t, ht, rfl⟩⟩
    have hcons : schema.Consistent (Schema.insert .familyInvite
        (InviteService.newInvite P env f k body expiresAt) d.rows) := by
      refine (Schema.consistent_insert_iff d.consistent).mpr
        ⟨hf.id .familyInvite, fun u hu key hk i hi hik => ?_, fun p hp key hk => ?_⟩
      · obtain rfl := List.mem_singleton.mp hu
        obtain rfl := Option.some.inj hk
        exact hf.code i hi (Sum.inr.inj (Option.some.inj hik))
      · rcases List.mem_pair.mp hp with rfl | rfl
        · obtain rfl := Option.some.inj hk
          exact Decidable.not_not.mp hknown
        · obtain rfl := Option.some.inj hk
          exact Decidable.not_not.mp hmember
    obtain ⟨d', -, hadd⟩ := add_inserts (T := .familyInvite) (c := d) rfl hcons
    exact ⟨_, serveInternal_ok rfl (Tx.returns_bind.mpr ⟨_, _, Tx.returns_bind.mpr ⟨expiresAt, _,
      Tx.returns_lift.mpr ⟨hexp, rfl⟩, Tx.returns_bind.mpr ⟨_, _, hadd,
        Tx.returns_pure.mpr ⟨rfl, rfl⟩⟩⟩, Tx.returns_pure.mpr ⟨rfl, rfl⟩⟩)⟩

/-- Adding a child, and its reading profile. -/
theorem settled_createChild (hf : env.Fresh P d) (body : ChildCreate) :
    (createChild body).Settled P env f d := by
  refine ⟨fun h => absurd trivial h, False.elim, fun h => ?_, fun _ _ hknown => ?_⟩
  · exact ⟨_, serveInternal_error rfl (UnknownFamily.createChild_raises h body), rfl⟩
  · have hcons : schema.Consistent (Schema.insert .childProfile
        (ChildService.newChild env f body) d.rows) := by
      refine (Schema.consistent_insert_iff d.consistent).mpr
        ⟨hf.id .childProfile, fun u hu => absurd hu List.not_mem_nil, fun p hp key hk => ?_⟩
      obtain rfl := List.mem_singleton.mp hp
      obtain rfl := Option.some.inj hk
      exact Decidable.not_not.mp hknown
    obtain ⟨d₁, hd₁, hadd⟩ := add_inserts (T := .childProfile) (c := d) rfl hcons
    have hprofiles : d₁.rows .childReadingProfile = d.rows .childReadingProfile := by
      rw [hd₁, Schema.insert_of_ne (by simp)]
    have hcons₁ : schema.Consistent (Schema.insert .childReadingProfile
        (ChildService.newReadingProfile env (env.newId .childProfile)
          ChildService.emptyReadingProfile) d₁.rows) := by
      refine (Schema.consistent_insert_iff d₁.consistent).mpr
        ⟨fun r hr => ?_, fun u hu key hk r hr hrk => ?_, fun p hp key hk => ?_⟩
      · exact hf.id .childReadingProfile r (hprofiles ▸ hr)
      · -- a profile that is there is of a child that was there
        obtain rfl := List.mem_singleton.mp hu
        obtain rfl := Option.some.inj hk
        obtain ⟨c, hc, hid⟩ := List.mem_map.mp (d.consistent.reference .childReadingProfile
          (.childProfile, fun r => some r.childId) List.mem_cons_self r (hprofiles ▸ hr) _ rfl)
        exact hf.id .childProfile c hc (hid.trans (Sum.inl.inj (Option.some.inj hrk)))
      · obtain rfl := List.mem_singleton.mp hp
        obtain rfl := Option.some.inj hk
        show _ ∈ (d₁.rows .childProfile).map _
        rw [hd₁, Schema.insert_self]
        exact List.mem_map.mpr ⟨_, Table.mem_insert.mpr (Or.inr rfl), rfl⟩
    obtain ⟨d₂, -, hadd₁⟩ := add_inserts (T := .childReadingProfile) (c := d) rfl hcons₁
    exact ⟨_, serveInternal_ok rfl (Tx.returns_bind.mpr ⟨_, _, Tx.returns_bind.mpr ⟨_, _, hadd,
      Tx.returns_bind.mpr ⟨_, _, hadd₁, Tx.returns_pure.mpr ⟨rfl, rfl⟩⟩⟩,
      Tx.returns_pure.mpr ⟨rfl, rfl⟩⟩)⟩

/-- Adding a history entry. -/
theorem settled_addReadingHistory (hf : env.Fresh P d) (k : UUID) (body : ReadingHistoryCreate) :
    (addReadingHistory k body).Settled P env f d := by
  refine .of_found rfl id id (fun hn => ⟨_, run_raises hn⟩) (fun hn => ?_)
  obtain ⟨c, hc, rfl, rfl⟩ := not_not.mp hn
  have hcons : schema.Consistent (Schema.insert .readingHistory
      (ChildService.newEntry env c.id body) d.rows) := by
    refine (Schema.consistent_insert_iff d.consistent).mpr
      ⟨hf.id .readingHistory, fun u hu => absurd hu List.not_mem_nil, fun p hp key hk => ?_⟩
    obtain rfl := List.mem_singleton.mp hp
    obtain rfl := Option.some.inj hk
    exact List.mem_map_of_mem hc
  obtain ⟨d₁, -, hadd⟩ := add_inserts (T := .readingHistory) (c := d) rfl hcons
  exact ⟨_, _, Tx.returns_bind.mpr ⟨_, _, Tx.returns_bind.mpr ⟨c, _,
    ChildService.require_returns.mpr ⟨hc, rfl, rfl, rfl⟩, hadd⟩, Tx.returns_pure.mpr ⟨rfl, rfl⟩⟩⟩

/-- The child a policy is about is resolved. -/
theorem resolveChild_found {childId : Option String}
    (h : ∀ text ∈ childId, ∃ r ∈ d.children, UUID.ofString text = some r.id ∧ r.familyId = f) :
    ∃ c, (PolicyService.resolveChild childId f).Returns ⟨d, d⟩ c ⟨d, d⟩ := by
  cases childId with
  | none => exact ⟨none, Tx.returns_pure.mpr ⟨rfl, rfl⟩⟩
  | some text =>
    obtain ⟨r, hr, htext, hfam⟩ := h text rfl
    have hfound : (ChildService.require f r.id).Returns ⟨d, d⟩ r ⟨d, d⟩ :=
      ChildService.require_returns.mpr ⟨hr, rfl, hfam, rfl⟩
    have hrest : (ChildService.require f r.id >>= fun _ =>
        (pure (some r.id) : Op (Option UUID))).Returns ⟨d, d⟩ (some r.id) ⟨d, d⟩ :=
      Tx.returns_bind.mpr ⟨r, _, hfound, Tx.returns_pure.mpr ⟨rfl, rfl⟩⟩
    rw [ChildService.require, bind_assoc] at hrest
    exact ⟨_, Tx.returns_bind.mpr ⟨r.id, _, Tx.returns_orRaise.mpr ⟨htext, rfl⟩, hrest⟩⟩

/-- Adding a policy. -/
theorem settled_createPolicy (hf : env.Fresh P d) (body : PolicyCreate) :
    (createPolicy body).Settled P env f d := by
  refine ⟨fun h => serveInternal_error rfl (run_raises (s := ⟨d, d⟩) h), False.elim,
    fun ⟨hnone, hunknown⟩ => ?_, fun hn _ hnb => ?_⟩
  · exact ⟨_, serveInternal_error rfl (hunknown.createPolicy_raises hnone), rfl⟩
  · have hown := not_not.mp hn
    have hknown : ¬ UnknownFamily f d := fun hunknown => by
      cases hchild : body.childId with
      | none => exact hnb ⟨hchild, hunknown⟩
      | some text =>
        exact hunknown.no_child (fun r => UUID.ofString text = some r.id) (hown text hchild)
    obtain ⟨c, hc⟩ := resolveChild_found hown
    have hcons : schema.Consistent (Schema.insert .familyReadingPolicy
        (PolicyService.newPolicy env f c body) d.rows) := by
      refine (Schema.consistent_insert_iff d.consistent).mpr
        ⟨hf.id .familyReadingPolicy, fun u hu => absurd hu List.not_mem_nil, fun p hp key hk => ?_⟩
      rcases List.mem_pair.mp hp with rfl | rfl
      · obtain rfl := Option.some.inj hk
        exact Decidable.not_not.mp hknown
      · obtain ⟨r, hr, rfl, -⟩ := (PolicyService.resolveChild_returns hc).2 key hk
        exact List.mem_map_of_mem hr
    obtain ⟨d₁, -, hadd⟩ := add_inserts (T := .familyReadingPolicy) (c := d) rfl hcons
    exact ⟨_, serveInternal_ok rfl (Tx.returns_bind.mpr ⟨_, _,
      Tx.returns_bind.mpr ⟨c, _, hc, hadd⟩, Tx.returns_pure.mpr ⟨rfl, rfl⟩⟩)⟩

/-- Deleting a member. -/
theorem settled_deleteMember (k : UUID) : (deleteMember k).Settled P env f d := by
  refine ⟨fun h => serveInternal_error rfl (run_raises (s := ⟨d, d⟩) h), ?_, ?_, fun hn hc hb => ?_⟩
  · rintro ⟨m, hm, rfl, rfl, hprimary⟩
    have hdelete : (MemberService.delete m.familyId m.id).Raises ⟨d, d⟩
        (.service (.conflict "cannot delete the primary member")) ⟨d, d⟩ := by
      refine Tx.raises_bind.mpr (Or.inr
        ⟨m, _, MemberService.require_returns.mpr ⟨hm, rfl, rfl, rfl⟩, ?_⟩)
      rw [hprimary]
      exact Tx.raises_raise.mpr ⟨rfl, rfl⟩
    exact ⟨_, serveInternal_error rfl (Tx.raises_bind.mpr (Or.inl hdelete))⟩
  · rintro ⟨⟨m, hm, rfl, rfl, hprimary⟩, hheld⟩
    have hdelete : (MemberService.delete m.familyId m.id).Raises ⟨d, d⟩ .integrityError ⟨d, d⟩ := by
      refine Tx.raises_bind.mpr (Or.inr
        ⟨m, _, MemberService.require_returns.mpr ⟨hm, rfl, rfl, rfl⟩, ?_⟩)
      rw [hprimary]
      exact delete_raises (T := .familyMember) hm
        (FamilyMember.consistent_delete_iff.not.mpr (not_not.mpr hheld))
    exact ⟨_, serveInternal_error rfl (Tx.raises_bind.mpr (Or.inl hdelete)), rfl⟩
  · obtain ⟨m, hm, rfl, rfl⟩ := not_not.mp hn
    have hprimary : m.isPrimaryUser = false :=
      Bool.eq_false_iff.mpr (fun h => hc ⟨m, hm, rfl, rfl, h⟩)
    obtain ⟨s, hs⟩ := delete_removes (T := .familyMember) hm
      (FamilyMember.consistent_delete_iff.mpr (fun h => hb ⟨⟨m, hm, rfl, rfl, hprimary⟩, h⟩))
    have hdelete : (MemberService.delete m.familyId m.id).Returns ⟨d, d⟩ () s := by
      refine Tx.returns_bind.mpr
        ⟨m, _, MemberService.require_returns.mpr ⟨hm, rfl, rfl, rfl⟩, ?_⟩
      rw [hprimary]
      exact hs
    exact ⟨_, serveInternal_ok rfl (Tx.returns_bind.mpr ⟨(), s, hdelete,
      Tx.returns_pure.mpr ⟨rfl, rfl⟩⟩)⟩

/-- Deleting a child. -/
theorem settled_deleteChild (k : UUID) : (deleteChild k).Settled P env f d := by
  refine ⟨fun h => serveInternal_error rfl (run_raises (s := ⟨d, d⟩) h), False.elim, ?_,
    fun hn _ hb => ?_⟩
  · rintro ⟨⟨c, hc, rfl, rfl⟩, hheld⟩
    exact ⟨_, serveInternal_error rfl (Tx.raises_bind.mpr (Or.inl (Tx.raises_bind.mpr (Or.inr
      ⟨c, ⟨d, d⟩, ChildService.require_returns.mpr ⟨hc, rfl, rfl, rfl⟩,
        delete_raises (T := .childProfile) hc
          (ChildProfile.consistent_delete_iff.not.mpr (not_not.mpr hheld))⟩)))), rfl⟩
  · obtain ⟨c, hc, rfl, rfl⟩ := not_not.mp hn
    obtain ⟨s, hs⟩ := delete_removes (T := .childProfile) hc
      (ChildProfile.consistent_delete_iff.mpr (fun h => hb ⟨⟨c, hc, rfl, rfl⟩, h⟩))
    exact ⟨_, serveInternal_ok rfl (Tx.returns_bind.mpr ⟨(), s, Tx.returns_bind.mpr
      ⟨c, ⟨d, d⟩, ChildService.require_returns.mpr ⟨hc, rfl, rfl, rfl⟩, hs⟩,
      Tx.returns_pure.mpr ⟨rfl, rfl⟩⟩)⟩

/-- Deleting what nothing refers to. -/
theorem settled_delete (h : (∃ k, op = revokeInvite k) ∨ (∃ k e, op = deleteReadingHistory k e) ∨
    ∃ k, op = deletePolicy k) : op.Settled P env f d := by
  rcases h with ⟨k, rfl⟩ | ⟨k, e, rfl⟩ | ⟨k, rfl⟩
  · refine .of_found rfl id id (fun hn => ⟨_, run_raises hn⟩) (fun hn => ?_)
    obtain ⟨r, hr, rfl, rfl⟩ := not_not.mp hn
    obtain ⟨s, hs⟩ := delete_unreferred (T := .familyInvite) (by simp) hr
    have hrevoke : (InviteService.revoke r.familyId r.id).Returns ⟨d, d⟩ () s := by
      rw [InviteService.revoke, ← bind_assoc]
      exact Tx.returns_bind.mpr ⟨r, _, InviteService.find_returns.mpr ⟨hr, rfl, rfl, rfl⟩, hs⟩
    exact ⟨_, _, Tx.returns_bind.mpr ⟨(), s, hrevoke, Tx.returns_pure.mpr ⟨rfl, rfl⟩⟩⟩
  · refine .of_found rfl id id (fun hn => ⟨_, run_raises hn⟩) (fun hn => ?_)
    obtain ⟨⟨c, hc, rfl, rfl⟩, r, hr, rfl, hchild⟩ := not_not.mp hn
    obtain ⟨s, hs⟩ := delete_unreferred (T := .readingHistory) (by simp) hr
    exact ⟨_, _, Tx.returns_bind.mpr ⟨(), s, Tx.returns_bind.mpr ⟨c, _,
      ChildService.require_returns.mpr ⟨hc, rfl, rfl, rfl⟩, Tx.returns_bind.mpr ⟨r, _,
        ChildService.requireEntry_returns.mpr ⟨hr, rfl, hchild, rfl⟩, hs⟩⟩,
      Tx.returns_pure.mpr ⟨rfl, rfl⟩⟩⟩
  · refine .of_found rfl id id (fun hn => ⟨_, run_raises hn⟩) (fun hn => ?_)
    obtain ⟨r, hr, rfl, rfl⟩ := not_not.mp hn
    obtain ⟨s, hs⟩ := delete_unreferred (T := .familyReadingPolicy) (by simp) hr
    exact ⟨_, _, Tx.returns_bind.mpr ⟨(), s, Tx.returns_bind.mpr ⟨r, _,
      PolicyService.require_returns.mpr ⟨hr, rfl, rfl, rfl⟩, hs⟩,
      Tx.returns_pure.mpr ⟨rfl, rfl⟩⟩⟩

/-- **Every operation is answered as the conditions say**, in a database as
the service leaves it. -/
theorem settled (hd : d.Stored) (hcov : Covered d.children d.readingProfiles)
    (hf : env.Fresh P d) (op : FamilyOp) : op.Settled P env f d := by
  cases op with
  | getFamily => exact settled_getFamily
  | updateFamily body => exact settled_updateFamily hd body
  | listMembers | listInvites | listChildren | listPolicies => exact settled_list (by simp)
  | createMember body => exact settled_createMember hf body
  | getMember k | getChild k | listReadingHistory k => exact settled_get (by simp)
  | updateMember k body | updateChild k body | updatePolicy k body =>
    exact settled_update hd (by simp)
  | updateReadingHistory k e body => exact settled_update hd (by simp)
  | deleteMember k => exact settled_deleteMember k
  | getProfile k => exact settled_getProfile k
  | upsertProfile k body => exact settled_upsertProfile hd hf k body
  | createInvite k body => exact settled_createInvite hf k body
  | createChild body => exact settled_createChild hf body
  | deleteChild k => exact settled_deleteChild k
  | getReadingProfile k => exact settled_getReadingProfile hcov k
  | upsertReadingProfile k body => exact settled_upsertReadingProfile hd hcov k body
  | addReadingHistory k body => exact settled_addReadingHistory hf k body
  | createPolicy body => exact settled_createPolicy hf body
  | revokeInvite k | deletePolicy k => exact settled_delete (by simp)
  | deleteReadingHistory k e => exact settled_delete (by simp)
  | context => exact settled_context

end FamilyOp

/-! ## The result -/

/-- **The status of every answer.** In every state that requests in any number
and in any order leave, whether they run one at a time or in between each
other, each operation of a family is answered with a 404 where something is
not there, with a 409 where it conflicts, and with a 500 where it ends in what
nobody handles – and just there. Everywhere else it is answered as its route
declares. -/
theorem family_statuses (P : Platform) (ms : List (Move Env Request)) (env : Env)
    (hf : env.Fresh P ((concurrentService P).system.run idle ms).shared) (f : UUID)
    (op : FamilyOp) :
    let d := ((concurrentService P).system.run idle ms).shared
    let status := op.status (serveInternal P env f op d).1
    (status = 404 ↔ op.NotFound f d) ∧ (status = 409 ↔ op.Conflicts f d) ∧
      (status = 500 ↔ op.Breaks env f d) ∧
      (status = op.statusCode ↔ ¬ op.NotFound f d ∧ ¬ op.Conflicts f d ∧ ¬ op.Breaks env f d) :=
  (FamilyOp.settled (stored_run P ms) (covered_run P ms) hf op).status_iff

/-- The member who has signed up cannot be deleted. -/
theorem family_statuses_founder :
    let P := Sample.platform 2592000
    let d := ((concurrentService P).system.run idle Sample.founded).shared
    (FamilyOp.deleteMember 1).status
      (serveInternal P (Sample.env 2 (Sample.second 60)) 1 (.deleteMember 1) d).1 = 409 :=
  (family_statuses (Sample.platform 2592000) Sample.founded (Sample.env 2 (Sample.second 60))
    (by decide +kernel) 1 (.deleteMember 1)).2.1.mpr
    ⟨Sample.ada, by decide +kernel, rfl, rfl, rfl⟩
