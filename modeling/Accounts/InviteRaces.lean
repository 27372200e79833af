import Accounts.Flights
import Accounts.Invites

/-!
# One person per invite under concurrent requests

What the two steps of the requests do to the table of invites when they
are interleaved. `redeem` checks that an invite is unaccepted in the first
step of a signup and marks it accepted, unconditionally, in the second: two
signups with one code can both get through. `invite_single_use` says that
nothing else goes wrong: as long as no signup redeems its invite late, a
code lets in one person, whatever signups, revocations and other requests
are interleaved with it.
-/

open Repository

variable {P : Platform} {env : Env} {d d' : Database} {t t' : List FamilyInvite}

/-! ## What the steps do to the invites -/

/-- **The first step of a request** is a step of the machine of invites. -/
theorem first_inviteStep {req : Request} {r : Flight ⊕ Completed Env Request Flight Exn Response}
    (h : (concurrentService P).first env req d = (d', r)) :
    ∃ a, InviteStep P env d.invites a d'.invites := by
  rcases first_cases h with rfl | ⟨s', rfl, ⟨body, a, -, hl⟩ | ⟨f, op, response, -, -, hop⟩⟩
  · exact ⟨none, .same⟩
  · obtain ⟨m, -, hi⟩ := AuthService.login_returns hl
    rw [show s'.working.invites = d.invites from AuthService.issueTokens_rows hi (by simp)]
    exact ⟨none, .same⟩
  · exact ⟨_, FamilyOp.inviteStep hop⟩

namespace Flight

/-- **A second step leaves the invites alone**, unless it redeems one or
deletes one. -/
theorem finish_invites {flight : Flight} {r : Except Exn Response} (hred : flight.redeems = none)
    (hdel : ∀ invite, flight ≠ .revokeInvite invite)
    (h : Tx.serve Exn.handled (flight.finish P env) d = (r, d')) : d'.invites = d.invites := by
  refine finish_frame h ?_
  cases flight with
  | signup body invite =>
    cases hred
    simp [tables]
  | revokeInvite invite => exact absurd rfl (hdel invite)
  | _ => simp [tables]

/-- **The second step of a request** that does not redeem an invite is a
step of the machine of invites. -/
theorem finish_inviteStep {flight : Flight} {r : Except Exn Response} (hred : flight.redeems = none)
    (h : Tx.serve Exn.handled (flight.finish P env) d = (r, d')) :
    ∃ a, InviteStep P env d.invites a d'.invites := by
  by_cases hdel : ∃ invite, flight = .revokeInvite invite
  · obtain ⟨invite, rfl⟩ := hdel
    cases r with
    | error e =>
      rw [finish_error rfl h]
      exact ⟨none, .same⟩
    | ok response =>
      obtain ⟨⟨i, hi, hid⟩, hrows⟩ := finish_revokeInvite h
      have hd : d'.invites = Table.delete FamilyInvite.id i.id d.invites := by
        rw [Database.invites, hrows, Schema.delete_self, hid]
        rfl
      rw [hd]
      exact ⟨_, .revoked hi⟩
  · rw [finish_invites hred (not_exists.mp hdel) h]
    exact ⟨none, .same⟩

/-- **The second step of a signup through an invite**: it fails and leaves
the database as it was, or it marks the invite accepted as it is now, and
adds one member of its family. -/
theorem finish_redeems {body : SignupRequest} {invite : FamilyInvite} {r : Except Exn Response}
    (h : Tx.serve Exn.handled ((signup body (some invite)).finish P env) d = (r, d')) :
    ((∃ e, r = .error e) ∧ d' = d) ∨
      ∃ response, r = .ok response ∧ ∃ cur ∈ d.invites, cur.id = invite.id ∧
        d'.invites = Table.replace FamilyInvite.id (cur.accept env.now) d.invites ∧
        d'.members = Table.insert d.members
          (AuthService.newMember P env body cur.familyId cur.role false) := by
  cases r with
  | error e => exact Or.inl ⟨⟨e, rfl⟩, finish_error rfl h⟩
  | ok response =>
    obtain ⟨a, s', -, rfl, hs⟩ := finish_signup h
    obtain ⟨cur, hcur, hid, hinvites, hmembers, -⟩ := AuthService.finishSignup_some_rows hs
    exact Or.inr ⟨response, rfl, cur, hcur, hid, hinvites, hmembers⟩

end Flight

/-! ## Joining through a code -/

/-- **The member a completed request has created through an invite code**,
and the code. -/
def joined (o : Completed Env Request Flight Exn Response) : Option (Py.Text × UUID) :=
  match o.source, o.outcome with
  | .inr (.signup body (some _)), .ok _ => body.inviteCode.map (·, o.env.newId .familyMember)
  | _, _ => none

/-- Only a signup through an invite is logged as a join. -/
theorem joined_eq_none {o : Completed Env Request Flight Exn Response} {flight : Flight}
    (ho : o.source = .inr flight) (hred : flight.redeems = none) : joined o = none := by
  unfold joined
  rw [ho]
  cases flight with
  | signup body invite =>
    cases hred
    rfl
  | _ => rfl

/-- **A join creates its member**, and no other. -/
theorem joined_member {flight : Flight} {o : Completed Env Request Flight Exn Response}
    {code : Py.Text} {member : UUID}
    (h : (concurrentService P).second env flight d = (d', o))
    (ho : joined o = some (code, member)) :
    ∃ r : FamilyMember, r.id = member ∧ d'.members = Table.insert d.members r := by
  obtain ⟨henv, hsrc, hs⟩ := TwoStep.ofPhases_second h
  cases hred : flight.redeems with
  | none =>
    rw [joined_eq_none hsrc hred] at ho
    cases ho
  | some invite =>
    cases flight with
    | signup body invite' =>
      cases hred
      rcases Flight.finish_redeems hs with ⟨⟨e, he⟩, -⟩ | ⟨response, hr, cur, -, -, -, hmembers⟩
      · unfold joined at ho
        rw [hsrc, he] at ho
        cases ho
      · unfold joined at ho
        rw [hsrc, hr] at ho
        obtain ⟨c, -, hc⟩ := Option.map_eq_some_iff.mp ho
        cases hc
        exact ⟨_, congrArg (fun e : Env => e.newId .familyMember) henv.symm, hmembers⟩
    | _ => cases hred

/-- **A code lets in one person**: the invariant. The codes of the log's
joins are distinct, and an invite with such a code is accepted. -/
structure SingleJoin (P : Platform) (t : List FamilyInvite)
    (log : List (Completed Env Request Flight Exn Response)) : Prop where
  /-- No code let in two members. -/
  nodup : ((log.filterMap joined).map Prod.fst).Nodup
  /-- An invite whose code was used is accepted. -/
  accepted : ∀ code ∈ (log.filterMap joined).map Prod.fst, ∀ i ∈ t,
    InviteCodec.hash P code = .ok i.codeHash → i.acceptedAt ≠ none

namespace SingleJoin

variable {log : List (Completed Env Request Flight Exn Response)}
  {o : Completed Env Request Flight Exn Response}

/-- An entry that is no join may be logged. -/
theorem append (h : SingleJoin P t log) (ho : joined o = none) : SingleJoin P t (log ++ [o]) := by
  have hlog : (log ++ [o]).filterMap joined = log.filterMap joined := by
    rw [List.filterMap_append, List.filterMap_cons, ho]
    simp
  exact ⟨hlog ▸ h.nodup, hlog ▸ h.accepted⟩

/-- **Accepting an invite leaves the used ones accepted.** -/
theorem accept (h : SingleJoin P t log) (cur : FamilyInvite) (now : Datetime) :
    SingleJoin P (Table.replace FamilyInvite.id (cur.accept now) t) log := by
  refine ⟨h.nodup, fun code hcode i hi hhash => ?_⟩
  rcases Table.mem_replace.mp hi with ⟨rfl, -⟩ | ⟨hi, -⟩
  · rw [FamilyInvite.accept_acceptedAt]
    exact Option.some_ne_none _
  · exact h.accepted code hcode i hi hhash

/-- The machine of invites takes a step. -/
theorem step {a : Option InviteAction} (h : SingleJoin P t log) (hs : InviteStep P env t a t')
    (hcode : ∀ code ∈ (log.filterMap joined).map Prod.fst,
      InviteCodec.hash P code ≠ .ok (P.sha256 env.code)) : SingleJoin P t' log := by
  cases hs with
  | same => exact h
  | created hid hhash' hopen =>
    refine ⟨h.nodup, fun code hc i hi hhash => ?_⟩
    rcases Table.mem_insert.mp hi with hi | rfl
    · exact h.accepted code hc i hi hhash
    · exact absurd (hhash.trans (congrArg Except.ok hhash')) (hcode code hc)
  | revoked hr =>
    exact ⟨h.nodup, fun code hc i hi => h.accepted code hc i (Table.mem_delete.mp hi).1⟩
  | accepted hcur hactive => exact h.accept _ _

/-- **An unaccepted invite may be redeemed.** -/
theorem join {cur : FamilyInvite} {code : Py.Text} {member : UUID} {now : Datetime}
    (h : SingleJoin P t log) (hcur : cur ∈ t) (hopen : cur.acceptedAt = none)
    (hunique : ∀ i ∈ t, i.codeHash = cur.codeHash → i = cur)
    (hhash : InviteCodec.hash P code = .ok cur.codeHash) (ho : joined o = some (code, member)) :
    SingleJoin P (Table.replace FamilyInvite.id (cur.accept now) t) (log ++ [o]) := by
  have hlog : ((log ++ [o]).filterMap joined).map Prod.fst
      = (log.filterMap joined).map Prod.fst ++ [code] := by
    rw [List.filterMap_append, List.filterMap_cons, ho]
    simp
  constructor
  · rw [hlog]
    refine List.Nodup.append h.nodup (List.nodup_singleton _) (fun c hc hc' => ?_)
    obtain rfl := List.mem_singleton.mp hc'
    exact h.accepted c hc cur hcur hhash hopen
  · intro c hc i hi hihash
    rw [hlog] at hc
    rcases List.mem_append.mp hc with hc | hc
    · exact (h.accept cur now).accepted c hc i hi hihash
    · obtain rfl := List.mem_singleton.mp hc
      rcases Table.mem_replace.mp hi with ⟨rfl, -⟩ | ⟨hi, hne⟩
      · rw [FamilyInvite.accept_acceptedAt]
        exact Option.some_ne_none _
      · refine absurd ?_ hne
        rw [hunique i hi (Except.ok.inj (hihash.symm.trans hhash)), FamilyInvite.accept_id]

end SingleJoin

/-! ## Guards -/

/-- **What a move draws for an invite is new**: its code was not used
before, and its identifier is not that of an invite a signup in flight
remembers. -/
def NewInvite (P : Platform) (c : State) (m : Move Env Request) : Prop :=
  (∀ code ∈ (c.log.filterMap joined).map Prod.fst,
    InviteCodec.hash P code ≠ .ok (P.sha256 m.env.code)) ∧
  ∀ l ∈ c.flights, ∀ invite ∈ l.redeems, invite.id ≠ m.env.newId .familyInvite

instance (P : Platform) (c : State) (m : Move Env Request) : Decidable (NewInvite P c m) :=
  inferInstanceAs (Decidable ((∀ _ ∈ _, _) ∧ ∀ _ ∈ _, ∀ _ ∈ _, _))

/-- **A signup redeems its invite while the invite is unaccepted.** -/
def RedeemsUnaccepted (c : State) (m : Move Env Request) : Prop :=
  ∀ invite ∈ (m.finishing c).bind Flight.redeems, ∀ i ∈ c.shared.invites,
    i.id = invite.id → i.acceptedAt = none

instance (c : State) (m : Move Env Request) : Decidable (RedeemsUnaccepted c m) :=
  inferInstanceAs (Decidable (∀ _ ∈ _, _))

/-- **A signup in flight knows its invite**: it has the code the signup came
with, and so has every row with its identifier. -/
def Flight.KnowsInvite (P : Platform) (t : List FamilyInvite) (flight : Flight) : Prop :=
  ∀ body invite, flight = .signup body (some invite) →
    (∃ code, body.inviteCode = some code ∧ InviteCodec.hash P code = .ok invite.codeHash) ∧
      ∀ i ∈ t, i.id = invite.id → i.codeHash = invite.codeHash

theorem Flight.KnowsInvite.accept {flight : Flight} (h : flight.KnowsInvite P t)
    {cur : FamilyInvite} (hcur : cur ∈ t) (now : Datetime) :
    flight.KnowsInvite P (Table.replace FamilyInvite.id (cur.accept now) t) := by
  intro body invite hf
  obtain ⟨hcode, hrows⟩ := h body invite hf
  refine ⟨hcode, fun i hi hid => ?_⟩
  rcases Table.mem_replace.mp hi with ⟨rfl, -⟩ | ⟨hi, -⟩
  · rw [FamilyInvite.accept_codeHash]
    exact hrows cur hcur (by rw [← hid, FamilyInvite.accept_id])
  · exact hrows i hi hid

/-- A step of the machine of invites leaves a signup in flight its
invite. -/
theorem Flight.KnowsInvite.step {flight : Flight} {a : Option InviteAction}
    (h : flight.KnowsInvite P t) (hs : InviteStep P env t a t')
    (hid : ∀ invite ∈ flight.redeems, invite.id ≠ env.newId .familyInvite) :
    flight.KnowsInvite P t' := by
  cases hs with
  | same => exact h
  | created hid' hhash hopen =>
    intro body invite hf
    obtain ⟨hcode, hrows⟩ := h body invite hf
    refine ⟨hcode, fun i hi hii => ?_⟩
    rcases Table.mem_insert.mp hi with hi | rfl
    · exact hrows i hi hii
    · exact absurd (hii.symm.trans hid') (hid invite (by rw [hf]; rfl))
  | revoked hr =>
    intro body invite hf
    obtain ⟨hcode, hrows⟩ := h body invite hf
    exact ⟨hcode, fun i hi => hrows i (Table.mem_delete.mp hi).1⟩
  | accepted hcur hactive => exact h.accept hcur _

/-- A signup that is left in flight knows its invite. -/
theorem Flight.ReadFrom.knowsInvite {flight : Flight} (h : flight.ReadFrom P d) :
    flight.KnowsInvite P d.invites := by
  rintro body invite rfl
  cases h with
  | signup _ hmem =>
    obtain ⟨hinvite, hcode⟩ := hmem invite rfl
    exact ⟨hcode, fun i hi hid => congrArg FamilyInvite.codeHash
      (d.inviteKey.eq hi hinvite rfl (congrArg some hid.symm))⟩

/-- A request in flight that redeems an invite is a signup. -/
theorem Flight.eq_signup {flight : Flight} {invite : FamilyInvite}
    (h : flight.redeems = some invite) : ∃ body, flight = .signup body (some invite) := by
  cases flight with
  | signup body invite' =>
    cases h
    exact ⟨body, rfl⟩
  | _ => cases h

/-! ## One person per code under interleaving -/

/-- **An invite admits one person, as long as no signup redeems it late.**
In every interleaving of the steps of any requests, in which every signup
redeems its invite while the invite is still unaccepted: no invite code
creates two members. -/
theorem invite_single_use (P : Platform) (ms : List (Move Env Request))
    (hnew : (concurrentService P).system.Every (NewInvite P) idle ms)
    (hun : (concurrentService P).system.Every RedeemsUnaccepted idle ms) :
    ((((concurrentService P).system.run idle ms).log.filterMap joined).map Prod.fst).Nodup := by
  suffices h : TwoStep.Inv (fun d log => SingleJoin P d.invites log)
      (fun d l => l.KnowsInvite P d.invites) ((concurrentService P).system.run idle ms) from
    h.1.nodup
  refine (concurrentService P).run_invariant ?_ ?_
    ⟨⟨List.nodup_nil, by rintro code ⟨⟩⟩, by rintro l ⟨⟩⟩
    ((concurrentService P).system.every_and hnew hun)
  · rintro c env req ⟨hG, hL⟩ ⟨⟨hcode, hid⟩, -⟩
    constructor
    · intro d l hf
      obtain ⟨rfl, s, hret⟩ := TwoStep.ofPhases_first_flight hf
      exact ⟨hG, (Request.begin_reads hret).knowsInvite, hL⟩
    · intro d o hf
      obtain ⟨a, hstep⟩ := first_inviteStep hf
      obtain ⟨-, hsrc, -⟩ := TwoStep.ofPhases_first_done hf
      have ho : joined o = none := by
        unfold joined
        rw [hsrc]
      exact ⟨(hG.step hstep hcode).append ho, fun l hl => (hL l hl).step hstep (hid l hl)⟩
  · rintro c env k l ⟨hG, hL⟩ ⟨⟨hcode, hid⟩, hguard⟩ hk d o hf
    obtain ⟨-, hsrc, hs⟩ := TwoStep.ofPhases_second hf
    have hmem : ∀ l' ∈ c.flights.eraseIdx k, l' ∈ c.flights :=
      fun l' hl' => List.mem_of_mem_eraseIdx hl'
    cases hred : l.redeems with
    | none =>
      obtain ⟨a, hstep⟩ := Flight.finish_inviteStep hred hs
      exact ⟨(hG.step hstep hcode).append (joined_eq_none hsrc hred),
        fun l' hl' => (hL l' (hmem l' hl')).step hstep (hid l' (hmem l' hl'))⟩
    | some invite =>
      obtain ⟨body, rfl⟩ := Flight.eq_signup hred
      rcases Flight.finish_redeems hs with ⟨⟨e, he⟩, rfl⟩ | ⟨response, hr, cur, hcur, hci, hd, -⟩
      · have ho : joined o = none := by
          unfold joined
          rw [hsrc, he]
        exact ⟨hG.append ho, fun l' hl' => hL l' (hmem l' hl')⟩
      · obtain ⟨⟨code, hbody, hhash⟩, hrows⟩ := hL _ (List.mem_of_getElem? hk) body invite rfl
        have ho : joined o = some (code, o.env.newId .familyMember) := by
          unfold joined
          rw [hsrc, hr]
          exact congrArg (Option.map _) hbody
        have hopen : cur.acceptedAt = none :=
          hguard invite (by simp [Move.finishing, hk, Flight.redeems]) cur hcur hci
        rw [hd]
        exact ⟨hG.join hcur hopen (fun i hi h => c.shared.eq_of_codeHash hi hcur h)
          (by rw [hhash, hrows cur hcur hci]) ho,
          fun l' hl' => (hL l' (hmem l' hl')).accept hcur _⟩

/-- A signup through an invite that nobody interferes with. -/
theorem invite_single_use_signup :
    let ms : List (Move Env Request) := [
      .start (Sample.env 1 (Sample.second 0))
        (.auth (.signup (Sample.signup "ada@example.org" none))),
      .finish (Sample.env 1 (Sample.second 0)) 0,
      .start (Sample.env 2 (Sample.second 60)) (.family 1 (.createInvite 1 ⟨"parent", none⟩)),
      .start (Sample.env 3 (Sample.second 120))
        (.auth (.signup (Sample.signup "bob@example.org" (some "code-2")))),
      .finish (Sample.env 3 (Sample.second 120)) 0]
    ((((concurrentService (Sample.platform 2592000)).system.run idle ms).log.filterMap
      joined).map Prod.fst).Nodup :=
  invite_single_use (Sample.platform 2592000) _ (by decide +kernel) (by decide +kernel)

/-- **One code, two persons**: two signups with different emails come with
the same code, both find the invite active, and both join. -/
theorem invite_single_use_race :
    ∃ (P : Platform) (ms : List (Move Env Request)),
      (concurrentService P).system.Every (NewInvite P) idle ms ∧
      ¬ ((((concurrentService P).system.run idle ms).log.filterMap joined).map Prod.fst).Nodup ∧
      (((concurrentService P).system.run idle ms).shared.members.map (fun m =>
        (m.id, m.email, m.familyId, m.isPrimaryUser)))
        = [(1, some "ada@example.org", 1, true), (3, some "bob@example.org", 1, false),
          (4, some "eve@example.org", 1, false)] :=
  ⟨Sample.platform 2592000, [
    .start (Sample.env 1 (Sample.second 0))
      (.auth (.signup (Sample.signup "ada@example.org" none))),
    .finish (Sample.env 1 (Sample.second 0)) 0,
    .start (Sample.env 2 (Sample.second 60)) (.family 1 (.createInvite 1 ⟨"parent", none⟩)),
    .start (Sample.env 3 (Sample.second 120))
      (.auth (.signup (Sample.signup "bob@example.org" (some "code-2")))),
    .start (Sample.env 4 (Sample.second 120))
      (.auth (.signup (Sample.signup "eve@example.org" (some "code-2")))),
    .finish (Sample.env 3 (Sample.second 121)) 0,
    .finish (Sample.env 4 (Sample.second 121)) 0], by decide +kernel, by decide +kernel,
    by decide +kernel⟩
