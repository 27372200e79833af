import Accounts.Invites

/-!
# The life of an invite

An invite is pending until it is redeemed, and gone once it is deleted:
`InviteStatus` is that automaton, and its histories are the four there can
be. Every run of the service refines it (`invite_history`): what the
answers tell about one invite is a history of the automaton, and the
table of invites shows where it ended.

What the service does with a code then follows from the history alone. A
signup is let in while the invite is pending and not expired, and the
listing shows the invite for as long.
-/

open Repository

variable {P : Platform} {env : Env} {d d' : Database} {t t' : List FamilyInvite}

/-! ## The automaton -/

/-- Where an invite is in its life. -/
inductive InviteStatus where
  /-- It can be redeemed. -/
  | pending
  /-- It was redeemed. -/
  | accepted
  /-- There is no such invite. -/
  | gone
deriving DecidableEq

/-- What happens to an invite. -/
inductive InviteEvent where
  /-- It is redeemed. -/
  | redeemed
  /-- It is deleted. -/
  | revoked
deriving DecidableEq

namespace InviteStatus

/-- What can happen next: a pending invite is redeemed, and an invite that
is there is deleted. -/
def step : InviteStatus → InviteEvent → Option InviteStatus
  | pending, .redeemed => some accepted
  | pending, .revoked => some gone
  | accepted, .revoked => some gone
  | accepted, .redeemed => none
  | gone, _ => none

variable {s : InviteStatus} {events : List InviteEvent}

/-- Nothing happens to an invite that is gone. -/
theorem history_gone (h : events.foldlM step gone = some s) : events = [] ∧ s = gone := by
  cases events with
  | nil => exact ⟨rfl, (Option.some.inj h).symm⟩
  | cons e events => cases e <;> cases h

/-- An accepted invite can only be deleted. -/
theorem history_accepted (h : events.foldlM step accepted = some s) :
    (events = [] ∧ s = accepted) ∨ (events = [.revoked] ∧ s = gone) := by
  cases events with
  | nil => exact Or.inl ⟨rfl, (Option.some.inj h).symm⟩
  | cons e events =>
    cases e with
    | redeemed => cases h
    | revoked =>
      obtain ⟨rfl, rfl⟩ := history_gone h
      exact Or.inr ⟨rfl, rfl⟩

/-- **The four lives of an invite.** -/
theorem history_pending (h : events.foldlM step pending = some s) :
    (events = [] ∧ s = pending) ∨ (events = [.revoked] ∧ s = gone) ∨
      (events = [.redeemed] ∧ s = accepted) ∨ (events = [.redeemed, .revoked] ∧ s = gone) := by
  cases events with
  | nil => exact Or.inl ⟨rfl, (Option.some.inj h).symm⟩
  | cons e events =>
    cases e with
    | redeemed =>
      rcases history_accepted h with ⟨rfl, rfl⟩ | ⟨rfl, rfl⟩
      · exact Or.inr (Or.inr (Or.inl ⟨rfl, rfl⟩))
      · exact Or.inr (Or.inr (Or.inr ⟨rfl, rfl⟩))
    | revoked =>
      obtain ⟨rfl, rfl⟩ := history_gone h
      exact Or.inr (Or.inl ⟨rfl, rfl⟩)

/-- **An invite is pending exactly when it was neither redeemed nor
deleted.** -/
theorem pending_iff (h : events.foldlM step pending = some s) :
    s = pending ↔ InviteEvent.redeemed ∉ events ∧ InviteEvent.revoked ∉ events := by
  rcases history_pending h with ⟨rfl, rfl⟩ | ⟨rfl, rfl⟩ | ⟨rfl, rfl⟩ | ⟨rfl, rfl⟩ <;> decide

/-- **An invite is redeemed at most once.** -/
theorem redeemed_once (h : events.foldlM step pending = some s) :
    events.count .redeemed ≤ 1 := by
  rcases history_pending h with ⟨rfl, -⟩ | ⟨rfl, -⟩ | ⟨rfl, -⟩ | ⟨rfl, -⟩ <;> decide

end InviteStatus

/-! ## The invite in the table -/

/-- **Where the invite with an identifier is**, as the table shows it. -/
def inviteStatus (id : UUID) (t : List FamilyInvite) : InviteStatus :=
  match t.find? (fun r => r.id = id) with
  | none => .gone
  | some r => if r.acceptedAt = none then .pending else .accepted

section Status

variable {id : UUID}

theorem inviteStatus_of_mem (hkey : Table.Unique (fun r => some (FamilyInvite.id r)) t)
    {r : FamilyInvite} (hr : r ∈ t) :
    inviteStatus r.id t = if r.acceptedAt = none then .pending else .accepted := by
  rw [inviteStatus, hkey.find?_eq_some_iff.mpr ⟨hr, rfl⟩]

theorem inviteStatus_eq_gone (h : ∀ r ∈ t, r.id ≠ id) : inviteStatus id t = .gone := by
  rw [inviteStatus, List.find?_eq_none.mpr (fun r hr => by simpa using h r hr)]

/-- The status depends on the rows with the identifier only. -/
theorem inviteStatus_congr (hkey : Table.Unique (fun r => some (FamilyInvite.id r)) t')
    (h : ∀ r : FamilyInvite, r.id = id → (r ∈ t' ↔ r ∈ t)) :
    inviteStatus id t' = inviteStatus id t := by
  cases hf : t.find? (fun r => r.id = id) with
  | none =>
    have hno : ∀ r ∈ t, r.id ≠ id := by simpa using List.find?_eq_none.mp hf
    rw [inviteStatus_eq_gone hno,
      inviteStatus_eq_gone (fun r hr hid => hno r ((h r hid).mp hr) hid)]
  | some r =>
    obtain rfl : r.id = id := by simpa using List.find?_some hf
    rw [inviteStatus_of_mem hkey ((h r rfl).mpr (List.mem_of_find?_eq_some hf)), inviteStatus, hf]

/-- A pending invite is there, and unaccepted. -/
theorem inviteStatus_eq_pending_iff (hkey : Table.Unique (fun r => some (FamilyInvite.id r)) t) :
    inviteStatus id t = .pending ↔ ∃ r ∈ t, r.id = id ∧ r.acceptedAt = none := by
  constructor
  · intro h
    unfold inviteStatus at h
    split at h
    · cases h
    · next r hf =>
      refine ⟨r, List.mem_of_find?_eq_some hf, by simpa using List.find?_some hf, ?_⟩
      by_contra hacc
      rw [if_neg hacc] at h
      cases h
  · rintro ⟨r, hr, rfl, hacc⟩
    rw [inviteStatus_of_mem hkey hr, if_pos hacc]

end Status

/-! ## The steps are those of the automaton -/

/-- **Only the columns a redemption sets differ.** -/
def FamilyInvite.Agrees (r invite : FamilyInvite) : Prop :=
  r = { invite with acceptedAt := r.acceptedAt, updatedAt := r.updatedAt }

namespace FamilyInvite.Agrees

variable {r invite : FamilyInvite}

theorem refl (r : FamilyInvite) : r.Agrees r := rfl

theorem id (h : r.Agrees invite) : r.id = invite.id := by rw [h]

theorem familyId (h : r.Agrees invite) : r.familyId = invite.familyId := by rw [h]

theorem codeHash (h : r.Agrees invite) : r.codeHash = invite.codeHash := by rw [h]

theorem role (h : r.Agrees invite) : r.role = invite.role := by rw [h]

theorem expiresAt (h : r.Agrees invite) : r.expiresAt = invite.expiresAt := by rw [h]

theorem accept (h : r.Agrees invite) (now : Datetime) : (r.accept now).Agrees invite := by
  unfold FamilyInvite.accept
  split
  · exact h
  · exact h ▸ rfl

end FamilyInvite.Agrees

/-- What an action is to one invite. -/
def InviteAction.event (invite : FamilyInvite) : InviteAction → Option InviteEvent
  | created _ => none
  | revoked id => if id = invite.id then some .revoked else none
  | redeemed codeHash => if codeHash = invite.codeHash then some .redeemed else none

/-- What an answered request is to one invite. -/
def inviteEvent (P : Platform) (invite : FamilyInvite)
    (p : (Env × Request) × Except Exn Response) : Option InviteEvent :=
  (inviteAction P p).bind (InviteAction.event invite)

/-- **The row with the identifier, or the digest, of an invite is the
invite.** -/
def Known (invite : FamilyInvite) (t : List FamilyInvite) : Prop :=
  ∀ r ∈ t, r.id = invite.id ∨ r.codeHash = invite.codeHash → r.Agrees invite

section Step

variable {invite : FamilyInvite} {a : Option InviteAction}

/-- Other invites may be created. -/
theorem Known.step (h : Known invite t) (hs : InviteStep P env t a t')
    (hid : env.newId .familyInvite ≠ invite.id)
    (hcode : P.sha256 env.code ≠ invite.codeHash) : Known invite t' := by
  cases hs with
  | same => exact h
  | created hid' hhash hopen =>
    intro r hr hk
    rcases Table.mem_insert.mp hr with hr | rfl
    · exact h r hr hk
    · exact (hk.elim (fun h => hid (hid'.symm.trans h)) (fun h => hcode (hhash.symm.trans h))).elim
  | revoked hr => exact fun r hr hk => h r (Table.mem_delete.mp hr).1 hk
  | accepted hcur hactive =>
    intro r hr hk
    rcases Table.mem_replace.mp hr with ⟨rfl, -⟩ | ⟨hr, -⟩
    · rw [FamilyInvite.accept_id, FamilyInvite.accept_codeHash] at hk
      exact (h _ hcur hk).accept _
    · exact h r hr hk

/-- **A step of the table is a step of the automaton**, or is about another
invite. -/
theorem InviteStep.status (hs : InviteStep P env t a t')
    (hkey : Table.Unique (fun r => some (FamilyInvite.id r)) t)
    (hkey' : Table.Unique (fun r => some (FamilyInvite.id r)) t') (h : Known invite t)
    (hid : env.newId .familyInvite ≠ invite.id) :
    (a.bind (InviteAction.event invite)).elim (some (inviteStatus invite.id t))
      (inviteStatus invite.id t).step = some (inviteStatus invite.id t') := by
  cases hs with
  | same => rfl
  | @created r hid' hhash hopen =>
    refine congrArg some (inviteStatus_congr hkey' (fun x hx => ?_)).symm
    rw [Table.mem_insert]
    exact or_iff_left (fun hxr => hid (hid'.symm.trans (hxr ▸ hx)))
  | @revoked r hr =>
    by_cases hri : r.id = invite.id
    · have hgone : inviteStatus invite.id (Table.delete FamilyInvite.id r.id t) = .gone :=
        inviteStatus_eq_gone (fun x hx => hri ▸ (Table.mem_delete.mp hx).2)
      rw [Option.bind_some, InviteAction.event, if_pos hri, hgone, ← hri,
        inviteStatus_of_mem hkey hr]
      split <;> rfl
    · rw [Option.bind_some, InviteAction.event, if_neg hri]
      refine congrArg some (inviteStatus_congr hkey' (fun x hx => ?_)).symm
      rw [Table.mem_delete]
      exact and_iff_left (fun hxr => hri (hxr.symm.trans hx))
  | @accepted cur hcur hactive =>
    by_cases hci : cur.codeHash = invite.codeHash
    · have hcid : cur.id = invite.id := (h cur hcur (Or.inr hci)).id
      have hnew : cur.accept env.now ∈ Table.replace FamilyInvite.id (cur.accept env.now) t :=
        Table.mem_replace.mpr (Or.inl ⟨rfl, cur, hcur, (cur.accept_id _).symm⟩)
      have hafter := inviteStatus_of_mem hkey' hnew
      rw [FamilyInvite.accept_acceptedAt, if_neg (Option.some_ne_none _), FamilyInvite.accept_id,
        hcid] at hafter
      rw [Option.bind_some, InviteAction.event, if_pos hci, hafter, ← hcid,
        inviteStatus_of_mem hkey hcur, if_pos (FamilyInvite.isActive_iff.mp hactive).1]
      rfl
    · have hcid : cur.id ≠ invite.id :=
        fun hk => hci (h cur hcur (Or.inl hk)).codeHash
      rw [Option.bind_some, InviteAction.event, if_neg hci]
      refine congrArg some (inviteStatus_congr hkey' (fun x hx => ?_)).symm
      rw [Table.mem_replace, FamilyInvite.accept_id]
      constructor
      · rintro (⟨rfl, -⟩ | ⟨hxt, -⟩)
        · exact absurd ((cur.accept_id _).symm.trans hx) hcid
        · exact hxt
      · exact fun hxt => Or.inr ⟨hxt, fun hxc => hcid (hxc.symm.trans hx)⟩

/-- The step that creates an invite inserts it. -/
theorem InviteStep.created_eq (hs : InviteStep P env t (some (.created invite)) t') :
    t' = Table.insert t invite := by
  cases hs
  rfl

end Step

/-- The request draws neither the identifier nor the code of the invite. -/
def DrawsOther (P : Platform) (invite : FamilyInvite) (i : Env × Request) : Prop :=
  i.1.newId .familyInvite ≠ invite.id ∧ P.sha256 i.1.code ≠ invite.codeHash

/-- **Runs refine the automaton.** In a run that does not draw the
invite's identifier and code again, what the answers tell about the invite
is a history of the automaton, from where the invite was to where it is. -/
theorem invite_history {invite : FamilyInvite} {run : List (Env × Request)}
    (h : Known invite d.invites) (hrun : ∀ i ∈ run, DrawsOther P invite i) :
    (((service P).trace d run).filterMap (inviteEvent P invite)).foldlM InviteStatus.step
        (inviteStatus invite.id d.invites)
      = some (inviteStatus invite.id ((service P).run d run).invites) :=
  (service P).refinement_run (fun d => Known invite d.invites)
    (fun d => inviteStatus invite.id d.invites) (inviteEvent P invite) InviteStatus.step
    (fun d i h hi => h.step (inviteStep_serve P i.1 i.2 d) hi.1 hi.2)
    (fun d i h hi => (inviteStep_serve P i.1 i.2 d).status d.inviteKey
      (Store.inviteKey _) h hi.1) h ((service P).every_of_forall d hrun)

theorem Known.run {invite : FamilyInvite} {run : List (Env × Request)} (h : Known invite d.invites)
    (hrun : ∀ i ∈ run, DrawsOther P invite i) : Known invite ((service P).run d run).invites :=
  (service P).run_invariant (fun d => Known invite d.invites)
    (fun d i h hi => h.step (inviteStep_serve P i.1 i.2 d) hi.1 hi.2) h
    ((service P).every_of_forall d hrun)

/-! ## Created invites -/

/-- **What a run draws for invites is new**: no identifier and no code twice.
The digests are compared, so this is also where collisions are excluded. -/
structure FreshInvites (P : Platform) (run : List (Env × Request)) : Prop where
  /-- New identifiers. -/
  ids : (run.map (fun i => i.1.newId .familyInvite)).Nodup
  /-- New codes. -/
  codes : (run.map (fun i => P.sha256 i.1.code)).Nodup

instance (P : Platform) (run : List (Env × Request)) : Decidable (FreshInvites P run) :=
  decidable_of_iff ((run.map (fun i => i.1.newId .familyInvite)).Nodup
    ∧ (run.map (fun i => P.sha256 i.1.code)).Nodup)
    ⟨fun ⟨h₁, h₂⟩ => ⟨h₁, h₂⟩, fun h => ⟨h.ids, h.codes⟩⟩

/-- The answered requests of a run from the empty database. -/
abbrev answered (P : Platform) (run : List (Env × Request)) :
    List ((Env × Request) × Except Exn Response) :=
  (service P).trace (Store.empty schema) run

/-- The database a run from the empty one reaches. -/
abbrev reached (P : Platform) (run : List (Env × Request)) : Database :=
  (service P).run (Store.empty schema) run

/-- **What the answers of a run tell about an invite.** -/
def inviteHistory (P : Platform) (invite : FamilyInvite) (run : List (Env × Request)) :
    List InviteEvent :=
  (answered P run).filterMap (inviteEvent P invite)

/-- **An answered creation**, of an invite of a family. -/
def Creates (P : Platform) (run : List (Env × Request)) (f : UUID) (i : InviteResponse)
    (invite : FamilyInvite) : Prop :=
  ∃ env createdBy body,
    ((env, .family f (.createInvite createdBy body)), .ok (.invite i)) ∈ answered P run ∧
      invite = InviteService.newInvite P env f createdBy body i.expiresAt

section Created

variable {run : List (Env × Request)} {f : UUID} {i : InviteResponse} {invite : FamilyInvite}

/-- What is known of the answer: the invite's code, role and expiry. -/
theorem Creates.response (h : Creates P run f i invite) :
    invite.codeHash = P.sha256 i.code ∧ invite.role = i.role ∧
      invite.expiresAt = i.expiresAt ∧ invite.familyId = f ∧ invite.acceptedAt = none ∧
      i.id = invite.id.str := by
  obtain ⟨env, createdBy, body, hmem, rfl⟩ := h
  obtain ⟨js, ks, -, hans⟩ := (service P).mem_trace hmem
  obtain ⟨s', hret, -⟩ := Tx.serve_ok_iff.mp
    (show serve P env (.family f (.createInvite createdBy body)) (reached P js)
        = (.ok (.invite i), _)
      from Prod.ext hans.symm rfl)
  obtain ⟨a, h₁, ha⟩ := Tx.returns_bind_pure.mp hret
  obtain rfl := Response.invite.inj ha
  obtain ⟨-, hi, -⟩ := InviteService.create_returns h₁
  refine ⟨?_, ?_, rfl, rfl, rfl, ?_⟩ <;> rw [hi] <;> rfl

/-- **A created invite lives one of the four lives**, whatever the rest of
the run is. -/
theorem Creates.history (h : Creates P run f i invite) (hfresh : FreshInvites P run) :
    (inviteHistory P invite run).foldlM InviteStatus.step .pending
      = some (inviteStatus invite.id (reached P run).invites) ∧
    Known invite (reached P run).invites := by
  have hopen := h.response.2.2.2.2.1
  obtain ⟨env, createdBy, body, hmem, hinvite⟩ := h
  obtain ⟨js, ks, rfl, hans⟩ := (service P).mem_trace hmem
  have hother : ∀ x ∈ js ++ ks, DrawsOther P invite x := by
    have hids := hfresh.ids
    have hcodes := hfresh.codes
    rw [List.map_append, List.map_cons, List.nodup_middle, ← List.map_append,
      List.nodup_cons] at hids hcodes
    intro x hx
    rw [hinvite]
    exact ⟨fun hid => hids.1 (List.mem_map.mpr ⟨x, hx, hid⟩),
      fun hcode => hcodes.1 (List.mem_map.mpr ⟨x, hx, hcode⟩)⟩
  have hbefore := fun x hx => hother x (List.mem_append_left _ hx)
  have hafter := fun x hx => hother x (List.mem_append_right _ hx)
  -- before it is created there is no such invite, and nothing happens to it
  have hempty : Known invite (Database.invites (Store.empty schema)) := by rintro r ⟨⟩
  obtain ⟨hevents, -⟩ := InviteStatus.history_gone (invite_history hempty hbefore)
  -- the creation
  have hcreated : ((service P).next (reached P js)
      (env, .family f (.createInvite createdBy body))).invites
        = Table.insert (reached P js).invites invite := by
    have hstep := inviteStep_serve P env (.family f (.createInvite createdBy body)) (reached P js)
    rw [show (serve P env (.family f (.createInvite createdBy body)) (reached P js)).1
      = .ok (.invite i) from hans.symm, inviteAction, ← hinvite] at hstep
    exact hstep.created_eq
  have hknown : Known invite ((service P).next (reached P js)
      (env, .family f (.createInvite createdBy body))).invites := by
    rw [hcreated]
    intro r hr hk
    rcases Table.mem_insert.mp hr with hr | rfl
    · exact hempty.run hbefore r hr hk
    · exact .refl _
  have hpending : inviteStatus invite.id ((service P).next (reached P js)
      (env, .family f (.createInvite createdBy body))).invites = .pending := by
    rw [inviteStatus_of_mem (Store.inviteKey _) (hcreated ▸ Table.mem_insert.mpr (Or.inr rfl)),
      if_pos hopen]
  -- and what happens to it afterwards
  have hhistory := invite_history hknown hafter
  rw [hpending] at hhistory
  have hsplit : inviteHistory P invite (js ++ (env, .family f (.createInvite createdBy body)) :: ks)
      = ((service P).trace ((service P).next (reached P js)
          (env, .family f (.createInvite createdBy body))) ks).filterMap
            (inviteEvent P invite) := by
    rw [inviteHistory, answered, Process.trace_append, List.filterMap_append, hevents,
      List.nil_append, Process.trace, ← hans]
    exact List.filterMap_cons_none rfl
  have hreach : reached P (js ++ (env, .family f (.createInvite createdBy body)) :: ks)
      = (service P).run ((service P).next (reached P js)
          (env, .family f (.createInvite createdBy body))) ks :=
    Process.run_append ..
  rw [hsplit, hreach]
  exact ⟨hhistory, hknown.run hafter⟩

/-- What was created in a run was created in any longer one. -/
theorem Creates.append (h : Creates P run f i invite) (rest : List (Env × Request)) :
    Creates P (run ++ rest) f i invite := by
  obtain ⟨env, createdBy, body, hmem, rfl⟩ := h
  refine ⟨env, createdBy, body, ?_, rfl⟩
  rw [answered, Process.trace_append]
  exact List.mem_append_left _ hmem

/-- Only a creation is told as one. -/
theorem inviteAction_eq_created {p : (Env × Request) × Except Exn Response}
    (h : inviteAction P p = some (.created invite)) :
    ∃ env f createdBy body i,
      p = ((env, .family f (.createInvite createdBy body)), .ok (.invite i)) ∧
      invite = InviteService.newInvite P env f createdBy body i.expiresAt := by
  unfold inviteAction at h
  split at h
  · cases h
    exact ⟨_, _, _, _, _, rfl, rfl⟩
  · cases h
  · obtain ⟨code, -, hcode⟩ := Option.bind_eq_some_iff.mp h
    obtain ⟨codeHash, -, hredeemed⟩ := Option.map_eq_some_iff.mp hcode
    cases hredeemed
  · cases h

/-- **Every invite there is was created in the run.** -/
theorem reached_created (P : Platform) (run : List (Env × Request)) :
    ∀ r ∈ (reached P run).invites, ∃ f i invite, Creates P run f i invite ∧ r.Agrees invite := by
  refine (service P).history_invariant (P := fun _ _ => True)
    (fun run d => ∀ r ∈ d.invites, ∃ f i invite, Creates P run f i invite ∧ r.Agrees invite)
    (by rintro r ⟨⟩) (fun is x ih _ r hr => ?_) ((service P).every_of_forall _ (fun _ _ => trivial))
  have hstep := inviteStep_serve P x.1 x.2 (reached P is)
  have hold : ∀ r ∈ (reached P is).invites, ∃ f i invite,
      Creates P (is ++ [x]) f i invite ∧ r.Agrees invite := fun r hr => by
    obtain ⟨f, i, invite, hc, ha⟩ := ih r hr
    exact ⟨f, i, invite, hc.append [x], ha⟩
  generalize hact : inviteAction P ((x.1, x.2), (serve P x.1 x.2 (reached P is)).1) = a at hstep
  change r ∈ (serve P x.1 x.2 (reached P is)).2.invites at hr
  generalize (serve P x.1 x.2 (reached P is)).2.invites = t' at hstep hr
  cases hstep with
  | same => exact hold r hr
  | @created new hid hhash hopen =>
    rcases Table.mem_insert.mp hr with hr | rfl
    · exact hold r hr
    · obtain ⟨env, f, createdBy, body, i, hp, hnew⟩ := inviteAction_eq_created hact
      refine ⟨f, i, r, ⟨env, createdBy, body, ?_, hnew⟩, .refl r⟩
      rw [answered, Process.trace_append]
      exact List.mem_append_right _ (List.mem_singleton.mpr hp.symm)
  | revoked hr' => exact hold r (Table.mem_delete.mp hr).1
  | @accepted cur hcur hactive =>
    rcases Table.mem_replace.mp hr with ⟨rfl, -⟩ | ⟨hr, -⟩
    · obtain ⟨f, i, invite, hc, ha⟩ := hold cur hcur
      exact ⟨f, i, invite, hc, ha.accept _⟩
    · exact hold r hr

/-- An accepted invite stays accepted as it was, in a run that does not
draw its identifier again. -/
theorem accepted_run {r : FamilyInvite} (hacc : r.acceptedAt ≠ none)
    (h : ∀ x ∈ d.invites, x.id = r.id → x.acceptedAt = r.acceptedAt)
    (hrun : ∀ i ∈ run, i.1.newId .familyInvite ≠ r.id) :
    ∀ x ∈ ((service P).run d run).invites, x.id = r.id → x.acceptedAt = r.acceptedAt := by
  refine (service P).run_invariant
    (fun d => ∀ x ∈ d.invites, x.id = r.id → x.acceptedAt = r.acceptedAt)
    (fun d i ih hi x hx hid => ?_) h ((service P).every_of_forall d hrun)
  obtain ⟨a, hstep⟩ : ∃ a, InviteStep P i.1 d.invites a (serve P i.1 i.2 d).2.invites :=
    ⟨_, inviteStep_serve P i.1 i.2 d⟩
  change x ∈ (serve P i.1 i.2 d).2.invites at hx
  generalize (serve P i.1 i.2 d).2.invites = t' at hstep hx
  cases hstep with
  | same => exact ih x hx hid
  | created hid' hhash hopen =>
    rcases Table.mem_insert.mp hx with hx | rfl
    · exact ih x hx hid
    · exact absurd (hid'.symm.trans hid) hi
  | revoked hr => exact ih x (Table.mem_delete.mp hx).1 hid
  | @accepted cur hcur hactive =>
    rcases Table.mem_replace.mp hx with ⟨rfl, -⟩ | ⟨hx, -⟩
    · rw [FamilyInvite.accept_id] at hid
      exact absurd ((ih cur hcur hid).symm.trans (FamilyInvite.isActive_iff.mp hactive).1) hacc
    · exact ih x hx hid

/-- **`accepted_at`, once set, never changes.** -/
theorem accepted_stays {before after : List (Env × Request)}
    (hfresh : FreshInvites P (before ++ after)) {r r' : FamilyInvite}
    (hr : r ∈ (reached P before).invites) (hr' : r' ∈ (reached P (before ++ after)).invites)
    (hid : r'.id = r.id) (hacc : r.acceptedAt ≠ none) : r'.acceptedAt = r.acceptedAt := by
  obtain ⟨f, i, invite, ⟨env, createdBy, body, hmem, rfl⟩, ha⟩ := reached_created P before r hr
  obtain ⟨js, ks, hbefore, -⟩ := (service P).mem_trace hmem
  have hdrawn : ∀ x ∈ after, x.1.newId .familyInvite ≠ r.id := by
    have hids := hfresh.ids
    rw [List.map_append, List.nodup_append] at hids
    intro x hx hx'
    refine hids.2.2 _ (List.mem_map_of_mem (?_ : (env, .family f (.createInvite createdBy body)) ∈
      before)) _ (List.mem_map_of_mem hx) (ha.id.symm.trans hx'.symm)
    rw [hbefore]
    exact List.mem_append_right _ List.mem_cons_self
  rw [reached, Process.run_append] at hr'
  refine accepted_run hacc (fun x hx hxr => ?_) hdrawn r' hr' hid
  rw [Store.inviteKey _ |>.eq hx hr rfl (congrArg some hxr.symm)]

end Created

/-! ## Signing up through an invite -/

/-- Accepting an invite uses up nothing that is drawn. -/
theorem Env.Fresh.accept (hf : env.Fresh P d) {cur : FamilyInvite} (hcur : cur ∈ d.invites)
    (hd : d'.rows = schema.replace .familyInvite (cur.accept env.now) d.rows) : env.Fresh P d' := by
  have hrows : ∀ T, T ≠ .familyInvite → d'.rows T = d.rows T :=
    fun T hT => by rw [hd, Schema.replace_of_ne hT]
  have htokens : d'.refreshTokens = d.refreshTokens := hrows .refreshToken (by simp)
  have hinvites : ∀ x ∈ d'.invites, ∃ y ∈ d.invites, x.id = y.id ∧ x.codeHash = y.codeHash := by
    intro x hx
    rw [Database.invites, hd, Schema.replace_self] at hx
    rcases Table.mem_replace.mp hx with ⟨rfl, -⟩ | ⟨hx, -⟩
    · exact ⟨cur, hcur, cur.accept_id _, cur.accept_codeHash _⟩
    · exact ⟨x, hx, rfl, rfl⟩
  refine ⟨fun T r hr => ?_, fun r hr => hf.session r ?_, fun r hr => hf.token r ?_, fun r hr => ?_⟩
  · by_cases hT : T = .familyInvite
    · subst hT
      obtain ⟨y, hy, hid, -⟩ := hinvites r hr
      exact fun h => hf.id .familyInvite y hy (hid.symm.trans h)
    · exact hf.id T r (hrows T hT ▸ hr)
  · exact htokens ▸ hr
  · exact htokens ▸ hr
  · obtain ⟨y, hy, -, hcode⟩ := hinvites r hr
    exact hcode ▸ hf.code y hy

/-- **A member of a stored family, with an unused email, can be
registered** – as long as both tokens expire before the calendar ends. -/
theorem AuthService.register_ok (hid : ∀ x ∈ d.members, x.id ≠ env.newId .familyMember)
    (htokenId : ∀ x ∈ d.refreshTokens, x.id ≠ env.newId .refreshToken)
    (htoken : ∀ x ∈ d.refreshTokens, x.tokenHash ≠ RefreshTokenCodec.hash P env.token)
    (body : SignupRequest) {f : UUID} (hfam : f ∈ d.families.map Family.id)
    (hemail : ∀ m ∈ d.members, m.email ≠ some body.email)
    {access : String} {exp : Datetime} (role : String) (isPrimary : Bool) (committed : Database)
    (haccess : TokenService.issue P env f.str (env.newId .familyMember).str = .ok access)
    (hexp : env.now.plusSeconds P.settings.refreshTtlSeconds = some exp) :
    ∃ a s', (register P env body f role isPrimary).Returns ⟨committed, d⟩ a s' := by
  -- the member
  have hmember : schema.Consistent
      (Schema.insert .familyMember (newMember P env body f role isPrimary) d.rows) := by
    refine (Schema.consistent_insert_iff d.consistent).mpr ⟨hid,
      fun u hu k hk x hx => ?_, fun p hp k hk => ?_⟩
    · obtain rfl := List.mem_singleton.mp hu
      obtain rfl := Option.some.inj hk
      intro h
      obtain ⟨email, hx', hemail'⟩ := Option.map_eq_some_iff.mp h
      exact hemail x hx (hx'.trans (congrArg some (Sum.inr.inj hemail')))
    · obtain rfl := List.mem_singleton.mp hp
      obtain rfl := Option.some.inj hk
      exact hfam
  -- the token
  have hissue : schema.Consistent (Schema.insert .refreshToken
      (RefreshTokenService.newToken P env f (env.newId .familyMember) env.sessionId exp)
      (Schema.insert .familyMember (newMember P env body f role isPrimary) d.rows)) := by
    refine RefreshTokenService.newToken_consistent hmember (fun x hx => ?_) (fun x hx => ?_) ?_ ?_
      env.sessionId exp
    · rw [Schema.insert_of_ne (by simp)] at hx
      exact htokenId x hx
    · rw [Schema.insert_of_ne (by simp)] at hx
      exact htoken x hx
    · rw [Schema.insert_of_ne (by simp)]
      exact hfam
    · rw [Schema.insert_self]
      exact List.mem_map.mpr ⟨_, Table.mem_insert.mpr (Or.inr rfl), rfl⟩
  exact ⟨_, _, register_returns.mpr ⟨⟨_, hmember⟩, rfl,
    issueTokens_returns.mpr ⟨access, exp, haccess, hexp, rfl, ⟨_, hissue⟩, rfl, rfl⟩⟩⟩

/-- Both tokens issued at a time expire before the calendar ends. -/
def TokensExpire (P : Platform) (now : Datetime) : Prop :=
  (now.plusSeconds P.settings.jwtTtlSeconds).isSome ∧
    (now.plusSeconds P.settings.refreshTtlSeconds).isSome

instance (P : Platform) (now : Datetime) : Decidable (TokensExpire P now) :=
  inferInstanceAs (Decidable (_ ∧ _))

/-- **When a signup with a code and an unused email succeeds.** -/
theorem AuthService.signup_ok_iff (hf : env.Fresh P d) {body : SignupRequest} {code : Py.Text}
    (hcode : body.inviteCode = some code) (hemail : ∀ m ∈ d.members, m.email ≠ some body.email) :
    (∃ a, (serve P env (.auth (.signup body)) d).1 = .ok (.tokens a)) ↔
      (∃ i ∈ d.invites, i.isActive env.now = true ∧ InviteCodec.hash P code = .ok i.codeHash) ∧
        TokensExpire P env.now := by
  constructor
  · rintro ⟨a, ha⟩
    obtain ⟨s', hret, -⟩ := Tx.serve_ok_iff.mp
      (show serve P env (.auth (.signup body)) d = (.ok (.tokens a), _) from Prod.ext ha rfl)
    obtain ⟨a', s₁, hsignup, -⟩ := Tx.returns_bind.mp hret
    obtain ⟨invite, hbegin, hfinish⟩ := signup_returns.mp hsignup
    rcases (beginSignup_returns.mp hbegin).2.2 with ⟨hnone, -⟩ | ⟨c, i, hc, hi, hactive, hhash, hfl⟩
    · rw [hcode] at hnone
      cases hnone
    · cases hfl
      rw [hcode] at hc
      cases hc
      obtain ⟨cur, -, d₁, -, hreg⟩ := finishSignup_some_returns.mp hfinish
      obtain ⟨d₂, -, hissue⟩ := register_returns.mp hreg
      obtain ⟨access, exp, haccess, hexp, -⟩ := issueTokens_returns.mp hissue
      exact ⟨⟨i, hi, hactive, hhash⟩, TokenService.issue_ok_iff.mp ⟨access, haccess⟩,
        Option.isSome_iff_exists.mpr ⟨exp, hexp⟩⟩
  · rintro ⟨⟨i, hi, hactive, hhash⟩, hjwt, hrefresh⟩
    obtain ⟨exp, hexp⟩ := Option.isSome_iff_exists.mp hrefresh
    obtain ⟨access, haccess⟩ := TokenService.issue_ok_iff.mpr hjwt
    have hfam : i.familyId ∈ d.families.map Family.id :=
      d.consistent.reference .familyInvite (.family, fun r => some r.familyId) List.mem_cons_self i
        hi _ rfl
    -- the database with the invite accepted
    let d₁ : Database := ⟨_, d.consistent.replace hi (i.accept_sameKeys env.now)⟩
    have hd₁ : d₁.rows = schema.replace .familyInvite (i.accept env.now) d.rows := rfl
    have hf₁ := hf.accept hi hd₁
    obtain ⟨a, s', hreg⟩ := register_ok (hf₁.id .familyMember) (hf₁.id .refreshToken) hf₁.token body
      (f := i.familyId) (by rw [Database.families, hd₁, Schema.replace_of_ne (by simp)]; exact hfam)
      (by rw [Database.members, hd₁, Schema.replace_of_ne (by simp)]; exact hemail)
      i.role false d haccess hexp
    have hsignup : (signup P env body).Returns ⟨d, d⟩ a s' :=
      signup_returns.mpr ⟨some i, beginSignup_returns.mpr ⟨hemail, rfl,
        Or.inr ⟨code, i, hcode, hi, hactive, hhash, rfl⟩⟩,
        finishSignup_some_returns.mpr ⟨i, Store.find_eq_some_iff.mpr ⟨hi, rfl⟩, d₁, hd₁, hreg⟩⟩
    have hrun : ((AuthOp.signup body).run P env).Returns ⟨d, d⟩ (.tokens a) s' :=
      Tx.returns_bind.mpr ⟨a, s', hsignup, Tx.returns_pure.mpr ⟨rfl, rfl⟩⟩
    exact ⟨a, congrArg Prod.fst (Tx.serve_ok_iff.mpr ⟨s', hrun, rfl⟩)⟩

/-- **Whom a signup with a code adds**: a member of the invite's family, in
the invite's role; and no family. -/
theorem AuthService.signup_joins {body : SignupRequest} {code : Py.Text} {response : Response}
    (hcode : body.inviteCode = some code)
    (h : serve P env (.auth (.signup body)) d = (.ok response, d')) :
    ∃ i ∈ d.invites, InviteCodec.hash P code = .ok i.codeHash ∧
      d'.members = Table.insert d.members (newMember P env body i.familyId i.role false) ∧
      d'.families = d.families := by
  obtain ⟨s', hret, rfl⟩ := Tx.serve_ok_iff.mp h
  obtain ⟨a, hsignup, -⟩ := Tx.returns_bind_pure.mp hret
  obtain ⟨invite, hbegin, hfinish⟩ := signup_returns.mp hsignup
  rcases (beginSignup_returns.mp hbegin).2.2 with ⟨hnone, -⟩ | ⟨c, i, hc, hi, -, hhash, hfl⟩
  · rw [hcode] at hnone
    cases hnone
  · cases hfl
    rw [hcode] at hc
    cases hc
    obtain ⟨cur, hcur, hid, -, hmembers, hfamilies⟩ := finishSignup_some_rows hfinish
    obtain rfl : cur = i := d.inviteKey.eq hcur hi rfl (congrArg some hid.symm)
    exact ⟨cur, hi, hhash, hmembers, hfamilies⟩

/-! ## The listing -/

/-- **What `InviteService.list` answers**: the active invites of the
family, by the time of their creation. -/
theorem InviteService.list_serve (P : Platform) (env : Env) (f : UUID) (d : Database) :
    serve P env (.family f .listInvites) d
      = (.ok (.invites (((d.invites.filter
          (fun r => r.isActive env.now && r.familyId = f)).insertionSort
          (fun a b => a.createdAt ≤ b.createdAt)).map FamilyInvite.dump)), d) := rfl

/-- An invite is listed exactly when it is an active one of the family. -/
theorem InviteService.mem_list {now : Datetime} {f id : UUID} :
    id ∈ (((d.invites.filter (fun r => r.isActive now && r.familyId = f)).insertionSort
        (fun a b => a.createdAt ≤ b.createdAt)).map FamilyInvite.dump).map InviteDump.id ↔
      ∃ r ∈ d.invites, r.id = id ∧ r.isActive now = true ∧ r.familyId = f := by
  simp only [List.map_map, List.mem_map, List.mem_insertionSort, List.mem_filter, Bool.and_eq_true,
    decide_eq_true_eq, Function.comp_apply, FamilyInvite.dump]
  constructor
  · rintro ⟨r, ⟨hr, hactive, hf⟩, hid⟩
    exact ⟨r, hr, hid, hactive, hf⟩
  · rintro ⟨r, hr, hid, hactive, hf⟩
    exact ⟨r, ⟨hr, hactive, hf⟩, hid⟩

/-! ## The result -/

/-- **An invite may be redeemed at a time**: in the run so far it was
neither redeemed nor revoked, and it has not expired. -/
def MayRedeem (P : Platform) (run : List (Env × Request)) (invite : FamilyInvite)
    (now : Datetime) : Prop :=
  InviteEvent.redeemed ∉ inviteHistory P invite run ∧
    InviteEvent.revoked ∉ inviteHistory P invite run ∧ ∀ e ∈ invite.expiresAt, now < e

instance (P : Platform) (run : List (Env × Request)) (invite : FamilyInvite) (now : Datetime) :
    Decidable (MayRedeem P run invite now) :=
  inferInstanceAs (Decidable (_ ∧ _ ∧ ∀ _ ∈ _, _))

/-- **An invite may be redeemed exactly when its row is active.** -/
theorem mayRedeem_iff {run : List (Env × Request)} {f : UUID} {i : InviteResponse}
    {invite : FamilyInvite} (h : Creates P run f i invite) (hfresh : FreshInvites P run)
    {now : Datetime} :
    MayRedeem P run invite now ↔
      ∃ r ∈ (reached P run).invites, r.Agrees invite ∧ r.isActive now = true := by
  obtain ⟨hhistory, hknown⟩ := h.history hfresh
  rw [MayRedeem, ← and_assoc, ← InviteStatus.pending_iff hhistory,
    inviteStatus_eq_pending_iff (Store.inviteKey _)]
  constructor
  · rintro ⟨⟨r, hr, hid, hacc⟩, hexp⟩
    have ha := hknown r hr (Or.inl hid)
    exact ⟨r, hr, ha, FamilyInvite.isActive_iff.mpr ⟨hacc, ha.expiresAt ▸ hexp⟩⟩
  · rintro ⟨r, hr, ha, hactive⟩
    obtain ⟨hacc, hexp⟩ := FamilyInvite.isActive_iff.mp hactive
    exact ⟨⟨r, hr, ha.id, hacc⟩, ha.expiresAt ▸ hexp⟩

/-- **The life of an invite.** After every serial run from the empty
database, of every invite the run has created for a family `f`:

* a signup with its code and an unused email succeeds exactly when the
  invite was neither redeemed nor revoked before and has not expired – and
  both tokens expire before the calendar ends;
* the member it adds is one of `f`, in the role of the invite, not primary,
  and no family is added;
* `accepted_at`, once set, never changes;
* it was redeemed at most once;
* it is among the invites listed for `f` exactly while it may be redeemed,
  and whatever is listed was created for `f`. -/
theorem invite_lifecycle (P : Platform) (run : List (Env × Request)) (hfresh : FreshInvites P run)
    (f : UUID) (i : InviteResponse) (invite : FamilyInvite) (hi : Creates P run f i invite) :
    (∀ env body, body.inviteCode = some (.ofString i.code) →
      (∀ m ∈ (reached P run).members, m.email ≠ some body.email) → env.Fresh P (reached P run) →
      ((∃ a, (serve P env (.auth (.signup body)) (reached P run)).1 = .ok (.tokens a)) ↔
        MayRedeem P run invite env.now ∧ TokensExpire P env.now)) ∧
    (∀ env body response d', body.inviteCode = some (.ofString i.code) →
      serve P env (.auth (.signup body)) (reached P run) = (.ok response, d') →
      d'.families = (reached P run).families ∧
      ∃ m : FamilyMember, d'.members = Table.insert (reached P run).members m ∧
        m.email = some body.email ∧ m.familyId = f ∧ m.role = i.role ∧ m.isPrimaryUser = false) ∧
    (∀ before after, run = before ++ after → ∀ r ∈ (reached P before).invites, r.id = invite.id →
      r.acceptedAt ≠ none → ∀ r' ∈ (reached P run).invites, r'.id = invite.id →
      r'.acceptedAt = r.acceptedAt) ∧
    (inviteHistory P invite run).count .redeemed ≤ 1 ∧
    ∀ env, ∃ rows, serve P env (.family f .listInvites) (reached P run)
        = (.ok (.invites rows), reached P run) ∧
      (invite.id ∈ rows.map InviteDump.id ↔ MayRedeem P run invite env.now) ∧
      ∀ x ∈ rows, ∃ i' invite', Creates P run f i' invite' ∧ x.id = invite'.id := by
  obtain ⟨hhash, hrole, -, hfam, -, -⟩ := hi.response
  obtain ⟨hhistory, hknown⟩ := hi.history hfresh
  -- a row with the digest of the code is the invite's
  have hrow : ∀ r ∈ (reached P run).invites,
      InviteCodec.hash P (.ofString i.code) = .ok r.codeHash → r.Agrees invite := by
    intro r hr h
    rw [InviteCodec.hash_ofString, Except.ok.injEq] at h
    exact hknown r hr (Or.inr (h.symm.trans hhash.symm))
  refine ⟨fun env body hcode hemail hf => ?_, fun env body response d' hcode hs => ?_,
    fun before after hrun r hr hid hacc r' hr' hid' => ?_, InviteStatus.redeemed_once hhistory,
    fun env => ?_⟩
  · rw [AuthService.signup_ok_iff hf hcode hemail, mayRedeem_iff hi hfresh]
    refine and_congr_left' ⟨?_, ?_⟩
    · rintro ⟨r, hr, hactive, h⟩
      exact ⟨r, hr, hrow r hr h, hactive⟩
    · rintro ⟨r, hr, ha, hactive⟩
      exact ⟨r, hr, hactive, by rw [InviteCodec.hash_ofString, ha.codeHash, hhash]⟩
  · obtain ⟨r, hr, h, hmembers, hfamilies⟩ := AuthService.signup_joins hcode hs
    have ha := hrow r hr h
    exact ⟨hfamilies, _, hmembers, rfl, ha.familyId.trans hfam, ha.role.trans hrole, rfl⟩
  · subst hrun
    exact accepted_stays hfresh hr hr' (hid'.trans hid.symm) hacc
  · refine ⟨_, InviteService.list_serve P env f _, ?_, fun x hx => ?_⟩
    · rw [InviteService.mem_list, mayRedeem_iff hi hfresh]
      constructor
      · rintro ⟨r, hr, hid, hactive, -⟩
        exact ⟨r, hr, hknown r hr (Or.inl hid), hactive⟩
      · rintro ⟨r, hr, ha, hactive⟩
        exact ⟨r, hr, ha.id, hactive, ha.familyId.trans hfam⟩
    · obtain ⟨r, hr, hid, -, hrf⟩ := InviteService.mem_list.mp (List.mem_map_of_mem hx)
      obtain ⟨f', i', invite', hc, ha⟩ := reached_created P run r hr
      have hf' : f' = f := hc.response.2.2.2.1.symm.trans (ha.familyId.symm.trans hrf)
      exact ⟨i', invite', hf' ▸ hc, hid.symm.trans ha.id⟩

/-- A run in which Ada signs up and, later, creates an invite that never
expires. -/
def Sample.invited (now : Datetime) : List (Env × Request) :=
  [(Sample.env 1 (Sample.second 0), .auth (.signup (Sample.signup "ada@example.org" none))),
    (Sample.env 2 now, .family 1 (.createInvite 1 ⟨"parent", none⟩))]

/-- The invite she creates. -/
def Sample.invite (now : Datetime) : FamilyInvite :=
  InviteService.newInvite (Sample.platform 2592000) (Sample.env 2 now) 1 1 ⟨"parent", none⟩ none

/-- The answer she gets. -/
def Sample.invitation : InviteResponse := ⟨UUID.str 2, "code-2", "parent", UUID.str 1, none⟩

/-- Bob may join with the code of the invite, and does. -/
theorem invite_lifecycle_join :
    ∃ a, (serve (Sample.platform 2592000) (Sample.env 3 (Sample.second 120))
      (.auth (.signup (Sample.signup "bob@example.org" (some "code-2"))))
      (reached (Sample.platform 2592000) (Sample.invited (Sample.second 60)))).1
        = .ok (.tokens a) :=
  ((invite_lifecycle (Sample.platform 2592000) (Sample.invited (Sample.second 60))
    (by decide +kernel) 1 Sample.invitation (Sample.invite (Sample.second 60))
    ⟨_, _, _,
      List.mem_cons_of_mem _ (List.mem_cons.mpr (Or.inl (Prod.ext rfl (by decide +kernel)))),
      rfl⟩).1 (Sample.env 3 (Sample.second 120)) _ rfl (by decide +kernel) (by decide +kernel)).mpr
    (by decide +kernel)

/-- **At the end of the calendar nobody joins**: the invite may be redeemed,
but the expiry of the refresh token overflows. -/
theorem invite_lifecycle_overflow :
    let P := Sample.platform 2592000
    let run := Sample.invited (Sample.beforeEnd 120)
    let invite := Sample.invite (Sample.beforeEnd 120)
    let env := Sample.env 3 (Sample.beforeEnd 60)
    let body := Sample.signup "bob@example.org" (some "code-2")
    FreshInvites P run ∧ Creates P run 1 Sample.invitation invite ∧
      body.inviteCode = some (.ofString Sample.invitation.code) ∧
      (∀ m ∈ (reached P run).members, m.email ≠ some body.email) ∧ env.Fresh P (reached P run) ∧
      MayRedeem P run invite env.now ∧
      (serve P env (.auth (.signup body)) (reached P run)).1 = .error .overflowError :=
  ⟨by decide +kernel, ⟨_, _, _, List.mem_cons_of_mem _ (List.mem_cons.mpr (Or.inl (Prod.ext rfl
      (by decide +kernel)))), rfl⟩, rfl, by decide +kernel, by decide +kernel, by decide +kernel,
    by decide +kernel⟩
