import Accounts.Flights
import Accounts.Invites

/-!
# What a row refers to belongs to its family

The child a policy is about, the member who has created an invite and the
member a refresh token was issued to belong to the family of the policy,
the invite, the token. Nothing in the schema says so, but every step of
the service preserves it (`FamilyReferences`) – as long as an invite is
created by a member of the family it leads into, which is what the
caller's verified identity is for.
-/

open Repository

variable {P : Platform} {env : Env} {d d' : Database}

/-- **Every row refers to rows of its own family.** -/
def FamilyReferences (t : (T : TableName) → List T.Row) : Prop :=
  ∀ f T, ∀ r ∈ t T, Owns t f T r → RefersWithin t f T r

/-- A side reference is a reference. -/
theorem TableName.sideReferences_subset {T : TableName} {p : TableName × (T.Row → Option UUID)}
    (h : p ∈ T.sideReferences) : p ∈ T.references := by
  cases T <;> first
    | exact List.mem_cons_of_mem _ h
    | exact absurd h List.not_mem_nil

/-! ## Statements -/

section Statements

variable {t t' : (T : TableName) → List T.Row} {T : TableName} {f g : UUID}

/-- An insert leaves the rows that are there their family. -/
theorem owns_insert_iff (hc : schema.Consistent t) {U : TableName} {r : T.Row} {x : U.Row}
    (hx : x ∈ t U) : Owns (Schema.insert T r t) g U x ↔ Owns t g U x := by
  obtain ⟨f, hf⟩ := hc.exists_owner hx
  exact ⟨fun h => h.eq (familyOf_insert hf) ▸ hf, familyOf_insert⟩

/-- A row that can be inserted belongs to a family before it is. -/
theorem owns_of_insert {r : T.Row} (hc : schema.Consistent (Schema.insert T r t)) :
    ∃ f, Owns t f T r := by
  have hr : r ∈ Schema.insert T r t T := by
    rw [Schema.insert_self]
    exact Table.mem_insert.mpr (Or.inr rfl)
  obtain ⟨f, hf⟩ := hc.exists_owner hr
  refine ⟨f, ?_⟩
  cases T
  case familyMemberProfile =>
    rwa [Owns, TableName.scope, familyOf, Schema.insert_of_ne (by simp)] at hf
  case childReadingProfile | readingHistory =>
    rwa [Owns, TableName.scope, familyOf, Schema.insert_of_ne (by simp)] at hf
  all_goals exact hf

/-- **A row may be inserted** that refers to rows of its family. -/
theorem FamilyReferences.insert (h : FamilyReferences t) (hc : schema.Consistent t) {r : T.Row}
    (hc' : schema.Consistent (Schema.insert T r t))
    (hr : ∀ f, Owns t f T r → RefersWithin t f T r) :
    FamilyReferences (Schema.insert T r t) := by
  have hkeep : ∀ f U (x : U.Row),
      RefersWithin t f U x → RefersWithin (Schema.insert T r t) f U x := by
    intro f U x hx p hp k hk
    obtain ⟨r', hr', hid, hown⟩ := hx p hp k hk
    exact ⟨r', Schema.mem_insert_of_mem hr', hid, familyOf_insert hown⟩
  intro f U x hx hown
  by_cases hU : U = T
  · subst hU
    rw [Schema.insert_self] at hx
    rcases Table.mem_insert.mp hx with hx | rfl
    · exact hkeep f U x (h f U x hx ((owns_insert_iff hc hx).mp hown))
    · obtain ⟨g, hg⟩ := owns_of_insert hc'
      obtain rfl := hown.eq (familyOf_insert hg)
      exact hkeep f U x (hr f hg)
  · rw [Schema.insert_of_ne hU] at hx
    exact hkeep f U x (h f U x hx ((owns_insert_iff hc hx).mp hown))

/-- **A row may be updated** that keeps its keys. -/
theorem FamilyReferences.replace (h : FamilyReferences t) (hc : schema.Consistent t)
    {r old : T.Row} (hold : old ∈ t T) (hk : schema.SameKeys T r old) :
    FamilyReferences (schema.replace T r t) := by
  have hscope : ∀ g U (x : U.Row), Owns (schema.replace T r t) g U x ↔ Owns t g U x := by
    intro g U x
    rw [Owns, Owns, familyOf_replace hc hold hk]
  -- what was there is there, with the same identifier and family
  have hthere : ∀ g U, ∀ x ∈ t U, Owns t g U x →
      ∃ y ∈ schema.replace T r t U, U.id y = U.id x ∧ Owns t g U y := by
    intro g U x hx hown
    by_cases hU : U = T
    · subst hU
      rw [Schema.replace_self]
      by_cases hid : U.id x = U.id old
      · obtain rfl : x = old := hc.eq_of_id hx hold hid
        refine ⟨r, Table.mem_replace.mpr (Or.inl ⟨rfl, x, hx, hk.id.symm⟩), hk.id, ?_⟩
        rwa [Owns, hk.scope]
      · exact ⟨x, Table.mem_replace.mpr (Or.inr ⟨hx, fun h' => hid (h'.trans hk.id)⟩), rfl, hown⟩
    · exact ⟨x, by rwa [Schema.replace_of_ne hU], rfl, hown⟩
  have hkeep : ∀ g U (x : U.Row),
      RefersWithin t g U x → RefersWithin (schema.replace T r t) g U x := by
    intro g U x hx p hp k hpk
    obtain ⟨r', hr', hid, hown⟩ := hx p hp k hpk
    obtain ⟨y, hy, hyid, hyown⟩ := hthere g p.1 r' hr' hown
    exact ⟨y, hy, hyid.trans hid, (hscope g p.1 y).mpr hyown⟩
  intro g U x hx hown
  rw [hscope] at hown
  by_cases hU : U = T
  · subst hU
    rw [Schema.replace_self] at hx
    rcases Table.mem_replace.mp hx with ⟨rfl, -⟩ | ⟨hx, -⟩
    · rw [Owns, hk.scope] at hown
      refine hkeep g U x (fun p hp k hpk => h g U old hold hown p hp k ?_)
      rwa [← hk.reference p (TableName.sideReferences_subset hp)]
    · exact hkeep g U x (h g U x hx hown)
  · rw [Schema.replace_of_ne hU] at hx
    exact hkeep g U x (h g U x hx hown)

/-- Where a scope leads among fewer rows, it leads among all. -/
theorem familyOf_of_subset (hc : schema.Consistent t) (hsub : ∀ U, ∀ x ∈ t' U, x ∈ t U)
    {s : Scope} (hs : familyOf t' s = some f) : familyOf t s = some f := by
  cases s with
  | family id => exact hs
  | member id =>
    obtain ⟨m, hm, hf⟩ := Option.map_eq_some_iff.mp hs
    obtain rfl : m.id = id := by simpa using List.find?_some hm
    rw [← hf]
    exact hc.familyOf_member (hsub _ m (List.mem_of_find?_eq_some hm))
  | child id =>
    obtain ⟨c, hcf, hf⟩ := Option.map_eq_some_iff.mp hs
    obtain rfl : c.id = id := by simpa using List.find?_some hcf
    rw [← hf]
    exact hc.familyOf_child (hsub _ c (List.mem_of_find?_eq_some hcf))

/-- **Rows may be deleted**, when the constraints hold without them. -/
theorem FamilyReferences.subset (h : FamilyReferences t) (hc : schema.Consistent t)
    (hc' : schema.Consistent t') (hsub : ∀ U, ∀ x ∈ t' U, x ∈ t U) : FamilyReferences t' := by
  intro f U x hx hown p hp k hk
  obtain ⟨r', hr', hid, hown'⟩ :=
    h f U x (hsub U x hx) (familyOf_of_subset hc hsub hown) p hp k hk
  -- the row referred to is still there
  obtain ⟨y, hy, hyid⟩ := List.mem_map.mp
    (hc'.reference U p (TableName.sideReferences_subset hp) x hx k hk)
  obtain rfl : y = r' := hc.eq_of_id (hsub p.1 y hy) hr' (hyid.trans hid.symm)
  obtain ⟨g, hg⟩ := hc'.exists_owner hy
  obtain rfl := Owns.eq (familyOf_of_subset hc hsub hg) hown'
  exact ⟨y, hy, hyid, hg⟩

/-- **A row that refers to a row of the family is a row of the family.** -/
theorem FamilyReferences.owns_of_reference (h : FamilyReferences t) (hc : schema.Consistent t)
    {x : T.Row} (hx : x ∈ t T) {p : TableName × (T.Row → Option UUID)} (hp : p ∈ T.references)
    {r : p.1.Row} (hr : r ∈ t p.1) (hk : p.2 x = some (p.1.id r)) (hown : Owns t f p.1 r) :
    Owns t f T x := by
  by_cases hside : p ∈ T.sideReferences
  · obtain ⟨g, hg⟩ := hc.exists_owner hx
    obtain ⟨r', hr', hid, hown'⟩ := h g T x hx hg p hside _ hk
    obtain rfl : r' = r := hc.eq_of_id hr' hr hid
    rwa [hown.eq hown']
  -- the reference a row names its family by
  · have hfamily : ∀ {id : UUID} {r : Family}, Owns t f .family r → some id = some r.id →
        familyOf t (.family id) = some f := fun hown hid => hid.trans hown
    have hmember : ∀ {id : UUID} {r : FamilyMember}, r ∈ t .familyMember →
        Owns t f .familyMember r → some id = some r.id → familyOf t (.member id) = some f := by
      rintro id r hr hown hid
      rw [Option.some.inj hid]
      exact (hc.familyOf_member hr).trans hown
    have hchild : ∀ {id : UUID} {r : ChildProfile}, r ∈ t .childProfile →
        Owns t f .childProfile r → some id = some r.id → familyOf t (.child id) = some f := by
      rintro id r hr hown hid
      rw [Option.some.inj hid]
      exact (hc.familyOf_child hr).trans hown
    cases T
    case family => exact absurd hp List.not_mem_nil
    case familyMember | childProfile =>
      obtain rfl := List.mem_singleton.mp hp
      exact hfamily hown hk
    case familyReadingPolicy | familyInvite | refreshToken =>
      rcases List.mem_pair.mp hp with rfl | rfl
      · exact hfamily hown hk
      · exact absurd List.mem_cons_self hside
    case familyMemberProfile =>
      obtain rfl := List.mem_singleton.mp hp
      exact hmember hr hown hk
    case childReadingProfile | readingHistory =>
      obtain rfl := List.mem_singleton.mp hp
      exact hchild hr hown hk

/-- What the ORM deletes along with a row leaves fewer rows. -/
theorem mem_of_mem_cascade {k : UUID} (U : TableName) (x : U.Row) (hx : x ∈ T.cascade k t U) :
    x ∈ t U := by
  cases T
  case familyMember | childProfile => exact Schema.mem_of_mem_discard hx
  all_goals exact hx

/-- Deleting a row, and what goes along with it, leaves fewer rows. -/
theorem mem_of_mem_delete_cascade {k : UUID} (U : TableName) (x : U.Row)
    (hx : x ∈ schema.delete T k (T.cascade k t) U) : x ∈ t U :=
  mem_of_mem_cascade U x (Schema.mem_of_mem_delete hx)

end Statements

/-! ## Operations of a family -/

/-- The caller is a member of the family, where the operation records who
called it. -/
def FamilyOp.ByMember (f : UUID) (d : Database) : FamilyOp → Prop
  | createInvite createdBy _ => ∃ m ∈ d.members, m.id = createdBy ∧ m.familyId = f
  | _ => True

instance (f : UUID) (d : Database) (op : FamilyOp) : Decidable (op.ByMember f d) := by
  cases op <;> unfold FamilyOp.ByMember <;> infer_instance

/-- **An operation called by a member preserves the invariant.** -/
theorem FamilyOp.familyReferences {f : UUID} {op : FamilyOp} {s s' : Session Database}
    {response : Response} (h : FamilyReferences s.working.rows) (hby : op.ByMember f s.working)
    (hret : (op.run P env f).Returns s response s') : FamilyReferences s'.working.rows := by
  have hc := s.working.consistent
  have hc' := s'.working.consistent
  by_cases ht : op.target = some .familyInvite
  · cases op <;> try (cases ht; done)
    case createInvite createdBy body =>
      obtain ⟨a, h₁, -⟩ := Tx.returns_bind_pure.mp hret
      obtain ⟨-, -, hrows⟩ := InviteService.create_returns h₁
      rw [hrows] at hc' ⊢
      refine h.insert hc hc' (fun g hg p hp k hk => ?_)
      obtain rfl := List.mem_singleton.mp hp
      obtain rfl := Option.some.inj hk
      obtain ⟨m, hm, hid, hfam⟩ := hby
      exact ⟨m, hm, hid, congrArg some (hfam.trans (Option.some.inj hg))⟩
    case revokeInvite inviteId =>
      obtain ⟨a, h₁, -⟩ := Tx.returns_bind_pure.mp hret
      have hrows := (InviteService.revoke_returns h₁).2
      rw [hrows] at hc' ⊢
      exact h.subset hc hc' (fun U x hx => Schema.mem_of_mem_delete hx)
  · have hchange := FamilyOp.run_change hret
    generalize s'.working.rows = t' at hchange hc' ⊢
    generalize op.target = target at hchange ht
    cases hchange with
    | nothing => exact h
    | insert hid hown hwithin =>
      exact h.insert hc hc' (fun g hg => hg.eq hown ▸ hwithin (fun hT => ht (congrArg some hT)))
    | insertChild hid hfam hchild hmid =>
      exact (h.insert hc hmid (fun _ _ _ hp => by cases hp)).insert hmid hc'
        (fun _ _ _ hp => by cases hp)
    | replace hold hk hown => exact h.replace hc hold hk
    | delete hmem hown => exact h.subset hc hc' mem_of_mem_delete_cascade

/-! ## Steps of the service -/

section Steps

variable {s s' : Session Database} {a : IssuedTokens}

/-- Tokens may be issued to a member, for the member's family. -/
theorem AuthService.issueTokens_familyReferences {f memberId : UUID}
    (h : FamilyReferences s.working.rows)
    (hm : ∃ m ∈ s.working.members, m.id = memberId ∧ m.familyId = f)
    (hret : (issueTokens P env f memberId).Returns s a s') : FamilyReferences s'.working.rows := by
  obtain ⟨access, exp, -, -, -, d, hd, rfl⟩ := issueTokens_returns.mp hret
  have hc' := d.consistent
  show FamilyReferences d.rows
  rw [hd] at hc' ⊢
  refine h.insert s.working.consistent hc' (fun g hg p hp k hk => ?_)
  obtain rfl := List.mem_singleton.mp hp
  obtain rfl := Option.some.inj hk
  obtain ⟨m, hmem, hid, hfam⟩ := hm
  exact ⟨m, hmem, hid, congrArg some (hfam.trans (Option.some.inj hg))⟩

/-- A member may be registered. -/
theorem AuthService.register_familyReferences {body : SignupRequest} {f : UUID} {role : String}
    {isPrimary : Bool} (h : FamilyReferences s.working.rows)
    (hret : (register P env body f role isPrimary).Returns s a s') :
    FamilyReferences s'.working.rows := by
  obtain ⟨d₁, hd₁, hissue⟩ := register_returns.mp hret
  have hc₁ := d₁.consistent
  refine issueTokens_familyReferences ?_
    ⟨newMember P env body f role isPrimary, ?_, rfl, rfl⟩ hissue
  · show FamilyReferences d₁.rows
    rw [hd₁] at hc₁ ⊢
    exact h.insert s.working.consistent hc₁ (fun _ _ _ hp => by cases hp)
  · show _ ∈ d₁.rows .familyMember
    rw [hd₁, Schema.insert_self]
    exact Table.mem_insert.mpr (Or.inr rfl)

/-- A signup may be finished, with or without an invite. -/
theorem AuthService.finishSignup_familyReferences {body : SignupRequest}
    {invite : Option FamilyInvite} (h : FamilyReferences s.working.rows)
    (hret : (finishSignup P env body invite).Returns s a s') :
    FamilyReferences s'.working.rows := by
  cases invite with
  | none =>
    obtain ⟨d₁, hd₁, hreg⟩ := finishSignup_none_returns.mp hret
    have hc₁ := d₁.consistent
    refine register_familyReferences ?_ hreg
    show FamilyReferences d₁.rows
    rw [hd₁] at hc₁ ⊢
    exact h.insert s.working.consistent hc₁ (fun _ _ _ hp => by cases hp)
  | some invite =>
    obtain ⟨cur, hcur, d₁, hd₁, hreg⟩ := finishSignup_some_returns.mp hret
    refine register_familyReferences ?_ hreg
    show FamilyReferences d₁.rows
    rw [hd₁]
    exact h.replace s.working.consistent (Store.find_eq_some_iff.mp hcur).1
      (cur.accept_sameKeys env.now)

end Steps

/-- **The first step of a request preserves the invariant.** -/
theorem first_familyReferences {req : Request}
    {r : Flight ⊕ Completed Env Request Flight Exn Response} (h : FamilyReferences d.rows)
    (hby : ∀ f op, req = .family f op → op.ByMember f d)
    (hs : (concurrentService P).first env req d = (d', r)) : FamilyReferences d'.rows := by
  rcases first_cases hs with rfl | ⟨s', rfl, ⟨body, a, -, hl⟩ | ⟨f, op, response, hreq, -, hop⟩⟩
  · exact h
  · obtain ⟨m, hm, hi⟩ := AuthService.login_returns hl
    exact AuthService.issueTokens_familyReferences h ⟨m, hm, rfl, rfl⟩ hi
  · exact FamilyOp.familyReferences h (hby f op hreq) hop

/-- Rows of a session may be revoked. -/
theorem RefreshTokenRepository.revokeRows_familyReferences (env : Env) (rows : List RefreshToken) :
    Tx.Preserves (fun d : Database => FamilyReferences d.rows) (revokeRows env rows) := by
  refine preserves_revokeRows env rows (fun d d' old hold hd' h => ?_)
  rw [hd']
  exact h.replace d.consistent hold ⟨rfl, by simp [TableName.uniques, RefreshToken.revoke],
    by simp [TableName.references, RefreshToken.revoke]⟩

/-- **The second step of a request preserves the invariant**, whatever the
request remembers. -/
theorem Flight.finish_familyReferences {flight : Flight} {r : Except Exn Response}
    (h : FamilyReferences d.rows)
    (hs : Tx.serve Exn.handled (flight.finish P env) d = (r, d')) : FamilyReferences d'.rows := by
  have hc' := d'.consistent
  have hrevoked : ∀ {t : Op Response},
      Tx.Preserves (fun d : Database => FamilyReferences d.rows) t →
      Tx.serve Exn.handled t d = (r, d') → FamilyReferences d'.rows := by
    intro t ht heq
    have hd : (Tx.serve Exn.handled t d).2 = d' := congrArg Prod.snd heq
    exact hd ▸ ht.serve h
  cases flight with
  | reuse now sessionId rows =>
    exact hrevoked ((RefreshTokenRepository.revokeRows_familyReferences _ rows).bind
      (fun _ => Tx.Preserves.of_reads (Tx.Reads.raise _))) hs
  | logout now sessionId rows =>
    exact hrevoked ((RefreshTokenRepository.revokeRows_familyReferences _ rows).bind
      (fun _ => Tx.Preserves.of_reads (Tx.Reads.pure _))) hs
  | exchange row =>
    cases r with
    | error e => rwa [finish_error rfl hs]
    | ok response =>
      obtain ⟨cur, exp, hcur, hd'⟩ := finish_exchange hs
      obtain ⟨hmem, -⟩ := Store.find_eq_some_iff.mp hcur
      have hc₁ := d.consistent.replace hmem (cur.consume_sameKeys env.now)
      have h₁ := h.replace d.consistent hmem (cur.consume_sameKeys env.now)
      have hcur₁ : cur.consume env.now ∈ schema.replace .refreshToken (cur.consume env.now) d.rows
          .refreshToken := by
        rw [Schema.replace_self]
        exact Table.mem_replace.mpr (Or.inl ⟨rfl, cur, hmem, rfl⟩)
      rw [hd'] at hc' ⊢
      -- the successor refers to what the token refers to
      exact h₁.insert hc₁ hc' (fun g hg p hp k hk => h₁ g _ _ hcur₁ hg p hp k (by
        obtain rfl := List.mem_singleton.mp hp
        exact hk))
  | signup body invite =>
    cases r with
    | error e => rwa [finish_error rfl hs]
    | ok response =>
      obtain ⟨a, s', -, rfl, hret⟩ := finish_signup hs
      exact AuthService.finishSignup_familyReferences h hret
  | revokeInvite invite =>
    cases r with
    | error e => rwa [finish_error rfl hs]
    | ok response =>
      have hrows := (finish_revokeInvite hs).2
      rw [hrows] at hc' ⊢
      exact h.subset d.consistent hc' (fun U x hx => Schema.mem_of_mem_delete hx)
  | createMember familyId body =>
    cases r with
    | error e => rwa [finish_error rfl hs]
    | ok response =>
      have hrows := finish_createMember hs
      rw [hrows] at hc' ⊢
      exact h.insert d.consistent hc' (fun _ _ _ hp => by cases hp)
  | upsertProfile memberId body profile =>
    cases r with
    | error e => rwa [finish_error rfl hs]
    | ok response =>
      obtain ⟨s', hret, rfl⟩ := Tx.serve_ok_iff.mp hs
      obtain ⟨a, h₁, -⟩ := Tx.returns_bind_pure.mp hret
      rcases MemberService.putProfile_change h₁ with ⟨-, -, hrows⟩ | ⟨_, -, old, hold, -, hk, hrows⟩
      · rw [hrows] at hc' ⊢
        exact h.insert d.consistent hc' (fun _ _ _ hp => by cases hp)
      · rw [hrows]
        exact h.replace d.consistent hold hk

/-! ## Reachable databases -/

/-- An operation that records who called it is called by a member of its
family. -/
def CalledByMember (c : State) : Move Env Request → Prop
  | .start _ (.family f op) => op.ByMember f c.shared
  | _ => True

instance (c : State) : (m : Move Env Request) → Decidable (CalledByMember c m)
  | .start _ (.family f op) => inferInstanceAs (Decidable (op.ByMember f c.shared))
  | .start _ (.auth _) | .finish _ _ => inferInstanceAs (Decidable True)

/-- **A database the service reaches**, in any interleaving of the steps of
any requests, in which invites are created by members of their family. -/
def Reachable (P : Platform) (d : Database) : Prop :=
  ∃ ms, (concurrentService P).system.Every CalledByMember idle ms ∧
    ((concurrentService P).system.run idle ms).shared = d

/-- **In every database the service reaches, rows refer to rows of their own
family.** -/
theorem Reachable.familyReferences (h : Reachable P d) : FamilyReferences d.rows := by
  obtain ⟨ms, he, rfl⟩ := h
  refine ((concurrentService P).run_invariant (G := fun d _ => FamilyReferences d.rows)
    (L := fun _ _ => True) ?_ ?_ ⟨by rintro f T r ⟨⟩, fun _ _ => trivial⟩ he).1
  · rintro c env req ⟨hG, -⟩ hby
    have hstep : ∀ d r, (concurrentService P).first env req c.shared = (d, r) →
        FamilyReferences d.rows := fun d r hf =>
      first_familyReferences hG (by rintro f op rfl; exact hby) hf
    exact ⟨fun d l hf => ⟨hstep d _ hf, trivial, fun _ _ => trivial⟩,
      fun d o hf => ⟨hstep d _ hf, fun _ _ => trivial⟩⟩
  · rintro c env k l ⟨hG, -⟩ - - d o hf
    obtain ⟨-, -, hs⟩ := TwoStep.ofPhases_second hf
    exact ⟨Flight.finish_familyReferences hG hs, fun _ _ => trivial⟩
