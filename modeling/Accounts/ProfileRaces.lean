import Accounts.Upserts

/-!
# Racing upserts of one profile

`upsert_profile` reads whether there is a profile, and inserts or updates
later. Two requests that both find none both insert, and the unique column
refuses the second – as it does for emails, only that here nothing turns the
violation into a conflict (`profile_upserts_race_insert`).

Short of that, and of a number that does not fit, racing upserts do not get
in each other's way: the ORM writes the columns it has seen change, so each
column holds what one of the requests that set it has set it to
(`profile_upserts_race`).
-/

open Repository TableName

variable {P : Platform} {env : Env} {d d' : Database} {k : UUID}

/-! ## What a body sets -/

namespace MemberProfileUpsert

/-- **No field of the body is `null`.** -/
def NoNulls (b : MemberProfileUpsert) : Prop :=
  b.occupationBackground ≠ some none ∧ b.educationBackground ≠ some none ∧
    b.communicationStyle ≠ some none ∧ b.concerns ≠ some none ∧ b.source ≠ some none ∧
    b.confidence ≠ some none

instance (b : MemberProfileUpsert) : Decidable b.NoNulls :=
  inferInstanceAs (Decidable (_ ∧ _ ∧ _ ∧ _ ∧ _ ∧ _))

/-- **The values of the fields**, as their columns store them. -/
def values (b : MemberProfileUpsert) : FamilyMemberProfile where
  id := 0
  memberId := 0
  occupationBackground := b.occupationBackground.given
  educationBackground := b.educationBackground.given
  communicationStyle := b.communicationStyle.given
  concerns := b.concerns.given.getD []
  source := b.source.given
  confidence := b.confidence.given.map roundCents
  observedAt := none
  createdAt := .first
  updatedAt := .first

end MemberProfileUpsert

/-- The column of a row holds the value that the body gives it. -/
def Column.Holds (col : Column .familyMemberProfile) (b : MemberProfileUpsert)
    (r : FamilyMemberProfile) : Prop :=
  col.set (.memberProfile b) = true ∧ col.get r = col.get b.values

theorem Option.eq_map_roundCents {digits : ℕ} {o v : Option ℚ}
    (h : o.mapM (numericColumn digits) = .ok v) : v = o.map roundCents := by
  rcases Option.mapM_eq_ok_iff.mp h with ⟨rfl, rfl⟩ | ⟨q, w, rfl, hw, rfl⟩
  · rfl
  · rw [(numericColumn_eq_ok_iff.mp hw).2]
    rfl

namespace BodyField

variable {α : Type} {field : BodyField α}

/-- A value that is set is the value given. -/
theorem some_getD_given (h : field.isSome = true) (hnull : field ≠ some none) (default : α) :
    some (field.given.getD default) = field.given := by
  rcases field with _ | _ | a
  · cases h
  · exact absurd rfl hnull
  · rfl

/-- **A nullable column of a row that may have changed since it was loaded**
holds what is given, or is kept, where it was loaded with that. -/
theorem rebase_nullable [DecidableEq α] (hnull : field ≠ some none) (loaded now : Option α) :
    (field.isSome = true ∧
      (if field.nullable loaded = loaded then now else field.nullable loaded) = field.given) ∨
    ((if field.nullable loaded = loaded then now else field.nullable loaded) = now ∧
      (field.isSome = true → loaded = field.given)) := by
  rcases field with _ | _ | a
  · exact Or.inr ⟨if_pos rfl, fun h => by cases h⟩
  · exact absurd rfl hnull
  · by_cases h : some a = loaded
    · exact Or.inr ⟨if_pos h, fun _ => h.symm⟩
    · exact Or.inl ⟨rfl, if_neg h⟩

/-- **So does a required one.** -/
theorem rebase_required [DecidableEq α] {loaded now v default : α}
    (hv : field.required loaded = .ok v) :
    (field.isSome = true ∧ (if v = loaded then now else v) = field.given.getD default) ∨
    ((if v = loaded then now else v) = now ∧
      (field.isSome = true → loaded = field.given.getD default)) := by
  rcases field with _ | _ | a
  · obtain rfl := Except.ok.inj hv
    exact Or.inr ⟨if_pos rfl, fun h => by cases h⟩
  · cases hv
  · obtain rfl := Except.ok.inj hv
    by_cases h : a = loaded
    · exact Or.inr ⟨if_pos h, fun _ => h.symm⟩
    · exact Or.inl ⟨rfl, if_neg h⟩

end BodyField

/-! ## Second steps -/

namespace MemberService

/-- **A row that is inserted** holds what the body sets. -/
theorem newProfile_holds {b : MemberProfileUpsert} (hb : b.NoNulls) {c : FamilyMemberProfile}
    (hc : TableName.coerce .familyMemberProfile (newProfile env k b) = .ok c) :
    ∀ col ∈ columns .familyMemberProfile, col.set (.memberProfile b) = true → col.Holds b c := by
  obtain ⟨confidence, hconf, hc⟩ := Except.bind_eq_ok_iff.mp hc
  cases hc
  obtain rfl := Option.eq_map_roundCents hconf
  obtain ⟨-, -, -, -, hsource, -⟩ := hb
  have hsource' : b.source.isSome = true → some (b.source.given.getD "parent_report")
      = b.source.given := fun h => BodyField.some_getD_given h hsource _
  simp only [columns, List.forall_mem_cons]
  simp +contextual [Column.Holds, Column.kept, Column.field, newProfile,
    MemberProfileUpsert.values, hsource']

/-- **A row that is updated** – a row that may have changed since it was
loaded – keeps a column, or holds what the body sets; and it keeps a column
that the body sets only where the row had been loaded with that value. -/
theorem rebase_holds {b : MemberProfileUpsert} (hb : b.NoNulls)
    {loaded draft r c : FamilyMemberProfile}
    (hloaded : TableName.coerce .familyMemberProfile loaded = .ok loaded)
    (hr : TableName.coerce .familyMemberProfile r = .ok r)
    (hdraft : loaded.applyChanges b = .ok draft)
    (hc : TableName.coerce .familyMemberProfile (rebase loaded draft r) = .ok c) :
    ∀ col ∈ columns .familyMemberProfile, col.Holds b c ∨
      (col.get c = col.get r ∧ (col.set (.memberProfile b) = true → col.Holds b loaded)) := by
  obtain ⟨confidence, hconf, hc⟩ := Except.bind_eq_ok_iff.mp hc
  cases hc
  obtain ⟨concerns, hconcerns, hdraft⟩ := Except.bind_eq_ok_iff.mp hdraft
  cases hdraft
  obtain ⟨hoccupation, heducation, hstyle, -, hsource, hconfidence⟩ := hb
  simp only [columns, List.forall_mem_cons]
  refine ⟨Or.inr ⟨rfl, fun h => by cases h⟩, Or.inr ⟨rfl, fun h => by cases h⟩,
    Or.inr ⟨rfl, fun h => by cases h⟩, Or.inr ⟨rfl, fun h => by cases h⟩, ?_, ?_, ?_, ?_, ?_, ?_,
    List.forall_mem_nil _⟩
  · exact (BodyField.rebase_nullable hoccupation _ _).imp id (.imp id fun h hset => ⟨hset, h hset⟩)
  · exact (BodyField.rebase_nullable heducation _ _).imp id (.imp id fun h hset => ⟨hset, h hset⟩)
  · exact (BodyField.rebase_nullable hstyle _ _).imp id (.imp id fun h hset => ⟨hset, h hset⟩)
  · exact (BodyField.rebase_required hconcerns).imp id (.imp id fun h hset => ⟨hset, h hset⟩)
  · exact (BodyField.rebase_nullable hsource _ _).imp id (.imp id fun h hset => ⟨hset, h hset⟩)
  · rcases BodyField.rebase_nullable hconfidence loaded.confidence r.confidence with
      ⟨hset, hgiven⟩ | ⟨hkept, hgiven⟩
    · refine Or.inl ⟨hset, ?_⟩
      show confidence = b.confidence.given.map roundCents
      rw [← hgiven]
      exact Option.eq_map_roundCents hconf
    · refine Or.inr ⟨?_, fun hset => ⟨hset, ?_⟩⟩
      · have hconf' : r.confidence.mapM (numericColumn 1) = .ok confidence := by
          rw [← hkept]
          exact hconf
        exact Except.ok.inj (hconf'.symm.trans (coerce_memberProfile.mp hr))
      · show loaded.confidence = b.confidence.given.map roundCents
        rw [← hgiven hset]
        exact Option.eq_map_roundCents (coerce_memberProfile.mp hloaded)

/-- The draft of an upsert can be written on the row as it is now, if its
number fits. -/
theorem coerce_rebase {b : MemberProfileUpsert} {loaded draft r : FamilyMemberProfile}
    (hfits : (Patch.memberProfile b).Fits)
    (hloaded : TableName.coerce .familyMemberProfile loaded = .ok loaded)
    (hr : TableName.coerce .familyMemberProfile r = .ok r)
    (hdraft : loaded.applyChanges b = .ok draft) :
    ∃ c, TableName.coerce .familyMemberProfile (rebase loaded draft r) = .ok c := by
  obtain ⟨concerns, -, hdraft⟩ := Except.bind_eq_ok_iff.mp hdraft
  cases hdraft
  refine exists_coerce_memberProfile.mpr ?_
  show ∃ v, (if _ = _ then _ else _ : Option ℚ).mapM (numericColumn 1) = .ok v
  split
  · exact ⟨_, coerce_memberProfile.mp hr⟩
  · exact (BodyField.exists_mapM_nullable (coerce_memberProfile.mp hloaded)).mpr
      (forall_numericColumn_iff.mpr hfits)

/-- **The second half of an upsert that has loaded a profile** succeeds, if
the profile is there and the number of the body fits. -/
theorem putProfile_update (env : Env) (k : UUID) {b : MemberProfileUpsert} (hb : b.NoNulls)
    (hfits : (Patch.memberProfile b).Fits) {loaded r : FamilyMemberProfile}
    (hloaded : TableName.coerce .familyMemberProfile loaded = .ok loaded)
    (hr : r ∈ d.memberProfiles) (hid : r.id = loaded.id)
    (hstored : TableName.coerce .familyMemberProfile r = .ok r) :
    ∃ (a : FamilyMemberProfile) (d' : Database),
      d'.rows = schema.replace .familyMemberProfile a d.rows ∧
      schema.SameKeys .familyMemberProfile a r ∧
      (putProfile env k b (some loaded)).Returns ⟨d, d⟩ a ⟨d, d'⟩ ∧
      ∀ col ∈ columns .familyMemberProfile, col.Holds b a ∨
        (col.get a = col.get r ∧ (col.set (.memberProfile b) = true → col.Holds b loaded)) := by
  obtain ⟨draft, hdraft⟩ : ∃ draft, loaded.applyChanges b = .ok draft :=
    Patch.exists_applyChanges (p := .memberProfile b) hb.2.2.2.1
  obtain ⟨c, hc⟩ := coerce_rebase hfits hloaded hstored hdraft
  obtain ⟨a, hw, hsame⟩ := written_of_coerce env.now hstored hc
  have hrebase := rebase_sameKeys loaded draft r
  let changes : FamilyMemberProfile → Except Exn FamilyMemberProfile :=
    fun r => loaded.applyChanges b >>= fun draft => .ok (rebase loaded draft r)
  have hchanges : changes r = .ok (rebase loaded draft r) :=
    Except.bind_eq_ok_iff.mpr ⟨draft, hdraft, rfl⟩
  have hkeys : ∀ r', changes r = .ok r' → schema.SameKeys .familyMemberProfile r' r := by
    intro r' hr'
    obtain rfl := Except.ok.inj (hchanges.symm.trans hr')
    exact hrebase
  have hwritten : changes r >>= TableName.written env.now .familyMemberProfile r = .ok a :=
    Except.bind_eq_ok_iff.mpr ⟨_, hchanges, hw⟩
  obtain ⟨d', hd', hret⟩ := update_ok (T := .familyMemberProfile) hr hkeys hwritten
  refine ⟨a, d', hd', written_sameKeys hrebase hw, ?_, fun col hcol => ?_⟩
  · show (Repository.update env .familyMemberProfile loaded.id changes).Returns _ _ _
    rw [← hid]
    exact hret
  · rw [Column.Holds, hsame.get col hcol]
    exact rebase_holds hb hloaded hstored hdraft hc col hcol

end MemberService

/-- **Finishing an upsert** is this second half. -/
theorem second_upsertProfile {b : MemberProfileUpsert} {profile : Option FamilyMemberProfile}
    {a : FamilyMemberProfile}
    (h : (MemberService.putProfile env k b profile).Returns ⟨d, d⟩ a ⟨d, d'⟩) :
    (concurrentService P).second env (.upsertProfile k b profile) d
      = (d', ⟨env, .inr (.upsertProfile k b profile), .ok (.profile a)⟩) := by
  have hserve : Tx.serve Exn.handled ((Flight.upsertProfile k b profile).finish P env) d
      = (.ok (.profile a), d') :=
    Tx.serve_ok_iff.mpr
      ⟨⟨d, d'⟩, Tx.returns_bind.mpr ⟨a, _, h, Tx.returns_pure.mpr ⟨rfl, rfl⟩⟩, rfl⟩
  show ((Tx.serve _ _ d).2, Completed.mk _ _ (Tx.serve _ _ d).1) = _
  rw [hserve]

/-! ## First steps -/

/-- Only the member can be missing. -/
theorem MemberService.findProfile_raises {f : UUID} {s s' : Session Database} {x : Exn}
    (h : (findProfile f k).Raises s x s') : x = .notFound := by
  rcases Tx.raises_bind.mp h with h₁ | ⟨m, s₁, -, h₂⟩
  · exact ((required_raises (FamilyMember.atMostOne k f)).mp h₁).2.1
  · rw [FamilyMemberProfileRepository.getByMember_eq_read] at h₂
    exact absurd h₂ Tx.raises_read

/-! ## Runs -/

/-- An upsert of the profile of `k` with the body has succeeded. -/
def Succeeded (k : UUID) (log : List (Completed Env Request Flight Exn Response))
    (b : MemberProfileUpsert) : Prop :=
  ∃ o ∈ log, ∃ profile a, o.source = .inr (.upsertProfile k b profile) ∧ o.outcome = .ok a

/-- The column holds what an upsert that has succeeded has set it to. -/
def Column.Written (col : Column .familyMemberProfile) (k : UUID)
    (log : List (Completed Env Request Flight Exn Response)) (r : FamilyMemberProfile) : Prop :=
  ∃ b, Succeeded k log b ∧ col.Holds b r

/-- A request has succeeded, or ended in an error of the service. -/
def Completed.Answered (o : Completed Env Request Flight Exn Response) : Prop :=
  (∃ a, o.outcome = .ok a) ∨ ∃ x, o.outcome = .error (.service x)

/-- **A move of the upserts of one profile**, with bodies without `null`. The
identifiers it makes are new. -/
def Upserting (P : Platform) (k : UUID) (c : State) : Move Env Request → Prop
  | .start _ req => ∃ f b, req = .family f (.upsertProfile k b) ∧ b.NoNulls
  | .finish env _ => env.Fresh P c.shared

theorem Upserting.finish {c : State} {i : ℕ} (h : env.Fresh P c.shared) :
    Upserting P k c (.finish env i) := h

/-- An upsert that has found no profile comes while there is none, and its
number fits. -/
def Flight.Unraced (d : Database) : Flight → Prop
  | upsertProfile k b profile => (Patch.memberProfile b).Fits ∧
      (profile = none → ∀ r ∈ d.memberProfiles, r.memberId ≠ k)
  | _ => True

instance (d : Database) : (l : Flight) → Decidable (l.Unraced d)
  | .upsertProfile k b profile =>
    inferInstanceAs (Decidable ((∀ q ∈ b.confidence.given, |roundCents q| < 10 ^ 1) ∧
      (profile = none → ∀ r ∈ d.memberProfiles, r.memberId ≠ k)))
  | .exchange _ | .reuse _ _ _ | .logout _ _ _ | .signup _ _ | .revokeInvite _
  | .createMember _ _ => isTrue trivial

/-- **The move loses no race.** -/
def Unraced (c : State) (m : Move Env Request) : Prop :=
  ∀ l ∈ m.finishing c, l.Unraced c.shared

instance (c : State) (m : Move Env Request) : Decidable (Unraced c m) :=
  inferInstanceAs (Decidable (∀ l ∈ m.finishing c, l.Unraced c.shared))

/-- **What holds while upserts of one profile race.** -/
structure Racing (k : UUID) (c : State) : Prop where
  /-- Every row is as its columns store it. -/
  stored : c.shared.Stored
  /-- No request has crashed. -/
  answered : ∀ o ∈ c.log, o.Answered
  /-- The profile a request has loaded is there, and where it has changed it
  has been written since. -/
  flights : ∀ l ∈ c.flights, ∃ b profile, l = .upsertProfile k b profile ∧ b.NoNulls ∧
    (∃ m ∈ c.shared.members, m.id = k) ∧
    ∀ loaded ∈ profile, TableName.coerce .familyMemberProfile loaded = .ok loaded ∧
      ∃ r ∈ c.shared.memberProfiles, r.memberId = k ∧ r.id = loaded.id ∧
        ∀ col ∈ columns .familyMemberProfile, col.get r = col.get loaded ∨ col.Written k c.log r
  /-- What has been set holds what some request has set it to. -/
  written : ∀ b, Succeeded k c.log b → ∃ r ∈ c.shared.memberProfiles, r.memberId = k ∧
    ∀ col ∈ columns .familyMemberProfile, col.set (.memberProfile b) = true →
      col.Written k c.log r

section Log

variable {log : List (Completed Env Request Flight Exn Response)}
  {o : Completed Env Request Flight Exn Response} {b : MemberProfileUpsert}
  {col : Column .familyMemberProfile} {r r' : FamilyMemberProfile}

theorem Succeeded.append (h : Succeeded k log b) : Succeeded k (log ++ [o]) b := by
  obtain ⟨o', ho', hb⟩ := h
  exact ⟨o', List.mem_append_left _ ho', hb⟩

theorem Succeeded.last {profile : Option FamilyMemberProfile} {a : Response}
    (hsource : o.source = .inr (.upsertProfile k b profile)) (ho : o.outcome = .ok a) :
    Succeeded k (log ++ [o]) b :=
  ⟨o, List.mem_append_right _ (List.mem_singleton.mpr rfl), profile, a, hsource, ho⟩

theorem Column.Written.append (h : col.Written k log r) : col.Written k (log ++ [o]) r := by
  obtain ⟨b, hb, hr⟩ := h
  exact ⟨b, hb.append, hr⟩

/-- It is about the value only. -/
theorem Column.Written.congr (h : col.Written k log r) (hr : col.get r' = col.get r) :
    col.Written k log r' := by
  obtain ⟨b, hb, hset, hget⟩ := h
  exact ⟨b, hb, hset, hr.trans hget⟩

/-- A request completed in its first step is no upsert that has succeeded. -/
theorem Succeeded.of_append_inl {req : Request} (ho : o.source = .inl req)
    (h : Succeeded k (log ++ [o]) b) : Succeeded k log b := by
  obtain ⟨o', ho', profile, a, hsource, houtcome⟩ := h
  rcases List.mem_append.mp ho' with ho' | ho'
  · exact ⟨o', ho', profile, a, hsource, houtcome⟩
  · obtain rfl := List.mem_singleton.mp ho'
    cases ho.symm.trans hsource

end Log

/-- A member has one profile. -/
theorem Store.eq_of_memberId {r r' : FamilyMemberProfile} (hr : r ∈ d.memberProfiles)
    (hr' : r' ∈ d.memberProfiles) (h : r'.memberId = r.memberId) : r' = r :=
  Option.some.inj ((find_memberProfile.mpr ⟨hr', h⟩).symm.trans (find_memberProfile.mpr ⟨hr, rfl⟩))

namespace Racing

variable {c : State}

/-- **An upsert that finishes** leaves a row in which every column is kept or
holds what the upsert sets it to. -/
theorem finish (h : Racing k c) {o : Completed Env Request Flight Exn Response} {i : ℕ}
    {b : MemberProfileUpsert} {profile : Option FamilyMemberProfile} {a : FamilyMemberProfile}
    {response : Response} (hstored : d'.Stored) (hmembers : d'.members = c.shared.members)
    (ha : a ∈ d'.memberProfiles) (hk : a.memberId = k)
    (hsource : o.source = .inr (.upsertProfile k b profile)) (hok : o.outcome = .ok response)
    (hrow : ∀ r ∈ c.shared.memberProfiles, r.memberId = k → r.id = a.id ∧
      ∀ col ∈ columns .familyMemberProfile, col.Holds b a ∨ col.get a = col.get r)
    (hset : ∀ col ∈ columns .familyMemberProfile, col.set (.memberProfile b) = true →
      col.Written k (c.log ++ [o]) a) :
    Racing k ⟨d', c.flights.eraseIdx i, c.log ++ [o]⟩ := by
  have hb : Succeeded k (c.log ++ [o]) b := .last hsource hok
  refine ⟨hstored, fun o' ho' => ?_, fun l hl => ?_, fun b' hb' => ?_⟩
  · rcases List.mem_append.mp ho' with ho' | ho'
    · exact h.answered o' ho'
    · obtain rfl := List.mem_singleton.mp ho'
      exact Or.inl ⟨response, hok⟩
  · obtain ⟨b', profile', rfl, hnulls, hmember, hloaded⟩ :=
      h.flights l (List.mem_of_mem_eraseIdx hl)
    refine ⟨b', profile', rfl, hnulls, by rwa [hmembers], fun loaded hl => ?_⟩
    obtain ⟨hcoerce, r, hr, hrk, hid, hcol⟩ := hloaded loaded hl
    obtain ⟨hida, hcola⟩ := hrow r hr hrk
    refine ⟨hcoerce, a, ha, hk, hida.symm.trans hid, fun col hc => ?_⟩
    rcases hcola col hc with hholds | hget
    · exact Or.inr ⟨b, hb, hholds⟩
    · exact (hcol col hc).imp hget.trans (fun hw => hw.append.congr hget)
  · refine ⟨a, ha, hk, fun col hc hs => ?_⟩
    obtain ⟨o', ho', profile', a', hsource', hok'⟩ := hb'
    rcases List.mem_append.mp ho' with ho' | ho'
    · obtain ⟨r, hr, hrk, hcol⟩ := h.written b' ⟨o', ho', profile', a', hsource', hok'⟩
      rcases (hrow r hr hrk).2 col hc with hholds | hget
      · exact ⟨b, hb, hholds⟩
      · exact (hcol col hc hs).append.congr hget
    · obtain rfl := List.mem_singleton.mp ho'
      cases hsource.symm.trans hsource'
      exact hset col hc hs

/-- **A request that starts** finds the profile, or ends in an error of the
service. -/
theorem start (h : Racing k c) {f : UUID} {b : MemberProfileUpsert} (hb : b.NoNulls) :
    Racing k ((concurrentService P).move c (.start env (.family f (.upsertProfile k b)))) := by
  cases hf : (concurrentService P).first env (.family f (.upsertProfile k b)) c.shared with
  | mk d r =>
    obtain rfl : d = c.shared := by
      rcases first_cases hf with hd | ⟨_, -, ⟨_, _, hreq, -⟩ | ⟨_, _, _, hreq, hop, -⟩⟩
      · exact hd
      · cases hreq
      · cases hreq
        cases hop
    cases r with
    | inl l =>
      obtain ⟨-, s, hret⟩ := TwoStep.ofPhases_first_flight hf
      obtain ⟨profile, s₁, hfind, hp⟩ := Tx.returns_bind.mp hret
      obtain ⟨hl, -⟩ := Tx.returns_pure.mp hp
      obtain rfl := Sum.inl.inj hl
      obtain ⟨-, ⟨m, hm, hid, -⟩, rfl⟩ := MemberService.findProfile_returns hfind
      rw [TwoStep.move_start_flight hf]
      refine ⟨h.stored, h.answered, fun l hl => ?_, h.written⟩
      rcases List.mem_append.mp hl with hl | hl
      · exact h.flights l hl
      · obtain rfl := List.mem_singleton.mp hl
        refine ⟨b, _, rfl, hb, ⟨m, hm, hid⟩, fun loaded hloaded => ?_⟩
        obtain ⟨hmem, hmember⟩ := Store.find_memberProfile.mp hloaded
        exact ⟨h.stored .familyMemberProfile loaded hmem, loaded, hmem, hmember, rfl,
          fun _ _ => Or.inl rfl⟩
    | inr o =>
      obtain ⟨-, hsource, hs⟩ := TwoStep.ofPhases_first_done hf
      rw [TwoStep.move_start_done hf]
      refine ⟨h.stored, fun o' ho' => ?_, fun l hl => ?_, fun b' hb' => ?_⟩
      · rcases List.mem_append.mp ho' with ho' | ho'
        · exact h.answered o' ho'
        · obtain rfl := List.mem_singleton.mp ho'
          cases ho : o'.outcome with
          | ok response => exact Or.inl ⟨response, ho⟩
          | error x =>
            rw [ho] at hs
            obtain ⟨s, hraise, -⟩ := Tx.serve_error_iff.mp hs
            have hx := MemberService.findProfile_raises (Tx.raises_bind_pure.mp hraise)
            exact Or.inr ⟨_, ho.trans (by rw [hx])⟩
      · obtain ⟨b', profile', rfl, hnulls, hmember, hloaded⟩ := h.flights l hl
        refine ⟨b', profile', rfl, hnulls, hmember, fun loaded hl => ?_⟩
        obtain ⟨hcoerce, r, hr, hrk, hid, hcol⟩ := hloaded loaded hl
        exact ⟨hcoerce, r, hr, hrk, hid, fun col hc => (hcol col hc).imp id Column.Written.append⟩
      · obtain ⟨r, hr, hrk, hcol⟩ := h.written b' (hb'.of_append_inl hsource)
        exact ⟨r, hr, hrk, fun col hc hset => (hcol col hc hset).append⟩

/-- **A move that loses no race keeps it.** -/
theorem move (h : Racing k c) (m : Move Env Request) (hup : Upserting P k c m)
    (hun : Unraced c m) : Racing k ((concurrentService P).move c m) := by
  cases m with
  | start env req =>
    obtain ⟨f, b, rfl, hb⟩ := hup
    exact h.start hb
  | finish env i =>
    cases hi : c.flights[i]? with
    | none =>
      rw [TwoStep.move_finish_none hi]
      exact h
    | some l =>
      obtain ⟨b, profile, rfl, hb, ⟨m, hm, hid⟩, hloaded⟩ := h.flights l (List.mem_of_getElem? hi)
      obtain ⟨hfits, hnone⟩ := hun _ hi
      rw [TwoStep.move_finish hi]
      cases profile with
      | none =>
        subst hid
        obtain ⟨a, ha⟩ := MemberService.coerce_newProfile.mpr hfits
        obtain ⟨d', hrows, hput⟩ := MemberService.putProfile_insert hup hm (hnone rfl) ha
        have hmembers : d'.members = c.shared.members :=
          (congrFun hrows .familyMember).trans (Schema.insert_of_ne (by simp))
        have hmem : a ∈ d'.rows .familyMemberProfile := by
          rw [hrows, Schema.insert_self]
          exact Table.mem_insert.mpr (Or.inr rfl)
        have hmember : FamilyMemberProfile.memberId a = m.id :=
          Option.some.inj ((coerce_sameKeys ha).reference _ List.mem_cons_self)
        rw [second_upsertProfile hput]
        exact h.finish (h.stored.of_stores (MemberService.putProfile_stores hput)) hmembers hmem
          hmember rfl rfl (fun r hr hrk => absurd hrk (hnone rfl r hr)) fun col hc hset =>
            ⟨b, Succeeded.last rfl rfl, MemberService.newProfile_holds hb ha col hc hset⟩
      | some loaded =>
        obtain ⟨hcoerce, r, hr, hrk, hrid, hcol⟩ := hloaded loaded rfl
        obtain ⟨a, d', hrows, hkeys, hput, hholds⟩ := MemberService.putProfile_update env k hb hfits
          hcoerce hr hrid (h.stored .familyMemberProfile r hr)
        have hmembers : d'.members = c.shared.members :=
          (congrFun hrows .familyMember).trans (Schema.replace_of_ne (by simp))
        have hmem : a ∈ d'.rows .familyMemberProfile := by
          rw [hrows, Schema.replace_self]
          exact Table.mem_replace.mpr (Or.inl ⟨rfl, r, hr, hkeys.id.symm⟩)
        have hmember : a.memberId = k :=
          (Option.some.inj (hkeys.reference _ List.mem_cons_self)).trans hrk
        rw [second_upsertProfile hput]
        refine h.finish (h.stored.of_stores (MemberService.putProfile_stores hput)) hmembers hmem
          hmember rfl rfl (fun r' hr' hrk' => ?_) (fun col hc hset => ?_)
        · obtain rfl := Store.eq_of_memberId hr hr' (hrk'.trans hrk.symm)
          exact ⟨hkeys.id.symm, fun col hc => (hholds col hc).imp id And.left⟩
        · rcases hholds col hc with hholds | ⟨hget, hheld⟩
          · exact ⟨b, Succeeded.last rfl rfl, hholds⟩
          · -- the body sets what was loaded, which is there unless it was set since
            rcases hcol col hc with hsame | hw
            · exact ⟨b, Succeeded.last rfl rfl, hset, hget.trans (hsame.trans (hheld hset).2)⟩
            · exact hw.append.congr hget

end Racing

/-- **Upserts of one profile that lose no race** do not get in each other's
way: from every state the service reaches, however they are interleaved, each
succeeds or ends in an error of the service, there is one profile at most, and
every column that one of them has set holds what one of them has set it to. -/
theorem profile_upserts_race (P : Platform) (before ms : List (Move Env Request)) (k : UUID) :
    let start : State := ⟨((concurrentService P).system.run idle before).shared, [], []⟩
    (concurrentService P).system.Every (Upserting P k) start ms →
    (concurrentService P).system.Every Unraced start ms →
    let c := (concurrentService P).system.run start ms
    (∀ o ∈ c.log, o.Answered) ∧
    (c.shared.memberProfiles.filter (fun r => r.memberId = k)).length ≤ 1 ∧
    ∀ b, Succeeded k c.log b → ∃ r ∈ c.shared.memberProfiles, r.memberId = k ∧
      ∀ col ∈ columns .familyMemberProfile, col.set (.memberProfile b) = true →
        ∃ b', Succeeded k c.log b' ∧ col.Holds b' r := by
  intro start hup hun c
  have hstart : Racing k start := by
    refine ⟨stored_run P before, fun o ho => absurd ho List.not_mem_nil,
      fun l hl => absurd hl List.not_mem_nil, ?_⟩
    rintro b ⟨o, ho, -⟩
    exact absurd ho List.not_mem_nil
  have h : Racing k c := (concurrentService P).system.run_invariant (Racing k)
    (fun c m hc hm => hc.move m hm.1 hm.2) hstart ((concurrentService P).system.every_and hup hun)
  refine ⟨h.answered, ?_, h.written⟩
  rw [Table.filter_eq_find?_toList (c.shared.nodup .familyMemberProfile)
    (fun r hr r' hr' hk hk' => Store.eq_of_memberId hr' hr (by simp_all))]
  exact Option.length_toList_le

namespace Sample

/-- A parent and an agent, who have talked about the member. -/
def talk : MemberProfileUpsert :=
  { MemberProfileUpsert.empty with concerns := some (some ["bedtime"]) }

/-- An upsert of the profile of the member who signs up. -/
def upsert (k : ℕ) (now : Datetime) (b : MemberProfileUpsert) : Move Env Request :=
  .start (Sample.env k now) (.family 1 (.upsertProfile 1 b))

/-- The state after the signup. -/
def atRest : State :=
  ⟨((concurrentService (Sample.platform 2592000)).system.run idle Sample.founded).shared, [], []⟩

end Sample

/-- Once there is a profile, two may update it at a time. -/
theorem profile_upserts_race_update :
    let M := (concurrentService (Sample.platform 2592000)).system
    let ms := [Sample.upsert 2 (Sample.second 60) Sample.talk,
      .finish (Sample.env 2 (Sample.second 60)) 0,
      Sample.upsert 3 (Sample.second 61) Sample.talk,
      Sample.upsert 4 (Sample.second 61) { Sample.talk with source := some (some "agent") },
      .finish (Sample.env 3 (Sample.second 62)) 0, .finish (Sample.env 4 (Sample.second 62)) 0]
    ∀ o ∈ (M.run Sample.atRest ms).log, o.Answered := by
  intro M ms
  refine (profile_upserts_race (Sample.platform 2592000) Sample.founded ms 1 ?_ ?_).1
  · refine ⟨⟨1, _, rfl, by decide⟩, ?_, ⟨1, _, rfl, by decide⟩, ⟨1, _, rfl, by decide⟩, ?_, ?_,
      trivial⟩ <;> exact Upserting.finish (by decide +kernel)
  · decide +kernel

/-- **Two first upserts** crash one of them: both find no profile and insert
one, and nothing handles the violation of the second. -/
theorem profile_upserts_race_insert :
    let M := (concurrentService (Sample.platform 2592000)).system
    let ms := [Sample.upsert 2 (Sample.second 60) Sample.talk,
      Sample.upsert 3 (Sample.second 60) { Sample.talk with source := some (some "agent") },
      .finish (Sample.env 2 (Sample.second 61)) 0, .finish (Sample.env 3 (Sample.second 61)) 0]
    M.Every (Upserting (Sample.platform 2592000) 1) Sample.atRest ms ∧
      ∃ o ∈ (M.run Sample.atRest ms).log, o.outcome = .error .integrityError := by
  refine ⟨⟨⟨1, _, rfl, by decide⟩, ⟨1, _, rfl, by decide⟩, ?_, ?_, trivial⟩, by decide +kernel⟩ <;>
    exact Upserting.finish (by decide +kernel)
