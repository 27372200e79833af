import Accounts.Concerns
import Accounts.Projection

/-!
# A family is served as if it were alone

The service keeps all families in one database and serves them with one
stream of requests. Drop from a run the requests that do not concern `f`:
the service answers the rest as it did in the whole run, and ends in the rows
of `f` that the whole run ended in (`family_served_alone`). What families share
is the uniqueness of emails, so the run is one in which no new member of `f`
takes an email of another family.
-/

open Repository

variable {P : Platform} {env : Env} {f g : UUID} {d e : Database}

/-! ## Serving by steps -/

section Steps

variable {req : Request} {s : Session Database}

theorem serve_of_begin_done {response : Response}
    (h : (req.begin P env).Returns ⟨d, d⟩ (.inr response) s) :
    serve P env req d = (.ok response, s.working) := by
  rw [serve, Request.run_eq_begin_finish]
  exact Tx.serve_ok_iff.mpr ⟨s, Tx.returns_bind.mpr ⟨_, s, h, Tx.returns_pure.mpr ⟨rfl, rfl⟩⟩, rfl⟩

theorem serve_of_begin_flight {flight : Flight}
    (h : (req.begin P env).Returns ⟨d, d⟩ (.inl flight) s) :
    serve P env req d = Tx.serve Exn.handled (flight.finish P env) d := by
  obtain rfl := Request.begin_flight h
  have hb : req.begin P env ⟨d, d⟩ = (.ok (.inl flight), ⟨d, d⟩) := h
  rw [serve, Request.run_eq_begin_finish]
  unfold Tx.serve
  simp only [bind, hb, Sum.elim_inl]

theorem serve_of_begin_raises {x : Exn} (h : (req.begin P env).Raises ⟨d, d⟩ x s) :
    serve P env req d = (.error x, d) := by
  have hclean : Tx.Clean Exn.handled (req.begin P env) := Request.clean_begin rfl req
  have hd := hclean.serve (Tx.serve_error_iff.mpr ⟨s, h, rfl⟩) id
  rw [serve, Request.run_eq_begin_finish]
  exact Tx.serve_error_iff.mpr ⟨s, Tx.raises_bind.mpr (Or.inl h), hd.symm⟩

end Steps

/-- An operation that records who called it is called by a member. -/
def Request.ByMember (d : Database) : Request → Prop
  | family g op => op.ByMember g d
  | auth _ => True

instance (d : Database) : (req : Request) → Decidable (req.ByMember d)
  | .family g op => inferInstanceAs (Decidable (op.ByMember g d))
  | .auth _ => inferInstanceAs (Decidable True)

/-- The email the request is to register. -/
def Request.registers : Request → Option String
  | auth (.signup body) => some body.email
  | family _ (.createMember body) => body.email
  | _ => none

theorem Request.registers_iff {req : Request} {email : String} :
    req.registers = some email ↔ req.RegistersEmail email := by
  cases req with
  | auth op => cases op <;> simp [registers, RegistersEmail]
  | family g op => cases op <;> simp [registers, RegistersEmail]

/-! ## One request -/

/-- There is nothing in the empty database. -/
theorem Restricts.empty (f : UUID) : Restricts f (Store.empty schema) (Store.empty schema) :=
  ⟨rfl, by rintro k T r ⟨⟩⟩

/-- **A request that concerns the family is served alike** by the family's
database, which stays what is left of the whole one. -/
theorem serve_local (h : Restricts f d e) (hl : Lineages d.refreshTokens) (hf : env.Fresh P d)
    {req : Request} (hc : req.Concerns P env f d) (hby : req.ByMember d)
    (hemail : ∀ email ∈ req.registers, EmailFree f d email) :
    (serve P env req e).1 = (serve P env req d).1 ∧
      Restricts f (serve P env req d).2 (serve P env req e).2 := by
  have hemail' : ∀ email, req.RegistersEmail email → EmailFree f d email :=
    fun email he => hemail email (Request.registers_iff.mpr he)
  rcases Request.local_begin h hl hf hc (by rintro g op rfl; exact hby) hemail' ⟨d, d⟩ ⟨e, e⟩
    ⟨rfl, rfl⟩ with ⟨r, _, s, s', hs, hs', rfl, hr⟩ | ⟨x, s, s', hs, hs'⟩
  · cases r with
    | inr response =>
      rw [serve_of_begin_done hs, serve_of_begin_done hs']
      exact ⟨rfl, hr⟩
    | inl flight =>
      rw [serve_of_begin_flight hs, serve_of_begin_flight hs']
      obtain ⟨g, hleft⟩ := Request.begin_leaves hl hs
      obtain rfl : g = f := hleft.concerns.eq hc
      exact Flight.local_finish h hf hleft.within hleft.founds
        (fun email he => hemail' email (hleft.registers email he))
  · rw [serve_of_begin_raises hs, serve_of_begin_raises hs']
    exact ⟨rfl, h⟩

/-- **A request that does not concern the family** leaves its slice. -/
theorem slice_serve_of_not_concerns (hl : Lineages d.refreshTokens) {req : Request}
    (hc : ¬ req.Concerns P env f d) : slice f (serve P env req d).2.rows = slice f d.rows := by
  rcases Tx.returns_or_raises (req.begin P env) ⟨d, d⟩ with ⟨r, s, hs⟩ | ⟨x, s, hs⟩
  · cases r with
    | inr response =>
      rw [serve_of_begin_done hs]
      exact Request.slice_begin hc hs
    | inl flight =>
      rw [serve_of_begin_flight hs]
      obtain ⟨g, hleft⟩ := Request.begin_leaves hl hs
      have hfg : f ≠ g := by
        rintro rfl
        exact hc hleft.concerns
      exact Flight.slice_finish hfg hleft.within hleft.founds
  · rw [serve_of_begin_raises hs]

/-- A request keeps rows to rows of their own family. -/
theorem serve_familyReferences {req : Request} (h : FamilyReferences d.rows)
    (hby : req.ByMember d) : FamilyReferences (serve P env req d).2.rows := by
  rcases serve_cases P env req d with ⟨o, hfirst, -⟩ | ⟨flight, s, o, -, hsecond, -⟩
  · exact first_familyReferences h (by rintro g op rfl; exact hby) hfirst
  · obtain ⟨-, -, hs⟩ := TwoStep.ofPhases_second hsecond
    exact Flight.finish_familyReferences h hs

/-! ## A family served alone -/

/-- **The requests of a run that concern the family.** -/
def concerning (P : Platform) (f : UUID) (d : Database) (i : Env × Request) : Bool :=
  decide (i.2.Concerns P i.1 f d)

/-- **What a run is of which the family notices nothing but its own
requests**: what a request draws is new, an operation that records who called
it is called by a member, and a new member of the family takes no email of
another one. -/
def Apart (P : Platform) (f : UUID) (d : Database) (i : Env × Request) : Prop :=
  i.1.Fresh P d ∧ i.2.ByMember d ∧
    (i.2.Concerns P i.1 f d → ∀ email ∈ i.2.registers, EmailFree f d email)

instance (f : UUID) (d : Database) (email : String) : Decidable (EmailFree f d email) :=
  inferInstanceAs (Decidable (∀ m ∈ d.members, _))

instance (P : Platform) (f : UUID) (d : Database) (i : Env × Request) : Decidable (Apart P f d i) :=
  inferInstanceAs (Decidable (_ ∧ _ ∧ (_ → ∀ email ∈ i.2.registers, _)))

/-- **A family is served as if it were alone.** Of a run of any requests, of
any families, in any order, take those that concern `f`. The service that is
given only these answers each of them as it was answered in the whole run, and
ends in exactly the rows of `f` that the whole run ended in. -/
theorem family_served_alone (P : Platform) (f : UUID) (is : List (Env × Request))
    (h : (service P).Every (Apart P f) (Store.empty schema) is) :
    ((service P).run (Store.empty schema)
        ((service P).kept (concerning P f) (Store.empty schema) is)).rows
      = slice f ((service P).run (Store.empty schema) is).rows ∧
    (service P).trace (Store.empty schema)
        ((service P).kept (concerning P f) (Store.empty schema) is)
      = (service P).keptTrace (concerning P f) (Store.empty schema) is := by
  have hempty : Restricts f (Store.empty schema) (Store.empty schema) ∧
      Lineages (Database.refreshTokens (Store.empty schema)) :=
    ⟨Restricts.empty f, by rintro x ⟨⟩, by rintro x ⟨⟩, by rintro x ⟨⟩⟩
  have hproj := Process.projection_run (M := service P) (N := service P) (P := Apart P f)
    (concerning P f) (fun d e => Restricts f d e ∧ Lineages d.refreshTokens) ?_ ?_ hempty h
  · exact ⟨hproj.1.1.rows, hproj.2⟩
  · rintro d e ⟨env, req⟩ ⟨hr, hl⟩ ⟨hf, hby, -⟩ hc
    refine ⟨⟨?_, serve_familyReferences hr.references hby⟩,
      hl.step (tokenStep_serve P env req d) hf.session⟩
    rw [hr.rows]
    exact (slice_serve_of_not_concerns hl (of_decide_eq_false hc)).symm
  · rintro d e ⟨env, req⟩ ⟨hr, hl⟩ ⟨hf, hby, hemail⟩ hc
    have hc' : req.Concerns P env f d := of_decide_eq_true hc
    obtain ⟨hanswer, hr'⟩ := serve_local hr hl hf hc' hby (hemail hc')
    exact ⟨hanswer, hr', hl.step (tokenStep_serve P env req d) hf.session⟩

/-- Two families found themselves, and the members of both go about their
business in turn. -/
def Sample.twoHouseholds : List (Env × Request) :=
  [(Sample.env 1 (Sample.second 0), .auth (.signup (Sample.signup "ada@example.org" none))),
    (Sample.env 2 (Sample.second 1), .auth (.signup (Sample.signup "bob@example.org" none))),
    (Sample.env 3 (Sample.second 2), .family 1 (.createMember Sample.newMember)),
    (Sample.env 4 (Sample.second 3), .auth (.refresh "refresh-2")),
    (Sample.env 5 (Sample.second 4), .auth (.refresh "refresh-2")),
    (Sample.env 6 (Sample.second 5), .auth (.logout "refresh-1"))]

/-- The first of the two families, alone: three of the six requests. -/
theorem family_served_alone_two_households :
    ((service (Sample.platform 2592000)).kept (concerning (Sample.platform 2592000) 1)
        (Store.empty schema) Sample.twoHouseholds).length = 3 ∧
      ((service (Sample.platform 2592000)).run (Store.empty schema)
          ((service (Sample.platform 2592000)).kept (concerning (Sample.platform 2592000) 1)
            (Store.empty schema) Sample.twoHouseholds)).rows
        = slice 1 ((service (Sample.platform 2592000)).run (Store.empty schema)
            Sample.twoHouseholds).rows :=
  ⟨by decide +kernel, (family_served_alone (Sample.platform 2592000) 1 Sample.twoHouseholds
    (by decide +kernel)).1⟩
