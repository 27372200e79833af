import Accounts.Flights

/-!
# What is read is what was written last

Children, policies and entries of the reading history are answered in full
when they are created or updated. So the answers, put in the order in which
they were given, say what each of these rows has to be: the last answer about
it, unless it has been deleted since. They are an abstract store, a map from
identifiers to rows, and `find_eq_last` says that the tables are its
refinement, in every interleaving of any requests: no other request writes
them, a request that fails writes nothing, and what is answered is what is
stored.

`reads_last_writes` is what a client sees of it, from any reachable state: a
child that is read is the last one written, and a list has the rows written
last, those of the family or the child and no others, in the order of their
creation.
-/

open Repository

variable {P : Platform} {env : Env} {d d' : Database} {f : UUID}

/-! ## The writes an answer tells of -/

/-- **What an operation that was answered has written**, of the three tables. -/
def FamilyOp.write : (T : TableName) → FamilyOp → Response → Option (Write UUID T.Row)
  | .childProfile, createChild _, .child r | .childProfile, updateChild _ _, .child r =>
    some (.put r.id r)
  | .childProfile, deleteChild id, .done => some (.remove id)
  | .familyReadingPolicy, createPolicy _, .policy r
  | .familyReadingPolicy, updatePolicy _ _, .policy r => some (.put r.id r)
  | .familyReadingPolicy, deletePolicy id, .done => some (.remove id)
  | .readingHistory, addReadingHistory _ _, .entry r
  | .readingHistory, updateReadingHistory _ _ _, .entry r => some (.put r.id r)
  | .readingHistory, deleteReadingHistory _ id, .done => some (.remove id)
  | _, _, _ => none

/-- What a completed request has written. -/
def Completed.write (T : TableName) (o : Completed Env Request Flight Exn Response) :
    Option (Write UUID T.Row) :=
  match o.source, o.outcome with
  | .inl (.family _ op), .ok response => op.write T response
  | _, _ => none

/-- **The row written last**, of those with the identifier. -/
def lastWritten (T : TableName) (log : List (Completed Env Request Flight Exn Response)) :
    UUID → Option T.Row :=
  Write.last (log.filterMap (Completed.write T))

/-- The tables whose rows are answered in full. -/
def TableName.answered : TableName → Bool
  | childProfile | familyReadingPolicy | readingHistory => true
  | _ => false

/-! ## One operation -/

/-- **What the writes of an operation make of a table.** -/
def Writes (T : TableName) (d : Database) (w : Option (Write UUID T.Row)) (d' : Database) : Prop :=
  ∀ k, d'.find T k = (w.elim (d.find T) (Write.apply (d.find T))) k

theorem Writes.none {T : TableName} (h : d'.rows T = d.rows T) : Writes T d none d' :=
  fun k => congrArg (fun rows => rows.find? (fun r => T.id r = k)) h

section Statements

variable {T : TableName} {s s' : Session Database}

/-- The row an insert returns is what it writes. -/
theorem Repository.writes_add {r a : T.Row} (h : (add T r).Returns s a s') :
    Writes T s.working (some (.put (T.id a) a)) s'.working := by
  obtain ⟨-, d, hd, rfl⟩ := returns_add.mp h
  exact fun k => Store.find_insert (by rw [hd, Schema.insert_self])

/-- The row an update returns is what it writes. -/
theorem Repository.writes_update {id : UUID} {changes : T.Row → Except Exn T.Row} {a : T.Row}
    (hc : ∀ r r', changes r = .ok r' → schema.SameKeys T r' r)
    (h : (update env T id changes).Returns s a s') :
    Writes T s.working (some (.put (T.id a) a)) s'.working := by
  obtain ⟨old, hold, -, hk, hd⟩ := update_change hc h
  exact fun k => Store.find_replace hold hk.id.symm (by rw [hd, Schema.replace_self])

/-- A delete writes that the row is gone. -/
theorem Repository.writes_delete {id : UUID} (h : (delete T id).Returns s () s')
    (hT : ∀ t, T.cascade id t T = t T) :
    Writes T s.working (some (.remove id)) s'.working := by
  obtain ⟨-, d, hd, rfl⟩ := returns_delete.mp h
  exact fun k => Store.find_delete (by rw [hd, Schema.delete_self, hT])

end Statements

/-- An operation about another table writes nothing to this one. -/
theorem FamilyOp.write_of_target_ne {T : TableName} {op : FamilyOp} (h : op.target ≠ some T)
    (response : Response) : op.write T response = none := by
  unfold write
  split
  all_goals first
    | rfl
    | exact absurd rfl h

/-- **An operation writes what its answer tells.** -/
theorem FamilyOp.writes_run {T : TableName} (hT : T.answered = true) {op : FamilyOp}
    {response : Response} {s s' : Session Database}
    (h : (op.run P env f).Returns s response s') :
    Writes T s.working (op.write T response) s'.working := by
  by_cases htarget : op.target = some T
  · cases op with
    | createChild body =>
      obtain rfl := Option.some.inj htarget
      obtain ⟨child, h₁, rfl⟩ := Tx.returns_bind_pure.mp h
      obtain ⟨a, s₁, hadd, h₂⟩ := Tx.returns_bind.mp h₁
      obtain ⟨p, s₂, hprofile, hp⟩ := Tx.returns_bind.mp h₂
      obtain ⟨rfl, rfl⟩ := Tx.returns_pure.mp hp
      -- the profile goes to another table
      obtain ⟨-, hrows⟩ := add_change hprofile
      intro k
      refine Eq.trans ?_ (writes_add hadd k)
      refine congrArg (fun rows => List.find? (fun r => ChildProfile.id r = k) rows) ?_
      rw [hrows, Schema.insert_of_ne (by decide)]
    | updateChild childId body =>
      obtain rfl := Option.some.inj htarget
      obtain ⟨a, h₁, rfl⟩ := Tx.returns_bind_pure.mp h
      obtain ⟨child, s₁, hrequire, hupdate⟩ := Tx.returns_bind.mp h₁
      obtain ⟨-, -, -, rfl⟩ := ChildService.require_returns.mp hrequire
      exact writes_update (fun r r' => ChildProfile.applyChanges_sameKeys) hupdate
    | deleteChild childId =>
      obtain rfl := Option.some.inj htarget
      obtain ⟨_, s₁, h₁, hp⟩ := Tx.returns_bind.mp h
      obtain ⟨rfl, rfl⟩ := Tx.returns_pure.mp hp
      obtain ⟨child, s₂, hrequire, hdelete⟩ := Tx.returns_bind.mp h₁
      obtain ⟨-, rfl, -, rfl⟩ := ChildService.require_returns.mp hrequire
      exact writes_delete hdelete (fun t => Schema.discard_of_ne (by decide))
    | createPolicy body =>
      obtain rfl := Option.some.inj htarget
      obtain ⟨a, h₁, rfl⟩ := Tx.returns_bind_pure.mp h
      obtain ⟨childId, s₁, hresolve, hadd⟩ := Tx.returns_bind.mp h₁
      obtain ⟨rfl, -⟩ := PolicyService.resolveChild_returns hresolve
      exact writes_add hadd
    | updatePolicy policyId body =>
      obtain rfl := Option.some.inj htarget
      obtain ⟨a, h₁, rfl⟩ := Tx.returns_bind_pure.mp h
      obtain ⟨policy, s₁, hrequire, hupdate⟩ := Tx.returns_bind.mp h₁
      obtain ⟨-, -, -, rfl⟩ := PolicyService.require_returns.mp hrequire
      exact writes_update (fun r r' => FamilyReadingPolicy.applyChanges_sameKeys) hupdate
    | deletePolicy policyId =>
      obtain rfl := Option.some.inj htarget
      obtain ⟨_, s₁, h₁, hp⟩ := Tx.returns_bind.mp h
      obtain ⟨rfl, rfl⟩ := Tx.returns_pure.mp hp
      obtain ⟨policy, s₂, hrequire, hdelete⟩ := Tx.returns_bind.mp h₁
      obtain ⟨-, rfl, -, rfl⟩ := PolicyService.require_returns.mp hrequire
      exact writes_delete hdelete (fun t => rfl)
    | addReadingHistory childId body =>
      obtain rfl := Option.some.inj htarget
      obtain ⟨a, h₁, rfl⟩ := Tx.returns_bind_pure.mp h
      obtain ⟨child, s₁, hrequire, hadd⟩ := Tx.returns_bind.mp h₁
      obtain ⟨-, -, -, rfl⟩ := ChildService.require_returns.mp hrequire
      exact writes_add hadd
    | updateReadingHistory childId entryId body =>
      obtain rfl := Option.some.inj htarget
      obtain ⟨a, h₁, rfl⟩ := Tx.returns_bind_pure.mp h
      obtain ⟨child, s₁, hrequire, h₂⟩ := Tx.returns_bind.mp h₁
      obtain ⟨-, -, -, rfl⟩ := ChildService.require_returns.mp hrequire
      obtain ⟨entry, s₂, hentry, hupdate⟩ := Tx.returns_bind.mp h₂
      obtain ⟨-, -, -, rfl⟩ := ChildService.requireEntry_returns.mp hentry
      exact writes_update (fun r r' => ReadingHistory.applyChanges_sameKeys) hupdate
    | deleteReadingHistory childId entryId =>
      obtain rfl := Option.some.inj htarget
      obtain ⟨_, s₁, h₁, hp⟩ := Tx.returns_bind.mp h
      obtain ⟨rfl, rfl⟩ := Tx.returns_pure.mp hp
      obtain ⟨child, s₂, hrequire, h₂⟩ := Tx.returns_bind.mp h₁
      obtain ⟨-, -, -, rfl⟩ := ChildService.require_returns.mp hrequire
      obtain ⟨entry, s₃, hentry, hdelete⟩ := Tx.returns_bind.mp h₂
      obtain ⟨-, rfl, -, rfl⟩ := ChildService.requireEntry_returns.mp hentry
      exact writes_delete hdelete (fun t => rfl)
    | _ => cases htarget <;> cases hT
  · rw [write_of_target_ne htarget]
    refine Writes.none ((run_change h).rows_of_ne htarget ?_ ?_)
    · rintro rfl
      cases hT
    · rintro rfl
      cases hT

/-! ## All interleavings -/

/-- **The tables refine the abstract store**: what is stored under an identifier
is what was written last. -/
def Refines (d : Database) (log : List (Completed Env Request Flight Exn Response)) : Prop :=
  ∀ T : TableName, T.answered = true → ∀ k, d.find T k = lastWritten T log k

/-- A completed request adds its write to those before. -/
theorem Refines.step {log : List (Completed Env Request Flight Exn Response)}
    {o : Completed Env Request Flight Exn Response} (h : Refines d log)
    (hw : ∀ T : TableName, T.answered = true → Writes T d (o.write T) d') :
    Refines d' (log ++ [o]) := by
  intro T hT k
  have hm : d.find T = lastWritten T log := funext (h T hT)
  rw [hw T hT k, hm, lastWritten, lastWritten, List.filterMap_append]
  cases hwrite : o.write T with
  | none => simp [hwrite]
  | some w => simp [hwrite]

/-- **A request completed in its first step** writes what its answer tells. -/
theorem writes_first {req : Request} {o : Completed Env Request Flight Exn Response}
    (h : (concurrentService P).first env req d = (d', .inr o)) {T : TableName}
    (hT : T.answered = true) : Writes T d (o.write T) d' := by
  obtain ⟨-, hsource, hs⟩ := TwoStep.ofPhases_first_done h
  unfold Completed.write
  rw [hsource]
  cases ho : o.outcome with
  | error e =>
    rw [ho] at hs
    have hclean : Tx.Clean Exn.handled (req.begin P env) := Request.clean_begin rfl req
    obtain rfl := hclean.serve hs id
    cases req <;> exact Writes.none rfl
  | ok response =>
    rw [ho] at hs
    obtain ⟨s', hret, rfl⟩ := Tx.serve_ok_iff.mp hs
    cases req with
    | family f op => exact FamilyOp.writes_run hT (Request.begin_family_done hret).2
    | auth op =>
      refine Writes.none ?_
      rcases first_cases h with hd | ⟨s', hd, ⟨body, a, -, hl⟩ | ⟨f, op, _, heq, -⟩⟩
      · rw [hd]
      · obtain ⟨m, -, hi⟩ := AuthService.login_returns hl
        rw [hd]
        exact AuthService.issueTokens_rows hi (by rintro rfl; cases hT)
      · cases heq

/-- What is in flight is about other tables. -/
theorem Flight.not_answered_of_mem_tables (flight : Flight) :
    ∀ T ∈ flight.tables, T.answered = false := by
  cases flight with
  | signup body invite => cases invite <;> simp [tables, TableName.answered]
  | _ => simp [tables, TableName.answered]

/-- **No second step** writes any of the tables. -/
theorem writes_second {flight : Flight} {o : Completed Env Request Flight Exn Response}
    (h : (concurrentService P).second env flight d = (d', o)) {T : TableName}
    (hT : T.answered = true) : Writes T d (o.write T) d' := by
  obtain ⟨-, hsource, hs⟩ := TwoStep.ofPhases_second h
  unfold Completed.write
  rw [hsource]
  refine Writes.none (Flight.finish_frame hs ?_)
  exact fun hmem => Bool.noConfusion (hT.symm.trans (flight.not_answered_of_mem_tables T hmem))

/-- **After every interleaving, the tables refine the abstract store.** -/
theorem find_eq_last (P : Platform) (ms : List (Move Env Request)) :
    Refines ((concurrentService P).system.run idle ms).shared
      ((concurrentService P).system.run idle ms).log := by
  refine ((concurrentService P).run_invariant (G := Refines) (L := fun _ _ => True) ?_ ?_
    ⟨fun T _ k => rfl, fun _ _ => trivial⟩
    ((concurrentService P).system.every_of_forall (P := fun _ => True) _ (fun _ _ => trivial))).1
  · rintro c env req ⟨hG, -⟩ -
    refine ⟨fun d l hf => ?_, fun d o hf => ⟨hG.step (fun T hT => writes_first hf hT),
      fun _ _ => trivial⟩⟩
    obtain ⟨rfl, -⟩ := TwoStep.ofPhases_first_flight hf
    exact ⟨hG, trivial, fun _ _ => trivial⟩
  · rintro c env k l ⟨hG, -⟩ - - d o hf
    exact ⟨hG.step (fun T hT => writes_second hf hT), fun _ _ => trivial⟩

/-! ## Reading -/

/-- **A list of the rows written last**: sorted, without repetition, and with
those rows for which `p` holds. -/
structure ListsLast (T : TableName) (log : List (Completed Env Request Flight Exn Response))
    (p : T.Row → Prop) (le : T.Row → T.Row → Prop) (rs : List T.Row) : Prop where
  /-- It is sorted. -/
  sorted : rs.Pairwise le
  /-- No identifier comes twice. -/
  nodup : (rs.map T.id).Nodup
  /-- Its rows are those written last. -/
  mem_iff : ∀ r, r ∈ rs ↔ lastWritten T log (T.id r) = some r ∧ p r

section Reads

variable {log : List (Completed Env Request Flight Exn Response)}

/-- What is stored is what was written last. -/
theorem Refines.mem_iff (h : Refines d log) {T : TableName} (hT : T.answered = true) {r : T.Row} :
    r ∈ d.rows T ↔ lastWritten T log (T.id r) = some r := by
  rw [← h T hT, Store.find_eq_some_iff]
  exact (and_iff_left rfl).symm

/-- **A sorted selection of a table** lists the rows written last. -/
theorem Refines.lists (h : Refines d log) {T : TableName} (hT : T.answered = true)
    {p : T.Row → Bool} {q : T.Row → Prop} (hq : ∀ r, p r = true ↔ q r)
    {le : T.Row → T.Row → Prop} [DecidableRel le] (htotal : ∀ a b, le a b ∨ le b a)
    (htrans : ∀ a b c, le a b → le b c → le a c) :
    ListsLast T log q le (((d.rows T).filter p).insertionSort le) := by
  have : Std.Total le := ⟨htotal⟩
  have : IsTrans T.Row le := ⟨htrans⟩
  refine ⟨List.pairwise_insertionSort le _, ?_, fun r => ?_⟩
  · have hkey : ((d.rows T).map T.id).Nodup := by
      have hu := d.consistent.key T
      rw [Table.Unique, List.filterMap_eq_map'] at hu
      exact hu
    rw [((List.perm_insertionSort le _).map _).nodup_iff]
    exact hkey.sublist (List.filter_sublist.map _)
  · rw [List.mem_insertionSort, List.mem_filter, h.mem_iff hT, hq]

/-- **Reads answer with what was written last**, whoever asks, and when. -/
structure ReadsLast (P : Platform) (d : Database)
    (log : List (Completed Env Request Flight Exn Response)) : Prop where
  /-- A child of the family, as it was written last; any other one is not
  found. -/
  child : ∀ env f id, (serve P env (.family f (.getChild id)) d).1
    = ((lastWritten .childProfile log id).filter (fun r => r.familyId = f)).elim
        (.error .notFound) (fun r => .ok (.child r))
  /-- The children of the family. -/
  children : ∀ env f, ∃ rs, (serve P env (.family f .listChildren) d).1 = .ok (.children rs) ∧
    ListsLast .childProfile log (fun r => r.familyId = f) (fun a b => a.createdAt ≤ b.createdAt) rs
  /-- The active policies of the family. -/
  policies : ∀ env f, ∃ rs, (serve P env (.family f .listPolicies) d).1 = .ok (.policies rs) ∧
    ListsLast .familyReadingPolicy log (fun r => r.familyId = f ∧ r.isActive = true)
      (fun a b => a.createdAt ≤ b.createdAt) rs
  /-- The history of a child of the family, the latest entry first. -/
  entries : ∀ env f id c, lastWritten .childProfile log id = some c → c.familyId = f →
    ∃ rs, (serve P env (.family f (.listReadingHistory id)) d).1 = .ok (.entries rs) ∧
      ListsLast .readingHistory log (fun r => r.childId = id) (fun a b => b.createdAt ≤ a.createdAt)
        rs

/-- A child that is read is the one with the identifier, if it is the
family's. -/
theorem ChildService.serve_get (id : UUID) :
    (serve P env (.family f (.getChild id)) d).1
      = ((d.find .childProfile id).filter (fun r => r.familyId = f)).elim
          (.error .notFound) (fun r => .ok (.child r)) := by
  have hfound : ∀ r, (d.find .childProfile id).filter (fun r => r.familyId = f) = some r ↔
      r ∈ d.children ∧ r.id = id ∧ r.familyId = f := by
    intro r
    rw [Option.filter_eq_some_iff, Store.find_eq_some_iff, decide_eq_true_eq, and_assoc]
    rfl
  cases hr : (d.find .childProfile id).filter (fun r => r.familyId = f) with
  | some r =>
    obtain ⟨hmem, hid, hfam⟩ := (hfound r).mp hr
    exact congrArg Prod.fst (Tx.serve_ok_iff.mpr ⟨⟨d, d⟩, Tx.returns_bind_pure.mpr
      ⟨r, ChildService.require_returns.mpr ⟨hmem, hid, hfam, rfl⟩, rfl⟩, rfl⟩)
  | none =>
    refine Tx.serve_fst_eq_error_iff.mpr ⟨⟨d, d⟩, Tx.raises_bind.mpr (Or.inl ?_)⟩
    refine (required_raises (fun d => ChildProfile.atMostOne id f d)).mpr
      ⟨fun r hmem hp => ?_, rfl, rfl⟩
    simp only [Bool.and_eq_true, decide_eq_true_eq] at hp
    rw [(hfound r).mpr ⟨hmem, hp.1, hp.2⟩] at hr
    cases hr

/-- **What refines the abstract store reads from it.** -/
theorem Refines.readsLast (h : Refines d log) : ReadsLast P d log := by
  have hread : ∀ {α : Type} {env : Env} {f : UUID} {op : FamilyOp} {t : Op α} {a : α}
      {g : α → Response}, op.run P env f = (do return g (← t)) → t.Returns ⟨d, d⟩ a ⟨d, d⟩ →
      (serve P env (.family f op) d).1 = .ok (g a) := by
    intro α env f op t a g hrun ht
    refine congrArg Prod.fst (Tx.serve_ok_iff.mpr ⟨⟨d, d⟩, ?_, rfl⟩)
    rw [Request.run, hrun]
    exact Tx.returns_bind_pure.mpr ⟨a, ht, rfl⟩
  refine ⟨fun env f id => ?_, fun env f => ?_, fun env f => ?_, fun env f id c hc hf => ?_⟩
  · rw [ChildService.serve_get, h .childProfile rfl]
  · exact ⟨_, hread (g := .children) rfl
        (Tx.returns_bind_pure.mpr ⟨_, Tx.returns_read.mpr ⟨rfl, rfl⟩, rfl⟩),
      h.lists rfl (fun r => decide_eq_true_iff) (fun a b => le_total _ _)
        (fun a b c => le_trans)⟩
  · exact ⟨_, hread (g := .policies) rfl
        (Tx.returns_bind_pure.mpr ⟨_, Tx.returns_read.mpr ⟨rfl, rfl⟩, rfl⟩),
      h.lists rfl (fun r => by simp) (fun a b => le_total _ _)
        (fun a b c => le_trans)⟩
  · obtain ⟨hmem, hid⟩ := Store.find_eq_some_iff.mp ((h .childProfile rfl id).trans hc)
    exact ⟨_, hread (g := .entries) rfl (Tx.returns_bind.mpr ⟨c, ⟨d, d⟩,
      ChildService.require_returns.mpr ⟨hmem, hid, hf, rfl⟩,
      Tx.returns_bind_pure.mpr ⟨_, Tx.returns_read.mpr ⟨rfl, rfl⟩, rfl⟩⟩),
      h.lists rfl (fun r => decide_eq_true_iff) (fun a b => le_total _ _)
        (fun a b c h₁ h₂ => le_trans h₂ h₁)⟩

end Reads

/-- **What is read is what was written last.** After every interleaving of the
steps of any requests, in which some may have failed and some be in flight: a
child that is read and the lists of children, policies and history entries are
those that the answers so far tell of, the last about each row. -/
theorem reads_last_writes (P : Platform) (ms : List (Move Env Request)) :
    ReadsLast P ((concurrentService P).system.run idle ms).shared
      ((concurrentService P).system.run idle ms).log :=
  (find_eq_last P ms).readsLast
