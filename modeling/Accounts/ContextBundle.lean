import Accounts.Encodings
import Accounts.Isolation

/-!
# The context bundle agrees with the other views

The agent gets a family in one bundle that is built from the rows and
their relationships; every other client gets it piece by piece, each piece
behind an ownership check. `context_agrees` says that on every database
these are two views of the same thing: the bundle holds what the pieces
are answered with, in the same order, and leaves a profile out exactly
where asking for it is a 404.

The children are a dictionary, by the text of their identifier. That none
of them is lost there is `Dict.ofList_eq_self`: distinct identifiers are
written differently.
-/

open Repository

variable {P : Platform} {env : Env} {d : Database} {f : UUID}

/-- **What a body is answered with**, in a transaction of its own. -/
def answer {α : Type} (t : Op α) (d : Database) : Except Exn α := (t ⟨d, d⟩).1

theorem answer_of_returns {α : Type} {t : Op α} {a : α} {s : Session Database}
    (h : t.Returns ⟨d, d⟩ a s) : answer t d = .ok a := congrArg Prod.fst h

theorem answer_of_raises {α : Type} {t : Op α} {e : Exn} {s : Session Database}
    (h : t.Raises ⟨d, d⟩ e s) : answer t d = .error e := congrArg Prod.fst h

/-! ## Dictionaries -/

/-- **A dictionary with distinct keys** is the list it was made from. -/
theorem Dict.ofList_eq_self {κ α : Type} [DecidableEq κ] {ps : List (κ × α)}
    (h : (ps.map Prod.fst).Nodup) : Dict.ofList ps = ps := by
  -- the keys still to come are not among those that are there
  have hfold : ∀ (qs ps : List (κ × α)), ((ps ++ qs).map Prod.fst).Nodup →
      qs.foldl (fun d p => Dict.set d p.1 p.2) ps = ps ++ qs := by
    intro qs
    induction qs with
    | nil => exact fun ps _ => (List.append_nil ps).symm
    | cons q qs ih =>
      intro ps hnd
      have hq : q.1 ∉ ps.map Prod.fst := by
        rw [List.map_append, List.map_cons] at hnd
        exact fun hmem => (List.disjoint_of_nodup_append hnd) hmem List.mem_cons_self
      rw [List.foldl_cons, Dict.set, if_neg hq, ih (ps ++ [q]) (by simpa using hnd),
        List.append_assoc]
      rfl
  exact hfold ps [] h

/-! ## The pieces -/

/-- **A piece of the bundle**: what asking for it is answered with, `{}`
where that is a 404. -/
def Piece {α : Type} (ask : Except Exn α) : Option α → Prop
  | some a => ask = .ok a
  | none => ask = .error .notFound

/-- What is looked up once its owner is found. -/
theorem piece_find {α β : Type} {t : Op β} {b : β} (h : t.Returns ⟨d, d⟩ b ⟨d, d⟩)
    (find : Database → Option α) :
    Piece (answer (do
      let _ ← t
      Tx.orRaise .notFound (← Tx.read find)) d) (find d) := by
  cases hfind : find d with
  | none =>
    exact answer_of_raises (Tx.raises_bind.mpr (Or.inr ⟨b, _, h, Tx.raises_bind.mpr (Or.inr
      ⟨none, _, Tx.returns_read.mpr ⟨hfind.symm, rfl⟩, Tx.raises_orRaise.mpr ⟨rfl, rfl, rfl⟩⟩)⟩))
  | some a =>
    exact answer_of_returns (Tx.returns_bind.mpr ⟨b, _, h, Tx.returns_bind.mpr
      ⟨some a, _, Tx.returns_read.mpr ⟨hfind.symm, rfl⟩, Tx.returns_orRaise.mpr ⟨rfl, rfl⟩⟩⟩)

/-- **A member's profile** is what asking for it is answered with. -/
theorem MemberService.piece_profile {m : FamilyMember} (hm : m ∈ d.members)
    (hf : m.familyId = f) :
    Piece (answer (getProfile f m.id) d)
      (d.memberProfiles.find? (fun r => r.memberId = m.id)) := by
  rw [getProfile, FamilyMemberProfileRepository.getByMember_eq_read]
  exact piece_find (require_returns.mpr ⟨hm, rfl, hf, rfl⟩) _

/-- **A child's reading profile** is what asking for it is answered with. -/
theorem ChildService.piece_readingProfile {c : ChildProfile} (hc : c ∈ d.children)
    (hf : c.familyId = f) :
    Piece (answer (getReadingProfile f c.id) d)
      (d.readingProfiles.find? (fun r => r.childId = c.id)) := by
  rw [getReadingProfile, ChildReadingProfileRepository.getByChild_eq_read]
  exact piece_find (require_returns.mpr ⟨hc, rfl, hf, rfl⟩) _

/-- The members of a family, by the time of their creation. -/
def membersOf (f : UUID) (d : Database) : List FamilyMember :=
  (d.members.filter (fun r => r.familyId = f)).insertionSort (fun a b => a.createdAt ≤ b.createdAt)

/-- The children of a family, by the time of their creation. -/
def childrenOf (f : UUID) (d : Database) : List ChildProfile :=
  (d.children.filter (fun r => r.familyId = f)).insertionSort (fun a b => a.createdAt ≤ b.createdAt)

theorem mem_membersOf {m : FamilyMember} : m ∈ membersOf f d ↔ m ∈ d.members ∧ m.familyId = f := by
  rw [membersOf, List.mem_insertionSort, List.mem_filter, decide_eq_true_eq]

theorem mem_childrenOf {c : ChildProfile} :
    c ∈ childrenOf f d ↔ c ∈ d.children ∧ c.familyId = f := by
  rw [childrenOf, List.mem_insertionSort, List.mem_filter, decide_eq_true_eq]

/-- **The children are written differently**, so none is lost in the
dictionary. -/
theorem nodup_childrenOf (f : UUID) (d : Database) :
    ((childrenOf f d).map (fun c => c.id.str)).Nodup := by
  have hkey : (d.children.map ChildProfile.id).Nodup := by
    have h := d.consistent.key .childProfile
    rw [Table.Unique, List.filterMap_eq_map'] at h
    exact h
  have hids : ((childrenOf f d).map ChildProfile.id).Nodup := by
    rw [childrenOf, ((List.perm_insertionSort _ _).map _).nodup_iff]
    exact hkey.sublist (List.filter_sublist.map _)
  have hstr := hids.map UUID.str_injective
  rwa [List.map_map] at hstr

/-! ## The bundle -/

/-- **What is loaded**: nothing, or the bundle of the family. -/
theorem FamilyContextLoader.answer_load (env : Env) (f : UUID) (d : Database) :
    answer (load env f) d = .ok ((d.families.find? (fun r => r.id = f)).map (fun family =>
      { family
        members := (membersOf f d).map (serializeMember env d)
        children := (childrenOf f d).map (fun c => (c.id.str, serializeChild env d c))
        policies := (d.policies.filter
          (fun r => r.familyId = f && r.isActive && true)).insertionSort
          (fun a b => a.createdAt ≤ b.createdAt) })) := by
  have hdict : Dict.ofList ((childrenOf f d).map (fun c => (c.id.str, serializeChild env d c)))
      = (childrenOf f d).map (fun c => (c.id.str, serializeChild env d c)) := by
    refine Dict.ofList_eq_self ?_
    rw [List.map_map]
    exact nodup_childrenOf f d
  rw [load, FamilyRepository.get_eq_read]
  cases hfind : d.families.find? (fun r => r.id = f) with
  | none =>
    exact answer_of_returns (Tx.returns_bind.mpr ⟨none, _, Tx.returns_read.mpr ⟨hfind.symm, rfl⟩,
      Tx.returns_pure.mpr ⟨rfl, rfl⟩⟩)
  | some family =>
    rw [← hdict]
    exact answer_of_returns (Tx.returns_bind.mpr ⟨some family, _,
      Tx.returns_read.mpr ⟨hfind.symm, rfl⟩, rfl⟩)

/-- **The context bundle agrees with the CRUD views**, on every database,
for every family and date: there is none exactly when the family is a
404; otherwise its family, members, children and policies are those the
services answer with, in the same order, a child under the text of its
identifier; every member and every child comes with its age, and with the
profile the service answers with, or with none when that is a 404. -/
theorem context_agrees (env : Env) (d : Database) (f : UUID) :
    match answer (FamilyContextLoader.load env f) d with
    | .error _ => False
    | .ok none => answer (FamilyService.get f) d = .error .notFound
    | .ok (some bundle) =>
      answer (FamilyService.get f) d = .ok bundle.family ∧
      answer (MemberService.list f) d = .ok (bundle.members.map (·.member)) ∧
      (∀ m ∈ bundle.members, m.age = FamilyContextLoader.age env.today m.member.birthDate ∧
        Piece (answer (MemberService.getProfile f m.member.id) d) m.profile) ∧
      answer (ChildService.list f) d = .ok (bundle.children.map (·.2.child)) ∧
      (bundle.children.map (·.1)).Nodup ∧
      (∀ p ∈ bundle.children, p.1 = p.2.child.id.str ∧
        p.2.age = FamilyContextLoader.age env.today p.2.child.birthDate ∧
        Piece (answer (ChildService.getReadingProfile f p.2.child.id) d) p.2.readingProfile) ∧
      answer (PolicyService.list f) d = .ok bundle.policies := by
  have hget : answer (FamilyService.get f) d
      = answer (Tx.orRaise .notFound (d.families.find? (fun r => r.id = f))) d := by
    rw [FamilyService.get, FamilyRepository.get_eq_read]
    rfl
  rw [FamilyContextLoader.answer_load, hget]
  cases d.families.find? (fun r => r.id = f) with
  | none => rfl
  | some family =>
    refine ⟨rfl, ?_, ?_, ?_, ?_, ?_, rfl⟩
    · show Except.ok ((membersOf f d).map FamilyMember.dump) = _
      rw [List.map_map]
      rfl
    · intro m hm
      obtain ⟨r, hr, rfl⟩ := List.mem_map.mp hm
      obtain ⟨hmem, hfam⟩ := mem_membersOf.mp hr
      exact ⟨rfl, MemberService.piece_profile hmem hfam⟩
    · show Except.ok (childrenOf f d) = _
      rw [List.map_map]
      exact congrArg _ (List.map_id _).symm
    · rw [List.map_map]
      exact nodup_childrenOf f d
    · intro p hp
      obtain ⟨c, hc, rfl⟩ := List.mem_map.mp hp
      obtain ⟨hmem, hfam⟩ := mem_childrenOf.mp hc
      exact ⟨rfl, rfl, ChildService.piece_readingProfile hmem hfam⟩
