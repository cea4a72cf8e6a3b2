import Mathlib.Data.List.Perm.Basic
import ReferenceSite.Proofs.Proto.PoolSchema

/-! Walks through two schemas. A walk looks up the targets of the types it reaches and nothing else, so
two schemas that agree on these give the same course, step by step and with the same failure. Types
that nothing reached refers to can be added, and types can be added in any order. -/
namespace ReferenceSite.Schema

/-- Looks up the same for every reference of a type and of all that it leads to. -/
def Agrees (s s' : Schema) (d : TypeDef) : Prop :=
  ∀ e, s.Reaches d e → ∀ target ∈ e.targets, s'.get? target.qualifiedName = s.get? target.qualifiedName

variable {s s' : Schema}

theorem Agrees.uses {d e : TypeDef} (agrees : Agrees s s' d) (uses : s.Uses d e) : Agrees s s' e := by
  intro f reaches
  apply agrees f
  exact Relation.ReflTransGen.head uses reaches

/-- What is pending, without the proof that its schema stores it. -/
def waiting (pending : List s.Pending) : List (TypeDef × Nat) := pending.map fun p => (p.1.1,p.2)

theorem follow_found (s : Schema) (depth : Nat) (target : TypeRef) (rest : List TypeRef) (d : TypeDef)
    (found : s.get? target.qualifiedName = some d) :
    waiting <$> s.follow depth (target :: rest) = ((d,depth + 1) :: ·) <$> (waiting <$> s.follow depth rest) := by
  rw [follow]
  split
  · rename_i e stored
    obtain rfl := Option.some.inj (found.symm.trans stored)
    cases s.follow depth rest <;> rfl
  · rename_i missing
    rw [found] at missing
    cases missing

theorem follow_missing (s : Schema) (depth : Nat) (target : TypeRef) (rest : List TypeRef)
    (missing : s.get? target.qualifiedName = none) :
    s.follow depth (target :: rest) = .error (.unknownType target.qualifiedName) := by
  rw [follow]
  split
  · rename_i d found
    rw [missing] at found
    cases found
  · rfl

/-- Looking up the references of a type gives the same types, or fails at the same reference. -/
theorem follow_agrees (depth : Nat) (targets : List TypeRef)
    (same : ∀ target ∈ targets, s'.get? target.qualifiedName = s.get? target.qualifiedName) :
    waiting <$> s'.follow depth targets = waiting <$> s.follow depth targets := by
  induction targets with
  | nil => rfl
  | cons target rest ih =>
    have here := same target List.mem_cons_self
    have later := ih fun other member => same other (List.mem_cons_of_mem target member)
    cases found : s.get? target.qualifiedName with
    | some d =>
      rw [follow_found s depth target rest d found,follow_found s' depth target rest d (here.trans found),later]
    | none =>
      rw [follow_missing s depth target rest found,follow_missing s' depth target rest (here.trans found)]
      rfl

theorem follow_ok_agrees (depth : Nat) (targets : List TypeRef) (pending : List s.Pending)
    (same : ∀ target ∈ targets, s'.get? target.qualifiedName = s.get? target.qualifiedName)
    (found : s.follow depth targets = .ok pending) :
    ∃ pending', s'.follow depth targets = .ok pending' ∧ waiting pending' = waiting pending := by
  have both := follow_agrees depth targets same
  rw [found] at both
  cases outcome : s'.follow depth targets with
  | error fault => simp [outcome,Functor.map,Except.map] at both
  | ok pending' =>
    rw [outcome] at both
    exact ⟨pending',rfl,Except.ok.inj both⟩

theorem follow_error_agrees (depth : Nat) (targets : List TypeRef) (fault : SchemaFault)
    (same : ∀ target ∈ targets, s'.get? target.qualifiedName = s.get? target.qualifiedName)
    (failed : s.follow depth targets = .error fault) : s'.follow depth targets = .error fault := by
  have both := follow_agrees depth targets same
  rw [failed] at both
  cases outcome : s'.follow depth targets with
  | error other =>
    rw [outcome] at both
    rw [Except.error.inj both]
  | ok pending => simp [outcome,Functor.map,Except.map] at both

/-- Both walks take the same steps from the same pending types on. -/
theorem visitAll_agrees (v : Visits) (pending : List s.Pending) (pending' : List s'.Pending)
    (same : waiting pending' = waiting pending) (agrees : ∀ p ∈ pending, Agrees s s' p.1.1) :
    s'.visitAll v pending' = s.visitAll v pending := by
  fun_induction visitAll s v pending generalizing pending' with
  | case1 v =>
    obtain rfl := List.map_eq_nil_iff.mp same
    rw [visitAll]
  | case2 v d inside depth rest emitted taken ih =>
    obtain ⟨⟨⟨d',inside'⟩,depth'⟩,rest',rfl,equal,others⟩ := List.map_eq_cons_iff.mp same
    obtain ⟨rfl,rfl⟩ := Prod.mk.inj equal
    have tail := ih rest' others fun p member => agrees p (List.mem_cons_of_mem _ member)
    rw [visitAll_taken v (⟨d',inside'⟩,depth') rest' emitted taken]
    exact tail
  | case3 v d inside depth rest free fault missing =>
    obtain ⟨⟨⟨d',inside'⟩,depth'⟩,rest',rfl,equal,others⟩ := List.map_eq_cons_iff.mp same
    obtain ⟨rfl,rfl⟩ := Prod.mk.inj equal
    have here := agrees _ List.mem_cons_self d' .refl
    exact visitAll_unknown v (⟨d',inside'⟩,depth') rest' fault free
      (follow_error_agrees depth' d'.targets fault here missing)
  | case4 v d inside depth rest free targets found between reached run ih =>
    obtain ⟨⟨⟨d',inside'⟩,depth'⟩,rest',rfl,equal,others⟩ := List.map_eq_cons_iff.mp same
    obtain ⟨rfl,rfl⟩ := Prod.mk.inj equal
    have whole := agrees _ List.mem_cons_self
    obtain ⟨targets',found',alike⟩ := follow_ok_agrees depth' d'.targets targets (whole d' .refl) found
    have further : ∀ p ∈ targets ++ rest, Agrees s s' p.1.1 := by
      intro p member
      rcases List.mem_append.mp member with target | waits
      · exact whole.uses ((follow_uses s depth' d' targets found p.1.1).mpr ⟨p,target,rfl⟩)
      · exact agrees p (List.mem_cons_of_mem _ waits)
    have pairs : waiting (targets' ++ rest') = waiting (targets ++ rest) := by
      rw [waiting,waiting,List.map_append,List.map_append]
      exact congrArg₂ _ alike others
    have tail := ih (targets' ++ rest') pairs further
    rw [visitAll_entered v (⟨d',inside'⟩,depth') rest' targets' free found',tail,run]

theorem collect_agrees (start : String) (depth : Nat) (v : Visits) (d : TypeDef)
    (resolved : s.resolve start = .ok d) (resolved' : s'.resolve start = .ok d) (agrees : Agrees s s' d) :
    s'.collect start depth v = s.collect start depth v := by
  rw [collect_resolved s start depth v d resolved,collect_resolved s' start depth v d resolved']
  exact visitAll_agrees v _ _ rfl (by simpa using agrees)

/-! Types that are added. -/

theorem get?_insert_other (s : Schema) (d : TypeDef) (q : String) (other : d.qualifiedName ≠ q) :
    (s.insert d).get? q = s.get? q := by
  have kept (e : TypeDef) : decide (decide (e.qualifiedName ≠ d.qualifiedName) = true ∧
      decide (e.qualifiedName = q) = true) = decide (e.qualifiedName = q) := by
    by_cases named : e.qualifiedName = q <;> simp [named,other.symm]
  simp only [get?,insert,List.find?_cons,other,decide_false,List.find?_filter,kept]

theorem get?_insertAll (s : Schema) (types : List TypeDef) (q : String)
    (other : ∀ d ∈ types, d.qualifiedName ≠ q) : (types.foldl insert s).get? q = s.get? q := by
  induction types generalizing s with
  | nil => rfl
  | cons d types ih =>
    have first := get?_insert_other s d q (other d List.mem_cons_self)
    rw [List.foldl_cons,ih _ fun e member => other e (List.mem_cons_of_mem d member),first]

/-! Schemas that store the same types. -/

theorem insertAll_perm (s : Schema) (types types' : List TypeDef) (perm : types.Perm types')
    (distinct : (types.map (·.qualifiedName)).Nodup) :
    (types'.foldl insert s).types.Perm (types.foldl insert s).types := by
  have distinct' : (types'.map (·.qualifiedName)).Nodup := (perm.map _).nodup_iff.mp distinct
  have single (r : Schema) : r.types.Nodup := r.distinct.of_map _
  apply (List.perm_ext_iff_of_nodup (single _) (single _)).mpr
  intro d
  rw [mem_insertAll_iff s types' distinct',mem_insertAll_iff s types distinct]
  simp only [perm.mem_iff,(perm.map TypeDef.qualifiedName).mem_iff]

section
variable (perm : s'.types.Perm s.types)
include perm

theorem get?_perm (q : String) : s'.get? q = s.get? q := by
  apply Option.ext
  intro d
  rw [get?_eq_some_iff,get?_eq_some_iff,perm.mem_iff]

theorem resolve_perm (name : String) : s'.resolve name = s.resolve name := by
  have named := perm.filter fun d => decide (d.fullName = String.ofList (name.toList.dropWhile (· = '.')))
  simp only [resolve,get?_perm perm]
  split
  · rfl
  · split
    · rename_i d only
      rw [only] at named
      have alone := (List.singleton_perm.mp named).symm
      simp only [alone]
    · rename_i several
      split
      · rename_i d only
        rw [only] at named
        exact absurd (List.perm_singleton.mp named) (several d)
      · rfl

theorem collect_perm (start : String) (depth : Nat) (v : Visits) :
    s'.collect start depth v = s.collect start depth v := by
  have same := resolve_perm perm start
  cases resolved : s.resolve start with
  | ok d =>
    rw [resolved] at same
    exact collect_agrees start depth v d resolved same fun e _ target _ => get?_perm perm _
  | error fault =>
    rw [resolved] at same
    rw [collect_unresolved s start depth v fault resolved,collect_unresolved s' start depth v fault same]

end

end ReferenceSite.Schema
