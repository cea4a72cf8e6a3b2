import Mathlib.Data.List.Forall2
import Mathlib.Logic.Relation
import ReferenceSite.Proofs.Outcome
import ReferenceSite.Proto.Walk

/-! Which types a type leads to, and the course of a walk as a derivation. A walk is read once into
its steps; all that holds of a walk follows by induction on them. -/
namespace ReferenceSite

def TypeDef.fields (d : TypeDef) : List Field :=
  match d.body with
  | .enumeration _ => []
  | .message fields => fields

theorem TypeDef.mem_targets (d : TypeDef) (target : TypeRef) :
    target ∈ d.targets ↔ ∃ f ∈ d.fields, f.target = some target := by
  unfold targets fields
  cases d.body with
  | enumeration values => simp
  | message fields => simp [List.mem_filterMap]

namespace Schema

/-- A field of the first type points to the second one. -/
def Uses (s : Schema) (d e : TypeDef) : Prop :=
  ∃ f ∈ d.fields, ∃ target, f.target = some target ∧ s.get? target.qualifiedName = some e

theorem uses_iff (s : Schema) (d e : TypeDef) :
    s.Uses d e ↔ ∃ target ∈ d.targets, s.get? target.qualifiedName = some e := by
  simp only [Uses,TypeDef.mem_targets]
  constructor
  · rintro ⟨f,inside,target,points,found⟩
    exact ⟨target,⟨f,inside,points⟩,found⟩
  · rintro ⟨target,⟨f,inside,points⟩,found⟩
    exact ⟨f,inside,target,points,found⟩

def Reaches (s : Schema) : TypeDef → TypeDef → Prop := Relation.ReflTransGen s.Uses

/-- Every field that points anywhere points to a type of the schema. -/
def Closed (s : Schema) : Prop :=
  ∀ d ∈ s.types, ∀ f ∈ d.fields, ∀ target, f.target = some target → ∃ e, s.get? target.qualifiedName = some e

theorem closed_iff (s : Schema) :
    s.Closed ↔ ∀ d ∈ s.types, ∀ target ∈ d.targets, ∃ e, s.get? target.qualifiedName = some e := by
  simp only [Closed,TypeDef.mem_targets]
  exact ⟨fun closed d inside target ⟨f,field,points⟩ => closed d inside f field target points,
    fun closed d inside f field target points => closed d inside target ⟨f,field,points⟩⟩

instance (s : Schema) : Decidable s.Closed :=
  decidable_of_iff (∀ d ∈ s.types, ∀ target ∈ d.targets, (s.get? target.qualifiedName).isSome)
    (by simp only [closed_iff,Option.isSome_iff_exists])

theorem uses_mem (s : Schema) (d e : TypeDef) (uses : s.Uses d e) : e ∈ s.types := by
  obtain ⟨_,_,_,_,found⟩ := uses
  exact mem_of_get? found

theorem reaches_mem (s : Schema) (d e : TypeDef) (inside : d ∈ s.types) (reaches : s.Reaches d e) :
    e ∈ s.types := by
  rcases Relation.ReflTransGen.cases_tail reaches with same | ⟨before,_,uses⟩
  · exact same ▸ inside
  · exact uses_mem s before e uses

/-- The targets that are looked up stand for the references one by one, one level deeper. -/
theorem follow_targets (s : Schema) (depth : Nat) (targets : List TypeRef) (pending : List s.Pending)
    (found : s.follow depth targets = .ok pending) :
    List.Forall₂ (fun target p => s.get? target.qualifiedName = some p.1.1 ∧ p.2 = depth + 1)
      targets pending := by
  induction targets generalizing pending with
  | nil =>
    simp only [follow,Except.ok.injEq] at found
    subst pending
    exact .nil
  | cons target rest ih =>
    simp only [follow] at found
    split at found
    · rename_i d known
      obtain ⟨after,others,found⟩ := (bind_ok_iff ..).mp found
      cases found
      exact .cons ⟨known,rfl⟩ (ih after others)
    · cases found

theorem follow_closed (s : Schema) (depth : Nat) (targets : List TypeRef)
    (known : ∀ target ∈ targets, ∃ e, s.get? target.qualifiedName = some e) :
    ∃ pending, s.follow depth targets = .ok pending := by
  induction targets with
  | nil => exact ⟨[],rfl⟩
  | cons target rest ih =>
    obtain ⟨e,here⟩ := known target (by simp)
    obtain ⟨after,others⟩ := ih fun t member => known t (by simp [member])
    simp only [follow]
    split
    · simp [others,bind,Except.bind,pure,Except.pure]
    · rename_i unknown
      simp [here] at unknown

/-- A type is pending behind a type exactly if a field of that type points to it. -/
theorem follow_uses (s : Schema) (depth : Nat) (d : TypeDef) (pending : List s.Pending)
    (found : s.follow depth d.targets = .ok pending) (e : TypeDef) :
    s.Uses d e ↔ ∃ p ∈ pending, p.1.1 = e := by
  have related := follow_targets s depth d.targets pending found
  rw [uses_iff]
  generalize d.targets = targets at related
  clear found
  induction related with
  | nil => simp
  | cons head tail ih => simp [ih,head.1]

/-- The course of a walk that ends well: what was visited before, what is pending, what is visited
behind it, and what it emits. -/
inductive Walked (s : Schema) : Visits → List s.Pending → Visits → List Entity → Prop
  | nil (v : Visits) : Walked s v [] v []
  | met (v after : Visits) (p : s.Pending) (rest : List s.Pending) (es : List Entity)
      (emitted : String) (taken : v.emitted? p.1.1.name = some emitted)
      (tail : Walked s (v.meet p.1.1 emitted) rest after es) : Walked s v (p :: rest) after es
  | emit (v after : Visits) (p : s.Pending) (rest targets : List s.Pending) (es : List Entity)
      (free : v.emitted? p.1.1.name = none) (found : s.follow p.2 p.1.1.targets = .ok targets)
      (tail : Walked s (v.take p.1.1) (targets ++ rest) after es) :
      Walked s v (p :: rest) after (⟨p.1.1,p.2⟩ :: es)

theorem visitAll_walked (s : Schema) (v after : Visits) (pending : List s.Pending)
    (es : List Entity) (ok : s.visitAll v pending = (after,.ok es)) : Walked s v pending after es := by
  fun_induction visitAll s v pending generalizing after es with
  | case1 v =>
    simp only [Prod.mk.injEq,Except.ok.injEq] at ok
    obtain ⟨rfl,rfl⟩ := ok
    exact .nil v
  | case2 v d inside depth rest emitted taken ih =>
    exact .met v after (⟨d,inside⟩,depth) rest es emitted taken (ih after es ok)
  | case3 v d inside depth rest free fault missing => simp at ok
  | case4 v d inside depth rest free targets found between reached run ih =>
    rw [run] at ih
    cases reached with
    | error fault => simp [Functor.map,Except.map] at ok
    | ok behind =>
      simp only [Functor.map,Except.map,Prod.mk.injEq,Except.ok.injEq] at ok
      obtain ⟨rfl,rfl⟩ := ok
      exact .emit v between (⟨d,inside⟩,depth) rest targets behind free found (ih between behind rfl)

/-! What a walk does with the first of the pending types. -/

theorem visitAll_taken {s : Schema} (v : Visits) (p : s.Pending) (rest : List s.Pending) (emitted : String)
    (taken : v.emitted? p.1.1.name = some emitted) :
    s.visitAll v (p :: rest) = s.visitAll (v.meet p.1.1 emitted) rest := by
  rw [visitAll]
  split
  · rename_i other again
    rw [Option.some.inj (taken.symm.trans again)]
  · rename_i free
    rw [free] at taken
    cases taken

theorem visitAll_unknown {s : Schema} (v : Visits) (p : s.Pending) (rest : List s.Pending) (fault : SchemaFault)
    (free : v.emitted? p.1.1.name = none) (missing : s.follow p.2 p.1.1.targets = .error fault) :
    s.visitAll v (p :: rest) = (v.take p.1.1,.error fault) := by
  rw [visitAll]
  split
  · rename_i emitted taken
    rw [free] at taken
    cases taken
  · rw [missing]

theorem visitAll_entered {s : Schema} (v : Visits) (p : s.Pending) (rest targets : List s.Pending)
    (free : v.emitted? p.1.1.name = none) (found : s.follow p.2 p.1.1.targets = .ok targets) :
    s.visitAll v (p :: rest) = ((s.visitAll (v.take p.1.1) (targets ++ rest)).1,
      (⟨p.1.1,p.2⟩ :: ·) <$> (s.visitAll (v.take p.1.1) (targets ++ rest)).2) := by
  rw [visitAll]
  split
  · rename_i emitted taken
    rw [free] at taken
    cases taken
  · rw [found]

theorem walked_visitAll (s : Schema) (v after : Visits) (pending : List s.Pending)
    (es : List Entity) (walked : s.Walked v pending after es) : s.visitAll v pending = (after,.ok es) := by
  induction walked with
  | nil v => rw [visitAll]
  | met v after p rest es emitted taken tail ih => rw [visitAll_taken v p rest emitted taken,ih]
  | emit v after p rest targets es free found tail ih =>
    rw [visitAll_entered v p rest targets free found,ih]
    rfl

/-- Where every reference is known, no walk fails. -/
theorem visitAll_closed (s : Schema) (closed : s.Closed) (v : Visits) (pending : List s.Pending) :
    ∃ after es, s.visitAll v pending = (after,.ok es) := by
  fun_induction visitAll s v pending with
  | case1 v => exact ⟨v,[],rfl⟩
  | case2 v d inside depth rest emitted taken ih => exact ih
  | case3 v d inside depth rest free fault missing =>
    obtain ⟨targets,found⟩ := follow_closed s depth d.targets (s.closed_iff.mp closed d inside)
    rw [missing] at found
    cases found
  | case4 v d inside depth rest free targets found between reached run ih =>
    obtain ⟨after,es,ok⟩ := ih
    rw [run] at ok
    obtain ⟨rfl,rfl⟩ := Prod.mk.injEq .. ▸ ok
    exact ⟨between,_,rfl⟩

theorem collect_resolved (s : Schema) (start : String) (depth : Nat) (v : Visits) (d : TypeDef)
    (resolved : s.resolve start = .ok d) :
    s.collect start depth v = s.visitAll v [(⟨d,mem_of_resolve resolved⟩,depth)] := by
  unfold collect
  split
  · rename_i fault refused
    rw [resolved] at refused
    cases refused
  · rename_i found accepted
    have same : d = found := by simpa [resolved] using accepted
    subst same
    rfl

theorem collect_unresolved (s : Schema) (start : String) (depth : Nat) (v : Visits) (fault : SchemaFault)
    (refused : s.resolve start = .error fault) : s.collect start depth v = (v,.error fault) := by
  unfold collect
  split
  · rename_i other again
    rw [refused] at again
    cases again
    rfl
  · rename_i d found
    rw [refused] at found
    cases found

theorem collect_ok (s : Schema) (start : String) (depth : Nat) (v after : Visits) (es : List Entity)
    (ok : s.collect start depth v = (after,.ok es)) : ∃ root, ∃ resolved : s.resolve start = .ok root,
      s.visitAll v [(⟨root,mem_of_resolve resolved⟩,depth)] = (after,.ok es) := by
  unfold collect at ok
  split at ok
  · simp at ok
  · rename_i root resolved
    exact ⟨root,resolved,ok⟩

end Schema
end ReferenceSite
