import ReferenceSite.Proto.Basic

/-! The types that can be reached from one type. A type stands before the types its fields use, and
these follow in field order, one level deeper. A local name is taken by the first type that has it;
a later type of the same name and another full name is a collision and is passed over. -/
namespace ReferenceSite

/-- A type that was passed over because its local name was taken. -/
structure Collision where
  localName : String
  emitted : String
  skipped : String
deriving DecidableEq

def Collision.message (c : Collision) : String :=
  "type name already documented, skipping name=" ++ c.localName ++ " emitted=" ++ c.emitted ++
    " skipped=" ++ c.skipped

structure Visits where
  names : List (String × String)
  collisions : List Collision
deriving DecidableEq

structure Entity where
  definition : TypeDef
  depth : Nat
deriving DecidableEq

namespace Visits

def none : Visits := ⟨[],[]⟩

def emitted? (v : Visits) (localName : String) : Option String :=
  (v.names.find? (·.1 = localName)).map (·.2)

def isVisited (v : Visits) (localName : String) : Bool := (v.emitted? localName).isSome

def take (v : Visits) (d : TypeDef) : Visits := { v with names := (d.name,d.fullName) :: v.names }

def meet (v : Visits) (d : TypeDef) (emitted : String) : Visits :=
  if emitted = d.fullName then v
  else { v with collisions := v.collisions ++ [⟨d.name,emitted,d.fullName⟩] }

end Visits

namespace Schema

abbrev Pending (s : Schema) := { d : TypeDef // d ∈ s.types } × Nat

def free (s : Schema) (v : Visits) : List TypeDef := s.types.filter (! v.isVisited ·.name)

/-- Looks up what the fields of a type point to, one level deeper. -/
def follow (s : Schema) (depth : Nat) : List TypeRef → Except SchemaFault (List s.Pending)
  | [] => .ok []
  | target :: rest =>
    match h : s.get? target.qualifiedName with
    | some d => do pure ((⟨d,mem_of_get? h⟩,depth + 1) :: (← follow s depth rest))
    | none => .error (.unknownType target.qualifiedName)

theorem free_take_length {s : Schema} {v : Visits} {d : TypeDef} (mem : d ∈ s.types)
    (free : v.emitted? d.name = Option.none) :
    (s.free (v.take d)).length < (s.free v).length := by
  have fewer : s.free (v.take d) = (s.free v).filter (·.name ≠ d.name) := by
    simp only [Schema.free,List.filter_filter]
    congr 1
    funext t
    simp only [Visits.isVisited,Visits.emitted?,Visits.take,List.find?_cons]
    by_cases h : d.name = t.name <;> simp [h,eq_comm]
  have lost : d ∈ s.free v := by
    simp [Schema.free,mem,Visits.isVisited,free]
  rw [fewer]
  exact List.length_filter_lt_length_iff_exists.2 ⟨d,lost,by simp⟩

/-- Walks through pending types, of which the first is next. What was visited before a failure
stays visited. -/
def visitAll (s : Schema) (v : Visits) (pending : List s.Pending) :
    Visits × Except SchemaFault (List Entity) :=
  match pending with
  | [] => (v,.ok [])
  | (⟨d,_⟩,depth) :: rest =>
    match _h : v.emitted? d.name with
    | some emitted => visitAll s (v.meet d emitted) rest
    | none =>
      match s.follow depth d.targets with
      | .error fault => (v.take d,.error fault)
      | .ok targets =>
        let (v,reached) := visitAll s (v.take d) (targets ++ rest)
        (v,(⟨d,depth⟩ :: ·) <$> reached)
termination_by ((s.free v).length,pending.length)
decreasing_by
  · have same : s.free (v.meet d emitted) = s.free v := by
      simp only [Schema.free,Visits.isVisited,Visits.emitted?,Visits.meet]
      split <;> rfl
    rw [same]
    exact Prod.Lex.right _ (by simp)
  · exact Prod.Lex.left _ _ (free_take_length ‹_› _h)

def collect (s : Schema) (start : String) (depth : Nat) (v : Visits) :
    Visits × Except SchemaFault (List Entity) :=
  match h : s.resolve start with
  | .error fault => (v,.error fault)
  | .ok d => s.visitAll v [(⟨d,mem_of_resolve h⟩,depth)]

end Schema
end ReferenceSite
