import ReferenceSite.Fault
import ReferenceSite.Text.Search

/-! Message and enumeration types, and a schema that finds them by name. The qualified name of a
type is unique in a schema. Its full name leaves the package out, and its local name is the last
part of the full name. -/
namespace ReferenceSite
open ReferenceSite.Text

structure TypeRef where
  qualifiedName : String
  fullName : String
deriving DecidableEq

structure EnumValue where
  name : String
  number : Int
  comment : String
deriving DecidableEq

structure Field where
  name : String
  /-- As documented: a scalar, a full name, or a map of such. -/
  declaredType : String
  target : Option TypeRef
  comment : String
deriving DecidableEq

inductive TypeBody where
  | enumeration (values : List EnumValue)
  | message (fields : List Field)
deriving DecidableEq

structure TypeDef where
  name : String
  qualifiedName : String
  fullName : String
  comment : String
  file : String
  body : TypeBody
deriving DecidableEq

/-- The name without the package in front of it, where anything is left. -/
def withoutPackage (package qualifiedName : String) : String :=
  match dropPrefix? package.toList qualifiedName.toList with
  | some rest =>
    let rest := rest.dropWhile (· = '.')
    if package = "" ∨ rest.isEmpty then qualifiedName else .ofList rest
  | none => qualifiedName

def localName (fullName : String) : String :=
  .ofList (fullName.toList.reverse.takeWhile (· ≠ '.')).reverse

namespace TypeDef

def new (qualifiedName package file comment : String) (body : TypeBody) : TypeDef :=
  let fullName := withoutPackage package qualifiedName
  ⟨localName fullName,qualifiedName,fullName,comment,file,body⟩

def ref (d : TypeDef) : TypeRef := ⟨d.qualifiedName,d.fullName⟩

def targets (d : TypeDef) : List TypeRef :=
  match d.body with
  | .enumeration _ => []
  | .message fields => fields.filterMap (·.target)

end TypeDef

def Field.ofType (name comment : String) (target : TypeDef) : Field :=
  ⟨name,target.fullName,some target.ref,comment⟩

structure Schema where
  types : List TypeDef
  distinct : (types.map (·.qualifiedName)).Nodup

namespace Schema

def empty : Schema := ⟨[],by simp⟩

/-- Adds a type in place of one with the same qualified name. -/
def insert (s : Schema) (d : TypeDef) : Schema where
  types := d :: s.types.filter (·.qualifiedName ≠ d.qualifiedName)
  distinct := by
    have sub := (List.filter_sublist (p := fun t => t.qualifiedName ≠ d.qualifiedName)
      (l := s.types)).map (·.qualifiedName)
    simp only [List.map_cons,List.nodup_cons]
    exact ⟨by simp,sub.nodup s.distinct⟩

def ofList (types : List TypeDef) : Schema := types.foldl insert empty

def size (s : Schema) : Nat := s.types.length

def get? (s : Schema) (qualifiedName : String) : Option TypeDef :=
  s.types.find? (·.qualifiedName = qualifiedName)

/-- Finds a type by its qualified name, which leading dots may precede, or by its full name if only
one type has that. -/
def resolve (s : Schema) (name : String) : Except SchemaFault TypeDef :=
  let name := String.ofList (name.toList.dropWhile (· = '.'))
  match s.get? name with
  | some d => .ok d
  | none =>
    match s.types.filter (·.fullName = name) with
    | [d] => .ok d
    | _ => .error (.unknownType name)

theorem mem_of_get? {s : Schema} {name : String} {d : TypeDef} (h : s.get? name = some d) :
    d ∈ s.types := List.mem_of_find?_eq_some h

theorem mem_of_resolve {s : Schema} {name : String} {d : TypeDef} (h : s.resolve name = .ok d) :
    d ∈ s.types := by
  simp only [resolve] at h
  split at h
  · next found =>
    cases h
    exact mem_of_get? found
  · split at h
    · next only =>
      cases h
      exact (List.mem_filter.1 (only ▸ List.mem_singleton_self _)).1
    · cases h

end Schema
end ReferenceSite
