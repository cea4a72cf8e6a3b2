import ReferenceSite.Proto.Basic

/-! Compiled message types, and the schema that documents them. In a pool a map is a repeated field
whose type is a message made for the map's entries, with a key and a value. A schema leaves those
messages out: a field of that sort points to the type of its values. -/
namespace ReferenceSite.Proto
open ReferenceSite.Text

/-- What a compiled field holds. Types are given by their qualified name and their package. -/
inductive Kind where
  | scalar (name : String)
  | message (qualifiedName package : String)
  | enumeration (qualifiedName package : String)
deriving DecidableEq

structure PoolField where
  name : String
  number : Nat
  kind : Kind
  isRepeated : Bool
  comment : String
deriving DecidableEq

structure PoolMessage where
  qualifiedName : String
  package : String
  file : String
  comment : String
  /-- In the order of their numbers. -/
  fields : List PoolField
  isMapEntry : Bool
deriving DecidableEq

structure PoolEnum where
  qualifiedName : String
  package : String
  file : String
  comment : String
  /-- In the order of their numbers. -/
  values : List EnumValue
deriving DecidableEq

structure Pool where
  messages : List PoolMessage
  enumerations : List PoolEnum

/-- The name behind the package and one dot, where the name is in the package. -/
def nameInPackage (qualifiedName package : String) : String :=
  if package = "" then qualifiedName
  else
    match (dropPrefix? package.toList qualifiedName.toList).bind (dropPrefix? ['.']) with
    | some rest => .ofList rest
    | none => qualifiedName

def Kind.describe : Kind → String × Option TypeRef
  | scalar name => (name,none)
  | message q package | enumeration q package =>
    (nameInPackage q package,some ⟨q,nameInPackage q package⟩)

namespace Pool

def message? (p : Pool) (qualifiedName : String) : Option PoolMessage :=
  p.messages.find? (·.qualifiedName = qualifiedName)

/-- The kinds of the key and the value, if a field is a map: repeated, and of a map's entries. -/
def mapOf? (p : Pool) (f : PoolField) : Option (Kind × Kind) :=
  match f.isRepeated,f.kind with
  | true,.message q _ => do
    let entry ← p.message? q
    if entry.isMapEntry then
      match entry.fields with
      | [key,value] => some (key.kind,value.kind)
      | _ => none
    else none
  | _,_ => none

def describe (p : Pool) (f : PoolField) : String × Option TypeRef :=
  match p.mapOf? f with
  | some (key,value) =>
    ("map<" ++ key.describe.1 ++ ", " ++ value.describe.1 ++ ">",value.describe.2)
  | none => f.kind.describe

def field (p : Pool) (f : PoolField) : Field :=
  let (declaredType,target) := p.describe f
  ⟨f.name,declaredType,target,f.comment⟩

def messageType (p : Pool) (m : PoolMessage) : TypeDef :=
  .new m.qualifiedName m.package m.file m.comment (.message (m.fields.map p.field))

def enumType (e : PoolEnum) : TypeDef :=
  .new e.qualifiedName e.package e.file e.comment (.enumeration e.values)

def types (p : Pool) : List TypeDef :=
  (p.messages.filter (! ·.isMapEntry)).map p.messageType ++ p.enumerations.map enumType

end Pool
end Proto

def Schema.ofPool (p : Proto.Pool) : Schema := .ofList p.types

end ReferenceSite
