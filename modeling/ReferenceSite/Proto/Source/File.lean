import ReferenceSite.Proto.Source.Declaration

/-! Files of message definitions, and what each of their declarations brings about. -/
namespace ReferenceSite.Proto.Source

structure Import where
  name : String
  /-- Who imports this file sees the imported one too. -/
  isPublic : Bool
deriving DecidableEq

structure SourceFile where
  name : String
  isThird : Bool
  package : String
  imports : List Import
  options : List OptionUse
  declarations : List Declaration

def qualify (scope name : String) : String := if scope = "" then name else scope ++ "." ++ name

namespace SourceFile

def empty (name : String) : SourceFile := ⟨name,false,"",[],[],[]⟩

/-- Adds what one statement says to a file. A file has at most one package. -/
def add (f : SourceFile) (s : Statement) : Option SourceFile :=
  match s with
  | .line h =>
    match h.words with
    | [] => some f
    | .name "package" :: rest =>
      match fullName? rest with
      | some (name,[]) => if f.package = "" then some { f with package := name } else none
      | _ => none
    | [.name "import",.text name] => some { f with imports := f.imports ++ [⟨name,false⟩] }
    | [.name "import",.name "weak",.text name] =>
      some { f with imports := f.imports ++ [⟨name,false⟩] }
    | [.name "import",.name "public",.text name] =>
      some { f with imports := f.imports ++ [⟨name,true⟩] }
    | .name "option" :: rest =>
      (optionUse? rest).map fun o => { f with options := f.options ++ [o] }
    | _ => none
  | .block .. =>
    (declarations? .file s).map fun ds => { f with declarations := f.declarations ++ ds }

def version? : Statement → Option (Option Bool)
  | .line h =>
    match h.words with
    | [.name "syntax",.sign '=',.text "proto2"] => some (some false)
    | [.name "syntax",.sign '=',.text "proto3"] => some (some true)
    | .name "syntax" :: _ => none
    | _ => some none
  | .block .. => some none

/-- Reads a file. Without a version it follows the second. -/
def ofText? (name : String) (text : List Char) : Option SourceFile := do
  let statements ← statements? text
  match statements with
  | [] => some (empty name)
  | first :: rest =>
    match ← version? first with
    | some isThird => rest.foldlM add { empty name with isThird := isThird }
    | none => statements.foldlM add (empty name)

end SourceFile

namespace Declaration

mutual
/-- The declaration and all declarations inside it, each with the scope that it is in. -/
def located (scope : String) : Declaration → List (String × Declaration)
  | message name comment body =>
    (scope,message name comment body) :: locatedAll (qualify scope name) body
  | group f body => (scope,group f body) :: locatedAll (qualify scope f.name) body
  | oneof name body => (scope,oneof name body) :: locatedAll scope body
  | extend target body => (scope,extend target body) :: locatedAll scope body
  | d => [(scope,d)]

def locatedAll (scope : String) : List Declaration → List (String × Declaration)
  | [] => []
  | d :: rest => located scope d ++ locatedAll scope rest
end

def field? : Declaration → Option FieldDecl
  | field f | group f _ => some f
  | _ => none

def fieldsOf (body : List Declaration) : List (FieldDecl × Option String) :=
  body.flatMap fun d =>
    match d with
    | oneof name inner => (inner.filterMap field?).map (·,some name)
    | d => d.field?.toList.map (·,none)

end Declaration

structure MessageDecl where
  qualifiedName : String
  comment : String
  body : List Declaration

namespace SourceFile

def located (f : SourceFile) : List (String × Declaration) :=
  Declaration.locatedAll f.package f.declarations

def messages (f : SourceFile) : List MessageDecl :=
  f.located.filterMap fun (scope,d) =>
    match d with
    | .message name comment body => some ⟨qualify scope name,comment,body⟩
    | .group g body => some ⟨qualify scope g.name,g.comment,body⟩
    | _ => none

def enumerations (f : SourceFile) : List (String × EnumDecl) :=
  f.located.filterMap fun (scope,d) =>
    match d with
    | .enumeration e => some (scope,e)
    | _ => none

end SourceFile

def groupFieldName (name : String) : String := name.map Char.toLower

def entryName (field : String) : String :=
  let rec go (capital : Bool) : List Char → List Char
    | [] => "Entry".toList
    | '_' :: rest => go true rest
    | c :: rest => (if capital then c.toUpper else c) :: go false rest
  .ofList (go true field.toList)

end ReferenceSite.Proto.Source
