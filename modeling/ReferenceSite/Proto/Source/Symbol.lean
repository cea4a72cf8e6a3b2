import ReferenceSite.Proto.Source.File

/-! What names mean. Each name that a file declares is a symbol. A name is looked up in the scope where
it is used and then in the scopes around it; the first scope that knows its first part decides. -/
namespace ReferenceSite.Proto.Source

inductive SymbolKind where
  | package
  | message
  | enumeration
  | service
  | extension (scope target : String)
  | member
deriving DecidableEq

structure Symbol where
  name : String
  kind : SymbolKind
  package : String
deriving DecidableEq

def SymbolKind.isType (k : SymbolKind) : Bool := k = .message ∨ k = .enumeration

def SymbolKind.isScope (k : SymbolKind) : Bool :=
  k = .package ∨ k = .message ∨ k = .enumeration ∨ k = .service

namespace SourceFile

def fieldSymbols (package scope : String) (kind : SymbolKind) (f : FieldDecl) : List Symbol :=
  match f.type with
  | .single _ => [⟨qualify scope f.name,kind,package⟩]
  | .group => [⟨qualify scope (groupFieldName f.name),kind,package⟩]
  | .map .. =>
    let entry := qualify scope (entryName f.name)
    [⟨qualify scope f.name,kind,package⟩,⟨entry,.message,package⟩,
      ⟨qualify entry "key",.member,package⟩,⟨qualify entry "value",.member,package⟩]

def symbolsOf (package scope : String) : Declaration → List Symbol
  | .message name _ body =>
    ⟨qualify scope name,.message,package⟩ :: (Declaration.fieldsOf body).flatMap fun (f,_) =>
      fieldSymbols package (qualify scope name) .member f
  | .group g body =>
    ⟨qualify scope g.name,.message,package⟩ :: (Declaration.fieldsOf body).flatMap fun (f,_) =>
      fieldSymbols package (qualify scope g.name) .member f
  | .oneof name _ => [⟨qualify scope name,.member,package⟩]
  | .enumeration e => ⟨qualify scope e.name,.enumeration,package⟩ ::
      e.values.map fun v => ⟨qualify scope v.name,.member,package⟩
  | .extend target body => (body.filterMap Declaration.field?).flatMap
      (fieldSymbols package scope (.extension scope target))
  | .service name methods _ => ⟨qualify scope name,.service,package⟩ ::
      methods.map fun m => ⟨qualify (qualify scope name) m.name,.member,package⟩
  | _ => []

def packageNames (package : String) : List String :=
  if package = "" then []
  else
    let parts := (package.toList.splitOn '.').map String.ofList
    (List.range parts.length).map fun n => ".".intercalate (parts.take (n + 1))

def declaredSymbols (f : SourceFile) : List Symbol :=
  f.located.flatMap fun (scope,d) => symbolsOf f.package scope d

def symbols (f : SourceFile) : List Symbol :=
  (packageNames f.package).map (⟨·,.package,f.package⟩) ++ f.declaredSymbols

end SourceFile

abbrev Symbols := List Symbol

namespace Symbols

def find? (s : Symbols) (name : String) : Option Symbol := List.find? (fun x => x.name = name) s

/-- The scope and all scopes around it, the innermost first. -/
def around (scope : String) : List String :=
  (SourceFile.packageNames scope).reverse ++ [""]

/-- Looks a name up in one scope after the other. Only symbols that `wanted` accepts are meant. -/
def search? (s : Symbols) (wanted : Symbol → Bool) (name : String) : List String → Option Symbol
  | [] => none
  | scope :: outer =>
    let first := String.ofList (name.toList.takeWhile (· ≠ '.'))
    if first = name then
      match (s.find? (qualify scope name)).filter wanted with
      | some found => some found
      | none => search? s wanted name outer
    else
      match s.find? (qualify scope first) with
      | some found =>
        if found.kind.isScope then (s.find? (qualify scope name)).filter wanted
        else search? s wanted name outer
      | none => search? s wanted name outer

/-- What a name means where it is used. A leading dot makes it a full name. -/
def resolve? (s : Symbols) (wanted : Symbol → Bool) (scope name : String) : Option Symbol :=
  match name.toList with
  | '.' :: rest => (s.find? (.ofList rest)).filter wanted
  | _ => search? s wanted name (around scope)

def type? (s : Symbols) (scope name : String) : Option Symbol :=
  s.resolve? (fun x => x.kind.isType) scope name

def message? (s : Symbols) (scope name : String) : Option Symbol :=
  s.resolve? (fun x => x.kind = .message) scope name

def isExtension (x : Symbol) : Bool :=
  match x.kind with
  | .extension .. => true
  | _ => false

def extended? (s : Symbols) (scope name : String) : Option String := do
  match (← s.resolve? isExtension scope name).kind with
  | .extension scope target => (s.message? scope target).map (·.name)
  | _ => none

end Symbols
end ReferenceSite.Proto.Source
