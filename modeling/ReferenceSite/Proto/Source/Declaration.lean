import ReferenceSite.Proto.Source.Statement

/-! Declarations of message definitions, and how they are read from statements. Types are named as
written; what the names mean is settled later. -/
namespace ReferenceSite.Proto.Source

/-- One part of an option's name. An extension's name stands in brackets. -/
structure OptionPart where
  isExtension : Bool
  name : String
deriving DecidableEq

inductive OptionValue where
  | word (s : String)
  | integer (n : Int)
  | decimal
  | text (s : String)
  | aggregate
deriving DecidableEq

structure OptionUse where
  name : List OptionPart
  value : OptionValue
deriving DecidableEq

inductive Label where
  | optional
  | required
  | repeated
deriving DecidableEq

inductive FieldType where
  | single (name : String)
  | map (key value : String)
  /-- The message that is declared with the field. -/
  | group
deriving DecidableEq

structure FieldDecl where
  name : String
  number : Nat
  label : Option Label
  type : FieldType
  options : List OptionUse
  comment : String
deriving DecidableEq

structure ValueDecl where
  name : String
  number : Int
  options : List OptionUse
  comment : String
deriving DecidableEq

/-- Numbers from the first to the last, both included. -/
structure Range where
  first : Int
  last : Int
deriving DecidableEq

structure EnumDecl where
  name : String
  comment : String
  values : List ValueDecl
  options : List OptionUse
  reserved : List Range
  reservedNames : List String
deriving DecidableEq

structure MethodDecl where
  name : String
  input : String
  output : String
  options : List OptionUse
deriving DecidableEq

inductive Declaration where
  | option (o : OptionUse)
  | field (f : FieldDecl)
  /-- A field together with the message that is its type. -/
  | group (f : FieldDecl) (body : List Declaration)
  | oneof (name : String) (body : List Declaration)
  | message (name comment : String) (body : List Declaration)
  | enumeration (e : EnumDecl)
  | extend (target : String) (body : List Declaration)
  | reserved (ranges : List Range) (names : List String)
  | extensions (ranges : List Range) (options : List OptionUse)
  | service (name : String) (methods : List MethodDecl) (options : List OptionUse)

def maxFieldNumber : Int := 0x1FFFFFFF

def scalarNames : List String :=
  ["double","float","int32","int64","uint32","uint64","sint32","sint64","fixed32","fixed64",
    "sfixed32","sfixed64","bool","string","bytes"]

def moreParts (soFar : String) : List Word → String × List Word
  | .sign '.' :: .name s :: rest => moreParts (soFar ++ "." ++ s) rest
  | rest => (soFar,rest)

def fullName? : List Word → Option (String × List Word)
  | .name s :: rest => some (moreParts s rest)
  | _ => none

def typeName? : List Word → Option (String × List Word)
  | .sign '.' :: .name s :: rest => some (moreParts ("." ++ s) rest)
  | rest => fullName? rest

/-- Texts that follow one another are one text. -/
def textAfter (soFar : String) : List Word → String × List Word
  | .text s :: rest => textAfter (soFar ++ s) rest
  | rest => (soFar,rest)

def splitCommas (depth : Nat) : List Word → List (List Word)
  | [] => [[]]
  | .sign ',' :: rest =>
    if depth = 0 then [] :: splitCommas 0 rest
    else match splitCommas depth rest with
      | first :: more => (.sign ',' :: first) :: more
      | [] => [[.sign ',']]
  | w :: rest =>
    let depth := if [.sign '[',.sign '{',.sign '('].contains w then depth + 1
      else if [.sign ']',.sign '}',.sign ')'].contains w then depth - 1 else depth
    match splitCommas depth rest with
    | first :: more => (w :: first) :: more
    | [] => [[w]]

def optionPart? : List Word → Option (OptionPart × List Word)
  | .sign '(' :: rest => do
    let (name,rest) ← typeName? rest
    match rest with
    | .sign ')' :: rest => some (⟨true,name⟩,rest)
    | _ => none
  | .name s :: rest => some (⟨false,s⟩,rest)
  | _ => none

def optionName? (fuel : Nat) (s : List Word) : Option (List OptionPart × List Word) := do
  let (part,rest) ← optionPart? s
  match fuel,rest with
  | fuel + 1,.sign '.' :: rest =>
    let (parts,rest) ← optionName? fuel rest
    some (part :: parts,rest)
  | _,rest => some ([part],rest)

def optionValue? : List Word → Option OptionValue
  | .text s :: rest =>
    match textAfter s rest with
    | (s,[]) => some (.text s)
    | _ => none
  | [.name s] => some (.word s)
  | [.integer n] => some (.integer n)
  | [.decimal] => some .decimal
  | [.sign '-',.integer n] => some (.integer (-n))
  | [.sign '-',.decimal] => some .decimal
  | [.sign '-',.name s] => if s = "inf" ∨ s = "nan" then some .decimal else none
  | .sign '{' :: rest => if rest.getLast? = some (.sign '}') then some .aggregate else none
  | _ => none

def optionUse? (s : List Word) : Option OptionUse := do
  let (name,rest) ← optionName? s.length s
  match rest with
  | .sign '=' :: value => some ⟨name,← optionValue? value⟩
  | _ => none

def bracketed? : List Word → Option (List OptionUse)
  | [] => some []
  | .sign '[' :: rest =>
    if rest.getLast? = some (.sign ']') then (splitCommas 0 rest.dropLast).mapM optionUse? else none
  | _ => none

def label? : List Word → Option Label × List Word
  | .name "optional" :: rest => (some .optional,rest)
  | .name "required" :: rest => (some .required,rest)
  | .name "repeated" :: rest => (some .repeated,rest)
  | rest => (none,rest)

def fieldType? : List Word → Option (FieldType × List Word)
  | .name "map" :: .sign '<' :: rest => do
    let (key,rest) ← typeName? rest
    match rest with
    | .sign ',' :: rest =>
      let (value,rest) ← typeName? rest
      match rest with
      | .sign '>' :: rest => some (.map key value,rest)
      | _ => none
    | _ => none
  | .name "group" :: rest => some (.group,rest)
  | rest => (typeName? rest).map fun (name,rest) => (.single name,rest)

def field? (h : Head) : Option FieldDecl := do
  let (label,rest) := label? h.words
  let (type,rest) ← fieldType? rest
  match rest with
  | .name name :: .sign '=' :: .integer number :: rest =>
    some ⟨name,number,label,type,← bracketed? rest,h.comment⟩
  | _ => none

def signedNumber? : List Word → Option (Int × List Word)
  | .integer n :: rest => some (n,rest)
  | .sign '-' :: .integer n :: rest => some (-n,rest)
  | _ => none

/-- A number, or two with `to` between them; `top` is the greatest number. -/
def range? (top : Int) (s : List Word) : Option Range := do
  let (first,rest) ← signedNumber? s
  match rest with
  | [] => some ⟨first,first⟩
  | [.name "to",.name "max"] => some ⟨first,top⟩
  | .name "to" :: rest =>
    match ← signedNumber? rest with
    | (last,[]) => some ⟨first,last⟩
    | _ => none
  | _ => none

def reservedName? (s : List Word) : Option String :=
  match s with
  | .text a :: rest =>
    match textAfter a rest with
    | (name,[]) => some name
    | _ => none
  | _ => none

def reserved? (top : Int) (s : List Word) : Option (List Range × List String) :=
  match s with
  | .text _ :: _ => ((splitCommas 0 s).mapM reservedName?).map ([],·)
  | _ => ((splitCommas 0 s).mapM (range? top)).map (·,[])

def extensions? (s : List Word) : Option Declaration := do
  let numbers := s.takeWhile (· ≠ .sign '[')
  let ranges ← (splitCommas 0 numbers).mapM (range? maxFieldNumber)
  some (.extensions ranges (← bracketed? (s.drop numbers.length)))

def value? (h : Head) : Option ValueDecl :=
  match h.words with
  | .name name :: .sign '=' :: rest => do
    let (n,rest) ← signedNumber? rest
    some ⟨name,n,← bracketed? rest,h.comment⟩
  | _ => none

def maxEnumNumber : Int := 0x7FFFFFFF

def EnumDecl.add (e : EnumDecl) (s : Statement) : Option EnumDecl :=
  match s with
  | .block .. => none
  | .line h =>
    match h.words with
    | [] => some e
    | .name "option" :: rest => (optionUse? rest).map fun o => { e with options := e.options ++ [o] }
    | .name "reserved" :: rest =>
      (reserved? maxEnumNumber rest).map fun (ranges,names) => { e with
        reserved := e.reserved ++ ranges
        reservedNames := e.reservedNames ++ names }
    | _ => (value? h).map fun v => { e with values := e.values ++ [v] }

def enumeration? (name comment : String) (body : List Statement) : Option EnumDecl :=
  body.foldlM EnumDecl.add ⟨name,comment,[],[],[],[]⟩

/-- A type in brackets, which a stream may be of. -/
def methodType? : List Word → Option (String × List Word)
  | .sign '(' :: rest => do
    let named := match rest with
      | .name "stream" :: rest => rest
      | rest => rest
    let (name,rest) ← typeName? named
    match rest with
    | .sign ')' :: rest => some (name,rest)
    | _ => none
  | _ => none

def method? (words : List Word) (options : List OptionUse) : Option MethodDecl :=
  match words with
  | .name "rpc" :: .name name :: rest => do
    let (input,rest) ← methodType? rest
    match rest with
    | .name "returns" :: rest =>
      match ← methodType? rest with
      | (output,[]) => some ⟨name,input,output,options⟩
      | _ => none
    | _ => none
  | _ => none

def optionLine? : Statement → Option (List OptionUse)
  | .line h =>
    match h.words with
    | [] => some []
    | .name "option" :: rest => (optionUse? rest).map ([·])
    | _ => none
  | .block .. => none

def service? (name : String) (body : List Statement) : Option Declaration := do
  let parts ← body.mapM fun s : Statement =>
    match s with
    | .line ⟨.name "rpc" :: rest,_⟩ =>
      (method? (.name "rpc" :: rest) []).map fun m => ([m],([] : List OptionUse))
    | .line h => (optionLine? (.line h)).map fun options => ([],options)
    | .block h inner => do
      let options ← inner.mapM optionLine?
      (method? h.words options.flatten).map fun m => ([m],[])
  some (.service name (parts.flatMap (·.1)) (parts.flatMap (·.2)))

inductive Place where
  | file
  | message
  | oneof
  | extend
deriving DecidableEq

/-- The declarations of a line: one, or none on an empty line. -/
def lineDeclarations? (place : Place) (h : Head) : Option (List Declaration) :=
  match place,h.words with
  | _,[] => some []
  | .extend,_ => (field? h).map ([.field ·])
  | _,.name "option" :: rest => (optionUse? rest).map ([.option ·])
  | .file,_ => none
  | .oneof,_ => (field? h).map ([.field ·])
  | .message,.name "reserved" :: rest =>
    (reserved? maxFieldNumber rest).map fun (ranges,names) => [.reserved ranges names]
  | .message,.name "extensions" :: rest => (extensions? rest).map ([·])
  | .message,.name word :: _ =>
    if ["message","enum","extend","oneof"].contains word then none
    else (field? h).map ([.field ·])
  | .message,_ => (field? h).map ([.field ·])

mutual
def declarations? (place : Place) : Statement → Option (List Declaration)
  | .line h => do
    let found ← lineDeclarations? place h
    if found.any fun d => match d with
      | .field f => f.type = .group
      | _ => false then none
    else some found
  | .block h body =>
    match place,h.words with
    | .file,[.name "message",.name name] | .message,[.name "message",.name name] =>
      (allDeclarations? .message body).map fun body => [.message name h.comment body]
    | .file,[.name "enum",.name name] | .message,[.name "enum",.name name] =>
      (enumeration? name h.comment body).map ([.enumeration ·])
    | .message,[.name "oneof",.name name] =>
      (allDeclarations? .oneof body).map fun body => [.oneof name body]
    | .file,[.name "service",.name name] => (service? name body).map ([·])
    | .file,.name "extend" :: rest | .message,.name "extend" :: rest =>
      match typeName? rest with
      | some (target,[]) => (allDeclarations? .extend body).map fun body => [.extend target body]
      | _ => none
    | .file,_ => none
    | _,_ =>
      match field? h with
      | some f =>
        if f.type = .group then
          (allDeclarations? .message body).map fun body => [.group f body]
        else none
      | none => none

def allDeclarations? (place : Place) : List Statement → Option (List Declaration)
  | [] => some []
  | s :: rest => do
    let first ← declarations? place s
    let more ← allDeclarations? place rest
    some (first ++ more)
end

end ReferenceSite.Proto.Source
