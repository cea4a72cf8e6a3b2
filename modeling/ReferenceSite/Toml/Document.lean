import ReferenceSite.Toml.Scan

/-! TOML documents. A document is a list of statements, one on a line: the header of a table, the
header of one more table of a name, or a key with its value. The statements fill a table one after
the other; one that contradicts what is there makes the document invalid. -/
namespace ReferenceSite.Toml
open ReferenceSite.Text

/-- Values lie in each other, and keys have parts, to this depth at most. -/
def depthLimit : Nat := 79

def way? (parts : List String) : Option (List String × String) :=
  if parts.length > depthLimit then none
  else parts.getLast?.map (parts.dropLast,·)

def readKey? (s : List Char) : Option ((List String × String) × List Char) := do
  let (parts,rest) ← key? (skipSpace s)
  some (← way? parts,rest)

abbrev ValueReader := List Char → Option (Value × List Char)

def items? (value? : ValueReader) (s : List Char) : Option (List Value × List Char) :=
  match skipLines s with
  | ']' :: rest => some ([],rest)
  | start =>
    match value? start with
    | none => none
    | some (item,rest) =>
      match skipLines rest with
      | ',' :: rest =>
        if _h : rest.length < s.length then
          (items? value? rest).map fun (items,rest) => (item :: items,rest)
        else none
      | ']' :: rest => some ([item],rest)
      | _ => none
termination_by s.length

def assignment? (value? : ValueReader) (s : List Char) :
    Option ((List String × String) × Value × List Char) := do
  let (key,rest) ← readKey? s
  match rest with
  | '=' :: rest =>
    let (v,rest) ← value? (skipSpace rest)
    some (key,v,rest)
  | _ => none

def entries? (value? : ValueReader) (entries : Entries) (s : List Char) :
    Option (Entries × List Char) :=
  match assignment? value? s with
  | none => none
  | some ((way,name),v,rest) =>
    match entries.define way name v with
    | none => none
    | some entries =>
      match skipSpace rest with
      | ',' :: rest => if _h : rest.length < s.length then entries? value? entries rest else none
      | '}' :: rest => some (entries,rest)
      | _ => none
termination_by s.length

def value? : Nat → ValueReader
  | depth,s =>
    match depth,s with
    | depth + 1,'[' :: rest => (items? (value? depth) rest).map fun (items,rest) => (.array items,rest)
    | depth + 1,'{' :: rest =>
      match skipSpace rest with
      | '}' :: rest => some (.table .closed [],rest)
      | _ => (entries? (value? depth) [] rest).map fun (entries,rest) => (.table .closed entries,rest)
    | _,'"' :: _ => (text? s).map fun (t,rest) => (.text t,rest)
    | _,'\'' :: _ => (text? s).map fun (t,rest) => (.text t,rest)
    | _,_ => readScalar? s

inductive Statement where
  | blank
  | header (way : List String) (name : String)
  | element (way : List String) (name : String)
  | assign (way : List String) (name : String) (v : Value)

namespace Statement

def header? (closing s : List Char) : Option ((List String × String) × List Char) := do
  let (key,rest) ← readKey? s
  some (key,← dropPrefix? closing rest)

def read? (s : List Char) : Option (Statement × List Char) :=
  match skipSpace s with
  | [] => some (blank,[])
  | '#' :: rest => some (blank,'#' :: rest)
  | '\n' :: rest => some (blank,'\n' :: rest)
  | '\r' :: rest => some (blank,'\r' :: rest)
  | '[' :: '[' :: rest =>
    (header? [']',']'] rest).map fun ((way,name),rest) => (element way name,rest)
  | '[' :: rest => (header? [']'] rest).map fun ((way,name),rest) => (header way name,rest)
  | start =>
    (assignment? (value? depthLimit) start).map fun ((way,name),v,rest) => (assign way name v,rest)

def readAll? (s : List Char) : Option (List Statement) :=
  match read? s with
  | none => none
  | some (statement,rest) =>
    match skipComment (skipSpace rest) with
    | [] => some [statement]
    | rest =>
      match lineEnd? rest with
      | none => none
      | some rest =>
        if _h : rest.length < s.length then (readAll? rest).map (statement :: ·) else none
termination_by s.length

def apply (document : List String × Entries) (statement : Statement) : Option (List String × Entries) :=
  let (current,entries) := document
  match statement with
  | blank => some (current,entries)
  | header way name => (entries.openTable way name).map (way ++ [name],·)
  | element way name => (entries.addTable way name).map (way ++ [name],·)
  | assign way name v => (entries.defineUnder current way name v).map (current,·)

end Statement

/-- The entries of a document, which may begin with a byte order mark. -/
def document? (text : String) : Option Entries := do
  let s := text.toList
  let statements ← Statement.readAll? ((dropPrefix? ['\uFEFF'] s).getD s)
  let (_,entries) ← statements.foldlM Statement.apply ([],[])
  some entries

end ReferenceSite.Toml
