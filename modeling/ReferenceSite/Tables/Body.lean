import ReferenceSite.Fault
import ReferenceSite.Tables.Basic
import ReferenceSite.Tables.Line

/-! Reading the body of a table's macro into a table. Comments ahead of the columns describe the
table, until a comment on one column begins; then they continue that column's comment, until the
table's name or parent is declared. Between columns they are dropped. -/
namespace ReferenceSite
open ReferenceSite.Text

inductive CommentTarget where
  | table
  | column (name : String)
  | dropped
deriving DecidableEq

structure TableDraft where
  table : Table
  columnComments : List (String × String)
  target : CommentTarget

namespace TableDraft

def start : TableDraft := ⟨.blank,[],.table⟩

def commentOn (d : TableDraft) (column : String) : String :=
  ((d.columnComments.find? (·.1 = column)).map (·.2)).getD ""

def addComment (d : TableDraft) (text : String) : TableDraft :=
  match d.target with
  | .table => { d with table.comment := d.table.comment ++ text ++ "\n" }
  | .column name =>
    { d with columnComments := (name,d.commentOn name ++ text ++ "\n") ::
        d.columnComments.filter (·.1 ≠ name) }
  | .dropped => d

/-- The type within an optional wrapper, up to the last closing bracket of its line. -/
def optionalArgument? : List Char → Option (List Char)
  | [] => none
  | c :: rest =>
    match dropPrefix? "Optional<".toList (c :: rest) with
    | some inner =>
      let upToLast := ((inner.takeWhile (· ≠ '\n')).reverse.dropWhile (· ≠ '>')).reverse
      if upToLast.isEmpty then optionalArgument? rest else some upToLast.dropLast
    | none => optionalArgument? rest

def declaredColumn (dialect : Dialect) (columnType name : String) : Column :=
  let (shown,optional) :=
    match optionalArgument? columnType.toList with
    | some argument => (String.ofList (trim argument),true)
    | none => (String.ofList (trim columnType.toList),false)
  ⟨name,if shown ∈ dialect.handleTypes then "string" else shown,optional,""⟩

/-- A column takes the comment that was written for its name before it. -/
def addColumn (dialect : Dialect) (d : TableDraft) (columnType name : String) : TableDraft :=
  let column := { declaredColumn dialect columnType name with comment := d.commentOn name }
  { d with table.columns := d.table.columns ++ [column], target := .dropped }

def readLine (dialect : Dialect) (d : TableDraft) : LineKind → Option TableDraft
  | .define | .blank => some d
  | .comment text => some (d.addComment text)
  | .columnComment name text => some ({ d with target := .column name }.addComment text)
  | .tableName name => some { d with table.name := name, target := .table }
  | .parent => some { d with target := .table }
  | .column columnType name => some (d.addColumn dialect columnType name)
  | .unrecognized => none

end TableDraft

/-- Reads numbered body lines into a table. The first line that is not understood is reported. -/
def Table.ofBody (path : Path) (dialect : Dialect) (body : List (Nat × String)) :
    Except SchemaFault Table :=
  (·.table) <$> body.foldlM (fun draft (number,raw) =>
    let line := stripContinuation raw
    match draft.readLine dialect (.ofLine line) with
    | some next => .ok next
    | none => .error (.unreadableLine path number line)) TableDraft.start

end ReferenceSite
