import ReferenceSite.Comment
import ReferenceSite.Proto.Walk
import ReferenceSite.Tables.Basic

/-! Reference pages as markdown: a section for each table and each type, with one table row for
each column, field or value. -/
namespace ReferenceSite
open ReferenceSite.Text

namespace Reference

/-- A comment as a table cell: on one line, with its bars escaped. -/
def cell (comment : String) : String :=
  .ofList ((Comment.singleLine comment).toList.flatMap fun c => if c = '|' then ['\\','|'] else [c])

def row (cells : List String) : String := " | ".intercalate cells ++ "\n"

def paragraph (text : String) : String := if text = "" then "" else text ++ "\n\n"

def columnRow (c : Column) : String :=
  row [c.name,c.columnType,if c.optional then "true" else "false",cell c.comment]

def tableSection (t : Table) : String :=
  "## " ++ t.name ++ "\n\n" ++ paragraph (.ofList (trim t.comment.toList)) ++
    row ["Column","Type","Optional","Description"] ++
    row ["------","----","--------","-----------"] ++
    String.join (t.columns.map columnRow) ++ "\n"

def tables (ts : List Table) : String := String.join (ts.map tableSection)

def code (text : String) : String := "`" ++ text ++ "`"

def valueRow (v : EnumValue) : String := row [code v.name,code (toString v.number),cell v.comment]

/-- The type of a field, linked to its section where it has one. -/
def fieldType (f : Field) : String :=
  match f.target with
  | some target => "[" ++ code f.declaredType ++ "](#" ++ target.fullName ++ ")"
  | none => code f.declaredType

def fieldRow (f : Field) : String := row [code f.name,fieldType f,cell f.comment]

/-- Types that lie deeper share the lowest heading level. -/
def deepestHeading : Nat := 2

def heading (e : Entity) : String :=
  String.ofList (List.replicate (min e.depth deepestHeading + 1) '#') ++
    " \x7b#" ++ e.definition.fullName ++ "\x7d " ++ e.definition.fullName ++ "\n\n"

def definedIn (file : String) : String :=
  "Defined in [" ++ ((Path.mk file).fileName?.getD file) ++ "](/" ++
    .ofList (file.toList.dropWhile (· = '/')) ++ ")\n\n"

def typeBody : TypeBody → String
  | .enumeration values =>
    "#### Enum values:\n" ++ row ["Name","Value","Description"] ++
      row ["----","-----","-----------"] ++ String.join (values.map valueRow)
  | .message fields =>
    "#### Fields:\n" ++ row ["Field","Type","Description"] ++
      row ["-----","----","-----------"] ++ String.join (fields.map fieldRow)

def typeSection (e : Entity) : String :=
  heading e ++ paragraph (Comment.singleLine (Comment.stripNextId e.definition.comment)) ++
    definedIn e.definition.file ++ typeBody e.definition.body ++ "\n"

def types (es : List Entity) : String := String.join (es.map typeSection)

def walk (s : Schema) (start : String) (depth : Nat) (v : Visits) :
    Visits × Except SchemaFault String :=
  let (v,reached) := s.collect start depth v
  (v,types <$> reached)

def ofType (s : Schema) (start : String) : Except SchemaFault String := (walk s start 0 .none).2

end Reference
end ReferenceSite
