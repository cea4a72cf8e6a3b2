import ReferenceSite.Proofs.Text.Lines
import ReferenceSite.Tables.Header

/-! Headers as their authors are told to write them. A declaration of a table is the comment on it,
notes on some of its columns, and a macro of one line each for the table's name, its parent and its
columns; a header declares tables and announces them behind all declarations. Every part carries what
makes it well formed, so whatever is written here is a header in the documented shape. -/
namespace ReferenceSite
open ReferenceSite.Text

structure Word where
  chars : List Char
  nonempty : chars ≠ []
  letters : ∀ c ∈ chars, isWord c = true

structure Padding where
  chars : List Char
  blank : ∀ c ∈ chars, isBlank c = true
  single : '\n' ∉ chars

structure Trailing extends Padding where
  kept : chars.getLast? ≠ some '\r'

structure Remark where
  chars : List Char
  nonempty : chars ≠ []
  trimmed : Trimmed chars
  single : '\n' ∉ chars
  uncontinued : chars.getLast? ≠ some '\\'
  untagged : ∀ c rest, isBlank c = true → chars ≠ "@param".toList ++ c :: rest

structure ColumnNote where
  column : Word
  first : Remark
  more : List Remark

structure TypeText where
  chars : List Char
  nonempty : chars ≠ []
  trimmed : Trimmed chars
  single : '\n' ∉ chars

inductive DeclaredType where
  | plain (type : TypeText)
  | optional (qualifier : List Char) (qualified : ∀ c ∈ qualifier, isWord c = true ∨ c = ':')
    (argument : TypeText)

theorem qualifier_lacks (qualifier : List Char) (qualified : ∀ c ∈ qualifier, isWord c = true ∨ c = ':')
    (c : Char) (other : isWord c = false) (apart : c ≠ ':') : c ∉ qualifier := by
  intro member
  rcases qualified c member with letter | colon
  · simp [letter] at other
  · exact apart colon

structure DeclaredColumn where
  columnType : DeclaredType
  name : Word

inductive Ancestry where
  | none
  | root
  | parent (definition : Word)

structure Spacing where
  indent : Padding
  padding : Padding
  trailing : Trailing

structure Declaration where
  definition : Word
  comment : List Remark
  notes : List ColumnNote
  name : Word
  sqlName : List Char
  single : '\n' ∉ sqlName
  ancestry : Ancestry
  columns : List DeclaredColumn
  /-- How the lines of the macro are set, by their number. -/
  spacing : Nat → Spacing

theorem Word.lacks (w : Word) (c : Char) (other : isWord c = false) : c ∉ w.chars := by
  intro member
  simp [w.letters c member] at other

theorem Word.head (w : Word) : ∃ c rest, w.chars = c :: rest ∧ isBlank c = false := by
  obtain ⟨c,rest,shape⟩ := List.exists_cons_of_ne_nil w.nonempty
  exact ⟨c,rest,shape,not_blank_of_isWord c (w.letters c (by simp [shape]))⟩

/-! What is written. -/

def Remark.line (r : Remark) : List Char := "// ".toList ++ r.chars

def ColumnNote.tagged (n : ColumnNote) : List Char :=
  "@param ".toList ++ n.column.chars ++ ' ' :: n.first.chars

def ColumnNote.lines (n : ColumnNote) : List (List Char) :=
  ("// ".toList ++ n.tagged) :: n.more.map Remark.line

def DeclaredType.text : DeclaredType → List Char
  | plain type => type.chars
  | optional qualifier _ argument => qualifier ++ "Optional<".toList ++ argument.chars ++ ['>']

def DeclaredColumn.text (c : DeclaredColumn) : List Char :=
  "C(".toList ++ c.columnType.text ++ ", ".toList ++ c.name.chars ++ [')']

def Ancestry.texts : Ancestry → List (List Char)
  | none => []
  | root => ["PERFETTO_TP_ROOT_TABLE(PARENT, C)".toList]
  | parent definition => ["PARENT(".toList ++ definition.chars ++ ", C)".toList]

theorem Ancestry.texts_cases (a : Ancestry) (text : List Char) (member : text ∈ a.texts) :
    text = "PERFETTO_TP_ROOT_TABLE(PARENT, C)".toList ∨
      ∃ definition : Word, text = "PARENT(".toList ++ definition.chars ++ ", C)".toList := by
  cases a with
  | none => cases member
  | root => exact .inl (List.mem_singleton.mp member)
  | parent definition => exact .inr ⟨definition,List.mem_singleton.mp member⟩

/-- One line for each text, of which all but the last are continued. -/
def continuedLines (spacing : Nat → Spacing) : List (List Char) → List (List Char)
  | [] => []
  | [text] => [(spacing 0).indent.chars ++ text ++ (spacing 0).trailing.chars]
  | text :: rest =>
    ((spacing 0).indent.chars ++ text ++ (spacing 0).padding.chars ++ ['\\'] ++
      (spacing 0).trailing.chars) :: continuedLines (fun n => spacing (n + 1)) rest

namespace Declaration

def defineText (d : Declaration) : List Char :=
  "#define ".toList ++ d.definition.chars ++ "(NAME, PARENT, C)".toList

def nameText (d : Declaration) : List Char :=
  "NAME(".toList ++ d.name.chars ++ ", \"".toList ++ d.sqlName ++ "\")".toList

def inner (d : Declaration) : List (List Char) :=
  d.nameText :: (d.ancestry.texts ++ d.columns.map DeclaredColumn.text)

def commentLines (d : Declaration) : List (List Char) :=
  d.comment.map Remark.line ++ d.notes.flatMap ColumnNote.lines

def macroLines (d : Declaration) : List (List Char) := continuedLines d.spacing (d.defineText :: d.inner)

def lines (d : Declaration) : List (List Char) := d.commentLines ++ d.macroLines

def announcement (d : Declaration) : List Char :=
  "PERFETTO_TP_TABLE(".toList ++ d.definition.chars ++ ");".toList

end Declaration

structure DeclaredHeader where
  declared : List Declaration
  distinct : (declared.map (·.definition.chars)).Nodup
  announced : List Declaration
  present : ∀ d ∈ announced, d ∈ declared
  /-- The blank lines ahead of each declaration, by its number, and behind the last one. -/
  gaps : Nat → List Trailing

def blocks (gaps : Nat → List Trailing) : List Declaration → List (List Char)
  | [] => (gaps 0).map (·.chars)
  | d :: rest => (gaps 0).map (·.chars) ++ d.lines ++ blocks (fun n => gaps (n + 1)) rest

namespace DeclaredHeader

def lines (h : DeclaredHeader) : List (List Char) :=
  blocks h.gaps h.declared ++ h.announced.map Declaration.announcement

def text (h : DeclaredHeader) : String := .ofList (h.lines.flatMap (· ++ ['\n']))

end DeclaredHeader

/-! What is declared by it. -/

def remarked (remarks : List Remark) : String :=
  String.join (remarks.map fun r => String.ofList r.chars ++ "\n")

def Declaration.remarksOn (d : Declaration) (column : Word) : List Remark :=
  (d.notes.filter (·.column.chars = column.chars)).flatMap fun n => n.first :: n.more

/-- The type without an optional wrapper, and whether there is one. -/
def DeclaredType.meaning : DeclaredType → String × Bool
  | plain type => (.ofList type.chars,false)
  | optional _ _ argument => (.ofList argument.chars,true)

def DeclaredColumn.column (c : DeclaredColumn) : Column where
  name := .ofList c.name.chars
  columnType := if c.columnType.meaning.1 = "StringPool::Id" then "string" else c.columnType.meaning.1
  optional := c.columnType.meaning.2
  comment := ""

def Declaration.table (d : Declaration) : Table where
  name := .ofList d.name.chars
  comment := remarked d.comment
  columns := d.columns.map fun c => { c.column with comment := remarked (d.remarksOn c.name) }

end ReferenceSite
