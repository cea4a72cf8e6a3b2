import ReferenceSite.Text.Blank
import ReferenceSite.Text.Search
import ReferenceSite.Text.Word

/-! The lines of a table's macro body. Each line is of exactly one kind; the kinds are tried in a
fixed order, so a define that mentions a parent is a define and a comment that shows a column is a
comment. -/
namespace ReferenceSite
open ReferenceSite.Text

inductive LineKind where
  | define
  | blank
  | comment (text : String)
  | columnComment (name text : String)
  | tableName (name : String)
  | parent
  | column (columnType name : String)
  | unrecognized
deriving DecidableEq

namespace LineKind

def leadingWord? (s : List Char) : Option (List Char × List Char) :=
  let word := s.takeWhile isWord
  if word.isEmpty then none else some (word,s.dropWhile isWord)

def isDefine (s : List Char) : Bool :=
  match dropPrefix? "#define".toList (trimStart s) with
  | some rest => (leadingWord? rest).isNone
  | none => false

def commentText? (s : List Char) : Option (List Char) := do
  let text := trimStart (← dropPrefix? "//".toList (trimStart s))
  if text.contains '\n' then none else some text

def columnComment? (text : List Char) : Option (List Char × List Char) := do
  let rest ← dropPrefix? "@param".toList text
  let entry := trimStart rest
  if entry.length = rest.length ∨ entry.isEmpty then none
  else some (entry.takeWhile (! isBlank ·),trimStart (entry.dropWhile (! isBlank ·)))

def tableName? (s : List Char) : Option (List Char) := do
  let (name,rest) ← leadingWord? (← dropPrefix? "NAME(".toList (trimStart s))
  if (trimStart rest).head? = some ',' then some name else none

/-- Whether a whole word declares a parent or ends like the name of a root table. -/
def mentionsParent (s : List Char) : Bool :=
  (s.splitOnP (! isWord ·)).any fun word =>
    word = "PARENT".toList || "ROOT_TABLE".toList.isSuffixOf word

/-- Type and name of a column. The type reaches up to the first comma. -/
def column? (s : List Char) : Option (List Char × List Char) := do
  let rest ← dropPrefix? "C(".toList (trimStart s)
  let columnType := rest.takeWhile (· ≠ ',')
  let name ← dropPrefix? [','] (rest.dropWhile (· ≠ ','))
  let (name,_) ← leadingWord? (trimStart name)
  if columnType.isEmpty then none else some (trim columnType,name)

def ofLine (line : String) : LineKind :=
  let s := line.toList
  if isDefine s then .define
  else if (trim s).isEmpty then .blank
  else match commentText? s with
  | some text =>
    match columnComment? text with
    | some (name,text) => .columnComment (.ofList name) (.ofList text)
    | none => .comment (.ofList text)
  | none =>
    match tableName? s with
    | some name => .tableName (.ofList name)
    | none =>
      if mentionsParent s then .parent
      else match column? s with
      | some (columnType,name) => .column (.ofList columnType) (.ofList name)
      | none => .unrecognized

end LineKind

/-- Drops the backslash that continues a line, and the white space around it. -/
def stripContinuation (line : String) : String :=
  let s := trimEnd line.toList
  .ofList (trimEnd ((dropSuffix? ['\\'] s).getD s))

def isContinued (line : String) : Bool := (trimEnd line.toList).getLast? = some '\\'

end ReferenceSite
