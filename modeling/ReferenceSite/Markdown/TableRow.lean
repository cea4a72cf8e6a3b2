import ReferenceSite.Markdown.Escape
import ReferenceSite.Markdown.Node

/-! Rows of pipe tables. A pipe ends a cell unless a backslash stands right before it. -/
namespace ReferenceSite.Markdown

/-- Splits a row behind its first pipe. White space behind a pipe is skipped (`skip`); `current`
holds the cell so far, last character first. -/
def cellsFrom (skip : Bool) (current : List Char) : List Char → List (List Char)
  | [] => if current.isEmpty then [] else [current.reverse]
  | c :: rest =>
    if skip ∧ isSpace c then cellsFrom true [] rest
    else if c = '|' ∧ current.head? ≠ some '\\' then current.reverse :: cellsFrom true [] rest
    else cellsFrom false (c :: current) rest

def unescapePipes : List Char → List Char
  | '\\' :: '|' :: rest => '|' :: unescapePipes rest
  | c :: rest => c :: unescapePipes rest
  | [] => []

def rowCells? (line : List Char) : Option (List (List Char)) :=
  let cells := cellsFrom false [] (if line.head? = some '|' then line.drop 1 else line)
  if cells.isEmpty then none else some (cells.map fun cell => trimSpace (unescapePipes cell))

/-- Dashes, with a colon at either end where the column is aligned. -/
def isDelimiterCell (cell : List Char) : Bool :=
  let inner := if cell.head? = some ':' then cell.drop 1 else cell
  let dashes := if inner.getLast? = some ':' then inner.dropLast else inner
  ! dashes.isEmpty && dashes.all (· = '-')

def isDelimiterRow (line : List Char) : Bool :=
  let parts := line.splitOn '|'
  let parts := if line.head? = some '|' then parts.drop 1 else parts
  let parts := if 2 ≤ parts.length ∧ (parts.getLast?.any (·.all isSpace)) then parts.dropLast
    else parts
  ! parts.isEmpty && parts.all fun part => isDelimiterCell (trimSpace part)

def alignment (cell : List Char) : Alignment :=
  match cell.head? == some ':',cell.getLast? == some ':' with
  | true,true => .center
  | true,false => .left
  | false,true => .right
  | false,false => .unset

end ReferenceSite.Markdown
