import ReferenceSite.Text.Blank
import ReferenceSite.Text.Search

/-! Source comments on a single line. Wrapped lines are joined by a space; a line that ends a
sentence, and a blank line, become an explicit break. -/
namespace ReferenceSite.Comment
open ReferenceSite.Text

def lineBreak : List Char := "<br>".toList

def separatorAfter (line : List Char) : List Char :=
  if line.getLast? = some '.' then lineBreak else [' ']

/-- Joins trimmed lines. `separator` is due before the next line that is not blank; it is absent
before the first one. -/
def joinLines (separator : Option (List Char)) : List (List Char) → List Char
  | [] => []
  | line :: rest =>
    if line.isEmpty then joinLines (separator.map fun _ => lineBreak) rest
    else separator.getD [] ++ line ++ joinLines (some (separatorAfter line)) rest

def singleLine (comment : String) : String :=
  .ofList (joinLines none ((lines (trim comment.toList)).map trim))

/-- The rest of the text behind a bookkeeping line, when one begins at this line start: white
space, "next id" in any case, everything up to the line feed, and the line feed. -/
def afterNextId? (s : List Char) : Option (List Char) :=
  let body := trimStart s
  if (body.take 7).map Char.toLower = "next id".toList then
    some ((body.drop 7).dropWhile (· ≠ '\n') |>.drop 1)
  else none

theorem afterNextId?_length {s rest : List Char} (h : afterNextId? s = some rest) :
    rest.length < s.length := by
  have blanks := (List.dropWhile_suffix (l := s) isBlank).length_le
  have tail := (List.dropWhile_suffix (l := (trimStart s).drop 7) (· ≠ '\n')).length_le
  simp only [afterNextId?] at h
  split at h
  · next key =>
    have long : 7 ≤ (trimStart s).length := by
      have := congrArg List.length key
      simp at this
      omega
    cases h
    simp only [List.length_drop,trimStart] at *
    omega
  · cases h

/-- Removes the bookkeeping lines from a text that is read from a line start (`fresh`) or from
within a line. -/
def dropNextId (fresh : Bool) (s : List Char) : List Char :=
  match _h : if fresh then afterNextId? s else none with
  | some rest => dropNextId true rest
  | none =>
    match s with
    | [] => []
    | c :: rest => c :: dropNextId (c = '\n') rest
termination_by s.length
decreasing_by
  · split at _h
    · exact afterNextId?_length _h
    · cases _h
  · simp

/-- Drops the "Next id: N" lines that authors of message types keep in their comments. -/
def stripNextId (comment : String) : String := .ofList (dropNextId true comment.toList)

end ReferenceSite.Comment
