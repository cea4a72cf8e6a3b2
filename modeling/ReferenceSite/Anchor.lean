import ReferenceSite.Text.Blank
import ReferenceSite.Text.Case
import ReferenceSite.Text.Search

/-! Anchors of headings. A heading names its anchor by a marker such as `{#name}` anywhere in its
text, or it gets one derived from its text if its level is among those that do. -/
namespace ReferenceSite.Anchor
open ReferenceSite.Text

def isKept (c : Char) : Bool := ('a' ≤ c && c ≤ 'z') || ('0' ≤ c && c ≤ '9') || c = '_'

/-- One hyphen for each run of other characters; `gap` tells that one is already written. -/
def hyphenate (gap : Bool) : List Char → List Char
  | [] => []
  | c :: rest =>
    if isKept c then c :: hyphenate false rest
    else if gap then hyphenate true rest
    else '-' :: hyphenate true rest

/-- The anchor of a text: lower case, with hyphens between the kept runs and none at either end. -/
def derive (text : String) : String :=
  let hyphen (c : Char) : Bool := c = '-'
  let joined := hyphenate false (toLower text.toList)
  .ofList (dropWhileEnd hyphen (joined.dropWhile hyphen))

def marker? (s : List Char) : Option (List Char × List Char) := do
  let rest ← dropPrefix? ['{','#'] s
  let name := rest.takeWhile fun c => c ≠ '}' ∧ ! isBlank c
  if name.isEmpty then none
  else some (name,← dropPrefix? ['}'] (rest.drop name.length))

def splitMarker? : List Char → Option (List Char × List Char × List Char)
  | [] => none
  | c :: rest =>
    match marker? (c :: rest) with
    | some (name,after) => some ([],name,after)
    | none => (splitMarker? rest).map fun (before,name,after) => (c :: before,name,after)

/-- Takes the first marker out of a text. One space stands for it and the white space around it,
unless it is at an end. -/
def takeExplicit? (text : String) : Option (String × String) := do
  let (before,name,after) ← splitMarker? text.toList
  let before := trimEnd before
  let after := trimStart after
  let gap := if before.isEmpty ∨ after.isEmpty then [] else [' ']
  some (.ofList name,.ofList (before ++ gap ++ after))

def implicit? (text : String) (level first last : Nat) : Option String :=
  let id := derive text
  if first ≤ level ∧ level ≤ last ∧ id ≠ "" then some id else none

def html (id : String) : String :=
  "<a name=\"" ++ id ++ "\" class=\"anchor\" href=\"#" ++ id ++ "\"></a>"

end ReferenceSite.Anchor
