import ReferenceSite.Markdown.Escape
import ReferenceSite.Text.Blank
import ReferenceSite.Text.Case

/-! Link labels, destinations and titles, and the definitions that give a label its destination.
Every scanner answers how many characters it has read; the first definition of a label counts. -/
namespace ReferenceSite.Markdown
open ReferenceSite.Text

structure Reference where
  url : String
  title : String

abbrev References := List (List Char × Reference)

/-- A text in which only spaces and brackets carry meaning: one space for a run of white space. -/
def joinBlanks (blank : Bool) : List Char → List Char
  | [] => []
  | c :: rest =>
    if isBlank c then (if blank then joinBlanks true rest else ' ' :: joinBlanks true rest)
    else c :: joinBlanks false rest

/-- Labels are compared without regard to case and to the amount of white space. -/
def normalizeLabel (label : List Char) : List Char := foldCase (joinBlanks false (trimSpace label))

/-- The longest label, in bytes. -/
def labelLimit : Nat := 1000

/-- The inside of a label up to its closing bracket; `escaped` tells that a backslash came right
before. -/
def labelInside? (escaped : Bool) : List Char → Option (List Char)
  | [] => none
  | c :: rest =>
    if escaped ∧ isAsciiPunctuation c then (labelInside? false rest).map (c :: ·)
    else if c = ']' then some []
    else if c = '[' then none
    else (labelInside? (c = '\\') rest).map (c :: ·)

def scanLabel? : List Char → Option (List Char × Nat)
  | '[' :: rest => do
    let inside ← labelInside? false rest
    if (String.ofList inside).utf8ByteSize ≤ labelLimit then
      some (trimSpace inside,inside.length + 2)
    else none
  | _ => none

def pointyLength? (escaped : Bool) : List Char → Option Nat
  | [] => none
  | c :: rest =>
    if escaped then (pointyLength? false rest).map (· + 1)
    else if c = '>' then if rest.isEmpty then none else some 1
    else if c = '\n' ∨ c = '\r' ∨ c = '<' then none
    else (pointyLength? (c = '\\') rest).map (· + 1)

def parenthesesLimit : Nat := 32

/-- A bare destination ends at white space or at a parenthesis that it does not open. The text has
to go on behind it. -/
def bareLength? (depth : Nat) (escaped : Bool) : List Char → Option Nat
  | [] => none
  | c :: rest =>
    if escaped ∧ isAsciiPunctuation c then (bareLength? depth false rest).map (· + 1)
    else if c = '(' then
      if parenthesesLimit ≤ depth then none
      else (bareLength? (depth + 1) false rest).map (· + 1)
    else if c = ')' then
      if depth = 0 then some 0 else (bareLength? (depth - 1) false rest).map (· + 1)
    else if c ≤ ' ' ∨ c = '\x7f' then if depth = 0 then some 0 else none
    else (bareLength? depth (c = '\\') rest).map (· + 1)

def scanDestination? (s : List Char) : Option (List Char × Nat) :=
  match s with
  | '<' :: rest => (pointyLength? false rest).map fun n => (rest.take (n - 1),n + 1)
  | c :: _ =>
    if c ≤ ' ' ∨ c = '\x7f' then none
    else (bareLength? 0 false s).map fun n => (s.take n,n)
  | [] => none

/-- How far a quoted title reaches, its closing mark included. A mark behind a backslash does not
close the title, unless nothing else does. -/
def titleLength? (quote : Char) (escaped : Bool) : List Char → Option Nat
  | [] => none
  | c :: rest =>
    if c = quote then
      if escaped then ((titleLength? quote false rest).map (· + 1)).or (some 1) else some 1
    else if c = '(' ∧ quote = ')' ∧ ! escaped then none
    else (titleLength? quote (c = '\\') rest).map (· + 1)

def scanTitle? : List Char → Option Nat
  | '"' :: rest => (titleLength? '"' false rest).map (· + 1)
  | '\'' :: rest => (titleLength? '\'' false rest).map (· + 1)
  | '(' :: rest => (titleLength? ')' false rest).map (· + 1)
  | _ => none

def cleanDestination (s : List Char) : String := .ofList (unescape (trimSpace s))

def cleanTitle (s : List Char) : String := .ofList (unescape ((s.drop 1).dropLast))

/-- The number of spaces, of which one may be a line feed. -/
def spacesWithLine (s : List Char) : Nat :=
  let first := (s.takeWhile isSpaceOrTab).length
  match s.drop first with
  | '\n' :: rest => first + 1 + (rest.takeWhile isSpaceOrTab).length
  | _ => first

def restOfLine? (s : List Char) : Option Nat :=
  let spaces := (s.takeWhile isSpaceOrTab).length
  match s.drop spaces with
  | [] => some spaces
  | '\n' :: _ => some (spaces + 1)
  | _ => none

def scanDefinition? (s : List Char) : Option (List Char × Reference × List Char) := do
  let (label,n) ← scanLabel? s
  if label.isEmpty then none
  let s ← match s.drop n with
    | ':' :: rest => some rest
    | _ => none
  let s := s.drop (spacesWithLine s)
  let (destination,n) ← scanDestination? s
  let behind := s.drop n
  let gap := spacesWithLine behind
  let titled := behind.drop gap
  let url := cleanDestination destination
  let titleEnd : Option (Nat × Nat) := do
    let n ← if gap = 0 then none else scanTitle? titled
    some (n,← restOfLine? (titled.drop n))
  match titleEnd with
  | some (n,rest) => some (label,⟨url,cleanTitle (titled.take n)⟩,titled.drop (n + rest))
  | none => some (label,⟨url,""⟩,behind.drop (← restOfLine? behind))

/-- Takes the definitions from the front of a paragraph. At most `limit` are read; each takes at
least one character. -/
def takeDefinitions (limit : Nat) (known : References) (s : List Char) : References × List Char :=
  match limit,scanDefinition? s with
  | limit + 1,some (label,reference,rest) =>
    takeDefinitions limit (known ++ [(normalizeLabel label,reference)]) rest
  | _,_ => (known,s)

def References.lookup? (references : References) (label : List Char) : Option Reference :=
  (references.find? (·.1 = normalizeLabel label)).map (·.2)

end ReferenceSite.Markdown
