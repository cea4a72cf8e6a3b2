import ReferenceSite.Proto.Source.Token

/-! Statements of message definitions. A statement ends at a semicolon or holds further statements
between braces. Braces and brackets inside an option's value are part of the statement. -/
namespace ReferenceSite.Proto.Source

/-- The words that a statement begins with, and its comment: the one that leads it, or else the one
that trails its semicolon or its opening brace. -/
structure Head where
  words : List Word
  comment : String
deriving DecidableEq

inductive Statement where
  | line (head : Head)
  | block (head : Head) (body : List Statement)

/-- Statements while they are read: for each open brace, the statements before it and its head. The
words of the statement that is being read come last word first. -/
structure Reading where
  outer : List (List Statement × Head)
  done : List Statement
  words : List Word
  leading : Option String
  /-- How many brackets are open inside an option's value. -/
  depth : Nat

namespace Reading

def start : Reading := ⟨[],[],[],none,0⟩

def head (r : Reading) (t : Token) : Head :=
  let leading := if r.words.isEmpty then t.leading else r.leading
  ⟨r.words.reverse,leading.getD (t.trailing.getD "")⟩

def push (r : Reading) (t : Token) (depth : Nat) : Reading :=
  { r with
    words := t.word :: r.words
    leading := if r.words.isEmpty then t.leading else r.leading
    depth := depth }

/-- Whether a brace behind these words opens a value. -/
def opensValue (words : List Word) : Bool := words.head? = some (.sign '=')

def step (r : Reading) (t : Token) : Option Reading :=
  match t.word with
  | .sign '[' => some (r.push t (r.depth + 1))
  | .sign ']' => if r.depth = 0 then none else some (r.push t (r.depth - 1))
  | .sign '{' =>
    if r.depth > 0 ∨ opensValue r.words then some (r.push t (r.depth + 1))
    else some ⟨(r.done,r.head t) :: r.outer,[],[],none,0⟩
  | .sign '}' =>
    if r.depth > 0 then some (r.push t (r.depth - 1))
    else
      match r.words,r.outer with
      | [],(before,head) :: outer => some ⟨outer,.block head r.done.reverse :: before,[],none,0⟩
      | _,_ => none
  | .sign ';' =>
    if r.depth > 0 then some (r.push t r.depth)
    else some { r with done := .line (r.head t) :: r.done, words := [], leading := none }
  | _ => some (r.push t r.depth)

end Reading

def statements? (s : List Char) : Option (List Statement) := do
  let r ← (← tokens? s).foldlM Reading.step .start
  if r.outer.isEmpty ∧ r.words.isEmpty then some r.done.reverse else none

end ReferenceSite.Proto.Source
