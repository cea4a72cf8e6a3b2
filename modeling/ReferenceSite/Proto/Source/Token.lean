import ReferenceSite.Proto.Source.Lexeme

/-! Words with the comments around them. A block of comments right above a word leads it. A comment
behind a word on its line trails it, and so does one below it that a blank line or the end of a
scope follows. A block that blank lines set off on both sides belongs to nothing. -/
namespace ReferenceSite.Proto.Source

structure Token where
  word : Word
  leading : Option String
  trailing : Option String
deriving DecidableEq

structure Gap where
  /-- The block that is not yet attributed, and whether it is made of line comments. -/
  pending : Option (Bool × String)
  /-- Whether a finished block still belongs to the word before. -/
  attaches : Bool
  trailing : Option String

namespace Gap

def flush (g : Gap) : Gap :=
  match g.pending with
  | none => g
  | some (_,s) =>
    if g.attaches then ⟨none,false,some (g.trailing.getD "" ++ s)⟩
    else { g with pending := none }

/-- Line comments on successive lines are one block; a block comment is always one of its own. -/
def comment (g : Gap) (isLine : Bool) (s : String) : Gap :=
  match g.pending with
  | some (true,before) =>
    if isLine then { g with pending := some (true,before ++ s) }
    else { g.flush with pending := some (false,s) }
  | _ => { g.flush with pending := some (isLine,s) }

def below (g : Gap) : List Lexeme → Gap
  | .lineComment s :: rest => below (g.comment true s) rest
  | .blockComment s :: .lineEnd :: rest => below (g.comment false s) rest
  | .blockComment s :: rest => below (g.comment false s) rest
  | .lineEnd :: rest => below { g.flush with attaches := false } rest
  | _ => g

/-- Reads all that is between two words. At the start of a file there is no word before. A block
comment with a word behind it on its line belongs to nothing. -/
def read (atStart : Bool) (between : List Lexeme) : Gap :=
  if atStart then below ⟨none,false,none⟩ between
  else
    match between with
    | .lineComment s :: rest => below ⟨none,false,some s⟩ rest
    | .blockComment s :: .lineEnd :: rest => below ⟨none,false,some s⟩ rest
    | .lineEnd :: rest => below ⟨none,true,none⟩ rest
    | _ => ⟨none,false,none⟩

end Gap

def splitGap : List Lexeme → List Lexeme × List Lexeme
  | [] => ([],[])
  | .word w :: rest => ([],.word w :: rest)
  | l :: rest =>
    let (before,after) := splitGap rest
    (l :: before,after)

theorem splitGap_length (s : List Lexeme) : (splitGap s).2.length ≤ s.length := by
  fun_induction splitGap s <;> grind

def closesScope (w : Word) : Bool := w = .sign '}' ∨ w = .sign ']' ∨ w = .sign ')'

/-- The tokens of a text, and the comment that trails what stands before it. -/
def tokensAfter (atStart : Bool) (s : List Lexeme) : Option String × List Token :=
  let gap := Gap.read atStart (splitGap s).1
  match _h : (splitGap s).2 with
  | .word w :: rest =>
    let gap := if closesScope w then gap.flush else gap
    let (trailing,tokens) := tokensAfter false rest
    (gap.trailing,⟨w,gap.pending.map (·.2),trailing⟩ :: tokens)
  | _ => (gap.flush.trailing,[])
termination_by s.length
decreasing_by
  have := splitGap_length s
  grind

def tokens? (s : List Char) : Option (List Token) :=
  (lexemes? s).map fun lexemes => (tokensAfter true lexemes).2

end ReferenceSite.Proto.Source
