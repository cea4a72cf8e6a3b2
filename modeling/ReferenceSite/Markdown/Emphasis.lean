import ReferenceSite.Markdown.Node

/-! Emphasis, strong emphasis and strikethrough from runs of delimiters. A closing run looks back for
the nearest run that can open it; what lies between the two becomes one node, and runs that found no
partner are text. -/
namespace ReferenceSite.Markdown

/-- A run of one delimiter character. Its length as written decides what it can pair with; `left` of
it are not used up. -/
structure Delimiter where
  character : Char
  length : Nat
  left : Nat
  opens : Bool
  closes : Bool

inductive Piece where
  | node (n : Node)
  | delimiter (d : Delimiter)

namespace Piece

def settle : Piece → Node
  | .node n => n
  | .delimiter d => .text (List.replicate d.left d.character)

/-- What a piece weighs in the search for partners: each step takes some weight away. -/
def weight : Piece → Nat
  | .node _ => 1
  | .delimiter d => d.left + 1

end Piece

namespace Delimiter

/-- Runs that can both open and close pair up only if their lengths do not add to a multiple of
three, or if both are multiples of three. -/
def pairs (opener closer : Delimiter) : Bool :=
  opener.opens && opener.character == closer.character &&
    ! ((closer.opens || opener.closes) && (opener.length + closer.length) % 3 == 0 &&
      ! (opener.length % 3 == 0 && closer.length % 3 == 0))

/-- The nearest partner among the pieces to the left, nearest first: the pieces between, the
partner, and the pieces before it. -/
def findOpener? (closer : Delimiter) : List Piece → Option (List Piece × Delimiter × List Piece)
  | [] => none
  | .delimiter d :: before =>
    if d.pairs closer then some ([],d,before)
    else (findOpener? closer before).map fun (between,o,rest) => (.delimiter d :: between,o,rest)
  | piece :: before =>
    (findOpener? closer before).map fun (between,o,rest) => (piece :: between,o,rest)

def used (opener closer : Delimiter) : Nat := if 2 ≤ opener.left ∧ 2 ≤ closer.left then 2 else 1

/-- What a pair of runs means. A strikethrough pair has to use up both runs. -/
def meaning? (opener closer : Delimiter) : Option Kind :=
  let n := used opener closer
  if opener.character = '~' then
    if opener.left = n ∧ closer.left = n then some .strikethrough else none
  else if n = 1 then some .emphasis
  else some .strong

def remainder (d : Delimiter) (n : Nat) : List Piece :=
  if d.left ≤ n then [] else [.delimiter { d with left := d.left - n }]

end Delimiter

def totalWeight : List Piece → Nat
  | [] => 0
  | p :: rest => p.weight + totalWeight rest

theorem totalWeight_append (s t : List Piece) :
    totalWeight (s ++ t) = totalWeight s + totalWeight t := by
  induction s with
  | nil => simp [totalWeight]
  | cons p rest ih => simp only [List.cons_append,totalWeight,ih,Nat.add_assoc]

/-- Pairs up the runs in `right`; the pieces in `left`, nearest first, are already read. A
strikethrough pair of different lengths ends the search. -/
def pairRuns (left right : List Piece) : List Node :=
  match right with
  | [] => left.reverse.map Piece.settle
  | .node n :: rest => pairRuns (.node n :: left) rest
  | .delimiter d :: rest =>
    if d.left = 0 then pairRuns left rest
    else
      match if d.closes then d.findOpener? left else none with
      | none => pairRuns (.delimiter d :: left) rest
      | some (between,opener,before) =>
        match opener.meaning? d with
        | none => (left.reverse ++ right).map Piece.settle
        | some kind =>
          let n := opener.used d
          let node := Node.node kind (between.reverse.map Piece.settle)
          pairRuns (.node node :: (opener.remainder n ++ before)) (d.remainder n ++ rest)
termination_by totalWeight right
decreasing_by
  all_goals simp only [totalWeight,totalWeight_append,Piece.weight,Delimiter.remainder]
  · omega
  · omega
  · omega
  · have : 1 ≤ opener.used d := by
      simp only [Delimiter.used]
      split <;> omega
    split <;> simp only [totalWeight,Piece.weight] <;> omega

end ReferenceSite.Markdown
