import ReferenceSite.Settings.Value

/-! Keys of a configuration, such as `tables.handle_types[0]`: a name, and then names behind dots and
indices in brackets. -/
namespace ReferenceSite.Settings

inductive Step where
  | name (s : String)
  | index (i : Int)
deriving DecidableEq

abbrev Key := List Step

namespace Key

def isNameChar (c : Char) : Bool := c.isAlphanum || c = '_' || c = '-' || c = ' '

def isBlank (c : Char) : Bool := c = ' ' || c = '\t'

def name? (s : List Char) : Option (Step × List Char) :=
  let name := s.takeWhile isNameChar
  if name.isEmpty then none else some (.name (.ofList name),s.dropWhile isNameChar)

def index? (s : List Char) : Option (Step × List Char) :=
  let s := s.dropWhile isBlank
  let negative := s.head? = some '-'
  let s := if negative then s.drop 1 else s
  let digits := s.takeWhile Char.isDigit
  let n : Int := digits.foldl (fun n c => 10 * n + (c.toNat - '0'.toNat)) 0
  let i := if negative then -n else n
  match (s.dropWhile Char.isDigit).dropWhile isBlank with
  | ']' :: rest =>
    if digits.isEmpty ∨ i < -0x8000000000000000 ∨ 0x8000000000000000 ≤ i then none
    else some (.index i,rest)
  | _ => none

def steps? (s : List Char) : Option Key :=
  match s with
  | [] => some []
  | mark :: rest =>
    match if mark = '.' then name? rest else if mark = '[' then index? rest else none with
    | none => none
    | some (step,after) =>
      if _h : after.length ≤ rest.length then (steps? after).map (step :: ·) else none
termination_by s.length

def read? (s : String) : Option Key := do
  let (first,rest) ← name? s.toList
  some (first :: (← steps? rest))

end Key

/-- Puts a value behind a key. Tables and lists on the way are made where they are missing. -/
def Value.place (incoming : Value) : Key → Value → Value
  | [],_ => incoming
  | [.name name],v => v.put name (incoming.mergedInto (v.get? name))
  | .name name :: rest,v => v.put name (place incoming rest ((v.get? name).getD .null))
  | .index i :: rest,v => v.alterItem i (place incoming rest)

end ReferenceSite.Settings
