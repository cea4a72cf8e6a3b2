import ReferenceSite.Text.Case
import ReferenceSite.Toml.Value

/-! Values of a configuration. A value remembers the file that it came from. Tables are merged name by
name, all other values replace what was there; names do not depend on case. -/
namespace ReferenceSite.Settings
open ReferenceSite.Text ReferenceSite.Number

inductive Scalar where
  | null
  | boolean (b : Bool)
  | integer (n : Int)
  | float (x : Binary64)
  | text (s : String)
deriving DecidableEq

/-- A value and the file it came from. A table that was merged comes from nowhere. -/
inductive Value where
  | scalar (s : Scalar) (origin : Option String)
  | list (items : List Value) (origin : Option String)
  | table (entries : List (String × Value)) (origin : Option String)

namespace Value

def null : Value := .scalar .null none

def emptyTable : Value := .table [] none

mutual
/-- A value of a file. Dates and times are texts. -/
def ofToml (origin : String) : Toml.Value → Value
  | .text s => .scalar (.text s) origin
  | .integer n => .scalar (.integer n) origin
  | .float x => .scalar (.float x) origin
  | .boolean b => .scalar (.boolean b) origin
  | .moment s => .scalar (.text s) origin
  | .array items => .list (ofTomlItems origin items) origin
  | .table _ entries => .table (ofTomlEntries origin entries) origin
  | .tables latestFirst => .list (ofTomlItems origin latestFirst).reverse origin

def ofTomlItems (origin : String) : List Toml.Value → List Value
  | [] => []
  | v :: rest => ofToml origin v :: ofTomlItems origin rest

def ofTomlEntries (origin : String) : List (String × Toml.Value) → List (String × Value)
  | [] => []
  | (name,v) :: rest => (name,ofToml origin v) :: ofTomlEntries origin rest
end

def lowerName (name : String) : String := .ofList (toLower name.toList)

def get? (v : Value) (name : String) : Option Value :=
  match v with
  | .table entries _ => entries.lookup (lowerName name)
  | _ => none

/-- Gives a name of a table its value. What is no table becomes one. -/
def put (v : Value) (name : String) (entry : Value) : Value :=
  let name := lowerName name
  match v with
  | .table entries origin =>
    if (entries.lookup name).isSome then
      .table (entries.map fun (other,old) => (other,if other = name then entry else old)) origin
    else .table (entries ++ [(name,entry)]) origin
  | _ => .table [(name,entry)] none

mutual
/-- What becomes of an incoming value in the place of another: a table is merged into it, and any other
value replaces it. -/
def mergedInto (existing : Option Value) : Value → Value
  | .table entries _ => mergeEntries (existing.getD emptyTable) entries
  | v => v

def mergeEntries (target : Value) : List (String × Value) → Value
  | [] => target
  | (name,v) :: rest => mergeEntries (target.put name (mergedInto (target.get? name) v)) rest
end

/-- The place of an index in a list of some length. A negative index counts from the end. -/
def position (i : Int) (length : Nat) : Nat :=
  if 0 ≤ i then i.toNat else length - i.natAbs

def items : Value → List Value
  | .list items _ => items
  | _ => []

def origin : Value → Option String
  | .scalar _ origin | .list _ origin | .table _ origin => origin

/-- Changes an item of a list, which grows if it is too short. What is no list becomes one. -/
def alterItem (v : Value) (i : Int) (change : Value → Value) : Value :=
  let n := position i v.items.length
  let items := v.items ++ List.replicate (n + 1 - v.items.length) null
  let origin := match v with
    | .list _ origin => origin
    | _ => none
  .list (items.modify n change) origin

end Value
end ReferenceSite.Settings
