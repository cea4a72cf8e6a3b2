import ReferenceSite.Number.Binary64

/-! Values of TOML documents, and how tables are filled. A table can be written in pieces that stand
apart, so it remembers how it came to be: only some tables can be named by a header once more, and
only some can be extended by keys with dots. -/
namespace ReferenceSite.Toml
open ReferenceSite.Number

inductive Standing where
  | closed
  | headed
  /-- On the way to a table that a header names. -/
  | passed
  /-- On the way of a key with dots. -/
  | dotted
deriving DecidableEq

inductive Value where
  | text (s : String)
  | integer (n : Int)
  | float (x : Binary64)
  | boolean (b : Bool)
  | moment (s : String)
  | array (items : List Value)
  | table (standing : Standing) (entries : List (String × Value))
  /-- Tables of one name, each with a header of its own; the latest first. -/
  | tables (latestFirst : List Value)

abbrev Entries := List (String × Value)

namespace Entries

def put (entries : Entries) (name : String) (v : Value) : Entries :=
  if (entries.lookup name).isSome then
    entries.map fun (other,old) => (other,if other = name then v else old)
  else entries ++ [(name,v)]

/-- Changes the table at the end of a path. Missing tables on the way are made. Keys with dots enter
no table that a header named, and nobody enters a closed one. Of several tables of one name the
latest is entered. -/
def alter (made : Standing) (change : Standing → Entries → Option Entries) (standing : Standing)
    (entries : Entries) : List String → Option Entries
  | [] => change standing entries
  | name :: path =>
    match entries.lookup name with
    | none => (alter made change made [] path).map fun inner => entries.put name (.table made inner)
    | some (.table standing inner) =>
      if standing = .closed ∨ (made = .dotted ∧ standing = .headed) then none
      else (alter made change standing inner path).map fun inner =>
        entries.put name (.table standing inner)
    | some (.tables (.table standing inner :: before)) =>
      (alter made change standing inner path).map fun inner =>
        entries.put name (.tables (.table standing inner :: before))
    | some _ => none

/-- Gives a key its value. The table behind the dots must be one that only keys with dots made, and the
last name must be new. -/
def define (entries : Entries) (way : List String) (name : String) (v : Value) : Option Entries :=
  let add (standing : Standing) (entries : Entries) : Option Entries :=
    if (way ≠ [] ∧ standing ≠ .dotted) ∨ (entries.lookup name).isSome then none
    else some (entries.put name v)
  alter .dotted add .headed entries way

/-- Opens the table of a header. It must be new or only have been on the way to others. -/
def openTable (entries : Entries) (way : List String) (name : String) : Option Entries :=
  let name (_ : Standing) (entries : Entries) : Option Entries :=
    match entries.lookup name with
    | none => some (entries.put name (.table .headed []))
    | some (.table .passed inner) => some (entries.put name (.table .headed inner))
    | some _ => none
  alter .passed name .headed entries way

def addTable (entries : Entries) (way : List String) (name : String) : Option Entries :=
  let add (_ : Standing) (entries : Entries) : Option Entries :=
    match entries.lookup name with
    | none => some (entries.put name (.tables [.table .headed []]))
    | some (.tables before) => some (entries.put name (.tables (.table .headed [] :: before)))
    | some _ => none
  alter .passed add .headed entries way

def defineUnder (entries : Entries) (header way : List String) (name : String) (v : Value) :
    Option Entries :=
  alter .passed (fun _ inner => inner.define way name v) .headed entries header

end Entries
end ReferenceSite.Toml
