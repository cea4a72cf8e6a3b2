import ReferenceSite.Settings.Value
import ReferenceSite.Text.Quoted

/-! Why a configuration was refused, and how that is reported. -/
namespace ReferenceSite.Settings
open ReferenceSite.Text ReferenceSite.Number

inductive Found where
  | scalar (s : Scalar)
  | list
  | table

/-- A float as reports show it: with a fraction. -/
def floatText (x : Binary64) : String :=
  match x with
  | .finite .. => if x.text.toList.contains '.' then x.text else x.text ++ ".0"
  | _ => x.text

def Found.text : Found → String
  | .scalar .null => "unit value"
  | .scalar (.boolean b) => "boolean `" ++ (if b then "true" else "false") ++ "`"
  | .scalar (.integer n) => "integer `" ++ toString n ++ "`"
  | .scalar (.float x) => "floating point `" ++ floatText x ++ "`"
  | .scalar (.text s) => "string " ++ .ofList (quoted s.toList)
  | .list => "sequence"
  | .table => "map"

def Value.found : Value → Found
  | .scalar s _ => .scalar s
  | .list _ _ => .list
  | .table _ _ => .table

structure Group where
  name : String
  title : String
  size : Nat

inductive Fault where
  | badKey (key : String)
  | missingFile (name : String)
  | invalidFile (name : String)
  | wrongKind (found : Found) (expected key : String) (origin : Option String)
  | negativeLevel (level : Int) (key : String) (origin : Option String)
  | levelTooLarge (level : Nat) (key : String)
  /-- A whole group or list of settings of another kind than expected. -/
  | wrongShape (found : Found) (expected : String)
  | missingSetting (name : String)
  | tooShort (count : Nat) (group : Group)

namespace Fault

def place (key : String) (origin : Option String) : String :=
  " for key `" ++ key ++ "`" ++ (origin.map (" in " ++ ·)).getD ""

def message : Fault → String
  | badKey key => "bad key " ++ key
  | missingFile name => "configuration file \"" ++ name ++ "\" not found"
  | invalidFile name => "invalid configuration file " ++ name
  | wrongKind found expected key origin =>
    "invalid type: " ++ found.text ++ ", expected " ++ expected ++ place key origin
  | negativeLevel level key origin =>
    "invalid type: 64-bit integer `" ++ toString level ++
      "`, expected an unsigned 64 bit or less integer" ++ place key origin
  | levelTooLarge level key =>
    "invalid type: 64-bit unsigned integer `" ++ toString level ++
      "`, expected an unsigned 8 bit integer" ++ place key none
  | wrongShape found expected => "invalid type: " ++ found.text ++ ", expected " ++ expected
  | missingSetting name => "missing field `" ++ name ++ "`"
  | tooShort count group =>
    "invalid length " ++ toString count ++ ", expected " ++ group.title ++ " with " ++
      toString group.size ++ (if group.size = 1 then " element" else " elements")

end Fault
end ReferenceSite.Settings
