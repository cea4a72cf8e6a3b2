import ReferenceSite.Settings.Fault
import ReferenceSite.Text.Case

/-! Settings read from the values of a configuration. Numbers and switches are taken as texts, and
texts and switches as numbers, where they say one; nothing is cut to fit. -/
namespace ReferenceSite.Settings
open ReferenceSite.Text ReferenceSite.Number

/-- A number without a sign, or behind a plus sign, below two to the sixty-fourth power. -/
def natural? (s : List Char) : Option Nat :=
  let digits := if s.head? = some '+' then s.drop 1 else s
  if digits.isEmpty ∨ ! digits.all Char.isDigit then none
  else
    let n := digits.foldl (fun n c => 10 * n + (c.toNat - '0'.toNat)) 0
    if n < 0x10000000000000000 then some n else none

/-- The nearest whole number from zero up to the largest of sixty-four bits. -/
def nearestNatural : Binary64 → Nat
  | .infinite false => 0xFFFFFFFFFFFFFFFF
  | x => min 0xFFFFFFFFFFFFFFFF (x.round?.getD 0).toNat

def switch? (s : String) : Option Bool :=
  let word := Value.lowerName s
  if ["true","on","yes"].contains word then some true
  else if ["false","off","no"].contains word then some false
  else none

namespace Value

def boundedLevel (key : String) (n : Nat) : Except Fault Nat :=
  if n < 256 then .ok n else .error (.levelTooLarge n key)

def level (key : String) (v : Value) : Except Fault Nat :=
  let refused := Except.error (.wrongKind v.found "an integer" key v.origin)
  match v with
  | .scalar (.integer n) origin =>
    if n < 0 then .error (.negativeLevel n key origin) else boundedLevel key n.toNat
  | .scalar (.float x) _ => boundedLevel key (nearestNatural x)
  | .scalar (.boolean b) _ => .ok b.toNat
  | .scalar (.text s) _ =>
    match switch? s,natural? s.toList with
    | some b,_ => .ok b.toNat
    | none,some n => boundedLevel key n
    | none,none => refused
  | _ => refused

def wording (key : String) (v : Value) : Except Fault String :=
  match v with
  | .scalar (.text s) _ => .ok s
  | .scalar (.boolean b) _ => .ok (if b then "true" else "false")
  | .scalar (.integer n) _ => .ok (toString n)
  | .scalar (.float x) _ => .ok x.text
  | _ => .error (.wrongKind v.found "a string" key v.origin)

def itemKey (key : String) (i : Nat) : String := key ++ "[" ++ toString i ++ "]"

def wordings (key : String) (v : Value) : Except Fault (List String) :=
  match v with
  | .list items _ => items.zipIdx.mapM fun (item,i) => item.wording (itemKey key i)
  | _ => .error (.wrongShape v.found "a sequence")

end Value

namespace Group

/-- A setting of a group, the one at some place if the group is written as a list. A table may lack
it. -/
def setting? {α : Type} (g : Group) (whole : Value) (place : Nat) (name : String)
    (read : String → Value → Except Fault α) : Except Fault (Option α) :=
  let v := (whole.get? g.name).getD .null
  match v with
  | .table .. =>
    match v.get? name with
    | some entry => some <$> read (g.name ++ "." ++ name) entry
    | none => .ok none
  | .list items _ =>
    match items[place]? with
    | some item => some <$> read (Value.itemKey g.name place) item
    | none => .error (.tooShort place g)
  | _ => .error (.wrongShape v.found g.title)

def required {α : Type} (name : String) : Option α → Except Fault α
  | some x => .ok x
  | none => .error (.missingSetting name)

end Group
end ReferenceSite.Settings
