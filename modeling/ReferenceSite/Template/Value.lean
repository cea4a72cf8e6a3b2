import ReferenceSite.Text.Case

/-! Values of templates: what names stand for, what counts as true, and how values are printed,
compared and joined. -/
namespace ReferenceSite.Template
open ReferenceSite.Text

inductive Value where
  /-- What a name without a meaning stands for. It prints as nothing. -/
  | undefined
  | none
  | bool (b : Bool)
  | int (n : Int)
  | str (s : String)
  | list (items : List Value)
  | record (fields : List (String × Value))

namespace Value

def isTrue : Value → Bool
  | undefined | none => false
  | bool b => b
  | int n => n ≠ 0
  | str s => s ≠ ""
  | list items => ! items.isEmpty
  | record fields => ! fields.isEmpty

def quoted (s : String) : String :=
  "\"" ++ .ofList (s.toList.flatMap fun c =>
    match c with
    | '"' => ['\\','"']
    | '\\' => ['\\','\\']
    | '\n' => ['\\','n']
    | '\r' => ['\\','r']
    | '\t' => ['\\','t']
    | c => [c]) ++ "\""

mutual
def inner : Value → String
  | undefined => "undefined"
  | none => "none"
  | bool b => toString b
  | int n => toString n
  | str s => quoted s
  | list items => "[" ++ ", ".intercalate (innerAll items) ++ "]"
  | record fields => "\x7b" ++ ", ".intercalate (innerFields fields) ++ "\x7d"

def innerAll : List Value → List String
  | [] => []
  | v :: rest => inner v :: innerAll rest

def innerFields : List (String × Value) → List String
  | [] => []
  | (name,v) :: rest => (quoted name ++ ": " ++ inner v) :: innerFields rest
end

def text : Value → String
  | undefined => ""
  | str s => s
  | v => inner v

/-- Truth values count as zero and one. -/
def number? : Value → Option Int
  | bool b => some (if b then 1 else 0)
  | int n => some n
  | _ => Option.none

mutual
def equals : Value → Value → Bool
  | undefined,undefined | none,none => true
  | str a,str b => a = b
  | list a,list b => equalsAll a b
  | a,b =>
    match a.number?,b.number? with
    | some m,some n => m = n
    | _,_ => false

def equalsAll : List Value → List Value → Bool
  | [],[] => true
  | a :: as,b :: bs => equals a b && equalsAll as bs
  | _,_ => false
end

def less? : Value → Value → Option Bool
  | str a,str b => some (a < b)
  | a,b => do pure ((← a.number?) < (← b.number?))

def size? : Value → Option Nat
  | str s => some s.length
  | list items => some items.length
  | record fields => some fields.length
  | _ => Option.none

/-- What a loop goes through: the items of a list, the characters of a text, the names of a record.
Nothing at all has no items. -/
def items? : Value → Option (List Value)
  | undefined | none => some []
  | str s => some (s.toList.map fun c => str (.ofList [c]))
  | list items => some items
  | record fields => some (fields.map fun field => str field.1)
  | _ => Option.none

def field (v : Value) (name : String) : Value :=
  match v with
  | record fields => ((fields.find? (·.1 = name)).map (·.2)).getD undefined
  | _ => undefined

def contains? (v item : Value) : Option Bool :=
  match v,item with
  | str s,str part =>
    some ((List.range (s.length + 1)).any fun n => part.toList.isPrefixOf (s.toList.drop n))
  | list items,_ => some (items.any (equals item))
  | record fields,str name => some (fields.any (·.1 = name))
  | record _,_ => some false
  | undefined,_ | none,_ => some false
  | _,_ => Option.none

end Value
end ReferenceSite.Template
