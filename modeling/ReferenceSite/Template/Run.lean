import ReferenceSite.Template.Statement
import ReferenceSite.Text.Blank

/-! Running templates. A template prints text while its names get their meanings from scopes, the
innermost first. A loop has a scope of its own. Nothing is escaped. -/
namespace ReferenceSite.Template
open ReferenceSite.Text

/-- Names with their values, one list for each open loop and one for the template itself. -/
abbrev Scopes := List (List (String × Value))

def Scopes.get (s : Scopes) (name : String) : Value :=
  ((s.findSome? fun scope => scope.find? (·.1 = name)).map (·.2)).getD .undefined

def Scopes.set (s : Scopes) (name : String) (v : Value) : Scopes :=
  match s with
  | [] => [[(name,v)]]
  | scope :: outer => ((name,v) :: scope) :: outer

def badOperation : String := "invalid operation"

def Operator.apply (o : Operator) (a b : Value) : Except String Value :=
  let arithmetic (f : Int → Int → Int) : Except String Value :=
    match a,b with
    | .str _,_ | _,.str _ => .error badOperation
    | a,b => match a.number?,b.number? with
      | some m,some n => .ok (.int (f m n))
      | _,_ => .error badOperation
  let order (f : Bool → Bool) (x y : Value) : Except String Value :=
    match x.less? y with
    | some answer => .ok (.bool (f answer))
    | none => .error badOperation
  let whole (f : Int → Int → Int) : Except String Value :=
    if b.number? = some 0 then .error badOperation else arithmetic f
  match o with
  | .equal => .ok (.bool (a.equals b))
  | .unequal => .ok (.bool (! a.equals b))
  | .less => order id a b
  | .lessEqual => order (! ·) b a
  | .greater => order id b a
  | .greaterEqual => order (! ·) a b
  | .isIn => match b.contains? a with
    | some answer => .ok (.bool answer)
    | none => .error badOperation
  | .isNotIn => match b.contains? a with
    | some answer => .ok (.bool (! answer))
    | none => .error badOperation
  | .add =>
    match a,b with
    | .str s,.str t => .ok (.str (s ++ t))
    | .list s,.list t => .ok (.list (s ++ t))
    | _,_ => arithmetic (· + ·)
  | .subtract => arithmetic (· - ·)
  | .join => .ok (.str (a.text ++ b.text))
  | .multiply => arithmetic (· * ·)
  | .divideWhole => whole Int.ediv
  | .remainder => whole Int.emod

/-- Filters by name. The first argument is the value that is filtered. -/
def applyFilter (name : String) (arguments : List Value) : Except String Value :=
  match name,arguments with
  | "default",v :: more | "d",v :: more =>
    let fallback := more.headD (.str "")
    match v with
    | .undefined => .ok fallback
    | v => .ok (if (more[1]?.map Value.isTrue).getD false && ! v.isTrue then fallback else v)
  | "upper",[v] => .ok (.str (.ofList (toUpper v.text.toList)))
  | "lower",[v] => .ok (.str (.ofList (toLower v.text.toList)))
  | "trim",[v] => .ok (.str (.ofList (trim v.text.toList)))
  | "safe",[v] => .ok (.str v.text)
  | "length",[v] | "count",[v] =>
    match v.size? with
    | some n => .ok (.int n)
    | none => .error badOperation
  | "first",[v] =>
    match v.items? with
    | some items => .ok (items.headD .undefined)
    | none => .error badOperation
  | "last",[v] =>
    match v.items? with
    | some items => .ok (items.getLastD .undefined)
    | none => .error badOperation
  | "join",v :: more =>
    match v.items? with
    | some items => .ok (.str (((more.head?.map Value.text).getD "").intercalate
        (items.map Value.text)))
    | none => .error badOperation
  | _,_ => .error "unknown filter"

/-- Tests by name. The first argument is the value that is tested. -/
def applyTest (name : String) (arguments : List Value) : Except String Bool :=
  match name,arguments with
  | "defined",[v] => .ok (match v with | .undefined => false | _ => true)
  | "undefined",[v] => .ok (match v with | .undefined => true | _ => false)
  | "none",[v] => .ok (match v with | .none => true | _ => false)
  | "string",[v] => .ok (match v with | .str _ => true | _ => false)
  | "true",[v] => .ok (match v with | .bool b => b | _ => false)
  | "false",[v] => .ok (match v with | .bool b => ! b | _ => false)
  | _,_ => .error "unknown test"

/-- A part of a value. What is undefined has no parts to ask for. -/
def part (v : Value) (name : String) : Except String Value :=
  match v with
  | .undefined => .error "undefined value"
  | v => .ok (v.field name)

def element (v key : Value) : Except String Value :=
  match v,key with
  | .list items,.int n =>
    .ok ((items[(if n < 0 then n + items.length else n).toNat]?.filter fun _ =>
      decide (0 ≤ n + items.length)).getD .undefined)
  | v,.str name => part v name
  | .undefined,_ => .error "undefined value"
  | _,_ => .ok .undefined

namespace Expr

mutual
def value (scopes : Scopes) : Expr → Except String Value
  | constant v => .ok v
  | name s => .ok (scopes.get s)
  | list items => do pure (.list (← values scopes items))
  | member e a => do part (← value scopes e) a
  | item e key => do element (← value scopes e) (← value scopes key)
  | negative e => do Operator.apply .subtract (.int 0) (← value scopes e)
  | not e => do pure (.bool (! (← value scopes e).isTrue))
  | and a b => do
    let v ← value scopes a
    if v.isTrue then value scopes b else pure v
  | or a b => do
    let v ← value scopes a
    if v.isTrue then pure v else value scopes b
  | binary o a b => do o.apply (← value scopes a) (← value scopes b)
  | filter a arguments => do applyFilter a (← values scopes arguments)
  | test a arguments => do pure (.bool (← applyTest a (← values scopes arguments)))
  | conditional condition yes no => do
    if (← value scopes condition).isTrue then value scopes yes else value scopes no

def values (scopes : Scopes) : List Expr → Except String (List Value)
  | [] => .ok []
  | e :: rest => do pure ((← value scopes e) :: (← values scopes rest))
end

end Expr

namespace Statement

def turn (n size : Nat) : Value :=
  .record [("index",.int (n + 1)),("index0",.int n),("first",.bool (n = 0)),
    ("last",.bool (n + 1 = size)),("length",.int size),("revindex",.int (size - n)),
    ("revindex0",.int (size - n - 1))]

mutual
def run (scopes : Scopes) : Statement → Except String (String × Scopes)
  | text s => .ok (s,scopes)
  | output e => do pure ((← e.value scopes).text,scopes)
  | conditional condition yes no => do
    if (← condition.value scopes).isTrue then runAll scopes yes else runAll scopes no
  | loop name source keep body alternative => do
    let all ← match (← source.value scopes).items? with
      | some items => pure items
      | none => throw badOperation
    let items ← match keep with
      | none => pure all
      | some condition => all.filterM fun v => do
        pure (← condition.value ([(name,v)] :: scopes)).isTrue
    if items.isEmpty then runAll scopes alternative
    else
      let (printed,_) ← items.zipIdx.foldlM (fun (printed,(inner : Scopes)) (v,n) => do
        let inner := (inner.set "loop" (turn n items.length)).set name v
        let (more,inner) ← runAll inner body
        pure (printed ++ more,inner)) ("",[] :: scopes)
      pure (printed,scopes)
  | assign name e => do pure ("",scopes.set name (← e.value scopes))
  | capture name body => do
    let (printed,scopes) ← runAll scopes body
    pure ("",scopes.set name (.str printed))

def runAll (scopes : Scopes) : List Statement → Except String (String × Scopes)
  | [] => .ok ("",scopes)
  | s :: rest => do
    let (printed,scopes) ← run scopes s
    let (more,scopes) ← runAll scopes rest
    pure (printed ++ more,scopes)
end

end Statement

def render (source : String) (names : List (String × Value)) : Except String String := do
  let (printed,_) ← Statement.runAll [names] (← Statement.ofSource source)
  pure printed

end ReferenceSite.Template
