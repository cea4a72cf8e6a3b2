import ReferenceSite.Template.Token
import ReferenceSite.Template.Value

/-! Expressions of templates. Conditions bind loosest; then come `or`, `and`, `not`, comparisons,
sums, joined texts, products, and tightest what stands behind a value. -/
namespace ReferenceSite.Template

inductive Operator where
  | equal
  | unequal
  | less
  | lessEqual
  | greater
  | greaterEqual
  | isIn
  | isNotIn
  | add
  | subtract
  | join
  | multiply
  | divideWhole
  | remainder
deriving DecidableEq

inductive Expr where
  | constant (v : Value)
  | name (s : String)
  | list (items : List Expr)
  | member (e : Expr) (name : String)
  | item (e key : Expr)
  | negative (e : Expr)
  | not (e : Expr)
  | and (a b : Expr)
  | or (a b : Expr)
  | binary (o : Operator) (a b : Expr)
  | filter (name : String) (arguments : List Expr)
  | test (name : String) (arguments : List Expr)
  | conditional (condition yes no : Expr)

namespace Expr

/-- What was read, and the rest of the tokens, of which at least one is gone. -/
abbrev Taken (α : Type) (s : List Token) := { r : α × List Token // r.2.length < s.length }

abbrev Kept (α : Type) (s : List Token) := { r : α × List Token // r.2.length ≤ s.length }

def took {α : Type} (a : α) {t : Token} (rest : List Token) : Taken α (t :: rest) :=
  ⟨(a,rest),Nat.lt_succ_self _⟩

def tookTwo {α : Type} (a : α) {t u : Token} (rest : List Token) : Taken α (t :: u :: rest) :=
  ⟨(a,rest),Nat.lt_succ_of_lt (Nat.lt_succ_self _)⟩

def behind? (t : Token) : (s : List Token) → Option { rest : List Token // rest.length < s.length }
  | [] => none
  | u :: rest => if u = t then some ⟨rest,Nat.lt_succ_self _⟩ else none

def operator? (level : Nat) (s : List Token) : Option (Taken (Expr → Expr → Expr) s) :=
  match level,s with
  | 0,.name "or" :: rest => some (took or rest)
  | 1,.name "and" :: rest => some (took and rest)
  | 3,.op "==" :: rest => some (took (binary .equal) rest)
  | 3,.op "!=" :: rest => some (took (binary .unequal) rest)
  | 3,.op "<" :: rest => some (took (binary .less) rest)
  | 3,.op "<=" :: rest => some (took (binary .lessEqual) rest)
  | 3,.op ">" :: rest => some (took (binary .greater) rest)
  | 3,.op ">=" :: rest => some (took (binary .greaterEqual) rest)
  | 3,.name "in" :: rest => some (took (binary .isIn) rest)
  | 3,.name "not" :: .name "in" :: rest => some (tookTwo (binary .isNotIn) rest)
  | 4,.op "+" :: rest => some (took (binary .add) rest)
  | 4,.op "-" :: rest => some (took (binary .subtract) rest)
  | 5,.op "~" :: rest => some (took (binary .join) rest)
  | 6,.op "*" :: rest => some (took (binary .multiply) rest)
  | 6,.op "//" :: rest => some (took (binary .divideWhole) rest)
  | 6,.op "%" :: rest => some (took (binary .remainder) rest)
  | _,_ => none

def constantWord? : String → Option Value
  | "true" | "True" => some (.bool true)
  | "false" | "False" => some (.bool false)
  | "none" | "None" => some .none
  | _ => none

def unexpected : String := "syntax error"

mutual
def ofTokens (s : List Token) : Except String (Taken Expr s) := do
  let ⟨(e,rest),h⟩ ← level 0 s
  let ⟨(e,rest'),h'⟩ ← conditions e rest
  pure ⟨(e,rest'),by grind⟩
termination_by (s.length,40)

/-- Conditions behind an expression. Without an alternative there is nothing to print. -/
def conditions (e : Expr) (s : List Token) : Except String (Kept Expr s) :=
  match s with
  | .name "if" :: rest => do
    let ⟨(condition,rest),h⟩ ← level 0 rest
    match behind? (.name "else") rest with
    | some ⟨rest,_⟩ =>
      let ⟨(no,rest),h'⟩ ← ofTokens rest
      let ⟨(e,rest),h''⟩ ← conditions (conditional condition e no) rest
      pure ⟨(e,rest),by grind⟩
    | none =>
      let ⟨(e,rest),h'⟩ ← conditions (conditional condition e (constant .undefined)) rest
      pure ⟨(e,rest),by grind⟩
  | s => pure ⟨(e,s),Nat.le_refl _⟩
termination_by (s.length,0)
decreasing_by all_goals (rw [Prod.lex_def]; grind)

def level (n : Nat) (s : List Token) : Except String (Taken Expr s) :=
  if n ≥ 7 then unary s
  else if n = 2 then
    match s with
    | .name "not" :: rest => do
      let ⟨(e,rest),h⟩ ← level 2 rest
      pure ⟨(not e,rest),by grind⟩
    | s => level 3 s
  else do
    let ⟨(e,rest),h⟩ ← level (n + 1) s
    let ⟨(e,rest),h'⟩ ← chain n e rest
    pure ⟨(e,rest),by grind⟩
termination_by (s.length,30 - min n 7)
decreasing_by all_goals (rw [Prod.lex_def]; grind)

/-- Further operands of a level, joined from the left. -/
def chain (n : Nat) (e : Expr) (s : List Token) : Except String (Kept Expr s) :=
  match operator? n s with
  | none => pure ⟨(e,s),Nat.le_refl _⟩
  | some ⟨(join,rest),h⟩ => do
    let ⟨(right,rest),h'⟩ ← level (n + 1) rest
    let ⟨(e,rest),h''⟩ ← chain n (join e right) rest
    pure ⟨(e,rest),by grind⟩
termination_by (s.length,0)
decreasing_by all_goals (rw [Prod.lex_def]; grind)

/-- A value with what stands behind it, filters and tests last. -/
def unary (s : List Token) : Except String (Taken Expr s) := do
  let ⟨(e,rest),h⟩ ← signed s
  let ⟨(e,rest),h'⟩ ← accesses e rest
  let ⟨(e,rest),h''⟩ ← filters e rest
  pure ⟨(e,rest),by grind⟩
termination_by (s.length,9)
decreasing_by all_goals (rw [Prod.lex_def]; grind)

def signed (s : List Token) : Except String (Taken Expr s) :=
  match s with
  | .op "-" :: rest => do
    let ⟨(e,rest),h⟩ ← signed rest
    pure ⟨(negative e,rest),by grind⟩
  | .str a :: rest => pure (took (constant (.str a)) rest)
  | .int n :: rest => pure (took (constant (.int n)) rest)
  | .name a :: rest =>
    pure (took (((constantWord? a).map constant).getD (name a)) rest)
  | .op "(" :: rest => do
    let ⟨(e,rest),h⟩ ← ofTokens rest
    match behind? (.op ")") rest with
    | some ⟨rest,_⟩ => pure ⟨(e,rest),by grind⟩
    | none => throw unexpected
  | .op "[" :: rest => do
    let ⟨(items,rest),h⟩ ← sequence "]" rest
    pure ⟨(list items,rest),by grind⟩
  | _ => throw unexpected
termination_by (s.length,8)
decreasing_by all_goals (rw [Prod.lex_def]; grind)

def accesses (e : Expr) (s : List Token) : Except String (Kept Expr s) :=
  match s with
  | .op "." :: .name a :: rest => do
    let ⟨(e,rest),h⟩ ← accesses (member e a) rest
    pure ⟨(e,rest),by grind⟩
  | .op "[" :: rest => do
    let ⟨(key,rest),h⟩ ← ofTokens rest
    match behind? (.op "]") rest with
    | some ⟨rest,_⟩ =>
      let ⟨(e,rest),h'⟩ ← accesses (item e key) rest
      pure ⟨(e,rest),by grind⟩
    | none => throw unexpected
  | s => pure ⟨(e,s),Nat.le_refl _⟩
termination_by (s.length,0)
decreasing_by all_goals (rw [Prod.lex_def]; grind)

def filters (e : Expr) (s : List Token) : Except String (Kept Expr s) :=
  match s with
  | .op "|" :: .name a :: .op "(" :: rest => do
    let ⟨(more,rest),h⟩ ← sequence ")" rest
    let ⟨(e,rest),h'⟩ ← filters (filter a (e :: more)) rest
    pure ⟨(e,rest),by grind⟩
  | .op "|" :: .name a :: rest => do
    let ⟨(e,rest),h⟩ ← filters (filter a [e]) rest
    pure ⟨(e,rest),by grind⟩
  | .name "is" :: .name "not" :: .name a :: rest => do
    let ⟨(e,rest),h⟩ ← filters (not (test a [e])) rest
    pure ⟨(e,rest),by grind⟩
  | .name "is" :: .name a :: rest => do
    let ⟨(e,rest),h⟩ ← filters (test a [e]) rest
    pure ⟨(e,rest),by grind⟩
  | s => pure ⟨(e,s),Nat.le_refl _⟩
termination_by (s.length,0)
decreasing_by all_goals (rw [Prod.lex_def]; grind)

def sequence (close : String) (s : List Token) : Except String (Taken (List Expr) s) :=
  match behind? (.op close) s with
  | some ⟨rest,h⟩ => pure ⟨([],rest),h⟩
  | none => more close s
termination_by (s.length,42)
decreasing_by all_goals (rw [Prod.lex_def]; grind)

def more (close : String) (s : List Token) : Except String (Taken (List Expr) s) := do
  let ⟨(e,rest),h⟩ ← ofTokens s
  match behind? (.op ",") rest,behind? (.op close) rest with
  | some ⟨rest,_⟩,_ =>
    let ⟨(items,rest),h'⟩ ← sequence close rest
    pure ⟨(e :: items,rest),by grind⟩
  | none,some ⟨rest,_⟩ => pure ⟨([e],rest),by grind⟩
  | none,none => throw unexpected
termination_by (s.length,41)
decreasing_by all_goals (rw [Prod.lex_def]; grind)
end

def ofAllTokens (s : List Token) : Except String Expr := do
  match ← ofTokens s with
  | ⟨(e,[]),_⟩ => pure e
  | _ => throw unexpected

end Expr
end ReferenceSite.Template
