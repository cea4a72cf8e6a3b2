import ReferenceSite.Template.Expr

/-! Statements of templates, and how they are read from pieces. Conditions and loops run up to the
tag that ends them; such a tag stands nowhere else. -/
namespace ReferenceSite.Template

inductive Statement where
  | text (s : String)
  | output (e : Expr)
  | conditional (condition : Expr) (yes no : List Statement)
  /-- One run of the body for each item that passes, or else the alternative. -/
  | loop (name : String) (source : Expr) (keep : Option Expr) (body alternative : List Statement)
  | assign (name : String) (e : Expr)
  /-- A name for the text that a body prints. -/
  | capture (name : String) (body : List Statement)

namespace Statement

abbrev Kept (α : Type) (s : List Piece) := { r : α × List Piece // r.2.length ≤ s.length }

abbrev Taken (α : Type) (s : List Piece) := { r : α × List Piece // r.2.length < s.length }

def loopHead (tokens : List Token) : Except String (String × Expr × Option Expr) := do
  match tokens with
  | .name name :: .name "in" :: rest =>
    let ⟨(source,rest),_⟩ ← Expr.level 0 rest
    match rest with
    | [] => pure (name,source,none)
    | .name "if" :: rest => pure (name,source,some (← Expr.ofAllTokens rest))
    | _ => throw Expr.unexpected
  | _ => throw Expr.unexpected

mutual
/-- Statements up to a tag that begins with one of the given words. The tag is dropped; its
tokens are returned. At the end of the template there is no such tag. -/
def body (stops : List String) (s : List Piece) :
    Except String (Kept (List Statement × Option (List Token)) s) :=
  match s with
  | [] => pure ⟨(([],none),[]),Nat.le_refl _⟩
  | .text a :: rest => do
    let ⟨((more,stop),rest),h⟩ ← body stops rest
    pure ⟨((text a :: more,stop),rest),Nat.le_succ_of_le h⟩
  | .output tokens :: rest => do
    let e ← Expr.ofAllTokens tokens
    let ⟨((more,stop),rest),h⟩ ← body stops rest
    pure ⟨((output e :: more,stop),rest),Nat.le_succ_of_le h⟩
  | .tag (.name word :: tokens) :: rest => do
    if word ∈ stops then pure ⟨(([],some (.name word :: tokens)),rest),Nat.le_succ _⟩
    else
      let ⟨(first,rest),h⟩ ← statement word tokens rest
      let ⟨((more,stop),rest),h'⟩ ← body stops rest
      pure ⟨((first :: more,stop),rest),Nat.le_succ_of_le (Nat.le_trans h' h)⟩
  | .tag _ :: _ => throw Expr.unexpected
termination_by (s.length,2)
decreasing_by all_goals (rw [Prod.lex_def]; grind)

def statement (word : String) (tokens : List Token) (s : List Piece) :
    Except String (Kept Statement s) :=
  match word with
  | "if" => branch tokens s
  | "for" => do
    let (name,source,keep) ← loopHead tokens
    let ⟨((main,stop),rest),h⟩ ← body ["endfor","else"] s
    match stop with
    | some [.name "else"] =>
      let ⟨((alternative,stop),rest),h'⟩ ← body ["endfor"] rest
      if stop = some [.name "endfor"] then
        pure ⟨(loop name source keep main alternative,rest),Nat.le_trans h' h⟩
      else throw Expr.unexpected
    | some [.name "endfor"] => pure ⟨(loop name source keep main [],rest),h⟩
    | _ => throw Expr.unexpected
  | "set" =>
    match tokens with
    | .name name :: .op "=" :: rest => do
      pure ⟨(assign name (← Expr.ofAllTokens rest),s),Nat.le_refl _⟩
    | [.name name] => do
      let ⟨((main,stop),rest),h⟩ ← body ["endset"] s
      if stop = some [.name "endset"] then pure ⟨(capture name main,rest),h⟩
      else throw Expr.unexpected
    | _ => throw Expr.unexpected
  | _ => throw Expr.unexpected
termination_by (s.length,4)
decreasing_by all_goals (rw [Prod.lex_def]; grind)

def branch (tokens : List Token) (s : List Piece) : Except String (Kept Statement s) := do
  let condition ← Expr.ofAllTokens tokens
  let ⟨((yes,stop),rest),h⟩ ← body ["endif","else","elif"] s
  match stop with
  | some (.name "elif" :: tokens) =>
    if _h : rest.length < s.length then
      let ⟨(no,rest),h'⟩ ← branch tokens rest
      pure ⟨(conditional condition yes [no],rest),Nat.le_trans h' h⟩
    else throw Expr.unexpected
  | some [.name "else"] =>
    let ⟨((no,stop),rest),h'⟩ ← body ["endif"] rest
    if stop = some [.name "endif"] then
      pure ⟨(conditional condition yes no,rest),Nat.le_trans h' h⟩
    else throw Expr.unexpected
  | some [.name "endif"] => pure ⟨(conditional condition yes [],rest),h⟩
  | _ => throw Expr.unexpected
termination_by (s.length,3)
decreasing_by all_goals (rw [Prod.lex_def]; grind)
end

def ofSource (source : String) : Except String (List Statement) :=
  match piecesOf? (withoutLastLineEnd source.toList) with
  | none => throw Expr.unexpected
  | some pieces => do
    let ⟨((statements,_),_),_⟩ ← body [] pieces
    pure statements

end Statement
end ReferenceSite.Template
