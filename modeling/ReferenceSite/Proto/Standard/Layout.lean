/-! The lines of a file of message definitions, from its declarations. -/
namespace ReferenceSite.Proto.Standard

def block (head : String) (body : List String) : List String := (head ++ " \x7b") :: (body ++ ["\x7d"])

def message (name : String) (fields : List String) (inner : List (List String)) : List String :=
  block ("message " ++ name) (fields.map (· ++ ";") ++ inner.flatten)

def enumeration (name : String) (first : Nat) (values : List String) : List String :=
  block ("enum " ++ name) (values.zipIdx.map fun (v,n) => v ++ " = " ++ toString (first + n) ++ ";")

def pathOf (name : String) : String := "google/protobuf/" ++ name ++ ".proto"

def file (name version package : String) (imports : List String) (declarations : List (List String)) :
    String × List Char :=
  let lines := ("syntax = \"" ++ version ++ "\";") :: ("package " ++ package ++ ";") ::
    (imports.map (fun i => "import \"" ++ pathOf i ++ "\";") ++ declarations.flatten)
  (pathOf name,lines.flatMap fun line => line.toList ++ ['\n'])

end ReferenceSite.Proto.Standard
