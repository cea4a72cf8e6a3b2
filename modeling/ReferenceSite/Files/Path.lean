/-! Paths as they are written. A path keeps its text; its components are what the text names once
repeated slashes and inner dots are passed over. Nothing here looks at a file tree. -/
namespace ReferenceSite

structure Path where
  text : String
deriving DecidableEq

namespace Path

/-- One step that a path takes. A dot is a step only at the very start of a relative path. -/
inductive Component where
  | root
  | current
  | parent
  | normal (name : String)
deriving DecidableEq

def Component.text : Component → String
  | .root => "/"
  | .current => "."
  | .parent => ".."
  | .normal name => name

def isAbsolute (p : Path) : Bool := p.text.toList.head? = some '/'

def segments (p : Path) : List String :=
  let cs := p.text.toList
  ((if p.isAbsolute then cs.drop 1 else cs).splitOn '/').map String.ofList

/-- Segments that name no step, the first one of a relative path apart. -/
def isSilent (segment : String) : Bool := segment = "" ∨ segment = "."

def stepOf (segment : String) : Component :=
  if segment = ".." then .parent else .normal segment

def components (p : Path) : List Component :=
  let steps (segments : List String) := (segments.filter (! isSilent ·)).map stepOf
  if p.isAbsolute then .root :: steps p.segments
  else
    match p.segments with
    | "." :: rest => .current :: steps rest
    | segments => steps segments

def ofSegments (absolute : Bool) (segments : List String) : Path :=
  ⟨(if absolute then "/" else "") ++ "/".intercalate segments⟩

/-- Drops trailing silent segments from reversed segments. A lone dot stays in a relative path. -/
def dropSilent (absolute : Bool) : List String → List String
  | [] => []
  | [segment] => if segment = "" ∨ (absolute ∧ segment = ".") then [] else [segment]
  | segment :: rest => if isSilent segment then dropSilent absolute rest else segment :: rest

theorem dropSilent_length (absolute : Bool) (segments : List String) :
    (dropSilent absolute segments).length ≤ segments.length := by
  fun_induction dropSilent absolute segments <;> grind

/-- The last steps first; every one of them is a step, except perhaps in the middle. -/
def reversedSegments (p : Path) : List String := dropSilent p.isAbsolute p.segments.reverse

def parent? (p : Path) : Option Path :=
  match p.reversedSegments with
  | [] => none
  | _ :: before => some (ofSegments p.isAbsolute (dropSilent p.isAbsolute before).reverse)

def fileName? (p : Path) : Option String :=
  match p.components.getLast? with
  | some (.normal name) => some name
  | _ => none

/-- `other` as seen from `base`: an absolute path stays what it is. -/
def join (base : Path) (other : String) : Path :=
  if (Path.mk other).isAbsolute ∨ base.text = "" then ⟨other⟩
  else if base.text.toList.getLast? = some '/' then ⟨base.text ++ other⟩
  else ⟨base.text ++ "/" ++ other⟩

def dropSteps : Nat → List String → List String
  | 0,segments => segments.dropWhile isSilent
  | n + 1,segments => dropSteps n ((segments.dropWhile isSilent).drop 1)

def stripPrefix? (p base : Path) : Option Path :=
  if base.components.isPrefixOf p.components then
    let kept := p.reversedSegments.reverse
    match base.components with
    | [] => some (ofSegments p.isAbsolute kept)
    | .root :: steps => some (ofSegments false (dropSteps steps.length kept))
    | .current :: steps => some (ofSegments false (dropSteps steps.length (kept.drop 1)))
    | steps => some (ofSegments false (dropSteps steps.length kept))
  else none

def dropShared : List Component → List Component → List Component × List Component
  | a :: as,b :: bs => if a = b then dropShared as bs else (a :: as,b :: bs)
  | as,bs => (as,bs)

/-- How to get to a path from `base`: up to what the two share, and down from there. -/
def relativeTo (p base : Path) : Path :=
  let (down,up) := dropShared p.components base.components
  ⟨"/".intercalate (up.map (fun _ => Component.parent.text) ++ down.map Component.text)⟩

def appendToName? (p : Path) (ending : String) : Option Path :=
  if p.fileName?.isSome then
    some ⟨(ofSegments p.isAbsolute p.reversedSegments.reverse).text ++ ending⟩
  else none

end Path
end ReferenceSite
