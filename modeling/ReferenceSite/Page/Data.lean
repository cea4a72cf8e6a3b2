import ReferenceSite.Page.Fault

/-! What a page template is filled in with. -/
namespace ReferenceSite

structure PageData where
  markdown : String
  /-- Where the page stands in the site, from its first slash on. -/
  fileName : String
  nav : Option String
deriving DecidableEq

namespace PageData

def fields (d : PageData) : List (String × String) :=
  [("markdown",d.markdown),("fileName",d.fileName)] ++ d.nav.toList.map fun nav => ("nav",nav)

/-- The output path without its first step, behind a slash. -/
def fileNameOf (output : Path) : String :=
  "/" ++ "/".intercalate ((output.components.drop 1).map Path.Component.text)

def navPath (output : Path) : Path :=
  match output.parent? with
  | some directory => directory.join "_nav.html"
  | none => ⟨"_nav.html"⟩

def readNav (t : FileTree) (output : Path) : Except RenderFault (Option String) :=
  let path := navPath output
  if t.isFile path then
    match t.readText path with
    | .ok text => .ok (some text)
    | .error fault => .error (.inaccessible path fault)
  else .ok none

def forOutput (t : FileTree) (markdown : String) (output : Path) : Except RenderFault PageData := do
  pure ⟨markdown,fileNameOf output,← readNav t output⟩

end PageData
end ReferenceSite
