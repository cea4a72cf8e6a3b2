import ReferenceSite.Files.Tree

/-! Why a page could not be rendered or published, and how that is reported. -/
namespace ReferenceSite

inductive RenderFault where
  | deadLink (document : Path) (target : String)
  /-- The page template cannot be read as one, or stopped on its data. -/
  | template (reason : String)
  | inaccessible (path : Path) (fault : FileFault)
deriving DecidableEq

def RenderFault.message : RenderFault → String
  | .deadLink document target => document.text ++ ": dead link: " ++ target
  | .template reason => "template error: " ++ reason
  | .inaccessible path fault => path.text ++ ": " ++ fault.message

end ReferenceSite
