import ReferenceSite.Files.Tree

/-! Why reference entries could not be extracted, and how that is reported. -/
namespace ReferenceSite

inductive SchemaFault where
  | unreadableLine (path : Path) (number : Nat) (line : String)
  /-- No type, or more than one, carries the requested name. -/
  | unknownType (name : String)
  | uncompilable (path : Path) (reason : String)
  | unreadableFile (path : Path) (fault : FileFault)

def SchemaFault.message : SchemaFault → String
  | .unreadableLine path number line =>
    path.text ++ ":" ++ toString number ++ ": cannot parse table macro line \"" ++ line ++ "\""
  | .unknownType name => "unknown type '" ++ name ++ "'"
  | .uncompilable path reason => "failed to compile " ++ path.text ++ ": " ++ reason
  | .unreadableFile path fault => "failed to read " ++ path.text ++ ": " ++ fault.message

end ReferenceSite
