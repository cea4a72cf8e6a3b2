import ReferenceSite.Proto.Standard.Descriptor
import ReferenceSite.Proto.Standard.WellKnown

/-! The files that every project can import without having them. -/
namespace ReferenceSite.Proto.Standard

def files : List (String × List Char) :=
  [any,api,plugin,descriptor,duration,empty,fieldMask,sourceContext,struct,timestamp,typeFile,
    wrappers]

end ReferenceSite.Proto.Standard
