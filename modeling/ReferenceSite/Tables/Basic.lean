/-! Tables as they are documented, and the words of the macro dialect that declares them. -/
namespace ReferenceSite

structure Column where
  name : String
  columnType : String
  optional : Bool
  comment : String
deriving DecidableEq

structure Table where
  name : String
  /-- As it is written, one source line after the other. -/
  comment : String
  columns : List Column
deriving DecidableEq

def Table.blank : Table := ⟨"","",[]⟩

/-- The parts of the macro dialect that a project chooses. -/
structure Dialect where
  invocationMacro : String
  /-- Column types that are documented as plain strings. -/
  handleTypes : List String
deriving DecidableEq

def Dialect.standard : Dialect := ⟨"PERFETTO_TP_TABLE",["StringPool::Id"]⟩

end ReferenceSite
