import ReferenceSite.Tables.Body

/-! Tables of a header file. A table is announced by an invocation that names its defining macro;
the definition is the comment run above the define line, that line, and all continued lines with
the line they continue into. -/
namespace ReferenceSite
open ReferenceSite.Text

structure MissingBody where
  definition : String
  path : Path
deriving DecidableEq

def MissingBody.message (m : MissingBody) : String :=
  "could not find table " ++ m.definition ++ " in " ++ m.path.text

structure HeaderTables where
  /-- In the order of their announcements. -/
  tables : List Table
  missing : List MissingBody
deriving DecidableEq

namespace HeaderTables

def none : HeaderTables := ⟨[],[]⟩

def append (a b : HeaderTables) : HeaderTables := ⟨a.tables ++ b.tables,a.missing ++ b.missing⟩

end HeaderTables

namespace Header

def definesMacro (definition line : String) : Bool :=
  match dropPrefix? "#define".toList (trimStart line.toList) with
  | some rest =>
    (afterBlanks rest).any fun name =>
      name.length < rest.length &&
        match dropPrefix? definition.toList name with
        | some parameters => (trimStart parameters).head? = some '('
        | none => false
  | none => false

def isCommentLine (line : String) : Bool :=
  (dropPrefix? "//".toList (line.toList.dropWhile fun c => c = ' ' ∨ c = '\t')).isSome

/-- The lines up to the first one that is not continued, that one included. -/
def continuedRun : List (Nat × String) → List (Nat × String)
  | [] => []
  | line :: rest => line :: if isContinued line.2 then continuedRun rest else []

def numbered (source : String) : List (Nat × String) :=
  (Text.lines source.toList).mapIdx fun i line => (i + 1,.ofList line)

/-- The numbered lines of the definition, if there is one with at least one continued line. -/
def body? (source definition : String) : Option (List (Nat × String)) :=
  let lines := numbered source
  let before := lines.takeWhile (! definesMacro definition ·.2)
  match lines.dropWhile (! definesMacro definition ·.2) with
  | [] => none
  | line :: rest =>
    if isContinued line.2 then
      some ((before.reverse.takeWhile (isCommentLine ·.2)).reverse ++ continuedRun (line :: rest))
    else none

/-- The macro named by an invocation that begins at this line start, and the text behind it. -/
def invocation? (invocationMacro s : List Char) : Option (List Char × List Char) :=
  (afterBlanks s).findSome? fun t => do
    let (definition,rest) ← LineKind.leadingWord? (← dropPrefix? (invocationMacro ++ ['(']) t)
    some (definition,← dropPrefix? [')'] rest)

theorem length_of_mem_afterBlanks {s t : List Char} (h : t ∈ afterBlanks s) :
    t.length ≤ s.length := by
  induction s with
  | nil => simp_all [afterBlanks]
  | cons c cs ih =>
    simp only [afterBlanks] at h
    split at h <;> simp at h
    · rcases h with h | rfl
      · exact Nat.le_succ_of_le (ih h)
      · simp
    · simp [h]

theorem invocation?_length {invocationMacro s definition rest : List Char}
    (h : invocation? invocationMacro s = some (definition,rest)) : rest.length < s.length := by
  obtain ⟨t,ht,h⟩ := List.exists_of_findSome?_eq_some h
  have shorter := length_of_mem_afterBlanks ht
  simp only [Option.bind_eq_bind,Option.bind_eq_some_iff,LineKind.leadingWord?] at h
  obtain ⟨u,hu,⟨word,tail⟩,hw,v,hv,heq⟩ := h
  split at hw
  · cases hw
  · cases hw
    cases heq
    have := congrArg List.length (dropPrefix?_eq_some hu)
    have := congrArg List.length (dropPrefix?_eq_some hv)
    have := (List.dropWhile_suffix (l := u) isWord).length_le
    simp at *
    omega

/-- The macros named by the invocations in a text that is read from a line start (`fresh`) or from
within a line. -/
def invocationsFrom (invocationMacro : List Char) (fresh : Bool) (s : List Char) : List String :=
  match _h : if fresh then invocation? invocationMacro s else none with
  | some (definition,rest) => .ofList definition :: invocationsFrom invocationMacro false rest
  | none =>
    match s with
    | [] => []
    | c :: rest => invocationsFrom invocationMacro (c = '\n') rest
termination_by s.length
decreasing_by
  · split at _h
    · exact invocation?_length _h
    · cases _h
  · simp

def invocations (dialect : Dialect) (source : String) : List String :=
  invocationsFrom dialect.invocationMacro.toList true source.toList

def tableOf (path : Path) (dialect : Dialect) (source definition : String) :
    Except SchemaFault HeaderTables :=
  match body? source definition with
  | none => .ok ⟨[],[⟨definition,path⟩]⟩
  | some body => do pure ⟨[← Table.ofBody path dialect body],[]⟩

/-- Adds the tables that the definitions name, as far as they can be read. -/
def extend (path : Path) (dialect : Dialect) (source : String) (found : HeaderTables) :
    List String → HeaderTables × Option SchemaFault
  | [] => (found,none)
  | definition :: rest =>
    match tableOf path dialect source definition with
    | .error fault => (found,some fault)
    | .ok more => extend path dialect source (found.append more) rest

def extendFiles (t : FileTree) (dialect : Dialect) (found : HeaderTables) :
    List Path → HeaderTables × Option SchemaFault
  | [] => (found,none)
  | path :: rest =>
    match t.readText path with
    | .error fault => (found,some (.unreadableFile path fault))
    | .ok source =>
      match extend path dialect source found (invocations dialect source) with
      | (found,none) => extendFiles t dialect found rest
      | stopped => stopped

def finished : HeaderTables × Option SchemaFault → Except SchemaFault HeaderTables
  | (found,none) => .ok found
  | (_,some fault) => .error fault

/-- All tables of a header's text; the path is only for reports. -/
def parse (path : Path) (dialect : Dialect) (source : String) : Except SchemaFault HeaderTables :=
  finished (extend path dialect source .none (invocations dialect source))

def parseFiles (t : FileTree) (dialect : Dialect) (paths : List Path) :
    Except SchemaFault HeaderTables :=
  finished (extendFiles t dialect .none paths)

end Header
end ReferenceSite
