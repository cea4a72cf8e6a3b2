import ReferenceSite.Files.Path

/-! A tree of files and how paths are looked up in it. Every step of a path is checked: a name, a
dot and a double dot can only be taken from a directory that exists, so `a/gone/../b` names nothing
when `a/gone` is missing. Writes keep the rest of the tree. -/
namespace ReferenceSite

inductive FileFault where
  | notFound
  | isADirectory
  | notADirectory
  | alreadyExists
  | notText
  | notAFile
deriving DecidableEq

def FileFault.message : FileFault → String
  | .notFound => "No such file or directory (os error 2)"
  | .isADirectory => "Is a directory (os error 21)"
  | .notADirectory => "Not a directory (os error 20)"
  | .alreadyExists => "File exists (os error 17)"
  | .notText => "stream did not contain valid UTF-8"
  | .notAFile => "the source path is neither a regular file nor a symlink to a regular file"

inductive Entry where
  | directory
  | file (content : ByteArray)

abbrev Location := List String

structure FileTree where
  workingDirectory : Location
  entries : List (Location × Entry)

namespace FileTree

def empty (workingDirectory : Location) : FileTree :=
  ⟨workingDirectory,(List.range workingDirectory.length).map fun n =>
    (workingDirectory.take (n + 1),.directory)⟩

def lookup (t : FileTree) (here : Location) : Option Entry :=
  if here = [] then some .directory else (t.entries.find? (·.1 = here)).map (·.2)

def put (t : FileTree) (here : Location) (entry : Entry) : FileTree :=
  { t with entries := (here,entry) :: t.entries.filter (·.1 ≠ here) }

def step (t : FileTree) (here : Location) (segment : String) : Except FileFault Location :=
  match t.lookup here with
  | none => .error .notFound
  | some (.file _) => .error .notADirectory
  | some .directory =>
    .ok (if Path.isSilent segment then here else if segment = ".." then here.dropLast
      else here ++ [segment])

/-- Where a path leads. The last name need not exist. -/
def walk (t : FileTree) (p : Path) : Except FileFault Location :=
  if p.text = "" then .error .notFound
  else p.segments.foldlM t.step (if p.isAbsolute then [] else t.workingDirectory)

def find (t : FileTree) (p : Path) : Except FileFault (Location × Entry) := do
  let here ← t.walk p
  match t.lookup here with
  | some entry => pure (here,entry)
  | none => throw .notFound

def contains (t : FileTree) (p : Path) : Bool := (t.find p).isOk

def isFile (t : FileTree) (p : Path) : Bool :=
  match t.find p with
  | .ok (_,.file _) => true
  | _ => false

def isDirectory (t : FileTree) (p : Path) : Bool :=
  match t.find p with
  | .ok (_,.directory) => true
  | _ => false

def canonical (t : FileTree) (p : Path) : Except FileFault Path := do
  let (here,_) ← t.find p
  pure (Path.ofSegments true here)

def read (t : FileTree) (p : Path) : Except FileFault ByteArray := do
  match ← t.find p with
  | (_,.file content) => pure content
  | (_,.directory) => throw .isADirectory

def readText (t : FileTree) (p : Path) : Except FileFault String := do
  match String.fromUTF8? (← t.read p) with
  | some text => pure text
  | none => throw .notText

/-- Where a file can be written: a name in a directory that exists, not itself a directory. -/
def slot (t : FileTree) (p : Path) : Except FileFault Location := do
  match t.walk p with
  | .error .notFound =>
    if p.text.toList.getLast? = some '/' ∧ (t.walk (Path.ofSegments p.isAbsolute
        p.reversedSegments.reverse)).isOk then throw .isADirectory else throw .notFound
  | .error fault => throw fault
  | .ok here =>
    match t.lookup here with
    | some .directory => throw .isADirectory
    | _ => pure here

def write (t : FileTree) (p : Path) (content : ByteArray) : Except FileFault FileTree := do
  pure (t.put (← t.slot p) (.file content))

/-- The destination is emptied before the source is read, so a file copied onto itself is empty
afterwards. -/
def copy (t : FileTree) (source destination : Path) : Except FileFault FileTree := do
  match ← t.find source with
  | (_,.directory) => throw .notAFile
  | (origin,.file content) =>
    let target ← t.slot destination
    pure (t.put target (.file (if target = origin then .empty else content)))

def createDirectory (t : FileTree) (p : Path) : Except FileFault FileTree := do
  let here ← t.walk p
  if (t.lookup here).isSome then throw .alreadyExists
  pure (t.put here .directory)

/-- Creates a directory and those above it, from reversed segments. The tree keeps what was
created before a failure. -/
def createAll (t : FileTree) (absolute : Bool) (reversed : List String) :
    FileTree × Except FileFault Unit :=
  let p := Path.ofSegments absolute reversed.reverse
  let settle (t : FileTree) : FileTree × Except FileFault Unit :=
    match t.createDirectory p with
    | .ok made => (made,.ok ())
    | .error fault => (t,if t.isDirectory p then .ok () else .error fault)
  if p.text = "" then (t,.ok ())
  else match t.createDirectory p,reversed with
  | .error .notFound,_ :: above =>
    match createAll t absolute (Path.dropSilent absolute above) with
    | (t,.ok ()) => settle t
    | failed => failed
  | _,_ => settle t
termination_by reversed.length
decreasing_by
  have := Path.dropSilent_length absolute above
  simp
  omega

def createDirectories (t : FileTree) (p : Path) : FileTree × Except FileFault Unit :=
  t.createAll p.isAbsolute p.reversedSegments

def files (t : FileTree) : List (String × ByteArray) :=
  t.entries.filterMap fun (here,entry) =>
    match entry with
    | .file content =>
      if t.workingDirectory.isPrefixOf here then
        some ("/".intercalate (here.drop t.workingDirectory.length),content)
      else none
    | .directory => none

end FileTree
end ReferenceSite
