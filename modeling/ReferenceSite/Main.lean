import ReferenceSite.Command.Run

/-! The program. It reads the files below its directory and those that its arguments and the root of
the project lead to, runs on them, and writes what has changed. -/
namespace ReferenceSite.Command

def locationOf (path : String) : Location := (path.splitOn "/").filter (· ≠ "")

def addEntry (t : FileTree) (here : Location) (entry : Entry) : FileTree :=
  let t := (List.range here.length).foldl (fun t n =>
    if (t.lookup (here.take n)).isSome then t else t.put (here.take n) .directory) t
  if (t.lookup here).isSome then t else t.put here entry

def readEntry (t : FileTree) (path : String) (isDirectory : Bool) : IO FileTree := do
  if isDirectory then pure (addEntry t (locationOf path) .directory)
  else pure (addEntry t (locationOf path) (.file (← IO.FS.readBinFile path)))

def readBelow (t : FileTree) (path : String) : IO FileTree := do
  try
    let start ← IO.FS.realPath path
    if ! (← start.isDir) then return ← readEntry t start.toString false
    let mut tree ← readEntry t start.toString true
    for found in ← start.walkDir do
      tree ← readEntry tree found.toString (← found.isDir)
    return tree
  catch _ => return t

def Invocation.paths (i : Invocation) : List String :=
  i.config.toList ++ i.root.toList ++ match i.task with
    | .tables inputs output => inputs ++ output.toList
    | .proto input _ output => input :: output.toList
    | .render siteDirectory output input template =>
      siteDirectory :: output :: input.toList ++ template.toList

def readTree (arguments : List String) : IO FileTree := do
  let directory := (← IO.currentDir).toString
  let mut tree ← readBelow (.empty (locationOf directory)) directory
  if let .ok i := Invocation.read arguments then
    for path in i.paths do
      tree ← readBelow tree path
    if let .ok s := Settings.load tree i.layers then
      tree ← readBelow tree s.root.text
  return tree

def isNew (before : FileTree) (here : Location) (entry : Entry) : Bool :=
  match before.lookup here,entry with
  | some (.file old),.file content => old != content
  | some .directory,.directory => false
  | _,_ => true

def writeEntry (here : Location) (entry : Entry) : IO Unit :=
  let path := (Path.ofSegments true here).text
  match entry with
  | .directory => IO.FS.createDirAll path
  | .file content => IO.FS.writeBinFile path content

end ReferenceSite.Command

open ReferenceSite.Command in
def main (arguments : List String) : IO UInt32 := do
  let before ← readTree arguments
  let (after,outcome) := run arguments before
  for (here,entry) in after.entries.reverse do
    if isNew before here entry then writeEntry here entry
  match outcome with
  | .misuse =>
    IO.eprintln "error: not a valid command line"
    return 2
  | .report r =>
    for warning in r.warnings do IO.eprintln (" WARN " ++ warning)
    match r.failure with
    | none =>
      IO.print r.output
      return 0
    | some fault =>
      IO.eprintln ("Error: " ++ fault.message)
      return 1
