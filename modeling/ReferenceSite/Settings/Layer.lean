import ReferenceSite.Files.Tree
import ReferenceSite.Settings.Fault
import ReferenceSite.Settings.Key
import ReferenceSite.Text.Lenient
import ReferenceSite.Toml.Document

/-! Layers of a configuration. Files are merged over the defaults in their order. Single settings come
over all files, wherever they stand between them. Those of one key replace each other. -/
namespace ReferenceSite.Settings
open ReferenceSite.Text

inductive Layer where
  | file (name : String)
  | setting (key : String) (v : Value)

def locate? (t : FileTree) (name : String) : Option Path :=
  let p := (Path.ofSegments true t.workingDirectory).join name
  if t.isFile p then some p else (p.appendToName? ".toml").filter (t.isFile ·)

/-- The text of a file without its byte order mark. -/
def contentText (content : ByteArray) : String :=
  match content.toList.map UInt8.toNat with
  | 0xEF :: 0xBB :: 0xBF :: bytes => .ofList (decodeLenient bytes)
  | bytes => .ofList (decodeLenient bytes)

def readFile (t : FileTree) (name : String) : Except Fault (String × Toml.Entries) :=
  match locate? t name with
  | none => .error (.missingFile name)
  | some p =>
    match t.read p with
    | .error _ => .error (.missingFile name)
    | .ok content =>
      match Toml.document? (contentText content) with
      | none => .error (.invalidFile name)
      | some entries => .ok ((p.relativeTo (Path.ofSegments true t.workingDirectory)).text,entries)

/-- Merges the entries of a file into a configuration. The name of an entry may be a whole key. -/
def Value.addEntries (whole : Value) (origin : String) (entries : Toml.Entries) : Value :=
  entries.foldl (fun whole (name,v) =>
    (Value.ofToml origin v).place ((Key.read? name).getD [.name name]) whole) whole

namespace Layer

def addFile (t : FileTree) (whole : Value) : Layer → Except Fault Value
  | file name => do
    let (origin,entries) ← readFile t name
    pure (whole.addEntries origin entries)
  | setting .. => pure whole

def setting? : Layer → Except Fault (Option (Key × Value))
  | file _ => pure none
  | setting text v =>
    match Key.read? text with
    | some key => pure (some (key,v))
    | none => throw (.badKey text)

/-- Single settings by their keys. Of those with one key only the last counts. -/
def byKey : List (Key × Value) → List (Key × Value)
  | [] => []
  | (key,v) :: rest => if rest.any (·.1 = key) then byKey rest else (key,v) :: byKey rest

/-- All layers over a configuration. Keys are read before files. -/
def merge (t : FileTree) (whole : Value) (layers : List Layer) : Except Fault Value := do
  let settings ← layers.mapM setting?
  let whole ← layers.foldlM (addFile t) whole
  pure ((byKey (settings.filterMap id)).foldl (fun whole (key,v) => v.place key whole) whole)

end Layer
end ReferenceSite.Settings
