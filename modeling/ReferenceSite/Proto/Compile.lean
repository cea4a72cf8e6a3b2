import ReferenceSite.Files.Tree
import ReferenceSite.Proto.Pool
import ReferenceSite.Proto.Source.Check
import ReferenceSite.Proto.Standard

/-! Compilation of message definitions. A file is read together with everything that it imports,
directly or not; imports are looked up from the root, and then among the files that come with the
compiler, which are a parameter. Then names are given their meaning, the rules are checked, and the
types of all the files make up a pool. -/
namespace ReferenceSite.Proto
open ReferenceSite.Proto.Source

/-- Files that every project can import without having them, by name and text. -/
abbrev Bundle := List (String × List Char)

namespace Source

/-- An imported name takes only plain steps. -/
def isPlainName (name : String) : Bool :=
  (name.toList.splitOn '/').all fun part => part ≠ [] ∧ part ≠ ['.'] ∧ part ≠ ['.','.']

def readSource (name : String) (text : List Char) : Except String SourceFile :=
  match SourceFile.ofText? name text with
  | some f => .ok f
  | none => .error ("syntax error in " ++ name)

def source (t : FileTree) (root : Path) (b : Bundle) (name : String) : Except String SourceFile :=
  if ! isPlainName name then .error ("bad file name " ++ name)
  else
    match t.readText (root.join name) with
    | .ok text => readSource name text.toList
    | .error .notFound =>
      match b.lookup name with
      | some text => readSource name text
      | none => .error ("file not found: " ++ name)
    | .error fault => .error fault.message

/-- Adds a file behind everything that it imports. The names on the way to it may not come again; at
most `fuel` of them are followed. -/
def gather (t : FileTree) (root : Path) (b : Bundle) (fuel : Nat) (above : List String)
    (loaded : List SourceFile) (name : String) : Except String (List SourceFile) :=
  match fuel with
  | 0 => .error "imports too deep"
  | fuel + 1 =>
    if above.contains name then .error ("circular import of " ++ name)
    else if loaded.any (·.name = name) then .ok loaded
    else do
      let f ← source t root b name
      let loaded ← f.imports.foldlM
        (fun loaded i => gather t root b fuel (name :: above) loaded i.name) loaded
      pure (loaded ++ [f])

/-- A file and everything it imports, imported files first. A way of imports that does not come
back to a name has at most one name for each file. -/
def closure (t : FileTree) (root : Path) (b : Bundle) (name : String) : Except String (List SourceFile) :=
  gather t root b (t.entries.length + b.length + 1) [] [] name

/-- What each file shows to those that import it: itself and what it imports publicly. -/
def exports (files : List SourceFile) : List (String × List String) :=
  files.foldl (fun shown f =>
    (f.name,f.name :: (f.imports.filter (·.isPublic)).flatMap fun i =>
      ((shown.find? (·.1 = i.name)).map (·.2)).getD []) :: shown) []

def visible (files : List SourceFile) (f : SourceFile) : Symbols :=
  let shown := exports files
  let names := f.name :: f.imports.flatMap fun i =>
    ((shown.find? (·.1 = i.name)).map (·.2)).getD []
  (files.filter fun other => names.contains other.name).flatMap (·.symbols)

/-- No two declarations have the same name, and none has the name of a package. -/
def checkNames (files : List SourceFile) : Checked := do
  let names := files.flatMap fun f => f.declaredSymbols.map (·.name)
  require (decide names.Nodup) "name declared twice"
  let packages := files.flatMap fun f => SourceFile.packageNames f.package
  require (! names.any (packages.contains ·)) "name of a package"

def kindOf (s : Symbols) (scope name : String) : Except String Kind :=
  if scalarNames.contains name then .ok (.scalar name)
  else
    match s.type? scope name with
    | some ⟨q,.enumeration,package⟩ => .ok (.enumeration q package)
    | some ⟨q,_,package⟩ => .ok (.message q package)
    | none => .error ("unknown type " ++ name)

def fieldKind (s : Symbols) (package scope : String) (f : FieldDecl) : Except String Kind :=
  match f.type with
  | .single name => kindOf s scope name
  | .map .. => .ok (.message (qualify scope (entryName f.name)) package)
  | .group => .ok (.message (qualify scope f.name) package)

/-- A map is a repeated field of its entries. -/
def isRepeated (f : FieldDecl) : Bool :=
  match f.type with
  | .map .. => true
  | _ => f.label = some .repeated

/-- A compiled field. The comment of a group is that of its message. -/
def poolField (s : Symbols) (package scope : String) (f : FieldDecl) : Except String PoolField := do
  let kind ← fieldKind s package scope f
  pure (match f.type with
    | .group => ⟨groupFieldName f.name,f.number,kind,isRepeated f,""⟩
    | _ => ⟨f.name,f.number,kind,isRepeated f,f.comment⟩)

def entryMessages (s : Symbols) (file package scope : String) (f : FieldDecl) :
    Except String (List PoolMessage) :=
  match f.type with
  | .map key value => do
    let entry := qualify scope (entryName f.name)
    pure [⟨entry,package,file,"",
      [⟨"key",1,← kindOf s entry key,false,""⟩,
        ⟨"value",2,← kindOf s entry value,false,""⟩],true⟩]
  | _ => pure []

def poolMessages (s : Symbols) (file package : String) (m : MessageDecl) :
    Except String (List PoolMessage) := do
  let declared := (Declaration.fieldsOf m.body).map (·.1)
  let fields ← declared.mapM (poolField s package m.qualifiedName)
  let entries ← declared.mapM (entryMessages s file package m.qualifiedName)
  pure (⟨m.qualifiedName,package,file,m.comment,
    fields.mergeSort fun a b => a.number ≤ b.number,false⟩ :: entries.flatten)

/-- Of two values with the same number the later one comes first. -/
def poolEnum (file package scope : String) (e : EnumDecl) : PoolEnum :=
  ⟨qualify scope e.name,package,file,e.comment,
    (e.values.reverse.map fun v => (⟨v.name,v.number,v.comment⟩ : EnumValue)).mergeSort
      fun a b => a.number ≤ b.number⟩

def poolOf (files : List SourceFile) (f : SourceFile) : Except String Pool := do
  let messages ← f.messages.mapM (poolMessages (visible files f) f.name f.package)
  pure ⟨messages.flatten,f.enumerations.map fun (scope,e) => poolEnum f.name f.package scope e⟩

def link (files : List SourceFile) : Except String Pool := do
  checkNames files
  let values := files.flatMap (·.enumValues)
  let left := files.flatMap (·.openRanges)
  for f in files do f.check (visible files f) values left
  let pools ← files.mapM (poolOf files)
  pure ⟨pools.flatMap (·.messages),pools.flatMap (·.enumerations)⟩

end Source

def plainSteps (p : Path) : List Path.Component := p.components.filter (· ≠ .current)

/-- The name of a file as imports spell it: its steps below the root, or else all its steps. Every one
of them goes down. -/
def nameOf? (root file : Path) : Option String :=
  let steps := plainSteps file
  let above := plainSteps root
  let below := if above.isPrefixOf steps then steps.drop above.length else steps
  if below.isEmpty then none
  else (below.mapM fun step : Path.Component =>
    match step with
    | .normal name => some name
    | _ => none).map ("/".intercalate ·)

def leadApart (t : FileTree) (a b : Path) : Bool :=
  match t.canonical a,t.canonical b with
  | .ok a,.ok b => a ≠ b
  | _,_ => false

/-- The types of a file and of everything that it imports. A file that another one hides behind the
same name is refused. -/
def compile (t : FileTree) (root file : Path) (b : Bundle := Standard.files) : Except String Pool := do
  match nameOf? root file with
  | none => throw ("not below the root: " ++ file.text)
  | some name =>
    let files ← Source.closure t root b name
    if leadApart t (root.join name) file then throw ("hidden by another file: " ++ file.text)
    Source.link files

end Proto

def Schema.load (t : FileTree) (root file : Path) (b : Proto.Bundle := Proto.Standard.files) :
    Except SchemaFault Schema :=
  match Proto.compile t root ((file.stripPrefix? root).getD file) b with
  | .ok pool => .ok (.ofPool pool)
  | .error reason => .error (.uncompilable file reason)

end ReferenceSite
