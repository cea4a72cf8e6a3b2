import ReferenceSite.Command.Help
import ReferenceSite.Page.Publish
import ReferenceSite.Proto.Compile
import ReferenceSite.Reference
import ReferenceSite.Settings
import ReferenceSite.Tables.Header

/-! Runs of the program. A run takes a command line and a file tree, and leaves a tree and a report.
Settings come first; whatever fails ends the run, and what was warned of before is still reported. -/
namespace ReferenceSite.Command

inductive Fault where
  | settings (fault : Settings.Fault)
  | extraction (fault : SchemaFault)
  | page (fault : RenderFault)
  | unresolvable (path : Path) (fault : FileFault)

def Fault.message : Fault → String
  | settings fault => "invalid configuration: " ++ fault.message
  | extraction fault =>
    match fault with
    | .unreadableFile _ cause => fault.message ++ ": " ++ cause.message
    | _ => fault.message
  | page fault =>
    match fault with
    | .inaccessible _ cause => fault.message ++ ": " ++ cause.message
    | _ => fault.message
  | unresolvable path fault => "cannot resolve " ++ path.text ++ ": " ++ fault.message

structure Report where
  output : String
  failure : Option Fault
  warnings : List String

inductive Outcome where
  | misuse
  | report (r : Report)

namespace Invocation

def layers (i : Invocation) : List Settings.Layer :=
  (i.config.toList.map .file) ++
    i.root.toList.map fun root => .setting "project.root" (.scalar (.text root) none)

def failed (warnings : List String) (fault : Fault) : Report := ⟨"",some fault,warnings⟩

def emit (t : FileTree) (output : Option String) (warnings : List String) (text : String) :
    FileTree × Report :=
  match output with
  | none => (t,⟨text,none,warnings⟩)
  | some path =>
    match t.writeOutput ⟨path⟩ text.toUTF8 with
    | (t,.ok ()) => (t,⟨"",none,warnings⟩)
    | (t,.error fault) => (t,failed warnings (.page fault))

def runTables (s : Settings) (inputs : List String) (output : Option String) (t : FileTree) :
    FileTree × Report :=
  let (found,fault) := Header.extendFiles t s.dialect .none (inputs.map Path.mk)
  let warnings := found.missing.map (·.message)
  match fault with
  | some fault => (t,failed warnings (.extraction fault))
  | none => emit t output warnings (Reference.tables found.tables)

def canonical (t : FileTree) (p : Path) : Except Fault Path :=
  (t.canonical p).mapError (.unresolvable p)

def loadSchema (s : Settings) (input : String) (t : FileTree) : Except Fault Schema := do
  let root ← canonical t s.root
  let file ← canonical t ⟨input⟩
  (Schema.load t root file).mapError .extraction

def runProto (s : Settings) (input type : String) (output : Option String) (t : FileTree) :
    FileTree × Report :=
  match loadSchema s input t with
  | .error fault => (t,failed [] fault)
  | .ok schema =>
    let (visits,reference) := Reference.walk schema type 0 .none
    let warnings := visits.collisions.map (·.message)
    match reference with
    | .error fault => (t,failed warnings (.extraction fault))
    | .ok text => emit t output warnings text

def runRender (s : Settings) (siteDirectory output : String) (input template : Option String)
    (t : FileTree) : FileTree × Report :=
  let spec : PublishSpec := ⟨input.map Path.mk,⟨output⟩,⟨siteDirectory⟩,template.map Path.mk⟩
  match spec.publish (s.renderContext ⟨input.getD ""⟩) t with
  | (t,.ok _) => (t,⟨"",none,[]⟩)
  | (t,.error fault) => (t,failed [] (.page fault))

def run (i : Invocation) (t : FileTree) : FileTree × Report :=
  match Settings.load t i.layers with
  | .error fault => (t,failed [] (.settings fault))
  | .ok s =>
    match i.task with
    | .tables inputs output => runTables s inputs output t
    | .proto input type output => runProto s input type output t
    | .render siteDirectory output input template =>
      runRender s siteDirectory output input template t

end Invocation

def run (arguments : List String) (t : FileTree) : FileTree × Outcome :=
  match Invocation.read arguments with
  | .ok i =>
    let (t,report) := i.run t
    (t,.report report)
  | .error .misuse => (t,.misuse)
  | .error (.help command) => (t,.report ⟨Help.text command,none,[]⟩)
  | .error .version => (t,.report ⟨version,none,[]⟩)

end ReferenceSite.Command
