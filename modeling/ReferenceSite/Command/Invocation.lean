import ReferenceSite.Command.Option

/-! The commands of the program and their options. Some options belong to the program as a whole and
may stand before or behind the name of the command; behind it they count more. -/
namespace ReferenceSite.Command

structure CommandSpec where
  name : String
  about : String
  options : List OptionSpec

def shared : List OptionSpec := [
  ⟨"config",'c',.single,false,"Configuration file layered over the built-in defaults"⟩,
  ⟨"root",none,.single,false,"Project root that links and proto imports resolve against"⟩,
  ⟨"verbose",'v',.counted,false,"Increase logging verbosity (-v info, -vv debug, -vvv trace)"⟩]

def helpOption : OptionSpec := ⟨"help",'h',.flag,false,"Print help"⟩

def versionOption : OptionSpec := ⟨"version",'V',.flag,false,"Print version"⟩

def outputOption (required : Bool) (about : String) : OptionSpec :=
  ⟨"output",'o',.single,required,about⟩

def tablesCommand : CommandSpec :=
  ⟨"tables","Generate the table reference from table-definition headers",[
    ⟨"input",'i',.repeated,true,"Header file to scan (repeatable)"⟩,
    outputOption false "Markdown output file (default: stdout)"]⟩

def protoCommand : CommandSpec :=
  ⟨"proto","Generate the reference for a proto message and every type it reaches",[
    ⟨"input",'i',.single,true,"Proto file, inside the project root"⟩,
    ⟨"type",'p',.single,true,"Root type, e.g. perfetto.protos.TraceConfig"⟩,
    outputOption false "Markdown output file (default: stdout)"]⟩

def renderCommand : CommandSpec :=
  ⟨"render","Render a markdown page into the site",[
    ⟨"odir",none,.single,true,"Site output directory; docs images are copied under it"⟩,
    outputOption true "HTML output file",
    ⟨"input",'i',.single,false,"Markdown input (default: empty page)"⟩,
    ⟨"template",'t',.single,false,"Page template receiving markdown, fileName and nav"⟩]⟩

def commands : List CommandSpec := [tablesCommand,protoCommand,renderCommand]

def helpCommand : CommandSpec :=
  ⟨"help","Print this message or the help of the given subcommand(s)",[]⟩

inductive Task where
  | tables (inputs : List String) (output : Option String)
  | proto (input type : String) (output : Option String)
  | render (siteDirectory output : String) (input template : Option String)
deriving DecidableEq

structure Invocation where
  config : Option String
  root : Option String
  task : Task
deriving DecidableEq

def Given.value? (given : Given) (name : String) : Option String :=
  ((given.reverse.find? (·.1 = name)).map (·.2))

def Given.values (given : Given) (name : String) : List String :=
  (given.filter (·.1 = name)).map (·.2)

def Given.need (given : Given) (name : String) : Except Halt String :=
  match given.value? name with
  | some v => .ok v
  | none => .error .misuse

namespace Invocation

def programScope : Scope :=
  ⟨shared ++ [helpOption,versionOption],(commands ++ [helpCommand]).map (·.name),none⟩

def commandScope (c : CommandSpec) : Scope := ⟨c.options ++ shared ++ [helpOption],[],some c.name⟩

def readTask (command : String) (given : Given) : Except Halt Task := do
  let output := given.value? "output"
  if command = tablesCommand.name then
    let _ ← given.need "input"
    pure (.tables (given.values "input") output)
  else if command = protoCommand.name then
    pure (.proto (← given.need "input") (← given.need "type") output)
  else
    pure (.render (← given.need "odir") (← given.need "output") (given.value? "input")
      (given.value? "template"))

def help : List String → Halt
  | [] => .help none
  | [name] => if commands.any (·.name = name) then .help (some name) else .misuse
  | _ => .misuse

def read (arguments : List String) : Except Halt Invocation := do
  let (before,rest) ← programScope.read [] arguments
  match rest with
  | [] => throw .misuse
  | name :: rest =>
    match commands.find? (·.name = name) with
    | none => throw (help rest)
    | some c =>
      let (own,_) ← (commandScope c).read [] rest
      let given := before ++ own
      pure ⟨given.value? "config",given.value? "root",← readTask name own⟩

end Invocation
end ReferenceSite.Command
