import ReferenceSite.Command.Invocation

/-! What the program says about itself. -/
namespace ReferenceSite.Command

def programName : String := "refdoc"

def version : String := programName ++ " 0.1.0\n"

namespace Help

def columns (rows : List (String × String)) : String :=
  let width := (rows.map fun (left,_) => left.length).foldl max 0
  String.join (rows.map fun (left,right) =>
    "  " ++ left ++ .ofList (List.replicate (width - left.length) ' ') ++ "  " ++ right ++ "\n")

def valueName (o : OptionSpec) : String := if o.takesValue then " <" ++ o.name ++ ">" else ""

def optionRow (o : OptionSpec) : String × String :=
  let letter := match o.letter with
    | some c => String.ofList ['-',c] ++ ", "
    | none => "    "
  (letter ++ "--" ++ o.name ++ valueName o ++ (if o.arity = .counted then "..." else ""),o.about)

/-- Options are shown by their places in their lists, and those of one place by letter or name. -/
def place (o : OptionSpec × Nat) : Nat × String :=
  (o.2,match o.1.letter with
    | some c => .ofList [c]
    | none => o.1.name)

def ordered (own : List OptionSpec) : List OptionSpec :=
  ((own.zipIdx ++ shared.zipIdx).mergeSort fun a b =>
    (place a).1 < (place b).1 || ((place a).1 = (place b).1 && (place a).2 ≤ (place b).2)).map (·.1)

def ofProgram : String :=
  "Reference docs generation and markdown rendering for the docs site\n\nUsage: " ++ programName ++
    " [OPTIONS] <COMMAND>\n\nCommands:\n" ++
    columns ((commands ++ [helpCommand]).map fun c => (c.name,c.about)) ++ "\nOptions:\n" ++
    columns ((ordered [] ++ [helpOption,versionOption]).map optionRow)

def ofCommand (c : CommandSpec) : String :=
  let required := (c.options.filter (·.required)).map fun o => " --" ++ o.name ++ valueName o
  c.about ++ "\n\nUsage: " ++ programName ++ " " ++ c.name ++ " [OPTIONS]" ++ String.join required ++
    "\n\nOptions:\n" ++ columns ((ordered c.options ++ [helpOption]).map optionRow)

def text (command : Option String) : String :=
  match command.bind fun name => commands.find? (·.name = name) with
  | some c => ofCommand c
  | none => ofProgram

end Help
end ReferenceSite.Command
