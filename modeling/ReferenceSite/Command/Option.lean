import ReferenceSite.Text.Search

/-! Options on a command line. An option has a long name behind two dashes and perhaps a letter behind
one; letters can be written together. A value stands behind an equals sign, right behind a letter, or
next on the line, where it does not look like an option. -/
namespace ReferenceSite.Command
open ReferenceSite.Text

inductive Arity where
  | flag
  | counted
  | single
  | repeated
deriving DecidableEq

structure OptionSpec where
  name : String
  letter : Option Char
  arity : Arity
  required : Bool
  about : String

def OptionSpec.takesValue (o : OptionSpec) : Bool := o.arity = .single ∨ o.arity = .repeated

inductive Halt where
  | misuse
  | help (command : Option String)
  | version
deriving DecidableEq

abbrev Given := List (String × String)

structure Scope where
  options : List OptionSpec
  commands : List String
  command : Option String

namespace Scope

def give (s : Scope) (given : Given) (o : OptionSpec) (v : String) : Except Halt Given :=
  if o.name = "help" then .error (.help s.command)
  else if o.name = "version" then .error .version
  else if o.arity = .single ∧ given.any (·.1 = o.name) then .error .misuse
  else .ok (given ++ [(o.name,v)])

/-- Takes letters that are written together. An option that wants a value takes the rest as one, or
else is left waiting. -/
def letters (s : Scope) (given : Given) : List Char → Except Halt (Given × Option OptionSpec)
  | [] => .ok (given,none)
  | c :: rest =>
    match s.options.find? (·.letter = some c) with
    | none => .error .misuse
    | some o =>
      if o.takesValue then
        match rest with
        | [] => .ok (given,some o)
        | '=' :: v => (s.give given o (.ofList v)).map (·,none)
        | v => (s.give given o (.ofList v)).map (·,none)
      else
        match s.give given o "" with
        | .error halt => .error halt
        | .ok given => letters s given rest

def word (s : Scope) (given : Given) (text : List Char) : Except Halt (Given × Option OptionSpec) :=
  let name := text.takeWhile (· ≠ '=')
  let v := text.drop (name.length + 1)
  let hasValue := name.length < text.length
  match s.options.find? (·.name = .ofList name) with
  | none => .error .misuse
  | some o =>
    if o.takesValue ∧ ! hasValue then .ok (given,some o)
    else if ! o.takesValue ∧ hasValue then .error .misuse
    else (s.give given o (.ofList v)).map (·,none)

def isOption (argument : String) : Bool := argument.toList.head? = some '-' && argument ≠ "-"

/-- Takes all options up to a command. A double dash may end them. -/
def read (s : Scope) (given : Given) : List String → Except Halt (Given × List String)
  | [] => .ok (given,[])
  | argument :: rest =>
    if argument = "--" then
      if rest.isEmpty then .ok (given,[]) else .error .misuse
    else if isOption argument then
      let taken := match dropPrefix? ['-','-'] argument.toList with
        | some text => s.word given text
        | none => s.letters given (argument.toList.drop 1)
      match taken,rest with
      | .error halt,_ => .error halt
      | .ok (given,none),rest => read s given rest
      | .ok (given,some o),v :: rest =>
        if isOption v then .error .misuse
        else
          match s.give given o v with
          | .error halt => .error halt
          | .ok given => read s given rest
      | .ok (_,some _),[] => .error .misuse
    else if s.commands.contains argument then .ok (given,argument :: rest)
    else .error .misuse

end Scope
end ReferenceSite.Command
