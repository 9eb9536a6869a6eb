import Scaffold.Command.Parameter
import Scaffold.Text.Split

/-!
# Command lines

Reading the words of a command line from left to right. A word names a command, a parameter or
several letters of parameters, or it is a value. A parameter that is given with its value, or that
takes none, is checked at once; one whose value is the next word is checked when the next parameter
or value begins or the words end. The first check that fails decides what is wrong.
-/
namespace Scaffold

/-- What is wrong with a command line, or what it asks for instead of a command. -/
inductive UsageFault where
  /-- It asks for the description of a command. -/
  | help
  /-- It asks for the version of the program. -/
  | version
  /-- It names a group of commands and nothing else. -/
  | nothingGiven
  /-- It names no command of a group. -/
  | subcommandMissing
  /-- It names a command that there is not. -/
  | unknownSubcommand
  /-- It has a word that the command does not take. -/
  | unknownArgument
  /-- A parameter has no value, or one that it cannot have. -/
  | badValue
  /-- A parameter that takes no value has one. -/
  | surplusValue
  /-- A parameter is given twice. -/
  | repeated
deriving DecidableEq, Repr

/-- A parameter with its values. -/
abbrev Occurrence := Parameter × List Text

/-- What was read of a command line. -/
structure CommandLine where
  /-- The command. -/
  command : Command
  /-- The parameters that were checked. -/
  given : List Occurrence := []
  /-- The parameter that is not yet checked. -/
  waiting : Option Occurrence := none
  /-- The next word is the value of the parameter that waits, unless it names another one. -/
  wantsValue : Bool := false
  /-- All words are values from here on. -/
  onlyValues : Bool := false
deriving DecidableEq, Repr

namespace CommandLine

/-- A parameter was checked. -/
def has (line : CommandLine) (parameter : Parameter) : Bool :=
  line.given.any (·.1.name = parameter.name)

/-- The values of a parameter that is given; none if they are not right. -/
def checked (line : CommandLine) (parameter : Parameter) (values : List Text) :
    Except UsageFault (List Text) :=
  match parameter.kind, values with
  | .help, _ => .error .help
  | .version, _ => .error .version
  | .flag, _ => if line.has parameter then .error .repeated else .ok []
  | _, [] => .error .badValue
  | .list, values => .ok (values.flatMap (Text.splitOn ','))
  | .text, values => if line.has parameter then .error .repeated else .ok values
  | .oneOf allowed, values =>
    if line.has parameter then .error .repeated
    else if values.all allowed.contains then .ok values
    else .error .badValue

/-- Adds a parameter with its values. -/
def add (line : CommandLine) (parameter : Parameter) (values : List Text) :
    Except UsageFault CommandLine :=
  (line.checked parameter values).map fun values =>
    { line with given := line.given ++ [(parameter, values)] }

/-- Checks the parameter that waits. -/
def settle (line : CommandLine) : Except UsageFault CommandLine :=
  match line.waiting with
  | none => .ok line
  | some (parameter, values) =>
    { line with waiting := none, wantsValue := false }.add parameter values

/-- Adds a parameter whose values are known. -/
def begin (line : CommandLine) (parameter : Parameter) (values : List Text) :
    Except UsageFault CommandLine := do
  (← line.settle).add parameter values

/-- Waits for the value of a parameter. -/
def await (line : CommandLine) (parameter : Parameter) : Except UsageFault CommandLine :=
  line.settle.map fun line => { line with waiting := some (parameter, []), wantsValue := true }

/-- Takes a word as the value of the parameter that waits. -/
def takeValue (line : CommandLine) (value : Text) : CommandLine :=
  { line with
    waiting := line.waiting.map fun (parameter, values) => (parameter, values ++ [value])
    wantsValue := false }

/-- Takes a word that belongs to no named parameter. -/
def takeOperand (line : CommandLine) (value : Text) : Except UsageFault CommandLine :=
  match line.command.operand? with
  | some parameter =>
    if line.has parameter || line.waiting.any (·.1.name = parameter.name) then
      .error .unknownArgument
    else line.settle.map fun line => { line with waiting := some (parameter, [value]) }
  | none =>
    if !line.command.isGroup then .error .unknownArgument
    else if line.onlyValues && (value = "help".toList || (line.command.subcommand? value).isSome) then
      .error .unknownArgument
    else .error .unknownSubcommand

/-- Takes a word behind two hyphens: the name of a parameter, and its value behind an equals
sign. -/
def takeNamed (line : CommandLine) (word : Text) : Except UsageFault CommandLine :=
  let (name, attached) : Text × Option Text :=
    match Text.splitFirst? '=' word with
    | some (name, value) => (name, some value)
    | none => (word, none)
  match line.command.named? name with
  | none => .error .unknownArgument
  | some parameter =>
    match attached, parameter.takesValue with
    | some value, true => line.begin parameter [value]
    | some _, false => .error .surplusValue
    | none, true => line.await parameter
    | none, false => line.begin parameter []

/-- Takes the letters behind one hyphen. What follows the letter of a parameter with a value is its
value; an equals sign between them is left out. -/
def takeLetters (line : CommandLine) : Text → Except UsageFault CommandLine
  | [] => .ok line
  | letter :: rest =>
    match line.command.lettered? letter with
    | none => .error .unknownArgument
    | some parameter =>
      if parameter.takesValue then
        match rest with
        | [] => line.await parameter
        | '=' :: value => line.begin parameter [value]
        | value => line.begin parameter [value]
      else do (← line.begin parameter []).takeLetters rest

/-- Takes a word that names no command. -/
def take (line : CommandLine) (word : Text) : Except UsageFault CommandLine :=
  match word with
  | ['-', '-'] => .ok { line with onlyValues := true }
  | '-' :: '-' :: named => line.takeNamed named
  | '-' :: letter :: letters => line.takeLetters (letter :: letters)
  | value => if line.wantsValue then .ok (line.takeValue value) else line.takeOperand value

/-- What a request for help on the command of some names comes to. -/
def helpOn (command : Command) : List Text → UsageFault
  | [] => .help
  | name :: rest =>
    match command.subcommand? name with
    | some subcommand => helpOn subcommand rest
    | none =>
      if command.isGroup && name = "help".toList && rest.isEmpty then .help else .unknownSubcommand

/-- Reads words. -/
def read (line : CommandLine) : List Text → Except UsageFault CommandLine
  | [] => line.settle
  | word :: rest =>
    if line.onlyValues then do (← line.takeOperand word).read rest
    else if line.wantsValue then do (← line.take word).read rest
    else match line.command.subcommand? word with
      | some command => read { command := command } rest
      | none =>
        if line.command.isGroup && word = "help".toList then .error (helpOn line.command rest)
        else do (← line.take word).read rest

/-- Adds values of the environment for parameters that are not given. -/
def addEnvironment (environment : List (Text × Text)) (line : CommandLine) :
    List Parameter → Except UsageFault CommandLine
  | [] => .ok line
  | parameter :: rest =>
    match line.has parameter, parameter.environment.bind (List.lookup · environment) with
    | false, some value => do
      (← line.add parameter [value]).addEnvironment environment rest
    | _, _ => line.addEnvironment environment rest

/-- The command line of some words, with the values of the environment. It ends with a command that
does something. -/
def ofWords (environment : List (Text × Text)) (words : List Text) :
    Except UsageFault CommandLine := do
  let line ← read { command := .program } words
  if !line.command.isGroup then line.addEnvironment environment line.command.parameters
  else if line.given.isEmpty then throw .nothingGiven
  else throw .subcommandMissing

/-- The values of a parameter, if it is given. -/
def values? (line : CommandLine) (name : Text) : Option (List Text) :=
  match line.given.filter (·.1.name = name) with
  | [] => none
  | found => some (found.flatMap (·.2))

/-- The value of a parameter, if it is given. -/
def value? (line : CommandLine) (name : Text) : Option Text :=
  (line.values? name).bind List.head?

end CommandLine

end Scaffold
