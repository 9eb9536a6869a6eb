import Scaffold.Text.Basic

/-!
# Commands and their parameters

The commands of the program form a tree: the program itself, groups of commands, and the commands
that do something. Each has its parameters; groups have further commands.
-/
namespace Scaffold

/-- What a parameter takes. -/
inductive ParameterKind where
  /-- Nothing: it is given or not. -/
  | flag
  /-- A text. -/
  | text
  /-- One of several texts. -/
  | oneOf (allowed : List Text)
  /-- Texts with commas between them; it may be given several times. -/
  | list
  /-- Nothing: it asks for the description of the command. -/
  | help
  /-- Nothing: it asks for the version of the program. -/
  | version
deriving DecidableEq, Repr

/-- A parameter of a command. -/
structure Parameter where
  /-- Its name, which stands behind two hyphens. -/
  name : Text
  /-- The letter that stands behind one hyphen. -/
  letter : Option Char := none
  /-- What it takes. -/
  kind : ParameterKind := .text
  /-- The variable of the environment that gives a value when the command line does not. -/
  environment : Option Text := none
deriving DecidableEq, Repr

namespace Parameter

/-- The parameter takes a value. -/
def takesValue (parameter : Parameter) : Bool :=
  match parameter.kind with
  | .text | .oneOf _ | .list => true
  | .flag | .help | .version => false

end Parameter

/-- A command. -/
inductive Command where
  /-- The program. -/
  | program
  /-- The commands that generate. -/
  | generate
  /-- Generates a module. -/
  | generateModule
  /-- The commands on the configuration. -/
  | config
  /-- Makes a configuration file. -/
  | configInit
deriving DecidableEq, Repr

namespace Command

/-- The commands below a command, by name. -/
def subcommands : Command → List (Text × Command)
  | program => [("generate".toList, generate), ("config".toList, config)]
  | generate => [("module".toList, generateModule)]
  | config => [("init".toList, configInit)]
  | generateModule => []
  | configInit => []

/-- The command of a name below a command. -/
def subcommand? (command : Command) (name : Text) : Option Command :=
  command.subcommands.lookup name

/-- The command does nothing itself. -/
def isGroup (command : Command) : Bool := !command.subcommands.isEmpty

/-- The parameters that all commands have. -/
def sharedParameters : List Parameter :=
  [{ name := "verbose", letter := some 'v', kind := .flag },
    { name := "help", letter := some 'h', kind := .help }]

/-- The parameters of a module. -/
def moduleParameters : List Parameter :=
  [{ name := "fields", letter := some 'f' },
    { name := "relationships", letter := some 'r' },
    { name := "table-relationships" },
    { name := "table-columns", kind := .list },
    { name := "searchable", letter := some 's', kind := .list },
    { name := "filterable", kind := .list },
    { name := "icon" },
    { name := "view-mode", kind := .oneOf ["modal", "page"] },
    { name := "package", letter := some 'p' },
    { name := "system-setup" },
    { name := "inference"
      kind := .oneOf ["adjacent", "containment", "explicit"]
      environment := some "MODFORGE_INFERENCE" },
    { name := "config", letter := some 'c' },
    { name := "root", environment := some "MODFORGE_ROOT" },
    { name := "stubs", environment := some "MODFORGE_STUBS" },
    { name := "dry-run", kind := .flag }]

/-- The parameters of a command. -/
def parameters : Command → List Parameter
  | program => { name := "version", letter := some 'V', kind := .version } :: sharedParameters
  | generate => sharedParameters
  | generateModule => moduleParameters ++ sharedParameters
  | config => sharedParameters
  | configInit => { name := "force", kind := .flag } :: sharedParameters

/-- The parameter that stands on the command line without a name. -/
def operand? : Command → Option Parameter
  | generateModule => some { name := "name" }
  | _ => none

/-- The parameter of a name. -/
def named? (command : Command) (name : Text) : Option Parameter :=
  command.parameters.find? (·.name = name)

/-- The parameter of a letter. -/
def lettered? (command : Command) (letter : Char) : Option Parameter :=
  command.parameters.find? (·.letter = some letter)

end Command

end Scaffold
