import Scaffold.Command.Line

/-!
# Descriptions of commands

What the program prints when it is asked for help, and what it says about a command line that is
not right.
-/
namespace Scaffold

/-- A parameter as it is written on a command line. -/
def Parameter.usage (parameter : Parameter) : Text :=
  let letter : Text := match parameter.letter with
    | some letter => ['-', letter, ',', ' ']
    | none => "    "
  let value : Text := if parameter.takesValue then " <VALUE>" else ""
  "  " ++ letter ++ "--" ++ parameter.name ++ value

namespace Command

/-- The words that lead to a command. -/
def words : Command → Text
  | program => "modforge"
  | generate => "modforge generate"
  | generateModule => "modforge generate module"
  | config => "modforge config"
  | configInit => "modforge config init"

/-- The first line of a description. -/
def summary (command : Command) : Text :=
  let operand : Text := if command.operand?.isSome then " [NAME]" else ""
  let below : Text := if command.isGroup then " <COMMAND>" else ""
  "Usage: " ++ command.words ++ " [OPTIONS]" ++ operand ++ below

/-- The commands below a command, if there are any. -/
def subcommandLines (command : Command) : List Text :=
  if command.isGroup then
    "Commands:".toList :: command.subcommands.map fun (name, _) => "  " ++ name
  else []

/-- The description of a command. -/
def usageLines (command : Command) : List Text :=
  command.summary :: command.subcommandLines ++
    "Options:".toList :: command.parameters.map Parameter.usage

/-- The descriptions of all commands that do something. -/
def helpLines : List Text := [program, generateModule, configInit].flatMap usageLines

end Command

/-- The version of the program. -/
def version : Text := "modforge 0.1.0"

/-- What is wrong with a command line, in words. -/
def UsageFault.message : UsageFault → Text
  | help => []
  | version => []
  | nothingGiven => "a command is missing"
  | subcommandMissing => "a command is missing"
  | unknownSubcommand => "there is no such command"
  | unknownArgument => "there is no such argument"
  | badValue => "a value is missing or not allowed"
  | surplusValue => "an argument that takes no value has one"
  | repeated => "an argument is given twice"

end Scaffold
