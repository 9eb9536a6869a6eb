import Scaffold.Command.Line
import Scaffold.Settings.JsonObject

/-!
# Invocations

What the program is asked to do, as data.
-/
namespace Scaffold

/-- A command with all it needs to know. -/
inductive Invocation where
  /-- Generates a module: its settings, the file with further ones, and whether files are left as
  they are. -/
  | generateModule (settings : Settings) (file : Option FilePath) (dryRun : Bool)
  /-- Makes a configuration file, also if there is one. -/
  | configInit (force : Bool)
deriving DecidableEq, Repr

namespace CommandLine

/-- The settings on a command line. -/
def settings (line : CommandLine) : Settings :=
  { name := line.value? "name"
    fields := line.value? "fields"
    relationships := line.value? "relationships"
    projections := line.value? "table-relationships"
    tableColumns := line.values? "table-columns"
    searchable := line.values? "searchable"
    filterable := line.values? "filterable"
    icon := line.value? "icon"
    viewMode := line.value? "view-mode"
    package := line.value? "package"
    systemSetup := line.value? "system-setup"
    inference := line.value? "inference"
    root := line.value? "root"
    templates := line.value? "stubs" }

end CommandLine

namespace Invocation

/-- What the words of a command line ask for. -/
def ofWords (environment : List (Text × Text)) (words : List Text) :
    Except UsageFault Invocation := do
  let line ← CommandLine.ofWords environment words
  match line.command with
  | .generateModule =>
    return .generateModule line.settings (line.value? "config") (line.values? "dry-run").isSome
  | .configInit => return .configInit (line.values? "force").isSome
  | _ => throw .subcommandMissing

end Invocation

end Scaffold
