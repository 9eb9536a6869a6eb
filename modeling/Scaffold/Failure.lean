import Scaffold.Project.Tree
import Scaffold.Registry.Anchor

/-!
# Failures

What stops a generation. Faults of a schema do not: they end up in the diagnostics of the plan.
-/
namespace Scaffold

/-- Why a generation stops. -/
inductive Failure where
  /-- A file operation failed. -/
  | file (path : FilePath) (fault : FileFault)
  /-- A template is missing. -/
  | templateMissing (stub : Text)
  /-- A configuration is not well formed. -/
  | configuration
  /-- An anchor has no place to look for. -/
  | anchor (fault : AnchorFault)
  /-- An option has a value that it cannot have. -/
  | option (name value : Text)
deriving DecidableEq, Repr

/-- A failure in words. -/
def Failure.message : Failure → Text
  | file path fault => "I/O error on `" ++ path ++ "`: " ++ fault.message
  | templateMissing stub => "Template `" ++ stub ++ "` not found"
  | configuration => "Invalid configuration"
  | anchor (.malformed pattern) => "Invalid anchor pattern `" ++ pattern ++ "`"
  | anchor .insideCharacter => "Anchor inside a character"
  | option name value => "Unsupported option value '" ++ value ++ "' for " ++ name

/-- Names the path of a file operation that failed. -/
def Failure.onFile {α : Type} (path : FilePath) : Except FileFault α → Except Failure α
  | .ok value => .ok value
  | .error fault => .error (.file path fault)

end Scaffold
