import Scaffold.Artifact.Fragment
import Scaffold.Failure
import Scaffold.Stub

/-!
# Output of a plan

The artifacts of a plan with their contents. A template comes from the stubs or from a directory
of the project; where it cannot be read, only the artifact made from it is missing.
-/
namespace Scaffold

/-- Where templates come from. -/
inductive TemplateSource where
  /-- The stubs. -/
  | stubs
  /-- A directory alone. -/
  | directory (path : FilePath)
  /-- A directory, and the stubs for what it lacks. -/
  | overlay (path : FilePath)
deriving DecidableEq, Repr

namespace TemplateSource

/-- The template of an artifact in a directory, if there is one. -/
def inDirectory (tree : Tree) (start : Location) (path : FilePath) (artifact : Artifact) :
    Except Failure (Option Text) :=
  let file := FilePath.join path artifact.stubName
  if tree.isFile start file then (Failure.onFile file (tree.readText start file)).map some
  else .ok none

/-- The template of an artifact. -/
def load (source : TemplateSource) (tree : Tree) (start : Location) (artifact : Artifact) :
    Except Failure Text :=
  match source with
  | stubs => .ok (Stub.ofArtifact artifact)
  | directory path => do
    match ← inDirectory tree start path artifact with
    | some template => return template
    | none => throw (.templateMissing artifact.stubName)
  | overlay path => do
    match ← inDirectory tree start path artifact with
    | some template => return template
    | none => return Stub.ofArtifact artifact

end TemplateSource

/-- An artifact with its content. -/
structure OutputFile where
  /-- The artifact. -/
  artifact : Artifact
  /-- Its path below the root of the project. -/
  path : FilePath
  /-- Its content. -/
  content : Text
deriving DecidableEq, Repr

/-- An artifact that has no content. -/
structure OutputFailure where
  /-- The artifact. -/
  artifact : Artifact
  /-- Why it has none. -/
  failure : Failure
deriving DecidableEq, Repr

/-- What a plan makes. -/
structure Output where
  /-- The artifacts with a content. -/
  files : List OutputFile
  /-- The other artifacts. -/
  failures : List OutputFailure
deriving DecidableEq, Repr

namespace Plan

/-- The output for an artifact. -/
def outputFile (plan : Plan) (source : TemplateSource) (tree : Tree) (start : Location)
    (artifact : Artifact) : Except OutputFailure OutputFile :=
  match source.load tree start artifact with
  | .ok template => .ok ⟨artifact, artifact.path plan, artifact.content plan template⟩
  | .error failure => .error ⟨artifact, failure⟩

/-- The output for several artifacts. -/
def outputOf (plan : Plan) (source : TemplateSource) (tree : Tree) (start : Location)
    (artifacts : List Artifact) : Output :=
  let made := artifacts.map (plan.outputFile source tree start)
  { files := made.filterMap (·.toOption)
    failures := made.filterMap fun
      | .ok _ => none
      | .error failure => some failure }

/-- The output of a plan. -/
def output (plan : Plan) (source : TemplateSource) (tree : Tree) (start : Location) : Output :=
  plan.outputOf source tree start (Artifact.ofPlan plan)

end Plan

end Scaffold
