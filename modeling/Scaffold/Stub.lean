import Scaffold.Artifact
import Scaffold.Stub.Backend
import Scaffold.Stub.Pages

/-!
# Stubs

The templates that are used where a project has none of its own.
-/
namespace Scaffold

/-- The template of an artifact. -/
def Stub.ofArtifact : Artifact → Text
  | .migration => migration
  | .model => model
  | .controller => controller
  | .storeRequest => storeRequest
  | .updateRequest => updateRequest
  | .factory => factory
  | .listPage => listPage
  | .createPage => createPage
  | .editPage => editPage
  | .types => types
  | .detailDialog => detailDialog
  | .detailPage => detailPage

end Scaffold
