import Scaffold.Plan.Basic
import Scaffold.Text.Order

/-!
# Class names

Classes are named with their namespace, and a file imports the classes of other namespaces that it
uses.
-/
namespace Scaffold

namespace Plan

/-- The namespace of the model. -/
def modelNamespace (plan : Plan) : Text := plan.namespaceName ++ "\\Models"

/-- The namespace of the controller. -/
def controllerNamespace (plan : Plan) : Text := plan.namespaceName ++ "\\Http\\Controllers"

/-- The namespace of the requests. -/
def requestNamespace (plan : Plan) : Text := plan.namespaceName ++ "\\Http\\Requests"

/-- The namespace of the factory. -/
def factoryNamespace (plan : Plan) : Text :=
  match plan.package with
  | some scope => "Packages\\" ++ scope.namespaceName ++ "\\Database\\Factories"
  | none => "Database\\Factories"

/-- The class of a related entity. It lies beside the generated model, but users belong to the
application. -/
def relatedClass (plan : Plan) (model : Text) : Text :=
  if model = "User" then "App\\Models\\User" else plan.namespaceName ++ "\\Models\\" ++ model

/-- The class of the factory. -/
def factoryClass (plan : Plan) : Text :=
  plan.factoryNamespace ++ '\\' :: plan.names.model ++ "Factory"

end Plan

namespace ClassName

/-- The namespace of a class. -/
def namespaceOf? (name : Text) : Option Text := (Text.splitLast? '\\' name).map (·.1)

/-- The classes that a file of a namespace imports, in order and each once. -/
def imported (ownNamespace : Text) (used : List Text) : List Text :=
  Text.sortedDistinct (used.filter fun name => namespaceOf? name != some ownNamespace)

/-- The import of a class. -/
def importLine (name : Text) : Text := "use " ++ name ++ ";"

/-- The imports of a file. -/
def importLines (ownNamespace : Text) (used : List Text) : List Text :=
  (imported ownNamespace used).map importLine

end ClassName

end Scaffold
