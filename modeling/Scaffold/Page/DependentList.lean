import Scaffold.Code.Layout
import Scaffold.Page.Declaration

/-!
# Dependent lists

The state of the lists on a form that depend on a chosen parent: such a list is fetched again
whenever another parent is chosen, and is empty while none is.
-/
namespace Scaffold

namespace Dependency

/-- The expression of the chosen parent's key. -/
def parentValue (dependency : Dependency) : Text := "data." ++ dependency.parent.foreignKey

/-- The address of the endpoint: its path with the chosen parent in place of the parameter. -/
def address (dependency : Dependency) : Text :=
  Text.replaceAll dependency.cascade.routePath (Text.braced dependency.cascade.parentParam)
    ('$' :: Text.braced dependency.parentValue)

/-- The function that sets the list. -/
def setter (dependency : Dependency) : Text :=
  "set" ++ Text.upperCamelCase dependency.cascade.state

/-- The record list that the list is at first. -/
def initialList (dependency : Dependency) : Text := Code.optionsName dependency.child.name

/-- The declaration of the list. -/
def stateLine (dependency : Dependency) : Text :=
  "const [" ++ dependency.cascade.state ++ ", " ++ dependency.setter ++ "] = useState<" ++
    recordOption ++ "[]>(" ++ dependency.initialList ++ ");"

/-- Fetching the list when the parent changes. -/
def fetchLines (dependency : Dependency) : List Text :=
  Code.block "useEffect(() => \x7b"
    (Code.braces ("if (" ++ dependency.parentValue ++ " === null)")
        [dependency.setter ++ "([]);", "return;"] ++
      ("fetch(`" ++ dependency.address ++ "`)") ::
      Code.deeper [".then((response) => response.json())",
        ".then((records: " ++ recordOption ++ "[]) => " ++ dependency.setter ++ "(records));"])
    ("\x7d, [" ++ dependency.parentValue ++ "]);")

/-- The list in code. -/
def listLines (dependency : Dependency) : List Text :=
  dependency.stateLine :: dependency.fetchLines

end Dependency

/-- The dependent lists of a form, in code. -/
def Plan.dependentListLines (plan : Plan) : List Text :=
  plan.dependencies.flatMap fun dependency => [] :: dependency.listLines

end Scaffold
