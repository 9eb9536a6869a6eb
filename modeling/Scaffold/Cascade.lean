import Scaffold.Schema.Relationship
import Scaffold.Text.Search

/-!
# Cascades

A choice of one related record may narrow the choice of another: a category narrows its
subcategories. Which relationships of an entity depend on which is inferred here, and with it the
endpoint that lists the children of a parent. The inference has three modes, of which each finds
what a stricter one finds.
-/
namespace Scaffold

/-- Which neighbouring relationships depend on each other where no parent is declared. -/
inductive InferenceMode where
  /-- Every relationship depends on the one before it. -/
  | adjacent
  /-- It does so when a name or target of the one before occurs in its own. -/
  | containment
  /-- Only declared parents count. -/
  | explicit
deriving DecidableEq, Repr

namespace InferenceMode

/-- All modes. -/
def all : List InferenceMode := [adjacent, containment, explicit]

/-- The name of a mode. -/
def name : InferenceMode → Text
  | adjacent => "adjacent"
  | containment => "containment"
  | explicit => "explicit"

/-- The mode with exactly this name. -/
def ofName? (written : Text) : Option InferenceMode := Text.named? all name written

/-- The mode of a name; the case of ASCII letters does not matter. -/
def ofText? (written : Text) : Option InferenceMode := ofName? (Text.lowerAscii written)

/-- The mode that is used when none is given. -/
def standard : InferenceMode := containment

end InferenceMode

/-- What the pages and the routes need for one cascade. -/
structure Cascade where
  /-- Method of the controller that lists the children. -/
  endpoint : Text
  /-- Variable of the pages that holds the children. -/
  state : Text
  /-- Name of the route. -/
  routeName : Text
  /-- Path of the route, with the parent between braces. -/
  routePath : Text
  /-- Name of the parent in the route. -/
  parentParam : Text
  /-- Column of the child's table that holds the parent. -/
  childParentColumn : Text
deriving DecidableEq, Repr

/-- A relationship whose choice depends on another one. -/
structure Dependency where
  /-- The relationship that is chosen first. -/
  parent : Relationship
  /-- The relationship that depends on it. -/
  child : Relationship
  /-- What wires the two. -/
  cascade : Cascade
deriving DecidableEq, Repr

namespace Cascade

/-- The cascade of a child that depends on a parent, for an entity served under `route`. -/
def between (parent child : Relationship) (route : Text) : Cascade :=
  let children := Inflection.pluralize (Text.snakeCase child.target)
  let owner := Text.snakeCase parent.target
  let segment := Text.kebabCase children ++ "-by-" ++ Text.kebabCase owner
  let parentParam := Text.lowerCamelCase parent.name
  { endpoint := "get" ++ Text.upperCamelCase children ++ "By" ++ Text.upperCamelCase owner
    state := Text.lowerCamelCase children
    routeName := route ++ '.' :: segment
    routePath := '/' :: route ++ '/' :: segment ++ '/' :: Text.braced parentParam
    parentParam
    childParentColumn := owner ++ "_id" }

end Cascade

namespace Dependency

/-- A relationship that takes part in cascades: it owns its key and leads to another entity. -/
def eligible (model : Text) (relationship : Relationship) : Bool :=
  relationship.ownsForeignKey && !relationship.isSelfReference model

/-- A name or target of the parent occurs, in lower case, in another one of the child. -/
def namesContain (child parent : Relationship) : Bool :=
  let childNames := [Text.lower child.name, Text.lower child.target]
  let parentNames := [Text.lower parent.name, Text.lower parent.target]
  childNames.any fun c => parentNames.any fun p => c != p && Text.occursIn p c

/-- The parent of a relationship among all of them, given the one before it. -/
def parent? (all : List Relationship) (mode : InferenceMode) (previous : Option Relationship)
    (child : Relationship) : Option Relationship :=
  match child.dependsOn with
  | some name => all.find? (·.name == name)
  | none =>
    match mode with
    | .explicit => none
    | .adjacent => previous
    | .containment => previous.filter (namesContain child)

/-- The dependency of one relationship, given the one before it. -/
def of? (all : List Relationship) (model route : Text) (mode : InferenceMode)
    (previous : Option Relationship) (child : Relationship) : Option Dependency :=
  if eligible model child then
    ((parent? all mode previous child).filter (eligible model)).map fun parent =>
      { parent, child, cascade := Cascade.between parent child route }
  else none

/-- Every relationship with the one before it. -/
def withPrevious (all : List Relationship) : List (Option Relationship × Relationship) :=
  (none :: all.map some).zip all

/-- The dependencies among the relationships of the entity `model`, served under `route`. -/
def infer (all : List Relationship) (model route : Text) (mode : InferenceMode) :
    List Dependency :=
  (withPrevious all).filterMap fun (previous, child) => of? all model route mode previous child

end Dependency

end Scaffold
