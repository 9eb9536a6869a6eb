import Scaffold.Code.Identifier
import Scaffold.Plan.Basic
import Scaffold.Text.Quoted

/-!
# Record lists

The controller hands lists of related records to the pages, one for every relationship that is
chosen or filtered by and one for every field whose options are records. The list of a dependent
relationship holds only the records that suit the chosen parent.
-/
namespace Scaffold

/-- A list of related records that the pages receive. -/
structure RecordList where
  /-- The name of the list in the pages. -/
  prop : Text
  /-- The model of the records. -/
  model : Text
  /-- The field that shows a record. -/
  shown : Text
  /-- What the list depends on. -/
  dependency : Option Dependency
deriving DecidableEq, Repr

namespace Plan

/-- The field that shows a record where none is named. -/
def defaultShown : Text := "name"

/-- The field that shows the records of a relationship: the first projected one. -/
def shownField (plan : Plan) (relationship : Relationship) : Text :=
  ((plan.projections.find? (·.relation == relationship.name)).map (·.field)).getD defaultShown

/-- The relationship of a filter. -/
def filterRelation? : Filter → Option Relationship
  | .relation relationship => some relationship
  | _ => none

/-- Relationships of filters behind those that are known, each name once. -/
def addRelations (known : List Relationship) : List Relationship → List Relationship
  | [] => known
  | relationship :: rest =>
    if known.any (·.name == relationship.name) then addRelations known rest
    else addRelations (known ++ [relationship]) rest

/-- Relationships whose records the pages list: those on the forms, then those of filters. -/
def listedRelations (plan : Plan) : List Relationship :=
  addRelations plan.formRelations (plan.filters.filterMap filterRelation?)

/-- The dependency in which a relationship is the child. -/
def dependencyOf? (plan : Plan) (name : Text) : Option Dependency :=
  plan.dependencies.find? (·.child.name == name)

/-- The record list of a relationship. -/
def relationList (plan : Plan) (relationship : Relationship) : RecordList :=
  { prop := Code.optionsName relationship.name
    model := relationship.target
    shown := plan.shownField relationship
    dependency := plan.dependencyOf? relationship.name }

/-- The record list of a field. -/
def fieldList? (field : Field) : Option RecordList :=
  field.source?.map fun (model, shown) =>
    { prop := Code.optionsName field.name, model, shown, dependency := none }

/-- The record lists of the pages. -/
def recordLists (plan : Plan) : List RecordList :=
  plan.listedRelations.map plan.relationList ++ plan.dynamicFields.filterMap fieldList?

/-- The names of the record lists. -/
def recordProps (plan : Plan) : List Text := plan.recordLists.map (·.prop)

/-- The variable of one record in the pages. -/
def pageRecord (plan : Plan) : Text := Code.pageVariable plan.names.record

end Plan

/-- Where the choices of a control come from. -/
structure ChoiceList where
  /-- The name of the list. -/
  list : Text
  /-- The field that shows a record, if the list holds records. -/
  shown : Option Text
deriving DecidableEq, Repr

/-- The expression of the choices, each with a value and a label. -/
def ChoiceList.code (choices : ChoiceList) : Text :=
  match choices.shown with
  | none => choices.list
  | some shown =>
    choices.list ++ ".map((option) => (\x7b value: option.id, label: String(option[" ++
      Text.quote shown ++ "]) \x7d))"

/-- The choices of a field. -/
def Field.choiceList (field : Field) : ChoiceList :=
  ⟨Code.optionsName field.name, field.source?.map (·.2)⟩

end Scaffold
