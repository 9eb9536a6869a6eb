import Scaffold.Backend.ClassName
import Scaffold.Text.Quoted

/-!
# Factory

Made-up records: a suitable value for every column that a request assigns, and records of other
entities for the keys.
-/
namespace Scaffold

/-- How a value is made up. -/
inductive MadeUp where
  /-- The key of some record of a model. -/
  | record (model : Text)
  /-- The keys of some records of a model. -/
  | records (model : Text)
  /-- One of the positions. -/
  | oneOf (positions : List Nat)
  /-- A number of the positions. -/
  | someOf (positions : List Nat) (count : Nat)
  /-- The value of an expression. -/
  | expression (code : Text)
deriving DecidableEq, Repr

namespace MadeUp

/-- The most records or positions that are made up for one field. -/
def limit : Nat := 2

/-- Numbers with a comma and a blank between neighbours. -/
def positionList (positions : List Nat) : Text := Text.commaList (positions.map Text.ofNat)

/-- The value in code. -/
def code : MadeUp → Text
  | record model => model ++ "::query()->inRandomOrder()->value('id')"
  | records model =>
    model ++ "::query()->inRandomOrder()->limit(" ++ Text.ofNat limit ++ ")->pluck('id')->all()"
  | oneOf positions => "fake()->randomElement([" ++ positionList positions ++ "])"
  | someOf positions count =>
    "fake()->randomElements([" ++ positionList positions ++ "], " ++ Text.ofNat count ++ ")"
  | expression code => code

/-- An expression for a value of a kind without options. -/
def ofKind : FieldKind → Text
  | .text => "fake()->sentence(3)"
  | .textarea => "fake()->paragraph()"
  | .richText => "'<p>'.fake()->paragraph().'</p>'"
  | .date => "fake()->date()"
  | .dateRange => "['start' => fake()->date(), 'end' => fake()->date()]"
  | .datetimeRange =>
    "['start' => fake()->dateTime()->format('Y-m-d\\TH:i'), " ++
      "'end' => fake()->dateTime()->format('Y-m-d\\TH:i')]"
  | .number => "fake()->numberBetween(1, 100)"
  | .currency => "fake()->randomFloat(2, 10, 10000)"
  | .rating => "fake()->numberBetween(1, 5)"
  | .slider => "[fake()->numberBetween(0, 100)]"
  | .switch => "fake()->boolean()"
  | .color => "fake()->hexColor()"
  | .phone => "fake()->phoneNumber()"
  | .tags => "fake()->words(3)"
  | _ => "null"

/-- The value of a field. A field without labels that has to have some is given the first
position. -/
def ofField (field : Field) : MadeUp :=
  match field.source? with
  | some (model, _) => if field.isMultiple then records model else record model
  | none =>
    let count := (field.labels?.getD []).length
    if field.kind.isEnumerable then
      if field.isMultiple then someOf (List.range (max count 1)) (min count limit)
      else oneOf (List.range (max count 1))
    else expression (ofKind field.kind)

end MadeUp

namespace Plan

/-- The classes that every factory uses. -/
def commonFactoryUses (plan : Plan) : List Text :=
  ["Illuminate\\Database\\Eloquent\\Factories\\Factory", plan.modelClass,
    plan.relatedClass "User"]

/-- The classes that the factory uses. -/
def factoryUses (plan : Plan) : List Text :=
  plan.commonFactoryUses ++
    plan.formRelations.map (fun relationship => plan.relatedClass relationship.target) ++
    plan.dynamicFields.filterMap fun field =>
      field.source?.map fun (model, _) => plan.relatedClass model

/-- The imports of the factory. -/
def factoryImports (plan : Plan) : List Text :=
  ClassName.importLines plan.factoryNamespace plan.factoryUses

/-- A column and its value in code. -/
def factoryLine (column value : Text) : Text := Text.quote column ++ " => " ++ value ++ ","

/-- The values of a made-up record. -/
def factoryLines (plan : Plan) : List Text :=
  ((plan.fields.filter (·.kind.isFormWritable)).map fun field =>
    factoryLine field.name (MadeUp.ofField field).code) ++
  (plan.formRelations.map fun relationship =>
    factoryLine relationship.foreignKey (relationship.target ++ "::factory()")) ++
  [factoryLine ownershipColumn (MadeUp.record "User").code]

end Plan

end Scaffold
