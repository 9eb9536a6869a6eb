import Scaffold.Inflection
import Scaffold.Text.Words

/-!
# Names of an entity

Every name that the generated files use for an entity comes from its display name, which is free
text in any casing and number.
-/
namespace Scaffold

/-- The names of an entity in all casings and both numbers. -/
structure Names where
  /-- Class name. -/
  model : Text
  /-- Class name in the plural. -/
  modelPlural : Text
  /-- Variable holding one record. -/
  record : Text
  /-- Variable holding several records. -/
  records : Text
  /-- Words for people. -/
  label : Text
  /-- Words for people, in the plural. -/
  labelPlural : Text
  /-- Lowercase words with underscores. -/
  snake : Text
  /-- Database table. -/
  table : Text
  /-- Path and route name. -/
  route : Text
  /-- Path and route name in the singular. -/
  routeSingular : Text
deriving DecidableEq, Repr

/-- The names derived from a display name. -/
def Names.ofDisplayName (displayName : Text) : Names :=
  let snake := Inflection.singularize (Text.snakeCase (Text.upperCamelCase (Text.trim displayName)))
  let table := Inflection.pluralize snake
  { model := Text.upperCamelCase snake
    modelPlural := Text.upperCamelCase table
    record := Text.lowerCamelCase snake
    records := Text.lowerCamelCase table
    label := Text.labelFor snake
    labelPlural := Text.labelFor table
    snake
    table
    route := Text.kebabCase table
    routeSingular := Text.kebabCase snake }

end Scaffold
