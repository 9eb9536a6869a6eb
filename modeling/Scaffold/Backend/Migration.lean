import Scaffold.Plan.Basic
import Scaffold.Text.Quoted

/-!
# Migration

The table of an entity: a column for every field that is stored in it and a key column for every
relationship that needs one, between the columns that every table has.
-/
namespace Scaffold

/-- What a column holds. -/
inductive ColumnType where
  /-- The key of another record. -/
  | recordKey
  /-- A value of the given shape. -/
  | stored (storage : Storage)
deriving DecidableEq, Repr

/-- What a column holds when nothing is given. -/
inductive ColumnDefault where
  /-- A value must be given. -/
  | required
  /-- Nothing. -/
  | null
  /-- The truth value false. -/
  | no
deriving DecidableEq, Repr

/-- A column of a field. -/
structure Column where
  /-- Name of the column. -/
  name : Text
  /-- What it holds. -/
  type : ColumnType
  /-- What it holds when nothing is given. -/
  default : ColumnDefault
deriving DecidableEq, Repr

namespace Column

/-- The shape of the column of a field. -/
def typeOf (field : Field) : ColumnType :=
  if field.isMultiple then .stored .json
  else if field.hasRecords then .recordKey
  else .stored field.facts.storage

/-- What the column of a field holds when nothing is given. -/
def defaultOf (field : Field) : ColumnDefault :=
  if field.nullable then .null
  else if field.facts.storage = .boolean then .no
  else .required

/-- The column of a field, unless its value is kept elsewhere. -/
def ofField? (field : Field) : Option Column :=
  let column : Column := ⟨field.name, typeOf field, defaultOf field⟩
  if column.type = .stored .external then none else some column

/-- A column has the name of its field. -/
theorem name_eq_of_ofField? {field : Field} {column : Column} (made : ofField? field = some column) :
    column.name = field.name := by
  simp only [ofField?, Option.ite_none_left_eq_some, Option.some.injEq] at made
  rw [← made.2]

/-- The call that declares a column, with the arguments behind its name. -/
def call : ColumnType → Text × List Text
  | .recordKey => ("unsignedBigInteger", [])
  | .stored (.string length) => ("string", if length = 255 then [] else [Text.ofNat length])
  | .stored .text => ("text", [])
  | .stored .longText => ("longText", [])
  | .stored .json => ("json", [])
  | .stored .date => ("date", [])
  | .stored .integer => ("integer", [])
  | .stored .unsignedTinyInteger => ("unsignedTinyInteger", [])
  | .stored (.decimal precision scale) => ("decimal", [Text.ofNat precision, Text.ofNat scale])
  | .stored .boolean => ("boolean", [])
  | .stored .external => ([], [])

/-- The call behind a declaration that sets what a column holds when nothing is given. -/
def defaultCall : ColumnDefault → Text
  | .required => []
  | .null => "->nullable()"
  | .no => "->default(false)"

/-- The line that declares a column. -/
def line (column : Column) : Text :=
  let (method, arguments) := call column.type
  "$table->" ++ method ++ '(' :: Text.commaList (Text.quote column.name :: arguments) ++ ")" ++
    defaultCall column.default ++ ";"

end Column

/-- The line that declares the key column of a relationship. -/
def Relationship.keyLine (relationship : Relationship) : Text :=
  "$table->foreignId(" ++ Text.quote relationship.foreignKey ++ ")->nullable()->constrained(" ++
    Text.quote relationship.targetTable ++ ")->nullOnDelete();"

namespace Plan

/-- The columns of the fields. -/
def columns (plan : Plan) : List Column := plan.fields.filterMap Column.ofField?

/-- The lines that declare the columns of the fields. -/
def columnLines (plan : Plan) : List Text := plan.columns.map Column.line

/-- The lines that declare the key columns. -/
def keyLines (plan : Plan) : List Text := plan.foreignKeys.map Relationship.keyLine

/-- The names of all columns of the table, in the order of their declaration. -/
def columnNames (plan : Plan) : List Text :=
  "id".toList :: plan.columns.map (·.name) ++ plan.foreignKeys.map (·.foreignKey) ++
    [ownershipColumn, "created_at".toList, "updated_at".toList]

end Plan

end Scaffold
