import Scaffold.Text.Basic

/-!
# Diagnostics

Nothing that is wrong with a schema or an option stops a generation: the entry is left out or
replaced by a default, and a diagnostic says why.
-/
namespace Scaffold

/-- Why an entry was left out or changed. -/
inductive DiagnosticKind where
  /-- A token without a name. -/
  | emptyToken
  /-- A field type that the catalog does not have. -/
  | unknownFieldType (declared : Text)
  /-- A second field of the same name. -/
  | duplicateField
  /-- A relationship without name, type or target. -/
  | malformedRelationship
  /-- A relationship type that does not exist. -/
  | unknownRelationKind (declared : Text)
  /-- A second relationship with the same key column. -/
  | duplicateForeignKey (foreignKey : Text)
  /-- A projection of a relationship that is not declared. -/
  | unresolvedProjection
  /-- A list column that is neither field nor projection. -/
  | unknownTableColumn
  /-- A field that is not declared. -/
  | unknownField
  /-- A filter by something without options. -/
  | notFilterable
  /-- A search in something that is not searched. -/
  | notSearchable
  /-- A field that takes the column of the owner. -/
  | reservedColumn
  /-- A parent that is not declared. -/
  | unknownCascadeParent (parent : Text)
  /-- Options of a field whose kind takes none. -/
  | optionsIgnored
deriving DecidableEq, Repr

/-- What was wrong with which entry. -/
structure Diagnostic where
  /-- The entry as it was written, or its name. -/
  token : Text
  /-- Why it was left out or changed. -/
  kind : DiagnosticKind
deriving DecidableEq, Repr

/-- The part of a diagnostic that the entry itself does not show. -/
def DiagnosticKind.detail? : DiagnosticKind → Option Text
  | unknownFieldType declared => some declared
  | unknownRelationKind declared => some declared
  | duplicateForeignKey foreignKey => some foreignKey
  | unknownCascadeParent parent => some parent
  | _ => none

/-- The diagnostic in words. -/
def Diagnostic.message (diagnostic : Diagnostic) : Text :=
  let named : Text := '\x60' :: diagnostic.token ++ "`: "
  match diagnostic.kind with
  | .emptyToken => "empty token skipped"
  | .unknownFieldType declared => named ++ "unknown field type '" ++ declared ++ "', using text"
  | .duplicateField => named ++ "duplicate field skipped"
  | .malformedRelationship =>
    named ++ "expected `name:type:Target[:foreignKey]`, relationship skipped"
  | .unknownRelationKind declared =>
    named ++ "unknown relationship type '" ++ declared ++ "', using belongsTo"
  | .duplicateForeignKey foreignKey =>
    named ++ "foreign key '" ++ foreignKey ++ "' already used, relationship skipped"
  | .unresolvedProjection => named ++ "no such relationship, projection skipped"
  | .unknownTableColumn => named ++ "not a field or projection, column skipped"
  | .unknownField => named ++ "no such field, skipped"
  | .notFilterable => named ++ "not enumerable or a relationship, filter skipped"
  | .notSearchable => named ++ "this field type cannot be searched, skipped"
  | .reservedColumn => named ++ "reserved ownership column, field skipped"
  | .unknownCascadeParent parent =>
    named ++ "cascade parent '" ++ parent ++ "' is not declared, ignored"
  | .optionsIgnored => named ++ "this field type takes no options, ignored"

end Scaffold
