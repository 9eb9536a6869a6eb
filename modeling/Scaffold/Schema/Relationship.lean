import Scaffold.Inflection
import Scaffold.Schema.Kind
import Scaffold.Text.Words

/-!
# Relationships

A declared relationship of an entity to another one, and the fields of related records that the
list page shows.
-/
namespace Scaffold

/-- How records of two entities belong together. -/
inductive RelationKind where
  /-- The record holds the key of one other record. -/
  | belongsTo
  /-- One other record holds the key of this one. -/
  | hasOne
  /-- Other records hold the key of this one. -/
  | hasMany
  /-- Records on both sides belong to several on the other. -/
  | belongsToMany
deriving DecidableEq, Repr

namespace RelationKind

/-- All kinds of relationships. -/
def all : List RelationKind := [belongsTo, hasOne, hasMany, belongsToMany]

/-- The name under which a kind is declared and reported. -/
def name : RelationKind → Text
  | belongsTo => "belongsTo"
  | hasOne => "hasOne"
  | hasMany => "hasMany"
  | belongsToMany => "belongsToMany"

/-- The kind of a name; the case of ASCII letters does not matter. -/
def ofText? (written : Text) : Option RelationKind :=
  all.find? fun kind => Text.lowerAscii kind.name = Text.lowerAscii written

end RelationKind

/-- A relationship of an entity. -/
structure Relationship where
  /-- Name of the relationship. -/
  name : Text
  /-- How the records belong together. -/
  kind : RelationKind
  /-- Class of the related entity. -/
  target : Text
  /-- Column that holds the key. -/
  foreignKey : Text
  /-- Table of the related entity. -/
  targetTable : Text
  /-- Relationship whose choice narrows this one's. -/
  dependsOn : Option Text
deriving DecidableEq, Repr

namespace Relationship

/-- The column that holds the key when none is declared. -/
def defaultForeignKey (name : Text) : Text := Text.snakeCase name ++ "_id"

/-- A relationship with its key and table derived from its name and target. -/
def ofTarget (name : Text) (kind : RelationKind) (target : Text) : Relationship :=
  { name, kind, target
    foreignKey := defaultForeignKey name
    targetTable := Inflection.pluralize (Text.snakeCase target)
    dependsOn := none }

/-- The words shown for the relationship. -/
def label (relationship : Relationship) : Text :=
  Text.labelFor (Text.snakeCase relationship.name)

/-- The related entity is the entity itself. -/
def isSelfReference (model : Text) (relationship : Relationship) : Bool :=
  relationship.target == model

/-- The key is a column of this entity. -/
def ownsForeignKey (relationship : Relationship) : Bool := relationship.kind == .belongsTo

end Relationship

/-- A field of a related record that the list page shows. -/
structure Projection where
  /-- Name of the relationship. -/
  relation : Text
  /-- Field of the related record. -/
  field : Text
deriving DecidableEq, Repr

namespace Projection

/-- The relation and the field with a point between them. -/
def key (projection : Projection) : Text := projection.relation ++ '.' :: projection.field

/-- The words shown for the projection. -/
def label (projection : Projection) : Text :=
  Text.labelFor (Text.snakeCase projection.relation) ++ ' ' :: Text.labelFor projection.field

end Projection

end Scaffold
