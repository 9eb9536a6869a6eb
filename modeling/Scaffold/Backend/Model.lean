import Scaffold.Backend.ClassName
import Scaffold.Code.Layout
import Scaffold.Text.Quoted

/-!
# Model

The parts of the model class: what it imports, which columns a request assigns, how values are
converted, and its methods, one for every relationship and some for uploaded files.
-/
namespace Scaffold

namespace RelationKind

/-- The class of a relationship of this kind. -/
def className : RelationKind → Text
  | belongsTo => "BelongsTo"
  | hasOne => "HasOne"
  | hasMany => "HasMany"
  | belongsToMany => "BelongsToMany"

end RelationKind

namespace Relationship

/-- The method of the model that follows the relationship. -/
def method (relationship : Relationship) : Text := Text.lowerCamelCase relationship.name

/-- The key column stands in the call that makes the relationship. Without it the framework looks
for the column of the method's name. -/
def namesKey (relationship : Relationship) : Bool :=
  match relationship.kind with
  | .belongsTo => true
  | .belongsToMany => false
  | .hasOne => relationship.foreignKey != relationship.name ++ "_id"
  | .hasMany => relationship.foreignKey != relationship.name ++ "_id"

/-- The method in code. -/
def methodLines (relationship : Relationship) : List Text :=
  let key : Text :=
    if relationship.namesKey then ", " ++ Text.quote relationship.foreignKey else []
  Code.body
    ("public function " ++ relationship.method ++ "(): " ++ relationship.kind.className)
    ["return $this->" ++ relationship.kind.name ++ '(' :: relationship.target ++ "::class" ++
      key ++ ");"]

end Relationship

namespace Field

/-- The method of the model that gives the uploaded files of a field. -/
def mediaAccessor (field : Field) : Text :=
  "get" ++ Text.upperCamelCase field.name ++ "Attribute"

end Field

namespace Model

/-- The shape of an uploaded file. -/
def mediaShape : Text := "array\x7bid: int, name: string, url: string\x7d"

/-- The line that declares the collection of a field. -/
def collectionLine (field : Field) : Text :=
  let single : Text := if field.kind = .mediaSingle then "->singleFile()" else []
  "$this->addMediaCollection(" ++ Text.quote field.name ++ ")" ++ single ++ ";"

/-- The method that gives the uploaded files of a field, in code. -/
def accessorLines (field : Field) : List Text :=
  let collection := Text.quote field.name
  if field.kind = .mediaSingle then
    Code.docComment ("@return " ++ mediaShape ++ "|null") ++
      Code.body ("public function " ++ field.mediaAccessor ++ "(): ?array")
        ["$media = $this->getFirstMedia(" ++ collection ++ ");", [],
          "return $media ? self::mediaItem($media) : null;"]
  else
    Code.docComment ("@return list<" ++ mediaShape ++ ">") ++
      Code.body ("public function " ++ field.mediaAccessor ++ "(): array")
        ["return $this->getMedia(" ++ collection ++
          ")->map(fn ($media) => self::mediaItem($media))->values()->all();"]

/-- The method that gives one uploaded file, in code. -/
def mediaItemLines : List Text :=
  Code.docComment ("@return " ++ mediaShape) ++
    Code.body
      ("private static function mediaItem" ++
        "(\\Spatie\\MediaLibrary\\MediaCollections\\Models\\Media $media): array")
      ["return ['id' => $media->id, 'name' => $media->file_name, 'url' => $media->getUrl()];"]

/-- A property that holds a list of names, in code. -/
def nameListLines (property : Text) (names : List Text) : List Text :=
  Code.docComment "@var list<string>" ++
    ["protected $" ++ property ++ " = " ++ Code.list (names.map Text.quote) ++ ";"]

end Model

namespace Plan

/-- The classes that every model uses. -/
def commonModelUses (plan : Plan) : List Text :=
  ["Illuminate\\Database\\Eloquent\\Factories\\HasFactory",
    "Illuminate\\Database\\Eloquent\\Model",
    "Illuminate\\Database\\Eloquent\\Relations\\BelongsTo", plan.relatedClass "User"]

/-- The classes that the method of a relationship uses. -/
def relationUses (plan : Plan) (relationship : Relationship) : List Text :=
  ["Illuminate\\Database\\Eloquent\\Relations\\" ++ relationship.kind.className,
    plan.relatedClass relationship.target]

/-- The classes that the model uses. -/
def modelUses (plan : Plan) : List Text :=
  plan.commonModelUses ++ plan.relationships.flatMap plan.relationUses ++
    (if plan.package.isSome then [plan.factoryClass] else []) ++
    (if plan.hasMedia then
      ["Spatie\\MediaLibrary\\HasMedia".toList,
        "Spatie\\MediaLibrary\\InteractsWithMedia".toList]
    else [])

/-- The imports of the model. -/
def modelImports (plan : Plan) : List Text :=
  ClassName.importLines plan.modelNamespace plan.modelUses

/-- The interfaces of the model, behind its name. -/
def modelInterfaces (plan : Plan) : Text := if plan.hasMedia then " implements HasMedia" else []

/-- The traits of the model. -/
def modelTraits (plan : Plan) : Text :=
  if plan.hasMedia then "use HasFactory, InteractsWithMedia;" else "use HasFactory;"

/-- The columns that a request assigns, in code. -/
def fillableLines (plan : Plan) : List Text :=
  plan.fillable.map fun column => Text.quote column ++ ","

/-- The conversions, in code. -/
def castLines (plan : Plan) : List Text :=
  plan.casts.map fun (column, cast) =>
    Text.quote column ++ " => " ++ Text.quote cast.name ++ ","

/-- The attributes that stand for uploaded files, in code. -/
def appendLines (plan : Plan) : List Text :=
  if plan.hasMedia then
    [] :: Model.nameListLines "appends" (plan.mediaFields.map (·.name)) ++
      [] :: Model.nameListLines "hidden" ["media"]
  else []

/-- The method that names the factory of a package, in code. -/
def factoryMethodLines (plan : Plan) : List Text :=
  if plan.package.isSome then
    let factory := plan.names.model ++ "Factory"
    Code.below <| Code.body ("protected static function newFactory(): " ++ factory)
      ["return " ++ factory ++ "::new();"]
  else []

/-- The relationship methods, in code. -/
def relationLines (plan : Plan) : List Text :=
  Code.below (plan.relationships.flatMap Relationship.methodLines)

/-- The methods for uploaded files, in code. -/
def mediaMethodLines (plan : Plan) : List Text :=
  if plan.hasMedia then
    Code.below
        (Code.body "public function registerMediaCollections(): void"
          (plan.mediaFields.map Model.collectionLine)) ++
      (plan.mediaFields.flatMap fun field => [] :: Model.accessorLines field) ++
      [] :: Model.mediaItemLines
  else []

/-- The names of the methods that the model declares. -/
def modelMethods (plan : Plan) : List Text :=
  (if plan.package.isSome then ["newFactory".toList] else []) ++ ["creator".toList] ++
    plan.relationships.map (·.method) ++
    (if plan.hasMedia then
      "registerMediaCollections".toList :: plan.mediaFields.map (·.mediaAccessor) ++
        ["mediaItem".toList]
    else [])

end Plan

end Scaffold
