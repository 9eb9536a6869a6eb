import Scaffold.Artifact.Fragment
import Scaffold.Proofs.Code.Reading
import Scaffold.Proofs.Names
import Scaffold.Proofs.Text.Plain
import Scaffold.Stub

/-!
# The methods of a model

The class of a model declares the method of the owner, one for every relationship, and some for a
factory and for uploaded files (`Plan.modelMethods`). They are read back from the rendered class
(`Plan.declaredMethods_content`). The methods that every such class has are distinct from each other
and from all accessors, so all methods are distinct exactly if those of the relationships and the
accessors are distinct and apart from the rest (`Plan.MethodsApart`).
-/
namespace Scaffold

open Text Code Template

namespace Stub

/-- The tokens of the model with other text on their lines. -/
def modelTokens : List Placeholder := [.modelNamespace, .modelName, .modelInterfaces, .tableName]

/-- How the lines of the model are read. -/
theorem model_readings : ∃ lines, model = Code.written lines ∧
    (lines.map fun line => methods.lineReading modelTokens line.toList).filter (· ≠ .names []) =
      [.value .modelImports, .value .modelTraits, .value .fillable, .value .casts,
        .value .modelAppends, .value .modelFactoryMethod, .names ["creator".toList],
        .value .modelRelations, .value .modelMediaMethods] := by
  refine ⟨_, rfl, ?_⟩
  simp only [List.map_cons, List.map_nil, Reader.lineReading_eq]
  -- The lines are read from their characters, for a literal is slow to take apart.
  simp (disch := exact rfl) only [Text.toList_literal, -String.reduceToList]
  decide +kernel

end Stub

namespace Text

/-- A list is one row if its parts are. -/
theorem feed_notMem_commaList {parts : List Text} (single : ∀ part ∈ parts, '\n' ∉ part) :
    '\n' ∉ commaList parts := by
  intro inside
  rcases mem_joinWith inside with between | ⟨part, listed, here⟩
  · exact absurd between (by decide)
  · exact single part listed here

/-- So is a list of literals. -/
theorem feed_notMem_quoteList {names : List Text} (single : ∀ name ∈ names, '\n' ∉ name) :
    '\n' ∉ quoteList names := by
  refine feed_notMem_commaList fun part listed => ?_
  obtain ⟨name, member, rfl⟩ := List.mem_map.mp listed
  exact notMem_quote (by decide) (by decide) (single name member)

end Text

/-- No import is a method. -/
theorem ClassName.declaredMethods_importLines {ownNamespace : Text} {used : List Text}
    (single : ∀ name ∈ used, '\n' ∉ name) :
    (importLines ownNamespace used).flatMap methods.declared = [] := by
  refine List.flatMap_eq_nil_iff.mpr fun line listed => ?_
  obtain ⟨name, imported, rfl⟩ := List.mem_map.mp listed
  have own : name ∈ used := (List.mem_filter.mp (mem_sortedDistinct.mp imported)).1
  unfold importLine
  rw [List.append_assoc]
  refine methods.declared_literal (by decide) ?_
  rw [List.mem_append, not_or]
  exact ⟨single name own, notMem_toList (by decide)⟩

example : methods.declared "use App\\Models\\User;" = [] := by decide +kernel

namespace Model

variable {name : Text} {names : List Text}

/-- A list of names is one row if no name breaks its line. -/
theorem feed_notMem_list (single : ∀ name ∈ names, '\n' ∉ name) :
    '\n' ∉ Code.list (names.map quote) := by
  rw [Code.list, List.mem_append, List.mem_cons, not_or, not_or]
  exact ⟨⟨by decide, feed_notMem_quoteList single⟩, by decide⟩

/-- A property that holds a list of names is no method. -/
theorem declaredMethods_nameListLines {property : Text} (plain : '\n' ∉ property)
    (single : ∀ name ∈ names, '\n' ∉ name) :
    (nameListLines property names).flatMap methods.declared = [] := by
  have comment : (Code.docComment "@var list<string>").flatMap methods.declared = [] := by
    unfold docComment
    simp (disch := exact rfl) only [Text.toList_literal, -String.reduceToList]
    decide +kernel
  have whole : '\n' ∉ "protected $" ++ property ++ " = " ++ Code.list (names.map quote) ++ ";" := by
    simp only [List.mem_append, not_or]
    exact ⟨⟨⟨⟨notMem_toList (by decide), plain⟩, notMem_toList (by decide)⟩, feed_notMem_list single⟩, notMem_toList (by decide)⟩
  rw [nameListLines, List.flatMap_append, comment, List.flatMap_singleton, List.nil_append,
    methods.declared_of_notMem whole]
  simp only [List.append_assoc]
  rfl

/-- A literal in code is one row if its text is. -/
theorem feed_notMem_quote (single : '\n' ∉ name) : '\n' ∉ quote name :=
  notMem_quote (by decide) (by decide) single

/-- A line that begins with a literal is no method. -/
theorem declaredMethods_quoted {rest : Text} (single : '\n' ∉ name) (whole : '\n' ∉ rest) :
    methods.declared (quote name ++ rest) = [] := by
  have literal := feed_notMem_quote single
  rw [quote, List.mem_append, List.mem_cons, not_or, not_or] at literal
  have parts : quote name ++ rest = ['\''] ++ (name.flatMap escapeChar ++ ['\''] ++ rest) := by
    simp only [quote, List.append_assoc, List.cons_append, List.nil_append]
  rw [parts]
  refine methods.declared_quiet (by decide) ?_
  rw [List.mem_append, List.mem_append, not_or, not_or]
  exact ⟨⟨literal.1.2, literal.2⟩, whole⟩

/-- The line of a collection is no method. -/
theorem declaredMethods_collectionLine {field : Field} (single : '\n' ∉ field.name) :
    methods.declared (collectionLine field) = [] := by
  have endings : ∀ only : Bool, '\n' ∉ (if only then "->singleFile()".toList else []) := by decide
  have ending : '\n' ∉ (if field.kind = .mediaSingle then "->singleFile()".toList else []) := by
    simpa only [decide_eq_true_eq] using endings (decide (field.kind = .mediaSingle))
  unfold collectionLine
  simp only [List.append_assoc]
  refine methods.declared_literal (by decide) ?_
  simp only [List.mem_append, not_or]
  exact ⟨feed_notMem_quote single, notMem_toList (by decide), ending, notMem_toList (by decide)⟩

/-- The accessor of a field is the one method of its lines. -/
theorem declaredMethods_accessorLines {field : Field} (single : '\n' ∉ field.name) :
    (accessorLines field).flatMap methods.declared = [field.mediaAccessor] := by
  have plain : IsPlain field.mediaAccessor := by
    have start : IsPlain "get".toList := by unfold IsPlain; decide
    have ending : IsPlain "Attribute".toList := by unfold IsPlain; decide
    exact (start.append (plain_upperCamelCase field.name)).append ending
  have heading : ∀ result : Text, '\n' ∉ result →
      methods.declared ("public function " ++ field.mediaAccessor ++ ("(" ++ result)) =
        [field.mediaAccessor] := by
    intro result whole
    rw [List.append_assoc]
    exact declared_method (by decide) (plain.notMem (by decide)) (plain.notMem (by decide))
      whole
  have one : methods.declared ("public function " ++ field.mediaAccessor ++ "(): ?array") =
      [field.mediaAccessor] := heading "): ?array" (by decide)
  have several : methods.declared ("public function " ++ field.mediaAccessor ++ "(): array") =
      [field.mediaAccessor] := heading "): array" (by decide)
  have calls : ∀ start ending : Text, methods.isQuiet start = true → '\n' ∉ ending →
      methods.declared (start ++ quote field.name ++ ending) = [] := by
    intro start ending quiet whole
    rw [List.append_assoc]
    refine methods.declared_quiet quiet ?_
    rw [List.mem_append, not_or]
    exact ⟨feed_notMem_quote single, whole⟩
  have comments : (Code.docComment ("@return " ++ mediaShape ++ "|null")).flatMap methods.declared = [] ∧
      (Code.docComment ("@return list<" ++ mediaShape ++ ">")).flatMap methods.declared = [] ∧
      [[], "return $media ? self::mediaItem($media) : null;".toList].flatMap methods.declared = [] := by
    unfold docComment mediaShape
    simp (disch := exact rfl) only [Text.toList_literal, -String.reduceToList]
    decide +kernel
  unfold accessorLines
  simp only
  split
  · rw [List.flatMap_append, comments.1, declared_body, one, List.flatMap_cons,
      calls _ _ (by decide) (by decide), comments.2.2]
    rfl
  · rw [List.flatMap_append, comments.2.1, declared_body, several, List.flatMap_singleton,
      calls _ _ (by decide) (by decide)]
    rfl

/-- The method of a single file is the one method of its lines. -/
theorem declaredMethods_mediaItemLines :
    mediaItemLines.flatMap methods.declared = ["mediaItem".toList] := by
  unfold mediaItemLines docComment mediaShape
  simp (disch := exact rfl) only [Text.toList_literal, -String.reduceToList]
  decide +kernel

end Model

/-- The method of a relationship is the one method of its lines. -/
theorem Relationship.declaredMethods_methodLines {relationship : Relationship}
    (target : '\n' ∉ relationship.target) (key : '\n' ∉ relationship.foreignKey) :
    relationship.methodLines.flatMap methods.declared = [relationship.method] := by
  have plain : IsPlain relationship.method := plain_lowerCamelCase relationship.name
  have className : ∀ kind : RelationKind, '\n' ∉ ("): ".toList ++ kind.className) := by
    intro kind
    cases kind <;> decide
  have kindName : ∀ kind : RelationKind, '\n' ∉ kind.name := by
    intro kind
    cases kind <;> decide
  have heading : methods.declared
      ("public function " ++ relationship.method ++ "(): " ++ relationship.kind.className) =
        [relationship.method] := by
    have parts : ("public function " ++ relationship.method ++ "(): " ++ relationship.kind.className : Text) =
        "public function ".toList ++
          (relationship.method ++ '(' :: ("): ".toList ++ relationship.kind.className)) := by
      simp only [List.append_assoc]
      rfl
    rw [parts]
    exact declared_method (by decide) (plain.notMem (by decide)) (plain.notMem (by decide))
      (className relationship.kind)
  have argument : '\n' ∉ (if relationship.namesKey then
      ", ".toList ++ quote relationship.foreignKey else []) := by
    split
    · rw [List.mem_append, not_or]
      exact ⟨notMem_toList (by decide), Model.feed_notMem_quote key⟩
    · exact List.not_mem_nil
  unfold methodLines
  simp only
  rw [declared_body, heading, List.flatMap_singleton]
  simp only [List.append_assoc, List.cons_append]
  rw [methods.declared_literal (by decide)]
  · rfl
  · simp only [List.mem_append, List.mem_cons, not_or]
    exact ⟨kindName relationship.kind, by decide, target, by decide, argument, notMem_toList (by decide)⟩

namespace Plan

variable {plan : Plan}

/-- No name that a model holds breaks its line. -/
@[mk_iff]
structure Unbroken (plan : Plan) : Prop where
  /-- The names of the fields. -/
  fields : ∀ field ∈ plan.fields, '\n' ∉ field.name
  /-- The classes that relationships lead to. -/
  targets : ∀ relationship ∈ plan.relationships, '\n' ∉ relationship.target
  /-- Their key columns. -/
  keys : ∀ relationship ∈ plan.relationships, '\n' ∉ relationship.foreignKey

instance : Decidable plan.Unbroken := decidable_of_iff' _ (unbroken_iff plan)

/-- The namespace of a package holds plain characters only. -/
theorem plain_namespaceName (options : Options) {scope : PackageScope}
    (found : (ofOptions options).package = some scope) : IsPlain scope.namespaceName := by
  obtain ⟨name, -, rfl⟩ := Option.map_eq_some_iff.mp found
  exact plain_upperCamelCase _

/-- The namespaces of a plan are single rows. -/
theorem feed_notMem_namespaces (options : Options) :
    '\n' ∉ (ofOptions options).namespaceName ∧ '\n' ∉ (ofOptions options).factoryNamespace := by
  unfold namespaceName factoryNamespace
  cases found : (ofOptions options).package with
  | none => decide
  | some scope =>
    have single : '\n' ∉ scope.namespaceName :=
      (plain_namespaceName options found).notMem (by decide)
    simp only [List.mem_append, not_or]
    exact ⟨⟨notMem_toList (by decide), single⟩, ⟨notMem_toList (by decide), single⟩, notMem_toList (by decide)⟩

/-- So is the class of a related entity whose name is one. -/
theorem feed_notMem_relatedClass (options : Options) {target : Text} (single : '\n' ∉ target) :
    '\n' ∉ (ofOptions options).relatedClass target := by
  unfold relatedClass
  split
  · decide
  · simp only [List.mem_append, not_or]
    exact ⟨⟨(feed_notMem_namespaces options).1, notMem_toList (by decide)⟩, single⟩

/-- So are the classes that a model uses. -/
theorem feed_notMem_modelUses {options : Options} (unbroken : (ofOptions options).Unbroken) :
    ∀ name ∈ (ofOptions options).modelUses, '\n' ∉ name := by
  have factorySpace := (feed_notMem_namespaces options).2
  have kinds : ∀ kind : RelationKind,
      '\n' ∉ ("Illuminate\\Database\\Eloquent\\Relations\\".toList ++ kind.className) := by
    intro kind
    cases kind <;> decide
  have model : '\n' ∉ (ofOptions options).names.model :=
    (plain_ofOptions options).names.model.notMem (by decide)
  have factory : '\n' ∉ (ofOptions options).factoryClass := by
    simp only [factoryClass, List.mem_append, List.mem_cons, not_or]
    exact ⟨⟨factorySpace, by decide, model⟩, notMem_toList (by decide)⟩
  intro name listed
  simp only [modelUses, List.mem_append, List.mem_flatMap] at listed
  rcases listed with ((common | ⟨relationship, member, used⟩) | packaged) | media
  · simp only [commonModelUses, List.mem_cons, List.not_mem_nil, or_false] at common
    rcases common with rfl | rfl | rfl | rfl
    · decide
    · decide
    · decide
    · exact feed_notMem_relatedClass options (by decide)
  · simp only [relationUses, List.mem_cons, List.not_mem_nil, or_false] at used
    rcases used with rfl | rfl
    · exact kinds relationship.kind
    · exact feed_notMem_relatedClass options (unbroken.targets relationship member)
  · split at packaged
    · rw [List.mem_singleton.mp packaged]
      exact factory
    · exact absurd packaged List.not_mem_nil
  · split at media
    · simp only [List.mem_cons, List.not_mem_nil, or_false] at media
      rcases media with rfl | rfl <;> decide
    · exact absurd media List.not_mem_nil

/-- An assigned column is no method. -/
theorem declaredMethods_fillableLines {options : Options}
    (unbroken : (ofOptions options).Unbroken) :
    (ofOptions options).fillableLines.flatMap methods.declared = [] := by
  refine List.flatMap_eq_nil_iff.mpr fun line listed => ?_
  obtain ⟨column, assigned, rfl⟩ := List.mem_map.mp listed
  have single : '\n' ∉ column := by
    have source := (List.mem_filter.mp (mem_firstOccurrences.mp assigned)).1
    rcases List.mem_append.mp source with own | key
    · obtain ⟨field, member, rfl⟩ := List.mem_map.mp own
      exact unbroken.fields field (List.mem_filter.mp member).1
    · obtain ⟨relationship, member, rfl⟩ := List.mem_map.mp key
      exact unbroken.keys relationship (List.mem_filter.mp member).1
  exact Model.declaredMethods_quoted single (by decide)

/-- Neither is a conversion. -/
theorem declaredMethods_castLines {options : Options} (unbroken : (ofOptions options).Unbroken) :
    (ofOptions options).castLines.flatMap methods.declared = [] := by
  have conversions : ∀ cast : Cast, '\n' ∉ (" => ".toList ++ quote cast.name ++ ",".toList) := by
    intro cast
    cases cast <;> decide
  refine List.flatMap_eq_nil_iff.mpr fun line listed => ?_
  obtain ⟨⟨column, cast⟩, converted, rfl⟩ := List.mem_map.mp listed
  obtain ⟨field, member, made⟩ := List.mem_filterMap.mp converted
  obtain ⟨_, -, same⟩ := Option.map_eq_some_iff.mp made
  obtain ⟨rfl, -⟩ := Prod.mk.inj same
  have single : '\n' ∉ field.name := unbroken.fields field member
  simp only [List.append_assoc]
  rw [← List.append_assoc (" => ".toList)]
  exact Model.declaredMethods_quoted single (conversions cast)

/-- Neither is a list of names. -/
theorem declaredMethods_appendLines (unbroken : plan.Unbroken) :
    plan.appendLines.flatMap methods.declared = [] := by
  unfold appendLines
  split
  · have appends : ∀ name ∈ plan.mediaFields.map (·.name), '\n' ∉ name := by
      intro name listed
      obtain ⟨field, member, rfl⟩ := List.mem_map.mp listed
      exact unbroken.fields field (List.mem_filter.mp member).1
    rw [List.cons_append, List.flatMap_cons, List.flatMap_append, List.flatMap_cons,
      Model.declaredMethods_nameListLines (by decide) appends,
      Model.declaredMethods_nameListLines (by decide) (by decide)]
    rfl
  · rfl

/-- A package has a method that names its factory. -/
theorem declaredMethods_factoryMethodLines (model : '\n' ∉ plan.names.model) :
    plan.factoryMethodLines.flatMap methods.declared =
      if plan.package.isSome then ["newFactory".toList] else [] := by
  unfold factoryMethodLines
  split
  · have factory : '\n' ∉ plan.names.model ++ "Factory" := by
      rw [List.mem_append, not_or]
      exact ⟨model, notMem_toList (by decide)⟩
    have words : ("protected static function newFactory(): " : Text) =
        "protected static function ".toList ++ ("newFactory".toList ++ '(' :: "): ".toList) := by
      decide
    have heading : methods.declared
        ("protected static function newFactory(): " ++ (plan.names.model ++ "Factory")) =
          ["newFactory".toList] := by
      rw [words, List.append_assoc, List.append_assoc, List.cons_append]
      refine declared_method (by decide) (by decide) (by decide) ?_
      rw [List.mem_append, not_or]
      exact ⟨notMem_toList (by decide), factory⟩
    simp only
    rw [methods.declared_below, declared_body, heading, List.flatMap_singleton,
      List.append_assoc, methods.declared_literal (by decide)]
    · rfl
    · rw [List.mem_append, not_or]
      exact ⟨factory, notMem_toList (by decide)⟩
  · rfl

/-- Every relationship has a method. -/
theorem declaredMethods_relationLines (unbroken : plan.Unbroken) :
    plan.relationLines.flatMap methods.declared = plan.relationships.map (·.method) := by
  rw [relationLines, methods.declared_below, List.flatMap_assoc, List.map_eq_flatMap]
  exact List.flatMap_congr fun relationship member => relationship.declaredMethods_methodLines
    (unbroken.targets relationship member) (unbroken.keys relationship member)

/-- Uploaded files have methods for their collections and accessors. -/
theorem declaredMethods_mediaMethodLines (unbroken : plan.Unbroken) :
    plan.mediaMethodLines.flatMap methods.declared =
      if plan.hasMedia then "registerMediaCollections".toList ::
        plan.mediaFields.map (·.mediaAccessor) ++ ["mediaItem".toList]
      else [] := by
  have single : ∀ field ∈ plan.mediaFields, '\n' ∉ field.name := fun field member =>
    unbroken.fields field (List.mem_filter.mp member).1
  unfold mediaMethodLines
  split
  · have heading : methods.declared "public function registerMediaCollections(): void" =
        ["registerMediaCollections".toList] := by
      simp (disch := exact rfl) only [Text.toList_literal, -String.reduceToList]
      decide +kernel
    have collections : (plan.mediaFields.map Model.collectionLine).flatMap methods.declared = [] := by
      rw [List.flatMap_map]
      exact List.flatMap_eq_nil_iff.mpr fun field member =>
        Model.declaredMethods_collectionLine (single field member)
    have accessors : (plan.mediaFields.flatMap fun field => [] :: Model.accessorLines field).flatMap
        methods.declared = plan.mediaFields.map (·.mediaAccessor) := by
      rw [List.flatMap_assoc, List.map_eq_flatMap]
      refine List.flatMap_congr fun field member => ?_
      rw [List.flatMap_cons, methods.declared_nil, List.nil_append,
        Model.declaredMethods_accessorLines (single field member)]
    rw [List.flatMap_append, List.flatMap_append, methods.declared_below, declared_body,
      heading, collections, accessors, List.flatMap_cons, Model.declaredMethods_mediaItemLines]
    rfl
  · rfl

/-- The names around which the rows of a model are written are single rows. -/
theorem feed_notMem_modelTokens (options : Options) : ∀ placeholder ∈ Stub.modelTokens,
    '\n' ∉ Placeholder.fragment (ofOptions options) .model placeholder := by
  obtain ⟨names, -⟩ := plain_ofOptions options
  have interfaces : ∀ media : Bool, '\n' ∉ (if media then " implements HasMedia".toList else []) := by
    decide
  intro placeholder listed
  simp only [Stub.modelTokens, List.mem_cons, List.not_mem_nil, or_false] at listed
  rcases listed with rfl | rfl | rfl | rfl
  · show '\n' ∉ (ofOptions options).namespaceName ++ "\\Models"
    rw [List.mem_append, not_or]
    exact ⟨(feed_notMem_namespaces options).1, notMem_toList (by decide)⟩
  · exact names.model.notMem (by decide)
  · exact interfaces _
  · exact names.table.notMem (by decide)

/-- The traits of a model are no methods. -/
theorem declaredMethods_modelTraits (plan : Plan) : methods.declared plan.modelTraits = [] := by
  unfold modelTraits
  split
  · simp (disch := exact rfl) only [Text.toList_literal, -String.reduceToList]
    decide +kernel
  · simp (disch := exact rfl) only [Text.toList_literal, -String.reduceToList]
    decide +kernel

/-- The model of a plan declares its methods in their order if no name in it breaks its line. -/
theorem declaredMethods_content {options : Options} (unbroken : (ofOptions options).Unbroken) :
    methods.declared (Artifact.model.content (ofOptions options) Stub.model) =
      (ofOptions options).modelMethods := by
  obtain ⟨lines, written, readings⟩ := Stub.model_readings
  have model : '\n' ∉ (ofOptions options).names.model :=
    (plain_ofOptions options).names.model.notMem (by decide)
  rw [Artifact.content, written, methods.declared_template (feed_notMem_modelTokens options), readings]
  simp only [List.flatMap_cons, List.flatMap_nil, Reader.found, Placeholder.fragment,
    methods.declared_unlines]
  rw [modelImports, ClassName.declaredMethods_importLines (feed_notMem_modelUses unbroken),
    declaredMethods_modelTraits,
    declaredMethods_fillableLines unbroken, declaredMethods_castLines unbroken,
    declaredMethods_appendLines unbroken, declaredMethods_factoryMethodLines model,
    declaredMethods_relationLines unbroken, declaredMethods_mediaMethodLines unbroken]
  simp only [modelMethods, List.nil_append, List.append_nil, List.append_assoc]

/-- The methods that a model has whatever its relationships are, apart from accessors. -/
def standingMethods (plan : Plan) : List Text :=
  (if plan.package.isSome then ["newFactory".toList] else []) ++ "creator".toList ::
    if plan.hasMedia then ["registerMediaCollections".toList, "mediaItem".toList] else []

/-- The methods of relationships and the accessors of a plan are distinct and no others. -/
@[mk_iff]
structure MethodsApart (plan : Plan) : Prop where
  /-- The relationships have distinct methods. -/
  relationships : (plan.relationships.map (·.method)).Nodup
  /-- The fields with uploaded files have distinct accessors. -/
  accessors : (plan.mediaFields.map (·.mediaAccessor)).Nodup
  /-- No relationship has the method that every such model has, or an accessor. -/
  other : ∀ relationship ∈ plan.relationships, relationship.method ∉ plan.standingMethods ∧
    ∀ field ∈ plan.mediaFields, relationship.method ≠ field.mediaAccessor

instance : Decidable plan.MethodsApart := decidable_of_iff' _ (methodsApart_iff plan)

/-- An accessor has the name of no standing method. -/
theorem mediaAccessor_notMem_standingMethods (plan : Plan) (field : Field) :
    field.mediaAccessor ∉ plan.standingMethods := by
  have starts : ∀ packaged media : Bool, ∀ method ∈
      (if packaged then ["newFactory".toList] else []) ++ "creator".toList ::
        (if media then ["registerMediaCollections".toList, "mediaItem".toList] else []),
      method.head? ≠ some 'g' := by
    decide
  intro standing
  exact starts plan.package.isSome plan.hasMedia field.mediaAccessor standing rfl

/-- The standing methods are distinct. -/
theorem nodup_standingMethods (plan : Plan) : plan.standingMethods.Nodup := by
  have all : ∀ packaged media : Bool,
      ((if packaged then ["newFactory".toList] else []) ++ "creator".toList ::
        (if media then ["registerMediaCollections".toList, "mediaItem".toList] else [])).Nodup := by
    decide
  exact all plan.package.isSome plan.hasMedia

/-- Up to their order the methods are the standing ones, those of relationships and accessors. -/
theorem modelMethods_perm (plan : Plan) : plan.modelMethods.Perm (plan.standingMethods ++
    (plan.relationships.map (·.method) ++ plan.mediaFields.map (·.mediaAccessor))) := by
  refine List.perm_iff_count.mpr fun method => ?_
  unfold modelMethods standingMethods
  cases media : plan.hasMedia with
  | false =>
    have none : plan.mediaFields = [] :=
      List.filter_eq_nil_iff.mpr (List.any_eq_false.mp media)
    simp only [none, List.map_nil, List.count_append, List.count_cons, List.count_nil,
      Bool.false_eq_true, ↓reduceIte]
    omega
  | true =>
    simp only [List.count_append, List.count_cons, List.count_nil, ↓reduceIte, List.cons_append]
    omega

/-- The methods of a model are distinct exactly if those that are added are. -/
theorem nodup_modelMethods_iff (plan : Plan) : plan.modelMethods.Nodup ↔ plan.MethodsApart := by
  rw [plan.modelMethods_perm.nodup_iff, List.nodup_append, List.nodup_append]
  constructor
  · rintro ⟨-, ⟨relationships, accessors, crossing⟩, standing⟩
    refine ⟨relationships, accessors, fun relationship member => ⟨fun inside => ?_, ?_⟩⟩
    · have listed := List.mem_append_left (plan.mediaFields.map (·.mediaAccessor))
        (List.mem_map_of_mem (f := (·.method)) member)
      exact standing _ inside _ listed rfl
    · intro field among
      exact crossing _ (List.mem_map_of_mem member) _ (List.mem_map_of_mem among)
  · rintro ⟨relationships, accessors, other⟩
    refine ⟨plan.nodup_standingMethods, ⟨relationships, accessors, ?_⟩, ?_⟩
    · intro method own another accessor
      obtain ⟨relationship, member, rfl⟩ := List.mem_map.mp own
      obtain ⟨field, among, rfl⟩ := List.mem_map.mp accessor
      exact (other relationship member).2 field among
    · rintro method standing another added rfl
      rcases List.mem_append.mp added with own | accessor
      · obtain ⟨relationship, member, rfl⟩ := List.mem_map.mp own
        exact (other relationship member).1 standing
      · obtain ⟨field, -, rfl⟩ := List.mem_map.mp accessor
        exact plan.mediaAccessor_notMem_standingMethods field standing

/-- For every plan that is made from options, the methods of the model are distinct exactly if those
of the relationships and the accessors are distinct and no others. The rendered class declares these
methods, in this order, if no name in it breaks its line. -/
theorem methods_declared_once (options : Options) :
    ((ofOptions options).modelMethods.Nodup ↔ (ofOptions options).MethodsApart) ∧
    ((ofOptions options).Unbroken →
      methods.declared (Artifact.model.content (ofOptions options) Stub.model) =
        (ofOptions options).modelMethods) :=
  ⟨nodup_modelMethods_iff _, declaredMethods_content⟩

/-- An axe with a proof and a picture. -/
def picturedAxe : Options where
  displayName := "Axe"
  fields := "picture:image"
  relationships := "proof:belongsTo:Proof"

/-- The model of the axe declares each method once. -/
theorem methods_declared_once_axe :
    (methods.declared (Artifact.model.content (ofOptions picturedAxe) Stub.model)).Nodup := by
  have once := methods_declared_once picturedAxe
  obtain ⟨unbroken, apart⟩ :
      (ofOptions picturedAxe).Unbroken ∧ (ofOptions picturedAxe).MethodsApart := by
    decide +kernel
  rw [once.2 unbroken, once.1]
  exact apart

/-- An axe with a proof that is named as the owner is. -/
def createdAxe : Options where
  displayName := "Axe"
  relationships := "creator:belongsTo:Proof"

/-- The model of this axe declares the method of the owner twice. -/
theorem creator_declared_twice :
    ¬(methods.declared (Artifact.model.content (ofOptions createdAxe) Stub.model)).Nodup := by
  obtain ⟨unbroken, twice⟩ :
      (ofOptions createdAxe).Unbroken ∧ ¬(ofOptions createdAxe).modelMethods.Nodup := by
    decide +kernel
  rw [declaredMethods_content unbroken]
  exact twice

end Plan

end Scaffold
