import Scaffold.Proofs.Backend.Methods
import Scaffold.Proofs.Page.Exports
import Scaffold.Proofs.Page.Records
import Scaffold.Proofs.Registry.Wiring

/-!
# The methods of a controller

The class of a controller declares a method for each of its pages and forms, one for every cascade,
and one for the lists of options (`Plan.controllerMethods`). They are read back from the rendered
class (`Plan.declaredMethods_controller`). The method of a cascade begins as none of the others does,
so all methods are distinct exactly if those of the cascades are
(`Plan.nodup_controllerMethods_iff`).
-/
namespace Scaffold

open Text Code Template

namespace Stub

/-- The tokens of the controller with other text on their lines. -/
def controllerTokens : List Placeholder :=
  [.controllerNamespace, .modelName, .eagerLoads, .routeName, .modelVariablePlural, .filterKeys,
    .mediaKeys, .modelVariable, .modelLabel]

/-- How the lines of the controller are read. -/
theorem controller_readings : ∃ lines, controller = Code.written lines ∧
    (lines.map fun line => methods.lineReading controllerTokens line.toList).filter
        (· ≠ .names []) =
      [.value .controllerImports, .names ["index".toList], .value .searchQuery,
        .value .filterQuery, .names ["create".toList], .names ["store".toList], .value .mediaStore,
        .value .showMethod, .names ["edit".toList], .names ["update".toList], .value .mediaUpdate,
        .names ["destroy".toList], .value .cascadeEndpoints, .names ["options".toList],
        .value .optionQueries] := by
  refine ⟨_, rfl, ?_⟩
  simp only [List.map_cons, List.map_nil, Reader.lineReading_eq]
  simp (disch := exact rfl) only [Text.toList_literal, -String.reduceToList]
  decide +kernel

end Stub

namespace Text

/-- One word is one row. -/
theorem feed_notMem_of_word {word : Text} (solid : ∀ c ∈ word, isBlank c = false) : '\n' ∉ word :=
  fun inside => absurd (solid '\n' inside) (by decide)

end Text

namespace Controller

variable {model conditions shown column value record : Text}

/-- What stands behind the model of a query is one row. -/
theorem feed_notMem_queryEnd (before : '\n' ∉ conditions) (order : '\n' ∉ shown) :
    '\n' ∉ ":query()" ++ conditions ++ "->orderBy(" ++ quote shown ++ ")->get(['id', " ++
      quote shown ++ "])" := by
  have quoted := Model.feed_notMem_quote order
  simp only [List.mem_append, not_or]
  exact ⟨⟨⟨⟨⟨⟨notMem_toList (by decide), before⟩, notMem_toList (by decide)⟩, quoted⟩,
    notMem_toList (by decide)⟩, quoted⟩, notMem_toList (by decide)⟩

/-- A query is one row behind its model. -/
theorem recordQuery_eq (model conditions shown : Text) : recordQuery model conditions shown =
    model ++ ':' :: (":query()" ++ conditions ++ "->orderBy(" ++ quote shown ++ ")->get(['id', " ++
      quote shown ++ "])") := by
  have words : ("::query()" : Text) = ':' :: ":query()".toList := by decide
  rw [recordQuery, words]
  simp only [List.append_assoc, List.cons_append]

/-- A query is one row if its names are. -/
theorem feed_notMem_recordQuery (own : '\n' ∉ model) (before : '\n' ∉ conditions)
    (order : '\n' ∉ shown) : '\n' ∉ recordQuery model conditions shown := by
  rw [recordQuery_eq, List.mem_append, List.mem_cons, not_or, not_or]
  exact ⟨own, by decide, feed_notMem_queryEnd before order⟩

/-- A query for the records of a class that is one word is no method. -/
theorem declaredMethods_recordQuery (word : ∀ c ∈ model, isBlank c = false)
    (before : '\n' ∉ conditions) (order : '\n' ∉ shown) :
    methods.declared (recordQuery model conditions shown) = [] := by
  rw [recordQuery_eq, methods]
  refine methodOpenings.declared_word word (by decide) (by decide) ?_
  exact feed_notMem_queryEnd before order

/-- A condition is one row if its parts are. -/
theorem feed_notMem_whereEquals (own : '\n' ∉ column) (single : '\n' ∉ value) :
    '\n' ∉ whereEquals column value := by
  unfold whereEquals
  simp only [List.mem_append, not_or]
  exact ⟨⟨⟨⟨notMem_toList (by decide), Model.feed_notMem_quote own⟩, notMem_toList (by decide)⟩,
    single⟩, notMem_toList (by decide)⟩

/-- The lines of a statement and their ends are as the lines are. -/
theorem forall_mem_ended {property : Text → Prop} {lines : List Text}
    (all : ∀ line ∈ lines, property line) (closed : ∀ line, property line → property (line ++ ";")) :
    ∀ line ∈ ended lines, property line := by
  fun_induction ended lines with
  | case1 => exact all
  | case2 last => exact fun line only => List.mem_singleton.mp only ▸ closed last (all last (by simp))
  | case3 line next rest ih =>
    rw [List.forall_mem_cons] at all ⊢
    exact ⟨all.1, ih all.2⟩

/-- The method of a search condition is one of two. -/
theorem searchCall_method (column : SearchColumn) :
    (searchCall column).1 = "where" ∨ (searchCall column).1 = "whereJsonContains" := by
  unfold searchCall
  cases column.mode with
  | like => exact .inl rfl
  | exact => exact .inl rfl
  | jsonContains => exact .inr rfl

/-- Its arguments are one row. -/
theorem feed_notMem_arguments {column : SearchColumn} (single : '\n' ∉ column.field.name) :
    '\n' ∉ (searchCall column).2 := by
  have quoted := Model.feed_notMem_quote single
  unfold searchCall
  cases column.mode with
  | like =>
    simp only [List.mem_append, not_or]
    exact ⟨quoted, notMem_toList (by decide)⟩
  | exact =>
    simp only [List.mem_append, not_or]
    exact ⟨quoted, notMem_toList (by decide)⟩
  | jsonContains =>
    simp only [List.mem_append, not_or]
    refine ⟨quoted, ?_⟩
    split
    · exact notMem_toList (by decide)
    · exact notMem_toList (by decide)

/-- A search condition is no method, whatever follows in its row. -/
theorem isSilent_condition {start method : Text} {column : SearchColumn}
    (quiet : methods.isQuiet start = true) (plain : '\n' ∉ method)
    (single : '\n' ∉ column.field.name) :
    methods.IsSilent (start ++ method ++ '(' :: (searchCall column).2 ++ ")") := by
  refine ⟨start, method ++ '(' :: (searchCall column).2 ++ ")", quiet, ?_, ?_⟩
  · simp only [List.mem_append, List.mem_cons, not_or]
    exact ⟨⟨plain, by decide, feed_notMem_arguments single⟩, notMem_toList (by decide)⟩
  · simp only [List.append_assoc]

/-- Search conditions are no methods. -/
theorem declaredMethods_searchConditions {columns : List SearchColumn}
    (single : ∀ column ∈ columns, '\n' ∉ column.field.name) :
    (searchConditions columns).flatMap methods.declared = [] := by
  cases columns with
  | nil => rfl
  | cons first rest =>
    have plain : ∀ column : SearchColumn,
        '\n' ∉ (searchCall column).1 ∧ '\n' ∉ capitalized (searchCall column).1 := by
      intro column
      rcases searchCall_method column with same | same
      · rw [same]
        decide
      · rw [same]
        decide
    have conditions : ∀ line ∈ firstCondition first :: deeper (rest.map furtherCondition),
        methods.IsSilent line := by
      intro line listed
      rcases List.mem_cons.mp listed with rfl | later
      · exact isSilent_condition (by decide) (plain first).1 (single first List.mem_cons_self)
      · obtain ⟨own, further, rfl⟩ := List.mem_map.mp later
        obtain ⟨column, member, rfl⟩ := List.mem_map.mp further
        have silent := @isSilent_condition (step ++ "->or") _ column (by decide) (plain column).2
          (single column (List.mem_cons_of_mem first member))
        unfold furtherCondition
        rw [if_neg (by simp)]
        simpa only [List.append_assoc] using silent
    have all := forall_mem_ended conditions fun line silent => silent.append (by decide)
    exact List.flatMap_eq_nil_iff.mpr fun line listed => (all line listed).declared_eq

/-- A filter is no method. -/
theorem declaredMethods_filterLines {filter : Filter} (single : '\n' ∉ filter.key) :
    (filterLines filter).flatMap methods.declared = [] := by
  have quoted := Model.feed_notMem_quote single
  have calls : ∀ several : Bool,
      '\n' ∉ (if several then "whereJsonContains" else "where" : Text) := by
    decide
  have heading : methods.declared ("if ($request->filled(" ++ quote filter.key ++ "))" ++ " \x7b") = [] := by
    simp only [List.append_assoc]
    refine methods.declared_literal (by decide) ?_
    simp only [List.mem_append, not_or]
    exact ⟨quoted, notMem_toList (by decide), notMem_toList (by decide)⟩
  unfold filterLines
  simp only
  rw [braces, methods.declared_block, heading, List.flatMap_singleton]
  simp only [List.append_assoc]
  rw [methods.declared_literal (by decide)]
  · decide
  · simp only [List.mem_append, List.mem_cons, not_or]
    exact ⟨calls filter.isMultiple, ⟨by decide, quoted⟩, notMem_toList (by decide), quoted,
      notMem_toList (by decide)⟩

/-- A statement about a variable is no method. -/
theorem declaredMethods_variable {rest : Text} (plain : '\n' ∉ record) (single : '\n' ∉ rest) :
    methods.declared ('$' :: record ++ rest) = [] := by
  have start : '$' :: record ++ rest = ['$'] ++ (record ++ rest) := rfl
  rw [start, methods.declared_quiet (by decide)]
  rw [List.mem_append, not_or]
  exact ⟨plain, single⟩

/-- Storing uploaded files is no method. -/
theorem declaredMethods_mediaLines {field : Field} (plain : '\n' ∉ record) (replacing : Bool)
    (single : '\n' ∉ field.name) :
    (mediaLines record replacing field).flatMap methods.declared = [] := by
  have quoted := Model.feed_notMem_quote single
  have heading : ∀ start ending : Text, methods.isQuiet start = true → '\n' ∉ ending →
      methods.declared (start ++ quote field.name ++ ending ++ " \x7b") = [] := by
    intro start ending quiet whole
    simp only [List.append_assoc]
    refine methods.declared_quiet quiet ?_
    simp only [List.mem_append, not_or]
    exact ⟨quoted, whole, notMem_toList (by decide)⟩
  have clearing : methods.declared
      ('$' :: record ++ "->clearMediaCollection(" ++ quote field.name ++ ");") = [] := by
    simp only [List.append_assoc]
    refine declaredMethods_variable plain ?_
    simp only [List.mem_append, not_or]
    exact ⟨notMem_toList (by decide), quoted, notMem_toList (by decide)⟩
  have single : methods.declared ('$' :: record ++ "->addMediaFromRequest(" ++ quote field.name ++
      ")->toMediaCollection(" ++ quote field.name ++ ");") = [] := by
    simp only [List.append_assoc]
    refine declaredMethods_variable plain ?_
    simp only [List.mem_append, not_or]
    exact ⟨notMem_toList (by decide), quoted, notMem_toList (by decide), quoted,
      notMem_toList (by decide)⟩
  have several : methods.declared ('$' :: record ++ "->addMedia($file)->toMediaCollection(" ++
      quote field.name ++ ");") = [] := by
    simp only [List.append_assoc]
    refine declaredMethods_variable plain ?_
    simp only [List.mem_append, not_or]
    exact ⟨notMem_toList (by decide), quoted, notMem_toList (by decide)⟩
  have closing : methods.declared ['\x7d'] = [] := by decide
  unfold mediaLines
  simp only
  split
  · rw [braces, methods.declared_block, heading _ _ (by decide) (by decide), closing,
      List.flatMap_append, List.flatMap_singleton, single]
    split
    · rw [List.flatMap_singleton, clearing]
      rfl
    · rfl
  · rw [braces, methods.declared_block, heading _ _ (by decide) (by decide), closing,
      List.flatMap_singleton, several]
    rfl

/-- The entry of a list of records has the names of its first row, which begins with its key, for
a reader that finds none in the rows inside. -/
theorem declared_listLines {reader : Reader} {records : RecordList} {names : List Text}
    (expressions : reader.isQuiet ['$'] = true)
    (rest : reader.declared "default => []," = [] ∧ reader.declared "\x7d," = [])
    (first : ∀ query, '\n' ∉ query → reader.declared (quote records.prop ++ query) = names)
    (plain : '\n' ∉ record) (own : '\n' ∉ records.model) (order : '\n' ∉ records.shown)
    (wired : ∀ dependency ∈ records.dependency, '\n' ∉ dependency.parent.foreignKey ∧
      '\n' ∉ dependency.cascade.childParentColumn) :
    (listLines record records).flatMap reader.declared = names := by
  have whole : '\n' ∉ listQuery records := feed_notMem_recordQuery own List.not_mem_nil order
  have silent : ∀ row : Text, '\n' ∉ row → reader.declared ('$' :: row) = [] := fun row single =>
    @Reader.declared_quiet reader ['$'] row expressions single
  unfold listLines
  simp only
  split
  · rw [List.flatMap_singleton]
    simp only [List.append_assoc]
    refine first _ ?_
    simp only [List.mem_append, not_or]
    exact ⟨notMem_toList (by decide), whole, notMem_toList (by decide)⟩
  · rename_i dependency known
    obtain ⟨key, column⟩ := wired dependency known
    have chosen : '\n' ∉ '$' :: record ++ "->" ++ dependency.parent.foreignKey := by
      simp only [List.cons_append, List.mem_append, List.mem_cons, not_or]
      exact ⟨by decide, ⟨plain, notMem_toList (by decide)⟩, key⟩
    have all : reader.declared ("$all => " ++ listQuery records ++ ",") = [] := by
      have word : ("$all => " : Text) = '$' :: "all => ".toList := by decide
      rw [word]
      simp only [List.append_assoc, List.cons_append]
      refine silent _ ?_
      simp only [List.mem_append, not_or]
      exact ⟨notMem_toList (by decide), whole, notMem_toList (by decide)⟩
    have suited : reader.declared ('$' :: record ++ " !== null => " ++ recordQuery records.model
        (whereEquals dependency.cascade.childParentColumn
          ('$' :: record ++ "->" ++ dependency.parent.foreignKey)) records.shown ++ ",") = [] := by
      have query := feed_notMem_recordQuery own (feed_notMem_whereEquals column chosen) order
      rw [List.append_assoc, List.append_assoc, List.cons_append]
      refine silent _ ?_
      simp only [List.mem_append, not_or]
      exact ⟨plain, notMem_toList (by decide), query, notMem_toList (by decide)⟩
    rw [reader.declared_block, first _ (by decide), List.flatMap_cons, all, List.flatMap_cons,
      suited, List.flatMap_singleton, rest.1, rest.2]
    exact List.append_nil names

/-- An endpoint is one method. -/
theorem declaredMethods_endpointLines {endpoint : Endpoint} (method : IsPlain endpoint.method)
    (parameter : '\n' ∉ endpoint.parameter) (word : ∀ c ∈ endpoint.model, isBlank c = false)
    (own : '\n' ∉ endpoint.column) (order : '\n' ∉ endpoint.shown) :
    endpoint.lines.flatMap methods.declared = [endpoint.method] := by
  have value : '\n' ∉ '$' :: endpoint.parameter := by
    rw [List.mem_cons, not_or]
    exact ⟨by decide, parameter⟩
  have heading : methods.declared ("public function " ++ endpoint.method ++ "(int " ++
      '$' :: endpoint.parameter ++ "): JsonResponse") = [endpoint.method] := by
    have words : ("(int " : Text) = '(' :: "int ".toList := by decide
    rw [words]
    simp only [List.append_assoc, List.cons_append]
    refine declared_method (by decide) (method.notMem (by decide)) (method.notMem (by decide)) ?_
    simp only [List.mem_append, List.mem_cons, not_or]
    exact ⟨notMem_toList (by decide), by decide, parameter, notMem_toList (by decide)⟩
  have query := declaredMethods_recordQuery word (feed_notMem_whereEquals own value) order
  have call : methods.declared "return response()->json(" = [] ∧ methods.declared ");" = [] := by
    decide +kernel
  unfold Endpoint.lines
  simp only
  rw [declared_body, heading, methods.declared_block, call.1, call.2, List.flatMap_singleton, query]
  rfl

end Controller

namespace Plan

variable {plan : Plan}

/-- What begins a row is one word, and nothing else breaks its row. -/
@[mk_iff]
structure Legible (plan : Plan) : Prop where
  /-- The names of the fields. -/
  fields : ∀ field ∈ plan.fields, ∀ c ∈ field.name, isBlank c = false
  /-- The classes that relationships lead to. -/
  targets : ∀ relationship ∈ plan.relationships, ∀ c ∈ relationship.target, isBlank c = false
  /-- Their key columns. -/
  keys : ∀ relationship ∈ plan.relationships, ∀ c ∈ relationship.foreignKey, isBlank c = false
  /-- The records that options are taken from. -/
  sources : ∀ field ∈ plan.fields, ∀ source ∈ field.source?, '\n' ∉ source.1 ∧ '\n' ∉ source.2
  /-- The shown fields of related records. -/
  shown : ∀ projection ∈ plan.projections, '\n' ∉ projection.field

instance : Decidable plan.Legible := decidable_of_iff' _ (legible_iff plan)

/-- The names of cascades are plain. -/
theorem Derived.plain_cascade (derived : plan.Derived) {dependency : Dependency}
    (member : dependency ∈ plan.dependencies) : IsPlain dependency.cascade.endpoint ∧
      IsPlain dependency.cascade.state ∧ IsPlain dependency.cascade.parentParam ∧
      IsPlain dependency.cascade.childParentColumn := by
  have words : IsPlain "get".toList ∧ IsPlain "By".toList ∧ IsPlain "_id".toList := by
    unfold IsPlain
    decide
  rw [derived.cascades dependency member]
  exact ⟨((words.1.append (plain_upperCamelCase _)).append words.2.1).append (plain_upperCamelCase _),
    plain_lowerCamelCase _, plain_lowerCamelCase _, (plain_snakeCase _).append words.2.2⟩

/-- The record lists have plain names. -/
theorem plain_prop {records : RecordList} (listed : records ∈ plan.recordLists) :
    IsPlain records.prop := by
  rcases List.mem_append.mp listed with related | own
  · obtain ⟨relationship, -, rfl⟩ := List.mem_map.mp related
    exact plain_optionsName relationship.name
  · obtain ⟨field, -, made⟩ := List.mem_filterMap.mp own
    obtain ⟨source, -, rfl⟩ := Option.map_eq_some_iff.mp made
    exact plain_optionsName field.name

/-- So have the properties that hold them. -/
theorem plain_of_mem_recordProps {prop : Text} (listed : prop ∈ plan.recordProps) : IsPlain prop := by
  obtain ⟨records, among, rfl⟩ := List.mem_map.mp listed
  exact plain_prop among

namespace Legible

variable (legible : plan.Legible)
include legible

/-- The field that shows a related record is one row. -/
theorem feed_notMem_shownField (relationship : Relationship) :
    '\n' ∉ plan.shownField relationship := by
  unfold shownField
  cases found : plan.projections.find? (·.relation == relationship.name) with
  | none => decide
  | some projection => exact legible.shown projection (List.mem_of_find?_eq_some found)

/-- So is the key of a filter. -/
theorem feed_notMem_filterKey (sourced : plan.Sourced) {filter : Filter}
    (member : filter ∈ plan.filters) : '\n' ∉ filter.key := by
  have source := sourced.filters filter member
  cases filter with
  | options field => exact feed_notMem_of_word (legible.fields field source.1)
  | records field => exact feed_notMem_of_word (legible.fields field source.1)
  | relation relationship => exact feed_notMem_of_word (legible.keys relationship source.1)

/-- So are the names of a record list. -/
theorem feed_notMem_recordLists (sourced : plan.Sourced) {records : RecordList}
    (listed : records ∈ plan.recordLists) : '\n' ∉ records.model ∧ '\n' ∉ records.shown := by
  rcases List.mem_append.mp listed with related | own
  · obtain ⟨relationship, member, rfl⟩ := List.mem_map.mp related
    exact ⟨feed_notMem_of_word (legible.targets _ (sourced.mem_of_mem_listedRelations member)),
      legible.feed_notMem_shownField relationship⟩
  · obtain ⟨field, member, made⟩ := List.mem_filterMap.mp own
    obtain ⟨source, found, rfl⟩ := Option.map_eq_some_iff.mp made
    exact legible.sources field (List.mem_filter.mp member).1 source found

end Legible

/-- The search is no method. -/
theorem declaredMethods_searchLines (legible : plan.Legible) (sourced : plan.Sourced) :
    plan.searchLines.flatMap methods.declared = [] := by
  have single : ∀ column ∈ plan.searchable, '\n' ∉ column.field.name := fun column member =>
    feed_notMem_of_word (legible.fields _ (sourced.searches column member))
  have headings : methods.declared
        ("if ($search = trim((string) $request->input('search')))".toList ++ " \x7b".toList) = [] ∧
      methods.declared "$query->where(function ($query) use ($search) \x7b" = [] ∧
      methods.declared "\x7d);" = [] ∧ methods.declared ['\x7d'] = [] := by
    decide +kernel
  unfold searchLines
  split
  · rfl
  · rw [methods.declared_below, braces, methods.declared_block, headings.1, methods.declared_block,
      headings.2.1, Controller.declaredMethods_searchConditions single, headings.2.2.1,
      headings.2.2.2]
    rfl

/-- Neither are the filters. -/
theorem declaredMethods_filterLines (legible : plan.Legible) (sourced : plan.Sourced) :
    plan.filterLines.flatMap methods.declared = [] := by
  rw [filterLines, methods.declared_below, List.flatMap_assoc]
  exact List.flatMap_eq_nil_iff.mpr fun filter member =>
    Controller.declaredMethods_filterLines (legible.feed_notMem_filterKey sourced member)

/-- Neither is storing uploaded files. -/
theorem declaredMethods_mediaLines (legible : plan.Legible) (record : '\n' ∉ plan.names.record)
    (replacing : Bool) : (plan.mediaLines replacing).flatMap methods.declared = [] := by
  rw [mediaLines, methods.declared_below, List.flatMap_assoc]
  exact List.flatMap_eq_nil_iff.mpr fun field member => Controller.declaredMethods_mediaLines record
    replacing (feed_notMem_of_word (legible.fields field (List.mem_filter.mp member).1))

/-- The lists of records have the names that their first rows have, for a reader that finds none in
the rows inside. -/
theorem declared_listLines {reader : Reader} {names : RecordList → List Text}
    (expressions : reader.isQuiet ['$'] = true)
    (rest : reader.declared "default => []," = [] ∧ reader.declared "\x7d," = [])
    (first : ∀ records ∈ plan.recordLists, ∀ query, '\n' ∉ query →
      reader.declared (quote records.prop ++ query) = names records)
    (legible : plan.Legible) (sourced : plan.Sourced) (derived : plan.Derived)
    (record : '\n' ∉ plan.names.record) :
    plan.listLines.flatMap reader.declared = plan.recordLists.flatMap names := by
  rw [listLines, List.flatMap_assoc]
  refine List.flatMap_congr fun records listed => ?_
  obtain ⟨model, shown⟩ := legible.feed_notMem_recordLists sourced listed
  refine Controller.declared_listLines expressions rest (first records listed) record model shown
    fun dependency known => ?_
  have among : dependency ∈ plan.dependencies := by
    rcases List.mem_append.mp listed with related | own
    · obtain ⟨relationship, -, rfl⟩ := List.mem_map.mp related
      exact List.mem_of_find?_eq_some known
    · obtain ⟨field, -, made⟩ := List.mem_filterMap.mp own
      obtain ⟨source, -, rfl⟩ := Option.map_eq_some_iff.mp made
      exact absurd known (by simp)
  exact ⟨feed_notMem_of_word (legible.keys _ (sourced.dependencies dependency among).parent.1),
    (derived.plain_cascade among).2.2.2.notMem (by decide)⟩

/-- Neither are the lists of records. -/
theorem declaredMethods_listLines (legible : plan.Legible) (sourced : plan.Sourced)
    (derived : plan.Derived) (record : '\n' ∉ plan.names.record) :
    plan.listLines.flatMap methods.declared = [] := by
  have quoted : ∀ records ∈ plan.recordLists, ∀ query : Text, '\n' ∉ query →
      methods.declared (quote records.prop ++ query) = [] := fun records listed query single =>
    Model.declaredMethods_quoted ((plain_prop listed).notMem (by decide)) single
  rw [declared_listLines (by decide) (by decide) quoted legible sourced derived record]
  exact List.flatMap_eq_nil_iff.mpr fun _ _ => rfl

/-- Every dependency has its method. -/
theorem declaredMethods_endpointLines (legible : plan.Legible) (sourced : plan.Sourced)
    (derived : plan.Derived) :
    plan.endpointLines.flatMap methods.declared = plan.dependencies.map (·.cascade.endpoint) := by
  rw [endpointLines, endpoints, List.flatMap_map, List.flatMap_assoc, List.map_eq_flatMap]
  refine List.flatMap_congr fun dependency member => ?_
  obtain ⟨method, -, parameter, column⟩ := derived.plain_cascade member
  have child := (sourced.dependencies dependency member).child.1
  rw [List.flatMap_cons, methods.declared_nil, List.nil_append,
    Controller.declaredMethods_endpointLines method (parameter.notMem (by decide))
      (legible.targets _ child) (column.notMem (by decide)) (legible.feed_notMem_shownField _)]
  rfl

/-- The names of an entity that every controller and page holds are single rows. -/
theorem feed_notMem_names (options : Options) : '\n' ∉ (ofOptions options).names.model ∧
    '\n' ∉ (ofOptions options).names.record ∧ '\n' ∉ (ofOptions options).names.label ∧
    '\n' ∉ (ofOptions options).names.labelPlural ∧ '\n' ∉ (ofOptions options).names.route := by
  obtain ⟨names, -⟩ := plain_ofOptions options
  have words : ∀ label : Text, (∀ c ∈ label, isPlain c = true ∨ c = ' ') → '\n' ∉ label := by
    intro label letters inside
    exact absurd (letters '\n' inside) (by decide)
  exact ⟨names.model.notMem (by decide), (Names.plain_record options.displayName).notMem (by decide),
    words _ fun _ => Names.isPlain_of_mem_label, words _ names.labelPlural,
    names.route.notMem (by decide)⟩

/-- The relations that are loaded are one row. -/
theorem feed_notMem_loadedRelations (plan : Plan) : '\n' ∉ quoteList plan.loadedRelations := by
  refine feed_notMem_quoteList fun name listed => ?_
  obtain ⟨projection, -, rfl⟩ := List.mem_map.mp (mem_firstOccurrences.mp listed)
  exact (plain_lowerCamelCase projection.relation).notMem (by decide)

/-- The detail page has its method where there is one. -/
theorem declaredMethods_showLines (model : '\n' ∉ plan.names.model)
    (record : '\n' ∉ plan.names.record) (route : '\n' ∉ plan.names.route) :
    plan.showLines.flatMap methods.declared =
      if plan.viewMode = some .page then ["show".toList] else [] := by
  have loaded := plan.feed_notMem_loadedRelations
  unfold showLines
  split
  · have heading : methods.declared ("public function show(" ++ plan.names.model ++ " $" ++
        plan.names.record ++ "): Response") = ["show".toList] := by
      have words : ("public function show(" : Text) =
          "public function ".toList ++ ("show".toList ++ ['(']) := by decide
      have rest : '\n' ∉ plan.names.model ++ (" $" ++ (plan.names.record ++ "): Response")) := by
        simp only [List.mem_append, not_or]
        exact ⟨model, notMem_toList (by decide), record, notMem_toList (by decide)⟩
      rw [words]
      simp only [List.append_assoc, List.singleton_append]
      exact declared_method (by decide) (by decide) (by decide) rest
    have opening : methods.declared ("return Inertia::render('" ++ plan.names.route ++
        "/show', [") = [] := by
      rw [List.append_assoc]
      refine methods.declared_literal (by decide) ?_
      rw [List.mem_append, not_or]
      exact ⟨route, notMem_toList (by decide)⟩
    have member : ∀ loaded : Text, '\n' ∉ loaded → methods.declared ('\'' :: plan.names.record ++
        "' => $" ++ plan.names.record ++ loaded ++ ",") = [] := by
      intro loaded single
      have start : '\'' :: plan.names.record ++ "' => $" ++ plan.names.record ++ loaded ++ "," =
          ['\''] ++ (plan.names.record ++ "' => $" ++ plan.names.record ++ loaded ++ ",") := rfl
      rw [start, methods.declared_quiet (by decide)]
      simp only [List.mem_append, not_or]
      exact ⟨⟨⟨⟨record, notMem_toList (by decide)⟩, record⟩, single⟩, notMem_toList (by decide)⟩
    have rest : methods.declared "...$this->options(all: true)," = [] ∧
        methods.declared "]);" = [] := by
      decide +kernel
    simp only
    rw [methods.declared_below, declared_body, heading, methods.declared_block, opening,
      List.flatMap_cons, member, List.flatMap_singleton, rest.1, rest.2]
    · rfl
    · split
      · exact List.not_mem_nil
      · simp only [List.mem_append, not_or]
        exact ⟨⟨notMem_toList (by decide), loaded⟩, notMem_toList (by decide)⟩
  · rfl

/-- The classes that a controller uses are single rows. -/
theorem feed_notMem_controllerUses {options : Options} (legible : (ofOptions options).Legible) :
    ∀ name ∈ (ofOptions options).controllerUses, '\n' ∉ name := by
  have space := (feed_notMem_namespaces options).1
  have model := (feed_notMem_names options).1
  intro name listed
  simp only [controllerUses, List.mem_append, List.mem_map] at listed
  rcases listed with (common | json) | ⟨records, member, rfl⟩
  · simp only [commonControllerUses, List.mem_cons, List.not_mem_nil, or_false] at common
    have request : '\n' ∉ (ofOptions options).requestNamespace := by
      unfold requestNamespace
      rw [List.mem_append, not_or]
      exact ⟨space, notMem_toList (by decide)⟩
    rcases common with rfl | rfl | rfl | rfl | rfl | rfl | rfl | rfl
    · exact notMem_toList (by decide)
    · unfold modelClass
      simp only [List.mem_append, not_or]
      exact ⟨⟨space, notMem_toList (by decide)⟩, model⟩
    · simp only [List.mem_append, not_or]
      exact ⟨⟨⟨request, notMem_toList (by decide)⟩, model⟩, notMem_toList (by decide)⟩
    · simp only [List.mem_append, not_or]
      exact ⟨⟨⟨request, notMem_toList (by decide)⟩, model⟩, notMem_toList (by decide)⟩
    all_goals exact notMem_toList (by decide)
  · split at json
    · exact absurd json List.not_mem_nil
    · rw [List.mem_singleton.mp json]
      exact notMem_toList (by decide)
  · exact feed_notMem_relatedClass options
      (legible.feed_notMem_recordLists (sourced_ofOptions options) member).1

/-- The names around which the rows of a controller are written are single rows. -/
theorem feed_notMem_controllerTokens {options : Options} (legible : (ofOptions options).Legible) :
    ∀ placeholder ∈ Stub.controllerTokens,
      '\n' ∉ Placeholder.fragment (ofOptions options) .controller placeholder := by
  obtain ⟨names, -⟩ := plain_ofOptions options
  obtain ⟨model, record, label, -, route⟩ := feed_notMem_names options
  have sourced := sourced_ofOptions options
  have loaded := (ofOptions options).feed_notMem_loadedRelations
  intro placeholder listed
  simp only [Stub.controllerTokens, List.mem_cons, List.not_mem_nil, or_false] at listed
  rcases listed with rfl | rfl | rfl | rfl | rfl | rfl | rfl | rfl | rfl
  · show '\n' ∉ (ofOptions options).namespaceName ++ "\\Http\\Controllers"
    rw [List.mem_append, not_or]
    exact ⟨(feed_notMem_namespaces options).1, notMem_toList (by decide)⟩
  · exact model
  · show '\n' ∉ (ofOptions options).eagerLoads
    unfold eagerLoads
    split
    · exact List.not_mem_nil
    · simp only [List.mem_append, not_or]
      exact ⟨⟨notMem_toList (by decide), loaded⟩, notMem_toList (by decide)⟩
  · exact route
  · exact names.records.notMem (by decide)
  · refine feed_notMem_quoteList fun key listed => ?_
    rcases List.mem_cons.mp listed with rfl | further
    · exact notMem_toList (by decide)
    · obtain ⟨filter, member, rfl⟩ := List.mem_map.mp further
      exact legible.feed_notMem_filterKey sourced member
  · refine feed_notMem_quoteList fun key listed => ?_
    obtain ⟨field, member, rfl⟩ := List.mem_map.mp listed
    exact feed_notMem_of_word (legible.fields field (List.mem_filter.mp member).1)
  · exact record
  · exact label

/-- The methods of the controller, in their order. -/
def controllerMethods (plan : Plan) : List Text :=
  ["index".toList, "create".toList, "store".toList] ++
    (if plan.viewMode = some .page then ["show".toList] else []) ++
    ["edit".toList, "update".toList, "destroy".toList] ++
    plan.dependencies.map (·.cascade.endpoint) ++ ["options".toList]

/-- The controller of a plan declares its methods in their order if its names are legible. -/
theorem declaredMethods_controller {options : Options} (legible : (ofOptions options).Legible) :
    methods.declared (Artifact.controller.content (ofOptions options) Stub.controller) =
      (ofOptions options).controllerMethods := by
  obtain ⟨lines, written, readings⟩ := Stub.controller_readings
  have sourced := sourced_ofOptions options
  have derived := derived_ofOptions options
  obtain ⟨model, record, -, -, route⟩ := feed_notMem_names options
  rw [Artifact.content, written, methods.declared_template (feed_notMem_controllerTokens legible),
    readings]
  simp only [List.flatMap_cons, List.flatMap_nil, Reader.found, Placeholder.fragment,
    methods.declared_unlines]
  rw [controllerImports, ClassName.declaredMethods_importLines (feed_notMem_controllerUses legible),
    declaredMethods_searchLines legible sourced, declaredMethods_filterLines legible sourced,
    declaredMethods_mediaLines legible record, declaredMethods_mediaLines legible record,
    declaredMethods_showLines model record route, declaredMethods_endpointLines legible sourced derived,
    declaredMethods_listLines legible sourced derived record]
  simp only [controllerMethods, List.nil_append, List.append_nil, List.append_assoc, List.cons_append]

/-- The methods of a controller are distinct exactly if those of the cascades are. -/
theorem Derived.nodup_controllerMethods_iff (derived : plan.Derived) :
    plan.controllerMethods.Nodup ↔ (plan.dependencies.map (·.cascade.endpoint)).Nodup := by
  let standing : Bool → List Text := fun paged =>
    ["index".toList, "create".toList, "store".toList] ++ (if paged then ["show".toList] else []) ++
      ["edit".toList, "update".toList, "destroy".toList]
  have others : ∀ paged : Bool, (standing paged ++ ["options".toList]).Nodup := by decide
  have starts : ∀ paged : Bool, ∀ method ∈ standing paged ++ ["options".toList],
      method.head? ≠ some 'g' := by
    decide
  have methods : plan.controllerMethods = standing (plan.viewMode = some .page) ++
      (plan.dependencies.map (·.cascade.endpoint) ++ ["options".toList]) := by
    simp only [controllerMethods, standing, decide_eq_true_eq, List.append_assoc]
  have order : plan.controllerMethods.Perm (standing (plan.viewMode = some .page) ++
      ["options".toList] ++ plan.dependencies.map (·.cascade.endpoint)) := by
    rw [methods, List.append_assoc (standing _)]
    exact List.perm_append_comm.append_left _
  rw [order.nodup_iff, List.nodup_append]
  refine ⟨fun distinct => distinct.2.1, fun distinct => ⟨others _, distinct, ?_⟩⟩
  rintro method standing endpoint listed rfl
  obtain ⟨dependency, member, rfl⟩ := List.mem_map.mp listed
  have start : dependency.cascade.endpoint.head? = some 'g' := by
    rw [derived.cascades dependency member]
    rfl
  exact starts _ _ standing start

end Plan

end Scaffold
