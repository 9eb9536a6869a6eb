import Scaffold.Page.DependentList
import Scaffold.Page.TypeImport
import Scaffold.Proofs.Page.Unmarked

/-!
# The fragments of the pages without percent signs

What the pages and the type module of an entity are written from holds no percent sign if the plan
holds none: every import, declaration, state and control adds code without any to words of the plan.
-/
namespace Scaffold

open Text

namespace Component

/-- The name of a component holds none. -/
theorem unmarked_name (component : Component) : Text.Unmarked component.name := by
  cases component <;> exact unmarked_literal (.of rfl rfl)

/-- The module of a component holds none. -/
theorem unmarked_source (component : Component) : Text.Unmarked component.source := by
  cases component <;> exact unmarked_literal (.of rfl rfl)

end Component

namespace Dependency

variable {dependency : Dependency}

/-- The state of a dependent list. -/
theorem Unmarked.listLines (own : dependency.Unmarked) : AllUnmarked dependency.listLines := by
  have parent : Text.Unmarked dependency.parentValue := by
    unfold parentValue
    simp (disch := exact Spelled.of rfl rfl) [own.parent.foreignKey, -String.reduceToList]
  have address : Text.Unmarked dependency.address := by
    intro inside
    rcases Inflection.mem_replaceAll inside with path | value
    · exact own.cascade.routePath path
    · exact unmarked_cons.mpr ⟨by decide, unmarked_braced.mpr parent⟩ value
  have setter : Text.Unmarked dependency.setter := by
    unfold Dependency.setter
    simp (disch := exact Spelled.of rfl rfl) [-String.reduceToList]
  have option : Text.Unmarked recordOption := unmarked_literal (.of rfl rfl)
  unfold Dependency.listLines stateLine fetchLines initialList
  simp (disch := exact Spelled.of rfl rfl)
    [own.cascade.state, option, parent, address, setter, -String.reduceToList]

end Dependency

namespace TypeHelper

/-- The name of a helper. -/
theorem unmarked_name (helper : TypeHelper) : Text.Unmarked helper.name := by
  cases helper <;> exact unmarked_literal (.of rfl rfl)

/-- The declaration of a helper. -/
theorem unmarked_lines (helper : TypeHelper) : AllUnmarked helper.lines := by
  have option : Text.Unmarked Scaffold.recordOption := unmarked_literal (.of rfl rfl)
  unfold TypeHelper.lines interface
  cases helper <;>
    simp (disch := exact Spelled.of rfl rfl) [unmarked_name, option, -String.reduceToList]

end TypeHelper

namespace RecordAttribute

variable {name : Text} {fields : List Text} {type : ValueType}

/-- A value of a record. -/
theorem unmarked_value (own : Text.Unmarked name) (kind : Text.Unmarked type.text) :
    Text.Unmarked (RecordAttribute.line (.value name type)) := by
  simp only [RecordAttribute.line]
  simp (disch := exact Spelled.of rfl rfl) [own, kind, -String.reduceToList]

/-- A related record. -/
theorem unmarked_related (own : Text.Unmarked name) (shown : AllUnmarked fields) :
    Text.Unmarked (RecordAttribute.line (.related name fields)) := by
  have members : AllUnmarked (fields.map fun field => field ++ ": string | null") := by
    simp (disch := exact Spelled.of rfl rfl) [-String.reduceToList]
    exact shown
  have between : Text.Unmarked "; " := unmarked_literal (.of rfl rfl)
  have inner := members.joinWith between
  simp only [RecordAttribute.line]
  simp (disch := exact Spelled.of rfl rfl) [own, inner, -String.reduceToList]

end RecordAttribute

namespace Plan

variable {plan : Plan}

/-- An import of names from a module. -/
theorem unmarked_importLine {names : List Text} {source : Text} (own : AllUnmarked names)
    (path : Text.Unmarked source) : Text.Unmarked (importLine names source) := by
  unfold importLine
  simp (disch := exact Spelled.of rfl rfl) [own, path, -String.reduceToList]

/-- The names that are imported for a component. -/
theorem unmarked_componentNames (component : Component) : AllUnmarked (componentNames component) := by
  have parts : AllUnmarked selectParts := by
    unfold selectParts
    simp (disch := exact Spelled.of rfl rfl) [-String.reduceToList]
  unfold componentNames
  split
  · exact parts
  · simp (disch := exact Spelled.of rfl rfl) [-String.reduceToList]
  · simp [component.unmarked_name]

/-- The imports of the components of a form. -/
theorem unmarked_formImportLines (plan : Plan) : AllUnmarked plan.formImportLines := by
  simp only [formImportLines, allUnmarked_map]
  intro source member
  obtain ⟨component, -, rfl⟩ := List.mem_map.mp (mem_sortedDistinct.mp member)
  refine unmarked_importLine (fun name listed => ?_) component.unmarked_source
  obtain ⟨other, -, own⟩ := List.mem_flatMap.mp (mem_sortedDistinct.mp listed)
  exact unmarked_componentNames other name own

/-- The import of badges. -/
theorem unmarked_badgeImport : Text.Unmarked badgeImport := by
  refine unmarked_importLine ?_ (unmarked_literal (.of rfl rfl))
  simp (disch := exact Spelled.of rfl rfl) [-String.reduceToList]

/-- The imports of the detail view. -/
theorem unmarked_detailImportLines (plan : Plan) : AllUnmarked plan.detailImportLines := by
  simp [detailImportLines, unmarked_badgeImport]

/-- The request method that changes a record. -/
theorem unmarked_submitMethod (plan : Plan) : Text.Unmarked plan.submitMethod := by
  unfold submitMethod
  simp (disch := exact Spelled.of rfl rfl) [-String.reduceToList]

/-- The names imported for the state of a form. -/
theorem unmarked_stateImports (plan : Plan) : Text.Unmarked plan.stateImports := by
  unfold stateImports
  simp (disch := exact Spelled.of rfl rfl) [-String.reduceToList]

/-- The names of the record lists. -/
theorem unmarked_recordProps (plan : Plan) : AllUnmarked plan.recordProps := by
  intro prop member
  obtain ⟨records, listed, rfl⟩ := List.mem_map.mp member
  rcases List.mem_append.mp listed with relation | record
  · obtain ⟨relationship, -, rfl⟩ := List.mem_map.mp relation
    exact Code.unmarked_optionsName
  · obtain ⟨field, -, made⟩ := List.mem_filterMap.mp record
    obtain ⟨source, -, rfl⟩ := Option.map_eq_some_iff.mp made
    exact Code.unmarked_optionsName

/-- The types of the record lists. -/
theorem unmarked_recordPropLines (plan : Plan) : AllUnmarked plan.recordPropLines := by
  have option : Text.Unmarked recordOption := unmarked_literal (.of rfl rfl)
  unfold recordPropLines
  simp (disch := exact Spelled.of rfl rfl) [option, -String.reduceToList]
  exact plan.unmarked_recordProps

/-- The names of the record lists in the parameters of a page. -/
theorem unmarked_recordPropNames (plan : Plan) (first : Bool) :
    Text.Unmarked (plan.recordPropNames first) := by
  have props := plan.unmarked_recordProps
  unfold recordPropNames
  simp (disch := exact Spelled.of rfl rfl) [props, -String.reduceToList]
  exact fun _ => props

/-- The helpers of the type module. -/
theorem unmarked_helperLines (plan : Plan) : AllUnmarked plan.helperLines := by
  simp [helperLines, TypeHelper.unmarked_lines]

/-- The icons of the list page. -/
theorem unmarked_listIcons (plan : Plan) : AllUnmarked plan.listIcons := by
  suffices AllUnmarked
      (["Pencil".toList, "Plus".toList, "Search".toList, "Trash2".toList] ++
        (if plan.viewMode.isSome then ["Eye".toList] else []) ++
        (if plan.hasFilters then ["Filter".toList, "X".toList] else [])) from
    fun icon member => this icon (mem_sortedDistinct.mp member)
  simp (disch := exact Spelled.of rfl rfl) [-String.reduceToList]

/-- The button that shows the filters. -/
theorem unmarked_filterButtonLines (plan : Plan) : AllUnmarked plan.filterButtonLines := by
  unfold filterButtonLines
  simp (disch := exact Spelled.of rfl rfl) [-String.reduceToList]

/-- The projected relations and fields are those of the projections. -/
theorem mem_of_mem_projectionRuns {projections : List Projection} {run : Text × List Text}
    {field : Text} (member : run ∈ projectionRuns projections) (inside : field ∈ run.2) :
    ∃ projection ∈ projections, projection.field = field := by
  induction projections generalizing run with
  | nil => simp [projectionRuns] at member
  | cons projection rest ih =>
    have later : ∀ {other}, other ∈ projectionRuns rest → field ∈ other.2 →
        ∃ own ∈ projection :: rest, own.field = field := fun listed held => by
      obtain ⟨own, among, same⟩ := ih listed held
      exact ⟨own, List.mem_cons_of_mem _ among, same⟩
    have here : field ∈ [projection.field] → ∃ own ∈ projection :: rest, own.field = field :=
      fun held => ⟨projection, List.mem_cons_self, (List.mem_singleton.mp held).symm⟩
    cases runs : projectionRuns rest with
    | nil =>
      simp only [projectionRuns, runs, List.mem_singleton] at member
      subst member
      exact here inside
    | cons first others =>
      simp only [projectionRuns, runs] at member
      split at member
      · rcases List.mem_cons.mp member with rfl | listed
        · rcases List.mem_cons.mp inside with own | held
          · exact here (List.mem_singleton.mpr own)
          · exact later (by rw [runs]; exact List.mem_cons_self) held
        · exact later (by rw [runs]; exact List.mem_cons_of_mem _ listed) inside
      · rcases List.mem_cons.mp member with rfl | listed
        · exact here inside
        · exact later (by rw [runs]; exact listed) inside

namespace Unmarked

variable (clean : plan.Unmarked)
include clean

/-- The variable of one record in the pages. -/
theorem pageRecord : Text.Unmarked plan.pageRecord := Code.unmarked_pageVariable clean.names.record

/-- A column of the list. -/
theorem column (sourced : plan.Sourced) {column : TableColumn}
    (member : column ∈ plan.tableColumns) : column.Unmarked := by
  have source := sourced.columns column member
  cases column with
  | field column => exact clean.fields column source
  | relation projection => exact clean.projections projection source

/-- The attributes of a record. -/
theorem recordAttributeLines : AllUnmarked plan.recordAttributeLines := by
  simp only [Plan.recordAttributeLines, recordAttributes, allUnmarked_map, List.map_append,
    List.map_map, allUnmarked_append, Function.comp_apply]
  have keyType : Text.Unmarked (ValueType.nullable "number").text := Field.unmarked_numberKey
  refine ⟨⟨fun field member => ?_, fun relationship member => ?_⟩, fun run member => ?_⟩
  · exact RecordAttribute.unmarked_value (clean.fields field member).name field.unmarked_recordType
  · exact RecordAttribute.unmarked_value
      (clean.relationships relationship (mem_of_mem_foreignKeys member)).foreignKey keyType
  · refine RecordAttribute.unmarked_related (unmarked_snakeCase _) fun field held => ?_
    obtain ⟨projection, listed, rfl⟩ :=
      mem_of_mem_projectionRuns member (mem_firstOccurrences.mp held)
    exact (clean.projections projection listed).field

/-- The values of the form. -/
theorem formAttributeLines : AllUnmarked plan.formAttributeLines := by
  have line : ∀ {value : FormAttribute}, Text.Unmarked value.key → Text.Unmarked value.type.text →
      Text.Unmarked value.line := by
    intro value key type
    unfold FormAttribute.line
    simp (disch := exact Spelled.of rfl rfl) [key, type, -String.reduceToList]
  have values : AllUnmarked (plan.formAttributes.map FormAttribute.line) := by
    simp only [formAttributes, List.map_append, List.map_map, allUnmarked_append, allUnmarked_map]
    exact ⟨fun field member => line (clean.fields field member).name field.unmarked_formType,
      fun relationship member => line
        (clean.relationships relationship (mem_of_mem_formRelations member)).foreignKey
        Field.unmarked_numberKey⟩
  unfold Plan.formAttributeLines
  simp (disch := exact Spelled.of rfl rfl) only [allUnmarked_append, allUnmarked_ite,
    allUnmarked_cons, allUnmarked_nil, unmarked_literal, values, implies_true, and_self]

/-- The values of the filters. -/
theorem filterAttributeLines (sourced : plan.Sourced) : AllUnmarked plan.filterAttributeLines := by
  unfold Plan.filterAttributeLines
  simp (disch := exact Spelled.of rfl rfl) [-String.reduceToList]
  exact fun filter member => (clean.filter sourced member).key

/-- The option lists and labels of the fields. -/
theorem optionLines : AllUnmarked plan.optionLines := by
  simp only [Plan.optionLines, allUnmarked_flatMap, allUnmarked_cons, unmarked_nil, true_and]
  exact fun field member => (clean.fields field (List.mem_filter.mp member).1).optionLines

/-- The initial values of a form. -/
theorem formDefaultLines {purpose : FormPurpose} (record : purpose.Unmarked) :
    AllUnmarked (plan.formDefaultLines purpose) := by
  have values : AllUnmarked ((plan.formDefaults purpose).map FormDefault.line) := by
    simp only [formDefaults, List.map_append, List.map_map, allUnmarked_append, allUnmarked_map]
    refine ⟨fun field member => ?_, fun relationship member => ?_⟩
    · refine FormDefault.unmarked_line (clean.fields field member).name field.unmarked_blankValue ?_
      cases purpose with
      | create => simp [fieldDefault]
      | edit own =>
        have own : Text.Unmarked own := record
        simpa [fieldDefault] using fun _ => own
    · have own := clean.relationships relationship (mem_of_mem_formRelations member)
      refine FormDefault.unmarked_line own.foreignKey (unmarked_literal (.of rfl rfl)) ?_
      cases purpose with
      | create => simp [relationDefault]
      | edit own =>
        have own : Text.Unmarked own := record
        simpa [relationDefault] using own
  unfold Plan.formDefaultLines
  simp (disch := exact Spelled.of rfl rfl) only [allUnmarked_append, allUnmarked_ite,
    allUnmarked_cons, allUnmarked_nil, unmarked_literal, values, implies_true, and_self]

/-- The control of a relationship. -/
theorem relationControl (sourced : plan.Sourced) (relationship : Relationship) :
    (plan.relationControl relationship).Unmarked := by
  refine ⟨⟨?_, fun shown found => ?_⟩, ?_⟩
  · show Text.Unmarked (((plan.dependencyOf? relationship.name).map (·.cascade.state)).getD _)
    cases found : plan.dependencyOf? relationship.name with
    | none => exact Code.unmarked_optionsName
    | some dependency => exact (clean.dependencyOf? sourced dependency found).cascade.state
  · obtain rfl := Option.some.inj found
    exact clean.shownField relationship
  · simp only [clearedKeys, allUnmarked_map]
    exact fun dependency member =>
      (clean.dependency sourced (List.mem_filter.mp member).1).child.foreignKey

/-- The inputs of a form. -/
theorem formInputLines (sourced : plan.Sourced) {purpose : FormPurpose} (record : purpose.Unmarked) :
    AllUnmarked (plan.formInputLines purpose) := by
  simp only [Plan.formInputLines, formInputs, List.flatMap_append, List.flatMap_map,
    allUnmarked_append, allUnmarked_flatMap]
  refine ⟨fun field member => ?_, fun relationship member => ?_⟩
  · have own := clean.fields field member
    refine FormInput.unmarked_lines own.name own.label own.control ?_
    cases purpose with
    | create => exact allUnmarked_nil
    | edit variableName =>
      simp only [fieldInput, allUnmarked_ite]
      exact ⟨fun _ => own.storedLines record, fun _ => allUnmarked_nil⟩
  · have own := clean.relationships relationship (mem_of_mem_formRelations member)
    exact FormInput.unmarked_lines own.foreignKey (unmarked_snakeCase _).labelFor
      (clean.relationControl sourced relationship) allUnmarked_nil

/-- The call that submits a form. -/
theorem submitCall {purpose : FormPurpose} (record : purpose.Unmarked) :
    Text.Unmarked (plan.submitCall purpose) := by
  have method := plan.unmarked_submitMethod
  unfold Plan.submitCall
  cases purpose with
  | create =>
    simp (disch := exact Spelled.of rfl rfl) [clean.names.route, -String.reduceToList]
  | edit variableName =>
    have variableName : Text.Unmarked variableName := record
    simp (disch := exact Spelled.of rfl rfl)
      [method, variableName, clean.names.route, -String.reduceToList]

/-- The dependent lists of a form. -/
theorem dependentListLines (sourced : plan.Sourced) : AllUnmarked plan.dependentListLines := by
  simp only [Plan.dependentListLines, allUnmarked_flatMap, allUnmarked_cons, unmarked_nil, true_and]
  exact fun dependency member => (clean.dependency sourced member).listLines

/-- The cards of the detail view. -/
theorem detailCardLines : AllUnmarked plan.detailCardLines := by
  have card : ∀ {label content : Text}, Text.Unmarked label → Text.Unmarked content →
      AllUnmarked (cardLines label content) := by
    intro label content words shown
    have step : Text.Unmarked Code.step := unmarked_literal (.of rfl rfl)
    have inner := shown.indentLines (unmarked_append.mpr ⟨step, step⟩)
    unfold cardLines
    simp (disch := exact Spelled.of rfl rfl) [words, inner, -String.reduceToList]
  simp only [Plan.detailCardLines, allUnmarked_append, allUnmarked_flatMap]
  refine ⟨fun field member => ?_, fun projection member => ?_⟩
  · have own := clean.fields field member
    exact card own.label (unmarked_unlines.mpr (own.viewLines clean.pageRecord))
  · have own := clean.projections projection member
    exact card own.label (own.view clean.pageRecord)

/-- The component of the dialog. -/
theorem dialogName : Text.Unmarked plan.dialogName := by
  unfold Plan.dialogName
  simp (disch := exact Spelled.of rfl rfl) [clean.names.model, -String.reduceToList]

/-- The state of the dialog. -/
theorem dialogStateLines : AllUnmarked plan.dialogStateLines := by
  unfold Plan.dialogStateLines
  simp (disch := exact Spelled.of rfl rfl) [clean.names.model, -String.reduceToList]

/-- The button that opens the detail view. -/
theorem detailButtonLines : AllUnmarked plan.detailButtonLines := by
  have icon : Text.Unmarked eyeIcon := by
    unfold eyeIcon
    simp (disch := exact Spelled.of rfl rfl) [-String.reduceToList]
  unfold Plan.detailButtonLines
  split <;>
    simp (disch := exact Spelled.of rfl rfl)
      [icon, clean.pageRecord, clean.names.route, -String.reduceToList]

/-- The dialog on the list page. -/
theorem dialogLines : AllUnmarked plan.dialogLines := by
  have props : Markup.AllUnmarked (plan.recordProps.map fun prop => .code prop prop) := by
    intro own member
    obtain ⟨prop, listed, rfl⟩ := List.mem_map.mp member
    have clean := plan.unmarked_recordProps prop listed
    exact Markup.unmarked_code.mpr ⟨clean, clean⟩
  unfold Plan.dialogLines
  simp (disch := exact Spelled.of rfl rfl)
    [clean.dialogName, clean.pageRecord, props, -String.reduceToList]

/-- The import of the dialog. -/
theorem dialogImportLines : AllUnmarked plan.dialogImportLines := by
  unfold Plan.dialogImportLines
  simp (disch := exact Spelled.of rfl rfl)
    [clean.dialogName, clean.names.routeSingular, -String.reduceToList]

/-- The headings of the columns. -/
theorem headingLines (sourced : plan.Sourced) : AllUnmarked plan.headingLines := by
  unfold Plan.headingLines
  simp (disch := exact Spelled.of rfl rfl) [-String.reduceToList]
  intro column member
  have own := clean.column sourced member
  cases column with
  | field column => exact Field.Unmarked.label own
  | relation projection => exact Projection.Unmarked.label own

/-- The cells of a row. -/
theorem cellLines (sourced : plan.Sourced) : AllUnmarked plan.cellLines := by
  unfold Plan.cellLines
  simp (disch := exact Spelled.of rfl rfl) [-String.reduceToList]
  intro column member
  have own := clean.column sourced member
  cases column with
  | field column => exact unmarked_unlines.mpr (Field.Unmarked.viewLines own clean.pageRecord)
  | relation projection => exact Projection.Unmarked.view own clean.pageRecord

/-- The hint in the search box. -/
theorem searchHint (sourced : plan.Sourced) : Text.Unmarked plan.searchHint := by
  unfold Plan.searchHint
  split
  · rename_i column found
    have listed := List.mem_of_mem_head? (Option.mem_def.mpr found)
    have words := (clean.fields _ (sourced.searches column listed)).label.lower
    simp (disch := exact Spelled.of rfl rfl) [words, -String.reduceToList]
  · simp (disch := exact Spelled.of rfl rfl) [clean.names.labelPlural.lower, -String.reduceToList]

/-- The state of the filters. -/
theorem filterStateLines (sourced : plan.Sourced) : AllUnmarked plan.filterStateLines := by
  have keys : ∀ filter ∈ plan.filters, Text.Unmarked filter.key :=
    fun filter member => (clean.filter sourced member).key
  unfold Plan.filterStateLines activeFilters
  simp (disch := exact Spelled.of rfl rfl) [-String.reduceToList]
  exact fun _ => keys

/-- The choices of a filter. -/
theorem filterChoices (sourced : plan.Sourced) {filter : Filter} (member : filter ∈ plan.filters) :
    (filter.choices plan).Unmarked := by
  have own := clean.filter sourced member
  have preset : Text.Unmarked defaultShown := unmarked_literal (.of rfl rfl)
  cases filter with
  | options column => exact ⟨Code.unmarked_optionsName, by simp [Filter.choices]⟩
  | records column =>
    refine ⟨Code.unmarked_optionsName, fun shown found => ?_⟩
    obtain rfl := Option.some.inj found
    cases source : column.source? with
    | none => exact preset
    | some pair => exact (Field.Unmarked.source own pair source).2
  | relation relationship =>
    refine ⟨Code.unmarked_optionsName, fun shown found => ?_⟩
    obtain rfl := Option.some.inj found
    cases listed : plan.recordLists.find? (·.prop == Code.optionsName relationship.name) with
    | none => exact preset
    | some records => exact (clean.recordLists sourced records (List.mem_of_find?_eq_some listed)).shown

/-- The controls of the filters. -/
theorem filterControlLines (sourced : plan.Sourced) : AllUnmarked plan.filterControlLines := by
  have keys : ∀ filter ∈ plan.filters, Text.Unmarked filter.key :=
    fun filter member => (clean.filter sourced member).key
  have controls : AllUnmarked (plan.filters.flatMap (Filter.lines plan)) := by
    simp only [allUnmarked_flatMap]
    intro filter member
    unfold Filter.lines Filter.applyCall
    simp (disch := exact Spelled.of rfl rfl) [keys filter member,
      (clean.filter sourced member).label, (clean.filterChoices sourced member).code,
      -String.reduceToList]
  have clear : AllUnmarked plan.clearButtonLines := by
    unfold clearButtonLines Filter.applyCall
    simp (disch := exact Spelled.of rfl rfl) [-String.reduceToList]
    exact keys
  have step : Text.Unmarked Code.step := unmarked_literal (.of rfl rfl)
  have inner := (unmarked_unlines.mpr controls).indentLines (unmarked_append.mpr ⟨step, step⟩)
  unfold Plan.filterControlLines twoSteps
  simp (disch := exact Spelled.of rfl rfl) [inner, clear, -String.reduceToList]

/-- The imports of the list page. -/
theorem listImportLines : AllUnmarked plan.listImportLines := by
  have parts : Text.Unmarked (importLine selectParts "@/components/ui/select") :=
    unmarked_importLine (unmarked_componentNames .select) (unmarked_literal (.of rfl rfl))
  simp only [Plan.listImportLines, allUnmarked_append, allUnmarked_ite, allUnmarked_cons,
    allUnmarked_nil, unmarked_badgeImport, parts, clean.dialogImportLines, implies_true, and_self]

/-- The names imported from the type module. -/
theorem typeImports (artifact : Artifact) :
    AllUnmarked ((plan.typeImports artifact).map TypeImport.written) := by
  have option : Text.Unmarked recordOption := unmarked_literal (.of rfl rfl)
  have label : Text.Unmarked recordLabel := unmarked_literal (.of rfl rfl)
  have own : AllUnmarked (plan.ownTypes artifact) := by
    unfold ownTypes
    split <;>
      simp (disch := exact Spelled.of rfl rfl) [clean.names.model, -String.reduceToList]
  have views : ∀ field : Field, AllUnmarked field.viewImports := by
    intro field
    unfold Field.viewImports
    split <;> simp [label]
  have columns : AllUnmarked (plan.tableColumns.flatMap columnImports) := by
    simp only [allUnmarked_flatMap]
    intro column _
    cases column with
    | field column => exact views column
    | relation projection => exact allUnmarked_nil
  have filters : AllUnmarked (plan.filters.filterMap filterOptions?) := by
    intro list member
    obtain ⟨filter, -, found⟩ := List.mem_filterMap.mp member
    cases filter with
    | options column =>
      obtain rfl := Option.some.inj found
      exact Code.unmarked_optionsName
    | _ => simp [filterOptions?] at found
  have used : AllUnmarked (plan.usedValues artifact) := by
    unfold usedValues
    split <;> simp [columns, filters, views]
  have firsts : AllUnmarked (firstOccurrences (plan.usedValues artifact)) :=
    fun name member => used name (mem_firstOccurrences.mp member)
  have typed : ∀ {name : Text}, Text.Unmarked name →
      Text.Unmarked (TypeImport.written (.type name)) := by
    intro name plain
    unfold TypeImport.written
    simp (disch := exact Spelled.of rfl rfl) [plain, -String.reduceToList]
  have lists : AllUnmarked (if plan.recordLists.isEmpty then [] else [recordOption]) := by
    simp [option]
  simp only [allUnmarked_map, Plan.typeImports, List.forall_mem_append, List.forall_mem_map]
  exact ⟨⟨fun name member => typed (own name member), fun name member => typed (lists name member)⟩,
    firsts⟩

end Unmarked

end Plan

end Scaffold
