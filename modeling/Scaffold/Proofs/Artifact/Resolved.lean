import Scaffold.Artifact.Output
import Scaffold.Proofs.Page.Fragment
import Scaffold.Proofs.Stub

/-!
# Output without tokens

Options without percent signs make files without tokens (`Plan.resolved_output`). Every fragment but
one holds no percent sign; the search conditions hold some, each with a brace or a quote beside it,
and stand alone on their line. The stubs are tidy, so no two percent signs meet where a fragment is
put in.
-/
namespace Scaffold

open Text Template

/-- A literal is settled if the list of its characters is. -/
theorem Template.settled_literal {literal : String} {text : Text}
    (letters : literal = String.ofList text) (apart : occursIn delimiter text = false)
    (last : (text.getLast? == some '%') = false) : Settled literal.toList := by
  subst letters
  rw [String.toList_ofList]
  refine ⟨fun inside => ?_, by simpa using last⟩
  rw [occursIn_iff.mpr inside] at apart
  exact Bool.noConfusion apart

/-- Lines one step deeper are settled if they were before. -/
theorem Code.settled_deeper {lines : List Text} (settled : ∀ line ∈ lines, Settled line) :
    ∀ line ∈ deeper lines, Settled line := by
  intro line member
  obtain ⟨own, listed, rfl⟩ := List.mem_map.mp member
  have margin : Unmarked step := unmarked_literal (.of rfl rfl)
  split
  · exact .of_unmarked unmarked_nil
  · exact (Settled.of_unmarked margin).append (settled own listed)

/-- A block is settled line by line if its lines are. -/
theorem Code.settled_block {opening closing : Text} {body : List Text} (first : Settled opening)
    (inner : ∀ line ∈ body, Settled line) (last : Settled closing) :
    ∀ line ∈ block opening body closing, Settled line :=
  List.forall_mem_append.mpr
    ⟨List.forall_mem_cons.mpr ⟨first, settled_deeper inner⟩, List.forall_mem_singleton.mpr last⟩

namespace Controller

variable {column : SearchColumn}

/-- The arguments of a search condition are settled if the name of its field holds no percent
sign. -/
theorem settled_searchCall (own : column.field.Unmarked) :
    Unmarked (searchCall column).1 ∧ Settled (searchCall column).2 := by
  have name : Unmarked (quote column.field.name) := unmarked_quote.mpr own.name
  unfold searchCall
  split
  · exact ⟨unmarked_literal (.of rfl rfl),
      (Settled.of_unmarked name).append (settled_literal rfl rfl rfl)⟩
  · refine ⟨unmarked_literal (.of rfl rfl), .of_unmarked ?_⟩
    simp (disch := exact Spelled.of rfl rfl) [name, -String.reduceToList]
  · refine ⟨unmarked_literal (.of rfl rfl), .of_unmarked (unmarked_append.mpr ⟨name, ?_⟩)⟩
    split <;> exact unmarked_literal (.of rfl rfl)

/-- A call is settled if its method holds no percent sign and its arguments are settled. -/
theorem settled_call {method arguments front : Text} (before : Unmarked front)
    (own : Unmarked method) (settled : Settled arguments) :
    Settled (front ++ method ++ '(' :: arguments ++ ")") := by
  have opened : Unmarked (front ++ method ++ ['(']) := by simp [before, own]
  have closed : Unmarked ")" := unmarked_literal (.of rfl rfl)
  have whole := ((Settled.of_unmarked opened).append settled).append (Settled.of_unmarked closed)
  simpa only [List.append_assoc, List.cons_append, List.nil_append] using whole

/-- The lines of a statement are settled with its end if they are without. -/
theorem settled_ended {lines : List Text} (settled : ∀ line ∈ lines, Settled line) :
    ∀ line ∈ ended lines, Settled line := by
  have closed : Unmarked ";" := unmarked_literal (.of rfl rfl)
  match lines with
  | [] => simp [ended]
  | [last] =>
    rw [ended, List.forall_mem_singleton]
    exact (settled last List.mem_cons_self).append (.of_unmarked closed)
  | line :: next :: rest =>
    obtain ⟨own, others⟩ := List.forall_mem_cons.mp settled
    exact List.forall_mem_cons.mpr ⟨own, settled_ended others⟩

/-- The search conditions are settled if the names of their fields hold no percent signs. -/
theorem settled_searchConditions {columns : List SearchColumn}
    (own : ∀ column ∈ columns, column.field.Unmarked) :
    ∀ line ∈ searchConditions columns, Settled line := by
  cases columns with
  | nil => simp [searchConditions]
  | cons first rest =>
    obtain ⟨front, others⟩ := List.forall_mem_cons.mp own
    refine settled_ended (List.forall_mem_cons.mpr ⟨?_, Code.settled_deeper fun line member => ?_⟩)
    · obtain ⟨method, arguments⟩ := settled_searchCall front
      exact settled_call (unmarked_literal (.of rfl rfl)) method arguments
    · obtain ⟨column, listed, rfl⟩ := List.mem_map.mp member
      obtain ⟨method, arguments⟩ := settled_searchCall (others column listed)
      exact settled_call (unmarked_literal (.of rfl rfl)) method.capitalized arguments

end Controller

namespace Plan

variable {plan : Plan}

/-- The search of the list is settled line by line. -/
theorem Unmarked.settled_searchLines (clean : plan.Unmarked) (sourced : plan.Sourced) :
    ∀ line ∈ plan.searchLines, Settled line := by
  have conditions := Controller.settled_searchConditions fun column member =>
    clean.fields column.field (sourced.searches column member)
  have literal : ∀ {line : String}, Spelled line → Settled line.toList :=
    fun spelled => .of_unmarked (unmarked_literal spelled)
  have heading : Settled ("if ($search = trim((string) $request->input('search')))" ++ " \x7b") :=
    (literal (.of rfl rfl)).append (literal (.of rfl rfl))
  unfold Plan.searchLines
  split
  · simp
  · refine List.forall_mem_cons.mpr ⟨.of_unmarked unmarked_nil, Code.settled_block heading ?_ ?_⟩
    · exact Code.settled_block (literal (.of rfl rfl)) conditions (literal (.of rfl rfl))
    · exact .of_unmarked (by simp)

/-- Every fragment of a plan without percent signs, but for the search conditions, holds none. -/
theorem Unmarked.fragment (clean : plan.Unmarked) (sourced : plan.Sourced) (artifact : Artifact)
    {placeholder : Placeholder} (other : Stub.isLoose placeholder = false) :
    Text.Unmarked (placeholder.fragment plan artifact) := by
  have purpose : (artifact.formPurpose plan).Unmarked := by
    unfold Artifact.formPurpose
    split
    · exact clean.pageRecord
    · trivial
  cases placeholder with
  | modelName => exact clean.names.model
  | modelNamePlural => exact clean.names.modelPlural
  | modelVariable => exact clean.names.record
  | modelVariablePlural => exact clean.names.records
  | modelLabel => exact clean.names.label
  | modelLabelPlural => exact clean.names.labelPlural
  | tableName => exact clean.names.table
  | snakeName => exact clean.names.snake
  | routeName => exact clean.names.route
  | routeNameSingular => exact clean.names.routeSingular
  | jsVariable => exact clean.pageRecord
  | modelClass => exact clean.modelClass
  | modelNamespace => exact clean.modelNamespace
  | controllerNamespace => exact clean.controllerNamespace
  | requestNamespace => exact clean.requestNamespace
  | factoryNamespace => exact clean.factoryNamespace
  | migrationColumns => exact unmarked_unlines.mpr clean.columnLines
  | migrationForeignKeys => exact unmarked_unlines.mpr clean.keyLines
  | modelImports => exact unmarked_unlines.mpr clean.modelImports
  | modelInterfaces => exact unmarked_modelInterfaces plan
  | modelTraits => exact unmarked_modelTraits plan
  | fillable => exact unmarked_unlines.mpr clean.fillableLines
  | casts => exact unmarked_unlines.mpr clean.castLines
  | modelAppends => exact unmarked_unlines.mpr clean.appendLines
  | modelFactoryMethod => exact unmarked_unlines.mpr clean.factoryMethodLines
  | modelRelations => exact unmarked_unlines.mpr clean.relationLines
  | modelMediaMethods => exact unmarked_unlines.mpr clean.mediaMethodLines
  | requestImports => exact unmarked_unlines.mpr (unmarked_requestImports plan _)
  | storeRules => exact unmarked_unlines.mpr clean.storeRuleLines
  | updateRules => exact unmarked_unlines.mpr clean.updateRuleLines
  | factoryImports => exact unmarked_unlines.mpr clean.factoryImports
  | factoryDefinitions => exact unmarked_unlines.mpr clean.factoryLines
  | controllerImports => exact unmarked_unlines.mpr (clean.controllerImports sourced)
  | eagerLoads => exact unmarked_eagerLoads plan
  | searchQuery => exact absurd other (by decide)
  | filterQuery => exact unmarked_unlines.mpr (clean.filterLines sourced)
  | filterKeys => exact clean.filterKeys sourced
  | mediaKeys => exact clean.mediaKeys
  | mediaStore => exact unmarked_unlines.mpr (clean.mediaLines false)
  | mediaUpdate => exact unmarked_unlines.mpr (clean.mediaLines true)
  | showMethod => exact unmarked_unlines.mpr clean.showLines
  | cascadeEndpoints => exact unmarked_unlines.mpr (clean.endpointLines sourced)
  | optionQueries => exact unmarked_unlines.mpr (clean.listLines sourced)
  | indexIcons => exact unmarked_commaList.mpr (unmarked_listIcons plan)
  | indexImports => exact unmarked_unlines.mpr clean.listImportLines
  | searchPlaceholder => exact clean.searchHint sourced
  | filterState => exact unmarked_unlines.mpr (clean.filterStateLines sourced)
  | filterBadge => exact unmarked_unlines.mpr (unmarked_filterButtonLines plan)
  | filterUi => exact unmarked_unlines.mpr (clean.filterControlLines sourced)
  | tableHeaders => exact unmarked_unlines.mpr (clean.headingLines sourced)
  | tableCells => exact unmarked_unlines.mpr (clean.cellLines sourced)
  | detailState => exact unmarked_unlines.mpr clean.dialogStateLines
  | detailTrigger => exact unmarked_unlines.mpr clean.detailButtonLines
  | detailComponent => exact unmarked_unlines.mpr clean.dialogLines
  | typeImports => exact unmarked_commaList.mpr (clean.typeImports artifact)
  | pageProps => exact unmarked_unlines.mpr (unmarked_recordPropLines plan)
  | pagePropNames => exact unmarked_recordPropNames plan _
  | reactImports => exact unmarked_stateImports plan
  | formImports => exact unmarked_unlines.mpr (unmarked_formImportLines plan)
  | formProps => exact unmarked_unlines.mpr (unmarked_recordPropLines plan)
  | formPropNames => exact unmarked_recordPropNames plan _
  | formDefaults => exact unmarked_unlines.mpr (clean.formDefaultLines purpose)
  | cascadeState => exact unmarked_unlines.mpr (clean.dependentListLines sourced)
  | formFields => exact unmarked_unlines.mpr (clean.formInputLines sourced purpose)
  | submitCall => exact clean.submitCall purpose
  | submitMethod => exact unmarked_submitMethod plan
  | typeHelpers => exact unmarked_unlines.mpr (unmarked_helperLines plan)
  | modelAttributes => exact unmarked_unlines.mpr clean.recordAttributeLines
  | formAttributes => exact unmarked_unlines.mpr clean.formAttributeLines
  | filterAttributes => exact unmarked_unlines.mpr (clean.filterAttributeLines sourced)
  | optionConstants => exact unmarked_unlines.mpr clean.optionLines
  | detailImports => exact unmarked_unlines.mpr (unmarked_detailImportLines plan)
  | detailCards => exact unmarked_unlines.mpr clean.detailCardLines

/-- No fragment of such a plan holds a delimiter, and only the search conditions may end in a percent
sign. -/
theorem Unmarked.settled_fragment (clean : plan.Unmarked) (sourced : plan.Sourced)
    (artifact : Artifact) (placeholder : Placeholder) :
    Resolved (placeholder.fragment plan artifact) ∧
      (Stub.isLoose placeholder = false → Settled (placeholder.fragment plan artifact)) := by
  cases loose : Stub.isLoose placeholder with
  | false =>
    have settled := Settled.of_unmarked (clean.fragment sourced artifact loose)
    exact ⟨settled.resolved, fun _ => settled⟩
  | true =>
    obtain rfl : placeholder = .searchQuery := by simpa [Stub.isLoose] using loose
    refine ⟨resolved_unlines fun line member => ?_, fun other => Bool.noConfusion other⟩
    exact (clean.settled_searchLines sourced line member).resolved

/-- The content of an artifact of such a plan holds no delimiter. -/
theorem Unmarked.resolved_content (clean : plan.Unmarked) (sourced : plan.Sourced)
    (artifact : Artifact) :
    Resolved (artifact.content plan (Stub.ofArtifact artifact)) := by
  have fragments := clean.settled_fragment sourced artifact
  refine (settled_flatMap fun piece member => ?_).resolved
  exact Piece.settled_fill (Stub.tidy artifact piece member) (fun placeholder => (fragments placeholder).1)
    fun placeholder => (fragments placeholder).2

/-- The stubs give every artifact of a plan its content. -/
theorem output_stubs (plan : Plan) (tree : Tree) (start : Location) :
    plan.output .stubs tree start =
      ⟨(Artifact.ofPlan plan).map fun artifact =>
        ⟨artifact, artifact.path plan, artifact.content plan (Stub.ofArtifact artifact)⟩, []⟩ := by
  simp [output, outputOf, outputFile, TemplateSource.load, Function.comp_def, Except.toOption]

/-- **No token is left.** If no percent sign stands in the options, the stubs give every artifact of
their plan a content, and no delimiter stands in any of them. -/
theorem resolved_output {options : Options} (clean : options.Unmarked) (tree : Tree)
    (start : Location) :
    ((ofOptions options).output .stubs tree start).failures = [] ∧
      ((ofOptions options).output .stubs tree start).files.map (·.artifact) =
        Artifact.ofPlan (ofOptions options) ∧
      ∀ file ∈ ((ofOptions options).output .stubs tree start).files, Resolved file.content := by
  rw [output_stubs]
  refine ⟨rfl, by simp [Function.comp_def], fun file member => ?_⟩
  obtain ⟨artifact, -, rfl⟩ := List.mem_map.mp member
  exact (unmarked_ofOptions clean).resolved_content (sourced_ofOptions options) artifact

/-- Tickets with a searched field, so the search conditions hold percent signs. -/
def searchedTickets : Options :=
  { displayName := "Ticket", fields := "title,status:select:array:Open|Closed"
    searchable := ["title"] }

/-- Tickets with a searched field are written without tokens. -/
theorem resolved_output_tickets : searchedTickets.Unmarked ∧
    ((ofOptions searchedTickets).output .stubs ⟨[]⟩ []).failures = [] ∧
      ∀ file ∈ ((ofOptions searchedTickets).output .stubs ⟨[]⟩ []).files,
        Resolved file.content := by
  have word : Text.Unmarked "title" := unmarked_literal (.of rfl rfl)
  have clean : searchedTickets.Unmarked :=
    { displayName := unmarked_literal (.of rfl rfl)
      fields := unmarked_literal (.of rfl rfl)
      relationships := unmarked_nil
      projections := unmarked_nil
      tableColumns := allUnmarked_nil
      searchable := List.forall_mem_singleton.mpr word
      filterable := allUnmarked_nil
      icon := nofun
      package := nofun
      systemSetup := nofun }
  have whole := resolved_output clean ⟨[]⟩ []
  exact ⟨clean, whole.1, whole.2.2⟩

end Plan

end Scaffold
