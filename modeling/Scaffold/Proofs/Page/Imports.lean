import Scaffold.Proofs.Page.Mention
import Scaffold.Proofs.Page.Records

/-!
# What the pages import from the type module

Each name that a page imports is among the names that the type module declares
(`Plan.mem_declaredNames_of_mem_typeImports`), which it exports. In turn a page imports every helper
that its cells, cards and filters refer to (`Plan.type_imports_agree`).

Three case distinctions meet here, which are made apart: what is declared depends on the whole plan,
what is imported on each column, filter and field, and what is referred to on the view of a value.
-/
namespace Scaffold

open Text Code

namespace Plan

variable {plan : Plan} {name : Text} {artifact : Artifact}

/-- The type of listed records is declared if the pages receive any. -/
theorem recordOption_mem_declaredNames (some : plan.recordLists ≠ []) :
    recordOption ∈ plan.declaredNames := by
  have helper : .recordOption ∈ plan.typeHelpers := by
    simp [typeHelpers, helperIf, some]
  exact List.mem_append_left _ (List.mem_append_left _
    (List.mem_map.mpr ⟨.recordOption, helper, rfl⟩))

/-- The label of listed records is declared if a field has records as options. -/
theorem recordLabel_mem_declaredNames {field : Field} (member : field ∈ plan.fields)
    (records : field.hasRecords = true) : recordLabel ∈ plan.declaredNames := by
  have some : plan.dynamicFields ≠ [] :=
    List.ne_nil_of_mem (List.mem_filter.mpr ⟨member, records⟩)
  have helper : .recordLabel ∈ plan.typeHelpers := by
    simp [typeHelpers, helperIf, some]
  exact List.mem_append_left _ (List.mem_append_left _
    (List.mem_map.mpr ⟨.recordLabel, helper, rfl⟩))

/-- The option list and the label function of a field with labels are declared. -/
theorem mem_declaredNames_of_hasLabels {field : Field} (member : field ∈ plan.fields)
    (labels : field.hasLabels = true) :
    Code.optionsName field.name ∈ plan.declaredNames ∧
      Code.labelFunction field.name ∈ plan.declaredNames := by
  have own : field ∈ plan.staticFields := List.mem_filter.mpr ⟨member, labels⟩
  exact ⟨List.mem_append_right _ (List.mem_flatMap.mpr ⟨field, own, List.mem_cons_self⟩),
    List.mem_append_right _
      (List.mem_flatMap.mpr ⟨field, own, List.mem_cons_of_mem _ List.mem_cons_self⟩)⟩

/-- What shows a field is declared. -/
theorem mem_declaredNames_of_mem_viewImports {field : Field} (member : field ∈ plan.fields)
    (used : name ∈ field.viewImports) : name ∈ plan.declaredNames := by
  unfold Field.viewImports at used
  split at used
  · rename_i words labelled
    obtain rfl := List.mem_singleton.mp used
    have labels : field.hasLabels = true := by simp [Field.hasLabels, Field.labels?, labelled]
    exact (mem_declaredNames_of_hasLabels member labels).2
  · rename_i model shown recorded
    obtain rfl := List.mem_singleton.mp used
    exact recordLabel_mem_declaredNames member (by simp [Field.hasRecords, Field.source?, recorded])
  · simp at used

/-- The functions and lists that an artifact imports are declared. -/
theorem mem_declaredNames_of_mem_usedValues (sourced : plan.Sourced)
    (used : name ∈ plan.usedValues artifact) : name ∈ plan.declaredNames := by
  have lists : ∀ name ∈ plan.staticFields.map fun field => Code.optionsName field.name,
      name ∈ plan.declaredNames := by
    intro name member
    obtain ⟨field, own, rfl⟩ := List.mem_map.mp member
    obtain ⟨listed, labels⟩ := List.mem_filter.mp own
    exact (mem_declaredNames_of_hasLabels listed labels).1
  have views : ∀ name ∈ plan.fields.flatMap (·.viewImports), name ∈ plan.declaredNames := by
    intro name member
    obtain ⟨field, listed, own⟩ := List.mem_flatMap.mp member
    exact mem_declaredNames_of_mem_viewImports listed own
  unfold usedValues at used
  split at used
  · rcases List.mem_append.mp used with shown | filtered
    · obtain ⟨column, listed, own⟩ := List.mem_flatMap.mp shown
      have source := sourced.columns column listed
      cases column with
      | field column => exact mem_declaredNames_of_mem_viewImports source own
      | relation projection => simp [columnImports] at own
    · obtain ⟨filter, listed, own⟩ := List.mem_filterMap.mp filtered
      have source := sourced.filters filter listed
      cases filter with
      | options column =>
        obtain rfl := Option.some.inj own
        exact (mem_declaredNames_of_hasLabels source.1 source.2).1
      | _ => simp [filterOptions?] at own
  · exact lists name used
  · exact lists name used
  · exact views name used
  · exact views name used
  · simp at used

/-- The types that an artifact imports for its own values are declared. -/
theorem mem_declaredNames_of_mem_ownTypes (own : name ∈ plan.ownTypes artifact) :
    name ∈ plan.declaredNames := by
  have declared : ∀ name ∈ [plan.names.model, plan.names.model ++ "FormData",
      plan.names.model ++ "Filters", "Paginated"], name ∈ plan.declaredNames :=
    fun name member => List.mem_append_left _ (List.mem_append_right _ member)
  refine declared name ?_
  unfold ownTypes at own
  split at own <;> simp only [List.mem_cons, List.not_mem_nil, or_false] at own ⊢ <;> grind

/-- Each name that a page imports is declared. -/
theorem mem_declaredNames_of_mem_typeImports (sourced : plan.Sourced) {own : TypeImport}
    (member : own ∈ plan.typeImports artifact) : own.name ∈ plan.declaredNames := by
  rcases List.mem_append.mp member with types | values
  · obtain ⟨name, listed, rfl⟩ := List.mem_map.mp types
    rcases List.mem_append.mp listed with type | option
    · exact mem_declaredNames_of_mem_ownTypes type
    · split at option
      · simp at option
      · rename_i some
        obtain rfl := List.mem_singleton.mp option
        exact recordOption_mem_declaredNames (by simpa using some)
  · obtain ⟨name, listed, rfl⟩ := List.mem_map.mp values
    exact mem_declaredNames_of_mem_usedValues sourced (mem_firstOccurrences.mp listed)

/-- What an artifact uses of the type module it imports. -/
theorem mem_typeImports_of_mem_usedValues (used : name ∈ plan.usedValues artifact) :
    .value name ∈ plan.typeImports artifact :=
  List.mem_append_right _ (List.mem_map.mpr ⟨name, mem_firstOccurrences.mpr used, rfl⟩)

/-- The pages that import from the type module. -/
def importingPages : List Artifact := [.listPage, .createPage, .editPage, .detailDialog, .detailPage]

/-- An artifact imports helpers, and the page it belongs to receives record lists. -/
def Supplies (plan : Plan) (artifact : Artifact) (helpers lists : List Text) : Prop :=
  (∀ helper ∈ helpers, .value helper ∈ plan.typeImports artifact) ∧
    ∀ list ∈ lists, list ∈ plan.recordProps

/-- The pages receive the record list of a field. -/
theorem viewLists_subset_recordProps {field : Field} (member : field ∈ plan.fields) :
    field.viewLists ⊆ plan.recordProps := by
  intro list used
  unfold Field.viewLists at used
  split at used
  · rename_i records
    obtain rfl := List.mem_singleton.mp used
    exact mem_recordProps_of_hasRecords member records
  · simp at used

/-- The list page supplies what the cells of a column mention. -/
theorem supplies_column {column : TableColumn} (sourced : plan.Sourced)
    (member : column ∈ plan.tableColumns) :
    plan.Supplies .listPage (columnImports column) column.viewLists := by
  refine ⟨fun helper used => mem_typeImports_of_mem_usedValues
    (List.mem_append_left _ (List.mem_flatMap.mpr ⟨column, member, used⟩)), fun list used => ?_⟩
  have source := sourced.columns column member
  cases column with
  | field column => exact viewLists_subset_recordProps source used
  | relation projection => simp [TableColumn.viewLists] at used

/-- The detail views supply what the card of a field mentions. -/
theorem supplies_card {field : Field} (member : field ∈ plan.fields)
    (views : artifact = .detailDialog ∨ artifact = .detailPage) :
    plan.Supplies artifact field.viewImports field.viewLists := by
  refine ⟨fun helper used => mem_typeImports_of_mem_usedValues ?_,
    fun list used => viewLists_subset_recordProps member used⟩
  have shown : helper ∈ plan.fields.flatMap (·.viewImports) :=
    List.mem_flatMap.mpr ⟨field, member, used⟩
  rcases views with rfl | rfl <;> exact shown

/-- The list page imports the option list of a filter by fixed options. -/
theorem mem_typeImports_of_shown_eq_none {filter : Filter} (member : filter ∈ plan.filters)
    (fixed : (filter.choices plan).shown = none) :
    .value (filter.choices plan).list ∈ plan.typeImports .listPage := by
  refine mem_typeImports_of_mem_usedValues (List.mem_append_right _ ?_)
  cases filter with
  | options column => exact List.mem_filterMap.mpr ⟨_, member, rfl⟩
  | records column => exact absurd fixed (by simp [Filter.choices])
  | relation relationship => exact absurd fixed (by simp [Filter.choices])

/-- **The imports of the pages agree with the type module.** Each name that a page imports from it is
exported there. What the cells of the list page mention, around the expressions that they show, it
imports or receives as record lists; the control of a filter by fixed options mentions a list that it
imports. What the cards of the detail views mention they import or receive likewise. -/
theorem type_imports_agree (options : Options) :
    (∀ artifact ∈ importingPages, ∀ own ∈ (ofOptions options).typeImports artifact,
      Exports (Artifact.types.content (ofOptions options) Stub.types) own.name) ∧
    (∀ column ∈ (ofOptions options).tableColumns,
      Mentions [column.value (ofOptions options).pageRecord]
          (cellContent (ofOptions options).pageRecord column)
          (columnImports column ++ column.viewLists) ∧
        (ofOptions options).Supplies .listPage (columnImports column) column.viewLists) ∧
    (∀ filter ∈ (ofOptions options).filters, (filter.choices (ofOptions options)).shown = none →
      Mentions filter.members (unlines (filter.lines (ofOptions options)))
          [(filter.choices (ofOptions options)).list] ∧
        .value (filter.choices (ofOptions options)).list ∈
          (ofOptions options).typeImports .listPage) ∧
    (∀ artifact ∈ [Artifact.detailDialog, .detailPage], ∀ field ∈ (ofOptions options).fields,
      Mentions [(ofOptions options).pageRecord ++ '.' :: field.name]
          (unlines (field.viewLines (ofOptions options).pageRecord .card))
          (field.viewImports ++ field.viewLists) ∧
        (ofOptions options).Supplies artifact field.viewImports field.viewLists) ∧
    ∀ projection ∈ (ofOptions options).projections,
      Mentions [projection.value (ofOptions options).pageRecord]
        (projection.view (ofOptions options).pageRecord) [] := by
  have sourced := sourced_ofOptions options
  refine ⟨fun artifact _ own member => ?_, fun column member => ?_, fun filter member fixed => ?_,
    fun artifact views field member => ?_, fun projection _ => projection.mentions_view _⟩
  · exact exports_of_mem_declaredNames (plain_ofOptions options)
      (mem_declaredNames_of_mem_typeImports sourced member)
  · exact ⟨column.mentions_cellContent _, supplies_column sourced member⟩
  · exact ⟨filter.mentions_lines _, mem_typeImports_of_shown_eq_none member fixed⟩
  · exact ⟨field.mentions_viewLines _ _, supplies_card member (by simpa using views)⟩

/-- Tickets with a status of fixed labels, which is shown and filtered by. -/
def statusTickets : Options :=
  { displayName := "Ticket", fields := "status:select:array:Open|Closed",
    filterable := ["status"], viewMode := some .page }

/-- The status of such a ticket. -/
def ticketStatus : Field := ⟨"status", .select, false, none, .labels ["Open", "Closed"], .unset⟩

/-- The cell and the card of the status mention its label function and the control of its filter its
option list; the pages import them, and the type module exports the label function. -/
theorem type_imports_agree_tickets :
    (Mentions [(TableColumn.field ticketStatus).value (ofOptions statusTickets).pageRecord]
        (cellContent (ofOptions statusTickets).pageRecord (.field ticketStatus)) ["statusLabel"] ∧
      .value "statusLabel" ∈ (ofOptions statusTickets).typeImports .listPage) ∧
    (Mentions ["filters.status", "status: value"]
        (unlines (Filter.lines (ofOptions statusTickets) (.options ticketStatus)))
        ["statusOptions"] ∧
      .value "statusOptions" ∈ (ofOptions statusTickets).typeImports .listPage) ∧
    (Mentions [(ofOptions statusTickets).pageRecord ++ '.' :: ticketStatus.name]
        (unlines (ticketStatus.viewLines (ofOptions statusTickets).pageRecord .card))
        ["statusLabel"] ∧
      .value "statusLabel" ∈ (ofOptions statusTickets).typeImports .detailPage) ∧
    Exports (Artifact.types.content (ofOptions statusTickets) Stub.types) "statusLabel" := by
  have label : ticketStatus.viewImports = ["statusLabel".toList] := by decide +kernel
  have list : ((Filter.options ticketStatus).choices (ofOptions statusTickets)).list =
      "statusOptions" := by decide +kernel
  obtain ⟨exported, cells, filters, cards, -⟩ := type_imports_agree statusTickets
  have cell := cells (.field ticketStatus) (by decide +kernel)
  have filter := filters (.options ticketStatus) (by decide +kernel) rfl
  have card := cards .detailPage (by simp) ticketStatus (by decide +kernel)
  rw [columnImports, label] at cell
  rw [list] at filter
  rw [label] at card
  have imported := cell.2.1 "statusLabel" List.mem_cons_self
  exact ⟨⟨cell.1, imported⟩, filter, ⟨card.1, card.2.1 "statusLabel" List.mem_cons_self⟩,
    exported .listPage List.mem_cons_self _ imported⟩

end Plan

end Scaffold
