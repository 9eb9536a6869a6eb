import Scaffold.Plan.Rules
import Scaffold.Plan.Selection

/-!
# Making a plan

A plan is made from options in all cases: what is wrong with them ends up in its diagnostics.
-/
namespace Scaffold.Plan

/-- The fields without those that take the column of the owner. -/
def dropReserved (fields : List Field) : List Field × List Diagnostic :=
  (fields.filter (·.name != ownershipColumn),
    (fields.filter (·.name == ownershipColumn)).map fun field => ⟨field.name, .reservedColumn⟩)

/-- The plan of a declared entity. -/
def ofSchema (options : Options) (schema : Schema) : Plan :=
  let names := Names.ofDisplayName options.displayName
  let relationships := schema.relationships
  let projections := schema.projections
  let (fields, reserved) := dropReserved schema.fields
  let (tableColumns, unknownColumns) := selectColumns fields projections options.tableColumns
  let (searchable, notSearched) := selectSearches fields options.searchable
  let (filters, notFiltered) := selectFilters fields relationships options.filterable
  { names, fields, relationships, projections, tableColumns, searchable, filters
    dependencies := Dependency.infer relationships names.model names.route options.inference
    fillable := fillableOf fields relationships names.model
    casts := castsOf fields
    rules := rulesOf fields relationships names.model
    icon := (options.icon.bind Text.nonBlank?).getD defaultIcon
    viewMode := options.viewMode
    package := (options.package.bind Text.nonBlank?).map PackageScope.ofName
    systemSetup := options.systemSetup.map fun icon =>
      (Text.nonBlank? icon).getD defaultSetupIcon
    diagnostics :=
      schema.diagnostics ++ reserved ++ unknownColumns ++ notSearched ++ notFiltered }

/-- The plan of a generation. -/
def ofOptions (options : Options) : Plan :=
  ofSchema options (Schema.read options.fields options.relationships options.projections)

end Scaffold.Plan
