import Scaffold.Artifact
import Scaffold.Backend.Controller
import Scaffold.Backend.Factory
import Scaffold.Backend.Migration
import Scaffold.Backend.Model
import Scaffold.Backend.Request
import Scaffold.Page.DependentList
import Scaffold.Page.TypeImport
import Scaffold.Template

/-!
# Fragments

What a placeholder stands for in an artifact of a plan. Fragments of several lines are joined here;
until then they are lists of lines.
-/
namespace Scaffold

/-- The record that the form of an artifact is for. -/
def Artifact.formPurpose (plan : Plan) (artifact : Artifact) : FormPurpose :=
  if artifact = .editPage then .edit plan.pageRecord else .create

/-- The text that stands for a placeholder in an artifact. -/
def Placeholder.fragment (plan : Plan) (artifact : Artifact) (placeholder : Placeholder) : Text :=
  let names := plan.names
  let purpose := artifact.formPurpose plan
  match placeholder with
  | .modelName => names.model
  | .modelNamePlural => names.modelPlural
  | .modelVariable => names.record
  | .modelVariablePlural => names.records
  | .modelLabel => names.label
  | .modelLabelPlural => names.labelPlural
  | .tableName => names.table
  | .snakeName => names.snake
  | .routeName => names.route
  | .routeNameSingular => names.routeSingular
  | .jsVariable => plan.pageRecord
  | .modelClass => plan.modelClass
  | .modelNamespace => plan.modelNamespace
  | .controllerNamespace => plan.controllerNamespace
  | .requestNamespace => plan.requestNamespace
  | .factoryNamespace => plan.factoryNamespace
  | .migrationColumns => Text.unlines plan.columnLines
  | .migrationForeignKeys => Text.unlines plan.keyLines
  | .modelImports => Text.unlines plan.modelImports
  | .modelInterfaces => plan.modelInterfaces
  | .modelTraits => plan.modelTraits
  | .fillable => Text.unlines plan.fillableLines
  | .casts => Text.unlines plan.castLines
  | .modelAppends => Text.unlines plan.appendLines
  | .modelFactoryMethod => Text.unlines plan.factoryMethodLines
  | .modelRelations => Text.unlines plan.relationLines
  | .modelMediaMethods => Text.unlines plan.mediaMethodLines
  | .requestImports => Text.unlines (plan.requestImports (artifact == .updateRequest))
  | .storeRules => Text.unlines plan.storeRuleLines
  | .updateRules => Text.unlines plan.updateRuleLines
  | .factoryImports => Text.unlines plan.factoryImports
  | .factoryDefinitions => Text.unlines plan.factoryLines
  | .controllerImports => Text.unlines plan.controllerImports
  | .eagerLoads => plan.eagerLoads
  | .searchQuery => Text.unlines plan.searchLines
  | .filterQuery => Text.unlines plan.filterLines
  | .filterKeys => plan.filterKeys
  | .mediaKeys => plan.mediaKeys
  | .mediaStore => Text.unlines (plan.mediaLines false)
  | .mediaUpdate => Text.unlines (plan.mediaLines true)
  | .showMethod => Text.unlines plan.showLines
  | .cascadeEndpoints => Text.unlines plan.endpointLines
  | .optionQueries => Text.unlines plan.listLines
  | .indexIcons => Text.commaList plan.listIcons
  | .indexImports => Text.unlines plan.listImportLines
  | .searchPlaceholder => plan.searchHint
  | .filterState => Text.unlines plan.filterStateLines
  | .filterBadge => Text.unlines plan.filterButtonLines
  | .filterUi => Text.unlines plan.filterControlLines
  | .tableHeaders => Text.unlines plan.headingLines
  | .tableCells => Text.unlines plan.cellLines
  | .detailState => Text.unlines plan.dialogStateLines
  | .detailTrigger => Text.unlines plan.detailButtonLines
  | .detailComponent => Text.unlines plan.dialogLines
  | .typeImports => Text.commaList ((plan.typeImports artifact).map TypeImport.written)
  | .pageProps => Text.unlines plan.recordPropLines
  | .pagePropNames => plan.recordPropNames (artifact == .createPage)
  | .reactImports => plan.stateImports
  | .formImports => Text.unlines plan.formImportLines
  | .formProps => Text.unlines plan.recordPropLines
  | .formPropNames => plan.recordPropNames (artifact == .createPage)
  | .formDefaults => Text.unlines (plan.formDefaultLines purpose)
  | .cascadeState => Text.unlines plan.dependentListLines
  | .formFields => Text.unlines (plan.formInputLines purpose)
  | .submitCall => plan.submitCall purpose
  | .submitMethod => plan.submitMethod
  | .typeHelpers => Text.unlines plan.helperLines
  | .modelAttributes => Text.unlines plan.recordAttributeLines
  | .formAttributes => Text.unlines plan.formAttributeLines
  | .filterAttributes => Text.unlines plan.filterAttributeLines
  | .optionConstants => Text.unlines plan.optionLines
  | .detailImports => Text.unlines plan.detailImportLines
  | .detailCards => Text.unlines plan.detailCardLines

/-- The content of an artifact, made from a template. -/
def Artifact.content (plan : Plan) (artifact : Artifact) (template : Text) : Text :=
  Template.fill template (Placeholder.fragment plan artifact)

end Scaffold
