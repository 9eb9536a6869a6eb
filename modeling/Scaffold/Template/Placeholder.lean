import Scaffold.Schema.Kind

/-!
# Placeholders

The closed vocabulary of tokens that a template may contain. Each stands for one fragment of a
generated file and is written under its name.
-/
namespace Scaffold

/-- A token of a template. -/
inductive Placeholder where
  /-- Class name. -/
  | modelName
  /-- Class name in the plural. -/
  | modelNamePlural
  /-- Variable of one record. -/
  | modelVariable
  /-- Variable of several records. -/
  | modelVariablePlural
  /-- Words for people. -/
  | modelLabel
  /-- Words for people, in the plural. -/
  | modelLabelPlural
  /-- Database table. -/
  | tableName
  /-- Lowercase words with underscores. -/
  | snakeName
  /-- Path and route name. -/
  | routeName
  /-- Path and route name in the singular. -/
  | routeNameSingular
  /-- Variable of one record in the pages. -/
  | jsVariable
  /-- Model with its namespace. -/
  | modelClass
  /-- Namespace of the model. -/
  | modelNamespace
  /-- Namespace of the controller. -/
  | controllerNamespace
  /-- Namespace of the requests. -/
  | requestNamespace
  /-- Namespace of the factory. -/
  | factoryNamespace
  /-- Columns of the fields. -/
  | migrationColumns
  /-- Key columns. -/
  | migrationForeignKeys
  /-- Imports of the model. -/
  | modelImports
  /-- Interfaces of the model. -/
  | modelInterfaces
  /-- Traits of the model. -/
  | modelTraits
  /-- Columns assigned from a request. -/
  | fillable
  /-- Conversions of the model. -/
  | casts
  /-- Attributes that the model appends. -/
  | modelAppends
  /-- Method that names the factory. -/
  | modelFactoryMethod
  /-- Relationship methods. -/
  | modelRelations
  /-- Methods for uploaded files. -/
  | modelMediaMethods
  /-- Imports of a request. -/
  | requestImports
  /-- Rules for a new record. -/
  | storeRules
  /-- Rules for a changed record. -/
  | updateRules
  /-- Imports of the factory. -/
  | factoryImports
  /-- Values of a made-up record. -/
  | factoryDefinitions
  /-- Imports of the controller. -/
  | controllerImports
  /-- Relations loaded with the list. -/
  | eagerLoads
  /-- Search conditions. -/
  | searchQuery
  /-- Filter conditions. -/
  | filterQuery
  /-- Request keys of search and filters. -/
  | filterKeys
  /-- Request keys of uploaded files. -/
  | mediaKeys
  /-- Storing the files of a new record. -/
  | mediaStore
  /-- Storing the files of a changed record. -/
  | mediaUpdate
  /-- Method of the detail page. -/
  | showMethod
  /-- Methods that list the children of a parent. -/
  | cascadeEndpoints
  /-- Record lists of the pages. -/
  | optionQueries
  /-- Icons of the list page. -/
  | indexIcons
  /-- Components of the list page. -/
  | indexImports
  /-- Hint in the search box. -/
  | searchPlaceholder
  /-- State of the filters. -/
  | filterState
  /-- Button that shows the filters. -/
  | filterBadge
  /-- Filter controls. -/
  | filterUi
  /-- Column headings. -/
  | tableHeaders
  /-- Cells of a row. -/
  | tableCells
  /-- State of the detail dialog. -/
  | detailState
  /-- Button that opens the details. -/
  | detailTrigger
  /-- The detail dialog. -/
  | detailComponent
  /-- Names imported from the type module. -/
  | typeImports
  /-- Types of the record lists of a page. -/
  | pageProps
  /-- Names of the record lists of a page. -/
  | pagePropNames
  /-- Names imported for the state of a form. -/
  | reactImports
  /-- Components of a form. -/
  | formImports
  /-- Types of the record lists of a form. -/
  | formProps
  /-- Names of the record lists of a form. -/
  | formPropNames
  /-- Initial values of a form. -/
  | formDefaults
  /-- State of dependent lists. -/
  | cascadeState
  /-- Controls of a form. -/
  | formFields
  /-- Call that submits a form. -/
  | submitCall
  /-- Request method that changes a record. -/
  | submitMethod
  /-- Helper types. -/
  | typeHelpers
  /-- Attributes of a record. -/
  | modelAttributes
  /-- Values of a form. -/
  | formAttributes
  /-- Values of the filters. -/
  | filterAttributes
  /-- Option lists of the fields. -/
  | optionConstants
  /-- Components of the detail view. -/
  | detailImports
  /-- Cards of the detail view. -/
  | detailCards
deriving DecidableEq, Repr

namespace Placeholder

/-- All tokens. -/
def all : List Placeholder :=
  [modelName, modelNamePlural, modelVariable, modelVariablePlural, modelLabel, modelLabelPlural,
    tableName, snakeName, routeName, routeNameSingular, jsVariable, modelClass, modelNamespace,
    controllerNamespace, requestNamespace, factoryNamespace, migrationColumns,
    migrationForeignKeys, modelImports, modelInterfaces, modelTraits, fillable, casts,
    modelAppends, modelFactoryMethod, modelRelations, modelMediaMethods, requestImports,
    storeRules, updateRules, factoryImports, factoryDefinitions, controllerImports, eagerLoads,
    searchQuery, filterQuery, filterKeys, mediaKeys, mediaStore, mediaUpdate, showMethod,
    cascadeEndpoints, optionQueries, indexIcons, indexImports, searchPlaceholder, filterState,
    filterBadge, filterUi, tableHeaders, tableCells, detailState, detailTrigger, detailComponent,
    typeImports, pageProps, pagePropNames, reactImports, formImports, formProps, formPropNames,
    formDefaults, cascadeState, formFields, submitCall, submitMethod, typeHelpers,
    modelAttributes, formAttributes, filterAttributes, optionConstants, detailImports,
    detailCards]

/-- The name under which a token is written. -/
def name : Placeholder → Text
  | modelName => "modelName"
  | modelNamePlural => "modelNamePlural"
  | modelVariable => "modelVariable"
  | modelVariablePlural => "modelVariablePlural"
  | modelLabel => "modelLabel"
  | modelLabelPlural => "modelLabelPlural"
  | tableName => "tableName"
  | snakeName => "snakeName"
  | routeName => "routeName"
  | routeNameSingular => "routeNameSingular"
  | jsVariable => "jsVariable"
  | modelClass => "modelClass"
  | modelNamespace => "modelNamespace"
  | controllerNamespace => "controllerNamespace"
  | requestNamespace => "requestNamespace"
  | factoryNamespace => "factoryNamespace"
  | migrationColumns => "migrationColumns"
  | migrationForeignKeys => "migrationForeignKeys"
  | modelImports => "modelImports"
  | modelInterfaces => "modelInterfaces"
  | modelTraits => "modelTraits"
  | fillable => "fillable"
  | casts => "casts"
  | modelAppends => "modelAppends"
  | modelFactoryMethod => "modelFactoryMethod"
  | modelRelations => "modelRelations"
  | modelMediaMethods => "modelMediaMethods"
  | requestImports => "requestImports"
  | storeRules => "storeRules"
  | updateRules => "updateRules"
  | factoryImports => "factoryImports"
  | factoryDefinitions => "factoryDefinitions"
  | controllerImports => "controllerImports"
  | eagerLoads => "eagerLoads"
  | searchQuery => "searchQuery"
  | filterQuery => "filterQuery"
  | filterKeys => "filterKeys"
  | mediaKeys => "mediaKeys"
  | mediaStore => "mediaStore"
  | mediaUpdate => "mediaUpdate"
  | showMethod => "showMethod"
  | cascadeEndpoints => "cascadeEndpoints"
  | optionQueries => "optionQueries"
  | indexIcons => "indexIcons"
  | indexImports => "indexImports"
  | searchPlaceholder => "searchPlaceholder"
  | filterState => "filterState"
  | filterBadge => "filterBadge"
  | filterUi => "filterUi"
  | tableHeaders => "tableHeaders"
  | tableCells => "tableCells"
  | detailState => "detailState"
  | detailTrigger => "detailTrigger"
  | detailComponent => "detailComponent"
  | typeImports => "typeImports"
  | pageProps => "pageProps"
  | pagePropNames => "pagePropNames"
  | reactImports => "reactImports"
  | formImports => "formImports"
  | formProps => "formProps"
  | formPropNames => "formPropNames"
  | formDefaults => "formDefaults"
  | cascadeState => "cascadeState"
  | formFields => "formFields"
  | submitCall => "submitCall"
  | submitMethod => "submitMethod"
  | typeHelpers => "typeHelpers"
  | modelAttributes => "modelAttributes"
  | formAttributes => "formAttributes"
  | filterAttributes => "filterAttributes"
  | optionConstants => "optionConstants"
  | detailImports => "detailImports"
  | detailCards => "detailCards"

/-- The token with exactly this name. -/
def ofName? (written : Text) : Option Placeholder := Text.named? all name written

/-- Every token is in the vocabulary. -/
theorem mem_all (placeholder : Placeholder) : placeholder ∈ all := by cases placeholder <;> decide

end Placeholder

end Scaffold
