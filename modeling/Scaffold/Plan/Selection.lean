import Scaffold.Plan.Basic
import Scaffold.Schema.Parser

/-!
# Requested columns, searches and filters

The list page shows, searches and filters what the options ask for. A request that names nothing
suitable is left out, and a diagnostic says so.
-/
namespace Scaffold.Plan

/-- The requests that are not blank, trimmed, each once. -/
def requested (requests : List Text) : List Text :=
  firstOccurrences ((requests.map Text.trim).filter (!·.isEmpty))

/-- What a request selects, or why it selects nothing. -/
abbrev Selected (α : Type) := Except Diagnostic α

/-- The selected values in the order of the requests, and the diagnostics of the others. -/
def partition {α : Type} (selected : List (Selected α)) : List α × List Diagnostic :=
  (selected.filterMap (·.toOption),
    selected.filterMap fun
      | .ok _ => none
      | .error diagnostic => some diagnostic)

/-- The column of a request. -/
def selectColumn (fields : List Field) (projections : List Projection) (request : Text) :
    Selected TableColumn :=
  match fields.find? (·.name == request), projections.find? (·.key == request) with
  | some field, _ => .ok (.field field)
  | none, some projection => .ok (.relation projection)
  | none, none => .error ⟨request, .unknownTableColumn⟩

/-- The columns of the list page: those requested, or all fields and projections. -/
def selectColumns (fields : List Field) (projections : List Projection) (requests : List Text) :
    List TableColumn × List Diagnostic :=
  match requested requests with
  | [] => (fields.map .field ++ projections.map .relation, [])
  | request :: rest => partition ((request :: rest).map (selectColumn fields projections))

/-- How a search term is compared with a field, if it is at all. -/
def searchMode? (field : Field) : Option SearchMode :=
  if field.kind.isMedia || field.kind.isRange || field.kind == .slider then none
  else if field.isMultiple then some .jsonContains
  else if field.kind.isStringLike then some .like
  else some .exact

/-- The searched field of a request. -/
def selectSearch (fields : List Field) (request : Text) : Selected SearchColumn :=
  match fields.find? (·.name == request) with
  | none => .error ⟨request, .unknownField⟩
  | some field =>
    match searchMode? field with
    | some mode => .ok ⟨field, mode⟩
    | none => .error ⟨request, .notSearchable⟩

/-- The names that are searched for: those requested, then the fields marked so, each once. -/
def searchRequests (fields : List Field) (requests : List Text) : List Text :=
  firstOccurrences <|
    (requests.map Text.trim).filter (!·.isEmpty) ++
      (fields.filter (·.flags.searchable)).map (·.name)

/-- The searched fields. -/
def selectSearches (fields : List Field) (requests : List Text) :
    List SearchColumn × List Diagnostic :=
  partition ((searchRequests fields requests).map (selectSearch fields))

/-- The filter of a request: a field with options, or a relationship by its name or key. -/
def selectFilter (fields : List Field) (relationships : List Relationship) (request : Text) :
    Selected Filter :=
  match fields.find? (·.name == request) with
  | some field =>
    if field.isFilterable then
      .ok (if field.hasRecords then .records field else .options field)
    else .error ⟨request, .notFilterable⟩
  | none =>
    match relationships.find? (fun relationship => relationship.ownsForeignKey &&
        (relationship.name == request || relationship.foreignKey == request)) with
    | some relationship => .ok (.relation relationship)
    | none => .error ⟨request, .notFilterable⟩

/-- The filters with the first of every key. -/
def distinctKeys : List Filter → List Filter
  | [] => []
  | filter :: rest => filter :: (distinctKeys rest).filter (·.key != filter.key)

/-- The filters of the list page. -/
def selectFilters (fields : List Field) (relationships : List Relationship)
    (requests : List Text) : List Filter × List Diagnostic :=
  let (filters, notes) := partition <|
    ((requests.map Text.trim).filter (!·.isEmpty)).map (selectFilter fields relationships)
  (distinctKeys filters, notes)

end Scaffold.Plan
