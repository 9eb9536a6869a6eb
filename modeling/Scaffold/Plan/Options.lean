import Scaffold.Cascade

/-!
# Options of a generation

What a generation is asked for: the schema of the entity as text, and the choices about its pages.
-/
namespace Scaffold

/-- How a single record is shown. -/
inductive ViewMode where
  /-- In a dialog opened from the list page. -/
  | modal
  /-- On a page of its own. -/
  | page
deriving DecidableEq, Repr

namespace ViewMode

/-- All modes. -/
def all : List ViewMode := [modal, page]

/-- The name of a mode. -/
def name : ViewMode → Text
  | modal => "modal"
  | page => "page"

/-- The mode with exactly this name. -/
def ofName? (written : Text) : Option ViewMode := Text.named? all name written

/-- The mode of a name; the case of ASCII letters does not matter. -/
def ofText? (written : Text) : Option ViewMode := ofName? (Text.lowerAscii written)

end ViewMode

/-- The options of one generation. -/
structure Options where
  /-- Name of the entity in free text. -/
  displayName : Text := []
  /-- Field tokens. -/
  fields : Text := []
  /-- Relationship tokens. -/
  relationships : Text := []
  /-- Projection tokens. -/
  projections : Text := []
  /-- List columns in order, or none for all. -/
  tableColumns : List Text := []
  /-- Searched fields, the one that names the search box first. -/
  searchable : List Text := []
  /-- Fields and relationships to filter by. -/
  filterable : List Text := []
  /-- Icon of the navigation entry. -/
  icon : Option Text := none
  /-- How a single record is shown. -/
  viewMode : Option ViewMode := none
  /-- Package that the files are generated into. -/
  package : Option Text := none
  /-- Icon under which the entity stands in the setup menu. -/
  systemSetup : Option Text := none
  /-- How cascades are inferred. -/
  inference : InferenceMode := .standard
deriving DecidableEq, Repr

end Scaffold
