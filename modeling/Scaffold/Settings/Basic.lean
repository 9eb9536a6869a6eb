import Scaffold.Failure
import Scaffold.Plan.Options

/-!
# Settings

What a generation is told from one place: the command line, a settings file or the configuration
of the project. A setting may be left out in each of them. Places are asked in turn, and the first
one that has a setting decides it.
-/
namespace Scaffold

/-- The settings from one place, or from several of them together. -/
structure Settings where
  /-- Name of the entity in free text. -/
  name : Option Text := none
  /-- Field tokens. -/
  fields : Option Text := none
  /-- Relationship tokens. -/
  relationships : Option Text := none
  /-- Projection tokens. -/
  projections : Option Text := none
  /-- List columns in order. -/
  tableColumns : Option (List Text) := none
  /-- Searched fields, the one that names the search box first. -/
  searchable : Option (List Text) := none
  /-- Fields and relationships to filter by. -/
  filterable : Option (List Text) := none
  /-- Icon of the navigation entry. -/
  icon : Option Text := none
  /-- Name of the way in which a single record is shown. -/
  viewMode : Option Text := none
  /-- Package that the files are generated into. -/
  package : Option Text := none
  /-- Icon under which the entity stands in the setup menu. -/
  systemSetup : Option Text := none
  /-- Name of the way in which cascades are inferred. -/
  inference : Option Text := none
  /-- Root of the project. -/
  root : Option FilePath := none
  /-- Directory of templates. -/
  templates : Option FilePath := none
deriving DecidableEq, Repr

namespace Settings

/-- No settings. -/
def empty : Settings := {}

/-- The settings, and those of a second place where the first one says nothing. -/
def orElse (first second : Settings) : Settings :=
  { name := first.name <|> second.name
    fields := first.fields <|> second.fields
    relationships := first.relationships <|> second.relationships
    projections := first.projections <|> second.projections
    tableColumns := first.tableColumns <|> second.tableColumns
    searchable := first.searchable <|> second.searchable
    filterable := first.filterable <|> second.filterable
    icon := first.icon <|> second.icon
    viewMode := first.viewMode <|> second.viewMode
    package := first.package <|> second.package
    systemSetup := first.systemSetup <|> second.systemSetup
    inference := first.inference <|> second.inference
    root := first.root <|> second.root
    templates := first.templates <|> second.templates }

/-- The name of the entity, unless it is blank. -/
def entityName? (settings : Settings) : Option Text :=
  settings.name.filter fun name => !Text.isBlankText name

/-- The value that a name stands for; an option that is left out keeps its own value. -/
def choose {α : Type} (option : Text) (ofText? : Text → Option α) (otherwise : α) :
    Option Text → Except Failure α
  | none => .ok otherwise
  | some written =>
    match ofText? written with
    | some value => .ok value
    | none => .error (.option option written)

/-- The options of a generation of an entity. -/
def options (settings : Settings) (entity : Text) : Except Failure Options := do
  let viewMode ← choose "view-mode" (fun name => (ViewMode.ofText? name).map some) none
    settings.viewMode
  let inference ← choose "inference" InferenceMode.ofText? .standard settings.inference
  return {
    displayName := entity
    fields := settings.fields.getD []
    relationships := settings.relationships.getD []
    projections := settings.projections.getD []
    tableColumns := settings.tableColumns.getD []
    searchable := settings.searchable.getD []
    filterable := settings.filterable.getD []
    icon := settings.icon
    viewMode := viewMode
    package := settings.package
    systemSetup := settings.systemSetup
    inference := inference }

/-- The root of the project: where the program runs, if nothing is said. -/
def projectRoot (settings : Settings) : FilePath := settings.root.getD ['.']

/-- Settings that say nothing leave all to the second place. -/
theorem empty_orElse (settings : Settings) : empty.orElse settings = settings := rfl

/-- Asking three places does not depend on which two are put together first. -/
theorem orElse_assoc (first second third : Settings) :
    (first.orElse second).orElse third = first.orElse (second.orElse third) := by
  simp [orElse, Option.orElse_eq_orElse, Option.or_assoc]

end Settings

end Scaffold
