import Scaffold.Artifact.Fragment
import Scaffold.Proofs.Names
import Scaffold.Proofs.Template.Row
import Scaffold.Proofs.Template.Vocabulary
import Scaffold.Stub.Pages

/-!
# What the type module exports

The type module declares helpers where something needs them, the types of its entity, and the option
lists and label functions of fields with fixed options. Each of these names stands in a row of its
own behind the words that export it, and nothing goes on with the name
(`Plan.exports_of_mem_declaredNames`).
-/
namespace Scaffold

open Text Template

/-- What stands in front of a name that a module exports. -/
def exportForms : List Text := ["export interface ", "export type ", "export const "]

/-- A module exports a name: one of its rows declares the name and no longer one. -/
def Exports (content name : Text) : Prop :=
  ∃ opening ∈ exportForms, ∃ rest, opening ++ name ++ rest ∈ rows content ∧
    rest.head?.any isIdentifierPart = false

namespace Stub

/-- The lines of the type module that declare something. -/
theorem types_lines : ∃ lines, types = Code.written lines ∧
    "%%typeHelpers%%" ∈ lines ∧ "export interface %%modelName%% \x7b" ∈ lines ∧
    "export type %%modelName%%FormData = \x7b" ∈ lines ∧
    "export type %%modelName%%Filters = \x7b" ∈ lines ∧
    "export interface Paginated<T> \x7b" ∈ lines ∧ "%%optionConstants%%" ∈ lines :=
  ⟨_, rfl, by simp⟩

/-- How these lines are read. -/
theorem pieces_types :
    pieces ("%%typeHelpers%%".toList ++ ['\n']) = [.block [] .typeHelpers ['\n']] ∧
    pieces ("export interface %%modelName%% \x7b".toList ++ ['\n']) =
      [.literal "export interface ", .token .modelName, .literal (" \x7b".toList ++ ['\n'])] ∧
    pieces ("export type %%modelName%%FormData = \x7b".toList ++ ['\n']) =
      [.literal "export type ", .token .modelName,
        .literal ("FormData".toList ++ " = \x7b".toList ++ ['\n'])] ∧
    pieces ("export type %%modelName%%Filters = \x7b".toList ++ ['\n']) =
      [.literal "export type ", .token .modelName,
        .literal ("Filters".toList ++ " = \x7b".toList ++ ['\n'])] ∧
    pieces ("export interface Paginated<T> \x7b".toList ++ ['\n']) =
      [.literal ("export interface ".toList ++ "Paginated".toList ++ "<T> \x7b".toList ++ ['\n'])] ∧
    pieces ("%%optionConstants%%".toList ++ ['\n']) = [.block [] .optionConstants ['\n']] := by
  simp (disch := exact rfl) only [Text.toList_literal, -String.reduceToList]
  simp only [pieces_eq]
  decide +kernel

end Stub

/-- A line of a module that declares a name: it is a single row, and what follows the name neither
goes on with it nor is cut off at the end. -/
structure DeclaringLine (name line : Text) : Prop where
  /-- The line begins with the declaration. -/
  declares : ∃ opening ∈ exportForms, ∃ rest, line = opening ++ name ++ rest ∧
    rest.head?.any isIdentifierPart = false ∧ rest.getLast?.any (· != '\x0d') = true
  /-- It holds no line feed. -/
  single : '\n' ∉ line

namespace DeclaringLine

variable {name line opening rest content : Text}

/-- A declaration of a plain name is one line if what follows the name is. -/
theorem of (member : opening ∈ exportForms) (plain : IsPlain name)
    (free : rest.head?.any isIdentifierPart = false)
    (ending : rest.getLast?.any (· != '\x0d') = true) (single : '\n' ∉ rest) :
    DeclaringLine name (opening ++ name ++ rest) := by
  have front : ∀ opening ∈ exportForms, '\n' ∉ opening := by decide
  refine ⟨⟨opening, member, rest, rfl, free, ending⟩, ?_⟩
  simp [front opening member, plain.notMem (by decide : isPlain '\n' = false), single]

/-- A declaration ends as what follows the name does. -/
theorem getLast?_ne (own : DeclaringLine name line) : line.getLast? ≠ some '\x0d' := by
  obtain ⟨opening, -, rest, rfl, -, ending⟩ := own.declares
  intro last
  cases found : rest.getLast? with
  | none => simp [found] at ending
  | some c =>
    rw [List.getLast?_append, found] at last
    obtain rfl : c = '\x0d' := by simpa using last
    simp [found] at ending

/-- A declaration is not blank. -/
theorem isBlankText_eq (own : DeclaringLine name line) : isBlankText line = false := by
  obtain ⟨opening, member, rest, rfl, -⟩ := own.declares
  have visible : ∀ opening ∈ exportForms, isBlankText opening = false := by decide
  exact isBlankText_append (isBlankText_append (visible opening member) name) rest

/-- A row that declares a name exports it. -/
theorem exports (own : DeclaringLine name line) (row : line ∈ rows content) : Exports content name := by
  obtain ⟨opening, member, rest, rfl, free, -⟩ := own.declares
  exact ⟨opening, member, rest, row, free⟩

variable {lines : List String} {literal : String} {value : Placeholder → Text}

/-- A line of a template that is filled with a declaration exports the name. -/
theorem exports_fill (own : DeclaringLine name line) (member : literal ∈ lines)
    (filled : fill (literal.toList ++ ['\n']) value = line ++ ['\n']) :
    Exports (fill (Code.written lines) value) name := by
  refine own.exports (mem_rows_fill member filled ?_)
  rw [rows_of_notMem own.single]
  exact List.mem_cons_self

/-- A declaration in the value of a token that stands alone on its line, without a margin, exports
the name. -/
theorem exports_block {placeholder : Placeholder} {written : List Text}
    (own : DeclaringLine name line) (member : literal ∈ lines)
    (read : pieces (literal.toList ++ ['\n']) = [.block [] placeholder ['\n']])
    (text : value placeholder = unlines written) (listed : line ∈ written) :
    Exports (fill (Code.written lines) value) name :=
  own.exports (mem_rows_block member read List.not_mem_nil text listed own.single own.getLast?_ne
    own.isBlankText_eq)

end DeclaringLine

/-- A helper is declared in its lines. -/
theorem TypeHelper.declaringLine (helper : TypeHelper) :
    ∃ line ∈ helper.lines, DeclaringLine helper.name line := by
  have plain : ∀ helper : TypeHelper, IsPlain helper.name := by
    intro helper
    unfold IsPlain
    cases helper <;> decide
  cases helper with
  | recordLabel =>
    refine ⟨_, List.mem_cons_self, ?_⟩
    simp only [List.append_assoc]
    rw [← List.append_assoc]
    exact .of (.tail _ (.tail _ (.head _))) (plain .recordLabel) (by decide)
      (by decide) (by decide)
  | _ =>
    exact ⟨_, List.mem_cons_self, .of (.head _) (plain _) (by decide) (by decide)
      (by decide)⟩

namespace Code

/-- The name of an option list is plain. -/
theorem plain_optionsName (name : Text) : IsPlain (optionsName name) :=
  (plain_lowerCamelCase name).append (by unfold IsPlain; decide)

/-- So is that of a label function. -/
theorem plain_labelFunction (name : Text) : IsPlain (labelFunction name) :=
  (plain_lowerCamelCase name).append (by unfold IsPlain; decide)

end Code

namespace Field

/-- The option list of a field is declared in its lines. -/
theorem declaringLine_optionsName (field : Field) :
    ∃ line ∈ field.optionLines, DeclaringLine (Code.optionsName field.name) line :=
  ⟨_, List.mem_append_left _ List.mem_cons_self,
    .of (.tail _ (.tail _ (.head _))) (Code.plain_optionsName _) (by decide) (by decide)
      (by decide)⟩

/-- The label function of a field is declared in its lines. -/
theorem declaringLine_labelFunction (field : Field) :
    ∃ line ∈ field.optionLines, DeclaringLine (Code.labelFunction field.name) line :=
  ⟨_, List.mem_append_right _ (List.mem_cons_of_mem _ List.mem_cons_self),
    .of (.tail _ (.tail _ (.head _))) (Code.plain_labelFunction _) (by decide)
      (by decide) (by decide)⟩

end Field

/-- The lines of a part stand among those of all parts. -/
theorem Code.mem_spaced {parts : List (List Text)} {part : List Text} {line : Text}
    (among : part ∈ parts) (member : line ∈ part) : line ∈ spaced parts := by
  induction parts with
  | nil => simp at among
  | cons first rest ih =>
    cases rest with
    | nil =>
      obtain rfl : part = first := by simpa using among
      exact member
    | cons next more =>
      rcases List.mem_cons.mp among with rfl | later
      · exact List.mem_append_left _ member
      · exact List.mem_append_right _ (List.mem_cons_of_mem _ (ih later))

namespace Plan

variable {plan : Plan} {name : Text} {artifact : Artifact}

/-- A line of a template that declares the model, or it with a suffix, exports that name. -/
theorem exports_model {lines : List String} {line : String} {opening suffix rest : Text}
    (plain : plan.Plain) (listed : line ∈ lines)
    (read : pieces (line.toList ++ ['\n']) =
      [.literal opening, .token .modelName, .literal (suffix ++ rest ++ ['\n'])])
    (own : ∀ model : Text, IsPlain model →
      DeclaringLine (model ++ suffix) (opening ++ (model ++ suffix) ++ rest)) :
    Exports (fill (Code.written lines) (Placeholder.fragment plan artifact))
      (plan.names.model ++ suffix) := by
  refine (own plan.names.model plain.names.model).exports_fill listed ?_
  rw [fill, read]
  simp only [List.flatMap_cons, List.flatMap_nil, List.append_nil, Piece.fill, List.append_assoc]
  rfl

/-- Each name that the type module declares is exported from it. -/
theorem exports_of_mem_declaredNames (plain : plan.Plain) (member : name ∈ plan.declaredNames) :
    Exports (Artifact.types.content plan Stub.types) name := by
  obtain ⟨lines, written, helpers, record, form, filters, page, options⟩ := Stub.types_lines
  obtain ⟨helperBlock, recordLine, formLine, filterLine, pageLine, optionBlock⟩ := Stub.pieces_types
  have words : IsPlain "FormData" ∧ IsPlain "Filters" ∧ IsPlain "Paginated" := by
    unfold IsPlain
    decide
  rw [Artifact.content, written]
  simp only [declaredNames, List.mem_append, List.mem_map, List.mem_flatMap, List.mem_cons,
    List.not_mem_nil, or_false] at member
  rcases member with (⟨helper, listed, rfl⟩ | rfl | rfl | rfl | rfl) | ⟨field, listed, rfl | rfl⟩
  · obtain ⟨line, inside, own⟩ := helper.declaringLine
    exact own.exports_block helpers helperBlock rfl
      (Code.mem_spaced (List.mem_map.mpr ⟨helper, listed, rfl⟩) inside)
  · have exported : Exports (fill (Code.written lines) (Placeholder.fragment plan .types))
        (plan.names.model ++ []) :=
      exports_model plain record recordLine fun model own => .of (.head _) (own.append .nil)
        (by decide) (by decide) (by decide)
    rwa [List.append_nil] at exported
  · exact exports_model plain form formLine fun model own => .of (.tail _ (.head _))
      (own.append words.1) (by decide) (by decide) (by decide)
  · exact exports_model plain filters filterLine fun model own => .of (.tail _ (.head _))
      (own.append words.2.1) (by decide) (by decide) (by decide)
  · have own : DeclaringLine "Paginated" ("export interface ".toList ++ "Paginated" ++ "<T> \x7b") :=
      .of (.head _) words.2.2 (by decide) (by decide) (by decide)
    refine own.exports_fill page ?_
    rw [fill, pageLine]
    simp only [List.flatMap_cons, List.flatMap_nil, List.append_nil, Piece.fill]
  · obtain ⟨line, inside, own⟩ := field.declaringLine_optionsName
    exact own.exports_block options optionBlock rfl
      (List.mem_flatMap.mpr ⟨field, listed, List.mem_cons_of_mem _ inside⟩)
  · obtain ⟨line, inside, own⟩ := field.declaringLine_labelFunction
    exact own.exports_block options optionBlock rfl
      (List.mem_flatMap.mpr ⟨field, listed, List.mem_cons_of_mem _ inside⟩)

end Plan

end Scaffold
