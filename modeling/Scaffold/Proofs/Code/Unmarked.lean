import Scaffold.Code.Identifier
import Scaffold.Code.Markup
import Scaffold.Proofs.Text.Unmarked

/-!
# Code without percent signs

Blocks, literals and elements hold a percent sign only if one of their parts does. What they add of
their own, margins, braces, brackets and the names of attributes, holds none.
-/
namespace Scaffold

open Text

namespace Code

variable {heading opening closing name line : Text} {lines members content : List Text}

/-- Lines one step deeper. -/
@[simp]
theorem allUnmarked_deeper : AllUnmarked (deeper lines) ↔ AllUnmarked lines := by
  have margin : Unmarked step := unmarked_literal (.of rfl rfl)
  simp only [deeper, allUnmarked_map, unmarked_ite, unmarked_nil, unmarked_append, margin,
    true_and, implies_true]
  refine forall₂_congr fun line _ => ⟨fun clean => ?_, fun clean _ => clean⟩
  cases line with
  | nil => exact unmarked_nil
  | cons c rest => exact clean (by simp)

/-- Lines between an opening and a closing line. -/
@[simp]
theorem allUnmarked_block : AllUnmarked (block opening content closing) ↔
    Unmarked opening ∧ AllUnmarked content ∧ Unmarked closing := by
  simp [block]

/-- Lines between braces below a heading. -/
@[simp]
theorem allUnmarked_body : AllUnmarked (body heading lines) ↔
    Unmarked heading ∧ AllUnmarked lines := by
  simp [body]

/-- Lines between braces of which the first ends a heading. -/
@[simp]
theorem allUnmarked_braces : AllUnmarked (braces heading lines) ↔
    Unmarked heading ∧ AllUnmarked lines := by
  simp [braces]

/-- Lines below an empty one. -/
@[simp]
theorem allUnmarked_below : AllUnmarked (below lines) ↔ AllUnmarked lines := by
  cases lines <;> simp [below]

/-- Parts with empty lines between them. -/
@[simp]
theorem allUnmarked_spaced {parts : List (List Text)} : AllUnmarked (spaced parts) ↔
    ∀ part ∈ parts, AllUnmarked part := by
  induction parts with
  | nil => simp [spaced]
  | cons part rest ih =>
    cases rest with
    | nil => simp [spaced]
    | cons next more => simpa [spaced] using fun _ => ih

/-- A comment above a declaration. -/
@[simp]
theorem allUnmarked_docComment : AllUnmarked (docComment line) ↔ Unmarked line := by
  simp [docComment]

/-- A literal between braces. -/
@[simp]
theorem unmarked_record : Unmarked (record members) ↔ AllUnmarked members := by
  simp [record]

/-- A list literal. -/
@[simp]
theorem unmarked_list : Unmarked (list members) ↔ AllUnmarked members := by
  simp [list]

/-- The list of options of a name. -/
@[simp]
theorem unmarked_optionsName : Unmarked (optionsName name) := by
  simp [optionsName]

/-- The label function of a name. -/
@[simp]
theorem unmarked_labelFunction : Unmarked (labelFunction name) := by
  simp [labelFunction]

/-- A variable of the pages. -/
theorem unmarked_pageVariable (clean : Unmarked name) : Unmarked (pageVariable name) := by
  simp (disch := exact Spelled.of rfl rfl) [pageVariable, clean, -String.reduceToList]

end Code

namespace Markup

variable {tag name value list member choices names : Text} {attributes : List Attribute}
  {own : Attribute} {content : List Text}

/-- No percent sign stands in the attributes. -/
def AllUnmarked (attributes : List Attribute) : Prop :=
  ∀ own ∈ attributes, Text.Unmarked own.written

/-- No attributes hold none. -/
@[simp]
theorem allUnmarked_nil : AllUnmarked [] := fun _ listed => absurd listed List.not_mem_nil

/-- An attribute in front adds its own. -/
@[simp]
theorem allUnmarked_cons : AllUnmarked (own :: attributes) ↔
    Unmarked own.written ∧ AllUnmarked attributes :=
  List.forall_mem_cons

/-- Attributes behind others. -/
@[simp]
theorem allUnmarked_append {more : List Attribute} : AllUnmarked (attributes ++ more) ↔
    AllUnmarked attributes ∧ AllUnmarked more :=
  List.forall_mem_append

/-- A choice of attributes. -/
@[simp]
theorem allUnmarked_ite {condition : Prop} [Decidable condition] {more : List Attribute} :
    AllUnmarked (if condition then attributes else more) ↔
      (condition → AllUnmarked attributes) ∧ (¬condition → AllUnmarked more) := by
  split <;> simp_all

/-- An attribute with a literal text. -/
@[simp]
theorem unmarked_text : Unmarked (Attribute.written (.text name value)) ↔
    Unmarked name ∧ Unmarked value := by
  simp [Attribute.written]

/-- An attribute with an expression. -/
@[simp]
theorem unmarked_code : Unmarked (Attribute.written (.code name value)) ↔
    Unmarked name ∧ Unmarked value := by
  simp [Attribute.written]

/-- An attribute without a value. -/
@[simp]
theorem unmarked_flag : Unmarked (Attribute.written (.flag name)) ↔ Unmarked name := by
  simp [Attribute.written]

/-- The classes of an element. -/
@[simp]
theorem unmarked_classes : Unmarked (Attribute.written (classes names)) ↔ Unmarked names := by
  simp [classes]

/-- The name of an element with its attributes. -/
@[simp]
theorem unmarked_head : Unmarked (head tag attributes) ↔
    Unmarked tag ∧ AllUnmarked attributes := by
  simp only [head, unmarked_append, unmarked_concat, allUnmarked_map, AllUnmarked]

/-- The tag at the front of an element. -/
@[simp]
theorem unmarked_opening : Unmarked (opening tag attributes) ↔
    Unmarked tag ∧ AllUnmarked attributes := by
  simp [opening]

/-- The tag at the end of an element. -/
@[simp]
theorem unmarked_closing : Unmarked (closing tag) ↔ Unmarked tag := by
  simp [closing]

/-- An element without content. -/
@[simp]
theorem unmarked_empty : Unmarked (empty tag attributes) ↔
    Unmarked tag ∧ AllUnmarked attributes := by
  simp [empty]

/-- An element on one line. -/
@[simp]
theorem unmarked_inline : Unmarked (inline tag attributes value) ↔
    Unmarked tag ∧ AllUnmarked attributes ∧ Unmarked value := by
  simp only [inline, unmarked_append, unmarked_opening, unmarked_closing]
  grind

/-- An element around lines. -/
@[simp]
theorem allUnmarked_element : Text.AllUnmarked (element tag attributes content) ↔
    Unmarked tag ∧ AllUnmarked attributes ∧ Text.AllUnmarked content := by
  simp only [element, Code.allUnmarked_block, unmarked_opening, unmarked_closing]
  grind

/-- Lines for every member of a list. -/
@[simp]
theorem allUnmarked_each : Text.AllUnmarked (each list member content) ↔
    (Unmarked list ∧ Unmarked member) ∧ Text.AllUnmarked content := by
  simp [each]

/-- The items of a drop-down list. -/
@[simp]
theorem allUnmarked_selectItems : Text.AllUnmarked (selectItems choices) ↔ Unmarked choices := by
  simp (disch := exact Spelled.of rfl rfl) [selectItems, -String.reduceToList]

end Markup

end Scaffold
