import Scaffold.Page.Listing
import Scaffold.Proofs.Page.Control
import Scaffold.Proofs.Page.Exports

/-!
# The helpers that pages mention

The code that shows a value is written around the expression of the value, and the control of a filter
around the key that it sets. Apart from these a cell or a card mentions the helpers that are imported
for its field and the record list of the field, and no others (`Field.mentions_viewLines`). A
projection mentions none (`Projection.mentions_view`), and the control of a filter its list alone
(`Filter.mentions_lines`).
-/
namespace Scaffold

open Text Code

namespace View

open Markup

variable {value : Text}

/-- The lines of an uploaded file are written around the expression of the value. -/
theorem bareLines_fileLines (filled : value ≠ []) (preview : Bool) (place : Place) :
    BareLines [value] (fileLines value preview place) (fileLines " " preview place) := by
  have alone : Bare [value] value " " := .alone (List.mem_singleton_self value) filled
  have behind (rest : Text) : Bare [value] (value ++ rest) (" ".toList ++ rest) :=
    alone.append (.refl rest)
  have content (size : Text) : BareLines [value]
      (if preview then [imageLine value size]
        else outsideLink (value ++ ".url") [Text.braced (value ++ ".name")])
      (if preview then [imageLine " " size]
        else outsideLink (" ".toList ++ ".url") [Text.braced (" ".toList ++ ".name")]) := by
    split
    · exact .single (bare_empty (.cons (bare_code (behind _)) (.cons (bare_code (behind _))
        (bareAttributes_refl _)))) rfl
    · exact bareLines_element (.cons (bare_code (behind _)) (bareAttributes_refl _))
        (.single (behind _).braced rfl)
  exact ((BareLines.block (.char _ (behind _)) rfl (content _) (.refl _) rfl).append (.refl _)).append
    (.refl _)

/-- The lines of a value without options are written around the expression of the value. -/
theorem bareLines_kindLines (filled : value ≠ []) (preview : Bool) (place : Place)
    (kind : FieldKind) :
    BareLines [value] (kindLines value preview place kind) (kindLines " " preview place kind) := by
  have alone : Bare [value] value " " := .alone (List.mem_singleton_self value) filled
  have behind (rest : Text) : Bare [value] (value ++ rest) (" ".toList ++ rest) :=
    alone.append (.refl rest)
  have braced (rest : Text) : BareLines [value] [Text.braced (value ++ rest)]
      [Text.braced (" ".toList ++ rest)] := .single (behind rest).braced rfl
  have range : BareLines [value] [rangeCode value] [rangeCode " "] :=
    .single (Bare.braced ((((behind _).append (behind _).braced).append (.refl _)).append
      (behind _).braced |>.append (.refl _))) rfl
  cases kind with
  | color =>
    have style : Bare [value] (Code.record ["backgroundColor: " ++ value ++ " ?? undefined"])
        (Code.record ["backgroundColor: " ++ " " ++ " ?? undefined"]) :=
      BareLines.record (.single (((Bare.refl _).append alone).append (.refl _)) (by simp))
    exact bareLines_element (bareAttributes_refl _) (.cons
      (bare_empty (.cons (.refl _) (.cons (bare_code style) .nil))) rfl
      (.single alone.braced rfl))
  | dateRange => exact range
  | datetimeRange => exact range
  | rating => exact .single (((behind _).append alone).append (.refl _)).braced rfl
  | richText =>
    cases place with
    | cell => exact .single (bare_inline (bareAttributes_refl _) (behind _).braced) rfl
    | card =>
      have content : Bare [value] (Code.record ["__html: " ++ value ++ " ?? ''"])
          (Code.record ["__html: " ++ " " ++ " ?? ''"]) :=
        BareLines.record (.single (((Bare.refl _).append alone).append (.refl _)) (by simp))
      exact .single (bare_empty (.cons (.refl _) (.cons (bare_code content) .nil))) rfl
  | textarea =>
    cases place with
    | cell => exact .single (bare_inline (bareAttributes_refl _) alone.braced) rfl
    | card => exact braced _
  | mediaSingle => exact bareLines_fileLines filled preview place
  | mediaMultiple =>
    cases place with
    | cell => exact .single ((behind _).braced.append (.refl _)) rfl
    | card => exact bareLines_element (bareAttributes_refl _) (bareLines_each alone (.refl _))
  | _ => exact braced _

/-- None of them mentions a helper. -/
theorem helpers_kindLines : ∀ kind ∈ FieldKind.all, ∀ preview ∈ [false, true],
    ∀ place ∈ [Place.cell, .card], helpers (unlines (kindLines " " preview place kind)) = [] := by
  decide +kernel

/-- The label of a listed record mentions its function and the list. -/
theorem reads_recordCall {list key : Text} (shown : Text) (plain : IsPlain list)
    (named : isHelperName list = true) (expression : Reads (',' :: ' ' :: key ++ [',', ' ']) []) :
    Reads (recordCall list key shown) [recordLabel, list] := by
  have call : Reads (recordLabel ++ ['(']) [recordLabel] := by decide
  have closing : Reads [')'] [] := by decide
  have arguments : Reads (',' :: (' ' :: key ++ [',', ' '] ++ quote shown ++ [')'])) [] :=
    (expression.append (.quote shown)).append closing
  have whole := call.append (.helper plain named (by decide) arguments)
  have written : recordCall list key shown =
      recordLabel ++ ['('] ++ (list ++ ',' :: (' ' :: key ++ [',', ' '] ++ quote shown ++ [')'])) := by
    simp [recordCall]
  rwa [written]

/-- The label of one member of a list. -/
theorem readsLines_badgeItems {items label : Text} {found : List Text}
    (list : Reads ('\x7b' :: items ++ ".map((" ++ "item" ++ ") => (") [])
    (shown : Reads (Text.braced label) found) : ReadsLines (badgeItems items label) found :=
  .inside list (.inside (by decide) (.single shown) (by decide)) (by decide)

/-- Badges mention what their label does. -/
theorem readsLines_badgeLines {label : Text} {found : List Text} (place : Place)
    (shown : Reads (Text.braced label) found) :
    ReadsLines (badgeLines " " label place) found := by
  cases place with
  | card => exact .inside (by decide) (readsLines_badgeItems (by decide) shown) (by decide)
  | cell =>
    have others : Reads (Text.braced (("(".toList ++ " " ++ " ?? [])") ++ ".length > " ++
        badgeLimit ++ " && " ++ inline "Badge" [.text "variant" "secondary"]
          ('+' :: Text.braced
            (("(".toList ++ " " ++ " ?? [])") ++ ".length - " ++ badgeLimit)))) [] := by
      decide
    have badges : ReadsLines (badgeLines " " label .cell) (found ++ []) :=
      .inside (by decide) ((readsLines_badgeItems (by decide) shown).append (.single others))
        (by decide)
    rwa [List.append_nil] at badges

/-- The lines of badges are written around the expression of the list. -/
theorem bareLines_badgeLines (filled : value ≠ []) (label : Text) (place : Place) :
    BareLines [value] (badgeLines value label place) (badgeLines " " label place) := by
  have items : Bare [value] ('(' :: value ++ " ?? [])") ('(' :: " ".toList ++ " ?? [])") :=
    .char '(' ((Bare.alone (List.mem_singleton_self value) filled).append (.refl _))
  refine bareLines_element (bareAttributes_refl _) ?_
  cases place with
  | card => exact bareLines_each items (.refl _)
  | cell =>
    have first := ((items.append (.refl ".slice(0, ")).append (.refl badgeLimit)).append (.refl [')'])
    refine (bareLines_each first (.refl _)).append (.single (Bare.braced ?_) rfl)
    have others := (items.append (.refl ".length - ")).append (.refl badgeLimit)
    exact (((items.append (.refl _)).append (.refl _)).append (.refl _)).append
      (bare_inline (bareAttributes_refl _) (.char '+' others.braced))

end View

namespace FieldView

open Markup View

variable {value : Text}

/-- A view is written around the expression of the value. -/
theorem bareLines_lines (filled : value ≠ []) (place : Place) (view : FieldView) :
    BareLines [value] (view.lines value place) (view.lines " " place) := by
  have alone : Bare [value] value " " := .alone (List.mem_singleton_self value) filled
  cases view with
  | badges label => exact bareLines_badgeLines filled _ place
  | record list shown =>
    have call : Bare [value] (recordCall list value shown) (recordCall list " " shown) :=
      (((((Bare.refl _).append (.refl _)).append alone).append (.refl _)).append (.refl _)).append
        (.refl _)
    exact .single call.braced rfl
  | badge function =>
    have call : Bare [value] (function ++ '(' :: value ++ ")")
        (function ++ '(' :: " ".toList ++ ")") :=
      ((Bare.refl function).append (.char '(' alone)).append (.refl _)
    exact .single (bare_inline (bareAttributes_refl _) call.braced) rfl
  | value kind preview => exact bareLines_kindLines filled preview place kind

end FieldView

namespace Field

open Markup View

/-- The record list that a view of the field is given. -/
def viewLists (field : Field) : List Text :=
  if field.hasRecords then [optionsName field.name] else []

/-- A view of a field mentions the helpers that are imported for it and its record list. -/
theorem helpers_viewLines (field : Field) (place : Place) :
    helpers (unlines (field.view.lines " " place)) = field.viewImports ++ field.viewLists := by
  have record (key shown : Text) (behind : Reads (',' :: ' ' :: key ++ [',', ' ']) []) :
      Reads (Text.braced (recordCall (optionsName field.name) key shown))
        [recordLabel, optionsName field.name] :=
    (reads_recordCall shown (plain_optionsName _) (isHelperName_optionsName _) behind).braced
  have position (key : Text) (behind : Reads ('(' :: key) []) :
      Reads (Text.braced (labelFunction field.name ++ '(' :: key)) [labelFunction field.name] :=
    (Reads.helper (plain_labelFunction _) (isHelperName_labelFunction _) (by decide) behind).braced
  have itself : Reads (Text.braced "item") [] := by decide
  obtain ⟨name, kind, nullable, validation, options, flags⟩ := field
  unfold view viewImports viewLists
  split
  · cases options with
    | none => exact (readsLines_badgeLines place itself).helpers_unlines
    | labels => exact (readsLines_badgeLines place (position "item)" (by decide))).helpers_unlines
    | records model shown =>
      exact (readsLines_badgeLines place (record "item" shown (by decide))).helpers_unlines
  · cases options with
    | none =>
      exact helpers_kindLines kind (FieldKind.mem_all kind) flags.showPreview (by simp) place
        (by cases place <;> simp)
    | labels =>
      have opening : Reads (opening "Badge" [.text "variant" "outline"]) [] := by decide
      have closing : Reads (closing "Badge") [] := by decide
      have call : Reads (Text.braced (labelFunction name ++ '(' :: " ".toList ++ ")"))
          [labelFunction name] := by
        rw [List.append_assoc]
        exact position " )" (by decide)
      exact (ReadsLines.single ((opening.append call).append closing)).helpers_unlines
    | records model shown => exact (ReadsLines.single (record " " shown (by decide))).helpers_unlines

/-- **Views mention what is imported for them.** Around the expression of the value, a view of a field
mentions the helpers that are imported for it and its record list, and no other helper. -/
theorem mentions_viewLines (field : Field) (record : Text) (place : Place) :
    Mentions [record ++ '.' :: field.name] (unlines (field.viewLines record place))
      (field.viewImports ++ field.viewLists) :=
  ⟨_, (field.view.bareLines_lines (by simp) place).unlines, field.helpers_viewLines place⟩

end Field

/-- The expression that a projection shows. -/
def Projection.value (projection : Projection) (record : Text) : Text :=
  record ++ '.' :: snakeCase projection.relation ++ "?." ++ projection.field

/-- Around the projected expression, a projection mentions no helper. -/
theorem Projection.mentions_view (projection : Projection) (record : Text) :
    Mentions [projection.value record] (projection.view record) [] := by
  have filled : projection.value record ≠ [] := by simp [value]
  have shown := (Bare.alone (List.mem_singleton_self _) filled).append (.refl " ?? '-'")
  exact ⟨_, shown.braced, by decide⟩

/-- The column of a field or a projection, as its cell refers to it. -/
def TableColumn.value (record : Text) : TableColumn → Text
  | field column => record ++ '.' :: column.name
  | relation projection => projection.value record

/-- The record list that the cell of a column is given. -/
def TableColumn.viewLists : TableColumn → List Text
  | field column => column.viewLists
  | relation _ => []

/-- **Cells mention what is imported for them.** Around the expression of the value, a cell mentions
the helpers that are imported for its column and the record list of the column, and no other
helper. -/
theorem TableColumn.mentions_cellContent (column : TableColumn) (record : Text) :
    Mentions [column.value record] (Plan.cellContent record column)
      (Plan.columnImports column ++ column.viewLists) := by
  cases column with
  | field column => exact column.mentions_viewLines record .cell
  | relation projection => exact projection.mentions_view record

namespace Filter

open Markup

variable {plan : Plan}

/-- The expressions that the control of a filter is given: its value and its new value under its
key. -/
def members (filter : Filter) : List Text :=
  ["filters.".toList ++ filter.key, filter.key ++ ": value"]

/-- The list of a filter is named as one, and plainly. -/
theorem choices_list (plan : Plan) (filter : Filter) :
    ∃ name, (filter.choices plan).list = optionsName name := by
  cases filter with
  | _ => exact ⟨_, rfl⟩

/-- **Controls of filters mention their lists.** Around what is given to it, the control of a filter
mentions the list of its choices and no other helper. -/
theorem mentions_lines (plan : Plan) (filter : Filter) :
    Mentions filter.members (unlines (filter.lines plan)) [(filter.choices plan).list] := by
  have value : Bare filter.members ("filters.".toList ++ filter.key) " " :=
    .alone (by simp [members]) (by simp)
  have applied : Bare filter.members (filter.key ++ ": value") " " :=
    .alone (by simp [members]) (by simp)
  have call : Bare filter.members ("(value) => ".toList ++ applyCall [filter.key ++ ": value"])
      ("(value) => ".toList ++ applyCall [" "]) :=
    (Bare.refl _).append
      (((Bare.refl _).append (BareLines.single applied (by simp)).record).append (.refl _))
  have given : BareAttributes filter.members
      [.code "value" ("filters." ++ filter.key ++ " ?? ''"),
        .code "onValueChange" ("(value) => " ++ applyCall [filter.key ++ ": value"])]
      [.code "value" (" ".toList ++ " ?? ''"),
        .code "onValueChange" ("(value) => " ++ applyCall [" "])] :=
    .cons (bare_code (value.append (.refl _))) (.cons (bare_code call) .nil)
  refine ⟨_, (bareLines_element given (.refl _)).unlines, ?_⟩
  have hint : Reads (empty "SelectValue" [.code "placeholder" (quote filter.label)]) [] := by
    have front : Reads "<SelectValue placeholder=\x7b" [] := by decide
    have back : Reads "\x7d />" [] := by decide
    have whole := (front.append (.quote filter.label)).append back
    simpa [empty, head, concat, Attribute.written, Text.braced] using whole
  have trigger : ReadsLines (element "SelectTrigger" [classes "w-48"]
      [empty "SelectValue" [.code "placeholder" (quote filter.label)]]) [] :=
    .inside (by decide) (.single hint) (by decide)
  have items : ReadsLines (selectItems (filter.choices plan).code) [(filter.choices plan).list] := by
    obtain ⟨name, named⟩ := filter.choices_list plan
    have drawn := (filter.choices plan).readsLines_selectItems (named ▸ plain_optionsName name)
    rwa [ChoiceList.helpers, List.filter_cons_of_pos (named ▸ isHelperName_optionsName name)] at drawn
  have opening : Reads (opening "Select" [.code "value" (" ".toList ++ " ?? ''"),
      .code "onValueChange" ("(value) => " ++ applyCall [" "])]) [] := by decide
  have closing : Reads (closing "Select") [] := by decide
  exact (ReadsLines.inside opening (trigger.append items) closing).helpers_unlines

end Filter

end Scaffold
