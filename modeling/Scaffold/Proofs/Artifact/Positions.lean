import Mathlib.Data.List.Zip
import Scaffold.Artifact.Output
import Scaffold.Proofs.Artifact.Parts
import Scaffold.Proofs.Page.Exports
import Scaffold.Proofs.Plan.Rules
import Scaffold.Proofs.Schema.Reading
import Scaffold.Proofs.Text.Number
import Scaffold.Proofs.Text.Quoted
import Scaffold.Proofs.Text.Tidy

/-!
# Stored positions mean the same everywhere

The position of a label is stored for a field with fixed options, and four parts of the generated
files list the positions by themselves: the list of options in the type module, the rule of the
requests, and the made-up values of the factory. Each is read back from its text and lists exactly
the positions of the labels (`Plan.positions_agree`).
-/
namespace Scaffold

open Text

/-- What stands in front of an ending is read back. -/
theorem Text.beforeEnd?_append (text ending : Text) :
    beforeEnd? (text ++ ending) ending = some text := by
  rw [beforeEnd?, List.reverse_append, afterStart?_append, Option.map_some, List.reverse_reverse]

namespace Schema

variable {text : Text} {labels : List Text}

/-- Declared labels are texts without blanks around them, and there is at least one. -/
theorem labels_of_readOptions (read : readOptions text = .labels labels) :
    labels ≠ [] ∧ ∀ label ∈ labels, Tight label := by
  unfold readOptions at read
  split at read
  · simp at read
  · split at read
    · simp only at read
      split at read <;> simp at read
    · rename_i c rest _ _
      split at read
      · simp at read
      · rename_i label more written
        obtain rfl := FieldOptions.labels.inj read
        refine ⟨List.cons_ne_nil _ _, fun kept member => ?_⟩
        rw [← written] at member
        obtain ⟨listed, filled⟩ := List.mem_filter.mp member
        obtain ⟨piece, -, rfl⟩ := List.mem_map.mp listed
        exact tight_of_trim (by simpa using filled) (trim_trim piece)

/-- The labels of a declared field are those of a kind with options. -/
theorem labels_of_mem_readFields {field : Field} (member : field ∈ (readFields text).1)
    (own : field.options = .labels labels) :
    field.kind.isEnumerable = true ∧ labels ≠ [] ∧ ∀ label ∈ labels, Tight label := by
  obtain ⟨token, -, read⟩ := exists_token_of_mem_readFields member
  obtain ⟨parts, -, -, none | ⟨enumerable, options, -, same⟩⟩ := read.rest
  · rw [own] at none
    simp at none
  · exact ⟨enumerable, labels_of_readOptions (same.symm.trans own)⟩

end Schema

/-- A kind with options has a column that requests assign. -/
theorem FieldKind.isFormWritable_of_isEnumerable (kind : FieldKind)
    (enumerable : kind.isEnumerable = true) : kind.isFormWritable = true := by
  revert enumerable
  cases kind <;> decide

/-! ### The list of options -/

/-- The position and the label that a line of a list of options tells. -/
def optionOf? (line : Text) : Option (Nat × Text) := do
  let behind ← afterStart? line (Code.step ++ "\x7b value: ")
  let (digits, rest) ← splitFirst? ',' behind
  let value ← number? digits
  let (label, rest) ← (afterStart? rest " label: ").bind Quoted.read?
  if rest = " \x7d," then some (value, label) else none

/-- The list of options of a name stands in a text, with these labels at their positions and
nothing else between its first and its last line. -/
def ListsLabels (text name : Text) (labels : List Text) : Prop :=
  ∃ entries,
    unlines (("export const " ++ name ++ ": StaticOption[] = [") :: entries ++ ["];".toList]) <:+:
      text ∧ entries.map optionOf? = ((List.range labels.length).zip labels).map some

/-- The line of a label holds each of its characters. -/
theorem mem_of_optionOf? {line label : Text} {value : Nat}
    (told : optionOf? line = some (value, label)) {c : Char} (inside : c ∈ label) :
    c ∈ line := by
  simp only [optionOf?, Option.bind_eq_bind, Option.bind_eq_some_iff] at told
  obtain ⟨behind, opened, ⟨digits, last⟩, cut, position, -, ⟨written, ending⟩,
    ⟨literal, started, read⟩, same⟩ := told
  simp only at cut started same
  split at same
  · obtain ⟨-, rfl⟩ := Prod.mk.inj (Option.some.inj same)
    rw [eq_append_of_afterStart? opened, (eq_of_splitFirst? cut).1,
      eq_append_of_afterStart? started]
    have inside := Quoted.mem_of_read? read inside
    simp [inside]
  · simp at same

/-- A text in which labels are listed holds each of their characters. -/
theorem ListsLabels.mem {text name : Text} {labels : List Text}
    (lists : ListsLabels text name labels) {label : Text} (listed : label ∈ labels) {c : Char}
    (inside : c ∈ label) : c ∈ text := by
  obtain ⟨entries, stands, told⟩ := lists
  obtain ⟨position, bound, rfl⟩ := List.getElem_of_mem listed
  have own : some (position, labels[position]) ∈ entries.map optionOf? := by
    rw [told]
    refine List.mem_map_of_mem (List.mem_iff_getElem.mpr ⟨position, by simpa using bound, ?_⟩)
    simp
  obtain ⟨entry, among, told⟩ := List.mem_map.mp own
  refine stands.subset (mem_joinWith_of_mem _ ?_ (mem_of_optionOf? told inside))
  simp [among]

namespace Field

/-- A line of a list of options, part by part. -/
theorem optionLine_eq (value : Nat) (label : Text) : optionLine value label =
    ("\x7b value: " : Text) ++ (ofNat value ++
      ((", label: " : Text) ++ (quote label ++ (" \x7d," : Text)))) := by
  unfold optionLine
  simp only [List.append_assoc]

/-- A line of a list of options is read back. -/
theorem optionOf?_line (value : Nat) (label : Text) :
    optionOf? (Code.step ++ optionLine value label) = some (value, label) := by
  have between : (", label: " : Text) = ',' :: (" label: " : Text) := by decide
  have digits : ',' ∉ ofNat value := (plain_ofNat value).notMem (by decide)
  rw [optionOf?, optionLine_eq, between, List.cons_append, ← List.append_assoc,
    afterStart?_append]
  simp only [Option.bind_eq_bind, Option.bind_some, splitFirst?_append digits, number?_ofNat,
    afterStart?_append, Quoted.read?_quote_append, ↓reduceIte]

/-- Tidying a line of a list of options tidies its label. -/
theorem indent_optionLine {label : Text} (tight : Tight label) (value : Nat) :
    indent [] (Code.step ++ optionLine value label) =
      Code.step ++ optionLine value (indent [] label) := by
  have parts : ∀ label, Code.step ++ optionLine value label =
      (Code.step ++ (("\x7b value: " : Text) ++ (ofNat value ++ (", label: " : Text)))) ++
        quote label ++ (" \x7d," : Text) := by
    intro label
    rw [optionLine_eq]
    simp only [List.append_assoc]
  have front : '\n' ∉ Code.step ++ (("\x7b value: " : Text) ++
      (ofNat value ++ (", label: " : Text))) := by
    have step : '\n' ∉ Code.step := by decide
    have opening : '\n' ∉ ("\x7b value: " : Text) := by decide
    have digits : '\n' ∉ ofNat value := (plain_ofNat value).notMem (by decide)
    have between : '\n' ∉ (", label: " : Text) := by decide
    simp only [List.mem_append, step, opening, digits, between, or_self, not_false_eq_true]
  rw [parts, parts, indent_quote tight front (by decide) ⟨',', by decide, by decide⟩]

/-- The labels of a field with their positions. -/
theorem indexedLabels_eq {field : Field} {labels : List Text}
    (own : field.options = .labels labels) :
    field.indexedLabels = (List.range labels.length).zip labels := by
  have listed : field.labels? = some labels := by rw [labels?, own]
  rw [indexedLabels, listed, Option.getD_some, List.zipIdx_eq_zip_range', ← List.range_eq_range']
  exact List.zip_swap _ _

/-- The lines of labels in a list of options. -/
def labelLines (labels : List Text) : List Text :=
  ((List.range labels.length).zip labels).map fun (value, label) =>
    Code.step ++ optionLine value label

/-- The positions and the labels are read back. -/
theorem map_optionOf?_labelLines (labels : List Text) : (labelLines labels).map optionOf? =
    ((List.range labels.length).zip labels).map some := by
  rw [labelLines, List.map_map]
  exact List.map_congr_left fun (value, label) _ => optionOf?_line value label

/-- Tidying the lines tidies the labels. -/
theorem map_indent_labelLines {labels : List Text} (tight : ∀ label ∈ labels, Tight label) :
    (labelLines labels).map (indent []) = labelLines (labels.map (indent [])) := by
  rw [labelLines, labelLines, List.length_map, List.zip_map_right, List.map_map, List.map_map]
  refine List.map_congr_left fun (value, label) member => ?_
  exact indent_optionLine (tight label (List.of_mem_zip member).2) value

/-- The list of options of a field, line by line. -/
theorem optionListLines_eq {field : Field} {labels : List Text}
    (own : field.options = .labels labels) : field.optionListLines =
      ("export const " ++ Code.optionsName field.name ++ ": StaticOption[] = [") ::
        labelLines labels ++ ["];".toList] := by
  rw [optionListLines, indexedLabels_eq own, Code.block, Code.deeper, List.map_map]
  refine congrArg (fun lines => _ :: lines ++ _) (List.map_congr_left fun (value, label) _ => ?_)
  rfl

/-- Each of these lines ends visibly. -/
theorem endsVisibly_optionListLines {field : Field} {labels : List Text}
    (own : field.options = .labels labels) : ∀ line ∈ field.optionListLines, EndsVisibly line := by
  intro line member
  rw [optionListLines_eq own] at member
  rcases List.mem_append.mp member with first | last
  · rcases List.mem_cons.mp first with rfl | entry
    · exact ⟨'[', by rw [List.getLast?_append]; rfl, by decide⟩
    · obtain ⟨⟨value, label⟩, -, rfl⟩ := List.mem_map.mp entry
      refine ⟨',', ?_, by decide⟩
      simp only [optionLine_eq, ← List.append_assoc]
      rw [List.getLast?_append]
      rfl
  · rw [List.mem_singleton.mp last]
    exact ⟨';', by decide, by decide⟩

/-- Tidying the list of options of a field tidies its labels. -/
theorem map_indent_optionListLines {field : Field} {labels : List Text}
    (own : field.options = .labels labels) (tight : ∀ label ∈ labels, Tight label) :
    field.optionListLines.map (indent []) =
      ("export const " ++ Code.optionsName field.name ++ ": StaticOption[] = [") ::
        labelLines (labels.map (indent [])) ++ ["];".toList] := by
  have visible := endsVisibly_optionListLines own
  rw [optionListLines_eq own] at visible ⊢
  have opening : '\n' ∉
      "export const " ++ Code.optionsName field.name ++ ": StaticOption[] = [" := by
    have front : '\n' ∉ ("export const " : Text) := by decide
    have name : '\n' ∉ Code.optionsName field.name :=
      (Code.plain_optionsName field.name).notMem (by decide)
    have back : '\n' ∉ (": StaticOption[] = [" : Text) := by decide
    simp only [List.mem_append, front, name, back, or_self, not_false_eq_true]
  have closing : '\n' ∉ ("];" : Text) := by decide
  rw [List.map_append, List.map_cons, List.map_singleton, map_indent_labelLines tight,
    indent_eq_self opening (visible _ (by simp)), indent_eq_self closing (visible _ (by simp))]

/-- The lines for a field end with the function that gives a label. -/
theorem last_optionLines (field : Field) :
    ∃ front last, field.optionLines = front ++ [last] ∧ EndsVisibly last := by
  let heading : Text := "export const " ++ Code.labelFunction field.name ++
    " = (value: number | null | undefined): string =>"
  let search : Text := ".find((option) => option.value === value)?.label ?? '';"
  have lines : field.labelFunctionLines =
      [heading, Code.step ++ (Code.optionsName field.name ++ search)] := by
    have filled : (Code.optionsName field.name ++ search).isEmpty = false := by simp [search]
    rw [labelFunctionLines, Code.deeper, List.map_singleton, filled]
    rfl
  refine ⟨field.optionListLines ++ [[], heading],
    Code.step ++ (Code.optionsName field.name ++ search), ?_, ';', ?_, by decide⟩
  · rw [optionLines, lines, List.append_assoc]
    rfl
  · rw [List.getLast?_append, List.getLast?_append]
    rfl

end Field

namespace Plan

/-- The list of options of a field stands among the lines of all lists. -/
theorem exists_optionLines {plan : Plan} {field : Field} (member : field ∈ plan.fields)
    (labelled : field.hasLabels = true) :
    ∃ before after, plan.optionLines = before ++ field.optionListLines ++ after := by
  have listed : field ∈ plan.staticFields := List.mem_filter.mpr ⟨member, labelled⟩
  obtain ⟨front, behind, split⟩ : ∃ front behind, plan.staticFields = front ++ field :: behind :=
    List.append_of_mem listed
  refine ⟨front.flatMap (fun field => [] :: field.optionLines) ++ [[]],
    [] :: field.labelFunctionLines ++ behind.flatMap fun field => [] :: field.optionLines, ?_⟩
  rw [optionLines, split]
  simp [Field.optionLines]

/-- The lines of all lists end visibly. -/
theorem endsVisibly_optionLines {plan : Plan} (some : plan.staticFields ≠ []) :
    EndsVisibly (unlines plan.optionLines) := by
  obtain ⟨front, field, split⟩ := (List.eq_nil_or_concat plan.staticFields).resolve_left some
  obtain ⟨lines, last, own, ends⟩ := field.last_optionLines
  have found : plan.optionLines.getLast? = .some last := by
    rw [optionLines, split, List.concat_eq_append, List.flatMap_append, List.flatMap_singleton, own,
      ← List.cons_append, ← List.append_assoc, List.getLast?_concat]
  exact endsVisibly_unlines found ends

variable {plan : Plan} {field : Field} {labels : List Text}

/-- The lists in the fragment have exactly the declared labels. -/
theorem listsLabels_fragment (member : field ∈ plan.fields) (own : field.options = .labels labels) :
    ListsLabels (Placeholder.fragment plan .types .optionConstants) (Code.optionsName field.name)
      labels := by
  have labelled : field.hasLabels = true := by rw [Field.hasLabels, Field.labels?, own]; rfl
  obtain ⟨before, after, split⟩ := exists_optionLines member labelled
  refine ⟨Field.labelLines labels, ?_, Field.map_optionOf?_labelLines labels⟩
  rw [← Field.optionListLines_eq own]
  change _ <:+: unlines plan.optionLines
  rw [split]
  exact infix_unlines before (by rw [Field.optionListLines_eq own]; simp) after

/-- So do the lists in the type module, up to line ends and blank lines inside of a label. -/
theorem listsLabels_content (member : field ∈ plan.fields) (own : field.options = .labels labels)
    (tight : ∀ label ∈ labels, Tight label) :
    ListsLabels (Artifact.types.content plan Stub.types) (Code.optionsName field.name)
      (labels.map (indent [])) := by
  have labelled : field.hasLabels = true := by rw [Field.hasLabels, Field.labels?, own]; rfl
  have some : plan.staticFields ≠ [] :=
    List.ne_nil_of_mem (List.mem_filter.mpr ⟨member, labelled⟩)
  obtain ⟨before, after, split⟩ := exists_optionLines member labelled
  refine ⟨Field.labelLines (labels.map (indent [])), ?_, Field.map_optionOf?_labelLines _⟩
  obtain ⟨stub, written, -, -, -, -, -, listed⟩ := Stub.types_lines
  obtain ⟨-, -, -, -, -, read⟩ := Stub.pieces_types
  have block : indent [] (Placeholder.fragment plan .types .optionConstants) <:+:
      Artifact.types.content plan Stub.types := by
    rw [Artifact.content, written]
    exact Template.infix_block listed read
  change indent [] (unlines plan.optionLines) <:+: _ at block
  have ends := endsVisibly_optionLines some
  rw [split] at ends block
  rw [← Field.map_indent_optionListLines own tight]
  exact (infix_indent_unlines before (by rw [Field.optionListLines_eq own]; simp) after
    (Field.endsVisibly_optionListLines own) ends).trans block

/-! ### The rule -/

/-- The positions that each `in:` segment of a rule allows. -/
def allowedPositions (rule : Text) : List (Option (List Nat)) :=
  ((Schema.segments rule).filterMap fun segment => afterStart? segment "in:").map numbers?

/-- Rules of which only the last one lists positions allow these. -/
theorem allowedPositions_joinRules (front : List Text) {count : Nat} (some : count ≠ 0)
    (other : ∀ rule ∈ front, (Schema.segments rule).filterMap
      (fun segment => afterStart? segment "in:") = []) :
    allowedPositions (joinRules (front ++ [positionsRule count])) = [.some (List.range count)] := by
  have none : (front.flatMap Schema.segments).filterMap
      (fun segment => afterStart? segment "in:") = [] := by
    rw [List.filterMap_flatMap, List.flatMap_eq_nil_iff]
    exact other
  have listed : List.range count ≠ [] := by simpa using some
  have positions := afterStart?_append "in:"
    (joinWith [','] ((List.range count).map ofNat))
  rw [allowedPositions, segments_joinRules (by simp), List.flatMap_append, List.filterMap_append,
    none, List.flatMap_singleton, segments_positionsRule, List.nil_append, positionsRule,
    List.filterMap_cons, positions, List.filterMap_nil, List.map_singleton,
    numbers?_joinWith listed]

/-- The key under which the positions of a field are listed. -/
def positionsKey (field : Field) : Text :=
  if field.isMultiple then elementKey field.name else field.name

/-- The rules of a field without validation allow exactly the positions of its labels. -/
theorem allowed_fieldRules (absent : field.validation = none) (own : field.options = .labels labels)
    (some : labels ≠ []) : AtKey ValidationRule.key (fieldRules field) (positionsKey field)
      (allowedPositions ·.rule = [.some (List.range labels.length)]) := by
  have count : labels.length ≠ 0 := by simpa using some
  have integer : (Schema.segments "integer").filterMap (fun segment => afterStart? segment "in:") =
      [] := by decide
  have presence : (Schema.segments (presenceRule field)).filterMap
      (fun segment => afterStart? segment "in:") = [] := by
    unfold presenceRule
    split
    · decide
    · decide
  unfold fieldRules positionsKey choiceRules
  rw [absent, own]
  simp only
  split
  · refine ⟨⟨_, List.mem_cons_of_mem _ List.mem_cons_self, rfl⟩, fun rule member same => ?_⟩
    rcases List.mem_cons.mp member with rfl | member
    · exact absurd same.symm (append_ne_self (by decide))
    · rw [List.mem_singleton.mp member]
      exact allowedPositions_joinRules ["integer".toList] count
        (List.forall_mem_singleton.mpr integer)
  · refine .cons rfl ?_ (by simp)
    exact allowedPositions_joinRules [presenceRule field, "integer".toList] count
      (List.forall_mem_cons.mpr ⟨presence, List.forall_mem_singleton.mpr integer⟩)

/-- The rules of a field stand together among those of the plan. -/
theorem infix_fieldRules (options : Options) (member : field ∈ (ofOptions options).fields) :
    fieldRules field <:+: (ofOptions options).rules := by
  obtain ⟨front, behind, split⟩ := List.append_of_mem member
  have own : fieldRules field <:+: (ofOptions options).fields.flatMap fieldRules := by
    rw [split, List.flatMap_append, List.flatMap_cons]
    exact ⟨front.flatMap fieldRules, behind.flatMap fieldRules, List.append_assoc _ _ _⟩
  exact own.trans (List.prefix_append _ _).isInfix

/-! ### The made-up values -/

/-- The column and the code that a line of a factory tells. -/
def factoryPair? (line : Text) : Option (Text × Text) := do
  let (column, rest) ← Quoted.read? line
  let code ← (afterStart? rest " => ").bind (beforeEnd? · ",")
  pure (column, code)

/-- The positions that code draws from, and how many it asks for if it asks for several. -/
def drawn? (code : Text) : Option (List Nat × Option Nat) :=
  match afterStart? code "fake()->randomElement([" with
  | some rest => do
    let positions ← (beforeEnd? rest "])").bind numbers?
    pure (positions, none)
  | none => do
    let rest ← afterStart? code "fake()->randomElements(["
    let (inner, behind) ← splitFirst? ']' rest
    let count ← ((afterStart? behind ", ").bind (beforeEnd? · ")")).bind number?
    let positions ← numbers? inner
    pure (positions, some count)

/-- A line of a factory is read back. -/
theorem factoryPair?_factoryLine (column code : Text) :
    factoryPair? (factoryLine column code) = some (column, code) := by
  rw [factoryLine, factoryPair?, List.append_assoc, List.append_assoc, Quoted.read?_quote_append]
  simp [afterStart?_append, beforeEnd?_append, -String.reduceToList]

/-- Drawing one position is read back. -/
theorem drawn?_oneOf {positions : List Nat} (some : positions ≠ []) :
    drawn? (MadeUp.oneOf positions).code = .some (positions, none) := by
  change drawn? (("fake()->randomElement([" : Text) ++ commaList (positions.map ofNat) ++
    ("])" : Text)) = _
  unfold drawn?
  rw [List.append_assoc, afterStart?_append]
  simp only [beforeEnd?_append, Option.bind_some, numbers?_commaList some, Option.bind_eq_bind,
    Option.pure_def]

/-- A list of positions holds no bracket. -/
theorem bracket_notMem_commaList (positions : List Nat) :
    ']' ∉ commaList (positions.map ofNat) := by
  intro inside
  rcases mem_joinWith inside with separator | ⟨digits, member, own⟩
  · exact absurd separator (by decide)
  · obtain ⟨value, -, rfl⟩ := List.mem_map.mp member
    exact (plain_ofNat value).notMem (by decide) own

/-- So is drawing several. -/
theorem drawn?_someOf {positions : List Nat} (some : positions ≠ []) (count : Nat) :
    drawn? (MadeUp.someOf positions count).code = .some (positions, .some count) := by
  have several : (MadeUp.someOf positions count).code =
      ("fake()->randomElements([" : Text) ++ (commaList (positions.map ofNat) ++
        ']' :: ((", " : Text) ++ (ofNat count ++ (")" : Text)))) := by
    change ("fake()->randomElements([" : Text) ++ commaList (positions.map ofNat) ++
      ("], " : Text) ++ ofNat count ++ (")" : Text) = _
    simp only [List.append_assoc]
    rfl
  have other : ∀ rest : Text, afterStart? (("fake()->randomElements([" : Text) ++ rest)
      ("fake()->randomElement([" : Text) = none := by
    intro rest
    simp [afterStart?]
  rw [several, drawn?, other, afterStart?_append]
  simp only [splitFirst?_append (bracket_notMem_commaList positions), afterStart?_append,
    beforeEnd?_append, number?_ofNat, numbers?_commaList some, Option.bind_eq_bind,
    Option.bind_some, Option.pure_def]

/-- The values of the factory, with their columns. -/
theorem filterMap_factoryPair? (plan : Plan) : plan.factoryLines.filterMap factoryPair? =
    ((plan.fields.filter (·.kind.isFormWritable)).map fun field =>
        (field.name, (MadeUp.ofField field).code)) ++
      (plan.formRelations.map fun relationship =>
        (relationship.foreignKey, relationship.target ++ ("::factory()" : Text))) ++
      [(ownershipColumn, (MadeUp.record "User").code)] := by
  unfold factoryLines
  rw [List.filterMap_append, List.filterMap_append, List.filterMap_map, List.filterMap_map,
    ← List.filterMap_eq_map, ← List.filterMap_eq_map]
  refine congrArg₂ (· ++ ·) (congrArg₂ (· ++ ·) ?_ ?_) ?_
  · exact List.filterMap_congr fun field _ => factoryPair?_factoryLine _ _
  · exact List.filterMap_congr fun relationship _ => factoryPair?_factoryLine _ _
  · rw [List.filterMap_cons_some (factoryPair?_factoryLine _ _)]
    rfl

/-- The factory draws from exactly the positions of the labels, and asks for at most as many. -/
theorem drawn_factoryLines (declared : plan.Declared) (member : field ∈ plan.fields)
    (own : field.options = .labels labels) (enumerable : field.kind.isEnumerable = true)
    (some : labels ≠ []) :
    AtKey Prod.fst (plan.factoryLines.filterMap factoryPair?) field.name fun pair =>
      ∃ count, drawn? pair.2 = .some (List.range labels.length, count) ∧
        count.isSome = field.isMultiple ∧ ∀ asked ∈ count, asked ≤ labels.length := by
  have filled : labels.length ≠ 0 := by simpa using some
  have listed : List.range labels.length ≠ [] := by simpa using some
  have most : max labels.length 1 = labels.length := by omega
  have source : field.source? = none := by rw [Field.source?, own]
  have labelled : field.labels? = .some labels := by rw [Field.labels?, own]
  rw [filterMap_factoryPair?]
  refine .append (.append (.map ?_ (fun _ => rfl) (List.mem_filter.mpr ⟨member, ?_⟩) ?_) ?_) ?_
  · exact declared.names.sublist (List.filter_sublist.map _)
  · exact FieldKind.isFormWritable_of_isEnumerable field.kind enumerable
  · unfold MadeUp.ofField
    rw [source, labelled, Option.getD_some]
    simp only [most, if_pos enumerable]
    by_cases multiple : field.isMultiple = true
    · rw [if_pos multiple]
      refine ⟨_, drawn?_someOf listed _, multiple.symm, fun asked same => ?_⟩
      obtain rfl := Option.some.inj same
      exact Nat.min_le_left _ _
    · rw [if_neg multiple]
      refine ⟨_, drawn?_oneOf listed, (Bool.eq_false_iff.mpr multiple).symm, by simp⟩
  · intro pair among same
    obtain ⟨relationship, chosen, rfl⟩ := List.mem_map.mp among
    exact name_ne_of_mem_formRelations member chosen same.symm
  · intro pair last same
    obtain rfl := List.mem_singleton.mp last
    exact declared.owner field member same.symm

/-- A field with labels has the same positions wherever they are listed. -/
structure PositionsAgree (plan : Plan) (field : Field) (labels : List Text) : Prop where
  /-- The list of options, as it is put into the type module. -/
  listed : ListsLabels (Placeholder.fragment plan .types .optionConstants)
    (Code.optionsName field.name) labels
  /-- The list of options in the type module, where lines inside of a label are tidied. -/
  inModule : ListsLabels (Artifact.types.content plan Stub.types) (Code.optionsName field.name)
    (labels.map (indent []))
  /-- A label of a single line stands in the type module as it is. -/
  single : ∀ label ∈ labels, '\n' ∉ label → indent [] label = label
  /-- The rules, unless the field has validation of its own. -/
  allowed : field.validation = none → fieldRules field <:+: plan.rules ∧
    AtKey ValidationRule.key (fieldRules field) (positionsKey field)
      (allowedPositions ·.rule = [some (List.range labels.length)])
  /-- The factory, which asks for several only where several may be chosen. -/
  drawn : AtKey Prod.fst (plan.factoryLines.filterMap factoryPair?) field.name fun pair =>
    ∃ count, drawn? pair.2 = some (List.range labels.length, count) ∧
      count.isSome = field.isMultiple ∧ ∀ asked ∈ count, asked ≤ labels.length

/-- **Stored positions mean the same everywhere.** -/
theorem positions_agree {options : Options} (member : field ∈ (ofOptions options).fields)
    (own : field.options = .labels labels) : (ofOptions options).PositionsAgree field labels := by
  obtain ⟨enumerable, some, tight⟩ :=
    Schema.labels_of_mem_readFields (List.mem_filter.mp member).1 own
  exact
    { listed := listsLabels_fragment member own
      inModule := listsLabels_content member own tight
      single := fun label listed whole => indent_eq_self whole (tight label listed).last
      allowed := fun absent => ⟨infix_fieldRules options member, allowed_fieldRules absent own some⟩
      drawn := drawn_factoryLines (declared_ofOptions options) member own enumerable some }

/-- Valves with a size whose label has two lines, ended as a form ends them. -/
def brokenSizes : Options :=
  { displayName := "Valve", fields := "size:select:multiple:Extra\r\nlarge|Small" }

/-- The size of such a valve. -/
def brokenSize : Field :=
  ⟨"size", .select, false, none, .labels ["Extra\r\nlarge", "Small"], ⟨false, true, false⟩⟩

/-- Such valves have this size. -/
theorem brokenSize_mem : brokenSize ∈ (ofOptions brokenSizes).fields := by decide +kernel

/-- The two labels have the positions 0 and 1 everywhere. -/
theorem positions_agree_sizes : brokenSize ∈ (ofOptions brokenSizes).fields ∧
    brokenSize.options = .labels ["Extra\r\nlarge", "Small"] ∧
    (ofOptions brokenSizes).PositionsAgree brokenSize ["Extra\r\nlarge", "Small"] :=
  ⟨brokenSize_mem, rfl, positions_agree brokenSize_mem rfl⟩

/-- The type module does not list the label as it was declared: its carriage return is gone. -/
theorem broken_label_not_listed : brokenSize ∈ (ofOptions brokenSizes).fields ∧
    ¬ListsLabels (Artifact.types.content (ofOptions brokenSizes) Stub.types)
      (Code.optionsName brokenSize.name) ["Extra\r\nlarge", "Small"] := by
  have gone : '\r' ∉ Artifact.types.content (ofOptions brokenSizes) Stub.types := by
    rw [Artifact.content, Stub.types, Template.fill_written]
    simp only [List.flatMap_cons, List.flatMap_nil, Template.fill, Template.pieces_eq]
    simp (disch := exact rfl) only [Text.toList_literal, -String.reduceToList]
    decide +kernel
  exact ⟨brokenSize_mem, fun lists => gone (lists.mem List.mem_cons_self (by decide))⟩

end Plan

end Scaffold
