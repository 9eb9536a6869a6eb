import Mathlib.Data.List.Nodup
import Scaffold.Proofs.Page.Constants

/-!
# The properties of the pages

The list page takes the records, the filters and the lists of related records. The forms take these
lists as well, and the form of a changed record takes the record, under a variable of its own. The
controller returns the lists under the names that the pages take. The headings of the pages and the
keys of the controller are read off the rendered files (`Plan.headsPages_ofOptions`,
`Plan.declaredKeys_controller`).

A list is named after its relationship or field alone, in lower camel case. A relationship of a
filter is not listed where a listed one has its name, and nothing else is compared. So what a page
takes has distinct names exactly if no two sources read alike and none reads as the records or the
record (`Plan.distinctProps_iff`).
-/
namespace Scaffold

open Text Code Template

namespace Text

/-- Behind the first part of a list each has a comma in front. -/
theorem commaList_cons (first : Text) (rest : List Text) :
    commaList (first :: rest) = first ++ concat (rest.map fun part => ", " ++ part) := by
  induction rest generalizing first with
  | nil => exact (List.append_nil first).symm
  | cons next rest ih =>
    have inner : commaList (first :: next :: rest) = first ++ ", " ++ commaList (next :: rest) := rfl
    rw [inner, ih, List.map_cons]
    simp only [concat, List.flatten_cons, List.append_assoc]

end Text

namespace Code

/-- What opens a page in front of its properties. -/
def propsOpening (page : Text) : Text := "export default function " ++ page ++ "(\x7b "

/-- What closes the properties of a page. -/
def propsClosing : Text := " \x7d: Props) \x7b"

/-- The heading of a page with its properties. -/
def propsHeading (page : Text) (members : List Text) : Text :=
  propsOpening page ++ commaList members ++ propsClosing

/-- The keys of an array, each a literal at the beginning of its row. -/
def keyOpenings : Openings where
  words := [['\'']]
  initial := '\''
  names := before '\''
  tells := (·.contains '\'')
  visible := by decide
  legal := by decide
  apart := by decide
  ending := before_concat (by decide)
  told := fun _ rest inside => before_append inside rest

/-- The reader of keys. -/
def arrayKeys : Reader := keyOpenings.reader

/-- A row that begins with a plain literal has that key. -/
theorem declared_key {key rest : Text} (plain : IsPlain key) (single : '\n' ∉ rest) :
    arrayKeys.declared (quote key ++ rest) = [key] := by
  have mark : '\'' ∉ key := plain.notMem (by decide)
  have literal : quote key ++ rest = ['\''] ++ (key ++ '\'' :: rest) := by
    rw [quote_eq (plain.notMem (by decide)) mark]
    simp only [List.cons_append, List.append_assoc, List.nil_append]
  rw [literal, arrayKeys.declared_of_notMem, arrayKeys, keyOpenings.row_opening List.mem_cons_self]
  · exact before_of_notMem mark rest
  · simp only [List.mem_append, List.mem_cons, List.not_mem_nil, not_or]
    exact ⟨⟨by decide, not_false⟩, plain.notMem (by decide), by decide, single⟩

end Code

namespace Template

variable {lines : List String} {line : String} {page : Text} {inner : List Piece}
  {members : List Text} {value : Placeholder → Text}

/-- The pieces of a line that opens a page, with those between its opening and its end. -/
def headingPieces (page : Text) (inner : List Piece) : List Piece :=
  Piece.literal (propsOpening page) :: (inner ++ [Piece.literal (propsClosing ++ ['\n'])])

/-- A line that opens a page becomes its heading if the tokens between become its properties. -/
theorem mem_rows_heading (member : line ∈ lines)
    (read : pieces (line.toList ++ ['\n']) = headingPieces page inner)
    (word : '\n' ∉ page) (filled : inner.flatMap (Piece.fill value) = commaList members)
    (single : ∀ member ∈ members, '\n' ∉ member) :
    propsHeading page members ∈ rows (fill (Code.written lines) value) := by
  have whole : fill (line.toList ++ ['\n']) value = propsHeading page members ++ ['\n'] := by
    rw [fill, read, headingPieces, propsHeading, ← filled]
    simp only [List.flatMap_append, List.flatMap_cons, List.flatMap_nil, Piece.fill,
      List.append_assoc, List.append_nil]
  have row : '\n' ∉ propsHeading page members := by
    unfold propsHeading propsOpening propsClosing
    simp only [List.mem_append, not_or]
    exact ⟨⟨⟨⟨notMem_toList (by decide), word⟩, notMem_toList (by decide)⟩,
      feed_notMem_commaList single⟩, notMem_toList (by decide)⟩
  refine mem_rows_fill member whole ?_
  rw [rows_of_notMem row]
  exact List.mem_cons_self

/-- Neighbouring lines of a template stand together in what is written, filled. -/
theorem infix_fill_written {part : List String} (inside : part <:+: lines)
    (value : Placeholder → Text) :
    fill (Code.written part) value <:+: fill (Code.written lines) value := by
  obtain ⟨front, behind, rfl⟩ := inside
  simp only [fill_written, List.flatMap_append]
  exact List.infix_append _ _ _

end Template

namespace Stub

/-- The line that opens the list page. -/
def indexLine : String :=
  "export default function Index(\x7b %%modelVariablePlural%%, filters%%pagePropNames%% \x7d: Props) \x7b"

/-- The line that opens the form of a new record. -/
def createLine : String := "export default function Create(\x7b %%formPropNames%% \x7d: Props) \x7b"

/-- The line that opens the form of a changed record. -/
def editLine : String :=
  "export default function Edit(\x7b %%modelVariable%%: %%jsVariable%%%%formPropNames%% \x7d: Props) \x7b"

/-- The pages have these lines. -/
theorem heading_lines :
    (∃ lines, listPage = Code.written lines ∧ indexLine ∈ lines) ∧
    (∃ lines, createPage = Code.written lines ∧ createLine ∈ lines) ∧
    ∃ lines, editPage = Code.written lines ∧ editLine ∈ lines :=
  ⟨⟨_, rfl, List.mem_of_getElem? (i := 20) rfl⟩, ⟨_, rfl, List.mem_of_getElem? (i := 20) rfl⟩,
    ⟨_, rfl, List.mem_of_getElem? (i := 16) rfl⟩⟩

/-- How these lines are read. -/
theorem pieces_headings :
    pieces (indexLine.toList ++ ['\n']) = headingPieces "Index"
      [.token .modelVariablePlural, .literal ", filters", .token .pagePropNames] ∧
    pieces (createLine.toList ++ ['\n']) = headingPieces "Create" [.token .formPropNames] ∧
    pieces (editLine.toList ++ ['\n']) = headingPieces "Edit"
      [.token .modelVariable, .literal ": ", .token .jsVariable, .literal [],
        .token .formPropNames] := by
  unfold indexLine createLine editLine
  simp (disch := exact rfl) only [Text.toList_literal, -String.reduceToList]
  simp only [pieces_eq]
  decide +kernel

/-- The line of the lists that the controller returns. -/
def entriesLine : String := "            %%optionQueries%%"

/-- The line that opens the function of the controller that returns them. -/
def optionsLine : String :=
  "    private function options(?%%modelName%% $%%modelVariable%% = null, bool $all = false): array"

/-- The lines of the controller that return the lists. -/
def optionsLines : List String :=
  [optionsLine, "    \x7b", "        return [", entriesLine, "        ];"]

/-- The controller has these lines. -/
theorem options_lines : ∃ lines, controller = Code.written lines ∧
    ∃ rest, lines.drop 66 = optionsLines ++ rest :=
  ⟨_, rfl, _, rfl⟩

/-- How the lines around the lists are read. -/
theorem pieces_options :
    pieces (optionsLine.toList ++ ['\n']) =
      [.literal "    private function options(?", .token .modelName, .literal " $",
        .token .modelVariable, .literal " = null, bool $all = false): array\n"] ∧
    pieces ("    \x7b".toList ++ ['\n']) = [.literal "    \x7b\n"] ∧
    pieces ("        return [".toList ++ ['\n']) = [.literal "        return [\n"] ∧
    pieces ("        ];".toList ++ ['\n']) = [.literal "        ];\n"] := by
  unfold optionsLine
  simp (disch := exact rfl) only [Text.toList_literal, -String.reduceToList]
  simp only [pieces_eq]
  decide +kernel

/-- How the line of the lists is read. -/
theorem reading_entriesLine :
    arrayKeys.lineReading [] entriesLine.toList = .value .optionQueries := by
  unfold entriesLine
  rw [String.toList_ofList, Reader.lineReading_eq]
  decide +kernel

end Stub

namespace Plan

variable {plan : Plan}

/-- What the list page takes. -/
def indexProps (plan : Plan) : List Text :=
  plan.names.records :: "filters".toList :: plan.recordProps

/-- What the form of a changed record takes. -/
def editProps (plan : Plan) : List Text := plan.names.record :: plan.recordProps

/-- The variables of that form that hold what it takes. -/
def editVariables (plan : Plan) : List Text := plan.pageRecord :: plan.recordProps

/-- The record in the heading of the form that changes it. -/
def editMember (plan : Plan) : Text := plan.names.record ++ ": " ++ plan.pageRecord

/-- The function of the controller that returns these entries. -/
def optionsFunction (plan : Plan) (entries : Text) : Text :=
  "    private function options(?" ++ plan.names.model ++ " $" ++ plan.names.record ++
    " = null, bool $all = false): array\n" ++ "    \x7b\n" ++ "        return [\n" ++ entries ++
    "        ];\n"

/-- The headings of the pages name these properties. -/
structure HeadsPages (plan : Plan) : Prop where
  /-- The list page. -/
  index : propsHeading "Index" plan.indexProps ∈
    rows (Artifact.listPage.content plan Stub.listPage)
  /-- The form of a new record. -/
  create : propsHeading "Create" plan.recordProps ∈
    rows (Artifact.createPage.content plan Stub.createPage)
  /-- The form of a changed record. -/
  edit : propsHeading "Edit" (plan.editMember :: plan.recordProps) ∈
    rows (Artifact.editPage.content plan Stub.editPage)

/-- Every plan that is made from options heads its pages so. -/
theorem headsPages_ofOptions (options : Options) : (ofOptions options).HeadsPages := by
  obtain ⟨⟨_, list, index⟩, ⟨_, new, create⟩, ⟨_, changed, edit⟩⟩ := Stub.heading_lines
  obtain ⟨indexPieces, createPieces, editPieces⟩ := Stub.pieces_headings
  obtain ⟨names, -⟩ := plain_ofOptions options
  have record : '\n' ∉ (ofOptions options).names.record := (feed_notMem_names options).2.1
  have lists : ∀ prop ∈ (ofOptions options).recordProps, '\n' ∉ prop := fun prop listed =>
    (plain_of_mem_recordProps listed).notMem (by decide)
  refine ⟨?_, ?_, ?_⟩
  · rw [Artifact.content, list]
    refine mem_rows_heading index indexPieces (by decide) ?_ ?_
    · rw [indexProps, commaList_cons, List.map_cons]
      simp only [List.flatMap_cons, List.flatMap_nil, Piece.fill, concat, List.flatten_cons,
        List.append_assoc, List.append_nil]
      rfl
    · rw [indexProps, List.forall_mem_cons, List.forall_mem_cons]
      exact ⟨names.records.notMem (by decide), notMem_toList (by decide), lists⟩
  · rw [Artifact.content, new]
    refine mem_rows_heading create createPieces (by decide) ?_ lists
    exact List.flatMap_singleton _ _
  · have page : '\n' ∉ (ofOptions options).pageRecord :=
      (plain_pageRecord options).notMem (by decide)
    rw [Artifact.content, changed]
    refine mem_rows_heading edit editPieces (by decide) ?_ ?_
    · rw [commaList_cons, editMember]
      simp only [List.flatMap_cons, List.flatMap_nil, Piece.fill, List.append_assoc,
        List.append_nil, List.nil_append]
      rfl
    · rw [List.forall_mem_cons]
      refine ⟨?_, lists⟩
      unfold editMember
      simp only [List.mem_append, not_or]
      exact ⟨⟨record, notMem_toList (by decide)⟩, page⟩

/-- The lists are properties with these names. -/
theorem declaredKeys_listLines (legible : plan.Legible) (sourced : plan.Sourced)
    (derived : plan.Derived) (record : '\n' ∉ plan.names.record) :
    plan.listLines.flatMap arrayKeys.declared = plan.recordProps := by
  have first : ∀ records ∈ plan.recordLists, ∀ query : Text, '\n' ∉ query →
      arrayKeys.declared (quote records.prop ++ query) = [records.prop] :=
    fun records listed query single => declared_key (plain_prop listed) single
  rw [declared_listLines (by decide) (by decide) first legible sourced derived record, recordProps,
    List.map_eq_flatMap]

/-- The controller returns the lists under the names that the pages take. -/
theorem declaredKeys_controller {options : Options} (legible : (ofOptions options).Legible) :
    ∃ entries, (ofOptions options).optionsFunction entries <:+:
        Artifact.controller.content (ofOptions options) Stub.controller ∧
      arrayKeys.declared entries = (ofOptions options).recordProps := by
  obtain ⟨lines, written, rest, split⟩ := Stub.options_lines
  obtain ⟨heading, brace, array, closing⟩ := Stub.pieces_options
  let value := Placeholder.fragment (ofOptions options) .controller
  have inside : Stub.optionsLines <:+: lines :=
    (split ▸ List.prefix_append _ rest).isInfix.trans (List.drop_suffix 66 lines).isInfix
  have filled : fill (Code.written Stub.optionsLines) value =
      (ofOptions options).optionsFunction (fill (Stub.entriesLine.toList ++ ['\n']) value) := by
    rw [fill_written, Stub.optionsLines]
    simp only [List.flatMap_cons, List.flatMap_nil]
    generalize fill (Stub.entriesLine.toList ++ ['\n']) value = entries
    unfold optionsFunction fill
    rw [heading, brace, array, closing]
    simp only [List.flatMap_cons, List.flatMap_nil, Piece.fill, List.append_assoc, List.append_nil]
    rfl
  refine ⟨fill (Stub.entriesLine.toList ++ ['\n']) value, ?_, ?_⟩
  · rw [Artifact.content, written, ← filled]
    exact infix_fill_written inside value
  · rw [@Reader.declared_line arrayKeys [] value fun _ listed => absurd listed List.not_mem_nil,
      Stub.reading_entriesLine]
    show arrayKeys.declared (unlines (ofOptions options).listLines) = _
    rw [arrayKeys.declared_unlines]
    exact declaredKeys_listLines legible (sourced_ofOptions options) (derived_ofOptions options)
      (feed_notMem_names options).2.1

/-- What the pages take has distinct names. -/
structure DistinctProps (plan : Plan) : Prop where
  /-- On the list page. -/
  index : plan.indexProps.Nodup
  /-- On the form of a new record. The controller returns the same lists. -/
  create : plan.recordProps.Nodup
  /-- On the form of a changed record. -/
  edit : plan.editProps.Nodup
  /-- So have the variables of that form. -/
  editVariables : plan.editVariables.Nodup

/-- No two sources of lists read alike, and none reads as another property. -/
@[mk_iff]
structure PropsApart (plan : Plan) : Prop where
  /-- The names of the relationships differ in more than case. -/
  relationships : (plan.listedRelations.map fun relationship =>
    lowerCamelCase relationship.name).Nodup
  /-- So do the names of the fields. -/
  fields : (plan.dynamicFields.map fun field => lowerCamelCase field.name).Nodup
  /-- So do those of a relationship and of a field. -/
  crossing : ∀ relationship ∈ plan.listedRelations, ∀ field ∈ plan.dynamicFields,
    lowerCamelCase relationship.name ≠ lowerCamelCase field.name
  /-- The records are not named as the filters. -/
  filters : plan.names.records ≠ "filters"
  /-- Neither are they named as a list. -/
  records : plan.names.records ∉ plan.recordProps
  /-- Neither is the record. -/
  record : plan.names.record ∉ plan.recordProps

instance : Decidable plan.PropsApart := decidable_of_iff' _ (propsApart_iff plan)

/-- Every field whose options are records has its list. -/
theorem map_prop_fieldLists {fields : List Field}
    (records : ∀ field ∈ fields, field.hasRecords = true) :
    (fields.filterMap fieldList?).map (·.prop) =
      fields.map fun field => optionsName field.name := by
  induction fields with
  | nil => rfl
  | cons field rest ih =>
    rw [List.forall_mem_cons] at records
    obtain ⟨source, found⟩ := Option.isSome_iff_exists.mp records.1
    have listed : fieldList? field = some ⟨optionsName field.name, source.1, source.2, none⟩ := by
      rw [fieldList?, found]
      rfl
    rw [List.filterMap_cons_some listed, List.map_cons, List.map_cons, ih records.2]

/-- The lists are named after their sources, relationships before fields. -/
theorem recordProps_eq (plan : Plan) : plan.recordProps =
    (plan.listedRelations.map (fun relationship => lowerCamelCase relationship.name) ++
      plan.dynamicFields.map fun field => lowerCamelCase field.name).map
        (· ++ "Options".toList) := by
  rw [recordProps, recordLists, List.map_append, dynamicFields,
    map_prop_fieldLists fun field member => (List.mem_filter.mp member).2, List.map_append]
  simp only [List.map_map]
  rfl

/-- The lists have distinct names exactly if no two sources read alike. -/
theorem nodup_recordProps_iff (plan : Plan) : plan.recordProps.Nodup ↔
    (plan.listedRelations.map fun relationship => lowerCamelCase relationship.name).Nodup ∧
    (plan.dynamicFields.map fun field => lowerCamelCase field.name).Nodup ∧
    ∀ relationship ∈ plan.listedRelations, ∀ field ∈ plan.dynamicFields,
      lowerCamelCase relationship.name ≠ lowerCamelCase field.name := by
  rw [recordProps_eq, List.nodup_map_iff fun _ _ => List.append_cancel_right, List.nodup_append]
  simp only [List.forall_mem_map]

/-- The name of a list ends with its word. -/
theorem suffix_of_mem_recordProps {prop : Text} (listed : prop ∈ plan.recordProps) :
    "Options".toList <:+ prop := by
  rw [recordProps_eq] at listed
  obtain ⟨name, -, rfl⟩ := List.mem_map.mp listed
  exact List.suffix_append name _

/-- The filters are no list. -/
theorem filters_notMem_recordProps (plan : Plan) : "filters".toList ∉ plan.recordProps := by
  intro listed
  have other : ¬"Options".toList <:+ "filters".toList := by decide
  exact other (suffix_of_mem_recordProps listed)

/-- The variable of a record is named as a list exactly if the record is. -/
theorem pageRecord_mem_recordProps_iff (plan : Plan) :
    plan.pageRecord ∈ plan.recordProps ↔ plan.names.record ∈ plan.recordProps := by
  unfold pageRecord pageVariable
  split
  · rename_i reserved
    have words : ∀ word ∈ reservedWords, ¬"Options".toList <:+ word := by decide
    have other : ¬"Record".toList <:+ "Options".toList := by decide
    refine iff_of_false (fun listed => ?_) fun listed => ?_
    · exact other (List.suffix_of_suffix_length_le (List.suffix_append _ _)
        (suffix_of_mem_recordProps listed) (by decide))
    · exact words _ (List.contains_iff_mem.mp reserved) (suffix_of_mem_recordProps listed)
  · rfl

/-- What the pages take has distinct names exactly if its sources are apart. -/
theorem distinctProps_iff (plan : Plan) : plan.DistinctProps ↔ plan.PropsApart := by
  constructor
  · rintro ⟨index, create, edit, -⟩
    obtain ⟨relationships, fields, crossing⟩ := plan.nodup_recordProps_iff.mp create
    obtain ⟨filters, records⟩ := not_or.mp (List.mem_cons.not.mp (List.nodup_cons.mp index).1)
    exact ⟨relationships, fields, crossing, filters, records, (List.nodup_cons.mp edit).1⟩
  · rintro ⟨relationships, fields, crossing, filters, records, record⟩
    have lists := plan.nodup_recordProps_iff.mpr ⟨relationships, fields, crossing⟩
    refine ⟨?_, lists, List.nodup_cons.mpr ⟨record, lists⟩, List.nodup_cons.mpr ⟨?_, lists⟩⟩
    · rw [indexProps, List.nodup_cons, List.nodup_cons, List.mem_cons, not_or]
      exact ⟨⟨filters, records⟩, plan.filters_notMem_recordProps, lists⟩
    · exact plan.pageRecord_mem_recordProps_iff.not.mpr record

/-- For every plan that is made from options, the headings of the pages name the records, the
filters and the lists, and the controller returns the lists under the same names if the names of the
plan are legible. What each page takes has distinct names exactly if no two sources of lists read
alike, no list is named as the records or the record, and the records are not named as the
filters. -/
theorem props_named_apart (options : Options) :
    (ofOptions options).HeadsPages ∧
    ((ofOptions options).Legible → ∃ entries, (ofOptions options).optionsFunction entries <:+:
        Artifact.controller.content (ofOptions options) Stub.controller ∧
      arrayKeys.declared entries = (ofOptions options).recordProps) ∧
    ((ofOptions options).DistinctProps ↔ (ofOptions options).PropsApart) :=
  ⟨headsPages_ofOptions options, declaredKeys_controller, distinctProps_iff _⟩

/-- An axe with a cascade and with a field whose options are proofs. -/
def provenAxe : Options where
  displayName := "Axe"
  fields := "proof:select::@Proof.name"
  relationships := "schema:belongsTo:Schema,lemma^schema:belongsTo:Lemma"

/-- What the pages of this axe take has distinct names, and so have the lists of its controller. -/
theorem props_named_apart_axe :
    (ofOptions provenAxe).HeadsPages ∧ (ofOptions provenAxe).DistinctProps ∧
    ∃ entries, (ofOptions provenAxe).optionsFunction entries <:+:
        Artifact.controller.content (ofOptions provenAxe) Stub.controller ∧
      (arrayKeys.declared entries).Nodup := by
  obtain ⟨headings, keys, names⟩ := props_named_apart provenAxe
  obtain ⟨legible, apart⟩ : (ofOptions provenAxe).Legible ∧ (ofOptions provenAxe).PropsApart := by
    decide +kernel
  obtain ⟨entries, inside, read⟩ := keys legible
  have distinct := names.mpr apart
  exact ⟨headings, distinct, entries, inside, read ▸ distinct.create⟩

/-- An axe whose proof is a relationship and a field. -/
def twiceProvenAxe : Options where
  displayName := "Axe"
  fields := "proof:select::@Proof.name"
  relationships := "proof:belongsTo:Proof"

/-- The pages of this axe take the list of proofs twice, and its controller returns it twice. -/
theorem proofs_taken_twice :
    propsHeading "Create" ["proofOptions", "proofOptions"] ∈
      rows (Artifact.createPage.content (ofOptions twiceProvenAxe) Stub.createPage) ∧
    (∃ entries, (ofOptions twiceProvenAxe).optionsFunction entries <:+:
        Artifact.controller.content (ofOptions twiceProvenAxe) Stub.controller ∧
      ¬(arrayKeys.declared entries).Nodup) ∧
    ¬(ofOptions twiceProvenAxe).DistinctProps := by
  obtain ⟨legible, lists⟩ : (ofOptions twiceProvenAxe).Legible ∧
      (ofOptions twiceProvenAxe).recordProps = ["proofOptions".toList, "proofOptions".toList] := by
    decide +kernel
  have twice : ¬(ofOptions twiceProvenAxe).recordProps.Nodup := by
    rw [lists]
    decide
  obtain ⟨entries, inside, read⟩ := declaredKeys_controller legible
  refine ⟨?_, ⟨entries, inside, read ▸ twice⟩, fun distinct => twice distinct.create⟩
  have heading := (headsPages_ofOptions twiceProvenAxe).create
  rwa [lists] at heading

end Plan

end Scaffold
