import Scaffold.Proofs.Artifact.Keys
import Scaffold.Proofs.Backend.Endpoints
import Scaffold.Proofs.Registry.Apart

/-!
# The constants of a form

In front of the markup that it returns, the page of a form declares its place in the navigation, the
values of the form and what goes with them, the list of every dependency with the function that sets
it, and the function that submits the form (`Plan.formConstants`). They are read back from the
rendered page (`Plan.declaredConstants_form`). The lists and their functions are named after the
children alone, so they must be apart from each other and from the rest for all constants to be
distinct (`Plan.ConstantsApart`).
-/
namespace Scaffold

open Text Code Template

namespace Text

/-- Trimming leaves a plain text alone. -/
theorem IsPlain.trim_eq {text : Text} (plain : IsPlain text) : trim text = text :=
  trim_eq_self (fun c first => plain.isBlank_eq c (List.mem_of_head? first))
    fun c last => plain.isBlank_eq c (List.mem_of_getLast? last)

end Text

namespace Code

/-- A literal between braces is one row if its members are. -/
theorem feed_notMem_record {members : List Text} (single : '\n' ∉ commaList members) :
    '\n' ∉ record members := by
  have inner : '\n' ∉ ' ' :: commaList members ++ [' '] := by
    rw [List.mem_append, List.mem_cons, not_or, not_or]
    exact ⟨⟨by decide, single⟩, by decide⟩
  rw [record, braced, List.mem_append, List.mem_cons, not_or, not_or]
  exact ⟨⟨by decide, inner⟩, by decide⟩

/-- The constants in a list are taken from it one by one. -/
theorem declared_pair {first second rest : Text} (one : IsPlain first) (other : IsPlain second)
    (whole : '\n' ∉ rest) :
    constants.declared ("const [".toList ++ (first ++ (", ".toList ++ (second ++ ']' :: rest)))) =
      [first, second] := by
  have names : first ++ (", ".toList ++ (second ++ ']' :: rest)) =
      first ++ ", ".toList ++ second ++ ']' :: rest := by
    simp only [List.append_assoc]
  have absent : ∀ c : Char, isPlain c = false → c ∉ (", " : Text) →
      c ∉ first ++ ", ".toList ++ second := by
    intro c odd outside
    simp only [List.mem_append, not_or]
    exact ⟨⟨one.notMem odd, outside⟩, other.notMem odd⟩
  have parts : (splitOn ',' (first ++ ", ".toList ++ second)).map trim = [first, second] := by
    have comma : (", " : Text) = ',' :: [' '] := by decide
    have blank : ',' ∉ ' ' :: second := by
      rw [List.mem_cons, not_or]
      exact ⟨by decide, other.notMem (by decide)⟩
    rw [comma, List.append_assoc, List.cons_append, List.singleton_append,
      splitOn_cons (one.notMem (by decide)), splitOn_of_notMem blank, List.map_cons,
      List.map_singleton, trim_cons (by decide), one.trim_eq, other.trim_eq]
  have opening : ("const [" : Text) = "const ".toList ++ ['['] := by decide
  rw [opening, List.append_assoc, constants.declared_of_notMem, constants,
    constantOpenings.row_opening (by decide), names]
  · show partsBefore ']' (first ++ ", ".toList ++ second ++ ']' :: rest) = _
    rw [partsBefore, before_of_notMem (absent ']' (by decide) (by decide)), List.flatMap_singleton,
      parts]
  · rw [names]
    simp only [List.mem_append, List.mem_cons, not_or]
    exact ⟨notMem_toList (by decide), ⟨by decide, List.not_mem_nil⟩,
      ⟨⟨one.notMem (by decide), notMem_toList (by decide)⟩, other.notMem (by decide)⟩, by decide,
      whole⟩

end Code

namespace Stub

/-- The tokens of the forms with other text on their lines. -/
def formTokens : List Placeholder :=
  [.reactImports, .typeImports, .routeNameSingular, .modelLabelPlural, .routeName, .formPropNames,
    .modelName, .modelVariable, .jsVariable]

/-- How the lines of the form for a new record are read, up to its markup. -/
theorem createPage_readings : ∃ lines, createPage = Code.written lines ∧
    (∃ rest, lines.drop 31 = "    return (" :: rest) ∧
    ((lines.take 31).map fun line => constants.lineReading formTokens line.toList).filter
        (· ≠ .names []) =
      [.value .formImports, .names ["breadcrumbs".toList], .value .formProps,
        .names ["data".toList, "setData".toList, "post".toList, "processing".toList,
          "errors".toList],
        .value .formDefaults, .value .cascadeState, .names ["submit".toList],
        .value .submitCall] := by
  refine ⟨_, rfl, ⟨_, rfl⟩, ?_⟩
  simp only [List.take_succ_cons, List.take_zero, List.map_cons, List.map_nil,
    Reader.lineReading_eq]
  simp (disch := exact rfl) only [Text.toList_literal, -String.reduceToList]
  decide +kernel

/-- The property that holds the record of the form that changes it. -/
def recordLine : Text := "    %%modelVariable%%: %%modelName%%;\n"

/-- The values of the form that changes a record. -/
def valuesLine : Text :=
  "    const \x7b data, setData, %%submitMethod%%, processing, errors \x7d = useForm<%%modelName%%FormData>(\x7b\n"

/-- How the lines of the form for a changed record are read, up to its markup. -/
theorem editPage_readings : ∃ lines, editPage = Code.written lines ∧
    (∃ rest, lines.drop 32 = "    return (" :: rest) ∧
    ((lines.take 32).map fun line => constants.lineReading formTokens line.toList).filter
        (· ≠ .names []) =
      [.value .formImports, .whole recordLine, .value .formProps, .names ["breadcrumbs".toList],
        .whole valuesLine, .value .formDefaults, .value .cascadeState, .names ["submit".toList],
        .value .submitCall] := by
  refine ⟨_, rfl, ⟨_, rfl⟩, ?_⟩
  unfold recordLine valuesLine
  simp only [List.take_succ_cons, List.take_zero, List.map_cons, List.map_nil,
    Reader.lineReading_eq]
  simp (disch := exact rfl) only [Text.toList_literal, -String.reduceToList]
  decide +kernel

/-- The pieces of the two lines that are read when they are filled. -/
theorem pieces_editLines :
    pieces recordLine = [.literal "    ", .token .modelVariable, .literal ": ", .token .modelName,
      .literal ";\n"] ∧
    pieces valuesLine = [.literal "    const \x7b data, setData, ", .token .submitMethod,
      .literal ", processing, errors \x7d = useForm<", .token .modelName,
      .literal "FormData>(\x7b\n"] := by
  unfold recordLine valuesLine
  simp (disch := exact rfl) only [Text.toList_literal, -String.reduceToList]
  simp only [pieces_eq]
  decide +kernel

end Stub

namespace Dependency

variable {dependency : Dependency}

/-- The function that sets a list is plain. -/
theorem plain_setter (dependency : Dependency) : IsPlain dependency.setter := by
  have start : IsPlain "set".toList := by
    unfold IsPlain
    decide
  exact start.append (plain_upperCamelCase _)

/-- The declaration of a list declares the list and the function that sets it. -/
theorem declaredConstants_stateLine (state : IsPlain dependency.cascade.state) :
    constants.declared dependency.stateLine = [dependency.cascade.state, dependency.setter] := by
  have list : '\n' ∉ dependency.initialList := by
    unfold initialList optionsName
    rw [List.mem_append, not_or]
    exact ⟨(plain_lowerCamelCase _).notMem (by decide), notMem_toList (by decide)⟩
  have closing : ("] = useState<" : Text) = ']' :: " = useState<".toList := by decide
  have rest : '\n' ∉ " = useState<".toList ++ (recordOption ++ ("[]>(".toList ++
      (dependency.initialList ++ ");".toList))) := by
    simp only [List.mem_append, not_or]
    exact ⟨notMem_toList (by decide), notMem_toList (by decide), notMem_toList (by decide), list,
      notMem_toList (by decide)⟩
  unfold stateLine
  rw [closing]
  simp only [List.append_assoc, List.cons_append]
  exact declared_pair state dependency.plain_setter rest

example : constants.declared "const [lemmata, setLemmata] = useState<Lemma[]>(all);" =
    ["lemmata".toList, "setLemmata".toList] := by
  decide +kernel

/-- Fetching a list declares no constant. -/
theorem declaredConstants_fetchLines (path : '\n' ∉ dependency.cascade.routePath)
    (key : '\n' ∉ dependency.parent.foreignKey) :
    dependency.fetchLines.flatMap constants.declared = [] := by
  have single : '\n' ∉ dependency.setter := dependency.plain_setter.notMem (by decide)
  have value : '\n' ∉ dependency.parentValue := by
    unfold parentValue
    rw [List.mem_append, not_or]
    exact ⟨notMem_toList (by decide), key⟩
  have address : '\n' ∉ dependency.address := by
    intro inside
    rcases Inflection.mem_replaceAll inside with own | new
    · exact path own
    · have fresh : '\n' ∉ '$' :: braced dependency.parentValue := by
        simp only [braced, List.cons_append, List.mem_cons, List.mem_append, not_or]
        exact ⟨by decide, by decide, value, by decide, List.not_mem_nil⟩
      exact fresh new
  have heading : constants.declared ("if (" ++ dependency.parentValue ++ " === null)" ++ " \x7b") = [] := by
    simp only [List.append_assoc]
    refine constants.declared_literal (by decide) ?_
    simp only [List.mem_append, not_or]
    exact ⟨value, notMem_toList (by decide), notMem_toList (by decide)⟩
  have cleared : constants.declared (dependency.setter ++ "([]);") = [] := by
    unfold setter
    rw [List.append_assoc]
    refine constants.declared_literal (by decide) ?_
    rw [List.mem_append, not_or]
    exact ⟨(plain_upperCamelCase _).notMem (by decide), notMem_toList (by decide)⟩
  have fetched : constants.declared ("fetch(\x60" ++ dependency.address ++ "\x60)") = [] := by
    rw [List.append_assoc]
    refine constants.declared_literal (by decide) ?_
    rw [List.mem_append, not_or]
    exact ⟨address, notMem_toList (by decide)⟩
  have received : constants.declared (".then((records: " ++ recordOption ++ "[]) => " ++
      dependency.setter ++ "(records));") = [] := by
    simp only [List.append_assoc]
    refine constants.declared_literal (by decide) ?_
    simp only [List.mem_append, not_or]
    exact ⟨notMem_toList (by decide), notMem_toList (by decide), single, notMem_toList (by decide)⟩
  have closing : constants.declared ("\x7d, [" ++ dependency.parentValue ++ "]);") = [] := by
    rw [List.append_assoc]
    refine constants.declared_literal (by decide) ?_
    rw [List.mem_append, not_or]
    exact ⟨value, notMem_toList (by decide)⟩
  have rest : constants.declared "useEffect(() => \x7b" = [] ∧ constants.declared "return;" = [] ∧
      constants.declared ".then((response) => response.json())" = [] ∧
      constants.declared ['\x7d'] = [] := by
    decide +kernel
  unfold fetchLines
  rw [constants.declared_block, rest.1, List.flatMap_append, braces, constants.declared_block, heading,
    List.flatMap_cons, cleared, List.flatMap_singleton, rest.2.1, rest.2.2.2, List.flatMap_cons,
    fetched, constants.declared_deeper, List.flatMap_cons, rest.2.2.1, List.flatMap_singleton,
    received, closing]
  rfl

end Dependency

/-- An initial value of a form is no constant if its key is one word. -/
theorem FormDefault.declaredConstants_line {value : FormDefault}
    (key : ∀ c ∈ value.key, isBlank c = false) (blank : '\n' ∉ value.blank)
    (record : ∀ record ∈ value.record, '\n' ∉ record) : constants.declared value.line = [] := by
  have sign : (": " : Text) = ':' :: [' '] := by decide
  have single := feed_notMem_of_word key
  unfold FormDefault.line
  split
  · rw [sign]
    simp only [List.append_assoc, List.cons_append, List.nil_append]
    refine constantOpenings.declared_word key (by decide) (by decide) ?_
    simp only [List.mem_cons, List.mem_append, not_or]
    exact ⟨by decide, blank, notMem_toList (by decide)⟩
  · rename_i own found
    rw [sign]
    simp only [List.append_assoc, List.cons_append, List.nil_append]
    refine constantOpenings.declared_word key (by decide) (by decide) ?_
    simp only [List.mem_cons, List.mem_append, not_or]
    exact ⟨by decide, record own found, by decide, single, notMem_toList (by decide), blank,
      notMem_toList (by decide)⟩

/-- The value of a field that has none is one row. -/
theorem Field.feed_notMem_blankValue (field : Field) : '\n' ∉ field.blankValue := by
  unfold blankValue
  split
  all_goals first | exact notMem_toList (by decide) | decide

namespace Plan

variable {plan : Plan}

/-- The imports of components are no constants. -/
theorem declaredConstants_formImportLines (plan : Plan) :
    plan.formImportLines.flatMap constants.declared = [] := by
  have sources : ∀ component : Component, '\n' ∉ component.source := by
    intro component
    cases component <;> decide
  have names : ∀ component : Component, ∀ name ∈ componentNames component, '\n' ∉ name := by
    intro component
    cases component <;> decide
  refine List.flatMap_eq_nil_iff.mpr fun line listed => ?_
  obtain ⟨source, member, rfl⟩ := List.mem_map.mp listed
  obtain ⟨component, -, rfl⟩ := List.mem_map.mp (mem_sortedDistinct.mp member)
  unfold importLine
  simp only [List.append_assoc]
  refine constants.declared_literal (by decide) ?_
  have inner : '\n' ∉ commaList (sortedDistinct
      ((plan.formComponents.filter (·.source == component.source)).flatMap componentNames)) := by
    refine feed_notMem_commaList fun name listed => ?_
    obtain ⟨other, -, here⟩ := List.mem_flatMap.mp (mem_sortedDistinct.mp listed)
    exact names other name here
  have record := feed_notMem_record inner
  simp only [List.mem_append, not_or]
  exact ⟨record, notMem_toList (by decide), sources component, notMem_toList (by decide)⟩

/-- The properties that hold record lists are no constants. -/
theorem declaredConstants_recordPropLines (plan : Plan) :
    plan.recordPropLines.flatMap constants.declared = [] := by
  refine List.flatMap_eq_nil_iff.mpr fun line listed => ?_
  obtain ⟨prop, member, rfl⟩ := List.mem_map.mp listed
  have plain := plain_of_mem_recordProps member
  have sign : (": " : Text) = ':' :: [' '] := by decide
  rw [sign]
  simp only [List.append_assoc, List.cons_append, List.nil_append]
  refine constantOpenings.declared_word plain.isBlank_eq (by decide) (by decide) ?_
  simp only [List.mem_cons, List.mem_append, not_or]
  exact ⟨by decide, notMem_toList (by decide), notMem_toList (by decide)⟩

/-- The initial values of a form are no constants. -/
theorem declaredConstants_formDefaultLines (legible : plan.Legible) {purpose : FormPurpose}
    (single : ∀ record, purpose = .edit record → '\n' ∉ record) :
    (plan.formDefaultLines purpose).flatMap constants.declared = [] := by
  have put : constants.declared "_method: 'put'," = [] := by decide +kernel
  have values : ∀ value ∈ plan.formDefaults purpose, constants.declared value.line = [] := by
    intro value listed
    rcases List.mem_append.mp listed with own | related
    · obtain ⟨field, member, rfl⟩ := List.mem_map.mp own
      refine FormDefault.declaredConstants_line (legible.fields field member)
        field.feed_notMem_blankValue fun record found => ?_
      cases purpose with
      | create => exact absurd found (by simp [fieldDefault])
      | edit own =>
        simp only [fieldDefault, Option.mem_def, Option.ite_none_left_eq_some,
          Option.some.injEq] at found
        exact single record (by rw [found.2])
    · obtain ⟨relationship, member, rfl⟩ := List.mem_map.mp related
      have inside := mem_of_mem_formRelations member
      refine FormDefault.declaredConstants_line (legible.keys relationship inside)
        (notMem_toList (by decide)) fun record found => ?_
      cases purpose with
      | create => exact absurd found (by simp [relationDefault])
      | edit own => exact single record (congrArg FormPurpose.edit (Option.some.inj found))
  have lines : ((plan.formDefaults purpose).map FormDefault.line).flatMap constants.declared = [] := by
    rw [List.flatMap_map]
    exact List.flatMap_eq_nil_iff.mpr values
  rw [formDefaultLines, List.flatMap_append, lines]
  split
  · rw [List.flatMap_singleton, put]
    rfl
  · rfl

/-- Every dependency has its list and the function that sets it. -/
theorem declaredConstants_dependentListLines (legible : plan.Legible) (sourced : plan.Sourced)
    (derived : plan.Derived) : plan.dependentListLines.flatMap constants.declared =
      plan.dependencies.flatMap fun dependency => [dependency.cascade.state, dependency.setter] := by
  rw [dependentListLines, List.flatMap_assoc]
  refine List.flatMap_congr fun dependency member => ?_
  have key := legible.keys _ (sourced.dependencies dependency member).parent.1
  rw [List.flatMap_cons, constants.declared_nil, Dependency.listLines, List.flatMap_cons,
    Dependency.declaredConstants_stateLine (derived.plain_cascade member).2.1,
    Dependency.declaredConstants_fetchLines (derived.cascade member).2.1.1
      (feed_notMem_of_word key)]
  rfl

/-- The call that submits a form is no constant. -/
theorem declaredConstants_submitCall (route : '\n' ∉ plan.names.route) {purpose : FormPurpose}
    (single : ∀ record, purpose = .edit record → '\n' ∉ record) :
    constants.declared (plan.submitCall purpose) = [] := by
  have several : ∀ media : Bool, '\n' ∉ (if media then
      ", ".toList ++ Code.record ["forceFormData: true".toList] else []) := by
    decide
  have options := several plan.hasMedia
  have method : ∀ {rest : Text}, '\n' ∉ rest → constants.declared (plan.submitMethod ++ rest) = [] := by
    intro rest whole
    unfold submitMethod
    split
    · exact constants.declared_literal (by decide) whole
    · exact constants.declared_literal (by decide) whole
  unfold submitCall
  simp only
  cases purpose with
  | create =>
    simp only [List.append_assoc]
    refine constants.declared_literal (by decide) ?_
    simp only [List.mem_append, not_or]
    exact ⟨route, notMem_toList (by decide), options, notMem_toList (by decide)⟩
  | edit record =>
    have own := single record rfl
    have rest : '\n' ∉ "(\x60/".toList ++ (plan.names.route ++ ("/$".toList ++
        (braced (record ++ ".id") ++ ("\x60".toList ++ ((if plan.hasMedia then
          ", ".toList ++ Code.record ["forceFormData: true".toList] else []) ++ ");".toList))))) := by
      simp only [braced, List.mem_append, List.mem_cons, not_or]
      exact ⟨notMem_toList (by decide), route, notMem_toList (by decide),
        ⟨⟨by decide, own, notMem_toList (by decide)⟩, by decide, List.not_mem_nil⟩,
        notMem_toList (by decide), options, notMem_toList (by decide)⟩
    simp only [List.append_assoc]
    exact method rest

/-- The names that a form imports from the type module are single rows. -/
theorem feed_notMem_typeImports (model : '\n' ∉ plan.names.model) {artifact : Artifact}
    (form : artifact = .createPage ∨ artifact = .editPage) :
    ∀ name ∈ (plan.typeImports artifact).map TypeImport.written, '\n' ∉ name := by
  have data : '\n' ∉ plan.names.model ++ "FormData" := by
    rw [List.mem_append, not_or]
    exact ⟨model, notMem_toList (by decide)⟩
  have own : ∀ name ∈ plan.ownTypes artifact, '\n' ∉ name := by
    rcases form with rfl | rfl
    · exact List.forall_mem_singleton.mpr data
    · exact List.forall_mem_cons.mpr ⟨model, List.forall_mem_singleton.mpr data⟩
  have options : ∀ used ∈ plan.usedValues artifact, '\n' ∉ used := by
    have lists : ∀ used ∈ plan.staticFields.map fun field => optionsName field.name, '\n' ∉ used := by
      intro used listed
      obtain ⟨field, -, rfl⟩ := List.mem_map.mp listed
      exact (plain_optionsName field.name).notMem (by decide)
    rcases form with rfl | rfl
    · exact lists
    · exact lists
  intro name listed
  obtain ⟨imported, member, rfl⟩ := List.mem_map.mp listed
  rcases List.mem_append.mp member with type | value
  · obtain ⟨word, used, rfl⟩ := List.mem_map.mp type
    show '\n' ∉ "type " ++ word
    rw [List.mem_append, not_or]
    refine ⟨notMem_toList (by decide), ?_⟩
    rcases List.mem_append.mp used with type | record
    · exact own word type
    · split at record
      · exact absurd record List.not_mem_nil
      · rw [List.mem_singleton.mp record]
        exact notMem_toList (by decide)
  · obtain ⟨word, used, rfl⟩ := List.mem_map.mp value
    exact options word (mem_firstOccurrences.mp used)

/-- The names around which the rows of a form are written are single rows. -/
theorem feed_notMem_formTokens (derived : plan.Derived) (record : IsPlain plan.names.record)
    (page : IsPlain plan.pageRecord) {artifact : Artifact}
    (form : artifact = .createPage ∨ artifact = .editPage) : ∀ placeholder ∈ Stub.formTokens,
      '\n' ∉ Placeholder.fragment plan artifact placeholder := by
  have names := derived.plain.names
  have model : '\n' ∉ plan.names.model := names.model.notMem (by decide)
  have states : ∀ none : Bool, '\n' ∉ (if none then "type FormEventHandler"
      else "type FormEventHandler, useEffect, useState" : Text) := by
    decide
  have props : ∀ prop ∈ plan.recordProps, '\n' ∉ prop := fun prop listed =>
    (plain_of_mem_recordProps listed).notMem (by decide)
  intro placeholder listed
  simp only [Stub.formTokens, List.mem_cons, List.not_mem_nil, or_false] at listed
  rcases listed with rfl | rfl | rfl | rfl | rfl | rfl | rfl | rfl | rfl
  · exact states plan.dependencies.isEmpty
  · exact feed_notMem_commaList (feed_notMem_typeImports model form)
  · exact names.routeSingular.notMem (by decide)
  · exact fun inside => absurd (names.labelPlural '\n' inside) (by decide)
  · exact names.route.notMem (by decide)
  · show '\n' ∉ plan.recordPropNames (artifact == .createPage)
    unfold recordPropNames
    split
    · exact feed_notMem_commaList props
    · intro inside
      obtain ⟨part, member, here⟩ := List.mem_flatten.mp inside
      obtain ⟨prop, own, rfl⟩ := List.mem_map.mp member
      rcases List.mem_append.mp here with between | there
      · exact absurd between (by decide)
      · exact props prop own there
  · exact model
  · exact record.notMem (by decide)
  · exact page.notMem (by decide)

/-- The function that sends the values of a form. -/
def submitFunction (plan : Plan) : FormPurpose → Text
  | .create => "post"
  | .edit _ => plan.submitMethod

/-- The constants of every form: its place, its values and what goes with them, and its submission. -/
def standingConstants (plan : Plan) (purpose : FormPurpose) : List Text :=
  ["breadcrumbs".toList, "data".toList, "setData".toList, plan.submitFunction purpose,
    "processing".toList, "errors".toList, "submit".toList]

/-- The constants that a form declares in front of its markup, in their order. -/
def formConstants (plan : Plan) (purpose : FormPurpose) : List Text :=
  ["breadcrumbs".toList, "data".toList, "setData".toList, plan.submitFunction purpose,
    "processing".toList, "errors".toList] ++
    plan.dependencies.flatMap (fun dependency => [dependency.cascade.state, dependency.setter]) ++
    ["submit".toList]

/-- The property that holds a record is no constant. -/
theorem declaredConstants_recordLine {value : Placeholder → Text}
    (record : IsPlain (value .modelVariable)) (model : '\n' ∉ value .modelName) :
    constants.declared (Template.fill Stub.recordLine value) = [] := by
  have filled : Template.fill Stub.recordLine value = "    ".toList ++
      (value .modelVariable ++ ':' :: (' ' :: value .modelName ++ ";") ++ '\n' :: []) := by
    have sign : (": " : Text) = ':' :: [' '] := by decide
    have ending : (";\n" : Text) = ";".toList ++ ['\n'] := by decide
    rw [Template.fill, Stub.pieces_editLines.1]
    simp only [List.flatMap_cons, List.flatMap_nil, Piece.fill, sign, ending, List.append_assoc,
      List.cons_append, List.nil_append]
  rw [filled, constants.declared_margin (by decide) (by decide), constants.declared_append_feed,
    constants.declared_nil, List.append_nil]
  refine constantOpenings.declared_word record.isBlank_eq (by decide) (by decide) ?_
  simp only [List.cons_append, List.mem_cons, List.mem_append, not_or]
  exact ⟨by decide, model, notMem_toList (by decide)⟩

/-- The form of a changed record declares its values and what goes with them. -/
theorem declaredConstants_valuesLine {value : Placeholder → Text} {record : Text}
    (method : value .submitMethod = plan.submitFunction (.edit record))
    (model : '\n' ∉ value .modelName) :
    constants.declared (Template.fill Stub.valuesLine value) =
      ["data".toList, "setData".toList, plan.submitFunction (.edit record), "processing".toList,
        "errors".toList] := by
  have words : ∀ media : Bool, ∀ rest : Text, '\n' ∉ rest → constants.declared
      ("    const \x7b data, setData, ".toList ++ (if media then "post" else "put" : Text) ++
        ", processing, errors \x7d = useForm<".toList ++ rest) =
          ["data".toList, "setData".toList, if media then "post" else "put", "processing".toList,
            "errors".toList] := by
    intro media rest whole
    have known : ∀ media : Bool, constants.settles
        ("    const \x7b data, setData, ".toList ++ (if media then "post" else "put" : Text) ++
          ", processing, errors \x7d = useForm<".toList) = true ∧
        '\n' ∉ "    const \x7b data, setData, ".toList ++ (if media then "post" else "put" : Text) ++
          ", processing, errors \x7d = useForm<".toList ∧
        constants.row ("    const \x7b data, setData, ".toList ++
          (if media then "post" else "put" : Text) ++ ", processing, errors \x7d = useForm<".toList) =
            ["data".toList, "setData".toList, if media then "post" else "put", "processing".toList,
              "errors".toList] := by
      decide +kernel
    obtain ⟨settled, single, names⟩ := known media
    rw [constants.declared_start settled single whole, names]
  have filled : Template.fill Stub.valuesLine value = "    const \x7b data, setData, ".toList ++
      plan.submitFunction (.edit record) ++ ", processing, errors \x7d = useForm<".toList ++
        (value .modelName ++ "FormData>(\x7b") ++ '\n' :: [] := by
    have ending : ("FormData>(\x7b\n" : Text) = "FormData>(\x7b".toList ++ ['\n'] := by decide
    rw [Template.fill, Stub.pieces_editLines.2, ← method]
    simp only [List.flatMap_cons, List.flatMap_nil, Piece.fill, ending, List.append_assoc,
      List.append_nil]
  have rest : '\n' ∉ value .modelName ++ "FormData>(\x7b" := by
    rw [List.mem_append, not_or]
    exact ⟨model, notMem_toList (by decide)⟩
  rw [filled, constants.declared_append_feed, constants.declared_nil, List.append_nil]
  exact words plan.hasMedia _ rest

/-- A page has what is read in the lines in front of its markup. -/
theorem declaredConstants_front {stub : Text} {lines : List String} {count : Nat}
    {value : Placeholder → Text} (written : stub = Code.written lines)
    (markup : ∃ rest, lines.drop count = "    return (" :: rest)
    (single : ∀ placeholder ∈ Stub.formTokens, '\n' ∉ value placeholder) :
    ∃ front markup, Template.fill stub value = front ++ markup ∧ "    return (\n".toList <+: markup ∧
      constants.declared front =
        (((lines.take count).map fun line => constants.lineReading Stub.formTokens line.toList).filter
          (· ≠ .names [])).flatMap (constants.found value) := by
  obtain ⟨rest, split⟩ := markup
  have opening : Template.fill ("    return (".toList ++ ['\n']) value = "    return (\n".toList := by
    have piece : pieces ("    return (".toList ++ ['\n']) = [.literal "    return (\n"] := by
      decide +kernel
    rw [Template.fill, piece]
    simp only [List.flatMap_singleton, Piece.fill]
  refine ⟨Template.fill (Code.written (lines.take count)) value,
    Template.fill (Code.written (lines.drop count)) value, ?_, ?_,
    constants.declared_template single (lines.take count)⟩
  · rw [written, Template.fill_written, Template.fill_written, Template.fill_written,
      ← List.flatMap_append, List.take_append_drop]
  · rw [split, Template.fill_written, List.flatMap_cons, opening]
    exact List.prefix_append _ _

/-- In front of its markup a form declares its constants in their order if its names are legible. -/
theorem declaredConstants_form (legible : plan.Legible) (sourced : plan.Sourced)
    (derived : plan.Derived) (record : IsPlain plan.names.record) (page : IsPlain plan.pageRecord)
    {artifact : Artifact} (form : artifact = .createPage ∨ artifact = .editPage) :
    ∃ front markup, artifact.content plan (Stub.ofArtifact artifact) = front ++ markup ∧
      "    return (\n".toList <+: markup ∧
      constants.declared front = plan.formConstants (artifact.formPurpose plan) := by
  have tokens := feed_notMem_formTokens derived record page form
  have names := derived.plain.names
  have single : ∀ record, artifact.formPurpose plan = .edit record → '\n' ∉ record := by
    intro record own
    unfold Artifact.formPurpose at own
    split at own
    · rw [← FormPurpose.edit.inj own]
      exact page.notMem (by decide)
    · exact FormPurpose.noConfusion own
  have defaults := declaredConstants_formDefaultLines legible single
  have call := declaredConstants_submitCall (names.route.notMem (by decide)) single
  have lists := declaredConstants_dependentListLines legible sourced derived
  rcases form with rfl | rfl
  · obtain ⟨lines, written, markup, readings⟩ := Stub.createPage_readings
    obtain ⟨front, behind, whole, start, found⟩ := declaredConstants_front written markup tokens
    refine ⟨front, behind, whole, start, ?_⟩
    rw [found, readings]
    simp only [List.flatMap_cons, List.flatMap_nil, Reader.found, Placeholder.fragment,
      constants.declared_unlines]
    rw [declaredConstants_formImportLines, declaredConstants_recordPropLines, defaults, lists, call]
    simp only [formConstants, List.nil_append, List.append_nil, List.append_assoc]
    rfl
  · obtain ⟨lines, written, markup, readings⟩ := Stub.editPage_readings
    obtain ⟨front, behind, whole, start, found⟩ := declaredConstants_front written markup tokens
    have property := @declaredConstants_recordLine (Placeholder.fragment plan .editPage) record
      (names.model.notMem (by decide))
    have values := @declaredConstants_valuesLine plan (Placeholder.fragment plan .editPage)
      plan.pageRecord rfl (names.model.notMem (by decide))
    refine ⟨front, behind, whole, start, ?_⟩
    rw [found, readings]
    simp only [List.flatMap_cons, List.flatMap_nil, Reader.found]
    rw [property, values]
    simp only [Placeholder.fragment, constants.declared_unlines]
    rw [declaredConstants_formImportLines, declaredConstants_recordPropLines, defaults, lists, call]
    simp only [formConstants, List.nil_append, List.append_nil, List.append_assoc]
    rfl

/-- The lists of a plan and the functions that set them are distinct and no other constants. -/
@[mk_iff]
structure ConstantsApart (plan : Plan) (purpose : FormPurpose) : Prop where
  /-- The lists have distinct names. -/
  states : (plan.dependencies.map (·.cascade.state)).Nodup
  /-- So have the functions. -/
  setters : (plan.dependencies.map (·.setter)).Nodup
  /-- No list is named as a function. -/
  crossing : ∀ dependency ∈ plan.dependencies, ∀ other ∈ plan.dependencies,
    dependency.cascade.state ≠ other.setter
  /-- Neither is named as a constant that every form has. -/
  other : ∀ dependency ∈ plan.dependencies,
    dependency.cascade.state ∉ plan.standingConstants purpose ∧
      dependency.setter ∉ plan.standingConstants purpose

instance (purpose : FormPurpose) : Decidable (plan.ConstantsApart purpose) :=
  decidable_of_iff' _ (constantsApart_iff plan purpose)

/-- The constants that every form has are distinct. -/
theorem nodup_standingConstants (plan : Plan) (purpose : FormPurpose) :
    (plan.standingConstants purpose).Nodup := by
  have words : ∀ media : Bool, (["breadcrumbs".toList, "data".toList, "setData".toList,
      (if media then "post" else "put" : Text), "processing".toList, "errors".toList,
      "submit".toList]).Nodup := by
    decide
  cases purpose with
  | create => exact words true
  | edit record => exact words plan.hasMedia

/-- Up to their order the constants are the standing ones, the lists and the functions. -/
theorem formConstants_perm (plan : Plan) (purpose : FormPurpose) :
    (plan.formConstants purpose).Perm (plan.standingConstants purpose ++
      (plan.dependencies.map (·.cascade.state) ++ plan.dependencies.map (·.setter))) := by
  have pairs : (plan.dependencies.flatMap fun dependency =>
      [dependency.cascade.state, dependency.setter]).Perm
        (plan.dependencies.map (·.cascade.state) ++ plan.dependencies.map (·.setter)) := by
    rw [List.map_eq_flatMap, List.map_eq_flatMap]
    exact (List.flatMap_append_perm plan.dependencies (fun dependency => [dependency.cascade.state])
      fun dependency => [dependency.setter]).symm
  have standing : plan.standingConstants purpose = ["breadcrumbs".toList, "data".toList,
      "setData".toList, plan.submitFunction purpose, "processing".toList, "errors".toList] ++
        ["submit".toList] := rfl
  rw [formConstants, standing, List.append_assoc, List.append_assoc]
  exact ((pairs.append_right _).trans List.perm_append_comm).append_left _

/-- The constants of a form are distinct exactly if those of the dependencies are apart. -/
theorem nodup_formConstants_iff (plan : Plan) (purpose : FormPurpose) :
    (plan.formConstants purpose).Nodup ↔ plan.ConstantsApart purpose := by
  rw [(plan.formConstants_perm purpose).nodup_iff, List.nodup_append, List.nodup_append]
  constructor
  · rintro ⟨-, ⟨states, setters, crossing⟩, standing⟩
    refine ⟨states, setters, fun dependency member other among => ?_, fun dependency member => ?_⟩
    · exact crossing _ (List.mem_map_of_mem member) _ (List.mem_map_of_mem among)
    · have state := List.mem_append_left (plan.dependencies.map (·.setter))
        (List.mem_map_of_mem (f := (·.cascade.state)) member)
      have setter := List.mem_append_right (plan.dependencies.map (·.cascade.state))
        (List.mem_map_of_mem (f := (·.setter)) member)
      exact ⟨fun inside => standing _ inside _ state rfl, fun inside => standing _ inside _ setter rfl⟩
  · rintro ⟨states, setters, crossing, other⟩
    refine ⟨plan.nodup_standingConstants purpose, ⟨states, setters, ?_⟩, ?_⟩
    · intro state list setter function
      obtain ⟨dependency, member, rfl⟩ := List.mem_map.mp list
      obtain ⟨another, among, rfl⟩ := List.mem_map.mp function
      exact crossing dependency member another among
    · rintro constant standing added listed rfl
      rcases List.mem_append.mp listed with list | function
      · obtain ⟨dependency, member, rfl⟩ := List.mem_map.mp list
        exact (other dependency member).1 standing
      · obtain ⟨dependency, member, rfl⟩ := List.mem_map.mp function
        exact (other dependency member).2 standing

end Plan

end Scaffold
