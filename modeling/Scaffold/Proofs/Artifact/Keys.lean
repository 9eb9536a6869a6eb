import Mathlib.Data.List.Forall2
import Scaffold.Artifact.Fragment
import Scaffold.Proofs.Names
import Scaffold.Proofs.Registry.Apart
import Scaffold.Proofs.Schema.Reading

/-!
# The keys of a form

The values of a form have a type, an initial value on both forms, a control on both forms and a rule
of the requests. The keys of the types and of the initial values are read back from their text
(`Text.memberKeys`): no key holds a colon or a comma, so a key ends at the first colon behind the
end of the member before it, whatever else it holds. All of them have the same keys in the same order
(`Plan.keys_agree`).
-/
namespace Scaffold

namespace Text

/-- What stands behind the first line end that follows an ending. -/
def memberStart? (ending : Char) : Text → Option Text
  | [] => none
  | c :: rest =>
    if c = ending ∧ rest.head? = some '\n' then some rest.tail else memberStart? ending rest

/-- The keys of members one below the other, each a key, a colon, a value and an ending. -/
def memberKeys (ending : Char) (text : Text) : List Text :=
  (splitOn ':' (ending :: '\n' :: text)).dropLast.filterMap (memberStart? ending)

/-- A value of a member. It may hold colons and endings but no line end that follows an ending, and
behind the last colon no ending. -/
def IsMemberValue (ending : Char) (value : Text) : Prop :=
  ∃ front last, splitOn ':' value = front ++ [last] ∧
    (∀ piece ∈ front, memberStart? ending piece = none) ∧ ending ∉ last

variable {ending : Char} {value : Text}

/-- A text without the ending in front does not matter. -/
theorem memberStart?_append {front : Text} (absent : ending ∉ front) (text : Text) :
    memberStart? ending (front ++ text) = memberStart? ending text := by
  induction front with
  | nil => rfl
  | cons c front ih =>
    rw [List.mem_cons, not_or] at absent
    rw [List.cons_append, memberStart?, if_neg fun same => absent.1 same.1.symm, ih absent.2]

/-- A text without colons and endings is a value. -/
theorem isMemberValue_of_notMem (colon : ':' ∉ value) (absent : ending ∉ value) :
    IsMemberValue ending value :=
  ⟨[], value, splitOn_of_notMem colon, by simp, absent⟩

/-- A value stays one behind a text without colons and endings. -/
theorem IsMemberValue.append_left (own : IsMemberValue ending value) {front : Text}
    (colon : ':' ∉ front) (absent : ending ∉ front) : IsMemberValue ending (front ++ value) := by
  obtain ⟨pieces, last, split, inner, outer⟩ := own
  cases pieces with
  | nil =>
    refine ⟨[], front ++ last, splitOn_append_left colon split, by simp, ?_⟩
    rw [List.mem_append, not_or]
    exact ⟨absent, outer⟩
  | cons first pieces =>
    refine ⟨(front ++ first) :: pieces, last, splitOn_append_left colon split, ?_, outer⟩
    intro piece member
    rcases List.mem_cons.mp member with rfl | member
    · rw [memberStart?_append absent]
      exact inner first List.mem_cons_self
    · exact inner piece (List.mem_cons_of_mem _ member)

/-- Members one below the other, written with an ending and a line end before each of them. -/
def members (ending : Char) (entries : List (Text × Text)) : Text :=
  (entries.flatMap fun entry => ending :: '\n' :: entry.1 ++ ':' :: ' ' :: entry.2) ++ [ending]

/-- The first member and the others. -/
theorem members_cons (ending : Char) (entry : Text × Text) (rest : List (Text × Text)) :
    members ending (entry :: rest) =
      ending :: '\n' :: entry.1 ++ ':' :: (' ' :: entry.2 ++ members ending rest) := by
  simp [members]

/-- Members with an ending behind each of them are the same text. -/
theorem cons_unlines_eq_members {entries : List (Text × Text)} (some : entries ≠ []) :
    ending :: '\n' :: unlines (entries.map fun entry => entry.1 ++ ": " ++ entry.2 ++ [ending]) =
      members ending entries := by
  induction entries with
  | nil => exact absurd rfl some
  | cons entry rest ih =>
    cases rest with
    | nil => simp [members, unlines, joinWith]
    | cons next more =>
      rw [members_cons, ← ih (by simp)]
      simp [unlines, joinWith]

/-- The keys of members are read back, whatever stands in front of the first member. -/
theorem filterMap_memberStart?_members (other : ending ≠ ':') (blank : ending ≠ ' ')
    {entries : List (Text × Text)}
    (keys : ∀ entry ∈ entries, ':' ∉ entry.1)
    (values : ∀ entry ∈ entries, IsMemberValue ending entry.2) (front : Text) (colon : ':' ∉ front)
    (absent : ending ∉ front) :
    (splitOn ':' (front ++ members ending entries)).dropLast.filterMap (memberStart? ending) =
      entries.map (·.1) := by
  induction entries generalizing front with
  | nil =>
    have whole : ':' ∉ front ++ members ending [] := by
      simp [members, colon, other.symm]
    rw [splitOn_of_notMem whole]
    rfl
  | cons entry rest ih =>
    obtain ⟨key, value⟩ := entry
    have whole : ':' ∉ front ++ ending :: '\n' :: key := by
      simp [colon, other.symm, keys _ List.mem_cons_self]
    obtain ⟨pieces, last, split, inner, outer⟩ : IsMemberValue ending (' ' :: value) := by
      have behind : IsMemberValue ending ([' '] ++ value) :=
        (values _ List.mem_cons_self).append_left (by decide) (by simpa using blank)
      exact behind
    have lastColon : ':' ∉ last := notMem_of_mem_splitOn (by rw [split]; simp)
    have start : memberStart? ending (front ++ ending :: '\n' :: key) = some key := by
      rw [memberStart?_append absent, memberStart?, if_pos ⟨rfl, rfl⟩]
      rfl
    have later := ih (fun entry member => keys entry (List.mem_cons_of_mem _ member))
      (fun entry member => values entry (List.mem_cons_of_mem _ member)) last lastColon outer
    have some : splitOn ':' (last ++ members ending rest) ≠ [] := splitWhere_ne_nil _ _
    rw [members_cons, ← List.append_assoc, splitOn_cons whole, splitOn_append_right split,
      List.dropLast_cons_of_ne_nil (by simp [some]), List.filterMap_cons_some start,
      List.dropLast_append_of_ne_nil some, List.filterMap_append, later,
      List.filterMap_eq_nil_iff.mpr inner]
    rfl

/-- **The keys of members are read back.** No key holds a colon. -/
theorem memberKeys_unlines (other : ending ≠ ':') (blank : ending ≠ ' ')
    {entries : List (Text × Text)}
    (keys : ∀ entry ∈ entries, ':' ∉ entry.1)
    (values : ∀ entry ∈ entries, IsMemberValue ending entry.2) :
    memberKeys ending
        (unlines (entries.map fun entry => entry.1 ++ ": " ++ entry.2 ++ [ending])) =
      entries.map (·.1) := by
  by_cases none : entries = []
  · subst none
    have whole : ':' ∉ [ending, '\n'] := by simp [other.symm]
    rw [memberKeys, List.map_nil, List.map_nil]
    exact congrArg (fun pieces : List Text => pieces.dropLast.filterMap (memberStart? ending))
      (splitOn_of_notMem whole)
  · rw [memberKeys, cons_unlines_eq_members none]
    exact filterMap_memberStart?_members other blank keys values [] (by simp) (by simp)

end Text

open Text

/-- The value of an initial value in code. -/
def FormDefault.valueText (value : FormDefault) : Text :=
  match value.record with
  | none => value.blank
  | some record => record ++ '.' :: value.key ++ " ?? " ++ value.blank

namespace Field

/-- The type of a field on the forms holds neither colons nor semicolons. -/
theorem marks_notMem_formType (field : Field) :
    ':' ∉ field.formType.text ∧ ';' ∉ field.formType.text := by
  unfold formType plainFormType
  repeat' split
  all_goals decide

/-- A value that stands for none is a value of a member. -/
theorem isMemberValue_blankValue (field : Field) : IsMemberValue ',' field.blankValue := by
  unfold blankValue
  split
  all_goals first
    | exact isMemberValue_of_notMem (by decide) (by decide)
    | exact ⟨["\x7b start".toList, " null, end".toList], " null \x7d", by decide, by decide, by decide⟩

end Field

namespace Plan

/-- The keys of the form: the names of the fields, then the keys of relationships to other entities
that no field declares. -/
def entryKeys (plan : Plan) : List Text :=
  plan.fields.map (·.name) ++
    (plan.relationships.filter fun relationship =>
      ownsKeyToOther plan.names.model relationship && !plan.declares relationship.foreignKey).map
        (·.foreignKey)

/-- They are the keys of the fields and of the relationships that are chosen on the forms. -/
theorem entryKeys_eq (plan : Plan) :
    plan.entryKeys = plan.fields.map (·.name) ++ plan.formRelations.map (·.foreignKey) := by
  have same : plan.formRelations = plan.relationships.filter fun relationship =>
      ownsKeyToOther plan.names.model relationship && !plan.declares relationship.foreignKey := by
    unfold formRelations foreignKeys ownsKeyToOther
    rw [List.filter_filter]
    congr 1
    funext relationship
    rw [Bool.and_comm, Bool.and_right_comm]
  rw [entryKeys, same]

/-- No key of a form holds a mark between the parts of a member. -/
theorem marks_notMem_entryKeys (options : Options) :
    ∀ key ∈ (ofOptions options).entryKeys, ':' ∉ key ∧ ',' ∉ key := by
  intro key member
  rcases List.mem_append.mp member with own | related
  · obtain ⟨field, listed, rfl⟩ := List.mem_map.mp own
    exact Schema.marks_notMem_name (List.mem_filter.mp listed).1
  · obtain ⟨relationship, listed, rfl⟩ := List.mem_map.mp related
    have legal := fun c => Schema.mem_foreignKey_readRelationships (c := c)
      (List.mem_filter.mp listed).1
    exact ⟨fun inside => (legal ':' inside).elim (fun plain => absurd plain (by decide))
        fun there => there.2.1 rfl,
      fun inside => (legal ',' inside).elim (fun plain => absurd plain (by decide))
        fun there => there.2.2 rfl⟩

/-- The request method as a member. -/
def methodMember (key : Text) : Text × Text := (key, "'put'")

/-- The values of the form as members of an interface. -/
def attributeMembers (plan : Plan) : List (Text × Text) :=
  (plan.formAttributes.map fun value => (value.key, value.type.text)) ++
    if plan.hasMedia then [methodMember "_method?"] else []

/-- The initial values of a form as members of a record. -/
def defaultMembers (plan : Plan) (purpose : FormPurpose) : List (Text × Text) :=
  ((plan.formDefaults purpose).map fun value => (value.key, value.valueText)) ++
    if edits purpose && plan.hasMedia then [methodMember "_method"] else []

/-- The values of the form are written as members that end with semicolons. -/
theorem formAttributeLines_eq (plan : Plan) : plan.formAttributeLines =
    plan.attributeMembers.map fun entry => entry.1 ++ ": " ++ entry.2 ++ [';'] := by
  unfold formAttributeLines attributeMembers
  rw [List.map_append, List.map_map]
  refine congrArg₂ (· ++ ·) rfl ?_
  split
  · rfl
  · rfl

/-- The initial values are written as members that end with commas. -/
theorem formDefaultLines_eq (plan : Plan) (purpose : FormPurpose) : plan.formDefaultLines purpose =
    (plan.defaultMembers purpose).map fun entry => entry.1 ++ ": " ++ entry.2 ++ [','] := by
  unfold formDefaultLines defaultMembers
  rw [List.map_append, List.map_map]
  refine congrArg₂ (· ++ ·) ?_ ?_
  · refine List.map_congr_left fun value _ => ?_
    unfold FormDefault.line
    simp only [Function.comp, FormDefault.valueText]
    cases value.record with
    | none => rfl
    | some record => simp
  · split
    · rfl
    · rfl

/-- The keys of the values of the form. -/
theorem map_key_formAttributes (plan : Plan) : plan.formAttributes.map (·.key) = plan.entryKeys := by
  rw [entryKeys_eq, formAttributes, List.map_append, List.map_map, List.map_map]
  rfl

/-- The keys of the initial values. -/
theorem map_key_formDefaults (plan : Plan) (purpose : FormPurpose) :
    (plan.formDefaults purpose).map (·.key) = plan.entryKeys := by
  rw [entryKeys_eq, formDefaults, List.map_append, List.map_map, List.map_map]
  rfl

/-- The keys of the controls. -/
theorem map_key_formInputs (plan : Plan) (purpose : FormPurpose) :
    (plan.formInputs purpose).map (·.key) = plan.entryKeys := by
  rw [entryKeys_eq, formInputs, List.map_append, List.map_map, List.map_map]
  rfl

/-- The keys of the members of the interface. -/
theorem map_fst_attributeMembers (plan : Plan) : plan.attributeMembers.map (·.1) =
    plan.entryKeys ++ if plan.hasMedia then ["_method?".toList] else [] := by
  rw [attributeMembers, List.map_append, List.map_map, ← map_key_formAttributes]
  refine congrArg₂ (· ++ ·) rfl ?_
  split
  · rfl
  · rfl

/-- The keys of the members of the record. -/
theorem map_fst_defaultMembers (plan : Plan) (purpose : FormPurpose) :
    (plan.defaultMembers purpose).map (·.1) =
      plan.entryKeys ++ if edits purpose && plan.hasMedia then ["_method".toList] else [] := by
  rw [defaultMembers, List.map_append, List.map_map, ← map_key_formDefaults plan purpose]
  refine congrArg₂ (· ++ ·) rfl ?_
  split
  · rfl
  · rfl

/-- The key of a member is one of the form, or names the request method. -/
theorem colon_notMem_of_mem {options : Options} {entries : List (Text × Text)} {method : Text}
    {sent : Bool} (keys : entries.map (·.1) =
      (ofOptions options).entryKeys ++ if sent then [method] else []) (own : ':' ∉ method) :
    ∀ entry ∈ entries, ':' ∉ entry.1 := by
  intro entry member
  have listed : entry.1 ∈ entries.map (·.1) := List.mem_map_of_mem member
  rw [keys] at listed
  rcases List.mem_append.mp listed with key | last
  · exact (marks_notMem_entryKeys options entry.1 key).1
  · split at last
    · rw [List.mem_singleton.mp last]
      exact own
    · simp at last

/-- The types of the form are values of members. -/
theorem isMemberValue_attributeMembers (plan : Plan) :
    ∀ entry ∈ plan.attributeMembers, IsMemberValue ';' entry.2 := by
  intro entry member
  rcases List.mem_append.mp member with own | method
  · obtain ⟨value, listed, rfl⟩ := List.mem_map.mp own
    rcases List.mem_append.mp listed with declared | related
    · obtain ⟨field, -, rfl⟩ := List.mem_map.mp declared
      exact isMemberValue_of_notMem field.marks_notMem_formType.1 field.marks_notMem_formType.2
    · obtain ⟨relationship, -, rfl⟩ := List.mem_map.mp related
      have number : IsMemberValue ';' (ValueType.nullable "number").text :=
        isMemberValue_of_notMem (by decide) (by decide)
      exact number
  · split at method
    · rw [List.mem_singleton.mp method]
      exact isMemberValue_of_notMem (by decide) (by decide)
    · simp at method

/-- A value in front of which a record may be asked for it is one of a member. -/
theorem isMemberValue_valueText {value : FormDefault} (blank : IsMemberValue ',' value.blank)
    (key : ':' ∉ value.key ∧ ',' ∉ value.key)
    (record : ∀ record ∈ value.record, ':' ∉ record ∧ ',' ∉ record) :
    IsMemberValue ',' value.valueText := by
  unfold FormDefault.valueText
  cases own : value.record with
  | none => exact blank
  | some other =>
    obtain ⟨colon, comma⟩ := record other own
    exact blank.append_left (by simp [colon, key.1]) (by simp [comma, key.2])

/-- The variable of a record on the pages is a plain word. -/
theorem plain_pageRecord (options : Options) : IsPlain (ofOptions options).pageRecord := by
  have record : IsPlain (ofOptions options).names.record :=
    Names.plain_record options.displayName
  unfold pageRecord Code.pageVariable
  split
  · refine record.append ?_
    unfold IsPlain
    decide
  · exact record

/-- The initial values of a form are values of members. -/
theorem isMemberValue_defaultMembers (options : Options) {purpose : FormPurpose}
    (record : ∀ record, purpose = .edit record → ':' ∉ record ∧ ',' ∉ record) :
    ∀ entry ∈ (ofOptions options).defaultMembers purpose, IsMemberValue ',' entry.2 := by
  intro entry member
  rcases List.mem_append.mp member with own | method
  · obtain ⟨value, listed, rfl⟩ := List.mem_map.mp own
    have key : value.key ∈ (ofOptions options).entryKeys := by
      rw [← map_key_formDefaults _ purpose]
      exact List.mem_map_of_mem listed
    refine isMemberValue_valueText ?_ (marks_notMem_entryKeys options _ key) ?_
    · rcases List.mem_append.mp listed with declared | related
      · obtain ⟨field, -, rfl⟩ := List.mem_map.mp declared
        exact field.isMemberValue_blankValue
      · obtain ⟨relationship, -, rfl⟩ := List.mem_map.mp related
        have null : IsMemberValue ',' "null" := isMemberValue_of_notMem (by decide) (by decide)
        exact null
    · intro other own
      rcases List.mem_append.mp listed with declared | related
      · obtain ⟨field, -, rfl⟩ := List.mem_map.mp declared
        cases purpose with
        | create => simp [fieldDefault] at own
        | edit record' =>
          simp only [fieldDefault, Option.mem_def, Option.ite_none_left_eq_some] at own
          exact record other (by rw [Option.some.inj own.2])
      · obtain ⟨relationship, -, rfl⟩ := List.mem_map.mp related
        cases purpose with
        | create => simp [relationDefault] at own
        | edit record' =>
          simp only [relationDefault, Option.mem_def] at own
          exact record other (by rw [Option.some.inj own])
  · split at method
    · rw [List.mem_singleton.mp method]
      exact isMemberValue_of_notMem (by decide) (by decide)
    · simp at method

/-- The lines of the input for a key: its label, a control for it and the place of its error. -/
def IsInput (key : Text) (lines : List Text) : Prop :=
  ∃ (label : Text) (control : Control) (note : List Text),
    lines = ("<div className=\"grid gap-2\">" : Text) ::
      ("    <Label htmlFor=\"" ++ key ++ "\">" ++ label ++ "</Label>") ::
      Text.indentLines Code.step (unlines (control.lines key label ++ note)) ++
      ["    <InputError message=\x7berrors." ++ key ++ "\x7d />", "</div>"]

/-- The rules of a key: its own rule, and then those of its elements. -/
def IsRuleGroup (key : Text) (rules : List ValidationRule) : Prop :=
  ∃ own elements, rules = own :: elements ∧ own.key = key ∧
    ∀ rule ∈ elements, rule.key = key ++ ".*" ∨ rule.key = key ++ ".0"

/-- An input is one for its key. -/
theorem isInput_lines (input : FormInput) : IsInput input.key input.lines := by
  refine ⟨input.label, input.control, input.note, ?_⟩
  unfold FormInput.lines
  simp [Markup.opening, Markup.inline, Markup.closing, Markup.empty, Markup.classes, Markup.head,
    Markup.Attribute.written, Text.concat, Text.braced, Code.deeper, Code.step]

/-- The rules of a field are its own and those of its elements. -/
theorem isRuleGroup_fieldRules (field : Field) : IsRuleGroup field.name (fieldRules field) := by
  have choice : ∀ memberRule, IsRuleGroup field.name (choiceRules field memberRule) := by
    intro memberRule
    unfold choiceRules
    split
    · exact ⟨_, _, rfl, rfl, fun rule member => .inl (by rw [List.mem_singleton.mp member]; rfl)⟩
    · exact ⟨_, [], rfl, rfl, by simp⟩
  unfold fieldRules
  split
  · exact ⟨_, [], rfl, rfl, by simp⟩
  · split
    · exact choice _
    · exact choice _
    · refine ⟨_, _, rfl, rfl, fun rule member => ?_⟩
      unfold elementRules at member
      split at member
      · exact .inr (by rw [List.mem_singleton.mp member])
      · exact .inl (by rw [List.mem_singleton.mp member]; rfl)
      · exact .inl (by rw [List.mem_singleton.mp member]; rfl)
      · simp at member

/-- The rules of a plan are in groups, one for each key. -/
theorem exists_ruleGroups (options : Options) : ∃ groups, (ofOptions options).rules = groups.flatten ∧
    List.Forall₂ IsRuleGroup (ofOptions options).entryKeys groups := by
  let plan := ofOptions options
  let related := plan.relationships.filter fun relationship =>
    ownsKeyToOther plan.names.model relationship && !plan.declares relationship.foreignKey
  refine ⟨plan.fields.map fieldRules ++ related.map fun relationship => [keyRule relationship],
    ?_, ?_⟩
  · have single : (related.map fun relationship => [keyRule relationship]).flatten =
        related.map keyRule := by
      rw [← List.flatMap_def, List.map_eq_flatMap]
    rw [List.flatten_append, single, ← List.flatMap_def]
    rfl
  · refine List.rel_append ?_ ?_
    · exact List.forall₂_map_left_iff.mpr <| List.forall₂_map_right_iff.mpr <|
        List.forall₂_same.mpr fun field _ => isRuleGroup_fieldRules field
    · exact List.forall₂_map_left_iff.mpr <| List.forall₂_map_right_iff.mpr <|
        List.forall₂_same.mpr fun relationship _ => ⟨_, [], rfl, rfl, by simp⟩

/-- The form of a plan has the same keys everywhere: in its types, in its initial values, in its
controls and in its rules. -/
structure SameKeys (plan : Plan) : Prop where
  /-- The type of the form data. -/
  attributes : memberKeys ';' (Placeholder.fragment plan .types .formAttributes) =
    plan.entryKeys ++ if plan.hasMedia then ["_method?".toList] else []
  /-- The initial values of a new record. -/
  created : memberKeys ',' (Placeholder.fragment plan .createPage .formDefaults) = plan.entryKeys
  /-- The initial values of a changed record. -/
  edited : memberKeys ',' (Placeholder.fragment plan .editPage .formDefaults) =
    plan.entryKeys ++ if plan.hasMedia then ["_method".toList] else []
  /-- The controls of both forms. -/
  inputs : ∀ artifact ∈ [Artifact.createPage, .editPage], ∃ blocks,
    Placeholder.fragment plan artifact .formFields = unlines blocks.flatten ∧
      List.Forall₂ IsInput plan.entryKeys blocks
  /-- The rules, in which those of elements follow the own rule of their key. -/
  rules : ∃ groups, plan.rules = groups.flatten ∧ List.Forall₂ IsRuleGroup plan.entryKeys groups

end Plan

end Scaffold
