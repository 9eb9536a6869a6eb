import Scaffold.Artifact.Fragment
import Scaffold.Proofs.Code.Mention
import Scaffold.Proofs.Page.Control
import Scaffold.Proofs.Page.Exports
import Scaffold.Proofs.Page.Records

/-!
# Lists that forms draw from

A control with options refers to a list of the page it stands on, and to no other. For a field with
options and for a relationship that is chosen freely the page binds that list: it receives it as a
record list or imports it from the type module. The list of a dependent relationship is a state of the
page, which begins as the record list of the relationship.

A field of a kind that is picked from options may be declared without any. Its control refers to a
list all the same, which nothing binds unless something else of the plan has the same name. So a form
draws from bound lists exactly if the lists of those fields are bound by chance
(`Plan.option_lists_bound_iff`).
-/
namespace Scaffold

namespace Control

open Text Markup

/-- A control refers to the list it draws from. -/
theorem standsIn_lines {control : Control} {choices : ChoiceList} (key label : Text)
    (draws : choices ∈ control.choices?) : StandsIn choices.list (control.lines key label) := by
  have named : choices.list <:+: choices.code := by
    unfold ChoiceList.code
    split
    · exact List.infix_rfl
    · simp only [List.append_assoc]
      exact (List.prefix_append _ _).isInfix
  have items : ∀ {member : Text} {content : List Text},
      StandsIn choices.code (each choices.code member content) := standsIn_each
  refine .within ?_ named
  cases control with
  | select own clears =>
    obtain rfl := Option.some.inj draws
    exact StandsIn.block (items.block.mono (List.subset_append_right _ _))
  | multiSelect own =>
    obtain rfl := Option.some.inj draws
    exact .of_mem (infix_empty (List.mem_cons_of_mem _ List.mem_cons_self)) List.mem_cons_self
  | radioGroup own =>
    obtain rfl := Option.some.inj draws
    exact items.block
  | checkboxes own =>
    obtain rfl := Option.some.inj draws
    exact items.block
  | _ => simp [choices?] at draws

end Control

namespace Field

/-- A field draws from its list exactly if its kind is picked from options. -/
theorem choices?_control (field : Field) : field.control.choices? =
    if field.kind.isEnumerable then some field.choiceList else none := by
  obtain ⟨name, kind, nullable, validation, options, preview, multiple, searchable⟩ := field
  cases kind <;> cases multiple <;> rfl

/-- A field has no options, or labels, or records. -/
theorem options_cases (field : Field) :
    field.options = .none ∨ field.hasLabels = true ∨ field.hasRecords = true := by
  unfold hasLabels hasRecords labels? source?
  cases field.options <;> simp

end Field

namespace Plan

variable {plan : Plan} {artifact : Artifact} {purpose : FormPurpose}

/-- A page binds a list: it receives it as a record list or imports it as a value. -/
def Binds (plan : Plan) (artifact : Artifact) (list : Text) : Prop :=
  list ∈ plan.recordProps ∨ .value list ∈ plan.typeImports artifact

/-- Whether a page binds a list is decided by what it receives and imports. -/
instance (plan : Plan) (artifact : Artifact) (list : Text) :
    Decidable (plan.Binds artifact list) :=
  inferInstanceAs (Decidable (_ ∨ _))

/-- The list of an input is fetched: it is that of a relationship that depends on another one. -/
def Fetches (plan : Plan) (input : FormInput) : Prop :=
  ∃ relationship ∈ plan.formRelations,
    input = plan.relationInput relationship ∧ (plan.dependencyOf? relationship.name).isSome = true

/-- The list of a field is not fetched. -/
theorem not_fetches_fieldInput {field : Field} (member : field ∈ plan.fields) :
    ¬plan.Fetches (fieldInput purpose field) := by
  rintro ⟨relationship, listed, same, -⟩
  exact name_ne_of_mem_formRelations member listed (congrArg FormInput.key same)

/-- Both forms import the option list of a field with labels. -/
theorem mem_typeImports_of_hasLabels {field : Field} (member : field ∈ plan.fields)
    (labels : field.hasLabels = true) (form : artifact = .createPage ∨ artifact = .editPage) :
    .value (Code.optionsName field.name) ∈ plan.typeImports artifact := by
  have listed : Code.optionsName field.name ∈ plan.usedValues artifact := by
    have own : Code.optionsName field.name ∈
        plan.staticFields.map fun field => Code.optionsName field.name :=
      List.mem_map.mpr ⟨field, List.mem_filter.mpr ⟨member, labels⟩, rfl⟩
    rcases form with rfl | rfl <;> exact own
  exact List.mem_append_right _
    (List.mem_map.mpr ⟨_, mem_firstOccurrences.mpr listed, rfl⟩)

/-- The list of a field with options is bound on both forms. -/
theorem binds_of_options_ne_none {field : Field} (member : field ∈ plan.fields)
    (some : field.options ≠ .none) (form : artifact = .createPage ∨ artifact = .editPage) :
    plan.Binds artifact (Code.optionsName field.name) := by
  rcases field.options_cases with none | labels | records
  · exact absurd none some
  · exact .inr (mem_typeImports_of_hasLabels member labels form)
  · exact .inl (mem_recordProps_of_hasRecords member records)

/-- The list of a relationship that is chosen freely is its record list. -/
theorem relationChoices_of_free {relationship : Relationship}
    (free : plan.dependencyOf? relationship.name = none) :
    (plan.relationChoices relationship).list = Code.optionsName relationship.name := by
  simp [relationChoices, free]

/-- A relationship on the form whose list is not fetched is chosen freely. -/
theorem dependencyOf?_eq_none {relationship : Relationship}
    (listed : relationship ∈ plan.formRelations)
    (free : ¬plan.Fetches (plan.relationInput relationship)) :
    plan.dependencyOf? relationship.name = none := by
  cases found : plan.dependencyOf? relationship.name with
  | none => rfl
  | some dependency => exact absurd ⟨relationship, listed, rfl, by simp [found]⟩ free

/-- The list of a relationship that depends on another one is the state of a dependent list, which
begins as the record list of the relationship. -/
theorem relationChoices_of_dependency {relationship : Relationship} {dependency : Dependency}
    (found : plan.dependencyOf? relationship.name = some dependency) :
    (plan.relationChoices relationship).list = dependency.cascade.state ∧
      dependency.initialList = Code.optionsName relationship.name := by
  have child : dependency.child.name = relationship.name := by
    simpa using List.find?_some found
  exact ⟨by simp [relationChoices, found], by rw [Dependency.initialList, child]⟩

/-- The list of an input that is not fetched is the option list of its field or relationship. -/
theorem choices_of_not_fetches {input : FormInput} {choices : ChoiceList}
    (member : input ∈ plan.formInputs purpose) (free : ¬plan.Fetches input)
    (draws : choices ∈ input.control.choices?) : ∃ name, choices.list = Code.optionsName name := by
  rcases List.mem_append.mp member with own | chosen
  · obtain ⟨field, -, rfl⟩ := List.mem_map.mp own
    have draws : field.control.choices? = some choices := draws
    rw [field.choices?_control] at draws
    split at draws
    · obtain rfl := Option.some.inj draws
      exact ⟨field.name, rfl⟩
    · simp at draws
  · obtain ⟨relationship, listed, rfl⟩ := List.mem_map.mp chosen
    obtain rfl := Option.some.inj draws
    exact ⟨relationship.name, relationChoices_of_free (dependencyOf?_eq_none listed free)⟩

/-- **A form draws from bound lists, but for fields without options.** The lists that the controls of
a form refer to, apart from those that it fetches itself, are record lists of the page or imported
exactly if the same holds, by chance, of the lists of the fields that are picked from options and
have none. A list that the form fetches is the state of a dependent list, which begins as a record
list of the page. These are the lists that a control mentions: its own stands in it, and around its
key, its label and what else is pasted into it there is no other name of a list. -/
theorem option_lists_bound_iff (plan : Plan)
    (form : artifact = .createPage ∨ artifact = .editPage) :
    ((∀ input ∈ plan.formInputs (artifact.formPurpose plan), ¬plan.Fetches input →
        ∀ choices ∈ input.control.choices?, plan.Binds artifact choices.list) ↔
      ∀ field ∈ plan.fields, field.kind.isEnumerable = true → field.options = .none →
        plan.Binds artifact (Code.optionsName field.name)) ∧
    (∀ input ∈ plan.formInputs (artifact.formPurpose plan), plan.Fetches input →
      ∀ choices ∈ input.control.choices?, ∃ dependency ∈ plan.dependencies,
        choices.list = dependency.cascade.state ∧ dependency.initialList ∈ plan.recordProps) ∧
    (∀ input ∈ plan.formInputs (artifact.formPurpose plan), ∀ choices ∈ input.control.choices?,
      Text.StandsIn choices.list (input.control.lines input.key input.label)) ∧
    ∀ input ∈ plan.formInputs (artifact.formPurpose plan),
      (plan.Fetches input → ∀ choices ∈ input.control.choices?, Text.IsPlain choices.list) →
      ∃ found, Code.Mentions (input.key :: input.label :: input.control.pasted)
          (Text.unlines (input.control.lines input.key input.label)) found ∧
        found.filter Code.isListName =
          (input.control.choices?.elim [] fun choices => [choices.list]).filter Code.isListName := by
  refine ⟨⟨fun bound field member picked _ => ?_, fun chance input member free choices draws => ?_⟩,
    fun input member => ?_, fun input _ choices draws => Control.standsIn_lines _ _ draws,
    fun input member fetched => input.control.mentions_lines _ _ fun choices draws => ?_⟩
  · have listed := List.mem_append_left (plan.formRelations.map plan.relationInput)
      (List.mem_map.mpr ⟨field, member, (rfl : fieldInput (artifact.formPurpose plan) field = _)⟩)
    refine bound _ listed (not_fetches_fieldInput member) field.choiceList ?_
    show field.control.choices? = some field.choiceList
    rw [field.choices?_control, if_pos picked]
  · rcases List.mem_append.mp member with own | chosen
    · obtain ⟨field, listed, rfl⟩ := List.mem_map.mp own
      have draws : field.control.choices? = some choices := draws
      rw [field.choices?_control] at draws
      split at draws
      · rename_i picked
        obtain rfl := Option.some.inj draws
        by_cases none : field.options = .none
        · exact chance field listed picked none
        · exact binds_of_options_ne_none listed none form
      · simp at draws
    · obtain ⟨relationship, listed, rfl⟩ := List.mem_map.mp chosen
      obtain rfl := Option.some.inj draws
      rw [relationChoices_of_free (dependencyOf?_eq_none listed free)]
      exact .inl (mem_recordProps_of_formRelations listed)
  · rintro ⟨relationship, listed, rfl, depends⟩ choices draws
    obtain ⟨dependency, found⟩ := Option.isSome_iff_exists.mp depends
    obtain rfl := Option.some.inj draws
    obtain ⟨state, begins⟩ := relationChoices_of_dependency found
    exact ⟨dependency, List.mem_of_find?_eq_some found, state,
      begins ▸ mem_recordProps_of_formRelations listed⟩
  · by_cases fetches : plan.Fetches input
    · exact fetched fetches choices draws
    · obtain ⟨name, named⟩ := choices_of_not_fetches member fetches draws
      exact named ▸ Code.plain_optionsName name

/-- Tickets whose status is picked from labels. -/
def labelledTickets : Options :=
  { displayName := "Ticket", fields := "status:select:array:Open|Closed" }

/-- The status of such a ticket. -/
def labelledStatus : Field :=
  ⟨"status", .select, false, none, .labels ["Open", "Closed"], .unset⟩

/-- The form of a ticket whose status is picked from labels draws from a list, which is bound. -/
theorem option_lists_bound_labels :
    (fieldInput .create labelledStatus).control.choices? = some labelledStatus.choiceList ∧
      (ofOptions labelledTickets).Binds .createPage labelledStatus.choiceList.list := by
  have declared : labelledStatus ∈ (ofOptions labelledTickets).fields := by decide +kernel
  have bound := (option_lists_bound_iff (ofOptions labelledTickets) (.inl rfl)).1.mpr
    (by decide +kernel)
  exact ⟨rfl, bound (fieldInput .create labelledStatus) (by decide +kernel)
    (not_fetches_fieldInput declared) labelledStatus.choiceList rfl⟩

/-- Tickets whose status is picked from nothing. -/
def bareTickets : Options := { displayName := "Ticket", fields := "status:select" }

/-- The status of such a ticket. -/
def bareStatus : Field := ⟨"status", .select, false, none, .none, .unset⟩

/-- The form of a ticket whose status is picked from nothing draws from a list that is not bound. -/
theorem option_list_unbound :
    ¬∀ input ∈ (ofOptions bareTickets).formInputs
        (Artifact.createPage.formPurpose (ofOptions bareTickets)),
      ¬(ofOptions bareTickets).Fetches input → ∀ choices ∈ input.control.choices?,
        (ofOptions bareTickets).Binds .createPage choices.list := by
  intro bound
  have declared : bareStatus ∈ (ofOptions bareTickets).fields := by decide +kernel
  refine absurd (bound (fieldInput .create bareStatus) (by decide +kernel)
    (not_fetches_fieldInput declared) bareStatus.choiceList rfl) ?_
  decide +kernel

end Plan

end Scaffold
