import Scaffold.Proofs.Code.Mention
import Scaffold.Proofs.Page.Records
import Scaffold.Proofs.Registry.Wiring
import Scaffold.Proofs.Template.Row
import Scaffold.Proofs.Template.Vocabulary
import Scaffold.Artifact.Fragment
import Scaffold.Stub

/-!
# The parts of a cascade agree

A cascade is written four times: as a route of the project, as a method of the controller, as an
address that the forms fetch from, and as keys of the values of a form. Each part is made from the
dependency on its own. The path of a cascade holds one brace, the one that opens its parameter
(`Cascade.exists_front`), so the address differs from the registered path in the parameter alone.
The keys go through another selection than the dependencies: the key of a relationship that takes
part in cascades is that of a declared field or of a relationship chosen on the forms
(`Plan.isFormKey_foreignKey`).
-/
namespace Scaffold

open Text Template

namespace Text

/-- The rest of a replaced piece is left out. -/
theorem replaceFrom_length (old new rest : Text) : replaceFrom old new rest.length rest = [] := by
  induction rest with
  | nil => rfl
  | cons c rest ih => exact ih

/-- A piece that ends a text and whose first character does not stand before it is replaced there
alone. -/
theorem replaceAll_append {front rest new : Text} {c : Char} (absent : c ∉ front) :
    replaceAll (front ++ c :: rest) (c :: rest) new = front ++ new := by
  unfold replaceAll
  induction front with
  | nil =>
    have own : (c :: rest).isPrefixOf (c :: rest) = true := by simp
    simp [replaceFrom, own, replaceFrom_length]
  | cons d front ih =>
    rw [List.mem_cons, not_or] at absent
    simp [replaceFrom, absent.1, ih absent.2]

end Text

namespace Stub

/-- The controller has a line for the endpoints. -/
theorem controller_lines : ∃ lines, controller = Code.written lines ∧
    "    %%cascadeEndpoints%%" ∈ lines :=
  ⟨_, rfl, by simp⟩

/-- Both forms have a line for the dependent lists. -/
theorem form_lines {artifact : Artifact} (form : artifact = .createPage ∨ artifact = .editPage) :
    ∃ lines, ofArtifact artifact = Code.written lines ∧ "    %%cascadeState%%" ∈ lines := by
  rcases form with rfl | rfl
  · exact ⟨_, rfl, by simp⟩
  · exact ⟨_, rfl, by simp⟩

/-- How these lines are read. -/
theorem pieces_cascade :
    pieces ("    %%cascadeEndpoints%%".toList ++ ['\n']) =
      [.block Code.step .cascadeEndpoints ['\n']] ∧
    pieces ("    %%cascadeState%%".toList ++ ['\n']) = [.block Code.step .cascadeState ['\n']] := by
  simp (disch := exact rfl) only [Text.toList_literal, -String.reduceToList]
  simp only [pieces_eq]
  decide +kernel

end Stub

namespace Cascade

variable {parent child : Relationship} {route : Text}

/-- The words of a cascade in its path and in the name of its route. -/
def segment (parent child : Relationship) : Text :=
  kebabCase (Inflection.pluralize (snakeCase child.target)) ++ "-by-" ++
    kebabCase (snakeCase parent.target)

/-- The path of a cascade between the slash in front and its parameter. -/
def stem (parent child : Relationship) (route : Text) : Text :=
  route ++ '/' :: segment parent child ++ ['/']

/-- The path of a cascade ends with its parameter. -/
theorem routePath_between : (between parent child route).routePath =
    '/' :: stem parent child route ++ braced (lowerCamelCase parent.name) := by
  unfold between
  simp [stem, segment]

/-- It is registered without the slash in front. -/
theorem relativePath_between (plain : IsPlain route) (some : route ≠ []) :
    Plan.relativePath (between parent child route).routePath =
      stem parent child route ++ braced (lowerCamelCase parent.name) := by
  obtain ⟨c, rest, rfl⟩ := List.exists_cons_of_ne_nil some
  have other : c ≠ '/' := by
    rintro rfl
    exact plain.notMem (by decide : isPlain '/' = false) List.mem_cons_self
  rw [routePath_between]
  simp [Plan.relativePath, dropStartWhile, stem, other]

/-- Routes of one name have the same words. -/
theorem segment_eq_of_routeName {other chosen : Relationship}
    (same : (between other chosen route).routeName = (between parent child route).routeName) :
    segment other chosen = segment parent child :=
  List.cons_inj_right '.' |>.mp (List.append_cancel_left same)

/-- Routes of one name have the same path up to the parameter. -/
theorem stem_eq_of_routeName {other chosen : Relationship}
    (same : (between other chosen route).routeName = (between parent child route).routeName) :
    stem other chosen route = stem parent child route := by
  rw [stem, segment_eq_of_routeName same, stem]

/-- Only the parameter opens a brace. -/
theorem brace_notMem_stem (plain : IsPlain route) :
    '\x7b' ∉ stem parent child route ++ lowerCamelCase parent.name := by
  have odd : isPlain '\x7b' = false := by decide
  have between : '\x7b' ∉ ("-by-" : Text) := by decide
  have kebab : ∀ name, '\x7b' ∉ kebabCase name := fun name => (plain_kebabCase name).notMem odd
  have lower : ∀ name, '\x7b' ∉ lowerCamelCase name :=
    fun name => (plain_lowerCamelCase name).notMem odd
  simp [stem, segment, plain.notMem odd, kebab, lower, between, -String.reduceToList]

end Cascade

namespace Plan

variable {plan : Plan} {layout : Layout} {dependency : Dependency} {relationship : Relationship}

/-- A key is one of the values of the form, and both forms have an initial value for it. -/
structure IsFormKey (plan : Plan) (key : Text) : Prop where
  /-- The type of the form data has the key. -/
  value : ∃ value ∈ plan.formAttributes, value.key = key
  /-- The initial values have it, whatever the form is for. -/
  initial : ∀ purpose, ∃ value ∈ plan.formDefaults purpose, value.key = key

/-- The name of a field is a key of the form. -/
theorem isFormKey_name {field : Field} (member : field ∈ plan.fields) : plan.IsFormKey field.name :=
  ⟨⟨_, List.mem_append_left _ (List.mem_map.mpr ⟨field, member, rfl⟩), rfl⟩,
    fun _ => ⟨_, List.mem_append_left _ (List.mem_map.mpr ⟨field, member, rfl⟩), rfl⟩⟩

/-- So is the key of a relationship that is chosen on the forms. -/
theorem isFormKey_of_mem_formRelations (member : relationship ∈ plan.formRelations) :
    plan.IsFormKey relationship.foreignKey :=
  ⟨⟨_, List.mem_append_right _ (List.mem_map.mpr ⟨relationship, member, rfl⟩), rfl⟩,
    fun _ => ⟨_, List.mem_append_right _ (List.mem_map.mpr ⟨relationship, member, rfl⟩), rfl⟩⟩

/-- The key of a relationship that takes part in cascades is declared as a field, or the relationship
is chosen on the forms. -/
theorem isFormKey_foreignKey (member : relationship ∈ plan.relationships)
    (eligible : Dependency.eligible plan.names.model relationship = true) :
    plan.IsFormKey relationship.foreignKey := by
  by_cases declared : plan.declares relationship.foreignKey = true
  · obtain ⟨field, listed, same⟩ := List.any_eq_true.mp declared
    rw [← eq_of_beq same]
    exact isFormKey_name listed
  · exact isFormKey_of_mem_formRelations
      (mem_formRelations_of_eligible member eligible (Bool.eq_false_iff.mpr declared))

/-- The parts of a cascade agree across the files they are written to. -/
structure CascadeAgrees (plan : Plan) (layout : Layout) (dependency : Dependency) : Prop where
  /-- The fetched address is the registered path behind a slash, with the key of the chosen parent in
  place of the only parameter. Of several routes of one name any may be the one that is registered. -/
  address : ∃ stem, dependency.address =
      '/' :: stem ++ '$' :: braced ("data." ++ dependency.parent.foreignKey) ∧
    ∀ other ∈ plan.dependencies, other.cascade.routeName = dependency.cascade.routeName →
      '\x7b' ∉ stem ++ other.cascade.parentParam ∧
      relativePath other.cascade.routePath = stem ++ braced other.cascade.parentParam
  /-- Both forms fetch it. -/
  fetched : StandsIn ("fetch(`" ++ dependency.address ++ "`)") plan.dependentListLines ∧
    ∀ artifact ∈ [Artifact.createPage, .editPage],
      indent Code.step (unlines plan.dependentListLines) <:+:
        artifact.content plan (Stub.ofArtifact artifact)
  /-- The routes lead from the path to the endpoint of the controller. -/
  registered : plan.cascadeRoute layout dependency ∈ plan.sharedEntries layout ∧
    StandsIn ("get(" ++ quote (relativePath dependency.cascade.routePath) ++ ", [\\" ++
      plan.controllerClass ++ "::class, " ++ quote dependency.cascade.endpoint ++ "])")
      (plan.cascadeRoute layout dependency).entry.lines
  /-- The controller declares the endpoint, with the parameter of the path. -/
  declared : Code.step ++ ("public function " ++ dependency.cascade.endpoint ++ "(int " ++
      '$' :: dependency.cascade.parentParam ++ "): JsonResponse") ∈
    rows (Artifact.controller.content plan Stub.controller)
  /-- The choice of the parent clears the key of the child. -/
  clears : ∀ key label, StandsIn (dependency.child.foreignKey ++ ": null")
    ((plan.relationControl dependency.parent).lines key label)
  /-- The keys that are read and cleared are keys of the form. -/
  keys : plan.IsFormKey dependency.parent.foreignKey ∧ plan.IsFormKey dependency.child.foreignKey

/-- The fetched address is that of the registered path. -/
theorem Derived.address_agrees (derived : plan.Derived) (route : plan.names.route ≠ [])
    (member : dependency ∈ plan.dependencies) : ∃ stem, dependency.address =
      '/' :: stem ++ '$' :: braced ("data." ++ dependency.parent.foreignKey) ∧
    ∀ other ∈ plan.dependencies, other.cascade.routeName = dependency.cascade.routeName →
      '\x7b' ∉ stem ++ other.cascade.parentParam ∧
      relativePath other.cascade.routePath = stem ++ braced other.cascade.parentParam := by
  have plain := derived.plain.names.route
  have own := derived.cascades dependency member
  refine ⟨Cascade.stem dependency.parent dependency.child plan.names.route, ?_,
    fun other listed same => ?_⟩
  · have braceless : '\x7b' ∉ Cascade.stem dependency.parent dependency.child plan.names.route :=
      fun inside => Cascade.brace_notMem_stem plain (List.mem_append_left _ inside)
    rw [Dependency.address, own, Cascade.routePath_between]
    exact replaceAll_append (List.not_mem_cons_of_ne_of_not_mem (by decide) braceless)
  · rw [own, derived.cascades other listed] at same
    rw [derived.cascades other listed, ← Cascade.stem_eq_of_routeName same]
    exact ⟨Cascade.brace_notMem_stem plain, Cascade.relativePath_between plain route⟩

/-- Both forms hold the dependent lists, and these fetch the address of each. -/
theorem fetches_address (member : dependency ∈ plan.dependencies) :
    StandsIn ("fetch(`" ++ dependency.address ++ "`)") plan.dependentListLines ∧
    ∀ artifact ∈ [Artifact.createPage, .editPage],
      indent Code.step (unlines plan.dependentListLines) <:+:
        artifact.content plan (Stub.ofArtifact artifact) := by
  refine ⟨?_, fun artifact form => ?_⟩
  · have call : StandsIn ("fetch(`" ++ dependency.address ++ "`)") dependency.fetchLines := by
      refine StandsIn.block (.of_mem List.infix_rfl ?_)
      exact List.mem_append_right _ List.mem_cons_self
    refine call.mono fun line own => List.mem_flatMap.mpr ⟨dependency, member, ?_⟩
    exact List.mem_cons_of_mem _ (List.mem_cons_of_mem _ own)
  · obtain ⟨lines, written, listed⟩ := Stub.form_lines (by simpa using form)
    have held : indent Code.step (Placeholder.fragment plan artifact .cascadeState) <:+:
        fill (Code.written lines) (Placeholder.fragment plan artifact) :=
      infix_block listed Stub.pieces_cascade.2
    rw [Artifact.content, written]
    exact held

/-- The routes of the plan hold the one of each dependency, which leads to its endpoint. -/
theorem registers_endpoint (member : dependency ∈ plan.dependencies) :
    plan.cascadeRoute layout dependency ∈ plan.sharedEntries layout ∧
    StandsIn ("get(" ++ quote (relativePath dependency.cascade.routePath) ++ ", [\\" ++
      plan.controllerClass ++ "::class, " ++ quote dependency.cascade.endpoint ++ "])")
      (plan.cascadeRoute layout dependency).entry.lines := by
  refine ⟨List.mem_cons_of_mem _ (List.mem_append_left _ (List.mem_map.mpr ⟨_, member, rfl⟩)), ?_⟩
  have opening : ("->get(" : Text) = "->" ++ "get(" := by decide
  have closing : ("])->name(" : Text) = "])" ++ "->name(" := by decide
  refine .of_mem ⟨routeMiddleware ++ "->",
    "->name(" ++ (quote dependency.cascade.routeName ++ ");"), ?_⟩ List.mem_cons_self
  rw [opening, closing]
  simp only [List.append_assoc]

/-- The controller declares the endpoint of each dependency. -/
theorem Derived.declares_endpoint (derived : plan.Derived)
    (member : dependency ∈ plan.dependencies) :
    Code.step ++ ("public function " ++ dependency.cascade.endpoint ++ "(int " ++
        '$' :: dependency.cascade.parentParam ++ "): JsonResponse") ∈
      rows (Artifact.controller.content plan Stub.controller) := by
  obtain ⟨lines, written, listed⟩ := Stub.controller_lines
  have own : "public function " ++ dependency.cascade.endpoint ++ "(int " ++
      '$' :: dependency.cascade.parentParam ++ "): JsonResponse" ∈ plan.endpointLines :=
    List.mem_flatMap.mpr ⟨plan.endpoint dependency, List.mem_map.mpr ⟨dependency, member, rfl⟩,
      List.mem_cons_of_mem _ List.mem_cons_self⟩
  have upper : ∀ name, '\n' ∉ upperCamelCase name :=
    fun name => (plain_upperCamelCase name).notMem (by decide)
  have lower : ∀ name, '\n' ∉ lowerCamelCase name :=
    fun name => (plain_lowerCamelCase name).notMem (by decide)
  have visible : isBlankText "public function " = false := by decide
  have ending : ("): JsonResponse" : Text).getLast? = some 'e' := by decide
  rw [Artifact.content, written]
  refine mem_rows_block listed Stub.pieces_cascade.1 (by decide) rfl own ?_ ?_ ?_
  · rw [derived.cascades dependency member]
    unfold Cascade.between
    simp [upper, lower]
  · rw [List.getLast?_append, ending]
    simp
  · simp only [List.append_assoc]
    exact isBlankText_append visible _

/-- The choice of a parent clears the keys of its children. -/
theorem clears_child (member : dependency ∈ plan.dependencies) (key label : Text) :
    StandsIn (dependency.child.foreignKey ++ ": null")
      ((plan.relationControl dependency.parent).lines key label) := by
  have cleared : dependency.child.foreignKey ∈ plan.clearedKeys dependency.parent :=
    List.mem_map.mpr ⟨dependency, List.mem_filter.mpr ⟨member, by simp⟩, rfl⟩
  have listed : dependency.child.foreignKey ++ ": null" ∈
      Control.chosenMembers key (plan.clearedKeys dependency.parent) :=
    List.mem_cons_of_mem _ (List.mem_cons_of_mem _ (List.mem_map.mpr ⟨_, cleared, rfl⟩))
  have some : (plan.clearedKeys dependency.parent).isEmpty = false := by
    cases found : plan.clearedKeys dependency.parent with
    | nil => simp [found] at cleared
    | cons => rfl
  refine .within (Markup.standsIn_element (List.mem_cons_of_mem _ List.mem_cons_self)) ?_
  refine (Code.infix_record listed).trans ⟨"(value) => setData((previous) => (", "))", ?_⟩
  simp [Control.setAndClear, Control.function, some]

/-- Dental equipment, made for a human and one tooth of theirs. -/
def dentalEquipment : Options :=
  { displayName := "Equipment", fields := "name"
    relationships := "human:belongsTo:Human,tooth^human:belongsTo:Tooth" }

/-- The cascade of this equipment. -/
def toothByHuman : Dependency :=
  let parent : Relationship := .ofTarget "human" .belongsTo "Human"
  let child : Relationship := { Relationship.ofTarget "tooth" .belongsTo "Tooth" with
    dependsOn := some "human" }
  { parent, child, cascade := Cascade.between parent child "equipment" }

end Plan

end Scaffold
