import Scaffold.Artifact.Fragment
import Scaffold.Proofs.Code.Mention
import Scaffold.Proofs.Page.Records
import Scaffold.Proofs.Text.Atom

/-!
# What a cascade uses

The endpoint of a cascade asks for records of the child's model, and the list that the forms fetch
begins as the record list of the child. The controller imports the models of the record lists and the
pages receive these lists, so both are there if the child has a record list
(`Plan.cascade_in_scope`). A child whose key column is declared as a field has none of its own: the
relationship is not chosen on the forms, though it takes part in the cascade.
-/
namespace Scaffold

open Text

namespace ClassName

/-- An import tells its class. -/
theorem importLine_injective {name other : Text} (same : importLine name = importLine other) :
    name = other := by
  unfold importLine at same
  exact List.append_cancel_left (List.append_cancel_right same)

/-- A file imports the classes that it uses from other namespaces. -/
theorem importLine_mem_importLines {space name : Text} {used : List Text} :
    importLine name ∈ importLines space used ↔ name ∈ used ∧ namespaceOf? name ≠ some space := by
  have own : name ∈ imported space used ↔ name ∈ used ∧ namespaceOf? name ≠ some space := by
    rw [imported, mem_sortedDistinct, List.mem_filter, bne_iff_ne]
  rw [← own]
  refine ⟨fun listed => ?_, fun listed => List.mem_map.mpr ⟨name, listed, rfl⟩⟩
  obtain ⟨other, member, same⟩ := List.mem_map.mp listed
  exact importLine_injective same ▸ member

/-- A class lies in its namespace. -/
theorem eq_of_namespaceOf? {name space : Text} (found : namespaceOf? name = some space) :
    ∃ rest, name = space ++ '\\' :: rest := by
  obtain ⟨⟨before, rest⟩, cut, rfl⟩ := Option.map_eq_some_iff.mp found
  exact ⟨rest, eq_of_splitLast? cut⟩

end ClassName

namespace Plan

variable {plan : Plan} {target space : Text} {dependency : Dependency}

/-- Texts that begin differently are different. -/
theorem append_ne_append {start other : Text} (short : start.length ≤ other.length)
    (apart : ¬start <+: other) (rest more : Text) : other ++ more ≠ start ++ rest := by
  intro same
  exact apart (List.prefix_of_prefix_length_le (same ▸ List.prefix_append start rest)
    (List.prefix_append other more) short)

/-- The namespace of an application or of the plan's package. -/
def IsSpace (plan : Plan) (space : Text) : Prop := space = "App" ∨ space = plan.namespaceName

/-- A namespace begins as that of an application or as one of a package. -/
theorem IsSpace.cases (own : plan.IsSpace space) :
    space = "App" ∨ ∃ name, space = "Packages\\" ++ name := by
  rcases own with rfl | rfl
  · exact .inl rfl
  · unfold namespaceName
    cases plan.package with
    | none => exact .inl rfl
    | some scope => exact .inr ⟨scope.namespaceName, rfl⟩

/-- What stands behind namespaces is the same if the whole is. -/
theorem IsSpace.cancel {other rest more : Text} (first : plan.IsSpace space)
    (second : plan.IsSpace other) (same : space ++ rest = other ++ more) : rest = more := by
  have apart : ∀ rest more : Text, "Packages\\" ++ more ≠ "App" ++ rest :=
    append_ne_append (by decide) (by decide)
  have settled : ∀ {rest more : Text}, "App" ++ rest = plan.namespaceName ++ more → rest = more := by
    intro rest more same
    rcases IsSpace.cases (.inr rfl : plan.IsSpace plan.namespaceName) with app | ⟨name, package⟩
    · exact List.append_cancel_left (app ▸ same)
    · rw [package, List.append_assoc] at same
      exact absurd same.symm (apart rest (name ++ more))
  rcases first with rfl | rfl
  · rcases second with rfl | rfl
    · exact List.append_cancel_left same
    · exact settled same
  · rcases second with rfl | rfl
    · exact (settled same.symm).symm
    · exact List.append_cancel_left same

/-- The class of a related entity lies among the models of a namespace. -/
theorem relatedClass_eq (plan : Plan) (target : Text) :
    ∃ space, plan.IsSpace space ∧ plan.relatedClass target = space ++ ("\\Models\\" ++ target) ∧
      (target ≠ "User" → space = plan.namespaceName) := by
  unfold relatedClass
  split
  · rename_i users
    exact ⟨"App", .inl rfl, by rw [users]; decide, fun other => absurd users other⟩
  · exact ⟨plan.namespaceName, .inr rfl, List.append_assoc .., fun _ => rfl⟩

/-- Related entities of one class are the same. -/
theorem relatedClass_injective {other : Text}
    (same : plan.relatedClass target = plan.relatedClass other) : target = other := by
  obtain ⟨space, own, written, -⟩ := relatedClass_eq plan target
  obtain ⟨another, among, spelled, -⟩ := relatedClass_eq plan other
  rw [written, spelled] at same
  exact List.append_cancel_left (own.cancel among same)

/-- Models and the classes below `Http` are apart. -/
theorem relatedClass_ne_http (own : plan.IsSpace space) (rest : Text) :
    plan.relatedClass target ≠ space ++ ("\\Http\\" ++ rest) := by
  obtain ⟨another, among, written, -⟩ := relatedClass_eq plan target
  rw [written]
  exact fun same => append_ne_append (by decide) (by decide) rest target (among.cancel own same)

/-- So are models and the classes of the frameworks. -/
theorem relatedClass_ne_framework (plan : Plan) (target : Text) {name : Text}
    (framework : ¬"App".toList <+: name ∧ ¬"Packages\\".toList <+: name) :
    plan.relatedClass target ≠ name := by
  rintro rfl
  obtain ⟨space, own, written, -⟩ := relatedClass_eq plan target
  rw [written] at framework
  rcases own.cases with rfl | ⟨name, rfl⟩
  · exact framework.1 (List.prefix_append ..)
  · rw [List.append_assoc] at framework
    exact framework.2 (List.prefix_append ..)

/-- The model of another entity is none of the classes that every controller uses. -/
theorem relatedClass_notMem_common (other : target ≠ plan.names.model) :
    plan.relatedClass target ∉ plan.commonControllerUses := by
  have base : ("App\\Http\\Controllers\\Controller" : Text) =
      "App" ++ ("\\Http\\" ++ "Controllers\\Controller") := by decide
  have requests : ("\\Http\\Requests" : Text) = "\\Http\\" ++ "Requests" := by decide
  unfold commonControllerUses
  rw [base, requestNamespace, requests]
  simp only [List.append_assoc, List.mem_cons, List.not_mem_nil, or_false, not_or]
  refine ⟨relatedClass_ne_http (.inl rfl) _, fun own => ?_, relatedClass_ne_http (.inr rfl) _,
    relatedClass_ne_http (.inr rfl) _, relatedClass_ne_framework plan target (by decide),
    relatedClass_ne_framework plan target (by decide),
    relatedClass_ne_framework plan target (by decide),
    relatedClass_ne_framework plan target (by decide)⟩
  obtain ⟨space, among, written, -⟩ := relatedClass_eq plan target
  rw [written, modelClass, List.append_assoc] at own
  exact other (List.append_cancel_left (among.cancel (.inr rfl) own))

/-- A model does not lie in the namespace of the controller. -/
theorem namespaceOf?_relatedClass (plan : Plan) (target : Text) :
    ClassName.namespaceOf? (plan.relatedClass target) ≠ some plan.controllerNamespace := by
  intro found
  obtain ⟨rest, same⟩ := ClassName.eq_of_namespaceOf? found
  have controllers : ("\\Http\\Controllers" : Text) = "\\Http\\" ++ "Controllers" := by decide
  rw [controllerNamespace, controllers] at same
  simp only [List.append_assoc] at same
  exact relatedClass_ne_http (.inr rfl) _ same

/-- The controller imports the model of another entity exactly if the pages receive records of it. -/
theorem importLine_mem_controllerImports (other : target ≠ plan.names.model) :
    ClassName.importLine (plan.relatedClass target) ∈ plan.controllerImports ↔
      ∃ records ∈ plan.recordLists, records.model = target := by
  have json : plan.relatedClass target ∉
      (if plan.dependencies.isEmpty then [] else ["Illuminate\\Http\\JsonResponse".toList]) := by
    split
    · exact List.not_mem_nil
    · intro listed
      exact relatedClass_ne_framework plan target (by decide) (List.mem_singleton.mp listed)
  rw [controllerImports, ClassName.importLine_mem_importLines, controllerUses,
    and_iff_left (namespaceOf?_relatedClass plan target), List.mem_append, List.mem_append,
    or_iff_right (not_or.mpr ⟨relatedClass_notMem_common other, json⟩), List.mem_map]
  constructor
  · rintro ⟨records, listed, same⟩
    exact ⟨records, listed, relatedClass_injective same⟩
  · rintro ⟨records, listed, rfl⟩
    exact ⟨records, listed, rfl⟩

/-- What the code of a cascade uses is there: the model that its endpoint asks for is imported by the
controller or lies beside it, and the list that its state begins as is one that both forms
receive. -/
structure InScope (plan : Plan) (dependency : Dependency) : Prop where
  /-- The model of the children. -/
  model : ClassName.importLine (plan.relatedClass dependency.child.target) ∈ plan.controllerImports ∨
    ClassName.namespaceOf? (plan.relatedClass dependency.child.target) =
      some plan.controllerNamespace
  /-- The list of the children. -/
  list : dependency.initialList ∈ plan.recordProps

/-- Whether it is there can be computed. -/
instance (plan : Plan) (dependency : Dependency) : Decidable (plan.InScope dependency) :=
  decidable_of_iff (_ ∧ _) ⟨fun ⟨model, list⟩ => ⟨model, list⟩, fun ⟨model, list⟩ => ⟨model, list⟩⟩

/-- What a cascade uses is there exactly if some record list is of the child's model and some list has
the name of the child's. -/
theorem inScope_iff (other : dependency.child.target ≠ plan.names.model) :
    plan.InScope dependency ↔
      (∃ records ∈ plan.recordLists, records.model = dependency.child.target) ∧
      ∃ records ∈ plan.recordLists, records.prop = dependency.initialList := by
  rw [← importLine_mem_controllerImports other]
  refine ⟨fun scope => ⟨?_, List.mem_map.mp scope.list⟩, fun ⟨model, list⟩ =>
    ⟨.inl model, List.mem_map.mpr list⟩⟩
  exact scope.model.resolve_right (namespaceOf?_relatedClass plan _)

/-- The endpoint of a cascade asks for records of the child's model, and its state begins as the list
of the child. -/
theorem uses_child (member : dependency ∈ plan.dependencies) :
    StandsIn (dependency.child.target ++ "::query()") plan.endpointLines ∧
      StandsIn ("(" ++ dependency.initialList ++ ");") plan.dependentListLines := by
  constructor
  · have query : StandsIn (dependency.child.target ++ "::query()")
        (plan.endpoint dependency).lines := by
      refine .mono (.block (.block (.of_mem ?_ List.mem_cons_self))) (List.subset_cons_self _ _)
      unfold Controller.recordQuery
      simp only [List.append_assoc]
      exact ((List.prefix_append_right_inj _).mpr (List.prefix_append _ _)).isInfix
    refine query.mono fun line own => List.mem_flatMap.mpr ⟨plan.endpoint dependency, ?_, ?_⟩
    · exact List.mem_map.mpr ⟨dependency, member, rfl⟩
    · exact List.mem_cons_of_mem _ own
  · have opening : ("[]>(" : Text) = "[]>" ++ "(" := by decide
    have start : StandsIn ("(" ++ dependency.initialList ++ ");") dependency.listLines := by
      refine .of_mem ⟨"const [" ++ (dependency.cascade.state ++ (", " ++ (dependency.setter ++
        ("] = useState<" ++ (recordOption ++ "[]>"))))), [], ?_⟩ List.mem_cons_self
      unfold Dependency.stateLine
      rw [opening]
      simp only [List.append_assoc, List.append_nil]
    exact start.mono fun line own =>
      List.mem_flatMap.mpr ⟨dependency, member, List.mem_cons_of_mem _ own⟩

/-- **The code of a cascade uses what is there, unless the key of the child is declared as a field.**
The endpoint of a dependency asks for records of the child's model, and the state of the forms begins
as the list of the child. If no field is named as the child's key, the controller imports the model
and both forms receive the list. In any case both are there exactly if some record list of the pages
is of that model and some has that name. -/
theorem cascade_in_scope (options : Options) {dependency : Dependency}
    (member : dependency ∈ (ofOptions options).dependencies) :
    (StandsIn (dependency.child.target ++ "::query()") (ofOptions options).endpointLines ∧
      StandsIn ("(" ++ dependency.initialList ++ ");") (ofOptions options).dependentListLines) ∧
    ((ofOptions options).declares dependency.child.foreignKey = false →
      (ofOptions options).InScope dependency) ∧
    ((ofOptions options).InScope dependency ↔
      (∃ records ∈ (ofOptions options).recordLists, records.model = dependency.child.target) ∧
      ∃ records ∈ (ofOptions options).recordLists, records.prop = dependency.initialList) := by
  obtain ⟨own, eligible⟩ := ((sourced_ofOptions options).dependencies dependency member).child
  have other : dependency.child.target ≠ (ofOptions options).names.model := by
    have apart : dependency.child.isSelfReference (ofOptions options).names.model = false := by
      simp only [Dependency.eligible, Bool.and_eq_true, Bool.not_eq_true'] at eligible
      exact eligible.2
    simpa [Relationship.isSelfReference] using apart
  refine ⟨uses_child member, fun free => (inScope_iff other).mpr ?_, inScope_iff other⟩
  -- The child is chosen on the forms, so it has a record list of its own.
  have chosen := mem_formRelations_of_eligible own eligible free
  have listed : (ofOptions options).relationList dependency.child ∈ (ofOptions options).recordLists :=
    List.mem_append_left _ (List.mem_map.mpr ⟨_, mem_addRelations chosen _, rfl⟩)
  exact ⟨⟨_, listed, rfl⟩, ⟨_, listed, rfl⟩⟩

/-- Proofs that follow a schema and rest on a lemma of this schema. -/
def schematicProofs : Options :=
  { displayName := "Proof"
    relationships := "schema:belongsTo:Schema,lemma^schema:belongsTo:Lemma" }

/-- The cascade of these proofs. -/
def lemmaBySchema : Dependency :=
  let parent := Relationship.ofTarget "schema" .belongsTo "Schema"
  let child := { Relationship.ofTarget "lemma" .belongsTo "Lemma" with dependsOn := some "schema" }
  { parent, child, cascade := Cascade.between parent child "proofs" }

/-- What the cascade of these proofs uses is there. -/
theorem cascade_in_scope_proofs : (ofOptions schematicProofs).InScope lemmaBySchema :=
  have declared : lemmaBySchema ∈ (ofOptions schematicProofs).dependencies ∧
      (ofOptions schematicProofs).declares lemmaBySchema.child.foreignKey = false := by
    unfold schematicProofs lemmaBySchema
    simp (disch := exact rfl) only [Text.toList_literal, -String.reduceToList]
    decide +kernel
  (cascade_in_scope schematicProofs declared.1).2.1 declared.2

/-- The same proofs, where the key of the lemma is declared as a field as well. -/
def numberedProofs : Options := { schematicProofs with fields := "lemma_id:number" }

/-- What the cascade of these proofs uses is not all there. -/
theorem cascade_out_of_scope : ¬∀ dependency ∈ (ofOptions numberedProofs).dependencies,
    (ofOptions numberedProofs).InScope dependency := by
  unfold numberedProofs schematicProofs
  simp (disch := exact rfl) only [Text.toList_literal, -String.reduceToList]
  decide +kernel

end Plan

end Scaffold
