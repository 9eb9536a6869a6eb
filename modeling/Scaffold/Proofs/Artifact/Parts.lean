import Scaffold.Backend.Migration
import Scaffold.Page.Form
import Scaffold.Proofs.Page.Records
import Scaffold.Proofs.Plan.Declared

/-!
# Parts under the name of a field

What the generated files hold for a field stands under its name: its column, its conversion, its
attribute in the model interface, its value, its initial value and its control on the forms. Each of
these is the one made of the field, since no other field and no added key has the name.
-/
namespace Scaffold

/-- An attribute that is a value, with its type. -/
def RecordAttribute.value? : RecordAttribute → Option (Text × ValueType)
  | value name type => some (name, type)
  | related _ _ => none

namespace Plan

variable {plan : Plan} {field : Field}

/-- The values of the model interface, with their types. -/
def recordValues (plan : Plan) : List (Text × ValueType) :=
  plan.recordAttributes.filterMap RecordAttribute.value?

/-- The values of the model interface are those of the fields and the added keys. -/
theorem recordValues_eq (plan : Plan) : plan.recordValues =
    (plan.fields.map fun field => (field.name, field.recordType)) ++
      plan.foreignKeys.map fun relationship =>
        (relationship.foreignKey, ValueType.nullable "number") := by
  have related : ∀ (runs : List (Text × List Text)) (made : Text × List Text → RecordAttribute),
      (∀ run, (made run).value? = none) → runs.filterMap (RecordAttribute.value? ∘ made) = [] :=
    fun _ _ none => List.filterMap_eq_nil_iff.mpr fun run _ => none run
  unfold recordValues recordAttributes
  rw [List.filterMap_append, List.filterMap_append, List.filterMap_map, List.filterMap_map,
    List.filterMap_map, related _ _ fun _ => rfl, List.append_nil, ← List.filterMap_eq_map, ← List.filterMap_eq_map]
  rfl

/-- A field whose value is no upload has a column. -/
theorem ofField?_of_stored (stored : field.kind.isMedia = false) :
    Column.ofField? field = some ⟨field.name, Column.typeOf field, Column.defaultOf field⟩ := by
  have catalog : ∀ kind ∈ FieldKind.all, kind.isMedia = false → kind.facts.storage ≠ .external := by
    decide
  refine if_neg ?_
  simp only [Column.typeOf]
  split
  · nofun
  · split
    · nofun
    · intro same
      exact catalog field.kind (FieldKind.mem_all _) stored (ColumnType.stored.inj same)

/-- The column of a field stands under its name. -/
theorem Declared.own_columns (declared : plan.Declared) (member : field ∈ plan.fields)
    {column : Column} (made : Column.ofField? field = some column) :
    AtKey Column.name plan.columns field.name (· = column) :=
  .filterMap declared.names (fun _ _ own => Column.name_eq_of_ofField? own) member made rfl

/-- So does its conversion. -/
theorem own_casts (options : Options) (member : field ∈ (ofOptions options).fields) {cast : Cast}
    (made : castOf? field = some cast) :
    AtKey Prod.fst (ofOptions options).casts field.name (· = (field.name, cast)) := by
  refine .filterMap (declared_ofOptions options).names (fun other part own => ?_) member
    (by rw [made]; rfl) rfl
  obtain ⟨cast, -, rfl⟩ := Option.map_eq_some_iff.mp own
  rfl

/-- So does its attribute. -/
theorem Declared.own_recordValues (declared : plan.Declared) (member : field ∈ plan.fields) :
    AtKey Prod.fst plan.recordValues field.name (· = (field.name, field.recordType)) := by
  rw [recordValues_eq]
  refine .append (.map declared.names (fun _ => rfl) member rfl) fun part added same => ?_
  obtain ⟨relationship, listed, rfl⟩ := List.mem_map.mp added
  exact name_ne_of_mem_foreignKeys member listed same.symm

/-- What the forms hold for a field stands under its name if what they hold for relationships stands
under their keys. -/
theorem Declared.own_form {α : Type} {keyOf : α → Text} {ofField : Field → α}
    {ofRelation : Relationship → α} (declared : plan.Declared) (member : field ∈ plan.fields)
    (named : ∀ field, keyOf (ofField field) = field.name)
    (keyed : ∀ relationship, keyOf (ofRelation relationship) = relationship.foreignKey) :
    AtKey keyOf (plan.fields.map ofField ++ plan.formRelations.map ofRelation) field.name
      (· = ofField field) := by
  refine .append (.map declared.names named member rfl) fun part chosen same => ?_
  obtain ⟨relationship, listed, rfl⟩ := List.mem_map.mp chosen
  exact name_ne_of_mem_formRelations member listed ((keyed relationship).symm.trans same).symm

/-- The value of a field on the forms stands under its name. -/
theorem Declared.own_formAttributes (declared : plan.Declared) (member : field ∈ plan.fields) :
    AtKey FormAttribute.key plan.formAttributes field.name (· = ⟨field.name, field.formType⟩) :=
  declared.own_form member (fun _ => rfl) fun _ => rfl

/-- So does its initial value. -/
theorem Declared.own_formDefaults (declared : plan.Declared) (member : field ∈ plan.fields)
    (purpose : FormPurpose) :
    AtKey FormDefault.key (plan.formDefaults purpose) field.name (· = fieldDefault purpose field) :=
  declared.own_form member (fun _ => rfl) fun _ => rfl

/-- So does its control. -/
theorem Declared.own_formInputs (declared : plan.Declared) (member : field ∈ plan.fields)
    (purpose : FormPurpose) :
    AtKey FormInput.key (plan.formInputs purpose) field.name (· = fieldInput purpose field) :=
  declared.own_form member (fun _ => rfl) fun _ => rfl

/-- The rules of a field are rules of the plan. -/
theorem fieldRules_subset (options : Options) (member : field ∈ (ofOptions options).fields) :
    fieldRules field ⊆ (ofOptions options).rules := fun _ listed =>
  List.mem_append_left _ (List.mem_flatMap.mpr ⟨field, member, listed⟩)

end Plan

end Scaffold
