import Scaffold.Page.Records
import Scaffold.Proofs.Plan.Selection

/-!
# Whose records the pages list

The relationships whose records the pages list are relationships of the entity. Each relationship that
is chosen on the forms has its record list among those that the pages receive, and so has each field
whose options are records.
-/
namespace Scaffold.Plan

variable {plan : Plan} {relationship : Relationship}

/-- Relationships whose key is added are relationships of the plan. -/
theorem mem_of_mem_foreignKeys (member : relationship ∈ plan.foreignKeys) :
    relationship ∈ plan.relationships :=
  (List.mem_filter.mp member).1

/-- So are those chosen on the forms. -/
theorem mem_of_mem_formRelations (member : relationship ∈ plan.formRelations) :
    relationship ∈ plan.relationships :=
  mem_of_mem_foreignKeys (List.mem_filter.mp member).1

/-- No field is named as a key that is added. -/
theorem name_ne_of_mem_foreignKeys {field : Field} (listed : field ∈ plan.fields)
    (member : relationship ∈ plan.foreignKeys) : field.name ≠ relationship.foreignKey := by
  intro same
  have added := (List.mem_filter.mp member).2
  have declared : plan.declares relationship.foreignKey = true :=
    List.any_eq_true.mpr ⟨field, listed, by simp [same]⟩
  simp [declared] at added

/-- No field is named as the key of a relationship chosen on the forms. -/
theorem name_ne_of_mem_formRelations {field : Field} (listed : field ∈ plan.fields)
    (member : relationship ∈ plan.formRelations) : field.name ≠ relationship.foreignKey :=
  name_ne_of_mem_foreignKeys listed (List.mem_filter.mp member).1

/-- A relationship that takes part in cascades is chosen on the forms if no field is named as its
key. -/
theorem mem_formRelations_of_eligible (member : relationship ∈ plan.relationships)
    (eligible : Dependency.eligible plan.names.model relationship = true)
    (free : plan.declares relationship.foreignKey = false) : relationship ∈ plan.formRelations := by
  obtain ⟨owns, other⟩ : relationship.ownsForeignKey = true ∧
      relationship.isSelfReference plan.names.model = false := by
    simpa [Dependency.eligible] using eligible
  exact List.mem_filter.mpr ⟨List.mem_filter.mpr ⟨member, by simp [owns, free]⟩, by simp [other]⟩

/-- Relationships behind those that are known are among both. -/
theorem mem_of_mem_addRelations {known more : List Relationship}
    (member : relationship ∈ addRelations known more) :
    relationship ∈ known ∨ relationship ∈ more := by
  induction more generalizing known with
  | nil => exact .inl member
  | cons first rest ih =>
    unfold addRelations at member
    split at member
    · exact (ih member).imp_right (List.mem_cons_of_mem _)
    · rcases ih member with old | later
      · rcases List.mem_append.mp old with old | new
        · exact .inl old
        · exact .inr (List.mem_singleton.mp new ▸ List.mem_cons_self)
      · exact .inr (List.mem_cons_of_mem _ later)

/-- Those that are known stay. -/
theorem mem_addRelations {known : List Relationship} (member : relationship ∈ known)
    (more : List Relationship) : relationship ∈ addRelations known more := by
  induction more generalizing known with
  | nil => exact member
  | cons first rest ih =>
    unfold addRelations
    split
    · exact ih member
    · exact ih (List.mem_append_left _ member)

/-- The listed relationships are relationships of the plan. -/
theorem Sourced.mem_of_mem_listedRelations (sourced : plan.Sourced)
    (member : relationship ∈ plan.listedRelations) : relationship ∈ plan.relationships := by
  rcases mem_of_mem_addRelations member with form | filtered
  · exact mem_of_mem_formRelations form
  · obtain ⟨filter, listed, own⟩ := List.mem_filterMap.mp filtered
    have source := sourced.filters filter listed
    cases filter with
    | options => simp [filterRelation?] at own
    | records => simp [filterRelation?] at own
    | relation other =>
      obtain rfl := Option.some.inj own
      exact source.1

/-- The pages receive the record list of a relationship chosen on the forms. -/
theorem mem_recordProps_of_formRelations (member : relationship ∈ plan.formRelations) :
    Code.optionsName relationship.name ∈ plan.recordProps :=
  List.mem_map.mpr ⟨plan.relationList relationship,
    List.mem_append_left _ (List.mem_map.mpr ⟨relationship, mem_addRelations member _, rfl⟩), rfl⟩

/-- The pages receive the record list of a field whose options are records. -/
theorem mem_recordProps_of_hasRecords {field : Field} (member : field ∈ plan.fields)
    (records : field.hasRecords = true) : Code.optionsName field.name ∈ plan.recordProps := by
  obtain ⟨⟨model, shown⟩, source⟩ := Option.isSome_iff_exists.mp records
  have listed : fieldList? field = some ⟨Code.optionsName field.name, model, shown, none⟩ := by
    simp [fieldList?, source]
  exact List.mem_map.mpr ⟨_, List.mem_append_right _ (List.mem_filterMap.mpr
    ⟨field, List.mem_filter.mpr ⟨member, records⟩, listed⟩), rfl⟩

end Scaffold.Plan
