import Scaffold.Proofs.Inflection
import Scaffold.Plan.Build

/-!
# Names are plain

Whatever the display name, the names of an entity hold plain characters only, and its labels those
and blanks (`plain_ofDisplayName`). So they can stand in paths, patterns and literals as they are.
-/
namespace Scaffold

namespace Text

/-- Capitalising a plain word keeps it plain. -/
theorem IsPlain.capitalized {word : Text} (plain : IsPlain word) : IsPlain (capitalized word) := by
  cases word with
  | nil => exact IsPlain.nil
  | cons c rest =>
    exact (isPlain_upperChar (plain c List.mem_cons_self)).append
      (plain.subset (List.subset_cons_self c rest))

/-- The pieces of a text hold no other characters than the text. -/
theorem subset_of_mem_splitWhere {cut : Char → Bool} {text piece : Text}
    (member : piece ∈ splitWhere cut text) : piece ⊆ text := by
  induction text generalizing piece with
  | nil =>
    obtain rfl : piece = [] := by simpa [splitWhere] using member
    exact List.Subset.refl _
  | cons c rest ih =>
    by_cases here : cut c = true
    · simp only [splitWhere, here, ↓reduceIte, List.mem_cons] at member
      rcases member with rfl | member
      · exact List.nil_subset _
      · exact List.subset_cons_of_subset c (ih member)
    · cases pieces : splitWhere cut rest with
      | nil => exact absurd pieces (splitWhere_ne_nil cut rest)
      | cons first others =>
        simp only [splitWhere, here, pieces, Bool.false_eq_true, ↓reduceIte, List.mem_cons]
          at member
        rcases member with rfl | member
        · exact List.cons_subset_cons c (ih (by rw [pieces]; exact List.mem_cons_self))
        · exact List.subset_cons_of_subset c (ih (by rw [pieces]; exact List.mem_cons_of_mem _ member))

/-- The pieces of a plain text are plain. -/
theorem plain_of_mem_splitWhere {cut : Char → Bool} {text piece : Text} (plain : IsPlain text)
    (member : piece ∈ splitWhere cut text) : IsPlain piece :=
  plain.subset (subset_of_mem_splitWhere member)

/-- The label of a plain name holds plain characters and blanks. -/
theorem isPlain_of_mem_labelFor {name : Text} (plain : IsPlain name) {c : Char}
    (inside : c ∈ labelFor name) : isPlain c = true ∨ c = ' ' := by
  have parts : ∀ part ∈ ((splitWhere (fun c => c = '_' || c = ' ') name).filter
      (!·.isEmpty)).map capitalized, IsPlain part := by
    intro part member
    obtain ⟨piece, kept, rfl⟩ := List.mem_map.mp member
    exact (plain_of_mem_splitWhere plain (List.mem_filter.mp kept).1).capitalized
  unfold labelFor at inside
  generalize ((splitWhere (fun c => c = '_' || c = ' ') name).filter
    (!·.isEmpty)).map capitalized = all at parts inside
  induction all with
  | nil => simp [joinWith] at inside
  | cons part rest ih =>
    have first := parts part List.mem_cons_self
    have later := fun other member => parts other (List.mem_cons_of_mem part member)
    cases rest with
    | nil => exact .inl (first c inside)
    | cons next more =>
      simp only [joinWith, List.append_assoc, List.mem_append, List.mem_singleton] at inside
      rcases inside with own | blank | further
      · exact .inl (first c own)
      · exact .inr blank
      · exact ih later further

end Text

open Text Inflection

/-- The names hold plain characters only, and the labels those and blanks. -/
structure Names.Plain (names : Names) : Prop where
  /-- Class name. -/
  model : IsPlain names.model
  /-- Class name in the plural. -/
  modelPlural : IsPlain names.modelPlural
  /-- Variable holding several records. -/
  records : IsPlain names.records
  /-- Words for people, in the plural. -/
  labelPlural : ∀ c ∈ names.labelPlural, isPlain c = true ∨ c = ' '
  /-- Database table. -/
  table : IsPlain names.table
  /-- Path and route name. -/
  route : IsPlain names.route
  /-- Path and route name in the singular. -/
  routeSingular : IsPlain names.routeSingular

/-- The names derived from a display name are plain. -/
theorem Names.plain_ofDisplayName (displayName : Text) : (ofDisplayName displayName).Plain := by
  have snake : IsPlain (singularize (snakeCase (upperCamelCase (trim displayName)))) :=
    plain_singularize (plain_snakeCase _)
  unfold ofDisplayName
  generalize singularize (snakeCase (upperCamelCase (trim displayName))) = word at snake
  have table := plain_pluralize snake
  simp only
  generalize pluralize word = words at table
  exact ⟨plain_upperCamelCase word, plain_upperCamelCase words, plain_lowerCamelCase words,
    fun _ inside => isPlain_of_mem_labelFor table inside, table, plain_kebabCase words,
    plain_kebabCase word⟩

/-- The variable of a record is a plain word. -/
theorem Names.plain_record (displayName : Text) : IsPlain (ofDisplayName displayName).record := by
  unfold ofDisplayName
  generalize singularize (snakeCase (upperCamelCase (trim displayName))) = word
  simp only
  exact plain_lowerCamelCase word

/-- The words for a record hold plain characters and blanks. -/
theorem Names.isPlain_of_mem_label {displayName : Text} {c : Char}
    (inside : c ∈ (ofDisplayName displayName).label) : isPlain c = true ∨ c = ' ' := by
  have snake : IsPlain (singularize (snakeCase (upperCamelCase (trim displayName)))) :=
    plain_singularize (plain_snakeCase _)
  unfold ofDisplayName at inside
  generalize singularize (snakeCase (upperCamelCase (trim displayName))) = word at snake inside
  exact isPlain_of_mem_labelFor snake inside

/-- The names of a plan and of its package are plain. -/
structure Plan.Plain (plan : Plan) : Prop where
  /-- The names of the entity. -/
  names : plan.names.Plain
  /-- The directory of the package. -/
  package : ∀ scope, plan.package = some scope → IsPlain scope.name

/-- The names of every plan that is made from options are plain. -/
theorem Plan.plain_ofOptions (options : Options) : (ofOptions options).Plain := by
  refine ⟨Names.plain_ofDisplayName options.displayName, ?_⟩
  intro scope found
  obtain ⟨name, -, rfl⟩ := Option.map_eq_some_iff.mp found
  exact plain_kebabCase _

end Scaffold
