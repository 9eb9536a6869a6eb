import Scaffold.Proofs.Schema.Reading
import Scaffold.Proofs.Text.Unmarked

/-!
# Declarations without percent signs

What is read from texts without percent signs holds none: the reader cuts its text into pieces,
trims them and joins some of them again with bars (`Schema.unmarked_read`).
-/
namespace Scaffold

namespace Text

variable {text before after kept : Text} {separator : Char}

/-- Trimming adds none. -/
theorem Unmarked.trim (clean : Unmarked text) : Unmarked (trim text) :=
  clean.subset (trim_infix_self text).subset

/-- The pieces of a text hold none if it does not. -/
theorem Unmarked.splitOn (clean : Unmarked text) : AllUnmarked (splitOn separator text) :=
  fun _ member => clean.subset (subset_of_mem_splitOn member)

/-- The two sides of a first split hold none if the text does not. -/
theorem Unmarked.splitFirst? (clean : Unmarked text)
    (cut : splitFirst? separator text = some (before, after)) : Unmarked before ∧ Unmarked after := by
  rw [(eq_of_splitFirst? cut).1, unmarked_append, unmarked_cons] at clean
  exact ⟨clean.1, clean.2.2⟩

/-- The two sides of a last split hold none if the text does not. -/
theorem Unmarked.splitLast? (clean : Unmarked text)
    (cut : splitLast? separator text = some (before, after)) : Unmarked before ∧ Unmarked after := by
  rw [eq_of_splitLast? cut, unmarked_append, unmarked_cons] at clean
  exact ⟨clean.1, clean.2.2⟩

/-- What is left of a text holds none if it does not. -/
theorem Unmarked.nonBlank? (clean : Unmarked text) (found : nonBlank? text = some kept) :
    Unmarked kept := by
  unfold Text.nonBlank? at found
  split at found
  · simp at found
  · rename_i c rest trimmed
    obtain rfl := Option.some.inj found
    rw [← trimmed]
    exact clean.trim

/-- A start of a text holds none if it does not. -/
theorem Unmarked.dropEndWhile (clean : Unmarked text) (drop : Char → Bool) :
    Unmarked (dropEndWhile text drop) := by
  refine clean.subset fun c inside => ?_
  exact List.mem_reverse.mp (List.dropWhile_subset _ (List.mem_reverse.mp inside))

end Text

open Text

/-- No percent sign stands in the options of a field. -/
def FieldOptions.Unmarked : FieldOptions → Prop
  | .none => True
  | .labels words => AllUnmarked words
  | .records model shown => Text.Unmarked model ∧ Text.Unmarked shown

/-- No percent sign stands in what is written of a field. -/
structure Field.Unmarked (field : Field) : Prop where
  /-- Name and column. -/
  name : Text.Unmarked field.name
  /-- Validation of its own. -/
  validation : ∀ rules ∈ field.validation, Text.Unmarked rules
  /-- Where options come from. -/
  options : field.options.Unmarked

/-- No percent sign stands in what is written of a relationship. -/
structure Relationship.Unmarked (relationship : Relationship) : Prop where
  /-- Name of the relationship. -/
  name : Text.Unmarked relationship.name
  /-- Class of the related entity. -/
  target : Text.Unmarked relationship.target
  /-- Column that holds the key. -/
  foreignKey : Text.Unmarked relationship.foreignKey
  /-- Table of the related entity. -/
  targetTable : Text.Unmarked relationship.targetTable

/-- No percent sign stands in a projection. -/
structure Projection.Unmarked (projection : Projection) : Prop where
  /-- Name of the relationship. -/
  relation : Text.Unmarked projection.relation
  /-- Field of the related record. -/
  field : Text.Unmarked projection.field

namespace Schema

variable {text token rest : Text}

/-- The sides of the rule that carries options hold none if the text does not. -/
theorem unmarked_splitOptionsRule? {start before options : Text} (early : Text.Unmarked start)
    (clean : Text.Unmarked text) (found : splitOptionsRule? start text = some (before, options)) :
    Text.Unmarked before ∧ Text.Unmarked options := by
  induction text generalizing start with
  | nil => simp [splitOptionsRule?] at found
  | cons c rest ih =>
    rw [splitOptionsRule?] at found
    split at found
    · simp only [Option.some.injEq, Prod.mk.injEq] at found
      obtain ⟨rfl, rfl⟩ := found
      exact ⟨early.subset fun d inside => List.mem_reverse.mp inside,
        clean.subset (List.drop_subset _ _)⟩
    · obtain ⟨own, others⟩ := unmarked_cons.mp clean
      exact ih (unmarked_cons.mpr ⟨own, early⟩) others found

/-- A text that is not blank is the text. -/
theorem eq_of_mem_unlessBlank {kept : Text} (found : kept ∈ unlessBlank text) : kept = text := by
  unfold unlessBlank at found
  split at found
  · simp at found
  · exact (Option.some.inj found).symm

/-- Neither the validation nor the options of a declaration hold one if it does not. -/
theorem unmarked_splitOptions (kind : FieldKind) (clean : Text.Unmarked rest) :
    (∀ written ∈ (splitOptions kind rest).1, Text.Unmarked written) ∧
      ∀ options ∈ (splitOptions kind rest).2, Text.Unmarked options := by
  have keeps : ∀ {piece written : Text}, Text.Unmarked piece → written ∈ unlessBlank piece →
      Text.Unmarked written := by
    intro piece written own found
    rwa [eq_of_mem_unlessBlank found]
  unfold splitOptions
  split
  · rename_i before options found
    split at found
    · obtain ⟨front, behind⟩ := unmarked_splitOptionsRule? unmarked_nil clean found
      refine ⟨fun written own => keeps (front.dropEndWhile _) own, fun own same => ?_⟩
      rwa [← Option.some.inj same]
    · simp at found
  · split
    · rename_i before after cut
      obtain ⟨front, behind⟩ := clean.splitLast? cut
      split
      · refine ⟨fun written own => keeps front own, fun own same => ?_⟩
        rw [← Option.some.inj same]
        exact behind.trim
      · refine ⟨fun own same => ?_, by simp⟩
        rwa [← Option.some.inj same]
    · refine ⟨fun own same => ?_, by simp⟩
      rwa [← Option.some.inj same]

/-- The trimmed parts of a text between bars. -/
theorem unmarked_segments (clean : Text.Unmarked text) : AllUnmarked (segments text) := by
  simp only [segments, allUnmarked_map]
  exact fun piece listed => (clean.splitOn piece listed).trim

/-- The options that a text declares hold none if it does not. -/
theorem unmarked_readOptions (clean : Text.Unmarked text) : (readOptions text).Unmarked := by
  have inner := clean.trim
  unfold readOptions
  split
  · trivial
  · rename_i c rest trimmed
    rw [trimmed] at inner
    have behind := (unmarked_cons.mp inner).2
    split
    · -- a reference, whose model and field are split at the first point
      have sides : Text.Unmarked ((splitFirst? '.' rest).getD (rest, defaultShown)).1 ∧
          Text.Unmarked ((splitFirst? '.' rest).getD (rest, defaultShown)).2 := by
        cases cut : splitFirst? '.' rest with
        | none => exact ⟨behind, unmarked_literal (.of rfl rfl)⟩
        | some sides => exact behind.splitFirst? cut
      simp only
      split
      · trivial
      · rename_i model found
        refine ⟨sides.1.nonBlank? found, ?_⟩
        cases kept : Text.nonBlank? ((splitFirst? '.' rest).getD (rest, defaultShown)).2 with
        | none => exact unmarked_literal (.of rfl rfl)
        | some shown => exact sides.2.nonBlank? kept
    · split
      · trivial
      · rename_i label labels found
        have all := (unmarked_segments inner).subset (List.filter_sublist (p := (!·.isEmpty))).subset
        rwa [found] at all

/-- A validation holds none if its rules do not. -/
theorem unmarked_validationOf {parts : List Text} (clean : AllUnmarked parts) :
    ∀ rules ∈ validationOf parts, Text.Unmarked rules := by
  intro rules found
  unfold validationOf at found
  split at found
  · simp at found
  · obtain rfl := Option.some.inj found
    exact (clean.subset List.filter_sublist.subset).joinWith (by unfold Text.Unmarked; decide)

/-- A declared field holds none if its token does not. -/
theorem ReadFrom.unmarked {field : Field} (read : ReadFrom token field)
    (clean : Text.Unmarked token) : field.Unmarked := by
  obtain ⟨parts, source, validation, options⟩ := read.rest
  have sides : (∀ written ∈ parts.1, Text.Unmarked written) ∧
      ∀ options ∈ parts.2, Text.Unmarked options := by
    rcases source with rfl | ⟨rest, part, rfl⟩
    · simp
    · exact unmarked_splitOptions field.kind (clean.subset part)
  refine ⟨clean.subset read.name, fun rules own => ?_, ?_⟩
  · obtain ⟨written, listed, made⟩ := validation rules own
    exact unmarked_validationOf (unmarked_segments (sides.1 written listed)) rules made
  · rcases options with none | ⟨-, written, listed, same⟩
    · rw [none]
      trivial
    · rw [same]
      exact unmarked_readOptions (sides.2 written listed)

/-- The tokens of a text hold none if it does not. -/
theorem unmarked_tokens (clean : Text.Unmarked text) : AllUnmarked (tokens text) :=
  fun _ member => clean.subset (subset_of_mem_tokens member)

/-- The fields that a text declares hold none if it does not. -/
theorem unmarked_readFields (clean : Text.Unmarked text) :
    ∀ field ∈ (readFields text).1, field.Unmarked := by
  intro field member
  obtain ⟨token, listed, read⟩ := exists_token_of_mem_readFields member
  exact read.unmarked (unmarked_tokens clean token listed)

/-- A declared relationship holds none if its token does not. -/
theorem unmarked_readRelationship {relationship : Relationship} {notes : List Diagnostic}
    (read : readRelationship token = (some relationship, notes)) (clean : Text.Unmarked token) :
    relationship.Unmarked := by
  have key : Text.Unmarked relationship.foreignKey := fun inside =>
    (mem_foreignKey read inside).elim (fun plain => absurd plain (by decide))
      fun there => clean there.1
  have parts : AllUnmarked ((Text.splitOn ':' (Text.trim token)).map Text.trim) := by
    simp only [allUnmarked_map]
    exact fun piece listed => (clean.trim.splitOn piece listed).trim
  unfold readRelationship at read
  simp only at read
  split at read
  · rename_i declared type target more pieces
    simp only [pieces, allUnmarked_cons] at parts
    have table : ∀ target, Text.Unmarked (Inflection.pluralize (Text.snakeCase target)) :=
      fun target => (Inflection.plain_pluralize (plain_snakeCase target)).unmarked
    split at read
    · simp at read
    · simp only [Prod.mk.injEq, Option.some.injEq] at read
      obtain ⟨rfl, -⟩ := read
      refine ⟨?_, parts.2.2.1, key, table target⟩
      cases cut : Text.splitFirst? cascadeMark declared with
      | none => exact parts.1
      | some sides => exact (parts.1.splitFirst? cut).1.trim
  · simp at read

/-- The relationships that a text declares hold none if it does not. -/
theorem unmarked_readRelationships (clean : Text.Unmarked text) :
    ∀ relationship ∈ (readRelationships text).1, relationship.Unmarked :=
  forall_mem_readRelationships
    (fun token listed _ _ read => unmarked_readRelationship read (unmarked_tokens clean token listed))
    fun _ own => ⟨own.name, own.target, own.foreignKey, own.targetTable⟩

/-- The projections that a text declares hold none if it does not. -/
theorem unmarked_readProjections {relationships : List Relationship} (clean : Text.Unmarked text) :
    ∀ projection ∈ (readProjections relationships text).1, projection.Unmarked := by
  intro projection member
  obtain ⟨token, listed, read⟩ := List.mem_filterMap.mp member
  obtain ⟨⟨relation, field⟩, cut, made⟩ := Option.bind_eq_some_iff.mp read
  obtain ⟨front, behind⟩ := (unmarked_tokens clean token listed).splitFirst? cut
  simp only [Option.ite_none_right_eq_some, Option.some.injEq] at made
  obtain ⟨-, rfl⟩ := made
  exact ⟨front.trim, behind.trim⟩

end Schema

end Scaffold
