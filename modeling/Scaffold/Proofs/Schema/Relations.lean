import Mathlib.Data.List.Forall2
import Scaffold.Proofs.Schema.Acceptance
import Scaffold.Proofs.Schema.Accounting
import Scaffold.Proofs.Schema.Distinct

/-!
# What becomes of relationships and projections

Relationships are read in three steps. The tokens are accepted or not, one by one; of those that own
the same key column the first is kept; and each of the kept ones keeps its parent if that is another
kept one (`Schema.readRelationships_fst`). Projections are resolved against the result. Each entry of
a text that declares nothing is reported by a diagnostic of its own: the entries are as many as what
was read and these diagnostics together (`Schema.relations_accounted`).
-/
namespace Scaffold

open Text

/-- The diagnostic is about a key column that is already owned. -/
def DiagnosticKind.isDuplicateKey : DiagnosticKind → Bool
  | duplicateForeignKey _ => true
  | _ => false

namespace Schema

variable {relationship : Relationship} {known : List Relationship} {all : List Text}

/-- The key column that a relationship owns. -/
def ownedKey? (relationship : Relationship) : Option Text :=
  if relationship.ownsForeignKey then some relationship.foreignKey else none

/-- The owned keys are those of all relationships. -/
theorem ownedKeys_eq (relationships : List Relationship) :
    ownedKeys relationships = relationships.filterMap ownedKey? := by
  unfold ownedKeys
  induction relationships with
  | nil => rfl
  | cons first rest ih =>
    rw [List.filter_cons, List.filterMap_cons, ownedKey?]
    split
    · exact congrArg _ ih
    · exact ih

/-- A key column is taken if a relationship before owns it. -/
theorem taken_eq : (relationship.ownsForeignKey && known.any fun other =>
      other.ownsForeignKey && other.foreignKey == relationship.foreignKey) =
    (ownedKey? relationship).any (known.filterMap ownedKey?).contains := by
  have found : (known.any fun other =>
      other.ownsForeignKey && other.foreignKey == relationship.foreignKey) =
        (known.filterMap ownedKey?).contains relationship.foreignKey := by
    rw [Bool.eq_iff_iff, List.contains_iff_mem, ← ownedKeys_eq, ownedKeys, List.mem_map,
      List.any_eq_true]
    simp only [List.mem_filter, Bool.and_eq_true, beq_iff_eq, and_assoc]
  rw [ownedKey?, found]
  cases relationship.ownsForeignKey <;> rfl

/-- What the entries of a text declare one by one, in their order. -/
def declaredRelationships (text : Text) : List Relationship :=
  (tokens text).filterMap fun token => (readRelationship token).1

/-- Relationships are read by the keys that they own. -/
theorem readRelationshipsAfter_eq : readRelationshipsAfter known all =
    readAfter readRelationship ownedKey?
      (fun relationship => ⟨relationship.name, .duplicateForeignKey relationship.foreignKey⟩)
      known all := by
  induction all generalizing known with
  | nil => rfl
  | cons token rest ih =>
    unfold readRelationshipsAfter readAfter
    cases readRelationship token with
    | mk declared notes =>
      cases declared with
      | none => simp only [ih]
      | some relationship => simp only [taken_eq, ih]

/-- The relationship with its parent if that is another one of these names. -/
def withParentAmong (names : List Text) (relationship : Relationship) : Relationship :=
  { relationship with
    dependsOn := relationship.dependsOn.filter fun parent =>
      parent != relationship.name && names.contains parent }

/-- A parent is kept if it is another one of the names. -/
theorem keepParent_fst (names : List Text) (relationship : Relationship) :
    (keepParent names relationship).1 = withParentAmong names relationship := by
  obtain ⟨name, kind, target, foreignKey, targetTable, dependsOn⟩ := relationship
  cases dependsOn with
  | none => rfl
  | some parent =>
    cases known : (parent != name && names.contains parent) with
    | true => simp only [keepParent, withParentAmong, known, Option.filter_some, ↓reduceIte]
    | false =>
      simp only [keepParent, withParentAmong, known, Option.filter_some, Bool.false_eq_true,
        ↓reduceIte]

/-- The relationships that a text declares are the first owners of their keys, with the parents that
are among them. -/
theorem readRelationships_fst (text : Text) : (readRelationships text).1 =
    (firstByKey ownedKey? (declaredRelationships text)).map
      (withParentAmong ((readRelationships text).1.map (·.name))) := by
  have read : (readRelationshipsAfter [] (tokens text)).1 =
      firstByKey ownedKey? (declaredRelationships text) := by
    rw [readRelationshipsAfter_eq, readAfter_fst, List.nil_append]
    rfl
  have made : (readRelationships text).1 =
      (firstByKey ownedKey? (declaredRelationships text)).map
        (withParentAmong ((firstByKey ownedKey? (declaredRelationships text)).map (·.name))) := by
    rw [← read]
    simp only [readRelationships, List.map_map]
    exact List.map_congr_left fun relationship _ => keepParent_fst _ relationship
  have names : (readRelationships text).1.map (·.name) =
      (firstByKey ownedKey? (declaredRelationships text)).map (·.name) := by
    rw [made, List.map_map]
    rfl
  rw [names]
  exact made

/-- The parent that a declared relationship keeps is another declared one. -/
theorem dependsOn_of_mem_readRelationships {text parent : Text}
    (member : relationship ∈ (readRelationships text).1)
    (depends : relationship.dependsOn = some parent) :
    parent ≠ relationship.name ∧ ∃ other ∈ (readRelationships text).1, other.name = parent := by
  rw [readRelationships_fst] at member
  obtain ⟨original, -, rfl⟩ := List.mem_map.mp member
  obtain ⟨-, kept⟩ := Option.filter_eq_some_iff.mp depends
  simp only [Bool.and_eq_true, bne_iff_ne, List.contains_eq_mem, decide_eq_true_eq] at kept
  exact ⟨kept.1, List.mem_map.mp kept.2⟩

/-- The diagnostic is about a relationship that is not declared. -/
def isLoss (note : Diagnostic) : Bool :=
  note.kind == .malformedRelationship || note.kind.isDuplicateKey

/-- The relationships that are not declared are malformed or own a key that is taken. -/
theorem countP_isLoss (notes : List Diagnostic) : notes.countP isLoss =
    notes.countP (·.kind == .malformedRelationship) + notes.countP (·.kind.isDuplicateKey) := by
  refine countP_or (fun note malformed => ?_) notes
  rw [beq_iff_eq] at malformed
  rw [malformed]
  rfl

/-- A token declares a relationship or is lost once. -/
theorem lost_readRelationship (token : Text) :
    (readRelationship token).1.toList.length + (readRelationship token).2.countP isLoss = 1 := by
  rcases readRelationship_cases token with malformed | ⟨relationship, notes, read, -, said⟩
  · rw [malformed]
    rfl
  · rw [read]
    rcases said with rfl | ⟨type, rfl⟩ <;> rfl

/-- A parent that is forgotten is no loss of the relationship. -/
theorem lost_keepParent (names : List Text) (relationship : Relationship) :
    (keepParent names relationship).2.countP isLoss = 0 := by
  unfold keepParent
  split
  · rfl
  · split <;> rfl

/-- The entries of a text are its relationships and its losses. -/
theorem length_readRelationships (text : Text) : entryCount text =
    (readRelationships text).1.length + (readRelationships text).2.countP isLoss := by
  have kept : (tokens text).length = (readRelationshipsAfter [] (tokens text)).1.length +
      (readRelationshipsAfter [] (tokens text)).2.countP isLoss := by
    rw [readRelationshipsAfter_eq, ← length_readAfter lost_readRelationship fun _ => rfl,
      List.length_nil, Nat.zero_add]
  have parents : ∀ (names : List Text) (read : List Relationship),
      ((read.map (keepParent names)).flatMap (·.2)).countP isLoss = 0 := by
    intro names read
    refine List.countP_eq_zero.mpr fun note said => ?_
    obtain ⟨settled, made, said⟩ := List.mem_flatMap.mp said
    obtain ⟨relationship, -, rfl⟩ := List.mem_map.mp made
    exact List.countP_eq_zero.mp (lost_keepParent names relationship) note said
  simp only [readRelationships, List.length_map, List.countP_append, parents, Nat.add_zero]
  rw [← length_tokens]
  exact kept

/-- A token writes a projection: the relationship and the field around the first point, with blanks
around each. -/
def Writes (token : Text) (projection : Projection) : Prop :=
  ∃ before after, token = before ++ '.' :: after ∧ '.' ∉ before ∧
    projection = ⟨trim before, trim after⟩

/-- A projection is read from the token that writes it, and it is one of a declared relationship. -/
theorem writes_of_readProjection? {relationships : List Relationship} {token : Text}
    {projection : Projection} (read : readProjection? relationships token = some projection) :
    Writes token projection ∧ projection.field ≠ [] ∧
      ∃ relationship ∈ relationships, relationship.name = projection.relation := by
  obtain ⟨⟨before, after⟩, cut, made⟩ := Option.bind_eq_some_iff.mp read
  simp only [Option.ite_none_right_eq_some, Option.some.injEq, Bool.and_eq_true,
    Bool.not_eq_true', List.isEmpty_eq_false_iff, List.any_eq_true, beq_iff_eq] at made
  obtain ⟨⟨shown, declared⟩, rfl⟩ := made
  obtain ⟨split, absent⟩ := eq_of_splitFirst? cut
  exact ⟨⟨before, after, split, absent, rfl⟩, shown, declared⟩

/-- The projections of some of the tokens are read in the order of these. -/
theorem exists_tokens_of_filterMap (relationships : List Relationship) (all : List Text) :
    ∃ kept, kept.Sublist all ∧
      List.Forall₂ Writes kept (all.filterMap (readProjection? relationships)) := by
  induction all with
  | nil => exact ⟨[], List.Sublist.refl _, .nil⟩
  | cons token rest ih =>
    obtain ⟨kept, some, written⟩ := ih
    cases read : readProjection? relationships token with
    | none => exact ⟨kept, some.cons token, by rwa [List.filterMap_cons_none read]⟩
    | some projection =>
      refine ⟨token :: kept, some.cons_cons token, ?_⟩
      rw [List.filterMap_cons_some read]
      exact .cons (writes_of_readProjection? read).1 written

/-- Every token gives a projection or is reported as one that is not resolved. -/
theorem length_readProjections (relationships : List Relationship) (text : Text) :
    entryCount text = (readProjections relationships text).1.length +
      (readProjections relationships text).2.countP (·.kind == .unresolvedProjection) := by
  rw [← length_tokens]
  simp only [readProjections, List.countP_map]
  induction tokens text with
  | nil => rfl
  | cons token rest ih =>
    cases read : readProjection? relationships token with
    | none =>
      simp only [List.filterMap_cons_none read, List.filter_cons, read, Option.isNone_none,
        ↓reduceIte, List.countP_cons, List.length_cons] at ih ⊢
      simp only [Function.comp_apply, BEq.rfl, ↓reduceIte]
      omega
    | some projection =>
      simp only [List.filterMap_cons_some read, List.filter_cons, read, Option.isNone_some,
        Bool.false_eq_true, ↓reduceIte, List.length_cons] at ih ⊢
      omega

/-- Relationships and projections are consistent, and none is lost without a report. The
relationships that own keys own different ones; what is declared, in the order of the entries, is the
first of every key; a parent is another relationship that is declared; a projection is a field of a
declared relationship; and every entry is declared or reported as lost, once. -/
theorem relations_accounted (relationshipText projectionText : Text) :
    let relationships := (readRelationships relationshipText).1
    let projections := (readProjections relationships projectionText).1
    (ownedKeys relationships).Nodup ∧
    relationships = (firstByKey ownedKey? (declaredRelationships relationshipText)).map
      (withParentAmong (relationships.map (·.name))) ∧
    (∀ relationship ∈ relationships, ∀ parent ∈ relationship.dependsOn,
      parent ≠ relationship.name ∧ ∃ other ∈ relationships, other.name = parent) ∧
    (∀ projection ∈ projections, projection.field ≠ [] ∧
      ∃ relationship ∈ relationships, relationship.name = projection.relation) ∧
    (∃ kept, kept.Sublist (tokens projectionText) ∧ List.Forall₂ Writes kept projections) ∧
    entryCount relationshipText = relationships.length +
      (((readRelationships relationshipText).2.countP (·.kind == .malformedRelationship)) +
        (readRelationships relationshipText).2.countP (·.kind.isDuplicateKey)) ∧
    entryCount projectionText = projections.length +
      (readProjections relationships projectionText).2.countP (·.kind == .unresolvedProjection) := by
  refine ⟨nodup_readRelationships _, readRelationships_fst _, fun relationship member parent depends =>
    dependsOn_of_mem_readRelationships member depends, fun projection member => ?_,
    exists_tokens_of_filterMap _ _, ?_, length_readProjections _ _⟩
  · obtain ⟨token, -, read⟩ := List.mem_filterMap.mp member
    exact (writes_of_readProjection? read).2
  · rw [length_readRelationships, countP_isLoss]

/-- Relationships of which one is declared twice and one is malformed. -/
def schematicRelations : Text :=
  "schema:belongsTo:Schema,lemma^schema:belongsTo:Lemma,proof:belongsTo:Proof:lemma_id,axe:hasMany"

/-- The lemma depends on the schema, its title is shown, and two of the four entries are lost. -/
theorem relations_accounted_lemmas :
    (∃ schema ∈ (readRelationships schematicRelations).1, schema.name = "schema".toList) ∧
    (∃ shown ∈ (readRelationships schematicRelations).1, shown.name = "lemma".toList) ∧
    entryCount schematicRelations = 2 + (1 + 1) := by
  have accounted := relations_accounted schematicRelations "lemma.title,gap.title"
  obtain ⟨child, projection, lost⟩ :
      { Relationship.ofTarget "lemma" .belongsTo "Lemma" with dependsOn := some "schema" } ∈
        (readRelationships schematicRelations).1 ∧
      ⟨"lemma", "title"⟩ ∈ (readProjections (readRelationships schematicRelations).1
        "lemma.title,gap.title").1 ∧
      (readRelationships schematicRelations).1.length +
        (((readRelationships schematicRelations).2.countP (·.kind == .malformedRelationship)) +
          (readRelationships schematicRelations).2.countP (·.kind.isDuplicateKey)) =
        2 + (1 + 1) := by
    unfold schematicRelations
    simp (disch := exact rfl) only [Text.toList_literal, -String.reduceToList]
    decide +kernel
  have parent := accounted.2.2.1 _ child "schema" rfl
  have shown := accounted.2.2.2.1 _ projection
  exact ⟨parent.2, shown.2, accounted.2.2.2.2.2.1.trans lost⟩

end Schema

end Scaffold
