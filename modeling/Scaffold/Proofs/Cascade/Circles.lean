import Mathlib.Data.Fintype.EquivFin
import Mathlib.Data.Fintype.Sets
import Mathlib.Data.List.Nodup
import Scaffold.Plan.Build
import Scaffold.Proofs.Cascade.Inference

/-!
# Circles of cascades

A choice that waits for another one must not make that one wait in turn. A neighbour that is found
as a parent stands before its child, so on the way from a child to its parents the place in the list
decreases, but where a relationship names a parent that is declared behind it. Every circle leads
through such a mark (`Dependency.inCircle_iff`), and a mark that points forward makes a circle only
if its parent depends, over others or directly, on the relationship that it is on. Where no cascade
runs in a circle, following parents ends at a relationship that is chosen first, and nowhere else
(`Dependency.circleFree_iff`).
-/
namespace Scaffold.Dependency

open Relation

variable {all : List Relationship} {model route : Text} {mode : InferenceMode}
  {dependencies : List Dependency} {dependency : Dependency}
  {parent child relationship : Relationship}

/-- The choice of the child waits for the choice of the parent. -/
def Narrows (dependencies : List Dependency) (parent child : Relationship) : Prop :=
  ∃ dependency ∈ dependencies, dependency.parent = parent ∧ dependency.child = child

/-- Following parents from the relationship leads back to it. -/
def InCircle (dependencies : List Dependency) (relationship : Relationship) : Prop :=
  TransGen (Narrows dependencies) relationship relationship

/-- The child names the parent, and the parent is declared behind it. -/
def PointsForward (all : List Relationship) (dependency : Dependency) : Prop :=
  dependency.child.dependsOn = some dependency.parent.name ∧
    all.idxOf dependency.child < all.idxOf dependency.parent

/-- Whether a mark points forward can be computed. -/
instance decidablePointsForward (all : List Relationship) (dependency : Dependency) :
    Decidable (PointsForward all dependency) :=
  inferInstanceAs (Decidable (_ ∧ _))

/-- The relationship waits for no other one. -/
def IsFirst (dependencies : List Dependency) (relationship : Relationship) : Prop :=
  ∀ dependency ∈ dependencies, dependency.child ≠ relationship

/-- A parent is one of the relationships. -/
theorem Inferred.parent_mem (inferred : Inferred all model route dependency) :
    dependency.parent ∈ all := by
  cases inferred.cause with
  | marked _ listed => exact listed
  | neighbour _ before after adjacent =>
    rw [adjacent]
    simp

/-- A parent is declared before its child unless the child names it and points forward. -/
theorem Inferred.idxOf_lt (inferred : Inferred all model route dependency)
    (consistent : Consistent all) (backward : ¬PointsForward all dependency) :
    all.idxOf dependency.parent < all.idxOf dependency.child := by
  cases inferred.cause with
  | marked named listed =>
    have apart : all.idxOf dependency.parent ≠ all.idxOf dependency.child := fun same =>
      parent_ne_child consistent inferred ((List.idxOf_inj listed).mp same)
    have behind : ¬all.idxOf dependency.child < all.idxOf dependency.parent :=
      fun forward => backward ⟨named, forward⟩
    omega
  | neighbour _ before after adjacent =>
    rw [adjacent]
    exact idxOf_lt_of_adjacent (adjacent ▸ consistent.keys) (eligible_iff.mp inferred.child).1

/-- The way from an ancestor to a relationship leads through a mark that points forward, or the
ancestor is declared before. -/
theorem forward_or_idxOf_lt (consistent : Consistent all)
    (inferred : ∀ dependency ∈ dependencies, Inferred all model route dependency)
    (way : TransGen (Narrows dependencies) parent child) :
    (∃ dependency ∈ dependencies, PointsForward all dependency ∧
      ReflTransGen (Narrows dependencies) parent dependency.parent ∧
      ReflTransGen (Narrows dependencies) dependency.child child) ∨
    all.idxOf parent < all.idxOf child := by
  -- One step either is such a mark or leads to a later place.
  have step : ∀ {before after}, Narrows dependencies before after →
      (∃ dependency ∈ dependencies, PointsForward all dependency ∧ dependency.parent = before ∧
        dependency.child = after) ∨ all.idxOf before < all.idxOf after := by
    rintro before after ⟨dependency, member, rfl, rfl⟩
    by_cases forward : PointsForward all dependency
    · exact .inl ⟨dependency, member, forward, rfl, rfl⟩
    · exact .inr ((inferred dependency member).idxOf_lt consistent forward)
  induction way with
  | single narrows =>
    rcases step narrows with ⟨dependency, member, forward, rfl, rfl⟩ | later
    · exact .inl ⟨dependency, member, forward, .refl, .refl⟩
    · exact .inr later
  | tail earlier narrows ih =>
    rcases ih with ⟨dependency, member, forward, above, below⟩ | before
    · exact .inl ⟨dependency, member, forward, above, below.tail narrows⟩
    · rcases step narrows with ⟨dependency, member, forward, rfl, rfl⟩ | later
      · exact .inl ⟨dependency, member, forward, earlier.to_reflTransGen, .refl⟩
      · exact .inr (before.trans later)

/-- A relationship is in a circle exactly if a mark that points forward is on the way from it back to
it. -/
theorem inCircle_iff (consistent : Consistent all)
    (inferred : ∀ dependency ∈ dependencies, Inferred all model route dependency) :
    InCircle dependencies relationship ↔
      ∃ dependency ∈ dependencies, PointsForward all dependency ∧
        ReflTransGen (Narrows dependencies) relationship dependency.parent ∧
        ReflTransGen (Narrows dependencies) dependency.child relationship := by
  constructor
  · intro circle
    rcases forward_or_idxOf_lt consistent inferred circle with through | earlier
    · exact through
    · exact absurd earlier (Nat.lt_irrefl _)
  · rintro ⟨dependency, member, -, above, below⟩
    exact (TransGen.tail' above ⟨dependency, member, rfl, rfl⟩).trans_left below

/-- A relationship depends on one other at most. -/
theorem parent_unique (consistent : Consistent all) {first second : Relationship}
    (one : Narrows (infer all model route mode) first child)
    (other : Narrows (infer all model route mode) second child) : first = second := by
  obtain ⟨dependency, member, rfl, rfl⟩ := one
  obtain ⟨another, also, rfl, same⟩ := other
  have owned : ((infer all model route mode).map (·.child)).filter (·.ownsForeignKey) =
      (infer all model route mode).map (·.child) := by
    refine List.filter_eq_self.mpr fun child listed => ?_
    obtain ⟨dependency, member, rfl⟩ := List.mem_map.mp listed
    exact (eligible_iff.mp (inferred_of_mem_infer member).child).1
  have distinct : ((infer all model route mode).map (·.child)).Nodup := by
    rw [← owned]
    exact (List.Nodup.of_map _ consistent.keys).sublist (children_sublist.filter _)
  rw [List.inj_on_of_nodup_map distinct member also same.symm]

/-- What is above a relationship in a circle is in a circle as well, for it has one parent only. -/
theorem inCircle_of_above (consistent : Consistent all) {above : Relationship}
    (circle : InCircle (infer all model route mode) relationship)
    (way : ReflTransGen (Narrows (infer all model route mode)) above relationship) :
    InCircle (infer all model route mode) above := by
  induction way using ReflTransGen.head_induction_on with
  | refl => exact circle
  | head narrows _ ih =>
    obtain ⟨last, back, closing⟩ := TransGen.tail'_iff.mp ih
    rw [parent_unique consistent closing narrows] at back
    exact TransGen.head' narrows back

/-- No cascade runs in a circle exactly if following parents from any relationship ends at one that
waits for none. -/
theorem circleFree_iff (consistent : Consistent all) :
    (∀ relationship, ¬InCircle (infer all model route mode) relationship) ↔
      ∀ relationship, ∃ first, IsFirst (infer all model route mode) first ∧
        ReflTransGen (Narrows (infer all model route mode)) first relationship := by
  constructor
  · intro free
    -- Ancestry among the finitely many relationships is transitive and leads to none from itself.
    let above : {listed // listed ∈ all} → {listed // listed ∈ all} → Prop :=
      fun one other => TransGen (Narrows (infer all model route mode)) one.1 other.1
    have transitive : IsTrans _ above := ⟨fun _ _ _ => TransGen.trans⟩
    have irreflexive : Std.Irrefl above := ⟨fun listed => free listed.1⟩
    have founded : WellFounded above := Finite.wellFounded_of_trans_of_irrefl above
    have listed : ∀ relationship : {listed // listed ∈ all}, ∃ first,
        IsFirst (infer all model route mode) first ∧
          ReflTransGen (Narrows (infer all model route mode)) first relationship.1 := by
      intro relationship
      induction relationship using founded.induction with
      | _ relationship ih =>
        by_cases first : IsFirst (infer all model route mode) relationship.1
        · exact ⟨relationship.1, first, .refl⟩
        · obtain ⟨dependency, member, same⟩ : ∃ dependency ∈ infer all model route mode,
              dependency.child = relationship.1 := by
            simpa [IsFirst] using first
          have narrows : Narrows (infer all model route mode) dependency.parent relationship.1 :=
            ⟨dependency, member, rfl, same⟩
          have own := (inferred_of_mem_infer member).parent_mem
          obtain ⟨root, rooted, way⟩ := ih ⟨dependency.parent, own⟩ (.single narrows)
          exact ⟨root, rooted, way.tail narrows⟩
    intro relationship
    by_cases own : relationship ∈ all
    · exact listed ⟨relationship, own⟩
    · refine ⟨relationship, fun dependency member same => own ?_, .refl⟩
      exact same ▸ (inferred_of_mem_infer member).listed
  · intro rooted relationship circle
    obtain ⟨first, alone, way⟩ := rooted relationship
    obtain ⟨last, -, dependency, member, -, same⟩ :=
      TransGen.tail'_iff.mp (inCircle_of_above consistent circle way)
    exact alone dependency member same

end Scaffold.Dependency

namespace Scaffold.Plan

open Dependency Relation

/-- The dependencies of a plan run in a circle only through marks that point forward. A relationship
is in a circle exactly if following parents from it leads back to it through a relationship that
names one declared behind it; and none is exactly if following parents from any relationship ends at
one that waits for no other. -/
theorem circles_point_forward (options : Options) :
    (∀ relationship, InCircle (ofOptions options).dependencies relationship ↔
      ∃ dependency ∈ (ofOptions options).dependencies,
        PointsForward (ofOptions options).relationships dependency ∧
        ReflTransGen (Narrows (ofOptions options).dependencies) relationship dependency.parent ∧
        ReflTransGen (Narrows (ofOptions options).dependencies) dependency.child relationship) ∧
    ((∀ relationship, ¬InCircle (ofOptions options).dependencies relationship) ↔
      ∀ relationship, ∃ first, IsFirst (ofOptions options).dependencies first ∧
        ReflTransGen (Narrows (ofOptions options).dependencies) first relationship) :=
  have consistent := consistent_readRelationships options.relationships
  ⟨fun _ => Dependency.inCircle_iff consistent fun _ member => inferred_of_mem_infer member,
    Dependency.circleFree_iff consistent⟩

/-- Lemmata that follow schemata, in an outline. -/
def schematicOutline : Options := { displayName := "Proof", relationships := schematicText }

/-- The mark on the lemma points backward, so following parents ends. -/
theorem circles_point_forward_outline :
    ∀ relationship, ∃ first, IsFirst (ofOptions schematicOutline).dependencies first ∧
      ReflTransGen (Narrows (ofOptions schematicOutline).dependencies) first relationship := by
  have backward : ∀ dependency ∈ (ofOptions schematicOutline).dependencies,
      ¬PointsForward (ofOptions schematicOutline).relationships dependency := by
    unfold schematicOutline schematicText
    simp (disch := exact rfl) only [Text.toList_literal, -String.reduceToList]
    decide +kernel
  refine (circles_point_forward schematicOutline).2.mp fun relationship circle => ?_
  obtain ⟨dependency, member, forward, -⟩ :=
    ((circles_point_forward schematicOutline).1 relationship).mp circle
  exact backward dependency member forward

/-- Lemmata and proofs, each of which names the other as its parent. -/
def mutualOutline : Options :=
  { displayName := "Axe", relationships := "lemma^proof:belongsTo:Lemma,proof^lemma:belongsTo:Proof" }

/-- The lemma and the proof run in a circle, and neither can be chosen first. -/
theorem circle_of_two : ¬∀ options relationship,
    ¬InCircle (ofOptions options).dependencies relationship := by
  intro free
  let proof := { Relationship.ofTarget "proof" .belongsTo "Proof" with dependsOn := some "lemma" }
  let lemmaOf := { Relationship.ofTarget "lemma" .belongsTo "Lemma" with dependsOn := some "proof" }
  obtain ⟨proofFirst, lemmaFirst⟩ :
      ⟨proof, lemmaOf, Cascade.between proof lemmaOf "axes"⟩ ∈
        (ofOptions mutualOutline).dependencies ∧
      ⟨lemmaOf, proof, Cascade.between lemmaOf proof "axes"⟩ ∈
        (ofOptions mutualOutline).dependencies := by
    unfold mutualOutline
    simp (disch := exact rfl) only [Text.toList_literal, -String.reduceToList]
    decide +kernel
  have first : Narrows (ofOptions mutualOutline).dependencies proof lemmaOf :=
    ⟨_, proofFirst, rfl, rfl⟩
  have second : Narrows (ofOptions mutualOutline).dependencies lemmaOf proof :=
    ⟨_, lemmaFirst, rfl, rfl⟩
  exact free mutualOutline proof (.tail (.single first) second)

end Scaffold.Plan
