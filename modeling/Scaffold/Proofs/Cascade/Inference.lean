import Scaffold.Cascade
import Scaffold.Proofs.Schema.Relations

/-!
# What is inferred

A dependency has one of two causes: its child names its parent, or its child names none and stands
right behind it (`Dependency.cause_of_mem_infer`). Both ends take part in cascades, whichever the
cause. A stricter mode allows fewer causes of the second kind and changes none of the first, so it
finds some of the dependencies of the others, in the same order and with the same cascades. Each
place of the list gives at most one dependency, whose child is the relationship at that place
(`Dependency.modes_ordered`). Relationships that a text declares are told apart by the keys that
they own, so there no relationship is its own parent (`Dependency.parent_ne_child`).
-/
namespace Scaffold.Dependency

variable {all : List Relationship} {model route : Text} {mode : InferenceMode}
  {previous : Option Relationship} {parent child : Relationship} {dependency : Dependency}

/-- A function that finds something where another one does, and the same there, finds at least as
much in a list, in the same order. -/
theorem filterMap_sublist {α β : Type} {few many : α → Option β} (values : List α)
    (found : ∀ value result, few value = some result → many value = some result) :
    (values.filterMap few).Sublist (values.filterMap many) := by
  induction values with
  | nil => exact List.Sublist.refl _
  | cons value rest ih =>
    cases here : few value with
    | some result =>
      rw [List.filterMap_cons_some here, List.filterMap_cons_some (found value result here)]
      exact ih.cons_cons result
    | none =>
      rw [List.filterMap_cons_none here]
      cases there : many value with
      | some result =>
        rw [List.filterMap_cons_some there]
        exact ih.cons result
      | none => rwa [List.filterMap_cons_none there]

/-- What a function finds for the values of a list belongs to some of them, in their order. -/
theorem map_filterMap_sublist {α β γ : Type} {find : α → Option β} {own : β → γ} {key : α → γ}
    (kept : ∀ value result, find value = some result → own result = key value) (values : List α) :
    ((values.filterMap find).map own).Sublist (values.map key) := by
  induction values with
  | nil => exact List.Sublist.refl _
  | cons value rest ih =>
    cases here : find value with
    | some result =>
      rw [List.filterMap_cons_some here, List.map_cons, List.map_cons, kept value result here]
      exact ih.cons_cons _
    | none =>
      rw [List.filterMap_cons_none here, List.map_cons]
      exact ih.cons _

/-- Why a relationship depends on another one. -/
inductive Cause (all : List Relationship) (parent child : Relationship) : Prop where
  /-- The child names the parent, which is the first relationship of that name. -/
  | marked (named : child.dependsOn = some parent.name) (listed : parent ∈ all)
  /-- The child names none and stands right behind the parent. -/
  | neighbour (unmarked : child.dependsOn = none) (before after : List Relationship)
      (adjacent : all = before ++ parent :: child :: after)

/-- A relationship stands in the list right behind the one before it. -/
theorem exists_split_of_mem_withPrevious (member : (some parent, child) ∈ withPrevious all) :
    ∃ before after, all = before ++ parent :: child :: after := by
  suffices general : ∀ first : Option Relationship,
      (some parent, child) ∈ (first :: all.map some).zip all →
        (first = some parent ∧ all.head? = some child) ∨
          ∃ before after, all = before ++ parent :: child :: after by
    rcases general none member with ⟨impossible, -⟩ | found
    · simp at impossible
    · exact found
  clear member
  induction all with
  | nil => simp
  | cons relationship rest ih =>
    intro first member
    rw [List.map_cons, List.zip_cons_cons, List.mem_cons] at member
    rcases member with here | later
    · obtain ⟨rfl, rfl⟩ := Prod.mk.inj here
      exact .inl ⟨rfl, rfl⟩
    · rcases ih (some relationship) later with ⟨same, next⟩ | ⟨before, after, rfl⟩
      · obtain rfl := Option.some.inj same
        obtain ⟨after, rfl⟩ := List.head?_eq_some_iff.mp next
        exact .inr ⟨[], after, rfl⟩
      · exact .inr ⟨relationship :: before, after, rfl⟩

/-- What is inferred at one place of the list, and from what. -/
theorem of?_eq_some_iff : of? all model route mode previous child = some dependency ↔
    eligible model child = true ∧ eligible model dependency.parent = true ∧
      parent? all mode previous child = some dependency.parent ∧ dependency.child = child ∧
        dependency.cascade = Cascade.between dependency.parent child route := by
  obtain ⟨parent, other, cascade⟩ := dependency
  simp only [of?, Option.ite_none_right_eq_some, Option.map_eq_some_iff, Option.filter_eq_some_iff,
    Dependency.mk.injEq]
  constructor
  · rintro ⟨takesPart, parent, ⟨found, too⟩, rfl, rfl, rfl⟩
    exact ⟨takesPart, too, found, rfl, rfl⟩
  · rintro ⟨takesPart, too, found, rfl, rfl⟩
    exact ⟨takesPart, parent, ⟨found, too⟩, rfl, rfl, rfl⟩

/-- A parent that is found has a cause. -/
theorem cause_of_parent? (here : (previous, child) ∈ withPrevious all)
    (found : parent? all mode previous child = some parent) : Cause all parent child := by
  have behind : child.dependsOn = none → previous = some parent → Cause all parent child := by
    rintro unmarked rfl
    obtain ⟨before, after, split⟩ := exists_split_of_mem_withPrevious here
    exact .neighbour unmarked before after split
  unfold parent? at found
  split at found
  · rename_i name marked
    have named := List.find?_some found
    rw [beq_iff_eq] at named
    exact .marked (by rw [marked, named]) (List.mem_of_find?_eq_some found)
  · rename_i unmarked
    cases mode with
    | explicit => simp at found
    | adjacent => exact behind unmarked found
    | containment => exact behind unmarked (Option.filter_eq_some_iff.mp found).1

/-- What a dependency is: both ends take part in cascades, it has its cause, and its cascade is the
one between them. -/
structure Inferred (all : List Relationship) (model route : Text) (dependency : Dependency) :
    Prop where
  /-- The parent takes part in cascades. -/
  parent : eligible model dependency.parent = true
  /-- So does the child. -/
  child : eligible model dependency.child = true
  /-- The child is one of the relationships. -/
  listed : dependency.child ∈ all
  /-- It depends on the parent for a reason. -/
  cause : Cause all dependency.parent dependency.child
  /-- The cascade is derived from both. -/
  cascade : dependency.cascade = Cascade.between dependency.parent dependency.child route

/-- All dependencies that are inferred are so. -/
theorem inferred_of_mem_infer (member : dependency ∈ infer all model route mode) :
    Inferred all model route dependency := by
  obtain ⟨⟨previous, child⟩, here, found⟩ := List.mem_filterMap.mp member
  obtain ⟨takesPart, too, origin, rfl, cascade⟩ := of?_eq_some_iff.mp found
  exact ⟨too, takesPart, (List.of_mem_zip here).2, cause_of_parent? here origin, cascade⟩

/-- A relationship that takes part in cascades owns its key and leads to another entity. -/
theorem eligible_iff : eligible model child = true ↔
    child.ownsForeignKey = true ∧ child.target ≠ model := by
  simp [eligible, Relationship.isSelfReference]

/-- Declared parents count in every mode, and nothing else does in the strictest. -/
theorem parent?_of_explicit (found : parent? all .explicit previous child = some parent) :
    parent? all mode previous child = some parent := by
  unfold parent? at found ⊢
  split at found
  · exact found
  · simp at found

/-- The mode that takes every neighbour finds the parent that any other mode finds. -/
theorem parent?_adjacent (found : parent? all mode previous child = some parent) :
    parent? all .adjacent previous child = some parent := by
  unfold parent? at found ⊢
  split at found
  · exact found
  · cases mode with
    | explicit => simp at found
    | adjacent => exact found
    | containment => exact (Option.filter_eq_some_iff.mp found).1

/-- Of two modes the one that finds fewer parents infers some of the dependencies of the other. -/
theorem infer_sublist {strict free : InferenceMode}
    (finds : ∀ previous child parent, parent? all strict previous child = some parent →
      parent? all free previous child = some parent) :
    (infer all model route strict).Sublist (infer all model route free) := by
  apply filterMap_sublist
  intro place dependency found
  obtain ⟨takesPart, too, origin, rest⟩ := of?_eq_some_iff.mp found
  exact of?_eq_some_iff.mpr ⟨takesPart, too, finds _ _ _ origin, rest⟩

/-- The children of the dependencies stand at different places of the list, in its order. -/
theorem children_sublist : ((infer all model route mode).map (·.child)).Sublist all := by
  have places : (withPrevious all).map (·.2) = all :=
    List.map_snd_zip (by simp)
  have sub := @map_filterMap_sublist _ _ _
    (fun place : Option Relationship × Relationship => of? all model route mode place.1 place.2)
    (·.child) (·.2) (fun _ _ found => (of?_eq_some_iff.mp found).2.2.2.1) (withPrevious all)
  rwa [places] at sub

/-- Of two neighbours that own keys, in a list where these are distinct, neither is found before the
other but in this order. -/
theorem idxOf_lt_of_adjacent {before after : List Relationship}
    (distinct : (Schema.ownedKeys (before ++ parent :: child :: after)).Nodup)
    (owns : child.ownsForeignKey = true) :
    (before ++ parent :: child :: after).idxOf parent <
      (before ++ parent :: child :: after).idxOf child := by
  have split : before ++ parent :: child :: after = (before ++ [parent]) ++ child :: after := by simp
  have fresh : child ∉ before ++ [parent] := by
    intro earlier
    rw [split, Schema.ownedKeys, List.filter_append, List.map_append, List.nodup_append] at distinct
    exact distinct.2.2 child.foreignKey (List.mem_map_of_mem (List.mem_filter.mpr ⟨earlier, owns⟩))
      child.foreignKey (List.mem_map_of_mem (List.mem_filter.mpr ⟨List.mem_cons_self, owns⟩)) rfl
  have early : (before ++ parent :: child :: after).idxOf parent ≤ before.length := by
    rw [List.idxOf_append]
    split
    · exact Nat.le_of_lt (List.idxOf_lt_length_of_mem (by assumption))
    · simp
  have late : (before ++ parent :: child :: after).idxOf child = before.length + 1 := by
    rw [split, List.idxOf_append, if_neg fresh]
    simp
  omega

/-- Relationships that are told apart by the keys they own, none of which names itself as its
parent. -/
structure Consistent (all : List Relationship) : Prop where
  /-- No key is owned twice. -/
  keys : (Schema.ownedKeys all).Nodup
  /-- A parent is another relationship. -/
  parents : ∀ relationship ∈ all, relationship.dependsOn ≠ some relationship.name

/-- The relationships that a text declares are consistent. -/
theorem consistent_readRelationships (text : Text) :
    Consistent (Schema.readRelationships text).1 :=
  ⟨Schema.nodup_readRelationships text, fun _ member same =>
    (Schema.dependsOn_of_mem_readRelationships member same).1 rfl⟩

/-- Among consistent relationships none is its own parent. -/
theorem parent_ne_child (consistent : Consistent all)
    (inferred : Inferred all model route dependency) : dependency.parent ≠ dependency.child := by
  intro same
  cases inferred.cause with
  | marked named _ =>
    rw [same] at named
    exact consistent.parents dependency.child inferred.listed named
  | neighbour _ before after adjacent =>
    have owns := (eligible_iff.mp inferred.child).1
    have earlier := idxOf_lt_of_adjacent (adjacent ▸ consistent.keys) owns
    rw [same] at earlier
    exact Nat.lt_irrefl _ earlier

/-- The modes are ordered, and what they infer is sound. Each mode finds the dependencies of a
stricter one among its own. The children stand at different places of the list, in its order. Both
ends of a dependency own a key and lead to another entity, and among the relationships that a text
declares they stand at different places. -/
theorem modes_ordered (all : List Relationship) (model route : Text) :
    (infer all model route .explicit).Sublist (infer all model route .containment) ∧
    (infer all model route .containment).Sublist (infer all model route .adjacent) ∧
    (∀ mode, ((infer all model route mode).map (·.child)).Sublist all ∧
      ∀ dependency ∈ infer all model route mode,
        (dependency.parent.ownsForeignKey = true ∧ dependency.parent.target ≠ model) ∧
        (dependency.child.ownsForeignKey = true ∧ dependency.child.target ≠ model)) ∧
    ∀ text mode, ∀ dependency ∈ infer (Schema.readRelationships text).1 model route mode,
      ∀ parentPlace childPlace : Nat,
        (Schema.readRelationships text).1[parentPlace]? = some dependency.parent →
        (Schema.readRelationships text).1[childPlace]? = some dependency.child →
        parentPlace ≠ childPlace := by
  refine ⟨infer_sublist fun _ _ _ => parent?_of_explicit, infer_sublist fun _ _ _ => parent?_adjacent,
    fun mode => ⟨children_sublist, fun dependency member => ?_⟩,
    fun text mode dependency member parentPlace childPlace atParent atChild same => ?_⟩
  · have inferred := inferred_of_mem_infer member
    exact ⟨eligible_iff.mp inferred.parent, eligible_iff.mp inferred.child⟩
  · rw [same] at atParent
    exact parent_ne_child (consistent_readRelationships text) (inferred_of_mem_infer member)
      (Option.some.inj (atParent.symm.trans atChild))

/-- Lemmata that follow schemata. -/
def schematicText : Text := "schema:belongsTo:Schema,lemma^schema:belongsTo:Lemma"

/-- The dependency of the lemma on its schema. -/
def lemmaOnSchema : Dependency :=
  let parent := Relationship.ofTarget "schema" .belongsTo "Schema"
  let child := { Relationship.ofTarget "lemma" .belongsTo "Lemma" with dependsOn := some "schema" }
  { parent, child, cascade := Cascade.between parent child "proofs" }

/-- Only the declared parent is found, and schema and lemma stand at different places. -/
theorem modes_ordered_lemmata :
    (lemmaOnSchema.parent.ownsForeignKey = true ∧ lemmaOnSchema.parent.target ≠ "Proof".toList) ∧
      (0 : Nat) ≠ 1 := by
  have ordered := modes_ordered (Schema.readRelationships schematicText).1 "Proof" "proofs"
  obtain ⟨member, first, second⟩ :
      lemmaOnSchema ∈
        infer (Schema.readRelationships schematicText).1 "Proof" "proofs" .explicit ∧
      (Schema.readRelationships schematicText).1[0]? = some lemmaOnSchema.parent ∧
      (Schema.readRelationships schematicText).1[1]? = some lemmaOnSchema.child := by
    unfold schematicText lemmaOnSchema
    simp (disch := exact rfl) only [Text.toList_literal, -String.reduceToList]
    decide +kernel
  exact ⟨((ordered.2.2.1 .explicit).2 lemmaOnSchema member).1,
    ordered.2.2.2 schematicText .explicit lemmaOnSchema member 0 1 first second⟩

end Scaffold.Dependency
