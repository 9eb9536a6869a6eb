import Scaffold.Proofs.Artifact.Cascade
import Scaffold.Proofs.Casing
import Scaffold.Proofs.Page.Constants
import Scaffold.Proofs.Registry.Modules

/-!
# The names of cascades

A cascade is named after the target of its child, in the plural, and the target of its parent
(`Dependency.children`, `Dependency.owner`), and not after the relationships. The variable of its
list does not name the owner, so no two dependencies of one plan may have children of one entity.
The method of the controller has the word `By` between the two names and nothing else, so that two
pairs of names can make one method (`Dependency.ReadsAs`). Nothing else is lost: the method is read
back from the name of the route, so that distinct methods have distinct routes
(`Cascade.endpoint_eq`). Names are distinct exactly where the dependencies are apart in these two ways
(`Plan.Derived.cascadesDiffer_iff`). Whether the controller, the forms and the routes tell the
cascades apart follows from the names alone (`Plan.cascades_named_apart`).
-/
namespace Scaffold

open Text Code

namespace Text

/-- If one of two pairs that make the same text has the shorter beginning, the pairs are the same or
the separator of the first one stands in the beginning of the second one. -/
theorem readsAs_of_append_by {first second other another : Text}
    (same : first ++ "By" ++ second = other ++ "By" ++ another)
    (shorter : first.length ≤ other.length) : (first = other ∧ second = another) ∨
      ∃ words, other = first ++ "By" ++ words ∧ second = words ++ "By" ++ another := by
  obtain ⟨behind, rfl⟩ : first <+: other :=
    List.prefix_of_prefix_length_le ((List.prefix_append first _).trans (List.prefix_append _ _))
      (same ▸ (List.prefix_append other _).trans (List.prefix_append _ _)) shorter
  rw [List.append_assoc, List.append_assoc, List.append_assoc] at same
  have rest : 'B' :: 'y' :: second = behind ++ 'B' :: 'y' :: another := List.append_cancel_left same
  match behind, rest with
  | [], rest =>
    have tails := (List.cons.inj (List.cons.inj rest).2).2
    exact .inl ⟨(List.append_nil first).symm, tails⟩
  | [c], rest =>
    -- The separator does not overlap itself.
    have letters := (List.cons.inj (List.cons.inj rest).2).1
    exact absurd letters (by decide)
  | c :: d :: words, rest =>
    obtain ⟨one, behind⟩ := List.cons.inj rest
    obtain ⟨two, tails⟩ := List.cons.inj behind
    rw [← one, ← two]
    refine .inr ⟨words, ?_, ?_⟩
    · rw [List.append_assoc]
      rfl
    · rw [tails, List.append_assoc]
      rfl

/-- Two pairs make the same text if they are the same or the separator of one of them stands in the
other one. -/
theorem append_by_eq_iff {first second other another : Text} :
    first ++ "By" ++ second = other ++ "By" ++ another ↔
      (first = other ∧ second = another) ∨
      (∃ words, other = first ++ "By" ++ words ∧ second = words ++ "By" ++ another) ∨
      ∃ words, first = other ++ "By" ++ words ∧ another = words ++ "By" ++ second := by
  constructor
  · intro same
    rcases Nat.le_total first.length other.length with shorter | longer
    · exact (readsAs_of_append_by same shorter).imp_right .inl
    · rcases readsAs_of_append_by same.symm longer with ⟨rfl, rfl⟩ | reads
      · exact .inl ⟨rfl, rfl⟩
      · exact .inr (.inr reads)
  · rintro (⟨rfl, rfl⟩ | ⟨words, rfl, rfl⟩ | ⟨words, rfl, rfl⟩)
    · rfl
    · simp only [List.append_assoc]
    · simp only [List.append_assoc]

end Text

/-- Distinct elements all occur for the first time. -/
theorem firstOccurrences_of_nodup {α : Type} [DecidableEq α] {values : List α}
    (distinct : values.Nodup) : firstOccurrences values = values := by
  induction values with
  | nil => rfl
  | cons value rest ih =>
    obtain ⟨absent, others⟩ := List.nodup_cons.mp distinct
    rw [firstOccurrences, ih others, List.filter_eq_self.mpr]
    intro other member
    exact decide_eq_true fun same => absent (same ▸ member)

/-- All entries are first ones exactly if their keys are distinct. -/
theorem Entry.firsts_eq_self_iff {entries : List Entry} :
    Entry.firsts entries = entries ↔ (entries.map (·.key)).Nodup := by
  have keys := Entry.map_key_firsts entries
  constructor
  · intro same
    rw [same] at keys
    rw [keys]
    exact nodup_firstOccurrences _
  · intro distinct
    rw [firstOccurrences_of_nodup distinct] at keys
    have length := congrArg List.length keys
    rw [List.length_map, List.length_map] at length
    exact (Entry.firsts_sublist entries).eq_of_length length

namespace Cascade

/-- The method of a cascade is read back from its words in the route. -/
theorem endpoint_eq (parent child : Relationship) (route : Text) :
    (between parent child route).endpoint = "get" ++ camelOfKebab (segment parent child) := by
  have children := isLower_snakeCase child.target
  have hyphens : ("-by-" : Text) = '-' :: ("by" ++ ['-']) := by decide
  have by' : camelOfKebab "by" = "By" := by decide
  have words : camelOfKebab (segment parent child) =
      upperCamelCase (Inflection.pluralize (snakeCase child.target)) ++ ("By" ++
        upperCamelCase (snakeCase parent.target)) := by
    rw [segment, hyphens, List.append_assoc, List.cons_append, List.append_assoc,
      List.singleton_append, camelOfKebab_append, camelOfKebab_append, by',
      camelOfKebab_kebabCase (Inflection.isLower_pluralize children),
      camelOfKebab_kebabCase (isLower_snakeCase parent.target)]
  rw [words, between]
  simp only [List.append_assoc]

end Cascade

namespace Dependency

/-- The name of the children in a cascade. -/
def children (dependency : Dependency) : Text :=
  Inflection.pluralize (snakeCase dependency.child.target)

/-- The name of the owner in a cascade. -/
def owner (dependency : Dependency) : Text := snakeCase dependency.parent.target

/-- The method of the first cascade is also read as that of the second one: the word between the
names stands in the children of the second one and in the owner of the first one too. -/
def ReadsAs (first second : Dependency) : Prop :=
  ∃ words, upperCamelCase second.children = upperCamelCase first.children ++ "By" ++ words ∧
    upperCamelCase first.owner = words ++ "By" ++ upperCamelCase second.owner

/-- The cascades of two dependencies are told apart by the targets of the relationships. -/
structure Apart (first second : Dependency) : Prop where
  /-- The lists of children have different names. -/
  lists : lowerCamelCase first.children ≠ lowerCamelCase second.children
  /-- They are not classes of one name that belong to owners of one name. -/
  classes : upperCamelCase first.children = upperCamelCase second.children →
    upperCamelCase first.owner ≠ upperCamelCase second.owner
  /-- The first method is not read as the second one. -/
  forth : ¬first.ReadsAs second
  /-- The second one is not read as the first one. -/
  back : ¬second.ReadsAs first

end Dependency

namespace Plan

variable {plan : Plan} {first second : Dependency}

namespace Derived

/-- The variable of a list is the name of the children. -/
theorem state (derived : plan.Derived) {dependency : Dependency}
    (member : dependency ∈ plan.dependencies) :
    dependency.cascade.state = lowerCamelCase dependency.children := by
  rw [derived.cascades dependency member]
  rfl

/-- The method has both names. -/
theorem endpoint (derived : plan.Derived) {dependency : Dependency}
    (member : dependency ∈ plan.dependencies) :
    dependency.cascade.endpoint = "get" ++ (upperCamelCase dependency.children ++ "By" ++
      upperCamelCase dependency.owner) := by
  rw [derived.cascades dependency member]
  unfold Cascade.between
  simp only [Dependency.children, Dependency.owner, List.append_assoc]

/-- Methods are the same if their names are or if one is read as the other one. -/
theorem endpoint_eq_iff (derived : plan.Derived) (one : first ∈ plan.dependencies)
    (other : second ∈ plan.dependencies) :
    first.cascade.endpoint = second.cascade.endpoint ↔
      (upperCamelCase first.children = upperCamelCase second.children ∧
        upperCamelCase first.owner = upperCamelCase second.owner) ∨
      first.ReadsAs second ∨ second.ReadsAs first := by
  rw [derived.endpoint one, derived.endpoint other, List.append_right_inj]
  exact append_by_eq_iff

/-- Routes of one name lead to one method. -/
theorem endpoint_eq_of_routeName (derived : plan.Derived) (one : first ∈ plan.dependencies)
    (other : second ∈ plan.dependencies)
    (same : first.cascade.routeName = second.cascade.routeName) :
    first.cascade.endpoint = second.cascade.endpoint := by
  rw [derived.cascades first one, derived.cascades second other] at same ⊢
  rw [Cascade.endpoint_eq, Cascade.endpoint_eq, Cascade.segment_eq_of_routeName same]

end Derived

/-- The cascades of a plan have distinct names. -/
@[mk_iff]
structure CascadesDiffer (plan : Plan) : Prop where
  /-- Methods of the controller. -/
  endpoints : (plan.dependencies.map (·.cascade.endpoint)).Nodup
  /-- Variables of the forms. -/
  states : (plan.dependencies.map (·.cascade.state)).Nodup
  /-- Names of routes. -/
  routeNames : (plan.dependencies.map (·.cascade.routeName)).Nodup

instance : Decidable plan.CascadesDiffer := decidable_of_iff' _ (cascadesDiffer_iff plan)

/-- The cascades of a plan have distinct names exactly if its dependencies are apart. -/
theorem Derived.cascadesDiffer_iff (derived : plan.Derived) :
    plan.CascadesDiffer ↔ plan.dependencies.Pairwise Dependency.Apart := by
  constructor
  · rintro ⟨endpoints, states, -⟩
    rw [List.Nodup, List.pairwise_map] at endpoints states
    refine (endpoints.and states).imp_of_mem fun {first second} one other apart => ?_
    have methods := fun same => apart.1 ((derived.endpoint_eq_iff one other).mpr same)
    refine ⟨fun same => apart.2 ?_, fun children owner => methods (.inl ⟨children, owner⟩),
      fun reads => methods (.inr (.inl reads)), fun reads => methods (.inr (.inr reads))⟩
    rw [derived.state one, derived.state other, same]
  · intro apart
    have endpoints : plan.dependencies.Pairwise fun first second =>
        first.cascade.endpoint ≠ second.cascade.endpoint := by
      refine apart.imp_of_mem fun {first second} one other apart same => ?_
      rcases (derived.endpoint_eq_iff one other).mp same with ⟨children, owner⟩ | reads | reads
      · exact apart.classes children owner
      · exact apart.forth reads
      · exact apart.back reads
    refine ⟨List.pairwise_map.mpr endpoints, List.pairwise_map.mpr ?_, List.pairwise_map.mpr ?_⟩
    · refine apart.imp_of_mem fun {first second} one other apart same => apart.lists ?_
      rwa [derived.state one, derived.state other] at same
    · exact endpoints.imp_of_mem fun one other differ same =>
        differ (derived.endpoint_eq_of_routeName one other same)

/-- The keys of the routes are distinct exactly if the names of the cascades are. -/
theorem Derived.nodup_routeKeys_iff (derived : plan.Derived) (layout : Layout) :
    (((plan.routeEntries layout).map (·.entry)).map (·.key)).Nodup ↔
      (plan.dependencies.map (·.cascade.routeName)).Nodup := by
  have keys : ((plan.routeEntries layout).map (·.entry)).map (·.key) =
      plan.names.route :: plan.dependencies.map (·.cascade.routeName) := by
    rw [routeEntries, List.map_cons, List.map_cons, List.map_map, List.map_map]
    rfl
  rw [keys, List.nodup_cons, and_iff_right_iff_imp]
  intro _ inside
  obtain ⟨dependency, member, same⟩ := List.mem_map.mp inside
  exact derived.routeName_ne member derived same

/-- In a text without markers that holds none of them and in which the anchor is found, the routes of
a plan gather in one region. These are all its routes exactly if the names of the cascades are
distinct. -/
theorem Derived.routes_gather (derived : plan.Derived) {layout : Layout} {text : Text}
    (unmarked : ∀ line ∈ Text.lines text, Marker.isMarker line = false)
    (found : ∃ site, Anchor.routes.locate text = .ok (some site))
    (absent : ∀ registration ∈ plan.routeEntries layout,
      registration.entry.presence.foundIn text = false) :
    ∃ entries, SharedFile.Gathers layout.routes text "routes" .routes (plan.routeEntries layout)
        entries ∧
      (entries = (plan.routeEntries layout).map (·.entry) ↔
        (plan.dependencies.map (·.cascade.routeName)).Nodup) := by
  have filled : text ≠ [] := by
    rintro rfl
    obtain ⟨site, found⟩ := found
    rw [Anchor.locate_nil.1] at found
    exact absurd found (by simp)
  have family := @family_routes [plan] (fun other only => List.mem_singleton.mp only ▸ derived)
    layout
  rw [List.flatMap_singleton] at family
  have plain : ∀ registration ∈ plan.routeEntries layout, registration.entry.Plain := by
    intro registration member
    rcases List.mem_cons.mp member with rfl | inside
    · exact derived.plain_resourceRoute
    · obtain ⟨dependency, listed, rfl⟩ := List.mem_map.mp inside
      exact derived.plain_cascadeRoute listed
  have gathers := @SharedFile.gathers_of_family layout.routes _ _ _ _ family plain unmarked absent filled
    (Anchor.routes_saved found)
  exact ⟨_, gathers, Entry.firsts_eq_self_iff.trans (derived.nodup_routeKeys_iff layout)⟩

/-- For every plan that is made from options, the cascades have distinct names exactly if the
dependencies are apart. If the names of the plan are legible, the rendered controller declares its
methods, which are distinct exactly if those of the cascades are, and each form declares its
constants in front of its markup, which are distinct exactly if the lists and the functions that set
them are distinct and no other constants. In a text without markers that holds none of them and in
which the anchor is found, the routes gather in one region. These are all routes of the plan exactly
if those of the cascades have distinct names. -/
theorem cascades_named_apart (options : Options) (layout : Layout) :
    ((ofOptions options).CascadesDiffer ↔
      (ofOptions options).dependencies.Pairwise Dependency.Apart) ∧
    ((ofOptions options).Legible →
      (methods.declared (Artifact.controller.content (ofOptions options) Stub.controller) =
          (ofOptions options).controllerMethods ∧
        ((ofOptions options).controllerMethods.Nodup ↔
          ((ofOptions options).dependencies.map (·.cascade.endpoint)).Nodup)) ∧
      ∀ artifact : Artifact, artifact = .createPage ∨ artifact = .editPage → ∃ front markup,
        artifact.content (ofOptions options) (Stub.ofArtifact artifact) = front ++ markup ∧
        "    return (\n".toList <+: markup ∧
        constants.declared front =
          (ofOptions options).formConstants (artifact.formPurpose (ofOptions options)) ∧
        (((ofOptions options).formConstants (artifact.formPurpose (ofOptions options))).Nodup ↔
          (ofOptions options).ConstantsApart (artifact.formPurpose (ofOptions options)))) ∧
    ∀ text, (∀ line ∈ Text.lines text, Marker.isMarker line = false) →
      (∃ site, Anchor.routes.locate text = .ok (some site)) →
      (∀ registration ∈ (ofOptions options).routeEntries layout,
        registration.entry.presence.foundIn text = false) →
      ∃ entries, SharedFile.Gathers layout.routes text "routes" .routes
          ((ofOptions options).routeEntries layout) entries ∧
        (entries = ((ofOptions options).routeEntries layout).map (·.entry) ↔
          ((ofOptions options).dependencies.map (·.cascade.routeName)).Nodup) := by
  have derived := derived_ofOptions options
  have sourced := sourced_ofOptions options
  refine ⟨derived.cascadesDiffer_iff, fun legible => ⟨?_, fun artifact form => ?_⟩,
    fun text unmarked found absent => derived.routes_gather unmarked found absent⟩
  · exact ⟨declaredMethods_controller legible, derived.nodup_controllerMethods_iff⟩
  · obtain ⟨front, markup, whole, start, declared⟩ := declaredConstants_form legible sourced derived
      (Names.plain_record options.displayName) (plain_pageRecord options) form
    exact ⟨front, markup, whole, start, declared, nodup_formConstants_iff _ _⟩

/-- An axe with two cascades, one below the other. -/
def chainedAxe : Options where
  displayName := "Axe"
  relationships := "schema:belongsTo:Schema,lemma^schema:belongsTo:Lemma,proof^lemma:belongsTo:Proof"

/-- A file of routes that loads a further one. -/
def plainRoutes : Text := "<?php\nrequire __DIR__ . '/auth.php';\n"

/-- There is a place for routes in it, and it has no markers. -/
theorem locate_plainRoutes : Anchor.routes.locate plainRoutes = .ok (some ⟨1, []⟩) ∧
    ∀ line ∈ Text.lines plainRoutes, Marker.isMarker line = false := by
  unfold Anchor.routes plainRoutes
  simp (disch := exact rfl) only [Text.toList_literal, -String.reduceToList]
  decide +kernel

/-- The cascades of this axe have distinct methods, constants and routes. -/
theorem cascades_named_apart_axe :
    (ofOptions chainedAxe).dependencies.Pairwise Dependency.Apart ∧
    (methods.declared (Artifact.controller.content (ofOptions chainedAxe) Stub.controller)).Nodup ∧
    (∀ artifact : Artifact, artifact = .createPage ∨ artifact = .editPage → ∃ front markup,
      artifact.content (ofOptions chainedAxe) (Stub.ofArtifact artifact) = front ++ markup ∧
      "    return (\n".toList <+: markup ∧ (constants.declared front).Nodup) ∧
    SharedFile.Gathers Layout.standard.routes plainRoutes "routes" .routes
      ((ofOptions chainedAxe).routeEntries .standard)
      (((ofOptions chainedAxe).routeEntries .standard).map (·.entry)) := by
  obtain ⟨differ, legible, create, edit, absent⟩ : (ofOptions chainedAxe).CascadesDiffer ∧
      (ofOptions chainedAxe).Legible ∧ (ofOptions chainedAxe).ConstantsApart .create ∧
      (ofOptions chainedAxe).ConstantsApart (.edit (ofOptions chainedAxe).pageRecord) ∧
      ∀ registration ∈ (ofOptions chainedAxe).routeEntries .standard,
        registration.entry.presence.foundIn plainRoutes = false := by
    unfold chainedAxe plainRoutes
    simp (disch := exact rfl) only [Text.toList_literal, -String.reduceToList]
    decide +kernel
  obtain ⟨names, code, routes⟩ := cascades_named_apart chainedAxe .standard
  obtain ⟨⟨declared, distinct⟩, forms⟩ := code legible
  refine ⟨names.mp differ, ?_, fun artifact form => ?_, ?_⟩
  · rw [declared, distinct]
    exact differ.endpoints
  · obtain ⟨front, markup, whole, start, found, nodup⟩ := forms artifact form
    refine ⟨front, markup, whole, start, ?_⟩
    rw [found, nodup]
    rcases form with rfl | rfl
    · exact create
    · exact edit
  · obtain ⟨entries, gathers, all⟩ := routes plainRoutes locate_plainRoutes.2
      ⟨_, locate_plainRoutes.1⟩ absent
    rwa [all.mpr differ.routeNames] at gathers

/-- An axe with two lemmata of one schema. -/
def pairedAxe : Options where
  displayName := "Axe"
  relationships := "schema:belongsTo:Schema,lemma^schema:belongsTo:Lemma,gap^schema:belongsTo:Lemma"

/-- The controller of this axe declares a method twice, its form declares a list twice, and one of its
routes is not registered. -/
theorem lemmata_listed_twice :
    ¬(methods.declared (Artifact.controller.content (ofOptions pairedAxe) Stub.controller)).Nodup ∧
    (∃ front markup, Artifact.createPage.content (ofOptions pairedAxe) Stub.createPage =
      front ++ markup ∧ ¬(constants.declared front).Nodup) ∧
    ∃ entries, SharedFile.Gathers Layout.standard.routes plainRoutes "routes" .routes
        ((ofOptions pairedAxe).routeEntries .standard) entries ∧
      entries ≠ ((ofOptions pairedAxe).routeEntries .standard).map (·.entry) := by
  obtain ⟨legible, endpoints, states, routeNames, absent⟩ : (ofOptions pairedAxe).Legible ∧
      ¬((ofOptions pairedAxe).dependencies.map (·.cascade.endpoint)).Nodup ∧
      ¬((ofOptions pairedAxe).dependencies.map (·.cascade.state)).Nodup ∧
      ¬((ofOptions pairedAxe).dependencies.map (·.cascade.routeName)).Nodup ∧
      ∀ registration ∈ (ofOptions pairedAxe).routeEntries .standard,
        registration.entry.presence.foundIn plainRoutes = false := by
    unfold pairedAxe plainRoutes
    simp (disch := exact rfl) only [Text.toList_literal, -String.reduceToList]
    decide +kernel
  have derived := derived_ofOptions pairedAxe
  refine ⟨?_, ?_, ?_⟩
  · rw [declaredMethods_controller legible, derived.nodup_controllerMethods_iff]
    exact endpoints
  · obtain ⟨front, markup, whole, -, declared⟩ := declaredConstants_form legible
      (sourced_ofOptions pairedAxe) derived (Names.plain_record _) (plain_pageRecord pairedAxe)
      (.inl rfl)
    refine ⟨front, markup, whole, ?_⟩
    rw [declared, nodup_formConstants_iff]
    exact fun apart => states apart.states
  · obtain ⟨entries, gathers, all⟩ := derived.routes_gather locate_plainRoutes.2
      ⟨_, locate_plainRoutes.1⟩ absent
    exact ⟨entries, gathers, fun same => routeNames (all.mp same)⟩

end Plan

end Scaffold
