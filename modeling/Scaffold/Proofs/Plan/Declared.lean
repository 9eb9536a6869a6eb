import Mathlib.Data.List.Nodup
import Scaffold.Plan.Build
import Scaffold.Proofs.Schema.Distinct

/-!
# What a plan declares once

The generated files have parts with keys: columns, casts, attributes, initial values and controls. A
part is spoken of by its key (`AtKey`), which means something because the fields of a plan have
distinct names (`Plan.declared_ofOptions`): of the parts that are made of the fields of a plan, one
for each, exactly one has the name of a given field.
-/
namespace Scaffold

/-- Some member has the key, and every member that has it satisfies the condition. -/
structure AtKey {α : Type} (keyOf : α → Text) (members : List α) (key : Text) (holds : α → Prop) :
    Prop where
  /-- A member has the key. -/
  found : ∃ member ∈ members, keyOf member = key
  /-- Whatever has it satisfies the condition. -/
  each : ∀ member ∈ members, keyOf member = key → holds member

namespace AtKey

variable {α β : Type} {keyOf : α → Text} {members more : List α} {key : Text}
  {holds weaker : α → Prop}

/-- A condition may be replaced by one that follows from it. -/
theorem imp (at_key : AtKey keyOf members key holds) (follows : ∀ member, holds member → weaker member) :
    AtKey keyOf members key weaker :=
  ⟨at_key.found, fun member listed own => follows member (at_key.each member listed own)⟩

/-- The first member has the key if no other one does. -/
theorem cons {first : α} {rest : List α} (named : keyOf first = key) (own : holds first)
    (others : ∀ member ∈ rest, keyOf member ≠ key) : AtKey keyOf (first :: rest) key holds := by
  refine ⟨⟨first, List.mem_cons_self, named⟩, fun member listed same => ?_⟩
  rcases List.mem_cons.mp listed with rfl | other
  · exact own
  · exact absurd same (others member other)

/-- Members of other keys do not matter. -/
theorem append (at_key : AtKey keyOf members key holds) (others : ∀ member ∈ more, keyOf member ≠ key) :
    AtKey keyOf (members ++ more) key holds := by
  obtain ⟨⟨member, listed, own⟩, each⟩ := at_key
  refine ⟨⟨member, List.mem_append_left _ listed, own⟩, fun other among same => ?_⟩
  rcases List.mem_append.mp among with first | last
  · exact each other first same
  · exact absurd same (others other last)

/-- What is made of members with distinct names, under these names, is found by them. -/
theorem filterMap {nameOf : β → Text} {sources : List β} {make : β → Option α} {source : β} {made : α}
    (distinct : (sources.map nameOf).Nodup)
    (named : ∀ other, ∀ part ∈ make other, keyOf part = nameOf other) (listed : source ∈ sources)
    (own : make source = some made) (good : holds made) :
    AtKey keyOf (sources.filterMap make) (nameOf source) holds := by
  refine ⟨⟨made, List.mem_filterMap.mpr ⟨source, listed, own⟩, named source made own⟩, ?_⟩
  intro part among same
  obtain ⟨other, member, produced⟩ := List.mem_filterMap.mp among
  have equal : nameOf other = nameOf source := (named other part produced).symm.trans same
  obtain rfl : other = source := List.inj_on_of_nodup_map distinct member listed equal
  obtain rfl : part = made := Option.some.inj (produced.symm.trans own)
  exact good

/-- The same of what is made of every member. -/
theorem map {nameOf : β → Text} {sources : List β} {make : β → α} {source : β}
    (distinct : (sources.map nameOf).Nodup) (named : ∀ other, keyOf (make other) = nameOf other)
    (listed : source ∈ sources) (good : holds (make source)) :
    AtKey keyOf (sources.map make) (nameOf source) holds := by
  rw [← List.filterMap_eq_map]
  refine filterMap distinct (fun other part own => ?_) listed rfl good
  rw [← Option.some.inj own]
  exact named other

end AtKey

namespace Plan

/-- What the declarations of a plan have in common. -/
structure Declared (plan : Plan) : Prop where
  /-- The fields have distinct names. -/
  names : (plan.fields.map (·.name)).Nodup
  /-- No field takes the column of the owner. -/
  owner : ∀ field ∈ plan.fields, field.name ≠ ownershipColumn
  /-- The relationships own distinct key columns. -/
  keys : (Schema.ownedKeys plan.relationships).Nodup
  /-- A field may be missing exactly if its validation allows it. -/
  nullable : ∀ field ∈ plan.fields,
    field.nullable = (field.validation.map Schema.allowsNull).getD false

/-- Every plan that is made from options declares fields and keys once. -/
theorem declared_ofOptions (options : Options) : (ofOptions options).Declared where
  names := (Schema.nodup_readFields options.fields).sublist (List.filter_sublist.map _)
  owner field member := by simpa using (List.mem_filter.mp member).2
  keys := Schema.nodup_readRelationships options.relationships
  nullable _ member := Schema.nullable_of_mem_readFields (List.mem_filter.mp member).1

end Plan

end Scaffold
