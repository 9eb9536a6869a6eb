import Scaffold.Proofs.Schema.Reading

/-!
# What a declaration takes once

Of several fields with one name the first is declared, and a relationship whose key column is owned
by an earlier one is not declared at all. So the names of the fields that a text declares are
distinct (`Schema.nodup_readFields`), and so are the key columns of its relationships
(`Schema.nodup_readRelationships`). A field may be missing exactly if its own validation says so
(`Schema.nullable_of_mem_readFields`).
-/
namespace Scaffold.Schema

/-- Keys stay distinct when a member of a new key is put behind the others. -/
theorem nodup_map_concat {α : Type} {keyOf : α → Text} {members : List α} {member : α}
    (distinct : (members.map keyOf).Nodup) (fresh : ∀ other ∈ members, keyOf other ≠ keyOf member) :
    ((members ++ [member]).map keyOf).Nodup := by
  rw [List.map_append, List.nodup_append]
  refine ⟨distinct, by simp, ?_⟩
  intro key listed new own same
  obtain ⟨other, among, rfl⟩ := List.mem_map.mp listed
  exact fresh other among (same.trans (List.mem_singleton.mp own))

/-- The fields of more tokens have distinct names if those before them have. -/
theorem nodup_readFieldsAfter {all : List Text} {known : List Field}
    (distinct : (known.map (·.name)).Nodup) :
    ((readFieldsAfter known all).1.map (·.name)).Nodup := by
  induction all generalizing known with
  | nil => exact distinct
  | cons token rest ih =>
    unfold readFieldsAfter
    split
    · exact ih distinct
    · rename_i field notes read
      split
      · exact ih distinct
      · rename_i fresh
        refine ih (nodup_map_concat distinct fun other listed same => fresh ?_)
        exact List.any_eq_true.mpr ⟨other, listed, by simp [same]⟩

/-- The fields that a text declares have distinct names. -/
theorem nodup_readFields (text : Text) : ((readFields text).1.map (·.name)).Nodup :=
  nodup_readFieldsAfter List.nodup_nil

/-- The key columns that relationships own. -/
def ownedKeys (relationships : List Relationship) : List Text :=
  (relationships.filter (·.ownsForeignKey)).map (·.foreignKey)

/-- The relationships of more tokens own distinct keys if those before them do. -/
theorem nodup_readRelationshipsAfter {all : List Text} {known : List Relationship}
    (distinct : (ownedKeys known).Nodup) :
    (ownedKeys (readRelationshipsAfter known all).1).Nodup := by
  induction all generalizing known with
  | nil => exact distinct
  | cons token rest ih =>
    unfold readRelationshipsAfter
    split
    · exact ih distinct
    · rename_i relationship notes read
      split
      · exact ih distinct
      · rename_i fresh
        refine ih ?_
        unfold ownedKeys
        rw [List.filter_append, List.filter_cons, List.filter_nil]
        split
        · rename_i owns
          refine nodup_map_concat distinct fun other listed same => fresh ?_
          obtain ⟨among, owned⟩ := List.mem_filter.mp listed
          rw [owns, Bool.true_and]
          exact List.any_eq_true.mpr ⟨other, among, by simp [owned, same]⟩
        · rwa [List.append_nil]

/-- Forgetting a parent that is not declared changes neither the kind nor the key. -/
theorem keepParent_key (names : List Text) (relationship : Relationship) :
    (keepParent names relationship).1.ownsForeignKey = relationship.ownsForeignKey ∧
      (keepParent names relationship).1.foreignKey = relationship.foreignKey := by
  unfold keepParent
  split
  · exact ⟨rfl, rfl⟩
  · split
    · exact ⟨rfl, rfl⟩
    · exact ⟨rfl, rfl⟩

/-- The relationships that a text declares own distinct keys. -/
theorem nodup_readRelationships (text : Text) : (ownedKeys (readRelationships text).1).Nodup := by
  have distinct := @nodup_readRelationshipsAfter (tokens text) [] List.nodup_nil
  simp only [readRelationships]
  generalize (readRelationshipsAfter [] (tokens text)).1 = read at distinct
  have same : ownedKeys ((read.map (keepParent (read.map (·.name)))).map (·.1)) = ownedKeys read := by
    simp only [ownedKeys, List.map_map, List.filter_map]
    congr 1
    · funext relationship
      exact (keepParent_key _ relationship).2
    · congr 1
      funext relationship
      exact (keepParent_key _ relationship).1
  rwa [same]

/-- The field of a token may be missing exactly if its validation allows it. -/
theorem nullable_of_mem_readField {token : Text} {field : Field}
    (read : field ∈ (readField token).1) :
    field.nullable = (field.validation.map allowsNull).getD false := by
  cases cut : Text.splitFirst? ':' (Text.trim token) with
  | none =>
    simp only [readField, cut] at read
    split at read
    · simp at read
    · obtain rfl := Option.some.inj read
      rfl
  | some sides =>
    simp only [readField, cut] at read
    split at read
    · simp at read
    · obtain rfl := Option.some.inj read
      rfl

/-- The fields that a text declares may be missing exactly if their validation allows it. -/
theorem nullable_of_mem_readFields {text : Text} {field : Field}
    (member : field ∈ (readFields text).1) :
    field.nullable = (field.validation.map allowsNull).getD false :=
  forall_mem_readFieldsAfter (fun _ _ _ read => nullable_of_mem_readField read) (by simp) field member

end Scaffold.Schema
