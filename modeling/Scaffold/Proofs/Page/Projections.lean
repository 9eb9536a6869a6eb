import Scaffold.Page.Declaration
import Scaffold.Plan.Build
import Scaffold.Proofs.Plan.Declared

/-!
# Projected relations in the model interface

The interface of a record has an attribute for each run of neighbouring projections of one relation
(`Plan.projectionRuns`), with the fields of the run, each once. A relation whose projections do not
stand together has several runs, and relations whose names are one in the casing of columns share an
attribute name. So a relation appears once, with all its projected fields, exactly if neither happens
(`Plan.projected_once_iff`).
-/
namespace Scaffold

open Text

namespace Plan

variable {projection : Projection} {projections : List Projection} {run : Text × List Text}
  {field : Text}

/-- The name under which a projected relation stands among the attributes of a record. -/
def attributeName (projection : Projection) : Text := snakeCase projection.relation

/-- The projections of each attribute name are of one relation and stand together. -/
structure Gathered (projections : List Projection) : Prop where
  /-- No two relations share an attribute name. -/
  named : ∀ first ∈ projections, ∀ last ∈ projections, attributeName first = attributeName last →
    first.relation = last.relation
  /-- Between two projections of a relation there are only projections of it. -/
  together : ∀ first middle last, [first, middle, last].Sublist projections →
    first.relation = last.relation → middle.relation = first.relation

/-- The attribute names of the runs. -/
def runNames (projections : List Projection) : List Text :=
  (projectionRuns projections).map fun run => snakeCase run.1

/-- The first run is one of the relation of the first projection. -/
theorem exists_projectionRuns_cons (projection : Projection) (rest : List Projection) :
    ∃ fields runs, projectionRuns (projection :: rest) = (projection.relation, fields) :: runs := by
  unfold projectionRuns
  split
  · exact ⟨_, _, rfl⟩
  · split
    · rename_i same
      exact ⟨_, _, by rw [same]⟩
    · exact ⟨_, _, rfl⟩

/-- A projection of the relation of the next one joins its run. -/
theorem projectionRuns_cons_same {next : Projection} {rest : List Projection} {fields : List Text}
    {runs : List (Text × List Text)} (same : next.relation = projection.relation)
    (later : projectionRuns (next :: rest) = (next.relation, fields) :: runs) :
    projectionRuns (projection :: next :: rest) =
      (next.relation, projection.field :: fields) :: runs := by
  rw [projectionRuns, later]
  exact if_pos same

/-- A projection of another relation than the next one begins a run. -/
theorem projectionRuns_cons_other {next : Projection} (rest : List Projection)
    (other : next.relation ≠ projection.relation) :
    projectionRuns (projection :: next :: rest) =
      (projection.relation, [projection.field]) :: projectionRuns (next :: rest) := by
  obtain ⟨fields, runs, later⟩ := exists_projectionRuns_cons next rest
  rw [projectionRuns, later]
  exact if_neg other

/-- The runs of several projections, by the relation of the second one. -/
theorem projectionRuns_cases (projection next : Projection) (rest : List Projection) :
    (∃ fields runs, next.relation = projection.relation ∧
      projectionRuns (next :: rest) = (next.relation, fields) :: runs ∧
      projectionRuns (projection :: next :: rest) =
        (next.relation, projection.field :: fields) :: runs) ∨
    next.relation ≠ projection.relation ∧ projectionRuns (projection :: next :: rest) =
      (projection.relation, [projection.field]) :: projectionRuns (next :: rest) := by
  by_cases same : next.relation = projection.relation
  · obtain ⟨fields, runs, later⟩ := exists_projectionRuns_cons next rest
    exact .inl ⟨fields, runs, same, later, projectionRuns_cons_same same later⟩
  · exact .inr ⟨same, projectionRuns_cons_other rest same⟩

/-- The runs hold the projections in their order. -/
theorem flatMap_projectionRuns (projections : List Projection) :
    ((projectionRuns projections).flatMap fun run => run.2.map (Projection.mk run.1)) =
      projections := by
  induction projections with
  | nil => rfl
  | cons projection rest ih =>
    cases rest with
    | nil => rfl
    | cons next rest =>
      rcases projectionRuns_cases projection next rest with ⟨fields, runs, same, later, joined⟩ |
        ⟨-, apart⟩
      · rw [later] at ih
        rw [joined, ← ih, same]
        rfl
      · rw [apart, List.flatMap_cons, ih]
        rfl

/-- No run is empty. -/
theorem ne_nil_of_mem_projectionRuns (member : run ∈ projectionRuns projections) : run.2 ≠ [] := by
  induction projections with
  | nil => exact absurd member List.not_mem_nil
  | cons projection rest ih =>
    cases rest with
    | nil =>
      rw [List.mem_singleton.mp member]
      exact List.cons_ne_nil _ _
    | cons next rest =>
      rcases projectionRuns_cases projection next rest with ⟨fields, runs, -, later, joined⟩ |
        ⟨-, apart⟩
      · rw [joined] at member
        rcases List.mem_cons.mp member with rfl | other
        · exact List.cons_ne_nil _ _
        · exact ih (by rw [later]; exact List.mem_cons_of_mem _ other)
      · rw [apart] at member
        rcases List.mem_cons.mp member with rfl | other
        · exact List.cons_ne_nil _ _
        · exact ih other

/-- A field is projected exactly if a run of its relation holds it. -/
theorem mem_projections_iff {relation : Text} : ⟨relation, field⟩ ∈ projections ↔
    ∃ run ∈ projectionRuns projections, run.1 = relation ∧ field ∈ run.2 := by
  conv => lhs; rw [← flatMap_projectionRuns projections]
  simp only [List.mem_flatMap, List.mem_map, Projection.mk.injEq]
  constructor
  · rintro ⟨run, listed, other, inside, same, rfl⟩
    exact ⟨run, listed, same, inside⟩
  · rintro ⟨run, listed, same, inside⟩
    exact ⟨run, listed, field, inside, same, rfl⟩

/-- The attribute names of the runs are those of the projections. -/
theorem mem_runNames_iff {name : Text} : name ∈ runNames projections ↔
    ∃ projection ∈ projections, attributeName projection = name := by
  rw [runNames, List.mem_map]
  constructor
  · rintro ⟨run, listed, rfl⟩
    obtain ⟨field, inside⟩ := List.exists_mem_of_ne_nil _ (ne_nil_of_mem_projectionRuns listed)
    exact ⟨⟨run.1, field⟩, mem_projections_iff.mpr ⟨run, listed, rfl, inside⟩, rfl⟩
  · rintro ⟨projection, listed, rfl⟩
    obtain ⟨run, among, same, -⟩ := mem_projections_iff.mp listed
    exact ⟨run, among, by rw [same]; rfl⟩

/-- Another projection of the relation in front of the next one changes nothing. -/
theorem gathered_cons_same {next : Projection} {rest : List Projection}
    (same : next.relation = projection.relation) :
    Gathered (projection :: next :: rest) ↔ Gathered (next :: rest) := by
  constructor
  · intro gathered
    refine ⟨fun first one last two => gathered.named first (List.mem_cons_of_mem _ one) last
      (List.mem_cons_of_mem _ two), fun first middle last listed => ?_⟩
    exact gathered.together first middle last (listed.cons projection)
  · intro gathered
    have stand : ∀ other ∈ projection :: next :: rest, ∃ own ∈ next :: rest,
        own.relation = other.relation := by
      intro other member
      rcases List.mem_cons.mp member with rfl | later
      · exact ⟨next, List.mem_cons_self, same⟩
      · exact ⟨other, later, rfl⟩
    refine ⟨fun first one last two names => ?_, fun first middle last listed ends => ?_⟩
    · obtain ⟨one', listed, first'⟩ := stand first one
      obtain ⟨two', among, last'⟩ := stand last two
      rw [← first', ← last']
      refine gathered.named one' listed two' among ?_
      rw [attributeName, attributeName, first', last']
      exact names
    · cases listed with
      | cons _ later => exact gathered.together first middle last later ends
      | cons_cons _ later =>
        cases later with
        | cons _ behind =>
          rw [← same]
          exact gathered.together next middle last (behind.cons_cons next) (same.trans ends)
        | cons_cons _ _ => exact same

/-- A projection of another relation than the next one stands in front of projections of other
attribute names. -/
theorem gathered_cons_other {next : Projection} {rest : List Projection}
    (other : next.relation ≠ projection.relation) :
    Gathered (projection :: next :: rest) ↔
      (∀ later ∈ next :: rest, attributeName later ≠ attributeName projection) ∧
        Gathered (next :: rest) := by
  constructor
  · intro gathered
    refine ⟨fun later listed names => ?_, ⟨fun first one last two => gathered.named first
      (List.mem_cons_of_mem _ one) last (List.mem_cons_of_mem _ two),
      fun first middle last listed => gathered.together first middle last (listed.cons projection)⟩⟩
    have relation := gathered.named later (List.mem_cons_of_mem _ listed) projection
      List.mem_cons_self names
    rcases List.mem_cons.mp listed with rfl | behind
    · exact other relation
    · have ordered : [projection, next, later].Sublist (projection :: next :: rest) :=
        ((List.singleton_sublist.mpr behind).cons_cons next).cons_cons projection
      exact other (gathered.together projection next later ordered relation.symm)
  · rintro ⟨apart, gathered⟩
    refine ⟨fun first one last two names => ?_, fun first middle last listed ends => ?_⟩
    · rcases List.mem_cons.mp one with own | behind
      · rcases List.mem_cons.mp two with same | later
        · rw [own, same]
        · rw [own] at names
          exact absurd names.symm (apart last later)
      · rcases List.mem_cons.mp two with same | later
        · rw [same] at names
          exact absurd names (apart first behind)
        · exact gathered.named first behind last later names
    · cases listed with
      | cons _ later => exact gathered.together first middle last later ends
      | cons_cons _ later =>
        have among : last ∈ next :: rest := later.subset (List.mem_cons_of_mem _ List.mem_cons_self)
        refine absurd ?_ (apart last among)
        rw [attributeName, attributeName, ends]

/-- No attribute name has two runs exactly if the projections are gathered. -/
theorem nodup_runNames_iff : (runNames projections).Nodup ↔ Gathered projections := by
  induction projections with
  | nil =>
    exact ⟨fun _ => ⟨by simp, by simp⟩, fun _ => List.nodup_nil⟩
  | cons projection rest ih =>
    cases rest with
    | nil =>
      refine ⟨fun _ => ⟨by simp, fun first middle last listed => ?_⟩, fun _ => by simp [runNames, projectionRuns]⟩
      exact absurd listed.length_le (by simp)
    | cons next rest =>
      rcases projectionRuns_cases projection next rest with ⟨fields, runs, same, later, joined⟩ |
        ⟨other, apart⟩
      · rw [gathered_cons_same same, ← ih, runNames, runNames, joined, later]
        rfl
      · rw [gathered_cons_other other, ← ih, runNames, apart, List.map_cons, List.nodup_cons]
        refine and_congr_left fun _ => ?_
        have named := @mem_runNames_iff (next :: rest) (snakeCase projection.relation)
        rw [runNames] at named
        rw [named]
        simp only [not_exists, not_and]
        rfl

/-- What the attribute of a projected relation begins with in code. -/
def openingOf (relation : Text) : Text := snakeCase relation ++ "?: \x7b"

/-- One attribute stands for a relation. It shows the projected fields of the relation, each once, and
none of them has the name of another member of the attribute. -/
def AppearsOnce (plan : Plan) (members : List Text) (relation : Text) : Prop :=
  ∃ fields, plan.recordAttributeLines.filter (startsWith · (openingOf relation)) =
      [(RecordAttribute.related (snakeCase relation) fields).line] ∧
    (∀ field, field ∈ fields ↔ ⟨relation, field⟩ ∈ plan.projections) ∧ (members ++ fields).Nodup

/-- A text without a mark is told from another one by what stands behind the mark. -/
theorem startsWith_mark {mark : Char} {name other start rest : Text} (own : mark ∉ name)
    (free : mark ∉ other) : startsWith (name ++ mark :: rest) (other ++ mark :: start) =
      (name == other && startsWith rest start) := by
  rw [Bool.eq_iff_iff, startsWith, List.isPrefixOf_iff_prefix, Bool.and_eq_true, beq_iff_eq,
    startsWith, List.isPrefixOf_iff_prefix]
  constructor
  · rintro ⟨behind, whole⟩
    rw [List.append_assoc, List.cons_append] at whole
    have cut := congrArg (splitFirst? mark) whole
    rw [splitFirst?_append free, splitFirst?_append own, Option.some.injEq, Prod.mk.injEq] at cut
    exact ⟨cut.1.symm, behind, cut.2⟩
  · rintro ⟨rfl, behind, rfl⟩
    exact ⟨behind, by simp⟩

/-- The line of a run opens the relations that have its attribute name. -/
theorem startsWith_related (name : Text) (fields : List Text) (relation : Text) (plain : IsPlain name) :
    startsWith (RecordAttribute.related name fields).line (openingOf relation) =
      (name == snakeCase relation) := by
  have free : ∀ {text : Text}, IsPlain text → '?' ∉ text := fun plain => plain.notMem (by decide)
  have line : (RecordAttribute.related name fields).line = name ++ '?' :: (": \x7b".toList ++
      (" id: number; ".toList ++ joinWith "; " (fields.map fun field => field ++ ": string | null") ++
        " \x7d | null;".toList)) := by
    unfold RecordAttribute.line
    simp only [List.append_assoc]
    rfl
  have opening : openingOf relation = snakeCase relation ++ '?' :: ": \x7b".toList := rfl
  rw [line, opening, startsWith_mark (free plain) (free (plain_snakeCase relation)), startsWith,
    List.isPrefixOf_iff_prefix.mpr (List.prefix_append _ _), Bool.and_true]

/-- The line of a value opens no relation. -/
theorem startsWith_value {name : Text} {type : ValueType} (relation : Text) (colon : ':' ∉ name)
    (brace : '\x7b' ∉ type.text) :
    startsWith (RecordAttribute.value name type).line (openingOf relation) = false := by
  have line : (RecordAttribute.value name type).line =
      name ++ ':' :: (" ".toList ++ type.text ++ ";".toList) := by
    unfold RecordAttribute.line
    simp only [List.append_assoc]
    rfl
  have opening : openingOf relation = (snakeCase relation ++ ['?']) ++ ':' :: " \x7b".toList := by
    rw [List.append_assoc]
    rfl
  have free : ':' ∉ snakeCase relation ++ ['?'] := by
    rw [List.mem_append, not_or]
    exact ⟨(plain_snakeCase relation).notMem (by decide), by decide⟩
  have other : startsWith (" ".toList ++ type.text ++ ";".toList) " \x7b".toList = false := by
    rw [← Bool.not_eq_true, startsWith, List.isPrefixOf_iff_prefix]
    intro front
    have inside : '\x7b' ∈ " ".toList ++ type.text ++ ";".toList := front.subset (by decide)
    rw [List.mem_append, List.mem_append] at inside
    rcases inside with (blank | held) | last
    · exact absurd blank (by decide)
    · exact brace held
    · exact absurd last (by decide)
  rw [line, opening, startsWith_mark colon free, other, Bool.and_false]

/-- The type of the attribute of a field holds no brace. -/
theorem brace_notMem_recordType (field : Field) : '\x7b' ∉ field.recordType.text := by
  have catalog : ∀ kind ∈ FieldKind.all, '\x7b' ∉ kind.facts.type.element := by decide
  have element : '\x7b' ∉ field.recordType.element := by
    simp only [Field.recordType, Field.presentType]
    split
    · split
      · decide
      · decide
    · decide
    · exact catalog field.kind (FieldKind.mem_all _)
  have endings : ∀ ended : Bool, '\x7b' ∉ (if ended then "[]" else "").toList ∧
      '\x7b' ∉ (if ended then " | null" else "").toList := by decide
  unfold ValueType.text
  rw [List.mem_append, List.mem_append, not_or, not_or]
  exact ⟨⟨element, (endings _).1⟩, (endings _).2⟩

/-- No name of a field and no key of a relationship holds a colon. -/
theorem colon_notMem_name (options : Options) :
    (∀ field ∈ (ofOptions options).fields, ':' ∉ field.name) ∧
      ∀ relationship ∈ (ofOptions options).relationships, ':' ∉ relationship.foreignKey := by
  refine ⟨fun field member => ?_, fun relationship member inside => ?_⟩
  · exact (Schema.marks_notMem_name (List.mem_filter.mp member).1).1
  · rcases Schema.mem_foreignKey_readRelationships member inside with plain | there
    · exact absurd plain (by decide)
    · exact there.2.1 rfl

/-- The line of a run. -/
def runLine (run : Text × List Text) : Text :=
  (RecordAttribute.related (snakeCase run.1) (firstOccurrences run.2)).line

/-- The attributes that stand for a relation are those of the runs of its name. -/
theorem filter_recordAttributeLines (options : Options) (relation : Text) :
    (ofOptions options).recordAttributeLines.filter (startsWith · (openingOf relation)) =
      ((projectionRuns (ofOptions options).projections).filter
        (snakeCase ·.1 == snakeCase relation)).map runLine := by
  obtain ⟨names, keys⟩ := colon_notMem_name options
  have lines : (ofOptions options).recordAttributeLines =
      ((ofOptions options).fields.map fun field =>
        (RecordAttribute.value field.name field.recordType).line) ++
      ((ofOptions options).foreignKeys.map fun relationship =>
        (RecordAttribute.value relationship.foreignKey (.nullable "number")).line) ++
      (projectionRuns (ofOptions options).projections).map runLine := by
    simp only [recordAttributeLines, recordAttributes, List.map_append, List.map_map]
    rfl
  have fields : ((ofOptions options).fields.map fun field =>
      (RecordAttribute.value field.name field.recordType).line).filter
        (startsWith · (openingOf relation)) = [] := by
    refine List.filter_eq_nil_iff.mpr fun line listed => ?_
    obtain ⟨field, member, rfl⟩ := List.mem_map.mp listed
    rw [startsWith_value relation (names field member) (brace_notMem_recordType field)]
    exact Bool.false_ne_true
  have relationships : ((ofOptions options).foreignKeys.map fun relationship =>
      (RecordAttribute.value relationship.foreignKey (.nullable "number")).line).filter
        (startsWith · (openingOf relation)) = [] := by
    refine List.filter_eq_nil_iff.mpr fun line listed => ?_
    obtain ⟨relationship, member, rfl⟩ := List.mem_map.mp listed
    rw [startsWith_value relation (keys relationship (List.mem_filter.mp member).1) (by decide)]
    exact Bool.false_ne_true
  rw [lines, List.filter_append, List.filter_append, fields, relationships, List.nil_append,
    List.nil_append, List.filter_map]
  congr 1
  apply List.filter_congr
  intro run _
  exact startsWith_related _ _ relation (plain_snakeCase run.1)

/-- If keys are distinct, only one member has the key of a given one. -/
theorem filter_key_eq_singleton {α : Type} [DecidableEq α] {keyOf : α → Text} {members : List α}
    {member : α} (distinct : (members.map keyOf).Nodup) (listed : member ∈ members) :
    members.filter (keyOf · == keyOf member) = [member] := by
  have same : members.filter (keyOf · == keyOf member) = members.filter (· == member) := by
    apply List.filter_congr
    intro other among
    rw [Bool.eq_iff_iff, beq_iff_eq, beq_iff_eq]
    exact ⟨fun key => List.inj_on_of_nodup_map distinct among listed key, congrArg keyOf⟩
  rw [same, List.filter_beq, List.count_eq_one_of_mem (.of_map keyOf distinct) listed]
  rfl

/-- Every projected relation appears once beside members of its attribute exactly if the projections
are gathered and no field has the name of one of these members. -/
theorem appearsOnce_iff (options : Options) {members : List Text} (distinct : members.Nodup) :
    (∀ projection ∈ (ofOptions options).projections,
      (ofOptions options).AppearsOnce members projection.relation) ↔
      Gathered (ofOptions options).projections ∧
        ∀ projection ∈ (ofOptions options).projections, projection.field ∉ members := by
  rw [← nodup_runNames_iff]
  constructor
  · intro once
    refine ⟨List.nodup_iff_count_le_one.mpr fun name => ?_, fun projection listed inside => ?_⟩
    · by_cases listed : name ∈ runNames (ofOptions options).projections
      · obtain ⟨projection, member, rfl⟩ := mem_runNames_iff.mp listed
        obtain ⟨fields, single, -⟩ := once projection member
        have length := congrArg List.length single
        rw [filter_recordAttributeLines, List.length_map, ← List.countP_eq_length_filter] at length
        rw [List.count, runNames, List.countP_map]
        exact Nat.le_of_eq length
      · rw [List.count_eq_zero.mpr listed]
        exact Nat.zero_le 1
    · obtain ⟨fields, -, shown, apart⟩ := once projection listed
      exact (List.nodup_append.mp apart).2.2 _ inside _ ((shown projection.field).mpr listed) rfl
  · rintro ⟨single, free⟩ projection listed
    obtain ⟨run, among, same, -⟩ := mem_projections_iff.mp listed
    have shown : ∀ field, field ∈ firstOccurrences run.2 ↔
        ⟨projection.relation, field⟩ ∈ (ofOptions options).projections := by
      intro field
      rw [mem_firstOccurrences, mem_projections_iff]
      constructor
      · exact fun inside => ⟨run, among, same, inside⟩
      · rintro ⟨other, member, own, inside⟩
        have equal : snakeCase other.1 = snakeCase run.1 := by rw [own, same]
        rwa [← List.inj_on_of_nodup_map single member among equal]
    refine ⟨firstOccurrences run.2, ?_, shown, ?_⟩
    · rw [filter_recordAttributeLines, ← same, filter_key_eq_singleton single among]
      rfl
    · refine List.nodup_append.mpr ⟨distinct, nodup_firstOccurrences _, ?_⟩
      rintro field fixed other projected rfl
      exact free _ ((shown field).mp projected) fixed

/-- Every projected relation appears once in the model interface exactly if the projections are
gathered. Every attribute of a relation has the member `id` in front, so it has no two members of one
name exactly if no projected field has that one. -/
theorem projected_once_iff (options : Options) :
    ((∀ projection ∈ (ofOptions options).projections,
      (ofOptions options).AppearsOnce [] projection.relation) ↔
      Gathered (ofOptions options).projections) ∧
    ((∀ projection ∈ (ofOptions options).projections,
      (ofOptions options).AppearsOnce ["id"] projection.relation) ↔
      Gathered (ofOptions options).projections ∧
        ∀ projection ∈ (ofOptions options).projections, projection.field ≠ "id".toList) := by
  constructor
  · rw [appearsOnce_iff options List.nodup_nil]
    simp
  · rw [appearsOnce_iff options (by decide)]
    simp only [List.mem_singleton, ne_eq]

/-- An axe of which a proof is projected before and behind a lemma. -/
def alternating : Options where
  displayName := "Axe"
  relationships := "proof:belongsTo:Proof,lemma:belongsTo:Lemma"
  projections := "proof.name,lemma.name,proof.code"

/-- The proof does not appear once: it has an attribute for each side of the lemma. -/
theorem proof_appears_twice : ¬(∀ projection ∈ (ofOptions alternating).projections,
    (ofOptions alternating).AppearsOnce [] projection.relation) := by
  intro once
  have read : (ofOptions alternating).projections =
      [⟨"proof", "name"⟩, ⟨"lemma", "name"⟩, ⟨"proof", "code"⟩] := by
    decide +kernel
  obtain ⟨fields, single, -⟩ := once ⟨"proof", "name"⟩ (by rw [read]; exact List.mem_cons_self)
  rw [filter_recordAttributeLines, read] at single
  have attributes := congrArg List.length single
  rw [List.length_map, List.length_singleton] at attributes
  exact absurd attributes (by decide +kernel)

end Plan

end Scaffold
