import Mathlib.Data.List.TakeWhile
import Scaffold.Artifact.Fragment
import Scaffold.Proofs.Artifact.Parts
import Scaffold.Proofs.Plan.Rules

/-!
# Values that may be missing

Three generated files say whether a value may be missing: the rules of a request, the migration and
the model interface. They say the same of every field that is stored in the table
(`Plan.null_agreed`), with one exception: a validation that is written but has no rules lets a
request leave the value out, and changes neither the column nor the type.
-/
namespace Scaffold

open Text

namespace Text

/-- Joined texts end as the last of them does. -/
theorem getLast?_joinWith_concat (separator : Text) {last : Text} (filled : last ≠ []) :
    ∀ texts : List Text, (joinWith separator (texts ++ [last])).getLast? = last.getLast?
  | [] => rfl
  | [text] => by
    obtain ⟨c, found⟩ := Option.isSome_iff_exists.mp (List.getLast?_isSome.mpr filled)
    simp [joinWith, List.getLast?_append, found]
  | text :: next :: rest => by
    have later := getLast?_joinWith_concat separator filled (next :: rest)
    obtain ⟨c, found⟩ := Option.isSome_iff_exists.mp (List.getLast?_isSome.mpr filled)
    simp only [List.cons_append, joinWith, List.getLast?_append] at later ⊢
    rw [later, found]
    rfl

/-- A number ends with a digit and so with no bracket. -/
theorem getLast?_ofNat (value : Nat) : ∃ c, (ofNat value).getLast? = some c ∧ c ≠ '(' := by
  have filled : ofNat value ≠ [] := Nat.toDigits_ne_nil
  obtain ⟨c, last⟩ := Option.isSome_iff_exists.mp (List.getLast?_isSome.mpr filled)
  refine ⟨c, last, ?_⟩
  rintro rfl
  exact absurd (plain_ofNat value '(' (List.mem_of_getLast? last)) (by decide)

end Text

namespace Column

/-- The written column says that it may hold nothing. -/
def IsNullable (column : Column) : Prop := endsWith column.line "->nullable();" = true

/-- Whether a written column says so can be read off it. -/
instance (column : Column) : Decidable column.IsNullable := inferInstanceAs (Decidable (_ = true))

/-- Behind the name of a column nothing or a number is given last. -/
theorem arguments_cases (type : ColumnType) :
    (call type).2 = [] ∨ ∃ texts value, (call type).2 = texts ++ [ofNat value] := by
  cases type with
  | recordKey => exact .inl rfl
  | stored storage =>
    cases storage with
    | string length =>
      by_cases whole : length = 255
      · exact .inl (if_pos whole)
      · exact .inr ⟨[], length, if_neg whole⟩
    | decimal precision scale => exact .inr ⟨[ofNat precision], scale, rfl⟩
    | _ => exact .inl rfl

/-- The arguments of a column end with a literal or a number. -/
theorem getLast?_arguments (name : Text) (type : ColumnType) :
    ∃ c, (commaList (quote name :: (call type).2)).getLast? = some c ∧ c ≠ '(' := by
  rcases arguments_cases type with none | ⟨texts, value, given⟩
  · refine ⟨'\'', ?_, by decide⟩
    rw [none, commaList, joinWith, quote, List.getLast?_append]
    rfl
  · have filled : ofNat value ≠ [] := Nat.toDigits_ne_nil
    rw [given, commaList, ← List.cons_append, getLast?_joinWith_concat _ filled]
    exact getLast?_ofNat value

/-- A written column may hold nothing exactly if it holds nothing by default. -/
theorem isNullable_iff (column : Column) : column.IsNullable ↔ column.default = .null := by
  obtain ⟨name, type, default⟩ := column
  obtain ⟨c, last, other⟩ := getLast?_arguments name type
  unfold IsNullable endsWith line
  rw [List.isSuffixOf_iff_suffix]
  simp only
  generalize commaList (quote name :: (call type).2) = arguments at last
  generalize (call type).1 = method
  have parts : ("$table->" : Text) ++ method ++ '(' :: arguments ++ ")" ++ defaultCall default ++ ";" =
      (("$table->" : Text) ++ method ++ '(' :: arguments) ++ (")" ++ defaultCall default ++ ";") := by
    simp only [List.append_assoc]
  rw [parts]
  cases default with
  | null =>
    refine iff_of_true (List.suffix_append_of_suffix ⟨[')'], ?_⟩) rfl
    decide
  | no =>
    refine iff_of_false (fun ends => ?_) nofun
    have short := List.suffix_of_suffix_length_le ends (List.suffix_append _ _) (by decide)
    exact absurd short (by decide)
  | required =>
    refine iff_of_false (fun ends => ?_) nofun
    -- In front of the closing bracket stands the last argument, and no opening one.
    have call : ("->nullable();" : Text) = "->nullable(" ++ ");" := by decide
    have closing : (")" ++ defaultCall .required ++ ";" : Text) = ");" := by decide
    rw [call, closing] at ends
    obtain ⟨front, same⟩ := ((List.suffix_append_inj_of_length_eq rfl).mp ends).1
    have found := congrArg List.getLast? same
    rw [List.getLast?_append, List.getLast?_append, List.getLast?_cons, last] at found
    exact other (Option.some.inj found).symm

end Column

namespace ValueType

/-- The written type admits null. -/
def AdmitsNull (type : ValueType) : Prop := endsWith type.text " | null" = true

/-- Whether a written type does so can be read off it. -/
instance (type : ValueType) : Decidable type.AdmitsNull := inferInstanceAs (Decidable (_ = true))

/-- A type whose element is a single word admits null exactly if it says so. -/
theorem admitsNull_iff {type : ValueType} (word : ' ' ∉ type.element) :
    type.AdmitsNull ↔ type.orNull = true := by
  obtain ⟨element, isList, orNull⟩ := type
  rw [AdmitsNull, endsWith, List.isSuffixOf_iff_suffix, text]
  cases orNull with
  | true => exact iff_of_true (List.suffix_append _ _) rfl
  | false =>
    refine iff_of_false (fun ends => ?_) nofun
    have blank : ' ' ∈ (" | null" : Text) := by decide
    have inside := ends.subset blank
    cases isList with
    | true => simp [word] at inside
    | false => simp [word] at inside

end ValueType

namespace Field

/-- The element of the type of a value is a single word. -/
theorem element_recordType (field : Field) : ' ' ∉ field.recordType.element := by
  have catalog : ∀ kind ∈ FieldKind.all, ' ' ∉ kind.facts.type.element := by decide
  simp only [recordType, presentType]
  split
  · split
    · decide
    · decide
  · decide
  · exact catalog field.kind (FieldKind.mem_all _)

/-- A value that is stored in the table may be null exactly if it may be missing. -/
theorem orNull_recordType {field : Field} (stored : field.kind.isMedia = false) :
    field.recordType.orNull = field.nullable := by
  have catalog : ∀ kind ∈ FieldKind.all, kind.isMedia = false → kind.facts.type.orNull = false := by
    decide
  have present : field.presentType.orNull = false := by
    unfold presentType
    split
    · rfl
    · rfl
    · exact catalog field.kind (FieldKind.mem_all _) stored
  simp [recordType, present]

/-- So its written type admits null exactly then. -/
theorem admitsNull_recordType {field : Field} (stored : field.kind.isMedia = false) :
    field.recordType.AdmitsNull ↔ field.nullable = true := by
  rw [ValueType.admitsNull_iff field.element_recordType, orNull_recordType stored]

end Field

namespace Schema

/-- A validation without rules does not allow null. -/
theorem allowsNull_of_isBlankText {rules : Text} (blank : isBlankText rules = true) :
    allowsNull rules = false := by
  have solid : ∀ c ∈ rules, isBlank c = true := List.all_eq_true.mp blank
  have whole : '|' ∉ rules := fun inside => absurd (solid '|' inside) (by decide)
  have gone : trim rules = [] := by
    rw [trim, trimStart, List.dropWhile_eq_nil_iff.mpr solid]
    rfl
  rw [allowsNull, segments, splitOn_of_notMem whole, List.map_singleton, gone]
  decide

end Schema

namespace Plan

open Schema

variable {plan : Plan} {field : Field}

/-- The column of a field may hold nothing exactly if the value may be missing. -/
theorem defaultOf_eq_null_iff (field : Field) :
    Column.defaultOf field = .null ↔ field.nullable = true := by
  unfold Column.defaultOf
  split
  · rename_i nullable
    exact iff_of_true rfl nullable
  · rename_i required
    split
    · exact iff_of_false nofun required
    · exact iff_of_false nofun required

/-- The own rule of a field whose validation is not left empty allows null exactly if the value may
be missing. -/
theorem Declared.nullable_mem_ownRule (declared : plan.Declared) (member : field ∈ plan.fields)
    (stored : field.kind.isMedia = false) (filled : field.validation.any isBlankText = false) :
    nullableRule ∈ segments (ownRule field) ↔ field.nullable = true := by
  have read := declared.nullable field member
  cases absent : field.validation with
  | some validation =>
    rw [absent] at read filled
    have visible : isBlankText validation = false := filled
    rw [ownRule, absent, read]
    simp [visible, allowsNull]
  | none =>
    -- Without validation a value is required, and no rule of a kind or of options allows null.
    have catalog : ∀ kind ∈ FieldKind.all, nullableRule ∉ segments kind.facts.rule := by decide
    have required : field.nullable = false := by simpa [absent] using read
    have presence : nullableRule ≠ presenceRule field := by
      simp only [presenceRule, required, stored]
      decide
    rw [mem_segments_ownRule absent (by decide), required]
    refine iff_of_false ?_ Bool.false_ne_true
    rintro (same | said)
    · exact presence same
    · split at said
      · unfold kindRule at said
        split at said
        · exact absurd said (by decide)
        · exact catalog field.kind (FieldKind.mem_all _) said
      · split at said
        · exact absurd said (by decide)
        · exact absurd said (by decide)

/-- The own rule of a field whose validation is left empty allows null, though the value may not be
missing. -/
theorem Declared.ownRule_of_blank (declared : plan.Declared) (member : field ∈ plan.fields)
    (blank : field.validation.any isBlankText = true) :
    ownRule field = nullableRule ∧ field.nullable = false := by
  have read := declared.nullable field member
  obtain ⟨validation, given, empty⟩ := (Option.any_eq_true ..).mp blank
  rw [given] at read
  exact ⟨by simp [ownRule, given, empty], read.trans (allowsNull_of_isBlankText empty)⟩

/-- **Rules, columns and types agree on null.** The rule under the name of a field that is no upload
has the segment `nullable` exactly if the column of the field may hold nothing, and exactly if its
type in the model interface admits null. The exception is a validation that is left empty: the rule
is then `nullable` alone, and neither the column nor the type admits null. -/
theorem null_agreed (options : Options) {field : Field}
    (member : field ∈ (ofOptions options).fields) (stored : field.kind.isMedia = false) :
    fieldRules field ⊆ (ofOptions options).rules ∧
    AtKey ValidationRule.key (fieldRules field) field.name fun rule =>
    AtKey Column.name (ofOptions options).columns field.name fun column =>
    AtKey Prod.fst (ofOptions options).recordValues field.name fun value =>
      (field.validation.any isBlankText = false →
        (nullableRule ∈ segments rule.rule ↔ column.IsNullable) ∧
          (column.IsNullable ↔ value.2.AdmitsNull)) ∧
      (field.validation.any isBlankText = true →
        rule.rule = nullableRule ∧ ¬column.IsNullable ∧ ¬value.2.AdmitsNull) := by
  have declared := declared_ofOptions options
  refine ⟨fieldRules_subset options member, (own_fieldRules field).imp ?_⟩
  rintro ⟨key, rule⟩ rfl
  refine (declared.own_columns member (ofField?_of_stored stored)).imp ?_
  rintro column rfl
  refine (declared.own_recordValues member).imp ?_
  rintro value rfl
  have column : Column.IsNullable ⟨field.name, Column.typeOf field, Column.defaultOf field⟩ ↔
      field.nullable = true := (Column.isNullable_iff _).trans (defaultOf_eq_null_iff field)
  have type := Field.admitsNull_recordType stored
  refine ⟨fun filled => ?_, fun blank => ?_⟩
  · exact ⟨(declared.nullable_mem_ownRule member stored filled).trans column.symm,
      column.trans type.symm⟩
  · obtain ⟨rule, required⟩ := declared.ownRule_of_blank member blank
    rw [column, type, required]
    exact ⟨rule, nofun, nofun⟩

/-- Tickets with notes that may be left out. -/
def optionalNotes : Options :=
  { displayName := "Ticket", fields := "notes:textarea:nullable|string" }

/-- The notes of such a ticket. -/
def optionalNote : Field := ⟨"notes", .textarea, true, some "nullable|string", .none, .unset⟩

/-- The rules, the column and the type of such notes agree on null. -/
theorem null_agreed_notes :
    AtKey ValidationRule.key (fieldRules optionalNote) "notes" fun rule =>
    AtKey Column.name (ofOptions optionalNotes).columns "notes" fun column =>
    AtKey Prod.fst (ofOptions optionalNotes).recordValues "notes" fun value =>
      (nullableRule ∈ segments rule.rule ↔ column.IsNullable) ∧
        (column.IsNullable ↔ value.2.AdmitsNull) :=
  (@null_agreed optionalNotes optionalNote (by decide +kernel) rfl).2.imp fun _ columns =>
    columns.imp fun _ values => values.imp fun _ agreed => agreed.1 (by decide)

/-- Tickets with notes whose validation is left empty. -/
def waivedNotes : Options := { displayName := "Ticket", fields := "notes:textarea:" }

/-- The notes of such a ticket. -/
def waivedNote : Field := ⟨"notes", .textarea, false, some [], .none, .unset⟩

/-- The rules and the column of such notes do not agree on null. -/
theorem null_disputed : ¬∀ field ∈ (ofOptions waivedNotes).fields, field.kind.isMedia = false →
    AtKey ValidationRule.key (fieldRules field) field.name fun rule =>
    AtKey Column.name (ofOptions waivedNotes).columns field.name fun column =>
      nullableRule ∈ segments rule.rule ↔ column.IsNullable := by
  intro agreed
  have rules := agreed waivedNote (by decide +kernel) rfl
  have columns := rules.each ⟨"notes", nullableRule⟩ (by decide) rfl
  have said := columns.each ⟨"notes", .stored .text, .required⟩ (by decide +kernel) rfl
  exact absurd said (by decide)

end Plan

end Scaffold
