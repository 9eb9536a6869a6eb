import Scaffold.Proofs.Schema.Acceptance
import Scaffold.Proofs.Schema.Accounting
import Scaffold.Proofs.Schema.Distinct

/-!
# What becomes of fields

Whatever a text declares, its fields are well formed (`Field.WellFormed`): names, labels, models and
rules are tight and free of the marks that end them, only a kind with a list of options has options,
and no flag is among the rules. A field has no part that its token does not write, so this needs no
more than what the splitting at marks and the trimming of the pieces leave. Each entry that declares
no field is reported by a diagnostic of its own (`Schema.fields_accounted`).
-/
namespace Scaffold

open Text

/-- What every declared field satisfies. -/
structure Field.WellFormed (field : Field) : Prop where
  /-- The name is tight and holds none of the marks between the parts of a declaration. -/
  name : IsAtom [':', ','] field.name
  /-- Only a field of a kind with a list of options has options. -/
  kind : field.options ≠ .none → field.kind ∈ [.select, .radio, .checkboxGroup, .multiselect]
  /-- There is a label, and every label is tight. -/
  labels : ∀ labels ∈ field.labels?, labels ≠ [] ∧ ∀ label ∈ labels, Tight label
  /-- A model and the field that shows its records are tight. -/
  source : ∀ source ∈ field.source?, Tight source.1 ∧ Tight source.2
  /-- The validation is rules with bars between them, possibly none, and no flag is among them. -/
  validation : ∀ written ∈ field.validation, ∃ rules, written = joinWith ['|'] rules ∧
    ∀ rule ∈ rules, IsAtom ['|'] rule ∧ rule ∉ FieldFlags.words
  /-- The value may be missing exactly if a rule says so. -/
  nullable : field.nullable = true ↔
    ∃ written ∈ field.validation, Schema.nullableRule ∈ splitOn '|' written

/-- The kinds with a list of options. -/
theorem FieldKind.isEnumerable_iff {kind : FieldKind} : kind.isEnumerable = true ↔
    kind ∈ [FieldKind.select, .radio, .checkboxGroup, .multiselect] := by
  cases kind <;> decide

namespace Schema

variable {text token written : Text} {field : Field}

/-- The name in a trimmed token, and what stands behind it. -/
def splitName (token : Text) : Text × Option Text :=
  match splitFirst? ':' token with
  | some (name, behind) => (trim name, some behind)
  | none => (token, none)

/-- The options that a field of a kind keeps of those that are written, if any are. -/
def keptOptions (kind : FieldKind) (written : Option Text) : FieldOptions :=
  if kind.isEnumerable then (written.map readOptions).getD .none else .none

/-- The field of a name and a kind whose validation and options are written as these parts. -/
def fieldOf (name : Text) (kind : FieldKind) (parts : Option Text × Option Text) : Field :=
  let rules := (parts.1.map segments).getD []
  let validation := parts.1.bind fun _ => validationOf rules
  { name, kind, validation
    options := keptOptions kind parts.2
    nullable := (validation.map allowsNull).getD false
    flags := flagsIn rules }

/-- Options of a kind with a list of them are kept. -/
theorem keepOptions_fst (token : Text) (kind : FieldKind) (written : Option Text) :
    (keepOptions token kind ((written.map readOptions).getD .none)).1 = keptOptions kind written := by
  unfold keepOptions keptOptions
  cases kind.isEnumerable with
  | true => simp
  | false =>
    by_cases none : (written.map readOptions).getD .none = .none <;> simp [none]

/-- A token with a name declares a field, whatever else it writes. -/
theorem readField_eq (token : Text) : readField token =
    let named := splitName (trim token)
    let typed := splitType named.2
    let kind := readKind (trim token) typed.1
    let parts := (typed.2.map (splitOptions kind.1)).getD (none, none)
    if named.1.isEmpty then (none, [⟨trim token, .emptyToken⟩])
    else (some (fieldOf named.1 kind.1 parts), kind.2 ++
      (keepOptions (trim token) kind.1 ((parts.2.map readOptions).getD .none)).2) := by
  simp only [fieldOf, ← keepOptions_fst (trim token)]
  unfold readField splitName
  cases cut : splitFirst? ':' (trim token) with
  | none =>
    simp only [cut]
    rfl
  | some sides =>
    cases rest : (splitType (some sides.2)).2 <;> simp only [cut, rest] <;> rfl

/-- The name that a token declares is tight, if there is one. -/
theorem tight_name_of_mem_readField (read : field ∈ (readField token).1) : Tight field.name := by
  have trimmed : trim (splitName (trim token)).1 = (splitName (trim token)).1 := by
    unfold splitName
    split <;> exact trim_trim _
  rw [readField_eq] at read
  simp only at read
  split at read
  · exact absurd read (Option.not_mem_none _)
  · rename_i filled
    obtain rfl := Option.some.inj read
    exact tight_of_trim (fun empty => filled (List.isEmpty_iff.mpr empty)) trimmed

/-- A piece between separators that is more than blanks is an atom when it is trimmed. -/
theorem isAtom_trim_of_mem_splitOn {separator : Char} {piece : Text}
    (listed : piece ∈ splitOn separator text) (filled : trim piece ≠ []) :
    IsAtom [separator] (trim piece) := by
  refine ⟨filled, trim_trim piece, fun c single inside => ?_⟩
  rw [List.mem_singleton.mp single] at inside
  exact notMem_of_mem_splitOn listed ((trim_infix_self piece).subset inside)

/-- A rule is an atom among the bars, and no flag. -/
theorem isAtom_of_mem_rulesIn {rule : Text} (member : rule ∈ rulesIn (segments text)) :
    IsAtom ['|'] rule ∧ rule ∉ FieldFlags.words := by
  obtain ⟨listed, kept⟩ := List.mem_filter.mp member
  obtain ⟨piece, found, rfl⟩ := List.mem_map.mp listed
  simp only [Bool.and_eq_true, Bool.not_eq_true', List.isEmpty_eq_false_iff,
    List.contains_eq_mem, decide_eq_false_iff_not] at kept
  exact ⟨isAtom_trim_of_mem_splitOn found kept.1, kept.2⟩

/-- A validation is the rules among the pieces with bars between them. -/
theorem eq_of_mem_validationOf {parts : List Text} {rules : Text} (read : rules ∈ validationOf parts) :
    rules = joinWith ['|'] (rulesIn parts) := by
  unfold validationOf at read
  split at read
  · exact absurd read (Option.not_mem_none _)
  · exact (Option.some.inj read).symm

/-- Rules that are atoms are the stretches between the bars of their joined form, and these are
trimmed. -/
theorem splitOn_joinWith_rules {rules : List Text} (atoms : ∀ rule ∈ rules, IsAtom ['|'] rule)
    (some : rules ≠ []) : splitOn '|' (joinWith ['|'] rules) = rules ∧
      segments (joinWith ['|'] rules) = rules := by
  have split := splitOn_joinWith_of_notMem some fun rule member => (atoms rule member).free '|'
    List.mem_cons_self
  refine ⟨split, ?_⟩
  rw [segments, split]
  conv => rhs; rw [← List.map_id rules]
  exact List.map_congr_left fun rule member => (atoms rule member).trimmed

/-- Rules that are atoms allow a value to be missing exactly if the rule for that is one of the
stretches between their bars. -/
theorem allowsNull_joinWith {rules : List Text} (atoms : ∀ rule ∈ rules, IsAtom ['|'] rule) :
    allowsNull (joinWith ['|'] rules) = true ↔
      nullableRule ∈ splitOn '|' (joinWith ['|'] rules) := by
  rw [allowsNull, List.contains_iff_mem]
  by_cases none : rules = []
  · rw [none]
    decide
  · obtain ⟨split, trimmed⟩ := splitOn_joinWith_rules atoms none
    rw [split, trimmed]

/-- Options that are read are none, labels of which there is one, or records of a model with a field
that shows them, and all of these are tight. -/
theorem readOptions_cases (text : Text) : readOptions text = .none ∨
    (∃ labels, readOptions text = .labels labels ∧ labels ≠ [] ∧ ∀ label ∈ labels, Tight label) ∨
    ∃ model shown, readOptions text = .records model shown ∧ Tight model ∧ Tight shown := by
  have default : Tight defaultShown := ⟨⟨'n', rfl, by decide⟩, ⟨'e', rfl, by decide⟩⟩
  unfold readOptions
  split
  · exact .inl rfl
  · rename_i c rest trimmed
    split
    · simp only
      split
      · exact .inl rfl
      · rename_i model named
        refine .inr (.inr ⟨model, _, rfl, tight_of_nonBlank? named, ?_⟩)
        cases shown : nonBlank? ((splitFirst? '.' rest).getD (rest, defaultShown)).2 with
        | none => exact default
        | some shown' => exact tight_of_nonBlank? shown
    · split
      · exact .inl rfl
      · rename_i label labels listed
        refine .inr (.inl ⟨label :: labels, rfl, List.cons_ne_nil _ _, fun other member => ?_⟩)
        rw [← listed] at member
        obtain ⟨found, filled⟩ := List.mem_filter.mp member
        obtain ⟨piece, -, rfl⟩ := List.mem_map.mp found
        exact tight_trim (by simpa using filled)

/-- A field that is read from a token without commas is well formed. -/
theorem wellFormed_of_mem_readField (whole : ',' ∉ token) (read : field ∈ (readField token).1) :
    field.WellFormed := by
  obtain ⟨inside, parts, -, rules, options⟩ := readFrom_of_mem read
  have name := tight_name_of_mem_readField read
  have validation : ∀ written ∈ field.validation, ∃ parts, written = joinWith ['|'] parts ∧
      ∀ rule ∈ parts, IsAtom ['|'] rule ∧ rule ∉ FieldFlags.words := by
    intro written member
    obtain ⟨source, -, listed⟩ := rules written member
    exact ⟨_, eq_of_mem_validationOf listed, fun rule => isAtom_of_mem_rulesIn⟩
  have own : field.options = .none ∨
      (∃ labels, field.options = .labels labels ∧ labels ≠ [] ∧ ∀ label ∈ labels, Tight label) ∨
      ∃ model shown, field.options = .records model shown ∧ Tight model ∧ Tight shown := by
    rcases options with none | ⟨-, written, -, same⟩
    · exact .inl none
    · rw [same]
      exact readOptions_cases written
  refine ⟨⟨name.ne_nil, name.trim_eq, ?_⟩, fun some => ?_, ?_, ?_, validation, ?_⟩
  · intro c mark there
    simp only [List.mem_cons, List.not_mem_nil, or_false] at mark
    rcases mark with rfl | rfl
    · exact colon_notMem_name read there
    · exact whole (inside there)
  · rcases options with none | ⟨enumerable, -⟩
    · exact absurd none some
    · exact FieldKind.isEnumerable_iff.mp enumerable
  · intro labels member
    rcases own with none | ⟨others, same, tight⟩ | ⟨model, shown, same, -⟩
    · simp [Field.labels?, none] at member
    · simp only [Field.labels?, same, Option.mem_def, Option.some.injEq] at member
      exact member ▸ tight
    · simp [Field.labels?, same] at member
  · intro source member
    rcases own with none | ⟨others, same, -⟩ | ⟨model, shown, same, tight⟩
    · simp [Field.source?, none] at member
    · simp [Field.source?, same] at member
    · simp only [Field.source?, same, Option.mem_def, Option.some.injEq] at member
      exact member ▸ tight
  · rw [nullable_of_mem_readField read]
    cases written : field.validation with
    | none => simp
    | some text =>
      obtain ⟨parts, rfl, atoms⟩ := validation text written
      simpa using allowsNull_joinWith fun rule member => (atoms rule member).1

/-- What the entries of a text declare one by one, in their order. -/
def declaredFields (text : Text) : List Field :=
  (tokens text).filterMap fun token => (readField token).1

/-- Fields are read by their names. -/
theorem readFieldsAfter_eq {known : List Field} {all : List Text} : readFieldsAfter known all =
    readAfter readField (fun field => some field.name)
      (fun field => ⟨field.name, .duplicateField⟩) known all := by
  have taken : ∀ (known : List Field) (field : Field), known.any (·.name == field.name) =
      (known.filterMap fun other => some other.name).contains field.name := by
    intro known field
    rw [Bool.eq_iff_iff, List.contains_iff_mem, List.any_eq_true, List.mem_filterMap]
    simp only [beq_iff_eq, Option.some.injEq]
  induction all generalizing known with
  | nil => rfl
  | cons token rest ih =>
    unfold readFieldsAfter readAfter
    cases readField token with
    | mk declared notes =>
      cases declared with
      | none => simp only [ih]
      | some field => simp only [Option.any_some, taken, ih]

/-- The diagnostic is about a field that is not declared. -/
def isLostField (note : Diagnostic) : Bool :=
  note.kind == .emptyToken || note.kind == .duplicateField

/-- A token declares a field or is lost once. -/
theorem lost_readField (token : Text) :
    (readField token).1.toList.length + (readField token).2.countP isLostField = 1 := by
  have kinds : ∀ token declared, (readKind token declared).2.countP isLostField = 0 := by
    intro token declared
    unfold readKind
    split
    · rfl
    · split <;> rfl
  have ignored : ∀ token kind options, (keepOptions token kind options).2.countP isLostField = 0 := by
    intro token kind options
    unfold keepOptions
    split <;> rfl
  rw [readField_eq]
  simp only
  split
  · rfl
  · rw [List.countP_append, kinds, ignored]
    rfl

/-- Fields are well formed and none is lost without a report. What is declared, in the order of the
entries, is the first of every name; every declared field is well formed; and every entry is
declared or reported as lost, once. -/
theorem fields_accounted (text : Text) :
    let fields := (readFields text).1
    (fields.map (·.name)).Nodup ∧
    fields = firstByKey (fun field => some field.name) (declaredFields text) ∧
    (∀ field ∈ fields, field.WellFormed) ∧
    entryCount text = fields.length + ((readFields text).2.countP (·.kind == .emptyToken) +
      (readFields text).2.countP (·.kind == .duplicateField)) := by
  refine ⟨nodup_readFields text, ?_, ?_, ?_⟩
  · rw [readFields, readFieldsAfter_eq, readAfter_fst, List.nil_append]
    rfl
  · exact forall_mem_readFieldsAfter (fun token listed field read =>
      wellFormed_of_mem_readField (comma_notMem_of_mem_tokens listed) read) (by simp)
  · have apart : (readFields text).2.countP isLostField =
        (readFields text).2.countP (·.kind == .emptyToken) +
          (readFields text).2.countP (·.kind == .duplicateField) :=
      countP_or (fun note empty => by rw [beq_iff_eq] at empty; rw [empty]; rfl) _
    rw [← apart, ← length_tokens, readFields, readFieldsAfter_eq,
      ← length_readAfter lost_readField fun _ => rfl, List.length_nil, Nat.zero_add]

end Schema

end Scaffold
