import Scaffold.Proofs.Schema.Segment

/-!
# Reading what was written

A proper declaration of an entity, written down, is read back as what it declares, and the reader
has nothing to remark (`read_declaration`). Every token is read back alone (`readField_token`,
`readRelationship_token`, `readProjection?_key`), and lists of tokens by induction over them, with
the fields and relationships already read as the accumulated ones.
-/
namespace Scaffold.Schema

/-- Tight tokens without commas are read back from their joined form. -/
theorem tokens_joinWith {texts : List Text} (tight : ∀ text ∈ texts, Text.Tight text)
    (whole : ∀ text ∈ texts, ',' ∉ text) : tokens (Text.joinWith [','] texts) = texts := by
  by_cases none : texts = []
  · rw [none]
    decide
  · rw [tokens, Text.splitOn_joinWith_of_notMem none whole]
    have trimmed : texts.map Text.trim = texts := by
      conv => rhs; rw [← List.map_id texts]
      exact List.map_congr_left fun text member => (tight text member).trim_eq
    rw [trimmed, List.filter_eq_self]
    intro text member
    simpa using (tight text member).ne_nil

/-- The name of a kind is an atom. -/
theorem isAtom_kind (kind : FieldKind) : Text.IsAtom [',', ':'] kind.name := by
  cases kind <;> decide

/-- A kind is found by its name. -/
theorem lookup?_name (kind : FieldKind) : FieldKind.lookup? kind.name = some kind := by
  cases kind <;> decide

example : FieldKind.lookup? "select" = some .select := by decide +kernel

/-- The name of a kind of field is read as the kind. -/
theorem readKind_name (token : Text) (kind : FieldKind) :
    readKind token kind.name = (kind, []) := by
  have filled : kind.name.isEmpty = false := by simpa using (isAtom_kind kind).filled
  simp [readKind, filled, lookup?_name]

namespace WrittenOptions

variable {options : WrittenOptions}

/-- The label between bars of labels, the empty one at the end left out. -/
theorem labels_of_joinWith {labels : List Text}
    (atoms : ∀ label ∈ labels, Text.IsAtom [',', ':', '|'] label) (tail : List Text)
    (last : tail = [] ∨ tail = [[]]) (some : labels ≠ []) :
    (segments (Text.joinWith ['|'] (labels ++ tail))).filter (!·.isEmpty) = labels := by
  have whole : ∀ piece ∈ labels ++ tail, '|' ∉ piece := by
    intro piece member
    rcases List.mem_append.mp member with label | empty
    · exact (atoms piece label).free '|' (by decide)
    · rcases last with rfl | rfl
      · simp at empty
      · rw [List.mem_singleton.mp empty]
        simp
  have trimmed : labels.map Text.trim = labels := by
    conv => rhs; rw [← List.map_id labels]
    exact List.map_congr_left fun label member => (atoms label member).trimmed
  have kept : labels.filter (!·.isEmpty) = labels := by
    rw [List.filter_eq_self]
    intro label member
    simpa using (atoms label member).filled
  have gone : (tail.map Text.trim).filter (!·.isEmpty) = [] := by
    rcases last with rfl | rfl <;> rfl
  rw [segments, Text.splitOn_joinWith_of_notMem (by simp [some]) whole, List.map_append,
    List.filter_append, trimmed, kept, gone, List.append_nil]

/-- Written options are read as what they declare. -/
theorem Proper.readOptions_text (proper : options.Proper) :
    readOptions options.text = options.options := by
  have trimmed := proper.tight.trim_eq
  cases options with
  | labels first more barred =>
    obtain ⟨atoms, noReference⟩ := proper
    have filled := (atoms first List.mem_cons_self).filled
    have labels : ∃ tail, (labels first more barred).text =
        Text.joinWith ['|'] (first :: more ++ tail) ∧ (tail = [] ∨ tail = [[]]) := by
      rcases text_labels first more barred with ⟨written, -⟩ | written
      · exact ⟨[], by rw [written, List.append_nil], .inl rfl⟩
      · exact ⟨[[]], written, .inr rfl⟩
    obtain ⟨tail, written, last⟩ := labels
    have head := Text.head?_joinWith_cons ['|'] filled (more ++ tail)
    have read := labels_of_joinWith atoms tail last (by simp)
    rw [← List.cons_append, ← written] at head
    rw [← written] at read
    cases spelled : (WrittenOptions.labels first more barred).text with
    | nil =>
      rw [spelled, List.head?_nil] at head
      exact absurd (List.head?_eq_none_iff.mp head.symm) filled
    | cons c rest =>
      have other : c ≠ referenceMark := by
        rintro rfl
        rw [spelled, List.head?_cons] at head
        exact noReference head.symm
      rw [spelled] at trimmed read
      simp [readOptions, trimmed, other, read, WrittenOptions.options]
  | records model shown =>
    obtain ⟨inModel, inShown⟩ := proper
    have pointless : '.' ∉ model := inModel.free '.' (by decide)
    have some : ∀ {text : Text}, Text.trim text = text → text ≠ [] →
        Text.nonBlank? text = Option.some text := by
      intro text same filled
      rw [Text.nonBlank?, same]
      cases text with
      | nil => exact absurd rfl filled
      | cons c rest => rfl
    rw [readOptions, trimmed, text, List.cons_append]
    simp [Text.splitFirst?_append pointless, some inModel.trimmed inModel.filled,
      some inShown.trimmed inShown.filled, WrittenOptions.options]

end WrittenOptions

namespace Segment

variable {kind : FieldKind} {segment : Segment}

/-- A segment is written as a flag exactly if it is that flag. -/
theorem Proper.text_eq_word (proper : segment.Proper kind) (flag : Flag) :
    segment.text = flag.word ↔ segment = .flag flag := by
  have word : flag.word ∈ FieldFlags.words := by cases flag <;> decide
  constructor
  · intro same
    cases segment with
    | flag mark => cases mark <;> cases flag <;> first | rfl | exact absurd same (by decide)
    | rule name =>
      rw [text] at same
      exact absurd (same ▸ word) proper.2.2.1
    | parameterised name parameter =>
      have absent := flag.isAtom_word.free ':' (by decide)
      rw [← same] at absent
      exact absurd (by simp [text]) absent
  · rintro rfl
    rfl

/-- A rule is written as the rule that lets a value be missing exactly if it is that rule. -/
theorem Proper.text_eq_nullable (proper : segment.Proper kind) :
    segment.text = nullableRule ∧ segment.isRule = true ↔ segment = .rule nullableRule := by
  constructor
  · rintro ⟨same, isRule⟩
    cases segment with
    | flag mark => exact absurd isRule (by simp [Segment.isRule])
    | rule name => rw [← same, text]
    | parameterised name parameter =>
      have absent : ':' ∉ nullableRule := by decide
      rw [← same] at absent
      exact absurd (by simp [text]) absent
  · rintro rfl
    exact ⟨rfl, rfl⟩

end Segment

namespace FieldDeclaration

variable {declaration : FieldDeclaration}

/-- The parts of a validation are the texts of its segments. -/
theorem Proper.parts_eq (proper : declaration.Proper) :
    (declaration.validation?.map Schema.segments).getD [] = declaration.segments.map Segment.text := by
  by_cases none : declaration.segments = []
  · simp [validation?, none]
  · have trimmed : (declaration.segments.map Segment.text).map Text.trim =
        declaration.segments.map Segment.text := by
      rw [List.map_map]
      refine List.map_congr_left fun segment member => ?_
      exact (proper.segments segment member).isAtom.trimmed
    simp [validation?, none, Schema.segments, proper.splitOn_validationText none, trimmed]

/-- The rules among the parts are the rules of the declaration. -/
theorem Proper.rulesIn_eq (proper : declaration.Proper) :
    rulesIn (declaration.segments.map Segment.text) = declaration.rules := by
  rw [rulesIn, List.filter_map, rules]
  congr 1
  refine List.filter_congr fun segment member => ?_
  exact (proper.segments segment member).isKept.listed.isRule_eq

/-- A flag is a part exactly if it was declared. -/
theorem Proper.contains_word (proper : declaration.Proper) (flag : Flag) :
    (declaration.segments.map Segment.text).contains flag.word =
      declaration.segments.contains (.flag flag) := by
  rw [Bool.eq_iff_iff, List.contains_iff_mem, List.contains_iff_mem, List.mem_map]
  constructor
  · rintro ⟨segment, member, same⟩
    rwa [← (proper.segments segment member).text_eq_word flag |>.mp same]
  · exact fun member => ⟨_, member, rfl⟩

/-- The flags among the parts are those declared. -/
theorem Proper.flagsIn_eq (proper : declaration.Proper) :
    flagsIn (declaration.segments.map Segment.text) = declaration.field.flags := by
  have preview := proper.contains_word .showPreview
  have several := proper.contains_word .multiple
  have searched := proper.contains_word .searchable
  simp only [Flag.word] at preview several searched
  rw [flagsIn, preview, several, searched]
  rfl

/-- Without rules, there are only flags. -/
theorem rules_eq_nil_iff :
    declaration.rules = [] ↔ ∀ segment ∈ declaration.segments, segment.isRule = false := by
  simp [rules]

/-- The validation that is read is the rules of the declaration. -/
theorem Proper.validation_eq (proper : declaration.Proper) :
    (declaration.validation?.bind fun _ =>
      validationOf (declaration.segments.map Segment.text)) = declaration.field.validation := by
  by_cases none : declaration.segments = []
  · simp [validation?, none, field, rules]
  · have some : declaration.validation? = Option.some declaration.validationText := by
      simp [validation?, none]
    rw [some, Option.bind_some, validationOf, proper.rulesIn_eq, field]
    by_cases ruleless : declaration.rules = []
    · obtain ⟨segment, rest, split⟩ := List.exists_cons_of_ne_nil none
      have member : segment ∈ declaration.segments := by simp [split]
      have isFlag := rules_eq_nil_iff.mp ruleless segment member
      have flag := (proper.segments segment member).isKept.listed.isRule_eq
      have filled : segment.text.isEmpty = false := by
        simpa using (proper.segments segment member).isAtom.filled
      rw [isFlag, filled] at flag
      have word : FieldFlags.words.contains segment.text = true := by simpa using flag
      have any : (declaration.segments.map Segment.text).any FieldFlags.words.contains = true :=
        List.any_eq_true.mpr ⟨_, List.mem_map_of_mem member, word⟩
      simp [ruleless, any]
    · simp [ruleless]

/-- The value may be missing exactly if a rule says so. -/
theorem Proper.nullable_eq (proper : declaration.Proper) :
    (declaration.field.validation.map allowsNull).getD false = declaration.field.nullable := by
  have listed : nullableRule ∈ declaration.rules ↔
      .rule nullableRule ∈ declaration.segments := by
    rw [rules, List.mem_map]
    constructor
    · rintro ⟨segment, member, same⟩
      obtain ⟨inside, isRule⟩ := List.mem_filter.mp member
      rwa [← (proper.segments segment inside).text_eq_nullable.mp ⟨same, isRule⟩]
    · exact fun member => ⟨_, List.mem_filter.mpr ⟨member, rfl⟩, rfl⟩
  rw [field]
  by_cases ruleless : declaration.rules = []
  · rw [ruleless] at listed
    have absent : .rule nullableRule ∉ declaration.segments := fun member =>
      List.not_mem_nil (listed.mpr member)
    simp [ruleless, absent]
  · have legal : ∀ rule ∈ declaration.rules, Text.IsAtom [',', '|'] rule := by
      intro rule member
      obtain ⟨segment, inside, rfl⟩ := List.mem_map.mp member
      exact (proper.segments segment (List.mem_filter.mp inside).1).isAtom
    have trimmed : declaration.rules.map Text.trim = declaration.rules := by
      conv => rhs; rw [← List.map_id declaration.rules]
      exact List.map_congr_left fun rule member => (legal rule member).trimmed
    have split := Text.splitOn_joinWith_of_notMem ruleless fun rule member =>
      (legal rule member).free '|' (by decide)
    have read : allowsNull (Text.joinWith ['|'] declaration.rules) =
        declaration.segments.contains (.rule nullableRule) := by
      rw [allowsNull, Schema.segments, split, trimmed, Bool.eq_iff_iff, List.contains_iff_mem,
        List.contains_iff_mem, listed]
    simp [ruleless, read]

/-- Declared options are kept. -/
theorem Proper.keepOptions_eq (proper : declaration.Proper) (token : Text) :
    keepOptions token declaration.kind declaration.field.options =
      (declaration.field.options, []) := by
  cases options : declaration.options with
  | none => simp [field, options, keepOptions]
  | some written =>
    have listed := (proper.options written options).1
    have enumerable : ∀ kind ∈ [FieldKind.select, .radio, .checkboxGroup, .multiselect],
        kind.isEnumerable = true := by decide
    simp [keepOptions, enumerable _ listed]

/-- What is written behind the type is read as the validation and the options. -/
theorem Proper.splitOptions_rest (proper : declaration.Proper) {rest : Text}
    (written : declaration.rest? = some rest) :
    splitOptions declaration.kind rest =
      (declaration.validation?, declaration.options.map WrittenOptions.text) := by
  cases options : declaration.options with
  | some legal =>
    have spelled : declaration.validationText ++ ':' :: legal.text = rest := by
      simpa [rest?, options] using written
    rw [← spelled]
    exact splitOptions_options proper (proper.options legal options).2
  | none =>
    have spelled : declaration.segments ≠ [] ∧ declaration.validationText = rest := by
      simpa [rest?, options] using written
    rw [← spelled.2, splitOptions_validation proper spelled.1]
    simp [validation?, spelled.1]

/-- Where nothing is written behind the type, there is neither validation nor options. -/
theorem nothing_of_rest (written : declaration.rest? = none) :
    declaration.validation? = none ∧ declaration.options = none := by
  cases options : declaration.options with
  | some legal => simp [rest?, options] at written
  | none =>
    have empty : declaration.segments = [] := by simpa [rest?, options] using written
    simp [validation?, empty]

/-- The options that are read are those declared. -/
theorem Proper.options_eq (proper : declaration.Proper) :
    ((declaration.options.map WrittenOptions.text).map readOptions).getD .none =
      declaration.field.options := by
  cases options : declaration.options with
  | none => simp [field, options]
  | some written =>
    have read := (proper.options written options).2.readOptions_text
    simp [field, options, read]

/-- The type and what is written behind it. -/
def behindName (declaration : FieldDeclaration) : Text :=
  declaration.kind.name ++
    match declaration.rest? with
    | some rest => ':' :: rest
    | none => []

/-- A declaration is its name, a colon and the rest. -/
theorem token_eq (declaration : FieldDeclaration) :
    declaration.token = declaration.name ++ ':' :: declaration.behindName := by
  cases rest : declaration.rest? <;> simp [token, behindName, rest]

/-- The type is read back. -/
theorem splitType_behindName (declaration : FieldDeclaration) :
    splitType (some declaration.behindName) = (declaration.kind.name, declaration.rest?) := by
  have atom := isAtom_kind declaration.kind
  have colonless : ':' ∉ declaration.kind.name := atom.free ':' (by decide)
  cases rest : declaration.rest? with
  | none =>
    simp [splitType, behindName, rest, Text.splitFirst?_of_notMem colonless, atom.trimmed]
  | some rest =>
    simp [splitType, behindName, rest, Text.splitFirst?_append colonless, atom.trimmed]

/-- What is written behind a name is tight. -/
theorem Proper.tight_behindName (proper : declaration.Proper) :
    Text.Tight declaration.behindName := by
  have kind := (isAtom_kind declaration.kind).tight
  cases options : declaration.options with
  | some written =>
    have ending := (proper.options written options).2.tight
    have whole := kind.between ending (':' :: declaration.validationText ++ [':'])
    simpa [behindName, rest?, options] using whole
  | none =>
    by_cases none : declaration.segments = []
    · simpa [behindName, rest?, options, none] using kind
    · have whole := kind.between (proper.tight_validationText none) [':']
      simpa [behindName, rest?, options, none] using whole

/-- The written declaration is tight. -/
theorem Proper.tight_token (proper : declaration.Proper) : Text.Tight declaration.token := by
  rw [token_eq]
  simpa using proper.name.tight.between proper.tight_behindName [':']

/-- The written declaration has no comma. -/
theorem Proper.comma_notMem (proper : declaration.Proper) : ',' ∉ declaration.token := by
  have inName : ',' ∉ declaration.name := proper.name.free ',' (by decide)
  have inKind : ',' ∉ declaration.kind.name :=
    (isAtom_kind declaration.kind).free ',' (by decide)
  have inValidation : ',' ∉ declaration.validationText := by
    intro inside
    rcases Text.mem_joinWith inside with bar | ⟨piece, member, comma⟩
    · exact absurd bar (by decide)
    · obtain ⟨segment, listed, rfl⟩ := List.mem_map.mp member
      exact (proper.segments segment listed).isAtom.free ',' (by decide) comma
  have inRest : ∀ rest, declaration.rest? = some rest → ',' ∉ rest := by
    intro rest written
    cases options : declaration.options with
    | some options' =>
      have inOptions := (proper.options options' options).2.free ',' (by decide)
      have spelled : declaration.validationText ++ ':' :: options'.text = rest := by
        simpa [rest?, options] using written
      rw [← spelled]
      simp [inValidation, inOptions]
    | none =>
      have spelled : declaration.segments ≠ [] ∧ declaration.validationText = rest := by
        simpa [rest?, options] using written
      rw [← spelled.2]
      exact inValidation
  rw [token_eq, behindName]
  cases rest : declaration.rest? with
  | none => simp [inName, inKind]
  | some written => simp [inName, inKind, inRest written rest]

/-- A written field is read back. -/
theorem Proper.readField_token (proper : declaration.Proper) :
    readField declaration.token = (some declaration.field, []) := by
  have colonless : ':' ∉ declaration.name := proper.name.free ':' (by decide)
  have cut := Text.splitFirst?_append colonless declaration.behindName
  rw [← token_eq] at cut
  have named : declaration.name.isEmpty = false := by simpa using proper.name.filled
  have parts := proper.parts_eq
  have options := proper.options_eq
  have validation := proper.validation_eq
  unfold readField
  cases written : declaration.rest? with
  | none =>
    obtain ⟨noValidation, noOptions⟩ := nothing_of_rest written
    rw [noValidation] at parts validation
    rw [noOptions, Option.map_none] at options
    simp only [proper.tight_token.trim_eq, cut, proper.name.trimmed, named, Bool.false_eq_true,
      ↓reduceIte, splitType_behindName, readKind_name, written, parts, proper.flagsIn_eq,
      validation, proper.nullable_eq, options, proper.keepOptions_eq, List.append_nil]
    rfl
  | some rest =>
    simp only [proper.tight_token.trim_eq, cut, proper.name.trimmed, named, Bool.false_eq_true,
      ↓reduceIte, splitType_behindName, readKind_name, written, proper.splitOptions_rest written,
      parts, proper.flagsIn_eq, validation, proper.nullable_eq, options, proper.keepOptions_eq,
      List.append_nil]
    rfl

/-- Written fields of different names are read back, behind others of different names. -/
theorem readFieldsAfter_tokens (declarations : List FieldDeclaration) : ∀ (known : List Field),
    (∀ declaration ∈ declarations, declaration.Proper) →
    (known.map (·.name) ++ declarations.map (·.name)).Nodup →
    readFieldsAfter known (declarations.map (·.token)) =
      (known ++ declarations.map (·.field), []) := by
  induction declarations with
  | nil => intro known _ _; simp [readFieldsAfter]
  | cons declaration rest ih =>
    intro known proper distinct
    have own := proper declaration List.mem_cons_self
    have new : known.any (·.name == declaration.field.name) = false := by
      rw [List.any_eq_false]
      intro other member same
      have split := (List.nodup_append.mp distinct).2.2
      have apart := split other.name (List.mem_map_of_mem member) declaration.name (by simp)
      exact apart (by simpa [field] using same)
    have later : ((known ++ [declaration.field]).map (·.name) ++ rest.map (·.name)).Nodup := by
      simpa [field] using distinct
    have read := ih (known ++ [declaration.field])
      (fun other member => proper other (List.mem_cons_of_mem _ member)) later
    simp [readFieldsAfter, own.readField_token, new, read]

end FieldDeclaration

/-- The name of a kind of relationship is an atom. -/
theorem isAtom_relationKind (kind : RelationKind) : Text.IsAtom [',', ':'] kind.name := by
  cases kind <;> decide

/-- The name of a kind of relationship is read as the kind. -/
theorem readRelationKind_name (token : Text) (kind : RelationKind) :
    readRelationKind token kind.name = (kind, []) := by
  have found : RelationKind.ofText? kind.name = some kind := by cases kind <;> decide
  simp [readRelationKind, found]

namespace RelationshipDeclaration

variable {declaration : RelationshipDeclaration}

/-- The name with its parent is an atom. -/
theorem Proper.isAtom_nameText (proper : declaration.Proper) :
    Text.IsAtom [',', ':'] declaration.nameText := by
  have name : ∀ c ∈ [',', ':'], c ∉ declaration.name := by
    intro c listed
    refine proper.name.free c ?_
    rcases List.mem_cons.mp listed with rfl | colon
    · exact List.mem_cons_self
    · exact List.mem_cons_of_mem _ (List.mem_append_left ['^'] colon)
  cases parent : declaration.parent with
  | none => exact ⟨by simpa [nameText, parent] using proper.name.filled,
      by simpa [nameText, parent] using proper.name.trimmed, by simpa [nameText, parent] using name⟩
  | some above =>
    have atom := proper.parent above parent
    have tight : Text.Tight declaration.nameText := by
      simpa [nameText, parent] using proper.name.tight.between atom.tight [cascadeMark]
    refine ⟨tight.ne_nil, tight.trim_eq, fun c listed inside => ?_⟩
    simp only [nameText, parent, List.mem_append, List.mem_cons] at inside
    rcases inside with own | mark | other
    · exact name c listed own
    · rw [mark] at listed
      exact absurd listed (by decide)
    · exact atom.free c listed other

/-- The parts of a written relationship. -/
def parts (declaration : RelationshipDeclaration) : List Text :=
  [declaration.nameText, declaration.kind.name, declaration.target] ++
    declaration.foreignKey.toList

/-- All parts are atoms. -/
theorem Proper.isAtom_parts (proper : declaration.Proper) :
    ∀ part ∈ declaration.parts, Text.IsAtom [',', ':'] part := by
  intro part member
  rcases List.mem_append.mp member with given | key
  · simp only [List.mem_cons, List.not_mem_nil, or_false] at given
    rcases given with rfl | rfl | rfl
    · exact proper.isAtom_nameText
    · exact isAtom_relationKind _
    · exact proper.target
  · exact proper.foreignKey part (Option.mem_toList.mp key)

/-- The written relationship is tight. -/
theorem Proper.tight_token (proper : declaration.Proper) : Text.Tight declaration.token :=
  Text.Tight.joinWith (by simp) fun part member => (proper.isAtom_parts part member).tight

/-- The written relationship has no comma. -/
theorem Proper.comma_notMem (proper : declaration.Proper) : ',' ∉ declaration.token := by
  intro inside
  rcases Text.mem_joinWith inside with colon | ⟨part, member, comma⟩
  · exact absurd colon (by decide)
  · exact (proper.isAtom_parts part member).free ',' (by decide) comma

/-- The parts are read back. -/
theorem Proper.splitOn_token (proper : declaration.Proper) :
    (Text.splitOn ':' declaration.token).map Text.trim = declaration.parts := by
  have split : Text.splitOn ':' declaration.token = declaration.parts :=
    Text.splitOn_joinWith_of_notMem (by simp) fun part member =>
      (proper.isAtom_parts part member).free ':' (by decide)
  rw [split]
  conv => rhs; rw [← List.map_id declaration.parts]
  exact List.map_congr_left fun part member => (proper.isAtom_parts part member).trimmed

/-- The name and the parent are read back. -/
theorem Proper.splitFirst?_nameText (proper : declaration.Proper) :
    (declaration.parent = none ∧ declaration.nameText = declaration.name ∧
      Text.splitFirst? cascadeMark declaration.nameText = none) ∨
    ∃ above, declaration.parent = some above ∧ Text.nonBlank? above = some above ∧
      Text.splitFirst? cascadeMark declaration.nameText = some (declaration.name, above) := by
  have unmarked : cascadeMark ∉ declaration.name := proper.name.free cascadeMark (by decide)
  cases parent : declaration.parent with
  | none =>
    have alone : declaration.nameText = declaration.name := by simp [nameText, parent]
    exact .inl ⟨rfl, alone, by rw [alone, Text.splitFirst?_of_notMem unmarked]⟩
  | some above =>
    have atom := proper.parent above parent
    obtain ⟨c, rest, spelled⟩ := List.exists_cons_of_ne_nil atom.filled
    have filled : Text.nonBlank? above = some above := by
      rw [Text.nonBlank?, atom.trimmed, spelled]
    have both : declaration.nameText = declaration.name ++ cascadeMark :: above := by
      simp [nameText, parent]
    exact .inr ⟨above, rfl, filled, by rw [both, Text.splitFirst?_append unmarked]⟩

/-- A written relationship is read back. -/
theorem Proper.readRelationship_token (proper : declaration.Proper) :
    readRelationship declaration.token = (some declaration.relationship, []) := by
  have named : declaration.nameText.isEmpty = false := by
    simpa using proper.isAtom_nameText.filled
  have typed : declaration.kind.name.isEmpty = false := by
    simpa using (isAtom_relationKind declaration.kind).filled
  have targeted : declaration.target.isEmpty = false := by simpa using proper.target.filled
  have split := proper.splitOn_token
  unfold readRelationship
  simp only [proper.tight_token.trim_eq, split]
  rcases proper.splitFirst?_nameText with ⟨single, alone, uncut⟩ | ⟨above, both, filled, cut⟩
  · cases key : declaration.foreignKey with
    | none =>
      rw [alone] at named uncut
      simp [parts, key, alone, named, typed, targeted, uncut, single, relationship,
        readRelationKind_name]
    | some column =>
      have keyed := (proper.foreignKey column key).filled
      rw [alone] at named uncut
      simp [parts, key, alone, named, typed, targeted, uncut, single, keyed, relationship,
        readRelationKind_name]
  · cases key : declaration.foreignKey with
    | none =>
      simp [parts, key, named, typed, targeted, cut, both, filled, relationship,
        readRelationKind_name, proper.name.trimmed]
    | some column =>
      have keyed := (proper.foreignKey column key).filled
      simp [parts, key, named, typed, targeted, cut, both, filled, keyed, relationship,
        readRelationKind_name, proper.name.trimmed]

/-- Written relationships that own different key columns are read back, behind others that do. -/
theorem readRelationshipsAfter_tokens (declarations : List RelationshipDeclaration) :
    ∀ (known : List Relationship), (∀ declaration ∈ declarations, declaration.Proper) →
    (((known ++ declarations.map (·.relationship)).filter (·.ownsForeignKey)).map
      (·.foreignKey)).Nodup →
    readRelationshipsAfter known (declarations.map (·.token)) =
      (known ++ declarations.map (·.relationship), []) := by
  induction declarations with
  | nil => intro known _ _; simp [readRelationshipsAfter]
  | cons declaration rest ih =>
    intro known proper distinct
    have own := proper declaration List.mem_cons_self
    have new : (declaration.relationship.ownsForeignKey && known.any fun other =>
        other.ownsForeignKey && other.foreignKey == declaration.relationship.foreignKey) =
          false := by
      rw [Bool.and_eq_false_imp]
      intro owns
      rw [List.any_eq_false]
      intro other member taken
      obtain ⟨otherOwns, same⟩ := Bool.and_eq_true_iff.mp taken
      rw [List.filter_append, List.map_append] at distinct
      have apart := (List.nodup_append.mp distinct).2.2 other.foreignKey
        (List.mem_map_of_mem (List.mem_filter.mpr ⟨member, otherOwns⟩))
        declaration.relationship.foreignKey
        (List.mem_map_of_mem (List.mem_filter.mpr ⟨by simp, owns⟩))
      exact apart (by simpa using same)
    have later : (((known ++ [declaration.relationship] ++
        rest.map (·.relationship)).filter (·.ownsForeignKey)).map (·.foreignKey)).Nodup := by
      simpa using distinct
    have read := ih (known ++ [declaration.relationship])
      (fun other member => proper other (List.mem_cons_of_mem _ member)) later
    simp [readRelationshipsAfter, own.readRelationship_token, new, read]

/-- A declared relationship bears its name. -/
theorem relationship_name (declaration : RelationshipDeclaration) :
    declaration.relationship.name = declaration.name := rfl

end RelationshipDeclaration

/-- A written projection of a declared relationship is read back. -/
theorem readProjection?_key {relationships : List Relationship} {projection : Projection}
    (relation : Text.IsAtom [',', '.'] projection.relation)
    (shown : Text.IsAtom [','] projection.field)
    (declared : projection.relation ∈ relationships.map (·.name)) :
    readProjection? relationships projection.key = some projection := by
  have pointless : '.' ∉ projection.relation := relation.free '.' (by decide)
  have known : ∃ relationship ∈ relationships, relationship.name = projection.relation :=
    List.mem_map.mp declared
  simp [readProjection?, Projection.key, Text.splitFirst?_append pointless, relation.trimmed,
    shown.trimmed, shown.filled, known]

namespace Declaration

variable {declaration : Declaration}

/-- The fields are read back. -/
theorem Proper.readFields_fieldText (proper : declaration.Proper) :
    readFields declaration.fieldText = (declaration.schema.fields, []) := by
  have split : tokens declaration.fieldText = declaration.fields.map (·.token) := by
    apply tokens_joinWith
    · intro token member
      obtain ⟨field, inside, rfl⟩ := List.mem_map.mp member
      exact (proper.fields field inside).tight_token
    · intro token member
      obtain ⟨field, inside, rfl⟩ := List.mem_map.mp member
      exact (proper.fields field inside).comma_notMem
  have distinct : (([] : List Field).map (·.name) ++ declaration.fields.map (·.name)).Nodup := by
    simpa using proper.fieldNames
  rw [readFields, split, FieldDeclaration.readFieldsAfter_tokens _ [] proper.fields distinct]
  simp [schema]

/-- The names of the relationships that are declared. -/
theorem map_name_relationships (declaration : Declaration) :
    declaration.schema.relationships.map (·.name) = declaration.relationNames := by
  simp [schema, relationNames, RelationshipDeclaration.relationship_name]

/-- Every declared relationship keeps its parent. -/
theorem Proper.keepParent_eq (proper : declaration.Proper) :
    ∀ relationship ∈ declaration.schema.relationships,
      keepParent declaration.relationNames relationship = (relationship, []) := by
  intro relationship member
  obtain ⟨written, inside, rfl⟩ := List.mem_map.mp member
  cases parent : written.parent with
  | none =>
    have free : written.relationship.dependsOn = none := parent
    simp [keepParent, free]
  | some above =>
    have narrowed : written.relationship.dependsOn = some above := parent
    obtain ⟨other, listed⟩ := proper.parents written inside above parent
    have different : (above != written.relationship.name) = true := by
      simpa [RelationshipDeclaration.relationship_name] using other
    simp [keepParent, narrowed, different, listed]

/-- The relationships are read back. -/
theorem Proper.readRelationships_relationshipText (proper : declaration.Proper) :
    readRelationships declaration.relationshipText = (declaration.schema.relationships, []) := by
  have split : tokens declaration.relationshipText =
      declaration.relationships.map (·.token) := by
    apply tokens_joinWith
    · intro token member
      obtain ⟨relationship, inside, rfl⟩ := List.mem_map.mp member
      exact (proper.relationships relationship inside).tight_token
    · intro token member
      obtain ⟨relationship, inside, rfl⟩ := List.mem_map.mp member
      exact (proper.relationships relationship inside).comma_notMem
  have read := RelationshipDeclaration.readRelationshipsAfter_tokens declaration.relationships []
    proper.relationships proper.ownedKeys
  have all : declaration.relationships.map (·.relationship) = declaration.schema.relationships :=
    rfl
  rw [List.nil_append, all] at read
  have kept : declaration.schema.relationships.map (keepParent declaration.relationNames) =
      declaration.schema.relationships.map fun relationship => (relationship, []) :=
    List.map_congr_left proper.keepParent_eq
  simp only [readRelationships, split, read, map_name_relationships, kept]
  simp [List.flatMap_map, Function.comp_def]

/-- The projections are read back. -/
theorem Proper.readProjections_projectionText (proper : declaration.Proper) :
    readProjections declaration.schema.relationships declaration.projectionText =
      (declaration.projections, []) := by
  have legal := proper.projections
  have split : tokens declaration.projectionText = declaration.projections.map (·.key) := by
    apply tokens_joinWith
    · intro token member
      obtain ⟨projection, inside, rfl⟩ := List.mem_map.mp member
      obtain ⟨relation, shown⟩ := legal projection inside
      simpa [Projection.key] using relation.tight.between shown.tight ['.']
    · intro token member
      obtain ⟨projection, inside, rfl⟩ := List.mem_map.mp member
      obtain ⟨relation, shown⟩ := legal projection inside
      have before := relation.free ',' (by decide)
      have behind := shown.free ',' (by decide)
      simp [Projection.key, before, behind]
  have read : ∀ projection ∈ declaration.projections,
      readProjection? declaration.schema.relationships projection.key = some projection := by
    intro projection inside
    obtain ⟨relation, shown⟩ := legal projection inside
    refine readProjection?_key relation shown ?_
    rw [map_name_relationships]
    exact proper.related projection inside
  have all : (declaration.projections.map (·.key)).filterMap
      (readProjection? declaration.schema.relationships) = declaration.projections := by
    generalize declaration.projections = listed at read
    induction listed with
    | nil => rfl
    | cons projection rest ih =>
      have later := ih fun other member => read other (List.mem_cons_of_mem _ member)
      rw [List.map_cons, List.filterMap_cons, read projection List.mem_cons_self, later]
  have noneLeft : (declaration.projections.map (·.key)).filter (fun token =>
      (readProjection? declaration.schema.relationships token).isNone) = [] := by
    rw [List.filter_eq_nil_iff]
    intro token member
    obtain ⟨projection, inside, rfl⟩ := List.mem_map.mp member
    simp [read projection inside]
  simp only [readProjections, split, all, noneLeft, List.map_nil]

/-- **Reading undoes writing.** A proper declaration, its fields, relationships and projections
written with commas between them, is read as exactly what it declares, without a diagnostic. -/
theorem read_declaration (declaration : Declaration) (proper : declaration.Proper) :
    Schema.read declaration.fieldText declaration.relationshipText declaration.projectionText =
      declaration.schema := by
  have projections := proper.readProjections_projectionText
  simp only [Schema.read, proper.readFields_fieldText, proper.readRelationships_relationshipText,
    projections]
  rfl

/-- Tickets are read back: a select with rules, a flag and labels, records of another entity, and a
relationship below another one. -/
theorem read_declaration_tickets :
    let tickets : Declaration :=
      { fields :=
          [⟨"state", .select, [.rule "nullable", .flag .searchable, .parameterised "in" "1"],
              some (.labels "Open" [] false)⟩,
            ⟨"owner", .radio, [], some (.records "User" "name")⟩,
            ⟨"title", .text, [], none⟩]
        relationships :=
          [⟨"office", none, .belongsTo, "Office", none⟩,
            ⟨"desk", some "office", .belongsTo, "Desk", some "desk_key"⟩]
        projections := [⟨"desk", "label"⟩] }
    Schema.read "state:select:nullable|searchable|in:1:Open|,owner:radio::@User.name,title:text"
      "office:belongsTo:Office,desk^office:belongsTo:Desk:desk_key" "desk.label" =
        tickets.schema := by
  intro tickets
  have proper : tickets.Proper := by
    constructor
    · intro field member
      simp only [tickets, List.mem_cons, List.not_mem_nil, or_false] at member
      rcases member with rfl | rfl | rfl
      · refine ⟨by decide +kernel, ?_, ?_⟩
        · intro segment inside
          simp only [List.mem_cons, List.not_mem_nil, or_false] at inside
          rcases inside with rfl | rfl | rfl
          · exact ⟨by decide +kernel, by decide +kernel, by decide +kernel, by decide +kernel⟩
          · exact trivial
          · exact ⟨by decide +kernel, by decide +kernel, by decide +kernel⟩
        · intro options same
          cases same
          exact ⟨by decide, by decide +kernel, by decide +kernel⟩
      · refine ⟨by decide +kernel, by simp, ?_⟩
        intro options same
        cases same
        exact ⟨by decide, by decide +kernel, by decide +kernel⟩
      · exact ⟨by decide +kernel, by simp, by simp⟩
    · decide +kernel
    · intro relationship member
      simp only [tickets, List.mem_cons, List.not_mem_nil, or_false] at member
      rcases member with rfl | rfl
      · exact ⟨by decide +kernel, by simp, by decide +kernel, by simp⟩
      · refine ⟨by decide +kernel, ?_, by decide +kernel, ?_⟩
        · intro parent same
          cases same
          decide +kernel
        · intro key same
          cases same
          decide +kernel
    · decide +kernel
    · intro relationship member parent same
      simp only [tickets, List.mem_cons, List.not_mem_nil, or_false] at member
      rcases member with rfl | rfl
      · simp at same
      · cases same
        decide +kernel
    · decide +kernel
    · decide +kernel
  have fields : tickets.fieldText =
      "state:select:nullable|searchable|in:1:Open|,owner:radio::@User.name,title:text".toList := by
    decide +kernel
  have relationships : tickets.relationshipText =
      "office:belongsTo:Office,desk^office:belongsTo:Desk:desk_key".toList := by
    decide +kernel
  have projections : tickets.projectionText = "desk.label".toList := by decide +kernel
  rw [← fields, ← relationships, ← projections]
  exact read_declaration tickets proper

end Declaration

end Scaffold.Schema
