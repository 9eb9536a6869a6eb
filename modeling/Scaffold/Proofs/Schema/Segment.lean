import Scaffold.Proofs.Schema.Declaration
import Scaffold.Proofs.Text.Occurrence
import Scaffold.Proofs.Text.Padded

/-!
# Where the options begin

The text behind the type of a field is bars and colons, and only its place tells what a colon
means. A colon inside a parameter stands behind a rule of the table, and one before options does
not: the last rule before it is no such rule (`isOptions_joinWith`). No piece between bars begins
as the rule does that carries the options of a select (`splitOptionsRule?_eq_none`), so the last
colon decides (`splitOptions_validation`, `splitOptions_options`).
-/
namespace Scaffold.Schema

/-- The names in the table are atoms. -/
theorem isAtom_of_mem_parameterisedRules :
    ∀ rule ∈ parameterisedRules, Text.IsAtom [',', ':', '|'] rule := by
  decide +kernel

/-- The rule that carries options is not in the table. -/
theorem array_notMem_parameterisedRules : ("array" : Text) ∉ parameterisedRules := by
  decide

/-- The flags are atoms. -/
theorem Flag.isAtom_word (flag : Flag) : Text.IsAtom [',', ':', '|'] flag.word := by
  cases flag <;> decide

/-- No flag is in the table. -/
theorem Flag.word_notMem_parameterisedRules (flag : Flag) : flag.word ∉ parameterisedRules := by
  cases flag <;> decide

/-- No flag is the rule that carries options. -/
theorem Flag.word_ne_array (flag : Flag) : flag.word ≠ ("array" : Text) := by
  cases flag <;> decide

/-- The rule that a value occurs in no other record. -/
def uniqueRule : Text := "unique"

namespace Segment

variable {kind : FieldKind} {segment : Segment}

/-- The segment can stand in a list of rules. A plain rule is no flag, and a rule with a parameter is
in the table or asks for a unique value; a parameter may be empty or hold blanks and does not begin
as a reference. -/
def IsListed : Segment → Prop
  | flag _ => True
  | rule name => Text.IsAtom [',', ':', '|'] name ∧ name ∉ FieldFlags.words
  | parameterised name parameter =>
    (name = uniqueRule ∨ name ∈ parameterisedRules) ∧
      (∀ c ∈ [',', ':', '|'], c ∉ parameter) ∧ parameter.head? ≠ some referenceMark

/-- Whether a segment can stand in a list of rules can be computed. -/
instance decidableIsListed : (segment : Segment) → Decidable segment.IsListed
  | flag _ => isTrue trivial
  | rule name => inferInstanceAs (Decidable (Text.IsAtom [',', ':', '|'] name ∧ _))
  | parameterised name _ => inferInstanceAs (Decidable
      ((name = uniqueRule ∨ name ∈ parameterisedRules) ∧ _ ∧ _))

/-- The segment can stand in a list of rules, and no blanks are cut off when it is read. -/
structure IsKept (segment : Segment) : Prop where
  /-- It can stand in a list. -/
  listed : segment.IsListed
  /-- It is written without blanks at its ends. -/
  trimmed : Text.trim segment.text = segment.text

/-- A segment without the blanks at the end of its parameter. -/
def tidied : Segment → Segment
  | parameterised name parameter => parameterised name (Text.trimEnd parameter)
  | segment => segment

/-- The name of a rule with a parameter is an atom. -/
theorem isAtom_name {name : Text} (known : name = uniqueRule ∨ name ∈ parameterisedRules) :
    Text.IsAtom [',', ':', '|'] name := by
  rcases known with rfl | listed
  · decide +kernel
  · exact isAtom_of_mem_parameterisedRules name listed

/-- A segment of a list is read without the blanks at the end of its parameter. -/
theorem IsListed.trim_text (listed : segment.IsListed) :
    Text.trim segment.text = segment.tidied.text := by
  cases segment with
  | flag mark => exact mark.isAtom_word.trimmed
  | rule name => exact listed.1.trimmed
  | parameterised name parameter =>
    obtain ⟨c, first, solid⟩ := (isAtom_name listed.1).tight.first
    obtain ⟨rest, rfl⟩ := List.head?_eq_some_iff.mp first
    have start : Text.trimStart (text (.parameterised (c :: rest) parameter)) =
        text (.parameterised (c :: rest) parameter) := List.dropWhile_cons_of_neg (by simp [solid])
    rw [Text.trim, start]
    exact Text.trimEnd_append_cons (by decide) _ _

/-- Read so it can stand in the list. -/
theorem IsListed.isKept_tidied (listed : segment.IsListed) : segment.tidied.IsKept := by
  refine ⟨?_, by rw [← listed.trim_text, Text.trim_trim]⟩
  cases segment with
  | parameterised name parameter =>
    obtain ⟨known, free, noReference⟩ := listed
    have front := Text.trimEnd_prefix_self parameter
    refine ⟨known, fun c mark inside => free c mark (front.subset inside), fun first => ?_⟩
    obtain ⟨behind, whole⟩ := front
    rw [← whole, List.head?_append, first] at noReference
    exact noReference rfl
  | _ => exact listed

/-- It is a rule as before. -/
theorem isRule_tidied (segment : Segment) : segment.tidied.isRule = segment.isRule := by
  cases segment <;> rfl

/-- A segment of a list of rules is not empty. -/
theorem IsListed.text_ne_nil (listed : segment.IsListed) : segment.text ≠ [] := by
  cases segment with
  | flag mark => exact mark.isAtom_word.filled
  | rule name => exact listed.1.filled
  | parameterised name parameter => simp [text]

/-- Among the bars a segment of a list holds no others. -/
theorem IsListed.free (listed : segment.IsListed) : ∀ c ∈ [',', '|'], c ∉ segment.text := by
  intro c mark
  have outside : c ∈ [',', ':', '|'] ∧ c ≠ ':' := by
    simp only [List.mem_cons, List.not_mem_nil, or_false] at mark
    rcases mark with rfl | rfl <;> decide
  cases segment with
  | flag mark => exact mark.isAtom_word.free c outside.1
  | rule name => exact listed.1.free c outside.1
  | parameterised name parameter =>
    intro inside
    rcases List.mem_append.mp inside with before | behind
    · exact (isAtom_name listed.1).free c outside.1 before
    · exact listed.2.1 c outside.1 ((List.mem_cons.mp behind).resolve_left outside.2)

/-- A segment that is kept is an atom among the bars. -/
theorem IsKept.isAtom (kept : segment.IsKept) : Text.IsAtom [',', '|'] segment.text :=
  ⟨kept.listed.text_ne_nil, kept.trimmed, kept.listed.free⟩

/-- A segment that can be written is kept in a list of rules. -/
theorem Proper.isKept (proper : segment.Proper kind) : segment.IsKept := by
  cases segment with
  | flag mark => exact ⟨trivial, mark.isAtom_word.trimmed⟩
  | rule name => exact ⟨⟨proper.1, proper.2.2.1⟩, proper.1.trimmed⟩
  | parameterised name parameter =>
    have listed : IsListed (.parameterised name parameter) :=
      ⟨.inr proper.1, proper.2.1.free, proper.2.2⟩
    refine ⟨listed, ?_⟩
    rw [listed.trim_text, tidied, proper.2.1.tight.trimEnd_eq]

/-- A segment that can be written is an atom among the bars. -/
theorem Proper.isAtom (proper : segment.Proper kind) : Text.IsAtom [',', '|'] segment.text :=
  proper.isKept.isAtom

/-- A segment holds a colon exactly if it has a parameter. -/
theorem IsListed.colon (listed : segment.IsListed) :
    ':' ∉ segment.text ∨ ∃ name parameter, segment = .parameterised name parameter := by
  cases segment with
  | flag mark => exact .inl (mark.isAtom_word.free ':' (by decide))
  | rule name => exact .inl (listed.1.free ':' (by decide))
  | parameterised name parameter => exact .inr ⟨name, parameter, rfl⟩

/-- A segment is taken for a rule exactly if it is one. -/
theorem IsListed.isRule_eq (listed : segment.IsListed) :
    (!segment.text.isEmpty && !FieldFlags.words.contains segment.text) = segment.isRule := by
  have filled : segment.text.isEmpty = false := by simpa using listed.text_ne_nil
  have colonless : ∀ word ∈ FieldFlags.words, ':' ∉ word := by decide
  rw [filled]
  cases segment with
  | flag mark => cases mark <;> decide
  | rule name =>
    have noFlag : FieldFlags.words.contains name = false := by simpa using listed.2
    simpa [isRule, text] using noFlag
  | parameterised name parameter =>
    have noFlag : FieldFlags.words.contains (text (.parameterised name parameter)) = false := by
      rw [Bool.eq_false_iff, Ne, List.contains_iff_mem]
      exact fun member => colonless _ member (by simp [text])
    rw [noFlag]
    rfl

/-- A segment as a whole is not in the table. -/
theorem Proper.notMem_parameterisedRules (proper : segment.Proper kind) :
    segment.text ∉ parameterisedRules := by
  cases segment with
  | flag mark => exact mark.word_notMem_parameterisedRules
  | rule name => exact proper.2.1
  | parameterised name parameter =>
    intro listed
    have free := (isAtom_of_mem_parameterisedRules _ listed).free ':' (by decide)
    exact free (by simp [text])

end Segment

/-- A text does not begin as the rule that carries options does. -/
def NoOptionsRule (piece : Text) : Prop := Text.startsWith piece optionsRule = false

/-- Whether a text does not begin that way can be computed. -/
instance decidableNoOptionsRule (piece : Text) : Decidable (NoOptionsRule piece) :=
  inferInstanceAs (Decidable (Text.startsWith piece optionsRule = false))

/-- A text without colon does not begin that way. -/
theorem noOptionsRule_of_notMem {piece : Text} (absent : ':' ∉ piece) : NoOptionsRule piece := by
  have colon : ':' ∈ optionsRule := by decide
  rw [NoOptionsRule, Text.startsWith, Bool.eq_false_iff, Ne, List.isPrefixOf_iff_prefix]
  intro starts
  exact absent (starts.subset colon)

/-- Neither does one whose first colon has something else before it. -/
theorem noOptionsRule_append {before : Text} (absent : ':' ∉ before)
    (other : before ≠ ("array" : Text)) (after : Text) :
    NoOptionsRule (before ++ ':' :: after) := by
  have named : optionsRule = ("array" : Text) ++ [':'] := by decide
  have whole : ':' ∉ ("array" : Text) := by decide
  rw [NoOptionsRule, Text.startsWith, Bool.eq_false_iff, Ne, List.isPrefixOf_iff_prefix]
  rintro ⟨rest, same⟩
  have first := Text.splitFirst?_append absent after
  rw [← same, named, List.append_assoc, List.singleton_append, Text.splitFirst?_append whole rest,
    Option.some.injEq, Prod.mk.injEq] at first
  exact other first.1.symm

/-- A segment of a select does not begin as the rule that carries options does, whatever options
follow it. -/
theorem Segment.Proper.noOptionsRule {segment : Segment} (proper : segment.Proper .select)
    {ending : Text} (ends : ending = [] ∨ ending.head? = some ':') :
    NoOptionsRule (segment.text ++ ending) := by
  have plain : ':' ∉ segment.text → segment.text ≠ ("array" : Text) →
      NoOptionsRule (segment.text ++ ending) := by
    intro absent other
    rcases ends with rfl | colon
    · exact noOptionsRule_of_notMem (by simpa using absent)
    · obtain ⟨more, rfl⟩ := List.head?_eq_some_iff.mp colon
      exact noOptionsRule_append absent other more
  cases segment with
  | flag mark => exact plain (mark.isAtom_word.free ':' (by decide)) mark.word_ne_array
  | rule name => exact plain (proper.1.free ':' (by decide)) (proper.2.2.2 rfl)
  | parameterised name parameter =>
    have free := (isAtom_of_mem_parameterisedRules _ proper.1).free ':' (by decide)
    have other : name ≠ ("array" : Text) := by
      rintro rfl
      exact array_notMem_parameterisedRules proper.1
    have spelled : text (.parameterised name parameter) ++ ending =
        name ++ ':' :: (parameter ++ ending) := by simp [text]
    rw [spelled]
    exact noOptionsRule_append free other _

/-- A text that begins as the rule does has a first piece that does. -/
theorem head_splitOn_startsWith {word text : Text} {separator : Char} (absent : separator ∉ word)
    (starts : Text.startsWith text word = true) :
    ∃ piece rest, Text.splitOn separator text = piece :: rest ∧
      Text.startsWith piece word = true := by
  have pieces := Text.joinWith_splitOn separator text
  cases split : Text.splitOn separator text with
  | nil => exact absurd split (Text.splitWhere_ne_nil _ _)
  | cons piece rest =>
    refine ⟨piece, rest, rfl, ?_⟩
    rw [split] at pieces
    rw [Text.startsWith, List.isPrefixOf_iff_prefix] at starts ⊢
    cases rest with
    | nil => simpa [Text.joinWith, ← pieces] using starts
    | cons next more =>
      rw [← pieces] at starts
      simp only [Text.joinWith, List.append_assoc, List.singleton_append] at starts
      exact Text.prefix_append_cons absent starts

/-- No rule that carries options is found where no piece begins as it does. -/
theorem splitOptionsRule?_from {text : Text} : ∀ {before : Text},
    (before = [] ∨ before.head? = some '|' →
      ∀ piece ∈ (Text.splitOn '|' text).head?, NoOptionsRule piece) →
    (∀ piece ∈ (Text.splitOn '|' text).tail, NoOptionsRule piece) →
    splitOptionsRule? before text = none := by
  have barless : '|' ∉ optionsRule := by decide
  induction text with
  | nil => intros; rfl
  | cons c rest ih =>
    intro before here later
    rw [splitOptionsRule?, if_neg, ih]
    · intro start piece first
      have bar : c = '|' := by simpa using start
      subst bar
      have split : Text.splitOn '|' ('|' :: rest) = [] :: Text.splitOn '|' rest :=
        Text.splitOn_append_cons '|' [] rest
      rw [split, List.tail_cons] at later
      exact later piece (List.mem_of_head? first)
    · intro piece member
      by_cases bar : c = '|'
      · subst bar
        have split : Text.splitOn '|' ('|' :: rest) = [] :: Text.splitOn '|' rest :=
          Text.splitOn_append_cons '|' [] rest
        rw [split, List.tail_cons] at later
        exact later piece (List.mem_of_mem_tail member)
      · have split : (Text.splitOn '|' (c :: rest)).tail = (Text.splitOn '|' rest).tail := by
          cases pieces : Text.splitWhere (· = '|') rest with
          | nil => exact absurd pieces (Text.splitWhere_ne_nil _ _)
          | cons first more => simp [Text.splitOn, Text.splitWhere, bar, pieces]
        rw [← split] at member
        exact later piece member
    · simp only [Bool.and_eq_true, Bool.or_eq_true, List.isEmpty_iff, beq_iff_eq, not_and]
      intro start starts
      obtain ⟨piece, more, split, same⟩ := head_splitOn_startsWith barless starts
      have none := here start piece (by rw [split]; rfl)
      rw [NoOptionsRule, same] at none
      exact Bool.noConfusion none

/-- The rule that carries options is not found if no piece between bars begins as it does. -/
theorem splitOptionsRule?_eq_none {text : Text}
    (none : ∀ piece ∈ Text.splitOn '|' text, NoOptionsRule piece) :
    splitOptionsRule? [] text = Option.none :=
  splitOptionsRule?_from (fun _ piece first => none piece (List.mem_of_head? first))
    fun piece member => none piece (List.mem_of_mem_tail member)

/-- What decides whether the text behind a colon is options: its first character, a bar in it, and
the last rule before the colon. -/
theorem isOptions_joinWith {front : List Text} {last : Text}
    (whole : ∀ piece ∈ front ++ [last], '|' ∉ piece) (after : Text) :
    isOptions (Text.joinWith ['|'] (front ++ [last])) after =
      (after.head? == some referenceMark ||
        after.contains '|' && !parameterisedRules.contains (Text.trim last)) := by
  rw [isOptions, Text.splitOn_joinWith_of_notMem (by simp) whole, List.getLastD_concat]

/-- Where no rule carries the options, the last colon decides. -/
theorem splitOptions_of_splitLast? {kind : FieldKind} {rest before after : Text}
    (nowhere : kind = .select → splitOptionsRule? [] rest = none)
    (cut : Text.splitLast? ':' rest = some (before, after)) :
    splitOptions kind rest =
      if isOptions before (Text.trim after) then (unlessBlank before, some (Text.trim after))
      else (some rest, none) := by
  unfold splitOptions
  by_cases isSelect : kind = .select
  · simp [isSelect, nowhere isSelect, cut]
  · simp [isSelect, cut]

/-- Where there is no colon, all is validation. -/
theorem splitOptions_of_notMem {kind : FieldKind} {rest : Text}
    (nowhere : kind = .select → splitOptionsRule? [] rest = none) (absent : ':' ∉ rest) :
    splitOptions kind rest = (some rest, none) := by
  unfold splitOptions
  by_cases isSelect : kind = .select
  · simp [isSelect, nowhere isSelect, Text.splitLast?_of_notMem absent]
  · simp [isSelect, Text.splitLast?_of_notMem absent]

/-- Segments have no parameter, or there is a last one that has. -/
theorem last_parameterised {segments : List Segment}
    (listed : ∀ segment ∈ segments, segment.IsListed) :
    (∀ segment ∈ segments, ':' ∉ segment.text) ∨
      ∃ front name parameter back,
        segments = front ++ Segment.parameterised name parameter :: back ∧
        ∀ segment ∈ back, ':' ∉ segment.text := by
  induction segments with
  | nil => exact .inl (by simp)
  | cons segment rest ih =>
    have first := (listed segment List.mem_cons_self).colon
    rcases ih fun other member => listed other (List.mem_cons_of_mem _ member) with
      plain | ⟨front, name, parameter, back, rfl, after⟩
    · rcases first with absent | ⟨name, parameter, rfl⟩
      · refine .inl fun other member => ?_
        rcases List.mem_cons.mp member with rfl | later
        · exact absent
        · exact plain other later
      · exact .inr ⟨[], name, parameter, rest, rfl, plain⟩
    · exact .inr ⟨segment :: front, name, parameter, back, rfl, after⟩

namespace FieldDeclaration

variable {declaration : FieldDeclaration}

/-- The texts of the segments are free of bars. -/
theorem Proper.barless (proper : declaration.Proper) :
    ∀ piece ∈ declaration.segments.map Segment.text, '|' ∉ piece := by
  intro piece member
  obtain ⟨segment, listed, rfl⟩ := List.mem_map.mp member
  exact (proper.segments segment listed).isAtom.free '|' (by decide)

/-- The pieces of the validation are its segments. -/
theorem Proper.splitOn_validationText (proper : declaration.Proper)
    (filled : declaration.segments ≠ []) :
    Text.splitOn '|' declaration.validationText = declaration.segments.map Segment.text :=
  Text.splitOn_joinWith_of_notMem (by simpa using filled) proper.barless

/-- A validation that is not empty is tight. -/
theorem Proper.tight_validationText (proper : declaration.Proper)
    (filled : declaration.segments ≠ []) : Text.Tight declaration.validationText := by
  apply Text.Tight.joinWith (by simpa using filled)
  intro piece member
  obtain ⟨segment, listed, rfl⟩ := List.mem_map.mp member
  exact (proper.segments segment listed).isAtom.tight

/-- A validation alone is read as validation. -/
theorem splitOptions_validation (proper : declaration.Proper)
    (filled : declaration.segments ≠ []) :
    splitOptions declaration.kind declaration.validationText =
      (some declaration.validationText, none) := by
  have nowhere : declaration.kind = .select →
      splitOptionsRule? [] declaration.validationText = none := by
    intro isSelect
    apply splitOptionsRule?_eq_none
    rw [proper.splitOn_validationText filled]
    intro piece member
    obtain ⟨segment, listed, rfl⟩ := List.mem_map.mp member
    have legal := proper.segments segment listed
    rw [isSelect] at legal
    simpa using legal.noOptionsRule (.inl rfl)
  have parts : ∀ segment ∈ declaration.segments, segment.IsListed := fun segment member =>
    (proper.segments segment member).isKept.listed
  rcases last_parameterised parts with plain | ⟨front, name, parameter, back, split, after⟩
  · apply splitOptions_of_notMem nowhere
    intro inside
    rcases Text.mem_joinWith inside with bar | ⟨piece, member, colon⟩
    · exact absurd bar (by decide)
    · obtain ⟨segment, listed, rfl⟩ := List.mem_map.mp member
      exact plain segment listed colon
  · have legal : ∀ segment ∈ front ++ .parameterised name parameter :: back,
        segment.Proper declaration.kind := split ▸ proper.segments
    have own := legal (.parameterised name parameter) (by simp)
    obtain ⟨listed, value, noReference⟩ := own
    have named := isAtom_of_mem_parameterisedRules name listed
    have written : declaration.validationText =
        Text.joinWith ['|'] (front.map Segment.text ++ [name]) ++
          ':' :: Text.joinWith ['|'] (parameter :: back.map Segment.text) := by
      rw [validationText, split, List.map_append, List.map_cons]
      exact Text.joinWith_append_cons ['|'] _ name ':' parameter _
    have tight : Text.Tight (Text.joinWith ['|'] (parameter :: back.map Segment.text)) := by
      apply Text.Tight.joinWith (by simp)
      intro piece member
      rcases List.mem_cons.mp member with rfl | later
      · exact value.tight
      · obtain ⟨segment, inside, rfl⟩ := List.mem_map.mp later
        exact (legal segment (by simp [inside])).isAtom.tight
    have colonless : ':' ∉ Text.joinWith ['|'] (parameter :: back.map Segment.text) := by
      intro inside
      rcases Text.mem_joinWith inside with bar | ⟨piece, member, colon⟩
      · exact absurd bar (by decide)
      · rcases List.mem_cons.mp member with rfl | later
        · exact value.free ':' (by decide) colon
        · obtain ⟨segment, inside, rfl⟩ := List.mem_map.mp later
          exact after segment inside colon
    have barless : ∀ piece ∈ front.map Segment.text ++ [name], '|' ∉ piece := by
      intro piece member
      rcases List.mem_append.mp member with before | last
      · obtain ⟨segment, inside, rfl⟩ := List.mem_map.mp before
        exact (legal segment (by simp [inside])).isAtom.free '|' (by decide)
      · rw [List.mem_singleton.mp last]
        exact named.free '|' (by decide)
    have noOptions : isOptions (Text.joinWith ['|'] (front.map Segment.text ++ [name]))
        (Text.joinWith ['|'] (parameter :: back.map Segment.text)) = false := by
      have inTable : parameterisedRules.contains name = true := by simpa using listed
      rw [isOptions_joinWith barless, Text.head?_joinWith_cons _ value.filled, named.trimmed,
        inTable]
      simpa using noReference
    rw [splitOptions_of_splitLast? nowhere
      (by rw [written]; exact Text.splitLast?_append colonless _), tight.trim_eq, noOptions]
    rfl

end FieldDeclaration

namespace WrittenOptions

variable {options : WrittenOptions}

/-- Labels with bars behind them are labels with bars between them and an empty one at the end. -/
theorem concat_barred (labels : List Text) :
    Text.concat (labels.map (· ++ ['|'])) = Text.joinWith ['|'] (labels ++ [[]]) := by
  induction labels with
  | nil => rfl
  | cons label rest ih =>
    have joined : Text.joinWith ['|'] (label :: (rest ++ [[]])) =
        label ++ ['|'] ++ Text.joinWith ['|'] (rest ++ [[]]) := by
      cases rest <;> rfl
    rw [List.cons_append, joined, ← ih]
    simp [Text.concat]

/-- Labels are written with bars between them, and possibly with an empty one at the end. -/
theorem text_labels (first : Text) (more : List Text) (barred : Bool) :
    (labels first more barred).text = Text.joinWith ['|'] (first :: more) ∧ more ≠ [] ∨
      (labels first more barred).text = Text.joinWith ['|'] (first :: more ++ [[]]) := by
  by_cases behind : barred || more.isEmpty
  · exact .inr (by rw [text, if_pos behind, concat_barred])
  · have several : more ≠ [] := by
      rintro rfl
      simp at behind
    exact .inl ⟨by rw [text, if_neg behind], several⟩

/-- Written options hold neither commas nor colons. -/
theorem Proper.free (proper : options.Proper) : ∀ c ∈ [',', ':'], c ∉ options.text := by
  intro c listed inside
  cases options with
  | labels first more barred =>
    have among : ∀ label ∈ first :: more ++ [[]], c ∉ label := by
      intro label member there
      rcases List.mem_append.mp member with real | last
      · refine (proper.1 label real).free c ?_ there
        rcases List.mem_cons.mp listed with rfl | colon
        · exact List.mem_cons_self
        · exact List.mem_cons_of_mem _ (List.mem_append_left ['|'] colon)
      · rw [List.mem_singleton.mp last] at there
        simp at there
    have noBar : c ∉ ['|'] := by
      intro bar
      rw [List.mem_singleton.mp bar] at listed
      exact absurd listed (by decide)
    rcases text_labels first more barred with ⟨written, -⟩ | written
    · rw [written] at inside
      rcases Text.mem_joinWith inside with bar | ⟨label, member, there⟩
      · exact noBar bar
      · exact among label (List.mem_append_left _ member) there
    · rw [written] at inside
      rcases Text.mem_joinWith inside with bar | ⟨label, member, there⟩
      · exact noBar bar
      · exact among label member there
  | records model shown =>
    have inModel : c ∉ model := by
      refine proper.1.free c ?_
      rcases List.mem_cons.mp listed with rfl | colon
      · exact List.mem_cons_self
      · exact List.mem_cons_of_mem _ (List.mem_append_left ['.'] colon)
    have marks : c ≠ referenceMark ∧ c ≠ '.' := by
      simp only [List.mem_cons, List.not_mem_nil, or_false] at listed
      rcases listed with rfl | rfl <;> decide
    simp only [text, List.cons_append, List.mem_cons, List.mem_append] at inside
    rcases inside with mark | there | point | there
    · exact marks.1 mark
    · exact inModel there
    · exact marks.2 point
    · exact proper.2.free c listed there

/-- Written options are tight. -/
theorem Proper.tight (proper : options.Proper) : Text.Tight options.text := by
  have bar : Text.Tight ['|'] := by
    exact ⟨⟨'|', rfl, by decide⟩, ⟨'|', rfl, by decide⟩⟩
  cases options with
  | labels first more barred =>
    have among : Text.Tight (Text.joinWith ['|'] (first :: more)) :=
      Text.Tight.joinWith (by simp) fun label member => (proper.1 label member).tight
    by_cases behind : barred || more.isEmpty
    · have spelled : (labels first more barred).text =
          first ++ Text.concat ((more.map (['|'] ++ ·))) ++ ['|'] := by
        rw [text, if_pos behind]
        clear behind among proper
        induction more generalizing first with
        | nil => simp [Text.concat]
        | cons next more ih =>
          have later := ih next
          simp only [Text.concat, List.map_cons, List.flatten_cons] at later ⊢
          rw [later]
          simp
      rw [spelled]
      exact (proper.1 first List.mem_cons_self).tight.between bar _
    · rw [text, if_neg behind]
      exact among
  | records model shown =>
    have mark : Text.Tight [referenceMark] := by
      exact ⟨⟨referenceMark, rfl, by decide⟩, ⟨referenceMark, rfl, by decide⟩⟩
    have spelled : (records model shown).text = [referenceMark] ++ (model ++ ['.']) ++ shown := by
      simp [text]
    rw [spelled]
    exact mark.between proper.2.tight _

/-- Written options are a reference or hold a bar. -/
theorem reference_or_bar (options : WrittenOptions) :
    options.text.head? = some referenceMark ∨ '|' ∈ options.text := by
  cases options with
  | labels first more barred =>
    right
    rcases text_labels first more barred with ⟨written, several⟩ | written
    · obtain ⟨next, rest, rfl⟩ := List.exists_cons_of_ne_nil several
      simp [written, Text.joinWith]
    · cases more <;> simp [written, Text.joinWith]
  | records model shown => exact .inl rfl

end WrittenOptions

namespace FieldDeclaration

variable {declaration : FieldDeclaration}

/-- The validation, unless it is empty. -/
def validation? (declaration : FieldDeclaration) : Option Text :=
  if declaration.segments.isEmpty then none else some declaration.validationText

/-- A validation that is not blank is one that has segments. -/
theorem Proper.unlessBlank_eq (proper : declaration.Proper) :
    unlessBlank declaration.validationText = declaration.validation? := by
  by_cases none : declaration.segments = []
  · simp [validation?, validationText, none, unlessBlank, Text.joinWith, Text.isBlankText]
  · have solid := (proper.tight_validationText none).isBlankText_eq
    simp [validation?, none, unlessBlank, solid]

/-- The last piece of a validation is not in the table, and with a colon behind it, it does not
begin as the rule that carries options does; neither do the pieces before it. -/
theorem Proper.last_piece (proper : declaration.Proper) :
    ∃ front last, declaration.validationText = Text.joinWith ['|'] (front ++ [last]) ∧
      (∀ piece ∈ front ++ [last], '|' ∉ piece) ∧
      Text.trim last ∉ parameterisedRules ∧
      (declaration.kind = .select → (∀ piece ∈ front, NoOptionsRule piece) ∧
        ∀ ending, NoOptionsRule (last ++ ':' :: ending)) := by
  rcases List.eq_nil_or_concat declaration.segments with none | ⟨front, last, split⟩
  · refine ⟨[], [], by rw [validationText, none]; rfl, by simp, by decide, fun _ => ?_⟩
    exact ⟨by simp, fun ending => noOptionsRule_append (by simp) (by decide) ending⟩
  · rw [List.concat_eq_append] at split
    have legal : ∀ segment ∈ front ++ [last], segment.Proper declaration.kind :=
      split ▸ proper.segments
    have final := legal last (by simp)
    refine ⟨front.map Segment.text, last.text, ?_, ?_, ?_, fun isSelect => ⟨?_, ?_⟩⟩
    · rw [validationText, split, List.map_append, List.map_singleton]
    · have barless := proper.barless
      rwa [split, List.map_append, List.map_singleton] at barless
    · rw [final.isAtom.trimmed]
      exact final.notMem_parameterisedRules
    · intro piece member
      obtain ⟨segment, inside, rfl⟩ := List.mem_map.mp member
      have own := legal segment (List.mem_append_left _ inside)
      rw [isSelect] at own
      simpa using own.noOptionsRule (.inl rfl)
    · intro ending
      rw [isSelect] at final
      exact final.noOptionsRule (.inr rfl)

/-- Options behind a validation are read as options. -/
theorem splitOptions_options (proper : declaration.Proper) {options : WrittenOptions}
    (legal : options.Proper) :
    splitOptions declaration.kind (declaration.validationText ++ ':' :: options.text) =
      (declaration.validation?, some options.text) := by
  obtain ⟨front, last, written, barless, outside, noRule⟩ := proper.last_piece
  have colonless : ':' ∉ options.text := legal.free ':' (by decide)
  have nowhere : declaration.kind = .select →
      splitOptionsRule? [] (declaration.validationText ++ ':' :: options.text) = none := by
    intro isSelect
    obtain ⟨before, behind⟩ := noRule isSelect
    apply splitOptionsRule?_eq_none
    cases pieces : Text.splitOn '|' options.text with
    | nil => exact absurd pieces (Text.splitWhere_ne_nil _ _)
    | cons first rest =>
      have plain : ∀ piece ∈ first :: rest, ':' ∉ piece ∧ '|' ∉ piece := by
        intro piece member
        rw [← pieces] at member
        exact ⟨fun inside => colonless (Text.subset_of_mem_splitOn member inside),
          Text.notMem_of_mem_splitOn member⟩
      have joined : declaration.validationText ++ ':' :: options.text =
          Text.joinWith ['|'] (front ++ (last ++ ':' :: first) :: rest) := by
        rw [Text.joinWith_append_cons, written, ← pieces, Text.joinWith_splitOn]
      have whole : ∀ piece ∈ front ++ (last ++ ':' :: first) :: rest, '|' ∉ piece := by
        intro piece member inside
        rcases List.mem_append.mp member with early | late
        · exact barless piece (List.mem_append_left _ early) inside
        · rcases List.mem_cons.mp late with rfl | later
          · rcases List.mem_append.mp inside with own | other
            · exact barless last (by simp) own
            · rcases List.mem_cons.mp other with colon | there
              · exact absurd colon (by decide)
              · exact (plain first List.mem_cons_self).2 there
          · exact (plain piece (List.mem_cons_of_mem _ later)).2 inside
      rw [joined, Text.splitOn_joinWith_of_notMem (by simp) whole]
      intro piece member
      rcases List.mem_append.mp member with early | late
      · exact before piece early
      · rcases List.mem_cons.mp late with rfl | later
        · exact behind first
        · exact noOptionsRule_of_notMem (plain piece (List.mem_cons_of_mem _ later)).1
  have areOptions : isOptions declaration.validationText options.text = true := by
    have outside : parameterisedRules.contains (Text.trim last) = false := by simpa using outside
    rw [written, isOptions_joinWith barless, outside]
    rcases options.reference_or_bar with reference | bar
    · simp [reference]
    · simp [bar]
  rw [splitOptions_of_splitLast? nowhere (Text.splitLast?_append colonless _),
    legal.tight.trim_eq, areOptions, if_pos rfl, proper.unlessBlank_eq]

end FieldDeclaration

end Scaffold.Schema
