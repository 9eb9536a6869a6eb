import Scaffold.Proofs.Schema.Fields
import Scaffold.Proofs.Schema.Segment
import Scaffold.Proofs.Text.Padded

/-!
# Blanks around the bars of a declaration

Blanks around the bars behind the type of a field change nothing in the field that is read, except
where the rule that carries the options of a select is found by the bar in front of it
(`Schema.readField_spaceBars_iff`). The other ways to split what is written behind a type cut it at
the last colon, and both sides of that are read by their trimmed pieces (`Schema.fieldOf_cutAtColon`).
-/
namespace Scaffold

open Text

namespace Schema

variable {text one other name declared rest before options : Text} {kind : FieldKind}

/-- The kind of a declared type; an unknown type is text. -/
def kindOf (declared : Text) : FieldKind :=
  if (trim declared).isEmpty then .text else (FieldKind.lookup? (trim declared)).getD .text

/-- A kind is read whatever the token is. -/
theorem readKind_fst (token declared : Text) :
    (readKind token (trim declared)).1 = kindOf declared := by
  unfold readKind kindOf
  split
  · rfl
  · cases FieldKind.lookup? (trim declared) <;> rfl

/-- The field of a name, a type and what is written behind it. -/
theorem readField_written (nameless : ':' ∉ name) (typeless : ':' ∉ declared) (rest : Text) :
    (readField (name ++ ':' :: (declared ++ ':' :: rest))).1 =
      if (trim name).isEmpty then none
      else some (fieldOf (trim name) (kindOf declared)
        (splitOptions (kindOf declared) (trimEnd rest))) := by
  have solid : isBlank ':' = false := by decide
  have start : trimStart (name ++ ':' :: (declared ++ ':' :: rest)) =
      trimStart name ++ ':' :: (declared ++ ':' :: rest) := by
    rw [trimStart, List.dropWhile_append]
    split
    · rename_i gone
      rw [trimStart, List.isEmpty_iff.mp gone]
      simp [solid]
    · rfl
  have whole : trim (name ++ ':' :: (declared ++ ':' :: rest)) =
      trimStart name ++ ':' :: (declared ++ ':' :: trimEnd rest) := by
    rw [trim, start, trimEnd_append_cons solid, trimEnd_append_cons solid]
  have absent : ':' ∉ trimStart name := fun inside =>
    nameless ((List.dropWhile_suffix _).subset inside)
  rw [readField_eq]
  simp only [whole, splitName, splitFirst?_append absent, trim_trimStart, splitType,
    splitFirst?_append typeless, readKind_fst, Option.map_some, Option.getD_some]
  split <;> rfl

/-- The validation and the options on both sides of the last colon. -/
def cutAtColon (rest : Text) : Option Text × Option Text :=
  match splitLast? ':' rest with
  | some (before, after) =>
    if isOptions before (trim after) then (unlessBlank before, some (trim after))
    else (some rest, none)
  | none => (some rest, none)

/-- Only a select may carry its options in a rule, and else the last colon decides. -/
theorem splitOptions_eq_cutAtColon (nowhere : kind = .select → splitOptionsRule? [] rest = none) :
    splitOptions kind rest = cutAtColon rest := by
  unfold splitOptions cutAtColon
  split
  · rename_i found
    split at found
    · rename_i isSelect
      rw [nowhere isSelect] at found
      exact nomatch found
    · exact nomatch found
  · rfl

/-- Two parts are read alike: the pieces of both validations are the same, and so are the options. -/
def ReadAlike (parts others : Option Text × Option Text) : Prop :=
  parts.1.map segments = others.1.map segments ∧ parts.2.map readOptions = others.2.map readOptions

/-- The field depends on how its parts are read. -/
theorem ReadAlike.fieldOf_eq {parts others : Option Text × Option Text}
    (alike : ReadAlike parts others) (name : Text) (kind : FieldKind) :
    fieldOf name kind parts = fieldOf name kind others := by
  obtain ⟨pieces, options⟩ := alike
  have validation : (parts.1.bind fun _ => validationOf ((parts.1.map segments).getD [])) =
      others.1.bind fun _ => validationOf ((others.1.map segments).getD []) := by
    rw [pieces]
    cases first : parts.1 <;> cases second : others.1 <;> simp_all
  unfold fieldOf keptOptions
  simp only [validation, options]
  rw [pieces]

/-- The pieces of a text between bars are those of its trimmed form. -/
theorem segments_trim (text : Text) : segments (trim text) = segments text := by
  have start : segments (trimStart text) = segments text := by
    obtain ⟨margin, whole, blank⟩ := exists_beginning text
    obtain ⟨first, more, pieces⟩ := List.exists_cons_of_ne_nil
      (splitWhere_ne_nil (fun c => decide (c = '|')) (trimStart text))
    conv => rhs; rw [whole]
    rw [segments, segments,
      splitOn_append_left (notMem_of_isBlankText (by decide) blank) pieces, splitOn, pieces,
      List.map_cons, List.map_cons, trim_append_left (List.all_eq_true.mp blank)]
  rw [← start]
  exact (Padded.of_trimEnd (trimStart text)).trimmed_pieces

/-- Options that are no reference are read by their pieces. -/
theorem readOptions_of_notMem (noReference : referenceMark ∉ text) : readOptions text =
    match (segments text).filter (!·.isEmpty) with
    | [] => .none
    | label :: labels => .labels (label :: labels) := by
  rw [← segments_trim]
  unfold readOptions
  cases trimmed : trim text with
  | nil => rfl
  | cons c rest =>
    have other : c ≠ referenceMark := by
      rintro rfl
      exact noReference ((trim_infix_self text).subset (by rw [trimmed]; exact List.mem_cons_self))
    refine (if_neg other).trans ?_
    cases (segments (c :: rest)).filter (!·.isEmpty) <;> rfl

/-- What stands behind the last colon is options no matter which blanks stand around bars. -/
theorem isOptions_eq {after behind : Text} (left : Padded one other) (right : Padded after behind)
    (noReference : referenceMark ∉ after) :
    isOptions one (trim after) = isOptions other (trim behind) := by
  have solid : isBlank referenceMark = false := by decide
  have unmarked : ∀ {text : Text}, referenceMark ∉ text →
      ((trim text).head? == some referenceMark) = false := by
    intro text absent
    rw [beq_eq_false_iff_ne]
    exact fun first => absent ((trim_infix_self text).subset (List.mem_of_head? first))
  have last : ∀ text : Text, trim ((splitOn '|' text).getLastD []) = (segments text).getLastD [] := by
    intro text
    rw [segments, List.getLastD_eq_getLast?, List.getLastD_eq_getLast?, List.getLast?_map]
    cases (splitOn '|' text).getLast? <;> rfl
  have bars : (trim after).contains '|' = (trim behind).contains '|' := by
    have bar : isBlank '|' = false := by decide
    rw [Bool.eq_iff_iff, List.contains_iff_mem, List.contains_iff_mem, mem_trim_iff bar,
      mem_trim_iff bar, right.mem_iff bar]
  rw [isOptions, isOptions, unmarked noReference,
    unmarked fun inside => noReference ((right.mem_iff solid).mpr inside), last, last, bars,
    segments, left.trimmed_pieces]
  rfl

/-- Cutting at the last colon gives parts that are read alike, whatever blanks stand around bars. -/
theorem readAlike_cutAtColon (padded : Padded one other) (noReference : referenceMark ∉ one) :
    ReadAlike (cutAtColon one) (cutAtColon other) := by
  have solid : isBlank ':' = false := by decide
  have all : (some one : Option Text).map segments = (some other).map segments :=
    congrArg some padded.trimmed_pieces
  by_cases colon : ':' ∈ one
  · obtain ⟨before, after, front, behind, first, second, left, right⟩ :=
      padded.cut solid (by decide) colon
    have unmarked : referenceMark ∉ after := fun inside => noReference <| by
      rw [eq_of_splitLast? first]
      exact List.mem_append_right _ (List.mem_cons_of_mem _ inside)
    have others : referenceMark ∉ behind := fun inside =>
      unmarked ((right.mem_iff (by decide)).mpr inside)
    unfold cutAtColon
    simp only [first, second, isOptions_eq left right unmarked]
    split
    · refine ⟨?_, ?_⟩
      · simp only [unlessBlank, left.isBlankText_eq]
        split
        · rfl
        · exact congrArg some left.trimmed_pieces
      · have pieces : segments (trim after) = segments (trim behind) := by
          rw [segments_trim, segments_trim]
          exact right.trimmed_pieces
        have trimmed : ∀ {text : Text}, referenceMark ∉ text → referenceMark ∉ trim text :=
          fun absent inside => absent ((trim_infix_self _).subset inside)
        simp only [Option.map_some, readOptions_of_notMem (trimmed unmarked),
          readOptions_of_notMem (trimmed others), pieces]
    · exact ⟨all, rfl⟩
  · have absent : ':' ∉ other := fun inside => colon ((padded.mem_iff solid).mpr inside)
    unfold cutAtColon
    simp only [splitLast?_of_notMem colon, splitLast?_of_notMem absent]
    exact ⟨all, rfl⟩

/-- Blanks at the end of a piece do not matter to how it begins. -/
theorem noOptionsRule_trimEnd {piece : Text} :
    NoOptionsRule (trimEnd piece) ↔ NoOptionsRule piece := by
  have spelled : optionsRule = ("array" : Text) ++ [':'] := by decide
  unfold NoOptionsRule startsWith
  rw [Bool.eq_false_iff, Bool.eq_false_iff, Ne, Ne, List.isPrefixOf_iff_prefix,
    List.isPrefixOf_iff_prefix, not_iff_not]
  constructor
  · exact fun starts => starts.trans (trimEnd_prefix_self piece)
  · rintro ⟨more, rfl⟩
    rw [spelled, List.append_assoc, List.singleton_append, trimEnd_append_cons (by decide)]
    exact ⟨trimEnd more, by simp⟩

/-- A piece behind a bar begins as the rule does that carries options. -/
def OptionsBehindBar (text : Text) : Prop :=
  ∃ piece ∈ (splitOn '|' text).tail, ¬NoOptionsRule piece

/-- Whether a piece does can be computed. -/
instance decidableOptionsBehindBar (text : Text) : Decidable (OptionsBehindBar text) :=
  inferInstanceAs (Decidable (∃ piece ∈ (splitOn '|' text).tail, ¬NoOptionsRule piece))

/-- Blanks at the end do not change that. -/
theorem optionsBehindBar_trimEnd : OptionsBehindBar (trimEnd text) ↔ OptionsBehindBar text := by
  have same : ∀ pieces : List Text, (∃ piece ∈ pieces, ¬NoOptionsRule piece) ↔
      ∃ piece ∈ pieces.map trimEnd, ¬NoOptionsRule piece := by
    simp [noOptionsRule_trimEnd]
  rw [OptionsBehindBar, OptionsBehindBar, same, same (splitOn '|' text).tail, List.map_tail,
    List.map_tail, trimEnd_pieces (by decide)]

/-- A text begins as its first piece does. -/
theorem noOptionsRule_first {first : Text} {more : List Text} (none : NoOptionsRule text)
    (split : splitOn '|' text = first :: more) : NoOptionsRule first := by
  have start : first <+: text := by
    have back := joinWith_splitOn '|' text
    rw [split] at back
    cases more with
    | nil => exact ⟨[], by rw [List.append_nil]; exact back⟩
    | cons next rest => exact ⟨['|'] ++ joinWith ['|'] (next :: rest), by
        rw [← List.append_assoc]; exact back⟩
  unfold NoOptionsRule startsWith at none ⊢
  rw [Bool.eq_false_iff, Ne, List.isPrefixOf_iff_prefix] at none ⊢
  exact fun starts => none (starts.trans start)

/-- The rule is not found if neither the text nor a piece behind a bar begins with it. -/
theorem splitOptionsRule?_of_noOptionsRule (none : NoOptionsRule text)
    (nowhere : ¬OptionsBehindBar text) : splitOptionsRule? [] text = Option.none := by
  refine splitOptionsRule?_from (fun _ piece first => ?_) fun piece member => ?_
  · obtain ⟨more, split⟩ := List.head?_eq_some_iff.mp first
    exact noOptionsRule_first none split
  · exact not_not.mp fun starts => nowhere ⟨piece, member, starts⟩

/-- The rule is found at the front of a text that begins with it. -/
theorem splitOptions_optionsRule (options : Text) :
    splitOptions .select (optionsRule ++ options) = (none, some options) := by
  have found : splitOptionsRule? [] (optionsRule ++ options) = some ([], options) := by
    have spelled : optionsRule = 'a' :: ("rray:" : Text) := by decide
    have starts : startsWith ('a' :: (("rray:" : Text) ++ options)) optionsRule = true := by
      rw [startsWith, List.isPrefixOf_iff_prefix, spelled]
      exact ⟨options, rfl⟩
    rw [spelled, List.cons_append, splitOptionsRule?, starts]
    simp [spelled]
  rw [splitOptions, if_pos rfl, found]
  rfl

/-- The text with a blank on each side of every bar. -/
def spaceBars (text : Text) : Text := text.flatMap fun c => if c = '|' then " | " else [c]

/-- Blanks around the bars are blanks around the pieces. -/
theorem padded_spaceBars (text : Text) : Padded text (spaceBars text) := by
  induction text with
  | nil => exact .refl []
  | cons c rest ih =>
    unfold spaceBars at ih ⊢
    rw [List.flatMap_cons]
    split
    · rename_i bar
      rw [bar]
      exact @Padded.bar [' '] [' '] _ _ rfl rfl ih
    · exact .keep c ih

/-- No piece behind a bar with blanks around it begins as the rule does. -/
theorem not_optionsBehindBar_spaceBars (text : Text) : ¬OptionsBehindBar (spaceBars text) := by
  have blank : ∀ piece ∈ (splitOn '|' (spaceBars text)).tail, piece.head? = some ' ' := by
    induction text with
    | nil => simp [spaceBars, splitOn, splitWhere]
    | cons c rest ih =>
      obtain ⟨first, more, pieces⟩ := List.exists_cons_of_ne_nil
        (splitWhere_ne_nil (fun c => decide (c = '|')) (spaceBars rest))
      have split : splitOn '|' (spaceBars rest) = first :: more := pieces
      rw [split, List.tail_cons] at ih
      by_cases bar : c = '|'
      · have spaced : spaceBars (c :: rest) = [' '] ++ '|' :: ([' '] ++ spaceBars rest) := by
          rw [bar]
          rfl
        rw [spaced, splitOn_append_cons, splitOn_append_left (by decide) split]
        exact List.forall_mem_cons.mpr ⟨rfl, ih⟩
      · have spaced : spaceBars (c :: rest) = [c] ++ spaceBars rest := by
          rw [spaceBars, List.flatMap_cons, if_neg bar]
          rfl
        have absent : '|' ∉ [c] := fun inside => bar (List.mem_singleton.mp inside).symm
        rw [spaced, splitOn_append_left absent split]
        exact ih
  rintro ⟨piece, member, starts⟩
  obtain ⟨more, rfl⟩ := List.head?_eq_some_iff.mp (blank piece member)
  exact starts rfl

/-- Blanks around bars do not matter to how a text begins. -/
theorem noOptionsRule_of_padded (padded : Padded one other) (none : NoOptionsRule one) :
    NoOptionsRule other := by
  rw [NoOptionsRule, Bool.eq_false_iff]
  intro starts
  have barless : '|' ∉ optionsRule := by decide
  obtain ⟨piece, rest, split, begins⟩ := head_splitOn_startsWith barless starts
  obtain ⟨first, second, more, others, whole, cut, ended, -⟩ := padded.pieces
  rw [split, List.cons.injEq] at cut
  have start := noOptionsRule_trimEnd.mpr (noOptionsRule_first none whole)
  rw [ended, ← cut.1, noOptionsRule_trimEnd, NoOptionsRule, begins] at start
  exact Bool.noConfusion start

/-- Without a rule that the bar before it finds, the field is read as it is without the blanks. -/
theorem fieldOf_spaceBars (noReference : referenceMark ∉ rest)
    (found : kind ≠ .select ∨ ¬NoOptionsRule rest ∨ ¬OptionsBehindBar rest) (name : Text) :
    fieldOf name kind (splitOptions kind (trimEnd (spaceBars rest))) =
      fieldOf name kind (splitOptions kind (trimEnd rest)) := by
  have padded : Padded (trimEnd rest) (trimEnd (spaceBars rest)) := (padded_spaceBars rest).trimEnd
  have unmarked : referenceMark ∉ trimEnd rest := fun inside =>
    noReference ((trimEnd_prefix_self rest).subset inside)
  have alike := (readAlike_cutAtColon padded unmarked).fieldOf_eq name kind
  by_cases isSelect : kind = .select
  · by_cases start : NoOptionsRule (trimEnd rest)
    · have behind : ¬OptionsBehindBar (trimEnd rest) := by
        rw [optionsBehindBar_trimEnd]
        exact (found.resolve_left (not_not.mpr isSelect)).resolve_left
          (not_not.mpr (noOptionsRule_trimEnd.mp start))
      have spaced : ¬OptionsBehindBar (trimEnd (spaceBars rest)) := by
        rw [optionsBehindBar_trimEnd]
        exact not_optionsBehindBar_spaceBars rest
      rw [splitOptions_eq_cutAtColon fun _ => splitOptionsRule?_of_noOptionsRule start behind,
        splitOptions_eq_cutAtColon fun _ => splitOptionsRule?_of_noOptionsRule
          (noOptionsRule_of_padded padded start) spaced, alike]
    · rw [NoOptionsRule, Bool.not_eq_false, startsWith, List.isPrefixOf_iff_prefix] at start
      obtain ⟨options, whole⟩ := start
      rw [← whole] at padded unmarked ⊢
      obtain ⟨others, spaced, more⟩ := padded.of_append_left (by decide)
      have absent : referenceMark ∉ options := fun inside =>
        unmarked (List.mem_append_right _ inside)
      have absent' : referenceMark ∉ others := fun inside =>
        absent ((more.mem_iff (by decide)).mpr inside)
      have read : ReadAlike (none, some options) (none, some others) := by
        refine ⟨rfl, ?_⟩
        rw [Option.map_some, Option.map_some, readOptions_of_notMem absent,
          readOptions_of_notMem absent', segments, segments, more.trimmed_pieces]
      rw [spaced, isSelect, splitOptions_optionsRule, splitOptions_optionsRule,
        read.fieldOf_eq name .select]
  · rw [splitOptions_eq_cutAtColon fun same => absurd same isSelect,
      splitOptions_eq_cutAtColon fun same => absurd same isSelect, alike]

/-- Where the rule that carries options is found, it stands at the front or behind a bar. -/
theorem eq_of_splitOptionsRule? {before start options : Text}
    (found : splitOptionsRule? before text = some (start, options)) :
    before.reverse ++ text = start ++ (optionsRule ++ options) ∧
      (start = [] ∨ start.getLast? = some '|') := by
  induction text generalizing before with
  | nil => exact nomatch found
  | cons c rest ih =>
    rw [splitOptionsRule?] at found
    split at found
    · rename_i here
      simp only [Bool.and_eq_true, Bool.or_eq_true, List.isEmpty_iff, beq_iff_eq] at here
      obtain ⟨rfl, rfl⟩ := Prod.mk.inj (Option.some.inj found)
      obtain ⟨more, whole⟩ := List.isPrefixOf_iff_prefix.mp here.2
      rw [← whole, List.drop_left]
      refine ⟨rfl, here.1.imp (fun none => by rw [none]; rfl) fun bar => ?_⟩
      rw [List.getLast?_reverse, bar]
    · obtain ⟨whole, place⟩ := ih found
      rw [List.reverse_cons, List.append_assoc, List.singleton_append] at whole
      exact ⟨whole, place⟩

/-- Where it is not found, no piece behind a bar begins as it does. -/
theorem not_optionsBehindBar_of_none {before : Text} (nowhere : splitOptionsRule? before text = none) :
    ¬OptionsBehindBar text := by
  rintro ⟨piece, member, starts⟩
  induction text generalizing before with
  | nil => exact absurd member List.not_mem_nil
  | cons c rest ih =>
    rw [splitOptionsRule?] at nowhere
    split at nowhere
    · exact absurd nowhere (Option.some_ne_none _)
    · obtain ⟨first, more, pieces⟩ := List.exists_cons_of_ne_nil
        (splitWhere_ne_nil (fun c => decide (c = '|')) rest)
      have split : splitOn '|' rest = first :: more := pieces
      by_cases bar : c = '|'
      · have whole : splitOn '|' (c :: rest) = [] :: first :: more := by
          rw [bar, ← split]
          exact splitOn_append_cons '|' [] rest
        rw [whole, List.tail_cons] at member
        rcases List.mem_cons.mp member with rfl | later
        · have begins : startsWith rest optionsRule = true :=
            not_not.mp fun other => starts (noOptionsRule_first (Bool.eq_false_iff.mpr other) split)
          cases rest with
          | nil => exact absurd begins (by decide)
          | cons d later =>
            rw [splitOptionsRule?, begins, bar] at nowhere
            exact absurd nowhere (Option.some_ne_none _)
        · exact ih nowhere (by rwa [split, List.tail_cons])
      · have absent : '|' ∉ [c] := fun inside => bar (List.mem_singleton.mp inside).symm
        have whole := splitOn_append_left absent split
        rw [List.singleton_append] at whole
        rw [whole, List.tail_cons] at member
        exact ih nowhere (by rwa [split, List.tail_cons])

/-- How many rules a text writes. -/
def ruleCount (text : Text) : Nat := (rulesIn (segments text)).length

/-- The rules on both sides of a bar count. -/
theorem ruleCount_append_bar (front rest : Text) :
    ruleCount (front ++ '|' :: rest) = ruleCount front + ruleCount rest := by
  rw [ruleCount, segments, splitOn_append_cons, List.map_append, rulesIn, List.filter_append,
    List.length_append]
  rfl

/-- The rules of a field are those that its validation writes. -/
theorem ruleCount_fieldOf (name : Text) (kind : FieldKind) (parts : Option Text × Option Text) :
    ruleCount ((fieldOf name kind parts).validation.getD []) = (parts.1.map ruleCount).getD 0 := by
  cases written : parts.1 with
  | none =>
    simp only [fieldOf, written, Option.bind_none, Option.getD_none, Option.map_none]
    rfl
  | some text =>
    simp only [fieldOf, written, Option.bind_some, Option.map_some, Option.getD_some]
    by_cases none : rulesIn (segments text) = []
    · have empty : ruleCount text = 0 := by rw [ruleCount, none]; rfl
      rw [validationOf, none, empty]
      split <;> rfl
    · have kept : rulesIn (rulesIn (segments text)) = rulesIn (segments text) := by
        simp only [rulesIn, List.filter_filter, Bool.and_self]
      rw [validationOf, List.isEmpty_eq_false_iff.mpr none, Bool.false_and,
        if_neg Bool.false_ne_true, Option.getD_some, ruleCount,
        (splitOn_joinWith_rules (fun rule member => (isAtom_of_mem_rulesIn member).1) none).2, kept]
      rfl

/-- Bars at the end write no rule. -/
theorem ruleCount_dropEndWhile_le (text : Text) :
    ruleCount (dropEndWhile text (· == '|')) ≤ ruleCount text := by
  have whole : text = dropEndWhile text (· == '|') ++
      (text.reverse.takeWhile (· == '|')).reverse := by
    rw [dropEndWhile, ← List.reverse_append, List.takeWhile_append_dropWhile, List.reverse_reverse]
  conv => rhs; rw [whole]
  cases bars : (text.reverse.takeWhile (· == '|')).reverse with
  | nil => rw [List.append_nil]
  | cons c more =>
    have bar : c = '|' := by
      have inside : c ∈ text.reverse.takeWhile (· == '|') := by
        rw [← List.mem_reverse, bars]
        exact List.mem_cons_self
      exact beq_iff_eq.mp (List.all_eq_true.mp List.all_takeWhile c inside)
    rw [bar, ruleCount_append_bar]
    exact Nat.le_add_right _ _

/-- A text that begins with a letter of which no flag does writes a rule. -/
theorem ruleCount_pos (rest : Text) : 0 < ruleCount ('a' :: rest) := by
  obtain ⟨first, more, pieces⟩ := List.exists_cons_of_ne_nil
    (splitWhere_ne_nil (fun c => decide (c = '|')) rest)
  have split : splitOn '|' (['a'] ++ rest) = (['a'] ++ first) :: more :=
    splitOn_append_left (by decide) pieces
  have head := head?_trim (by decide : isBlank 'a' = false) first
  have flagless : ∀ word ∈ FieldFlags.words, word.head? ≠ some 'a' := by decide
  rw [List.singleton_append, List.singleton_append] at split
  rw [ruleCount, segments, split, List.map_cons]
  refine List.length_pos_of_mem (List.mem_filter.mpr ⟨List.mem_cons_self, ?_⟩)
  rw [Bool.and_eq_true, Bool.not_eq_true', List.isEmpty_eq_false_iff, Bool.not_eq_true',
    List.contains_eq_mem, decide_eq_false_iff_not]
  refine ⟨fun gone => ?_, fun flag => flagless _ flag head⟩
  rw [gone] at head
  exact Option.some_ne_none _ head.symm

/-- Cutting at the last colon leaves what stands before a colon in the validation. -/
theorem cutAtColon_fst (front behind : Text) (visible : isBlankText front = false) :
    ∃ more, (cutAtColon (front ++ ':' :: behind)).1 = some (front ++ more) := by
  have cut : ∃ before after, splitLast? ':' (':' :: behind) = some (before, after) := by
    cases later : splitLast? ':' behind with
    | none => exact ⟨[], behind, by simp [splitLast?, later]⟩
    | some sides => exact ⟨':' :: sides.1, sides.2, by simp [splitLast?, later]⟩
  obtain ⟨before, after, split⟩ := cut
  unfold cutAtColon
  rw [splitLast?_append_left split]
  simp only
  split
  · refine ⟨before, ?_⟩
    rw [unlessBlank, isBlankText_append visible, if_neg Bool.false_ne_true]
  · exact ⟨_, rfl⟩

/-- A rule behind a bar that carries options, with none at the front, is found by the bar before
it. -/
theorem exists_optionsRule (start : NoOptionsRule text) (behind : OptionsBehindBar text) :
    ∃ early options, text = (early ++ '|' :: ("array" : Text)) ++ ':' :: options ∧
      splitOptions .select text =
        (unlessBlank (dropEndWhile (early ++ ['|']) (· == '|')), some options) := by
  cases found : splitOptionsRule? [] text with
  | none => exact absurd behind (not_optionsBehindBar_of_none found)
  | some sides =>
    obtain ⟨before, options⟩ := sides
    obtain ⟨whole, place⟩ := eq_of_splitOptionsRule? found
    rw [List.reverse_nil, List.nil_append] at whole
    have bar : before.getLast? = some '|' := place.resolve_left fun none => by
      rw [none, List.nil_append] at whole
      rw [NoOptionsRule, whole, startsWith, Bool.eq_false_iff, Ne, List.isPrefixOf_iff_prefix]
        at start
      exact start (List.prefix_append _ _)
    obtain ⟨early, rfl⟩ := List.getLast?_eq_some_iff.mp bar
    refine ⟨early, options, ?_, ?_⟩
    · have spelled : optionsRule = ("array" : Text) ++ [':'] := by decide
      rw [whole, spelled]
      simp
    · rw [splitOptions, if_pos rfl, found]

/-- The validation in front of a rule that carries options writes fewer rules than the one that is cut
at the last colon, where this rule belongs to it. -/
theorem ruleCount_unlessBlank_lt (early options : Text) :
    ((unlessBlank (dropEndWhile (early ++ ['|']) (· == '|'))).map ruleCount).getD 0 <
      ((cutAtColon ((early ++ '|' :: ("array" : Text)) ++ ':' :: options)).1.map
        ruleCount).getD 0 := by
  have visible : isBlankText (early ++ '|' :: ("array" : Text)) = false :=
    Bool.eq_false_iff.mpr fun blank =>
      notMem_of_isBlankText (by decide : isBlank '|' = false) blank (by simp)
  obtain ⟨more, kept⟩ := cutAtColon_fst _ options visible
  have few : ((unlessBlank (dropEndWhile (early ++ ['|']) (· == '|'))).map ruleCount).getD 0 ≤
      ruleCount (dropEndWhile (early ++ ['|']) (· == '|')) := by
    unfold unlessBlank
    split
    · exact Nat.zero_le _
    · exact Nat.le_refl _
  rw [kept, Option.map_some, Option.getD_some]
  refine Nat.lt_of_le_of_lt (few.trans (ruleCount_dropEndWhile_le _)) ?_
  rw [ruleCount_append_bar, List.append_assoc, List.cons_append, ruleCount_append_bar]
  exact Nat.add_lt_add_left (ruleCount_pos _) _

/-- Where the bar before it finds the rule that carries options, the blanks hide it, and the rule is
one more of the validation. -/
theorem fieldOf_spaceBars_ne (noReference : referenceMark ∉ rest) (start : NoOptionsRule rest)
    (behind : OptionsBehindBar rest) (name : Text) :
    fieldOf name .select (splitOptions .select (trimEnd (spaceBars rest))) ≠
      fieldOf name .select (splitOptions .select (trimEnd rest)) := by
  have padded : Padded (trimEnd rest) (trimEnd (spaceBars rest)) := (padded_spaceBars rest).trimEnd
  have unmarked : referenceMark ∉ trimEnd rest := fun inside =>
    noReference ((trimEnd_prefix_self rest).subset inside)
  have begins := noOptionsRule_trimEnd.mpr start
  have spaced : splitOptions .select (trimEnd (spaceBars rest)) =
      cutAtColon (trimEnd (spaceBars rest)) :=
    splitOptions_eq_cutAtColon fun _ => splitOptionsRule?_of_noOptionsRule
      (noOptionsRule_of_padded padded begins)
      (optionsBehindBar_trimEnd.not.mpr (not_optionsBehindBar_spaceBars rest))
  obtain ⟨early, options, whole, read⟩ :=
    exists_optionsRule begins (optionsBehindBar_trimEnd.mpr behind)
  have alike : (cutAtColon (trimEnd (spaceBars rest))).1.map ruleCount =
      (cutAtColon (trimEnd rest)).1.map ruleCount := by
    have counted : ∀ written : Option Text, written.map ruleCount =
        (written.map segments).map fun pieces => (rulesIn pieces).length := fun written => by
      rw [Option.map_map]
      rfl
    rw [counted, counted, (readAlike_cutAtColon padded unmarked).1]
  intro same
  have counts := congrArg (fun field => ruleCount (field.validation.getD [])) same
  simp only [ruleCount_fieldOf, spaced, read, alike] at counts
  rw [whole] at counts
  exact Nat.ne_of_gt (ruleCount_unlessBlank_lt early options) counts

/-- Blanks around the bars behind the type of a field change nothing in the field that is read,
exactly if no rule that carries options is found by the bar in front of it: the field is no select,
its options are carried by its first rule, or no rule behind a bar carries them. -/
theorem readField_spaceBars_iff {name declared rest : Text} (nameless : ':' ∉ name)
    (typeless : ':' ∉ declared) (noReference : '@' ∉ rest) :
    (readField (name ++ ':' :: (declared ++ ':' :: spaceBars rest))).1 =
        (readField (name ++ ':' :: (declared ++ ':' :: rest))).1 ↔
      ¬(trim name ≠ [] ∧ kindOf declared = .select ∧ NoOptionsRule rest ∧ OptionsBehindBar rest) := by
  rw [readField_written nameless typeless, readField_written nameless typeless]
  by_cases named : trim name = []
  · simp [named]
  · rw [List.isEmpty_eq_false_iff.mpr named, if_neg Bool.false_ne_true, if_neg Bool.false_ne_true,
      Option.some.injEq]
    constructor
    · rintro same ⟨-, isSelect, start, behind⟩
      rw [isSelect] at same
      exact fieldOf_spaceBars_ne noReference start behind _ same
    · intro found
      refine fieldOf_spaceBars noReference ?_ _
      by_cases isSelect : kindOf declared = .select
      · refine .inr ?_
        rw [← not_and_or]
        exact fun both => found ⟨named, isSelect, both⟩
      · exact .inl isSelect

/-- Labels behind a rule are read whether or not blanks stand around their bars. -/
theorem readField_spaceBars_labels :
    (readField "state:select:nullable | searchable:Low | High").1 =
      (readField "state:select:nullable|searchable:Low|High").1 := by
  have spaced : ("state:select:nullable | searchable:Low | High" : Text) =
      "state" ++ ':' :: ("select" ++ ':' :: spaceBars "nullable|searchable:Low|High") := by
    decide +kernel
  have plain : ("state:select:nullable|searchable:Low|High" : Text) =
      "state" ++ ':' :: ("select" ++ ':' :: "nullable|searchable:Low|High") := by
    decide +kernel
  rw [spaced, plain]
  exact (readField_spaceBars_iff (by decide) (by decide) (by decide)).mpr fun found =>
    absurd found.2.2.2 (by decide +kernel)

/-- With a blank before it, the rule that carries the labels is read as a rule of the validation. -/
theorem readField_spaceBars_array :
    (readField "state:select:required | array:Low | High").1.map (·.validation) =
        some (some "required|array".toList) ∧
      (readField "state:select:required|array:Low|High").1.map (·.validation) =
        some (some "required".toList) ∧
      spaceBars "required|array:Low|High" = "required | array:Low | High".toList := by
  decide +kernel

end Schema

end Scaffold
