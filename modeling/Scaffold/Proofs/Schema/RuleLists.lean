import Scaffold.Proofs.Schema.Fields
import Scaffold.Proofs.Schema.Segment
import Scaffold.Proofs.Schema.Spacing

/-!
# Lists of rules

A list of rules behind the type of a field is all validation, whatever parameters its rules have,
as long as a colon in it stands behind a rule of the table. The rule that asks for a unique value is
not in the table, so behind the last colon a list is taken for options if that is the colon of such a
rule and more segments follow (`Schema.HidesRules`). It is also taken for options if behind blanks it
begins as a reference (`Schema.NamesRecords`). A list that is cut so loses the parameter of the last
rule that has one (`Schema.validation_of_cut`); any other loses nothing but the blanks at the ends of
its parameters (`Schema.validation_of_whole`).
-/
namespace Scaffold.Schema

open Text

variable {list : List Segment}

/-- A list of rules as it is written. -/
def ruleList (list : List Segment) : Text := joinWith ['|'] (list.map Segment.text)

/-- Segments follow the last rule with a parameter, and it asks for a unique value. -/
def HidesRules (list : List Segment) : Prop :=
  ∃ front parameter back, list = front ++ .parameterised uniqueRule parameter :: back ∧ back ≠ [] ∧
    ∀ segment ∈ back, ':' ∉ segment.text

/-- The parameter of the last rule with one begins as a reference does, behind blanks. -/
def NamesRecords (list : List Segment) : Prop :=
  ∃ front name parameter back, list = front ++ .parameterised name parameter :: back ∧
    (trim parameter).head? = some referenceMark ∧ ∀ segment ∈ back, ':' ∉ segment.text

/-- A list that ends with a rule with a parameter hides none. -/
theorem not_hidesRules_of_getLast? {last : Segment} (final : list.getLast? = some last)
    (colon : ':' ∈ last.text) : ¬HidesRules list := by
  rintro ⟨front, parameter, back, rfl, some, after⟩
  rcases List.eq_nil_or_concat back with none | ⟨early, segment, rfl⟩
  · exact some none
  · rw [List.concat_eq_append, ← List.cons_append, ← List.append_assoc, List.getLast?_concat,
      Option.some.injEq] at final
    exact after segment (by simp) (final ▸ colon)

/-- A list without the mark of references names no records. -/
theorem not_namesRecords (absent : ∀ segment ∈ list, referenceMark ∉ segment.text) :
    ¬NamesRecords list := by
  rintro ⟨front, name, parameter, back, rfl, first, -⟩
  have inside := (trim_infix_self parameter).subset (List.mem_of_head? first)
  exact absent (.parameterised name parameter) (by simp)
    (List.mem_append_right _ (List.mem_cons_of_mem _ inside))

/-- The segments of a list are atoms between the bars if they are kept. -/
theorem isAtom_of_mem_texts (kept : ∀ segment ∈ list, segment.IsKept) :
    ∀ piece ∈ list.map Segment.text, IsAtom ['|'] piece := by
  intro piece member
  obtain ⟨segment, inside, rfl⟩ := List.mem_map.mp member
  have atom := (kept segment inside).isAtom
  exact ⟨atom.filled, atom.trimmed, fun c bar => atom.free c (List.mem_cons_of_mem _ bar)⟩

/-- A list that is written has these segments as its pieces. -/
theorem splitOn_ruleList (listed : ∀ segment ∈ list, segment.IsListed) (some : list ≠ []) :
    splitOn '|' (ruleList list) = list.map Segment.text := by
  refine splitOn_joinWith_of_notMem (by simpa using some) fun piece member => ?_
  obtain ⟨segment, inside, rfl⟩ := List.mem_map.mp member
  exact (listed segment inside).free '|' (by decide)

/-- Its pieces are read without blanks at their ends. -/
theorem segments_ruleList (listed : ∀ segment ∈ list, segment.IsListed) (some : list ≠ []) :
    segments (ruleList list) = (list.map Segment.tidied).map Segment.text := by
  rw [segments, splitOn_ruleList listed some, List.map_map, List.map_map]
  exact List.map_congr_left fun segment member => (listed segment member).trim_text

/-- So they are where the end of the list is trimmed. -/
theorem segments_trimEnd_ruleList (listed : ∀ segment ∈ list, segment.IsListed)
    (some : list ≠ []) :
    segments (trimEnd (ruleList list)) = (list.map Segment.tidied).map Segment.text := by
  rw [← segments_ruleList listed some]
  exact (Padded.of_trimEnd (ruleList list)).trimmed_pieces

/-- The tidied segments of a list are kept. -/
theorem isKept_of_mem_tidied (listed : ∀ segment ∈ list, segment.IsListed) :
    ∀ segment ∈ list.map Segment.tidied, segment.IsKept := by
  intro segment member
  obtain ⟨own, inside, rfl⟩ := List.mem_map.mp member
  exact (listed own inside).isKept_tidied

/-- The rules among the tidied segments are those of the list. -/
theorem filter_isRule_tidied (list : List Segment) :
    (list.map Segment.tidied).filter Segment.isRule =
      (list.filter Segment.isRule).map Segment.tidied := by
  rw [List.filter_map]
  congr 1
  exact List.filter_congr fun segment _ => segment.isRule_tidied

/-- A list is written as its tidied segments are exactly if no parameter ends with blanks. -/
theorem ruleList_tidied_eq_iff (listed : ∀ segment ∈ list, segment.IsListed) (some : list ≠ []) :
    ruleList (list.map Segment.tidied) = ruleList list ↔
      ∀ segment ∈ list, trim segment.text = segment.text := by
  have legal := fun segment inside => (isKept_of_mem_tidied listed segment inside).listed
  have texts : (list.map Segment.tidied).map Segment.text =
      list.map fun segment => trim segment.text := by
    rw [List.map_map]
    exact List.map_congr_left fun segment member => (listed segment member).trim_text.symm
  rw [← List.map_inj_left, ← texts]
  refine ⟨fun same => ?_, fun same => congrArg (joinWith ['|']) same⟩
  have pieces := congrArg (splitOn '|') same
  rwa [splitOn_ruleList legal (by simpa using some),
    splitOn_ruleList listed some] at pieces

/-- A written list of kept segments begins and ends with them. -/
theorem tight_ruleList (kept : ∀ segment ∈ list, segment.IsKept) (some : list ≠ []) :
    Tight (ruleList list) :=
  Tight.joinWith (by simpa using some) fun piece member =>
    (isAtom_of_mem_texts kept piece member).tight

/-- The rules among the segments of a list are its rules. -/
theorem rulesIn_texts (listed : ∀ segment ∈ list, segment.IsListed) :
    rulesIn (list.map Segment.text) = (list.filter Segment.isRule).map Segment.text := by
  rw [rulesIn, List.filter_map]
  congr 1
  exact List.filter_congr fun segment member => (listed segment member).isRule_eq

/-- A list around a rule with a parameter is cut at its colon, if it is the last one. -/
theorem splitLast?_ruleList {name parameter : Text} {front back : List Segment}
    (single : ':' ∉ parameter) (after : ∀ segment ∈ back, ':' ∉ segment.text) :
    splitLast? ':' (trimEnd (ruleList (front ++ .parameterised name parameter :: back))) =
      some (joinWith ['|'] (front.map Segment.text ++ [name]),
        trimEnd (joinWith ['|'] (parameter :: back.map Segment.text))) := by
  have colonless : ':' ∉ joinWith ['|'] (parameter :: back.map Segment.text) := by
    intro inside
    rcases mem_joinWith inside with bar | ⟨piece, member, colon⟩
    · exact absurd bar (by decide)
    · rcases List.mem_cons.mp member with rfl | later
      · exact single colon
      · obtain ⟨segment, inside, rfl⟩ := List.mem_map.mp later
        exact after segment inside colon
  rw [ruleList, List.map_append, List.map_cons, Segment.text, joinWith_append_cons,
    trimEnd_append_cons (by decide)]
  exact splitLast?_append (fun inside => colonless ((trimEnd_prefix_self _).subset inside)) _

/-- What stands behind the colon of a rule in a list begins as a reference exactly if its parameter
does. -/
theorem head?_trim_parameter (parameter : Text) (back : List Segment) :
    (trim (joinWith ['|'] (parameter :: back.map Segment.text))).head? = some referenceMark ↔
      (trim parameter).head? = some referenceMark := by
  cases back with
  | nil => exact Iff.rfl
  | cons segment rest =>
    obtain ⟨margin, whole, blank⟩ := exists_beginning parameter
    have joined : trim (joinWith ['|'] (parameter :: (segment :: rest).map Segment.text)) =
        trim (trimStart parameter ++ '|' :: joinWith ['|'] ((segment :: rest).map Segment.text)) := by
      have bar : joinWith ['|'] (parameter :: (segment :: rest).map Segment.text) =
          parameter ++ '|' :: joinWith ['|'] ((segment :: rest).map Segment.text) := by
        simp [joinWith]
      rw [bar]
      conv => lhs; rw [whole, List.append_assoc]
      exact trim_append_left (List.all_eq_true.mp blank) _
    rw [joined, ← trim_trimStart parameter]
    cases start : trimStart parameter with
    | nil =>
      rw [List.nil_append, head?_trim (by decide)]
      decide
    | cons c more =>
      have solid : isBlank c = false := isBlank_head_trimStart (by rw [start]; rfl)
      rw [List.cons_append, head?_trim solid, head?_trim solid]

/-- A bar stands behind the colon of a rule exactly if more segments do. -/
theorem bar_mem_parameter {parameter : Text} {back : List Segment} (single : '|' ∉ parameter) :
    '|' ∈ joinWith ['|'] (parameter :: back.map Segment.text) ↔ back ≠ [] := by
  cases back with
  | nil => simpa [joinWith] using single
  | cons segment rest => simp [joinWith]

/-- What stands before the colon of a rule in a list is not blank. -/
theorem isBlankText_before {name : Text} {front : List Text} (tight : Tight name) :
    isBlankText (joinWith ['|'] (front ++ [name])) = false := by
  obtain ⟨c, first, solid⟩ := tight.first
  have inside : c ∈ joinWith ['|'] (front ++ [name]) :=
    mem_joinWith_of_mem ['|'] (by simp) (List.mem_of_head? first)
  rw [isBlankText, List.all_eq_false]
  exact ⟨c, inside, by simp [solid]⟩

/-- A list is cut at the colon of its last rule with a parameter exactly if the parameter begins as a
reference, or the rule asks for a unique value and more segments follow. Else it is all
validation. -/
theorem cutAtColon_of_split {name parameter : Text} {front back : List Segment}
    (listed : ∀ segment ∈ front ++ .parameterised name parameter :: back, segment.IsListed)
    (after : ∀ segment ∈ back, ':' ∉ segment.text) :
    cutAtColon (trimEnd (ruleList (front ++ .parameterised name parameter :: back))) =
      if (trim parameter).head? = some referenceMark ∨ name = uniqueRule ∧ back ≠ [] then
        (some (joinWith ['|'] (front.map Segment.text ++ [name])),
          some (trim (joinWith ['|'] (parameter :: back.map Segment.text))))
      else (some (trimEnd (ruleList (front ++ .parameterised name parameter :: back))), none) := by
  obtain ⟨known, free, -⟩ := listed (.parameterised name parameter) (by simp)
  have named := Segment.isAtom_name known
  have barless : ∀ piece ∈ front.map Segment.text ++ [name], '|' ∉ piece := by
    intro piece member
    rcases List.mem_append.mp member with first | last
    · obtain ⟨segment, inside, rfl⟩ := List.mem_map.mp first
      exact (listed segment (List.mem_append_left _ inside)).free '|' (by decide)
    · rw [List.mem_singleton.mp last]
      exact named.free '|' (by decide)
  have visible : unlessBlank (joinWith ['|'] (front.map Segment.text ++ [name])) =
      some (joinWith ['|'] (front.map Segment.text ++ [name])) := by
    rw [unlessBlank, isBlankText_before named.tight, if_neg Bool.false_ne_true]
  have head : ((trim (joinWith ['|'] (parameter :: back.map Segment.text))).head? ==
      some referenceMark) = decide ((trim parameter).head? = some referenceMark) := by
    rw [Bool.eq_iff_iff, beq_iff_eq, head?_trim_parameter, decide_eq_true_iff]
  have bar : (trim (joinWith ['|'] (parameter :: back.map Segment.text))).contains '|' =
      decide (back ≠ []) := by
    rw [Bool.eq_iff_iff, List.contains_iff_mem, mem_trim_iff (by decide),
      bar_mem_parameter (free '|' (by decide)), decide_eq_true_iff]
  have table : parameterisedRules.contains name = !decide (name = uniqueRule) := by
    rcases known with rfl | inside
    · decide
    · have other : name ≠ uniqueRule := by
        rintro rfl
        exact absurd inside (by decide)
      simp [inside, other]
  unfold cutAtColon
  rw [splitLast?_ruleList (free ':' (by decide)) after]
  simp only [trim_trimEnd, isOptions_joinWith barless, named.trimmed, head, bar, table, visible,
    Bool.not_not, Bool.or_eq_true, Bool.and_eq_true, decide_eq_true_iff, and_comm]

/-- A list that neither hides rules nor names records is all validation. -/
theorem cutAtColon_of_whole (listed : ∀ segment ∈ list, segment.IsListed)
    (shown : ¬HidesRules list) (own : ¬NamesRecords list) :
    cutAtColon (trimEnd (ruleList list)) = (some (trimEnd (ruleList list)), none) := by
  rcases last_parameterised listed with plain | ⟨front, name, parameter, back, rfl, after⟩
  · have absent : ':' ∉ trimEnd (ruleList list) := by
      intro inside
      rcases mem_joinWith ((trimEnd_prefix_self _).subset inside) with bar | ⟨piece, member, colon⟩
      · exact absurd bar (by decide)
      · obtain ⟨segment, listed, rfl⟩ := List.mem_map.mp member
        exact plain segment listed colon
    unfold cutAtColon
    rw [splitLast?_of_notMem absent]
  · rw [cutAtColon_of_split listed after, if_neg]
    rintro (first | ⟨rfl, some⟩)
    · exact own ⟨front, name, parameter, back, rfl, first, after⟩
    · exact shown ⟨front, parameter, back, rfl, some, after⟩

/-- The validation of a field whose validation is written as a list of rules and flags. -/
theorem validationOf_texts (listed : ∀ segment ∈ list, segment.IsListed)
    (some : ∃ segment ∈ list, segment.isRule = true) :
    validationOf (list.map Segment.text) = Option.some (ruleList (list.filter Segment.isRule)) := by
  obtain ⟨segment, member, isRule⟩ := some
  have filled : (list.filter Segment.isRule).map Segment.text ≠ [] :=
    List.ne_nil_of_mem (List.mem_map_of_mem (List.mem_filter.mpr ⟨member, isRule⟩))
  rw [validationOf, rulesIn_texts listed, List.isEmpty_eq_false_iff.mpr filled, Bool.false_and,
    if_neg Bool.false_ne_true]
  rfl

/-- The validation of a field for which a text with the pieces of a list is written is the rules of
the list, tidied. -/
theorem validation_fieldOf (listed : ∀ segment ∈ list, segment.IsListed)
    (some : ∃ segment ∈ list, segment.isRule = true) {parts : Option Text × Option Text}
    {written : Text} (first : parts.1 = Option.some written)
    (pieces : segments written = (list.map Segment.tidied).map Segment.text) (name : Text)
    (kind : FieldKind) : (fieldOf name kind parts).validation =
      Option.some (ruleList ((list.filter Segment.isRule).map Segment.tidied)) := by
  have legal : ∀ segment ∈ list.map Segment.tidied, segment.IsListed := fun segment member =>
    (isKept_of_mem_tidied listed segment member).listed
  have rule : ∃ segment ∈ list.map Segment.tidied, segment.isRule = true := by
    obtain ⟨segment, member, isRule⟩ := some
    exact ⟨_, List.mem_map_of_mem member, segment.isRule_tidied.trans isRule⟩
  simp only [fieldOf, first, Option.bind_some, Option.map_some, Option.getD_some, pieces,
    validationOf_texts legal rule, filter_isRule_tidied]

/-- The validation of a field for which a list is written that neither hides rules nor names records
is the rules of the list, tidied. -/
theorem validation_of_whole (listed : ∀ segment ∈ list, segment.IsListed)
    (some : ∃ segment ∈ list, segment.isRule = true) (shown : ¬HidesRules list)
    (own : ¬NamesRecords list) (name : Text) (kind : FieldKind) :
    (fieldOf name kind (cutAtColon (trimEnd (ruleList list)))).validation =
      Option.some (ruleList ((list.filter Segment.isRule).map Segment.tidied)) := by
  rw [cutAtColon_of_whole listed shown own]
  exact validation_fieldOf listed some rfl
    (segments_trimEnd_ruleList listed (List.ne_nil_of_mem some.choose_spec.1)) name kind

/-- A list that hides rules or names records is cut before the parameter of a rule. -/
theorem exists_cut (listed : ∀ segment ∈ list, segment.IsListed)
    (cut : HidesRules list ∨ NamesRecords list) : ∃ front word parameter back options,
      list = front ++ .parameterised word parameter :: back ∧
      cutAtColon (trimEnd (ruleList list)) = (some (ruleList (front ++ [.rule word])), options) := by
  have spelled (front : List Segment) (word : Text) :
      joinWith ['|'] (front.map Segment.text ++ [word]) = ruleList (front ++ [.rule word]) := by
    rw [ruleList, List.map_append]
    rfl
  rcases cut with ⟨front, parameter, back, rfl, more, after⟩ |
    ⟨front, word, parameter, back, rfl, first, after⟩
  · have cut := cutAtColon_of_split listed after
    rw [if_pos (.inr ⟨rfl, more⟩), spelled] at cut
    exact ⟨front, uniqueRule, parameter, back, _, rfl, cut⟩
  · have cut := cutAtColon_of_split listed after
    rw [if_pos (.inl first), spelled] at cut
    exact ⟨front, word, parameter, back, _, rfl, cut⟩

/-- What is left of a list that is cut is another list of rules. -/
theorem ruleList_ne_of_cut {front back : List Segment} {word parameter : Text}
    (listed : ∀ segment ∈ front ++ .parameterised word parameter :: back, segment.IsListed)
    (before : ∀ segment ∈ front ++ [.rule word], segment.IsListed) :
    ruleList (((front ++ [Segment.rule word]).filter Segment.isRule).map Segment.tidied) ≠
      ruleList ((front ++ .parameterised word parameter :: back).filter Segment.isRule) := by
  intro same
  have kept : ∀ rule ∈ ((front ++ [Segment.rule word]).filter Segment.isRule).map Segment.tidied,
      rule.IsKept :=
    isKept_of_mem_tidied fun rule inside => before rule (List.mem_filter.mp inside).1
  have pieces := congrArg (splitOn '|') same
  rw [splitOn_ruleList (fun rule inside => (kept rule inside).listed) (by simp [Segment.isRule]),
    splitOn_ruleList (fun rule inside => listed rule (List.mem_filter.mp inside).1)
      (by simp [Segment.isRule]),
    List.filter_append, List.filter_append, List.map_append, List.map_append,
    List.map_append] at pieces
  have last : word = word ++ ':' :: parameter :=
    (List.cons.inj (List.append_inj pieces (by simp)).2).1
  simp at last

/-- The validation of a field for which a list is written that hides rules or names records is another
list: its last rule with a parameter has lost it, and what follows is missing. -/
theorem validation_of_cut (listed : ∀ segment ∈ list, segment.IsListed)
    (cut : HidesRules list ∨ NamesRecords list) (name : Text) (kind : FieldKind) :
    ∃ others, (∀ rule ∈ others, rule.IsKept) ∧ others ≠ [] ∧
      (fieldOf name kind (cutAtColon (trimEnd (ruleList list)))).validation =
        some (ruleList others) ∧ ruleList others ≠ ruleList (list.filter Segment.isRule) := by
  obtain ⟨front, word, parameter, back, options, rfl, shortened⟩ := exists_cut listed cut
  have before : ∀ segment ∈ front ++ [.rule word], segment.IsListed := by
    have table : ∀ rule ∈ uniqueRule :: parameterisedRules, rule ∉ FieldFlags.words := by decide
    have known := (listed (.parameterised word parameter) (by simp)).1
    intro segment member
    rcases List.mem_append.mp member with early | last
    · exact listed segment (List.mem_append_left _ early)
    · rw [List.mem_singleton.mp last]
      exact ⟨Segment.isAtom_name known, table word (List.mem_cons.mpr known)⟩
  have last : Segment.rule word ∈ front ++ [.rule word] :=
    List.mem_append_right _ (List.mem_singleton_self _)
  refine ⟨_, isKept_of_mem_tidied fun rule inside => before rule (List.mem_filter.mp inside).1,
    List.ne_nil_of_mem (List.mem_map_of_mem (List.mem_filter.mpr ⟨last, rfl⟩)), ?_,
    ruleList_ne_of_cut listed before⟩
  rw [shortened]
  exact validation_fieldOf before ⟨_, last, rfl⟩ rfl (segments_ruleList before (by simp)) name kind

end Scaffold.Schema
