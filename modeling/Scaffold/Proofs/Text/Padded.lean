import Mathlib.Data.List.TakeWhile
import Scaffold.Proofs.Text.Atom

/-!
# Blanks around the pieces

A text between whose pieces other blanks stand than in another one: each bar may have other blanks
on either side, and the text may end with others (`Padded`). The two have the same trimmed pieces
(`Padded.trimmed_pieces`), and cutting both at the last of a character that is neither a bar nor
blank leaves such texts on both sides (`Padded.cut`).
-/
namespace Scaffold.Text

variable {text one other : Text}

/-- Blanks at the end do not show, and what stands before something else is kept. -/
theorem trimEnd_append (front rest : Text) : trimEnd (front ++ rest) =
    if isBlankText rest then trimEnd front else front ++ trimEnd rest := by
  have gone : (rest.reverse.dropWhile isBlank).isEmpty = isBlankText rest := by
    rw [Bool.eq_iff_iff, List.isEmpty_iff, List.dropWhile_eq_nil_iff, isBlankText,
      List.all_eq_true]
    simp only [List.mem_reverse]
  rw [trimEnd, trimEnd, trimEnd, dropEndWhile, dropEndWhile, dropEndWhile, List.reverse_append,
    List.dropWhile_append, gone]
  split
  · rfl
  · rw [List.reverse_append, List.reverse_reverse]

/-- Nothing is left of a blank text. -/
theorem trimEnd_of_blank (blank : isBlankText text = true) : trimEnd text = [] := by
  have shorter := trimEnd_append [] text
  rw [blank, if_pos rfl] at shorter
  exact shorter

/-- A character that is not blank is kept, and so is what stands before it. -/
theorem trimEnd_append_cons {c : Char} (solid : isBlank c = false) (front rest : Text) :
    trimEnd (front ++ c :: rest) = front ++ c :: trimEnd rest := by
  have visible : isBlankText (c :: rest) = false := by simp [isBlankText, solid]
  have alone : trimEnd [c] = [c] := by simp [trimEnd, dropEndWhile, solid]
  have later := trimEnd_append [c] rest
  rw [List.singleton_append] at later
  rw [trimEnd_append, visible, if_neg Bool.false_ne_true, later]
  split
  · rename_i blank
    rw [alone, trimEnd_of_blank blank]
  · rfl

/-- Nothing is trimmed from the end of a tight text. -/
theorem Tight.trimEnd_eq (tight : Tight text) : trimEnd text = text := by
  obtain ⟨c, last, solid⟩ := tight.last
  obtain ⟨front, rfl⟩ := List.getLast?_eq_some_iff.mp last
  exact trimEnd_append_cons solid front []

/-- A blank text holds nothing else. -/
theorem notMem_of_isBlankText {c : Char} (solid : isBlank c = false)
    (blank : isBlankText text = true) : c ∉ text := by
  intro inside
  have shown := List.all_eq_true.mp blank c inside
  rw [solid] at shown
  exact Bool.noConfusion shown

/-- A character that is not blank stands in a text exactly if it stands in its trimmed form. -/
theorem mem_trim_iff {c : Char} (solid : isBlank c = false) : c ∈ trim text ↔ c ∈ text := by
  obtain ⟨front, behind, whole, blank⟩ := exists_margins text
  have outside : c ∉ front ++ behind := fun inside => by
    have shown := blank c inside
    rw [solid] at shown
    exact Bool.noConfusion shown
  constructor
  · exact fun inside => (trim_infix_self text).subset inside
  · intro inside
    rw [whole, List.mem_append, List.mem_append] at inside
    rw [List.mem_append, not_or] at outside
    exact (inside.resolve_left outside.1).resolve_right outside.2

/-- A text is what trimming its end leaves, with blanks behind it. -/
theorem exists_ending (text : Text) :
    ∃ behind, text = trimEnd text ++ behind ∧ isBlankText behind = true := by
  refine ⟨(text.reverse.takeWhile isBlank).reverse, ?_, ?_⟩
  · rw [trimEnd, dropEndWhile, ← List.reverse_append, List.takeWhile_append_dropWhile,
      List.reverse_reverse]
  · rw [isBlankText, List.all_reverse]
    exact List.all_takeWhile

/-- A text is what trimming its front leaves, with blanks before it. -/
theorem exists_beginning (text : Text) :
    ∃ front, text = front ++ trimStart text ∧ isBlankText front = true :=
  ⟨text.takeWhile isBlank, List.takeWhile_append_dropWhile.symm, List.all_takeWhile⟩

/-- Trimming the front first makes no difference. -/
theorem trim_trimStart (text : Text) : trim (trimStart text) = trim text := by
  obtain ⟨front, whole, blank⟩ := exists_beginning text
  conv => rhs; rw [whole]
  exact (trim_append_left (List.all_eq_true.mp blank) _).symm

/-- Trimming the end first makes no difference. -/
theorem trim_trimEnd (text : Text) : trim (trimEnd text) = trim text := by
  obtain ⟨behind, whole, blank⟩ := exists_ending text
  conv => rhs; rw [whole]
  exact (trim_append_right (List.all_eq_true.mp blank) _).symm

/-- What trimming the end does behind a front depends on what is left of the rest alone. -/
theorem trimEnd_append_trimEnd (front rest : Text) :
    trimEnd (front ++ trimEnd rest) = trimEnd (front ++ rest) := by
  obtain ⟨behind, whole, blank⟩ := exists_ending rest
  conv => rhs; rw [whole, ← List.append_assoc, trimEnd_append, if_pos blank]

/-- A text has a last separator if it holds one, and text put before it changes nothing. -/
theorem splitLast?_append_left {separator : Char} {before after : Text}
    (cut : splitLast? separator text = some (before, after)) (front : Text) :
    splitLast? separator (front ++ text) = some (front ++ before, after) := by
  induction front with
  | nil => exact cut
  | cons c front ih => simp [splitLast?, ih]

/-- The pieces of a text with its end trimmed differ from its pieces in blanks at their ends. -/
theorem trimEnd_pieces {separator : Char} (solid : isBlank separator = false) (text : Text) :
    (splitOn separator (trimEnd text)).map trimEnd = (splitOn separator text).map trimEnd := by
  obtain ⟨behind, whole, blank⟩ := exists_ending text
  rcases List.eq_nil_or_concat (splitOn separator (trimEnd text)) with none | ⟨front, last, split⟩
  · exact absurd none (splitWhere_ne_nil _ _)
  · rw [List.concat_eq_append] at split
    have absent : separator ∉ last ++ behind := by
      rw [List.mem_append, not_or]
      exact ⟨notMem_of_mem_splitOn (by rw [split]; simp), notMem_of_isBlankText solid blank⟩
    conv => rhs; rw [whole]
    rw [splitOn_append_right split, splitOn_of_notMem absent, split, List.map_append,
      List.map_append, List.map_singleton, List.map_singleton, trimEnd_append, if_pos blank]

/-- Two texts that differ in the blanks around their bars and at their ends. -/
inductive Padded : Text → Text → Prop where
  /-- Blanks at the end of both. -/
  | ending {one other : Text} (blank : isBlankText one = true) (vain : isBlankText other = true) :
    Padded one other
  /-- A character of both. -/
  | keep (c : Char) {one other : Text} (rest : Padded one other) : Padded (c :: one) (c :: other)
  /-- A bar of both, in one of them with blanks around it. -/
  | bar {front behind one other : Text} (before : isBlankText front = true)
    (after : isBlankText behind = true) (rest : Padded one other) :
    Padded ('|' :: one) (front ++ '|' :: (behind ++ other))

namespace Padded

/-- A text is one without other blanks. -/
theorem refl (text : Text) : Padded text text := by
  induction text with
  | nil => exact .ending rfl rfl
  | cons c rest ih => exact .keep c ih

/-- Blanks may be put at the end. -/
theorem of_append {behind : Text} (blank : isBlankText behind = true) (text : Text) :
    Padded text (text ++ behind) := by
  induction text with
  | nil => exact .ending rfl blank
  | cons c rest ih => exact .keep c ih

/-- A text with its end trimmed is the text without the blanks there. -/
theorem of_trimEnd (text : Text) : Padded (Text.trimEnd text) text := by
  obtain ⟨behind, whole, blank⟩ := exists_ending text
  conv => arg 2; rw [whole]
  exact of_append blank _

/-- A character that is not blank stands in both texts or in neither. -/
theorem mem_iff (padded : Padded one other) {c : Char} (solid : isBlank c = false) :
    c ∈ one ↔ c ∈ other := by
  induction padded with
  | ending blank vain => simp [notMem_of_isBlankText solid blank, notMem_of_isBlankText solid vain]
  | keep d rest ih => simp [ih]
  | bar before after rest ih =>
    simp [notMem_of_isBlankText solid before, notMem_of_isBlankText solid after, ih]

/-- A word without bars and blanks at the front is at the front of both texts. -/
theorem of_append_left {word : Text} (plain : ∀ c ∈ word, isBlank c = false ∧ c ≠ '|')
    (padded : Padded (word ++ one) other) : ∃ more, other = word ++ more ∧ Padded one more := by
  induction word generalizing other with
  | nil => exact ⟨other, rfl, padded⟩
  | cons c word ih =>
    obtain ⟨solid, noBar⟩ := plain c List.mem_cons_self
    cases padded with
    | ending blank vain => exact absurd List.mem_cons_self (notMem_of_isBlankText solid blank)
    | keep _ rest =>
      obtain ⟨more, rfl, later⟩ := ih (fun d inside => plain d (List.mem_cons_of_mem _ inside)) rest
      exact ⟨more, rfl, later⟩
    | bar before after rest => exact absurd rfl noBar

/-- Both texts are blank, or neither is. -/
theorem isBlankText_eq (padded : Padded one other) : isBlankText one = isBlankText other := by
  induction padded with
  | ending blank vain => rw [blank, vain]
  | keep c rest ih => simp only [isBlankText, List.all_cons] at ih ⊢; rw [ih]
  | bar before after rest ih =>
    have solid : isBlank '|' = false := by decide
    simp [isBlankText, solid]

/-- Trimming the ends leaves texts that differ in blanks alone. -/
theorem trimEnd (padded : Padded one other) : Padded (Text.trimEnd one) (Text.trimEnd other) := by
  induction padded with
  | ending blank vain =>
    rw [trimEnd_of_blank blank, trimEnd_of_blank vain]
    exact .refl []
  | @keep c one other rest ih =>
    have first := trimEnd_append [c] one
    have second := trimEnd_append [c] other
    rw [rest.isBlankText_eq] at first
    rw [List.singleton_append] at first second
    rw [first, second]
    split
    · exact .refl _
    · exact .keep c ih
  | @bar front behind one other before after rest ih =>
    have solid : isBlank '|' = false := by decide
    have first := trimEnd_append_cons solid [] one
    rw [List.nil_append, List.nil_append] at first
    rw [first, trimEnd_append_cons solid, trimEnd_append]
    split
    · rename_i blank
      rw [trimEnd_of_blank after]
      rw [trimEnd_of_blank blank] at ih
      exact @Padded.bar front [] _ _ before rfl ih
    · exact .bar before after ih

/-- The pieces between the bars differ in the blanks around them, the first in those behind it. -/
theorem pieces (padded : Padded one other) : ∃ first second more others,
    splitOn '|' one = first :: more ∧ splitOn '|' other = second :: others ∧
      Text.trimEnd first = Text.trimEnd second ∧ more.map trim = others.map trim := by
  have solid : isBlank '|' = false := by decide
  have same : ∀ {first second : Text}, Text.trimEnd first = Text.trimEnd second →
      trim first = trim second := by
    intro first second ended
    rw [← trim_trimEnd first, ended, trim_trimEnd]
  induction padded with
  | @ending one other blank vain =>
    refine ⟨one, other, [], [], splitOn_of_notMem (notMem_of_isBlankText solid blank),
      splitOn_of_notMem (notMem_of_isBlankText solid vain), ?_, rfl⟩
    rw [trimEnd_of_blank blank, trimEnd_of_blank vain]
  | @keep c one other rest ih =>
    obtain ⟨first, second, more, others, split, cut, ended, later⟩ := ih
    by_cases bar : c = '|'
    · refine ⟨[], [], first :: more, second :: others, ?_, ?_, rfl, ?_⟩
      · rw [bar, ← split]
        exact splitOn_append_cons '|' [] one
      · rw [bar, ← cut]
        exact splitOn_append_cons '|' [] other
      · rw [List.map_cons, List.map_cons, same ended, later]
    · have absent : '|' ∉ [c] := fun inside => bar (List.mem_singleton.mp inside).symm
      refine ⟨[c] ++ first, [c] ++ second, more, others, splitOn_append_left absent split,
        splitOn_append_left absent cut, ?_, later⟩
      rw [← trimEnd_append_trimEnd, ended, trimEnd_append_trimEnd]
  | @bar front behind one other before after rest ih =>
    obtain ⟨first, second, more, others, split, cut, ended, later⟩ := ih
    refine ⟨[], front, first :: more, (behind ++ second) :: others, ?_, ?_, ?_, ?_⟩
    · rw [← split]
      exact splitOn_append_cons '|' [] one
    · rw [splitOn_append_cons, splitOn_of_notMem (notMem_of_isBlankText solid before),
        splitOn_append_left (notMem_of_isBlankText solid after) cut, List.singleton_append]
    · rw [trimEnd_of_blank before]
      rfl
    · rw [List.map_cons, List.map_cons, trim_append_left (List.all_eq_true.mp after), same ended,
        later]

/-- The trimmed pieces between the bars are the same. -/
theorem trimmed_pieces (padded : Padded one other) :
    (splitOn '|' one).map trim = (splitOn '|' other).map trim := by
  obtain ⟨first, second, more, others, split, cut, ended, later⟩ := padded.pieces
  rw [split, cut, List.map_cons, List.map_cons, later, ← trim_trimEnd first, ended, trim_trimEnd]

/-- Cutting at the last of a character that is no bar gives such texts on both sides. -/
theorem cut (padded : Padded one other) {c : Char} (solid : isBlank c = false) (noBar : c ≠ '|')
    (inside : c ∈ one) : ∃ before after front behind, splitLast? c one = some (before, after) ∧
      splitLast? c other = some (front, behind) ∧ Padded before front ∧ Padded after behind := by
  induction padded with
  | ending blank vain => exact absurd inside (notMem_of_isBlankText solid blank)
  | @keep d one other rest ih =>
    by_cases later : c ∈ one
    · obtain ⟨before, after, front, behind, first, second, left, right⟩ := ih later
      exact ⟨d :: before, after, d :: front, behind, splitLast?_append_left first [d],
        splitLast?_append_left second [d], .keep d left, right⟩
    · obtain rfl : c = d := (List.mem_cons.mp inside).resolve_right later
      exact ⟨[], one, [], other, splitLast?_append later [],
        splitLast?_append (fun there => later ((rest.mem_iff solid).mpr there)) [], .refl [], rest⟩
  | @bar margin ending one other before after rest ih =>
    have later : c ∈ one := (List.mem_cons.mp inside).resolve_left noBar
    obtain ⟨left, right, front, behind, first, second, heads, tails⟩ := ih later
    refine ⟨'|' :: left, right, margin ++ '|' :: (ending ++ front), behind,
      splitLast?_append_left first ['|'], ?_, .bar before after heads, tails⟩
    have whole := splitLast?_append_left second (margin ++ '|' :: ending)
    rwa [List.append_assoc, List.append_assoc, List.cons_append, List.cons_append] at whole

end Padded

end Scaffold.Text
