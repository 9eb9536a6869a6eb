import Scaffold.Proofs.Text.Occurrence

/-!
# Pieces of lines

A piece of a text that holds a character once is cut there in one way (`eq_of_cut`). Where it begins
and ends tells on which side of a place it lies: in front of what does not hold its last character
(`infix_left`), behind lines that do not hold its first word (`infix_right_fed`). A text is whole lines
with a line feed behind each, and the beginning of a further line (`exists_fed`).
-/
namespace Scaffold.Text

variable {word before after piece more : Text}

/-- What stands behind a character that occurs once. -/
theorem eq_of_cut {c : Char} {front behind rest : Text} (first : c ∉ before) (second : c ∉ rest)
    (same : front ++ c :: behind = before ++ c :: rest) : behind = rest := by
  rcases List.append_eq_append_iff.mp same with ⟨more, rfl, split⟩ | ⟨more, rfl, split⟩
  · cases more with
    | nil => exact (List.cons.inj split).2
    | cons d more =>
      obtain ⟨rfl, -⟩ := List.cons.inj split
      exact absurd (by simp) first
  · cases more with
    | nil => exact (List.cons.inj split).2.symm
    | cons d more =>
      obtain ⟨rfl, rfl⟩ := List.cons.inj split
      exact absurd (by simp) second

/-- A piece ends in front of a text that does not hold its last character. -/
theorem infix_left {c : Char} (last : piece.getLast? = some c) (absent : c ∉ after)
    (inside : piece <:+: before ++ after) : piece <:+: before := by
  obtain ⟨front, rfl⟩ := List.getLast?_eq_some_iff.mp last
  rcases List.infix_append_iff.mp inside with left | right | ⟨first, second, split, ends, begins⟩
  · exact left
  · exact absurd (right.subset (by simp)) absent
  · rcases List.eq_nil_or_concat second with rfl | ⟨rest, d, rfl⟩
    · rw [split, List.append_nil]
      exact ends.isInfix
    · rw [List.concat_eq_append, ← List.append_assoc] at split
      obtain rfl : c = d := List.singleton_inj.mp (List.append_inj' split rfl).2
      exact absurd (begins.subset (by simp)) absent

/-- A piece that begins with a word begins behind a line that does not hold the word. -/
theorem infix_right (filled : word ≠ []) (single : '\n' ∉ word) (absent : ¬word <:+: before)
    (inside : word ++ more <:+: before ++ '\n' :: after) : word ++ more <:+: after := by
  induction before with
  | nil =>
    rcases List.infix_cons_iff.mp inside with here | later
    · obtain ⟨c, rest, rfl⟩ := List.exists_cons_of_ne_nil filled
      exact absurd ((List.cons_prefix_cons.mp here).1 ▸ List.mem_cons_self) single
    · exact later
  | cons d before ih =>
    rcases List.infix_cons_iff.mp inside with here | later
    · have begins : word <+: d :: before :=
        prefix_append_cons single ((List.prefix_append word more).trans here)
      exact absurd begins.isInfix absent
    · exact ih (fun there => absent (there.trans (List.suffix_cons d before).isInfix)) later

/-- A piece that does not begin with a blank begins behind a margin. -/
theorem infix_behind_margin {c : Char} {margin : Text} (blank : ∀ c ∈ margin, isBlank c = true)
    (first : piece.head? = some c) (solid : isBlank c = false)
    (inside : piece <:+: margin ++ after) : piece <:+: after := by
  induction margin with
  | nil => exact inside
  | cons d margin ih =>
    rcases List.infix_cons_iff.mp inside with here | later
    · obtain ⟨rest, rfl⟩ := List.head?_eq_some_iff.mp first
      obtain ⟨rfl, -⟩ := List.cons_prefix_cons.mp here
      exact absurd (blank c List.mem_cons_self) (by simp [solid])
    · exact ih (fun e member => blank e (List.mem_cons_of_mem d member)) later

/-- Lines, each with a line feed behind it. -/
def fed (lines : List Text) : Text := lines.flatMap (· ++ ['\n'])

/-- Lines behind others. -/
theorem fed_append (lines others : List Text) : fed (lines ++ others) = fed lines ++ fed others :=
  List.flatMap_append

/-- A character that is no line feed is in none of them if it is in none of the lines. -/
theorem notMem_fed {c : Char} (other : c ≠ '\n') {lines : List Text}
    (absent : ∀ line ∈ lines, c ∉ line) : c ∉ fed lines := by
  intro inside
  obtain ⟨line, member, there⟩ := List.mem_flatMap.mp inside
  rcases List.mem_append.mp there with own | feed
  · exact absent line member own
  · exact other (List.mem_singleton.mp feed)

/-- A piece that begins with a word begins behind lines that do not hold the word. -/
theorem infix_right_fed (filled : word ≠ []) (single : '\n' ∉ word) {lines : List Text}
    (absent : ∀ line ∈ lines, ¬word <:+: line) (inside : word ++ more <:+: fed lines ++ after) :
    word ++ more <:+: after := by
  induction lines with
  | nil => exact inside
  | cons line lines ih =>
    refine ih (fun other member => absent other (List.mem_cons_of_mem line member)) ?_
    refine infix_right filled single (absent line List.mem_cons_self) ?_
    simpa [fed] using inside

/-- Lines are joined but for the last line feed. -/
theorem unlines_append_feed {lines : List Text} (some : lines ≠ []) :
    unlines lines ++ ['\n'] = fed lines := by
  induction lines with
  | nil => exact absurd rfl some
  | cons line lines ih =>
    cases lines with
    | nil => simp [unlines, joinWith, fed]
    | cons next rest =>
      have later := ih (by simp)
      simp only [unlines, joinWith, fed, List.flatMap_cons, List.append_assoc] at later ⊢
      rw [← later]

/-- A piece that does not end with a line feed is in lines that each have one exactly if it is in
them joined. -/
theorem infix_fed_iff {c : Char} (last : piece.getLast? = some c) (other : c ≠ '\n')
    {lines : List Text} : piece <:+: fed lines ↔ piece <:+: unlines lines := by
  by_cases some : lines = []
  · subst some
    rfl
  · rw [← unlines_append_feed some]
    exact ⟨infix_left last (by simpa using other),
      fun inside => inside.trans (List.prefix_append _ _).isInfix⟩

section Lines

variable {above : List Text} {rest : Text}

/-- A text is lines with a line feed behind each, and the beginning of a further line. -/
theorem exists_fed (text : Text) :
    ∃ above last, text = fed above ++ last ∧ (∀ line ∈ above, '\n' ∉ line) ∧ '\n' ∉ last := by
  obtain ⟨above, last, split⟩ : ∃ above last, rows text = above ++ [last] := by
    rcases List.eq_nil_or_concat (rows text) with none | ⟨above, last, split⟩
    · exact absurd none (rows_ne_nil text)
    · exact ⟨above, last, by rw [split, List.concat_eq_append]⟩
  have whole : ∀ row ∈ above ++ [last], '\n' ∉ row := fun row member =>
    feed_notMem_of_mem_rows (split ▸ member)
  refine ⟨above, last, ?_, fun line member => whole line (List.mem_append_left _ member),
    whole last (by simp)⟩
  have fedAll := unlines_append_feed (show above ++ [last] ≠ [] by simp)
  rw [← split, unlines_rows, split, fed_append] at fedAll
  have ending : fed [last] = last ++ ['\n'] := by simp [fed]
  rw [ending, ← List.append_assoc] at fedAll
  exact List.append_cancel_right fedAll

/-- Lines with a line feed behind each are the first rows of a text that begins with them. -/
theorem rows_fed_append (whole : ∀ line ∈ above, '\n' ∉ line) (rest : Text) :
    rows (fed above ++ rest) = above ++ rows rest := by
  induction above with
  | nil => rfl
  | cons line above ih =>
    have split : fed (line :: above) ++ rest = line ++ '\n' :: (fed above ++ rest) := by simp [fed]
    rw [split, rows_append_cons, rows_of_notMem (whole line List.mem_cons_self),
      ih fun other member => whole other (List.mem_cons_of_mem line member)]
    rfl

/-- They are as many as there are line feeds. -/
theorem count_fed_append (whole : ∀ line ∈ above, '\n' ∉ line) (single : '\n' ∉ rest) :
    (fed above ++ rest).count '\n' = above.length := by
  induction above with
  | nil => exact List.count_eq_zero.mpr single
  | cons line above ih =>
    have split : fed (line :: above) ++ rest = line ++ '\n' :: (fed above ++ rest) := by simp [fed]
    rw [split, List.count_append, List.count_eq_zero.mpr (whole line List.mem_cons_self),
      List.count_cons_self, ih fun other member => whole other (List.mem_cons_of_mem line member),
      List.length_cons, Nat.zero_add]

end Lines

end Scaffold.Text
