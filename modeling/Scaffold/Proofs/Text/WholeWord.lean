import Scaffold.Proofs.Text.Occurrence

/-!
# Whole words

The search for a whole word takes occurrences from the left and without overlap, so an occurrence
that it refuses can hide one which overlaps it and stands whole: `a-a` is not found in `xa-a-a`,
although nothing is glued to its second occurrence there. Nothing is hidden where every occurrence
that begins inside another one is glued to the character in front of it (`OverlapsGlued`). Then a
word is found exactly if it stands whole at some place (`wordOccursIn_iff`). Both kinds of words by
which entries are recognised are of this sort: inside an identifier the character in front is part
of an identifier (`IsIdentifier.overlapsGlued`), and a word whose last character stands nowhere else
in it does not overlap itself at all (`overlapsGlued_concat`).
-/
namespace Scaffold.Text

variable {word content : Text} {previous : Option Char}

/-- The word stands whole between two texts: an end of the word that is an identifier character has
none beside it. -/
structure StandsWhole (word before after : Text) : Prop where
  /-- The word does not go on in front. -/
  front : ∀ first ∈ word.head?, isIdentifierPart first = true →
    ∀ c ∈ before.getLast?, isIdentifierPart c = false
  /-- The word does not go on behind. -/
  behind : ∀ last ∈ word.getLast?, isIdentifierPart last = true →
    ∀ c ∈ after.head?, isIdentifierPart c = false

/-- An end is free exactly if an identifier character there has none beside it. -/
theorem freeEnd_iff {ending neighbour : Option Char} :
    freeEnd ending neighbour = true ↔
      ∀ e ∈ ending, isIdentifierPart e = true → ∀ c ∈ neighbour, isIdentifierPart c = false := by
  cases ending with
  | none => simp [freeEnd]
  | some e =>
    cases neighbour with
    | none => simp [freeEnd]
    | some c => cases part : isIdentifierPart e <;> simp [freeEnd, part]

/-- The word stands whole somewhere in a content which follows a character. -/
def OccursWhole (word : Text) (previous : Option Char) (content : Text) : Prop :=
  ∃ before after, content = before ++ (word ++ after) ∧
    freeEnd word.head? (before.getLast?.or previous) = true ∧
    freeEnd word.getLast? after.head? = true

/-- A word stands whole at the front of a content or behind its first character. -/
theorem occursWhole_cons_iff {c : Char} {rest : Text} :
    OccursWhole word previous (c :: rest) ↔
      (word <+: c :: rest ∧ standsFree word previous (c :: rest) = true) ∨
        OccursWhole word (some c) rest := by
  have last : ∀ before : Text,
      (c :: before).getLast?.or previous = before.getLast?.or (some c) := by
    intro before
    rw [List.getLast?_cons, Option.some_or, Option.or_some]
  constructor
  · rintro ⟨before, after, split, front, behind⟩
    cases before with
    | nil =>
      refine .inl ⟨⟨after, split.symm⟩, ?_⟩
      rw [split, List.nil_append, standsFree, List.drop_left, behind, Bool.and_true]
      exact front
    | cons d before =>
      obtain ⟨rfl, rfl⟩ := List.cons.inj split
      exact .inr ⟨before, after, rfl, last before ▸ front, behind⟩
  · rintro (⟨⟨after, split⟩, free⟩ | ⟨before, after, rfl, front, behind⟩)
    · rw [← split, standsFree, List.drop_left, Bool.and_eq_true] at free
      exact ⟨[], after, split.symm, free⟩
    · exact ⟨c :: before, after, rfl, (last before).symm ▸ front, behind⟩

/-- An occurrence of the word that begins inside another one is glued to the character in front of
it. -/
def OverlapsGlued (word : Text) : Prop :=
  ∀ front back : Text, front ≠ [] → back ≠ [] → word = front ++ back → back <+: word →
    freeEnd word.head? front.getLast? = false

/-- No occurrence that begins within the next characters is free in front. -/
def Shadowed (word : Text) (covered : Nat) (previous : Option Char) (content : Text) : Prop :=
  ∀ before after, content = before ++ (word ++ after) → before.length < covered →
    freeEnd word.head? (before.getLast?.or previous) = false

/-- Nothing needs to be shadowed where no character is covered. -/
theorem shadowed_zero : Shadowed word 0 previous content :=
  fun _ _ _ within => absurd within (Nat.not_lt_zero _)

/-- What is shadowed behind a character is shadowed behind the next one. -/
theorem Shadowed.tail {covered : Nat} {c : Char} {rest : Text}
    (shadowed : Shadowed word (covered + 1) previous (c :: rest)) :
    Shadowed word covered (some c) rest := by
  intro before after split within
  have here := shadowed (c :: before) after (by rw [split, List.cons_append])
    (by simpa using within)
  rwa [List.getLast?_cons, Option.some_or, ← Option.or_some] at here

/-- A shadowed word does not stand whole at the front. -/
theorem Shadowed.not_standsFree {covered : Nat}
    (shadowed : Shadowed word (covered + 1) previous content) (begins : word <+: content) :
    standsFree word previous content = false := by
  obtain ⟨after, rfl⟩ := begins
  have glued := shadowed [] after rfl (Nat.succ_pos covered)
  rw [standsFree, Bool.and_eq_false_iff]
  exact .inl glued

/-- An occurrence shadows the rest of the characters that it covers. -/
theorem OverlapsGlued.shadowed {c : Char} {rest : Text} (glued : OverlapsGlued word)
    (begins : word <+: c :: rest) : Shadowed word (word.length - 1) (some c) rest := by
  intro before after split within
  have within : (c :: before).length < word.length := by
    rw [List.length_cons]
    omega
  -- The characters in front of the second occurrence begin the first, and it goes on in the second.
  have front : c :: before <+: word := by
    refine List.prefix_of_prefix_length_le ⟨word ++ after, ?_⟩ begins (Nat.le_of_lt within)
    rw [split, List.cons_append]
  obtain ⟨back, own⟩ := front
  have filled : back ≠ [] := by
    rintro rfl
    rw [← own, List.append_nil] at within
    exact Nat.lt_irrefl _ within
  have again : back <+: word := by
    have behind : back <+: word ++ after := by
      rw [split, ← List.cons_append, ← own] at begins
      rw [← own]
      exact (List.prefix_append_right_inj _).mp begins
    refine List.prefix_of_prefix_length_le behind (List.prefix_append word after) ?_
    rw [← own, List.length_append]
    exact Nat.le_add_left _ _
  have refused := glued (c :: before) back (List.cons_ne_nil _ _) filled own.symm again
  rwa [List.getLast?_cons, ← Option.or_some] at refused

/-- From a place on where the covered characters hide nothing, the search finds the word exactly if
it stands whole. -/
theorem wordOccursFrom_iff (filled : word ≠ []) (glued : OverlapsGlued word) (content : Text) :
    ∀ (covered : Nat) (previous : Option Char), Shadowed word covered previous content →
      (wordOccursFrom word covered previous content = true ↔
        OccursWhole word previous content) := by
  induction content with
  | nil =>
    intro covered previous _
    have nowhere : ¬OccursWhole word previous [] := by
      rintro ⟨before, after, split, -⟩
      simp [filled] at split
    simp [wordOccursFrom, nowhere]
  | cons c rest ih =>
    intro covered previous shadowed
    rw [occursWhole_cons_iff]
    cases covered with
    | succ more =>
      have refused : ¬(word <+: c :: rest ∧ standsFree word previous (c :: rest) = true) := by
        rintro ⟨begins, free⟩
        rw [shadowed.not_standsFree begins] at free
        exact Bool.false_ne_true free
      rw [wordOccursFrom, ih more (some c) shadowed.tail]
      simp [refused]
    | zero =>
      rw [wordOccursFrom, ← List.isPrefixOf_iff_prefix]
      split
      · rename_i begins
        have covers := glued.shadowed (List.isPrefixOf_iff_prefix.mp begins)
        rw [Bool.or_eq_true, ih _ (some c) covers]
        simp [begins]
      · rename_i absent
        rw [ih 0 (some c) shadowed_zero]
        simp [absent]

/-- A word whose overlapping occurrences are glued is found exactly if it stands whole at some
place. -/
theorem wordOccursIn_iff (filled : word ≠ []) (glued : OverlapsGlued word) :
    wordOccursIn word content = true ↔
      ∃ before after, content = before ++ (word ++ after) ∧ StandsWhole word before after := by
  have some : word.isEmpty = false := List.isEmpty_eq_false_iff.mpr filled
  rw [wordOccursIn, some, Bool.false_or,
    wordOccursFrom_iff filled glued content 0 none shadowed_zero]
  simp only [OccursWhole, Option.or_none, freeEnd_iff]
  constructor
  · rintro ⟨before, after, split, front, behind⟩
    exact ⟨before, after, split, front, behind⟩
  · rintro ⟨before, after, split, whole⟩
    exact ⟨before, after, split, whole.front, whole.behind⟩

/-- An overlapping occurrence that is not glued is missed. -/
example : wordOccursIn "a-a" "xa-a-a" = false := by decide

/-- Inside an identifier every place is glued to the character in front. -/
theorem IsIdentifier.overlapsGlued (identifier : IsIdentifier word) : OverlapsGlued word := by
  intro front back filled _ split _
  obtain ⟨front, c, rfl⟩ := (List.eq_nil_or_concat front).resolve_left filled
  obtain ⟨d, rest, rfl⟩ := List.exists_cons_of_ne_nil identifier.filled
  have first := identifier.parts d List.mem_cons_self
  have before := identifier.parts c (by rw [split]; simp)
  simp [freeEnd, first, before]

/-- A word whose last character stands nowhere else in it does not overlap itself. -/
theorem overlapsGlued_concat {stem : Text} {c : Char} (once : c ∉ stem) :
    OverlapsGlued (stem ++ [c]) := by
  intro front back begun filled split again
  obtain ⟨back, d, rfl⟩ := (List.eq_nil_or_concat back).resolve_left filled
  rw [List.concat_eq_append, ← List.append_assoc] at split
  obtain ⟨rfl, same⟩ := List.append_inj' split rfl
  obtain rfl : c = d := by simpa using same
  -- The rest of the word is shorter than the word, so at its front it ends before that character.
  have shorter : back.concat c <+: front ++ back :=
    List.prefix_of_prefix_length_le again (List.prefix_append _ _) (by
      have := List.length_pos_iff.mpr begun
      simp only [List.concat_eq_append, List.length_append, List.length_singleton]
      omega)
  exact absurd (shorter.subset (by simp)) once

/-- **The search for a whole word misses nothing.** An identifier, or `::factory(` behind any number
of identifier characters, is found in a content exactly if it stands whole at some place: no
identifier character is in front of it if it begins with one, and none behind it if it ends with
one. Places where it overlaps other occurrences count as well. -/
theorem whole_words_found (content word : Text)
    (kind : IsIdentifier word ∨
      ∃ name : Text, (∀ c ∈ name, isIdentifierPart c = true) ∧ word = name ++ "::factory(") :
    wordOccursIn word content = true ↔
      ∃ before after, content = before ++ (word ++ after) ∧ StandsWhole word before after := by
  rcases kind with identifier | ⟨name, parts, rfl⟩
  · exact wordOccursIn_iff identifier.filled identifier.overlapsGlued
  · have stem : name ++ ("::factory(" : Text) = (name ++ "::factory") ++ ['('] := by simp
    have once : '(' ∉ name ++ ("::factory" : Text) := by
      rw [List.mem_append, not_or]
      refine ⟨fun inside => ?_, by decide⟩
      exact absurd (parts '(' inside) (by decide)
    rw [stem]
    exact wordOccursIn_iff (by simp) (overlapsGlued_concat once)

/-- A word is found behind an occurrence that is refused and one that overlaps it, and the making of
records is not found behind a longer name. -/
theorem whole_words_found_overlapping :
    IsIdentifier "aa" ∧
      (∃ before after, ("baaa aa" : Text) = before ++ ("aa" ++ after) ∧
        StandsWhole "aa" before after) ∧
      ¬∃ before after, ("SupportTicket::factory(5)" : Text) =
        before ++ (("Ticket" ++ "::factory(") ++ after) ∧
        StandsWhole ("Ticket" ++ "::factory(") before after := by
  have identifier : IsIdentifier "aa" := ⟨by decide, by decide⟩
  refine ⟨identifier, (whole_words_found _ _ (.inl identifier)).mp (by decide), ?_⟩
  rw [← whole_words_found _ _ (.inr ⟨"Ticket", by decide, rfl⟩)]
  decide

end Scaffold.Text
