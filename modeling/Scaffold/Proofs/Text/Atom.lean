import Scaffold.Proofs.Text.Row
import Scaffold.Proofs.Text.Trim
import Scaffold.Text.Quoted

/-!
# Atoms

A written declaration is put together from atoms with separators between them. A text is tight if
it is not empty and no blank stands at its ends, so trimming leaves it alone (`Tight.trim_eq`), and
so does putting more tight text behind it. An atom is a tight text without certain separators. The
first, the last and every separator of a text built that way are found where they were written.
-/
namespace Scaffold.Text

/-- The first separator is found behind a text without it. -/
theorem splitFirst?_append {separator : Char} {before : Text} (absent : separator ∉ before)
    (after : Text) : splitFirst? separator (before ++ separator :: after) = some (before, after) := by
  induction before with
  | nil => simp [splitFirst?]
  | cons c before ih =>
    have other : c ≠ separator := fun same => absent (by simp [same])
    have later := ih fun inside => absent (List.mem_cons_of_mem _ inside)
    simp [splitFirst?, other, later]

/-- A text without the separator has no first one. -/
theorem splitFirst?_of_notMem {separator : Char} {text : Text} (absent : separator ∉ text) :
    splitFirst? separator text = none := by
  cases cut : splitFirst? separator text with
  | none => rfl
  | some sides =>
    obtain ⟨same, -⟩ := @eq_of_splitFirst? separator text sides.1 sides.2 cut
    exact absurd (by rw [same]; simp) absent

/-- A text without a first separator has none. -/
theorem notMem_of_splitFirst? {separator : Char} {text : Text}
    (cut : splitFirst? separator text = none) : separator ∉ text := by
  intro inside
  obtain ⟨before, after, rfl, absent⟩ := List.eq_append_cons_of_mem inside
  rw [splitFirst?_append absent] at cut
  exact absurd cut (by simp)

/-- The two sides of a last split, with the separator between them, are the text. -/
theorem eq_of_splitLast? {separator : Char} {text before after : Text}
    (cut : splitLast? separator text = some (before, after)) :
    text = before ++ separator :: after := by
  induction text generalizing before after with
  | nil => simp [splitLast?] at cut
  | cons c rest ih =>
    rw [splitLast?] at cut
    cases later : splitLast? separator rest with
    | some sides =>
      simp only [later, Option.some.injEq, Prod.mk.injEq] at cut
      obtain ⟨rfl, rfl⟩ := cut
      rw [List.cons_append, ← ih later]
    | none =>
      simp only [later, Option.ite_none_right_eq_some, Option.some.injEq, Prod.mk.injEq] at cut
      obtain ⟨rfl, rfl, rfl⟩ := cut
      rfl

/-- A text without the separator has no last one. -/
theorem splitLast?_of_notMem {separator : Char} {text : Text} (absent : separator ∉ text) :
    splitLast? separator text = none := by
  induction text with
  | nil => rfl
  | cons c rest ih =>
    have other : c ≠ separator := fun same => absent (by simp [same])
    have later := ih fun inside => absent (List.mem_cons_of_mem _ inside)
    simp [splitLast?, other, later]

/-- The last separator is found before a text without it. -/
theorem splitLast?_append {separator : Char} {after : Text} (absent : separator ∉ after)
    (before : Text) : splitLast? separator (before ++ separator :: after) = some (before, after) := by
  induction before with
  | nil => simp [splitLast?, splitLast?_of_notMem absent]
  | cons c before ih => simp [splitLast?, ih]

/-- A text that is not empty and has no blank at its ends. -/
structure Tight (text : Text) : Prop where
  /-- Its first character is not blank. -/
  first : ∃ c, text.head? = some c ∧ isBlank c = false
  /-- Neither is its last one. -/
  last : ∃ c, text.getLast? = some c ∧ isBlank c = false

namespace Tight

/-- A tight text is not empty. -/
theorem ne_nil {text : Text} (tight : Tight text) : text ≠ [] := by
  obtain ⟨c, first, -⟩ := tight.first
  rintro rfl
  simp at first

/-- Trimming leaves a tight text alone. -/
theorem trim_eq {text : Text} (tight : Tight text) : trim text = text := by
  obtain ⟨c, first, solid⟩ := tight.first
  obtain ⟨d, last, firm⟩ := tight.last
  apply trim_eq_self
  · intro e head
    rw [first, Option.some.injEq] at head
    rw [← head, solid]
  · intro e tail
    rw [last, Option.some.injEq] at tail
    rw [← tail, firm]

/-- A tight text is more than blanks. -/
theorem isBlankText_eq {text : Text} (tight : Tight text) : isBlankText text = false := by
  obtain ⟨c, first, solid⟩ := tight.first
  rw [isBlankText, List.all_eq_false]
  exact ⟨c, List.mem_of_head? first, by simp [solid]⟩

/-- Text between tight ends is tight. -/
theorem between {start ending : Text} (head : Tight start) (tail : Tight ending) (middle : Text) :
    Tight (start ++ middle ++ ending) := by
  obtain ⟨c, first, solid⟩ := head.first
  obtain ⟨d, last, firm⟩ := tail.last
  constructor
  · exact ⟨c, by rw [List.append_assoc, List.head?_append, first, Option.some_or], solid⟩
  · exact ⟨d, by rw [List.getLast?_append, last, Option.some_or], firm⟩

/-- Tight texts joined by a separator are tight. -/
theorem joinWith {separator : Text} {texts : List Text} (some : texts ≠ [])
    (tight : ∀ text ∈ texts, Tight text) : Tight (Text.joinWith separator texts) := by
  induction texts with
  | nil => exact absurd rfl some
  | cons text rest ih =>
    cases rest with
    | nil => exact tight text List.mem_cons_self
    | cons next more =>
      have later := ih (by simp) fun other member => tight other (List.mem_cons_of_mem _ member)
      exact (tight text List.mem_cons_self).between later separator

end Tight

/-- A text that is not empty and that trimming leaves alone is tight. -/
theorem tight_of_trim {text : Text} (filled : text ≠ []) (trimmed : trim text = text) :
    Tight text := by
  constructor
  · cases first : text.head? with
    | none => exact absurd (List.head?_eq_none_iff.mp first) filled
    | some c => exact ⟨c, rfl, isBlank_head_trim (by rw [trimmed, first])⟩
  · cases last : text.getLast? with
    | none => exact absurd (List.getLast?_eq_none_iff.mp last) filled
    | some c =>
      have same : trimEnd (trimStart text) = text := trimmed
      exact ⟨c, rfl, isBlank_getLast_trimEnd (by rw [same, last])⟩

/-- A trimmed text is tight unless nothing is left of it. -/
theorem tight_trim {text : Text} (filled : trim text ≠ []) : Tight (trim text) :=
  tight_of_trim filled (trim_trim text)

/-- A text that is more than blanks is tight without those at its ends. -/
theorem tight_of_nonBlank? {text kept : Text} (found : nonBlank? text = some kept) :
    Tight kept := by
  unfold nonBlank? at found
  split at found
  · exact absurd found (by simp)
  · rename_i c rest trimmed
    obtain rfl := Option.some.inj found
    rw [← trimmed]
    exact tight_trim (by rw [trimmed]; exact List.cons_ne_nil c rest)

/-- A part of a declaration: a tight text without certain separators. -/
structure IsAtom (separators : Text) (text : Text) : Prop where
  /-- The atom is not empty. -/
  filled : text ≠ []
  /-- No blanks surround it. -/
  trimmed : trim text = text
  /-- It holds none of the separators. -/
  free : ∀ c ∈ separators, c ∉ text

/-- Whether a text is an atom can be computed. -/
instance decidableIsAtom (separators text : Text) : Decidable (IsAtom separators text) :=
  decidable_of_iff (text ≠ [] ∧ trim text = text ∧ ∀ c ∈ separators, c ∉ text)
    ⟨fun ⟨filled, trimmed, free⟩ => ⟨filled, trimmed, free⟩,
      fun atom => ⟨atom.filled, atom.trimmed, atom.free⟩⟩

/-- An atom is tight. -/
theorem IsAtom.tight {separators text : Text} (atom : IsAtom separators text) : Tight text :=
  tight_of_trim atom.filled atom.trimmed

/-- A character of joined texts is one of their separator or stands in one of them. -/
theorem mem_joinWith {separator : Text} {texts : List Text} {c : Char}
    (inside : c ∈ joinWith separator texts) : c ∈ separator ∨ ∃ text ∈ texts, c ∈ text := by
  induction texts with
  | nil => simp [joinWith] at inside
  | cons text rest ih =>
    cases rest with
    | nil => exact .inr ⟨text, List.mem_cons_self, inside⟩
    | cons next more =>
      simp only [joinWith, List.mem_append] at inside
      rcases inside with (here | between) | later
      · exact .inr ⟨text, List.mem_cons_self, here⟩
      · exact .inl between
      · rcases ih later with between | ⟨other, member, there⟩
        · exact .inl between
        · exact .inr ⟨other, List.mem_cons_of_mem _ member, there⟩

/-- Joined texts hold the characters of each of them. -/
theorem mem_joinWith_of_mem (separator : Text) {texts : List Text} {text : Text}
    (member : text ∈ texts) {c : Char} (inside : c ∈ text) : c ∈ joinWith separator texts := by
  induction texts with
  | nil => simp at member
  | cons first rest ih =>
    cases rest with
    | nil =>
      obtain rfl : text = first := by simpa using member
      exact inside
    | cons next more =>
      simp only [joinWith, List.mem_append]
      rcases List.mem_cons.mp member with rfl | later
      · exact .inl (.inl inside)
      · exact .inr (ih later)

/-- A piece of a text holds no other characters than the text. -/
theorem subset_of_mem_splitOn {separator : Char} {text piece : Text}
    (member : piece ∈ splitOn separator text) : piece ⊆ text := by
  intro c inside
  rw [← joinWith_splitOn separator text]
  exact mem_joinWith_of_mem _ member inside

/-- Joined texts begin as the first of them does. -/
theorem head?_joinWith_cons (separator : Text) {text : Text} (filled : text ≠ [])
    (rest : List Text) : (joinWith separator (text :: rest)).head? = text.head? := by
  obtain ⟨c, more, rfl⟩ := List.exists_cons_of_ne_nil filled
  cases rest <;> rfl

/-- A text in the middle of joined texts may be written around another separator of its own. -/
theorem joinWith_append_cons (separator : Text) (before : List Text) (start : Text) (mark : Char)
    (ending : Text) (after : List Text) :
    joinWith separator (before ++ (start ++ mark :: ending) :: after) =
      joinWith separator (before ++ [start]) ++ mark :: joinWith separator (ending :: after) := by
  induction before with
  | nil => cases after <;> simp [joinWith]
  | cons text before ih =>
    cases before with
    | nil => cases after <;> simp [joinWith]
    | cons next more =>
      simp only [List.cons_append, joinWith] at ih ⊢
      rw [ih]
      simp

/-- A literal holds the characters of its text, quotes and backslashes. -/
theorem notMem_quote {c : Char} {text : Text} (slash : c ≠ '\\') (mark : c ≠ '\'')
    (absent : c ∉ text) : c ∉ quote text := by
  intro inside
  unfold Text.quote at inside
  rcases List.mem_cons.mp inside with same | inside
  · exact mark same
  · rcases List.mem_append.mp inside with inner | same
    · obtain ⟨d, own, there⟩ := List.mem_flatMap.mp inner
      unfold escapeChar at there
      split at there
      · rcases List.mem_cons.mp there with same | there
        · exact slash same
        · exact absent (List.mem_singleton.mp there ▸ own)
      · exact absent (List.mem_singleton.mp there ▸ own)
    · exact mark (List.mem_singleton.mp same)

end Scaffold.Text
