import Scaffold.Text.Quoted
import Scaffold.Text.Split

/-!
# Reading quoted literals

A literal is written by two replacements in the whole text, first of the backslashes and then of the
quotes (`quote_eq_replaceAll`): the other way round the backslash in front of a quote would be
doubled and the quote would end the literal. A reader that takes one character at a time gets the
text back and stops at the closing quote, so literals in a row are told apart, and a list of them
reads back as the texts it was written from (`list?_quoteList_append`).
-/
namespace Scaffold.Text

/-- Replacing one character is done character by character. -/
theorem replaceAll_singleton (c : Char) (new text : Text) :
    replaceAll text [c] new = text.flatMap fun d => if d = c then new else [d] := by
  unfold replaceAll
  induction text with
  | nil => rfl
  | cons d rest ih =>
    rw [replaceFrom, List.flatMap_cons, ← ih]
    by_cases same : d = c
    · simp [same]
    · simp [same, Ne.symm same]

/-- The replacements of a backslash and then of a quote write each character as it stands in a
literal. -/
theorem escapeChar_eq (c : Char) :
    escapeChar c = (if c = '\\' then ['\\', '\\'] else [c]).flatMap fun d =>
      if d = '\'' then ['\\', '\''] else [d] := by
  by_cases backslash : c = '\\'
  · subst backslash
    rfl
  · by_cases mark : c = '\''
    · subst mark
      rfl
    · simp [escapeChar, backslash, mark]

/-- A literal is its text between quotes, where first every backslash is doubled and then a
backslash is put in front of every quote. -/
theorem quote_eq_replaceAll (text : Text) :
    quote text = '\'' :: replaceAll (replaceAll text "\\" "\\\\") "'" "\\'" ++ ['\''] := by
  have slashes : replaceAll text "\\" "\\\\" =
      text.flatMap fun c => if c = '\\' then ['\\', '\\'] else [c] := replaceAll_singleton _ _ text
  have marks : ∀ text : Text, replaceAll text "'" "\\'" =
      text.flatMap fun c => if c = '\'' then ['\\', '\''] else [c] := replaceAll_singleton _ _
  rw [quote, slashes, marks, List.flatMap_assoc]
  simp only [← escapeChar_eq]

/-- With the replacements the other way round the literal of a quote ends early. -/
example : Quoted.read? ('\'' :: replaceAll (replaceAll "'" "'" "\\'") "\\" "\\\\" ++ ['\'']) =
    some ("\\".toList, "'".toList) := by decide

namespace Quoted

variable {text body rest : Text}

/-- A literal is read from the text in front of its closing quote, where nothing but backslashes is
left out. -/
theorem split_of_body? (read : body? text = some (body, rest)) :
    ∃ written, text = written ++ '\'' :: rest ∧ body.Sublist written := by
  have step : ∀ {later : Text} {d : Char},
      (∀ {body rest : Text}, body? later = some (body, rest) →
        ∃ written, later = written ++ '\'' :: rest ∧ body.Sublist written) →
      ∀ {body rest : Text},
        (body? later).map (fun read => (d :: read.1, read.2)) = some (body, rest) →
        ∃ written, later = written ++ '\'' :: rest ∧ body.Sublist (d :: written) := by
    intro later d ih body rest read
    obtain ⟨⟨text, after⟩, own, same⟩ := Option.map_eq_some_iff.mp read
    obtain ⟨rfl, rfl⟩ := Prod.mk.inj same
    obtain ⟨written, split, inside⟩ := ih own
    exact ⟨written, split, inside.cons_cons d⟩
  fun_induction body? text generalizing body rest with
  | case1 => simp at read
  | case2 later =>
    obtain ⟨rfl, rfl⟩ := Prod.mk.inj (Option.some.inj read)
    exact ⟨[], rfl, List.Sublist.refl _⟩
  | case3 later ih =>
    obtain ⟨written, rfl, inside⟩ := step ih read
    exact ⟨'\\' :: '\\' :: written, rfl, inside.cons _⟩
  | case4 later ih =>
    obtain ⟨written, rfl, inside⟩ := step ih read
    exact ⟨'\\' :: '\'' :: written, rfl, inside.cons _⟩
  | case5 d later _ _ _ ih =>
    obtain ⟨written, rfl, inside⟩ := step ih read
    exact ⟨d :: written, rfl, inside⟩

/-- The whole literal is what is written between two quotes. -/
theorem split_of_read? (read : read? text = some (body, rest)) :
    ∃ written, text = '\'' :: (written ++ '\'' :: rest) ∧ body.Sublist written := by
  unfold read? at read
  split at read
  · obtain ⟨written, rfl, inside⟩ := split_of_body? read
    exact ⟨written, rfl, inside⟩
  · simp at read

/-- A literal holds every character that is read from it. -/
theorem mem_of_read? {c : Char} (read : read? text = some (body, rest)) (inside : c ∈ body) :
    c ∈ text := by
  obtain ⟨written, rfl, sublist⟩ := split_of_read? read
  exact List.mem_cons_of_mem _ (List.mem_append_left _ (sublist.subset inside))

/-- What follows something behind a literal is shorter than the text. -/
theorem length_lt_of_read? {between next : Text} (read : read? text = some (body, rest))
    (behind : afterStart? rest between = some next) : next.length < text.length := by
  obtain ⟨written, rfl, -⟩ := split_of_read? read
  rw [eq_append_of_afterStart? behind]
  simp only [List.length_cons, List.length_append]
  omega

/-- The literals at the start of a text, with a comma and a blank between neighbours, and what
follows the last of them. There is at least one. -/
def items? (text : Text) : Option (List Text × Text) :=
  match read : read? text with
  | none => none
  | some (first, rest) =>
    match behind : afterStart? rest ", " with
    | none => some ([first], rest)
    | some next =>
      have : next.length < text.length := length_lt_of_read? read behind
      (items? next).map fun (others, after) => (first :: others, after)
termination_by text.length

/-- The list of literals at the start of a text, and what follows it. Where no quote stands, the
list is empty. -/
def list? (text : Text) : Option (List Text × Text) :=
  if text.head? = some '\'' then items? text else some ([], text)

/-- Behind a literal the list goes on exactly if a comma and a blank follow. -/
theorem items?_quote_append (text after : Text) :
    items? (quote text ++ after) =
      match afterStart? after ", " with
      | none => some ([text], after)
      | some next => (items? next).map fun (others, behind) => (text :: others, behind) := by
  have literal := read?_quote_append text after
  rw [items?]
  split
  · rename_i unread
    exact absurd (unread.symm.trans literal) (by simp)
  · rename_i first rest read
    obtain ⟨rfl, rfl⟩ := Prod.mk.inj (Option.some.inj (literal.symm.trans read))
    split
    · rename_i ends
      simp only [ends]
    · rename_i next behind
      simp only [behind]

/-- At least one literal reads back, up to what does not continue a list. -/
theorem items?_quoteList_append (first : Text) (others : List Text) {after : Text}
    (ends : afterStart? after ", " = none) :
    items? (quoteList (first :: others) ++ after) = some (first :: others, after) := by
  induction others generalizing first with
  | nil =>
    have single : quoteList [first] = quote first := rfl
    rw [single, items?_quote_append, ends]
  | cons second others ih =>
    have split : quoteList (first :: second :: others) =
        quote first ++ ", " ++ quoteList (second :: others) := rfl
    rw [split, List.append_assoc, List.append_assoc, items?_quote_append, afterStart?_append]
    simp only [ih second, Option.map_some]

/-- A list of literals reads back, up to what neither begins nor continues a list. -/
theorem list?_quoteList_append (texts : List Text) {after : Text} (other : after.head? ≠ some '\'')
    (ends : afterStart? after ", " = none) :
    list? (quoteList texts ++ after) = some (texts, after) := by
  cases texts with
  | nil => exact if_neg other
  | cons first others =>
    have quoted : (quoteList (first :: others) ++ after).head? = some '\'' := by
      cases others <;> rfl
    rw [list?, if_pos quoted, items?_quoteList_append first others ends]

end Quoted

/-- **Literals decode and delimit themselves.** A literal is written by doubling the backslashes of
its text and then putting a backslash in front of each quote. Reading it in front of any text gives
its text and stops right behind it, and a list of literals reads back as the texts that it was
written from. -/
theorem literals_read_back :
    (∀ text : Text, quote text =
      '\'' :: replaceAll (replaceAll text "\\" "\\\\") "'" "\\'" ++ ['\'']) ∧
    (∀ text after : Text, Quoted.read? (quote text ++ after) = some (text, after)) ∧
    ∀ texts : List Text, Quoted.list? (quoteList texts) = some (texts, []) := by
  refine ⟨quote_eq_replaceAll, Quoted.read?_quote_append, fun texts => ?_⟩
  have whole := @Quoted.list?_quoteList_append texts [] (by simp) rfl
  rwa [List.append_nil] at whole

end Scaffold.Text
