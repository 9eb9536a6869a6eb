import Scaffold.Text.Basic

/-!
# Quoted literals

A single-quoted string literal as both target languages read it: a backslash stands before every
backslash and every quote of the text. Reading stops at the closing quote, so a literal tells
where it ends, and reading what was written gives the text back (`read?_quote_append`).
-/
namespace Scaffold.Text

/-- How a character is written inside a literal. -/
def escapeChar (c : Char) : Text := if c = '\\' || c = '\'' then ['\\', c] else [c]

/-- The literal of a text. -/
def quote (text : Text) : Text := '\'' :: text.flatMap escapeChar ++ ['\'']

/-- The literals of several texts, with a comma and a blank between neighbours. -/
def quoteList (texts : List Text) : Text := commaList (texts.map quote)

namespace Quoted

/-- The text up to the closing quote, and what follows the quote. A backslash takes the next
character as it is when that is a backslash or a quote, and stands for itself otherwise. -/
def body? : Text → Option (Text × Text)
  | [] => none
  | '\'' :: rest => some ([], rest)
  | '\\' :: '\\' :: rest => (body? rest).map fun (text, after) => ('\\' :: text, after)
  | '\\' :: '\'' :: rest => (body? rest).map fun (text, after) => ('\'' :: text, after)
  | c :: rest => (body? rest).map fun (text, after) => (c :: text, after)

/-- The literal at the start of a text, and what follows it. -/
def read? : Text → Option (Text × Text)
  | '\'' :: rest => body? rest
  | _ => none

/-- The body of a literal reads back as its text, up to the closing quote. -/
theorem body?_escaped_append (text after : Text) :
    body? (text.flatMap escapeChar ++ '\'' :: after) = some (text, after) := by
  induction text with
  | nil => rfl
  | cons c rest ih =>
    by_cases backslash : c = '\\'
    · subst backslash
      simp only [List.flatMap_cons, escapeChar, decide_true, Bool.true_or, ↓reduceIte,
        List.cons_append, List.nil_append, body?, ih, Option.map_some]
    · by_cases mark : c = '\''
      · subst mark
        simp only [List.flatMap_cons, escapeChar, decide_true, Bool.or_true, ↓reduceIte,
          List.cons_append, List.nil_append, body?, ih, Option.map_some]
      · rw [List.flatMap_cons, escapeChar]
        simp only [backslash, mark, decide_false, Bool.or_self, Bool.false_eq_true, ↓reduceIte,
          List.cons_append, List.nil_append]
        rw [body?]
        · simp [ih]
        · intro same
          exact mark same
        · intro rest' same
          exact absurd same backslash
        · intro rest' same
          exact absurd same backslash

/-- Reading the literal of a text, followed by anything, gives the text and what follows. -/
theorem read?_quote_append (text after : Text) :
    read? (quote text ++ after) = some (text, after) := by
  simp only [quote, List.cons_append, List.append_assoc, List.nil_append, read?,
    body?_escaped_append]

end Quoted

end Scaffold.Text
