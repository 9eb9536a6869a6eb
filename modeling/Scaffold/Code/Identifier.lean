import Scaffold.Text.Words

/-!
# Identifiers

Names that the generated code binds. A variable of the pages must not be a reserved word of their
language.
-/
namespace Scaffold.Code

/-- The words that the pages cannot use as the name of a variable. -/
def reservedWords : List Text :=
  List.map String.toList
    ["arguments", "await", "break", "case", "catch", "class", "const", "continue", "debugger",
      "default", "delete", "do", "else", "enum", "eval", "export", "extends", "false", "finally",
      "for", "function", "if", "implements", "import", "in", "instanceof", "interface", "let",
      "new", "null", "package", "private", "protected", "public", "return", "static", "super",
      "switch", "this", "throw", "true", "try", "typeof", "var", "void", "while"]

/-- A variable of the pages; a reserved word gets an ending. -/
def pageVariable (name : Text) : Text :=
  if reservedWords.contains name then name ++ "Record" else name

/-- The list of options of a field or relationship. -/
def optionsName (name : Text) : Text := Text.lowerCamelCase name ++ "Options"

/-- The function that gives the label of a stored position. -/
def labelFunction (name : Text) : Text := Text.lowerCamelCase name ++ "Label"

end Scaffold.Code
