import Scaffold.Code.Layout

/-!
# Markup

Elements of page code: tags with attributes, on one line or around lines that stand one step
deeper, and expressions between braces.
-/
namespace Scaffold.Markup

/-- An attribute of an element. -/
inductive Attribute where
  /-- A literal text. -/
  | text (name value : Text)
  /-- The value of an expression. -/
  | code (name expression : Text)
  /-- An attribute that is there without a value. -/
  | flag (name : Text)
deriving DecidableEq, Repr

/-- An attribute behind the name of its element. -/
def Attribute.written : Attribute → Text
  | text name value => ' ' :: name ++ "=\"" ++ value ++ "\""
  | code name expression => ' ' :: name ++ '=' :: Text.braced expression
  | flag name => ' ' :: name

/-- The name of an element with its attributes. -/
def head (tag : Text) (attributes : List Attribute) : Text :=
  tag ++ Text.concat (attributes.map Attribute.written)

/-- The tag at the front of an element. -/
def opening (tag : Text) (attributes : List Attribute) : Text := '<' :: head tag attributes ++ ">"

/-- The tag at the end of an element. -/
def closing (tag : Text) : Text := "</" ++ tag ++ ">"

/-- An element without content. -/
def empty (tag : Text) (attributes : List Attribute) : Text := '<' :: head tag attributes ++ " />"

/-- An element with its content on the same line. -/
def inline (tag : Text) (attributes : List Attribute) (content : Text) : Text :=
  opening tag attributes ++ content ++ closing tag

/-- An element around lines. -/
def element (tag : Text) (attributes : List Attribute) (content : List Text) : List Text :=
  Code.block (opening tag attributes) content (closing tag)

/-- Lines for every member of a list. -/
def each (list member : Text) (content : List Text) : List Text :=
  Code.block ('\x7b' :: list ++ ".map((" ++ member ++ ") => (") content "))\x7d"

/-- The classes of an element. -/
def classes (names : Text) : Attribute := .text "className" names

/-- A list of choices as the items of a drop-down list. -/
def selectItems (choices : Text) : List Text :=
  element "SelectContent" [] <|
    each choices "option" <|
      element "SelectItem" [.code "key" "option.value", .code "value" "String(option.value)"]
        [Text.braced "option.label"]

end Scaffold.Markup
