import Scaffold.Settings.Toml.Value

/-!
# Tables of texts in TOML

A configuration is a TOML document whose tables hold texts alone. A table is written below a line
with its name, by keys that lead through it, on one line between braces, or as a list of its texts
in the order of its keys. It is written in one of these ways, and no key of it twice. A document
that says anything else has no meaning here, nor has one that is not well formed.
-/
namespace Scaffold.Toml

/-- What a line of a document says, or several lines if its value goes on. -/
inductive Statement where
  /-- The entries of a table follow. -/
  | header (key : Key)
  /-- A key has a value. -/
  | entry (key : Key) (value : Value)

/-- What follows the end of a line on which nothing but a comment stands. -/
def afterRest? (text : Text) : Option Text :=
  let rest := match skipBlanks text with
    | '#' :: comment => comment.dropWhile isPlain
    | rest => rest
  if rest.isEmpty then some [] else afterLine? rest

/-- The statement at the start, and what follows its last line. -/
def statement? (text : Text) : Option (Statement × Text) := do
  match text with
  | '[' :: rest =>
    match ← key? rest with
    | (key, ']' :: rest) => return (.header key, ← afterRest? rest)
    | _ => none
  | _ =>
    match ← key? text with
    | (key, '=' :: rest) =>
      let (value, rest) ← value? (skipBlanks rest)
      return (.entry key value, ← afterRest? rest)
    | _ => none

/-- The statements of a text. The first argument bounds their number by the length of the text. -/
def statementsFrom : Nat → Text → Option (List Statement)
  | 0, _ => none
  | bound + 1, text =>
    match skipBlanks text with
    | [] => some []
    | rest =>
      match afterRest? rest with
      | some after => statementsFrom bound after
      | none => do
        let (statement, after) ← statement? rest
        return statement :: (← statementsFrom bound after)

/-- The statements of a document, which may begin with a mark of its byte order. -/
def statements? : Text → Option (List Statement)
  | '\ufeff' :: text => statementsFrom (text.length + 1) text
  | text => statementsFrom (text.length + 1) text

/-- Keys of a table with their texts. -/
abbrev Entries := List (Text × Text)

/-- A table of texts. -/
structure Table where
  /-- The name of the table. -/
  name : Text
  /-- The table was written by keys that lead through it, and more of them may follow. -/
  byKeys : Bool
  /-- Its keys and their texts. -/
  entries : Entries
deriving DecidableEq, Repr

/-- The text that a value is. -/
def textOf? : Value → Option Text
  | .text text => some text
  | _ => none

/-- The entries of a table on one line, if all of them are texts. -/
def textEntries? (entries : List (Key × Value)) : Option Entries :=
  entries.mapM fun
    | ([key], .text text) => some (key, text)
    | _ => none

/-- The entries of a table that a list gives: the keys take its texts in order, and what is left
of the list does not count. -/
def listEntries? (keys : List Text) (values : List Value) : Option Entries :=
  ((values.take keys.length).mapM textOf?).map keys.zip

/-- The tables with a further one, whose name is new. -/
def open? (tables : List Table) (table : Table) : Option (List Table) :=
  if tables.any (·.name = table.name) then none else some (tables ++ [table])

/-- The tables with a further entry of one that is there. -/
def extend? (tables : List Table) (name key text : Text) : Option (List Table) :=
  tables.mapM fun table =>
    if table.name ≠ name then some table
    else if (table.entries.lookup key).isSome then none
    else some { table with entries := table.entries ++ [(key, text)] }

/-- The tables after an entry outside of them. Known tables with their keys tell what a list is
for. -/
def loose? (known : List (Text × List Text)) (tables : List Table) :
    Key → Value → Option (List Table)
  | [name], .table entries => do open? tables ⟨name, false, ← textEntries? entries⟩
  | [name], .list values => do
    open? tables ⟨name, false, ← listEntries? (← known.lookup name) values⟩
  | [name, key], .text text =>
    if tables.any fun table => table.name = name && table.byKeys then
      extend? tables name key text
    else open? tables ⟨name, true, [(key, text)]⟩
  | _, _ => none

/-- The tables that statements add to tables. The name is that of the table whose entries
follow. -/
def tablesFrom (known : List (Text × List Text)) :
    Option Text → List Table → List Statement → Option (List Table)
  | _, tables, [] => some tables
  | _, tables, .header [name] :: rest => do
    tablesFrom known (some name) (← open? tables ⟨name, false, []⟩) rest
  | some name, tables, .entry [key] (.text text) :: rest => do
    tablesFrom known (some name) (← extend? tables name key text) rest
  | none, tables, .entry key value :: rest => do
    tablesFrom known none (← loose? known tables key value) rest
  | _, _, _ => none

/-- Every table is known, and so is every key of it. -/
def areKnown (known : List (Text × List Text)) (tables : List Table) : Bool :=
  tables.all fun table =>
    (known.lookup table.name).any fun keys => table.entries.all fun (key, _) => keys.contains key

/-- The tables of a document that has only known tables with known keys. -/
def tables? (known : List (Text × List Text)) (text : Text) : Option (List Table) := do
  let tables ← tablesFrom known none [] (← statements? text)
  if areKnown known tables then some tables else none

/-- The text of a key of a table. -/
def find? (tables : List Table) (name key : Text) : Option Text :=
  (tables.find? (·.name = name)).bind (·.entries.lookup key)

end Scaffold.Toml
