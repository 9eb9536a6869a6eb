import Scaffold.Proofs.Names
import Scaffold.Proofs.Page.Records
import Scaffold.Proofs.Plan.Declared
import Scaffold.Proofs.Template.Row
import Scaffold.Proofs.Stub
import Scaffold.Artifact.Fragment
import Scaffold.Stub

/-!
# The columns of a migration

A migration declares the columns of its table by one call for each row (`Migration.columnsOfRow`). The
stub has four of them, and the fields and relationships of a plan add theirs at two lines of it, which
the reader finds again row by row (`Plan.declaredColumns_content`). Fields add distinct columns, so do
relationships, and no relationship adds the column of a field; so all columns are distinct exactly if
none that is added has a name of the stub (`Plan.nodup_columnNames_iff`).
-/
namespace Scaffold

open Text Template

namespace Text

/-- Rows that are no lines of their own for what they end with are the lines of their joined form. -/
theorem linesOfRows_eq_self {all : List Text}
    (kept : ∀ row ∈ all, row ≠ [] ∧ row.getLast? ≠ some '\x0d') : linesOfRows all = all := by
  induction all with
  | nil => rfl
  | cons row rest ih =>
    obtain ⟨⟨some, uncut⟩, others⟩ := List.forall_mem_cons.mp kept
    cases rest with
    | nil => simp [linesOfRows, some]
    | cons next more => simp [linesOfRows, withoutReturn, uncut, ih others]

end Text

namespace Migration

/-- The columns that a call declares: those of the record and of its times, and the one that its
first argument names. -/
def columnsOfCall (call : Text) : List Text :=
  match splitFirst? '(' call with
  | none => []
  | some (method, arguments) =>
    if method = "id" then ["id"]
    else if method = "timestamps" then ["created_at", "updated_at"]
    else (Quoted.read? arguments).toList.map (·.1)

/-- The columns that a row of a migration declares. -/
def columnsOfRow (row : Text) : List Text :=
  ((afterStart? (trimStart row) "$table->").map columnsOfCall).getD []

/-- The columns that the text of a migration declares, in order. -/
def declaredColumns (text : Text) : List Text := (rows text).flatMap columnsOfRow

variable {before after margin row name : Text}

/-- The empty text declares none. -/
@[simp] theorem declaredColumns_nil : declaredColumns [] = [] := rfl

/-- What is declared before a line feed comes before what is declared after it. -/
theorem declaredColumns_append_feed (before after : Text) :
    declaredColumns (before ++ '\n' :: after) = declaredColumns before ++ declaredColumns after := by
  rw [declaredColumns, rows_append_cons, List.flatMap_append, declaredColumns, declaredColumns]

/-- What an ended text declares comes before what stands behind it. -/
theorem declaredColumns_append (ended : Ended before) (after : Text) :
    declaredColumns (before ++ after) = declaredColumns before ++ declaredColumns after := by
  rcases ended with rfl | ⟨front, rfl⟩
  · rfl
  · rw [List.append_assoc, List.singleton_append, declaredColumns_append_feed,
      declaredColumns_append_feed, declaredColumns_nil, List.append_nil]

/-- Ended texts one behind the other declare what each of them declares. -/
theorem declaredColumns_flatMap {α : Type} {members : List α} {write : α → Text}
    (ended : ∀ member ∈ members, Ended (write member)) :
    declaredColumns (members.flatMap write) =
      members.flatMap fun member => declaredColumns (write member) := by
  induction members with
  | nil => rfl
  | cons member rest ih =>
    obtain ⟨own, others⟩ := List.forall_mem_cons.mp ended
    rw [List.flatMap_cons, declaredColumns_append own, ih others, List.flatMap_cons]

/-- A filled template declares what each of its lines declares. -/
theorem declaredColumns_fill (lines : List String) (value : Placeholder → Text) :
    declaredColumns (fill (Code.written lines) value) =
      lines.flatMap fun line => declaredColumns (fill (line.toList ++ ['\n']) value) := by
  rw [fill_written]
  exact declaredColumns_flatMap fun line _ => ended_fill line.toList value

/-- The method declares one column, which its first argument names. -/
def isColumnMethod (method : Text) : Bool :=
  !method.contains '(' && !method.contains '\n' && method != "id" && method != "timestamps"

/-- What this says of the method. -/
theorem isColumnMethod_iff {method : Text} : isColumnMethod method = true ↔
    (('(' ∉ method ∧ '\n' ∉ method) ∧ method ≠ "id") ∧ method ≠ "timestamps" := by
  simp only [isColumnMethod, Bool.and_eq_true, Bool.not_eq_true', List.contains_eq_mem,
    decide_eq_false_iff_not, bne_iff_ne]

/-- A row that declares the column of a name. -/
structure IsColumnRow (row name : Text) : Prop where
  /-- The name is the first argument of a method that declares one column. -/
  call : ∃ method rest : Text, row = "$table->" ++ (method ++ '(' :: (quote name ++ rest)) ∧
    isColumnMethod method = true
  /-- The row is one line. -/
  single : '\n' ∉ row
  /-- It ends its statement. -/
  ending : row.getLast? = some ';'

namespace IsColumnRow

/-- A call of such a method with the name in front declares the column if neither the name nor what
follows it breaks the line. -/
theorem of {method rest : Text} (columnar : isColumnMethod method = true) (single : '\n' ∉ name)
    (whole : '\n' ∉ rest) :
    IsColumnRow ("$table->" ++ (method ++ '(' :: (quote name ++ (rest ++ [';'])))) name := by
  have unbroken : '\n' ∉ method := (isColumnMethod_iff.mp columnar).1.1.2
  have start : '\n' ∉ ("$table->" : Text) := by decide
  have literal : '\n' ∉ quote name := notMem_quote (by decide) (by decide) single
  refine ⟨⟨method, _, rfl, columnar⟩, ?_, ?_⟩
  · simp only [List.mem_append, List.mem_cons, List.not_mem_nil, or_false, not_or]
    exact ⟨start, unbroken, by decide, literal, whole, by decide⟩
  · simp only [← List.append_assoc, ← List.cons_append, List.getLast?_concat]

/-- The row is not empty. -/
theorem ne_nil (own : IsColumnRow row name) : row ≠ [] := by
  rintro rfl
  exact absurd own.ending (by decide)

/-- It is not blank. -/
theorem isBlankText_eq (own : IsColumnRow row name) : isBlankText row = false := by
  obtain ⟨method, rest, rfl, -⟩ := own.call
  exact isBlankText_append (by decide) _

/-- The column is read from it behind any margin. -/
theorem columnsOfRow_eq (own : IsColumnRow row name) (blank : ∀ c ∈ margin, isBlank c = true) :
    columnsOfRow (margin ++ row) = [name] := by
  obtain ⟨method, rest, rfl, columnar⟩ := own.call
  obtain ⟨⟨⟨absent, -⟩, other⟩, another⟩ := isColumnMethod_iff.mp columnar
  have start : trimStart (margin ++ (("$table->" : Text) ++ (method ++ '(' :: (quote name ++ rest)))) =
      ("$table->" : Text) ++ (method ++ '(' :: (quote name ++ rest)) := by
    rw [trimStart, List.dropWhile_append_of_pos blank]
    exact List.dropWhile_cons_of_neg (by decide)
  rw [columnsOfRow, start, afterStart?_append]
  simp [columnsOfCall, splitFirst?_append absent, other, another, Quoted.read?_quote_append,
    -String.reduceToList]

end IsColumnRow

/-- Rows that declare columns, one for each member, declare these behind a margin. -/
theorem declaredColumns_indent {α : Type} {members : List α} {write : α → Text} {nameOf : α → Text}
    (own : ∀ member ∈ members, IsColumnRow (write member) (nameOf member))
    (blank : ∀ c ∈ margin, isBlank c = true) (single : '\n' ∉ margin) (some : members ≠ []) :
    declaredColumns (indent margin (unlines (members.map write))) = members.map nameOf := by
  have filled : members.map write ≠ [] := by simpa using some
  have whole : lines (unlines (members.map write)) = members.map write := by
    rw [lines_eq_rows, rows_unlines_of_notMem filled
      (by simpa using fun member listed => (own member listed).single)]
    refine linesOfRows_eq_self fun row listed => ?_
    obtain ⟨member, among, rfl⟩ := List.mem_map.mp listed
    refine ⟨(own member among).ne_nil, ?_⟩
    rw [(own member among).ending]
    decide
  have rows : rows (indent margin (unlines (members.map write))) =
      members.map fun member => margin ++ write member := by
    have visible : indentLines margin (unlines (members.map write)) =
        members.map fun member => margin ++ write member := by
      rw [indentLines, whole, List.map_map]
      exact List.map_congr_left fun member listed => by simp [(own member listed).isBlankText_eq]
    rw [indent, visible, rows_unlines_of_notMem (by simpa using some)]
    intro row listed
    obtain ⟨member, among, rfl⟩ := List.mem_map.mp listed
    simp [single, (own member among).single]
  rw [declaredColumns, rows, List.flatMap_map, List.flatMap_congr
    fun member listed => (own member listed).columnsOfRow_eq blank]
  exact List.map_eq_flatMap.symm

/-- So do they in the value of a token that stands alone on its line. -/
theorem declaredColumns_block {α : Type} {members : List α} {write : α → Text} {nameOf : α → Text}
    {line : Text} {placeholder : Placeholder} {value : Placeholder → Text}
    (read : pieces line = [.block margin placeholder ['\n']])
    (text : value placeholder = unlines (members.map write))
    (own : ∀ member ∈ members, IsColumnRow (write member) (nameOf member))
    (blank : ∀ c ∈ margin, isBlank c = true) (single : '\n' ∉ margin) :
    declaredColumns (fill line value) = members.map nameOf := by
  rw [fill, read]
  simp only [List.flatMap_cons, List.flatMap_nil, List.append_nil, Piece.fill, text]
  cases members with
  | nil => rfl
  | cons first rest =>
    have declares := declaredColumns_indent own blank single (List.cons_ne_nil first rest)
    split
    · rename_i none
      rw [none] at declares
      exact declares
    · rename_i found
      rw [← found, declaredColumns_append_feed, declares, declaredColumns_nil, List.append_nil]

end Migration

open Migration

namespace Column

/-- The method of a column declares one column. -/
theorem call_method (type : ColumnType) : isColumnMethod (call type).1 = true := by
  unfold call
  split <;> dsimp only <;> decide

/-- No argument of it breaks the line. -/
theorem feed_notMem_call (type : ColumnType) : ∀ argument ∈ (call type).2, '\n' ∉ argument := by
  have digits : ∀ number, '\n' ∉ Text.ofNat number := fun number =>
    (plain_ofNat number).notMem (by decide)
  unfold call
  split <;> simp [digits]

/-- A list of texts goes on behind the first of them. -/
theorem exists_commaList_eq (first : Text) {others : List Text}
    (whole : ∀ other ∈ others, '\n' ∉ other) :
    ∃ rest : Text, commaList (first :: others) = first ++ rest ∧ '\n' ∉ rest := by
  cases others with
  | nil => exact ⟨[], (List.append_nil first).symm, List.not_mem_nil⟩
  | cons next more =>
    refine ⟨", " ++ commaList (next :: more), List.append_assoc .., fun inside => ?_⟩
    rcases List.mem_append.mp inside with between | later
    · exact absurd between (by decide)
    · rcases mem_joinWith later with between | ⟨other, listed, here⟩
      · exact absurd between (by decide)
      · exact whole other listed here

/-- The line of a column declares it. -/
theorem isColumnRow_line {column : Column} (single : '\n' ∉ column.name) :
    IsColumnRow column.line column.name := by
  have arguments := feed_notMem_call column.type
  have columnar := call_method column.type
  generalize found : call column.type = called at arguments columnar
  obtain ⟨method, others⟩ := called
  obtain ⟨rest, joined, whole⟩ := exists_commaList_eq (quote column.name) arguments
  have default : '\n' ∉ defaultCall column.default := by
    cases column.default <;> decide
  have row : column.line = ("$table->" : Text) ++ (method ++ '(' :: (quote column.name ++
      ((rest ++ (")" : Text) ++ defaultCall column.default) ++ [';']))) := by
    unfold line
    rw [found]
    dsimp only
    rw [joined]
    simp only [List.append_assoc, List.cons_append]
    rfl
  rw [row]
  refine .of columnar single ?_
  simp only [List.mem_append, not_or]
  exact ⟨⟨whole, by decide⟩, default⟩

end Column

/-- The line of a key column declares it. -/
theorem Relationship.isColumnRow_keyLine {relationship : Relationship}
    (single : '\n' ∉ relationship.foreignKey) (plain : IsPlain relationship.targetTable) :
    IsColumnRow relationship.keyLine relationship.foreignKey := by
  have table : '\n' ∉ quote relationship.targetTable :=
    notMem_quote (by decide) (by decide) (plain.notMem (by decide))
  have row : relationship.keyLine = ("$table->" : Text) ++ (("foreignId" : Text) ++ '(' ::
      (quote relationship.foreignKey ++ (((")->nullable()->constrained(" : Text) ++
        quote relationship.targetTable ++ (")->nullOnDelete()" : Text)) ++ [';']))) := by
    unfold keyLine
    simp only [List.append_assoc]
    rfl
  rw [row]
  refine .of (by decide +kernel) single ?_
  simp only [List.mem_append, not_or]
  exact ⟨⟨by decide +kernel, table⟩, by decide +kernel⟩

/-- The tables of the relationships that a text declares are plain. -/
theorem Schema.plain_targetTable {text : Text} :
    ∀ relationship ∈ (readRelationships text).1, IsPlain relationship.targetTable := by
  refine forall_mem_readRelationships (fun token _ relationship notes read => ?_) fun _ own => own
  unfold readRelationship at read
  simp only at read
  split at read
  · rename_i declared type target more parts
    split at read
    · simp at read
    · simp only [Prod.mk.injEq, Option.some.injEq] at read
      obtain ⟨rfl, -⟩ := read
      exact Inflection.plain_pluralize (plain_snakeCase target)
  · simp at read

namespace Stub

/-- Nothing that could be filled in stands on the line, and it declares no column. -/
def isSilent (line : String) : Bool :=
  (tokens (line.toList ++ ['\n'])).isEmpty &&
    (declaredColumns (fill (line.toList ++ ['\n']) fun _ => [])).isEmpty

/-- The same of the letters of the line, with the names of the tokens looked up by theirs. -/
def isSilentText (line : Text) : Bool :=
  let read := (linesWithEndings (line ++ ['\n'])).flatMap (linePiecesIn spelled?)
  (read.filterMap Piece.placeholder?).isEmpty &&
    (declaredColumns (read.flatMap (Piece.fill fun _ => []))).isEmpty

/-- A line is silent if its letters are. -/
theorem isSilent_eq (line : String) : isSilent line = isSilentText line.toList := by
  simp only [isSilentText, ← pieces_eq]
  rfl

/-- The lines of the migration that name the table or declare columns. -/
theorem migration_lines : ∃ lines, migration = Code.written lines ∧
    lines.filter (fun line => !isSilent line) =
      ["        Schema::create('%%tableName%%', function (Blueprint $table) \x7b",
        "            $table->id();",
        "            %%migrationColumns%%",
        "            %%migrationForeignKeys%%",
        "            $table->foreignId('created_by')->nullable()->constrained('users')->nullOnDelete();",
        "            $table->timestamps();",
        "        Schema::dropIfExists('%%tableName%%');"] := by
  refine ⟨_, rfl, ?_⟩
  simp only [isSilent_eq]
  apply SpelledLines.filter (p := fun line => !isSilentText line)
  · repeat (first | exact .nil | apply SpelledLines.cons rfl)
  · repeat (first | exact .nil | apply SpelledLines.cons rfl)
  · decide +kernel

/-- How these lines are read. -/
theorem pieces_migration :
    pieces ("        Schema::create('%%tableName%%', function (Blueprint $table) \x7b".toList ++ ['\n']) =
      [.literal "        Schema::create('", .token .tableName,
        .literal ("', function (Blueprint $table) \x7b" ++ ['\n'])] ∧
    pieces ("        Schema::dropIfExists('%%tableName%%');".toList ++ ['\n']) =
      [.literal "        Schema::dropIfExists('", .token .tableName, .literal ("');" ++ ['\n'])] ∧
    pieces ("            %%migrationColumns%%".toList ++ ['\n']) =
      [.block (List.replicate 12 ' ') .migrationColumns ['\n']] ∧
    pieces ("            %%migrationForeignKeys%%".toList ++ ['\n']) =
      [.block (List.replicate 12 ' ') .migrationForeignKeys ['\n']] := by
  simp (disch := exact rfl) only [Text.toList_literal, -String.reduceToList]
  simp only [pieces_eq]
  decide +kernel

/-- A line without tokens declares the same columns whatever else is filled in. -/
theorem declaredColumns_line {line : String} (none : tokens (line.toList ++ ['\n']) = [])
    (value : Placeholder → Text) : declaredColumns (fill (line.toList ++ ['\n']) value) =
      declaredColumns (fill (line.toList ++ ['\n']) fun _ => []) := by
  rw [fill_congr]
  simp [none]

example : declaredColumns "            $table->timestamps();\n" =
    ["created_at".toList, "updated_at".toList] := by
  decide +kernel

/-- Only the lines that are not silent declare columns. -/
theorem declaredColumns_lines (lines : List String) (value : Placeholder → Text) :
    declaredColumns (fill (Code.written lines) value) =
      (lines.filter fun line => !isSilent line).flatMap fun line =>
        declaredColumns (fill (line.toList ++ ['\n']) value) := by
  rw [declaredColumns_fill]
  induction lines with
  | nil => rfl
  | cons line rest ih =>
    rw [List.flatMap_cons, ih, List.filter_cons]
    by_cases silent : isSilent line = true
    · obtain ⟨none, nothing⟩ : tokens (line.toList ++ ['\n']) = [] ∧
          declaredColumns (fill (line.toList ++ ['\n']) fun _ => []) = [] := by
        simpa [isSilent] using silent
      rw [declaredColumns_line none, nothing, silent]
      rfl
    · simp [silent]

/-- The columns of every table are declared by lines without tokens. -/
theorem declaredColumns_standing (value : Placeholder → Text) :
    declaredColumns (fill ("            $table->id();".toList ++ ['\n']) value) = ["id".toList] ∧
    declaredColumns (fill (
      "            $table->foreignId('created_by')->nullable()->constrained('users')->nullOnDelete();".toList
        ++ ['\n']) value) = [ownershipColumn] ∧
    declaredColumns (fill ("            $table->timestamps();".toList ++ ['\n']) value) =
      ["created_at".toList, "updated_at".toList] := by
  refine ⟨?_, ?_, ?_⟩
  all_goals
    rw [declaredColumns_line (by rw [tokens, pieces_eq, String.toList_ofList]; decide +kernel), fill,
      pieces_eq, String.toList_ofList]
    decide +kernel

/-- A line that begins with a name other than the table's variable declares no column. -/
theorem declaredColumns_around {line : Text} {opening ending : Text} {placeholder : Placeholder}
    {value : Placeholder → Text} {c : Char} {rest : Text}
    (read : pieces line = [.literal opening, .token placeholder, .literal (ending ++ ['\n'])])
    (start : trimStart opening = c :: rest) (other : c ≠ '$') (single : '\n' ∉ opening ++ ending)
    (whole : '\n' ∉ value placeholder) : declaredColumns (fill line value) = [] := by
  have filled : fill line value = (opening ++ value placeholder ++ ending) ++ '\n' :: [] := by
    simp [fill, read, Piece.fill]
  have unbroken : '\n' ∉ opening ++ value placeholder ++ ending := by
    simp only [List.mem_append, not_or] at single ⊢
    exact ⟨⟨single.1, whole⟩, single.2⟩
  have front : trimStart (opening ++ value placeholder ++ ending) =
      c :: (rest ++ value placeholder ++ ending) := by
    rw [trimStart] at start ⊢
    rw [List.append_assoc, List.dropWhile_append, start]
    simp
  rw [filled, declaredColumns_append_feed, declaredColumns_nil, List.append_nil, declaredColumns,
    rows_of_notMem unbroken, List.flatMap_singleton, columnsOfRow, front]
  simp [afterStart?, other]

end Stub

namespace Plan

/-- The columns that the fields and the relationships add to those of every table. -/
def addedColumns (plan : Plan) : List Text :=
  plan.columns.map (·.name) ++ plan.foreignKeys.map (·.foreignKey)

/-- The columns of every table. -/
def standingColumns : List Text := ["id", ownershipColumn, "created_at", "updated_at"]

variable {plan : Plan}

/-- The migration of a plan declares its columns in their order if the name of each is one line. -/
theorem declaredColumns_content (plain : plan.Plain)
    (tables : ∀ relationship ∈ plan.relationships, IsPlain relationship.targetTable)
    (single : ∀ name ∈ plan.addedColumns, '\n' ∉ name) :
    declaredColumns (Artifact.migration.content plan Stub.migration) = plan.columnNames := by
  obtain ⟨lines, written, speaking⟩ := Stub.migration_lines
  obtain ⟨create, drop, columnBlock, keyBlock⟩ := Stub.pieces_migration
  obtain ⟨record, owner, times⟩ :=
    Stub.declaredColumns_standing (Placeholder.fragment plan .migration)
  have table : '\n' ∉ Placeholder.fragment plan .migration .tableName :=
    plain.names.table.notMem (by decide)
  have columns : ∀ column ∈ plan.columns, IsColumnRow column.line column.name := fun column member =>
    Column.isColumnRow_line (single _ (List.mem_append_left _ (List.mem_map_of_mem member)))
  have keys : ∀ relationship ∈ plan.foreignKeys,
      IsColumnRow relationship.keyLine relationship.foreignKey := fun relationship member =>
    relationship.isColumnRow_keyLine (single _ (List.mem_append_right _ (List.mem_map_of_mem member)))
      (tables relationship (mem_of_mem_foreignKeys member))
  have margin : (∀ c ∈ List.replicate 12 ' ', isBlank c = true) ∧ '\n' ∉ List.replicate 12 ' ' := by
    decide
  rw [Artifact.content, written, Stub.declaredColumns_lines, speaking]
  simp only [List.flatMap_cons, List.flatMap_nil]
  rw [Stub.declaredColumns_around create rfl (by decide) (by decide) table,
    Stub.declaredColumns_around drop rfl (by decide) (by decide) table,
    declaredColumns_block columnBlock rfl columns margin.1 margin.2,
    declaredColumns_block keyBlock rfl keys margin.1 margin.2, record, owner, times]
  simp [columnNames, -String.reduceToList]

/-- So does the migration of every plan that is made from options. -/
theorem declaredColumns_ofOptions (options : Options)
    (single : ∀ name ∈ (ofOptions options).addedColumns, '\n' ∉ name) :
    declaredColumns (Artifact.migration.content (ofOptions options) Stub.migration) =
      (ofOptions options).columnNames :=
  declaredColumns_content (plain_ofOptions options) Schema.plain_targetTable single

/-- What a plan adds is distinct in itself. -/
theorem Declared.nodup_addedColumns (declared : plan.Declared) : plan.addedColumns.Nodup := by
  have named : ∀ column ∈ plan.columns, ∃ field ∈ plan.fields, column.name = field.name := by
    intro column member
    obtain ⟨field, listed, made⟩ := List.mem_filterMap.mp member
    exact ⟨field, listed, Column.name_eq_of_ofField? made⟩
  have columns : (plan.columns.map (·.name)).Nodup := by
    refine List.pairwise_map.mpr (List.pairwise_filterMap.mpr ?_)
    refine (List.pairwise_map.mp declared.names).imp fun apart column made other own same => apart ?_
    rw [← Column.name_eq_of_ofField? made, same, Column.name_eq_of_ofField? own]
  have keys : (plan.foreignKeys.map (·.foreignKey)).Nodup := by
    refine declared.keys.sublist (List.Sublist.map _ ?_)
    simp only [foreignKeys, Bool.and_comm, ← List.filter_filter]
    exact List.filter_sublist
  refine List.nodup_append.mpr ⟨columns, keys, fun name own key added => ?_⟩
  obtain ⟨column, member, rfl⟩ := List.mem_map.mp own
  obtain ⟨relationship, listed, rfl⟩ := List.mem_map.mp added
  obtain ⟨field, among, same⟩ := named column member
  rw [same]
  exact name_ne_of_mem_foreignKeys among listed

/-- All columns of a table are distinct exactly if none that is added is one of every table. -/
theorem Declared.nodup_columnNames_iff (declared : plan.Declared) :
    plan.columnNames.Nodup ↔ ∀ name ∈ plan.addedColumns, name ∉ standingColumns := by
  have ordered : plan.columnNames =
      "id".toList :: (plan.addedColumns ++ standingColumns.tail) := by
    simp [columnNames, addedColumns, standingColumns, -String.reduceToList]
  have standing : standingColumns.Nodup := by decide
  have parts : standingColumns = "id".toList :: standingColumns.tail := rfl
  rw [parts, List.nodup_cons] at standing
  rw [ordered, List.nodup_cons, List.nodup_append, parts]
  constructor
  · rintro ⟨fresh, -, -, apart⟩ name added inside
    rcases List.mem_cons.mp inside with rfl | later
    · exact fresh (List.mem_append_left _ added)
    · exact apart name added name later rfl
  · intro apart
    refine ⟨fun inside => ?_, declared.nodup_addedColumns, standing.2, fun name added other later => ?_⟩
    · rcases List.mem_append.mp inside with added | later
      · exact apart _ added List.mem_cons_self
      · exact standing.1 later
    · rintro rfl
      exact apart name added (List.mem_cons_of_mem _ later)

/-- For every plan that is made from options, all columns of the table are distinct exactly if no
column that the fields and relationships add is one of every table. The migration declares these
columns, in this order, if the name of each added one is a single line. -/
theorem columns_declared_once (options : Options) :
    ((ofOptions options).columnNames.Nodup ↔
      ∀ name ∈ (ofOptions options).addedColumns, name ∉ standingColumns) ∧
    ((∀ name ∈ (ofOptions options).addedColumns, '\n' ∉ name) →
      declaredColumns (Artifact.migration.content (ofOptions options) Stub.migration) =
        (ofOptions options).columnNames) :=
  ⟨(declared_ofOptions options).nodup_columnNames_iff, declaredColumns_ofOptions options⟩

/-- Tickets with a creator of their own. -/
def createdTickets : Options :=
  { displayName := "Ticket", fields := "title", relationships := "creator:belongsTo:User" }

/-- The migration of such tickets declares each column once. -/
theorem columns_declared_once_tickets :
    (declaredColumns (Artifact.migration.content (ofOptions createdTickets) Stub.migration)).Nodup := by
  have once := columns_declared_once createdTickets
  rw [once.2 (by decide +kernel)]
  exact once.1.mpr (by decide +kernel)

/-- Tickets whose creator is the owner. -/
def ownedTickets : Options :=
  { displayName := "Ticket", fields := "title", relationships := "creator:belongsTo:User:created_by" }

/-- The migration of such tickets declares the column of the owner twice. -/
theorem owner_declared_twice :
    ¬(declaredColumns (Artifact.migration.content (ofOptions ownedTickets) Stub.migration)).Nodup := by
  rw [declaredColumns_ofOptions ownedTickets (by decide +kernel)]
  decide +kernel

end Plan

end Scaffold
