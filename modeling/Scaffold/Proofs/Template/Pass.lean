import Mathlib.Data.List.Forall2
import Scaffold.Proofs.Template.Row

/-!
# One pass over a template

`Template.substitute` replaces the tokens of a template in one walk from the left, and asks for the
value of each token where it stands. Asking may have effects, and a value may depend on what was
asked before. None of that reaches the walk: it asks for the tokens of the template in order and puts
their values between the pieces (`Template.substitute_eq`), so with plain values it is
`Template.fill`. The pieces are read from the template alone and are cut from it without a gap
(`Template.cuts_pieces`).
-/
namespace Scaffold

/-- A placeholder as a token: its name between delimiters. -/
def Placeholder.written (placeholder : Placeholder) : Text :=
  Template.delimiter ++ (placeholder.name ++ Template.delimiter)

/-- The part of a template that a piece is read from. A block is a whole line of it. -/
inductive Piece.ReadFrom (template : Text) : Piece → Text → Prop where
  /-- Text stands as it is. -/
  | literal (text : Text) : ReadFrom template (.literal text) text
  /-- A token stands as it is written. -/
  | token (placeholder : Placeholder) :
      ReadFrom template (.token placeholder) placeholder.written
  /-- A block token stands on its line between blanks, in front of the end of the line. -/
  | block {margin behind ending line : Text} {placeholder : Placeholder}
      (member : line ∈ Text.linesWithEndings template)
      (body : Template.lineBody line = margin ++ (placeholder.written ++ behind))
      (blank : ∀ c ∈ margin ++ behind, Text.isBlank c = true)
      (ends : line = Template.lineBody line ++ ending)
      (feeds : ∀ c ∈ ending, Template.isLineEnd c = true) :
      ReadFrom template (.block margin placeholder ending) line

namespace Template

open Text

/-! ## The walk -/

/-- What stands in front of the first delimiter and behind it. -/
def cutAtDelimiter? : Text → Option (Text × Text)
  | [] => none
  | '%' :: '%' :: rest => some ([], rest)
  | c :: rest => (cutAtDelimiter? rest).map fun (before, after) => (c :: before, after)

/-- The two sides of the first delimiter, with the delimiter between them, are the text, and a split
begins with the first side. -/
theorem eq_of_cutAtDelimiter? {text before after : Text}
    (cut : cutAtDelimiter? text = some (before, after)) :
    text = before ++ (delimiter ++ after) ∧
      splitAtDelimiters text = before :: splitAtDelimiters after := by
  induction text using cutAtDelimiter?.induct generalizing before with
  | case1 => simp [cutAtDelimiter?] at cut
  | case2 rest =>
    simp only [cutAtDelimiter?, Option.some.injEq, Prod.mk.injEq] at cut
    obtain ⟨rfl, rfl⟩ := cut
    exact ⟨rfl, rfl⟩
  | case3 c rest other ih =>
    simp only [cutAtDelimiter?.eq_3 c rest other, Option.map_eq_some_iff, Prod.exists,
      Prod.mk.injEq] at cut
    obtain ⟨first, second, found, rfl, rfl⟩ := cut
    obtain ⟨whole, split⟩ := ih found
    refine ⟨by rw [whole, List.cons_append], ?_⟩
    rw [splitAtDelimiters.eq_3 c rest other, split]

/-- A text without delimiters is one stretch. -/
theorem splitAtDelimiters_of_cut_none {text : Text} (none : cutAtDelimiter? text = none) :
    splitAtDelimiters text = [text] := by
  induction text using cutAtDelimiter?.induct with
  | case1 => rfl
  | case2 rest => simp [cutAtDelimiter?] at none
  | case3 c rest other ih =>
    have later : cutAtDelimiter? rest = .none := by
      simpa [cutAtDelimiter?.eq_3 c rest other] using none
    rw [splitAtDelimiters.eq_3 c rest other, ih later]

/-- A split has at least one stretch. -/
theorem splitAtDelimiters_ne_nil (text : Text) : splitAtDelimiters text ≠ [] := by
  cases cut : cutAtDelimiter? text with
  | none => simp [splitAtDelimiters_of_cut_none cut]
  | some sides => simp [(eq_of_cutAtDelimiter? cut).2]

/-- Two delimiters in a line: what stands between them is a token, or the first one is text. -/
theorem inlinePieces_cons_cons {before name : Text} {stretches : List Text}
    (more : stretches ≠ []) :
    inlinePieces (before :: name :: stretches) =
      match placeholder? name with
      | some placeholder => .literal before :: .token placeholder :: inlinePieces stretches
      | none => .literal before :: .literal delimiter :: inlinePieces (name :: stretches) := by
  cases stretches with
  | nil => exact absurd rfl more
  | cons after rest => rfl

/-- What stands behind the first delimiter is shorter than the text. -/
theorem length_lt_of_cutAtDelimiter? {text before after : Text}
    (cut : cutAtDelimiter? text = some (before, after)) : after.length < text.length := by
  rw [(eq_of_cutAtDelimiter? cut).1]
  simp only [delimiter, List.length_append, List.length_cons, List.length_nil]
  omega

section Walk

variable {m : Type → Type} [Monad m]

/-- Replaces the tokens inside a line. Behind a delimiter that opens no token the walk goes on, so the
one that would close it may open another. -/
def substituteInline (ask : Placeholder → m Text) (output rest : Text) : m Text :=
  match _opening : cutAtDelimiter? rest with
  | none => pure (output ++ rest)
  | some (before, after) =>
    match _closing : cutAtDelimiter? after with
    | none => pure (output ++ rest)
    | some (name, behind) =>
      match placeholder? name with
      | some placeholder => do
        let value ← ask placeholder
        substituteInline ask (output ++ before ++ value) behind
      | none => substituteInline ask (output ++ before ++ delimiter) after
termination_by rest.length
decreasing_by
  · exact Nat.lt_trans (length_lt_of_cutAtDelimiter? _closing) (length_lt_of_cutAtDelimiter? _opening)
  · exact length_lt_of_cutAtDelimiter? _opening

/-- Replaces the tokens of a line: the one that stands alone on it, or those inside it. -/
def substituteLine (ask : Placeholder → m Text) (output line : Text) : m Text :=
  let body := lineBody line
  match blockToken? body with
  | some placeholder => do
    let value ← ask placeholder
    if value.isEmpty then pure output
    else pure (output ++ indent (leadingBlanks body) value ++ line.drop body.length)
  | none => substituteInline ask output line

/-- Replaces the tokens of a template, line by line from the left. -/
def substitute (ask : Placeholder → m Text) (template : Text) : m Text :=
  (linesWithEndings template).foldlM (substituteLine ask) []

end Walk

/-! ## The walk and the pieces -/

/-- Pieces with what is written for them, given the values of their tokens in order. -/
def withTexts : List Piece → List Text → List (Piece × Text)
  | [], _ => []
  | .literal text :: rest, values => (.literal text, text) :: withTexts rest values
  | piece :: rest, value :: values => (piece, piece.fill fun _ => value) :: withTexts rest values
  | _ :: _, [] => []

/-- What is written for pieces, one behind the other. -/
def textOf (filled : List (Piece × Text)) : Text := filled.flatMap Prod.snd

/-- The text of pieces, given the values of their tokens in order. -/
def assemble (pieces : List Piece) (values : List Text) : Text := textOf (withTexts pieces values)

/-- The tokens of pieces in order. -/
abbrev tokensOf (pieces : List Piece) : List Placeholder := pieces.filterMap Piece.placeholder?

section Answered

variable {m : Type → Type} [Monad m] {ask : Placeholder → m Text}

/-- Asks for the tokens of pieces in order and puts the values between the pieces. -/
def answered (ask : Placeholder → m Text) (pieces : List Piece) : m Text := do
  let values ← (tokensOf pieces).mapM ask
  return assemble pieces values

variable [LawfulMonad m]

/-- Nothing is asked for text. -/
theorem answered_literal (text : Text) (rest : List Piece) :
    answered ask (.literal text :: rest) = (text ++ ·) <$> answered ask rest := by
  simp [answered, tokensOf, List.filterMap_cons, Piece.placeholder?, assemble, textOf, withTexts]

/-- A token is asked for before what follows it. -/
theorem answered_cons (piece : Piece) {placeholder : Placeholder}
    (token : piece.placeholder? = some placeholder) (rest : List Piece) :
    answered ask (piece :: rest) =
      ask placeholder >>= fun value =>
        (piece.fill (fun _ => value) ++ ·) <$> answered ask rest := by
  cases piece with
  | literal text => simp [Piece.placeholder?] at token
  | token own => simp [answered, tokensOf, token, assemble, textOf, withTexts]
  | block margin own ending => simp [answered, tokensOf, token, assemble, textOf, withTexts]

/-- Pieces are answered one behind the other. -/
theorem answered_append (front behind : List Piece) :
    answered ask (front ++ behind) =
      answered ask front >>= fun before => (before ++ ·) <$> answered ask behind := by
  induction front with
  | nil => simp [answered, tokensOf, assemble, textOf, withTexts]
  | cons piece front ih =>
    cases token : piece.placeholder? with
    | none =>
      cases piece with
      | literal text => simp [answered_literal, ih]
      | token own => simp [Piece.placeholder?] at token
      | block margin own ending => simp [Piece.placeholder?] at token
    | some placeholder =>
      rw [List.cons_append, answered_cons piece token, answered_cons piece token, ih]
      simp

/-- Replacing the tokens inside a line answers the pieces of the line. -/
theorem substituteInline_eq (output rest : Text) :
    substituteInline ask output rest =
      (output ++ ·) <$> answered ask (inlinePieces (splitAtDelimiters rest)) := by
  fun_induction substituteInline ask output rest with
  | case1 output rest none =>
    rw [splitAtDelimiters_of_cut_none none, inlinePieces, answered_literal]
    simp [answered, tokensOf, assemble, textOf, withTexts]
  | case2 output rest before after opening none =>
    obtain ⟨whole, split⟩ := eq_of_cutAtDelimiter? opening
    rw [split, splitAtDelimiters_of_cut_none none, inlinePieces, answered_literal,
      answered_literal, answered_literal, whole]
    simp [answered, tokensOf, assemble, textOf, withTexts]
  | case3 output rest before after opening name behind closing placeholder known ih =>
    have split := (eq_of_cutAtDelimiter? opening).2
    rw [(eq_of_cutAtDelimiter? closing).2] at split
    rw [split, inlinePieces_cons_cons (splitAtDelimiters_ne_nil behind), known]
    simp only [answered_literal, answered_cons (.token placeholder) rfl, ih]
    simp [Piece.fill]
  | case4 output rest before after opening name behind closing unknown ih =>
    have next := (eq_of_cutAtDelimiter? closing).2
    rw [(eq_of_cutAtDelimiter? opening).2, next, inlinePieces_cons_cons
      (splitAtDelimiters_ne_nil behind), unknown, ih, next]
    simp [answered_literal]

/-- Replacing the tokens of a line answers the pieces of the line. -/
theorem substituteLine_eq (output line : Text) :
    substituteLine ask output line = (output ++ ·) <$> answered ask (linePieces line) := by
  unfold substituteLine linePieces
  simp only
  cases alone : blockToken? (lineBody line) with
  | none => exact substituteInline_eq output line
  | some placeholder =>
    simp only [answered_cons (.block _ placeholder _) rfl, map_bind]
    refine bind_congr fun value => ?_
    cases value with
    | nil => simp [answered, tokensOf, assemble, textOf, withTexts, Piece.fill]
    | cons c rest => simp [answered, tokensOf, assemble, textOf, withTexts, Piece.fill]

/-- **The walk over a template asks for its tokens in order and puts the values between its
pieces**, whatever asking does and returns. -/
theorem substitute_eq (template : Text) :
    substitute ask template = answered ask (pieces template) := by
  have lines : ∀ (lines : List Text) (output : Text),
      lines.foldlM (substituteLine ask) output =
        (output ++ ·) <$> answered ask (lines.flatMap linePieces) := by
    intro lines
    induction lines with
    | nil => simp [answered, tokensOf, assemble, textOf, withTexts]
    | cons line lines ih =>
      intro output
      rw [List.foldlM_cons, List.flatMap_cons, answered_append, substituteLine_eq]
      simp [ih]
  rw [substitute, lines, pieces]
  simp

/-- A walk that knows the values fills the template with them. -/
theorem substitute_pure {value : Placeholder → Text}
    (known : ∀ placeholder, ask placeholder = pure (value placeholder)) (template : Text) :
    substitute ask template = pure (fill template value) := by
  rw [substitute_eq, fill]
  generalize pieces template = read
  induction read with
  | nil => simp [answered, tokensOf, assemble, textOf, withTexts]
  | cons piece rest ih =>
    cases piece with
    | literal text => simp [answered_literal, ih, Piece.fill]
    | token placeholder =>
      simp [answered_cons (.token placeholder) rfl, ih, known, Piece.fill]
    | block margin placeholder ending =>
      simp [answered_cons (.block margin placeholder ending) rfl, ih, known, Piece.fill]

end Answered

/-! ## The pieces and the template -/

/-- The delimiter between the stretches gives the text back. -/
theorem joinWith_splitAtDelimiters (text : Text) :
    joinWith delimiter (splitAtDelimiters text) = text := by
  match cut : cutAtDelimiter? text with
  | none =>
    rw [splitAtDelimiters_of_cut_none cut]
    rfl
  | some (before, after) =>
    obtain ⟨whole, split⟩ := eq_of_cutAtDelimiter? cut
    obtain ⟨next, rest, parts⟩ := List.exists_cons_of_ne_nil (splitAtDelimiters_ne_nil after)
    have later := joinWith_splitAtDelimiters after
    rw [split, parts, joinWith, ← parts, later, whole, List.append_assoc]
termination_by text.length
decreasing_by exact length_lt_of_cutAtDelimiter? cut

/-- A name that is read stands for the placeholder with it. -/
theorem name_eq_of_placeholder? {name : Text} {placeholder : Placeholder}
    (known : placeholder? name = some placeholder) : placeholder.name = name := by
  unfold placeholder? at known
  split at known
  · simpa using List.find?_some known
  · simp at known

/-- The pieces of a list of stretches are cut from the stretches with the delimiter between them. -/
theorem cuts_inlinePieces (template : Text) (stretches : List Text) :
    ∃ parts : List Text, parts.flatten = joinWith delimiter stretches ∧
      List.Forall₂ (Piece.ReadFrom template) (inlinePieces stretches) parts := by
  induction stretches using inlinePieces.induct with
  | case1 => exact ⟨[], rfl, .nil⟩
  | case2 last => exact ⟨[last], List.append_nil last, .cons (.literal last) .nil⟩
  | case3 before last =>
    refine ⟨[before, delimiter, last], by simp [joinWith], ?_⟩
    exact .cons (.literal before) (.cons (.literal delimiter) (.cons (.literal last) .nil))
  | case4 before name after rest placeholder known ih =>
    obtain ⟨parts, whole, read⟩ := ih
    refine ⟨before :: placeholder.written :: parts, ?_, ?_⟩
    · simp [joinWith, whole, Placeholder.written, name_eq_of_placeholder? known]
    · rw [inlinePieces, known]
      exact .cons (.literal before) (.cons (.token placeholder) read)
  | case5 before name after rest unknown ih =>
    obtain ⟨parts, whole, read⟩ := ih
    refine ⟨before :: delimiter :: parts, ?_, ?_⟩
    · simp [joinWith, whole]
    · rw [inlinePieces, unknown]
      exact .cons (.literal before) (.cons (.literal delimiter) read)

/-- The token alone on a line is what is left of the line when it is trimmed. -/
theorem trim_of_blockToken? {body : Text} {placeholder : Placeholder}
    (alone : blockToken? body = some placeholder) : trim body = placeholder.written := by
  simp only [blockToken?, Option.bind_eq_bind, Option.bind_eq_some_iff] at alone
  obtain ⟨opened, start, name, ending, known⟩ := alone
  obtain ⟨reversed, closed, rfl⟩ := Option.map_eq_some_iff.mp ending
  have closes : opened = reversed.reverse ++ delimiter := by
    rw [← List.reverse_inj, List.reverse_append, List.reverse_reverse]
    exact eq_append_of_afterStart? closed
  rw [eq_append_of_afterStart? start, closes, Placeholder.written, name_eq_of_placeholder? known]

/-- Behind what is left of a line without its ending stand the characters of its ending. -/
theorem lineBody_append_drop (line : Text) :
    lineBody line ++ line.drop (lineBody line).length = line ∧
      ∀ c ∈ line.drop (lineBody line).length, isLineEnd c = true := by
  have whole : line = lineBody line ++ (line.reverse.takeWhile isLineEnd).reverse := by
    rw [lineBody, dropEndWhile, ← List.reverse_append, List.takeWhile_append_dropWhile,
      List.reverse_reverse]
  have ending : line.drop (lineBody line).length = (line.reverse.takeWhile isLineEnd).reverse :=
    (congrArg (List.drop (lineBody line).length) whole).trans List.drop_left
  refine ⟨by rw [ending, ← whole], fun c inside => ?_⟩
  rw [ending, List.mem_reverse] at inside
  exact List.all_eq_true.mp List.all_takeWhile c inside

/-- The pieces of a line are cut from the line. -/
theorem cuts_linePieces {template line : Text} (member : line ∈ linesWithEndings template) :
    ∃ parts : List Text, parts.flatten = line ∧
      List.Forall₂ (Piece.ReadFrom template) (linePieces line) parts := by
  unfold linePieces
  simp only
  split
  · rename_i placeholder alone
    obtain ⟨front, behind, body, blank⟩ := exists_margins (lineBody line)
    rw [trim_of_blockToken? alone] at body
    have margin : leadingBlanks (lineBody line) = front := by
      have early : ∀ c ∈ front, isBlank c = true :=
        fun c inside => blank c (List.mem_append_left behind inside)
      rw [body, leadingBlanks, List.takeWhile_append_of_pos early]
      simp [Placeholder.written, delimiter, show isBlank '%' = false from by decide]
    refine ⟨[line], List.append_nil line, .cons ?_ .nil⟩
    rw [margin]
    obtain ⟨ends, feeds⟩ := lineBody_append_drop line
    exact .block member body blank ends.symm feeds
  · have cut := cuts_inlinePieces template (splitAtDelimiters line)
    rwa [joinWith_splitAtDelimiters] at cut

/-- **The pieces of a template are cut from it without a gap.** -/
theorem cuts_pieces (template : Text) :
    ∃ parts : List Text, parts.flatten = template ∧
      List.Forall₂ (Piece.ReadFrom template) (pieces template) parts := by
  have lines : ∀ lines : List Text, (∀ line ∈ lines, line ∈ linesWithEndings template) →
      ∃ parts : List Text, parts.flatten = lines.flatten ∧
        List.Forall₂ (Piece.ReadFrom template) (lines.flatMap linePieces) parts := by
    intro lines among
    induction lines with
    | nil => exact ⟨[], rfl, .nil⟩
    | cons line lines ih =>
      obtain ⟨own, others⟩ := List.forall_mem_cons.mp among
      obtain ⟨first, whole, read⟩ := cuts_linePieces own
      obtain ⟨later, rest, behind⟩ := ih others
      refine ⟨first ++ later, by simp [whole, rest], ?_⟩
      rw [List.flatMap_cons]
      exact List.rel_append read behind
  obtain ⟨parts, whole, read⟩ := lines (linesWithEndings template) fun _ member => member
  exact ⟨parts, whole.trans (flatten_linesWithEndings template), read⟩

/-- A template behind the end of a line is read on its own. -/
theorem pieces_append_of_feed {template : Text} (ended : template.getLast? = some '\n')
    (rest : Text) : pieces (template ++ rest) = pieces template ++ pieces rest := by
  obtain ⟨front, rfl⟩ := List.getLast?_eq_some_iff.mp ended
  rw [pieces, List.append_assoc, List.singleton_append, linesWithEndings_append_feed,
    List.flatMap_append, pieces, pieces]

/-- Pieces cut from parts of a template in which no token is written are text. -/
theorem assemble_of_forall₂ {template : Text} {read : List Piece} {parts : List Text}
    (unwritten : ∀ placeholder : Placeholder, ¬placeholder.written <:+: template)
    (inside : ∀ part ∈ parts, part <:+: template)
    (cut : List.Forall₂ (Piece.ReadFrom template) read parts) :
    tokensOf read = [] ∧ assemble read [] = parts.flatten := by
  induction cut with
  | nil => exact ⟨rfl, rfl⟩
  | cons first _ ih =>
    obtain ⟨own, others⟩ := List.forall_mem_cons.mp inside
    obtain ⟨none, text⟩ := ih others
    cases first with
    | literal part => exact ⟨none, by rw [List.flatten_cons, ← text]; rfl⟩
    | token placeholder => exact absurd own (unwritten placeholder)
    | @block margin behind ending line placeholder _ body _ ends _ =>
      refine absurd (List.IsInfix.trans ?_ own) (unwritten placeholder)
      exact ⟨margin, behind ++ ending, by rw [ends, body]; simp⟩

/-- A template in which no token is written is text. -/
theorem assemble_of_unwritten {template : Text}
    (unwritten : ∀ placeholder : Placeholder, ¬placeholder.written <:+: template) :
    tokensOf (pieces template) = [] ∧ assemble (pieces template) [] = template := by
  obtain ⟨parts, whole, cut⟩ := cuts_pieces template
  have inside : ∀ part ∈ parts, part <:+: template := fun part member =>
    whole ▸ List.infix_of_mem_flatten member
  obtain ⟨none, text⟩ := assemble_of_forall₂ unwritten inside cut
  exact ⟨none, text.trans whole⟩

variable {m : Type → Type} [Monad m] [LawfulMonad m]

/-- **Substitution is one pass.** The pieces of a template are cut from it without a gap, and the walk
asks for their tokens in order and puts the values between them, whatever asking does and returns: no
value is read again. With known values that is the template filled with them. A template behind the
end of a line is walked on its own, and one in which no token is written stays as it is. -/
theorem substitute_one_pass (ask : Placeholder → m Text) (template : Text) :
    (∃ parts : List Text, parts.flatten = template ∧
      List.Forall₂ (Piece.ReadFrom template) (pieces template) parts) ∧
    substitute ask template = (do
      let values ← (tokens template).mapM ask
      return assemble (pieces template) values) ∧
    (∀ value : Placeholder → Text, (∀ placeholder, ask placeholder = pure (value placeholder)) →
      substitute ask template = pure (fill template value)) ∧
    (template.getLast? = some '\n' → ∀ rest : Text, substitute ask (template ++ rest) = (do
      let front ← substitute ask template
      let behind ← substitute ask rest
      return front ++ behind)) ∧
    ((∀ placeholder : Placeholder, ¬placeholder.written <:+: template) →
      substitute ask template = pure template) := by
  refine ⟨cuts_pieces template, substitute_eq template,
    fun value known => substitute_pure known template, fun ended rest => ?_, fun unwritten => ?_⟩
  · rw [substitute_eq, pieces_append_of_feed ended, answered_append, substitute_eq, substitute_eq]
    simp
  · obtain ⟨none, text⟩ := assemble_of_unwritten unwritten
    rw [substitute_eq, answered, none, List.mapM_nil, pure_bind, text]

/-- A block and a token inside a line, the line behind them, and a line with names that are none. -/
theorem substitute_one_pass_names :
    substitute (m := Id) Placeholder.name "  %%casts%%\r\n100%%%%modelName%%\n".toList =
        pure (fill "  %%casts%%\r\n100%%%%modelName%%\n".toList Placeholder.name) ∧
      substitute (m := Id) Placeholder.name
          ("  %%casts%%\r\n100%%%%modelName%%\n".toList ++ "%%nope%% 100%%\n".toList) = (do
        let front ← substitute (m := Id) Placeholder.name
          "  %%casts%%\r\n100%%%%modelName%%\n".toList
        let behind ← substitute (m := Id) Placeholder.name "%%nope%% 100%%\n".toList
        return front ++ behind) ∧
      substitute (m := Id) Placeholder.name "%%nope%% 100%%\n".toList =
        pure "%%nope%% 100%%\n".toList := by
  obtain ⟨-, -, known, ended, -⟩ := substitute_one_pass (m := Id) Placeholder.name
    "  %%casts%%\r\n100%%%%modelName%%\n".toList
  obtain ⟨-, -, -, -, unwritten⟩ := substitute_one_pass (m := Id) Placeholder.name
    "%%nope%% 100%%\n".toList
  have absent : ∀ placeholder ∈ Placeholder.all,
      ¬placeholder.written <:+: "%%nope%% 100%%\n".toList := by
    simp (disch := exact rfl) only [Text.toList_literal, -String.reduceToList]
    decide +kernel
  exact ⟨known Placeholder.name fun _ => rfl, ended (by decide +kernel) _,
    unwritten fun placeholder => absent placeholder placeholder.mem_all⟩

end Template

end Scaffold
