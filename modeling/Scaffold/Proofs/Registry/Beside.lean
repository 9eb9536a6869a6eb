import Scaffold.Proofs.Project.Preservation
import Scaffold.Proofs.Registry.Anchoring
import Scaffold.Proofs.Text.Linewise
import Scaffold.Proofs.Text.Piece

/-!
# A region beside what it is anchored at

Lines put in at the site of an anchor stand between whole lines of the text: above the line on which
the match begins, or below the line that holds its last character (`toText_insertLines_above`,
`toText_insertLines_below`). So they do not divide the match, and the pattern matches it again if it
looks at nothing around it but ends of lines. The generated anchors are of this kind: they look at
ends of lines alone, match nothing empty, and stand before their match or behind a character of one
byte that ends it (`gentle_of_mem_generated`).
-/
namespace Scaffold

namespace Text

variable {above : List Text} {rest : Text}

/-- Behind them a line begins. -/
theorem beginsLine_fed (above : List Text) : BeginsLine (fed above).reverse := by
  rcases List.eq_nil_or_concat above with rfl | ⟨front, last, rfl⟩
  · exact .inl rfl
  · refine .inr ?_
    rw [List.concat_eq_append, fed_append, List.head?_reverse, List.getLast?_append]
    simp [fed]

/-- A text with something behind such lines has more lines than these. -/
theorem length_lt_of_fed (whole : ∀ line ∈ above, '\n' ∉ line) (filled : rest ≠ []) :
    above.length < (lines (fed above ++ rest)).length := by
  have saved : ∀ all : List Text, (savedRows all).length = all.length := by
    intro all
    induction all with
    | nil => rfl
    | cons row more ih =>
      cases more with
      | nil => rfl
      | cons next more =>
        rw [savedRows, List.length_cons, ih]
        rfl
  have counted := congrArg List.length (linesOfRows_append (rows_ne_nil (fed above ++ rest)))
  rw [← lines_eq_rows, saved, List.length_append, rows_fed_append whole, List.length_append] at counted
  have some := rows_ne_nil rest
  cases split : rows rest with
  | nil => exact absurd split some
  | cons first more =>
    rw [split, List.length_cons] at counted
    cases more with
    | cons next more =>
      rw [List.length_cons] at counted
      split at counted <;> simp only [List.length_cons, List.length_nil] at counted <;> omega
    | nil =>
      have own : rest = first := by
        rw [← unlines_rows rest, split]
        rfl
      have last : (above ++ [first]).getLast? ≠ Option.some [] := by
        rw [List.getLast?_concat, ← own]
        simpa using filled
      rw [if_neg last] at counted
      simp only [List.length_nil] at counted
      omega

end Text

open Text

namespace SharedFile

variable {file : SharedFile} {above below block : List Text} {rest line behind : Text}

/-- The saved lines of a file, of which some are left. -/
theorem toText_append (some : below ≠ []) (ended : Bool) :
    toText ⟨above ++ below, ended⟩ = fed above ++ toText ⟨below, ended⟩ := by
  have joined : unlines (above ++ below) = fed above ++ unlines below := by
    have whole := unlines_append_feed (show above ++ below ≠ [] by simp [some])
    rw [fed_append, ← unlines_append_feed some, ← List.append_assoc] at whole
    exact List.append_cancel_right whole
  simp only [toText, SharedFile.joined, joined, List.append_assoc]

/-- The rows of the text of a file that begins with some lines. -/
theorem rows_of_toText (filled : file.lines ≠ []) (single : ∀ line ∈ file.lines, '\n' ∉ line)
    (whole : ∀ line ∈ above, '\n' ∉ line) (text : file.toText = fed above ++ rest) :
    file.lines ++ (if file.ended then [[]] else []) = above ++ rows rest := by
  rw [← rows_fed_append whole, ← text, rows_toText filled, flatMap_rows_of_notMem single]

/-- Some rows of a file are its first lines, unless the last of them is the empty one behind them. -/
theorem exists_below {lines front others : List Text} {ended : Bool}
    (same : lines ++ (if ended then [[]] else []) = front ++ others)
    (proper : others ≠ [] ∨ front.getLast? ≠ some []) : ∃ below, lines = front ++ below := by
  rcases List.append_eq_append_iff.mp same with ⟨inner, whole, tail⟩ | ⟨below, whole, -⟩
  · cases inner with
    | nil => exact ⟨[], by rw [whole, List.append_nil, List.append_nil]⟩
    | cons first inner =>
      cases ended with
      | false => exact absurd tail (by simp)
      | true =>
        rw [if_pos rfl] at tail
        obtain ⟨rfl, rest⟩ := List.cons.inj tail
        obtain ⟨rfl, none⟩ := List.append_eq_nil_iff.mp rest.symm
        exact proper.elim (absurd none) fun last => absurd (by rw [whole]; simp) last
  · exact ⟨below, whole⟩

/-- **Lines put in below some lines of a file, above what follows.** -/
theorem toText_insertLines_above (filled : file.lines ≠ [])
    (single : ∀ line ∈ file.lines, '\n' ∉ line) (whole : ∀ line ∈ above, '\n' ∉ line)
    (more : rest ≠ []) (text : file.toText = fed above ++ rest) :
    (file.insertLines above.length block).toText = fed above ++ fed block ++ rest := by
  have rowsSame := rows_of_toText filled single whole text
  obtain ⟨below, split⟩ := exists_below rowsSame (.inl (rows_ne_nil rest))
  have some : below ≠ [] := by
    rintro rfl
    rw [split, List.append_nil] at rowsSame
    have last := List.append_cancel_left rowsSame
    cases ended : file.ended with
    | false =>
      rw [ended, if_neg Bool.false_ne_true] at last
      exact rows_ne_nil rest last.symm
    | true =>
      rw [ended, if_pos rfl] at last
      refine more ?_
      rw [← unlines_rows rest, ← last]
      rfl
  have own : file.toText = fed above ++ toText ⟨below, file.ended⟩ := by
    rw [← toText_append some, ← split]
  have follows : rest = toText ⟨below, file.ended⟩ := List.append_cancel_left (text.symm.trans own)
  have inserted : file.insertLines above.length block =
      ⟨(above ++ block) ++ below, file.ended⟩ := by
    rw [insertLines, split, List.take_left, List.drop_left]
  rw [inserted, toText_append some, fed_append, follows]

/-- **Lines put in below a line of a file.** -/
theorem toText_insertLines_below (filled : file.lines ≠ [])
    (single : ∀ line ∈ file.lines, '\n' ∉ line) (whole : ∀ line ∈ above, '\n' ∉ line)
    (own : line ≠ []) (feedless : '\n' ∉ line) (ends : EndsLine behind) (some : block ≠ [])
    (text : file.toText = fed above ++ (line ++ behind)) :
    (file.insertLines (above.length + 1) block).toText =
      fed above ++ line ++ '\n' :: unlines block ++ behind := by
  have rowsSame := rows_of_toText filled single whole text
  obtain ⟨others, rowsOwn⟩ : ∃ others, rows (line ++ behind) = line :: others := by
    rcases ends with rfl | feed
    · exact ⟨[], by rw [List.append_nil, rows_of_notMem feedless]⟩
    · obtain ⟨next, rfl⟩ := List.head?_eq_some_iff.mp feed
      exact ⟨rows next, by rw [rows_append_cons, rows_of_notMem feedless]; rfl⟩
  have rowsSame : file.lines ++ (if file.ended then [[]] else []) = (above ++ [line]) ++ others := by
    rw [rowsSame, rowsOwn]
    simp
  obtain ⟨below, split⟩ := exists_below rowsSame (.inr (by
    rw [List.getLast?_concat]
    simpa using own))
  -- Saved lines behind some lines: the line feed between them, and what follows.
  have saved : ∀ {front : List Text}, front ≠ [] →
      toText ⟨front ++ below, file.ended⟩ = unlines front ++
        (if below = [] then (if file.ended then ['\n'] else [])
          else '\n' :: toText ⟨below, file.ended⟩) := by
    intro front some
    split
    · rename_i none
      rw [none, List.append_nil]
      rfl
    · rename_i left
      rw [toText_append left, ← unlines_append_feed some]
      simp
  have first := saved (show above ++ [line] ≠ [] by simp)
  have joined : unlines (above ++ [line]) = fed above ++ line := by
    have fedAll := unlines_append_feed (show above ++ [line] ≠ [] by simp)
    have ending : fed [line] = line ++ ['\n'] := by simp [fed]
    rw [fed_append, ending, ← List.append_assoc] at fedAll
    exact List.append_cancel_right fedAll
  have all : toText ⟨above ++ [line] ++ below, file.ended⟩ = file.toText := by rw [← split]
  rw [all, text, joined, ← List.append_assoc] at first
  have follows := List.append_cancel_left first
  have inserted : file.insertLines (above.length + 1) block =
      ⟨(above ++ [line] ++ block) ++ below, file.ended⟩ := by
    have length : above.length + 1 = (above ++ [line]).length := by simp
    rw [insertLines, split, length, List.take_left, List.drop_left]
  have longer : unlines (above ++ [line] ++ block) = fed above ++ line ++ '\n' :: unlines block := by
    have fedAll := unlines_append_feed (show above ++ [line] ++ block ≠ [] by simp)
    rw [fed_append, ← unlines_append_feed some, ← List.append_assoc] at fedAll
    rw [List.append_cancel_right fedAll, fed_append]
    simp [fed]
  rw [inserted, saved (by simp), ← follows, longer]

end SharedFile

namespace Anchor

open Pattern

variable {anchor : Anchor} {pattern : Pattern} {content : Text}

/-- A firm anchor that looks at ends of lines alone, matches nothing empty, and stands before its match
or behind a last character that is no line feed. -/
structure Gentle (anchor : Anchor) (pattern : Pattern) : Prop where
  /-- There is a place at every match. -/
  firm : anchor.Firm pattern
  /-- It looks at ends of lines alone. -/
  linewise : pattern.isLinewise = true
  /-- It matches nothing empty. -/
  filled : pattern.isFilled = true
  /-- A place behind the match is below the line of its last character. -/
  closed : anchor.placement = .before ∨ ∃ c, c ≠ '\n' ∧ pattern.isClosedBy c = true

/-- An anchor is gentle by its shape. -/
def isGentle (anchor : Anchor) : Bool :=
  (Pattern.read? anchor.pattern).any fun pattern =>
    pattern.isOrdered && pattern.isLinewise && pattern.isFilled &&
      (anchor.placement == .before || ['[', '\x7b', ';'].any (pattern.isClosedBy ·))

/-- **The generated anchors are gentle.** -/
theorem gentle_of_mem_generated (known : anchor ∈ generated) : ∃ pattern, anchor.Gentle pattern := by
  have all : ∀ anchor ∈ generated, anchor.isGentle = true := by
    unfold generated routes permissions mainMenu setupMenu icons seeder classEnd
    simp (disch := exact rfl) only [Text.toList_literal, -String.reduceToList]
    decide +kernel
  obtain ⟨pattern, reads, shape⟩ := (Option.any_eq_true _ _).mp (all anchor known)
  simp only [Bool.and_eq_true, Bool.or_eq_true, List.any_eq_true, beq_iff_eq] at shape
  obtain ⟨⟨⟨ordered, linewise⟩, filled⟩, placed⟩ := shape
  refine ⟨pattern, ⟨reads, ordered, ?_⟩, linewise, filled, ?_⟩
  · refine placed.imp_right ?_
    rintro ⟨c, listed, closed⟩ before text after matched
    have single : ∀ c ∈ ['[', '\x7b', ';'], isSingleByte c = true := by decide
    rw [getLast?_of_isClosedBy closed matched, Option.all_some]
    exact single c listed
  · refine placed.imp_right ?_
    rintro ⟨c, listed, closed⟩
    have other : ∀ c ∈ ['[', '\x7b', ';'], c ≠ '\n' := by decide
    exact ⟨c, other c listed, closed⟩

/-- A site belongs to the match that counts, and has as many lines above it as there are line feeds in
front of what the placement looks at, and one more behind it. -/
theorem exists_found {site : Site} (reads : Pattern.read? anchor.pattern = some pattern)
    (located : anchor.locate content = .ok (some site)) :
    ∃ found front, anchor.find? pattern content = some found ∧
      textBefore anchor.placement found = .ok front ∧
      site.line = front.count '\n' + (if anchor.placement = .before then 0 else 1) := by
  simp only [locate, reads] at located
  cases counts : anchor.find? pattern content with
  | none => simp [counts] at located
  | some found =>
    simp only [counts] at located
    cases cut : textBefore anchor.placement found with
    | error fault => simp [siteAt, cut, bind, Except.bind, Except.map] at located
    | ok front =>
      refine ⟨found, front, rfl, cut, ?_⟩
      simp only [siteAt, cut, bind, Except.bind, Except.map, pure, Except.pure, Except.ok.injEq,
        Option.some.injEq] at located
      rw [← located]
      cases anchor.placement <;> rfl

/-- The text around a match after a block of lines was put in beside it: the lines stand above the line
on which the match begins, or below the line that holds its last character. -/
def Beside (placement : Placement) (block : List Text) (found : Found) (before after : Text) : Prop :=
  match placement with
  | .before => after = found.after ∧ ∃ front lead, found.before.reverse = front ++ lead ∧
    BeginsLine front.reverse ∧ '\n' ∉ lead ∧ before.reverse = front ++ fed block ++ lead
  | .after => before = found.before ∧ (∃ c, found.text.getLast? = some c ∧ c ≠ '\n') ∧
    ∃ tail behind, found.after = tail ++ behind ∧ EndsLine behind ∧ '\n' ∉ tail ∧
      after = tail ++ '\n' :: unlines block ++ behind

/-- Such lines make no difference to a linewise pattern. -/
theorem Beside.matches {placement : Placement} {block : List Text} {found : Found}
    {before after : Text} (beside : Beside placement block found before after) (some : block ≠ [])
    (linewise : pattern.isLinewise = true)
    (matched : pattern.Matches found.before found.text found.after) :
    pattern.Matches before found.text after := by
  cases placement with
  | before =>
    obtain ⟨rfl, front, lead, split, begins, -, same⟩ := beside
    refine matched.of_lines linewise ?_ Iff.rfl
    have first : found.before = lead.reverse ++ front.reverse := by
      rw [← List.reverse_append, ← split, List.reverse_reverse]
    have second : before = lead.reverse ++ (front ++ fed block).reverse := by
      rw [← List.reverse_append, ← same, List.reverse_reverse]
    rw [first, second]
    refine beginsLine_append ⟨fun _ => ?_, fun _ => begins⟩ lead
    rcases beginsLine_fed block with none | feed
    · obtain ⟨line, rest, rfl⟩ := List.exists_cons_of_ne_nil some
      simp [fed] at none
    · refine .inr ?_
      rw [List.reverse_append, List.head?_append, feed]
      rfl
  | after =>
    obtain ⟨rfl, -, tail, behind, split, ends, -, rfl⟩ := beside
    rw [split] at matched
    refine matched.of_lines linewise Iff.rfl ?_
    rw [List.append_assoc]
    exact endsLine_append ⟨fun _ => .inr rfl, fun _ => ends⟩ tail

/-- A place of a gentle anchor is a site among the lines of the content. -/
theorem Gentle.line_le (gentle : anchor.Gentle pattern) {site : Site}
    (located : anchor.locate content = .ok (some site)) :
    site.line ≤ (Text.lines content).length := by
  obtain ⟨found, front, counts, cut, line⟩ := exists_found gentle.firm.reads located
  obtain ⟨split, matched⟩ := matches_of_find? gentle.firm.ordered counts
  have filled := ne_nil_of_isFilled gentle.filled matched
  -- What the placement looks at has something behind it.
  obtain ⟨rest, more, whole⟩ : ∃ rest, rest ≠ [] ∧ content = front ++ rest := by
    unfold textBefore at cut
    split at cut
    · obtain rfl := Except.ok.inj cut
      exact ⟨found.text ++ found.after, by simp [filled], by rw [split, List.append_assoc]⟩
    · rename_i none
      exact absurd (List.getLast?_eq_none_iff.mp none) filled
    · rename_i last _ ending
      split at cut
      · obtain rfl := Except.ok.inj cut
        obtain ⟨start, same⟩ := List.getLast?_eq_some_iff.mp ending
        exact ⟨last :: found.after, by simp, by rw [split, same]; simp⟩
      · exact absurd cut (by simp)
  obtain ⟨above, last, rfl, single, feedless⟩ := exists_fed front
  have less := @length_lt_of_fed above (last ++ rest) single (by simp [more])
  rw [whole, List.append_assoc]
  rw [count_fed_append single feedless] at line
  split at line <;> omega

/-- **Lines put in at the site of a gentle anchor stand beside its match.** -/
theorem Gentle.beside (gentle : anchor.Gentle pattern) {file : SharedFile} {site : Site}
    {block : List Text} (filled : file.lines ≠ []) (single : ∀ line ∈ file.lines, '\n' ∉ line)
    (lined : block ≠ []) (located : anchor.locate file.toText = .ok (some site)) :
    ∃ found before after, anchor.find? pattern file.toText = some found ∧
      Beside anchor.placement block found before after ∧
      (file.insertLines site.line block).toText = before.reverse ++ found.text ++ after := by
  obtain ⟨found, front, counts, cut, line⟩ := exists_found gentle.firm.reads located
  obtain ⟨split, matched⟩ := matches_of_find? gentle.firm.ordered counts
  have holds := ne_nil_of_isFilled gentle.filled matched
  refine ⟨found, ?_⟩
  cases placed : anchor.placement with
  | before =>
    rw [placed] at cut line
    obtain rfl := Except.ok.inj cut
    obtain ⟨above, lead, own, whole, feedless⟩ := exists_fed found.before.reverse
    have text : file.toText = fed above ++ (lead ++ (found.text ++ found.after)) := by
      rw [split, own]
      simp
    have inserted := @SharedFile.toText_insertLines_above file above block _ filled single whole
      (by simp [holds]) text
    refine ⟨(fed above ++ fed block ++ lead).reverse, found.after, counts,
      ⟨rfl, fed above, lead, own, beginsLine_fed above, feedless, List.reverse_reverse _⟩, ?_⟩
    rw [line, own, count_fed_append whole feedless, if_pos rfl, Nat.add_zero, inserted]
    simp
  | after =>
    obtain ⟨c, other, closed⟩ := gentle.closed.resolve_left (by simp [placed])
    have ending := getLast?_of_isClosedBy closed matched
    obtain ⟨start, same⟩ := List.getLast?_eq_some_iff.mp ending
    rw [placed] at cut line
    have front_eq : front = found.before.reverse ++ start := by
      unfold textBefore at cut
      rw [ending] at cut
      simp only at cut
      split at cut
      · rw [← Except.ok.inj cut, same, List.dropLast_concat]
      · exact absurd cut (by simp)
    subst front_eq
    obtain ⟨above, lead, own, whole, feedless⟩ := exists_fed (found.before.reverse ++ start)
    -- The line of the last character goes on up to the next line feed.
    obtain ⟨tail, behind, rest, closing, plain⟩ : ∃ tail behind, found.after = tail ++ behind ∧
        EndsLine behind ∧ '\n' ∉ tail := by
      obtain ⟨others, last, rest, singles, plain⟩ := exists_fed found.after
      cases others with
      | nil => exact ⟨last, [], by rw [rest, List.append_nil]; rfl, .inl rfl, plain⟩
      | cons next others =>
        exact ⟨next, '\n' :: (fed others ++ last), by rw [rest]; simp [fed], .inr rfl,
          singles next List.mem_cons_self⟩
    have text : file.toText = fed above ++ ((lead ++ c :: tail) ++ behind) := by
      rw [split, same, rest, ← List.append_assoc, ← List.append_assoc, ← List.append_assoc, own]
      simp
    have inserted := @SharedFile.toText_insertLines_below file above block (lead ++ c :: tail) behind filled
      single whole (by simp) (by simp [feedless, Ne.symm other, plain]) closing lined text
    refine ⟨found.before, tail ++ '\n' :: unlines block ++ behind, counts,
      ⟨rfl, ⟨c, ending, other⟩, tail, behind, rest, closing, plain, rfl⟩, ?_⟩
    have upTo : found.before.reverse ++ (start ++ [c]) = fed above ++ (lead ++ [c]) := by
      rw [← List.append_assoc, own, List.append_assoc]
    rw [line, own, count_fed_append whole feedless, if_neg (by simp), inserted, same, upTo]
    simp

/-- A file in which a generated anchor is found has lines. -/
theorem Gentle.lines_ne_nil (gentle : anchor.Gentle pattern) (known : anchor ∈ generated)
    {file : SharedFile} {site : Site} (located : anchor.locate file.toText = .ok (some site)) :
    file.lines ≠ [] := by
  intro none
  have text : file.toText = [] ∨ file.toText = ['\n'] := by
    rw [SharedFile.toText, SharedFile.joined, none]
    cases file.ended
    · exact .inl rfl
    · exact .inr rfl
  rcases text with empty | feed
  · obtain ⟨front, matched, after, split, isMatch⟩ := gentle.firm.exists_site_iff.mp ⟨site, located⟩
    rw [empty] at split
    obtain ⟨left, -⟩ := List.append_eq_nil_iff.mp split.symm
    exact ne_nil_of_isFilled gentle.filled isMatch (List.append_eq_nil_iff.mp left).2
  · rw [feed, locate_feed anchor known] at located
    exact absurd located (by simp)

/-- **Creating a region tears no anchored text apart.** For each of the generated anchors: it is found
in a content or not, without a fault, and its site is among the lines. Lines that are put in there stand
above the line on which the match begins, or below the line that holds its last character. So the
matched text stands in the result as one, the pattern matches it there again, and the anchor is found
again. -/
theorem anchored_text_whole (anchor : Anchor) (known : anchor ∈ generated) :
    (∀ content, ∃ place, anchor.locate content = .ok place ∧
      ∀ site, place = some site → site.line ≤ (Text.lines content).length) ∧
    ∀ (file : SharedFile) (site : Site) (block : List Text),
      (∀ line ∈ file.lines, '\n' ∉ line) → block ≠ [] →
      anchor.locate file.toText = .ok (some site) →
      ∃ pattern found before after, Pattern.read? anchor.pattern = some pattern ∧
        anchor.find? pattern file.toText = some found ∧
        file.toText = found.before.reverse ++ found.text ++ found.after ∧
        (file.insertLines site.line block).toText = before.reverse ++ found.text ++ after ∧
        Beside anchor.placement block found before after ∧
        (∃ last ∈ pattern.ends ⟨before, found.text ++ after, []⟩, last.after = after) ∧
        ∃ again, anchor.locate (file.insertLines site.line block).toText = .ok (some again) := by
  obtain ⟨pattern, gentle⟩ := gentle_of_mem_generated known
  constructor
  · intro content
    obtain ⟨place, located, -⟩ := gentle.firm.exists_locate content
    refine ⟨place, located, ?_⟩
    rintro site rfl
    exact gentle.line_le located
  · intro file site block single lined located
    obtain ⟨found, before, after, counts, beside, changed⟩ :=
      gentle.beside (gentle.lines_ne_nil known located) single lined located
    obtain ⟨split, matched⟩ := matches_of_find? gentle.firm.ordered counts
    have again := beside.matches lined gentle.linewise matched
    obtain ⟨last, member, passed⟩ :=
      @(exact_ends gentle.firm.ordered).complete ⟨before, found.text ++ after, []⟩ _ _ rfl again
    refine ⟨pattern, found, before, after, gentle.firm.reads, counts, split, changed, beside,
      ⟨last, member, (List.append_cancel_left passed.after).symm⟩, ?_⟩
    rw [gentle.firm.exists_site_iff, changed]
    exact ⟨before.reverse, found.text, after, rfl, by rwa [List.reverse_reverse]⟩

/-- An import that goes over three lines, with a comment behind it. -/
theorem anchored_text_whole_icons :
    let file := SharedFile.ofText "import \x7b\n  Box,\n\x7d from 'lucide-react'; // icons\nlet é;"
    let block : List Text := ["import \x7b Zap \x7d from 'lucide-react';"]
    (∃ place, icons.locate file.toText = .ok place ∧
      ∀ site, place = some site → site.line ≤ (Text.lines file.toText).length) ∧
    ∃ pattern found before after, Pattern.read? icons.pattern = some pattern ∧
      icons.find? pattern file.toText = some found ∧
      file.toText = found.before.reverse ++ found.text ++ found.after ∧
      (file.insertLines 3 block).toText = before.reverse ++ found.text ++ after ∧
      Beside icons.placement block found before after ∧
      (∃ last ∈ pattern.ends ⟨before, found.text ++ after, []⟩, last.after = after) ∧
      ∃ again, icons.locate (file.insertLines 3 block).toText = .ok (some again) := by
  intro file block
  have whole := anchored_text_whole icons (by simp [generated])
  have located : (∀ line ∈ file.lines, '\n' ∉ line) ∧
      icons.locate file.toText = .ok (some ⟨3, []⟩) := by
    unfold file icons
    simp (disch := exact rfl) only [Text.toList_literal, -String.reduceToList]
    decide +kernel
  exact ⟨whole.1 file.toText, whole.2 file ⟨3, []⟩ block located.1 (by decide) located.2⟩

end Anchor

end Scaffold
