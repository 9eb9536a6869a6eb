import Scaffold.Proofs.Text.Plain
import Scaffold.Proofs.Text.Row
import Scaffold.Proofs.Text.Trim

/-!
# Numbers in a text

A number is written in decimal digits and read back from them (`number?_ofNat`), and a list of
numbers is read back from its text if there are commas between them, with or without a blank behind
each comma (`numbers?_joinWith`, `numbers?_commaList`).
-/
namespace Scaffold.Text

/-- The number that a text of digits stands for. -/
def number? (text : Text) : Option Nat :=
  if text.isEmpty || !text.all Char.isDigit then none else some (Nat.ofDigitChars 10 text 0)

/-- The numbers between commas; blanks around them do not matter. -/
def numbers? (text : Text) : Option (List Nat) :=
  (splitOn ',' text).mapM fun piece => number? (trim piece)

/-- A written number is read back. -/
theorem number?_ofNat (value : Nat) : number? (ofNat value) = some value := by
  have digits : (ofNat value).all Char.isDigit = true := by
    rw [List.all_eq_true]
    exact fun c inside => Nat.isDigit_of_mem_toDigits (by decide) (by decide) inside
  have filled : (ofNat value).isEmpty = false := by
    rw [List.isEmpty_eq_false_iff]
    exact Nat.toDigits_ne_nil
  rw [number?, digits, filled]
  exact congrArg some Nat.ofDigitChars_ten_toDigits

/-- The digits of a number stand between no blanks. -/
theorem trim_ofNat (value : Nat) : trim (ofNat value) = ofNat value :=
  trim_eq_self (fun c first => (plain_ofNat value).isBlank_eq c (List.mem_of_head? first))
    (fun c last => (plain_ofNat value).isBlank_eq c (List.mem_of_getLast? last))

/-- Numbers are read one after the other. -/
theorem mapM_number? {numbers : List Nat} {write : Nat → Text}
    (trimmed : ∀ value, trim (write value) = ofNat value) :
    ((numbers.map write).mapM fun piece => number? (trim piece)) = some numbers := by
  induction numbers with
  | nil => rfl
  | cons value rest ih => simp [trimmed, number?_ofNat, ih]

/-- Numbers with commas between them are read back. -/
theorem numbers?_joinWith {numbers : List Nat} (some : numbers ≠ []) :
    numbers? (joinWith [','] (numbers.map ofNat)) = .some numbers := by
  have whole : ∀ piece ∈ numbers.map ofNat, ',' ∉ piece := by
    intro piece member
    obtain ⟨value, -, rfl⟩ := List.mem_map.mp member
    exact (plain_ofNat value).notMem (by decide)
  rw [numbers?, splitOn_joinWith_of_notMem (by simpa using some) whole]
  exact mapM_number? trim_ofNat

/-- Of parts with a comma and a blank between neighbours each but the first is cut with the blank. -/
theorem splitOn_commaList {first : Text} {rest : List Text}
    (whole : ∀ part ∈ first :: rest, ',' ∉ part) :
    splitOn ',' (commaList (first :: rest)) = first :: rest.map (' ' :: ·) := by
  induction rest generalizing first with
  | nil => exact splitOn_of_notMem (whole first List.mem_cons_self)
  | cons next more ih =>
    have later := ih fun part member => whole part (List.mem_cons_of_mem _ member)
    have text : commaList (first :: next :: more) =
        first ++ ',' :: ([' '] ++ commaList (next :: more)) := by
      simp [commaList, joinWith]
    rw [text, splitOn_append_cons, splitOn_of_notMem (whole first List.mem_cons_self),
      splitOn_append_left (by decide) later]
    rfl

/-- Numbers with a comma and a blank between neighbours are read back. -/
theorem numbers?_commaList {numbers : List Nat} (some : numbers ≠ []) :
    numbers? (commaList (numbers.map ofNat)) = .some numbers := by
  obtain ⟨first, rest, rfl⟩ := List.exists_cons_of_ne_nil some
  have whole : ∀ part ∈ ofNat first :: rest.map ofNat, ',' ∉ part := by
    intro part member
    rw [← List.map_cons] at member
    obtain ⟨value, -, rfl⟩ := List.mem_map.mp member
    exact (plain_ofNat value).notMem (by decide)
  have behind : ∀ value, trim (' ' :: ofNat value) = ofNat value := by
    intro value
    rw [trim_cons (by decide), trim_ofNat]
  rw [numbers?, List.map_cons, splitOn_commaList whole, List.map_map, List.mapM_cons]
  simp [trim_ofNat, number?_ofNat, mapM_number? behind, Function.comp_def]

end Scaffold.Text
