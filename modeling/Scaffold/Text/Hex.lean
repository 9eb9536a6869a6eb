import Scaffold.Text.Basic

/-!
# Hexadecimal numbers

Characters that are written by their number, in hexadecimal digits of either case.
-/
namespace Scaffold.Text

/-- The value of a hexadecimal digit. -/
def hexDigit? (c : Char) : Option Nat :=
  if '0' ≤ c ∧ c ≤ '9' then some (c.toNat - '0'.toNat)
  else if 'a' ≤ c ∧ c ≤ 'f' then some (c.toNat - 'a'.toNat + 10)
  else if 'A' ≤ c ∧ c ≤ 'F' then some (c.toNat - 'A'.toNat + 10)
  else none

/-- The number that hexadecimal digits write. -/
def hexNumber? (digits : Text) : Option Nat :=
  digits.foldlM (fun number c => (hexDigit? c).map (16 * number + ·)) 0

/-- The character with a number. The halves of surrogate pairs and numbers beyond the last
character are no characters. -/
def character? (number : Nat) : Option Char :=
  if number.isValidChar then some (Char.ofNat number) else none

/-- A digit has a value below 16. -/
theorem hexDigit?_lt {c : Char} {value : Nat} (digit : hexDigit? c = some value) : value < 16 := by
  simp only [hexDigit?, Char.le_def, UInt32.le_iff_toNat_le, Char.toNat] at digit
  split at digit
  · obtain ⟨-, last⟩ := ‹_ ∧ _›
    simp_all; omega
  · split at digit
    · obtain ⟨-, last⟩ := ‹_ ∧ _›
      simp_all; omega
    · split at digit
      · obtain ⟨-, last⟩ := ‹_ ∧ _›
        simp_all; omega
      · simp at digit

end Scaffold.Text
