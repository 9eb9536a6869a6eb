import Scaffold.Text.Basic
import Scaffold.Text.Hex

/-!
# Numbers, truth values and dates in TOML

Which words are values of these sorts. The configuration has no place for such a value, so that
only the form of the word counts here.
-/
namespace Scaffold.Toml

/-- The pieces of a text between single marks. -/
def pieces (mark : Char) : Text → List Text
  | [] => [[]]
  | c :: rest =>
    match pieces mark rest with
    | [] => []
    | piece :: more => if c = mark then [] :: piece :: more else (c :: piece) :: more

/-- Digits of which neighbours may have an underscore between them. -/
def areDigits (isDigit : Char → Bool) (text : Text) : Bool :=
  (pieces '_' text).all fun piece => !piece.isEmpty && piece.all isDigit

/-- A word without the sign in front. -/
def unsigned : Text → Text
  | '+' :: rest => rest
  | '-' :: rest => rest
  | word => word

/-- The value of digits with a base. -/
def valueOf (base : Nat) (digits : Text) : Nat :=
  digits.foldl (fun value c => base * value + (Text.hexDigit? c).getD 0) 0

/-- Decimal digits without a needless zero in front. -/
def isDecimal (text : Text) : Bool :=
  areDigits Char.isDigit text && (text.length = 1 || text.head? != some '0')

/-- The least number that is too large for a whole number: 63 bits are all set below it. -/
def wholeBound : Nat := 9223372036854775808

/-- Digits of a base whose value fits into 63 bits. -/
def isBased (base : Nat) (digits : Text) : Bool :=
  areDigits (fun c => (Text.hexDigit? c).any (· < base)) digits &&
    valueOf base (digits.filter (· != '_')) < wholeBound

/-- A whole number. -/
def isInteger (word : Text) : Bool :=
  match word with
  | '0' :: 'x' :: digits => isBased 16 digits
  | '0' :: 'o' :: digits => isBased 8 digits
  | '0' :: 'b' :: digits => isBased 2 digits
  | _ =>
    let digits := unsigned word
    let bound := if word.head? = some '-' then wholeBound + 1 else wholeBound
    isDecimal digits && valueOf 10 (digits.filter (· != '_')) < bound

/-- A text without the part from a character on that satisfies a condition, and this part without
its first character. -/
def splitAt (isMark : Char → Bool) (text : Text) : Text × Option Text :=
  let front := text.takeWhile (!isMark ·)
  match text.drop front.length with
  | [] => (front, none)
  | _ :: rest => (front, some rest)

/-- A number with a fraction or an exponent. -/
def isFraction (word : Text) : Bool :=
  let (front, exponent) := splitAt (fun c => c = 'e' || c = 'E') (unsigned word)
  let (whole, fraction) := splitAt (· = '.') front
  isDecimal whole && fraction.all (areDigits Char.isDigit) &&
    exponent.all (fun digits => areDigits Char.isDigit (unsigned digits)) &&
    (fraction.isSome || exponent.isSome)

/-- The number of so many decimal digits. -/
def fixed? (count : Nat) (digits : Text) : Option Nat :=
  if digits.length = count && digits.all Char.isDigit then some (valueOf 10 digits) else none

/-- The number of days of a month. -/
def daysOf (year month : Nat) : Nat :=
  if month = 2 then
    if year % 4 = 0 ∧ (year % 100 ≠ 0 ∨ year % 400 = 0) then 29 else 28
  else if [4, 6, 9, 11].contains month then 30 else 31

/-- A day: year, month and day of the month. -/
def isDay (word : Text) : Bool :=
  match pieces '-' word with
  | [year, month, day] =>
    match fixed? 4 year, fixed? 2 month, fixed? 2 day with
    | some year, some month, some day =>
      1 ≤ month && month ≤ 12 && 1 ≤ day && day ≤ daysOf year month
    | _, _, _ => false
  | _ => false

/-- Hours and minutes. -/
def isClock (hour minute : Text) : Bool :=
  (fixed? 2 hour).any (· ≤ 23) && (fixed? 2 minute).any (· ≤ 59)

/-- A time of a day, which may have a fraction of a second. -/
def isTime (word : Text) : Bool :=
  match pieces ':' word with
  | [hour, minute, rest] =>
    let (second, fraction) := splitAt (· = '.') rest
    isClock hour minute && (fixed? 2 second).any (· ≤ 60) &&
      fraction.all fun digits => !digits.isEmpty && digits.all Char.isDigit
  | _ => false

/-- A distance from universal time. -/
def isOffset (word : Text) : Bool :=
  match pieces ':' word with
  | [hour, minute] => isClock hour minute
  | _ => false

/-- A time of a day, which may have a distance from universal time behind it. -/
def isZonedTime (word : Text) : Bool :=
  let (time, offset) := splitAt (fun c => c = '+' || c = '-') word
  match offset with
  | some offset => isTime time && isOffset offset
  | none =>
    isTime time || (["Z", "z"].any (Text.endsWith word ·.toList) && isTime word.dropLast)

/-- A day and a time of it. -/
def isMoment (word : Text) : Bool :=
  let (day, time) := splitAt (fun c => c = 'T' || c = 't') word
  isDay day && time.any isZonedTime

/-- A word that is a value by itself. -/
def isScalar (word : Text) : Bool :=
  word = "true" || word = "false" || unsigned word = "inf" || unsigned word = "nan" ||
    isInteger word || isFraction word || isDay word || isTime word || isMoment word

/-- The character may stand in such a word. -/
def isWordPart (c : Char) : Bool :=
  c.isAlphanum || c = '_' || c = '+' || c = '-' || c = '.' || c = ':'

/-- What follows a number, a truth value or a date at the start. A blank may stand between a day
and a time of it. -/
def afterScalar? (text : Text) : Option Text :=
  let word := text.takeWhile isWordPart
  let rest := text.drop word.length
  if !isScalar word then none
  else match rest with
    | ' ' :: more =>
      let time := more.takeWhile isWordPart
      if isDay word && isZonedTime time then some (more.drop time.length) else some rest
    | _ => some rest

end Scaffold.Toml
