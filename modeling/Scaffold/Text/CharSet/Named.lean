import Scaffold.Text.CharSet
import Scaffold.Text.Script

/-!
# Sets of characters by name

The names under which patterns know sets of characters: those of ASCII kinds, and those of general
categories, scripts and a few properties. Names of the second sort are compared without regard to
case, blanks, underscores, hyphens and a leading "is".
-/
namespace Scaffold.CharSet

/-- The hexadecimal digits of ASCII. -/
def hexDigit : CharSet := union [range '0' '9', range 'A' 'F', range 'a' 'f']

/-- Kinds of ASCII characters by name. -/
def asciiKinds : List (Text × CharSet) :=
  let digits := range '0' '9'
  let upper := range 'A' 'Z'
  let lower := range 'a' 'z'
  [("alnum", union [digits, upper, lower]), ("alpha", union [upper, lower]), ("ascii", ascii),
    ("blank", ofList ['\t', ' ']), ("cntrl", union [range '\x00' '\x1f', only '\x7f']),
    ("digit", digits), ("graph", range '!' '~'), ("lower", lower), ("print", range ' ' '~'),
    ("punct", union [range '!' '/', range ':' '@', range '[' '\x60', range '\x7b' '~']),
    ("space", asciiBlank), ("upper", upper), ("word", asciiWord),
    ("xdigit", hexDigit)]

/-- The characters of any of the categories. -/
def ofCategories (categories : List Text.Category) : CharSet := union (categories.map kind)

/-- Decimal digits, letters that are numbers and other numbers. -/
def numberCategories : List Text.Category := [.decimalNumber, .letterNumber, .otherNumber]

/-- The characters that no category holds. -/
def unassigned : CharSet := complement (ofCategories Text.Category.all)

/-- Letters with case. -/
def casedLetter : CharSet := ofCategories [.uppercaseLetter, .lowercaseLetter, .titlecaseLetter]

/-- Sets by the names of general categories and of groups of them. -/
def categoryNames : List (List String × CharSet) :=
  [(["any"], everything), (["assigned"], complement unassigned), (["ascii"], ascii),
    (["l", "letter"], ofCategories Text.Category.letters), (["lc", "casedletter"], casedLetter),
    (["lu", "uppercaseletter"], kind .uppercaseLetter),
    (["ll", "lowercaseletter"], kind .lowercaseLetter),
    (["lt", "titlecaseletter"], kind .titlecaseLetter),
    (["lm", "modifierletter"], kind .modifierLetter), (["lo", "otherletter"], kind .otherLetter),
    (["m", "mark", "combiningmark"], ofCategories Text.Category.marks),
    (["mn", "nonspacingmark"], kind .nonspacingMark),
    (["mc", "spacingmark"], kind .spacingMark), (["me", "enclosingmark"], kind .enclosingMark),
    (["n", "number"], ofCategories numberCategories),
    (["nd", "decimalnumber", "digit"], digit), (["nl", "letternumber"], kind .letterNumber),
    (["no", "othernumber"], kind .otherNumber),
    (["p", "punctuation", "punct"],
      ofCategories [.connectorPunctuation, .dashPunctuation, .openPunctuation, .closePunctuation,
        .initialPunctuation, .finalPunctuation, .otherPunctuation]),
    (["pc", "connectorpunctuation"], kind .connectorPunctuation),
    (["pd", "dashpunctuation"], kind .dashPunctuation),
    (["ps", "openpunctuation"], kind .openPunctuation),
    (["pe", "closepunctuation"], kind .closePunctuation),
    (["pi", "initialpunctuation"], kind .initialPunctuation),
    (["pf", "finalpunctuation"], kind .finalPunctuation),
    (["po", "otherpunctuation"], kind .otherPunctuation),
    (["s", "symbol"], ofCategories [.mathSymbol, .currencySymbol, .modifierSymbol, .otherSymbol]),
    (["sm", "mathsymbol"], kind .mathSymbol), (["sc", "currencysymbol"], kind .currencySymbol),
    (["sk", "modifiersymbol"], kind .modifierSymbol), (["so", "othersymbol"], kind .otherSymbol),
    (["z", "separator"], ofCategories [.spaceSeparator, .lineSeparator, .paragraphSeparator]),
    (["zs", "spaceseparator"], kind .spaceSeparator),
    (["zl", "lineseparator"], kind .lineSeparator),
    (["zp", "paragraphseparator"], kind .paragraphSeparator),
    (["c", "other"], either unassigned (ofCategories [.control, .format, .privateUse])),
    (["cc", "control", "cntrl"], kind .control), (["cf", "format"], kind .format),
    (["co", "privateuse"], kind .privateUse), (["cn", "unassigned"], unassigned)]

/-- Sets by the names of properties. -/
def propertyNames : List (List String × CharSet) :=
  [(["alphabetic", "alpha"],
      difference alphanumeric (ofCategories [.decimalNumber, .otherNumber])),
    (["lowercase", "lower"], lowercase), (["uppercase", "upper"], uppercase),
    (["whitespace", "wspace", "space"], blank),
    (["cased"], cased), (["caseignorable", "ci"], caseIgnorable),
    (["asciihexdigit", "ahex"], hexDigit),
    (["hexdigit", "hex"],
      union [hexDigit, range '\uff10' '\uff19', range '\uff21' '\uff26', range '\uff41' '\uff46']),
    (["joincontrol", "joinc"], range '\u200c' '\u200d')]

/-- A name without what does not count in it. -/
def plainName (name : Text) : Text :=
  let body :=
    match name with
    | i :: s :: rest => if i.toLower = 'i' ∧ s.toLower = 's' then rest else name
    | _ => name
  let plain := body.filterMap fun c =>
    if c = ' ' || c = '_' || c = '-' || c.toNat ≥ 0x80 then none else some c.toLower
  if plain = ['c'] ∧ body ≠ name then "isc" else plain

/-- The set that a table has for a plain name. -/
def find? (table : List (List String × CharSet)) (name : Text) : Option CharSet :=
  (table.find? fun (names, _) => names.any (·.toList = name)).map (·.2)

/-- The characters of a script. -/
def ofScript (script : Text.Script) : CharSet :=
  union (script.ranges.map fun (first, last) => range (Char.ofNat first) (Char.ofNat last))

/-- The set of a property, a category or a script. -/
def ofName? (name : Text) : Option CharSet :=
  let plain := plainName name
  find? propertyNames plain <|> find? categoryNames plain <|>
    (Text.scriptOf? plain).map ofScript

/-- The set of the characters for which a property has a value; the property is the general
category or the script. -/
def ofValue? (property value : Text) : Option CharSet :=
  let plain := plainName property
  if plain = "gc" ∨ plain = "generalcategory" then find? categoryNames (plainName value)
  else if plain = "sc" ∨ plain = "script" then (Text.scriptOf? (plainName value)).map ofScript
  else none

end Scaffold.CharSet
