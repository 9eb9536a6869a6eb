import Scaffold.Inflection.Rules
import Scaffold.Text.Pattern.Reader
import Scaffold.Text.Split

/-!
# Plural and singular

The plural and the singular of an English word. A word that already has the wanted number keeps
it, an irregular word takes its other form, and any other word takes the last rule that matches
it. The result keeps the case of the word.
-/
namespace Scaffold.Inflection

/-- A rule with its pattern read. -/
structure Rule where
  /-- What the rule matches. -/
  pattern : Pattern
  /-- What takes the place of the match; a dollar sign and a digit stand for a group. -/
  replacement : Text

/-- The rules of a table, followed by the endings that have no other number. -/
def rulesOf (table : List (Text × Text)) : List Rule :=
  (table ++ uncountableEndings.map fun ending => (ending, ("$0" : Text))).filterMap
    fun (pattern, replacement) => (Pattern.read? pattern).map fun read => ⟨read, replacement⟩

/-- Rules for the plural. -/
def toPlural : List Rule := rulesOf pluralRules

/-- Rules for the singular. -/
def toSingular : List Rule := rulesOf singularRules

/-- The value of a key; a later entry of the same key counts. -/
def lastValue? (table : List (Text × Text)) (key : Text) : Option Text := table.reverse.lookup key

/-- Singular to plural of the irregular words. -/
def pluralOfIrregular : List (Text × Text) := irregularWords

/-- Plural to singular of the irregular words. -/
def singularOfIrregular : List (Text × Text) :=
  irregularWords.map fun (singular, plural) => (plural, singular)

/-- A form in the case of a word: lower or upper case if the whole word is, as it stands if the
word begins with an uppercase character, and lower case otherwise. A form that would be left as it
stands is divided behind its first byte, so that there is none if it begins with a character of
several bytes. -/
def inCaseOf? (word form : Text) : Option Text :=
  if word = form then some form
  else if word = Text.lower word then some (Text.lower form)
  else if word = Text.upper word then some (Text.upper form)
  else if word.head?.any Text.isUppercase then
    if form.head?.all Text.isSingleByte then some form else none
  else some (Text.lower form)

/-- Replaces the numbered places of a replacement by texts, from number zero on. -/
def fillPlaces (replacement : Text) : Nat → List Text → Text
  | _, [] => replacement
  | number, text :: texts =>
    fillPlaces (Text.replaceAll replacement ('$' :: Text.ofNat number) text) (number + 1) texts

/-- Leaves every place that no group filled out: a dollar sign and the character behind it, if
there is one. -/
def dropPlaces : Text → Text
  | '$' :: _ :: rest => dropPlaces rest
  | ['$'] => []
  | c :: rest => c :: dropPlaces rest
  | [] => []

/-- The word with the match of a rule replaced. The groups that took part are numbered in order,
after the whole match as number zero. -/
def Rule.replaced? (rule : Rule) (word : Text) (found : Pattern.Found) : Option Text := do
  let replacement ← inCaseOf? word rule.replacement
  let texts ← (found.text :: found.groups.map (·.2)).mapM (inCaseOf? word)
  return dropPlaces (found.before.reverse ++ fillPlaces replacement 0 texts ++ found.after)

/-- The rule that counts for a word, with its match: the last rule that matches. -/
def lastMatch? (rules : List Rule) (word : Text) : Option (Rule × Pattern.Found) :=
  rules.reverse.findSome? fun rule => (rule.pattern.first? word).map (rule, ·)

/-- A word in another number, if there is one: a form that is kept, a form that is replaced, or
what the rule that counts makes of it. -/
def inflect? (keep replace : List (Text × Text)) (rules : List Rule) (word : Text) :
    Option Text :=
  let token := Text.lower word
  match lastValue? keep token, lastValue? replace token with
  | some _, _ => inCaseOf? word token
  | none, some other => inCaseOf? word other
  | none, none =>
    if token.isEmpty || uncountableWords.contains token then some word
    else match lastMatch? rules word with
      | some (rule, found) => rule.replaced? word found
      | none => some word

/-- The plural of a word, if there is one. -/
def plural? (word : Text) : Option Text :=
  inflect? singularOfIrregular pluralOfIrregular toPlural word

/-- The singular of a word, if there is one. -/
def singular? (word : Text) : Option Text :=
  inflect? pluralOfIrregular singularOfIrregular toSingular word

/-- The plural of a word, or the word if it has none. -/
def pluralize (word : Text) : Text := (plural? word).getD word

/-- The singular of a word, or the word if it has none. -/
def singularize (word : Text) : Text := (singular? word).getD word

/-- Every form has the case of a word in lower case. -/
theorem inCaseOf?_of_lower {word : Text} (low : Text.lower word = word) (form : Text) :
    ∃ cased, inCaseOf? word form = some cased := by
  by_cases same : word = form
  · exact ⟨form, by simp [inCaseOf?, same]⟩
  · exact ⟨Text.lower form, by simp [inCaseOf?, same, low]⟩

/-- A rule has a result for every word in lower case that it matches. -/
theorem replaced?_of_lower {word : Text} (low : Text.lower word = word) (rule : Rule)
    (found : Pattern.Found) : ∃ other, rule.replaced? word found = some other := by
  obtain ⟨replacement, cased⟩ := inCaseOf?_of_lower low rule.replacement
  have parts : ∀ texts : List Text, ∃ all, texts.mapM (inCaseOf? word) = some all := by
    intro texts
    induction texts with
    | nil => exact ⟨[], rfl⟩
    | cons text rest ih =>
      obtain ⟨first, one⟩ := inCaseOf?_of_lower low text
      obtain ⟨all, more⟩ := ih
      exact ⟨first :: all, by simp [one, more]⟩
  obtain ⟨texts, all⟩ := parts (found.text :: found.groups.map (·.2))
  exact ⟨_, by simp only [Rule.replaced?, cased, all, Option.bind_eq_bind, Option.bind_some]; rfl⟩

/-- A word in lower case has another number under all rules. -/
theorem inflect?_of_lower {word : Text} (low : Text.lower word = word)
    (keep replace : List (Text × Text)) (rules : List Rule) :
    ∃ other, inflect? keep replace rules word = some other := by
  simp only [inflect?]
  split
  · exact inCaseOf?_of_lower low _
  · exact inCaseOf?_of_lower low _
  · split
    · exact ⟨word, rfl⟩
    · split
      · exact replaced?_of_lower low _ _
      · exact ⟨word, rfl⟩

/-- A word in lower case has a plural. -/
theorem plural?_of_lower {word : Text} (low : Text.lower word = word) :
    plural? word = some (pluralize word) := by
  obtain ⟨other, found⟩ := inflect?_of_lower low singularOfIrregular pluralOfIrregular toPlural
  simp [pluralize, plural?, found]

/-- A word in lower case has a singular. -/
theorem singular?_of_lower {word : Text} (low : Text.lower word = word) :
    singular? word = some (singularize word) := by
  obtain ⟨other, found⟩ := inflect?_of_lower low pluralOfIrregular singularOfIrregular toSingular
  simp [singularize, singular?, found]

end Scaffold.Inflection
