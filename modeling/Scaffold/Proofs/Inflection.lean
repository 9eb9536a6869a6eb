import Scaffold.Inflection
import Scaffold.Proofs.Text.Match
import Scaffold.Proofs.Text.Plain

/-!
# Plain words in another number

The plural and the singular of a plain word are plain (`plain_pluralize`, `plain_singularize`): a
rule puts together parts of the word and its own letters, and the marks for the places of groups go
in the end.
-/
namespace Scaffold.Inflection

open Text (isPlain IsPlain isPlainCode)

/-- A character of a form before its places are dropped. -/
def isForm (c : Char) : Bool := isPlain c || c == '$'

/-- Plain characters may stand in a form. -/
theorem isForm_of_isPlain {c : Char} (plain : isPlain c = true) : isForm c = true := by
  simp [isForm, plain]

/-- Both case forms of a character of a form may stand in one. -/
theorem isForm_case {c : Char} (legal : isForm c = true) :
    (∀ d ∈ Text.lowerChar c, isForm d = true) ∧ ∀ d ∈ Text.upperChar c, isForm d = true := by
  rw [isForm, Bool.or_eq_true, beq_iff_eq] at legal
  rcases legal with plain | rfl
  · exact ⟨fun d inside => isForm_of_isPlain (Text.isPlain_lowerChar plain d inside),
      fun d inside => isForm_of_isPlain (Text.isPlain_upperChar plain d inside)⟩
  · decide

/-- A text in lower case is made of forms if it is. -/
theorem isForm_lower {text : Text} (legal : ∀ c ∈ text, isForm c = true) :
    ∀ c ∈ Text.lower text, isForm c = true := by
  have sigma : isForm 'ς' = true ∧ isForm 'σ' = true := by decide
  have after : ∀ (text before : Text), (∀ c ∈ text, isForm c = true) →
      ∀ c ∈ Text.lowerAfter before text, isForm c = true := by
    intro text
    induction text with
    | nil => intro before _ c inside; simp [Text.lowerAfter] at inside
    | cons d rest ih =>
      intro before legal c inside
      rw [Text.lowerAfter, List.mem_append] at inside
      rcases inside with own | later
      · split at own
        · split at own
          · rw [List.mem_singleton.mp own, sigma.1]
          · rw [List.mem_singleton.mp own, sigma.2]
        · exact (isForm_case (legal d List.mem_cons_self)).1 c own
      · exact ih _ (fun e there => legal e (List.mem_cons_of_mem _ there)) c later
  exact after text [] legal

/-- A text in upper case is made of forms if it is. -/
theorem isForm_upper {text : Text} (legal : ∀ c ∈ text, isForm c = true) :
    ∀ c ∈ Text.upper text, isForm c = true := by
  intro c inside
  obtain ⟨d, there, here⟩ := List.mem_flatMap.mp inside
  exact (isForm_case (legal d there)).2 c here

/-- A form in the case of a word is made of forms if it is. -/
theorem isForm_inCaseOf? {word form cased : Text} (legal : ∀ c ∈ form, isForm c = true)
    (found : inCaseOf? word form = some cased) : ∀ c ∈ cased, isForm c = true := by
  unfold inCaseOf? at found
  split at found
  · cases found; exact legal
  · split at found
    · cases found; exact isForm_lower legal
    · split at found
      · cases found; exact isForm_upper legal
      · split at found
        · split at found
          · cases found; exact legal
          · simp at found
        · cases found; exact isForm_lower legal

/-- No lower case form is a dollar sign. -/
theorem IsPlain.lower {text : Text} (plain : IsPlain text) : IsPlain (Text.lower text) := by
  have sigma : isPlain 'ς' = true ∧ isPlain 'σ' = true := by decide
  have after : ∀ (text before : Text), IsPlain text → IsPlain (Text.lowerAfter before text) := by
    intro text
    induction text with
    | nil => intro before _; exact IsPlain.nil
    | cons d rest ih =>
      intro before legal
      have later := ih (d :: before) fun e there => legal e (List.mem_cons_of_mem _ there)
      rw [Text.lowerAfter]
      refine IsPlain.append ?_ later
      intro c own
      split at own
      · split at own
        · rw [List.mem_singleton.mp own, sigma.1]
        · rw [List.mem_singleton.mp own, sigma.2]
      · exact Text.isPlain_lowerChar (legal d List.mem_cons_self) c own
  exact after text [] plain

/-- No upper case form is a dollar sign. -/
theorem IsPlain.upper {text : Text} (plain : IsPlain text) : IsPlain (Text.upper text) := by
  intro c inside
  obtain ⟨d, there, here⟩ := List.mem_flatMap.mp inside
  exact Text.isPlain_upperChar (plain d there) c here

/-- A plain form in the case of a word is plain. -/
theorem plain_inCaseOf? {word form cased : Text} (plain : IsPlain form)
    (found : inCaseOf? word form = some cased) : IsPlain cased := by
  unfold inCaseOf? at found
  split at found
  · cases found; exact plain
  · split at found
    · cases found; exact IsPlain.lower plain
    · split at found
      · cases found; exact IsPlain.upper plain
      · split at found
        · split at found
          · cases found; exact plain
          · simp at found
        · cases found; exact IsPlain.lower plain

/-- Replacing pieces brings in nothing but the new piece. -/
theorem mem_replaceAll {text old new : Text} {c : Char}
    (inside : c ∈ Text.replaceAll text old new) : c ∈ text ∨ c ∈ new := by
  have from' : ∀ (text : Text) (covered : Nat), c ∈ Text.replaceFrom old new covered text →
      c ∈ text ∨ c ∈ new := by
    intro text
    induction text with
    | nil => intro covered here; cases covered <;> simp [Text.replaceFrom] at here
    | cons d rest ih =>
      intro covered here
      have behind : ∀ {covered : Nat}, c ∈ Text.replaceFrom old new covered rest →
          c ∈ d :: rest ∨ c ∈ new := fun there =>
        (ih _ there).imp_left (List.mem_cons_of_mem _)
      cases covered with
      | succ covered => exact behind (by simpa [Text.replaceFrom] using here)
      | zero =>
        rw [Text.replaceFrom] at here
        split at here
        · rcases List.mem_append.mp here with own | later
          · exact .inr own
          · exact behind later
        · rcases List.mem_cons.mp here with rfl | later
          · exact .inl List.mem_cons_self
          · exact behind later
  exact from' text 0 inside

/-- Filling places brings in nothing but the texts. -/
theorem mem_fillPlaces {texts : List Text} {c : Char} : ∀ {replacement : Text} {number : Nat},
    c ∈ fillPlaces replacement number texts → c ∈ replacement ∨ ∃ text ∈ texts, c ∈ text := by
  induction texts with
  | nil => intro replacement number inside; exact .inl inside
  | cons text rest ih =>
    intro replacement number inside
    rcases ih inside with filled | ⟨other, member, here⟩
    · exact (mem_replaceAll filled).imp_right fun here => ⟨text, List.mem_cons_self, here⟩
    · exact .inr ⟨other, List.mem_cons_of_mem _ member, here⟩

/-- Dropping places leaves a part of the text without dollar signs. -/
theorem mem_dropPlaces {text : Text} {c : Char} (inside : c ∈ dropPlaces text) :
    c ∈ text ∧ c ≠ '$' := by
  fun_induction dropPlaces text with
  | case1 d rest ih =>
    obtain ⟨there, other⟩ := ih inside
    exact ⟨List.mem_cons_of_mem _ (List.mem_cons_of_mem _ there), other⟩
  | case2 => simp at inside
  | case3 d rest notPlace notLast ih =>
    rcases List.mem_cons.mp inside with rfl | later
    · refine ⟨List.mem_cons_self, ?_⟩
      rintro rfl
      cases rest with
      | nil => exact notLast rfl rfl
      | cons e more => exact notPlace e more rfl rfl
    · obtain ⟨there, other⟩ := ih later
      exact ⟨List.mem_cons_of_mem _ there, other⟩
  | case4 => simp at inside

/-- A text among forms in the case of a word is one of the forms in this case. -/
theorem exists_of_mem_mapM {word text : Text} {forms cased : List Text}
    (found : forms.mapM (inCaseOf? word) = some cased) (member : text ∈ cased) :
    ∃ form ∈ forms, inCaseOf? word form = some text := by
  induction forms generalizing cased with
  | nil =>
    obtain rfl : cased = [] := by simpa using found.symm
    simp at member
  | cons form rest ih =>
    rw [List.mapM_cons] at found
    cases first : inCaseOf? word form with
    | none => simp [first] at found
    | some own =>
      cases others : rest.mapM (inCaseOf? word) with
      | none => simp [first, others] at found
      | some texts =>
        obtain rfl : own :: texts = cased := by simpa [first, others] using found
        rcases List.mem_cons.mp member with rfl | behind
        · exact ⟨form, List.mem_cons_self, first⟩
        · obtain ⟨other, listed, same⟩ := ih others behind
          exact ⟨other, List.mem_cons_of_mem _ listed, same⟩

/-- What a rule with a legal replacement makes of a plain word is plain. -/
theorem plain_replaced? {rule : Rule} {word other : Text} {found : Pattern.Found}
    (legal : ∀ c ∈ rule.replacement, isForm c = true) (plain : IsPlain word)
    (matched : rule.pattern.first? word = some found)
    (replaced : rule.replaced? word found = some other) : IsPlain other := by
  obtain ⟨before, text, after, groups⟩ := Pattern.within_of_first? plain matched
  unfold Rule.replaced? at replaced
  cases own : inCaseOf? word rule.replacement with
  | none => simp [own] at replaced
  | some replacement =>
    cases parts : (found.text :: found.groups.map (·.2)).mapM (inCaseOf? word) with
    | none => simp [own, parts] at replaced
    | some texts =>
      simp only [own, parts, Option.bind_eq_bind, Option.bind_some, Option.pure_def,
        Option.some.injEq] at replaced
      have plainTexts : ∀ text ∈ texts, IsPlain text := by
        intro cased listed
        obtain ⟨form, member, same⟩ := exists_of_mem_mapM parts listed
        refine plain_inCaseOf? ?_ same
        rcases List.mem_cons.mp member with rfl | group
        · exact text
        · obtain ⟨remembered, listed, rfl⟩ := List.mem_map.mp group
          exact groups remembered listed
      have filled : ∀ c ∈ fillPlaces replacement 0 texts, isForm c = true := by
        intro c inside
        rcases mem_fillPlaces inside with kept | ⟨text, listed, here⟩
        · exact isForm_inCaseOf? legal own c kept
        · exact isForm_of_isPlain (plainTexts text listed c here)
      rw [← replaced]
      intro c inside
      obtain ⟨there, noPlace⟩ := mem_dropPlaces inside
      have form : isForm c = true := by
        rcases List.mem_append.mp there with front | last
        · rcases List.mem_append.mp front with first | middle
          · exact isForm_of_isPlain (before c (List.mem_reverse.mp first))
          · exact filled c middle
        · exact isForm_of_isPlain (after c last)
      simpa [isForm, noPlace] using form

/-- The replacements of the tables are legal. -/
theorem isForm_of_mem_tables : (∀ pair ∈ pluralRules, ∀ c ∈ pair.2, isForm c = true) ∧
    ∀ pair ∈ singularRules, ∀ c ∈ pair.2, isForm c = true := by
  decide

/-- The irregular words are plain. -/
theorem plain_irregularWords : ∀ pair ∈ irregularWords,
    (∀ c ∈ pair.1, isPlain c = true) ∧ ∀ c ∈ pair.2, isPlain c = true := by
  decide +kernel

/-- The replacements of the rules of a legal table are legal. -/
theorem isForm_of_mem_rulesOf {table : List (Text × Text)}
    (legal : ∀ pair ∈ table, ∀ c ∈ pair.2, isForm c = true) :
    ∀ rule ∈ rulesOf table, ∀ c ∈ rule.replacement, isForm c = true := by
  have whole : ∀ c ∈ ("$0" : Text), isForm c = true := by decide
  intro rule member
  obtain ⟨pair, listed, made⟩ := List.mem_filterMap.mp member
  obtain ⟨read, -, rfl⟩ := Option.map_eq_some_iff.mp made
  rcases List.mem_append.mp listed with own | ending
  · exact legal pair own
  · obtain ⟨pattern, -, rfl⟩ := List.mem_map.mp ending
    exact whole

/-- The value of a key stands in the table. -/
theorem mem_of_lastValue? {table : List (Text × Text)} {key value : Text}
    (found : lastValue? table key = some value) : (key, value) ∈ table := by
  obtain ⟨before, after, split, -⟩ := List.lookup_eq_some_iff.mp found
  exact List.mem_reverse.mp (by rw [split]; simp)

/-- A plain word is plain in another number, under legal rules and with plain replaced forms. -/
theorem plain_inflect? {keep replace : List (Text × Text)} {rules : List Rule} {word other : Text}
    (forms : ∀ pair ∈ replace, IsPlain pair.2)
    (legal : ∀ rule ∈ rules, ∀ c ∈ rule.replacement, isForm c = true) (plain : IsPlain word)
    (found : inflect? keep replace rules word = some other) : IsPlain other := by
  unfold inflect? at found
  simp only at found
  split at found
  · exact plain_inCaseOf? (IsPlain.lower plain) found
  · rename_i value _ replaced
    exact plain_inCaseOf? (forms _ (mem_of_lastValue? replaced)) found
  · split at found
    · cases found; exact plain
    · split at found
      · rename_i rule matched chosen
        obtain ⟨own, listed, there⟩ := List.exists_of_findSome?_eq_some chosen
        obtain ⟨match', first, same⟩ := Option.map_eq_some_iff.mp there
        cases same
        exact plain_replaced? (legal rule (List.mem_reverse.mp listed)) plain first found
      · cases found; exact plain

/-- The plural of a plain word is plain. -/
theorem plain_pluralize {word : Text} (plain : IsPlain word) : IsPlain (pluralize word) := by
  unfold pluralize
  cases found : plural? word with
  | none => exact plain
  | some other =>
    exact plain_inflect? (fun pair member => (plain_irregularWords pair member).2)
      (isForm_of_mem_rulesOf isForm_of_mem_tables.1) plain found

/-- The singular of a plain word is plain. -/
theorem plain_singularize {word : Text} (plain : IsPlain word) : IsPlain (singularize word) := by
  unfold singularize
  cases found : singular? word with
  | none => exact plain
  | some other =>
    refine plain_inflect? (fun pair member => ?_)
      (isForm_of_mem_rulesOf isForm_of_mem_tables.2) plain found
    obtain ⟨original, listed, rfl⟩ := List.mem_map.mp member
    exact (plain_irregularWords original listed).1

end Scaffold.Inflection
