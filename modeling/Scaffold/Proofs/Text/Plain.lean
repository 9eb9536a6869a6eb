import Scaffold.Text.Blank
import Scaffold.Text.Words

/-!
# Plain characters

A plain character is a letter or digit of ASCII, an underscore, a hyphen, or a character beyond
ASCII that is not blank. Every letter and number is plain, and so are its case forms
(`isPlain_lowerChar`, `isPlain_upperChar`), so the casings of any name are made of plain characters
only: there is no slash, point, quote, wildcard or line ending in them.
-/
namespace Scaffold.Text

/-- A character that separates nothing: neither blank nor a mark of ASCII, up to the underscore and
the hyphen. -/
def isPlain (c : Char) : Bool :=
  if c.toNat < 0x80 then c.isAlphanum || c == '_' || c == '-' else !isBlank c

/-- A text of plain characters. -/
def IsPlain (text : Text) : Prop := ∀ c ∈ text, isPlain c = true

/-- The code points of the blanks beyond ASCII are those of no letter or number. -/
theorem blanks_apart : ∀ range ∈ blankRanges, ∀ other ∈ alphanumericRanges,
    range.2 < 0x80 ∨ range.2 < other.1 ∨ other.2 < range.1 := by
  have apart : (blankRanges.all fun range => alphanumericRanges.all fun other =>
      range.2.blt 0x80 || (range.2.blt other.1 || other.2.blt range.1)) = true := by
    decide +kernel
  simpa only [List.all_eq_true, Bool.or_eq_true, Nat.blt_eq] using apart

/-- A letter or number is plain. -/
theorem isPlain_of_isAlphanumeric {c : Char} (letter : isAlphanumeric c = true) :
    isPlain c = true := by
  unfold isAlphanumeric at letter
  unfold isPlain
  by_cases ascii : c.toNat < 0x80
  · rw [if_pos ascii] at letter ⊢
    simp [letter]
  · rw [if_neg ascii] at letter ⊢
    rw [Bool.not_eq_true', isBlank, List.any_eq_false]
    intro range listed inside
    rw [inRanges, List.any_eq_true] at letter
    obtain ⟨other, member, within⟩ := letter
    have apart := blanks_apart range listed other member
    simp only [Bool.and_eq_true, decide_eq_true_eq] at inside within
    omega

/-- A code point that is the one of a plain character. -/
def isPlainCode (code : Nat) : Bool := isPlain (Char.ofNat code)

/-- The case forms of a run are plain: they lie beyond ASCII and between the blanks, or the run is
one code point whose form is plain. -/
def CaseRun.isSafe (run : CaseRun) : Bool :=
  let first := (run.first + run.distance).toNat
  let last := (run.last + run.distance).toNat
  (run.first == run.last && isPlainCode first) ||
    (0x80 ≤ first && (last < 0xD800 || (0xE000 ≤ first && last < 0x110000)) &&
      blankRanges.all fun (low, high) => last < low || high < first)

/-- A character of a code point between two that are far enough from the blanks is plain. -/
theorem isPlainCode_of_between {first last code : Nat} (low : first ≤ code) (high : code ≤ last)
    (beyond : 0x80 ≤ first) (valid : last < 0xD800 ∨ (0xE000 ≤ first ∧ last < 0x110000))
    (apart : ∀ range ∈ blankRanges, last < range.1 ∨ range.2 < first) :
    isPlainCode code = true := by
  have legal : Nat.isValidChar code := by
    unfold Nat.isValidChar
    omega
  have value : (Char.ofNat code).toNat = code := by
    rw [Char.ofNat, dif_pos legal]
    rfl
  unfold isPlainCode isPlain
  rw [value, if_neg (by omega), Bool.not_eq_true', isBlank, List.any_eq_false]
  intro range listed inside
  rw [value] at inside
  have outside := apart range listed
  simp only [Bool.and_eq_true, decide_eq_true_eq] at inside
  omega

/-- The case forms that a safe run gives are plain. -/
theorem isPlainCode_of_image? {run : CaseRun} (safe : run.isSafe = true) {code image : Nat}
    (found : run.image? code = some image) : isPlainCode image = true := by
  simp only [CaseRun.image?, Option.ite_none_right_eq_some, Bool.and_eq_true, decide_eq_true_eq,
    Option.some.injEq] at found
  obtain ⟨⟨⟨low, high⟩, -⟩, rfl⟩ := found
  simp only [CaseRun.isSafe, Bool.or_eq_true, Bool.and_eq_true, beq_iff_eq, decide_eq_true_eq,
    List.all_eq_true] at safe
  rcases safe with ⟨single, plain⟩ | ⟨⟨beyond, valid⟩, apart⟩
  · have same : code = run.first := by omega
    rw [same]
    exact plain
  · exact isPlainCode_of_between (by omega) (by omega) beyond valid apart

/-- All runs of case forms are safe. -/
theorem isSafe_of_mem : (∀ run ∈ lowerRuns, run.isSafe = true) ∧
    ∀ run ∈ upperRuns, run.isSafe = true := by
  decide +kernel

/-- All case forms of several characters are plain. -/
theorem isPlainCode_of_expansion :
    (∀ expansion ∈ lowerExpansions, ∀ code ∈ expansion.2, isPlainCode code = true) ∧
      ∀ expansion ∈ upperExpansions, ∀ code ∈ expansion.2, isPlainCode code = true := by
  decide

/-- The case form of a plain character is plain if the tables are. -/
theorem isPlain_mapCase {expansions : List (Nat × List Nat)} {runs : List CaseRun}
    (several : ∀ expansion ∈ expansions, ∀ code ∈ expansion.2, isPlainCode code = true)
    (safe : ∀ run ∈ runs, run.isSafe = true) {c : Char} (plain : isPlain c = true) :
    IsPlain (mapCase expansions runs c) := by
  intro d inside
  unfold mapCase at inside
  split at inside
  · rename_i codes found
    obtain ⟨before, after, split, -⟩ := List.lookup_eq_some_iff.mp found
    obtain ⟨code, listed, rfl⟩ := List.mem_map.mp inside
    exact several (c.toNat, codes) (by rw [split]; simp) code listed
  · split at inside
    · rename_i code found
      obtain ⟨run, listed, image⟩ := List.exists_of_findSome?_eq_some found
      rw [List.mem_singleton.mp inside]
      exact isPlainCode_of_image? (safe run listed) image
    · rwa [List.mem_singleton.mp inside]

/-- The simple case forms of a plain character of ASCII are plain. -/
theorem isPlain_ascii : ∀ code < 0x80, isPlainCode code = true →
    isPlain (Char.ofNat code).toLower = true ∧ isPlain (Char.ofNat code).toUpper = true := by
  decide

/-- The lower case form of a plain character is plain. -/
theorem isPlain_lowerChar {c : Char} (plain : isPlain c = true) : IsPlain (lowerChar c) := by
  unfold lowerChar
  split
  · rename_i ascii
    have form := isPlain_ascii c.toNat ascii (by rwa [isPlainCode, Char.ofNat_toNat])
    rw [Char.ofNat_toNat] at form
    intro d inside
    rw [List.mem_singleton.mp inside]
    exact form.1
  · exact isPlain_mapCase isPlainCode_of_expansion.1 isSafe_of_mem.1 plain

/-- The upper case form of a plain character is plain. -/
theorem isPlain_upperChar {c : Char} (plain : isPlain c = true) : IsPlain (upperChar c) := by
  unfold upperChar
  split
  · rename_i ascii
    have form := isPlain_ascii c.toNat ascii (by rwa [isPlainCode, Char.ofNat_toNat])
    rw [Char.ofNat_toNat] at form
    intro d inside
    rw [List.mem_singleton.mp inside]
    exact form.2
  · exact isPlain_mapCase isPlainCode_of_expansion.2 isSafe_of_mem.2 plain

namespace IsPlain

variable {text other : Text}

/-- The empty text is plain. -/
theorem nil : IsPlain [] := fun _ inside => absurd inside List.not_mem_nil

/-- Two plain texts are one. -/
theorem append (first : IsPlain text) (second : IsPlain other) : IsPlain (text ++ other) :=
  fun c inside => (List.mem_append.mp inside).elim (first c) (second c)

/-- A part of a plain text is plain. -/
theorem subset (plain : IsPlain other) (part : text ⊆ other) : IsPlain text :=
  fun c inside => plain c (part inside)

/-- A plain text holds no character that is not. -/
theorem notMem (plain : IsPlain text) {c : Char} (odd : isPlain c = false) : c ∉ text := by
  intro inside
  have even := plain c inside
  rw [odd] at even
  exact Bool.noConfusion even

/-- No character of a plain text is blank. -/
theorem isBlank_eq (plain : IsPlain text) : ∀ c ∈ text, isBlank c = false := by
  intro c inside
  have even := plain c inside
  unfold isPlain at even
  split at even
  · rename_i ascii
    have blankless : ∀ code < 0x80, isPlainCode code = true → isBlank (Char.ofNat code) = false := by
      decide
    have here := blankless c.toNat ascii
      (by rw [isPlainCode, Char.ofNat_toNat]; exact plain c inside)
    rwa [Char.ofNat_toNat] at here
  · simpa using even

/-- Joined plain texts are plain if their separator is. -/
theorem joinWith {separator : Text} (between : IsPlain separator) {texts : List Text}
    (plain : ∀ text ∈ texts, IsPlain text) : IsPlain (Text.joinWith separator texts) := by
  induction texts with
  | nil => exact nil
  | cons first rest ih =>
    have later := ih fun text member => plain text (List.mem_cons_of_mem _ member)
    have own := plain first List.mem_cons_self
    cases rest with
    | nil => exact own
    | cons next more => exact (own.append between).append later

/-- Plain texts one after the other are plain. -/
theorem concat {texts : List Text} (plain : ∀ text ∈ texts, IsPlain text) :
    IsPlain (Text.concat texts) := by
  intro c inside
  obtain ⟨text, member, here⟩ := List.mem_flatten.mp inside
  exact plain text member c here

end IsPlain

/-- A word of letters and numbers is split into words of letters and numbers. -/
theorem mem_splitCase {word text : Text} {mode : WordCase} {start : Text}
    (member : word ∈ splitCase mode start text) : ∀ c ∈ word, c ∈ start ∨ c ∈ text := by
  induction text generalizing mode start with
  | nil =>
    unfold splitCase at member
    split at member
    · simp at member
    · intro c inside
      rw [List.mem_singleton.mp member] at inside
      exact .inl (List.mem_reverse.mp inside)
  | cons d rest ih =>
    intro c inside
    cases rest with
    | nil =>
      rw [splitCase, List.mem_singleton] at member
      rw [member] at inside
      rcases List.mem_cons.mp (List.mem_reverse.mp inside) with rfl | earlier
      · exact .inr List.mem_cons_self
      · exact .inl earlier
    | cons next more =>
      have first : ∀ e, e ∈ d :: start → e ∈ start ∨ e ∈ d :: next :: more := by
        intro e here
        rcases List.mem_cons.mp here with rfl | earlier
        · exact .inr List.mem_cons_self
        · exact .inl earlier
      rw [splitCase] at member
      split at member
      · rcases List.mem_cons.mp member with rfl | later
        · exact first c (List.mem_reverse.mp inside)
        · rcases ih later c inside with none | behind
          · simp at none
          · exact .inr (List.mem_cons_of_mem _ behind)
      · split at member
        · rcases List.mem_cons.mp member with rfl | later
          · exact .inl (List.mem_reverse.mp inside)
          · rcases ih later c inside with here | behind
            · rw [List.mem_singleton.mp here]
              exact .inr List.mem_cons_self
            · exact .inr (List.mem_cons_of_mem _ behind)
        · rcases ih member c inside with here | behind
          · exact first c here
          · exact .inr (List.mem_cons_of_mem _ behind)

/-- The words of a name are plain. -/
theorem plain_of_mem_wordsOf {name word : Text} (member : word ∈ wordsOf name) : IsPlain word := by
  obtain ⟨piece, listed, inside⟩ := List.mem_flatMap.mp member
  intro c here
  rcases mem_splitCase inside c here with none | there
  · simp at none
  · have kept := not_cut_of_mem_splitWhere listed c there
    exact isPlain_of_isAlphanumeric (by simpa using kept)

/-- A plain word in lower case is plain. -/
theorem IsPlain.lowerWord {word : Text} (plain : IsPlain word) : IsPlain (lowerWord word) := by
  have sigma : isPlain 'ς' = true := by decide
  induction word with
  | nil => exact IsPlain.nil
  | cons c rest ih =>
    have own := isPlain_lowerChar (plain c List.mem_cons_self)
    have later := ih fun d inside => plain d (List.mem_cons_of_mem _ inside)
    cases rest with
    | nil =>
      rw [Text.lowerWord]
      split
      · intro d inside
        rw [List.mem_singleton.mp inside, sigma]
      · exact own
    | cons next more => exact own.append later

/-- A plain word with a capital letter is plain. -/
theorem IsPlain.capitalWord {word : Text} (plain : IsPlain word) : IsPlain (capitalWord word) := by
  cases word with
  | nil => exact IsPlain.nil
  | cons c rest =>
    have later : IsPlain rest := fun d inside => plain d (List.mem_cons_of_mem _ inside)
    exact (isPlain_upperChar (plain c List.mem_cons_self)).append later.lowerWord

/-- Words in lower case with a plain separator are plain. -/
theorem plain_lowerWords {separator : Text} (between : IsPlain separator) (name : Text) :
    IsPlain (joinWith separator ((wordsOf name).map lowerWord)) := by
  apply IsPlain.joinWith between
  intro text member
  obtain ⟨word, listed, rfl⟩ := List.mem_map.mp member
  exact (plain_of_mem_wordsOf listed).lowerWord

/-- Words with underscores are plain. -/
theorem plain_snakeCase (name : Text) : IsPlain (snakeCase name) :=
  plain_lowerWords (by unfold IsPlain; decide) name

/-- Words with hyphens are plain. -/
theorem plain_kebabCase (name : Text) : IsPlain (kebabCase name) :=
  plain_lowerWords (by unfold IsPlain; decide) name

/-- Capitalised words are plain. -/
theorem plain_upperCamelCase (name : Text) : IsPlain (upperCamelCase name) := by
  apply IsPlain.concat
  intro text member
  obtain ⟨word, listed, rfl⟩ := List.mem_map.mp member
  exact (plain_of_mem_wordsOf listed).capitalWord

/-- Capitalised words behind one in lower case are plain. -/
theorem plain_lowerCamelCase (name : Text) : IsPlain (lowerCamelCase name) := by
  have words : ∀ word ∈ wordsOf name, IsPlain word := fun word => plain_of_mem_wordsOf
  unfold lowerCamelCase
  cases split : wordsOf name with
  | nil => exact IsPlain.nil
  | cons first others =>
    rw [split] at words
    refine (words first List.mem_cons_self).lowerWord.append (IsPlain.concat fun text member => ?_)
    obtain ⟨word, listed, rfl⟩ := List.mem_map.mp member
    exact (words word (List.mem_cons_of_mem _ listed)).capitalWord

/-- The digits of a number are plain. -/
theorem plain_ofNat (value : Nat) : IsPlain (ofNat value) := by
  intro c inside
  have digit := Nat.isDigit_of_mem_toDigits (by decide) (by decide) inside
  have ascii : c.toNat < 0x80 := by
    simp only [Char.isDigit, Bool.and_eq_true, decide_eq_true_eq] at digit
    have high := UInt32.le_iff_toNat_le.mp digit.2
    have bound : ('9' : Char).val.toNat = 57 := by decide
    have same : c.val.toNat = c.toNat := rfl
    omega
  rw [isPlain, if_pos ascii]
  simp [Char.isAlphanum, digit]

end Scaffold.Text
