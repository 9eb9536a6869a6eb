import Scaffold.Proofs.Names
import Scaffold.Proofs.Text.Atom

/-!
# Names in lower case

The casings are made from the words of a name. In a name in lower case every character is its own
lower case form (`Text.IsLower`), so the words of its kebab casing are its words as they are, and its
camel casing is read back from its kebab casing (`Text.camelOfKebab_kebabCase`). The snake casing of
any name is in lower case, and so is its plural (`Inflection.isLower_pluralize`).
-/
namespace Scaffold

namespace Text

/-- The code point that a member of the run is mapped to. -/
def CaseRun.image (run : CaseRun) (code : Nat) : Nat := (code + run.distance).toNat

/-- No code point that one run maps to belongs to another run: all are below it, all are behind it,
or all lie between its steps. -/
def CaseRun.avoids (run other : CaseRun) : Bool :=
  (run.image run.last).blt other.first || other.last.blt (run.image run.first) ||
    ((run.step == 2 || run.first == run.last) && other.step == 2 &&
      (run.image run.first + other.first) % 2 == 1)

/-- The code points that a run maps to are characters without an expansion. A single one may belong to
ASCII, where it is its own lower case form. -/
def CaseRun.isSound (run : CaseRun) : Bool :=
  ((0x80).ble (run.image run.first) ||
    (run.first == run.last && lowerChar (Char.ofNat (run.image run.first)) ==
      [Char.ofNat (run.image run.first)])) &&
    ((run.image run.last).blt 0x130 || (0x130).blt (run.image run.first)) &&
    ((run.image run.last).blt 0xD800 ||
      ((0xE000).ble (run.image run.first) && (run.image run.last).blt 0x110000))

/-- No lower case form has another one, run by run. -/
theorem avoids_of_mem : (lowerRuns.all fun run => lowerRuns.all run.avoids) = true := by
  decide +kernel

/-- The lower case forms of all runs are characters without an expansion. -/
theorem isSound_of_mem : lowerRuns.all (·.isSound) = true := by
  decide +kernel

/-- The members of a run and what they are mapped to. -/
theorem CaseRun.image?_eq_some_iff {run : CaseRun} {code image : Nat} :
    run.image? code = some image ↔
      (run.first ≤ code ∧ code ≤ run.last ∧ (code - run.first) % run.step = 0) ∧
        run.image code = image := by
  simp only [CaseRun.image?, CaseRun.image, Option.ite_none_right_eq_some, Bool.and_eq_true,
    decide_eq_true_eq, beq_iff_eq, Option.some.injEq, and_assoc]

/-- A run has no member among the code points that one maps to which avoids it. -/
theorem CaseRun.image?_eq_none {run other : CaseRun} (avoids : run.avoids other = true)
    {code image : Nat} (found : run.image? code = some image) (positive : run.image run.first ≠ 0) :
    other.image? image = none := by
  obtain ⟨⟨low, high, step⟩, rfl⟩ := image?_eq_some_iff.mp found
  rw [Option.eq_none_iff_forall_ne_some]
  intro again twice
  obtain ⟨⟨above, below, between⟩, -⟩ := image?_eq_some_iff.mp twice
  simp only [CaseRun.avoids, Bool.or_eq_true, Bool.and_eq_true, Nat.blt_eq, beq_iff_eq] at avoids
  unfold CaseRun.image at *
  rcases avoids with (before | behind) | ⟨⟨shape, two⟩, odd⟩
  · omega
  · omega
  · rw [two] at between
    rcases shape with double | single
    · rw [double] at step
      omega
    · omega

/-- What a run maps to is its own lower case form. -/
theorem lowerChar_image {run : CaseRun} (listed : run ∈ lowerRuns) {code image : Nat}
    (found : run.image? code = some image) :
    lowerChar (Char.ofNat image) = [Char.ofNat image] := by
  have sound := List.all_eq_true.mp isSound_of_mem run listed
  have avoids := List.all_eq_true.mp (List.all_eq_true.mp avoids_of_mem run listed)
  obtain ⟨⟨low, high, -⟩, same⟩ := CaseRun.image?_eq_some_iff.mp found
  simp only [CaseRun.isSound, Bool.or_eq_true, Bool.and_eq_true, Nat.blt_eq, Nat.ble_eq,
    beq_iff_eq] at sound
  obtain ⟨⟨kind, unexpanded⟩, valid⟩ := sound
  have between : run.image run.first ≤ image ∧ image ≤ run.image run.last := by
    unfold CaseRun.image at same ⊢
    omega
  rcases kind with beyond | ⟨single, own⟩
  · have legal : Nat.isValidChar image := by
      unfold Nat.isValidChar
      omega
    have value : (Char.ofNat image).toNat = image := by
      rw [Char.ofNat, dif_pos legal]
      rfl
    have other : (image == 0x130) = false := beq_eq_false_iff_ne.mpr (by omega)
    have lookup : lowerExpansions.lookup image = none := by
      rw [lowerExpansions, List.lookup_cons, other]
      rfl
    have none : lowerRuns.findSome? (·.image? image) = none :=
      List.findSome?_eq_none_iff.mpr fun next member =>
        CaseRun.image?_eq_none (avoids next member) found (by omega)
    rw [lowerChar, value, if_neg (by omega), mapCase, value, lookup]
    simp only [none]
  · have only : image = run.image run.first := by
      rw [single] at between ⊢
      omega
    rw [only]
    exact own

/-- The lower case forms of ASCII and the expansions are their own. -/
theorem lowerChar_fixed :
    (∀ code < 0x80, lowerChar (Char.ofNat code).toLower = [(Char.ofNat code).toLower]) ∧
      ∀ expansion ∈ lowerExpansions, ∀ code ∈ expansion.2,
        lowerChar (Char.ofNat code) = [Char.ofNat code] := by
  decide +kernel

/-- A lower case form has no other one. -/
theorem lowerChar_of_mem_lowerChar {c d : Char} (inside : d ∈ lowerChar c) :
    lowerChar d = [d] := by
  by_cases ascii : c.toNat < 0x80
  · rw [lowerChar, if_pos ascii, List.mem_singleton] at inside
    have form := lowerChar_fixed.1 c.toNat ascii
    rwa [Char.ofNat_toNat, ← inside] at form
  · have form : lowerChar c = mapCase lowerExpansions lowerRuns c := if_neg ascii
    rw [form, mapCase] at inside
    rw [mapCase] at form
    split at inside
    · rename_i codes found
      obtain ⟨before, after, split, -⟩ := List.lookup_eq_some_iff.mp found
      obtain ⟨code, listed, rfl⟩ := List.mem_map.mp inside
      exact lowerChar_fixed.2 (c.toNat, codes) (by rw [split]; simp) code listed
    · rename_i unexpanded
      simp only [unexpanded] at form
      split at inside
      · rename_i code found
        obtain ⟨run, listed, image⟩ := List.exists_of_findSome?_eq_some found
        rw [List.mem_singleton.mp inside]
        exact lowerChar_image listed image
      · rename_i outside
        rw [List.mem_singleton.mp inside]
        simpa only [outside] using form

/-- A text of characters that are their own lower case forms. -/
def IsLower (text : Text) : Prop := ∀ c ∈ text, lowerChar c = [c]

/-- A capital sigma is not its own lower case form. -/
theorem ne_capitalSigma {c : Char} (own : lowerChar c = [c]) : c ≠ capitalSigma := by
  rintro rfl
  exact absurd own (by decide)

/-- The final sigma is. -/
theorem lowerChar_sigma : lowerChar 'ς' = ['ς'] ∧ lowerChar 'σ' = ['σ'] := by
  decide

namespace IsLower

variable {text other : Text}

/-- A part of a text in lower case is in lower case. -/
theorem subset (lower : IsLower other) (part : text ⊆ other) : IsLower text :=
  fun c inside => lower c (part inside)

/-- A word in lower case stays as it is. -/
theorem lowerWord (lower : IsLower text) : lowerWord text = text := by
  induction text with
  | nil => rfl
  | cons c rest ih =>
    have own := lower c List.mem_cons_self
    cases rest with
    | nil =>
      rw [Text.lowerWord, if_neg (ne_capitalSigma own), own]
    | cons next more =>
      rw [Text.lowerWord, own, ih (lower.subset (List.subset_cons_self c _))]
      rfl

/-- So does a text. -/
theorem lower (lower : IsLower text) : Text.lower text = text := by
  have after : ∀ before, lowerAfter before text = text := by
    induction text with
    | nil => intro before; rfl
    | cons c rest ih =>
      intro before
      have own := lower c List.mem_cons_self
      rw [lowerAfter, if_neg (ne_capitalSigma own), own,
        ih (lower.subset (List.subset_cons_self c _))]
      rfl
  exact after []

end IsLower

/-- A word is put in lower case. -/
theorem isLower_lowerWord (word : Text) : IsLower (lowerWord word) := by
  induction word with
  | nil => exact fun c inside => absurd inside List.not_mem_nil
  | cons c rest ih =>
    cases rest with
    | nil =>
      rw [lowerWord]
      split
      · intro d inside
        rw [List.mem_singleton.mp inside]
        exact lowerChar_sigma.1
      · exact fun d inside => lowerChar_of_mem_lowerChar inside
    | cons next more =>
      intro d inside
      rcases List.mem_append.mp inside with own | later
      · exact lowerChar_of_mem_lowerChar own
      · exact ih d later

/-- A text is put in lower case. -/
theorem isLower_lower (text : Text) : IsLower (lower text) := by
  have after : ∀ before, IsLower (lowerAfter before text) := by
    induction text with
    | nil => intro before c inside; exact absurd inside List.not_mem_nil
    | cons c rest ih =>
      intro before d inside
      rcases List.mem_append.mp inside with own | later
      · split at own
        · split at own
          · rw [List.mem_singleton.mp own]
            exact lowerChar_sigma.1
          · rw [List.mem_singleton.mp own]
            exact lowerChar_sigma.2
        · exact lowerChar_of_mem_lowerChar own
      · exact ih _ d later
  exact after []

/-- Snake casing puts a name in lower case. -/
theorem isLower_snakeCase (name : Text) : IsLower (snakeCase name) := by
  have underscore : lowerChar '_' = ['_'] := by decide
  intro c inside
  rcases mem_joinWith inside with between | ⟨text, listed, here⟩
  · rw [List.mem_singleton.mp between]
    exact underscore
  · obtain ⟨word, -, rfl⟩ := List.mem_map.mp listed
    exact isLower_lowerWord word c here

/-- The words of a name are letters and numbers of it. -/
theorem mem_of_mem_wordsOf {name word : Text} (member : word ∈ wordsOf name) {c : Char}
    (inside : c ∈ word) : c ∈ name ∧ isAlphanumeric c = true := by
  obtain ⟨piece, listed, own⟩ := List.mem_flatMap.mp member
  rcases mem_splitCase own c inside with none | here
  · exact absurd none List.not_mem_nil
  · have kept := not_cut_of_mem_splitWhere listed c here
    exact ⟨subset_of_mem_splitWhere listed here, by simpa using kept⟩

/-- The kebab casing of a name in lower case is made of its words as they are. -/
theorem kebabCase_of_isLower {name : Text} (lower : IsLower name) :
    kebabCase name = joinWith ['-'] (wordsOf name) := by
  have same : (wordsOf name).map lowerWord = wordsOf name := by
    refine Eq.trans (List.map_congr_left fun word member => ?_) (List.map_id _)
    exact (lower.subset fun c inside => (mem_of_mem_wordsOf member inside).1).lowerWord
  rw [kebabCase, same]

/-- Words between hyphens in camel casing. -/
def camelOfKebab (text : Text) : Text := concat ((splitOn '-' text).map capitalWord)

/-- The camel casing of a name in lower case is read back from its kebab casing. -/
theorem camelOfKebab_kebabCase {name : Text} (lower : IsLower name) :
    camelOfKebab (kebabCase name) = upperCamelCase name := by
  rw [kebabCase_of_isLower lower, camelOfKebab, upperCamelCase]
  by_cases none : wordsOf name = []
  · rw [none]
    rfl
  · rw [splitOn_joinWith_of_notMem none]
    intro word member inside
    exact absurd (mem_of_mem_wordsOf member inside).2 (by decide)

/-- Words on both sides of a hyphen are put side by side. -/
theorem camelOfKebab_append (before after : Text) :
    camelOfKebab (before ++ '-' :: after) = camelOfKebab before ++ camelOfKebab after := by
  rw [camelOfKebab, splitOn_append_cons, List.map_append]
  exact List.flatten_append

end Text

namespace Inflection

open Text (IsLower)

/-- A form in the case of a word in lower case is in lower case. -/
theorem isLower_inCaseOf? {word form cased : Text} (lower : IsLower word)
    (found : inCaseOf? word form = some cased) : IsLower cased := by
  unfold inCaseOf? at found
  rw [if_pos lower.lower.symm] at found
  split at found
  · rename_i same
    cases found
    rwa [← same]
  · cases found
    exact Text.isLower_lower form

/-- What a rule makes of a word in lower case is in lower case. -/
theorem isLower_replaced? {rule : Rule} {word other : Text} {found : Pattern.Found}
    (lower : IsLower word) (matched : rule.pattern.first? word = some found)
    (replaced : rule.replaced? word found = some other) : IsLower other := by
  obtain ⟨before, -, after, -⟩ := Pattern.within_of_first? lower matched
  unfold Rule.replaced? at replaced
  cases own : inCaseOf? word rule.replacement with
  | none => simp [own] at replaced
  | some replacement =>
    cases parts : (found.text :: found.groups.map (·.2)).mapM (inCaseOf? word) with
    | none => simp [own, parts] at replaced
    | some texts =>
      simp only [own, parts, Option.bind_eq_bind, Option.bind_some, Option.pure_def,
        Option.some.injEq] at replaced
      rw [← replaced]
      intro c inside
      rcases List.mem_append.mp (mem_dropPlaces inside).1 with front | last
      · rcases List.mem_append.mp front with first | middle
        · exact before c (List.mem_reverse.mp first)
        · rcases mem_fillPlaces middle with kept | ⟨text, listed, here⟩
          · exact isLower_inCaseOf? lower own c kept
          · obtain ⟨form, -, same⟩ := exists_of_mem_mapM parts listed
            exact isLower_inCaseOf? lower same c here
      · exact after c last

/-- The plural of a word in lower case is in lower case. -/
theorem isLower_pluralize {word : Text} (lower : IsLower word) : IsLower (pluralize word) := by
  unfold pluralize
  cases found : plural? word with
  | none => exact lower
  | some other =>
    unfold plural? inflect? at found
    simp only at found
    split at found
    · exact isLower_inCaseOf? lower found
    · exact isLower_inCaseOf? lower found
    · split at found
      · cases found
        exact lower
      · split at found
        · rename_i rule matched chosen
          obtain ⟨own, -, there⟩ := List.exists_of_findSome?_eq_some chosen
          obtain ⟨first, here, same⟩ := Option.map_eq_some_iff.mp there
          cases same
          exact isLower_replaced? lower here found
        · cases found
          exact lower

end Inflection

end Scaffold
