import Scaffold.Page.Control
import Scaffold.Proofs.Code.Mention

/-!
# The lists that controls mention

The code of a control is written around the key that it sets, the words shown for it, the keys that it
clears and the type of its input. Apart from these texts it mentions the list that the choices are
drawn from, and no other name that ends as those of option lists do (`Control.mentions_lines`). A
label of an option is an element whose name ends as those of label functions do, so helpers of that
kind are not told apart here.
-/
namespace Scaffold

open Text Code Markup

namespace ChoiceList

variable {choices : ChoiceList} {found : List Text} {rest : Text}

/-- The name of a list, if it is one of a helper. -/
def helpers (choices : ChoiceList) : List Text := [choices.list].filter isHelperName

/-- The expression of choices mentions their list. -/
theorem reads_code {c : Char} (plain : IsPlain choices.list) (apart : isPlain c = false)
    (behind : Reads (c :: rest) found) :
    Reads (choices.code ++ c :: rest) (choices.helpers ++ found) := by
  unfold code
  cases choices.shown with
  | none => exact .name plain apart behind
  | some shown =>
    have front : Reads
        ('.' :: "map((option) => (\x7b value: option.id, label: String(option[".toList) [] := by
      decide
    have back : Reads "]) \x7d))" [] := by decide
    have listed := Reads.name plain (by decide)
      (front.append ((Reads.quote shown).append (back.append behind)))
    have written : choices.list ++ ".map((option) => (\x7b value: option.id, label: String(option[" ++
        quote shown ++ "]) \x7d))" ++ c :: rest = choices.list ++ '.' ::
          ("map((option) => (\x7b value: option.id, label: String(option[".toList ++
            (quote shown ++ ("]) \x7d))".toList ++ c :: rest))) := by
      simp
    rwa [written]

/-- So do lines for every choice. -/
theorem readsLines_each (plain : IsPlain choices.list) {lines : List Text}
    (inner : ReadsLines lines found) :
    ReadsLines (each choices.code "option" lines) (choices.helpers ++ found) := by
  have brace : Reads ['\x7b'] [] := by decide
  have member : Reads ('.' :: "map((option) => (".toList) [] := by decide
  have opening : Reads ('\x7b' :: choices.code ++ ".map((" ++ "option" ++ ") => (")
      choices.helpers := by
    have drawn := brace.append (reads_code plain (by decide) member)
    rw [List.nil_append, List.append_nil] at drawn
    simp only [List.append_assoc]
    exact drawn
  have lines := ReadsLines.block opening inner (by decide : Reads "))\x7d" [])
  rwa [List.append_nil] at lines

/-- And the items of a drop-down list. -/
theorem readsLines_selectItems (plain : IsPlain choices.list) :
    ReadsLines (selectItems choices.code) choices.helpers := by
  have item : ReadsLines (element "SelectItem"
      [.code "key" "option.value", .code "value" "String(option.value)"]
      [Text.braced "option.label"]) [] := .silent (by decide)
  have items := ReadsLines.inside (by decide : Reads (opening "SelectContent" []) [])
    (readsLines_each plain item) (by decide : Reads (closing "SelectContent") [])
  rwa [List.append_nil] at items

end ChoiceList

namespace Control

variable {insets : List Text} {key own label words : Text}

section

variable (inset : Bare insets key own)

include inset

/-- The value of the key. -/
theorem bare_dataOf : Bare insets (dataOf key) (dataOf own) := (Bare.refl _).append inset

/-- The code that sets the key. -/
theorem bare_setData {value bare : Text} (inner : Bare insets value bare) :
    Bare insets (setData key value) (setData own bare) :=
  ((((Bare.refl _).append inset).append (.refl _)).append inner).append (.refl _)

/-- A function of one parameter that sets the key. -/
theorem bare_setter (parameter : Text) {value bare : Text} (inner : Bare insets value bare) :
    Bare insets (function parameter (setData key value)) (function parameter (setData own bare)) :=
  (Bare.refl _).append (bare_setData inset inner)

/-- The chosen option. -/
theorem bare_chosen : Bare insets (chosen key) (chosen own) :=
  (((bare_dataOf inset).append (.refl _)).append (bare_dataOf inset)).append (.refl _)

/-- The control of one option. -/
theorem bare_optionId : Bare insets (optionId key) (optionId own) :=
  .char _ (inset.append (.refl _))

/-- The code that sets the key and clears others. -/
theorem bare_setAndClear {clears : List Text} (all : clears ⊆ insets) :
    Bare insets (setAndClear key clears) (setAndClear own (clears.map blank)) := by
  have cleared : ∀ clears : List Text, clears ⊆ insets →
      BareLines insets (clears.map (· ++ ": null")) ((clears.map blank).map (· ++ ": null")) := by
    intro clears all
    induction clears with
    | nil => exact .nil
    | cons clear clears ih =>
      rw [List.cons_subset] at all
      exact .cons ((Bare.blank all.1).append (.refl _)) (isEmpty_append_cons _ _ _ _) (ih all.2)
  cases clears with
  | nil => exact bare_setter inset _ (.refl _)
  | cons clear clears =>
    have members : BareLines insets (chosenMembers key (clear :: clears))
        (chosenMembers own ((clear :: clears).map blank)) :=
      .cons (.refl _) rfl
        (.cons (inset.append (.refl _)) (isEmpty_append_cons _ _ _ _) (cleared _ all))
    exact (Bare.refl _).append (((Bare.refl _).append
      ((Bare.refl _).append (.char '(' (members.record.append (.refl _))))).append (.refl _))

/-- A control and a label for every option. -/
theorem bareLines_optionLines (choices : ChoiceList) {control bare : List Text}
    (inner : BareLines insets control bare) :
    BareLines insets (optionLines key choices control) (optionLines own choices bare) :=
  have name : Bare insets (optionLabel key) (optionLabel own) :=
    bare_inline (.cons (bare_code (bare_optionId inset)) .nil) (.refl _)
  bareLines_each (.refl _) (bareLines_element (bareAttributes_refl _)
    (inner.append (.single name rfl)))

/-- One check box. -/
theorem bareLines_checkboxLines : BareLines insets (checkboxLines key) (checkboxLines own) := by
  have toggle : Bare insets (toggleOption key) (toggleOption own) :=
    bare_setData inset ((((Bare.refl _).append (bare_dataOf inset)).append (.refl _)).append
      (bare_dataOf inset) |>.append (.refl _))
  have name : Bare insets ("id=".toList ++ braced (optionId key))
      ("id=".toList ++ braced (optionId own)) := (Bare.refl _).append (bare_optionId inset).braced
  have chosen : Bare insets ("checked=".toList ++ braced (dataOf key ++ ".includes(option.value)"))
      ("checked=".toList ++ braced (dataOf own ++ ".includes(option.value)")) :=
    (Bare.refl _).append ((bare_dataOf inset).append (.refl _)).braced
  exact .block (.refl _) rfl (.cons name rfl (.cons chosen rfl
    (.block (.refl _) rfl (.single toggle rfl) (.refl _) rfl))) (.refl _) rfl

/-- An input for one end of a range. -/
theorem bare_rangeInput {type kind : Text} (sort : Bare insets type kind) (bound : Text)
    (identified : Bool) :
    Bare insets (rangeInput key type bound identified) (rangeInput own kind bound identified) := by
  have value : Bare insets (dataOf key ++ '.' :: bound ++ " ?? ''")
      (dataOf own ++ '.' :: bound ++ " ?? ''") :=
    ((bare_dataOf inset).append (.refl _)).append (.refl _)
  have members : BareLines insets ["...".toList ++ dataOf key, bound ++ ": e.target.value || null"]
      ["...".toList ++ dataOf own, bound ++ ": e.target.value || null"] :=
    .cons ((Bare.refl _).append (bare_dataOf inset)) (by simp) (.refl _)
  have more : BareAttributes insets
      [.text "type" type, .code "value" (dataOf key ++ '.' :: bound ++ " ?? ''"),
        .code "onChange" (function "e" (setData key
          (Code.record ["..." ++ dataOf key, bound ++ ": e.target.value || null"])))]
      [.text "type" kind, .code "value" (dataOf own ++ '.' :: bound ++ " ?? ''"),
        .code "onChange" (function "e" (setData own
          (Code.record ["..." ++ dataOf own, bound ++ ": e.target.value || null"])))] :=
    .cons (bare_text sort) (.cons (bare_code value)
      (.cons (bare_code (bare_setter inset _ members.record)) .nil))
  cases identified with
  | false => exact bare_empty more
  | true => exact bare_empty (.cons (bare_text inset) more)

/-- An empty element with the key as its identifier. -/
theorem bareLines_keyed {tag : Text} {attributes others : List Attribute}
    (more : BareAttributes insets attributes others) :
    BareLines insets [empty tag (.text "id" key :: attributes)]
      [empty tag (.text "id" own :: others)] :=
  .single (bare_empty (.cons (bare_text inset) more)) rfl

end

/-- The texts that stand in the code of a control as they are, besides its key and its label. -/
def pasted : Control → List Text
  | select _ clears => clears
  | range type => [type]
  | input type => [type]
  | _ => []

/-- A control with blanks in the place of these texts. -/
def blanked : Control → Control
  | select choices clears => select choices (clears.map blank)
  | range type => range (blank type)
  | input type => input (blank type)
  | control => control

/-- A control is written around its key, its label and these texts. -/
theorem bareLines_lines (inset : Bare insets key own) (shown : Bare insets label words)
    (control : Control) (all : control.pasted ⊆ insets) :
    BareLines insets (control.lines key label) (control.blanked.lines own words) := by
  have value := bare_dataOf inset
  have set (name parameter value : Text) : BareAttributes insets
      [.code name (function parameter (setData key value))]
      [.code name (function parameter (setData own value))] :=
    .cons (bare_code (bare_setter inset parameter (.refl value))) .nil
  cases control with
  | select choices clears =>
    have hint : Bare insets ("Select ".toList ++ label) ("Select ".toList ++ words) :=
      (Bare.refl _).append shown
    have trigger : BareLines insets
        (element "SelectTrigger" [.text "id" key]
          [empty "SelectValue" [.text "placeholder" ("Select " ++ label)]])
        (element "SelectTrigger" [.text "id" own]
          [empty "SelectValue" [.text "placeholder" ("Select " ++ words)]]) :=
      bareLines_element (.cons (bare_text inset) .nil)
        (.single (bare_empty (.cons (bare_text hint) .nil)) rfl)
    exact bareLines_element
      (.cons (bare_code (bare_chosen inset)) (.cons (bare_code (bare_setAndClear inset all)) .nil))
      (trigger.append (.refl _))
  | multiSelect choices =>
    exact bareLines_keyed inset (.cons (.refl _) (.cons (bare_code value) (set _ _ _)))
  | radioGroup choices =>
    have button : BareLines insets
        [empty "RadioGroupItem"
          [.code "id" (optionId key), .code "value" "String(option.value)"]]
        [empty "RadioGroupItem"
          [.code "id" (optionId own), .code "value" "String(option.value)"]] :=
      .single (bare_empty (.cons (bare_code (bare_optionId inset)) (bareAttributes_refl _))) rfl
    exact bareLines_element
      (.cons (bare_code (bare_chosen inset)) (set _ _ _))
      (bareLines_optionLines inset choices button)
  | checkboxes choices =>
    exact bareLines_element (bareAttributes_refl _)
      (bareLines_optionLines inset choices (bareLines_checkboxLines inset))
  | textarea => exact bareLines_keyed inset (.cons (bare_code value) (set _ _ _))
  | richText => exact bareLines_keyed inset (.cons (bare_code value) (set _ _ _))
  | rating =>
    exact bareLines_keyed inset (.cons (bare_code (value.append (.refl _))) (set _ _ _))
  | slider =>
    exact bareLines_keyed inset (.cons (bare_code value)
      (.cons (.refl _) (.cons (.refl _) (.cons (.refl _) (set _ _ _)))))
  | switch => exact bareLines_keyed inset (.cons (bare_code value) (set _ _ _))
  | tags => exact bareLines_keyed inset (.cons (bare_code value) (set _ _ _))
  | range type =>
    have sort := Bare.blank (all (List.mem_singleton_self type))
    exact bareLines_element (bareAttributes_refl _)
      (.cons (bare_rangeInput inset sort _ _) rfl
        (.cons (.refl _) rfl (.single (bare_rangeInput inset sort _ _) rfl)))
  | number =>
    exact bareLines_keyed inset (.cons (.refl _)
      (.cons (bare_code (value.append (.refl _))) (set _ _ _)))
  | amount =>
    exact bareLines_keyed inset (.cons (.refl _) (.cons (.refl _) (.cons (.refl _)
      (.cons (bare_code value) (set _ _ _)))))
  | file imageOnly =>
    cases imageOnly with
    | false => exact bareLines_keyed inset (.cons (.refl _) (set _ _ _))
    | true => exact bareLines_keyed inset (.cons (.refl _) (.cons (.refl _) (set _ _ _)))
  | files => exact bareLines_keyed inset (.cons (.refl _) (.cons (.refl _) (set _ _ _)))
  | input type =>
    have sort := Bare.blank (all (List.mem_singleton_self type))
    exact bareLines_keyed inset (.cons (bare_text sort) (.cons (bare_code value) (set _ _ _)))

/-- The members of a list that follow a first one, each of which clears a key, mention no helper. -/
theorem reads_members {first : Text} (clears : List Text) (next : Reads (first ++ [',', ' ']) [])
    (last : Reads (first ++ [' ']) []) :
    Reads (joinWith ", " (first :: (clears.map blank).map (· ++ ": null")) ++ [' ']) [] := by
  induction clears generalizing first with
  | nil => exact last
  | cons clear clears ih =>
    have member : Reads (blank clear ++ ": null" ++ [',', ' ']) [] ∧
        Reads (blank clear ++ ": null" ++ [' ']) [] := by
      unfold blank
      split <;> decide
    rw [List.map_cons, List.map_cons, joinWith, List.append_assoc]
    exact next.append (ih member.1 member.2)

/-- Code that sets a key and clears others mentions no helper. -/
theorem reads_setAndClear (key : Text) (clears : List Text) :
    Reads (setAndClear (blank key) (clears.map blank)) [] := by
  cases clears with
  | nil =>
    unfold blank
    split <;> decide
  | cons clear clears =>
    have front : Reads "(value) => setData((previous) => (\x7b ...previous, " [] := by decide
    have back : Reads "\x7d))" [] := by decide
    have member : Reads (blank key ++ ": Number(value)" ++ [',', ' ']) [] ∧
        Reads (blank key ++ ": Number(value)" ++ [' ']) [] := by
      unfold blank
      split <;> decide
    have whole := (front.append (reads_members (clear :: clears) member.1 member.2)).append back
    have written : setAndClear (blank key) ((clear :: clears).map blank) =
        "(value) => setData((previous) => (\x7b ...previous, ".toList ++
          (joinWith ", " ((blank key ++ ": Number(value)") ::
            ((clear :: clears).map blank).map (· ++ ": null")) ++ [' ']) ++ "\x7d))" := by
      simp [setAndClear, function, Code.record, braced, commaList, chosenMembers, joinWith]
    rw [written]
    exact whole

/-- A drop-down list mentions the list of its choices. -/
theorem readsLines_selectLines (key label : Text) {choices : ChoiceList}
    (plain : IsPlain choices.list) (clears : List Text) :
    ReadsLines (selectLines (blank key) (blank label) choices (clears.map blank))
      choices.helpers := by
  have opened : Reads (opening "Select" [.code "value" (chosen (blank key)),
      .code "onValueChange" (setAndClear (blank key) (clears.map blank))]) [] := by
    have front : Reads ("<Select value=\x7b".toList ++ chosen (blank key) ++
        "\x7d onValueChange=\x7b") [] := by
      unfold blank
      split <;> decide
    have back : Reads "\x7d>" [] := by decide
    have whole := (front.append (reads_setAndClear key clears)).append back
    simpa [opening, head, concat, Attribute.written, braced] using whole
  have trigger : ReadsLines (element "SelectTrigger" [.text "id" (blank key)]
      [empty "SelectValue" [.text "placeholder" ("Select " ++ blank label)]]) [] := by
    have hint : Reads (empty "SelectValue" [.text "placeholder" ("Select " ++ blank label)]) [] := by
      unfold blank
      split <;> decide
    refine .inside ?_ (.single hint) (by decide)
    unfold blank
    split <;> decide
  exact .inside opened (trigger.append (ChoiceList.readsLines_selectItems plain)) (by decide)

/-- So does a list with several choices. -/
theorem reads_multiSelect (key : Text) {choices : ChoiceList} (plain : IsPlain choices.list) :
    Reads (empty "MultiSelect" [.text "id" (blank key), .code "options" choices.code,
      .code "value" (dataOf (blank key)), .code "onChange" (setValue (blank key))])
      choices.helpers := by
  have front : Reads ("<MultiSelect id=\"".toList ++ blank key ++ "\" options=\x7b") [] := by
    unfold blank
    split <;> decide
  have back : Reads ('\x7d' :: (" value=".toList ++ braced (dataOf (blank key)) ++ " onChange=" ++
      braced (setValue (blank key)) ++ " />")) [] := by
    unfold blank
    split <;> decide
  have whole := front.append (ChoiceList.reads_code plain (by decide) back)
  rw [List.nil_append, List.append_nil] at whole
  simpa [empty, head, concat, Attribute.written, braced] using whole

/-- The elements that label an option. -/
def labelElements : List Text := ["Label", "Label"]

/-- Controls with labels for all options mention the list of the options. -/
theorem readsLines_optionLines (key : Text) {choices : ChoiceList} (plain : IsPlain choices.list)
    {control : List Text} (silent : ∀ line ∈ control, Reads (line ++ ['\n']) []) :
    ReadsLines (optionLines (blank key) choices control) (choices.helpers ++ labelElements) := by
  have label : Reads (optionLabel (blank key)) labelElements := by
    unfold blank
    split <;> decide
  exact ChoiceList.readsLines_each plain
    (.inside (by decide) ((ReadsLines.silent silent).append (.single label)) (by decide))

/-- Radio buttons mention the list of their options. -/
theorem readsLines_radioLines (key : Text) {choices : ChoiceList} (plain : IsPlain choices.list) :
    ReadsLines (radioLines (blank key) choices) (choices.helpers ++ labelElements) := by
  have opened : Reads ("<RadioGroup value=\x7b".toList ++ chosen (blank key) ++
      "\x7d onValueChange=\x7b" ++ setNumber (blank key) ++ "\x7d>") [] := by
    unfold blank
    split <;> decide +kernel
  refine .inside ?_ (readsLines_optionLines key plain ?_) (by decide)
  · simpa [opening, head, concat, Attribute.written, braced] using opened
  · unfold blank
    split <;> decide

/-- Check boxes mention the list of their options. -/
theorem readsLines_checkboxGroupLines (key : Text) {choices : ChoiceList}
    (plain : IsPlain choices.list) :
    ReadsLines (checkboxGroupLines (blank key) choices) (choices.helpers ++ labelElements) := by
  refine .inside (by decide) (readsLines_optionLines key plain ?_) (by decide)
  unfold blank
  split <;> decide

/-- With blanks in the place of what is pasted into it, a control mentions the list that it draws
from, besides elements that are no lists. -/
theorem helpers_lines (key label : Text) (control : Control)
    (plain : ∀ choices ∈ control.choices?, IsPlain choices.list) :
    ∃ elements, elements.filter isListName = [] ∧
      helpers (unlines (control.blanked.lines (blank key) (blank label))) =
        control.choices?.elim [] ChoiceList.helpers ++ elements := by
  have labels : labelElements.filter isListName = [] := by decide
  cases control with
  | select choices clears =>
    refine ⟨[], rfl, ?_⟩
    rw [List.append_nil]
    exact (readsLines_selectLines key label (plain _ rfl) clears).helpers_unlines
  | multiSelect choices =>
    refine ⟨[], rfl, ?_⟩
    rw [List.append_nil]
    exact (reads_multiSelect key (plain _ rfl)).helpers
  | radioGroup choices => exact ⟨_, labels, (readsLines_radioLines key (plain _ rfl)).helpers_unlines⟩
  | checkboxes choices =>
    exact ⟨_, labels, (readsLines_checkboxGroupLines key (plain _ rfl)).helpers_unlines⟩
  | range type =>
    refine ⟨[], rfl, ?_⟩
    show helpers (unlines (rangeLines (blank key) (blank type))) = []
    unfold blank
    split <;> split <;> decide +kernel
  | input type =>
    refine ⟨[], rfl, ?_⟩
    show helpers (unlines ((input (blank type)).lines (blank key) [])) = []
    unfold blank
    split <;> split <;> decide
  | file imageOnly =>
    refine ⟨[], rfl, ?_⟩
    show helpers (unlines ((file imageOnly).lines (blank key) [])) = []
    unfold blank
    cases imageOnly <;> split <;> decide
  | _ =>
    refine ⟨[], rfl, ?_⟩
    unfold blank
    split <;> split <;> decide

/-- **Controls mention their lists.** Around its key, its label and what else is pasted into it, a
control mentions the list that it draws from and no other name of a list. -/
theorem mentions_lines (key label : Text) (control : Control)
    (plain : ∀ choices ∈ control.choices?, IsPlain choices.list) :
    ∃ found, Mentions (key :: label :: control.pasted) (unlines (control.lines key label)) found ∧
      found.filter isListName =
        (control.choices?.elim [] fun choices => [choices.list]).filter isListName := by
  have inset : Bare (key :: label :: control.pasted) key (blank key) := .blank List.mem_cons_self
  have shown : Bare (key :: label :: control.pasted) label (blank label) :=
    .blank (List.mem_cons_of_mem _ List.mem_cons_self)
  have pasted : control.pasted ⊆ key :: label :: control.pasted :=
    fun _ member => List.mem_cons_of_mem _ (List.mem_cons_of_mem _ member)
  obtain ⟨elements, none, found⟩ := helpers_lines key label control plain
  refine ⟨_, ⟨_, (bareLines_lines inset shown control pasted).unlines, found⟩, ?_⟩
  rw [List.filter_append, none, List.append_nil]
  cases control.choices? with
  | none => rfl
  | some choices =>
    show ([choices.list].filter isHelperName).filter isListName = [choices.list].filter isListName
    rw [List.filter_filter]
    refine List.filter_congr fun name _ => ?_
    cases list : isListName name with
    | false => rfl
    | true => rw [isHelperName, list, Bool.or_true, Bool.and_true]

end Control

end Scaffold
