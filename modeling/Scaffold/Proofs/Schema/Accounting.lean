import Mathlib.Data.List.Infix
import Scaffold.Proofs.Schema.Reading

/-!
# Entries and first declarations

A text has an entry for each stretch between commas that is not blank (`Schema.length_tokens`). Of
the entries with one key the first is taken: `firstByKey` keeps a value unless one before it, kept
or not, has its key. Whoever reads a list from the front needs to remember only the keys of what is
kept, since the first value of every key is kept (`firstByKeyAfter_cons_of_mem`). Fields and
relationships are read that way (`Schema.readAfter`): what is kept is the first of every key
(`Schema.readAfter_fst`), and every token is kept or reported as lost, once
(`Schema.length_readAfter`).
-/
namespace Scaffold

open Text

namespace Text

/-- Nothing is left of a text exactly if it is blank. -/
theorem trim_eq_nil_iff {text : Text} : trim text = [] ↔ isBlankText text = true := by
  rw [isBlankText, List.all_eq_true]
  constructor
  · intro gone
    obtain ⟨front, behind, whole, blank⟩ := exists_margins text
    rw [gone, List.nil_append] at whole
    rw [whole]
    exact blank
  · intro blank
    have shorter := trim_append_left blank []
    rwa [List.append_nil] at shorter

end Text

section

variable {α : Type} (key? : α → Option Text)

/-- No value before has the key of this one, if it has one. -/
def isFirstOfKey (before : List α) (value : α) : Bool :=
  (key? value).all fun key => !(before.filterMap key?).contains key

/-- The values behind others that have no key of one before them. -/
def firstByKeyAfter (before values : List α) : List α :=
  (((values.inits.map (before ++ ·)).zip values).filter fun (earlier, value) =>
    isFirstOfKey key? earlier value).map (·.2)

/-- The values of a list that have no key of one before them. -/
def firstByKey (values : List α) : List α := firstByKeyAfter key? [] values

variable {key?} {before values : List α} {value : α}

/-- Whether the first value is kept depends on those before it, and the others stand behind it. -/
theorem firstByKeyAfter_cons : firstByKeyAfter key? before (value :: values) =
    if isFirstOfKey key? before value then
      value :: firstByKeyAfter key? (before ++ [value]) values
    else firstByKeyAfter key? (before ++ [value]) values := by
  have shift : (values.inits.map (value :: ·)).map (before ++ ·) =
      values.inits.map (before ++ [value] ++ ·) := by
    rw [List.map_map]
    exact List.map_congr_left fun start _ => by simp
  rw [firstByKeyAfter, firstByKeyAfter, List.inits, List.map_cons, List.append_nil, shift,
    List.zip_cons_cons, List.filter_cons]
  cases first : isFirstOfKey key? before value <;> simp [first]

/-- Only the keys of the values before matter. -/
theorem firstByKeyAfter_congr {other : List α}
    (same : ∀ key, key ∈ before.filterMap key? ↔ key ∈ other.filterMap key?) :
    firstByKeyAfter key? before values = firstByKeyAfter key? other values := by
  induction values generalizing before other with
  | nil => rfl
  | cons value rest ih =>
    have decided : isFirstOfKey key? before value = isFirstOfKey key? other value := by
      unfold isFirstOfKey
      cases key? value with
      | none => rfl
      | some key => simp only [Option.all_some, List.contains_eq_mem, same key]
    have later := @ih (before ++ [value]) (other ++ [value]) fun key => by
      rw [List.filterMap_append, List.filterMap_append, List.mem_append, List.mem_append, same key]
    rw [firstByKeyAfter_cons, firstByKeyAfter_cons, decided, later]

/-- A value with the key of one before it is not kept, and forgetting it changes nothing. -/
theorem firstByKeyAfter_cons_of_mem {key : Text} (own : key? value = some key)
    (taken : key ∈ before.filterMap key?) :
    firstByKeyAfter key? before (value :: values) = firstByKeyAfter key? before values := by
  have later : isFirstOfKey key? before value = false := by
    rw [isFirstOfKey, own, Option.all_some, List.contains_eq_mem, decide_eq_true taken]
    rfl
  rw [firstByKeyAfter_cons, later, if_neg Bool.false_ne_true]
  apply firstByKeyAfter_congr
  intro other
  rw [List.filterMap_append, List.mem_append, List.filterMap_cons_some own, List.filterMap_nil,
    List.mem_singleton]
  exact ⟨fun found => found.elim id fun same => same ▸ taken, .inl⟩

/-- A value whose key none before it has is kept. -/
theorem firstByKeyAfter_cons_of_notMem
    (fresh : ∀ key, key? value = some key → key ∉ before.filterMap key?) :
    firstByKeyAfter key? before (value :: values) =
      value :: firstByKeyAfter key? (before ++ [value]) values := by
  have first : isFirstOfKey key? before value = true := by
    rw [isFirstOfKey]
    cases own : key? value with
    | none => rfl
    | some key =>
      rw [Option.all_some, List.contains_eq_mem, decide_eq_false (fresh key own)]
      rfl
  rw [firstByKeyAfter_cons, if_pos first]

end

namespace Schema

/-- How many stretches of a text between commas are not blank. -/
def entryCount (text : Text) : Nat := (splitOn ',' text).countP fun stretch => !isBlankText stretch

/-- There is a token for every entry. -/
theorem length_tokens (text : Text) : (tokens text).length = entryCount text := by
  rw [tokens, ← List.countP_eq_length_filter, List.countP_map, entryCount]
  apply List.countP_congr
  intro stretch _
  have same := @trim_eq_nil_iff stretch
  cases blank : isBlankText stretch <;> simp_all

section

variable {α : Type} (read : Text → Option α × List Diagnostic) (key? : α → Option Text)
  (duplicate : α → Diagnostic)

/-- What tokens declare, behind what is known already. A key is taken once. -/
def readAfter (known : List α) : List Text → List α × List Diagnostic
  | [] => (known, [])
  | token :: rest =>
    match read token with
    | (none, notes) =>
      let (all, more) := readAfter known rest
      (all, notes ++ more)
    | (some value, notes) =>
      if (key? value).any (known.filterMap key?).contains then
        let (all, more) := readAfter known rest
        (all, notes ++ duplicate value :: more)
      else
        let (all, more) := readAfter (known ++ [value]) rest
        (all, notes ++ more)

variable {read key? duplicate} {known : List α} {all : List Text}

/-- Of what the tokens declare one by one the first of every key is kept. -/
theorem readAfter_fst : (readAfter read key? duplicate known all).1 =
    known ++ firstByKeyAfter key? known (all.filterMap fun token => (read token).1) := by
  induction all generalizing known with
  | nil => simp [readAfter, firstByKeyAfter]
  | cons token rest ih =>
    rw [List.filterMap_cons]
    unfold readAfter
    split
    · rename_i notes found
      simp only [found]
      exact ih
    · rename_i value notes found
      simp only [found]
      split
      · rename_i taken
        obtain ⟨key, own, earlier⟩ := (Option.any_eq_true _ _).mp taken
        rw [firstByKeyAfter_cons_of_mem own (List.contains_iff_mem.mp earlier)]
        exact ih
      · rename_i fresh
        rw [firstByKeyAfter_cons_of_notMem fun key own earlier => fresh
          ((Option.any_eq_true _ _).mpr ⟨key, own, List.contains_iff_mem.mpr earlier⟩)]
        rw [ih, List.append_assoc, List.singleton_append]

/-- Every token is kept or reported as lost, if a token by itself is and a second value of a key is
reported so. -/
theorem length_readAfter {lost : Diagnostic → Bool}
    (once : ∀ token, (read token).1.toList.length + (read token).2.countP lost = 1)
    (told : ∀ value, lost (duplicate value) = true) : known.length + all.length =
      (readAfter read key? duplicate known all).1.length +
        (readAfter read key? duplicate known all).2.countP lost := by
  induction all generalizing known with
  | nil => rfl
  | cons token rest ih =>
    have own := once token
    unfold readAfter
    split
    · rename_i notes found
      have later := @ih known
      simp only [found, Option.toList_none, List.length_nil] at own
      simp only [List.length_cons, List.countP_append]
      omega
    · rename_i value notes found
      simp only [found, Option.toList_some, List.length_singleton] at own
      split
      · have later := @ih known
        simp only [List.length_cons, List.countP_append, List.countP_cons_of_pos (told value)]
        omega
      · have later := @ih (known ++ [value])
        rw [List.length_append, List.length_singleton] at later
        simp only [List.length_cons, List.countP_append]
        omega

end

/-- Of two tests that no value passes both, as many values pass either as pass one and the other. -/
theorem countP_or {α : Type} {one other : α → Bool}
    (apart : ∀ value, one value = true → other value = false) (values : List α) :
    values.countP (fun value => one value || other value) =
      values.countP one + values.countP other := by
  induction values with
  | nil => rfl
  | cons value rest ih =>
    rw [List.countP_cons, List.countP_cons, List.countP_cons, ih]
    cases first : one value with
    | false =>
      cases other value <;> simp
      omega
    | true =>
      rw [apart value first]
      simp
      omega

end Schema

end Scaffold
