import Scaffold.Text.Order

/-!
# The least of several texts

The order of texts is a strict total order, so the least of several texts depends on which they are
and not on how they are listed (`least_congr`).
-/
namespace Scaffold.Text

/-- No text comes before itself. -/
theorem precedes_self (text : Text) : precedes text text = false := by
  induction text with
  | nil => rfl
  | cons c rest ih => simp [precedes, ih]

/-- Of two texts one comes first, unless they are the same. -/
theorem precedes_or {first second : Text} (different : first ≠ second) :
    precedes first second = true ∨ precedes second first = true := by
  induction first generalizing second with
  | nil =>
    cases second with
    | nil => exact absurd rfl different
    | cons d rest => exact .inl rfl
  | cons c first ih =>
    cases second with
    | nil => exact .inr rfl
    | cons d second =>
      by_cases same : c = d
      · subst same
        have later := @ih second fun equal => different (by rw [equal])
        simpa [precedes] using later
      · have codes : c.toNat ≠ d.toNat := fun equal => same (Char.toNat_inj.mp equal)
        simp only [precedes, same, Ne.symm same, ↓reduceIte, decide_eq_true_eq]
        omega

/-- What comes before a text comes before all that this one comes before. -/
theorem precedes_trans {first second third : Text} (before : precedes first second = true)
    (behind : precedes second third = true) : precedes first third = true := by
  induction first generalizing second third with
  | nil =>
    cases second with
    | nil => simp [precedes] at before
    | cons d second =>
      cases third with
      | nil => simp [precedes] at behind
      | cons e third => rfl
  | cons c first ih =>
    cases second with
    | nil => simp [precedes] at before
    | cons d second =>
      cases third with
      | nil => simp [precedes] at behind
      | cons e third =>
        by_cases left : c = d
        · subst left
          by_cases right : c = e
          · subst right
            simp only [precedes, ↓reduceIte] at before behind ⊢
            exact ih before behind
          · simpa [precedes, right] using behind
        · by_cases right : d = e
          · subst right
            simpa [precedes, left] using before
          · simp only [precedes, left, right, ↓reduceIte, decide_eq_true_eq] at before behind
            have apart : c ≠ e := by
              rintro rfl
              omega
            simp only [precedes, apart, ↓reduceIte, decide_eq_true_eq]
            omega

/-- The least of several texts. -/
def least? : List Text → Option Text
  | [] => none
  | text :: rest =>
    match least? rest with
    | none => some text
    | some other => some (if precedes other text then other else text)

/-- There is no least of no texts only. -/
theorem least?_eq_none {texts : List Text} : least? texts = none ↔ texts = [] := by
  cases texts with
  | nil => simp [least?]
  | cons text rest =>
    rw [least?]
    cases least? rest <;> simp

/-- The least is one of the texts, and none of them comes before it. -/
theorem least?_spec {texts : List Text} {least : Text} (found : least? texts = some least) :
    least ∈ texts ∧ ∀ text ∈ texts, precedes text least = false := by
  induction texts generalizing least with
  | nil => simp [least?] at found
  | cons text rest ih =>
    rw [least?] at found
    cases later : least? rest with
    | none =>
      obtain rfl : text = least := by simpa [later] using found
      obtain rfl := least?_eq_none.mp later
      exact ⟨List.mem_cons_self, by simp [precedes_self]⟩
    | some other =>
      obtain ⟨member, first⟩ := ih later
      rw [later] at found
      simp only [Option.some.injEq] at found
      split at found
      · rename_i before
        obtain rfl := found
        refine ⟨List.mem_cons_of_mem text member, fun third inside => ?_⟩
        rcases List.mem_cons.mp inside with rfl | inside
        · rw [Bool.eq_false_iff]
          intro back
          have self := precedes_trans before back
          rw [precedes_self] at self
          exact absurd self (by simp)
        · exact first third inside
      · rename_i before
        obtain rfl := found
        refine ⟨List.mem_cons_self, fun third inside => ?_⟩
        rcases List.mem_cons.mp inside with rfl | inside
        · exact precedes_self third
        · rw [Bool.eq_false_iff]
          intro back
          by_cases same : other = third
          · subst same
            exact before back
          · rcases precedes_or same with low | high
            · exact before (precedes_trans low back)
            · rw [first third inside] at high
              exact absurd high (by simp)

/-- The least of several texts depends only on which they are. -/
theorem least_congr {texts others : List Text} (same : ∀ text, text ∈ texts ↔ text ∈ others) :
    least? texts = least? others := by
  cases found : least? texts with
  | none =>
    obtain rfl := least?_eq_none.mp found
    have empty : others = [] := by
      rw [List.eq_nil_iff_forall_not_mem]
      exact fun text inside => absurd ((same text).mpr inside) (by simp)
    rw [empty]
    rfl
  | some least =>
    obtain ⟨member, first⟩ := least?_spec found
    cases again : least? others with
    | none =>
      rw [least?_eq_none.mp again] at same
      exact absurd ((same least).mp member) (by simp)
    | some other =>
      obtain ⟨otherMember, otherFirst⟩ := least?_spec again
      by_cases equal : least = other
      · rw [equal]
      · rcases precedes_or equal with low | high
        · rw [otherFirst least ((same least).mp member)] at low
          exact absurd low (by simp)
        · rw [first other ((same other).mpr otherMember)] at high
          exact absurd high (by simp)

end Scaffold.Text
