import Scaffold.Proofs.Registry.Insertion
import Scaffold.Registry.Wiring

/-!
# Entries stay registered

A shared file goes through steps: entries are added, whatever they are and however that ends, and
the file is saved and read again. What lasts is left by every step (`lasting_next`) and so by every
run of steps (`lasting_run`); that an entry is recognised lasts (`contains_run`). An insertion that
was answered by success leaves its entry recognised (`contains_of_insert`), and so it stays
(`registered_for_good`).
-/
namespace Scaffold.SharedFile

/-- What happens to a shared file. -/
inductive Step where
  /-- An entry is added. -/
  | add (registration : Registration)
  /-- The file is saved and read again. -/
  | reload
deriving DecidableEq, Repr

/-- The file after a step. An insertion that fails leaves it as it was. -/
def next (file : SharedFile) : Step → SharedFile
  | .add registration =>
    match file.insert registration with
    | .ok (_, changed) => changed
    | .error _ => file
  | .reload => file.reload

/-- The file after a run of steps. -/
def run (file : SharedFile) (steps : List Step) : SharedFile := steps.foldl next file

/-- The file after an insertion that was answered. -/
theorem next_add {file changed : SharedFile} {registration : Registration} {answer : Insertion}
    (done : file.insert registration = .ok (answer, changed)) :
    file.next (.add registration) = changed := by
  simp [next, done]

variable {holds : Text → Prop} {file changed : SharedFile} {registration : Registration}
  {answer : Insertion}

/-- An insertion leaves what lasts. -/
theorem lasting_insert (lasting : Text.Lasting holds)
    (done : file.insert registration = .ok (answer, changed)) (here : holds file.joined) :
    holds changed.joined := by
  rcases insert_cases done with ⟨-, rfl, -⟩ | ⟨-, rfl, -⟩ | ⟨-, -, _, -, rfl⟩ | ⟨-, -, -, _, -, rfl⟩
  · exact here
  · exact here
  · exact lasting_insertLines lasting here _ _
  · exact lasting_insertLines lasting here _ _

/-- So does every step. -/
theorem lasting_next (lasting : Text.Lasting holds) (here : holds file.joined) (step : Step) :
    holds (file.next step).joined := by
  cases step with
  | reload => exact lasting_reload lasting here
  | add registration =>
    cases done : file.insert registration with
    | error fault => simpa [next, done] using here
    | ok result =>
      rw [next_add done]
      exact lasting_insert lasting done here

/-- So does every run. -/
theorem lasting_run (lasting : Text.Lasting holds) (steps : List Step) (here : holds file.joined) :
    holds (file.run steps).joined := by
  induction steps generalizing file with
  | nil => exact here
  | cons step rest ih => exact ih (lasting_next lasting here step)

/-- An insertion leaves what is recognised recognised. -/
theorem contains_insert (done : file.insert registration = .ok (answer, changed)) {entry : Entry}
    (line : Text.IsOneLine entry.presence.text) (present : file.contains entry = true) :
    changed.contains entry = true :=
  lasting_insert (lasting_recognises line) done present

/-- No run loses an entry that is recognised. -/
theorem contains_run {entry : Entry} (line : Text.IsOneLine entry.presence.text)
    (steps : List Step) (present : file.contains entry = true) :
    (file.run steps).contains entry = true :=
  lasting_run (lasting_recognises line) steps present

/-- The lines of an entry that was put in are in the file, behind a margin. -/
theorem exists_linesAt {file changed : SharedFile} {registration : Registration}
    (done : file.insert registration = .ok (.inserted, changed)) :
    ∃ margin, (∀ c ∈ margin, Text.isBlank c = true) ∧
      ∀ line ∈ registration.entry.linesAt margin, line ∈ changed.lines := by
  rcases insert_cases done with ⟨other, -⟩ | ⟨other, -⟩ | ⟨-, -, region, found, rfl⟩ |
    ⟨-, -, -, site, found, rfl⟩
  · exact absurd other (by simp)
  · exact absurd other (by simp)
  · refine ⟨region.margin, isBlank_of_mem_region found, fun line member => ?_⟩
    simp [insertLines, member]
  · refine ⟨site.margin, isBlank_of_mem_site found, fun line member => ?_⟩
    simp [insertLines, newRegion, member]

/-- An evident entry is recognised once its insertion was answered by success. -/
theorem contains_of_insert {file changed : SharedFile} {registration : Registration}
    {answer : Insertion} (done : file.insert registration = .ok (answer, changed))
    (success : answer ≠ .anchorNotFound) (evident : registration.entry.Evident) :
    changed.contains registration.entry = true := by
  cases answer with
  | alreadyPresent =>
    rcases insert_cases done with ⟨-, rfl, present⟩ | ⟨other, -⟩ | ⟨other, -⟩ | ⟨other, -⟩
    · exact present
    all_goals exact absurd other (by simp)
  | anchorNotFound => exact absurd rfl success
  | inserted =>
    obtain ⟨margin, blank, placed⟩ := exists_linesAt done
    exact evident blank placed

/-- **Once registered, always registered.** After any run of steps from any content, an insertion
that is answered by success makes the entry stay: whatever follows, inserting the entry again, in
any region and at any anchor, finds it and leaves the file as it is. -/
theorem registered_for_good (content : Text) (earlier later : List Step)
    (registration again : Registration) (proper : registration.entry.Proper)
    (same : again.entry = registration.entry) (answer : Insertion) (changed : SharedFile)
    (done : ((ofText content).run earlier).insert registration = .ok (answer, changed))
    (success : answer = .inserted ∨ answer = .alreadyPresent) :
    let reached := (ofText content).run (earlier ++ .add registration :: later)
    reached.insert again = .ok (.alreadyPresent, reached) := by
  intro reached
  have answered : answer ≠ .anchorNotFound := by
    rcases success with rfl | rfl <;> decide
  have placed : changed.contains registration.entry = true :=
    contains_of_insert done answered proper.evident
  have split : reached = changed.run later := by
    simp only [reached, run, List.foldl_append, List.foldl_cons]
    rw [run] at done
    rw [next_add done]
  have kept : reached.contains registration.entry = true := by
    rw [split]
    exact contains_run proper.presenceLine later placed
  exact insert_of_contains (by rw [same]; exact kept)

/-- A route that went into an empty region is found after the file was saved and read again. -/
theorem registered_for_good_route :
    let route : Registration :=
      { file := "routes/web.php", region := "routes", anchor := .routes
        entry := { key := "tickets", lines := ["Route;"], presence := .occurs "resource('tickets'" } }
    let reached := (ofText "// modforge:begin routes\x0d\n// modforge:end routes").run
      ([.reload] ++ .add route :: [.reload, .add route])
    reached.insert route = .ok (.alreadyPresent, reached) := by
  intro route reached
  have proper : route.entry.Proper := by
    refine ⟨by decide, ?_, by constructor <;> decide, by constructor <;> decide⟩
    intro c last
    have ending : route.entry.key.getLast? = some 's' := by decide
    rw [ending, Option.some.injEq] at last
    rw [← last]
    decide
  have done : ((ofText "// modforge:begin routes\x0d\n// modforge:end routes").run [.reload]).insert
      route = .ok (.inserted, { lines := ["// modforge:begin routes", "// modforge:entry tickets",
        "Route;", "// modforge:end routes"], ended := false }) := by
    unfold route
    simp (disch := exact rfl) only [Text.toList_literal, -String.reduceToList]
    decide +kernel
  exact registered_for_good _ [.reload] [.reload, .add route] route route proper rfl .inserted _
    done (.inl rfl)

end Scaffold.SharedFile
