import Mathlib.Data.List.Forall2
import Scaffold.Proofs.Project.Preservation

/-!
# The report accounts for every entry

Entries are grouped by their files before they are added, and every file answers for its own group
(`answers_addAllEntries`). Because no two groups share a file, no entry is answered for twice, and
because every file of an entry has a group, none is left out (`entries_accounted`). An accessor
whose model has no file is answered for before all others.
-/
namespace Scaffold

/-- Lists that correspond in order within every kind correspond as wholes, once the second is
sorted as the first without changing the order within a kind. -/
theorem exists_forall₂_of_filter {α β κ : Type} [BEq κ] [LawfulBEq κ] {kind : α → κ} {kindOf : β → κ}
    {Relates : α → β → Prop} {items : List α} {others : List β}
    (each : ∀ key, List.Forall₂ Relates (items.filter fun item => kind item == key)
      (others.filter fun other => kindOf other == key)) :
    ∃ sorted, List.Forall₂ Relates items sorted ∧ sorted.Perm others ∧
      ∀ key, (sorted.filter fun other => kindOf other == key) =
        others.filter fun other => kindOf other == key := by
  induction items generalizing others with
  | nil =>
    have none : others = [] := by
      refine List.eq_nil_iff_forall_not_mem.mpr fun other member => ?_
      have empty := List.forall₂_nil_left_iff.mp (each (kindOf other))
      have kept : other ∈ others.filter fun second => kindOf second == kindOf other :=
        List.mem_filter.mpr ⟨member, by simp⟩
      rw [empty] at kept
      exact absurd kept List.not_mem_nil
    exact ⟨[], .nil, by rw [none], fun key => by rw [none]⟩
  | cons item rest ih =>
    -- The first other of the kind of the first item belongs to it and is taken out.
    have head := each (kind item)
    rw [List.filter_cons_of_pos (by simp)] at head
    obtain ⟨other, own, related, later, split⟩ := List.forall₂_cons_left_iff.mp head
    obtain ⟨before, behind, rfl, apart, alike, rfl⟩ := List.filter_eq_cons_iff.mp split
    have same : kindOf other = kind item := by simpa using alike
    have none : (before.filter fun other => kindOf other == kind item) = [] :=
      List.filter_eq_nil_iff.mpr apart
    have without : ∀ key, List.Forall₂ Relates (rest.filter fun item => kind item == key)
        ((before ++ behind).filter fun other => kindOf other == key) := by
      intro key
      by_cases here : key = kind item
      · subst here
        rw [List.filter_append, none, List.nil_append]
        exact later
      · have whole := each key
        rw [List.filter_cons_of_neg (by simpa using Ne.symm here), List.filter_append,
          List.filter_cons_of_neg (by simpa [same] using Ne.symm here)] at whole
        rwa [List.filter_append]
    obtain ⟨sorted, pairs, perm, kept⟩ := ih without
    refine ⟨other :: sorted, .cons related pairs, (perm.cons other).trans List.perm_middle.symm,
      fun key => ?_⟩
    by_cases here : key = kind item
    · subst here
      rw [List.filter_cons_of_pos (by simpa using same), kept, List.filter_append,
        List.filter_append, none, List.filter_cons_of_pos (by simpa using same)]
      rfl
    · have other : ¬ kindOf other = key := by
        rw [same]
        exact Ne.symm here
      rw [List.filter_cons_of_neg (by simpa using other), kept, List.filter_append,
        List.filter_append, List.filter_cons_of_neg (by simpa using other)]

/-- What corresponds to things made of the values of a partial function corresponds to where the
function has a value. -/
theorem forall₂_filterMap {α β γ δ : Type} {f : α → Option β} {make : α → β → γ}
    {Relates : γ → δ → Prop} {items : List α} {others : List δ}
    (pairs : List.Forall₂ Relates
      (items.filterMap fun item => (f item).map (make item)) others) :
    List.Forall₂ (fun item other => ∃ value, f item = some value ∧ Relates (make item value) other)
      (items.filter fun item => (f item).isSome) others := by
  induction items generalizing others with
  | nil => simpa using pairs
  | cons item rest ih =>
    cases found : f item with
    | none =>
      rw [List.filterMap_cons_none (by rw [found]; rfl)] at pairs
      rw [List.filter_cons_of_neg (by simp [found])]
      exact ih pairs
    | some value =>
      rw [List.filterMap_cons_some (by rw [found]; rfl)] at pairs
      rw [List.filter_cons_of_pos (by simp [found])]
      cases pairs with
      | cons own later => exact .cons ⟨value, found, own⟩ (ih later)

/-- What corresponds to two lists one behind the other falls into two parts. -/
theorem exists_forall₂_append {α β : Type} {Relates : α → β → Prop} {items more : List α}
    {others : List β} (pairs : List.Forall₂ Relates (items ++ more) others) :
    ∃ first second, others = first ++ second ∧ List.Forall₂ Relates items first ∧
      List.Forall₂ Relates more second := by
  induction items generalizing others with
  | nil => exact ⟨[], others, rfl, .nil, pairs⟩
  | cons item rest ih =>
    cases pairs with
    | cons own later =>
      obtain ⟨first, second, rfl, before, behind⟩ := ih later
      exact ⟨_ :: first, second, rfl, .cons own before, behind⟩

/-- What corresponds under equal values has the same values. -/
theorem map_eq_of_forall₂ {α β γ : Type} {f : α → γ} {g : β → γ} {items : List α} {others : List β}
    (pairs : List.Forall₂ (fun item other => g other = f item) items others) :
    others.map g = items.map f := by
  induction pairs with
  | nil => rfl
  | cons own _ ih => rw [List.map_cons, List.map_cons, own, ih]

namespace Registration

/-- A report answers for an entry: with its key, and about its file, however the path is written. -/
def AnsweredBy (registration : Registration) (report : EntryReport) : Prop :=
  report.key = registration.entry.key ∧ FilePath.same registration.file report.file = true

end Registration

namespace Project

variable {project : Project} {tree changed : Tree} {plan : Plan}
  {registrations : List Registration} {reports : List EntryReport}

/-- The answers about a file are those for its entries in their order. -/
theorem answers_addEntries {file : FilePath}
    (about : ∀ registration ∈ registrations, FilePath.same registration.file file = true)
    (done : project.addEntries tree file registrations = (changed, .ok reports)) :
    List.Forall₂ Registration.AnsweredBy registrations reports := by
  have same := map_addEntries done
  clear done
  induction registrations generalizing reports with
  | nil =>
    obtain rfl : reports = [] := by simpa using same
    exact .nil
  | cons registration rest ih =>
    cases reports with
    | nil => simp at same
    | cons report later =>
      simp only [List.map_cons, List.cons.injEq, Prod.mk.injEq] at same
      obtain ⟨⟨ofFile, ofKey⟩, further⟩ := same
      refine .cons ⟨ofKey, ?_⟩ (ih (fun other member => about other (List.mem_cons_of_mem _ member))
        further)
      rw [ofFile]
      exact about registration List.mem_cons_self

/-- **Every file answers for its own entries.** Of files with distinct paths each reports about the
entries for it in their order. -/
theorem answers_addAllEntries {files : List FilePath}
    (distinct : files.Pairwise fun file other => FilePath.same file other = false)
    (done : project.addAllEntries registrations tree files = (changed, .ok reports))
    {file : FilePath} (member : file ∈ files) :
    List.Forall₂ Registration.AnsweredBy
      (registrations.filter fun registration => FilePath.same registration.file file)
      (reports.filter fun report => FilePath.same report.file file) := by
  induction files generalizing tree reports with
  | nil => simp at member
  | cons head rest ih =>
    obtain ⟨middle, first, later, here, others, rfl⟩ := addAllEntries_cons_ok.mp done
    obtain ⟨apart, distinctRest⟩ := List.pairwise_cons.mp distinct
    have ofHead : ∀ report ∈ first, report.file = head := by
      intro report inside
      have pair : (report.file, report.key) ∈ first.map fun report => (report.file, report.key) :=
        List.mem_map.mpr ⟨report, inside, rfl⟩
      rw [map_addEntries here] at pair
      obtain ⟨_, -, same⟩ := List.mem_map.mp pair
      exact (congrArg Prod.fst same).symm
    rcases List.mem_cons.mp member with rfl | further
    · -- All answers of the first file are about it, and no later one is.
      have own : (first.filter fun report => FilePath.same report.file file) = first :=
        List.filter_eq_self.mpr fun report inside => by simp [ofHead report inside, FilePath.same]
      have none : (later.filter fun report => FilePath.same report.file file) = [] := by
        refine List.filter_eq_nil_iff.mpr fun report inside same => ?_
        have other := apart report.file (file_of_mem_reports others inside)
        simp only [FilePath.same, beq_iff_eq, beq_eq_false_iff_ne] at same other
        exact other same.symm
      rw [List.filter_append, own, none, List.append_nil]
      exact answers_addEntries (fun registration inside => (List.mem_filter.mp inside).2) here
    · have none : (first.filter fun report => FilePath.same report.file file) = [] := by
        refine List.filter_eq_nil_iff.mpr fun report inside => ?_
        rw [ofHead report inside, apart file further]
        simp
      rw [List.filter_append, none, List.nil_append]
      exact ih distinctRest others further

/-- The files of entries answer for all of them, and for nothing else, each in the order of its
entries. -/
theorem exists_answers
    (done : project.addAllEntries registrations tree
      (distinctFiles (registrations.map (·.file))) = (changed, .ok reports)) :
    ∃ answers, List.Forall₂ Registration.AnsweredBy registrations answers ∧
      answers.Perm reports ∧ ∀ file, (answers.filter fun report => FilePath.same report.file file) =
        reports.filter fun report => FilePath.same report.file file := by
  have each : ∀ key, List.Forall₂ Registration.AnsweredBy
      (registrations.filter fun registration => FilePath.components registration.file == key)
      (reports.filter fun report => FilePath.components report.file == key) := by
    intro key
    by_cases listed : ∃ file ∈ distinctFiles (registrations.map (·.file)),
        FilePath.components file = key
    · obtain ⟨file, member, rfl⟩ := listed
      exact answers_addAllEntries (pairwise_distinctFiles _) done member
    · -- A file without entries has no answers either.
      have unasked : (registrations.filter fun registration =>
          FilePath.components registration.file == key) = [] := by
        refine List.filter_eq_nil_iff.mpr fun registration member same => listed ?_
        obtain ⟨file, kept, alike⟩ :=
          exists_distinctFiles (List.mem_map_of_mem (f := Registration.file) member)
        exact ⟨file, kept, (beq_iff_eq.mp alike).symm.trans (beq_iff_eq.mp same)⟩
      have unanswered : (reports.filter fun report =>
          FilePath.components report.file == key) = [] :=
        List.filter_eq_nil_iff.mpr fun report member same =>
          listed ⟨report.file, file_of_mem_reports done member, beq_iff_eq.mp same⟩
      rw [unasked, unanswered]
      exact .nil
  obtain ⟨answers, pairs, perm, kept⟩ := exists_forall₂_of_filter each
  exact ⟨answers, pairs, perm, fun file => kept (FilePath.components file)⟩

/-- A report as an account of the entries of a plan, read as three lists of answers. The files of
the models are looked for in a tree. -/
structure Answered (project : Project) (tree : Tree) (plan : Plan) (report : Report)
    (shared found lost : List EntryReport) : Prop where
  /-- Every entry of a shared file has its answer. -/
  registered : List.Forall₂ Registration.AnsweredBy (plan.sharedEntries project.layout) shared
  /-- Every accessor whose model has a file has an answer about this file. -/
  present : List.Forall₂
    (fun accessor answer => ∃ file, project.accessorFile? tree plan accessor = some file ∧
      (accessor.registration file).AnsweredBy answer)
    (plan.accessors.filter fun accessor => (project.accessorFile? tree plan accessor).isSome) found
  /-- Every other accessor has an answer about a file where its model was looked for. -/
  missing : List.Forall₂
    (fun accessor answer => answer.key = accessor.entry.key ∧
      answer.file ∈ plan.modelCandidates project.layout accessor.target ∧
      answer.result = .fileNotFound)
    (plan.accessors.filter fun accessor => (project.accessorFile? tree plan accessor).isNone) lost
  /-- The answers are all that is reported, and each is reported once. -/
  once : (report.splices ++ report.warnings).Perm (shared ++ found ++ lost)
  /-- The keys are those of all entries and accessors, as often as they have them. -/
  keys : ((report.splices ++ report.warnings).map (·.key)).Perm
    ((plan.sharedEntries project.layout).map (·.entry.key) ++ plan.accessors.map (·.entry.key))
  /-- About a file the placed entries are reported in their order. -/
  splicesOf : ∀ file, (report.splices.filter fun answer => FilePath.same answer.file file) =
    ((shared ++ found).filter (·.isPlaced)).filter fun answer => FilePath.same answer.file file
  /-- About a file the accessors without a file are reported first, and then the entries that found
  no place, in their order. -/
  warningsOf : ∀ file, (report.warnings.filter fun answer => FilePath.same answer.file file) =
    ((lost ++ (shared ++ found)).filter (!·.isPlaced)).filter fun answer =>
      FilePath.same answer.file file

/-- The warnings about accessors are about those whose models have no file. -/
theorem forall₂_accessorWarnings (project : Project) (tree : Tree) (plan : Plan) : List.Forall₂
    (fun accessor answer => answer.key = accessor.entry.key ∧
      answer.file ∈ plan.modelCandidates project.layout accessor.target ∧
      answer.result = .fileNotFound)
    (plan.accessors.filter fun accessor => (project.accessorFile? tree plan accessor).isNone)
    (project.accessorWarnings tree plan) :=
  List.forall₂_map_right_iff.mpr <| List.forall₂_same.mpr fun accessor _ =>
    ⟨rfl, plan.modelFile_mem_modelCandidates project.layout accessor.target, rfl⟩

/-- No accessor without a file is placed. -/
theorem isPlaced_accessorWarnings (project : Project) (tree : Tree) (plan : Plan) :
    ∀ answer ∈ project.accessorWarnings tree plan, answer.isPlaced = false := by
  intro answer member
  obtain ⟨accessor, -, rfl⟩ := List.mem_map.mp member
  rfl

/-- The keys of the answers are those of the entries and of the accessors. -/
theorem keys_of_answers {shared found lost : List EntryReport}
    (registered : List.Forall₂ Registration.AnsweredBy (plan.sharedEntries project.layout) shared)
    (present : List.Forall₂
      (fun accessor answer => ∃ file, project.accessorFile? tree plan accessor = some file ∧
        (accessor.registration file).AnsweredBy answer)
      (plan.accessors.filter fun accessor => (project.accessorFile? tree plan accessor).isSome)
      found)
    (missing : List.Forall₂
      (fun accessor answer => answer.key = accessor.entry.key ∧
        answer.file ∈ plan.modelCandidates project.layout accessor.target ∧
        answer.result = .fileNotFound)
      (plan.accessors.filter fun accessor => (project.accessorFile? tree plan accessor).isNone)
      lost) :
    ((shared ++ found ++ lost).map (·.key)).Perm
      ((plan.sharedEntries project.layout).map (·.entry.key) ++
        plan.accessors.map (·.entry.key)) := by
  have first : shared.map (·.key) = (plan.sharedEntries project.layout).map (·.entry.key) :=
    map_eq_of_forall₂ (registered.imp fun _ _ own => own.1)
  have second := map_eq_of_forall₂ (f := fun accessor : ReverseAccessor => accessor.entry.key)
    (g := fun answer : EntryReport => answer.key)
    (present.imp fun _ _ own => by obtain ⟨_, -, same, -⟩ := own; exact same)
  have third := map_eq_of_forall₂ (f := fun accessor : ReverseAccessor => accessor.entry.key)
    (g := fun answer : EntryReport => answer.key) (missing.imp fun _ _ own => own.1)
  rw [List.map_append, List.map_append, first, second, third, List.append_assoc, ← List.map_append]
  refine List.Perm.append_left _ (List.Perm.map _ ?_)
  simpa using List.filter_append_perm
    (fun accessor => (project.accessorFile? tree plan accessor).isSome) plan.accessors

/-- **The report accounts for every entry exactly once.** Whatever the layout and the tree, and also
in a rehearsal: every entry of a shared file and every accessor has one answer among the placed
entries and the warnings, with its key and the file that it was looked for in. -/
theorem entries_accounted {moment : Moment} {output : Output} {report : Report}
    (done : project.install moment plan output tree = (changed, .ok report)) :
    ∃ middle shared found lost,
      project.writeArtifacts moment tree output.files = (middle, .ok report.written) ∧
      project.Answered middle plan report shared found lost := by
  obtain ⟨middle, written, reports, wrote, added, rfl⟩ := install_ok.mp done
  obtain ⟨answers, pairs, perm, kept⟩ := exists_answers added
  obtain ⟨shared, found, rfl, registered, accessed⟩ := exists_forall₂_append pairs
  have present := forall₂_filterMap accessed
  have missing := forall₂_accessorWarnings project middle plan
  have unplaced := isPlaced_accessorWarnings project middle plan
  have once : (((project.accessorWarnings middle plan ++ reports).filter (·.isPlaced)) ++
      ((project.accessorWarnings middle plan ++ reports).filter (!·.isPlaced))).Perm
      (shared ++ found ++ project.accessorWarnings middle plan) :=
    (List.filter_append_perm _ _).trans
      (List.perm_append_comm.trans (perm.symm.append_right _))
  refine ⟨middle, shared, found, _, wrote,
    { registered, present, missing, once
      keys := (once.map _).trans (keys_of_answers registered present missing)
      splicesOf := fun file => ?_
      warningsOf := fun file => ?_ }⟩
  · have none : (project.accessorWarnings middle plan).filter (·.isPlaced) = [] :=
      List.filter_eq_nil_iff.mpr fun answer member => by simp [unplaced answer member]
    show ((project.accessorWarnings middle plan ++ reports).filter (·.isPlaced)).filter _ = _
    rw [List.filter_append, none, List.nil_append, List.filter_comm, ← kept file, List.filter_comm]
  · show ((project.accessorWarnings middle plan ++ reports).filter (!·.isPlaced)).filter _ = _
    rw [List.filter_comm, List.filter_append, ← kept file, ← List.filter_append, List.filter_comm]

/-- Lemmata that belong to a schema and to a proof. -/
def lemmata : Plan :=
  Plan.ofOptions
    { displayName := "Lemma", relationships := "schema:belongsTo:Schema,proof:belongsTo:Proof" }

/-- A tree with the file of the model of a schema only. -/
def schemaOnly : Tree :=
  ⟨[([("app" : Text)], .directory), (["app", "Models"], .directory),
    (["app", "Models", "Schema.php"], .file (.text "class Schema\n\x7b\n\x7d\n"))]⟩

/-- The accessor for lemmata is placed on the schema, and everything else is a warning. -/
theorem entries_accounted_lemmata :
    ∃ changed report middle shared found lost,
      standardProject.install ⟨2026, 1, 1, 0, 0, 0⟩ lemmata ⟨[], []⟩ schemaOnly =
        (changed, .ok report) ∧
      report.splices.map (·.file) = [("app/Models/Schema.php" : Text)] ∧
      report.warnings.length = 6 ∧
      standardProject.Answered middle lemmata report shared found lost := by
  have runs : (standardProject.install ⟨2026, 1, 1, 0, 0, 0⟩ lemmata ⟨[], []⟩ schemaOnly).2.map
      (fun report => (report.splices.map (·.file), report.warnings.length)) =
      .ok ([("app/Models/Schema.php" : Text)], 6) := by
    unfold standardProject lemmata schemaOnly
    simp (disch := exact rfl) only [Text.toList_literal, -String.reduceToList]
    decide +kernel
  generalize done : standardProject.install ⟨2026, 1, 1, 0, 0, 0⟩ lemmata ⟨[], []⟩ schemaOnly =
    result at runs ⊢
  obtain ⟨changed, failure | report⟩ := result
  · simp [Except.map] at runs
  · obtain ⟨middle, shared, found, lost, -, answered⟩ := entries_accounted done
    obtain ⟨placed, left⟩ : report.splices.map (·.file) = [("app/Models/Schema.php" : Text)] ∧
        report.warnings.length = 6 := by
      simpa [Except.map] using runs
    exact ⟨changed, report, middle, shared, found, lost, rfl, placed, left, answered⟩

/-- Where the routes are looked for in the file of a model that is not there, the accessor is
reported before the route, though its entry comes after it. -/
theorem accessor_before_route :
    let project : Project :=
      { standardProject with layout := { Layout.standard with routes := "app/Models/Schema.php" } }
    ((lemmata.sharedEntries project.layout ++ lemmata.accessors.map fun accessor =>
      accessor.registration (FilePath.join project.layout.models (Plan.modelFile accessor.target)))
        |>.filter fun registration =>
          FilePath.same registration.file "app/Models/Schema.php").map (·.entry.key) =
      [("lemmata" : Text), "Lemma.lemmata"] ∧
    (project.install ⟨2026, 1, 1, 0, 0, 0⟩ lemmata ⟨[], []⟩ ⟨[]⟩).2.map (fun report =>
      (report.warnings.filter fun answer =>
        FilePath.same answer.file "app/Models/Schema.php").map (·.key)) =
      .ok [("Lemma.lemmata" : Text), "lemmata"] := by
  unfold standardProject lemmata Layout.standard
  simp (disch := exact rfl) only [Text.toList_literal, -String.reduceToList]
  decide +kernel

end Project

end Scaffold
