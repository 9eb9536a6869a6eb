import Scaffold.Proofs.Template.Vocabulary
import Scaffold.Stub

/-!
# Tidy stubs

Every stub is tidy (`Stub.tidy`): its own text holds no percent sign, each pair of delimiters names a
token, and the search conditions, which alone may bring percent signs, stand alone on their line.
The lines are literals, so they are read as the lists of their characters.
-/
namespace Scaffold.Stub

open Template

/-- The tokens whose values may hold percent signs. -/
def isLoose (placeholder : Placeholder) : Bool := placeholder == .searchQuery

/-- A line, without its end, is read as tidy pieces. -/
def isTidyLine (line : Text) : Bool := (pieces (line ++ ['\n'])).all (Piece.isTidy isLoose)

/-- A line is tidy as it is evaluated: only a line with a percent sign is read. -/
def passesTidy (line : Text) : Bool :=
  !line.contains '%' ||
    ((Text.linesWithEndings (line ++ ['\n'])).flatMap (linePiecesIn spelled?)).all
      (Piece.isTidy isLoose)

/-- The evaluation is right. -/
theorem isTidyLine_of_passes {line : Text} (passes : passesTidy line = true) :
    isTidyLine line = true := by
  rw [passesTidy, Bool.or_eq_true, Bool.not_eq_true', ← pieces_eq] at passes
  rcases passes with clean | read
  · have none : Text.Unmarked (line ++ ['\n']) := by
      simpa [Text.Unmarked] using clean
    exact List.all_eq_true.mpr (pieces_tidy none isLoose)
  · exact read

/-- Literals are spelled by texts, one by one. -/
inductive SpelledLines : List String → List Text → Prop where
  /-- No literals. -/
  | nil : SpelledLines [] []
  /-- One more literal. -/
  | cons {line : String} {text : Text} {lines : List String} {texts : List Text}
    (letters : line = String.ofList text) (rest : SpelledLines lines texts) :
    SpelledLines (line :: lines) (text :: texts)

/-- Templates are written from literals that are spelled by texts, one by one. -/
inductive SpelledAll : List Text → List (List Text) → Prop where
  /-- No templates. -/
  | nil : SpelledAll [] []
  /-- One more template. -/
  | cons {lines : List String} {texts : List Text} {templates : List Text}
    {others : List (List Text)} (spelled : SpelledLines lines texts)
    (rest : SpelledAll templates others) :
    SpelledAll (Code.written lines :: templates) (texts :: others)

/-- The literals that are kept of spelled ones are those whose letters are. -/
theorem SpelledLines.filter {p : Text → Bool} {lines kept : List String}
    {texts letters : List Text} (spelled : SpelledLines lines texts)
    (listed : SpelledLines kept letters) (same : texts.filter p = letters) :
    lines.filter (fun line => p line.toList) = kept := by
  have each : ∀ {lines : List String} {texts : List Text}, SpelledLines lines texts →
      lines = texts.map String.ofList := by
    intro lines texts spelled
    induction spelled with
    | nil => rfl
    | cons letters rest ih => rw [letters, ih, List.map_cons]
  rw [each spelled, each listed, ← same, List.filter_map]
  simp only [Function.comp_def, String.toList_ofList]

/-- Lines that are spelled tidily are written tidily. -/
theorem SpelledLines.tidy {lines : List String} {texts : List Text}
    (spelled : SpelledLines lines texts) (tidy : texts.all passesTidy = true) :
    ∀ piece ∈ pieces (Code.written lines), piece.isTidy isLoose = true := by
  rw [pieces_written]
  induction spelled with
  | nil => simp
  | cons letters rest ih =>
    subst letters
    simp only [List.all_cons, Bool.and_eq_true] at tidy
    rw [List.flatMap_cons, String.toList_ofList, List.forall_mem_append]
    exact ⟨List.all_eq_true.mp (isTidyLine_of_passes tidy.1), ih tidy.2⟩

/-- The same of several templates. -/
theorem SpelledAll.tidy {templates : List Text} {texts : List (List Text)}
    (spelled : SpelledAll templates texts) (tidy : (texts.all (·.all passesTidy)) = true) :
    ∀ template ∈ templates, ∀ piece ∈ pieces template, piece.isTidy isLoose = true := by
  induction spelled with
  | nil => simp
  | cons own rest ih =>
    simp only [List.all_cons, Bool.and_eq_true] at tidy
    exact List.forall_mem_cons.mpr ⟨own.tidy tidy.1, ih tidy.2⟩

/-- The stubs. -/
theorem tidy_all : ∀ template ∈ [migration, model, controller, storeRequest, updateRequest, factory,
    listPage, createPage, editPage, types, detailDialog, detailPage],
    ∀ piece ∈ pieces template, piece.isTidy isLoose = true := by
  apply SpelledAll.tidy
  · iterate 12
      apply SpelledAll.cons
      · repeat (first | exact .nil | apply SpelledLines.cons rfl)
    exact .nil
  · decide +kernel

/-- The stub of every artifact is tidy. -/
theorem tidy (artifact : Artifact) :
    ∀ piece ∈ pieces (ofArtifact artifact), piece.isTidy isLoose = true :=
  tidy_all (ofArtifact artifact) (by cases artifact <;> simp [ofArtifact])

end Scaffold.Stub
