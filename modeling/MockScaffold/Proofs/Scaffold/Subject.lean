import MockScaffold.Proofs.Scaffold.Plan
import MockScaffold.Proofs.SourceFile.Growth
import MockScaffold.Scaffold.Synthesis

namespace MockScaffold.Scaffold

open Seeded (WordStream)
open PlannedField (declareAll)

/-- The plan for the fields of the subject and of its super types; an unknown subject has none. -/
def subjectPlan (index : ClassIndex) (subject : String) : List PlannedField :=
  match index.find? subject .all with
  | some c => plan index ((index.allFields c).map .ofField)
  | none => []

def ownField (names : List String) (subject : String) : List FieldDecl :=
  if subjectFieldName ∈ names then [] else [subjectField subject]

def ownImports (index : ClassIndex) (subject : String) : List String :=
  Known.injectMocks :: if (index.find? subject .project).isSome then [subject] else []

theorem addStandIns_eq (index : ClassIndex) (subject : String) (draft : Draft) :
    let news := fresh draft.taken (subjectPlan index subject)
    let declared := declareAll index .topLevel draft.stream news
    (addStandIns index subject draft).header =
        importAll index draft.header (wantedImports news) ∧
      (addStandIns index subject draft).target = draft.target.withFields declared.1 ∧
      (addStandIns index subject draft).stream = declared.2 := by
  unfold addStandIns subjectPlan
  cases index.find? subject .all with
  | some c =>
    dsimp only
    rw [Draft.insertMissing_eq]
    exact ⟨rfl, rfl, rfl⟩
  | none => exact ⟨rfl, (draft.target.withFields_nil).symm, rfl⟩

section AddSubjectFields

variable {index : ClassIndex} {file : SourceFile} {place : Nat} {c : ClassDecl}
  {subject : String}

theorem addSubjectFields_of_none (h : file.testPlace? = none) (stream : WordStream) :
    addSubjectFields index file stream = (file, stream) := by
  simp only [addSubjectFields, h]

theorem addSubjectFields_of_other_ending (h : file.testPlace? = some (place, c))
    (hs : Text.withoutEnding? c.qualifiedName "Test" = none) (stream : WordStream) :
    addSubjectFields index file stream = (file, stream) := by
  simp only [addSubjectFields, h, hs]

theorem addSubjectFields_cases (index : ClassIndex) (file : SourceFile) (stream : WordStream) :
    addSubjectFields index file stream = (file, stream) ∨
      ∃ place c subject, file.testPlace? = some (place, c) ∧
        Text.withoutEnding? c.qualifiedName "Test" = some subject := by
  cases h : file.testPlace? with
  | none => exact .inl (addSubjectFields_of_none h stream)
  | some found =>
    obtain ⟨place, c⟩ := found
    cases hs : Text.withoutEnding? c.qualifiedName "Test" with
    | none => exact .inl (addSubjectFields_of_other_ending h hs stream)
    | some subject => exact .inr ⟨place, c, subject, rfl, hs⟩

theorem addSubjectFields_eq (h : file.testPlace? = some (place, c))
    (hs : Text.withoutEnding? c.qualifiedName "Test" = some subject) (stream : WordStream) :
    addSubjectFields index file stream =
      let news := fresh c.fieldNames (subjectPlan index subject)
      let declared := declareAll index .topLevel stream news
      (file.update place
        (importAll index file.header (wantedImports news ++ ownImports index subject))
        (c.withFields
          (declared.1 ++ ownField (c.fieldNames ++ news.map (·.name)) subject)),
        declared.2) := by
  obtain ⟨hheader, htarget, hstream⟩ := addStandIns_eq index subject
    { header := file.header, target := c, taken := c.fieldNames, stream }
  dsimp only at hheader htarget hstream
  simp only [addSubjectFields, h, hs]
  rw [hheader, htarget, hstream]
  congr 2
  · rw [importAll_append]
    unfold ownImports
    split <;> rfl
  · rw [← ClassDecl.withFields_withFields]
    have hnames : (c.withFields
        (declareAll index .topLevel stream
          (fresh c.fieldNames (subjectPlan index subject))).1).fieldNames =
        c.fieldNames ++ (fresh c.fieldNames (subjectPlan index subject)).map (·.name) := by
      rw [ClassDecl.withFields_fieldNames, PlannedField.map_name_declareAll]
    rw [← hnames]
    generalize c.withFields _ = target
    unfold ownField
    by_cases hmem : subjectFieldName ∈ target.fieldNames
    · rw [if_pos (ClassDecl.hasField_iff.mpr hmem), if_pos hmem, ClassDecl.withFields_nil]
      cases target
      rfl
    · rw [if_neg (fun hfield => hmem (ClassDecl.hasField_iff.mp hfield)), if_neg hmem]
      rfl

end AddSubjectFields

end MockScaffold.Scaffold
