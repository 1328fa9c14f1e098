import MockScaffold.Proofs.Scaffold.Behaviours
import MockScaffold.Proofs.Scaffold.Subject
import MockScaffold.Scaffold.Report

namespace MockScaffold.Scaffold

open FileHeader (Extends)
open Seeded (WordStream)

/-- The annotation that configures the runner. -/
def runnerUse : AnnotationUse :=
  ⟨Known.extendWith, some "MockitoExtension.class"⟩

section Runner

variable {index : ClassIndex} {file : SourceFile} {place : Nat} {c : ClassDecl}

theorem addRunner_of_none (h : file.testPlace? = none) : addRunner index file = file := by
  simp only [addRunner, h]

theorem addRunner_of_marked (h : file.testPlace? = some (place, c))
    (hmarked : c.isMarkedWith Known.extendWith = true) : addRunner index file = file := by
  simp only [addRunner, h]
  exact if_pos hmarked

theorem addRunner_eq (h : file.testPlace? = some (place, c))
    (hmarked : c.isMarkedWith Known.extendWith = false) :
    addRunner index file =
      file.update place
        (importAll index file.header [Known.mockitoExtension, Known.extendWith])
        { c with annotations := c.annotations ++ [runnerUse] } := by
  simp only [addRunner, h]
  exact if_neg (by simp [hmarked])

theorem addRunner_cases (index : ClassIndex) (file : SourceFile) :
    addRunner index file = file ∨
      ∃ place c, file.testPlace? = some (place, c) ∧
        c.isMarkedWith Known.extendWith = false := by
  cases h : file.testPlace? with
  | none => exact .inl (addRunner_of_none h)
  | some found =>
    obtain ⟨place, c⟩ := found
    cases hmarked : c.isMarkedWith Known.extendWith with
    | true => exact .inl (addRunner_of_marked h hmarked)
    | false => exact .inr ⟨place, c, rfl, hmarked⟩

theorem grows_addRunner (index : ClassIndex) (file : SourceFile) :
    file.Grows (addRunner index file) := by
  rcases addRunner_cases index file with heq | ⟨place, c, h, hmarked⟩
  · rw [heq]
    exact .refl file
  · rw [addRunner_eq h hmarked]
    exact .update h (extends_importAll _ _ _) (.addAnnotations c _)

end Runner

theorem grows_addSubjectFields (index : ClassIndex) (file : SourceFile) (stream : WordStream) :
    file.Grows (addSubjectFields index file stream).1 := by
  rcases addSubjectFields_cases index file stream with heq | ⟨place, c, subject, h, hs⟩
  · rw [heq]
    exact .refl file
  · rw [addSubjectFields_eq h hs]
    exact .update h (extends_importAll _ _ _) (.addFields c _)

theorem grows_addBehaviours (index : ClassIndex) (file : SourceFile) (stream : WordStream) :
    file.Grows (addBehaviours index file stream).1 := by
  rcases addBehaviours_cases index file stream with heq | ⟨place, c, subject, h, hs⟩
  · rw [heq]
    exact .refl file
  · rw [addBehaviours_of_resolved h hs]
    have hgrows := grows_behaviourDraft index file.header c subject stream
    refine .update h ?_ hgrows.testClass
    split
    · exact hgrows.header
    · exact hgrows.header.trans (extends_importClass _ _ _)

theorem extends_importAssertThat (index : ClassIndex) (h : FileHeader) :
    h.Extends (importAssertThat index h) := by
  unfold importAssertThat
  split
  · exact .refl h
  · exact extends_importStatic _ _ _ _

theorem extends_importMockito (index : ClassIndex) (h : FileHeader) :
    h.Extends (importMockito index h) := by
  unfold importMockito
  split
  · exact .refl h
  · exact extends_importStatic _ _ _ _

theorem grows_addStaticImports (index : ClassIndex) (file : SourceFile) :
    file.Grows (addStaticImports index file) :=
  .withHeader file ((extends_importAssertThat _ _).trans (extends_importMockito _ _))

theorem Step.grows_run (step : Step) (index : ClassIndex) (file : SourceFile)
    (stream : WordStream) : file.Grows (step.run index file stream).1 := by
  cases step with
  | runner => exact grows_addRunner index file
  | fields => exact grows_addSubjectFields index file stream
  | nested => exact grows_addBehaviours index file stream
  | staticImports => exact grows_addStaticImports index file

/-- Runs of single steps one after the other, each over a stream of its own. -/
def runEach (index : ClassIndex) : List (Step × WordStream) → SourceFile → SourceFile
  | [], file => file
  | (step, stream) :: runs, file => runEach index runs (step.run index file stream).1

/-- What every step preserves, every sequence of runs preserves. -/
theorem runEach_induction {P : SourceFile → Prop} {index : ClassIndex}
    (hstep : ∀ (step : Step) (file : SourceFile) (stream : WordStream),
      P file → P (step.run index file stream).1)
    (runs : List (Step × WordStream)) {file : SourceFile} (h : P file) :
    P (runEach index runs file) := by
  induction runs generalizing file with
  | nil => exact h
  | cons run runs ih => exact ih (hstep run.1 file run.2 h)

/-- Steps that share a stream are runs over the places of that stream that they come to. -/
theorem runSteps_eq_runEach (index : ClassIndex) (steps : List Step) (file : SourceFile)
    (stream : WordStream) :
    ∃ runs, runs.map (·.1) = steps ∧
      (runSteps index steps file stream).1 = runEach index runs file := by
  induction steps generalizing file stream with
  | nil => exact ⟨[], rfl, rfl⟩
  | cons step steps ih =>
    obtain ⟨runs, hruns, heq⟩ :=
      ih (step.run index file stream).1 (step.run index file stream).2
    exact ⟨(step, stream) :: runs, by rw [List.map_cons, hruns], heq⟩

theorem grows_runEach (index : ClassIndex) (runs : List (Step × WordStream))
    (file : SourceFile) : file.Grows (runEach index runs file) :=
  runEach_induction (P := file.Grows)
    (fun step file' stream h => h.trans (step.grows_run index file' stream)) runs (.refl file)

theorem grows_runSteps (index : ClassIndex) (steps : List Step) (file : SourceFile)
    (stream : WordStream) : file.Grows (runSteps index steps file stream).1 := by
  obtain ⟨runs, -, heq⟩ := runSteps_eq_runEach index steps file stream
  rw [heq]
  exact grows_runEach index runs file

/-- Name, package and all classes but the unit test class stay as they are; imports, annotations
and fields are only appended, and of the old nested classes each keeps its place and has at most
fields appended. -/
theorem generate_only_adds (index : ClassIndex) (seed : UInt64) (file : SourceFile) :
    file.Grows (generate index seed file).1 := by
  obtain ⟨runs, -, heq⟩ := runSteps_eq_runEach index allSteps file (.ofSeed seed)
  change file.Grows (runSteps index allSteps file (.ofSeed seed)).1
  rw [heq]
  exact grows_runEach index runs file

end MockScaffold.Scaffold
