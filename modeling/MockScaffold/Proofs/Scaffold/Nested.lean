import MockScaffold.Proofs.Scaffold.Completion

namespace MockScaffold.Scaffold

open Seeded (WordStream)

def behaviours (index : ClassIndex) (c : ClassDecl) : List MethodDecl :=
  ((subject? index c).map (·.methods.filter isBehaviour)).getD []

/-- A view of the nested classes once every behaviour is served. -/
def servedView {α : Type} (view : ClassDecl → α) (index : ClassIndex) (c : ClassDecl) : List α :=
  c.innerClasses.map view ++
    (newNames (c.innerClasses.map (·.name)) (behaviourNames (behaviours index c))).map
      fun n => view (behaviourClass c n)

variable {α : Type} {view : ClassDecl → α} {index : ClassIndex} {file : SourceFile}

theorem servedView_congr {c d : ClassDecl} (hname : d.qualifiedName = c.qualifiedName)
    (hinner : d.innerClasses = c.innerClasses) :
    servedView view index d = servedView view index c := by
  unfold servedView behaviours subject?
  simp only [hname, hinner, behaviourClass_congr hname]

theorem servedView_addRunner (index : ClassIndex) (file : SourceFile) :
    (addRunner index file).testClass?.map (servedView view index) =
      file.testClass?.map (servedView view index) := by
  rcases addRunner_cases index file with heq | ⟨place, c, h, hmarked⟩
  · rw [heq]
  · rw [addRunner_eq h hmarked]
    refine SourceFile.map_testClass?_update h ?_ (servedView_congr ?_ ?_) _ <;> rfl

theorem servedView_addSubjectFields (index : ClassIndex) (file : SourceFile)
    (stream : WordStream) :
    (addSubjectFields index file stream).1.testClass?.map (servedView view index) =
      file.testClass?.map (servedView view index) := by
  rcases addSubjectFields_cases index file stream with heq | ⟨place, c, subject, h, hs⟩
  · rw [heq]
  · rw [addSubjectFields_eq h hs]
    refine SourceFile.map_testClass?_update h ?_ (servedView_congr ?_ ?_) _ <;> rfl

theorem testClass?_addStaticImports (index : ClassIndex) (file : SourceFile) :
    (addStaticImports index file).testClass? = file.testClass? :=
  rfl

section FieldsUnseen

variable (hview : ∀ c added, view (ClassDecl.withFields c added) = view c)
include hview

theorem map_view_of_filled {ms : List MethodDecl} {cs ds : List ClassDecl}
    (h : List.Forall₂ (Filled index ms) cs ds) : ds.map view = cs.map view := by
  induction h with
  | nil => rfl
  | cons hfilled _ ih =>
    obtain ⟨added, rfl, -⟩ := hfilled
    rw [List.map_cons, List.map_cons, hview, ih]

theorem map_view_addBehaviours (index : ClassIndex) (file : SourceFile) (stream : WordStream) :
    (addBehaviours index file stream).1.testClass?.map (·.innerClasses.map view) =
      file.testClass?.map (servedView view index) := by
  cases h : file.testPlace? with
  | none =>
    rw [addBehaviours_of_none h, SourceFile.testClass?, h]
    rfl
  | some found =>
    obtain ⟨place, c⟩ := found
    cases hs : subject? index c with
    | none =>
      rw [addBehaviours_of_unresolved h hs, SourceFile.testClass?_eq h]
      simp [servedView, behaviours, hs, behaviourNames, newNames]
    | some subject =>
      have hgrows := grows_behaviourDraft index file.header c subject stream
      have hfilled := filled_behaviourDraft index file.header c subject stream
      rw [addBehaviours_of_resolved h hs]
      refine SourceFile.map_testClass?_update h hgrows.testClass.name ?_ _
      refine (map_view_of_filled hview hfilled).trans ?_
      simp [servedView, behaviours, hs]

theorem map_view_generate (index : ClassIndex) (seed : UInt64) (file : SourceFile) :
    (generate index seed file).1.testClass?.map (·.innerClasses.map view) =
      file.testClass?.map (servedView view index) := by
  unfold generate
  simp only [allSteps, runSteps, Step.run]
  rw [testClass?_addStaticImports, map_view_addBehaviours hview, servedView_addSubjectFields,
    servedView_addRunner]

end FieldsUnseen

end MockScaffold.Scaffold
