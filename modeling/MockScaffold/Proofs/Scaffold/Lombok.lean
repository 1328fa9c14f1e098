import MockScaffold.Proofs.Index.Expansion
import MockScaffold.Proofs.Scaffold.Agreement
import MockScaffold.Proofs.Scaffold.Nested

namespace MockScaffold.Scaffold

def innerNames (c : ClassDecl) : List String :=
  c.innerClasses.map (·.name)

/-- The names of the nested classes once every behaviour is served. -/
def servedNames (index : ClassIndex) (c : ClassDecl) : List String :=
  innerNames c ++
    (newNames (innerNames c) (behaviourNames (behaviours index c))).map
      fun n => (behaviourClass c n).name

theorem innerNames_generate (index : ClassIndex) (seed : UInt64) (file : SourceFile) :
    (generate index seed file).1.testClass?.map innerNames =
      file.testClass?.map (servedNames index) :=
  map_view_generate (fun _ _ => rfl) index seed file

section Lombok

variable {model : ProjectModel}

theorem behaviours_extend (model : ProjectModel) (c : ClassDecl) :
    behaviours (ClassIndex.builtin.extend model true) c =
      behaviours (ClassIndex.builtin.extend model false) c := by
  unfold behaviours subject?
  cases subjectName? c.qualifiedName with
  | none => rfl
  | some name =>
    have hsource := congrArg (Option.map (List.filter isBehaviour))
      (ClassIndex.sourceMethods_extend model name .all)
    rw [Option.map_map, Option.map_map] at hsource
    simp only [Function.comp_def, filter_isBehaviour_sourceMethods] at hsource
    rw [Option.bind_some, Option.bind_some, hsource]

/-- With and without Lombok the test class gets the same nested classes, and unless a class of the
project, however deep, has `@Value`, the same file comes of it, with the same summary. -/
theorem generate_ignores_lombok (model : ProjectModel) (seed : UInt64) (file : SourceFile) :
    let expanded := generate (ClassIndex.builtin.extend model true) seed file
    let plain := generate (ClassIndex.builtin.extend model false) seed file
    expanded.1.testClass?.map (·.innerClasses.map (·.name)) =
        plain.1.testClass?.map (·.innerClasses.map (·.name)) ∧
      ((∀ c ∈ ClassDecl.walkAll model.classes, c.isMarkedWith "lombok.Value" = false) →
        expanded = plain) := by
  have hnames (c : ClassDecl) : servedNames (ClassIndex.builtin.extend model true) c =
      servedNames (ClassIndex.builtin.extend model false) c := by
    rw [servedNames, servedNames, behaviours_extend]
  refine ⟨?_, fun hvalue => by rw [generate_congr (ClassIndex.agree_extend hvalue)]⟩
  refine (innerNames_generate _ seed file).trans (.trans ?_ (innerNames_generate _ seed file).symm)
  rw [funext hnames]

/-- A project with one class, for which Lombok makes five members. -/
def dataProject : ProjectModel where
  classes :=
    [{ cartClass with
       annotations := [{ name := "lombok.Data" }]
       fields := [{ name := "owner", type := .ofClass "java.lang.String" }] }]

theorem generate_ignores_lombok_dataProject :
    Lombok.addedCountAll dataProject.classes = 5 ∧
      (∀ c ∈ ClassDecl.walkAll dataProject.classes, c.isMarkedWith "lombok.Value" = false) ∧
      generate (ClassIndex.builtin.extend dataProject true) 7 cartTest =
        generate (ClassIndex.builtin.extend dataProject false) 7 cartTest := by
  have hvalue : ∀ c ∈ ClassDecl.walkAll dataProject.classes,
      c.isMarkedWith "lombok.Value" = false := by decide
  exact ⟨by decide, hvalue, (generate_ignores_lombok dataProject 7 cartTest).2 hvalue⟩

end Lombok

end MockScaffold.Scaffold
