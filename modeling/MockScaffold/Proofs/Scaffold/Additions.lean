import MockScaffold.Proofs.Scaffold.Completion
import MockScaffold.Proofs.SourceFile.Additions

namespace MockScaffold.Scaffold

open ClassDecl (addedFieldsAll NestedGrowth)
open Seeded (WordStream)
open SourceFile (addedFields)

/-- The dependencies of the subject of a test class with this name are its fields, with those of its
super types, and the parameters of its behaviours. -/
inductive IsDependency (index : ClassIndex) (testName : String) : Variable → Prop
  | field {name : String} {subject : ClassDecl} {f : FieldDecl}
      (hname : Text.withoutEnding? testName "Test" = some name)
      (hfound : index.find? name .all = some subject) (hf : f ∈ index.allFields subject) :
      IsDependency index testName (.ofField f)
  | parameter {name : String} {subject : ClassDecl} {m : MethodDecl} {p : Parameter}
      (hname : subjectName? testName = some name)
      (hfound : index.find? name .all = some subject)
      (hm : m ∈ subject.methods.filter isBehaviour) (hp : p ∈ m.params) :
      IsDependency index testName (.ofParameter p)

/-- What a field can be added for. -/
inductive AddedFor (index : ClassIndex) (testName : String) : FieldDecl → Prop
  | subject {name : String} (hname : Text.withoutEnding? testName "Test" = some name) :
      AddedFor index testName (subjectField name)
  | dependency {v : Variable} {p : PlannedField} (hv : IsDependency index testName v)
      (hplanned : planned? index v = some p) (placement : Placement) (stream : WordStream) :
      AddedFor index testName (p.declare index placement stream).1

/-- The field can be added to the unit test class of the file. -/
def AddedTo (index : ClassIndex) (file : SourceFile) (f : FieldDecl) : Prop :=
  ∃ c, file.testClass? = some c ∧ AddedFor index c.qualifiedName f

variable {index : ClassIndex} {file : SourceFile} {f : FieldDecl}

theorem AddedTo.of_grows {file' : SourceFile} (hgrows : file.Grows file')
    (h : AddedTo index file' f) : AddedTo index file f := by
  obtain ⟨d, hd, hadded⟩ := h
  obtain ⟨⟨place, d⟩, hplace, rfl⟩ := Option.map_eq_some_iff.mp hd
  obtain ⟨c, hc, hcd⟩ := hgrows.of_testPlace? hplace
  dsimp only at hadded
  rw [hcd.qualifiedName] at hadded
  exact ⟨c, SourceFile.testClass?_eq hc, hadded⟩

theorem addedFields_addRunner (index : ClassIndex) (file : SourceFile) :
    addedFields file (addRunner index file) = [] := by
  rcases addRunner_cases index file with heq | ⟨place, c, h, hmarked⟩
  · rw [heq, SourceFile.addedFields_self]
  · rw [addRunner_eq h hmarked, SourceFile.addedFields_update h]
    exact c.addedFields_withAnnotations _

theorem addedTo_addSubjectFields {stream : WordStream}
    (hf : f ∈ addedFields file (addSubjectFields index file stream).1) :
    AddedTo index file f := by
  rcases addSubjectFields_cases index file stream with heq | ⟨place, c, subject, h, hs⟩
  · rw [heq, SourceFile.addedFields_self] at hf
    cases hf
  refine ⟨c, SourceFile.testClass?_eq h, ?_⟩
  rw [addSubjectFields_eq h hs] at hf
  dsimp only at hf
  rw [SourceFile.addedFields_update h, ClassDecl.addedFields_withFields] at hf
  rcases List.mem_append.mp hf with hf | hf
  · unfold subjectPlan at hf
    cases hfound : index.find? subject .all with
    | none =>
      rw [hfound] at hf
      cases hf
    | some d =>
      rw [hfound] at hf
      obtain ⟨v, hv, p, hplanned, s, rfl⟩ := exists_planned_of_mem hf
      obtain ⟨g, hg, rfl⟩ := List.mem_map.mp hv
      exact .dependency (.field hs hfound hg) hplanned .topLevel s
  · unfold ownField at hf
    split at hf
    · cases hf
    · rw [List.mem_singleton.mp hf]
      exact .subject hs

section Filled

variable {ms : List MethodDecl} {bases ds : List ClassDecl}

theorem growth_of_filled (h : List.Forall₂ (Filled index ms) bases ds) : NestedGrowth bases ds := by
  induction h with
  | nil => exact .new []
  | cons hfilled _ ih =>
    obtain ⟨added, rfl, -⟩ := hfilled
    exact .kept _ added ih

theorem comesFrom_of_filled (h : List.Forall₂ (Filled index ms) bases ds)
    (hf : f ∈ addedFieldsAll bases ds) : ∃ m ∈ ms, ∃ p ∈ m.params, ComesFrom index p f := by
  induction h with
  | nil => cases hf
  | cons hfilled _ ih =>
    obtain ⟨added, rfl, hadded⟩ := hfilled
    rw [addedFieldsAll, ClassDecl.addedFields_withFields] at hf
    rcases List.mem_append.mp hf with hf | hf
    · obtain ⟨m, hm, -, hp⟩ := hadded f hf
      exact ⟨m, hm, hp⟩
    · exact ih hf

theorem fields_behaviourClasses (owner : ClassDecl) (names : List String) :
    (ClassDecl.walkAll (names.map (behaviourClass owner))).flatMap (·.fields) = [] := by
  induction names with
  | nil => rfl
  | cons name names ih =>
    rw [List.map_cons, ClassDecl.walkAll, List.flatMap_append, ih]
    rfl

end Filled

/-- The nested classes get all that serving the behaviours adds. -/
theorem comesFrom_of_behaviourDraft {header : FileHeader} {c subject : ClassDecl}
    {stream : WordStream}
    (hf : f ∈ ClassDecl.addedFields c (behaviourDraft index header c subject stream).testClass) :
    ∃ m ∈ subject.methods.filter isBehaviour, ∃ p ∈ m.params, ComesFrom index p f := by
  have hfields := (grows_behaviourDraft index header c subject stream).fields
  have hfilled := filled_behaviourDraft index header c subject stream
  change _ = c.fields at hfields
  rw [ClassDecl.addedFields_eq, hfields, List.drop_length, List.nil_append] at hf
  -- First come the new classes, without fields, and then the fields of all.
  rcases (NestedGrowth.append _ _).mem_added_or_added (growth_of_filled hfilled) hf with hf | hf
  · rw [ClassDecl.addedFieldsAll_append, fields_behaviourClasses] at hf
    cases hf
  · exact comesFrom_of_filled hfilled hf

theorem addedTo_addBehaviours {stream : WordStream}
    (hf : f ∈ addedFields file (addBehaviours index file stream).1) : AddedTo index file f := by
  rcases addBehaviours_cases index file stream with heq | ⟨place, c, subject, h, hs⟩
  · rw [heq, SourceFile.addedFields_self] at hf
    cases hf
  rw [addBehaviours_of_resolved h hs, SourceFile.addedFields_update h] at hf
  obtain ⟨m, hm, p, hp, planned, hplanned, s, rfl⟩ := comesFrom_of_behaviourDraft hf
  obtain ⟨name, hname, hfound⟩ := Option.bind_eq_some_iff.mp hs
  refine ⟨c, SourceFile.testClass?_eq h, ?_⟩
  exact .dependency (.parameter hname hfound hm hp) hplanned .nested s

theorem Step.addedTo (step : Step) {stream : WordStream}
    (hf : f ∈ addedFields file (step.run index file stream).1) : AddedTo index file f := by
  cases step with
  | runner =>
    rw [Step.run, addedFields_addRunner] at hf
    cases hf
  | fields => exact addedTo_addSubjectFields hf
  | nested => exact addedTo_addBehaviours hf
  | staticImports =>
    rw [Step.run, addStaticImports, SourceFile.addedFields_withHeader] at hf
    cases hf

/-- The file has grown, and by no other fields than can be added to it. -/
structure GrownByFields (index : ClassIndex) (file file' : SourceFile) : Prop where
  grows : file.Grows file'
  added : ∀ f ∈ addedFields file file', AddedTo index file f

theorem GrownByFields.refl (index : ClassIndex) (file : SourceFile) :
    GrownByFields index file file where
  grows := .refl file
  added := by
    rw [SourceFile.addedFields_self]
    exact fun _ hf => absurd hf List.not_mem_nil

/-- What a step adds to the file as it has grown so far is added to the file itself. -/
theorem GrownByFields.run {file' : SourceFile} (h : GrownByFields index file file') (step : Step)
    (stream : WordStream) : GrownByFields index file (step.run index file' stream).1 where
  grows := h.grows.trans (step.grows_run index file' stream)
  added := by
    intro f hf
    rcases h.grows.mem_added_or_added (step.grows_run index file' stream) hf with hf | hf
    · exact h.added f hf
    · exact (step.addedTo hf).of_grows h.grows

theorem grownByFields_runEach (index : ClassIndex) (runs : List (Step × WordStream))
    (file : SourceFile) : GrownByFields index file (runEach index runs file) :=
  runEach_induction (P := GrownByFields index file) (fun step _ stream h => h.run step stream) runs
    (.refl index file)

/-- Every field that the scaffolding adds is the subject's own or stands for a dependency. -/
theorem addedTo_generate {seed : UInt64}
    (hf : f ∈ addedFields file (generate index seed file).1) : AddedTo index file f := by
  obtain ⟨runs, -, heq⟩ := runSteps_eq_runEach index allSteps file (.ofSeed seed)
  change f ∈ addedFields file (runSteps index allSteps file (.ofSeed seed)).1 at hf
  rw [heq] at hf
  exact (grownByFields_runEach index runs file).added f hf

end MockScaffold.Scaffold
