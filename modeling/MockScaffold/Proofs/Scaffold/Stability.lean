import MockScaffold.Proofs.Scaffold.Growth

namespace MockScaffold.Scaffold

open Seeded (WordStream)
open PlannedField (declareAll)

/-- What a step wants to be there is there. -/
def Settled (index : ClassIndex) (step : Step) (file : SourceFile) : Prop :=
  match step with
  | .runner => ∀ place c, file.testPlace? = some (place, c) →
      c.isMarkedWith Known.extendWith = true
  | .fields => ∀ place c subject, file.testPlace? = some (place, c) →
      Text.withoutEnding? c.qualifiedName "Test" = some subject →
      (∀ p ∈ subjectPlan index subject, p.name ∈ c.fieldNames) ∧
        subjectFieldName ∈ c.fieldNames ∧
        ∀ q ∈ ownImports index subject, needsImport index file.header q = false
  | .nested => ∀ place c subject, file.testPlace? = some (place, c) →
      subject? index c = some subject →
      ∀ m ∈ subject.methods.filter isBehaviour, Served index c m
  | .staticImports =>
      ((index.find? Known.assertions .all).isSome = true →
        file.header.hasStaticImport (Known.assertions ++ ".assertThat") = true ∨
          file.header.hasStaticImport (Known.assertions ++ ".*") = true) ∧
      ((index.find? Known.mockito .all).isSome = true →
        file.header.hasStaticImport (Known.mockito ++ ".*") = true)

/-- No method of the class under test has a dot in its name. -/
def Dotless (index : ClassIndex) (file : SourceFile) : Prop :=
  ∀ c subject, file.testClass? = some c → subject? index c = some subject →
    ∀ m ∈ subject.methods, '.' ∉ m.name.toList

variable {index : ClassIndex} {file file' : SourceFile}

theorem subject?_of_grows {c d : ClassDecl} (h : c.Grows d) :
    subject? index d = subject? index c := by
  rw [subject?, subject?, h.qualifiedName]

theorem Dotless.of_grows (hdots : Dotless index file) (hgrows : file.Grows file') :
    Dotless index file' := by
  intro d subject hd hsubject
  obtain ⟨⟨place, _⟩, hplace, rfl⟩ := Option.map_eq_some_iff.mp hd
  obtain ⟨c, hc, hclass⟩ := hgrows.of_testPlace? hplace
  rw [subject?_of_grows hclass] at hsubject
  exact hdots c subject (SourceFile.testClass?_eq hc) hsubject

theorem Settled.of_grows {step : Step} (h : Settled index step file)
    (hgrows : file.Grows file') : Settled index step file' := by
  cases step with
  | runner =>
    intro place d hplace
    obtain ⟨c, hc, hclass⟩ := hgrows.of_testPlace? hplace
    exact hclass.isMarkedWith (h place c hc)
  | fields =>
    intro place d subject hplace hsubject
    obtain ⟨c, hc, hclass⟩ := hgrows.of_testPlace? hplace
    rw [hclass.qualifiedName] at hsubject
    obtain ⟨hplan, hown, himports⟩ := h place c subject hc hsubject
    exact ⟨fun p hp => hclass.fieldNames_subset (hplan p hp), hclass.fieldNames_subset hown,
      fun q hq => needsImport_eq_false_of_extends hgrows.header (himports q hq)⟩
  | nested =>
    intro place d subject hplace hsubject m hm
    obtain ⟨c, hc, hclass⟩ := hgrows.of_testPlace? hplace
    rw [subject?_of_grows hclass] at hsubject
    exact (h place c subject hc hsubject m hm).of_grows hclass
  | staticImports =>
    have hstatic {path : String} : file.header.hasStaticImport path = true →
        file'.header.hasStaticImport path = true := hgrows.header.hasStaticImport
    exact ⟨fun hfound => (h.1 hfound).imp hstatic hstatic, fun hfound => hstatic (h.2 hfound)⟩

theorem importAssertThat_of_settled (h : Settled index .staticImports file) :
    importAssertThat index file.header = file.header := by
  unfold importAssertThat
  split
  · rfl
  · rename_i hmissing
    refine if_neg fun hfound => hmissing ?_
    rw [Bool.or_eq_true]
    exact h.1 hfound

theorem importMockito_of_settled (h : Settled index .staticImports file) :
    importMockito index file.header = file.header := by
  unfold importMockito
  split
  · rfl
  · rename_i hmissing
    exact if_neg fun hfound => hmissing (h.2 hfound)

theorem addSubjectFields_of_settled (h : Settled index .fields file) (stream : WordStream) :
    (addSubjectFields index file stream).1 = file := by
  rcases addSubjectFields_cases index file stream with heq | ⟨place, c, subject, hplace, hsubject⟩
  · rw [heq]
  · obtain ⟨hplan, hown, himports⟩ := h place c subject hplace hsubject
    have hfields : ownField c.fieldNames subject = [] := if_pos hown
    have hnone : fresh c.fieldNames (subjectPlan index subject) = [] := firstsBy_eq_nil hplan
    rw [addSubjectFields_eq hplace hsubject, hnone]
    simp only [declareAll, List.map_nil, List.append_nil, hfields, ClassDecl.withFields_nil]
    change file.update place (importAll index file.header (ownImports index subject)) c = file
    rw [importAll_of_none_needed himports, SourceFile.update_self hplace]

theorem addBehaviours_of_settled (h : Settled index .nested file) (stream : WordStream) :
    (addBehaviours index file stream).1 = file := by
  rcases addBehaviours_cases index file stream with heq | ⟨place, c, subject, hplace, hsubject⟩
  · rw [heq]
  have hserved := h place c subject hplace hsubject
  -- Every method finds itself served, so that the draft never leaves its start.
  have hdraft : behaviourDraft index file.header c subject stream =
      .start file.header c stream := by
    unfold behaviourDraft
    generalize subject.methods.filter isBehaviour = ms at hserved
    induction ms with
    | nil => rfl
    | cons m ms ih =>
      obtain ⟨inner, hinner, hplan⟩ := hserved m List.mem_cons_self
      have htaken : Name.behaviourClass m.name ∈ c.innerClasses.map (·.name) :=
        List.mem_map.mpr ⟨inner, ClassDecl.mem_of_innerClass? hinner,
          ClassDecl.name_of_innerClass? hinner⟩
      rw [List.foldl_cons,
        BehaviourDraft.addBehaviour_of_served ⟨inner, hinner, hplan⟩ htaken]
      exact ih fun n hn => hserved n (List.mem_cons_of_mem _ hn)
  rw [addBehaviours_of_resolved hplace hsubject, hdraft]
  exact SourceFile.update_self hplace

theorem Step.run_of_settled {step : Step} (h : Settled index step file) (stream : WordStream) :
    (step.run index file stream).1 = file := by
  cases step with
  | runner =>
    cases hplace : file.testPlace? with
    | none => exact addRunner_of_none hplace
    | some found => exact addRunner_of_marked hplace (h _ _ hplace)
  | fields => exact addSubjectFields_of_settled h stream
  | nested => exact addBehaviours_of_settled h stream
  | staticImports =>
    change { file with
      header := importMockito index (importAssertThat index file.header) } = file
    rw [importAssertThat_of_settled h, importMockito_of_settled h]

theorem settled_addRunner (index : ClassIndex) (file : SourceFile) :
    Settled index .runner (addRunner index file) := by
  intro place d hplace
  obtain ⟨c, hc, -⟩ := (grows_addRunner index file).of_testPlace? hplace
  cases hmarked : c.isMarkedWith Known.extendWith with
  | true =>
    rw [addRunner_of_marked hc hmarked, hc] at hplace
    cases hplace
    exact hmarked
  | false =>
    have hnamed : { c with annotations := c.annotations ++ [runnerUse] }.name = c.name := rfl
    rw [addRunner_eq hc hmarked, SourceFile.testPlace?_update hc hnamed] at hplace
    cases hplace
    rw [ClassDecl.isMarkedWith, List.any_append, Bool.or_eq_true]
    exact .inr (by decide)

theorem settled_addSubjectFields (index : ClassIndex) (file : SourceFile)
    (stream : WordStream) : Settled index .fields (addSubjectFields index file stream).1 := by
  intro place d subject hplace hsubject
  obtain ⟨c, hc, hclass⟩ := (grows_addSubjectFields index file stream).of_testPlace? hplace
  rw [hclass.qualifiedName] at hsubject
  rw [addSubjectFields_eq hc hsubject] at hplace ⊢
  dsimp only at hplace ⊢
  rw [SourceFile.testPlace?_update hc (ClassDecl.withFields_name c _)] at hplace
  cases hplace
  refine ⟨fun p hp => ?_, ?_, fun q hq => ?_⟩
  · rw [ClassDecl.withFields_fieldNames, List.map_append, PlannedField.map_name_declareAll,
      ← List.append_assoc]
    exact List.mem_append_left _ (List.mem_append.mpr (mem_taken_or_firstsBy _ hp))
  · rw [ClassDecl.withFields_fieldNames, List.map_append, PlannedField.map_name_declareAll,
      ← List.append_assoc]
    generalize c.fieldNames ++ (fresh c.fieldNames (subjectPlan index subject)).map (·.name) =
      names
    unfold ownField
    split
    · exact List.mem_append_left _ ‹_›
    · exact List.mem_append_right _ List.mem_cons_self
  · exact needsImport_importAll (List.mem_append_right _ hq)

theorem settled_addBehaviours (hdots : Dotless index file) (stream : WordStream) :
    Settled index .nested (addBehaviours index file stream).1 := by
  intro place d subject hplace hsubject m hm
  obtain ⟨c, hc, hclass⟩ := (grows_addBehaviours index file stream).of_testPlace? hplace
  rw [subject?_of_grows hclass] at hsubject
  rw [addBehaviours_of_resolved hc hsubject] at hplace
  dsimp only at hplace
  have hgrows := grows_behaviourDraft index file.header c subject stream
  rw [SourceFile.testPlace?_update hc hgrows.testClass.name] at hplace
  cases hplace
  exact BehaviourDraft.served_foldl_addBehaviour (BehaviourDraft.takenNamed_start _ _ _) hm
    (hdots c subject (SourceFile.testClass?_eq hc) hsubject m (List.mem_filter.mp hm).1)

theorem hasStaticImport_importStatic {h : FileHeader} {className : String} (member : String)
    (hfound : (index.find? className .all).isSome = true) :
    (importStatic index h className member).hasStaticImport (className ++ "." ++ member) =
      true := by
  rw [importStatic, if_pos hfound]
  simp [FileHeader.hasStaticImport, FileHeader.staticImports, ImportDecl.ofMember]

theorem settled_addStaticImports (index : ClassIndex) (file : SourceFile) :
    Settled index .staticImports (addStaticImports index file) := by
  refine ⟨fun hfound => ?_, fun hfound => ?_⟩
  · have hextends := extends_importMockito index (importAssertThat index file.header)
    have hassert : (importAssertThat index file.header).hasStaticImport
          (Known.assertions ++ ".assertThat") = true ∨
        (importAssertThat index file.header).hasStaticImport (Known.assertions ++ ".*") =
          true := by
      unfold importAssertThat
      split
      · rwa [Bool.or_eq_true] at *
      · exact .inl (hasStaticImport_importStatic "assertThat" hfound)
    exact hassert.imp hextends.hasStaticImport hextends.hasStaticImport
  · change (importMockito index _).hasStaticImport (Known.mockito ++ ".*") = true
    unfold importMockito
    split
    · assumption
    · exact hasStaticImport_importStatic "*" hfound

theorem Step.settled_run (step : Step) (hdots : Dotless index file) (stream : WordStream) :
    Settled index step (step.run index file stream).1 := by
  cases step with
  | runner => exact settled_addRunner index file
  | fields => exact settled_addSubjectFields index file stream
  | nested => exact settled_addBehaviours hdots stream
  | staticImports => exact settled_addStaticImports index file

theorem settled_runEach {runs : List (Step × WordStream)} (hdots : Dotless index file)
    {step : Step} (hstep : step ∈ runs.map (·.1)) :
    Settled index step (runEach index runs file) := by
  induction runs generalizing file with
  | nil => cases hstep
  | cons run runs ih =>
    have hgrows := run.1.grows_run index file run.2
    -- A step is settled by its own run and stays so, since later runs only add.
    rcases List.mem_cons.mp hstep with rfl | hstep
    · exact (run.1.settled_run hdots run.2).of_grows (grows_runEach index runs _)
    · exact ih (hdots.of_grows hgrows) hstep

theorem runEach_of_settled (h : ∀ step, Settled index step file)
    (runs : List (Step × WordStream)) : runEach index runs file = file := by
  induction runs with
  | nil => rfl
  | cons run runs ih =>
    rw [runEach, run.1.run_of_settled (h run.1) run.2]
    exact ih

theorem settled_generate (hdots : Dotless index file) (seed : UInt64) (step : Step) :
    Settled index step (generate index seed file).1 := by
  obtain ⟨runs, hruns, heq⟩ := runSteps_eq_runEach index allSteps file (.ofSeed seed)
  change Settled index step (runSteps index allSteps file (.ofSeed seed)).1
  rw [heq]
  refine settled_runEach hdots ?_
  rw [hruns]
  cases step <;> decide

theorem generate_of_settled (h : ∀ step, Settled index step file) (seed : UInt64) :
    generate index seed file = (file, ⟨0, 0, 0, 0⟩) := by
  obtain ⟨runs, -, heq⟩ := runSteps_eq_runEach index allSteps file (.ofSeed seed)
  have hfile : (runSteps index allSteps file (.ofSeed seed)).1 = file :=
    heq.trans (runEach_of_settled h runs)
  simp [generate, hfile, Summary.between]

/-- After one scaffolding no sequence of steps changes the file, over any streams, and a second
scaffolding from any seed adds nothing. -/
theorem generate_stable (index : ClassIndex) (seed : UInt64) (file : SourceFile)
    (hdots : ∀ c subject, file.testClass? = some c → subject? index c = some subject →
      ∀ m ∈ subject.methods, '.' ∉ m.name.toList) :
    (∀ runs, runEach index runs (generate index seed file).1 = (generate index seed file).1) ∧
      ∀ seed', (generate index seed' (generate index seed file).1).2.isEmpty = true ∧
        (generate index seed' (generate index seed file).1).1 = (generate index seed file).1 := by
  have hsettled (step : Step) : Settled index step (generate index seed file).1 :=
    settled_generate hdots seed step
  refine ⟨fun runs => runEach_of_settled hsettled runs, fun seed' => ?_⟩
  rw [generate_of_settled hsettled seed']
  exact ⟨rfl, rfl⟩

/-- A class of the project with one behaviour, which takes one value. -/
def cartIndex : ClassIndex :=
  ⟨[{ decl :=
        { name := "Cart"
          qualifiedName := "shop.Cart"
          methods :=
            [{ name := "addItem", params := [⟨"id", .ofClass "java.util.UUID"⟩] }] }
      provenance := .project }]⟩

def cartTest : SourceFile where
  name := "CartTest.java"
  classes := [{ name := "CartTest", qualifiedName := "shop.CartTest" }]

theorem cartIndex_dotless :
    ∀ entry ∈ cartIndex.entries, ∀ m ∈ entry.decl.methods, '.' ∉ m.name.toList := by
  decide

/-- The test class has a subject with a behaviour, and what is made for it is stable. -/
theorem generate_stable_cartTest :
    (cartTest.testClass?.bind (subject? cartIndex)).isSome = true ∧
      (∀ runs, runEach cartIndex runs (generate cartIndex 7 cartTest).1 =
        (generate cartIndex 7 cartTest).1) ∧
      ∀ seed', (generate cartIndex seed' (generate cartIndex 7 cartTest).1).2.isEmpty = true ∧
        (generate cartIndex seed' (generate cartIndex 7 cartTest).1).1 =
          (generate cartIndex 7 cartTest).1 := by
  refine ⟨by decide, generate_stable cartIndex 7 cartTest ?_⟩
  intro c subject _ hsubject
  obtain ⟨entry, hentry, rfl⟩ := mem_of_subject? hsubject
  exact cartIndex_dotless entry hentry

end MockScaffold.Scaffold
