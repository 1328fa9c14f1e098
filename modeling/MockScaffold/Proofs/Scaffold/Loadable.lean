import MockScaffold.Proofs.Index.Written
import MockScaffold.Proofs.Model.Loadable
import MockScaffold.Proofs.Scaffold.Growth

namespace MockScaffold.Scaffold

open ClassDecl (IsLoadableIn)
open PlannedField (declareAll)
open Seeded (WordStream)

section Plan

variable {index : ClassIndex}

theorem isWritten_firstArg? {type element : TypeRef} (h : type.IsWritten)
    (helement : type.firstArg? = some element) : element.IsWritten := by
  cases h with
  | void | primitive | array => cases helement
  | named _ hargs => exact hargs element (List.mem_of_head? helement)

theorem isWritten_element? (hindex : index.IsWritten) {type element : TypeRef}
    (h : type.IsWritten) (helement : element? index type = some element) :
    element.IsWritten := by
  rcases element?_cases helement with hown | ⟨-, c, hc, s, hs, -, hfirst⟩
  · exact isWritten_firstArg? h hown
  · obtain ⟨name, -, hfound⟩ := Option.bind_eq_some_iff.mp hc
    exact isWritten_firstArg? ((hindex.find? hfound).superTypes s hs) hfirst

theorem isWritten_planned? (hindex : index.IsWritten) {v : Variable} {p : PlannedField}
    (hv : v.type.IsWritten) (hp : planned? index v = some p) : p.type.IsWritten := by
  cases (standsFor_of_planned? hp).2 with
  | value | mock => exact hv
  | elementValue _ helement | elementMock _ helement =>
    exact isWritten_element? hindex hv helement

theorem isWritten_plan (hindex : index.IsWritten) {vars : List Variable}
    (hvars : ∀ v ∈ vars, v.type.IsWritten) : ∀ p ∈ plan index vars, p.type.IsWritten := by
  intro p hp
  obtain ⟨v, hv, hplanned⟩ := List.mem_filterMap.mp hp
  exact isWritten_planned? hindex (hvars v hv) hplanned

theorem isWritten_declareAll (index : ClassIndex) (placement : Placement) (stream : WordStream)
    (taken : List String) {ps : List PlannedField} (hps : ∀ p ∈ ps, p.type.IsWritten) :
    ∀ f ∈ (declareAll index placement stream (fresh taken ps)).1, f.type.IsWritten := by
  intro f hf
  obtain ⟨p, hp, s, rfl⟩ := PlannedField.mem_declareAll _ _ hf
  rw [PlannedField.declare_type]
  exact hps p (firstsBy_subset _ taken ps hp)

theorem isWritten_subjectPlan (hindex : index.IsWritten) (subject : String) :
    ∀ p ∈ subjectPlan index subject, p.type.IsWritten := by
  unfold subjectPlan
  split
  · rename_i c hc
    apply isWritten_plan hindex
    intro v hv
    obtain ⟨f, hf, rfl⟩ := List.mem_map.mp hv
    exact ClassIndex.isWritten_allFields hindex (hindex.find? hc) f hf
  · intro p hp
    cases hp

end Plan

/-- If the test class gets a field for its subject then the subject's name is the text of the
field's type. -/
def SubjectReadable (index : ClassIndex) (testClass : ClassDecl) : Prop :=
  ∀ subject, Text.withoutEnding? testClass.qualifiedName "Test" = some subject →
    subjectFieldName ∉ testClass.fieldNames →
    (∀ p ∈ subjectPlan index subject, p.name ≠ subjectFieldName) →
      TypeRef.parse subject = .ok (.ofClass subject)

/-- Each behaviour that gets a new nested class has an identifier for its name. -/
def BehavioursNamed (index : ClassIndex) (testClass : ClassDecl) : Prop :=
  ∀ subject, subject? index testClass = some subject →
    ∀ m ∈ subject.methods.filter isBehaviour,
      Name.behaviourClass m.name ∈ testClass.innerClasses.map (·.name) ∨
        Name.isIdentifier (Name.behaviourClass m.name) = true

section Subject

variable {index : ClassIndex} {subject : String}

theorem isWritten_subject_iff :
    (TypeRef.ofClass subject).IsWritten ↔ TypeRef.parse subject = .ok (.ofClass subject) := by
  have h := TypeRef.parse_canonical_iff (t := .ofClass subject)
  rw [TypeRef.canonical_ofClass] at h
  exact h.symm

theorem mem_names_iff {taken : List String} {ps : List PlannedField} {name : String} :
    name ∈ taken ++ (fresh taken ps).map (·.name) ↔ name ∈ taken ∨ ∃ p ∈ ps, p.name = name := by
  rw [List.mem_append]
  constructor
  · rintro (htaken | hfresh)
    · exact .inl htaken
    · obtain ⟨p, hp, hname⟩ := List.mem_map.mp hfresh
      exact .inr ⟨p, firstsBy_subset _ taken ps hp, hname⟩
  · rintro (htaken | ⟨p, hp, rfl⟩)
    · exact .inl htaken
    · exact mem_taken_or_firstsBy taken hp

theorem isWritten_ownField_iff {names : List String} :
    (∀ f ∈ ownField names subject, f.type.IsWritten) ↔
      (subjectFieldName ∉ names → TypeRef.parse subject = .ok (.ofClass subject)) := by
  unfold ownField
  split
  · rename_i hmem
    exact iff_of_true (fun _ hf => absurd hf List.not_mem_nil) fun hfree => absurd hmem hfree
  · rename_i hfree
    rw [List.forall_mem_singleton, ← isWritten_subject_iff]
    exact ⟨fun h _ => h, fun h => h hfree⟩

theorem subjectReadable_iff {c : ClassDecl}
    (hsubject : Text.withoutEnding? c.qualifiedName "Test" = some subject) :
    SubjectReadable index c ↔
      ∀ f ∈ ownField (c.fieldNames ++ (fresh c.fieldNames (subjectPlan index subject)).map
        (·.name)) subject, f.type.IsWritten := by
  rw [isWritten_ownField_iff, mem_names_iff, not_or]
  constructor
  · rintro h ⟨hfree, hplan⟩
    exact h subject hsubject hfree fun p hp hname => hplan ⟨p, hp, hname⟩
  · intro h subject' hsubject' hfree hplan
    cases hsubject.symm.trans hsubject'
    exact h ⟨hfree, fun ⟨p, hp, hname⟩ => hplan p hp hname⟩

end Subject

section Nested

variable {index : ClassIndex} {owner : ClassDecl} {name : String}

theorem isWritten_setupMethod : setupMethod.IsWritten :=
  ⟨fun _ hp => absurd hp List.not_mem_nil, fun _ ht => by cases ht; exact .void⟩

/-- A name with a dot would be taken for a path, and the class for one nested elsewhere. -/
theorem isLoadableIn_behaviourClass :
    IsLoadableIn owner (behaviourClass owner name) ↔ Name.isIdentifier name = true := by
  have hnesting : ClassDecl.nestingFault? owner (behaviourClass owner name) = none ↔
      '.' ∉ name.toList :=
    ClassDecl.nestingFault?_eq_none_iff.trans Name.qualifier?_append_iff
  have hname (hdot : '.' ∉ name.toList) : (behaviourClass owner name).nameFault? = none ↔
      Name.isIdentifier name = true := by
    rw [ClassDecl.nameFault?_eq_none_iff]
    change Name.isIdentifier (ClassDecl.nestedIn owner name).name = true ∧ _ ↔ _
    rw [ClassDecl.nestedIn_name owner hdot]
    exact and_iff_left rfl
  rw [IsLoadableIn, hnesting, ClassDecl.isLoadable_iff]
  constructor
  · rintro ⟨hdot, hfault, -⟩
    exact (hname hdot).mp hfault
  · intro hidentifier
    have hdot := Name.dot_not_mem_of_isIdentifier hidentifier
    refine ⟨hdot, (hname hdot).mpr hidentifier, ?_, ?_, ?_, ?_⟩
    · exact fun _ ht => absurd ht List.not_mem_nil
    · exact fun _ hf => absurd hf List.not_mem_nil
    · exact List.forall_mem_singleton.mpr isWritten_setupMethod
    · exact fun _ hd => absurd hd List.not_mem_nil

end Nested

namespace BehaviourDraft

variable {index : ClassIndex} {draft : BehaviourDraft} {name : String}

theorem isLoadable_addClass_iff :
    (draft.addClass index name).testClass.IsLoadable ↔
      draft.testClass.IsLoadable ∧ (name ∈ draft.taken ∨ Name.isIdentifier name = true) := by
  by_cases h : name ∈ draft.taken
  · rw [addClass_of_taken h, and_iff_left (.inl h)]
  · rw [addClass_of_free h, or_iff_right h]
    apply ClassDecl.isLoadable_withInnerClasses
    rw [List.forall_mem_append, List.forall_mem_singleton, isLoadableIn_behaviourClass]

theorem isLoadable_addParameters_iff (hindex : index.IsWritten) {params : List Parameter}
    (hparams : ∀ p ∈ params, p.type.IsWritten) :
    (draft.addParameters index name params).testClass.IsLoadable ↔
      draft.testClass.IsLoadable := by
  cases h : draft.testClass.innerClass? name with
  | none => rw [addParameters_of_none h]
  | some inner =>
    have hplan : ∀ p ∈ plan index (params.map .ofParameter), p.type.IsWritten := by
      apply isWritten_plan hindex
      intro v hv
      obtain ⟨p, hp, rfl⟩ := List.mem_map.mp hv
      exact hparams p hp
    have hadded := isWritten_declareAll index .nested draft.stream inner.fieldNames hplan
    rw [addParameters_eq h, ← and_true draft.testClass.IsLoadable]
    apply ClassDecl.isLoadable_withInnerClasses
    rw [forall_replaceNamed h (ClassDecl.isLoadableIn_withFields hadded), and_true]

theorem mem_taken_addBehaviour_iff {m : MethodDecl} {n : String} :
    n ∈ (draft.addBehaviour index m).taken ↔
      n = Name.behaviourClass m.name ∨ n ∈ draft.taken := by
  unfold addBehaviour
  dsimp only
  rw [taken_addParameters]
  by_cases h : Name.behaviourClass m.name ∈ draft.taken
  · rw [addClass_of_taken h, or_iff_right_of_imp]
    rintro rfl
    exact h
  · rw [addClass_of_free h]
    exact List.mem_cons

theorem isLoadable_foldl_addBehaviour_iff (hindex : index.IsWritten) {ms : List MethodDecl}
    (hms : ∀ m ∈ ms, m.IsWritten) :
    (ms.foldl (·.addBehaviour index) draft).testClass.IsLoadable ↔
      draft.testClass.IsLoadable ∧ ∀ m ∈ ms, Name.behaviourClass m.name ∈ draft.taken ∨
        Name.isIdentifier (Name.behaviourClass m.name) = true := by
  induction ms generalizing draft with
  | nil => simp
  | cons m ms ih =>
    rw [List.forall_mem_cons] at hms
    have hstep : (draft.addBehaviour index m).testClass.IsLoadable ↔
        draft.testClass.IsLoadable ∧ (Name.behaviourClass m.name ∈ draft.taken ∨
          Name.isIdentifier (Name.behaviourClass m.name) = true) :=
      (isLoadable_addParameters_iff hindex hms.1.params).trans isLoadable_addClass_iff
    rw [List.foldl_cons, ih hms.2, hstep, List.forall_mem_cons, and_assoc]
    refine and_congr_right fun _ => and_congr_right fun hm => forall₂_congr fun m' _ => ?_
    rw [mem_taken_addBehaviour_iff]
    -- A second method of the same behaviour finds the name taken, and the first one answers for it.
    constructor
    · rintro ((heq | htaken) | hidentifier)
      · rwa [heq]
      · exact .inl htaken
      · exact .inr hidentifier
    · rintro (htaken | hidentifier)
      · exact .inl (.inr htaken)
      · exact .inr hidentifier

end BehaviourDraft

/-- If the file has a unit test class then the property holds of it. -/
def OfTestClass (P : ClassDecl → Prop) (file : SourceFile) : Prop :=
  ∀ c, file.testClass? = some c → P c

section Steps

variable {index : ClassIndex} {file : SourceFile} {place : Nat} {c : ClassDecl}
  {P : ClassDecl → Prop}

theorem ofTestClass_iff (h : file.testPlace? = some (place, c)) : OfTestClass P file ↔ P c := by
  rw [OfTestClass, SourceFile.testClass?_eq h]
  exact ⟨fun hP => hP c rfl, fun hc c' heq => Option.some.inj heq ▸ hc⟩

theorem ofTestClass_of_none (h : file.testPlace? = none) : OfTestClass P file := by
  intro c hc
  rw [SourceFile.testClass?, h] at hc
  cases hc

theorem ofTestClass_addRunner
    (hP : ∀ c annotations, P { c with annotations } ↔ P c) :
    OfTestClass P (addRunner index file) ↔ OfTestClass P file := by
  rcases addRunner_cases index file with heq | ⟨place, c, hplace, hmarked⟩
  · rw [heq]
  · have hname : ({ c with annotations := c.annotations ++ [runnerUse] } : ClassDecl).name =
        c.name := rfl
    rw [addRunner_eq hplace hmarked, ofTestClass_iff hplace,
      ofTestClass_iff (SourceFile.testPlace?_update hplace hname), hP]

theorem ofTestClass_addSubjectFields (hP : ∀ c added, P (c.withFields added) ↔ P c)
    (stream : WordStream) :
    OfTestClass P (addSubjectFields index file stream).1 ↔ OfTestClass P file := by
  rcases addSubjectFields_cases index file stream with heq | ⟨place, c, subject, hplace, hsubject⟩
  · rw [heq]
  · rw [addSubjectFields_eq hplace hsubject, ofTestClass_iff hplace,
      ofTestClass_iff (SourceFile.testPlace?_update hplace (ClassDecl.withFields_name c _)), hP]

theorem isLoadable_addRunner_iff : (addRunner index file).IsLoadable ↔ file.IsLoadable := by
  rcases addRunner_cases index file with heq | ⟨place, c, hplace, hmarked⟩
  · rw [heq]
  · rw [addRunner_eq hplace hmarked, ← and_true file.IsLoadable]
    apply SourceFile.isLoadable_update hplace
    rw [ClassDecl.isLoadable_withAnnotations, and_true]

theorem isLoadable_addSubjectFields_iff (hindex : index.IsWritten) (stream : WordStream) :
    (addSubjectFields index file stream).1.IsLoadable ↔
      file.IsLoadable ∧ OfTestClass (SubjectReadable index) file := by
  cases hplace : file.testPlace? with
  | none =>
    rw [addSubjectFields_of_none hplace]
    exact (and_iff_left (ofTestClass_of_none hplace)).symm
  | some found =>
    obtain ⟨place, c⟩ := found
    rw [ofTestClass_iff hplace]
    cases hsubject : Text.withoutEnding? c.qualifiedName "Test" with
    | none =>
      have hreadable : SubjectReadable index c := by
        intro subject hsome
        rw [hsubject] at hsome
        cases hsome
      rw [addSubjectFields_of_other_ending hplace hsubject, and_iff_left hreadable]
    | some subject =>
      rw [addSubjectFields_eq hplace hsubject]
      apply SourceFile.isLoadable_update hplace
      have hplan := isWritten_declareAll index .topLevel stream c.fieldNames
        (isWritten_subjectPlan hindex subject)
      rw [ClassDecl.isLoadable_withFields, List.forall_mem_append, and_iff_right hplan,
        subjectReadable_iff hsubject]

theorem isLoadable_addBehaviours_iff (hindex : index.IsWritten) (stream : WordStream) :
    (addBehaviours index file stream).1.IsLoadable ↔
      file.IsLoadable ∧ OfTestClass (BehavioursNamed index) file := by
  cases hplace : file.testPlace? with
  | none =>
    rw [addBehaviours_of_none hplace]
    exact (and_iff_left (ofTestClass_of_none hplace)).symm
  | some found =>
    obtain ⟨place, c⟩ := found
    rw [ofTestClass_iff hplace]
    cases hsubject : subject? index c with
    | none =>
      have hnamed : BehavioursNamed index c := by
        intro subject hsome
        rw [hsubject] at hsome
        cases hsome
      rw [addBehaviours_of_unresolved hplace hsubject, and_iff_left hnamed]
    | some subject =>
      rw [addBehaviours_of_resolved hplace hsubject]
      apply SourceFile.isLoadable_update hplace
      have hmethods : ∀ m ∈ subject.methods.filter isBehaviour, m.IsWritten := by
        intro m hm
        obtain ⟨entry, hentry, rfl⟩ := mem_of_subject? hsubject
        exact (hindex entry hentry).methods m (List.mem_filter.mp hm).1
      unfold behaviourDraft
      rw [BehaviourDraft.isLoadable_foldl_addBehaviour_iff hindex hmethods]
      refine and_congr_right fun _ => ⟨fun h subject' hsubject' => ?_, fun h => h subject hsubject⟩
      cases hsubject.symm.trans hsubject'
      exact h

end Steps

/-- Over an index of written types the whole scaffolding of a loadable file is loadable if and only
if subject and behaviours have names that can be read back. -/
theorem isLoadable_generate_iff {index : ClassIndex} (hindex : index.IsWritten) (seed : UInt64)
    (file : SourceFile) :
    (generate index seed file).1.IsLoadable ↔
      file.IsLoadable ∧ OfTestClass (SubjectReadable index) file ∧
        OfTestClass (BehavioursNamed index) file := by
  have hreadable : OfTestClass (SubjectReadable index) (addRunner index file) ↔
      OfTestClass (SubjectReadable index) file :=
    ofTestClass_addRunner fun _ _ => .rfl
  have hnamed (stream : WordStream) :
      OfTestClass (BehavioursNamed index)
          (addSubjectFields index (addRunner index file) stream).1 ↔
        OfTestClass (BehavioursNamed index) file := by
    rw [ofTestClass_addSubjectFields fun _ _ => .rfl, ofTestClass_addRunner fun _ _ => .rfl]
  have hstatic (file : SourceFile) :
      (addStaticImports index file).IsLoadable ↔ file.IsLoadable := .rfl
  simp only [generate, allSteps, runSteps, Step.run]
  -- Read from the last step back to the first, each condition about the file as it was then.
  rw [hstatic, isLoadable_addBehaviours_iff hindex, isLoadable_addSubjectFields_iff hindex,
    isLoadable_addRunner_iff, hnamed, hreadable, and_assoc]

end MockScaffold.Scaffold
