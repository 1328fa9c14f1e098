import MockScaffold.Proofs.Index.Agreement
import MockScaffold.Proofs.Scaffold.Behaviours
import MockScaffold.Scaffold.Report

namespace MockScaffold.Scaffold

open ClassDecl (congr_outline)
open PlannedField (declareAll)

/-- No generated method is a behaviour. -/
theorem filter_isBehaviour_sourceMethods (c : ClassDecl) :
    c.sourceMethods.filter isBehaviour = c.methods.filter isBehaviour := by
  rw [ClassDecl.sourceMethods, List.filter_filter]
  refine List.filter_congr fun m _ => ?_
  cases hgenerated : m.origin.isGenerated <;> simp [isBehaviour, hgenerated]

variable {index index' : ClassIndex} (h : index.Agree index')
include h

section Category

theorem isValueType_congr : isValueType index = isValueType index' := by
  funext type
  rw [isValueType, isValueType, ClassIndex.isEnumType_congr h]

theorem isCollection_congr : isCollection index = isCollection index' := by
  funext type
  rw [isCollection, isCollection, ClassIndex.superTypeTexts_congr h]

theorem element?_congr : element? index = element? index' := by
  funext type
  unfold element?
  rcases h.resolve?_cases type .all with ⟨hc, hc'⟩ | ⟨c, c', hc, hc', houtline⟩
  · rw [hc, hc']
  · have hsuper : c.superTypes = c'.superTypes := congr_outline (fun _ => rfl) houtline
    rw [hc, hc', Option.bind_some, Option.bind_some, hsuper]

theorem isOpen_congr : isOpen index = isOpen index' := by
  funext type
  unfold isOpen
  rcases h.resolve?_cases type .all with ⟨hc, hc'⟩ | ⟨c, c', hc, hc', houtline⟩
  · rw [hc, hc']
  · have hfinal : c.modifiers = c'.modifiers := congr_outline (fun _ => rfl) houtline
    rw [hc, hc']
    dsimp only
    rw [hfinal]

end Category

section Imports

theorem importClass_congr : importClass index = importClass index' := by
  funext header q
  rw [importClass, importClass, needsImport, needsImport, h.isSome_find?]

theorem importAll_congr : importAll index = importAll index' := by
  funext header names
  rw [importAll, importAll, importClass_congr h]

theorem importStatic_congr : importStatic index = importStatic index' := by
  funext header className member
  rw [importStatic, importStatic, h.isSome_find?]

end Imports

section Fields

theorem plan_congr : plan index = plan index' := by
  have helement : plannedElement? index = plannedElement? index' := by
    funext element
    rw [plannedElement?, plannedElement?, isValueType_congr h, isOpen_congr h]
  have hplanned : planned? index = planned? index' := by
    funext v
    rw [planned?, planned?, isValueType_congr h, isCollection_congr h, element?_congr h,
      isOpen_congr h, helement]
  funext vars
  rw [plan, plan, hplanned]

theorem initializer_congr : initializer index = initializer index' := by
  funext type fieldName stream
  cases type with
  | primitive p => rfl
  | _ =>
    unfold initializer
    dsimp only
    rcases h.resolve?_cases _ .all with ⟨hc, hc'⟩ | ⟨c, c', hc, hc', houtline⟩
    · rw [hc, hc']
    · have henum : c.isEnum = c'.isEnum := congr_outline (fun _ => rfl) houtline
      have hliteral : enumLiteral c = enumLiteral c' := congr_outline (fun _ => rfl) houtline
      rw [hc, hc']
      dsimp only
      rw [henum, hliteral]

theorem declareAll_congr : declareAll index = declareAll index' := by
  funext placement stream ps
  induction ps generalizing stream with
  | nil => rfl
  | cons p ps ih =>
    rw [declareAll, declareAll, PlannedField.declare, PlannedField.declare, initializer_congr h]
    simp only [ih]

theorem insertMissing_congr : Draft.insertMissing index = Draft.insertMissing index' := by
  funext placement draft vars
  rw [Draft.insertMissing_eq, Draft.insertMissing_eq, plan_congr h, importAll_congr h,
    declareAll_congr h]

theorem addStandIns_congr : addStandIns index = addStandIns index' := by
  funext subject draft
  unfold addStandIns
  rcases h.find?_cases subject .all with ⟨hc, hc'⟩ | ⟨c, c', hc, hc', houtline⟩
  · rw [hc, hc']
  · rw [hc, hc']
    dsimp only
    rw [insertMissing_congr h, ClassIndex.allFields_congr h houtline]

end Fields

section Steps

theorem addRunner_congr : addRunner index = addRunner index' := by
  funext file
  rw [addRunner, addRunner, importClass_congr h]

theorem addSubjectFields_congr : addSubjectFields index = addSubjectFields index' := by
  funext file stream
  rw [addSubjectFields, addSubjectFields, addStandIns_congr h, importClass_congr h]
  simp only [h.isSome_find?]

theorem addBehaviour_congr :
    BehaviourDraft.addBehaviour index = BehaviourDraft.addBehaviour index' := by
  funext draft m
  rw [BehaviourDraft.addBehaviour, BehaviourDraft.addBehaviour, BehaviourDraft.addParameters,
    BehaviourDraft.addParameters, BehaviourDraft.addClass, BehaviourDraft.addClass,
    insertMissing_congr h, importClass_congr h]

theorem subject?_cases (c : ClassDecl) :
    subject? index c = none ∧ subject? index' c = none ∨
      ∃ subject subject', subject? index c = some subject ∧ subject? index' c = some subject' ∧
        subject.outline = subject'.outline := by
  unfold subject?
  cases subjectName? c.qualifiedName with
  | none => exact .inl ⟨rfl, rfl⟩
  | some name => exact h.find?_cases name .all

theorem addBehaviours_congr : addBehaviours index = addBehaviours index' := by
  funext file stream
  cases hplace : file.testPlace? with
  | none => rw [addBehaviours_of_none hplace, addBehaviours_of_none hplace]
  | some found =>
    obtain ⟨place, c⟩ := found
    rcases subject?_cases h c with ⟨hs, hs'⟩ | ⟨subject, subject', hs, hs', houtline⟩
    · rw [addBehaviours_of_unresolved hplace hs, addBehaviours_of_unresolved hplace hs']
    · have hbehaviours : subject.methods.filter isBehaviour = subject'.methods.filter isBehaviour :=
        congr_outline (f := fun c => c.methods.filter isBehaviour)
          filter_isBehaviour_sourceMethods houtline
      rw [addBehaviours_of_resolved hplace hs, addBehaviours_of_resolved hplace hs',
        behaviourDraft, behaviourDraft, hbehaviours, addBehaviour_congr h, importClass_congr h]

theorem addStaticImports_congr : addStaticImports index = addStaticImports index' := by
  funext file
  rw [addStaticImports, addStaticImports, importMockito, importMockito, importAssertThat,
    importAssertThat, importStatic_congr h]

theorem Step.run_congr (step : Step) : step.run index = step.run index' := by
  funext file stream
  cases step with
  | runner => exact congrArg (·, stream) (congrFun (addRunner_congr h) file)
  | fields => exact congrFun (congrFun (addSubjectFields_congr h) file) stream
  | nested => exact congrFun (congrFun (addBehaviours_congr h) file) stream
  | staticImports => exact congrArg (·, stream) (congrFun (addStaticImports_congr h) file)

theorem runSteps_congr : runSteps index = runSteps index' := by
  funext steps
  induction steps with
  | nil => rfl
  | cons step steps ih =>
    funext file stream
    rw [runSteps, runSteps, Step.run_congr h, ih]

theorem generate_congr : generate index = generate index' := by
  funext seed file
  rw [generate, generate, runSteps_congr h]

end Steps

end MockScaffold.Scaffold
