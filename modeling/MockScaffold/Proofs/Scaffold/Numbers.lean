import MockScaffold.Proofs.Scaffold.Growth
import MockScaffold.Proofs.SourceFile.Numbers

namespace MockScaffold.Scaffold

open ClassDecl (withoutNumbers)
open Seeded (WordStream)
open PlannedField (declareAll)

section Declared

variable (index : ClassIndex) (placement : Placement)

theorem initializer_eq {type : TypeRef} (h : type.primitive?.any (·.isNumeric) = false)
    (fieldName : String) (stream stream' : WordStream) :
    (initializer index type fieldName stream).1 = (initializer index type fieldName stream').1 := by
  cases type with
  | primitive p =>
    cases p with
    | boolean => rfl
    | char => rfl
    | byte | short | int | long | float | double => exact absurd h (by decide)
  | void => rfl
  | array element => rfl
  | named name args =>
    unfold initializer
    dsimp only
    cases index.resolve? (.named name args) .all with
    | none => rfl
    | some c => cases hc : c.isEnum <;> simp [hc]

theorem withoutNumber_declare (stream stream' : WordStream) (p : PlannedField) :
    (p.declare index placement stream).1.withoutNumber =
      (p.declare index placement stream').1.withoutNumber := by
  unfold PlannedField.declare
  cases p.kind with
  | mock => rfl
  | constant =>
    cases h : p.type.primitive?.any (·.isNumeric) with
    | true => simp [FieldDecl.withoutNumber, h]
    | false => simp [initializer_eq index h p.name stream stream']

theorem withoutNumber_declareAll (stream stream' : WordStream) (ps : List PlannedField) :
    (declareAll index placement stream ps).1.map (·.withoutNumber) =
      (declareAll index placement stream' ps).1.map (·.withoutNumber) := by
  induction ps generalizing stream stream' with
  | nil => rfl
  | cons p ps ih =>
    simp only [declareAll, List.map_cons]
    rw [withoutNumber_declare index placement stream stream' p, ih _ (p.declare _ _ stream').2]

end Declared

section Steps

variable {index : ClassIndex} {file file' : SourceFile}

theorem alike_addRunner (h : file.Alike file') :
    (addRunner index file).Alike (addRunner index file') := by
  cases hplace : file.testPlace? with
  | none => rwa [addRunner_of_none hplace, addRunner_of_none (h.testPlace?_none hplace)]
  | some found =>
    obtain ⟨place, c⟩ := found
    obtain ⟨c', hplace', hclass⟩ := h.testPlace? hplace
    cases hmarked : c.isMarkedWith Known.extendWith with
    | true =>
      rwa [addRunner_of_marked hplace hmarked,
        addRunner_of_marked hplace' (hclass.isMarkedWith _ ▸ hmarked)]
    | false =>
      rw [addRunner_eq hplace hmarked, addRunner_eq hplace' (hclass.isMarkedWith _ ▸ hmarked),
        h.header, hclass.annotations]
      exact h.update place _ (hclass.withAnnotations _)

theorem alike_addSubjectFields (h : file.Alike file') (stream stream' : WordStream) :
    (addSubjectFields index file stream).1.Alike (addSubjectFields index file' stream').1 := by
  cases hplace : file.testPlace? with
  | none =>
    rwa [addSubjectFields_of_none hplace, addSubjectFields_of_none (h.testPlace?_none hplace)]
  | some found =>
    obtain ⟨place, c⟩ := found
    obtain ⟨c', hplace', hclass⟩ := h.testPlace? hplace
    have hname := hclass.qualifiedName
    cases hsubject : Text.withoutEnding? c.qualifiedName "Test" with
    | none =>
      rwa [addSubjectFields_of_other_ending hplace hsubject,
        addSubjectFields_of_other_ending hplace' (hname ▸ hsubject)]
    | some subject =>
      rw [addSubjectFields_eq hplace hsubject, addSubjectFields_eq hplace' (hname ▸ hsubject),
        h.header, hclass.fieldNames]
      refine h.update place _ (hclass.withFields ?_)
      rw [List.map_append, List.map_append, withoutNumber_declareAll index _ stream stream']

end Steps

/-- The same draft but for the stream and for numbers in the nested classes. -/
structure BehaviourDraft.Alike (draft draft' : BehaviourDraft) : Prop where
  header : draft.header = draft'.header
  testClass : draft.testClass.Alike draft'.testClass
  taken : draft.taken = draft'.taken
  created : draft.created = draft'.created

namespace BehaviourDraft

variable {index : ClassIndex} {draft draft' : BehaviourDraft}

theorem map_replaceNamed (name : String) (c : ClassDecl) (cs : List ClassDecl) :
    (replaceNamed name c cs).map withoutNumbers =
      replaceNamed name c.withoutNumbers (cs.map withoutNumbers) := by
  induction cs with
  | nil => rfl
  | cons d cs ih =>
    rw [replaceNamed, List.map_cons, replaceNamed, ClassDecl.withoutNumbers_name]
    split
    · rfl
    · rw [List.map_cons, ih]

theorem alike_addClass (h : draft.Alike draft') (name : String) :
    (draft.addClass index name).Alike (draft'.addClass index name) := by
  by_cases htaken : name ∈ draft.taken
  · rwa [addClass_of_taken htaken, addClass_of_taken (h.taken ▸ htaken)]
  · rw [addClass_of_free htaken, addClass_of_free (h.taken ▸ htaken)]
    have hnew := behaviourClass_congr h.testClass.qualifiedName name
    refine ⟨?_, h.testClass.withInnerClasses ?_, ?_, ?_⟩
    · rw [h.header]
    · rw [List.map_append, List.map_append, h.testClass.innerClasses, hnew]
    · rw [h.taken]
    · rw [h.created]

theorem alike_addParameters (h : draft.Alike draft') (name : String)
    (params : List Parameter) :
    (draft.addParameters index name params).Alike (draft'.addParameters index name params) := by
  have hfound := congrArg (List.find? (·.name == name)) h.testClass.innerClasses
  rw [ClassDecl.find?_map_withoutNumbers, ClassDecl.find?_map_withoutNumbers] at hfound
  cases hinner : draft.testClass.innerClass? name with
  | none =>
    rw [ClassDecl.innerClass?] at hinner
    rw [hinner, Option.map_none, eq_comm, Option.map_eq_none_iff] at hfound
    rwa [addParameters_of_none hinner, addParameters_of_none hfound]
  | some inner =>
    rw [ClassDecl.innerClass?] at hinner
    rw [hinner, Option.map_some, eq_comm, Option.map_eq_some_iff] at hfound
    obtain ⟨inner', hinner', halike⟩ := hfound
    have halike : inner.Alike inner' := halike.symm
    rw [addParameters_eq hinner, addParameters_eq hinner', halike.fieldNames, h.header]
    refine ⟨rfl, h.testClass.withInnerClasses ?_, h.taken, h.created⟩
    have hfilled := halike.withFields (withoutNumber_declareAll index .nested draft.stream
      draft'.stream (fresh inner'.fieldNames (plan index (params.map .ofParameter))))
    rw [ClassDecl.Alike] at hfilled
    rw [map_replaceNamed, map_replaceNamed, h.testClass.innerClasses, hfilled]

theorem alike_foldl_addBehaviour (index : ClassIndex) (h : draft.Alike draft')
    (ms : List MethodDecl) :
    (ms.foldl (·.addBehaviour index) draft).Alike (ms.foldl (·.addBehaviour index) draft') := by
  induction ms generalizing draft draft' with
  | nil => exact h
  | cons m ms ih => exact ih (alike_addParameters (alike_addClass h _) _ m.params)

end BehaviourDraft

section Runs

variable {index : ClassIndex} {file file' : SourceFile}

theorem alike_addBehaviours (h : file.Alike file') (stream stream' : WordStream) :
    (addBehaviours index file stream).1.Alike (addBehaviours index file' stream').1 := by
  cases hplace : file.testPlace? with
  | none => rwa [addBehaviours_of_none hplace, addBehaviours_of_none (h.testPlace?_none hplace)]
  | some found =>
    obtain ⟨place, c⟩ := found
    obtain ⟨c', hplace', hclass⟩ := h.testPlace? hplace
    have hsame : subject? index c' = subject? index c := by
      rw [subject?, subject?, hclass.qualifiedName]
    cases hsubject : subject? index c with
    | none =>
      rwa [addBehaviours_of_unresolved hplace hsubject,
        addBehaviours_of_unresolved hplace' (hsame.trans hsubject)]
    | some subject =>
      rw [addBehaviours_of_resolved hplace hsubject,
        addBehaviours_of_resolved hplace' (hsame.trans hsubject)]
      have hstart : (BehaviourDraft.start file.header c stream).Alike
          (.start file'.header c' stream') := by
        refine ⟨h.header, hclass, ?_, rfl⟩
        have hnames := congrArg (List.map ClassDecl.name) hclass.innerClasses
        simpa [BehaviourDraft.start, Function.comp_def] using hnames
      have hdraft := BehaviourDraft.alike_foldl_addBehaviour index hstart
        (subject.methods.filter isBehaviour)
      dsimp only [behaviourDraft]
      rw [hdraft.header, hdraft.created]
      exact h.update place _ hdraft.testClass

theorem alike_addStaticImports (h : file.Alike file') :
    (addStaticImports index file).Alike (addStaticImports index file') := by
  unfold addStaticImports
  rw [h.header]
  exact h.withHeader _

theorem Step.alike_run (step : Step) (index : ClassIndex) (h : file.Alike file')
    (stream stream' : WordStream) :
    (step.run index file stream).1.Alike (step.run index file' stream').1 := by
  cases step with
  | runner => exact alike_addRunner h
  | fields => exact alike_addSubjectFields h stream stream'
  | nested => exact alike_addBehaviours h stream stream'
  | staticImports => exact alike_addStaticImports h

/-- Runs of the same steps lead to alike files, whatever the streams. -/
theorem alike_runEach (h : file.Alike file') {runs runs' : List (Step × WordStream)}
    (hsteps : runs.map (·.1) = runs'.map (·.1)) :
    (runEach index runs file).Alike (runEach index runs' file') := by
  induction runs generalizing file file' runs' with
  | nil =>
    rw [List.map_nil, eq_comm, List.map_eq_nil_iff] at hsteps
    rwa [hsteps]
  | cons run runs ih =>
    cases runs' with
    | nil => cases hsteps
    | cons run' runs' =>
      rw [List.map_cons, List.map_cons, List.cons.injEq] at hsteps
      have hrun := run.1.alike_run index h run.2 run'.2
      rw [runEach, runEach, ← hsteps.1]
      exact ih hrun hsteps.2

theorem alike_generate (index : ClassIndex) (seed seed' : UInt64) (file : SourceFile) :
    (generate index seed file).1.Alike (generate index seed' file).1 := by
  obtain ⟨runs, hruns, heq⟩ := runSteps_eq_runEach index allSteps file (.ofSeed seed)
  obtain ⟨runs', hruns', heq'⟩ := runSteps_eq_runEach index allSteps file (.ofSeed seed')
  change (runSteps index allSteps file (.ofSeed seed)).1.Alike
    (runSteps index allSteps file (.ofSeed seed')).1
  rw [heq, heq']
  exact alike_runEach rfl (hruns.trans hruns'.symm)

end Runs

/-- From two seeds come the same files but for the numbers that new fields start with, and the same
summaries. -/
theorem generate_seed_only_in_numbers (index : ClassIndex) (seed seed' : UInt64)
    (file : SourceFile) :
    SourceFile.withoutNewNumbers file (generate index seed file).1 =
        SourceFile.withoutNewNumbers file (generate index seed' file).1 ∧
      (generate index seed file).2 = (generate index seed' file).2 := by
  have halike := alike_generate index seed seed' file
  have hgrows (s : UInt64) : file.Grows (generate index s file).1 :=
    grows_runSteps index allSteps file (.ofSeed s)
  refine ⟨(hgrows seed).withoutNewNumbers_eq (hgrows seed') halike, ?_⟩
  exact congrArg (Summary.between file.tally) halike.tally

end MockScaffold.Scaffold
