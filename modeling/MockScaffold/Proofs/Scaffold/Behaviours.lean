import MockScaffold.Index.Basic
import MockScaffold.Proofs.Name.Dots
import MockScaffold.Proofs.Scaffold.Plan
import MockScaffold.Proofs.SourceFile.Growth
import MockScaffold.Scaffold.Behaviours

namespace MockScaffold.Scaffold

open ClassDecl (NestedGrowth)
open Seeded (WordStream)
open PlannedField (declareAll)

section ReplaceNamed

variable {name : String} {c : ClassDecl} {cs : List ClassDecl}

theorem replaceNamed_growth (h : cs.find? (·.name == name) = some c) (added : List FieldDecl) :
    NestedGrowth cs (replaceNamed name (c.withFields added) cs) := by
  induction cs with
  | nil => cases h
  | cons d cs ih =>
    rw [List.find?_cons] at h
    unfold replaceNamed
    split at h
    · rename_i heq
      cases h
      rw [if_pos heq]
      exact .kept _ added (.refl cs)
    · rename_i hne
      rw [if_neg (by simp [hne])]
      have hd := NestedGrowth.kept d [] (ih h)
      rwa [ClassDecl.withFields_nil] at hd

theorem find?_replaceNamed (h : cs.find? (·.name == name) = some c) {d : ClassDecl}
    (hd : d.name = c.name) : (replaceNamed name d cs).find? (·.name == name) = some d := by
  induction cs with
  | nil => cases h
  | cons e cs ih =>
    rw [List.find?_cons] at h
    unfold replaceNamed
    split at h
    · rename_i heq
      cases h
      rw [if_pos heq, List.find?_cons, hd, heq]
    · rename_i hne
      rw [if_neg (by simp [hne]), List.find?_cons, hne]
      exact ih h

theorem replaceNamed_self (h : cs.find? (·.name == name) = some c) :
    replaceNamed name c cs = cs := by
  induction cs with
  | nil => cases h
  | cons d cs ih =>
    rw [List.find?_cons] at h
    unfold replaceNamed
    split at h
    · rename_i heq
      cases h
      rw [if_pos heq]
    · rename_i hne
      rw [if_neg (by simp [hne]), ih h]

theorem mem_replaceNamed {d e : ClassDecl} (he : e ∈ replaceNamed name d cs) :
    e = d ∨ e ∈ cs := by
  induction cs with
  | nil => cases he
  | cons f cs ih =>
    unfold replaceNamed at he
    split at he
    · rcases List.mem_cons.mp he with rfl | he
      · exact .inl rfl
      · exact .inr (List.mem_cons_of_mem _ he)
    · rcases List.mem_cons.mp he with rfl | he
      · exact .inr List.mem_cons_self
      · exact (ih he).imp_right (List.mem_cons_of_mem _)

theorem forall_replaceNamed {P : ClassDecl → Prop} {d : ClassDecl}
    (h : cs.find? (·.name == name) = some c) (hd : P d ↔ P c) :
    (∀ e ∈ replaceNamed name d cs, P e) ↔ ∀ e ∈ cs, P e := by
  induction cs with
  | nil => cases h
  | cons e cs ih =>
    rw [List.find?_cons] at h
    unfold replaceNamed
    split at h
    · rename_i heq
      cases h
      rw [if_pos heq, List.forall_mem_cons, List.forall_mem_cons, hd]
    · rename_i hne
      rw [if_neg (by simp [hne]), List.forall_mem_cons, List.forall_mem_cons, ih h]

theorem map_name_replaceNamed {d : ClassDecl} (hd : d.name = name) (cs : List ClassDecl) :
    (replaceNamed name d cs).map (·.name) = cs.map (·.name) := by
  induction cs with
  | nil => rfl
  | cons e cs ih =>
    unfold replaceNamed
    split
    · rename_i heq
      rw [List.map_cons, List.map_cons, hd, eq_of_beq heq]
    · rw [List.map_cons, List.map_cons, ih]

end ReplaceNamed

theorem behaviourClass_congr {c d : ClassDecl} (h : d.qualifiedName = c.qualifiedName)
    (name : String) : behaviourClass d name = behaviourClass c name := by
  rw [behaviourClass, ClassDecl.nestedIn, h]
  rfl

/-- The class that a test class is for, as far as nested classes are concerned. -/
def subject? (index : ClassIndex) (testClass : ClassDecl) : Option ClassDecl :=
  (subjectName? testClass.qualifiedName).bind (index.find? · .all)

theorem mem_of_subject? {index : ClassIndex} {testClass subject : ClassDecl}
    (h : subject? index testClass = some subject) :
    ∃ entry ∈ index.entries, entry.decl = subject := by
  obtain ⟨name, -, hfound⟩ := Option.bind_eq_some_iff.mp h
  exact ClassIndex.mem_of_find? hfound

/-- There is a nested class for the method, with all fields that its parameters ask for. -/
def Served (index : ClassIndex) (testClass : ClassDecl) (m : MethodDecl) : Prop :=
  ∃ inner, testClass.innerClass? (Name.behaviourClass m.name) = some inner ∧
    ∀ p ∈ plan index (m.params.map .ofParameter), p.name ∈ inner.fieldNames

theorem Served.of_grows {index : ClassIndex} {c d : ClassDecl} {m : MethodDecl}
    (h : Served index c m) (hgrows : c.Grows d) : Served index d m := by
  obtain ⟨inner, hinner, hplan⟩ := h
  obtain ⟨added, hadded⟩ := hgrows.innerClasses.find? hinner
  refine ⟨inner.withFields added, hadded, fun p hp => ?_⟩
  rw [ClassDecl.withFields_fieldNames]
  exact List.mem_append_left _ (hplan p hp)

namespace BehaviourDraft

variable {index : ClassIndex} {draft : BehaviourDraft} {name : String}

theorem addClass_of_taken (h : name ∈ draft.taken) : draft.addClass index name = draft :=
  if_pos h

theorem addClass_of_free (h : name ∉ draft.taken) :
    draft.addClass index name =
      { draft with
        header := importClass index draft.header Known.beforeEach
        testClass :=
          draft.testClass.withInnerClasses
            (draft.testClass.innerClasses ++ [behaviourClass draft.testClass name])
        taken := name :: draft.taken
        created := draft.created + 1 } :=
  if_neg h

theorem addParameters_of_none (h : draft.testClass.innerClass? name = none)
    (params : List Parameter) : draft.addParameters index name params = draft := by
  simp only [addParameters, h]

theorem addParameters_eq {inner : ClassDecl} (h : draft.testClass.innerClass? name = some inner)
    (params : List Parameter) :
    draft.addParameters index name params =
      let news := fresh inner.fieldNames (plan index (params.map .ofParameter))
      let declared := declareAll index .nested draft.stream news
      { draft with
        header := importAll index draft.header (wantedImports news)
        testClass :=
          draft.testClass.withInnerClasses
            (replaceNamed name (inner.withFields declared.1) draft.testClass.innerClasses)
        stream := declared.2 } := by
  simp only [addParameters, h, Draft.insertMissing_eq]
  rfl

/-- Header and test class grow, and nothing but nested classes is added to the latter. -/
structure Grows (draft draft' : BehaviourDraft) : Prop where
  header : draft.header.Extends draft'.header
  testClass : draft.testClass.Grows draft'.testClass
  annotations : draft'.testClass.annotations = draft.testClass.annotations
  fields : draft'.testClass.fields = draft.testClass.fields

theorem Grows.refl (draft : BehaviourDraft) : draft.Grows draft :=
  ⟨.refl _, .refl _, rfl, rfl⟩

theorem Grows.trans {draft₁ draft₂ draft₃ : BehaviourDraft} (h : draft₁.Grows draft₂)
    (h' : draft₂.Grows draft₃) : draft₁.Grows draft₃ :=
  ⟨h.header.trans h'.header, h.testClass.trans h'.testClass,
    h'.annotations.trans h.annotations, h'.fields.trans h.fields⟩

theorem grows_addClass (index : ClassIndex) (draft : BehaviourDraft) (name : String) :
    draft.Grows (draft.addClass index name) := by
  by_cases h : name ∈ draft.taken
  · rw [addClass_of_taken h]
    exact .refl draft
  · rw [addClass_of_free h]
    exact ⟨extends_importClass _ _ _, .nested (.append _ _), rfl, rfl⟩

theorem grows_addParameters (index : ClassIndex) (draft : BehaviourDraft) (name : String)
    (params : List Parameter) : draft.Grows (draft.addParameters index name params) := by
  cases h : draft.testClass.innerClass? name with
  | none =>
    rw [addParameters_of_none h]
    exact .refl draft
  | some inner =>
    rw [addParameters_eq h]
    exact ⟨extends_importAll _ _ _, .nested (replaceNamed_growth h _), rfl, rfl⟩

theorem grows_addBehaviour (index : ClassIndex) (draft : BehaviourDraft) (m : MethodDecl) :
    draft.Grows (draft.addBehaviour index m) :=
  (grows_addClass index draft _).trans (grows_addParameters index _ _ _)

theorem grows_foldl_addBehaviour (index : ClassIndex) (draft : BehaviourDraft)
    (ms : List MethodDecl) : draft.Grows (ms.foldl (·.addBehaviour index) draft) := by
  induction ms generalizing draft with
  | nil => exact .refl draft
  | cons m ms ih => exact (grows_addBehaviour index draft m).trans (ih _)

/-- Every taken name is that of a nested class, unless it has a dot. -/
def TakenNamed (draft : BehaviourDraft) : Prop :=
  ∀ n ∈ draft.taken, '.' ∉ n.toList → ∃ inner, draft.testClass.innerClass? n = some inner

theorem takenNamed_addClass (hnamed : draft.TakenNamed) (name : String) :
    (draft.addClass index name).TakenNamed := by
  by_cases h : name ∈ draft.taken
  · rwa [addClass_of_taken h]
  · intro n hn hdot
    have hgrows := (grows_addClass index draft name).testClass.innerClasses
    rw [addClass_of_free h] at hn hgrows ⊢
    rcases List.mem_cons.mp hn with rfl | hn
    · have hnew : (behaviourClass draft.testClass n).name = n :=
        ClassDecl.nestedIn_name draft.testClass hdot
      refine ClassDecl.exists_innerClass? (List.mem_map.mpr ⟨_, ?_, hnew⟩)
      exact List.mem_append_right _ List.mem_cons_self
    · obtain ⟨inner, hinner⟩ := hnamed n hn hdot
      obtain ⟨added, hadded⟩ := hgrows.find? hinner
      exact ⟨_, hadded⟩

theorem mem_taken_addClass (index : ClassIndex) (draft : BehaviourDraft) (name : String) :
    name ∈ (draft.addClass index name).taken := by
  by_cases h : name ∈ draft.taken
  · rwa [addClass_of_taken h]
  · rw [addClass_of_free h]
    exact List.mem_cons_self

theorem taken_addParameters (index : ClassIndex) (draft : BehaviourDraft) (name : String)
    (params : List Parameter) :
    (draft.addParameters index name params).taken = draft.taken := by
  unfold addParameters
  dsimp only
  split <;> rfl

theorem takenNamed_addParameters (hnamed : draft.TakenNamed) (params : List Parameter) :
    (draft.addParameters index name params).TakenNamed := by
  intro n hn hdot
  rw [taken_addParameters] at hn
  obtain ⟨inner, hinner⟩ := hnamed n hn hdot
  have hgrows := (grows_addParameters index draft name params).testClass.innerClasses
  obtain ⟨added, hadded⟩ := hgrows.find? hinner
  exact ⟨_, hadded⟩

theorem takenNamed_addBehaviour (hnamed : draft.TakenNamed) (m : MethodDecl) :
    (draft.addBehaviour index m).TakenNamed :=
  takenNamed_addParameters (takenNamed_addClass hnamed _) m.params

theorem served_addBehaviour (hnamed : draft.TakenNamed) {m : MethodDecl}
    (hdot : '.' ∉ m.name.toList) : Served index (draft.addBehaviour index m).testClass m := by
  -- Without a dot in its name the class that was added is the one that is found.
  have hdot' := Name.dot_not_mem_behaviourClass hdot
  have hnamed' : (draft.addClass index (Name.behaviourClass m.name)).TakenNamed :=
    takenNamed_addClass hnamed _
  obtain ⟨inner, hinner⟩ :=
    hnamed' _ (mem_taken_addClass index draft (Name.behaviourClass m.name)) hdot'
  unfold addBehaviour
  dsimp only
  rw [addParameters_eq hinner]
  refine ⟨_, find?_replaceNamed hinner rfl, fun p hp => ?_⟩
  rw [ClassDecl.withFields_fieldNames, PlannedField.map_name_declareAll, List.mem_append]
  exact mem_taken_or_firstsBy inner.fieldNames hp

theorem served_foldl_addBehaviour (hnamed : draft.TakenNamed) {ms : List MethodDecl}
    {m : MethodDecl} (hm : m ∈ ms) (hdot : '.' ∉ m.name.toList) :
    Served index (ms.foldl (·.addBehaviour index) draft).testClass m := by
  induction ms generalizing draft with
  | nil => cases hm
  | cons m' ms ih =>
    rcases List.mem_cons.mp hm with rfl | hm
    · exact (served_addBehaviour hnamed hdot).of_grows
        (grows_foldl_addBehaviour index _ ms).testClass
    · exact ih (takenNamed_addBehaviour hnamed m') hm

theorem addBehaviour_of_served {m : MethodDecl} (hserved : Served index draft.testClass m)
    (htaken : Name.behaviourClass m.name ∈ draft.taken) : draft.addBehaviour index m = draft := by
  obtain ⟨inner, hinner, hplan⟩ := hserved
  unfold addBehaviour
  dsimp only
  have hnone : fresh inner.fieldNames (plan index (m.params.map .ofParameter)) = [] :=
    firstsBy_eq_nil hplan
  rw [addClass_of_taken htaken, addParameters_eq hinner, hnone]
  simp only [declareAll, ClassDecl.withFields_nil, replaceNamed_self hinner,
    ClassDecl.withInnerClasses_self]
  rfl

end BehaviourDraft

/-- The draft that the nested classes of a test class start from. -/
def BehaviourDraft.start (header : FileHeader) (testClass : ClassDecl) (stream : WordStream) :
    BehaviourDraft :=
  { header, testClass, taken := testClass.innerClasses.map (·.name), stream }

/-- The draft in which every behaviour of the subject is served. -/
def behaviourDraft (index : ClassIndex) (header : FileHeader) (testClass subject : ClassDecl)
    (stream : WordStream) : BehaviourDraft :=
  (subject.methods.filter isBehaviour).foldl (·.addBehaviour index)
    (.start header testClass stream)

theorem grows_behaviourDraft (index : ClassIndex) (header : FileHeader)
    (testClass subject : ClassDecl) (stream : WordStream) :
    (BehaviourDraft.start header testClass stream).Grows
      (behaviourDraft index header testClass subject stream) :=
  BehaviourDraft.grows_foldl_addBehaviour index _ _

theorem BehaviourDraft.takenNamed_start (header : FileHeader) (testClass : ClassDecl)
    (stream : WordStream) : (BehaviourDraft.start header testClass stream).TakenNamed :=
  fun _ hn _ => ClassDecl.exists_innerClass? hn

section AddBehaviours

variable {index : ClassIndex} {file : SourceFile} {place : Nat} {c subject : ClassDecl}

theorem addBehaviours_of_none (h : file.testPlace? = none) (stream : WordStream) :
    addBehaviours index file stream = (file, stream) := by
  simp only [addBehaviours, h]

theorem addBehaviours_of_unresolved (h : file.testPlace? = some (place, c))
    (hs : subject? index c = none) (stream : WordStream) :
    addBehaviours index file stream = (file, stream) := by
  rw [subject?] at hs
  simp only [addBehaviours, h, hs]

theorem addBehaviours_cases (index : ClassIndex) (file : SourceFile) (stream : WordStream) :
    addBehaviours index file stream = (file, stream) ∨
      ∃ place c subject, file.testPlace? = some (place, c) ∧ subject? index c = some subject := by
  cases h : file.testPlace? with
  | none => exact .inl (addBehaviours_of_none h stream)
  | some found =>
    obtain ⟨place, c⟩ := found
    cases hs : subject? index c with
    | none => exact .inl (addBehaviours_of_unresolved h hs stream)
    | some subject => exact .inr ⟨place, c, subject, rfl, hs⟩

theorem addBehaviours_of_resolved (h : file.testPlace? = some (place, c))
    (hs : subject? index c = some subject) (stream : WordStream) :
    addBehaviours index file stream =
      let draft := behaviourDraft index file.header c subject stream
      (file.update place
        (if draft.created = 0 then draft.header
          else importClass index draft.header Known.nested) draft.testClass, draft.stream) := by
  rw [subject?] at hs
  simp only [addBehaviours, h, hs]
  rfl

end AddBehaviours

end MockScaffold.Scaffold
