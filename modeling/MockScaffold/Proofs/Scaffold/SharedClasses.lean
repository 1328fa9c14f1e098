import MockScaffold.Proofs.Name.Behaviour
import MockScaffold.Proofs.Scaffold.Behaviours

namespace MockScaffold.Scaffold

open Name (IsMethodName SharesClass)
open Seeded (WordStream)

/-- The nested class in which the tests of the behaviour are written. -/
def ServedIn (testClass : ClassDecl) (m : MethodDecl) (inner : ClassDecl) : Prop :=
  testClass.innerClass? (Name.behaviourClass m.name) = some inner

section Served

variable {index : ClassIndex} {c d subject inner inner' : ClassDecl} {m m' : MethodDecl}

theorem ServedIn.eq_iff (h : ServedIn d m inner) (h' : ServedIn d m' inner') :
    inner = inner' ↔ Name.behaviourClass m.name = Name.behaviourClass m'.name := by
  constructor
  · rintro rfl
    rw [← ClassDecl.name_of_innerClass? h, ClassDecl.name_of_innerClass? h']
  · intro hname
    rw [ServedIn, hname] at h
    exact Option.some.inj (h.symm.trans h')

theorem served_addBehaviours (index : ClassIndex) (file : SourceFile) (stream : WordStream)
    (hclass : file.testClass? = some c) (hsubject : subject? index c = some subject) :
    ∃ d, (addBehaviours index file stream).1.testClass? = some d ∧
      ∀ m ∈ subject.methods.filter isBehaviour, '.' ∉ m.name.toList →
        ∃ inner, ServedIn d m inner := by
  obtain ⟨⟨place, c⟩, hplace, rfl⟩ := Option.map_eq_some_iff.mp hclass
  have hgrows := grows_behaviourDraft index file.header c subject stream
  rw [addBehaviours_of_resolved hplace hsubject]
  refine ⟨_, SourceFile.testClass?_eq (SourceFile.testPlace?_update hplace hgrows.testClass.name),
    fun m hm hdot => ?_⟩
  obtain ⟨inner, hinner, -⟩ :=
    BehaviourDraft.served_foldl_addBehaviour (BehaviourDraft.takenNamed_start _ _ _) hm hdot
  exact ⟨inner, hinner⟩

end Served

/-- Two different names lead to one class just if they share it, and so the methods of the class
under test, up to overloads, have nested classes of their own but for those that share one. -/
theorem innerClass_shared_iff :
    (∀ name name' : String, IsMethodName name → IsMethodName name' → name ≠ name' →
      (Name.behaviourClass name = Name.behaviourClass name' ↔
        SharesClass name.toList name'.toList ∨ SharesClass name'.toList name.toList)) ∧
    ∀ (index : ClassIndex) (file : SourceFile) (stream : WordStream) (c subject : ClassDecl),
      file.testClass? = some c → subject? index c = some subject →
      ∃ d, (addBehaviours index file stream).1.testClass? = some d ∧
        ∀ m ∈ subject.methods.filter isBehaviour, ∀ m' ∈ subject.methods.filter isBehaviour,
          IsMethodName m.name → IsMethodName m'.name →
          ∃ inner inner', ServedIn d m inner ∧ ServedIn d m' inner' ∧
            (inner = inner' ↔ m.name = m'.name ∨
              SharesClass m.name.toList m'.name.toList ∨
                SharesClass m'.name.toList m.name.toList) := by
  constructor
  · intro name name' h h' hne
    rw [Name.behaviourClass_eq_iff h h', or_iff_right hne]
  · intro index file stream c subject hclass hsubject
    obtain ⟨d, hd, hserved⟩ := served_addBehaviours index file stream hclass hsubject
    refine ⟨d, hd, fun m hm m' hm' h h' => ?_⟩
    obtain ⟨inner, hinner⟩ := hserved m hm (Name.dot_not_mem_of_isIdentifier h.isIdentifier)
    obtain ⟨inner', hinner'⟩ := hserved m' hm' (Name.dot_not_mem_of_isIdentifier h'.isIdentifier)
    refine ⟨inner, inner', hinner, hinner', ?_⟩
    rw [hinner.eq_iff hinner', Name.behaviourClass_eq_iff h h']

theorem sharesClass_tap_tape : SharesClass "tap".toList "tape".toList :=
  @SharesClass.gerund "tap".toList "tape".toList [] (.dropped (by decide) (by decide) (by decide)
    (by decide)) (by decide) (by decide)

/-- A class with two methods whose verbs have one gerund. -/
def recorderClass : ClassDecl where
  name := "Recorder"
  qualifiedName := "shop.Recorder"
  methods := [{ name := "tap" }, { name := "tape" }]

def recorderTestClass : ClassDecl where
  name := "RecorderTest"
  qualifiedName := "shop.RecorderTest"

def recorderTest : SourceFile where
  name := "RecorderTest.java"
  classes := [recorderTestClass]

/-- The two methods get one nested class. -/
theorem innerClass_shared_iff_recorder :
    let index : ClassIndex := ⟨[⟨recorderClass, .project⟩]⟩
    recorderTest.testClass? = some recorderTestClass ∧
      subject? index recorderTestClass = some recorderClass ∧
      Name.behaviourClass "tap" = Name.behaviourClass "tape" ∧
      ∃ d inner, (addBehaviours index recorderTest (.ofSeed 3)).1.testClass? = some d ∧
        ServedIn d { name := "tap" } inner ∧ ServedIn d { name := "tape" } inner := by
  intro index
  have hshares : SharesClass "tap".toList "tape".toList ∨ SharesClass "tape".toList "tap".toList :=
    .inl sharesClass_tap_tape
  have hname : Name.behaviourClass "tap" = Name.behaviourClass "tape" :=
    (innerClass_shared_iff.1 "tap" "tape" (by decide) (by decide) (by decide)).mpr hshares
  have hms : recorderClass.methods.filter isBehaviour = [{ name := "tap" }, { name := "tape" }] :=
    rfl
  obtain ⟨d, hd, hserved⟩ := innerClass_shared_iff.2 index recorderTest (.ofSeed 3)
    recorderTestClass recorderClass rfl rfl
  rw [hms] at hserved
  obtain ⟨inner, inner', hinner, hinner', hiff⟩ := hserved _ List.mem_cons_self _
    (List.mem_cons_of_mem _ List.mem_cons_self) (by decide) (by decide)
  cases hiff.mpr (.inr hshares)
  exact ⟨rfl, rfl, hname, d, inner, hd, hinner, hinner'⟩

/-- Methods that are no overloads of each other can share a nested class. -/
theorem not_forall_behaviourClass_ne :
    ¬∀ name name' : String, IsMethodName name → IsMethodName name' → name ≠ name' →
      Name.behaviourClass name ≠ Name.behaviourClass name' := by
  intro h
  exact h "tap" "tape" (by decide) (by decide) (by decide) (by decide)

end MockScaffold.Scaffold
