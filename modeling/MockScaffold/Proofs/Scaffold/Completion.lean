import Mathlib.Data.List.Forall2
import MockScaffold.Proofs.Scaffold.Stability

namespace MockScaffold.Scaffold

open ClassDecl (NestedGrowth)
open Seeded (WordStream)
open PlannedField (declareAll)

/-- The names that are not taken, each once, where it first occurs. -/
def newNames (taken names : List String) : List String :=
  (names.filter fun n => decide (n ∉ taken)).eraseDups

section NewNames

variable {taken names : List String} {name : String}

theorem newNames_cons_of_taken (h : name ∈ taken) :
    newNames taken (name :: names) = newNames taken names := by
  simp [newNames, h]

theorem newNames_cons_of_free (h : name ∉ taken) :
    newNames taken (name :: names) = name :: newNames (name :: taken) names := by
  rw [newNames, List.filter_cons, if_pos (by simpa using h), List.eraseDups_cons,
    List.filter_filter, newNames]
  congr 3
  funext n
  rw [Bool.eq_iff_iff]
  simp

end NewNames

def behaviourNames (ms : List MethodDecl) : List String :=
  ms.map fun m => Name.behaviourClass m.name

/-- The field is one that the parameter asks for. -/
def ComesFrom (index : ClassIndex) (p : Parameter) (f : FieldDecl) : Prop :=
  ∃ planned ∈ planned? index (.ofParameter p),
    ∃ stream, f = (planned.declare index .nested stream).1

/-- The class got fields that parameters of methods with its name ask for, and nothing else. -/
def Filled (index : ClassIndex) (ms : List MethodDecl) (c d : ClassDecl) : Prop :=
  ∃ added, d = c.withFields added ∧
    ∀ f ∈ added, ∃ m ∈ ms, Name.behaviourClass m.name = c.name ∧ ∃ p ∈ m.params, ComesFrom index p f

section Filled

variable {index : ClassIndex} {ms : List MethodDecl} {c d : ClassDecl}

theorem Filled.refl (index : ClassIndex) (ms : List MethodDecl) (c : ClassDecl) :
    Filled index ms c c :=
  ⟨[], c.withFields_nil.symm, fun _ hf => absurd hf List.not_mem_nil⟩

theorem Filled.name (h : Filled index ms c d) : d.name = c.name := by
  obtain ⟨added, rfl, -⟩ := h
  rfl

theorem comesFrom_of_mem_declareAll {taken : List String} {params : List Parameter}
    {stream : WordStream} {f : FieldDecl}
    (hf : f ∈ (declareAll index .nested stream
      (fresh taken (plan index (params.map .ofParameter)))).1) :
    ∃ p ∈ params, ComesFrom index p f := by
  obtain ⟨v, hv, planned, hask, s, rfl⟩ := exists_planned_of_mem hf
  obtain ⟨p, hp, rfl⟩ := List.mem_map.mp hv
  exact ⟨p, hp, planned, hask, s, rfl⟩

theorem Filled.withFields {m : MethodDecl} (h : Filled index ms c d) (hm : m ∈ ms)
    (hname : d.name = Name.behaviourClass m.name) (stream : WordStream) :
    Filled index ms c (d.withFields (declareAll index .nested stream
      (fresh d.fieldNames (plan index (m.params.map .ofParameter)))).1) := by
  have hname' := h.name.symm.trans hname
  obtain ⟨added, rfl, hadded⟩ := h
  refine ⟨_, ClassDecl.withFields_withFields _ _ _, fun f hf => ?_⟩
  rcases List.mem_append.mp hf with hf | hf
  · exact hadded f hf
  · exact ⟨m, hm, hname'.symm, comesFrom_of_mem_declareAll hf⟩

end Filled

theorem forall₂_replaceNamed {R : ClassDecl → ClassDecl → Prop} {bases cs : List ClassDecl}
    {name : String} {inner new : ClassDecl} (h : List.Forall₂ R bases cs)
    (hinner : cs.find? (·.name == name) = some inner) (hnew : ∀ base, R base inner → R base new) :
    List.Forall₂ R bases (replaceNamed name new cs) := by
  induction h with
  | nil => cases hinner
  | cons hd htail ih =>
    rw [List.find?_cons] at hinner
    unfold replaceNamed
    split at hinner
    · rename_i heq
      cases hinner
      rw [if_pos heq]
      exact .cons (hnew _ hd) htail
    · rename_i hne
      rw [if_neg (by simp [hne])]
      exact .cons hd (ih hinner)

namespace BehaviourDraft

variable {index : ClassIndex} {draft : BehaviourDraft} {c : ClassDecl} {bases : List ClassDecl}
  {ms : List MethodDecl}

theorem filled_addParameters {m : MethodDecl} (hm : m ∈ ms)
    (h : List.Forall₂ (Filled index ms) bases draft.testClass.innerClasses) :
    List.Forall₂ (Filled index ms) bases
      (draft.addParameters index (Name.behaviourClass m.name) m.params).testClass.innerClasses := by
  cases hinner : draft.testClass.innerClass? (Name.behaviourClass m.name) with
  | none => rwa [addParameters_of_none hinner]
  | some inner =>
    rw [addParameters_eq hinner]
    refine forall₂_replaceNamed h hinner fun base hbase => ?_
    exact hbase.withFields hm (ClassDecl.name_of_innerClass? hinner) draft.stream

/-- The nested classes after some methods are those before, then one for each new name, all of them
filled. -/
theorem filled_foldl_addBehaviour (index : ClassIndex) (draft : BehaviourDraft)
    {all : List MethodDecl} (hsub : ms ⊆ all)
    (hname : draft.testClass.qualifiedName = c.qualifiedName)
    (h : List.Forall₂ (Filled index all) bases draft.testClass.innerClasses) :
    List.Forall₂ (Filled index all)
      (bases ++ (newNames draft.taken (behaviourNames ms)).map (behaviourClass c))
      (ms.foldl (·.addBehaviour index) draft).testClass.innerClasses := by
  induction ms generalizing draft bases with
  | nil => simpa [newNames, behaviourNames] using h
  | cons m ms ih =>
    obtain ⟨hm, hsub⟩ := List.cons_subset.mp hsub
    have hname' := (grows_addBehaviour index draft m).testClass.qualifiedName.trans hname
    have htaken' : (draft.addBehaviour index m).taken =
        (draft.addClass index (Name.behaviourClass m.name)).taken :=
      taken_addParameters index _ _ _
    rw [List.foldl_cons, behaviourNames, List.map_cons]
    -- A free name gets its class at the end, and is taken for the methods that follow.
    by_cases htaken : Name.behaviourClass m.name ∈ draft.taken
    · rw [addClass_of_taken htaken] at htaken'
      rw [newNames_cons_of_taken htaken, ← htaken']
      refine ih _ hsub hname' ?_
      rw [addBehaviour, addClass_of_taken htaken]
      exact filled_addParameters hm h
    · rw [addClass_of_free htaken] at htaken'
      dsimp only at htaken'
      rw [newNames_cons_of_free htaken, List.map_cons, List.append_cons, ← htaken']
      refine ih _ hsub hname' (filled_addParameters hm ?_)
      rw [addClass_of_free htaken, behaviourClass_congr hname]
      exact List.rel_append h (.cons (.refl index all _) .nil)

end BehaviourDraft

theorem filled_behaviourDraft (index : ClassIndex) (header : FileHeader) (c subject : ClassDecl)
    (stream : WordStream) :
    List.Forall₂ (Filled index (subject.methods.filter isBehaviour))
      (c.innerClasses ++ (newNames (c.innerClasses.map (·.name))
        (behaviourNames (subject.methods.filter isBehaviour))).map (behaviourClass c))
      (behaviourDraft index header c subject stream).testClass.innerClasses :=
  BehaviourDraft.filled_foldl_addBehaviour index (.start header c stream) (List.Subset.refl _) rfl
    (List.forall₂_same.mpr fun inner _ => .refl index _ inner)

/-- A class as it is made for a behaviour of this name, but for its fields. -/
structure IsBehaviourClass (owner : ClassDecl) (simple : String) (c : ClassDecl) : Prop where
  name : c.name = simple
  qualifiedName : c.qualifiedName = owner.qualifiedName ++ "." ++ simple
  kind : c.kind = .plain
  modifiers : c.modifiers = { visibility := .packageAccess }
  annotations : c.annotations = [{ name := Known.nested }]
  methods : c.methods =
    [{ name := "setup"
       annotations := [{ name := Known.beforeEach }]
       returnType := some .void }]
  innerClasses : c.innerClasses = []

/-- The fields of the nested class that stands in a place, if there is one. -/
def fieldCountAt (c : ClassDecl) (place : Nat) : Nat :=
  (c.innerClasses[place]?.map (·.fields.length)).getD 0

/-- What the test class `d` is when the behaviours `ms` have been served in `c`. -/
structure CompletedFor (index : ClassIndex) (ms : List MethodDecl) (c d : ClassDecl) : Prop where
  /-- The old nested classes keep their places. -/
  kept : NestedGrowth c.innerClasses d.innerClasses
  /-- The new ones are those of the names that no old one has, in order of first occurrence. -/
  created : List.Forall₂ (IsBehaviourClass c)
    (newNames (c.innerClasses.map (·.name)) (behaviourNames ms))
    (d.innerClasses.drop c.innerClasses.length)
  /-- The first class of a behaviour's name has a field for each value and each mockable type among
  the parameters. -/
  served : ∀ m ∈ ms, ∃ inner, d.innerClass? (Name.behaviourClass m.name) = some inner ∧
    ∀ p ∈ m.params,
      (classify index p.type = .value → inner.hasField (Name.constantName p.name) = true) ∧
        (classify index p.type = .mockable → inner.hasField (Name.decapitalized p.name) = true)
  /-- Every new field comes from a parameter of a behaviour that has the name of its class. -/
  minimal : ∀ (place : Nat) (inner : ClassDecl), d.innerClasses[place]? = some inner →
    ∀ f ∈ inner.fields.drop (fieldCountAt c place),
      ∃ m ∈ ms, Name.behaviourClass m.name = inner.name ∧ ∃ p ∈ m.params, ComesFrom index p f

section Completed

variable {index : ClassIndex} {ms : List MethodDecl} {c d : ClassDecl}

theorem isBehaviourClass_of_filled {name : String} (hdot : '.' ∉ name.toList)
    (h : Filled index ms (behaviourClass c name) d) : IsBehaviourClass c name d := by
  obtain ⟨added, rfl, -⟩ := h
  exact ⟨c.nestedIn_name hdot, rfl, rfl, rfl, rfl, rfl, rfl⟩

theorem Served.hasField {m : MethodDecl} (h : Served index d m) :
    ∃ inner, d.innerClass? (Name.behaviourClass m.name) = some inner ∧
      ∀ p ∈ m.params,
        (classify index p.type = .value → inner.hasField (Name.constantName p.name) = true) ∧
          (classify index p.type = .mockable →
            inner.hasField (Name.decapitalized p.name) = true) := by
  obtain ⟨inner, hinner, hplan⟩ := h
  have hasked {p : Parameter} (hp : p ∈ m.params) {planned : PlannedField}
      (hask : planned? index (.ofParameter p) = some planned) :
      inner.hasField planned.name = true := by
    rw [ClassDecl.hasField_iff]
    exact hplan planned (List.mem_filterMap.mpr ⟨_, List.mem_map_of_mem hp, hask⟩)
  refine ⟨inner, hinner, fun p hp => ⟨fun hvalue => ?_, fun hmockable => ?_⟩⟩
  · have hask : planned? index (.ofParameter p) =
        some ⟨.constant, Name.constantName p.name, p.type⟩ := by
      simp [planned?, Variable.ofParameter, classify_eq_value_iff.mp hvalue]
    exact hasked hp hask
  · have hask : planned? index (.ofParameter p) =
        some ⟨.mock, Name.decapitalized p.name, p.type⟩ := by
      obtain ⟨hvalue, hcollection, hopen⟩ := classify_eq_mockable_iff.mp hmockable
      simp [planned?, Variable.ofParameter, hvalue, hcollection, hopen]
    exact hasked hp hask

theorem dot_not_mem_of_mem_newNames {taken : List String}
    (hdots : ∀ m ∈ ms, '.' ∉ m.name.toList) {n : String}
    (hn : n ∈ newNames taken (behaviourNames ms)) : '.' ∉ n.toList := by
  obtain ⟨m, hm, rfl⟩ := List.mem_map.mp (List.mem_filter.mp (List.mem_eraseDups.mp hn)).1
  exact Name.dot_not_mem_behaviourClass (hdots m hm)

theorem exists_of_forall₂ {R : ClassDecl → ClassDecl → Prop} {bases cs : List ClassDecl}
    {place : Nat} (h : List.Forall₂ R bases cs) (hd : cs[place]? = some d) :
    ∃ base, bases[place]? = some base ∧ R base d := by
  induction h generalizing place with
  | nil => cases hd
  | cons hR _ ih =>
    cases place with
    | zero =>
      cases hd
      exact ⟨_, rfl, hR⟩
    | succ place => exact ih hd

/-- A class that is made for a behaviour starts without fields. -/
theorem fieldCountAt_eq {names : List String} {base : ClassDecl} {place : Nat}
    (h : (c.innerClasses ++ names.map (behaviourClass c))[place]? = some base) :
    fieldCountAt c place = base.fields.length := by
  by_cases hlt : place < c.innerClasses.length
  · rw [List.getElem?_append_left hlt] at h
    rw [fieldCountAt, h]
    rfl
  · rw [Nat.not_lt] at hlt
    rw [List.getElem?_append_right hlt, List.getElem?_map] at h
    obtain ⟨n, -, rfl⟩ := Option.map_eq_some_iff.mp h
    rw [fieldCountAt, List.getElem?_eq_none hlt]
    rfl

/-- What a run of the filled classes says about the whole test class. -/
theorem completedFor_of_filled (hdots : ∀ m ∈ ms, '.' ∉ m.name.toList) (hgrows : c.Grows d)
    (hserved : ∀ m ∈ ms, Served index d m)
    (h : List.Forall₂ (Filled index ms)
      (c.innerClasses ++ (newNames (c.innerClasses.map (·.name)) (behaviourNames ms)).map
        (behaviourClass c)) d.innerClasses) : CompletedFor index ms c d where
  kept := hgrows.innerClasses
  created := by
    -- The classes after the old ones are the filled ones of the new names.
    have hnew := List.forall₂_drop c.innerClasses.length h
    rw [List.drop_left, List.forall₂_map_left_iff] at hnew
    have hboth := (List.forall₂_and_left _ _).mpr
      ⟨fun _ hn => dot_not_mem_of_mem_newNames hdots hn, hnew⟩
    exact hboth.imp fun _ _ hn => isBehaviourClass_of_filled hn.1 hn.2
  served := fun m hm => (hserved m hm).hasField
  minimal := by
    intro place inner hinner f hf
    obtain ⟨base, hbase, added, rfl, hadded⟩ := exists_of_forall₂ h hinner
    rw [fieldCountAt_eq hbase, ClassDecl.withFields_fields, List.drop_left] at hf
    exact hadded f hf

end Completed

/-- If no behaviour of the subject has a dot in its name, each gets its nested class with fields for
its parameters, and no other classes or fields are added. -/
theorem addBehaviours_completes (index : ClassIndex) (file : SourceFile) (stream : WordStream)
    {c subject : ClassDecl} (hclass : file.testClass? = some c)
    (hsubject : subject? index c = some subject)
    (hdots : ∀ m ∈ subject.methods.filter isBehaviour, '.' ∉ m.name.toList) :
    ∃ d, (addBehaviours index file stream).1.testClass? = some d ∧
      CompletedFor index (subject.methods.filter isBehaviour) c d := by
  obtain ⟨⟨place, c⟩, hplace, rfl⟩ := Option.map_eq_some_iff.mp hclass
  dsimp only at hsubject
  have hgrows := grows_behaviourDraft index file.header c subject stream
  have hfilled := filled_behaviourDraft index file.header c subject stream
  rw [addBehaviours_of_resolved hplace hsubject]
  refine ⟨_, SourceFile.testClass?_eq (SourceFile.testPlace?_update hplace hgrows.testClass.name),
    completedFor_of_filled hdots hgrows.testClass (fun m hm => ?_) hfilled⟩
  exact BehaviourDraft.served_foldl_addBehaviour (BehaviourDraft.takenNamed_start _ _ _) hm
    (hdots m hm)

/-- A class of which two behaviours share a name. -/
def cartClass : ClassDecl where
  name := "Cart"
  qualifiedName := "shop.Cart"
  methods :=
    [{ name := "addItem", params := [⟨"id", .ofClass Known.uuid⟩] },
      { name := "addItem", params := [⟨"id", .ofClass Known.uuid⟩, ⟨"when", .ofClass "shop.Day"⟩] },
      { name := "removeItem", params := [⟨"id", .ofClass Known.uuid⟩] }]

/-- A test class that already has a nested class for one of the behaviours. -/
def startedTestClass : ClassDecl where
  name := "CartTest"
  qualifiedName := "shop.CartTest"
  innerClasses := [.ofQualifiedName "shop.CartTest.WhenRemovingItem"]

def startedTest : SourceFile where
  name := "CartTest.java"
  classes := [startedTestClass]

/-- The two behaviours of one name get one class, and the third has its class already. -/
theorem addBehaviours_completes_startedTest :
    let index : ClassIndex := ⟨[⟨cartClass, .project⟩]⟩
    let behaviours := cartClass.methods.filter isBehaviour
    startedTest.testClass? = some startedTestClass ∧
      subject? index startedTestClass = some cartClass ∧
      behaviourNames behaviours = ["WhenAddingItem", "WhenAddingItem", "WhenRemovingItem"] ∧
      newNames ["WhenRemovingItem"] (behaviourNames behaviours) = ["WhenAddingItem"] ∧
      ∃ d, (addBehaviours index startedTest (.ofSeed 3)).1.testClass? = some d ∧
        CompletedFor index behaviours startedTestClass d := by
  intro index behaviours
  have hdots : ∀ m ∈ behaviours, '.' ∉ m.name.toList := by decide
  exact ⟨rfl, rfl, by decide, by decide,
    addBehaviours_completes index startedTest (.ofSeed 3) rfl rfl hdots⟩

end MockScaffold.Scaffold
