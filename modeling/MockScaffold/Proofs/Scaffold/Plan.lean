import MockScaffold.Proofs.Decl.Growth
import MockScaffold.Proofs.List.Firsts
import MockScaffold.Proofs.Scaffold.Imports
import MockScaffold.Scaffold.Category
import MockScaffold.Scaffold.Synthesis

namespace MockScaffold.Scaffold

open Seeded (WordStream)

inductive FieldKind where
  | mock
  | constant
  deriving DecidableEq, Repr

structure PlannedField where
  kind : FieldKind
  name : String
  type : TypeRef
  deriving Repr

def plannedElement? (index : ClassIndex) (element : TypeRef) : Option PlannedField :=
  if isValueType index element then
    some ⟨.constant, Draft.elementConstantName element, element⟩
  else if isOpen index element then
    some ⟨.mock, Name.decapitalized (fieldName element), element⟩
  else none

/-- The field that a variable asks for, if any. -/
def planned? (index : ClassIndex) (v : Variable) : Option PlannedField :=
  if v.isStatic then none
  else if isValueType index v.type then some ⟨.constant, Name.constantName v.name, v.type⟩
  else if isCollection index v.type then (element? index v.type).bind (plannedElement? index)
  else if isOpen index v.type then some ⟨.mock, Name.decapitalized v.name, v.type⟩
  else none

/-- The ways in which a field comes to stand for a variable, of which an element that is open and
no value is mocked even where it is a collection itself. -/
inductive StandsFor (index : ClassIndex) (v : Variable) : PlannedField → Prop
  | value (hvalue : isValueType index v.type = true) :
      StandsFor index v ⟨.constant, Name.constantName v.name, v.type⟩
  | mock (hvalue : isValueType index v.type = false)
      (hcollection : isCollection index v.type = false) (hopen : isOpen index v.type = true) :
      StandsFor index v ⟨.mock, Name.decapitalized v.name, v.type⟩
  | elementValue {element : TypeRef} (hcollection : isCollection index v.type = true)
      (helement : element? index v.type = some element)
      (hvalue : isValueType index element = true) :
      StandsFor index v ⟨.constant, Draft.elementConstantName element, element⟩
  | elementMock {element : TypeRef} (hcollection : isCollection index v.type = true)
      (helement : element? index v.type = some element)
      (hvalue : isValueType index element = false) (hopen : isOpen index element = true) :
      StandsFor index v ⟨.mock, Name.decapitalized (fieldName element), element⟩

theorem standsFor_of_planned? {index : ClassIndex} {v : Variable} {p : PlannedField}
    (h : planned? index v = some p) : v.isStatic = false ∧ StandsFor index v p := by
  unfold planned? at h
  split at h
  · cases h
  rename_i hstatic
  refine ⟨Bool.eq_false_iff.mpr hstatic, ?_⟩
  cases hvalue : isValueType index v.type with
  | true =>
    rw [hvalue] at h
    cases h
    exact .value hvalue
  | false =>
    cases hcollection : isCollection index v.type with
    | true =>
      rw [hvalue, hcollection] at h
      obtain ⟨element, helement, h⟩ := Option.bind_eq_some_iff.mp h
      unfold plannedElement? at h
      split at h
      · rename_i hvalue
        cases h
        exact .elementValue hcollection helement hvalue
      · rename_i hvalue
        split at h
        · rename_i hopen
          cases h
          exact .elementMock hcollection helement (Bool.eq_false_iff.mpr hvalue) hopen
        · cases h
    | false =>
      cases hopen : isOpen index v.type with
      | true =>
        rw [hvalue, hcollection, hopen] at h
        cases h
        exact .mock hvalue hcollection hopen
      | false =>
        rw [hvalue, hcollection, hopen] at h
        cases h

def plan (index : ClassIndex) (vars : List Variable) : List PlannedField :=
  vars.filterMap (planned? index)

abbrev fresh (taken : List String) (ps : List PlannedField) : List PlannedField :=
  firstsBy (·.name) taken ps

namespace PlannedField

/-- The declared field, where only a constant can draw from the stream. -/
def declare (index : ClassIndex) (placement : Placement) (stream : WordStream)
    (p : PlannedField) : FieldDecl × WordStream :=
  match p.kind with
  | .mock =>
    ({ name := p.name, type := p.type
       modifiers := { visibility := .privateAccess }
       annotations := [{ name := Known.mock }] }, stream)
  | .constant =>
    let (value, stream) := initializer index p.type p.name stream
    ({ name := p.name, type := p.type
       modifiers :=
         { visibility := .privateAccess, isStatic := placement == .topLevel, isFinal := true }
       initializer := some value }, stream)

def declareAll (index : ClassIndex) (placement : Placement) (stream : WordStream) :
    List PlannedField → List FieldDecl × WordStream
  | [] => ([], stream)
  | p :: ps =>
    let (field, stream) := p.declare index placement stream
    let (fields, stream) := declareAll index placement stream ps
    (field :: fields, stream)

variable (index : ClassIndex) (placement : Placement)

theorem declare_name (stream : WordStream) (p : PlannedField) :
    (p.declare index placement stream).1.name = p.name := by
  unfold declare
  split <;> rfl

theorem declare_type (stream : WordStream) (p : PlannedField) :
    (p.declare index placement stream).1.type = p.type := by
  unfold declare
  split <;> rfl

theorem map_name_declareAll (stream : WordStream) (ps : List PlannedField) :
    (declareAll index placement stream ps).1.map (·.name) = ps.map (·.name) := by
  induction ps generalizing stream with
  | nil => rfl
  | cons p ps ih => simp [declareAll, declare_name, ih]

theorem mem_declareAll {stream : WordStream} {ps : List PlannedField} {f : FieldDecl}
    (hf : f ∈ (declareAll index placement stream ps).1) :
    ∃ p ∈ ps, ∃ s, f = (p.declare index placement s).1 := by
  induction ps generalizing stream with
  | nil => cases hf
  | cons p ps ih =>
    rcases List.mem_cons.mp hf with rfl | hf
    · exact ⟨p, List.mem_cons_self, stream, rfl⟩
    · obtain ⟨p', hp', s, rfl⟩ := ih hf
      exact ⟨p', List.mem_cons_of_mem _ hp', s, rfl⟩

end PlannedField

open PlannedField (declareAll)

theorem exists_planned_of_mem {index : ClassIndex} {placement : Placement} {stream : WordStream}
    {taken : List String} {vars : List Variable} {f : FieldDecl}
    (hf : f ∈ (declareAll index placement stream (fresh taken (plan index vars))).1) :
    ∃ v ∈ vars, ∃ p, planned? index v = some p ∧ ∃ s, f = (p.declare index placement s).1 := by
  obtain ⟨p, hp, s, rfl⟩ := PlannedField.mem_declareAll index placement hf
  obtain ⟨v, hv, hplanned⟩ := List.mem_filterMap.mp (firstsBy_subset _ taken _ hp)
  exact ⟨v, hv, p, hplanned, s, rfl⟩

/-- The classes that the fields of a plan want imported. -/
def wantedImports (ps : List PlannedField) : List String :=
  ps.flatMap (·.type.classNames) ++ if ps.any (·.kind == .mock) then [Known.mock] else []

namespace Draft

variable (index : ClassIndex) (placement : Placement)

def place (draft : Draft) (p : PlannedField) : Draft :=
  if p.name ∈ draft.taken then draft
  else
    let (field, stream) := p.declare index placement draft.stream
    { header := importType index draft.header p.type
      target := draft.target.withFields [field]
      taken := p.name :: draft.taken
      stream
      mocks := draft.mocks + if p.kind == .mock then 1 else 0
      constants := draft.constants + if p.kind == .constant then 1 else 0 }

theorem addMock_eq_place (draft : Draft) (type : TypeRef) (name : String) :
    draft.addMock index type name =
      draft.place index placement ⟨.mock, Name.decapitalized name, type⟩ :=
  rfl

theorem addConstant_eq_place (draft : Draft) (type : TypeRef) (name : String) :
    draft.addConstant index placement type name =
      draft.place index placement ⟨.constant, name, type⟩ :=
  rfl

theorem addVariable_eq (draft : Draft) (v : Variable) :
    draft.addVariable index placement v =
      (planned? index v).elim draft (draft.place index placement) := by
  unfold addVariable planned? classify
  cases v.isStatic with
  | true => rfl
  | false =>
    cases isValueType index v.type with
    | true => exact addConstant_eq_place index placement draft v.type _
    | false =>
      cases isCollection index v.type with
      | true =>
        cases element? index v.type with
        | none => rfl
        | some element =>
          simp only [Bool.false_eq_true, if_false, if_true, Option.bind_some, plannedElement?]
          split
          · exact addConstant_eq_place index placement draft element _
          · split
            · exact addMock_eq_place index placement draft element _
            · rfl
      | false =>
        cases isOpen index v.type with
        | true => exact addMock_eq_place index placement draft v.type v.name
        | false => rfl

theorem foldl_addVariable (draft : Draft) (vars : List Variable) :
    vars.foldl (addVariable index placement) draft =
      (plan index vars).foldl (place index placement) draft := by
  induction vars generalizing draft with
  | nil => rfl
  | cons v vars ih =>
    rw [List.foldl_cons, ih, addVariable_eq]
    unfold plan
    rw [List.filterMap_cons]
    cases planned? index v <;> rfl

theorem place_of_taken {draft : Draft} {p : PlannedField} (h : p.name ∈ draft.taken) :
    draft.place index placement p = draft :=
  if_pos h

theorem place_of_free {draft : Draft} {p : PlannedField} (h : p.name ∉ draft.taken) :
    draft.place index placement p =
      let declared := p.declare index placement draft.stream
      { header := importType index draft.header p.type
        target := draft.target.withFields [declared.1]
        taken := p.name :: draft.taken
        stream := declared.2
        mocks := draft.mocks + if p.kind == .mock then 1 else 0
        constants := draft.constants + if p.kind == .constant then 1 else 0 } :=
  if_neg h

theorem foldl_place (draft : Draft) (ps : List PlannedField) :
    ps.foldl (place index placement) draft =
      let news := fresh draft.taken ps
      let declared := declareAll index placement draft.stream news
      { header := importAll index draft.header (news.flatMap (·.type.classNames))
        target := draft.target.withFields declared.1
        taken := (news.map (·.name)).reverse ++ draft.taken
        stream := declared.2
        mocks := draft.mocks + news.countP (·.kind == .mock)
        constants := draft.constants + news.countP (·.kind == .constant) } := by
  induction ps generalizing draft with
  | nil =>
    simp only [firstsBy, declareAll, importAll, ClassDecl.withFields_nil, List.flatMap_nil,
      List.map_nil, List.reverse_nil, List.nil_append, List.countP_nil, Nat.add_zero,
      List.foldl_nil]
  | cons p ps ih =>
    rw [List.foldl_cons, ih]
    -- Placing and `fresh` ask the same question: is the name among those taken so far?
    by_cases hmem : p.name ∈ draft.taken
    · have hfresh : fresh draft.taken (p :: ps) = fresh draft.taken ps :=
        firstsBy_cons_of_mem hmem ps
      rw [place_of_taken index placement hmem, hfresh]
    · have hfresh : fresh draft.taken (p :: ps) = p :: fresh (p.name :: draft.taken) ps :=
        firstsBy_cons_of_not_mem hmem ps
      rw [place_of_free index placement hmem, hfresh]
      simp only [declareAll, List.flatMap_cons, importAll_append, importType_eq_importAll,
        ClassDecl.withFields_withFields, List.append_assoc, List.singleton_append, List.map_cons,
        List.reverse_cons, List.countP_cons]
      congr 1 <;> omega

/-- Fields are added by carrying out the part of the plan whose names are free. -/
theorem insertMissing_eq (draft : Draft) (vars : List Variable) :
    draft.insertMissing index placement vars =
      let news := fresh draft.taken (plan index vars)
      let declared := declareAll index placement draft.stream news
      { header := importAll index draft.header (wantedImports news)
        target := draft.target.withFields declared.1
        taken := (news.map (·.name)).reverse ++ draft.taken
        stream := declared.2
        mocks := news.countP (·.kind == .mock)
        constants := news.countP (·.kind == .constant) } := by
  unfold insertMissing
  rw [foldl_addVariable, foldl_place]
  dsimp only
  rw [Nat.zero_add, Nat.zero_add]
  split
  · rename_i hnone
    have hany : (fresh draft.taken (plan index vars)).any (·.kind == .mock) = false := by
      rw [List.countP_eq_zero] at hnone
      simpa using hnone
    simp [wantedImports, hany]
  · rename_i hsome
    have hany : (fresh draft.taken (plan index vars)).any (·.kind == .mock) = true := by
      rw [List.countP_eq_zero] at hsome
      simpa using hsome
    simp [wantedImports, hany, importAll_append]
    rfl

theorem drop_insertMissing (draft : Draft) (vars : List Variable) :
    (draft.insertMissing index placement vars).target.fields.drop draft.target.fields.length =
      (declareAll index placement draft.stream (fresh draft.taken (plan index vars))).1 := by
  rw [insertMissing_eq]
  dsimp only
  rw [ClassDecl.withFields_fields, List.drop_left]

end Draft

end MockScaffold.Scaffold
