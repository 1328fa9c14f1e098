import Mathlib.Data.List.Forall2
import MockScaffold.Proofs.Scaffold.Naming
import MockScaffold.Proofs.Scaffold.Stability

namespace MockScaffold.Scaffold

open PlannedField (declareAll)
open Seeded (WordStream)

def subjectVariables (index : ClassIndex) (subject : String) : List Variable :=
  match index.find? subject .all with
  | some c => (index.allFields c).map .ofField
  | none => []

def mockField (name : String) (type : TypeRef) : FieldDecl where
  name := name
  type := type
  modifiers := { visibility := .privateAccess }
  annotations := [{ name := Known.mock }]

/-- The variable gets a mock of this name and type: one for itself, or one for the elements of the
collection that it is. -/
inductive IsMockedAs (index : ClassIndex) (v : Variable) (name : String) : TypeRef → Prop
  | itself (hstatic : v.isStatic = false) (hcategory : classify index v.type = .mockable)
      (hname : Name.decapitalized v.name = name) :
      IsMockedAs index v name v.type
  | element {element : TypeRef} (hstatic : v.isStatic = false)
      (hcategory : classify index v.type = .collection (some element))
      (hvalue : isValueType index element = false) (hopen : isOpen index element = true)
      (hname : Name.decapitalized (fieldName element) = name) :
      IsMockedAs index v name element

/-- The first of the variables to get a mock of this name gets one of this type. -/
def IsFirstMockedAs (index : ClassIndex) (vars : List Variable) (name : String) (type : TypeRef) :
    Prop :=
  ∃ before v after, vars = before ++ v :: after ∧
    (∀ w ∈ before, ∀ t, ¬IsMockedAs index w name t) ∧ IsMockedAs index v name type

theorem subjectPlan_eq (index : ClassIndex) (subject : String) :
    subjectPlan index subject = plan index (subjectVariables index subject) := by
  unfold subjectPlan subjectVariables
  cases index.find? subject .all <;> rfl

section Planned

variable {index : ClassIndex} {v : Variable} {name : String} {type : TypeRef} {p : PlannedField}

theorem plannedElement?_eq_mock_iff {element : TypeRef} :
    plannedElement? index element = some ⟨.mock, name, type⟩ ↔
      isValueType index element = false ∧ isOpen index element = true ∧
        Name.decapitalized (fieldName element) = name ∧ element = type := by
  unfold plannedElement?
  cases isValueType index element with
  | true => simp
  | false => cases isOpen index element <;> simp

theorem planned?_eq_mock_iff :
    planned? index v = some ⟨.mock, name, type⟩ ↔ IsMockedAs index v name type := by
  constructor
  · intro h
    have hstatic := (standsFor_of_planned? h).1
    unfold planned? at h
    rw [hstatic] at h
    cases hvalue : isValueType index v.type with
    | true =>
      rw [hvalue] at h
      cases h
    | false =>
      cases hcollection : isCollection index v.type with
      | true =>
        rw [hvalue, hcollection] at h
        obtain ⟨element, helement, h⟩ := Option.bind_eq_some_iff.mp h
        obtain ⟨hplain, hopen, hname, rfl⟩ := plannedElement?_eq_mock_iff.mp h
        have hcategory := classify_eq_collection_iff.mpr ⟨hvalue, hcollection, helement⟩
        exact .element hstatic hcategory hplain hopen hname
      | false =>
        cases hopen : isOpen index v.type with
        | true =>
          rw [hvalue, hcollection, hopen] at h
          cases h
          exact .itself hstatic (classify_eq_mockable_iff.mpr ⟨hvalue, hcollection, hopen⟩) rfl
        | false =>
          rw [hvalue, hcollection, hopen] at h
          cases h
  · intro h
    cases h with
    | itself hstatic hcategory hname =>
      obtain ⟨hvalue, hcollection, hopen⟩ := classify_eq_mockable_iff.mp hcategory
      simp [planned?, hstatic, hvalue, hcollection, hopen, hname]
    | element hstatic hcategory hplain hopen hname =>
      obtain ⟨hvalue, hcollection, helement⟩ := classify_eq_collection_iff.mp hcategory
      simp [planned?, hstatic, hvalue, hcollection, helement, plannedElement?_eq_mock_iff, hplain,
        hopen, hname]

/-- The subject's own field has a small letter in its name. -/
theorem kind_of_subjectFieldName (hp : planned? index v = some p)
    (hname : p.name = subjectFieldName) : p.kind = .mock := by
  have hsmall : ∃ c ∈ subjectFieldName.toList, c.isLower = true := ⟨'n', by decide, by decide⟩
  rw [← hname] at hsmall
  obtain ⟨c, hc, hlower⟩ := hsmall
  cases (standsFor_of_planned? hp).2 with
  | mock | elementMock => rfl
  | value =>
    rw [Name.isLower_of_mem_constantName hc] at hlower
    cases hlower
  | elementValue =>
    rw [isLower_of_mem_elementConstantName hc] at hlower
    cases hlower

theorem any_planned?_iff :
    (planned? index v).any (·.name == subjectFieldName) = true ↔
      ∃ type, IsMockedAs index v subjectFieldName type := by
  rw [Option.any_eq_true]
  constructor
  · rintro ⟨⟨kind, name, type⟩, hp, hname⟩
    obtain rfl : name = subjectFieldName := by simpa using hname
    obtain rfl : kind = .mock := kind_of_subjectFieldName hp rfl
    exact ⟨type, planned?_eq_mock_iff.mp hp⟩
  · rintro ⟨type, hmocked⟩
    exact ⟨_, planned?_eq_mock_iff.mpr hmocked, beq_self_eq_true _⟩

end Planned

section FirstOfName

theorem filter_declareAll (index : ClassIndex) (placement : Placement) (stream : WordStream)
    (ps : List PlannedField) (name : String) :
    List.Forall₂ (fun p f => ∃ s, f = (p.declare index placement s).1)
      (ps.filter (·.name == name))
      ((declareAll index placement stream ps).1.filter (·.name == name)) := by
  induction ps generalizing stream with
  | nil => exact .nil
  | cons p ps ih =>
    have hdeclared := PlannedField.declare_name index placement stream p
    rw [declareAll]
    dsimp only
    rw [List.filter_cons, List.filter_cons, hdeclared]
    split
    · exact .cons ⟨stream, rfl⟩ (ih _)
    · exact ih _

variable {index : ClassIndex} {taken : List String}

theorem find?_plan_eq_none_iff {vars : List Variable} :
    (plan index vars).find? (·.name == subjectFieldName) = none ↔
      ∀ v ∈ vars, ∀ type, ¬IsMockedAs index v subjectFieldName type := by
  rw [plan, List.find?_eq_none]
  constructor
  · intro h v hv type hmocked
    exact h _ (List.mem_filterMap.mpr ⟨v, hv, planned?_eq_mock_iff.mpr hmocked⟩)
      (beq_self_eq_true _)
  · intro h p hp hname
    obtain ⟨v, hv, hplanned⟩ := List.mem_filterMap.mp hp
    have hany : (planned? index v).any (·.name == subjectFieldName) = true := by
      rw [hplanned]
      exact hname
    obtain ⟨type, hmocked⟩ := any_planned?_iff.mp hany
    exact h v hv type hmocked

theorem find?_plan_eq_some_iff {vars : List Variable} {p : PlannedField} :
    (plan index vars).find? (·.name == subjectFieldName) = some p ↔
      ∃ type, IsFirstMockedAs index vars subjectFieldName type ∧
        p = ⟨.mock, subjectFieldName, type⟩ := by
  have hnone {w : Variable} : (!(planned? index w).any (·.name == subjectFieldName)) = true ↔
      ∀ t, ¬IsMockedAs index w subjectFieldName t := by
    rw [Bool.not_eq_true', ← Bool.not_eq_true, any_planned?_iff, not_exists]
  rw [plan, List.find?_filterMap, Option.bind_eq_some_iff]
  simp only [List.find?_eq_some_iff_append, any_planned?_iff, hnone]
  constructor
  · rintro ⟨v, ⟨⟨type, hmocked⟩, before, after, hvars, hbefore⟩, hplanned⟩
    rw [planned?_eq_mock_iff.mpr hmocked] at hplanned
    exact ⟨type, ⟨before, v, after, hvars, hbefore, hmocked⟩, (Option.some.inj hplanned).symm⟩
  · rintro ⟨type, ⟨before, v, after, hvars, hbefore, hmocked⟩, rfl⟩
    exact ⟨v, ⟨⟨type, hmocked⟩, before, after, hvars, hbefore⟩, planned?_eq_mock_iff.mpr hmocked⟩

theorem filter_standIns (hfree : subjectFieldName ∉ taken) (stream : WordStream)
    (vars : List Variable) :
    (declareAll index .topLevel stream (fresh taken (plan index vars))).1.filter
        (·.name == subjectFieldName) =
      match (plan index vars).find? (·.name == subjectFieldName) with
      | none => []
      | some p => [mockField p.name p.type] := by
  have hdeclared := filter_declareAll index .topLevel stream (fresh taken (plan index vars))
    subjectFieldName
  rw [filter_firstsBy hfree] at hdeclared
  cases hfind : (plan index vars).find? (·.name == subjectFieldName) with
  | none =>
    rw [hfind] at hdeclared
    exact List.forall₂_nil_left_iff.mp hdeclared
  | some p =>
    obtain ⟨type, -, rfl⟩ := find?_plan_eq_some_iff.mp hfind
    rw [hfind] at hdeclared
    obtain ⟨f, fs, ⟨s, rfl⟩, hrest, hfields⟩ := List.forall₂_cons_left_iff.mp hdeclared
    rw [hfields, List.forall₂_nil_left_iff.mp hrest]
    rfl

theorem subjectFieldName_mem_fresh_iff (hfree : subjectFieldName ∉ taken)
    (ps : List PlannedField) :
    subjectFieldName ∈ (fresh taken ps).map (·.name) ↔
      (ps.find? (·.name == subjectFieldName)).isSome = true := by
  rw [mem_map_firstsBy, and_iff_left hfree, List.mem_map, List.find?_isSome]
  simp only [beq_iff_eq]

end FirstOfName

theorem mockField_ne_subjectField (name : String) (type : TypeRef) (subject : String) :
    mockField name type ≠ subjectField subject := by
  intro heq
  have hannotations :
      [({ name := Known.mock } : AnnotationUse)] = [{ name := Known.injectMocks }] :=
    congrArg FieldDecl.annotations heq
  exact absurd hannotations (by decide)

section Provided

variable {file : SourceFile} {c : ClassDecl} {subject : String}

theorem filter_addSubjectFields (index : ClassIndex) (hc : file.testClass? = some c)
    (hs : Text.withoutEnding? c.qualifiedName "Test" = some subject)
    (hfree : c.hasField subjectFieldName = false) (stream : WordStream) :
    ∃ d, (addSubjectFields index file stream).1.testClass? = some d ∧
      d.fields.filter (·.name == subjectFieldName) =
        match (plan index (subjectVariables index subject)).find? (·.name == subjectFieldName) with
        | none => [subjectField subject]
        | some p => [mockField p.name p.type] := by
  obtain ⟨⟨place, c⟩, hplace, rfl⟩ := Option.map_eq_some_iff.mp hc
  have hfree : subjectFieldName ∉ c.fieldNames := fun hmem => by
    rw [ClassDecl.hasField_iff.mpr hmem] at hfree
    cases hfree
  rw [addSubjectFields_eq hplace hs]
  refine ⟨_, SourceFile.testClass?_eq (SourceFile.testPlace?_update hplace rfl), ?_⟩
  have hold : c.fields.filter (·.name == subjectFieldName) = [] := by
    rw [List.filter_eq_nil_iff]
    intro f hf hname
    exact hfree (List.mem_map.mpr ⟨f, hf, eq_of_beq hname⟩)
  have hnews := subjectFieldName_mem_fresh_iff hfree (plan index (subjectVariables index subject))
  rw [subjectPlan_eq, ClassDecl.withFields_fields, List.filter_append, List.filter_append, hold,
    List.nil_append, filter_standIns hfree, ownField]
  simp only [List.mem_append, hfree, false_or, hnews]
  cases (plan index (subjectVariables index subject)).find? (·.name == subjectFieldName) with
  | none => simp [subjectField]
  | some p => simp

/-- A unit test class without a field `underTest` gets one private field of that name, which is
the subject's own unless a dependency of the subject is mocked under that name, when it is the
mock of the first of these. -/
theorem subjectField_iff (index : ClassIndex) (hc : file.testClass? = some c)
    (hs : Text.withoutEnding? c.qualifiedName "Test" = some subject)
    (hfree : c.hasField subjectFieldName = false) (stream : WordStream) :
    let vars := subjectVariables index subject
    ∃ d f, (addSubjectFields index file stream).1.testClass? = some d ∧
      d.fields.filter (·.name == subjectFieldName) = [f] ∧
      f.modifiers.visibility = .privateAccess ∧
      (f = subjectField subject ↔ ∀ v ∈ vars, ∀ type, ¬IsMockedAs index v subjectFieldName type) ∧
      ∀ type, IsFirstMockedAs index vars subjectFieldName type →
        f = mockField subjectFieldName type := by
  intro vars
  obtain ⟨d, hd, hfields⟩ := filter_addSubjectFields index hc hs hfree stream
  cases hfind : (plan index vars).find? (·.name == subjectFieldName) with
  | none =>
    rw [hfind] at hfields
    have hunmocked := find?_plan_eq_none_iff.mp hfind
    refine ⟨d, _, hd, hfields, rfl, iff_of_true rfl hunmocked, ?_⟩
    rintro type ⟨before, v, after, hvars, -, hmocked⟩
    exact absurd hmocked (hunmocked v (by simp [hvars]) type)
  | some p =>
    rw [hfind] at hfields
    obtain ⟨type, hfirst, rfl⟩ := find?_plan_eq_some_iff.mp hfind
    refine ⟨d, _, hd, hfields, rfl, ?_, fun type' hfirst' => ?_⟩
    · refine iff_of_false (mockField_ne_subjectField _ _ _) fun hunmocked => ?_
      obtain ⟨before, v, after, hvars, -, hmocked⟩ := hfirst
      exact hunmocked v (by simp [hvars]) type hmocked
    · have hfind' := find?_plan_eq_some_iff.mpr ⟨type', hfirst', rfl⟩
      cases hfind.symm.trans hfind'
      rfl

end Provided

/-- A cart with a field of this name for its order. -/
def cartWithField (name : String) : ClassIndex :=
  ⟨[⟨{ name := "Cart", qualifiedName := "shop.Cart"
       fields := [{ name, type := .ofClass "shop.Order" }] }, .project⟩]⟩

/-- The mock of the order has a name of its own. -/
theorem subjectField_iff_order :
    cartTest.testClass? = some (.ofQualifiedName "shop.CartTest") ∧
      Text.withoutEnding? (ClassDecl.ofQualifiedName "shop.CartTest").qualifiedName "Test" =
        some "shop.Cart" ∧
      (ClassDecl.ofQualifiedName "shop.CartTest").hasField subjectFieldName = false ∧
      ∃ d, (addSubjectFields (cartWithField "order") cartTest (.ofSeed 7)).1.testClass? = some d ∧
        d.fields.filter (·.name == subjectFieldName) = [subjectField "shop.Cart"] := by
  have hc : cartTest.testClass? = some (.ofQualifiedName "shop.CartTest") := by rfl
  have hs : Text.withoutEnding? (ClassDecl.ofQualifiedName "shop.CartTest").qualifiedName "Test" =
      some "shop.Cart" := by decide
  have hfree : (ClassDecl.ofQualifiedName "shop.CartTest").hasField subjectFieldName = false := by
    decide
  have hunmocked : ∀ v ∈ subjectVariables (cartWithField "order") "shop.Cart", ∀ type,
      ¬IsMockedAs (cartWithField "order") v subjectFieldName type :=
    find?_plan_eq_none_iff.mp rfl
  obtain ⟨d, f, hd, hfields, -, hiff, -⟩ :=
    subjectField_iff (cartWithField "order") hc hs hfree (.ofSeed 7)
  rw [hiff.mpr hunmocked] at hfields
  exact ⟨hc, hs, hfree, d, hd, hfields⟩

/-- A cart that calls its order `underTest` leaves the test class without a field for the cart. -/
theorem not_forall_subjectField :
    ¬∀ (index : ClassIndex) (file : SourceFile) (stream : WordStream) (c : ClassDecl)
        (subject : String), file.testClass? = some c →
        Text.withoutEnding? c.qualifiedName "Test" = some subject →
        c.hasField subjectFieldName = false →
          ∃ d f, (addSubjectFields index file stream).1.testClass? = some d ∧
            d.fields.filter (·.name == subjectFieldName) = [f] ∧
            f.modifiers.visibility = .privateAccess ∧
            f.isMarkedWith Known.injectMocks = true ∧ f.type = .ofClass subject := by
  intro hall
  obtain ⟨d, f, hd, hfields, -, hmarked, -⟩ :=
    hall (cartWithField subjectFieldName) cartTest (.ofSeed 7)
      (.ofQualifiedName "shop.CartTest") "shop.Cart" (by rfl) (by decide) (by decide)
  have hmock : (addSubjectFields (cartWithField subjectFieldName) cartTest
      (.ofSeed 7)).1.testClass?.map (·.fields) =
        some [mockField subjectFieldName (.ofClass "shop.Order")] := by
    rfl
  rw [hd, Option.map_some, Option.some.injEq] at hmock
  rw [hmock] at hfields
  cases hfields
  exact absurd hmarked (by decide)

end MockScaffold.Scaffold
