import MockScaffold.Proofs.Index.Origin
import MockScaffold.Proofs.Scaffold.Additions
import MockScaffold.Proofs.Scaffold.Agreement

namespace MockScaffold

namespace TypeRef

theorem mem_classNames_of_firstArg? {type element : TypeRef} {q : String}
    (h : type.firstArg? = some element) (hq : q ∈ element.classNames) : q ∈ type.classNames := by
  cases type with
  | named name args =>
    obtain ⟨rest, rfl⟩ : ∃ rest, args = element :: rest := List.head?_eq_some_iff.mp h
    rw [classNames, allClassNames]
    exact List.mem_cons_of_mem _ (List.mem_append_left _ hq)
  | _ => cases h

theorem eq_ofClass {type : TypeRef} {name : String} (hname : type.className? = some name)
    (hargs : type.firstArg? = none) : type = .ofClass name := by
  cases type with
  | named name' args =>
    cases hname
    obtain rfl : args = [] := List.head?_eq_none_iff.mp hargs
    rfl
  | _ => cases hname

end TypeRef

namespace Scaffold

open ClassIndex (builtin builtinClasses)
open SourceFile (addedFields)

/-- The built-in classes that extend a collection, whose elements are of the type variable `E`. -/
def collectionStubs : List String :=
  ["java.util.ArrayList", "java.util.HashSet"]

def extendsCollection (c : ClassDecl) : Bool :=
  c.superTypes.any fun s => s.className?.any collectionClasses.contains

theorem filter_extendsCollection : builtinClasses.filter extendsCollection =
    [ClassIndex.openClass "java.util.ArrayList" (ClassIndex.ofElements Known.list),
      ClassIndex.openClass "java.util.HashSet" (ClassIndex.ofElements Known.set)] :=
  rfl

theorem element_of_builtin {c : ClassDecl} {s element : TypeRef} (hc : c ∈ builtinClasses)
    (hs : s ∈ c.superTypes) (hcollection : s.className?.any collectionClasses.contains = true)
    (helement : s.firstArg? = some element) :
    c.qualifiedName ∈ collectionStubs ∧ element = .ofClass "E" := by
  have hextends : extendsCollection c = true := List.any_eq_true.mpr ⟨s, hs, hcollection⟩
  have hmem := List.mem_filter.mpr ⟨hc, hextends⟩
  rw [filter_extendsCollection, List.mem_cons, List.mem_singleton] at hmem
  rcases hmem with rfl | rfl
  · obtain rfl := List.mem_singleton.mp hs
    cases helement
    exact ⟨List.mem_cons_self, rfl⟩
  · obtain rfl := List.mem_singleton.mp hs
    cases helement
    exact ⟨List.mem_cons_of_mem _ List.mem_cons_self, rfl⟩

variable {model : ProjectModel} {lombok : Bool}

theorem mem_sourceVariables_of_isDependency {testName : String} {v : Variable}
    (hv : IsDependency (builtin.extend model lombok) testName v) :
    ∃ d ∈ model.allClasses, (v.name, v.type) ∈ d.sourceVariables := by
  cases hv with
  | field _ hfound hf =>
    have hfield {c : ClassDecl} {name : String} {f : FieldDecl}
        (hc : (builtin.extend model lombok).find? name .all = some c) (hf : f ∈ c.fields) :
        ∃ d ∈ model.allClasses, (f.name, f.type) ∈ d.sourceVariables :=
      ClassIndex.mem_sourceVariables_of_find? hc
        (ClassDecl.mem_sourceVariables_iff.mpr (.inl ⟨f, hf, rfl⟩))
    obtain ⟨d, hd, hf⟩ := List.mem_flatMap.mp hf
    rcases ClassIndex.mem_levelsFrom hd with hd | ⟨name, hd⟩
    · rw [List.mem_singleton.mp hd] at hf
      exact hfield hfound hf
    · exact hfield hd hf
  | @parameter _ _ m p _ hfound hm hp =>
    rw [← filter_isBehaviour_sourceMethods] at hm
    refine ClassIndex.mem_sourceVariables_of_find? hfound ?_
    exact ClassDecl.mem_sourceVariables_iff.mpr (.inr ⟨m, (List.mem_filter.mp hm).1, p, hp, rfl⟩)

theorem mem_variableTypes_of_isDependency {testName : String} {v : Variable}
    (hv : IsDependency (builtin.extend model lombok) testName v) :
    v.type ∈ model.variableTypes := by
  obtain ⟨d, hd, hmem⟩ := mem_sourceVariables_of_isDependency hv
  exact List.mem_flatMap.mpr ⟨d, hd, ClassDecl.mem_variableTypes_of_source hmem⟩

/-- The type variable of a built-in collection that a variable has without arguments, and that no
class of the project hides. -/
def IsStubElement (model : ProjectModel) (type : TypeRef) : Prop :=
  type = .ofClass "E" ∧
    ∃ stub ∈ collectionStubs, .ofClass stub ∈ model.variableTypes ∧ ¬model.Declares stub

theorem mentions_of_mem_variableTypes {type : TypeRef} (htype : type ∈ model.variableTypes) :
    ∀ q ∈ type.classNames, model.Mentions q := by
  intro q hq
  obtain ⟨c, hc, htype⟩ := List.mem_flatMap.mp htype
  exact ⟨c, hc, type, List.mem_append_right _ htype, hq⟩

theorem mentions_of_element? {type element : TypeRef} (htype : type ∈ model.variableTypes)
    (helement : element? (builtin.extend model lombok) type = some element) :
    (∀ q ∈ element.classNames, model.Mentions q) ∨ IsStubElement model element := by
  rcases element?_cases helement with hown | ⟨hraw, c, hc, s, hs, hcollection, hfirst⟩
  · refine .inl fun q hq => ?_
    exact mentions_of_mem_variableTypes htype q (TypeRef.mem_classNames_of_firstArg? hown hq)
  obtain ⟨name, hname, hfound⟩ := Option.bind_eq_some_iff.mp hc
  -- Without arguments the element is told by the class itself, which may be a built-in one.
  rcases ClassIndex.find?_extend_cases Lombok.superTypes_expand hfound with
    ⟨d, hd, heq⟩ | ⟨⟨d, hd, heq, rfl⟩, hfree⟩
  · rw [← heq] at hs
    refine .inl fun q hq => ⟨d, hd, s, List.mem_append_left _ hs, ?_⟩
    exact TypeRef.mem_classNames_of_firstArg? hfirst hq
  · rw [← heq] at hs
    obtain ⟨hstub, rfl⟩ := element_of_builtin hd hs hcollection hfirst
    rw [TypeRef.eq_ofClass hname hraw] at htype
    exact .inr ⟨rfl, d.qualifiedName, hstub, htype, hfree⟩

theorem mentions_of_planned? {v : Variable} {p : PlannedField}
    (hv : v.type ∈ model.variableTypes)
    (hp : planned? (builtin.extend model lombok) v = some p) :
    (∀ q ∈ p.type.classNames, model.Mentions q) ∨ IsStubElement model p.type := by
  cases (standsFor_of_planned? hp).2 with
  | value | mock => exact .inl (mentions_of_mem_variableTypes hv)
  | elementValue _ helement | elementMock _ helement => exact mentions_of_element? hv helement

/-- The field is that of the subject that the file's unit test class is for. -/
def IsSubjectField (file : SourceFile) (f : FieldDecl) : Prop :=
  ∃ c subject, file.testClass? = some c ∧
    Text.withoutEnding? c.qualifiedName "Test" = some subject ∧ f = subjectField subject

/-- An added field is the subject's own, or the project mentions every class in its type, or its
type is the type variable of a built-in collection. -/
theorem mentions_of_generate (model : ProjectModel) (lombok : Bool) (seed : UInt64)
    (file : SourceFile) :
    ∀ f ∈ addedFields file (generate (builtin.extend model lombok) seed file).1,
      IsSubjectField file f ∨ (∀ q ∈ f.type.classNames, model.Mentions q) ∨
        IsStubElement model f.type := by
  intro f hf
  obtain ⟨c, hc, hadded⟩ := addedTo_generate hf
  cases hadded with
  | subject hname => exact .inl ⟨c, _, hc, hname, rfl⟩
  | dependency hv hplanned placement stream =>
    rw [PlannedField.declare_type]
    exact .inr (mentions_of_planned? (mem_variableTypes_of_isDependency hv) hplanned)

/-- A cart with items of a raw type. -/
def rawCart : ProjectModel where
  classes :=
    [{ name := "Cart"
       qualifiedName := "shop.Cart"
       fields := [{ name := "items", type := .ofClass "java.util.ArrayList" }] }]

theorem exists_added_rawCart :
    ∃ f ∈ addedFields cartTest (generate (builtin.extend rawCart true) 7 cartTest).1,
      f.name = "e" ∧ "E" ∈ f.type.classNames := by
  decide +kernel

theorem not_mentions_rawCart : ¬rawCart.Mentions "E" := by
  unfold ProjectModel.Mentions
  decide

theorem eq_subjectField_cartTest {f : FieldDecl} (h : IsSubjectField cartTest f) :
    f = subjectField "shop.Cart" := by
  obtain ⟨c, subject, hc, hsubject, rfl⟩ := h
  cases hc
  have hcart : Text.withoutEnding? "shop.CartTest" "Test" = some "shop.Cart" := by decide
  rw [Option.some.inj (hsubject.symm.trans hcart)]

/-- The field for the items is a mock of the type variable. -/
theorem mentions_of_generate_rawCart :
    ∃ f ∈ addedFields cartTest (generate (builtin.extend rawCart true) 7 cartTest).1,
      f.name = "e" ∧ IsStubElement rawCart f.type := by
  obtain ⟨f, hf, hname, hE⟩ := exists_added_rawCart
  refine ⟨f, hf, hname, ?_⟩
  rcases mentions_of_generate rawCart true 7 cartTest f hf with hsubject | hmentions | hstub
  · rw [eq_subjectField_cartTest hsubject] at hname
    exact absurd hname (by decide)
  · exact absurd (hmentions "E" hE) not_mentions_rawCart
  · exact hstub

/-- Some class in the type of an added field comes from neither the subject's name nor the
project. -/
theorem not_forall_mentions :
    ¬∀ (model : ProjectModel) (lombok : Bool) (seed : UInt64) (file : SourceFile),
        ∀ f ∈ addedFields file (generate (builtin.extend model lombok) seed file).1,
          ∀ q ∈ f.type.classNames,
            (∃ g, IsSubjectField file g ∧ g.type.className? = some q) ∨ model.Mentions q := by
  intro hall
  obtain ⟨f, hf, -, hE⟩ := exists_added_rawCart
  rcases hall rawCart true 7 cartTest f hf "E" hE with ⟨g, hsubject, hq⟩ | hmentions
  · rw [eq_subjectField_cartTest hsubject] at hq
    exact absurd hq (by decide)
  · exact not_mentions_rawCart hmentions

end Scaffold

end MockScaffold
