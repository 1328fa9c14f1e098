import MockScaffold.Proofs.Model.Loadable
import MockScaffold.Proofs.Scaffold.Loadable
import MockScaffold.Proofs.Scaffold.NamedTypes
import MockScaffold.Proofs.Scaffold.Naming

namespace MockScaffold

/-- The names of all fields and parameters satisfy `P`. -/
def ProjectModel.NamesVariables (P : String → Prop) (project : ProjectModel) : Prop :=
  ∀ c ∈ project.allClasses, (∀ f ∈ c.fields, P f.name) ∧ ∀ m ∈ c.methods, ∀ p ∈ m.params, P p.name

namespace Scaffold

open ClassIndex (builtin)
open Name (isIdentifier)
open SourceFile (addedFields)
open Text (IsAscii)

variable {project : ProjectModel} {lombok : Bool} {index : ClassIndex} {testName name : String}

theorem isWritten_of_isDependency (hindex : index.IsWritten) {v : Variable}
    (hv : IsDependency index testName v) : v.type.IsWritten := by
  cases hv with
  | field _ hfound hf => exact ClassIndex.isWritten_allFields hindex (hindex.find? hfound) _ hf
  | parameter _ hfound hm hp =>
    exact ((hindex.find? hfound).methods _ (List.mem_filter.mp hm).1).params _ hp

theorem name_of_isDependency {P : String → Prop} (hnames : project.NamesVariables P) {v : Variable}
    (hv : IsDependency (builtin.extend project lombok) testName v) : P v.name := by
  obtain ⟨d, hd, hmem⟩ := mem_sourceVariables_of_isDependency hv
  rcases ClassDecl.mem_sourceVariables_iff.mp hmem with ⟨f, hf, heq⟩ | ⟨m, hm, p, hp, heq⟩
  · rw [← (Prod.mk.inj heq).1]
    exact (hnames d hd).1 f hf
  · rw [← (Prod.mk.inj heq).1]
    exact (hnames d hd).2 m (List.mem_filter.mp hm).1 p hp

/-- A field that stands for a variable has an identifier for its name, or is named after a type. -/
theorem isIdentifier_or_isNamedAfter {v : Variable} {p : PlannedField}
    (hname : isIdentifier v.name = true ∧ IsAscii v.name) (hp : planned? index v = some p) :
    isIdentifier p.name = true ∨ IsNamedAfter p.type p.name := by
  cases (standsFor_of_planned? hp).2 with
  | value => exact .inl (Name.isIdentifier_constantName hname.1 hname.2)
  | mock => exact .inl (Name.isIdentifier_decapitalized hname.1 hname.2)
  | elementValue => exact .inr (.inl rfl)
  | elementMock => exact .inr (.inr rfl)

theorem isIdentifier_iff_of_planned? (hindex : index.IsWritten) {v : Variable} {p : PlannedField}
    (hname : isIdentifier v.name = true ∧ IsAscii v.name) (hwritten : v.type.IsWritten)
    (hp : planned? index v = some p) :
    isIdentifier p.name = true ↔ ¬(p.type.beginsWithDigit = true ∧ IsNamedAfter p.type p.name) := by
  constructor
  · rintro hidentifier ⟨hdigit, hnamed⟩
    rw [hnamed.isIdentifier_eq_false hdigit] at hidentifier
    cases hidentifier
  · intro h
    rcases isIdentifier_or_isNamedAfter hname hp with hidentifier | hnamed
    · exact hidentifier
    · refine hnamed.isIdentifier (isWritten_planned? hindex hwritten hp) ?_
      exact Bool.eq_false_iff.mpr fun hdigit => h ⟨hdigit, hnamed⟩

/-- Over a loaded project whose fields and parameters are named by identifiers in ASCII, the name of
an added field is an identifier unless it was made from a type that begins with a digit. -/
theorem isIdentifier_added_iff {content : Option String}
    (hload : ProjectModel.load content = .ok project)
    (hnames : project.NamesVariables fun name => isIdentifier name = true ∧ IsAscii name)
    (lombok : Bool) (seed : UInt64) (file : SourceFile) :
    ∀ f ∈ addedFields file (generate (builtin.extend project lombok) seed file).1,
      isIdentifier f.name = true ↔
        ¬(f.type.beginsWithDigit = true ∧ IsNamedAfter f.type f.name) := by
  intro f hf
  obtain ⟨hclasses, hlibraries⟩ := ProjectModel.isWritten_of_load hload
  have hindex :=
    ClassIndex.isWritten_extend ClassIndex.isWritten_builtin hclasses hlibraries lombok
  obtain ⟨c, -, hadded⟩ := addedTo_generate hf
  cases hadded with
  | subject =>
    have hidentifier : isIdentifier subjectFieldName = true := by decide
    refine iff_of_true hidentifier fun ⟨hdigit, hnamed⟩ => ?_
    exact absurd hidentifier (Bool.eq_false_iff.mp (hnamed.isIdentifier_eq_false hdigit))
  | dependency hv hplanned placement stream =>
    rw [PlannedField.declare_name, PlannedField.declare_type]
    exact isIdentifier_iff_of_planned? hindex (name_of_isDependency hnames hv)
      (isWritten_of_isDependency hindex hv) hplanned

/-- A cart with a list of a class whose name is a digit behind a separator. -/
def digitCart : ProjectModel where
  classes :=
    [{ name := "Cart"
       qualifiedName := "shop.Cart"
       fields := [{ name := "items", type := .named Known.list [.ofClass "shop._1"] }] },
      .ofQualifiedName "shop._1"]

theorem load_digitCart :
    ProjectModel.load (some (digitCart.toJson.prettyAt 0)) = .ok digitCart := by
  have hlist : TypeRef.IsClassName Known.list := ⟨by decide, by decide, by decide, rfl⟩
  have hdigit : TypeRef.IsClassName "shop._1" := ⟨by decide, by decide, by decide, rfl⟩
  have hitems : (TypeRef.named Known.list [.ofClass "shop._1"]).IsWritten :=
    .named hlist (List.forall_mem_singleton.mpr (TypeRef.isWritten_ofClass hdigit))
  have hone : (ClassDecl.ofQualifiedName "shop._1").IsLoadable :=
    ClassDecl.isLoadable_ofQualifiedName_iff.mpr (by decide)
  rw [ProjectModel.load_prettyAt_iff]
  refine ⟨by decide, List.forall_mem_cons.mpr ⟨?_, List.forall_mem_singleton.mpr hone⟩⟩
  rw [ClassDecl.isLoadable_iff]
  exact ⟨by decide, by simp, List.forall_mem_singleton.mpr hitems, by simp, by simp⟩

theorem namesVariables_digitCart :
    digitCart.NamesVariables fun name => isIdentifier name = true ∧ IsAscii name := by
  unfold ProjectModel.NamesVariables
  decide

theorem exists_added_digitCart :
    ∃ f ∈ addedFields cartTest (generate (builtin.extend digitCart true) 7 cartTest).1,
      f.name = "1" := by
  decide +kernel

/-- The mock for the items is named by the digit. -/
theorem isIdentifier_added_iff_digitCart :
    ProjectModel.load (some (digitCart.toJson.prettyAt 0)) = .ok digitCart ∧
      (digitCart.NamesVariables fun name => isIdentifier name = true ∧ IsAscii name) ∧
      ∃ f ∈ addedFields cartTest (generate (builtin.extend digitCart true) 7 cartTest).1,
        f.name = "1" ∧ f.type.beginsWithDigit = true ∧ IsNamedAfter f.type "1" := by
  obtain ⟨f, hf, hname⟩ := exists_added_digitCart
  have hiff := isIdentifier_added_iff load_digitCart namesVariables_digitCart true 7 cartTest f hf
  rw [hname] at hiff
  have hnot : ¬isIdentifier "1" = true := by decide
  rw [hiff, Classical.not_not] at hnot
  exact ⟨load_digitCart, namesVariables_digitCart, f, hf, hname, hnot⟩

theorem load_cartTest :
    SourceFile.load (some (cartTest.toJson.prettyAt 0)) = .ok cartTest := by
  have htest : (ClassDecl.ofQualifiedName "shop.CartTest").IsLoadable :=
    ClassDecl.isLoadable_ofQualifiedName_iff.mpr (by decide)
  rw [SourceFile.load_prettyAt_iff]
  exact ⟨by decide, List.forall_mem_singleton.mpr htest⟩

/-- Identifiers for all fields and parameters do not make identifiers of all added names. -/
theorem not_forall_isIdentifier_added :
    ¬∀ (projectContent fileContent : Option String) (project : ProjectModel) (file : SourceFile),
        ProjectModel.load projectContent = .ok project → SourceFile.load fileContent = .ok file →
        (project.NamesVariables fun name => isIdentifier name = true ∧ IsAscii name) →
          ∀ (lombok : Bool) (seed : UInt64),
            ∀ f ∈ addedFields file (generate (builtin.extend project lombok) seed file).1,
              isIdentifier f.name = true := by
  intro hall
  obtain ⟨f, hf, hname⟩ := exists_added_digitCart
  have hidentifier :=
    hall _ _ _ _ load_digitCart load_cartTest namesVariables_digitCart true 7 f hf
  rw [hname] at hidentifier
  exact absurd hidentifier (by decide)

end Scaffold

end MockScaffold
