import MockScaffold.Scaffold.Imports

namespace MockScaffold

/-- The same package, and further imports after the old ones. -/
structure FileHeader.Extends (h h' : FileHeader) : Prop where
  package : h'.package = h.package
  imports : h.imports <+: h'.imports

namespace FileHeader.Extends

theorem refl (h : FileHeader) : h.Extends h :=
  ⟨rfl, List.prefix_refl _⟩

theorem trans {h₁ h₂ h₃ : FileHeader} (h : h₁.Extends h₂) (h' : h₂.Extends h₃) :
    h₁.Extends h₃ :=
  ⟨h'.package.trans h.package, h.imports.trans h'.imports⟩

theorem append (h : FileHeader) (added : List ImportDecl) :
    h.Extends { h with imports := h.imports ++ added } :=
  ⟨rfl, List.prefix_append _ _⟩

variable {h h' : FileHeader}

theorem plainImports_subset (he : h.Extends h') : h.plainImports ⊆ h'.plainImports := by
  intro i hi
  rw [plainImports, List.mem_filter] at hi ⊢
  exact ⟨he.imports.subset hi.1, hi.2⟩

theorem importsClass (he : h.Extends h') {q : String} (hq : h.importsClass q = true) :
    h'.importsClass q = true := by
  rw [FileHeader.importsClass, List.any_eq_true] at hq ⊢
  obtain ⟨i, hi, hcovers⟩ := hq
  exact ⟨i, he.plainImports_subset hi, hcovers⟩

theorem hasStaticImport (he : h.Extends h') {path : String}
    (hp : h.hasStaticImport path = true) : h'.hasStaticImport path = true := by
  simp only [FileHeader.hasStaticImport, staticImports, List.any_filter, List.any_eq_true]
    at hp ⊢
  obtain ⟨i, hi, hpath⟩ := hp
  exact ⟨i, he.imports.subset hi, hpath⟩

theorem singleImportsNamed_subset (he : h.Extends h') (simple : String) :
    h.singleImportsNamed simple ⊆ h'.singleImportsNamed simple := by
  intro i hi
  rw [singleImportsNamed, List.mem_filter] at hi ⊢
  exact ⟨he.plainImports_subset hi.1, hi.2⟩

end FileHeader.Extends

namespace Scaffold

open FileHeader (Extends)

variable {index : ClassIndex} {h h' : FileHeader} {q : String}

theorem isInScope_congr (hp : h'.package = h.package) : isInScope h' q = isInScope h q := by
  simp only [isInScope, hp]

theorem needsImport_iff : needsImport index h q = true ↔
    (index.find? q .all).isSome = true ∧ isInScope h q = false ∧ h.importsClass q = false ∧
      h.singleImportsNamed (Name.simpleName q) = [] := by
  simp [needsImport, and_assoc]

theorem needsImport_eq_false_of_extends (he : h.Extends h')
    (hn : needsImport index h q = false) : needsImport index h' q = false := by
  rw [← Bool.not_eq_true] at hn ⊢
  intro hneeds
  apply hn
  rw [needsImport_iff] at hneeds ⊢
  obtain ⟨hfound, hscope, hcovered, hclash⟩ := hneeds
  refine ⟨hfound, by rwa [isInScope_congr he.package] at hscope, ?_, ?_⟩
  · rw [Bool.eq_false_iff] at hcovered ⊢
    exact fun hcov => hcovered (he.importsClass hcov)
  · exact List.eq_nil_of_subset_nil (hclash ▸ he.singleImportsNamed_subset _)

theorem importClass_of_not_needed (hn : needsImport index h q = false) :
    importClass index h q = h := by
  rw [importClass, hn]
  rfl

theorem importClass_of_needed (hn : needsImport index h q = true) :
    importClass index h q = { h with imports := h.imports ++ [⟨q, false⟩] } :=
  if_pos hn

theorem extends_importClass (index : ClassIndex) (h : FileHeader) (q : String) :
    h.Extends (importClass index h q) := by
  cases hn : needsImport index h q with
  | true =>
    rw [importClass_of_needed hn]
    exact Extends.append h _
  | false =>
    rw [importClass_of_not_needed hn]
    exact Extends.refl h

theorem needsImport_importClass (index : ClassIndex) (h : FileHeader) (q : String) :
    needsImport index (importClass index h q) q = false := by
  cases hn : needsImport index h q with
  | true =>
    have hcovers : (importClass index h q).importsClass q = true := by
      simp [importClass_of_needed hn, FileHeader.importsClass, FileHeader.plainImports,
        ImportDecl.covers]
    simp [needsImport, hcovers]
  | false => rwa [importClass_of_not_needed hn]

def importAll (index : ClassIndex) (h : FileHeader) (names : List String) : FileHeader :=
  names.foldl (importClass index) h

theorem importType_eq_importAll (index : ClassIndex) (h : FileHeader) (type : TypeRef) :
    importType index h type = importAll index h type.classNames :=
  rfl

theorem importAll_append (index : ClassIndex) (h : FileHeader) (names names' : List String) :
    importAll index h (names ++ names') = importAll index (importAll index h names) names' :=
  List.foldl_append

theorem importAll_induction {P : FileHeader → Prop} (h0 : P h)
    (hstep : ∀ h q, P h → P (importClass index h q)) (names : List String) :
    P (importAll index h names) := by
  induction names generalizing h with
  | nil => exact h0
  | cons q names ih => exact ih (hstep h q h0)

theorem extends_importAll (index : ClassIndex) (h : FileHeader) (names : List String) :
    h.Extends (importAll index h names) :=
  importAll_induction (P := h.Extends) (Extends.refl h)
    (fun h' q he => he.trans (extends_importClass index h' q)) names

theorem needsImport_importAll {names : List String} (hq : q ∈ names) :
    needsImport index (importAll index h names) q = false := by
  induction names generalizing h with
  | nil => cases hq
  | cons name names ih =>
    rcases List.mem_cons.mp hq with rfl | hq
    · exact needsImport_eq_false_of_extends (extends_importAll index _ names)
        (needsImport_importClass index h q)
    · exact ih hq

theorem importAll_of_none_needed {names : List String}
    (hn : ∀ q ∈ names, needsImport index h q = false) : importAll index h names = h := by
  induction names with
  | nil => rfl
  | cons q names ih =>
    rw [importAll, List.foldl_cons, importClass_of_not_needed (hn q List.mem_cons_self)]
    exact ih fun q' hq' => hn q' (List.mem_cons_of_mem _ hq')

theorem extends_importStatic (index : ClassIndex) (h : FileHeader) (className member : String) :
    h.Extends (importStatic index h className member) := by
  unfold importStatic
  split
  · exact Extends.append h _
  · exact Extends.refl h

end Scaffold

end MockScaffold
