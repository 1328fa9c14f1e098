import MockScaffold.Proofs.Layout.Spelling
import MockScaffold.Proofs.Scaffold.Imports

namespace MockScaffold.Scaffold

open Layout (Namer)

/-- The file declares the class, or the class has no qualifier, or else no import of another class
takes its simple name, and it is in scope, imported or known to the index. -/
def CanBeSeen (index : ClassIndex) (namer : Namer) (q : String) : Prop :=
  q ∈ namer.declared ∨ Name.qualifier? q = none ∨
    namer.isShadowed q = false ∧
      (namer.isInScope q = true ∨ namer.header.importsClass q = true ∨
        (index.find? q .all).isSome = true)

section Visible

variable {index : ClassIndex} {namer : Namer} {q : String}

theorem isInScope_of_isInScope (h : isInScope namer.header q = true) :
    namer.isInScope q = true := by
  unfold isInScope at h
  unfold Namer.isInScope
  split at h
  · rename_i owner howner
    rw [howner]
    exact h
  · cases h

/-- An import that is possible is only not needed where the class is in scope or imported. -/
theorem isInScope_or_importsClass (h : needsImport index namer.header q = false)
    (hfound : (index.find? q .all).isSome = true) (hfree : namer.isShadowed q = false) :
    namer.isInScope q = true ∨ namer.header.importsClass q = true := by
  simp only [needsImport, hfound, Bool.true_and, Bool.and_eq_false_iff, Bool.not_eq_false',
    List.isEmpty_eq_false_iff] at h
  rcases h with (hscope | himported) | hclash
  · exact .inl (isInScope_of_isInScope hscope)
  · exact .inr himported
  · exact .inr (Namer.importsClass_of_singleImportsNamed hfree hclash)

theorem className_eq_simpleName_iff (h : needsImport index namer.header q = false) :
    namer.className q = Name.simpleName q ↔ CanBeSeen index namer q := by
  rw [Namer.className_eq_simpleName_iff, Namer.isVisible_iff, CanBeSeen]
  constructor
  · rintro ((hdeclared | ⟨hfree, hscope | himported⟩) | hnone)
    · exact .inl hdeclared
    · exact .inr (.inr ⟨hfree, .inl hscope⟩)
    · exact .inr (.inr ⟨hfree, .inr (.inl himported)⟩)
    · exact .inr (.inl hnone)
  · rintro (hdeclared | hnone | ⟨hfree, hscope | himported | hfound⟩)
    · exact .inl (.inl hdeclared)
    · exact .inr hnone
    · exact .inl (.inr ⟨hfree, .inl hscope⟩)
    · exact .inl (.inr ⟨hfree, .inr himported⟩)
    · exact .inl (.inr ⟨hfree, isInScope_or_importsClass h hfound hfree⟩)

/-- Where a known class needs no import any more and is declared elsewhere, only the import of
another class can hide it. -/
theorem isVisible_iff_not_hides (h : needsImport index namer.header q = false)
    (hfound : (index.find? q .all).isSome = true) (hundeclared : q ∉ namer.declared) :
    namer.isVisible q = true ↔ ¬namer.header.Hides q := by
  rw [Namer.isVisible_iff, or_iff_right hundeclared, ← Namer.isShadowed_iff, Bool.not_eq_true]
  constructor
  · exact fun hvisible => hvisible.1
  · exact fun hfree => ⟨hfree, isInScope_or_importsClass h hfound hfree⟩

end Visible

/-- Once the classes of a type are imported, each of them that is known and not declared in the
file is spelled by its simple name if and only if no import of another class hides it or that is
its whole name. -/
theorem className_importType_iff (index : ClassIndex) (h : FileHeader) (type : TypeRef)
    (declared : List String) :
    let namer : Namer := ⟨importType index h type, declared⟩
    ∀ q ∈ type.classNames, (index.find? q .all).isSome = true → q ∉ declared →
      (namer.isVisible q = true ↔ ¬namer.header.Hides q) ∧
        (namer.className q = Name.simpleName q ↔ ¬namer.header.Hides q ∨ '.' ∉ q.toList) := by
  intro namer q hq hfound hundeclared
  -- What came after the class itself cannot have made an import of it needed again.
  have hneeded : needsImport index namer.header q = false := needsImport_importAll hq
  have hvisible := isVisible_iff_not_hides hneeded hfound hundeclared
  refine ⟨hvisible, ?_⟩
  rw [Namer.className_eq_simpleName_iff, hvisible, Name.qualifier?_eq_none_iff]

/-- Two enumerations of one simple name. -/
def statusIndex : ClassIndex :=
  ⟨[⟨{ name := "Status", qualifiedName := "shop.Status", kind := .enum,
       enumConstants := ["OPEN"] }, .project⟩,
    ⟨{ name := "Status", qualifiedName := "bank.Status", kind := .enum,
       enumConstants := ["PAID"] }, .project⟩]⟩

/-- The class of the file's own package needs no import, and is hidden by that of its argument. -/
theorem className_importType_iff_status :
    let type : TypeRef := .named "bank.Status" [.array (.ofClass "shop.Status")]
    let namer : Namer := ⟨importType statusIndex { package := some "bank" } type, []⟩
    ("bank.Status" ∈ type.classNames ∧ "shop.Status" ∈ type.classNames) ∧
      ((statusIndex.find? "bank.Status" .all).isSome = true ∧
        (statusIndex.find? "shop.Status" .all).isSome = true) ∧
      ("bank.Status" ∉ namer.declared ∧ "shop.Status" ∉ namer.declared) ∧
      namer.className "bank.Status" ≠ Name.simpleName "bank.Status" ∧
      namer.className "shop.Status" = Name.simpleName "shop.Status" := by
  intro type namer
  have hbank : "bank.Status" ∈ type.classNames := by decide
  have hshop : "shop.Status" ∈ type.classNames := by decide
  have hheader :
      namer.header = { package := some "bank", imports := [⟨"shop.Status", false⟩] } := by
    decide
  have hspelled := className_importType_iff statusIndex { package := some "bank" } type []
  refine ⟨⟨hbank, hshop⟩, by decide, by decide, fun hshort => ?_, ?_⟩
  · rcases (hspelled "bank.Status" hbank (by decide) (by decide)).2.mp hshort with hfree | hdot
    · apply hfree
      rw [hheader]
      exact ⟨⟨"shop.Status", false⟩, by decide, rfl, by decide, by decide, by decide⟩
    · exact hdot (by decide)
  · refine (hspelled "shop.Status" hshop (by decide) (by decide)).2.mpr (.inl ?_)
    rw [hheader]
    rintro ⟨i, hi, -, -, hother, -⟩
    rw [List.mem_singleton.mp hi] at hother
    exact hother rfl

/-- A class of the unnamed package has no other name than the one that another class takes. -/
theorem not_forall_className_iff_not_hides :
    ¬∀ (index : ClassIndex) (h : FileHeader) (type : TypeRef) (declared : List String),
        let namer : Namer := ⟨importType index h type, declared⟩
        ∀ q ∈ type.classNames, (index.find? q .all).isSome = true → q ∉ declared →
          (namer.className q = Name.simpleName q ↔ ¬namer.header.Hides q) := by
  intro hall
  have h := hall ⟨[⟨.ofQualifiedName "Order", .project⟩]⟩
    { package := some "work", imports := [⟨"shop.Order", false⟩] } (.ofClass "Order")
    ["work.JobTest"] "Order" (by decide) (by decide) (by decide)
  refine h.mp (by decide) ⟨⟨"shop.Order", false⟩, by decide, rfl, by decide, by decide, by decide⟩

end MockScaffold.Scaffold
