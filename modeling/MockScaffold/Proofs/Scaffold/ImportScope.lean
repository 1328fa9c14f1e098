import Mathlib.Data.List.Induction
import MockScaffold.Proofs.Layout.Spelling
import MockScaffold.Proofs.Scaffold.Imports

namespace MockScaffold

namespace FileHeader

/-- The imports that came after those of `h`. -/
def addedImports (h h' : FileHeader) : List ImportDecl :=
  h'.imports.drop h.imports.length

variable {h h' : FileHeader} {i : ImportDecl}

theorem Extends.mem_imports_iff (he : h.Extends h') :
    i ∈ h'.imports ↔ i ∈ h.imports ∨ i ∈ h.addedImports h' := by
  obtain ⟨added, hadded⟩ := he.imports
  rw [addedImports, ← hadded, List.drop_left, List.mem_append]

/-- A class without a qualifier is only ever imported by its own name. -/
theorem importsClass_iff_mem {q : String} (hq : Name.qualifier? q = none) :
    h.importsClass q = true ↔ ⟨q, false⟩ ∈ h.imports := by
  rw [importsClass, List.any_eq_true]
  simp only [plainImports, List.mem_filter, Bool.not_eq_true', ImportDecl.covers_iff, hq,
    reduceCtorEq, false_and, exists_false, or_false]
  constructor
  · rintro ⟨⟨path, isStatic⟩, ⟨hi, rfl⟩, -, rfl⟩
    exact hi
  · intro hi
    exact ⟨_, ⟨hi, rfl⟩, rfl, rfl⟩

/-- An import of a class without a qualifier is one of that class alone. -/
theorem mem_singleImportsNamed_self {q : String} (hq : Name.qualifier? q = none)
    (hi : ⟨q, false⟩ ∈ h.imports) : ⟨q, false⟩ ∈ h.singleImportsNamed q := by
  refine mem_singleImportsNamed.mpr ⟨hi, rfl, ?_, Name.simpleName_eq_self_iff.mpr hq⟩
  rw [Bool.eq_false_iff]
  intro hdemand
  obtain ⟨owner, rfl⟩ := ImportDecl.isOnDemand_iff.mp hdemand
  exact Name.qualifier?_eq_none_iff.mp hq (by simp)

end FileHeader

namespace Scaffold

open FileHeader (addedImports)

/-- What the imports of a header can be asked for: one class, or all that a type mentions. -/
inductive ImportRequest where
  | ofClass (qualified : String)
  | ofType (type : TypeRef)

namespace ImportRequest

def classNames : ImportRequest → List String
  | ofClass q => [q]
  | ofType type => type.classNames

def perform (index : ClassIndex) (h : FileHeader) : ImportRequest → FileHeader
  | ofClass q => importClass index h q
  | ofType type => importType index h type

def performAll (index : ClassIndex) (h : FileHeader) (requests : List ImportRequest) :
    FileHeader :=
  requests.foldl (perform index) h

theorem perform_eq_importAll (index : ClassIndex) (h : FileHeader) (request : ImportRequest) :
    perform index h request = importAll index h request.classNames := by
  cases request <;> rfl

theorem performAll_eq_importAll (index : ClassIndex) (h : FileHeader)
    (requests : List ImportRequest) :
    performAll index h requests = importAll index h (requests.flatMap classNames) := by
  induction requests generalizing h with
  | nil => rfl
  | cons request requests ih =>
    rw [List.flatMap_cons, importAll_append, ← perform_eq_importAll]
    exact ih _

end ImportRequest

section Added

variable {index : ClassIndex} {h : FileHeader} {names : List String} {q simple : String}

theorem isInScope_eq_false_iff : isInScope h q = false ↔
    Name.qualifier? q ≠ some "java.lang" ∧
      (Name.qualifier? q = h.package → h.package = none) := by
  unfold isInScope
  cases Name.qualifier? q with
  | none => simp [eq_comm]
  | some owner =>
    dsimp only
    rw [Bool.or_eq_false_iff, beq_eq_false_iff_ne, beq_eq_false_iff_ne]
    refine and_congr (by simp) ⟨fun hother heq => absurd heq.symm hother, fun himp heq => ?_⟩
    rw [himp heq.symm] at heq
    cases heq

theorem importAll_concat (index : ClassIndex) (h : FileHeader) (names : List String) (q : String) :
    importAll index h (names ++ [q]) = importClass index (importAll index h names) q :=
  importAll_append index h names [q]

theorem addedImports_importClass {h' : FileHeader} (he : h.Extends h') :
    h.addedImports (importClass index h' q) =
      h.addedImports h' ++ if needsImport index h' q then [⟨q, false⟩] else [] := by
  cases hneeded : needsImport index h' q with
  | true =>
    rw [importClass_of_needed hneeded]
    exact List.drop_append_of_le_length he.imports.length_le
  | false =>
    rw [importClass_of_not_needed hneeded]
    exact (List.append_nil _).symm

/-- Every import that was added was needed when its turn came. -/
theorem mem_addedImports_iff {i : ImportDecl} :
    i ∈ h.addedImports (importAll index h names) ↔
      ∃ before q after, names = before ++ q :: after ∧
        needsImport index (importAll index h before) q = true ∧ i = ⟨q, false⟩ := by
  induction names using List.reverseRecOn with
  | nil => simp [addedImports, importAll]
  | append_singleton names q ih =>
    rw [importAll_concat, addedImports_importClass (extends_importAll index h names),
      List.mem_append, ih]
    constructor
    · rintro (⟨before, q', after, rfl, hneeded, rfl⟩ | hlast)
      · exact ⟨before, q', after ++ [q], by simp, hneeded, rfl⟩
      · split at hlast
        · rename_i hneeded
          exact ⟨names, q, [], rfl, hneeded, List.mem_singleton.mp hlast⟩
        · cases hlast
    · rintro ⟨before, q', after, hnames, hneeded, rfl⟩
      rcases List.eq_nil_or_concat after with rfl | ⟨after, last, rfl⟩
      · obtain ⟨rfl, hq⟩ := List.append_inj' hnames rfl
        cases hq
        exact .inr (by simp [hneeded])
      · rw [List.concat_eq_append, ← List.cons_append, ← List.append_assoc] at hnames
        exact .inl ⟨before, q', after, (List.append_inj' hnames rfl).1, hneeded, rfl⟩

theorem outside_of_mem_addedImports {i : ImportDecl}
    (hi : i ∈ h.addedImports (importAll index h names)) :
    i.isStatic = false ∧ i.path ∈ names ∧ (index.find? i.path .all).isSome = true ∧
      Name.qualifier? i.path ≠ some "java.lang" ∧
      (Name.qualifier? i.path = h.package → h.package = none) := by
  obtain ⟨before, q, after, rfl, hneeded, rfl⟩ := mem_addedImports_iff.mp hi
  obtain ⟨hfound, hscope, -, -⟩ := needsImport_iff.mp hneeded
  rw [isInScope_congr (extends_importAll index h before).package] at hscope
  exact ⟨rfl, by simp, hfound, isInScope_eq_false_iff.mp hscope⟩

theorem singleImportsNamed_importAll (htaken : h.singleImportsNamed simple ≠ []) :
    (importAll index h names).singleImportsNamed simple = h.singleImportsNamed simple := by
  refine importAll_induction
    (P := fun h' => h'.singleImportsNamed simple = h.singleImportsNamed simple) rfl ?_ names
  intro h' q hsame
  cases hneeded : needsImport index h' q with
  | false => rwa [importClass_of_not_needed hneeded]
  | true =>
    have hfree := (needsImport_iff.mp hneeded).2.2.2
    have hother : Name.simpleName q ≠ simple := by
      rintro rfl
      exact htaken (hsame ▸ hfree)
    rw [importClass_of_needed hneeded, ← hsame]
    simp [FileHeader.singleImportsNamed, FileHeader.plainImports, hother]

/-- The first import to take a simple name stays alone. -/
theorem path_eq_of_mem_singleImportsNamed (hq : Name.qualifier? q = none)
    (hneeded : needsImport index h q = true) {i : ImportDecl}
    (hi : i ∈ (importAll index h (q :: names)).singleImportsNamed q) : i.path = q := by
  have hsimple : Name.simpleName q = q := Name.simpleName_eq_self_iff.mpr hq
  have hfree : h.singleImportsNamed q = [] := by
    have hnone := (needsImport_iff.mp hneeded).2.2.2
    rwa [hsimple] at hnone
  have himported : importClass index h q = { h with imports := h.imports ++ [⟨q, false⟩] } :=
    importClass_of_needed hneeded
  have htaken : (importClass index h q).singleImportsNamed q ≠ [] :=
    List.ne_nil_of_mem (FileHeader.mem_singleImportsNamed_self hq (by simp [himported]))
  have hstays : (importAll index h (q :: names)).singleImportsNamed q =
      (importClass index h q).singleImportsNamed q := singleImportsNamed_importAll htaken
  rw [hstays, FileHeader.mem_singleImportsNamed, himported] at hi
  obtain ⟨himport, hsingle⟩ := hi
  rcases List.mem_append.mp himport with hold | hnew
  · have hmem := FileHeader.mem_singleImportsNamed.mpr ⟨hold, hsingle⟩
    rw [hfree] at hmem
    cases hmem
  · rw [List.mem_singleton.mp hnew]

/-- A class without a qualifier that is known gets imported unless its simple name is taken, which
is its whole name. -/
theorem mem_addedImports_iff_of_unqualified (hq : Name.qualifier? q = none) :
    let h' := importAll index h names
    ⟨q, false⟩ ∈ h.addedImports h' ↔
      q ∈ names ∧ (index.find? q .all).isSome = true ∧ h.singleImportsNamed q = [] ∧
        ∀ i ∈ h'.singleImportsNamed q, i.path = q := by
  intro h'
  have hsimple : Name.simpleName q = q := Name.simpleName_eq_self_iff.mpr hq
  constructor
  · intro hmem
    obtain ⟨before, q', after, rfl, hneeded, heq⟩ := mem_addedImports_iff.mp hmem
    cases heq
    obtain ⟨hfound, -, -, hfree⟩ := needsImport_iff.mp hneeded
    rw [hsimple] at hfree
    refine ⟨by simp, hfound, ?_, fun i hi => ?_⟩
    · exact List.eq_nil_of_subset_nil
        (hfree ▸ (extends_importAll index h before).singleImportsNamed_subset q)
    · have hrest : h' = importAll index (importAll index h before) (q :: after) :=
        importAll_append index h before (q :: after)
      rw [hrest] at hi
      exact path_eq_of_mem_singleImportsNamed hq hneeded hi
  · rintro ⟨hrequested, hfound, hfree, honly⟩
    -- Nothing else can stand against an import of the class than that there is one.
    have himported : ⟨q, false⟩ ∈ h'.imports := by
      by_contra hmissing
      have hneeded : needsImport index h' q = true := by
        refine needsImport_iff.mpr ⟨hfound, ?_, ?_, ?_⟩
        · rw [isInScope, hq]
        · rwa [Bool.eq_false_iff, ne_eq, FileHeader.importsClass_iff_mem hq]
        · rw [hsimple, List.eq_nil_iff_forall_not_mem]
          rintro ⟨path, isStatic⟩ hi
          obtain ⟨himport, rfl, -, -⟩ := FileHeader.mem_singleImportsNamed.mp hi
          exact hmissing (honly _ hi ▸ himport)
      rw [needsImport_importAll hrequested] at hneeded
      cases hneeded
    rcases (extends_importAll index h names).mem_imports_iff.mp himported with hold | hnew
    · have htaken := FileHeader.mem_singleImportsNamed_self hq hold
      rw [hfree] at htaken
      cases htaken
    · exact hnew

end Added

open ImportRequest (performAll)

/-- What is imported on request is known, was asked for, and is neither in `java.lang` nor in the
package of a file that has one, while a file in the unnamed package gets a class of that package
imported if and only if it is known and asked for before another class takes its simple name. -/
theorem addedImports_performAll (index : ClassIndex) (h : FileHeader)
    (requests : List ImportRequest) :
    let h' := performAll index h requests
    let asked := requests.flatMap (·.classNames)
    h.Extends h' ∧
      (∀ i ∈ h.addedImports h',
        i.isStatic = false ∧ i.path ∈ asked ∧ (index.find? i.path .all).isSome = true ∧
          Name.qualifier? i.path ≠ some "java.lang" ∧
          (Name.qualifier? i.path = h.package → h.package = none)) ∧
      ∀ q, Name.qualifier? q = h.package →
        (⟨q, false⟩ ∈ h.addedImports h' ↔
          h.package = none ∧ q ∈ asked ∧ (index.find? q .all).isSome = true ∧
            h.singleImportsNamed q = [] ∧ ∀ i ∈ h'.singleImportsNamed q, i.path = q) := by
  intro h' asked
  have hrun : h' = importAll index h asked := ImportRequest.performAll_eq_importAll index h requests
  rw [hrun]
  refine ⟨extends_importAll index h asked, fun i hi => outside_of_mem_addedImports hi, ?_⟩
  intro q hq
  constructor
  · intro hmem
    have hnone : h.package = none := (outside_of_mem_addedImports hmem).2.2.2.2 hq
    exact ⟨hnone, (mem_addedImports_iff_of_unqualified (hq.trans hnone)).mp hmem⟩
  · rintro ⟨hnone, hwanted⟩
    exact (mem_addedImports_iff_of_unqualified (hq.trans hnone)).mpr hwanted

/-- A project whose one class is in the unnamed package. -/
def unnamedIndex : ClassIndex :=
  ⟨[⟨.ofQualifiedName "Order", .project⟩]⟩

/-- A file in the unnamed package is made to import its neighbour. -/
theorem addedImports_performAll_order :
    let h' := performAll unnamedIndex {} [.ofClass "Order"]
    Name.qualifier? "Order" = ({} : FileHeader).package ∧
      (⟨"Order", false⟩ : ImportDecl) ∈ addedImports {} h' := by
  intro h'
  have hpackage : Name.qualifier? "Order" = ({} : FileHeader).package := by decide
  obtain ⟨-, -, hexact⟩ := addedImports_performAll unnamedIndex {} [.ofClass "Order"]
  refine ⟨hpackage, (hexact "Order" hpackage).mpr ⟨rfl, by decide, by decide, rfl, ?_⟩⟩
  decide

/-- The neighbour is a class of the file's own package. -/
theorem not_forall_outside_package :
    ¬∀ (index : ClassIndex) (h : FileHeader) (requests : List ImportRequest),
        ∀ i ∈ h.addedImports (performAll index h requests),
          Name.qualifier? i.path ≠ some "java.lang" ∧ Name.qualifier? i.path ≠ h.package := by
  intro hall
  have himport := hall unnamedIndex {} [.ofClass "Order"] ⟨"Order", false⟩ (by decide)
  exact himport.2 (by decide)

end Scaffold

end MockScaffold
