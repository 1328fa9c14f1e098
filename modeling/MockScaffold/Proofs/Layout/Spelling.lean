import MockScaffold.Layout.Head
import MockScaffold.Proofs.Name.Dots

namespace MockScaffold

namespace ImportDecl

theorem covers_iff {i : ImportDecl} {q : String} :
    i.covers q = true ↔ i.isStatic = false ∧
      (i.path = q ∨ ∃ owner, Name.qualifier? q = some owner ∧ i.path = owner ++ ".*") := by
  unfold covers
  rw [Bool.and_eq_true, Bool.not_eq_true', Bool.or_eq_true, beq_iff_eq]
  refine and_congr_right fun _ => or_congr_right ?_
  constructor
  · intro h
    split at h
    · rename_i package owner hpackage howner
      rw [beq_iff_eq] at h
      subst h
      exact ⟨package, howner, Text.withoutEnding?_eq_some_iff.mp hpackage⟩
    · cases h
  · rintro ⟨owner, howner, hpath⟩
    rw [Text.withoutEnding?_eq_some_iff.mpr hpath, howner]
    exact beq_self_eq_true owner

theorem isOnDemand_iff {i : ImportDecl} :
    i.isOnDemand = true ↔ ∃ owner, i.path = owner ++ ".*" := by
  simp only [← Text.withoutEnding?_eq_some_iff, isOnDemand, Text.withoutEnding?]
  cases Text.endsWith i.path ".*" <;> simp

end ImportDecl

namespace FileHeader

variable {h : FileHeader} {q : String}

/-- A plain import of a single other class takes the simple name. -/
def Hides (h : FileHeader) (q : String) : Prop :=
  ∃ i ∈ h.imports, i.isStatic = false ∧ i.isOnDemand = false ∧ i.path ≠ q ∧
    Name.simpleName i.path = Name.simpleName q

/-- The class belongs to `java.lang`, to the file's own package, or to what an import on demand
names. -/
def Opens (h : FileHeader) (q : String) : Prop :=
  ∃ owner, Name.qualifier? q = some owner ∧
    (owner = "java.lang" ∨ h.package = some owner ∨
      ∃ i ∈ h.imports, i.isStatic = false ∧ i.path = owner ++ ".*")

/-- A plain import names this class and no other. -/
def ImportsAlone (h : FileHeader) (q : String) : Prop :=
  ∃ i ∈ h.imports, i.isStatic = false ∧ i.isOnDemand = false ∧ i.path = q

theorem mem_singleImportsNamed {simple : String} {i : ImportDecl} :
    i ∈ h.singleImportsNamed simple ↔
      i ∈ h.imports ∧ i.isStatic = false ∧ i.isOnDemand = false ∧
        Name.simpleName i.path = simple := by
  simp only [singleImportsNamed, plainImports, List.mem_filter, Bool.and_eq_true, Bool.not_eq_true',
    beq_iff_eq, and_assoc]

theorem hides_iff : h.Hides q ↔ ∃ i ∈ h.singleImportsNamed (Name.simpleName q), i.path ≠ q := by
  simp only [mem_singleImportsNamed, Hides]
  constructor
  · rintro ⟨i, hi, hplain, hsingle, hother, hname⟩
    exact ⟨i, ⟨hi, hplain, hsingle, hname⟩, hother⟩
  · rintro ⟨i, ⟨hi, hplain, hsingle, hname⟩, hother⟩
    exact ⟨i, hi, hplain, hsingle, hother, hname⟩

theorem importsClass_iff : h.importsClass q = true ↔
    h.ImportsAlone q ∨ ∃ owner, Name.qualifier? q = some owner ∧
      ∃ i ∈ h.imports, i.isStatic = false ∧ i.path = owner ++ ".*" := by
  simp only [importsClass, plainImports, List.any_filter, List.any_eq_true, Bool.and_eq_true,
    Bool.not_eq_true', ImportDecl.covers_iff]
  constructor
  · rintro ⟨i, hi, hplain, -, hpath | ⟨owner, howner, hpath⟩⟩
    · cases hsingle : i.isOnDemand with
      | false => exact .inl ⟨i, hi, hplain, hsingle, hpath⟩
      | true =>
        -- A class by the name of `*` is itself among those that its import on demand names.
        obtain ⟨owner, howner⟩ := ImportDecl.isOnDemand_iff.mp hsingle
        have hq : q = owner ++ "." ++ "*" := by rw [← hpath, howner, String.append_assoc]; rfl
        exact .inr ⟨owner, hq ▸ Name.qualifier?_append owner (by decide), i, hi, hplain, howner⟩
    · exact .inr ⟨owner, howner, i, hi, hplain, hpath⟩
  · rintro (⟨i, hi, hplain, -, hpath⟩ | ⟨owner, howner, i, hi, hplain, hpath⟩)
    · exact ⟨i, hi, hplain, hplain, .inl hpath⟩
    · exact ⟨i, hi, hplain, hplain, .inr ⟨owner, howner, hpath⟩⟩

end FileHeader

namespace Layout.Namer

variable {namer : Namer} {q q₁ q₂ : String}

theorem isShadowed_iff : namer.isShadowed q = true ↔ namer.header.Hides q := by
  simp [isShadowed, FileHeader.hides_iff]

theorem isInScope_iff : namer.isInScope q = true ↔
    Name.qualifier? q = none ∨ ∃ owner, Name.qualifier? q = some owner ∧
      (owner = "java.lang" ∨ namer.header.package = some owner) := by
  unfold isInScope
  cases Name.qualifier? q with
  | none => simp
  | some owner => simp

theorem isVisible_iff :
    namer.isVisible q = true ↔
      q ∈ namer.declared ∨
        namer.isShadowed q = false ∧
          (namer.isInScope q = true ∨ namer.header.importsClass q = true) := by
  simp [isVisible]

theorem className_eq_simpleName_iff :
    namer.className q = Name.simpleName q ↔
      namer.isVisible q = true ∨ Name.qualifier? q = none := by
  unfold className
  split
  · rename_i hvisible
    simp [hvisible]
  · -- The full name is the simple name only if there is no qualifier.
    rename_i hhidden
    rw [eq_comm, Name.simpleName_eq_self_iff]
    simp [hhidden]

/-- A single import of the simple name is one of the class itself, unless the name is shadowed. -/
theorem importsClass_of_singleImportsNamed (h : namer.isShadowed q = false)
    (hsingle : namer.header.singleImportsNamed (Name.simpleName q) ≠ []) :
    namer.header.importsClass q = true := by
  obtain ⟨i, hi⟩ := List.exists_mem_of_ne_nil _ hsingle
  have hpath : i.path = q := by
    rw [isShadowed, List.any_eq_false] at h
    simpa using h i hi
  obtain ⟨himport, hplain, hkind, -⟩ := FileHeader.mem_singleImportsNamed.mp hi
  exact FileHeader.importsClass_iff.mpr (.inl ⟨i, himport, hplain, hkind, hpath⟩)

/-- The file declares the class, or it is not hidden and there is a way to it. -/
def Sees (namer : Namer) (q : String) : Prop :=
  q ∈ namer.declared ∨ ¬namer.header.Hides q ∧ (namer.header.Opens q ∨ namer.header.ImportsAlone q)

/-- A class without a qualifier needs no way. -/
theorem isVisible_iff_sees (hdot : '.' ∈ q.toList) : namer.isVisible q = true ↔ namer.Sees q := by
  have hqualified : Name.qualifier? q ≠ none := fun hnone =>
    Name.qualifier?_eq_none_iff.mp hnone hdot
  rw [isVisible_iff, Sees, ← Bool.not_eq_true, isShadowed_iff, isInScope_iff,
    FileHeader.importsClass_iff, or_iff_right hqualified]
  refine or_congr_right (and_congr_right fun _ => ?_)
  constructor
  · rintro (⟨owner, howner, hscope⟩ | halone | ⟨owner, howner, himport⟩)
    · exact .inl ⟨owner, howner, hscope.imp_right .inl⟩
    · exact .inr halone
    · exact .inl ⟨owner, howner, .inr (.inr himport)⟩
  · rintro (⟨owner, howner, hlang | hpackage | himport⟩ | halone)
    · exact .inl ⟨owner, howner, .inl hlang⟩
    · exact .inl ⟨owner, howner, .inr hpackage⟩
    · exact .inr (.inr ⟨owner, howner, himport⟩)
    · exact .inr (.inl halone)

/-- Qualified names are spelled alike only if both are shortened, to the same simple name. -/
theorem className_eq_className_iff_visible (hdot₁ : '.' ∈ q₁.toList) (hdot₂ : '.' ∈ q₂.toList)
    (hne : q₁ ≠ q₂) :
    namer.className q₁ = namer.className q₂ ↔
      Name.simpleName q₁ = Name.simpleName q₂ ∧ namer.Sees q₁ ∧ namer.Sees q₂ := by
  rw [← isVisible_iff_sees hdot₁, ← isVisible_iff_sees hdot₂, className, className]
  cases namer.isVisible q₁ with
  | true =>
    cases namer.isVisible q₂ with
    | true => simp
    | false => simp [Name.simpleName_ne hdot₂]
  | false =>
    cases namer.isVisible q₂ with
    | true => simp [(Name.simpleName_ne hdot₁).symm]
    | false => simp [hne]

/-- Where no single import takes the simple name, a file sees all that is open to it. -/
theorem sees_of_opens (hopen : namer.header.Opens q)
    (hnone : namer.header.singleImportsNamed (Name.simpleName q) = []) : namer.Sees q := by
  refine .inr ⟨fun hhidden => ?_, .inl hopen⟩
  obtain ⟨i, hi, -⟩ := FileHeader.hides_iff.mp hhidden
  rw [hnone] at hi
  cases hi

/-- Of two classes of one simple name a single import of either hides the other, so that a file that
declares none of them sees both only if neither is imported so. -/
theorem opens_of_sees_both (hne : q₁ ≠ q₂) (hname : Name.simpleName q₁ = Name.simpleName q₂)
    (hundeclared : ¬(q₁ ∈ namer.declared ∨ q₂ ∈ namer.declared)) (h₁ : namer.Sees q₁)
    (h₂ : namer.Sees q₂) :
    namer.header.Opens q₁ ∧ namer.header.Opens q₂ ∧
      namer.header.singleImportsNamed (Name.simpleName q₁) = [] := by
  rw [not_or] at hundeclared
  obtain ⟨hfree₁, hway₁⟩ := h₁.resolve_left hundeclared.1
  obtain ⟨hfree₂, hway₂⟩ := h₂.resolve_left hundeclared.2
  have hnone : namer.header.singleImportsNamed (Name.simpleName q₁) = [] := by
    rw [List.eq_nil_iff_forall_not_mem]
    intro i hi
    by_cases hpath : i.path = q₁
    · exact hfree₂ (FileHeader.hides_iff.mpr ⟨i, hname ▸ hi, hpath ▸ hne⟩)
    · exact hfree₁ (FileHeader.hides_iff.mpr ⟨i, hi, hpath⟩)
  have halone {q : String} (hq : Name.simpleName q = Name.simpleName q₁) :
      ¬namer.header.ImportsAlone q := by
    rintro ⟨i, hi, hplain, hsingle, rfl⟩
    have hmem := FileHeader.mem_singleImportsNamed.mpr ⟨hi, hplain, hsingle, hq⟩
    rw [hnone] at hmem
    cases hmem
  exact ⟨hway₁.resolve_right (halone rfl), hway₂.resolve_right (halone hname.symm), hnone⟩

/-- Two classes that have a qualifier are spelled alike if and only if they have the same simple
name and the file sees both: either it declares one of them, or both are open to it and the name is
taken by no single import. -/
theorem className_eq_className_iff (file : SourceFile) {q₁ q₂ : String} (hdot₁ : '.' ∈ q₁.toList)
    (hdot₂ : '.' ∈ q₂.toList) (hne : q₁ ≠ q₂) :
    let namer := ofFile file
    namer.className q₁ = namer.className q₂ ↔
      Name.simpleName q₁ = Name.simpleName q₂ ∧
        ((q₁ ∈ namer.declared ∨ q₂ ∈ namer.declared) ∧ namer.Sees q₁ ∧ namer.Sees q₂ ∨
          file.header.Opens q₁ ∧ file.header.Opens q₂ ∧
            file.header.singleImportsNamed (Name.simpleName q₁) = []) := by
  intro namer
  rw [className_eq_className_iff_visible hdot₁ hdot₂ hne]
  refine and_congr_right fun hname => ?_
  constructor
  · rintro ⟨h₁, h₂⟩
    by_cases hdeclared : q₁ ∈ namer.declared ∨ q₂ ∈ namer.declared
    · exact .inl ⟨hdeclared, h₁, h₂⟩
    · exact .inr (opens_of_sees_both hne hname hdeclared h₁ h₂)
  · rintro (⟨-, h₁, h₂⟩ | ⟨hopen₁, hopen₂, hnone⟩)
    · exact ⟨h₁, h₂⟩
    · exact ⟨sees_of_opens hopen₁ hnone, sees_of_opens hopen₂ (hname ▸ hnone)⟩

/-- A file in a package of its own, with an import on demand. -/
def jobFile : SourceFile where
  name := "JobTest.java"
  header := { package := some "work", imports := [⟨"java.util.*", false⟩] }
  classes := [.ofQualifiedName "work.JobTest"]

/-- A class of `java.lang` and one of the file's own package are both open to it. -/
theorem className_eq_className_iff_jobFile :
    let namer := ofFile jobFile
    '.' ∈ "java.lang.String".toList ∧ '.' ∈ "work.String".toList ∧
      "java.lang.String" ≠ "work.String" ∧
      Name.simpleName "java.lang.String" = Name.simpleName "work.String" ∧
      jobFile.header.Opens "java.lang.String" ∧ jobFile.header.Opens "work.String" ∧
      jobFile.header.singleImportsNamed (Name.simpleName "java.lang.String") = [] ∧
      namer.className "java.lang.String" = namer.className "work.String" := by
  intro namer
  have hlang : '.' ∈ "java.lang.String".toList := by decide
  have hwork : '.' ∈ "work.String".toList := by decide
  have hne : "java.lang.String" ≠ "work.String" := by decide
  have hname : Name.simpleName "java.lang.String" = Name.simpleName "work.String" := by decide
  have hopen₁ : jobFile.header.Opens "java.lang.String" := ⟨"java.lang", by decide, .inl rfl⟩
  have hopen₂ : jobFile.header.Opens "work.String" := ⟨"work", by decide, .inr (.inl rfl)⟩
  have hnone : jobFile.header.singleImportsNamed (Name.simpleName "java.lang.String") = [] := by
    decide
  refine ⟨hlang, hwork, hne, hname, hopen₁, hopen₂, hnone, ?_⟩
  exact (className_eq_className_iff jobFile hlang hwork hne).mpr
    ⟨hname, .inr ⟨hopen₁, hopen₂, hnone⟩⟩

/-- Both are spelled `String`. -/
theorem not_forall_className_ne :
    ¬∀ (file : SourceFile) (q₁ q₂ : String), '.' ∈ q₁.toList → '.' ∈ q₂.toList → q₁ ≠ q₂ →
      (ofFile file).className q₁ ≠ (ofFile file).className q₂ := by
  intro hall
  exact hall jobFile "java.lang.String" "work.String" (by decide) (by decide) (by decide)
    (by decide)

end Layout.Namer

end MockScaffold
