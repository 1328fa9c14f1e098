import MockScaffold.Proofs.JavaType.WellFormed
import MockScaffold.Proofs.Model.RoundTrip

namespace MockScaffold

def MethodDecl.types (m : MethodDecl) : List TypeRef :=
  m.params.map (·.type) ++ m.returnType.toList

/-- The supertypes and the types of fields and methods, those of nested classes left out. -/
def ClassDecl.ownTypes (c : ClassDecl) : List TypeRef :=
  c.superTypes ++ c.fields.map (·.type) ++ c.methods.flatMap (·.types)

def SourceFile.types (f : SourceFile) : List TypeRef :=
  (ClassDecl.walkAll f.classes).flatMap (·.ownTypes)

def ProjectModel.types (p : ProjectModel) : List TypeRef :=
  (ClassDecl.walkAll p.classes ++ ClassDecl.walkAll p.libraries).flatMap (·.ownTypes)

section Written

theorem forall_mem_flatMap {f : α → List β} {P : β → Prop} {as : List α} :
    (∀ b ∈ as.flatMap f, P b) ↔ ∀ a ∈ as, ∀ b ∈ f a, P b := by
  simp only [List.mem_flatMap]
  exact ⟨fun h a ha b hb => h b ⟨a, ha, hb⟩, fun h b ⟨a, ha, hb⟩ => h a ha b hb⟩

theorem TypeRef.isWritten_iff_exists_text {t : TypeRef} :
    t.IsWritten ↔ ∃ text, TypeRef.parse text = .ok t :=
  ⟨fun h => ⟨t.canonical, parse_canonical h⟩, fun ⟨_, h⟩ => isWritten_of_parse h⟩

theorem MethodDecl.isWritten_iff {m : MethodDecl} :
    m.IsWritten ↔ ∀ t ∈ m.types, t.IsWritten := by
  have hreturnType : (∀ t ∈ m.returnType.toList, t.IsWritten) ↔
      ∀ t ∈ m.returnType, t.IsWritten := by
    simp only [Option.mem_toList, Option.mem_def]
  rw [types, List.forall_mem_append, List.forall_mem_map, hreturnType]
  exact ⟨fun h => ⟨h.params, h.returnType⟩, fun h => ⟨h.1, h.2⟩⟩

namespace ClassDecl

theorem isWritten_iff {c : ClassDecl} : c.IsWritten ↔
    (∀ t ∈ c.ownTypes, t.IsWritten) ∧ ∀ d ∈ c.innerClasses, d.IsWritten := by
  have hmethods : (∀ t ∈ c.methods.flatMap (·.types), t.IsWritten) ↔
      ∀ m ∈ c.methods, m.IsWritten := by
    simp only [forall_mem_flatMap, MethodDecl.isWritten_iff]
  rw [ownTypes, List.forall_mem_append, List.forall_mem_append, List.forall_mem_map, hmethods]
  constructor
  · intro h
    exact ⟨⟨⟨h.superTypes, h.fields⟩, h.methods⟩, h.innerClasses⟩
  · rintro ⟨⟨⟨hsuperTypes, hfields⟩, hmethods⟩, hinner⟩
    exact .intro hsuperTypes hfields hmethods hinner

mutual

theorem isWritten_iff_walk : ∀ c : ClassDecl,
    c.IsWritten ↔ ∀ d ∈ c.walk, ∀ t ∈ d.ownTypes, t.IsWritten
  | { innerClasses, .. } => by
    rw [isWritten_iff, walk, List.forall_mem_cons]
    exact and_congr_right fun _ => forall_isWritten_iff_walkAll innerClasses

theorem forall_isWritten_iff_walkAll : ∀ cs : List ClassDecl,
    (∀ c ∈ cs, c.IsWritten) ↔ ∀ d ∈ walkAll cs, ∀ t ∈ d.ownTypes, t.IsWritten
  | [] => ⟨fun _ _ h => absurd h List.not_mem_nil, fun _ _ h => absurd h List.not_mem_nil⟩
  | c :: cs => by
    rw [List.forall_mem_cons, walkAll, List.forall_mem_append, isWritten_iff_walk c,
      forall_isWritten_iff_walkAll cs]

end

/-- The classes are written if some text is read as each of their types and of the types in the
classes nested in them. -/
theorem forall_isWritten_iff_exists_text (cs : List ClassDecl) :
    (∀ c ∈ cs, c.IsWritten) ↔
      ∀ t ∈ (walkAll cs).flatMap (·.ownTypes), ∃ text, TypeRef.parse text = .ok t := by
  simp only [forall_isWritten_iff_walkAll, forall_mem_flatMap, TypeRef.isWritten_iff_exists_text]

end ClassDecl

end Written

/-- Nothing is cut off at the depth of what is written. -/
theorem Json.Restores.read_toJson {toJson : α → Json} {read : Json → Option α} {P : α → Prop}
    (h : Json.Restores toJson read P) {a : α} (ha : P a) : read (toJson a) = some a := by
  have hread := h (toJson a).depth a ha
  rwa [Json.cut_of_depth_le _ (Nat.le_refl _), if_pos (Nat.le_refl _)] at hread

theorem SourceFile.ofJson?_toJson_iff {f : SourceFile} : SourceFile.ofJson? f.toJson = some f ↔
    ∀ t ∈ f.types, ∃ text, TypeRef.parse text = .ok t := by
  rw [types, ← ClassDecl.forall_isWritten_iff_exists_text]
  exact ⟨SourceFile.isWritten_of_ofJson?, SourceFile.restores.read_toJson⟩

theorem ProjectModel.ofJson?_toJson_iff {p : ProjectModel} :
    ProjectModel.ofJson? p.toJson = some p ↔
      ∀ t ∈ p.types, ∃ text, TypeRef.parse text = .ok t := by
  rw [types, List.flatMap_append, List.forall_mem_append,
    ← ClassDecl.forall_isWritten_iff_exists_text, ← ClassDecl.forall_isWritten_iff_exists_text]
  exact ⟨ProjectModel.isWritten_of_ofJson?, ProjectModel.restores.read_toJson⟩

/-- Writing and reading loses nothing of a model whose types come from texts, and of no model that
was read. -/
theorem models_restored :
    (∀ f : SourceFile, SourceFile.ofJson? f.toJson = some f ↔
        ∀ t ∈ f.types, ∃ text, TypeRef.parse text = .ok t) ∧
      (∀ p : ProjectModel, ProjectModel.ofJson? p.toJson = some p ↔
        ∀ t ∈ p.types, ∃ text, TypeRef.parse text = .ok t) ∧
      (∀ j f, SourceFile.ofJson? j = some f → SourceFile.ofJson? f.toJson = some f) ∧
      ∀ j p, ProjectModel.ofJson? j = some p → ProjectModel.ofJson? p.toJson = some p := by
  refine ⟨fun _ => SourceFile.ofJson?_toJson_iff, fun _ => ProjectModel.ofJson?_toJson_iff,
    fun j f hread => ?_, fun j p hread => ?_⟩
  · exact SourceFile.restores.read_toJson (SourceFile.isWritten_of_ofJson? hread)
  · exact ProjectModel.restores.read_toJson (ProjectModel.isWritten_of_ofJson? hread)

/-- A test class with a nested class, whose method has a generic array as a parameter. -/
def entriesFile : SourceFile where
  name := "EntriesTest.java"
  header := { package := some "a", imports := [{ path := "java.util.Map.*", isStatic := true }] }
  classes :=
    [{ ClassDecl.ofQualifiedName "a.EntriesTest" with
      innerClasses :=
        [{ ClassDecl.ofQualifiedName "a.EntriesTest.Part" with
          methods :=
            [{ name := "put"
               params := [{ name := "entries", type := TypeRef.entriesType }]
               returnType := some .void
               origin := .generated "lombok" }] }] }]

/-- The members are in another order, one is not known, and a type has blanks around its name. -/
def entriesProject : Json :=
  .object
    [("libraries", .array []),
      ("classes", .array
        [.object
          [("qualified_name", .string "a.Entries"), ("since", .null), ("name", .string "Entries"),
            ("super_types", .array [.string " a.B$C "])]])]

theorem models_restored_entries :
    SourceFile.ofJson? entriesFile.toJson = some entriesFile ∧
      ∃ p, ProjectModel.ofJson? entriesProject = some p ∧
        ProjectModel.ofJson? p.toJson = some p ∧
          ∀ t ∈ p.types, ∃ text, TypeRef.parse text = .ok t := by
  obtain ⟨hfile, hproject, -, hagain⟩ := models_restored
  have hwritten := (TypeRef.isWellFormed_iff _).mp TypeRef.isWellFormed_entriesType
  have htypes : ∀ t ∈ entriesFile.types, ∃ text, TypeRef.parse text = .ok t := by
    have hlist : entriesFile.types = [TypeRef.entriesType, .void] := rfl
    rw [hlist]
    simp only [List.forall_mem_cons, ← TypeRef.isWritten_iff_exists_text]
    exact ⟨hwritten, .void, fun _ h => absurd h List.not_mem_nil⟩
  have hread : (ProjectModel.ofJson? entriesProject).isSome = true := by decide +kernel
  obtain ⟨p, hp⟩ := Option.isSome_iff_exists.mp hread
  have hrestored := hagain _ p hp
  exact ⟨(hfile _).mpr htypes, p, hp, hrestored, (hproject p).mp hrestored⟩

end MockScaffold
