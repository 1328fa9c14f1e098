import MockScaffold.Decl.Class
import MockScaffold.Model.Decoding
import MockScaffold.Proofs.JavaType.RoundTrip
import MockScaffold.Proofs.Json.Decoded

namespace MockScaffold

structure MethodDecl.IsWritten (m : MethodDecl) : Prop where
  params : ∀ p ∈ m.params, p.type.IsWritten
  returnType : ∀ t ∈ m.returnType, t.IsWritten

/-- All types in a class and in the classes nested in it are written. -/
inductive ClassDecl.IsWritten : ClassDecl → Prop
  | intro {c : ClassDecl} (superTypes : ∀ t ∈ c.superTypes, t.IsWritten)
      (fields : ∀ f ∈ c.fields, f.type.IsWritten) (methods : ∀ m ∈ c.methods, m.IsWritten)
      (innerClasses : ∀ d ∈ c.innerClasses, IsWritten d) : IsWritten c

namespace ClassDecl.IsWritten

variable {c : ClassDecl}

theorem superTypes (h : c.IsWritten) : ∀ t ∈ c.superTypes, t.IsWritten := by
  cases h
  assumption

theorem fields (h : c.IsWritten) : ∀ f ∈ c.fields, f.type.IsWritten := by
  cases h
  assumption

theorem methods (h : c.IsWritten) : ∀ m ∈ c.methods, m.IsWritten := by
  cases h
  assumption

theorem innerClasses (h : c.IsWritten) : ∀ d ∈ c.innerClasses, d.IsWritten := by
  cases h
  assumption

end ClassDecl.IsWritten

section Decoded

variable {j : Json}

theorem TypeRef.isWritten_of_ofJson? {t : TypeRef} (h : TypeRef.ofJson? j = some t) :
    t.IsWritten := by
  obtain ⟨text, -, hparse⟩ := Option.bind_eq_some_iff.mp h
  cases hread : TypeRef.parse text with
  | error fault =>
    rw [hread] at hparse
    cases hparse
  | ok t' =>
    rw [hread] at hparse
    cases hparse
    exact isWritten_of_parse hread

theorem Parameter.isWritten_of_ofJson? {p : Parameter} (h : Parameter.ofJson? j = some p) :
    p.type.IsWritten := by
  simp only [Parameter.ofJson?, bind, Option.bind_eq_some_iff] at h
  obtain ⟨members, -, name, -, type, htype, hp⟩ := h
  cases hp
  exact Json.of_required? (fun _ _ => TypeRef.isWritten_of_ofJson?) htype

theorem FieldDecl.isWritten_of_ofJson? {f : FieldDecl} (h : FieldDecl.ofJson? j = some f) :
    f.type.IsWritten := by
  simp only [FieldDecl.ofJson?, bind, Option.bind_eq_some_iff] at h
  obtain ⟨members, -, name, -, type, htype, modifiers, -, annotations, -, initializer, -, hf⟩ := h
  cases hf
  exact Json.of_required? (fun _ _ => TypeRef.isWritten_of_ofJson?) htype

theorem MethodDecl.isWritten_of_ofJson? {m : MethodDecl} (h : MethodDecl.ofJson? j = some m) :
    m.IsWritten := by
  simp only [MethodDecl.ofJson?, bind, Option.bind_eq_some_iff] at h
  obtain ⟨members, -, name, -, modifiers, -, annotations, -, params, hparams, returnType,
    hreturnType, isConstructor, -, origin, -, body, -, hm⟩ := h
  cases hm
  exact ⟨Json.forall_of_listMember (fun _ _ => Parameter.isWritten_of_ofJson?) hparams,
    Json.of_optional? (fun _ _ => TypeRef.isWritten_of_ofJson?) hreturnType⟩

theorem ClassDecl.isWritten_of_ofJsonWithin? {bound : Nat} {c : ClassDecl}
    (h : ClassDecl.ofJsonWithin? bound j = some c) : c.IsWritten := by
  induction bound generalizing j c with
  | zero => cases h
  | succ bound ih =>
    simp only [ClassDecl.ofJsonWithin?, bind, Option.bind_eq_some_iff] at h
    obtain ⟨members, -, name, -, qualifiedName, -, kind, -, modifiers, -, annotations, -,
      superTypes, hsuperTypes, enumConstants, -, fields, hfields, methods, hmethods, innerClasses,
      hinnerClasses, hc⟩ := h
    cases hc
    exact .intro (Json.forall_of_listMember (fun _ _ => TypeRef.isWritten_of_ofJson?) hsuperTypes)
      (Json.forall_of_listMember (fun _ _ => FieldDecl.isWritten_of_ofJson?) hfields)
      (Json.forall_of_listMember (fun _ _ => MethodDecl.isWritten_of_ofJson?) hmethods)
      (Json.forall_of_listMember (fun _ _ => ih) hinnerClasses)

theorem SourceFile.isWritten_of_ofJson? {f : SourceFile} (h : SourceFile.ofJson? j = some f) :
    ∀ c ∈ f.classes, c.IsWritten := by
  unfold SourceFile.ofJson? at h
  split at h
  · obtain ⟨_, -, h⟩ := Option.bind_eq_some_iff.mp h
    simp only [bind, Option.bind_eq_some_iff] at h
    obtain ⟨known, -, name, -, header, -, classes, hclasses, hf⟩ := h
    cases hf
    exact Json.forall_of_listMember (fun _ _ => ClassDecl.isWritten_of_ofJsonWithin?) hclasses
  · cases h

theorem ProjectModel.isWritten_of_ofJson? {p : ProjectModel}
    (h : ProjectModel.ofJson? j = some p) :
    (∀ c ∈ p.classes, c.IsWritten) ∧ ∀ c ∈ p.libraries, c.IsWritten := by
  simp only [ProjectModel.ofJson?, bind, Option.bind_eq_some_iff] at h
  obtain ⟨members, -, classes, hclasses, libraries, hlibraries, hp⟩ := h
  cases hp
  exact ⟨Json.forall_of_listMember (fun _ _ => ClassDecl.isWritten_of_ofJsonWithin?) hclasses,
    Json.forall_of_listMember (fun _ _ => ClassDecl.isWritten_of_ofJsonWithin?) hlibraries⟩

end Decoded

end MockScaffold
