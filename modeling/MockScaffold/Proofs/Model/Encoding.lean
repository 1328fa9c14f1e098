import MockScaffold.Model.Encoding
import MockScaffold.Proofs.Json.Depth

namespace MockScaffold

open Json (isTextual allTextual allMembersTextual listMember optionMember)

namespace Json

theorem allTextual_map {toJson : α → Json} {as : List α}
    (h : ∀ a ∈ as, (toJson a).isTextual = true) : allTextual (as.map toJson) = true := by
  induction as with
  | nil => rfl
  | cons a as ih =>
    rw [List.forall_mem_cons] at h
    rw [List.map_cons, allTextual, h.1, ih h.2]
    rfl

@[simp] theorem allTextual_strings (texts : List String) :
    allTextual (texts.map .string) = true :=
  allTextual_map fun _ _ => rfl

@[simp] theorem allMembersTextual_append (members members' : List (String × Json)) :
    allMembersTextual (members ++ members') =
      (allMembersTextual members && allMembersTextual members') := by
  induction members with
  | nil => rfl
  | cons member members ih =>
    rw [List.cons_append, allMembersTextual, allMembersTextual, ih, Bool.and_assoc]

@[simp] theorem allMembersTextual_listMember (key : String) {items : List Json}
    (h : allTextual items = true) : allMembersTextual (listMember key items) = true := by
  unfold listMember
  split
  · rfl
  · simp [allMembersTextual, isTextual, h]

@[simp] theorem allMembersTextual_optionMember (key : String) {value : Option Json}
    (h : ∀ j ∈ value, j.isTextual = true) :
    allMembersTextual (optionMember key value) = true := by
  cases value with
  | none => rfl
  | some j => simp [optionMember, allMembersTextual, h j rfl]

end Json

@[simp] theorem TypeRef.isTextual_toJson (t : TypeRef) : t.toJson.isTextual = true :=
  rfl

@[simp] theorem Modifiers.isTextual_toJson (m : Modifiers) : m.toJson.isTextual = true :=
  rfl

@[simp] theorem AnnotationUse.isTextual_toJson (use : AnnotationUse) :
    use.toJson.isTextual = true := by
  cases use with | mk name argument => cases argument <;> rfl

@[simp] theorem MemberOrigin.isTextual_toJson (origin : MemberOrigin) :
    origin.toJson.isTextual = true := by
  cases origin <;> rfl

@[simp] theorem Parameter.isTextual_toJson (p : Parameter) : p.toJson.isTextual = true :=
  rfl

@[simp] theorem FieldDecl.isTextual_toJson (f : FieldDecl) : f.toJson.isTextual = true := by
  have hannotations : allTextual (f.annotations.map (·.toJson)) = true :=
    Json.allTextual_map fun _ _ => AnnotationUse.isTextual_toJson _
  simp [FieldDecl.toJson, isTextual, allMembersTextual, hannotations]

@[simp] theorem MethodDecl.isTextual_toJson (m : MethodDecl) : m.toJson.isTextual = true := by
  have hannotations : allTextual (m.annotations.map (·.toJson)) = true :=
    Json.allTextual_map fun _ _ => AnnotationUse.isTextual_toJson _
  have hparams : allTextual (m.params.map (·.toJson)) = true :=
    Json.allTextual_map fun _ _ => Parameter.isTextual_toJson _
  simp [MethodDecl.toJson, isTextual, allMembersTextual, hannotations, hparams]

namespace ClassDecl

theorem allToJson_eq_map (cs : List ClassDecl) : allToJson cs = cs.map toJson := by
  induction cs with
  | nil => rfl
  | cons c cs ih => rw [allToJson, ih, List.map_cons]

theorem toJson_eq (c : ClassDecl) :
    c.toJson = .object ([("name", .string c.name), ("qualified_name", .string c.qualifiedName),
      ("kind", .string c.kind.word), ("modifiers", c.modifiers.toJson)] ++
      listMember "annotations" (c.annotations.map (·.toJson)) ++
      listMember "super_types" (c.superTypes.map (·.toJson)) ++
      listMember "enum_constants" (c.enumConstants.map .string) ++
      listMember "fields" (c.fields.map (·.toJson)) ++
      listMember "methods" (c.methods.map (·.toJson)) ++
      listMember "inner_classes" (c.innerClasses.map (·.toJson))) := by
  cases c
  rw [toJson, allToJson_eq_map]

theorem isTextual_toJson_of_inner {c : ClassDecl}
    (hinner : ∀ d ∈ c.innerClasses, d.toJson.isTextual = true) : c.toJson.isTextual = true := by
  have hannotations : allTextual (c.annotations.map (·.toJson)) = true :=
    Json.allTextual_map fun _ _ => AnnotationUse.isTextual_toJson _
  have hsuperTypes : allTextual (c.superTypes.map (·.toJson)) = true :=
    Json.allTextual_map fun _ _ => TypeRef.isTextual_toJson _
  have hfields : allTextual (c.fields.map (·.toJson)) = true :=
    Json.allTextual_map fun _ _ => FieldDecl.isTextual_toJson _
  have hmethods : allTextual (c.methods.map (·.toJson)) = true :=
    Json.allTextual_map fun _ _ => MethodDecl.isTextual_toJson _
  rw [c.toJson_eq]
  simp [isTextual, allMembersTextual, hannotations, hsuperTypes, hfields, hmethods,
    Json.allTextual_map hinner]

mutual

theorem isTextual_toJson : ∀ c : ClassDecl, c.toJson.isTextual = true
  | { innerClasses, .. } => isTextual_toJson_of_inner (forall_isTextual_toJson innerClasses)

theorem forall_isTextual_toJson : ∀ (cs : List ClassDecl), ∀ d ∈ cs, d.toJson.isTextual = true
  | [] => fun _ hd => absurd hd List.not_mem_nil
  | c :: cs => List.forall_mem_cons.mpr ⟨isTextual_toJson c, forall_isTextual_toJson cs⟩

end

end ClassDecl

theorem ImportDecl.isTextual_toJson (i : ImportDecl) : i.toJson.isTextual = true := by
  obtain ⟨path, isStatic⟩ := i
  cases isStatic <;> rfl

theorem FileHeader.allMembersTextual_members (h : FileHeader) :
    allMembersTextual h.members = true := by
  have himports : allTextual (h.imports.map (·.toJson)) = true :=
    Json.allTextual_map fun _ _ => ImportDecl.isTextual_toJson _
  simp [FileHeader.members, isTextual, himports]

theorem SourceFile.isTextual_toJson (f : SourceFile) : f.toJson.isTextual = true := by
  have hclasses : allTextual (f.classes.map (·.toJson)) = true :=
    Json.allTextual_map fun _ _ => ClassDecl.isTextual_toJson _
  simp [SourceFile.toJson, isTextual, allMembersTextual, FileHeader.allMembersTextual_members,
    ClassDecl.allToJson_eq_map, hclasses]

theorem ProjectModel.isTextual_toJson (p : ProjectModel) : p.toJson.isTextual = true := by
  have hall (cs : List ClassDecl) : allTextual (cs.map (·.toJson)) = true :=
    Json.allTextual_map fun _ _ => ClassDecl.isTextual_toJson _
  simp [ProjectModel.toJson, isTextual, allMembersTextual, ClassDecl.allToJson_eq_map, hall]

end MockScaffold
