import MockScaffold.Proofs.Decl.Tally
import MockScaffold.Proofs.SourceFile.Growth

namespace MockScaffold.ClassDecl

mutual

/-- The fields that the class has more than `old` has, where nested classes are compared with
those in their places. -/
def addedFields (old c : ClassDecl) : List FieldDecl :=
  match c with
  | { innerClasses, .. } =>
    c.fields.drop old.fields.length ++ addedFieldsAll old.innerClasses innerClasses

def addedFieldsAll (olds : List ClassDecl) : List ClassDecl → List FieldDecl
  | [] => []
  | c :: cs =>
    match olds with
    | [] => c.walk.flatMap (·.fields) ++ addedFieldsAll [] cs
    | old :: olds => addedFields old c ++ addedFieldsAll olds cs

end

mutual

theorem addedFields_eq_addedBy : ∀ old c : ClassDecl,
    addedFields old c = addedBy fields laterFields old c
  | _, { innerClasses, .. } => by
    rw [addedFields, addedBy, addedFieldsAll_eq_addedByAll _ innerClasses]
    rfl

theorem addedFieldsAll_eq_addedByAll : ∀ olds cs : List ClassDecl,
    addedFieldsAll olds cs = addedByAll fields laterFields olds cs
  | _, [] => rfl
  | [], c :: cs => by
    rw [addedFieldsAll, addedByAll, addedFieldsAll_eq_addedByAll [] cs]
  | old :: olds, c :: cs => by
    rw [addedFieldsAll, addedByAll, addedFields_eq_addedBy old c,
      addedFieldsAll_eq_addedByAll olds cs]

end

theorem addedFields_eq (old c : ClassDecl) :
    addedFields old c =
      c.fields.drop old.fields.length ++ addedFieldsAll old.innerClasses c.innerClasses := by
  cases c
  rw [addedFields]

theorem addedFieldsAll_self (cs : List ClassDecl) : addedFieldsAll cs cs = [] := by
  rw [addedFieldsAll_eq_addedByAll, tells_laterFields.addedByAll_self]

theorem addedFields_withAnnotations (c : ClassDecl) (annotations : List AnnotationUse) :
    addedFields c { c with annotations } = [] := by
  have hinner : ({ c with annotations } : ClassDecl).innerClasses = c.innerClasses := rfl
  rw [addedFields_eq_addedBy, tells_laterFields.addedBy_of_same_inner hinner]
  exact tells_laterFields.more_self c

theorem addedFields_withFields (c : ClassDecl) (added : List FieldDecl) :
    addedFields c (c.withFields added) = added := by
  rw [addedFields_eq_addedBy,
    tells_laterFields.addedBy_of_same_inner (c.withFields_innerClasses added), laterFields,
    withFields_fields, List.drop_left]

theorem addedFieldsAll_append (cs added : List ClassDecl) :
    addedFieldsAll cs (cs ++ added) = (walkAll added).flatMap (·.fields) := by
  rw [addedFieldsAll_eq_addedByAll, tells_laterFields.addedByAll_append]

theorem addedFieldsAll_set {cs : List ClassDecl} {place : Nat} {c : ClassDecl}
    (h : cs[place]? = some c) (d : ClassDecl) :
    addedFieldsAll cs (cs.set place d) = addedFields c d := by
  rw [addedFieldsAll_eq_addedByAll, tells_laterFields.addedByAll_set h, addedFields_eq_addedBy]

section Growths

variable {cs ds es : List ClassDecl} {c d e : ClassDecl} {f : FieldDecl}

theorem NestedGrowth.mem_added_or_added (h : NestedGrowth cs ds) (h' : NestedGrowth ds es)
    (hf : f ∈ addedFieldsAll cs es) : f ∈ addedFieldsAll cs ds ∨ f ∈ addedFieldsAll ds es := by
  rw [addedFieldsAll_eq_addedByAll] at hf
  rw [addedFieldsAll_eq_addedByAll, addedFieldsAll_eq_addedByAll, ← List.mem_append]
  exact (tells_laterFields.perm_added_of_nestedGrowth h h').mem_iff.mp hf

theorem Grows.mem_added_or_added (h : c.Grows d) (h' : d.Grows e) (hf : f ∈ addedFields c e) :
    f ∈ addedFields c d ∨ f ∈ addedFields d e := by
  rw [addedFields_eq_addedBy] at hf
  rw [addedFields_eq_addedBy, addedFields_eq_addedBy, ← List.mem_append]
  exact (tells_laterFields.perm_added_of_grows h h').mem_iff.mp hf

end Growths

end MockScaffold.ClassDecl

namespace MockScaffold.SourceFile

/-- The fields that the file has more than `old` has, at every level of its classes. -/
def addedFields (old file : SourceFile) : List FieldDecl :=
  ClassDecl.addedFieldsAll old.classes file.classes

theorem addedFields_self (file : SourceFile) : addedFields file file = [] :=
  ClassDecl.addedFieldsAll_self file.classes

theorem addedFields_withHeader (file : SourceFile) (header : FileHeader) :
    addedFields file { file with header } = [] :=
  ClassDecl.addedFieldsAll_self file.classes

variable {file file₁ file₂ file₃ : SourceFile} {place : Nat} {c : ClassDecl} {f : FieldDecl}

theorem addedFields_update (h : file.testPlace? = some (place, c)) (header : FileHeader)
    (d : ClassDecl) : addedFields file (file.update place header d) = ClassDecl.addedFields c d :=
  ClassDecl.addedFieldsAll_set (getElem?_of_testPlace? h) d

theorem Grows.mem_added_or_added (h : file₁.Grows file₂) (h' : file₂.Grows file₃)
    (hf : f ∈ addedFields file₁ file₃) :
    f ∈ addedFields file₁ file₂ ∨ f ∈ addedFields file₂ file₃ := by
  cases hplace : file₁.testPlace? with
  | none =>
    have hclasses := (h'.others (h.testPlace?_none hplace)).trans (h.others hplace)
    rw [addedFields, hclasses, ClassDecl.addedFieldsAll_self] at hf
    cases hf
  | some found =>
    obtain ⟨place, c⟩ := found
    obtain ⟨d, hcd, hplace₂, heq₂⟩ := h.testPlace? hplace
    obtain ⟨e, hde, hplace₃, heq₃⟩ := h'.testPlace? hplace₂
    have heq₁₃ : file₁.addedFields file₃ = c.addedFields e := by
      obtain ⟨e', -, hplace', heq'⟩ := (h.trans h').testPlace? hplace
      obtain rfl : e' = e := congrArg Prod.snd (Option.some.inj (hplace'.symm.trans hplace₃))
      rw [heq', addedFields_update hplace]
    rw [heq₁₃] at hf
    rw [heq₃, addedFields_update hplace₂, heq₂, addedFields_update hplace]
    exact hcd.mem_added_or_added hde hf

end MockScaffold.SourceFile
