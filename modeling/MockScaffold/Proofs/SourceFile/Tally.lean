import MockScaffold.Proofs.SourceFile.Additions

namespace MockScaffold

namespace SourceFile

open ClassDecl (addedByAll laterAnnotations laterFields laterNames ownName walkAll)
open ClassDecl (tells_laterAnnotations tells_laterFields tells_laterNames)

def allFields (file : SourceFile) : List FieldDecl :=
  (walkAll file.classes).flatMap (·.fields)

def allAnnotations (file : SourceFile) : List AnnotationUse :=
  (walkAll file.classes).flatMap (·.allAnnotations)

def classNames (file : SourceFile) : List String :=
  (walkAll file.classes).flatMap ownName

def addedAnnotations (old file : SourceFile) : List AnnotationUse :=
  addedByAll ClassDecl.allAnnotations laterAnnotations old.classes file.classes

def addedClassNames (old file : SourceFile) : List String :=
  addedByAll ownName laterNames old.classes file.classes

section Lengths

theorem total_length {β : Type} (list : α → List β) (as : List α) :
    total (fun a => (list a).length) as = (as.flatMap list).length := by
  induction as with
  | nil => rfl
  | cons a as ih => rw [total, ih, List.flatMap_cons, List.length_append]

theorem annotationCount_eq (c : ClassDecl) : annotationCount c = c.allAnnotations.length := by
  rw [annotationCount, total_length, total_length, ClassDecl.allAnnotations, List.length_append,
    List.length_append]

variable (file : SourceFile)

theorem tally_fields : file.tally.fields = file.allFields.length :=
  total_length _ _

theorem tally_annotations : file.tally.annotations = file.allAnnotations.length := by
  change total annotationCount (walkAll file.classes) = _
  simp only [funext annotationCount_eq, total_length]
  rfl

theorem tally_classes : file.tally.classes = file.classNames.length := by
  rw [classNames, ClassDecl.length_flatMap_ownName]
  rfl

end Lengths

namespace Grows

variable {file file' : SourceFile} {place : Nat} {c d : ClassDecl}

theorem forall₂ (h : file.Grows file') :
    List.Forall₂ ClassDecl.Grows file.classes file'.classes := by
  have hsame : List.Forall₂ ClassDecl.Grows file.classes file.classes :=
    List.forall₂_same.mpr fun c _ => .refl c
  cases hplace : file.testPlace? with
  | none =>
    rw [h.others hplace]
    exact hsame
  | some found =>
    obtain ⟨place, c⟩ := found
    obtain ⟨d, hclass, hclasses⟩ := h.testClass place c hplace
    obtain ⟨hlt, hc⟩ := List.getElem?_eq_some_iff.mp (getElem?_of_testPlace? hplace)
    rw [hclasses, List.forall₂_iff_get]
    refine ⟨(List.length_set).symm, fun i hi hi' => ?_⟩
    simp only [List.get_eq_getElem, List.getElem_set]
    split
    · rename_i heq
      subst heq
      rw [hc]
      exact hclass
    · exact .refl _

theorem perm_allFields (h : file.Grows file') :
    file'.allFields.Perm (file.allFields ++ addedFields file file') := by
  rw [addedFields, ClassDecl.addedFieldsAll_eq_addedByAll]
  exact tells_laterFields.perm_of_forall₂ h.forall₂

theorem perm_allAnnotations (h : file.Grows file') :
    file'.allAnnotations.Perm (file.allAnnotations ++ addedAnnotations file file') :=
  tells_laterAnnotations.perm_of_forall₂ h.forall₂

theorem perm_classNames (h : file.Grows file') :
    file'.classNames.Perm (file.classNames ++ addedClassNames file file') :=
  tells_laterNames.perm_of_forall₂ h.forall₂

theorem tally_annotations_eq (h : file.Grows file') : file'.tally.annotations =
    file.tally.annotations + (addedAnnotations file file').length := by
  rw [tally_annotations, tally_annotations, h.perm_allAnnotations.length_eq, List.length_append]

theorem tally_fields_eq (h : file.Grows file') :
    file'.tally.fields = file.tally.fields + (addedFields file file').length := by
  rw [tally_fields, tally_fields, h.perm_allFields.length_eq, List.length_append]

theorem tally_classes_eq (h : file.Grows file') :
    file'.tally.classes = file.tally.classes + (addedClassNames file file').length := by
  rw [tally_classes, tally_classes, h.perm_classNames.length_eq, List.length_append]

theorem addedClassNames_eq (h : file.Grows file') (hplace : file.testPlace? = some (place, c))
    (hplace' : file'.testPlace? = some (place, d)) : addedClassNames file file' =
      (walkAll (d.innerClasses.drop c.innerClasses.length)).flatMap ownName := by
  obtain ⟨d', hgrows, hd', heq⟩ := h.testPlace? hplace
  cases hplace'.symm.trans hd'
  rw [heq, addedClassNames, SourceFile.update,
    tells_laterNames.addedByAll_set (getElem?_of_testPlace? hplace), ClassDecl.addedBy_eq,
    hgrows.innerClasses.addedNames_eq]
  rfl

theorem addedClassNames_of_none (h : file.Grows file') (hplace : file.testPlace? = none) :
    addedClassNames file file' = [] := by
  rw [addedClassNames, h.others hplace, tells_laterNames.addedByAll_self]

theorem eq_of_nothing_added (h : file.Grows file')
    (himports : file'.header.imports.length = file.header.imports.length)
    (hannotations : addedAnnotations file file' = []) (hfields : addedFields file file' = [])
    (hnames : addedClassNames file file' = []) : file' = file := by
  rw [addedFields, ClassDecl.addedFieldsAll_eq_addedByAll] at hfields
  have hclasses := ClassDecl.eq_of_nothing_added h.forall₂ hfields hannotations hnames
  have himports := (h.header.imports.eq_of_length himports.symm).symm
  obtain ⟨hname, ⟨hpackage, -⟩, -, -⟩ := h
  obtain ⟨name, ⟨package, imports⟩, classes⟩ := file
  obtain ⟨name', ⟨package', imports'⟩, classes'⟩ := file'
  dsimp only at *
  rw [hname, hpackage, himports, hclasses]

end Grows

end SourceFile

end MockScaffold
