import MockScaffold.Proofs.Decl.Numbers
import MockScaffold.Proofs.SourceFile.Growth

namespace MockScaffold.SourceFile

variable {file file' file₁ file₂ : SourceFile} {place : Nat} {c d : ClassDecl}

def withoutNumbers (file : SourceFile) : SourceFile :=
  { file with classes := ClassDecl.withoutNumbersAll file.classes }

def withoutNewNumbers (old file : SourceFile) : SourceFile :=
  { file with classes := ClassDecl.withoutNewNumbersAll old.classes file.classes }

theorem testPlace?_withoutNumbers (file : SourceFile) :
    file.withoutNumbers.testPlace? =
      file.testPlace?.map fun (place, c) => (place, c.withoutNumbers) := by
  have hindex : file.withoutNumbers.testIndex? = file.testIndex? := by
    simp [testIndex?, withoutNumbers, stem, ClassDecl.withoutNumbersAll_eq_map, List.findIdx?_map,
      Function.comp_def]
  rw [testPlace?, testPlace?, hindex, Option.map_bind]
  congr 1
  funext place
  simp [withoutNumbers, ClassDecl.withoutNumbersAll_eq_map, Function.comp_def]

theorem withoutNumbers_update (file : SourceFile) (place : Nat) (header : FileHeader)
    (c : ClassDecl) :
    (file.update place header c).withoutNumbers =
      file.withoutNumbers.update place header c.withoutNumbers := by
  simp [withoutNumbers, update, ClassDecl.withoutNumbersAll_eq_map, List.map_set]

theorem total_map {α β : Type} (count : β → Nat) (f : α → β) (l : List α) :
    total count (l.map f) = total (fun a => count (f a)) l := by
  induction l with
  | nil => rfl
  | cons a l ih => rw [List.map_cons, total, ih, total]

theorem annotationCount_withoutNumbers (c : ClassDecl) :
    annotationCount c.withoutNumbers = annotationCount c := by
  simp [annotationCount, total_map]

theorem tally_withoutNumbers (file : SourceFile) : file.withoutNumbers.tally = file.tally := by
  simp [tally, withoutNumbers, ClassDecl.walkAll_withoutNumbersAll, total_map,
    annotationCount_withoutNumbers]

def Alike (file file' : SourceFile) : Prop :=
  file.withoutNumbers = file'.withoutNumbers

namespace Alike

theorem header (h : file.Alike file') : file.header = file'.header := by
  have hheader : file.withoutNumbers.header = file'.withoutNumbers.header := by rw [h]
  exact hheader

theorem tally (h : file.Alike file') : file.tally = file'.tally := by
  rw [← tally_withoutNumbers file, ← tally_withoutNumbers file', h]

theorem testPlace?_none (h : file.Alike file') (hplace : file.testPlace? = none) :
    file'.testPlace? = none := by
  have hplaces := congrArg SourceFile.testPlace? h
  rw [testPlace?_withoutNumbers, testPlace?_withoutNumbers, hplace, Option.map_none] at hplaces
  exact Option.map_eq_none_iff.mp hplaces.symm

theorem testPlace? (h : file.Alike file') (hplace : file.testPlace? = some (place, c)) :
    ∃ c', file'.testPlace? = some (place, c') ∧ c.Alike c' := by
  have hplaces := congrArg SourceFile.testPlace? h
  rw [testPlace?_withoutNumbers, testPlace?_withoutNumbers, hplace, Option.map_some] at hplaces
  obtain ⟨⟨place', c'⟩, hplace', heq⟩ := Option.map_eq_some_iff.mp hplaces.symm
  obtain ⟨rfl, hclass⟩ := Prod.mk.inj heq
  exact ⟨c', hplace', hclass.symm⟩

theorem update (h : file.Alike file') (place : Nat) (header : FileHeader) (hclass : c.Alike d) :
    (file.update place header c).Alike (file'.update place header d) := by
  rw [Alike, withoutNumbers_update, withoutNumbers_update, h, hclass]

theorem withHeader (h : file.Alike file') (header : FileHeader) :
    { file with header }.Alike { file' with header } := by
  rw [Alike] at h ⊢
  exact congrArg (fun f : SourceFile => { f with header }) h

end Alike

theorem withoutNewNumbersAll_set {cs : List ClassDecl} (h : cs[place]? = some c) :
    ClassDecl.withoutNewNumbersAll cs (cs.set place d) =
      (ClassDecl.withoutNewNumbersAll cs cs).set place (ClassDecl.withoutNewNumbers c d) := by
  induction cs generalizing place with
  | nil => cases h
  | cons e cs ih =>
    cases place with
    | zero =>
      cases h
      rfl
    | succ place => exact congrArg (_ :: ·) (ih h)

theorem withoutNewNumbers_update (h : file.testPlace? = some (place, c)) (header : FileHeader)
    (d : ClassDecl) :
    withoutNewNumbers file (file.update place header d) =
      (withoutNewNumbers file file).update place header (ClassDecl.withoutNewNumbers c d) := by
  unfold withoutNewNumbers SourceFile.update
  rw [withoutNewNumbersAll_set (getElem?_of_testPlace? h)]

/-- What one file has grown into in two ways, alike but for numbers, differs only in numbers of
fields that it did not have. -/
theorem Grows.withoutNewNumbers_eq (h : file.Grows file₁) (h' : file.Grows file₂)
    (halike : file₁.Alike file₂) :
    withoutNewNumbers file file₁ = withoutNewNumbers file file₂ := by
  cases hplace : file.testPlace? with
  | none =>
    have hclasses := (h.others hplace).trans (h'.others hplace).symm
    have hname := h.name.trans h'.name.symm
    unfold withoutNewNumbers
    rw [hclasses, hname, halike.header]
  | some found =>
    obtain ⟨place, c⟩ := found
    obtain ⟨d, hd, hplace₁, heq₁⟩ := h.testPlace? hplace
    obtain ⟨d', hd', hplace₂, heq₂⟩ := h'.testPlace? hplace
    obtain ⟨e, he, hclass⟩ := halike.testPlace? hplace₁
    obtain rfl : d' = e := congrArg Prod.snd (Option.some.inj (hplace₂.symm.trans he))
    rw [heq₁, heq₂, withoutNewNumbers_update hplace, withoutNewNumbers_update hplace,
      hd.withoutNewNumbers_eq hd' hclass, halike.header]

end MockScaffold.SourceFile
