import MockScaffold.Proofs.Decl.Growth
import MockScaffold.Proofs.Scaffold.Imports
import MockScaffold.SourceFile.Basic

namespace MockScaffold.SourceFile

variable {file : SourceFile} {place : Nat} {c d : ClassDecl} {header : FileHeader}

theorem getElem?_of_testPlace? (h : file.testPlace? = some (place, c)) :
    file.classes[place]? = some c := by
  obtain ⟨i, -, hi⟩ := Option.bind_eq_some_iff.mp h
  obtain ⟨c', hc', heq⟩ := Option.map_eq_some_iff.mp hi
  cases heq
  exact hc'

theorem lt_length_of_testPlace? (h : file.testPlace? = some (place, c)) :
    place < file.classes.length :=
  (List.getElem?_eq_some_iff.mp (getElem?_of_testPlace? h)).1

theorem testClass?_eq (h : file.testPlace? = some (place, c)) : file.testClass? = some c := by
  rw [testClass?, h]
  rfl

theorem update_self (h : file.testPlace? = some (place, c)) :
    file.update place file.header c = file := by
  obtain ⟨hlt, rfl⟩ := List.getElem?_eq_some_iff.mp (getElem?_of_testPlace? h)
  simp [update]

theorem testIndex?_update (h : file.testPlace? = some (place, c)) (hname : d.name = c.name) :
    (file.update place header d).testIndex? = file.testIndex? := by
  -- The place is found by names alone, and these are the same as before.
  have hnames : (file.classes.set place d).map (·.name) = file.classes.map (·.name) := by
    obtain ⟨hlt, rfl⟩ := List.getElem?_eq_some_iff.mp (getElem?_of_testPlace? h)
    have hmap : place < (file.classes.map (·.name)).length := by simpa using hlt
    have hself := List.set_getElem_self hmap
    rw [List.getElem_map] at hself
    rw [List.map_set, hname, hself]
  have hfind := congrArg (List.findIdx? (· == file.stem)) hnames
  rw [List.findIdx?_map, List.findIdx?_map] at hfind
  have hempty : (file.classes.set place d).isEmpty = file.classes.isEmpty := by
    rw [Bool.eq_iff_iff, List.isEmpty_iff, List.isEmpty_iff, List.set_eq_nil_iff]
  unfold testIndex? update
  dsimp only [stem]
  dsimp only [stem, Function.comp_def] at hfind
  rw [hfind, hempty]

theorem testPlace?_update (h : file.testPlace? = some (place, c)) (hname : d.name = c.name) :
    (file.update place header d).testPlace? = some (place, d) := by
  have hindex : file.testIndex? = some place := by
    obtain ⟨i, hi, hplace⟩ := Option.bind_eq_some_iff.mp h
    obtain ⟨c', -, heq⟩ := Option.map_eq_some_iff.mp hplace
    cases heq
    exact hi
  rw [testPlace?, testIndex?_update h hname, hindex]
  simp [update, lt_length_of_testPlace? h]

theorem map_testClass?_update {f g : ClassDecl → α}
    (h : file.testPlace? = some (place, c)) (hname : d.name = c.name) (hd : f d = g c)
    (header : FileHeader) :
    (file.update place header d).testClass?.map f = file.testClass?.map g := by
  rw [testClass?_eq (testPlace?_update h hname), testClass?_eq h]
  exact congrArg some hd

/-- Imports are added, and the unit test class grows; all else is as it was. -/
structure Grows (file file' : SourceFile) : Prop where
  name : file'.name = file.name
  header : file.header.Extends file'.header
  others : file.testPlace? = none → file'.classes = file.classes
  testClass : ∀ place c, file.testPlace? = some (place, c) →
    ∃ d, c.Grows d ∧ file'.classes = file.classes.set place d

namespace Grows

theorem refl (file : SourceFile) : file.Grows file where
  name := rfl
  header := .refl _
  others := fun _ => rfl
  testClass := by
    intro place c h
    obtain ⟨hlt, rfl⟩ := List.getElem?_eq_some_iff.mp (getElem?_of_testPlace? h)
    exact ⟨_, .refl _, (List.set_getElem_self hlt).symm⟩

theorem update (h : file.testPlace? = some (place, c)) (hheader : file.header.Extends header)
    (hclass : c.Grows d) : file.Grows (file.update place header d) where
  name := rfl
  header := hheader
  others := fun hnone => by rw [hnone] at h; cases h
  testClass := by
    intro place' c' h'
    obtain ⟨rfl, rfl⟩ := Prod.mk.inj (Option.some.inj (h.symm.trans h'))
    exact ⟨d, hclass, rfl⟩

theorem withHeader (file : SourceFile) (hheader : file.header.Extends header) :
    file.Grows { file with header } :=
  { refl file with header := hheader }

/-- The grown unit test class is the unit test class of the grown file. -/
theorem testPlace? {file' : SourceFile} (hgrows : file.Grows file')
    (h : file.testPlace? = some (place, c)) :
    ∃ d, c.Grows d ∧ file'.testPlace? = some (place, d) ∧
      file' = file.update place file'.header d := by
  obtain ⟨d, hclass, hclasses⟩ := hgrows.testClass place c h
  have heq : file' = file.update place file'.header d := by
    cases file'
    cases hgrows.name
    cases hclasses
    rfl
  refine ⟨d, hclass, ?_, heq⟩
  rw [heq]
  exact testPlace?_update h hclass.name

theorem testPlace?_none {file' : SourceFile} (hgrows : file.Grows file')
    (h : file.testPlace? = none) : file'.testPlace? = none := by
  have hfile : file' = { file with header := file'.header } := by
    cases file'
    cases hgrows.name
    cases hgrows.others h
    rfl
  rw [hfile]
  exact h

theorem of_testPlace? {file' : SourceFile} (hgrows : file.Grows file')
    (h : file'.testPlace? = some (place, d)) :
    ∃ c, file.testPlace? = some (place, c) ∧ c.Grows d := by
  cases hplace : file.testPlace? with
  | none =>
    rw [hgrows.testPlace?_none hplace] at h
    cases h
  | some found =>
    obtain ⟨place', c⟩ := found
    obtain ⟨d', hclass, hplace', -⟩ := hgrows.testPlace? hplace
    cases hplace'.symm.trans h
    exact ⟨c, rfl, hclass⟩

theorem trans {file₁ file₂ file₃ : SourceFile} (h : file₁.Grows file₂)
    (h' : file₂.Grows file₃) : file₁.Grows file₃ where
  name := h'.name.trans h.name
  header := h.header.trans h'.header
  others := fun hnone => (h'.others (h.testPlace?_none hnone)).trans (h.others hnone)
  testClass := by
    intro place c hplace
    obtain ⟨d, hclass, hplace', heq⟩ := h.testPlace? hplace
    obtain ⟨e, hclass', hclasses⟩ := h'.testClass place d hplace'
    refine ⟨e, hclass.trans hclass', ?_⟩
    rw [hclasses, heq]
    exact List.set_set _

end Grows

end MockScaffold.SourceFile
