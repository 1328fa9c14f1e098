import MockScaffold.Model.Loading
import MockScaffold.Proofs.Decl.Validity
import MockScaffold.Proofs.Json.RoundTrip
import MockScaffold.Proofs.Model.RoundTrip
import MockScaffold.Proofs.SourceFile.Growth

namespace MockScaffold

namespace ClassDecl

structure IsLoadable (c : ClassDecl) : Prop where
  written : c.IsWritten
  valid : c.fault? = none

/-- The class is loadable and may be nested in `owner`. -/
def IsLoadableIn (owner c : ClassDecl) : Prop :=
  nestingFault? owner c = none ∧ c.IsLoadable

variable {c d : ClassDecl}

theorem isLoadable_iff :
    c.IsLoadable ↔ c.nameFault? = none ∧ (∀ t ∈ c.superTypes, t.IsWritten) ∧
      (∀ f ∈ c.fields, f.type.IsWritten) ∧ (∀ m ∈ c.methods, m.IsWritten) ∧
      ∀ d ∈ c.innerClasses, IsLoadableIn c d := by
  constructor
  · rintro ⟨hwritten, hvalid⟩
    obtain ⟨hname, hinner⟩ := fault?_eq_none_iff.mp hvalid
    refine ⟨hname, hwritten.superTypes, hwritten.fields, hwritten.methods, fun d hd => ?_⟩
    exact ⟨(hinner d hd).1, hwritten.innerClasses d hd, (hinner d hd).2⟩
  · rintro ⟨hname, hsuperTypes, hfields, hmethods, hinner⟩
    refine ⟨.intro hsuperTypes hfields hmethods fun d hd => (hinner d hd).2.written, ?_⟩
    exact fault?_eq_none_iff.mpr ⟨hname, fun d hd => ⟨(hinner d hd).1, (hinner d hd).2.valid⟩⟩

/-- A class without members has nothing that can fail but its name. -/
theorem isLoadable_ofQualifiedName_iff {qualifiedName : String} :
    (ofQualifiedName qualifiedName).IsLoadable ↔
      Name.isIdentifier (Name.simpleName qualifiedName) = true := by
  rw [isLoadable_iff, nameFault?_eq_none_iff]
  constructor
  · rintro ⟨⟨hname, -⟩, -⟩
    exact hname
  · intro hname
    refine ⟨⟨hname, rfl⟩, ?_, ?_, ?_, ?_⟩ <;> exact fun _ hmem => absurd hmem List.not_mem_nil

theorem isLoadable_withAnnotations (annotations : List AnnotationUse) :
    ({ c with annotations } : ClassDecl).IsLoadable ↔ c.IsLoadable := by
  rw [isLoadable_iff, isLoadable_iff]
  exact .rfl

theorem isLoadable_withFields {added : List FieldDecl} :
    (c.withFields added).IsLoadable ↔ c.IsLoadable ∧ ∀ f ∈ added, f.type.IsWritten := by
  rw [isLoadable_iff, isLoadable_iff, withFields_fields, List.forall_mem_append]
  constructor
  · rintro ⟨hname, hsuperTypes, ⟨hfields, hadded⟩, hmethods, hinner⟩
    exact ⟨⟨hname, hsuperTypes, hfields, hmethods, hinner⟩, hadded⟩
  · rintro ⟨⟨hname, hsuperTypes, hfields, hmethods, hinner⟩, hadded⟩
    exact ⟨hname, hsuperTypes, ⟨hfields, hadded⟩, hmethods, hinner⟩

/-- Other nested classes are as good as the old ones up to a condition `p`. -/
theorem isLoadable_withInnerClasses {ds : List ClassDecl} {p : Prop}
    (h : (∀ d ∈ ds, IsLoadableIn c d) ↔ (∀ d ∈ c.innerClasses, IsLoadableIn c d) ∧ p) :
    (c.withInnerClasses ds).IsLoadable ↔ c.IsLoadable ∧ p := by
  rw [isLoadable_iff, isLoadable_iff]
  constructor
  · rintro ⟨hname, hsuperTypes, hfields, hmethods, hinner⟩
    obtain ⟨hinner, hp⟩ := h.mp hinner
    exact ⟨⟨hname, hsuperTypes, hfields, hmethods, hinner⟩, hp⟩
  · rintro ⟨⟨hname, hsuperTypes, hfields, hmethods, hinner⟩, hp⟩
    exact ⟨hname, hsuperTypes, hfields, hmethods, h.mpr ⟨hinner, hp⟩⟩

theorem isLoadableIn_withFields {owner : ClassDecl} {added : List FieldDecl}
    (hadded : ∀ f ∈ added, f.type.IsWritten) :
    IsLoadableIn owner (c.withFields added) ↔ IsLoadableIn owner c := by
  rw [IsLoadableIn, IsLoadableIn, isLoadable_withFields, and_iff_left hadded]
  exact .rfl

end ClassDecl

section Load

theorem loadModel_eq_ok_iff {ofJson? : Json → Option α} {classes : α → List ClassDecl}
    {text : String} {model : α} :
    loadModel ofJson? classes (some text) = .ok model ↔
      (Json.parse? text).bind ofJson? = some model ∧
        ClassDecl.firstFault? (classes model) = none := by
  unfold loadModel
  constructor
  · intro h
    dsimp only at h
    split at h
    · cases h
    · rename_i hread
      split at h
      · cases h
      · rename_i hvalid
        cases h
        exact ⟨hread, hvalid⟩
  · rintro ⟨hread, hvalid⟩
    simp only [hread, hvalid]

theorem exists_json_of_load {ofJson? : Json → Option α} {classes : α → List ClassDecl}
    {content : Option String} {model : α} (h : loadModel ofJson? classes content = .ok model) :
    ∃ j, ofJson? j = some model ∧ ClassDecl.firstFault? (classes model) = none := by
  cases content with
  | none => cases h
  | some text =>
    obtain ⟨hread, hvalid⟩ := loadModel_eq_ok_iff.mp h
    obtain ⟨j, -, hj⟩ := Option.bind_eq_some_iff.mp hread
    exact ⟨j, hj, hvalid⟩

/-- What is written for a model is loaded as that model if and only if nothing of it is cut off and
the model is one that can come out of a text. -/
theorem loadModel_prettyAt_iff {toJson : α → Json} {ofJson? : Json → Option α} {P : α → Prop}
    (hrestores : Json.Restores toJson ofJson? P) {model : α}
    (htextual : (toJson model).isTextual = true) (hP : ∀ j, ofJson? j = some model → P model)
    (classes : α → List ClassDecl) (depth : Nat) :
    loadModel ofJson? classes (some ((toJson model).prettyAt depth)) = .ok model ↔
      (toJson model).depth ≤ Json.deepest ∧ P model ∧
        ∀ c ∈ classes model, c.fault? = none := by
  rw [loadModel_eq_ok_iff, Json.parse?_prettyAt depth htextual, Option.bind_some,
    ClassDecl.firstFault?_eq_none_iff, ← and_assoc]
  refine and_congr_left fun _ => ⟨fun hread => ?_, fun ⟨hdepth, hmodel⟩ => ?_⟩
  · have hmodel := hP _ hread
    by_cases hdepth : (toJson model).depth ≤ Json.deepest
    · exact ⟨hdepth, hmodel⟩
    · rw [hrestores Json.deepest model hmodel, if_neg hdepth] at hread
      cases hread
  · rw [hrestores Json.deepest model hmodel, if_pos hdepth]

end Load

namespace SourceFile

def IsLoadable (file : SourceFile) : Prop :=
  ∀ c ∈ file.classes, c.IsLoadable

variable {file : SourceFile}

theorem isLoadable_of_load {content : Option String} (h : load content = .ok file) :
    file.IsLoadable := by
  obtain ⟨j, hj, hvalid⟩ := exists_json_of_load h
  rw [ClassDecl.firstFault?_eq_none_iff] at hvalid
  exact fun c hc => ⟨isWritten_of_ofJson? hj c hc, hvalid c hc⟩

theorem load_prettyAt_iff (depth : Nat) :
    load (some (file.toJson.prettyAt depth)) = .ok file ↔
      file.toJson.depth ≤ Json.deepest ∧ file.IsLoadable := by
  rw [load, loadModel_prettyAt_iff SourceFile.restores file.isTextual_toJson
    fun _ => isWritten_of_ofJson?]
  refine and_congr_right fun _ => ⟨fun ⟨hwritten, hvalid⟩ c hc => ?_, fun h => ⟨?_, ?_⟩⟩
  · exact ⟨hwritten c hc, hvalid c hc⟩
  · exact fun c hc => (h c hc).written
  · exact fun c hc => (h c hc).valid

/-- A new test class is as good as the old one up to a condition `p`, and so is the file. -/
theorem isLoadable_update {header : FileHeader} {place : Nat} {c d : ClassDecl} {p : Prop}
    (hplace : file.testPlace? = some (place, c)) (h : d.IsLoadable ↔ c.IsLoadable ∧ p) :
    (file.update place header d).IsLoadable ↔ file.IsLoadable ∧ p := by
  obtain ⟨hlt, hc⟩ := List.getElem?_eq_some_iff.mp (getElem?_of_testPlace? hplace)
  have hset (x : ClassDecl) : (∀ y ∈ file.classes.set place x, y.IsLoadable) ↔
      (∀ y ∈ file.classes.take place ++ file.classes.drop (place + 1), y.IsLoadable) ∧
        x.IsLoadable := by
    rw [List.set_eq_take_append_cons_drop, if_pos hlt, List.forall_mem_append,
      List.forall_mem_cons, List.forall_mem_append]
    exact ⟨fun ⟨hbefore, hx, hafter⟩ => ⟨⟨hbefore, hafter⟩, hx⟩,
      fun ⟨⟨hbefore, hafter⟩, hx⟩ => ⟨hbefore, hx, hafter⟩⟩
  -- The old file is the one in which the old class is put back.
  have hold := hset c
  rw [← hc, List.set_getElem_self hlt, hc] at hold
  change (∀ y ∈ file.classes.set place d, y.IsLoadable) ↔ (∀ y ∈ file.classes, y.IsLoadable) ∧ p
  rw [hset d, hold, h, and_assoc]

end SourceFile

namespace ProjectModel

variable {project : ProjectModel}

theorem isWritten_of_load {content : Option String} (h : load content = .ok project) :
    (∀ c ∈ project.classes, c.IsWritten) ∧ ∀ c ∈ project.libraries, c.IsWritten := by
  obtain ⟨j, hj, -⟩ := exists_json_of_load h
  exact isWritten_of_ofJson? hj

theorem load_prettyAt_iff (depth : Nat) :
    load (some (project.toJson.prettyAt depth)) = .ok project ↔
      project.toJson.depth ≤ Json.deepest ∧
        ∀ c ∈ project.classes ++ project.libraries, c.IsLoadable := by
  rw [load, loadModel_prettyAt_iff ProjectModel.restores project.isTextual_toJson
    fun _ => isWritten_of_ofJson?]
  refine and_congr_right fun _ => ⟨fun ⟨⟨hclasses, hlibraries⟩, hvalid⟩ c hc => ?_, fun h => ?_⟩
  · exact ⟨(List.mem_append.mp hc).elim (hclasses c) (hlibraries c), hvalid c hc⟩
  · have hwritten : ∀ c ∈ project.classes ++ project.libraries, c.IsWritten :=
      fun c hc => (h c hc).written
    exact ⟨List.forall_mem_append.mp hwritten, fun c hc => (h c hc).valid⟩

end ProjectModel

end MockScaffold
