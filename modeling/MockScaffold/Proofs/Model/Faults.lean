import MockScaffold.Proofs.Decl.Faults
import MockScaffold.Proofs.Model.Loadable
import MockScaffold.Proofs.Model.Restored

namespace MockScaffold

open ClassDecl (IsFirstFault Reaches places placesIn)

theorem loadModel_eq_invalidClass_iff {ofJson? : Json → Option α} {classes : α → List ClassDecl}
    {content : Option String} {fault : ClassFault} :
    loadModel ofJson? classes content = .error (.invalidClass fault) ↔
      ∃ text model, content = some text ∧ (Json.parse? text).bind ofJson? = some model ∧
        ClassDecl.firstFault? (classes model) = some fault := by
  constructor
  · intro h
    unfold loadModel at h
    split at h
    · cases h
    · rename_i text
      split at h
      · cases h
      · rename_i model hread
        split at h
        · rename_i hfault
          cases h
          exact ⟨text, model, rfl, hread, hfault⟩
        · cases h
  · rintro ⟨text, model, rfl, hread, hfault⟩
    simp only [loadModel, hread, hfault]

theorem ProjectModel.load_eq_invalidClass_iff {content : Option String} {fault : ClassFault} :
    load content = .error (.invalidClass fault) ↔
      ∃ text p, content = some text ∧ (Json.parse? text).bind ofJson? = some p ∧
        IsFirstFault (placesIn none p.classes ++ placesIn none p.libraries) fault := by
  rw [load, loadModel_eq_invalidClass_iff]
  simp only [ClassDecl.firstFault?_eq_some_iff, ClassDecl.placesIn_append]

/-- A tree is valid if and only if each of its classes is sound where it stands, and then the
names of its classes are the paths to them; otherwise the first fault is found, in a project one
of its own classes before any of a library. -/
theorem fault_exact :
    (∀ c : ClassDecl,
      (c.fault? = none ↔ ∀ p ∈ places none c, p.IsSound) ∧
        (c.fault? = none → ∀ path d, Reaches c path d → d.qualifiedName =
          path.foldl (fun owner name => owner ++ "." ++ name) c.qualifiedName) ∧
        ∀ fault, c.fault? = some fault ↔ IsFirstFault (places none c) fault) ∧
      ∀ content fault, ProjectModel.load content = .error (.invalidClass fault) ↔
        ∃ text p, content = some text ∧
          (Json.parse? text).bind ProjectModel.ofJson? = some p ∧
          IsFirstFault (placesIn none p.classes ++ placesIn none p.libraries) fault := by
  refine ⟨fun c => ⟨ClassDecl.fault?_eq_none_iff_sound, fun h path d hd => ?_, fun fault => ?_⟩,
    fun content fault => ProjectModel.load_eq_invalidClass_iff⟩
  · exact ClassDecl.qualifiedName_of_reaches h hd
  · exact ClassDecl.fault?_eq_some_iff

/-- A class with another one nested in it. -/
def itemTree : ClassDecl :=
  { ClassDecl.ofQualifiedName "shop.Cart.Item" with
    innerClasses := [.ofQualifiedName "shop.Cart.Item.Price"] }

def cartTree : ClassDecl :=
  { ClassDecl.ofQualifiedName "shop.Cart" with innerClasses := [itemTree] }

def strayTree : ClassDecl :=
  { ClassDecl.ofQualifiedName "shop.Order" with innerClasses := [.ofQualifiedName "shop.1st"] }

/-- A valid tree, and one in which a class is not nested by its name, with faults in the class
after these and in that of the library as well. -/
def strayProject : ProjectModel where
  classes := [cartTree, strayTree, .ofQualifiedName "shop.2nd"]
  libraries := [.ofQualifiedName "3rd"]

/-- The class that strays is reported, and for its place. -/
theorem fault_exact_stray :
    cartTree.fault? = none ∧ Reaches cartTree ["Item", "Price"]
        (.ofQualifiedName "shop.Cart.Item.Price") ∧
      "shop.Cart.Item.Price" =
        ["Item", "Price"].foldl (fun owner name => owner ++ "." ++ name) "shop.Cart" ∧
      ProjectModel.load (some (strayProject.toJson.prettyAt 0)) =
        .error (.invalidClass (.notNested "shop.1st" "shop.Order")) := by
  obtain ⟨htree, hload⟩ := fault_exact
  have hvalid : cartTree.fault? = none := by decide +kernel
  have hreaches : Reaches cartTree ["Item", "Price"] (.ofQualifiedName "shop.Cart.Item.Price") :=
    .inner (d := itemTree) (.head _) (.inner (d := .ofQualifiedName "shop.Cart.Item.Price")
      (.head _) (.self _))
  refine ⟨hvalid, hreaches, (htree cartTree).2.1 hvalid _ _ hreaches, (hload _ _).mpr ?_⟩
  refine ⟨_, strayProject, rfl, ?_, ?_⟩
  · rw [Json.parse?_prettyAt 0 strayProject.isTextual_toJson, Option.bind_some,
      Json.cut_of_depth_le _ (by decide +kernel)]
    exact ProjectModel.ofJson?_toJson_iff.mpr fun _ h => absurd h List.not_mem_nil
  · refine ⟨placesIn none [cartTree] ++ [⟨none, strayTree⟩], _, _, rfl, ?_, .notNested ?_⟩
    · rw [List.forall_mem_append, List.forall_mem_singleton]
      refine ⟨fun p hp => ?_, ⟨by decide, by decide, fun _ h => by cases h⟩⟩
      rw [placesIn, placesIn, List.append_nil] at hp
      exact (htree cartTree).1.mp hvalid p hp
    · rw [ClassDecl.IsNestedIn]
      decide

end MockScaffold
