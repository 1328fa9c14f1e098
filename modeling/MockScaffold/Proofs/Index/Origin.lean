import MockScaffold.Proofs.Index.Expansion
import MockScaffold.Proofs.Index.Written

namespace MockScaffold

namespace ClassDecl

/-- The types of the fields and of the parameters of the methods. -/
def variableTypes (c : ClassDecl) : List TypeRef :=
  c.fields.map (·.type) ++ c.methods.flatMap fun m => m.params.map (·.type)

/-- Names and types of the fields, and of the parameters of the methods that stand in the source. -/
def sourceVariables (c : ClassDecl) : List (String × TypeRef) :=
  c.fields.map (fun f => (f.name, f.type)) ++
    c.sourceMethods.flatMap fun m => m.params.map fun p => (p.name, p.type)

theorem sourceVariables_expand (c : ClassDecl) :
    (Lombok.expand c).sourceVariables = c.sourceVariables := by
  rw [sourceVariables, Lombok.map_fields_expand fun _ _ => rfl, Lombok.sourceMethods_expand]
  rfl

theorem mem_sourceVariables_iff {c : ClassDecl} {v : String × TypeRef} :
    v ∈ c.sourceVariables ↔ (∃ f ∈ c.fields, (f.name, f.type) = v) ∨
      ∃ m ∈ c.sourceMethods, ∃ p ∈ m.params, (p.name, p.type) = v := by
  simp only [sourceVariables, List.mem_append, List.mem_map, List.mem_flatMap]

theorem mem_variableTypes_of_source {c : ClassDecl} {v : String × TypeRef}
    (h : v ∈ c.sourceVariables) : v.2 ∈ c.variableTypes := by
  rcases mem_sourceVariables_iff.mp h with ⟨f, hf, rfl⟩ | ⟨m, hm, p, hp, rfl⟩
  · exact List.mem_append_left _ (List.mem_map_of_mem hf)
  · refine List.mem_append_right _ (List.mem_flatMap.mpr ⟨m, (List.mem_filter.mp hm).1, ?_⟩)
    exact List.mem_map_of_mem hp

end ClassDecl

namespace ProjectModel

def allClasses (model : ProjectModel) : List ClassDecl :=
  ClassDecl.walkAll model.classes ++ ClassDecl.walkAll model.libraries

def Declares (model : ProjectModel) (name : String) : Prop :=
  ∃ c ∈ model.allClasses, c.qualifiedName = name

def variableTypes (model : ProjectModel) : List TypeRef :=
  model.allClasses.flatMap (·.variableTypes)

/-- The class name stands in a super type, or in the type of a field or method parameter. -/
def Mentions (model : ProjectModel) (name : String) : Prop :=
  ∃ c ∈ model.allClasses, ∃ type ∈ c.superTypes ++ c.variableTypes, name ∈ type.classNames

end ProjectModel

namespace ClassIndex

open ClassDecl (postorderAll)

section Offers

variable {entries entries' : List IndexEntry} {name : String}

/-- Library classes that are offered first are found where nothing else has their name. -/
theorem entry?_foldl_offer_append (h : ∀ e ∈ entries, e.provenance = .library) (name : String) :
    entry? ((entries ++ entries').foldl offer {}) name =
      ( entry? (entries'.foldl offer {}) name).or (lastNamed? .library name entries) := by
  have hproject : lastNamed? .project name entries = none := by
    rw [lastNamed?, List.getLast?_eq_none_iff, List.filter_eq_nil_iff]
    intro e he
    simp [h e he]
  rw [entry?_foldl_offer, entry?_foldl_offer, lastNamed?_append, lastNamed?_append, hproject,
    Option.or_none, Option.or_assoc]

end Offers

variable {model : ProjectModel} {lombok : Bool} {name : String} {scope : Scope} {c : ClassDecl}

theorem map_decl_offers (model : ProjectModel) :
    (Addition.model model false).offers.map (·.decl) =
      postorderAll model.libraries ++ postorderAll model.classes := by
  simp [Addition.offers, offers, ClassDecl.postorderAll_eq_flatMap, List.map_flatMap,
    Function.comp_def]

/-- Exactly the classes of the project are offered by it. -/
theorem mem_map_decl_offers {d : ClassDecl} :
    d ∈ (Addition.model model false).offers.map (·.decl) ↔ d ∈ model.allClasses := by
  rw [map_decl_offers, ProjectModel.allClasses, List.mem_append, List.mem_append, or_comm,
    ClassDecl.mem_postorderAll_iff, ClassDecl.mem_postorderAll_iff]

theorem map_decl_offers_builtin :
    (builtinClasses.flatMap (offers .library)).map (·.decl) = builtinClasses :=
  rfl

theorem mem_allClasses_or_builtin (h : (builtin.extend model false).find? name scope = some c) :
    c ∈ model.allClasses ∨
      c ∈ builtinClasses ∧ c.qualifiedName = name ∧ ¬model.Declares name := by
  obtain ⟨e, he, rfl⟩ := find?_eq_some h
  have hlibrary : ∀ e ∈ builtinClasses.flatMap (offers .library), e.provenance = .library := by
    intro e he
    obtain ⟨c, -, hc⟩ := List.mem_flatMap.mp he
    obtain ⟨d, -, rfl⟩ := List.mem_map.mp hc
    rfl
  rw [extend_builtin, projectEntries, entry?_foldl_offer_append hlibrary] at he
  cases hmodel : entry? ((Addition.model model false).offers.foldl offer {}) name with
  | some e' =>
    rw [hmodel] at he
    cases he
    exact .inl (mem_map_decl_offers.mp (List.mem_map_of_mem (mem_of_entry?_foldl_offer hmodel)))
  | none =>
    rw [hmodel, Option.none_or] at he
    obtain ⟨hmem, -, hname⟩ := mem_of_lastNamed? he
    refine .inr ⟨map_decl_offers_builtin ▸ List.mem_map_of_mem hmem, hname, ?_⟩
    rintro ⟨d, hd, hdname⟩
    obtain ⟨e', he', rfl⟩ := List.mem_map.mp (mem_map_decl_offers.mpr hd)
    exact entry?_foldl_offer_eq_none_iff.mp hmodel e' he' hdname

section View

variable {α : Type _} {view : ClassDecl → α} (hview : ∀ c, view (Lombok.expand c) = view c)
include hview

/-- What Lombok leaves as it is can be told without Lombok. -/
theorem exists_view_eq (h : (builtin.extend model lombok).find? name scope = some c) :
    ∃ d, (builtin.extend model false).find? name scope = some d ∧ view d = view c := by
  cases lombok with
  | false => exact ⟨c, h, rfl⟩
  | true =>
    have hfound : ((builtin.extend model true).find? name scope).map view =
        ((builtin.extend model false).find? name scope).map view :=
      map_find?_extend (fun c _ => hview c) name scope
    rw [h, Option.map_some, eq_comm, Option.map_eq_some_iff] at hfound
    exact hfound

theorem find?_extend_cases (h : (builtin.extend model lombok).find? name scope = some c) :
    (∃ d ∈ model.allClasses, view d = view c) ∨
      (∃ d ∈ builtinClasses, view d = view c ∧ d.qualifiedName = name) ∧
        ¬model.Declares name := by
  obtain ⟨d, hd, heq⟩ := exists_view_eq hview h
  rcases mem_allClasses_or_builtin hd with hmem | ⟨hmem, hname, hfree⟩
  · exact .inl ⟨d, hmem, heq⟩
  · exact .inr ⟨⟨d, hmem, heq, hname⟩, hfree⟩

end View

theorem sourceVariables_builtinClasses :
    builtinClasses.flatMap ClassDecl.sourceVariables = [] :=
  rfl

/-- Built-in classes have no members, so all fields and parameters are of the project. -/
theorem mem_sourceVariables_of_find? {v : String × TypeRef}
    (h : (builtin.extend model lombok).find? name scope = some c) (hv : v ∈ c.sourceVariables) :
    ∃ d ∈ model.allClasses, v ∈ d.sourceVariables := by
  rcases find?_extend_cases ClassDecl.sourceVariables_expand h with
    ⟨d, hd, heq⟩ | ⟨⟨d, hd, heq, -⟩, -⟩
  · exact ⟨d, hd, heq ▸ hv⟩
  · rw [← heq, List.flatMap_eq_nil_iff.mp sourceVariables_builtinClasses d hd] at hv
    cases hv

end ClassIndex

end MockScaffold
