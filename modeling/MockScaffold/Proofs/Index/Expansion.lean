import MockScaffold.Index.Builtin
import MockScaffold.Proofs.Index.Agreement
import MockScaffold.Proofs.Index.History

namespace MockScaffold

/-- The entry after Lombok, which only works on classes of the project. -/
def IndexEntry.expand (e : IndexEntry) : IndexEntry :=
  match e.provenance with
  | .project => { e with decl := Lombok.expand e.decl }
  | .library => e

@[simp] theorem IndexEntry.provenance_expand (e : IndexEntry) :
    e.expand.provenance = e.provenance := by
  unfold expand
  split <;> rfl

@[simp] theorem IndexEntry.qualifiedName_expand (e : IndexEntry) :
    e.expand.decl.qualifiedName = e.decl.qualifiedName := by
  unfold expand
  split
  · exact Lombok.qualifiedName_expand e.decl
  · rfl

namespace ClassDecl

theorem postorder_eq (c : ClassDecl) : c.postorder = postorderAll c.innerClasses ++ [c] := by
  cases c
  rw [postorder]

mutual

theorem postorder_expand : ∀ c : ClassDecl,
    (Lombok.expand c).postorder = c.postorder.map Lombok.expand
  | { innerClasses, .. } => by
    rw [postorder_eq, Lombok.innerClasses_expand, postorderAll_expandAll innerClasses,
      postorder_eq, List.map_append, List.map_singleton]

theorem postorderAll_expandAll : ∀ cs : List ClassDecl,
    postorderAll (Lombok.expandAll cs) = (postorderAll cs).map Lombok.expand
  | [] => rfl
  | c :: cs => by
    rw [Lombok.expandAll, postorderAll, postorder_expand c, postorderAll_expandAll cs,
      postorderAll, List.map_append]

end

mutual

theorem mem_postorder_iff {d : ClassDecl} : ∀ {c : ClassDecl}, d ∈ c.postorder ↔ d ∈ c.walk
  | { innerClasses, .. } => by
    rw [postorder_eq, List.mem_append, List.mem_singleton, walk, List.mem_cons, or_comm]
    exact or_congr_right mem_postorderAll_iff

theorem mem_postorderAll_iff {d : ClassDecl} :
    ∀ {cs : List ClassDecl}, d ∈ postorderAll cs ↔ d ∈ walkAll cs
  | [] => Iff.rfl
  | _ :: _ => by
    rw [postorderAll, List.mem_append, walkAll, List.mem_append]
    exact or_congr mem_postorder_iff mem_postorderAll_iff

end

end ClassDecl

namespace ClassIndex

open ClassDecl (sourceMethods walkAll)

section Lookup

variable {entries : List IndexEntry} {entry : IndexEntry} {name : String}

theorem lastNamed?_map_expand (provenance : Provenance) (name : String)
    (entries : List IndexEntry) :
    lastNamed? provenance name (entries.map (·.expand)) =
      (lastNamed? provenance name entries).map (·.expand) := by
  simp [lastNamed?, List.filter_map, List.getLast?_map, Function.comp_def]

theorem entry?_foldl_offer_map_expand (name : String) (entries : List IndexEntry) :
    entry? ((entries.map (·.expand)).foldl offer {}) name =
      ( entry? (entries.foldl offer {}) name).map (·.expand) := by
  rw [entry?_foldl_offer, entry?_foldl_offer, lastNamed?_map_expand, lastNamed?_map_expand,
    Option.map_or]

theorem mem_of_entry?_foldl_offer (h : entry? (entries.foldl offer {}) name = some entry) :
    entry ∈ entries := by
  rw [entry?_foldl_offer, Option.or_eq_some_iff] at h
  rcases h with h | ⟨-, h⟩ <;> exact (mem_of_lastNamed? h).1

/-- A search finds the same as before the expansion, as far as that left the entries as they
were. -/
theorem map_find?_foldl_offer_map_expand {view : ClassDecl → α}
    (hview : ∀ e ∈ entries, view e.expand.decl = view e.decl) (name : String) (scope : Scope) :
    (find? ((entries.map (·.expand)).foldl offer {}) name scope).map view =
      (find? (entries.foldl offer {}) name scope).map view := by
  have hexpanded := entry?_foldl_offer_map_expand name entries
  rw [find?, find?, hexpanded]
  cases hfound : entry? (entries.foldl offer {}) name with
  | none => rfl
  | some e =>
    dsimp only [Option.map_some]
    rw [IndexEntry.provenance_expand]
    split
    · rfl
    · exact congrArg some (hview e (mem_of_entry?_foldl_offer hfound))

theorem size_foldl_offer_map_expand (entries : List IndexEntry) :
    size ((entries.map (·.expand)).foldl offer {}) = size (entries.foldl offer {}) := by
  rw [size_foldl_offer, size_foldl_offer, List.map_map]
  simp only [Function.comp_def, IndexEntry.qualifiedName_expand]

end Lookup

/-- All entries that are offered to the built-in index that a project extends. -/
def projectEntries (model : ProjectModel) (lombok : Bool) : List IndexEntry :=
  builtinClasses.flatMap (offers .library) ++ (Addition.model model lombok).offers

theorem extend_builtin (model : ProjectModel) (lombok : Bool) :
    builtin.extend model lombok = (projectEntries model lombok).foldl offer {} := by
  rw [projectEntries, List.foldl_append, ← insertAll_eq_foldl_flatMap]
  exact add_eq_foldl builtin (.model model lombok)

variable {model : ProjectModel}

theorem map_expand_offers_library (c : ClassDecl) :
    (offers .library c).map (·.expand) = offers .library c := by
  rw [offers, List.map_map]
  rfl

theorem map_expand_offers_project (c : ClassDecl) :
    (offers .project c).map (·.expand) = offers .project (Lombok.expand c) := by
  rw [offers, offers, ClassDecl.postorder_expand, List.map_map, List.map_map]
  rfl

theorem map_expand_projectEntries (model : ProjectModel) :
    (projectEntries model false).map (·.expand) = projectEntries model true := by
  simp only [projectEntries, Addition.offers, List.map_append, List.map_flatMap,
    map_expand_offers_library, Bool.false_eq_true, if_false, map_expand_offers_project, if_true]

theorem mem_walkAll_of_mem_projectEntries {e : IndexEntry} (he : e ∈ projectEntries model false)
    (hproject : e.provenance = .project) : e.decl ∈ walkAll model.classes := by
  have hlibrary {cs : List ClassDecl} : e ∉ cs.flatMap (offers .library) := by
    intro hmem
    obtain ⟨c, -, hc⟩ := List.mem_flatMap.mp hmem
    obtain ⟨d, -, rfl⟩ := List.mem_map.mp hc
    cases hproject
  rcases List.mem_append.mp he with he | he
  · exact absurd he hlibrary
  · rcases List.mem_append.mp he with he | he
    · exact absurd he hlibrary
    · obtain ⟨c, hc, hoffer⟩ := List.mem_flatMap.mp he
      obtain ⟨d, hd, rfl⟩ := List.mem_map.mp hoffer
      exact ClassDecl.mem_postorderAll_iff.mp
        (ClassDecl.postorderAll_eq_flatMap _ ▸ List.mem_flatMap.mpr ⟨c, hc, hd⟩)

/-- With Lombok a search finds the same, as far as an expansion leaves the classes of the project as
they are. -/
theorem map_find?_extend {view : ClassDecl → α}
    (hview : ∀ c ∈ walkAll model.classes, view (Lombok.expand c) = view c) (name : String)
    (scope : Scope) :
    ((builtin.extend model true).find? name scope).map view =
      ((builtin.extend model false).find? name scope).map view := by
  rw [extend_builtin, extend_builtin, ← map_expand_projectEntries]
  refine map_find?_foldl_offer_map_expand (fun e he => ?_) name scope
  unfold IndexEntry.expand
  split
  · rename_i hproject
    exact hview e.decl (mem_walkAll_of_mem_projectEntries he hproject)
  · rfl

theorem sourceMethods_extend (model : ProjectModel) (name : String) (scope : Scope) :
    ((builtin.extend model true).find? name scope).map sourceMethods =
      ((builtin.extend model false).find? name scope).map sourceMethods :=
  map_find?_extend (fun c _ => Lombok.sourceMethods_expand c) name scope

theorem agree_extend (h : ∀ c ∈ walkAll model.classes, c.isMarkedWith "lombok.Value" = false) :
    (builtin.extend model true).Agree (builtin.extend model false) where
  size := by
    rw [extend_builtin, extend_builtin, ← map_expand_projectEntries, size_foldl_offer_map_expand]
  find? := map_find?_extend fun c hc => Lombok.outline_expand (h c hc)

end ClassIndex

end MockScaffold
