import MockScaffold.Index.Hierarchy
import MockScaffold.Proofs.Decl.Lombok

namespace MockScaffold.ClassIndex

open ClassDecl (outline congr_outline)

structure Agree (index index' : ClassIndex) : Prop where
  size : index.size = index'.size
  find? : ∀ name scope,
    (index.find? name scope).map outline = (index'.find? name scope).map outline

variable {index index' : ClassIndex}

namespace Agree

variable (h : index.Agree index')
include h

theorem isSome_find? (name : String) (scope : Scope) :
    (index.find? name scope).isSome = (index'.find? name scope).isSome := by
  have hfound := congrArg Option.isSome (h.find? name scope)
  rwa [Option.isSome_map, Option.isSome_map] at hfound

/-- Both have a class of the name, with one outline, or neither has. -/
theorem find?_cases (name : String) (scope : Scope) :
    index.find? name scope = none ∧ index'.find? name scope = none ∨
      ∃ c c', index.find? name scope = some c ∧ index'.find? name scope = some c' ∧
        c.outline = c'.outline := by
  have hfound := h.find? name scope
  cases hc : index.find? name scope with
  | none =>
    rw [hc, Option.map_none, eq_comm, Option.map_eq_none_iff] at hfound
    exact .inl ⟨rfl, hfound⟩
  | some c =>
    rw [hc, Option.map_some, eq_comm, Option.map_eq_some_iff] at hfound
    obtain ⟨c', hc', houtline⟩ := hfound
    exact .inr ⟨c, c', rfl, hc', houtline.symm⟩

theorem resolve?_cases (type : TypeRef) (scope : Scope) :
    index.resolve? type scope = none ∧ index'.resolve? type scope = none ∨
      ∃ c c', index.resolve? type scope = some c ∧ index'.resolve? type scope = some c' ∧
        c.outline = c'.outline := by
  unfold resolve?
  cases type.className? with
  | none => exact .inl ⟨rfl, rfl⟩
  | some name => exact h.find?_cases name scope

end Agree

variable (h : index.Agree index')
include h

theorem isEnumType_congr (type : TypeRef) : index.isEnumType type = index'.isEnumType type := by
  unfold isEnumType
  rcases h.resolve?_cases type .all with ⟨hc, hc'⟩ | ⟨c, c', hc, hc', houtline⟩
  · rw [hc, hc']
  · rw [hc, hc']
    exact congr_outline (f := fun c => (some c).any ClassDecl.isEnum) (fun _ => rfl) houtline

theorem superTypeTexts_congr (type : TypeRef) :
    index.superTypeTexts type = index'.superTypeTexts type := by
  unfold superTypeTexts
  rcases h.resolve?_cases type .all with ⟨hc, hc'⟩ | ⟨c, c', hc, hc', houtline⟩
  · rw [hc, hc']
  · rw [hc, hc']
    exact congr_outline (f := fun c => c.superTypes.map (·.canonical)) (fun _ => rfl) houtline

theorem map_outline_levelsFrom (fuel : Nat) (seen : List String) {level level' : List ClassDecl}
    (hlevel : level.map outline = level'.map outline) :
    (index.levelsFrom fuel seen level).map outline =
      (index'.levelsFrom fuel seen level').map outline := by
  induction fuel generalizing seen level level' with
  | zero => exact hlevel
  | succ fuel ih =>
    -- The outlines of a level tell the names of the next one.
    have hnames : level.flatMap superNames = level'.flatMap superNames := by
      have houtlines := congrArg (List.flatMap superNames) hlevel
      rwa [List.flatMap_map, List.flatMap_map] at houtlines
    simp only [levelsFrom, List.map_append, hlevel, hnames]
    congr 1
    refine ih _ ?_
    simp only [List.map_filterMap, h.find?]

theorem allFields_congr {c c' : ClassDecl} (houtline : c.outline = c'.outline) :
    index.allFields c = index'.allFields c' := by
  have hname : c.qualifiedName = c'.qualifiedName := congr_outline (fun _ => rfl) houtline
  have hlevel : [c].map outline = [c'].map outline := by
    rw [List.map_singleton, List.map_singleton, houtline]
  have hlevels := map_outline_levelsFrom h index.size [c.qualifiedName] hlevel
  have hfields := congrArg (List.flatMap ClassDecl.fields) hlevels
  rw [List.flatMap_map, List.flatMap_map] at hfields
  rw [allFields, allFields, hierarchy, hierarchy, ← h.size, ← hname]
  exact hfields

end MockScaffold.ClassIndex
