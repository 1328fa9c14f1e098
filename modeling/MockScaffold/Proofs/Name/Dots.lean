import MockScaffold.Decl.Class
import MockScaffold.Name.Behaviour
import MockScaffold.Proofs.Text.Case

namespace MockScaffold

namespace Name

theorem dot_not_mem_gerund {verb : List Char} (h : '.' ∉ verb) : '.' ∉ gerund verb := by
  have hname : '.' ∉ Text.capitalize verb := Text.dot_not_mem_capitalize h
  have hfront : '.' ∉ (Text.capitalize verb).dropLast := fun hmem =>
    hname (List.dropLast_subset _ hmem)
  have hlast : '.' ∉ verb.getLast?.toList := by
    intro hmem
    exact h (List.mem_of_getLast? (Option.mem_toList.mp hmem))
  unfold gerund
  dsimp only
  repeat' split
  all_goals simp [hname, hfront, hlast]

theorem toList_behaviourClass (method : String) :
    (behaviourClass method).toList =
      "When".toList ++ gerund (method.toList.takeWhile (!Text.isUpper ·)) ++
        method.toList.dropWhile (!Text.isUpper ·) :=
  String.toList_ofList

theorem dot_not_mem_behaviourClass {method : String} (h : '.' ∉ method.toList) :
    '.' ∉ (behaviourClass method).toList := by
  have hverb : '.' ∉ method.toList.takeWhile (!Text.isUpper ·) := fun hmem =>
    h (List.takeWhile_subset _ hmem)
  have hrest : '.' ∉ method.toList.dropWhile (!Text.isUpper ·) := fun hmem =>
    h (List.dropWhile_subset _ hmem)
  rw [toList_behaviourClass]
  simp [dot_not_mem_gerund hverb, hrest]

theorem toList_append_dot (owner simple : String) :
    (owner ++ "." ++ simple).toList = owner.toList ++ '.' :: simple.toList := by
  simp

theorem simpleName_append {simple : String} (owner : String) (h : '.' ∉ simple.toList) :
    simpleName (owner ++ "." ++ simple) = simple := by
  rw [simpleName, toList_append_dot, splitAtLastDot?_append h]
  exact String.ofList_toList

theorem qualifier?_append {simple : String} (owner : String) (h : '.' ∉ simple.toList) :
    qualifier? (owner ++ "." ++ simple) = some owner := by
  rw [qualifier?, toList_append_dot, splitAtLastDot?_append h]
  simp

section Qualifier

variable {name : String}

theorem qualifier?_eq_none_iff : qualifier? name = none ↔ '.' ∉ name.toList := by
  rw [qualifier?, Option.map_eq_none_iff, splitAtLastDot?_eq_none_iff]

theorem dot_not_mem_simpleName (name : String) : '.' ∉ (simpleName name).toList := by
  unfold simpleName
  split
  · rename_i before after hsplit
    rw [String.toList_ofList]
    exact (eq_append_of_splitAtLastDot? hsplit).2
  · rename_i hsplit
    exact splitAtLastDot?_eq_none_iff.mp hsplit

/-- A name with a qualifier is longer than its last segment. -/
theorem simpleName_eq_self_iff : simpleName name = name ↔ qualifier? name = none := by
  rw [qualifier?_eq_none_iff]
  constructor
  · intro heq
    rw [← heq]
    exact dot_not_mem_simpleName name
  · intro hdot
    rw [simpleName, splitAtLastDot?_eq_none_iff.mpr hdot]

/-- The last segment of a name can only be another's whole name if that has no qualifier. -/
theorem simpleName_ne {other : String} (hdot : '.' ∈ other.toList) : simpleName name ≠ other := by
  intro heq
  rw [← heq] at hdot
  exact dot_not_mem_simpleName name hdot

theorem eq_append_of_qualifier? {owner : String} (h : qualifier? name = some owner) :
    name = owner ++ "." ++ simpleName name := by
  obtain ⟨⟨before, after⟩, hsplit, rfl⟩ := Option.map_eq_some_iff.mp h
  have hname := (eq_append_of_splitAtLastDot? hsplit).1
  rw [← String.toList_inj, toList_append_dot, simpleName, hsplit, String.toList_ofList,
    String.toList_ofList]
  exact hname

theorem qualifier?_eq_some_iff {owner : String} :
    qualifier? name = some owner ↔ name = owner ++ "." ++ simpleName name := by
  refine ⟨eq_append_of_qualifier?, fun heq => ?_⟩
  rw [heq]
  exact qualifier?_append owner (dot_not_mem_simpleName name)

end Qualifier

end Name

namespace ClassDecl

theorem nestedIn_name (owner : ClassDecl) {name : String} (h : '.' ∉ name.toList) :
    (owner.nestedIn name).name = name :=
  Name.simpleName_append _ h

end ClassDecl

end MockScaffold
