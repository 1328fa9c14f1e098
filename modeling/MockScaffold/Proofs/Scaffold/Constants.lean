import MockScaffold.Index.Builtin
import MockScaffold.Proofs.Name.Camel
import MockScaffold.Proofs.Scaffold.Plan

namespace MockScaffold.Scaffold

open Name (IsCamelCase)

/-- The variable gets a constant when its turn comes, after those in `before`. -/
def GetsConstant (index : ClassIndex) (placement : Placement) (draft : Draft)
    (before : List Variable) (v : Variable) : Prop :=
  let reached := before.foldl (Draft.addVariable index placement) draft
  (reached.addVariable index placement v).constants = reached.constants + 1

section Taken

variable {index : ClassIndex} {placement : Placement} {draft : Draft}
  {before between : List Variable} {v : Variable} {name : String}

theorem mem_taken_foldl :
    name ∈ (before.foldl (Draft.addVariable index placement) draft).taken ↔
      name ∈ draft.taken ∨ name ∈ (plan index before).map (·.name) := by
  rw [Draft.foldl_addVariable, Draft.foldl_place]
  dsimp only
  rw [List.mem_append, List.mem_reverse]
  constructor
  · rintro (hfresh | htaken)
    · exact .inr (List.map_subset _ (firstsBy_subset _ draft.taken _) hfresh)
    · exact .inl htaken
  · rintro (htaken | hplanned)
    · exact .inr htaken
    · obtain ⟨p, hp, rfl⟩ := List.mem_map.mp hplanned
      exact (mem_taken_or_firstsBy draft.taken hp).symm

theorem planned?_of_value (h : isValueType index v.type = true) :
    planned? index v =
      if v.isStatic then none else some ⟨.constant, Name.constantName v.name, v.type⟩ := by
  rw [planned?, if_pos h]

theorem getsConstant_iff (h : isValueType index v.type = true) :
    GetsConstant index placement draft before v ↔
      v.isStatic = false ∧
        Name.constantName v.name ∉
          (before.foldl (Draft.addVariable index placement) draft).taken := by
  unfold GetsConstant
  dsimp only
  rw [Draft.addVariable_eq, planned?_of_value h]
  cases v.isStatic with
  | true => simp
  | false =>
    generalize before.foldl (Draft.addVariable index placement) draft = reached
    simp only [Bool.false_eq_true, if_false, Option.elim_some, true_and]
    by_cases htaken : Name.constantName v.name ∈ reached.taken
    · rw [Draft.place_of_taken index placement htaken]
      simp [htaken]
    · rw [Draft.place_of_free index placement htaken]
      simp [htaken]

/-- One more variable takes no name but that of its own constant. -/
theorem mem_taken_foldl_insert (h : isValueType index v.type = true)
    (hne : Name.constantName v.name ≠ name) :
    name ∈ ((before ++ v :: between).foldl (Draft.addVariable index placement) draft).taken ↔
      name ∈ ((before ++ between).foldl (Draft.addVariable index placement) draft).taken := by
  rw [mem_taken_foldl, mem_taken_foldl]
  unfold plan
  rw [List.filterMap_append, List.filterMap_append, List.filterMap_cons, planned?_of_value h]
  cases v.isStatic with
  | true => rfl
  | false =>
    simp only [Bool.false_eq_true, if_false, List.map_append, List.map_cons, List.mem_append,
      List.mem_cons, hne.symm, false_or]

end Taken

/-- Names in camel case have constants of their own, so that a variable of such a name, if it is
of a value type, gets its constant or not regardless of any other such variable before it. -/
theorem constants_kept_apart :
    (∀ name name' : String, IsCamelCase name → IsCamelCase name' → name ≠ name' →
      Name.constantName name ≠ Name.constantName name') ∧
    ∀ (index : ClassIndex) (placement : Placement) (draft : Draft) (before between : List Variable)
      (v w : Variable), isValueType index v.type = true → isValueType index w.type = true →
      IsCamelCase v.name → IsCamelCase w.name → v.name ≠ w.name →
      (GetsConstant index placement draft (before ++ v :: between) w ↔
        GetsConstant index placement draft (before ++ between) w) := by
  have hapart : ∀ name name' : String, IsCamelCase name → IsCamelCase name' → name ≠ name' →
      Name.constantName name ≠ Name.constantName name' :=
    fun name name' h h' hne heq => hne ((Name.constantName_inj h h').mp heq)
  refine ⟨hapart, fun index placement draft before between v w hv hw hnv hnw hne => ?_⟩
  rw [getsConstant_iff hw, getsConstant_iff hw,
    mem_taken_foldl_insert hv (hapart v.name w.name hnv hnw hne)]

/-- `orderID` and `orderId` have the constants `ORDER_I_D` and `ORDER_ID`, so both get one. -/
theorem constants_kept_apart_order :
    let draft : Draft :=
      { header := {}, target := .ofQualifiedName "shop.CartTest", taken := [], stream := .ofSeed 3 }
    let v : Variable := { name := "orderID", type := .primitive .long }
    let w : Variable := { name := "orderId", type := .ofClass Known.uuid }
    IsCamelCase v.name ∧ IsCamelCase w.name ∧ v.name ≠ w.name ∧
      Name.constantName v.name ≠ Name.constantName w.name ∧
      isValueType ClassIndex.builtin v.type = true ∧ isValueType ClassIndex.builtin w.type = true ∧
      GetsConstant ClassIndex.builtin .topLevel draft [v] w := by
  intro draft v w
  have hv : IsCamelCase v.name := by decide
  have hw : IsCamelCase w.name := by decide
  have hne : v.name ≠ w.name := by decide
  have hvalue : isValueType ClassIndex.builtin v.type = true := by decide
  have hvalue' : isValueType ClassIndex.builtin w.type = true := by decide +kernel
  have hfirst : GetsConstant ClassIndex.builtin .topLevel draft [] w :=
    (getsConstant_iff hvalue').mpr ⟨rfl, List.not_mem_nil⟩
  refine ⟨hv, hw, hne, constants_kept_apart.1 v.name w.name hv hw hne, hvalue, hvalue', ?_⟩
  exact (constants_kept_apart.2 ClassIndex.builtin .topLevel draft [] [] v w hvalue hvalue' hv hw
    hne).mpr hfirst

end MockScaffold.Scaffold
