import MockScaffold.Json.Basic

namespace MockScaffold.Json

section Decoded

variable {read : Json → Option α} {P : α → Prop} (h : ∀ j a, read j = some a → P a)

include h

theorem forall_of_mapM {js : List Json} {as : List α} (has : js.mapM read = some as) :
    ∀ a ∈ as, P a := by
  induction js generalizing as with
  | nil =>
    cases has
    exact fun _ ha => absurd ha List.not_mem_nil
  | cons j js ih =>
    rw [List.mapM_cons] at has
    obtain ⟨a, ha, has⟩ := Option.bind_eq_some_iff.mp has
    obtain ⟨rest, hrest, has⟩ := Option.bind_eq_some_iff.mp has
    cases has
    exact List.forall_mem_cons.mpr ⟨h j a ha, ih hrest⟩

theorem forall_of_list? {j : Json} {as : List α} (has : list? read j = some as) :
    ∀ a ∈ as, P a := by
  obtain ⟨js, -, has⟩ := Option.bind_eq_some_iff.mp has
  exact forall_of_mapM h has

variable {members : List (String × Json)} {key : String} {a : α}

theorem of_required? (ha : required? read members key = some a) : P a := by
  obtain ⟨j, -, ha⟩ := Option.bind_eq_some_iff.mp ha
  exact h j a ha

theorem of_withDefault? {default : α} (hdefault : P default)
    (ha : withDefault? read default members key = some a) : P a := by
  unfold withDefault? at ha
  split at ha
  · exact h _ a ha
  · cases ha
    exact hdefault

theorem of_optional? {value : Option α} (hvalue : optional? read members key = some value) :
    ∀ a ∈ value, P a := by
  unfold optional? at hvalue
  split at hvalue
  · cases hvalue
    exact fun _ ha => nomatch ha
  · cases hvalue
    exact fun _ ha => nomatch ha
  · obtain ⟨a, ha, rfl⟩ := Option.map_eq_some_iff.mp hvalue
    intro a' ha'
    cases ha'
    exact h _ a ha

end Decoded

theorem forall_of_listMember {read : Json → Option α} {P : α → Prop}
    (h : ∀ j a, read j = some a → P a) {members : List (String × Json)} {key : String}
    {as : List α} (has : withDefault? (list? read) [] members key = some as) : ∀ a ∈ as, P a :=
  of_withDefault? (fun _ _ => forall_of_list? h) (fun _ ha => absurd ha List.not_mem_nil) has

end MockScaffold.Json
