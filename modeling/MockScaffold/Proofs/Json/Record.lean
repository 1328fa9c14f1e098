import MockScaffold.Proofs.Json.Depth

namespace MockScaffold.Json

/-- From a cut value `read` gives back what was written, unless something is cut off. -/
def Restores (toJson : α → Json) (read : Json → Option α) (P : α → Prop) : Prop :=
  ∀ levels a, P a →
    read ((toJson a).cut levels) = if (toJson a).depth ≤ levels then some a else none

theorem restores_string : Restores .string string? fun _ => True := by
  intro levels text _
  exact (if_pos (Nat.zero_le levels)).symm

theorem restores_bool : Restores .bool bool? fun _ => True := by
  intro levels b _
  exact (if_pos (Nat.zero_le levels)).symm

section List

variable {toJson : α → Json} {read : Json → Option α} {P : α → Prop}

theorem mapM_restored (h : Restores toJson read P) (levels : Nat) {as : List α}
    (hP : ∀ a ∈ as, P a) :
    (as.map fun a => (toJson a).cut levels).mapM read =
      if depthAll (as.map toJson) ≤ levels then some as else none := by
  induction as with
  | nil => rfl
  | cons a as ih =>
    rw [List.forall_mem_cons] at hP
    rw [List.map_cons, List.mapM_cons, h levels a hP.1, ih hP.2, List.map_cons, depthAll]
    simp only [Nat.max_le]
    by_cases ha : (toJson a).depth ≤ levels <;>
      by_cases has : depthAll (as.map toJson) ≤ levels <;> simp [ha, has]

theorem Restores.list (h : Restores toJson read P) :
    Restores (fun as => .array (as.map toJson)) (list? read) fun as => ∀ a ∈ as, P a := by
  intro levels as hP
  cases levels with
  | zero => simp [cut, held, list?, array?, depth]
  | succ levels =>
    have hcut : cut (levels + 1) (.array (as.map toJson)) =
        .array (as.map fun a => (toJson a).cut levels) := by
      simp [cut, held, cutAll_eq_map, Function.comp_def]
    dsimp only
    rw [hcut, depth]
    simp only [Nat.add_le_add_iff_right]
    exact mapM_restored h levels hP

end List

section Members

theorem lookup_cutMembers (levels : Nat) (members : List (String × Json)) (key : String) :
    (cutMembers levels members).lookup key = (members.lookup key).map (cut levels) := by
  induction members with
  | nil => rfl
  | cons member members ih =>
    rw [cutMembers, List.lookup_cons, List.lookup_cons, ih]
    split <;> rfl

theorem map_key_cutMembers (levels : Nat) (members : List (String × Json)) :
    (cutMembers levels members).map (·.1) = members.map (·.1) := by
  rw [cutMembers_eq_map, List.map_map]
  rfl

theorem depthMembers_append (members members' : List (String × Json)) :
    depthMembers (members ++ members') = max (depthMembers members) (depthMembers members') := by
  induction members with
  | nil => simp [depthMembers]
  | cons member members ih => rw [List.cons_append, depthMembers, depthMembers, ih, Nat.max_assoc]

theorem keys_listMember (key : String) (items : List Json) :
    ((listMember key items).map (·.1)).Sublist [key] := by
  unfold listMember
  split
  · exact List.nil_sublist _
  · exact List.Sublist.refl _

theorem keys_optionMember (key : String) (value : Option Json) :
    ((optionMember key value).map (·.1)).Sublist [key] := by
  cases value with
  | none => exact List.nil_sublist _
  | some j => exact List.Sublist.refl _

@[simp] theorem lookup_listMember_self (key : String) (items : List Json) :
    (listMember key items).lookup key = if items.isEmpty then none else some (.array items) := by
  unfold listMember
  split <;> simp

@[simp] theorem lookup_listMember_of_ne {key other : String} (h : key ≠ other)
    (items : List Json) :
    (listMember other items).lookup key = none := by
  unfold listMember
  split
  · rfl
  · rw [List.lookup_cons, beq_false_of_ne h]
    rfl

@[simp] theorem lookup_optionMember_self (key : String) (value : Option Json) :
    (optionMember key value).lookup key = value := by
  cases value <;> simp [optionMember]

@[simp] theorem lookup_optionMember_of_ne {key other : String} (h : key ≠ other)
    (value : Option Json) :
    (optionMember other value).lookup key = none := by
  cases value with
  | none => rfl
  | some j =>
    rw [optionMember, Option.map_some, Option.toList_some, List.lookup_cons, beq_false_of_ne h]
    rfl

theorem contains_key_of_mem_cutMembers {keys : List String} {levels : Nat}
    {members : List (String × Json)} (h : (members.map (·.1)).Sublist keys)
    {member : String × Json} (hmember : member ∈ cutMembers levels members) :
    keys.contains member.1 = true := by
  have hkey : member.1 ∈ members.map (·.1) := by
    rw [← map_key_cutMembers levels members]
    exact List.mem_map_of_mem hmember
  exact List.contains_iff_mem.mpr (h.subset hkey)

/-- Members whose keys are among those of a record, in their order, are its known members. -/
theorem record?_cutMembers {keys : List String} (hkeys : keys.Nodup) (levels : Nat)
    {members : List (String × Json)} (h : (members.map (·.1)).Sublist keys) :
    record? keys (.object (cutMembers levels members)) = some (cutMembers levels members) := by
  have hall : (cutMembers levels members).filter (fun member => keys.contains member.1) =
      cutMembers levels members := by
    rw [List.filter_eq_self]
    exact fun _ hmember => contains_key_of_mem_cutMembers h hmember
  have hknown : record? keys (.object (cutMembers levels members)) =
      let known := (cutMembers levels members).filter fun member => keys.contains member.1
      if (known.map (·.1)).Nodup then some known else none := rfl
  have hnodup : ((cutMembers levels members).map (·.1)).Nodup := by
    rw [map_key_cutMembers]
    exact h.nodup hkeys
  rw [hknown, hall]
  exact if_pos hnodup

theorem cut_object (levels : Nat) (members : List (String × Json)) :
    cut (levels + 1) (.object members) = .object (cutMembers levels members) := by
  simp [cut, held]

/-- A record is restored if its known members are. -/
theorem restores_record {keys : List String} (hkeys : keys.Nodup)
    {members : α → List (String × Json)} (hsub : ∀ a, ((members a).map (·.1)).Sublist keys)
    {read : List (String × Json) → Option α} {P : α → Prop}
    (h : ∀ levels a, P a → read (cutMembers levels (members a)) =
      if depthMembers (members a) ≤ levels then some a else none) :
    Restores (fun a => .object (members a)) (fun j => (record? keys j).bind read) P := by
  intro levels a hP
  cases levels with
  | zero => simp [cut, held, record?, depth]
  | succ levels =>
    dsimp only
    rw [cut_object, record?_cutMembers hkeys levels (hsub a), Option.bind_some, h levels a hP,
      depth]
    simp only [Nat.add_le_add_iff_right]

/-- That a record is closed makes no difference to what was written. -/
theorem restores_closedRecord {keys : List String} (hkeys : keys.Nodup)
    {members : α → List (String × Json)} (hsub : ∀ a, ((members a).map (·.1)).Sublist keys)
    {read : List (String × Json) → Option α} {P : α → Prop}
    (h : ∀ levels a, P a → read (cutMembers levels (members a)) =
      if depthMembers (members a) ≤ levels then some a else none) :
    Restores (fun a => .object (members a)) (fun j => (closedRecord? keys j).bind read) P := by
  intro levels a hP
  have hclosed : closedRecord? keys (cut levels (.object (members a))) =
      record? keys (cut levels (.object (members a))) := by
    cases levels with
    | zero => rfl
    | succ levels =>
      have hall : (cutMembers levels (members a)).all
          (fun member => keys.contains member.1) = true := by
        rw [List.all_eq_true]
        exact fun _ hmember => contains_key_of_mem_cutMembers (hsub a) hmember
      rw [cut_object]
      exact if_pos hall
  dsimp only
  rw [hclosed]
  exact restores_record hkeys hsub h levels a hP

variable {toJson : α → Json} {read : Json → Option α} {P : α → Prop}
  (members : List (String × Json)) (key : String)

theorem Restores.required (h : Restores toJson read P) (levels : Nat) (a : α) (hP : P a)
    (hkey : members.lookup key = some (toJson a)) :
    required? read (cutMembers levels members) key =
      if (toJson a).depth ≤ levels then some a else none := by
  rw [required?, lookup_cutMembers, hkey]
  exact h levels a hP

theorem Restores.withDefault (h : Restores toJson read P) (levels : Nat) (default a : α)
    (hP : P a) (hkey : members.lookup key = some (toJson a)) :
    withDefault? read default (cutMembers levels members) key =
      if (toJson a).depth ≤ levels then some a else none := by
  rw [withDefault?, lookup_cutMembers, hkey]
  exact h levels a hP

theorem Restores.listMember (h : Restores toJson read P) (levels : Nat) (as : List α)
    (hP : ∀ a ∈ as, P a)
    (hkey : members.lookup key = (Json.listMember key (as.map toJson)).lookup key) :
    withDefault? (list? read) [] (cutMembers levels members) key =
      if depthMembers (Json.listMember key (as.map toJson)) ≤ levels then some as else none := by
  cases as with
  | nil =>
    have hnone : members.lookup key = none := by
      rw [hkey, lookup_listMember_self]
      rfl
    simp [withDefault?, lookup_cutMembers, hnone, Json.listMember, depthMembers]
  | cons a as =>
    have hsome : members.lookup key = some (.array ((a :: as).map toJson)) := by
      rw [hkey, lookup_listMember_self]
      rfl
    have hdepth : depthMembers (Json.listMember key ((a :: as).map toJson)) =
        (Json.array ((a :: as).map toJson)).depth := by
      simp [Json.listMember, depthMembers]
    rw [hdepth]
    exact h.list.withDefault members key levels [] _ hP hsome

/-- A value that is left out when there is none; none is written as `null`. -/
theorem Restores.optionMember (h : Restores toJson read P)
    (hnull : ∀ a levels, (toJson a).cut levels ≠ .null) (levels : Nat) (value : Option α)
    (hP : ∀ a ∈ value, P a) (hkey : members.lookup key = value.map toJson) :
    optional? read (cutMembers levels members) key =
      if depthMembers (Json.optionMember key (value.map toJson)) ≤ levels then some value
      else none := by
  cases value with
  | none => simp [optional?, lookup_cutMembers, hkey, Json.optionMember, depthMembers]
  | some a =>
    have hread : optional? read (cutMembers levels members) key =
        (read ((toJson a).cut levels)).map some := by
      rw [optional?, lookup_cutMembers, hkey]
      simp only [Option.map_some]
      split
      · rename_i heq
        cases heq
      · rename_i heq
        exact absurd (Option.some.inj heq) (hnull a levels)
      · rename_i heq
        rw [Option.some.inj heq]
    have hdepth : depthMembers (Json.optionMember key ((some a).map toJson)) =
        (toJson a).depth := by
      simp [Json.optionMember, depthMembers]
    rw [hread, hdepth, h levels a (hP a rfl)]
    split <;> rfl

theorem guard_bind {p : Prop} [Decidable p] (next : Unit → Option β) :
    (guard p >>= next) = if p then next () else none := by
  by_cases h : p
  · have hguard : (guard p : Option Unit) = some () := if_pos h
    rw [hguard, if_pos h]
    rfl
  · have hguard : (guard p : Option Unit) = none := if_neg h
    rw [hguard, if_neg h]
    rfl

theorem bind_ite {p : Prop} [Decidable p] (a : α) (next : α → Option β) :
    (if p then some a else none).bind next = if p then next a else none := by
  split <;> rfl

theorem ite_ite {p q : Prop} [Decidable p] [Decidable q] (a : Option α) :
    (if p then if q then a else none else none) = if p ∧ q then a else none := by
  by_cases hp : p <;> simp [hp]

end Members

section Mono

variable {read read' : Json → Option α} (h : ∀ j a, read j = some a → read' j = some a)

include h

theorem mapM_mono {js : List Json} {as : List α} (has : js.mapM read = some as) :
    js.mapM read' = some as := by
  induction js generalizing as with
  | nil => exact has
  | cons j js ih =>
    rw [List.mapM_cons] at has ⊢
    obtain ⟨a, ha, has⟩ := Option.bind_eq_some_iff.mp has
    obtain ⟨rest, hrest, has⟩ := Option.bind_eq_some_iff.mp has
    rw [h j a ha, ih hrest]
    exact has

theorem list?_mono {j : Json} {as : List α} (has : list? read j = some as) :
    list? read' j = some as := by
  obtain ⟨js, hjs, has⟩ := Option.bind_eq_some_iff.mp has
  rw [list?, hjs]
  exact mapM_mono h has

theorem withDefault?_mono {members : List (String × Json)} {key : String} {default a : α}
    (ha : withDefault? read default members key = some a) :
    withDefault? read' default members key = some a := by
  unfold withDefault? at ha ⊢
  split at ha
  · exact h _ _ ha
  · exact ha

end Mono

end MockScaffold.Json
