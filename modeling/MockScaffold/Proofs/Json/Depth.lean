import MockScaffold.Json.Parser

namespace MockScaffold.Json

mutual

def cut (levels : Nat) : Json → Json
  | .array items => held levels (.array (cutAll (levels - 1) items))
  | .object members => held levels (.object (cutMembers (levels - 1) members))
  | .null => .null
  | .bool b => .bool b
  | .number text => .number text
  | .string text => .string text
  | .unreadable => .unreadable

def cutAll (levels : Nat) : List Json → List Json
  | [] => []
  | j :: js => cut levels j :: cutAll levels js

def cutMembers (levels : Nat) : List (String × Json) → List (String × Json)
  | [] => []
  | (key, j) :: rest => (key, cut levels j) :: cutMembers levels rest

end

theorem cutAll_eq_map (levels : Nat) (js : List Json) : cutAll levels js = js.map (cut levels) := by
  induction js with
  | nil => rfl
  | cons j js ih => rw [cutAll, ih, List.map_cons]

theorem cutMembers_eq_map (levels : Nat) (members : List (String × Json)) :
    cutMembers levels members = members.map fun (key, j) => (key, cut levels j) := by
  induction members with
  | nil => rfl
  | cons member members ih => rw [cutMembers, ih, List.map_cons]

theorem cutMembers_append (levels : Nat) (members members' : List (String × Json)) :
    cutMembers levels (members ++ members') =
      cutMembers levels members ++ cutMembers levels members' := by
  rw [cutMembers_eq_map, cutMembers_eq_map, cutMembers_eq_map, List.map_append]

theorem depthAll_le_iff {n : Nat} {js : List Json} :
    depthAll js ≤ n ↔ ∀ j ∈ js, j.depth ≤ n := by
  induction js with
  | nil => simp [depthAll]
  | cons j js ih => rw [depthAll, Nat.max_le, ih, List.forall_mem_cons]

mutual

theorem cut_of_depth_le : ∀ (j : Json) {levels : Nat}, j.depth ≤ levels → j.cut levels = j
  | .array items, levels, h => by
    rw [depth] at h
    rw [cut, cutAll_of_depth_le items (by omega), held, if_neg (by omega)]
  | .object members, levels, h => by
    rw [depth] at h
    rw [cut, cutMembers_of_depth_le members (by omega), held, if_neg (by omega)]
  | .null, _, _ | .bool _, _, _ | .number _, _, _ | .string _, _, _ | .unreadable, _, _ => rfl

theorem cutAll_of_depth_le : ∀ (js : List Json) {levels : Nat}, depthAll js ≤ levels →
    cutAll levels js = js
  | [], _, _ => rfl
  | j :: js, levels, h => by
    rw [depthAll, Nat.max_le] at h
    rw [cutAll, cut_of_depth_le j h.1, cutAll_of_depth_le js h.2]

theorem cutMembers_of_depth_le : ∀ (members : List (String × Json)) {levels : Nat},
    depthMembers members ≤ levels → cutMembers levels members = members
  | [], _, _ => rfl
  | (key, j) :: rest, levels, h => by
    rw [depthMembers, Nat.max_le] at h
    rw [cutMembers, cut_of_depth_le j h.1, cutMembers_of_depth_le rest h.2]

end

mutual

/-- Neither numbers nor anything unreadable occur. -/
def isTextual : Json → Bool
  | .array items => allTextual items
  | .object members => allMembersTextual members
  | .number _ | .unreadable => false
  | .null | .bool _ | .string _ => true

def allTextual : List Json → Bool
  | [] => true
  | j :: js => isTextual j && allTextual js

def allMembersTextual : List (String × Json) → Bool
  | [] => true
  | (_, j) :: rest => isTextual j && allMembersTextual rest

end

mutual

theorem isReadable_of_isTextual : ∀ {j : Json}, j.isTextual = true → j.isReadable = true
  | .array items, h => by
    rw [isReadable]
    exact allReadable_of_allTextual h
  | .object members, h => by
    rw [isReadable]
    exact allMembersReadable_of_allMembersTextual h
  | .null, _ | .bool _, _ | .string _, _ => rfl

theorem allReadable_of_allTextual : ∀ {js : List Json}, allTextual js = true →
    allReadable js = true
  | [], _ => rfl
  | j :: js, h => by
    rw [allTextual, Bool.and_eq_true] at h
    rw [allReadable, isReadable_of_isTextual h.1, allReadable_of_allTextual h.2]
    rfl

theorem allMembersReadable_of_allMembersTextual : ∀ {members : List (String × Json)},
    allMembersTextual members = true → allMembersReadable members = true
  | [], _ => rfl
  | (_, j) :: rest, h => by
    rw [allMembersTextual, Bool.and_eq_true] at h
    rw [allMembersReadable, isReadable_of_isTextual h.1,
      allMembersReadable_of_allMembersTextual h.2]
    rfl

end

theorem isReadable_of_mem {members : List (String × Json)}
    (h : allMembersReadable members = true) {member : String × Json} (hmember : member ∈ members) :
    member.2.isReadable = true := by
  induction members with
  | nil => cases hmember
  | cons member' members ih =>
    rw [allMembersReadable, Bool.and_eq_true] at h
    rcases List.mem_cons.mp hmember with rfl | hmember
    · exact h.1
    · exact ih h.2 hmember

end MockScaffold.Json
