import MockScaffold.Proofs.Decl.Lombok
import MockScaffold.Proofs.Decl.Tally

namespace MockScaffold

namespace ClassDecl

/-- The same tree of classes, with `R` between the two classes at every place. -/
inductive Matches (R : ClassDecl → ClassDecl → Prop) : ClassDecl → ClassDecl → Prop
  | node {c d : ClassDecl} (own : R c d)
      (inner : List.Forall₂ (Matches R) c.innerClasses d.innerClasses) : Matches R c d

def withMethods (c : ClassDecl) (methods : List MethodDecl) : ClassDecl :=
  { c with methods }

/-- A final class with private final fields, its static fields apart. -/
def sealed (c : ClassDecl) : ClassDecl :=
  { c with
    modifiers := { c.modifiers with isFinal := true }
    fields := c.fields.map fun f =>
      if f.modifiers.isStatic then f
      else { f with
        modifiers := { f.modifiers with visibility := .privateAccess, isFinal := true } } }

def signatures (c : ClassDecl) : List (String × Nat) :=
  c.methods.map (·.signature)

end ClassDecl

namespace Lombok

open ClassDecl (Matches)

/-- What becomes of a class, those nested in it apart, when public methods of new signatures are
appended as generated ones and give every field the accessors that it asks for; only `@Value`
changes anything else. -/
structure Expands (c d : ClassDecl) (added : List MethodDecl) : Prop where
  methods : d.methods = c.methods ++ added
  isPublic : ∀ m ∈ added, m.modifiers.visibility = .publicAccess
  isGenerated : ∀ m ∈ added, m.origin = .generated processor
  distinct : (added.map (·.signature)).Nodup
  undeclared : ∀ m ∈ added, m.signature ∉ c.signatures
  plain : c.isMarkedWith "lombok.Value" = false →
    (d.withMethods c.methods).withInnerClasses c.innerClasses = c
  value : c.isMarkedWith "lombok.Value" = true →
    (d.withMethods c.methods).withInnerClasses c.innerClasses = c.sealed
  getters : ∀ f ∈ d.fields, wantsGetter d f = true → (getterName f, 0) ∈ d.signatures
  setters : ∀ f ∈ d.fields, wantsSetter d f = true → (setterName f, 1) ∈ d.signatures

section Wanted

variable {c : ClassDecl} {f : FieldDecl} {m : MethodDecl}

theorem getter_mem_wanted (hf : f ∈ c.fields) (h : wantsGetter c f = true) :
    getter f ∈ wanted c := by
  have haccessor : getter f ∈ accessors c f := by simp [accessors, h]
  exact List.mem_append_left _ (List.mem_append_left _ (List.mem_flatMap.mpr ⟨f, hf, haccessor⟩))

theorem setter_mem_wanted (hf : f ∈ c.fields) (h : wantsSetter c f = true) :
    setter f ∈ wanted c := by
  have haccessor : setter f ∈ accessors c f := by simp [accessors, h]
  exact List.mem_append_left _ (List.mem_append_left _ (List.mem_flatMap.mpr ⟨f, hf, haccessor⟩))

/-- Whether the class declares it or not. -/
theorem mem_signatures_of_wanted (hm : m ∈ wanted c) :
    m.signature ∈ (c.methods ++ additions c).map (·.signature) := by
  rw [List.map_append, List.mem_append, additions, missing_eq_firstsBy]
  exact mem_taken_or_firstsBy _ hm

end Wanted

section Settled

theorem settled_of_value {c : ClassDecl} (h : c.isMarkedWith "lombok.Value" = true) :
    settled c = c.sealed :=
  if_pos h

theorem methods_settled (c : ClassDecl) : (settled c).methods = c.methods := by
  unfold settled
  split <;> rfl

theorem isMarkedWith_settled (c : ClassDecl) (qualified : String) :
    (settled c).isMarkedWith qualified = c.isMarkedWith qualified := by
  unfold settled
  split <;> rfl

/-- Members other than fields are no matter. -/
theorem settled_withMembers (c : ClassDecl) (methods : List MethodDecl) (inner : List ClassDecl) :
    settled ((c.withMethods methods).withInnerClasses inner) =
      ((settled c).withMethods methods).withInnerClasses inner := by
  unfold settled
  rw [show ((c.withMethods methods).withInnerClasses inner).isMarkedWith "lombok.Value" =
    c.isMarkedWith "lombok.Value" from rfl]
  split <;> rfl

theorem sealed_sealed (c : ClassDecl) : c.sealed.sealed = c.sealed := by
  unfold ClassDecl.sealed
  dsimp only
  rw [List.map_map]
  congr 1
  refine List.map_congr_left fun f _ => ?_
  dsimp only [Function.comp_apply]
  split
  · rfl
  · rfl

theorem settled_settled (c : ClassDecl) : settled (settled c) = settled c := by
  cases hvalue : c.isMarkedWith "lombok.Value" with
  | true =>
    rw [settled_of_value ((isMarkedWith_settled c _).trans hvalue), settled_of_value hvalue,
      sealed_sealed]
  | false => rw [settled_of_not_value ((isMarkedWith_settled c _).trans hvalue)]

end Settled

theorem settled_expand (c : ClassDecl) : settled (expand c) = expand c := by
  have hexpand : expand c =
      ((settled c).withMethods ((settled c).methods ++ additions (settled c))).withInnerClasses
        (expandAll c.innerClasses) := expand_eq c
  rw [hexpand, settled_withMembers, settled_settled]

/-- What an expanded class wants it has. -/
theorem additions_expand (c : ClassDecl) : additions (expand c) = [] := by
  rw [additions, missing_eq_firstsBy]
  refine firstsBy_eq_nil fun m hm => ?_
  have hwanted : wanted (expand c) = wanted (settled c) := by
    rw [expand_eq]
    rfl
  rw [hwanted] at hm
  rw [expand_eq]
  exact mem_signatures_of_wanted hm

theorem expands_expand (c : ClassDecl) : Expands c (expand c) (additions (settled c)) where
  methods := by
    rw [expand_eq, methods_settled]
  isPublic m hm := by
    obtain ⟨_, _, _, _, rfl⟩ := exists_member_of_mem_wanted (missing_subset _ _ hm)
    rfl
  isGenerated m hm := by
    obtain ⟨_, _, _, _, rfl⟩ := exists_member_of_mem_wanted (missing_subset _ _ hm)
    rfl
  distinct := by
    rw [additions, missing_eq_firstsBy]
    exact nodup_firstsBy _ _ _
  undeclared m hm := by
    rw [additions, missing_eq_firstsBy, methods_settled] at hm
    exact not_mem_taken_of_firstsBy hm
  plain h := by
    rw [expand_eq, settled_of_not_value h]
    cases c
    rfl
  value h := by
    rw [expand_eq, settled_of_value h]
    rfl
  getters f hf h := by
    rw [expand_eq] at hf h ⊢
    exact mem_signatures_of_wanted (getter_mem_wanted (c := settled c) hf h)
  setters f hf h := by
    rw [expand_eq] at hf h ⊢
    exact mem_signatures_of_wanted (setter_mem_wanted (c := settled c) hf h)

theorem addedCount_eq (c : ClassDecl) :
    addedCount c = (additions (settled c)).length + addedCountAll c.innerClasses := by
  cases c
  rw [addedCount]

mutual

theorem matches_expand : ∀ c : ClassDecl,
    c.Matches (fun c d => ∃ added, Expands c d added) (expand c)
  | { innerClasses, .. } => by
    refine .node ⟨_, expands_expand _⟩ ?_
    rw [innerClasses_expand]
    exact matches_expandAll innerClasses

theorem matches_expandAll : ∀ cs : List ClassDecl,
    List.Forall₂ (Matches fun c d => ∃ added, Expands c d added) cs (expandAll cs)
  | [] => .nil
  | c :: cs => .cons (matches_expand c) (matches_expandAll cs)

end

mutual

theorem length_methods_expand : ∀ c : ClassDecl,
    ((expand c).walk.flatMap (·.methods)).length =
      (c.walk.flatMap (·.methods)).length + addedCount c
  | { innerClasses, .. } => by
    rw [ClassDecl.flatMap_walk, ClassDecl.flatMap_walk, List.length_append, List.length_append,
      innerClasses_expand, length_methods_expandAll innerClasses, addedCount_eq,
      (expands_expand _).methods, List.length_append]
    dsimp only
    omega

theorem length_methods_expandAll : ∀ cs : List ClassDecl,
    ((ClassDecl.walkAll (expandAll cs)).flatMap (·.methods)).length =
      ((ClassDecl.walkAll cs).flatMap (·.methods)).length + addedCountAll cs
  | [] => rfl
  | c :: cs => by
    rw [expandAll, ClassDecl.walkAll, ClassDecl.walkAll, addedCountAll, List.flatMap_append,
      List.flatMap_append, List.length_append, List.length_append, length_methods_expand c,
      length_methods_expandAll cs]
    omega

end

/-- A class that lacks nothing, like those nested in it, is left as it is. -/
theorem expand_of_complete {c : ClassDecl} (hsettled : settled c = c) (hadded : additions c = [])
    (hinner : expandAll c.innerClasses = c.innerClasses) : expand c = c := by
  rw [expand_eq, hsettled, hadded, hinner, List.append_nil]
  cases c
  rfl

mutual

theorem expand_expand : ∀ c : ClassDecl, expand (expand c) = expand c
  | { innerClasses, .. } => by
    refine expand_of_complete (settled_expand _) (additions_expand _) ?_
    rw [innerClasses_expand, expandAll_expandAll innerClasses]

theorem expandAll_expandAll : ∀ cs : List ClassDecl, expandAll (expandAll cs) = expandAll cs
  | [] => rfl
  | c :: cs => by
    rw [expandAll, expandAll, expand_expand c, expandAll_expandAll cs]

end

mutual

theorem addedCount_expand : ∀ c : ClassDecl, addedCount (expand c) = 0
  | { innerClasses, .. } => by
    rw [addedCount_eq, settled_expand, additions_expand, innerClasses_expand,
      addedCountAll_expandAll innerClasses]
    rfl

theorem addedCountAll_expandAll : ∀ cs : List ClassDecl, addedCountAll (expandAll cs) = 0
  | [] => rfl
  | c :: cs => by
    rw [expandAll, addedCountAll, addedCount_expand c, addedCountAll_expandAll cs]

end

/-- Lombok adds what each class of a tree lacks, as many methods as it says, and to an expanded tree
it adds nothing. -/
theorem expand_adds_once (c : ClassDecl) :
    c.Matches (fun c d => ∃ added, Expands c d added) (expand c) ∧
      ((expand c).walk.flatMap (·.methods)).length =
        (c.walk.flatMap (·.methods)).length + addedCount c ∧
      expand (expand c) = expand c ∧ addedCount (expand c) = 0 :=
  ⟨matches_expand c, length_methods_expand c, expand_expand c, addedCount_expand c⟩

end Lombok

end MockScaffold
