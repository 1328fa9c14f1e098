import MockScaffold.Decl.Lombok
import MockScaffold.Proofs.List.Firsts

namespace MockScaffold

namespace ClassDecl

def sourceMethods (c : ClassDecl) : List MethodDecl :=
  c.methods.filter (!·.origin.isGenerated)

/-- The class without its generated methods and without the classes nested in it. -/
def outline (c : ClassDecl) : ClassDecl :=
  { c with methods := c.sourceMethods, innerClasses := [] }

/-- What can be told from an outline is the same for all classes that have it. -/
theorem congr_outline {f : ClassDecl → α} (hf : ∀ c : ClassDecl, f c.outline = f c)
    {c c' : ClassDecl} (h : c.outline = c'.outline) : f c = f c' := by
  rw [← hf c, h, hf c']

end ClassDecl

namespace Lombok

theorem missing_eq_firstsBy (taken : List (String × Nat)) (ms : List MethodDecl) :
    missing taken ms = firstsBy (·.signature) taken ms := by
  induction ms generalizing taken with
  | nil => rfl
  | cons m ms ih => rw [missing, firstsBy, ih, ih]

theorem missing_subset (taken : List (String × Nat)) (ms : List MethodDecl) :
    missing taken ms ⊆ ms := by
  rw [missing_eq_firstsBy]
  exact firstsBy_subset _ taken ms

variable {c : ClassDecl}

theorem exists_member_of_mem_wanted {m : MethodDecl} (hm : m ∈ wanted c) :
    ∃ name returnType params isStatic, m = member name returnType params isStatic := by
  grind [wanted, accessors, textMembers, equalityMembers, getter, setter]

theorem isGenerated_of_mem_wanted {m : MethodDecl} (hm : m ∈ wanted c) :
    m.origin.isGenerated = true := by
  obtain ⟨name, returnType, params, isStatic, rfl⟩ := exists_member_of_mem_wanted hm
  rfl

theorem sourceMethods_settled (c : ClassDecl) : (settled c).sourceMethods = c.sourceMethods := by
  unfold settled
  split <;> rfl

theorem settled_of_not_value (h : c.isMarkedWith "lombok.Value" = false) : settled c = c :=
  if_neg (by simp [h])

theorem expand_eq (c : ClassDecl) : expand c =
    { settled c with
      methods := (settled c).methods ++ additions (settled c)
      innerClasses := expandAll c.innerClasses } := by
  cases c
  rw [expand]

theorem qualifiedName_expand (c : ClassDecl) : (expand c).qualifiedName = c.qualifiedName := by
  rw [expand_eq]
  unfold settled
  split <;> rfl

theorem innerClasses_expand (c : ClassDecl) :
    (expand c).innerClasses = expandAll c.innerClasses := by
  rw [expand_eq]

theorem sourceMethods_expand (c : ClassDecl) : (expand c).sourceMethods = c.sourceMethods := by
  have hadded : (additions (settled c)).filter (!·.origin.isGenerated) = [] := by
    rw [List.filter_eq_nil_iff]
    intro m hm
    simp [isGenerated_of_mem_wanted (missing_subset _ _ hm)]
  rw [expand_eq, ClassDecl.sourceMethods, List.filter_append, hadded, List.append_nil]
  exact sourceMethods_settled c

theorem superTypes_expand (c : ClassDecl) : (expand c).superTypes = c.superTypes := by
  rw [expand_eq]
  unfold settled
  split <;> rfl

theorem map_fields_expand {view : FieldDecl → α}
    (hview : ∀ f modifiers, view { f with modifiers } = view f) (c : ClassDecl) :
    (expand c).fields.map view = c.fields.map view := by
  rw [expand_eq]
  unfold settled
  split
  · rw [List.map_map]
    refine List.map_congr_left fun f _ => ?_
    dsimp only [Function.comp_apply]
    split
    · rfl
    · exact hview f _
  · rfl

theorem outline_expand (h : c.isMarkedWith "lombok.Value" = false) :
    (expand c).outline = c.outline := by
  rw [ClassDecl.outline, sourceMethods_expand, expand_eq, settled_of_not_value h]
  rfl

end Lombok

end MockScaffold
