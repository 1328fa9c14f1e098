import MockScaffold.Decl.Validity
import MockScaffold.Proofs.Decl.Growth
import MockScaffold.Proofs.Name.Dots
import MockScaffold.Proofs.Name.Identifier

namespace MockScaffold

namespace Name

theorem qualifier?_append_iff {owner simple : String} :
    qualifier? (owner ++ "." ++ simple) = some owner ↔ '.' ∉ simple.toList := by
  constructor
  · intro h
    obtain ⟨⟨before, after⟩, hsplit, hbefore⟩ := Option.map_eq_some_iff.mp h
    obtain ⟨heq, hafter⟩ := eq_append_of_splitAtLastDot? hsplit
    have howner : before = owner.toList := by
      rw [← hbefore, String.toList_ofList]
    rw [toList_append_dot, howner, List.append_cancel_left_eq, List.cons.injEq] at heq
    rw [heq.2]
    exact hafter
  · exact qualifier?_append owner

end Name

namespace ClassDecl

theorem nameFault?_eq_none_iff {c : ClassDecl} :
    c.nameFault? = none ↔
      Name.isIdentifier c.name = true ∧ Name.simpleName c.qualifiedName = c.name := by
  unfold nameFault?
  cases Name.isIdentifier c.name <;> simp

theorem nestingFault?_eq_none_iff {owner c : ClassDecl} :
    nestingFault? owner c = none ↔
      Name.qualifier? c.qualifiedName = some owner.qualifiedName := by
  unfold nestingFault?
  split <;> simp_all

theorem eq_append_of_nestingFault? {owner c : ClassDecl} (hname : c.nameFault? = none)
    (hnesting : nestingFault? owner c = none) :
    Name.isIdentifier c.name = true ∧ c.qualifiedName = owner.qualifiedName ++ "." ++ c.name := by
  obtain ⟨hidentifier, hsimple⟩ := nameFault?_eq_none_iff.mp hname
  refine ⟨hidentifier, ?_⟩
  rw [← hsimple]
  exact Name.eq_append_of_qualifier? (nestingFault?_eq_none_iff.mp hnesting)

theorem nestedFault?_eq_none_iff {owner : ClassDecl} {cs : List ClassDecl} :
    nestedFault? owner cs = none ↔
      ∀ c ∈ cs, nestingFault? owner c = none ∧ c.fault? = none := by
  induction cs with
  | nil => simp [nestedFault?]
  | cons c cs ih =>
    rw [nestedFault?, Option.or_eq_none_iff, Option.or_eq_none_iff, ih, List.forall_mem_cons,
      and_assoc]

theorem fault?_eq_none_iff {c : ClassDecl} :
    c.fault? = none ↔ c.nameFault? = none ∧
      ∀ d ∈ c.innerClasses, nestingFault? c d = none ∧ d.fault? = none := by
  rw [← nestedFault?_eq_none_iff]
  cases c
  rw [fault?, Option.or_eq_none_iff]

theorem firstFault?_eq_none_iff {cs : List ClassDecl} :
    firstFault? cs = none ↔ ∀ c ∈ cs, c.fault? = none :=
  List.findSome?_eq_none_iff

end ClassDecl

end MockScaffold
