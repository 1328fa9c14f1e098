import MockScaffold.Proofs.JavaType.ClassName
import MockScaffold.Proofs.Model.Loadable

namespace MockScaffold

open Name (isIdentifier)
open Text (IsAscii)
open TypeRef (IsQualified IsReserved)

namespace Name

/-- `name` is `owner`, or adds identifiers to it, each of them behind a dot. -/
inductive Encloses : String → String → Prop
  | self (name : String) : Encloses name name
  | nested {owner simple name : String} (h : isIdentifier simple = true) :
      Encloses (owner ++ "." ++ simple) name → Encloses owner name

namespace Encloses

variable {owner name : String}

theorem subset (h : Encloses owner name) : owner.toList ⊆ name.toList := by
  induction h with
  | self => exact List.Subset.refl _
  | nested _ _ ih =>
    rw [toList_append_dot] at ih
    exact fun c hc => ih (List.mem_append_left _ hc)

/-- The segments that a nested class adds are no obstacle but for their letters. -/
theorem isQualified_iff (h : Encloses owner name) :
    IsQualified name ↔ IsQualified owner ∧ IsAscii name := by
  induction h with
  | self => exact ⟨fun hname => ⟨hname, TypeRef.isAscii_of_isQualified hname⟩, And.left⟩
  | @nested owner simple name hsimple hencloses ih =>
    have hascii : IsAscii name → IsAscii simple := by
      intro hname c hc
      apply hname c (hencloses.subset _)
      rw [toList_append_dot]
      exact List.mem_append_right _ (List.mem_cons_of_mem _ hc)
    rw [ih, TypeRef.isQualified_append_iff owner hsimple, and_assoc,
      and_iff_right_of_imp hascii]

end Encloses

end Name

namespace ClassDecl

open Name (Encloses)

mutual

theorem encloses_of_mem_walk {c d : ClassDecl} (h : c.fault? = none) (hd : d ∈ c.walk) :
    Encloses c.qualifiedName d.qualifiedName := by
  match c with
  | { innerClasses, .. } =>
    rcases List.mem_cons.mp hd with rfl | hd
    · exact .self _
    · exact encloses_of_mem_walkAll (fault?_eq_none_iff.mp h).2 hd

theorem encloses_of_mem_walkAll {owner d : ClassDecl} {cs : List ClassDecl}
    (h : ∀ c ∈ cs, nestingFault? owner c = none ∧ c.fault? = none) (hd : d ∈ walkAll cs) :
    Encloses owner.qualifiedName d.qualifiedName := by
  match cs with
  | [] => cases hd
  | c :: cs =>
    rw [List.forall_mem_cons] at h
    rcases List.mem_append.mp hd with hd | hd
    · obtain ⟨hidentifier, heq⟩ :=
        eq_append_of_nestingFault? (fault?_eq_none_iff.mp h.1.2).1 h.1.1
      have hencloses := encloses_of_mem_walk h.1.2 hd
      rw [heq] at hencloses
      exact .nested hidentifier hencloses
    · exact encloses_of_mem_walkAll h.2 hd

end

/-- The name of a top-level class is its package's and one more segment. -/
theorem isQualified_iff_of_nameFault? {c : ClassDecl} (h : c.nameFault? = none) :
    IsQualified c.qualifiedName ↔
      (∀ package, Name.qualifier? c.qualifiedName = some package → IsQualified package) ∧
        IsAscii c.qualifiedName := by
  obtain ⟨hidentifier, hsimple⟩ := nameFault?_eq_none_iff.mp h
  rw [← hsimple] at hidentifier
  cases hqualifier : Name.qualifier? c.qualifiedName with
  | none =>
    have hname := Name.simpleName_eq_self_iff.mpr hqualifier
    rw [hname] at hidentifier
    rw [TypeRef.isQualified_identifier_iff hidentifier]
    exact (and_iff_right fun _ hsome => by cases hsome).symm
  | some package =>
    have hencloses : Name.Encloses package c.qualifiedName := by
      refine .nested hidentifier ?_
      rw [← Name.eq_append_of_qualifier? hqualifier]
      exact .self _
    rw [hencloses.isQualified_iff]
    simp only [Option.some.injEq, forall_eq']

end ClassDecl

/-- The top-level classes of a project or of a file, as they were loaded. -/
inductive IsLoaded : List ClassDecl → Prop
  | project {content : Option String} {p : ProjectModel} (h : ProjectModel.load content = .ok p) :
      IsLoaded (p.classes ++ p.libraries)
  | file {content : Option String} {f : SourceFile} (h : SourceFile.load content = .ok f) :
      IsLoaded f.classes

namespace IsLoaded

variable {roots : List ClassDecl} {root c : ClassDecl}

theorem fault?_eq_none (h : IsLoaded roots) : ∀ root ∈ roots, root.fault? = none := by
  rw [← ClassDecl.firstFault?_eq_none_iff]
  cases h with
  | project h => exact (exists_json_of_load h).choose_spec.2
  | file h => exact (exists_json_of_load h).choose_spec.2

/-- The name of a loaded class, at any depth, is the text of its type if and only if the package is
one for types, the name is in ASCII and it is no keyword. -/
theorem parse_qualifiedName_iff (h : IsLoaded roots) (hroot : root ∈ roots)
    (hc : c ∈ root.walk) :
    TypeRef.parse c.qualifiedName = .ok (.ofClass c.qualifiedName) ↔
      (∀ package, Name.qualifier? root.qualifiedName = some package → IsQualified package) ∧
        IsAscii c.qualifiedName ∧ ¬IsReserved c.qualifiedName := by
  have hvalid := h.fault?_eq_none root hroot
  have hencloses := ClassDecl.encloses_of_mem_walk hvalid hc
  have hascii : IsAscii c.qualifiedName → IsAscii root.qualifiedName :=
    fun hname letter hletter => hname letter (hencloses.subset hletter)
  rw [TypeRef.parse_eq_ofClass_iff, hencloses.isQualified_iff,
    ClassDecl.isQualified_iff_of_nameFault? (ClassDecl.fault?_eq_none_iff.mp hvalid).1,
    and_assoc, and_assoc, ← and_assoc (a := IsAscii root.qualifiedName),
    and_iff_right_of_imp hascii]

/-- A class with another one nested in it. -/
def cart : ClassDecl where
  name := "Cart"
  qualifiedName := "shop.Cart"
  innerClasses := [.ofQualifiedName "shop.Cart.Item"]

theorem isLoaded_cart : IsLoaded [cart] := by
  refine .project (p := { classes := [cart] }) ((ProjectModel.load_prettyAt_iff 0).mpr ⟨?_, ?_⟩)
  · decide
  · have hitem : (ClassDecl.ofQualifiedName "shop.Cart.Item").IsLoadable :=
      ClassDecl.isLoadable_ofQualifiedName_iff.mpr (by decide)
    refine List.forall_mem_singleton.mpr (ClassDecl.isLoadable_iff.mpr ?_)
    refine ⟨by decide, by simp [cart], by simp [cart], by simp [cart], ?_⟩
    exact List.forall_mem_singleton.mpr ⟨by decide, hitem⟩

/-- The nested class can be named, as the package, the name and its letters allow it. -/
theorem parse_qualifiedName_iff_cartItem :
    IsLoaded [cart] ∧ .ofQualifiedName "shop.Cart.Item" ∈ cart.walk ∧
      Name.qualifier? "shop.Cart" = some "shop" ∧ IsQualified "shop" ∧
      TypeRef.parse "shop.Cart.Item" = .ok (.ofClass "shop.Cart.Item") := by
  have hitem : .ofQualifiedName "shop.Cart.Item" ∈ cart.walk := .tail _ (.head _)
  have hshop : Name.qualifier? "shop.Cart" = some "shop" := by decide
  have hqualified : IsQualified "shop" :=
    (TypeRef.isQualified_identifier_iff (by decide)).mpr (by decide)
  have hascii : IsAscii "shop.Cart.Item" := by decide
  have hreserved : ¬IsReserved "shop.Cart.Item" := TypeRef.ofKeyword?_eq_none_iff.mp (by decide)
  refine ⟨isLoaded_cart, hitem, hshop, hqualified, ?_⟩
  refine (isLoaded_cart.parse_qualifiedName_iff (.head _) hitem).mpr ⟨?_, hascii, hreserved⟩
  intro package hpackage
  cases hshop.symm.trans hpackage
  exact hqualified

/-- One name that is not in ASCII, a keyword, and a package that is none for types. -/
def unnamable : List ClassDecl :=
  [.ofQualifiedName "Café", .ofQualifiedName "int", .ofQualifiedName "a b.Foo"]

theorem isLoaded_unnamable : IsLoaded unnamable := by
  refine .project (p := { classes := unnamable })
    ((ProjectModel.load_prettyAt_iff 0).mpr ⟨by decide, ?_⟩)
  have hloadable (q : String) (h : Name.isIdentifier (Name.simpleName q) = true) :
      (ClassDecl.ofQualifiedName q).IsLoadable :=
    ClassDecl.isLoadable_ofQualifiedName_iff.mpr h
  rw [unnamable, List.append_nil, List.forall_mem_cons, List.forall_mem_cons,
    List.forall_mem_singleton]
  exact ⟨hloadable _ (by decide), hloadable _ (by decide), hloadable _ (by decide)⟩

theorem parse_ne_of_mem_unnamable : ∀ c ∈ unnamable,
    TypeRef.parse c.qualifiedName ≠ .ok (.ofClass c.qualifiedName) := by
  have hletters (q : String) (h : q.toList.all TypeToken.isNameChar = false) :
      TypeRef.parse q ≠ .ok (.ofClass q) := by
    intro hparse
    have hqualified := (TypeRef.parse_eq_ofClass_iff.mp hparse).1
    refine Bool.eq_false_iff.mp h (List.all_eq_true.mpr fun c hc => ?_)
    exact TypeRef.isNameChar_iff.mpr (hqualified.letters c hc)
  rw [unnamable, List.forall_mem_cons, List.forall_mem_cons, List.forall_mem_singleton]
  refine ⟨hletters _ (by decide), fun hparse => ?_, hletters _ (by decide)⟩
  exact (TypeRef.parse_eq_ofClass_iff.mp hparse).2 ⟨_, .primitive .int⟩

/-- Not every loaded class can be named as a type. -/
theorem not_forall_parse_qualifiedName :
    ¬∀ roots, IsLoaded roots → ∀ root ∈ roots, ∀ c ∈ root.walk,
      TypeRef.parse c.qualifiedName = .ok (.ofClass c.qualifiedName) := fun h =>
  parse_ne_of_mem_unnamable _ (.head _) (h _ isLoaded_unnamable _ (.head _) _ (.head _))

end IsLoaded

end MockScaffold
