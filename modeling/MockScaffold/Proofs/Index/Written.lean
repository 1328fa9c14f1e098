import MockScaffold.Index.Basic
import MockScaffold.Index.Builtin
import MockScaffold.Index.Hierarchy
import MockScaffold.Proofs.Decl.Lombok
import MockScaffold.Proofs.Model.Written

namespace MockScaffold

namespace Lombok

open TypeRef (isWritten_ofClass)

theorem isWritten_member {name : String} {returnType : TypeRef} {params : List Parameter}
    {isStatic : Bool} (hreturn : returnType.IsWritten)
    (hparams : ∀ p ∈ params, p.type.IsWritten) :
    (member name returnType params isStatic).IsWritten := by
  refine ⟨hparams, fun t ht => ?_⟩
  cases ht
  exact hreturn

variable {c : ClassDecl}

theorem isWritten_accessors {field : FieldDecl} (h : field.type.IsWritten) :
    ∀ m ∈ accessors c field, m.IsWritten := by
  intro m hm
  rcases List.mem_append.mp hm with hm | hm
  · split at hm
    · rw [List.mem_singleton.mp hm]
      exact isWritten_member h fun _ hp => absurd hp List.not_mem_nil
    · cases hm
  · split at hm
    · rw [List.mem_singleton.mp hm]
      exact isWritten_member .void (List.forall_mem_singleton.mpr h)
    · cases hm

theorem isWritten_wanted (hfields : ∀ f ∈ c.fields, f.type.IsWritten) :
    ∀ m ∈ wanted c, m.IsWritten := by
  have hnone : ∀ p ∈ ([] : List Parameter), p.type.IsWritten :=
    fun _ hp => absurd hp List.not_mem_nil
  intro m hm
  rcases List.mem_append.mp hm with hm | hm
  · rcases List.mem_append.mp hm with hm | hm
    · obtain ⟨field, hfield, hm⟩ := List.mem_flatMap.mp hm
      exact isWritten_accessors (hfields field hfield) m hm
    · unfold textMembers at hm
      split at hm
      · rw [List.mem_singleton.mp hm]
        exact isWritten_member (isWritten_ofClass ⟨by decide, by decide, by decide, rfl⟩) hnone
      · cases hm
  · unfold equalityMembers at hm
    split at hm
    · rcases List.mem_cons.mp hm with rfl | hm
      · exact isWritten_member (.primitive _)
          (List.forall_mem_singleton.mpr (isWritten_ofClass TypeRef.isClassName_object))
      · rw [List.mem_singleton.mp hm]
        exact isWritten_member (.primitive _) hnone
    · cases hm

theorem isWritten_settled (h : c.IsWritten) : (settled c).IsWritten := by
  unfold settled
  split
  · refine .intro h.superTypes (fun f hf => ?_) h.methods h.innerClasses
    obtain ⟨g, hg, rfl⟩ := List.mem_map.mp hf
    split <;> exact h.fields g hg
  · exact h

mutual

theorem isWritten_expand : ∀ {c : ClassDecl}, c.IsWritten → (expand c).IsWritten
  | { innerClasses, .. } => by
    intro h
    have hs := isWritten_settled h
    rw [expand]
    refine .intro hs.superTypes hs.fields (fun m hm => ?_) (isWritten_expandAll h.innerClasses)
    rcases List.mem_append.mp hm with hm | hm
    · exact hs.methods m hm
    · exact isWritten_wanted hs.fields m (missing_subset _ _ hm)

theorem isWritten_expandAll : ∀ {cs : List ClassDecl}, (∀ c ∈ cs, c.IsWritten) →
    ∀ c ∈ expandAll cs, c.IsWritten
  | [] => fun _ _ hc => absurd hc List.not_mem_nil
  | _ :: _ => fun h => by
    rw [List.forall_mem_cons] at h
    exact List.forall_mem_cons.mpr ⟨isWritten_expand h.1, isWritten_expandAll h.2⟩

end

end Lombok

namespace ClassIndex

def IsWritten (index : ClassIndex) : Prop :=
  ∀ entry ∈ index.entries, entry.decl.IsWritten

variable {index : ClassIndex} {provenance : Provenance}

theorem IsWritten.find? (h : index.IsWritten) {name : String} {scope : Scope} {c : ClassDecl}
    (hc : index.find? name scope = some c) : c.IsWritten := by
  obtain ⟨entry, hentry, rfl⟩ := mem_of_find? hc
  exact h entry hentry

theorem isWritten_offer (h : index.IsWritten) {entry : IndexEntry}
    (hentry : entry.decl.IsWritten) : (index.offer entry).IsWritten := by
  unfold offer
  split
  · exact h
  · intro entry' hentry'
    rcases List.mem_cons.mp hentry' with rfl | hentry'
    · exact hentry
    · exact h entry' (List.mem_filter.mp hentry').1

mutual

theorem isWritten_insert : ∀ (c : ClassDecl) {index : ClassIndex}, index.IsWritten →
    c.IsWritten → (index.insert provenance c).IsWritten
  | { innerClasses, .. } => fun h hc => by
    rw [insert]
    exact isWritten_offer (isWritten_insertAll innerClasses h hc.innerClasses) hc

theorem isWritten_insertAll : ∀ (cs : List ClassDecl) {index : ClassIndex}, index.IsWritten →
    (∀ c ∈ cs, c.IsWritten) → (index.insertAll provenance cs).IsWritten
  | [] => fun h _ => h
  | c :: cs => fun h hcs => by
    rw [List.forall_mem_cons] at hcs
    exact isWritten_insertAll cs (isWritten_insert c h hcs.1) hcs.2

end

theorem isWritten_builtinClasses : ∀ c ∈ builtinClasses, c.IsWritten := by
  have hnames : ∀ name ∈ ["java.lang.Iterable", "java.util.Collection", "java.util.Collection",
      "java.util.List", "java.util.Set", "E"], TypeRef.IsClassName name := by
    intro name hname
    simp only [List.mem_cons, List.not_mem_nil, or_false] at hname
    rcases hname with rfl | rfl | rfl | rfl | rfl | rfl <;>
      exact ⟨by decide, by decide, by decide, rfl⟩
  -- All types of all classes at once: there are only super types, and they are of two forms.
  have hsuper : builtinClasses.flatMap (·.superTypes) =
      .ofClass "java.lang.Object" :: ["java.lang.Iterable", "java.util.Collection",
        "java.util.Collection", "java.util.List", "java.util.Set"].flatMap ofElements :=
    rfl
  have hfields : builtinClasses.flatMap (·.fields) = [] := rfl
  have hmethods : builtinClasses.flatMap (·.methods) = [] := rfl
  have hinner : builtinClasses.flatMap (·.innerClasses) = [] := rfl
  rw [List.flatMap_eq_nil_iff] at hfields hmethods hinner
  intro c hc
  refine .intro (fun t ht => ?_) (fun f hf => ?_) (fun m hm => ?_) fun d hd => ?_
  · have hmem := List.mem_flatMap.mpr ⟨c, hc, ht⟩
    rw [hsuper] at hmem
    rcases List.mem_cons.mp hmem with rfl | hmem
    · exact TypeRef.isWritten_ofClass TypeRef.isClassName_object
    · obtain ⟨name, hname, hmem⟩ := List.mem_flatMap.mp hmem
      rw [List.mem_singleton.mp hmem]
      refine .named (hnames name (List.mem_append_left ["E"] hname)) ?_
      exact List.forall_mem_singleton.mpr (TypeRef.isWritten_ofClass (hnames "E" (by decide)))
  · rw [hfields c hc] at hf
    cases hf
  · rw [hmethods c hc] at hm
    cases hm
  · rw [hinner c hc] at hd
    cases hd

theorem isWritten_extend {project : ProjectModel} (h : index.IsWritten)
    (hclasses : ∀ c ∈ project.classes, c.IsWritten)
    (hlibraries : ∀ c ∈ project.libraries, c.IsWritten) (lombok : Bool) :
    (index.extend project lombok).IsWritten := by
  refine isWritten_insertAll _ (isWritten_insertAll _ h hlibraries) ?_
  cases lombok with
  | true => exact Lombok.isWritten_expandAll hclasses
  | false => exact hclasses

theorem isWritten_builtin : builtin.IsWritten :=
  isWritten_insertAll _ (fun _ hentry => absurd hentry List.not_mem_nil) isWritten_builtinClasses

theorem mem_levelsFrom {fuel : Nat} {seen : List String} {level : List ClassDecl} {d : ClassDecl}
    (hd : d ∈ levelsFrom index fuel seen level) :
    d ∈ level ∨ ∃ name, index.find? name .all = some d := by
  induction fuel generalizing seen level with
  | zero => exact .inl hd
  | succ fuel ih =>
    rcases List.mem_append.mp hd with hd | hd
    · exact .inl hd
    · rcases ih hd with hd | hd
      · obtain ⟨name, -, hfound⟩ := List.mem_filterMap.mp hd
        exact .inr ⟨name, hfound⟩
      · exact .inr hd

theorem isWritten_allFields (h : index.IsWritten) {c : ClassDecl} (hc : c.IsWritten) :
    ∀ f ∈ index.allFields c, f.type.IsWritten := by
  intro f hf
  obtain ⟨d, hd, hf⟩ := List.mem_flatMap.mp hf
  rcases mem_levelsFrom hd with hd | ⟨name, hfound⟩
  · rw [List.mem_singleton.mp hd] at hf
    exact hc.fields f hf
  · exact (h.find? hfound).fields f hf

end ClassIndex

end MockScaffold
