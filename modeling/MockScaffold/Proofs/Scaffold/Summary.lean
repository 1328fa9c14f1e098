import MockScaffold.Proofs.Scaffold.Nested
import MockScaffold.Proofs.SourceFile.Tally

namespace MockScaffold.Scaffold

open ClassDecl (NestedGrowth ownName walkAll)
open SourceFile (addedAnnotations addedClassNames addedFields)

namespace Summary

/-- What the new file has of each kind is what the old one has and what the summary counts. -/
structure IsExact (s : Summary) (old new : SourceFile) : Prop where
  imports : ∃ added, new.header.imports = old.header.imports ++ added ∧
    s.importsAdded = added.length
  annotations : new.allAnnotations.Perm (old.allAnnotations ++ addedAnnotations old new) ∧
    s.annotationsAdded = (addedAnnotations old new).length
  fields : new.allFields.Perm (old.allFields ++ addedFields old new) ∧
    s.fieldsAdded = (addedFields old new).length
  classes : new.classNames.Perm (old.classNames ++ addedClassNames old new) ∧
    s.nestedClassesAdded = (addedClassNames old new).length

/-- No difference is cut off at zero. -/
structure LeadsTo (s : Summary) (before after : Tally) : Prop where
  imports : before.imports + s.importsAdded = after.imports
  annotations : before.annotations + s.annotationsAdded = after.annotations
  fields : before.fields + s.fieldsAdded = after.fields
  classes : before.classes + s.nestedClassesAdded = after.classes

/-- The nested classes that are counted are those behind the old ones in the unit test class. -/
structure CountsNested (s : Summary) (old new : SourceFile) : Prop where
  noTestClass : old.testClass? = none → s.nestedClassesAdded = 0
  testClass : ∀ c, old.testClass? = some c → ∃ d, new.testClass? = some d ∧
    NestedGrowth c.innerClasses d.innerClasses ∧
    s.nestedClassesAdded = (d.innerClasses.drop c.innerClasses.length).length

variable {old new : SourceFile}

theorem leadsTo_between (h : old.Grows new) :
    (between old.tally new.tally).LeadsTo old.tally new.tally where
  imports := Nat.add_sub_cancel' h.header.imports.length_le
  annotations := Nat.add_sub_cancel' (h.tally_annotations_eq ▸ Nat.le_add_right _ _)
  fields := Nat.add_sub_cancel' (h.tally_fields_eq ▸ Nat.le_add_right _ _)
  classes := Nat.add_sub_cancel' (h.tally_classes_eq ▸ Nat.le_add_right _ _)

theorem isExact_between (h : old.Grows new) :
    (between old.tally new.tally).IsExact old new where
  imports := by
    obtain ⟨added, hadded⟩ := h.header.imports
    refine ⟨added, hadded.symm, ?_⟩
    change new.header.imports.length - old.header.imports.length = added.length
    rw [← hadded, List.length_append, Nat.add_sub_cancel_left]
  annotations := ⟨h.perm_allAnnotations, by
    rw [between, h.tally_annotations_eq, Nat.add_sub_cancel_left]⟩
  fields := ⟨h.perm_allFields, by rw [between, h.tally_fields_eq, Nat.add_sub_cancel_left]⟩
  classes := ⟨h.perm_classNames, by rw [between, h.tally_classes_eq, Nat.add_sub_cancel_left]⟩

theorem isEmpty_iff {s : Summary} : s.isEmpty = true ↔ s = ⟨0, 0, 0, 0⟩ :=
  beq_iff_eq

theorem isEmpty_between_iff (h : old.Grows new) :
    (between old.tally new.tally).isEmpty = true ↔ new = old := by
  rw [isEmpty_iff]
  constructor
  · intro hempty
    obtain ⟨⟨added, himports, hlength⟩, ⟨-, hannotations⟩, ⟨-, hfields⟩, ⟨-, hclasses⟩⟩ :=
      isExact_between h
    rw [hempty] at hlength hannotations hfields hclasses
    refine h.eq_of_nothing_added ?_ (List.eq_nil_of_length_eq_zero hannotations.symm)
      (List.eq_nil_of_length_eq_zero hfields.symm) (List.eq_nil_of_length_eq_zero hclasses.symm)
    rw [himports, List.length_append, ← hlength, Nat.add_zero]
  · rintro rfl
    simp only [between, Nat.sub_self]

end Summary

variable {index : ClassIndex} {seed : UInt64} {file : SourceFile} {c d : ClassDecl}

theorem flat_of_generate (hc : file.testClass? = some c)
    (hd : (generate index seed file).1.testClass? = some d) :
    ∀ e ∈ d.innerClasses.drop c.innerClasses.length, e.innerClasses = [] := by
  have hview : (generate index seed file).1.testClass?.map
      (·.innerClasses.map (·.innerClasses)) =
        file.testClass?.map (servedView (·.innerClasses) index) :=
    map_view_generate (fun _ _ => rfl) index seed file
  rw [hc, hd, Option.map_some, Option.map_some, Option.some.injEq, servedView] at hview
  intro e he
  have hmem : e.innerClasses ∈
      (d.innerClasses.map (·.innerClasses)).drop c.innerClasses.length := by
    rw [← List.map_drop]
    exact List.mem_map_of_mem he
  rw [hview, List.drop_left' (List.length_map _)] at hmem
  obtain ⟨n, -, hn⟩ := List.mem_map.mp hmem
  exact hn.symm

theorem countsNested_generate (index : ClassIndex) (seed : UInt64) (file : SourceFile) :
    (generate index seed file).2.CountsNested file (generate index seed file).1 := by
  have hgrows : file.Grows (generate index seed file).1 :=
    grows_runSteps index allSteps file (.ofSeed seed)
  have hcount : (generate index seed file).2.nestedClassesAdded =
      (addedClassNames file (generate index seed file).1).length :=
    (Summary.isExact_between hgrows).classes.2
  refine ⟨fun hnone => ?_, fun c hc => ?_⟩
  · rw [hcount, hgrows.addedClassNames_of_none (Option.map_eq_none_iff.mp hnone)]
    rfl
  · obtain ⟨⟨place, c⟩, hplace, rfl⟩ := Option.map_eq_some_iff.mp hc
    obtain ⟨d, hcd, hplace', -⟩ := hgrows.testPlace? hplace
    have hd := SourceFile.testClass?_eq hplace'
    refine ⟨d, hd, hcd.innerClasses, ?_⟩
    rw [hcount, hgrows.addedClassNames_eq hplace hplace',
      ClassDecl.walkAll_of_flat (flat_of_generate hc hd), ClassDecl.length_flatMap_ownName]

/-- The summary of a generation counts what was added to the file, kind by kind; it counts the
nested classes of the unit test class that are new; and it is empty if and only if the file is
unchanged. -/
theorem generate_summary_exact (index : ClassIndex) (seed : UInt64) (file : SourceFile) :
    let result := generate index seed file
    result.2.IsExact file result.1 ∧ result.2.LeadsTo file.tally result.1.tally ∧
      result.2.CountsNested file result.1 ∧ (result.2.isEmpty = true ↔ result.1 = file) := by
  have hgrows := grows_runSteps index allSteps file (.ofSeed seed)
  exact ⟨Summary.isExact_between hgrows, Summary.leadsTo_between hgrows,
    countsNested_generate index seed file, Summary.isEmpty_between_iff hgrows⟩

end MockScaffold.Scaffold
