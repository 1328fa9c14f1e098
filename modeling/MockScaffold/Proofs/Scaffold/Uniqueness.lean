import Mathlib.Data.List.Nodup
import MockScaffold.Proofs.Scaffold.Stability

namespace MockScaffold

/-- The class that an import is about; a static import names a member of it. -/
def ImportDecl.className? (i : ImportDecl) : Option String :=
  if i.isStatic then Name.qualifier? i.path else some i.path

/-- The simple names under which plain imports bring in one class each. -/
def FileHeader.importedNames (h : FileHeader) : List String :=
  (h.plainImports.filter (!·.isOnDemand)).map fun i => Name.simpleName i.path

structure FileHeader.Tidy (h : FileHeader) : Prop where
  imports : h.imports.Nodup
  names : h.importedNames.Nodup

structure ClassDecl.Tidy (c : ClassDecl) : Prop where
  fields : c.fieldNames.Nodup
  innerFields : ∀ inner ∈ c.innerClasses, inner.fieldNames.Nodup
  innerClasses : (c.innerClasses.map (·.name)).Nodup

structure SourceFile.Tidy (file : SourceFile) : Prop where
  header : file.header.Tidy
  testClass : ∀ c, file.testClass? = some c → c.Tidy

theorem nodup_append_singleton {α : Type} {l : List α} {a : α} (h : l.Nodup) (ha : a ∉ l) :
    (l ++ [a]).Nodup := by
  rw [← List.concat_eq_append]
  exact h.concat ha

namespace Scaffold

open PlannedField (declareAll)
open Seeded (WordStream)

/-- The header is tidy, and imports that are not in `start` are about known classes. -/
structure HeaderSound (index : ClassIndex) (start h : FileHeader) : Prop where
  tidy : h.Tidy
  known : ∀ i ∈ h.imports, i ∈ start.imports ∨
    ∃ name, i.className? = some name ∧ (index.find? name .all).isSome = true

section Header

variable {index : ClassIndex} {start h : FileHeader} {q : String}

theorem not_mem_imports_of_needed (hn : needsImport index h q = true) :
    ⟨q, false⟩ ∉ h.imports := by
  intro hmem
  have hcovered : h.importsClass q = true :=
    List.any_eq_true.mpr ⟨⟨q, false⟩, List.mem_filter.mpr ⟨hmem, rfl⟩, by simp [ImportDecl.covers]⟩
  rw [(needsImport_iff.mp hn).2.2.1] at hcovered
  cases hcovered

theorem not_mem_importedNames_of_needed (hn : needsImport index h q = true) :
    Name.simpleName q ∉ h.importedNames := by
  intro hmem
  obtain ⟨i, hi, hname⟩ := List.mem_map.mp hmem
  obtain ⟨hplain, hsingle⟩ := List.mem_filter.mp hi
  have hclash : i ∈ h.singleImportsNamed (Name.simpleName q) :=
    List.mem_filter.mpr ⟨hplain, by simp [hsingle, hname]⟩
  rw [(needsImport_iff.mp hn).2.2.2] at hclash
  cases hclash

theorem importedNames_append_plain (h : FileHeader) (q : String) :
    ({ h with imports := h.imports ++ [⟨q, false⟩] } : FileHeader).importedNames =
      h.importedNames ++
        if ImportDecl.isOnDemand ⟨q, false⟩ then [] else [Name.simpleName q] := by
  unfold FileHeader.importedNames FileHeader.plainImports
  by_cases hq : ImportDecl.isOnDemand ⟨q, false⟩ = true <;>
    simp [List.filter_append, hq]

theorem headerSound_importClass (hs : HeaderSound index start h) (q : String) :
    HeaderSound index start (importClass index h q) := by
  cases hn : needsImport index h q with
  | false => rwa [importClass_of_not_needed hn]
  | true =>
    rw [importClass_of_needed hn]
    refine ⟨⟨nodup_append_singleton hs.tidy.imports (not_mem_imports_of_needed hn), ?_⟩, ?_⟩
    · rw [importedNames_append_plain]
      split
      · rw [List.append_nil]
        exact hs.tidy.names
      · exact nodup_append_singleton hs.tidy.names (not_mem_importedNames_of_needed hn)
    · intro i hi
      rcases List.mem_append.mp hi with hi | hi
      · exact hs.known i hi
      · rw [List.mem_singleton.mp hi]
        exact .inr ⟨q, rfl, (needsImport_iff.mp hn).1⟩

theorem headerSound_importAll (hs : HeaderSound index start h) (names : List String) :
    HeaderSound index start (importAll index h names) :=
  importAll_induction hs (fun _ q hs' => headerSound_importClass hs' q) names

/-- A static import is only added where a look at the header has shown that it is not there. -/
theorem headerSound_importStatic (hs : HeaderSound index start h) {className member : String}
    (hdot : '.' ∉ member.toList)
    (hfree : h.hasStaticImport (className ++ "." ++ member) = false) :
    HeaderSound index start (importStatic index h className member) := by
  unfold importStatic
  split
  · rename_i hfound
    have hnew : ImportDecl.ofMember className member ∉ h.imports := by
      intro hmem
      have hthere : h.hasStaticImport (className ++ "." ++ member) = true :=
        List.any_eq_true.mpr ⟨_, List.mem_filter.mpr ⟨hmem, rfl⟩, beq_self_eq_true _⟩
      rw [hfree] at hthere
      cases hthere
    refine ⟨⟨nodup_append_singleton hs.tidy.imports hnew, ?_⟩, ?_⟩
    · have hplain : ({ h with
          imports := h.imports ++ [.ofMember className member] } : FileHeader).importedNames =
            h.importedNames := by
        simp [FileHeader.importedNames, FileHeader.plainImports, ImportDecl.ofMember]
      rw [hplain]
      exact hs.tidy.names
    · intro i hi
      rcases List.mem_append.mp hi with hi | hi
      · exact hs.known i hi
      · rw [List.mem_singleton.mp hi]
        exact .inr ⟨className, Name.qualifier?_append className hdot, hfound⟩
  · exact hs

theorem headerSound_importAssertThat (hs : HeaderSound index start h) :
    HeaderSound index start (importAssertThat index h) := by
  unfold importAssertThat
  split
  · exact hs
  · rename_i hmissing
    rw [Bool.or_eq_true, not_or, Bool.not_eq_true] at hmissing
    exact headerSound_importStatic hs (by decide) hmissing.1

theorem headerSound_importMockito (hs : HeaderSound index start h) :
    HeaderSound index start (importMockito index h) := by
  unfold importMockito
  split
  · exact hs
  · rename_i hmissing
    rw [Bool.not_eq_true] at hmissing
    exact headerSound_importStatic hs (by decide) hmissing

end Header

section Fields

variable {c : ClassDecl}

theorem nodup_fieldNames_withFields (h : c.fieldNames.Nodup) {added : List FieldDecl}
    (hadded : (added.map (·.name)).Nodup) (hfree : ∀ n ∈ added.map (·.name), n ∉ c.fieldNames) :
    (c.withFields added).fieldNames.Nodup := by
  rw [ClassDecl.withFields_fieldNames, List.nodup_append]
  exact ⟨h, hadded, fun a ha b hb heq => hfree b hb (heq ▸ ha)⟩

theorem nodup_fieldNames_declareAll (h : c.fieldNames.Nodup) (index : ClassIndex)
    (placement : Placement) (stream : WordStream) (ps : List PlannedField) :
    (c.withFields
      (declareAll index placement stream (fresh c.fieldNames ps)).1).fieldNames.Nodup := by
  apply nodup_fieldNames_withFields h
  · rw [PlannedField.map_name_declareAll]
    exact nodup_firstsBy _ _ ps
  · intro n hn
    rw [PlannedField.map_name_declareAll] at hn
    obtain ⟨p, hp, rfl⟩ := List.mem_map.mp hn
    exact not_mem_taken_of_firstsBy hp

theorem nodup_fieldNames_ownField (h : c.fieldNames.Nodup) (subject : String) :
    (c.withFields (ownField c.fieldNames subject)).fieldNames.Nodup := by
  unfold ownField
  split
  · rwa [ClassDecl.withFields_nil]
  · rename_i hfree
    apply nodup_fieldNames_withFields h
    · exact List.nodup_singleton subjectFieldName
    · intro n hn
      rwa [List.mem_singleton.mp hn]

end Fields

namespace BehaviourDraft

variable {index : ClassIndex} {start : FileHeader} {draft : BehaviourDraft} {name : String}

/-- Header and test class are tidy, and the names of all nested classes count as taken. -/
structure Sound (index : ClassIndex) (start : FileHeader) (draft : BehaviourDraft) : Prop where
  header : HeaderSound index start draft.header
  testClass : draft.testClass.Tidy
  taken : draft.testClass.innerClasses.map (·.name) ⊆ draft.taken

theorem sound_addClass (hs : draft.Sound index start) (hdot : '.' ∉ name.toList) :
    (draft.addClass index name).Sound index start := by
  by_cases htaken : name ∈ draft.taken
  · rwa [addClass_of_taken htaken]
  · rw [addClass_of_free htaken]
    have hnew : (behaviourClass draft.testClass name).name = name :=
      ClassDecl.nestedIn_name draft.testClass hdot
    have hnames : (draft.testClass.innerClasses ++
        [behaviourClass draft.testClass name]).map (·.name) =
          draft.testClass.innerClasses.map (·.name) ++ [name] := by
      rw [List.map_append, List.map_singleton, hnew]
    refine ⟨headerSound_importClass hs.header _, ⟨hs.testClass.fields, ?_, ?_⟩, ?_⟩
    · intro inner hinner
      rcases List.mem_append.mp hinner with hinner | hinner
      · exact hs.testClass.innerFields inner hinner
      · rw [List.mem_singleton.mp hinner]
        exact List.nodup_nil
    · change ((draft.testClass.innerClasses ++
        [behaviourClass draft.testClass name]).map (·.name)).Nodup
      rw [hnames]
      exact nodup_append_singleton hs.testClass.innerClasses fun hmem => htaken (hs.taken hmem)
    · change (draft.testClass.innerClasses ++
        [behaviourClass draft.testClass name]).map (·.name) ⊆ name :: draft.taken
      rw [hnames]
      intro n hn
      rcases List.mem_append.mp hn with hn | hn
      · exact List.mem_cons_of_mem _ (hs.taken hn)
      · rw [List.mem_singleton.mp hn]
        exact List.mem_cons_self

theorem sound_addParameters (hs : draft.Sound index start) (name : String)
    (params : List Parameter) : (draft.addParameters index name params).Sound index start := by
  cases hinner : draft.testClass.innerClass? name with
  | none => rwa [addParameters_of_none hinner]
  | some inner =>
    rw [addParameters_eq hinner]
    have hfields := hs.testClass.innerFields inner (ClassDecl.mem_of_innerClass? hinner)
    have hfilled := nodup_fieldNames_declareAll hfields index .nested draft.stream
      (plan index (params.map .ofParameter))
    have hname (added : List FieldDecl) : (inner.withFields added).name = name := by
      rw [ClassDecl.withFields_name, ClassDecl.name_of_innerClass? hinner]
    refine ⟨headerSound_importAll hs.header _, ⟨hs.testClass.fields, ?_, ?_⟩, ?_⟩
    · intro inner' hinner'
      rcases mem_replaceNamed hinner' with rfl | hold
      · exact hfilled
      · exact hs.testClass.innerFields inner' hold
    · change (List.map (·.name) (replaceNamed name _ draft.testClass.innerClasses)).Nodup
      rw [map_name_replaceNamed (hname _)]
      exact hs.testClass.innerClasses
    · change List.map (·.name) (replaceNamed name _ draft.testClass.innerClasses) ⊆ draft.taken
      rw [map_name_replaceNamed (hname _)]
      exact hs.taken

theorem sound_foldl_addBehaviour (hs : draft.Sound index start) {ms : List MethodDecl}
    (hdots : ∀ m ∈ ms, '.' ∉ m.name.toList) :
    (ms.foldl (·.addBehaviour index) draft).Sound index start := by
  induction ms generalizing draft with
  | nil => exact hs
  | cons m ms ih =>
    have hdot := Name.dot_not_mem_behaviourClass (hdots m List.mem_cons_self)
    refine ih ?_ fun m' hm' => hdots m' (List.mem_cons_of_mem _ hm')
    exact sound_addParameters (sound_addClass hs hdot) _ m.params

end BehaviourDraft

/-- The file is tidy, and imports that are not in `start` are about known classes. -/
structure FileSound (index : ClassIndex) (start : FileHeader) (file : SourceFile) : Prop where
  header : HeaderSound index start file.header
  testClass : ∀ place c, file.testPlace? = some (place, c) → c.Tidy

section Steps

variable {index : ClassIndex} {start header : FileHeader} {file : SourceFile} {place : Nat}
  {c d : ClassDecl}

theorem FileSound.update (hplace : file.testPlace? = some (place, c)) (hname : d.name = c.name)
    (hheader : HeaderSound index start header) (hd : d.Tidy) :
    FileSound index start (file.update place header d) := by
  refine ⟨hheader, fun place' c' hplace' => ?_⟩
  rw [SourceFile.testPlace?_update hplace hname] at hplace'
  cases hplace'
  exact hd

theorem fileSound_addRunner (hs : FileSound index start file) :
    FileSound index start (addRunner index file) := by
  rcases addRunner_cases index file with heq | ⟨place, c, hplace, hmarked⟩
  · rwa [heq]
  · rw [addRunner_eq hplace hmarked]
    have hc := hs.testClass place c hplace
    have hmarked : ClassDecl.Tidy { c with annotations := c.annotations ++ [runnerUse] } :=
      ⟨hc.fields, hc.innerFields, hc.innerClasses⟩
    exact .update hplace rfl (headerSound_importAll hs.header _) hmarked

theorem fileSound_addSubjectFields (hs : FileSound index start file) (stream : WordStream) :
    FileSound index start (addSubjectFields index file stream).1 := by
  rcases addSubjectFields_cases index file stream with heq | ⟨place, c, subject, hplace, hsubject⟩
  · rwa [heq]
  · rw [addSubjectFields_eq hplace hsubject]
    dsimp only
    have hc := hs.testClass place c hplace
    have hdeclared := nodup_fieldNames_declareAll hc.fields index .topLevel stream
      (subjectPlan index subject)
    have hall := nodup_fieldNames_ownField hdeclared subject
    rw [ClassDecl.withFields_withFields, c.withFields_fieldNames (Prod.fst _),
      PlannedField.map_name_declareAll] at hall
    refine .update hplace (ClassDecl.withFields_name c _) ?_ ?_
    · exact headerSound_importAll hs.header _
    · exact ⟨hall, hc.innerFields, hc.innerClasses⟩

theorem fileSound_addBehaviours (hs : FileSound index start file)
    (hdots : ∀ entry ∈ index.entries, ∀ m ∈ entry.decl.methods, '.' ∉ m.name.toList)
    (stream : WordStream) : FileSound index start (addBehaviours index file stream).1 := by
  rcases addBehaviours_cases index file stream with heq | ⟨place, c, subject, hplace, hsubject⟩
  · rwa [heq]
  · rw [addBehaviours_of_resolved hplace hsubject]
    have hdots' : ∀ m ∈ subject.methods.filter isBehaviour, '.' ∉ m.name.toList := by
      intro m hm
      obtain ⟨entry, hentry, rfl⟩ := mem_of_subject? hsubject
      exact hdots entry hentry m (List.mem_filter.mp hm).1
    have hstart : (BehaviourDraft.start file.header c stream).Sound index start :=
      ⟨hs.header, hs.testClass place c hplace, List.Subset.refl _⟩
    have hdraft := BehaviourDraft.sound_foldl_addBehaviour hstart hdots'
    have hgrows := grows_behaviourDraft index file.header c subject stream
    refine .update hplace hgrows.testClass.name ?_ hdraft.testClass
    split
    · exact hdraft.header
    · exact headerSound_importClass hdraft.header _

theorem fileSound_addStaticImports (hs : FileSound index start file) :
    FileSound index start (addStaticImports index file) :=
  ⟨headerSound_importMockito (headerSound_importAssertThat hs.header), hs.testClass⟩

theorem fileSound_run (step : Step) (hs : FileSound index start file)
    (hdots : ∀ entry ∈ index.entries, ∀ m ∈ entry.decl.methods, '.' ∉ m.name.toList)
    (stream : WordStream) : FileSound index start (step.run index file stream).1 := by
  cases step with
  | runner => exact fileSound_addRunner hs
  | fields => exact fileSound_addSubjectFields hs stream
  | nested => exact fileSound_addBehaviours hs hdots stream
  | staticImports => exact fileSound_addStaticImports hs

end Steps

/-- Any sequence of steps keeps a file tidy, and every import that it adds is about a class that
the index knows. -/
theorem runEach_keeps_tidy (index : ClassIndex) (runs : List (Step × WordStream))
    (file : SourceFile)
    (hdots : ∀ entry ∈ index.entries, ∀ m ∈ entry.decl.methods, '.' ∉ m.name.toList)
    (htidy : file.Tidy) :
    (runEach index runs file).Tidy ∧
      ∀ i ∈ (runEach index runs file).header.imports, i ∈ file.header.imports ∨
        ∃ name, i.className? = some name ∧ (index.find? name .all).isSome = true := by
  have hstart : FileSound index file.header file :=
    ⟨⟨htidy.header, fun _ hi => .inl hi⟩,
      fun _ c hplace => htidy.testClass c (SourceFile.testClass?_eq hplace)⟩
  have hsound := runEach_induction (P := FileSound index file.header)
    (fun step _ stream hs => fileSound_run step hs hdots stream) runs hstart
  refine ⟨⟨hsound.header.tidy, fun c hc => ?_⟩, hsound.header.known⟩
  obtain ⟨⟨place, _⟩, hplace, rfl⟩ := Option.map_eq_some_iff.mp hc
  exact hsound.testClass place _ hplace

theorem cartTest_tidy : cartTest.Tidy := by
  refine ⟨⟨List.nodup_nil, List.nodup_nil⟩, fun c hc => ?_⟩
  obtain rfl : { name := "CartTest", qualifiedName := "shop.CartTest" } = c :=
    Option.some.inj hc
  exact ⟨List.nodup_nil, fun _ hinner => (nomatch hinner), List.nodup_nil⟩

theorem runEach_keeps_tidy_cartTest :
    cartTest.Tidy ∧
      (∀ entry ∈ cartIndex.entries, ∀ m ∈ entry.decl.methods, '.' ∉ m.name.toList) ∧
      (runEach cartIndex [(.nested, .ofSeed 3), (.fields, .ofSeed 4)] cartTest).Tidy :=
  ⟨cartTest_tidy, cartIndex_dotless,
    (runEach_keeps_tidy cartIndex _ cartTest cartIndex_dotless cartTest_tidy).1⟩

end Scaffold

end MockScaffold
