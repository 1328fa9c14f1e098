import MockScaffold.Command.Run
import MockScaffold.Proofs.Scaffold.Loadable

namespace MockScaffold.Command

open Scaffold (OfTestClass SubjectReadable BehavioursNamed)

namespace Generation

/-- The file can be held, and what the scaffolding has named can be read back. -/
structure IsReloadable (g : Generation) : Prop where
  depth : g.result.1.toJson.depth ≤ Json.deepest
  subject : OfTestClass (SubjectReadable g.index) g.file
  behaviours : OfTestClass (BehavioursNamed g.index) g.file

variable {g : Generation}

theorem isWritten_index {content : Option String} (h : ProjectModel.load content = .ok g.project) :
    g.index.IsWritten := by
  obtain ⟨hclasses, hlibraries⟩ := ProjectModel.isWritten_of_load h
  exact ClassIndex.isWritten_extend ClassIndex.isWritten_builtin hclasses hlibraries g.lombok

theorem isLoadable_result_iff {fileContent projectContent : Option String}
    (hfile : SourceFile.load fileContent = .ok g.file)
    (hproject : ProjectModel.load projectContent = .ok g.project) :
    g.result.1.IsLoadable ↔ OfTestClass (SubjectReadable g.index) g.file ∧
      OfTestClass (BehavioursNamed g.index) g.file := by
  have hindex := isWritten_index hproject
  have hloadable := SourceFile.isLoadable_of_load hfile
  exact (Scaffold.isLoadable_generate_iff hindex g.seed g.file).trans (and_iff_right hloadable)

theorem text_report (g : Generation) :
    g.text true =
      "\x7b\n  \"summary\": " ++ g.result.2.toJson.prettyAt 1 ++
        ",\n  \"file\": " ++ g.result.1.toJson.prettyAt 1 ++ "\n\x7d\n" := by
  have hstart : "\x7b\n  \"summary\": " =
      "\x7b" ++ Json.newline 1 ++ (Json.quote "summary" ++ ": ") := by decide
  have hmiddle : ",\n  \"file\": " = "," ++ Json.newline 1 ++ (Json.quote "file" ++ ": ") := by
    decide
  have hstop : "\n\x7d\n" = Json.newline 0 ++ "\x7d" ++ "\n" := by decide
  change (Scaffold.report g.result.2 g.result.1).pretty ++ "\n" = _
  rw [hstart, hmiddle, hstop, Json.pretty, Scaffold.report, Json.prettyAt, Json.prettyMembers,
    Json.prettyMembers, Json.prettyMembers, Json.block, if_neg (by simp),
    String.intercalate_cons_cons, String.intercalate_singleton]
  simp only [String.append_assoc]

theorem render_of_load {ws : Workspace} {path : String} {file : SourceFile}
    (h : SourceFile.load (ws.text? path) = .ok file) (output : Option String) :
    render ws path output = emit ws output (Layout.render {} file) := by
  have hload : loadTestFile ws path = .ok file := by
    rw [loadTestFile, h]
    rfl
  rw [render, hload]
  rfl

/-- The file in the report of a generation from a loaded test file and a loaded project, in the
layout of any depth, is loaded as it was exactly under the condition; and rendering it then prints
what the generation prints. -/
theorem reload_iff (g : Generation) (fileContent projectContent : Option String)
    (hfile : SourceFile.load fileContent = .ok g.file)
    (hproject : ProjectModel.load projectContent = .ok g.project) :
    (g.text true = "\x7b\n  \"summary\": " ++ g.result.2.toJson.prettyAt 1 ++
      ",\n  \"file\": " ++ g.result.1.toJson.prettyAt 1 ++ "\n\x7d\n") ∧
    ∀ depth,
      (SourceFile.load (some (g.result.1.toJson.prettyAt depth)) = .ok g.result.1 ↔
        g.IsReloadable) ∧
      (g.IsReloadable → ∀ ws path output,
        ws.text? path = some (g.result.1.toJson.prettyAt depth) →
          render ws path output = emit ws output (g.text false)) := by
  have hiff (depth : Nat) :
      SourceFile.load (some (g.result.1.toJson.prettyAt depth)) = .ok g.result.1 ↔
        g.IsReloadable := by
    rw [SourceFile.load_prettyAt_iff, isLoadable_result_iff hfile hproject]
    exact ⟨fun ⟨hdepth, hsubject, hbehaviours⟩ => ⟨hdepth, hsubject, hbehaviours⟩,
      fun h => ⟨h.depth, h.subject, h.behaviours⟩⟩
  refine ⟨text_report g, fun depth => ⟨hiff depth, fun h ws path output htext => ?_⟩⟩
  apply render_of_load
  rw [htext]
  exact (hiff depth).mpr h

/-- A test class, and a class of its project with a behaviour to test. -/
def cartGeneration : Generation where
  project.classes :=
    [{ name := "Cart"
       qualifiedName := "shop.Cart"
       methods := [{ name := "addItem", params := [⟨"id", .ofClass "java.util.UUID"⟩] }] }]
  lombok := true
  seed := 7
  file.name := "CartTest.java"
  file.classes := [.ofQualifiedName "shop.CartTest"]

theorem cartGeneration_file :
    SourceFile.load (some (cartGeneration.file.toJson.prettyAt 0)) =
      .ok cartGeneration.file := by
  rw [SourceFile.load_prettyAt_iff]
  refine ⟨by decide, List.forall_mem_singleton.mpr ?_⟩
  exact ClassDecl.isLoadable_ofQualifiedName_iff.mpr (by decide)

theorem cartGeneration_project :
    ProjectModel.load (some (cartGeneration.project.toJson.prettyAt 0)) =
      .ok cartGeneration.project := by
  have huuid : TypeRef.IsClassName "java.util.UUID" := ⟨by decide, by decide, by decide, rfl⟩
  rw [ProjectModel.load_prettyAt_iff]
  refine ⟨by decide, List.forall_mem_singleton.mpr ?_⟩
  rw [ClassDecl.isLoadable_iff]
  refine ⟨by decide, by simp, by simp, List.forall_mem_singleton.mpr ⟨?_, by simp⟩, by simp⟩
  exact List.forall_mem_singleton.mpr (TypeRef.isWritten_ofClass huuid)

theorem cartGeneration_isReloadable : cartGeneration.IsReloadable := by
  refine ⟨by decide +kernel, fun c hc subject hsubject _ _ => ?_, fun c hc subject hsubject => ?_⟩
  · cases hc
    have hname : Text.withoutEnding? "shop.CartTest" "Test" = some "shop.Cart" := by decide
    cases hname.symm.trans hsubject
    rfl
  · cases hc
    have hnames := congrArg (Option.map fun s : ClassDecl =>
      (s.methods.filter Scaffold.isBehaviour).map (·.name)) hsubject
    have hcart : (Scaffold.subject? cartGeneration.index
        (.ofQualifiedName "shop.CartTest")).map
          (fun s => (s.methods.filter Scaffold.isBehaviour).map (·.name)) = some ["addItem"] := by
      decide
    rw [hcart] at hnames
    intro m hm
    have hname : m.name ∈ ["addItem"] := by
      rw [Option.some.inj hnames]
      exact List.mem_map_of_mem hm
    rw [List.mem_singleton.mp hname]
    exact .inr (by decide)

theorem reload_iff_cartGeneration :
    SourceFile.load (some (cartGeneration.file.toJson.prettyAt 0)) = .ok cartGeneration.file ∧
      ProjectModel.load (some (cartGeneration.project.toJson.prettyAt 0)) =
        .ok cartGeneration.project ∧
      cartGeneration.IsReloadable ∧
      SourceFile.load (some (cartGeneration.result.1.toJson.prettyAt 1)) =
        .ok cartGeneration.result.1 :=
  ⟨cartGeneration_file, cartGeneration_project, cartGeneration_isReloadable,
    ((reload_iff cartGeneration _ _ cartGeneration_file cartGeneration_project).2 1).1.mpr
      cartGeneration_isReloadable⟩

/-- A test class whose name is the ending that test classes have, so that its subject has none. -/
def bareGeneration : Generation where
  project := {}
  lombok := true
  seed := 7
  file.name := "Test.java"
  file.header.package := some "com.acme"
  file.classes := [.ofQualifiedName "com.acme.Test"]

theorem bareGeneration_file :
    SourceFile.load (some (bareGeneration.file.toJson.prettyAt 0)) =
      .ok bareGeneration.file := by
  rw [SourceFile.load_prettyAt_iff]
  refine ⟨by decide, List.forall_mem_singleton.mpr ?_⟩
  exact ClassDecl.isLoadable_ofQualifiedName_iff.mpr (by decide)

theorem bareGeneration_project :
    ProjectModel.load (some (bareGeneration.project.toJson.prettyAt 0)) =
      .ok bareGeneration.project := by
  rw [ProjectModel.load_prettyAt_iff]
  exact ⟨by decide, fun _ hc => absurd hc List.not_mem_nil⟩

theorem not_isLoadable_bareGeneration : ¬bareGeneration.result.1.IsLoadable := by
  intro hloadable
  obtain ⟨hreadable, -⟩ :=
    (isLoadable_result_iff bareGeneration_file bareGeneration_project).mp hloadable
  have hsubject : Text.withoutEnding? "com.acme.Test" "Test" = some "com.acme." := by decide
  have hplan : Scaffold.subjectPlan bareGeneration.index "com.acme." = [] := by
    have hnone : (bareGeneration.index.find? "com.acme." .all).isNone = true := by
      decide +kernel
    rw [Scaffold.subjectPlan, Option.isNone_iff_eq_none.mp hnone]
  have hparse : TypeRef.parse "com.acme." = .ok (.ofClass "com.acme.") :=
    hreadable (.ofQualifiedName "com.acme.Test") rfl "com.acme." hsubject List.not_mem_nil
      fun p hp => by
        rw [hplan] at hp
        cases hp
  have hmalformed : (TypeRef.parse "com.acme.").toOption.isNone = true := by decide
  rw [hparse] at hmalformed
  cases hmalformed

/-- Not every generated file can be loaded again. -/
theorem not_forall_reload :
    ¬∀ (g : Generation) (fileContent projectContent : Option String),
      SourceFile.load fileContent = .ok g.file →
      ProjectModel.load projectContent = .ok g.project →
        ∀ depth,
          SourceFile.load (some (g.result.1.toJson.prettyAt depth)) = .ok g.result.1 := by
  intro h
  have hload := h bareGeneration _ _ bareGeneration_file bareGeneration_project 0
  exact not_isLoadable_bareGeneration ((SourceFile.load_prettyAt_iff 0).mp hload).2

end Generation

end MockScaffold.Command
