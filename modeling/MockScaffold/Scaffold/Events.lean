import MockScaffold.Log.Event
import MockScaffold.Scaffold.Behaviours
import MockScaffold.Scaffold.Imports
import MockScaffold.Scaffold.Synthesis

namespace MockScaffold.Scaffold

open ClassIndex (superNames)

def codegenEvent (level : LogLevel) (message : String) (fields : List String) : LogEvent :=
  { target := "testgen.codegen", level, message, fields }

def variableEvents (index : ClassIndex) (v : Variable) : List LogEvent :=
  if v.isStatic then []
  else
    match classify index v.type with
    | .collection (some element) =>
      if isValueType index element || isOpen index element then []
      else
        [codegenEvent .trace "skipping collection of final elements" ["variable", "element"]]
    | .collection none =>
      [codegenEvent .debug "collection element type unknown" ["variable", "ty"]]
    | .unsupported => [codegenEvent .trace "skipping final type" ["variable", "ty"]]
    | .value | .mockable => []

/-- Logged for a super type that cannot be found, once. -/
def superTypeEvents (index : ClassIndex) (c : ClassDecl) : List LogEvent :=
  let names := ((index.hierarchy c).flatMap superNames).eraseDups
  (names.filter fun name => (index.find? name .all).isNone).map fun _ =>
    { target := "testgen.index", level := .trace, message := "unresolved super type",
      fields := ["class", "super_type"] }

def importEvents (index : ClassIndex) (h : FileHeader) (qualified : String) : List LogEvent :=
  if (index.find? qualified .all).isNone then
    [codegenEvent .debug "import target not found" ["class"]]
  else if isInScope h qualified || h.importsClass qualified then []
  else [codegenEvent .debug "simple name already imported for another class" ["class"]]

def wantedByFields (fields : List FieldDecl) : List String :=
  let mocks := fields.filter (·.isMarkedWith Known.mock)
  let constants := fields.filter (·.initializer.isSome)
  (mocks ++ constants).flatMap (·.type.classNames) ++ if mocks.isEmpty then [] else [Known.mock]

def runnerEvents (index : ClassIndex) (before : ClassDecl) (h : FileHeader) : List LogEvent :=
  if before.isMarkedWith Known.extendWith then
    [codegenEvent .trace "runner already configured" ["class"]]
  else [Known.mockitoExtension, Known.extendWith].flatMap (importEvents index h)

/-- Logged for the fields of a class under test; `added` are those of the test class. -/
def standInEvents (index : ClassIndex) (subject : Option ClassDecl) (h : FileHeader)
    (added : List FieldDecl) : List LogEvent :=
  match subject with
  | none => [codegenEvent .debug "class under test not found" ["subject"]]
  | some c =>
    superTypeEvents index c ++
      (index.allFields c).flatMap (fun f => variableEvents index (.ofField f)) ++
      (wantedByFields added).flatMap (importEvents index h) ++
      [codegenEvent .debug "stand-ins for the subject's fields" ["subject", "mocks", "constants"]]

def subjectEvents (index : ClassIndex) (before after : ClassDecl) (h : FileHeader) :
    List LogEvent :=
  match Text.withoutEnding? before.qualifiedName "Test" with
  | none => [codegenEvent .debug "test class name has no `Test` suffix" ["class"]]
  | some subject =>
    let wanted := if (index.find? subject .project).isSome then [subject] else []
    standInEvents index (index.find? subject .all) h (after.fields.drop before.fields.length) ++
      (Known.injectMocks :: wanted).flatMap (importEvents index h)

/-- The fields that nested classes have more than before; a new class had none. -/
def addedInnerFields (before after : ClassDecl) : List FieldDecl :=
  after.innerClasses.zipIdx.flatMap fun (inner, place) =>
    inner.fields.drop ((before.innerClasses[place]?.map (·.fields.length)).getD 0)

def behaviourParameters (subject after : ClassDecl) : List Parameter :=
  (subject.methods.filter fun m =>
    isBehaviour m && (after.innerClass? (Name.behaviourClass m.name)).isSome).flatMap (·.params)

def behaviourEvents (index : ClassIndex) (before after : ClassDecl) (h : FileHeader) :
    List LogEvent :=
  match subjectName? before.qualifiedName with
  | none => [codegenEvent .debug "no known test class suffix" ["class"]]
  | some name =>
    match index.find? name .all with
    | none => [codegenEvent .debug "class under test not found" ["subject"]]
    | some subject =>
      let isNew := before.innerClasses.length < after.innerClasses.length
      let wanted := if isNew then [Known.beforeEach, Known.nested] else []
      (behaviourParameters subject after).flatMap
          (fun p => variableEvents index (.ofParameter p)) ++
        (wanted ++ wantedByFields (addedInnerFields before after)).flatMap
          (importEvents index h) ++
        [codegenEvent .debug "nested test classes" ["subject", "created"]]

def stepEvents (index : ClassIndex) (before after : SourceFile) : List LogEvent :=
  match before.testClass?, after.testClass? with
  | some c, some d =>
    runnerEvents index c after.header ++ subjectEvents index c d after.header ++
      behaviourEvents index c d after.header
  | _, _ => []

def generationSpan (file : SourceFile) : LogSpan where
  target := "testgen.codegen"
  name := "generate"
  fields := [("file", file.name)]

def events (index : ClassIndex) (before after : SourceFile) : List LogEvent :=
  let summary := codegenEvent .info "scaffolding generated"
    ["imports", "annotations", "fields", "nested_classes"]
  (stepEvents index before after ++ [summary]).map fun event =>
    { event with span := some (generationSpan before) }

end MockScaffold.Scaffold
