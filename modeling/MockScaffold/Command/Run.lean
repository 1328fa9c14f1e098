import MockScaffold.Command.Invocation
import MockScaffold.Index.Builtin
import MockScaffold.Json.Printer
import MockScaffold.Layout.Printer
import MockScaffold.Model.Loading
import MockScaffold.Scaffold.Events
import MockScaffold.Scaffold.Report
import MockScaffold.Settings.Discovery
import MockScaffold.Settings.LogFilter
import MockScaffold.Settings.Schema

namespace MockScaffold.Command

/-- Members that Lombok makes are seen if `lombok` is set. -/
structure Generation where
  project : ProjectModel
  lombok : Bool
  seed : UInt64
  file : SourceFile
  deriving Repr

namespace Generation

def index (g : Generation) : ClassIndex :=
  ClassIndex.builtin.extend g.project g.lombok

def result (g : Generation) : SourceFile × Scaffold.Summary :=
  Scaffold.generate g.index g.seed g.file

def text (g : Generation) (asJson : Bool) : String :=
  let (file, summary) := g.result
  if asJson then (Scaffold.report summary file).pretty ++ "\n" else Layout.render {} file

def indexEvents (g : Generation) : List LogEvent :=
  let expanded :=
    if g.lombok then g.project.classes.filter fun c => Lombok.addedCount c > 0 else []
  (expanded.map fun _ =>
    { target := "testgen.index", level := .debug, message := "expanded lombok members",
      fields := ["class", "generated"] }) ++
  [{ target := "testgen.index", level := .debug, message := "loaded project model",
     fields := ["project_classes", "library_classes", "indexed"] },
   { target := "testgen.cli", level := .debug, message := "symbol index ready",
     fields := ["classes"] }]

def events (g : Generation) : List LogEvent :=
  g.indexEvents ++ Scaffold.events g.index g.file g.result.1

end Generation

/-- What can go wrong, with the path that was at fault. -/
inductive Failure where
  | usage
  | settings (path : String)
  | workspaceSettings (root : String)
  | testFile (path : String)
  | refused (name ending : String)
  | project (path : String)
  | output (path : String)
  deriving DecidableEq, Repr

namespace Failure

def message : Failure → String
  | usage => "usage"
  | settings path => "failed to load config " ++ path
  | workspaceSettings root => "failed to load config for " ++ root
  | testFile path => "failed to load test file model " ++ path
  | refused name ending =>
    "testgen: `" ++ name ++ "` does not end with `" ++ ending ++
      "`; pass --force to generate anyway\n"
  | project path => "failed to load project model " ++ path
  | output path => "failed to write " ++ path

def code : Failure → UInt32
  | refused _ _ => 1
  | _ => 2

end Failure

structure Environment where
  settingsPath : Option String := none
  logDirectives : Option String := none
  deriving DecidableEq, Repr

/-- The exit code, what goes to the two output streams, the file that is written, and what is logged
before all that. -/
structure Outcome where
  code : UInt32 := 0
  stdout : String := ""
  stderr : String := ""
  written : Option (String × String) := none
  log : List LogEvent := []
  deriving DecidableEq, Repr

def Outcome.errorText (outcome : Outcome) : String :=
  String.join (outcome.log.map (·.line ++ "\n")) ++ outcome.stderr

/-- A failed command says why, and does nothing else. -/
def Outcome.ofFailure (failure : Failure) : Outcome :=
  { code := failure.code, stderr := failure.message }

def Outcome.ofResult : Except Failure Outcome → Outcome
  | .ok outcome => outcome
  | .error failure => .ofFailure failure

def versionText : String :=
  "testgen 0.1.0\n"

def loadSettings (ws : Workspace) (fromEnvironment explicit : Option String) :
    Except Failure Settings :=
  match explicit with
  | some path => (Settings.load (ws.text? path)).mapError fun _ => .settings path
  | none =>
    match Settings.ofWorkspace ws fromEnvironment with
    | .ok (settings, _) => .ok settings
    | .error _ => .error (.workspaceSettings ws.root)

def loadTestFile (ws : Workspace) (path : String) : Except Failure SourceFile :=
  (SourceFile.load (ws.text? path)).mapError fun _ => .testFile path

def loadProject (ws : Workspace) (path : String) : Except Failure ProjectModel :=
  (ProjectModel.load (ws.text? path)).mapError fun _ => .project path

def emit (ws : Workspace) (output : Option String) (text : String) : Except Failure Outcome :=
  match output with
  | none => .ok { stdout := text }
  | some path =>
    if ws.accepts path then .ok { written := some (path, text) } else .error (.output path)

/-- The name of the test file is looked at before the project. -/
def loadGeneration (ws : Workspace) (settings : Settings) (freshSeed : UInt64)
    (args : GenerateArgs) : Except Failure Generation := do
  let file ← loadTestFile ws args.file
  if !args.force && !Scaffold.isOffered file.name settings.fileSuffix then
    throw (.refused file.name settings.fileSuffix)
  let project ← loadProject ws args.project
  let seed := (args.seed.or settings.seed).getD freshSeed
  return { project, lombok := settings.lombok, seed, file }

def generate (ws : Workspace) (settings : Settings) (freshSeed : UInt64) (args : GenerateArgs) :
    Except Failure Outcome := do
  let generation ← loadGeneration ws settings freshSeed args
  emit ws args.output (generation.text args.json)

def render (ws : Workspace) (path : String) (output : Option String) : Except Failure Outcome := do
  let file ← loadTestFile ws path
  emit ws output (Layout.render {} file)

def perform (ws : Workspace) (settings : Settings) (freshSeed : UInt64) (action : Action) :
    Except Failure Outcome :=
  match action with
  | .generate args => generate ws settings freshSeed args
  | .render file output => render ws file output
  | .schema => .ok { stdout := Settings.schemaText }

def started : LogEvent where
  target := "testgen.config"
  level := .debug
  message := "tracing initialized"
  fields := ["level", "json"]

def events (ws : Workspace) (settings : Settings) (freshSeed : UInt64) (action : Action) :
    List LogEvent :=
  match action with
  | .generate args =>
    match loadGeneration ws settings freshSeed args with
    | .ok generation => started :: generation.events
    | .error _ => [started]
  | .render _ _ | .schema => [started]

/-- The settings are loaded first, whatever the action, and nothing is logged before. -/
def runAction (ws : Workspace) (environment : Environment) (freshSeed : UInt64)
    (config : Option String) (action : Action) : Outcome :=
  match loadSettings ws environment.settingsPath config with
  | .error failure => .ofFailure failure
  | .ok settings =>
    { Outcome.ofResult (perform ws settings freshSeed action) with
      log := settings.log.shown environment.logDirectives (events ws settings freshSeed action) }

/-- The seed is used if neither the arguments nor the settings give one. -/
def run (ws : Workspace) (environment : Environment) (freshSeed : UInt64) (args : List String) :
    Outcome :=
  match Invocation.ofArgs args with
  | .version => { stdout := versionText }
  | .help command => { stdout := helpText command }
  | .unknown => .ofFailure .usage
  | .run config action => runAction ws environment freshSeed config action

def pathsRead (root : String) (settingsPath : Option String) (args : List String) : List String :=
  let absolute (path : String) := if Text.startsWith path "/" then path else root ++ "/" ++ path
  match Invocation.ofArgs args with
  | .version | .help _ | .unknown => []
  | .run config action =>
    let settings := match config, settingsPath with
      | some path, _ => [path]
      | none, some path => [absolute path]
      | none, none => Settings.fileNames.map absolute
    settings ++ match action with
      | .generate args => [args.file, args.project]
      | .render file _ => [file]
      | .schema => []

end MockScaffold.Command
