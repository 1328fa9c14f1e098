import MockScaffold.Command.Arguments

namespace MockScaffold.Command

structure GenerateArgs where
  project : String
  file : String
  json : Bool
  output : Option String
  seed : Option UInt64
  force : Bool
  deriving DecidableEq, Repr

inductive Action where
  | generate (args : GenerateArgs)
  | render (file : String) (output : Option String)
  | schema
  deriving DecidableEq, Repr

structure CommandSpec where
  name : String
  about : String
  options : List OptionSpec
  place : Option (String × String) := none
  deriving DecidableEq, Repr

/-- A command line that is not understood is `unknown`, and help is for one command or for all. -/
inductive Invocation where
  | version
  | help (command : Option CommandSpec)
  | unknown
  | run (config : Option String) (action : Action)
  deriving DecidableEq, Repr

def configOption : OptionSpec where
  name := "config"
  kind := .path
  about :=
    "Config file (defaults to `TESTGEN_CONFIG_PATH` or `testgen.toml` in the current directory)"

def outputOption : OptionSpec where
  name := "output"
  letter := some 'o'
  kind := .path
  about := "Write to this path instead of stdout"

def helpOption : OptionSpec where
  name := "help"
  letter := some 'h'
  about := "Print help"

def versionOption : OptionSpec where
  name := "version"
  letter := some 'V'
  about := "Print version"

def modelFile : String × String :=
  ("<FILE>", "Test file model JSON")

def generateCommand : CommandSpec where
  name := "generate"
  about := "Add mocks, constants, nested classes and imports to a test file model"
  options :=
    [configOption,
      { name := "project"
        kind := .path
        isRequired := true
        about := "Project model JSON (`\x7b \"classes\": [...], \"libraries\": [...] \x7d`)" },
      { name := "json", about := "Emit the updated model and a summary as JSON" },
      outputOption,
      { name := "seed"
        kind := .number
        about := "Seed for generated constant values (overrides `generation.seed`)" },
      { name := "force"
        about := "Generate even when the file name does not match `action.file_suffix`" },
      helpOption]
  place := some modelFile

def renderCommand : CommandSpec where
  name := "render"
  about := "Print a test file model as Java source without changing it"
  options := [configOption, outputOption, helpOption]
  place := some modelFile

def schemaCommand : CommandSpec where
  name := "schema"
  about := "Print the JSON schema of `testgen.toml`"
  options := [configOption, helpOption]

def helpCommand : CommandSpec where
  name := "help"
  about := "Print this message or the help of the given subcommand(s)"
  options := []
  place := some ("[COMMAND]...", "Print help for the subcommand(s)")

def commands : List CommandSpec :=
  [generateCommand, renderCommand, schemaCommand, helpCommand]

/-- Whether each option is given once at most, all values are allowed, and there is a place for
them. -/
def CommandSpec.isProper (command : CommandSpec) (given : List Given) : Bool :=
  let once (spec : OptionSpec) :=
    let values := valuesOf given spec.name
    values.length ≤ 1 && values.all (spec.kind.allows ·)
  let places := if command.place.isSome then 1 else 0
  command.options.all once && (positionals given).length ≤ places &&
    (positionals given).all (OptionKind.path.allows ·)

def onlyFile? (given : List Given) : Option String :=
  match positionals given with
  | [file] => path? file
  | _ => none

def generateAction? (given : List Given) : Option Action := do
  let project ← (← single? path? given "project")
  let file ← onlyFile? given
  let json ← flag? given "json"
  let output ← single? path? given "output"
  let seed ← single? seed? given "seed"
  let force ← flag? given "force"
  some (.generate { project, file, json, output, seed, force })

def renderAction? (given : List Given) : Option Action := do
  let file ← onlyFile? given
  let output ← single? path? given "output"
  some (.render file output)

def schemaAction? (given : List Given) : Option Action :=
  if (positionals given).isEmpty then some .schema else none

/-- The arguments after the name of a command, where its own `--config` wins over one before it
and help is given as soon as it is asked for, if all is well up to there. -/
def subcommand (config : Option String) (command : CommandSpec)
    (action? : List Given → Option Action) (args : List String) : Invocation :=
  match readArguments? command.options args with
  | none => .unknown
  | some given =>
    if !command.isProper given then .unknown
    else if Given.help ∈ given then .help (some command)
    else
      let parsed := do
        let own ← single? path? given "config"
        some (Invocation.run (own.or config) (← action? given))
      parsed.getD .unknown

def helpFor : List String → Invocation
  | [] => .help none
  | [name] =>
    match commands.find? (·.name == name) with
    | some command => .help (some command)
    | none => .unknown
  | _ => .unknown

def readFrom (config : Option String) : List String → Invocation
  | [] => .unknown
  | "generate" :: rest => subcommand config generateCommand generateAction? rest
  | "render" :: rest => subcommand config renderCommand renderAction? rest
  | "schema" :: rest => subcommand config schemaCommand schemaAction? rest
  | "help" :: rest => helpFor rest
  | arg :: rest =>
    if arg == "--version" || ['-', 'V'].isPrefixOf arg.toList then .version
    else if asksForHelp arg.toList then .help none
    else
      match optionOf? [configOption] arg.toList, config, rest with
      | some (_, some value), none, rest =>
        match path? (String.ofList value) with
        | some path => readFrom (some path) rest
        | none => .unknown
      | some (_, none), none, value :: rest =>
        match path? value with
        | some path => if looksLikeValue value.toList then readFrom (some path) rest else .unknown
        | none => .unknown
      | _, _, _ => .unknown

def Invocation.ofArgs (args : List String) : Invocation :=
  readFrom none args

def programAbout : String :=
  "Mockito/JUnit 5 test scaffolding generator"

def OptionSpec.written (spec : OptionSpec) : String :=
  "--" ++ spec.name ++
    if spec.takesValue then " <" ++ spec.name.map Char.toUpper ++ ">" else ""

def OptionSpec.label (spec : OptionSpec) : String :=
  match spec.letter with
  | some letter => "-" ++ letter.toString ++ ", " ++ spec.written
  | none => "    " ++ spec.written

def padded (width : Nat) (text : String) : String :=
  text ++ String.ofList (List.replicate (width - text.length) ' ')

def table (heading : String) (rows : List (String × String)) : String :=
  let width := rows.foldl (fun n (label, _) => max n label.length) 0
  let line (label about : String) := "  " ++ padded width label ++ "  " ++ about ++ "\n"
  if rows.isEmpty then ""
  else "\n" ++ heading ++ ":\n" ++ String.join (rows.map fun (label, about) => line label about)

def optionTable (options : List OptionSpec) : String :=
  table "Options" (options.map fun spec => (spec.label, spec.about))

def CommandSpec.usage (command : CommandSpec) : String :=
  " ".intercalate <|
    [command.name] ++ (if command.options.isEmpty then [] else ["[OPTIONS]"]) ++
      (command.options.filter (·.isRequired)).map (·.written) ++ command.place.toList.map (·.1)

def helpText (command : Option CommandSpec) : String :=
  let page (about usage tables : String) :=
    about ++ "\n\nUsage: testgen " ++ usage ++ "\n" ++ tables
  match command with
  | none =>
    page programAbout "[OPTIONS] <COMMAND>" <|
      table "Commands" (commands.map fun c => (c.name, c.about)) ++
        optionTable [configOption, helpOption, versionOption]
  | some c =>
    page c.about c.usage (table "Arguments" c.place.toList ++ optionTable c.options)

end MockScaffold.Command
