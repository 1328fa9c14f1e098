import MockScaffold.Json.Printer
import MockScaffold.Settings.Basic

namespace MockScaffold.Settings

def describedAs (text : String) : String × Json :=
  ("description", .string text)

def defaultsTo (value : Json) : String × Json :=
  ("default", value)

def typed (name : String) : String × Json :=
  ("type", .string name)

def closedObject (properties : List (String × Json)) : List (String × Json) :=
  [typed "object", ("properties", .object properties), ("additionalProperties", .bool false)]

def sectionSchema (definition : String) (description : Option String)
    (default : List (String × Json)) : Json :=
  .object <|
    (description.map describedAs).toList ++
      [defaultsTo (.object default),
        ("allOf", .array [.object [("$ref", .string ("#/definitions/" ++ definition))]])]

def schemaDescription : String :=
  "Root configuration, loaded from `testgen.toml`.\n\n```toml [logging] level = \"debug\"\n\n" ++
    "[generation] seed = 42\n\n[action] file_suffix = \"Test.java\"\n\n[index] lombok = true ```"

def actionSchema : Json :=
  .object <| closedObject
    [("file_suffix", .object
      [describedAs "File name suffix that enables generation.", defaultsTo (.string "Test.java"),
        typed "string", ("minLength", .number "1")])]

def generationSchema : Json :=
  .object <| closedObject
    [("seed", .object
      [describedAs "Seed for generated constant values. Unset means a fresh seed per run.",
        defaultsTo .null, ("type", Json.strings ["integer", "null"]), ("format", .string "uint64"),
        ("minimum", .number "0.0")])]

def indexSchema : Json :=
  .object <| closedObject
    [("lombok", .object
      [describedAs "Expand Lombok accessor annotations on project classes.",
        defaultsTo (.bool true), typed "boolean"])]

def loggingSchema : Json :=
  .object <| closedObject
    [("json", .object
      [describedAs "Emit logs in JSON format.", defaultsTo (.bool false), typed "boolean"]),
      ("level", .object
        [describedAs
            "Logging level for all testgen crates, or a full `EnvFilter` directive string.",
          defaultsTo (.string "warn"), typed "string"]),
      ("stderr", .object
        [describedAs "Write logs to stderr. When disabled, log events are dropped.",
          defaultsTo (.bool true), typed "boolean"])]

def schema : Json :=
  .object
    [("$schema", .string "http://json-schema.org/draft-07/schema#"),
      ("title", .string "TestgenConfig"),
      describedAs schemaDescription,
      typed "object",
      ("properties", .object
        [("action", sectionSchema "ActionConfig"
            (some "When the generate action is offered.")
            [("file_suffix", .string "Test.java")]),
          ("generation", sectionSchema "GenerationConfig"
            (some "Literal value generation.") [("seed", .null)]),
          ("index", sectionSchema "IndexConfig"
            (some "Symbol index construction.") [("lombok", .bool true)]),
          ("logging", sectionSchema "LoggingConfig" none
            [("json", .bool false), ("level", .string "warn"), ("stderr", .bool true)])]),
      ("additionalProperties", .bool false),
      ("definitions", .object
        [("ActionConfig", actionSchema), ("GenerationConfig", generationSchema),
          ("IndexConfig", indexSchema), ("LoggingConfig", loggingSchema)])]

def schemaText : String :=
  schema.pretty ++ "\n"

end MockScaffold.Settings
