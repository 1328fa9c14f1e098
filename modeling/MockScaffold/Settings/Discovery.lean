import MockScaffold.Settings.Basic
import MockScaffold.Workspace.Tree

namespace MockScaffold.Settings

def pathVariable : String := "TESTGEN_CONFIG_PATH"

def fileNames : List String :=
  ["testgen.toml", ".testgen.toml"]

/-- A path from the environment is taken whether or not a file is there. -/
def path? (ws : Workspace) (fromEnvironment : Option String) : Option String :=
  match fromEnvironment with
  | some path => some (ws.canonical (ws.absolute path))
  | none => ((fileNames.map ws.absolute).find? ws.isFile).map ws.canonical

def ofWorkspace (ws : Workspace) (fromEnvironment : Option String) :
    Except SettingsFault (Settings × Option String) :=
  match path? ws fromEnvironment with
  | none => .ok ({}, none)
  | some path => (load (ws.text? path)).map (·, some path)

end MockScaffold.Settings
