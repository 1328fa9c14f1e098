import MockScaffold.Command.Run

namespace MockScaffold.Main

structure Sight where
  path : String
  node : Option Node
  canonical : Option String

def look (root path : String) : IO Sight := do
  let cwd ← IO.currentDir
  let place := cwd / (if Text.startsWith path "/" then path else root ++ "/" ++ path)
  if !(← place.pathExists) then return ⟨path, none, none⟩
  let canonical ← IO.FS.realPath place
  if ← place.isDir then return ⟨path, some .directory, some canonical.toString⟩
  let bytes ← IO.FS.readBinFile place
  return ⟨path, some (.file (String.fromUTF8? bytes)), some canonical.toString⟩

def lookOrNothing (root path : String) : IO Sight := do
  try look root path catch _ => return ⟨path, none, none⟩

/-- A settings file is read under its canonical path. -/
def ofSights (root : String) (sights : List Sight) : Workspace where
  root := root
  node? path := (sights.find? fun s => s.path == path || s.canonical == some path).bind (·.node)
  canonical? path := (sights.find? (·.path == path)).bind (·.canonical)
  accepts _ := true

/-- Writes the file of an outcome; if that fails, the outcome is a failure. -/
def finish (outcome : Command.Outcome) : IO Command.Outcome := do
  match outcome.written with
  | none => return outcome
  | some (path, text) =>
    try
      IO.FS.writeFile path text
      return outcome
    catch _ => return { Command.Outcome.ofFailure (.output path) with log := outcome.log }

end MockScaffold.Main

open MockScaffold MockScaffold.Main

def main (args : List String) : IO UInt32 := do
  let root := (← IO.currentDir).toString
  let environment : Command.Environment :=
    ⟨← IO.getEnv Settings.pathVariable, ← IO.getEnv LogSettings.variableName⟩
  let sights ← (Command.pathsRead root environment.settingsPath args).mapM (lookOrNothing root)
  let freshSeed ← IO.rand 0 (UInt64.size - 1)
  let outcome ← finish
    (Command.run (ofSights root sights) environment (UInt64.ofNat freshSeed) args)
  IO.print outcome.stdout
  IO.eprint outcome.errorText
  return outcome.code
