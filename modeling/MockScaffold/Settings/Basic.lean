import MockScaffold.Text.Letter
import MockScaffold.Toml.Parser

namespace MockScaffold

structure LogSettings where
  level : String := "warn"
  json : Bool := false
  stderr : Bool := true
  deriving DecidableEq, Repr

structure Settings where
  log : LogSettings := {}
  seed : Option UInt64 := none
  fileSuffix : String := "Test.java"
  lombok : Bool := true
  deriving DecidableEq, Repr

inductive SettingsFault where
  | unreadable
  | malformed
  | emptyFileSuffix
  deriving DecidableEq, Repr

def SettingsFault.message? : SettingsFault → Option String
  | emptyFileSuffix => some "invalid config value for `action.file_suffix`: must not be empty"
  | unreadable | malformed => none

namespace Settings

open Toml (Item Entries withDefault?)

def logSettings? (item : Item) : Option LogSettings := do
  let entries ← item.record? ["level", "json", "stderr"]
  let level ← withDefault? Item.string? "warn" entries "level"
  let json ← withDefault? Item.boolean? false entries "json"
  let stderr ← withDefault? Item.boolean? true entries "stderr"
  some { level, json, stderr }

def seed? (item : Item) : Option (Option UInt64) :=
  match item.integer? with
  | some (.ofNat n) => some (some (UInt64.ofNat n))
  | _ => none

def generationSeed? (item : Item) : Option (Option UInt64) := do
  withDefault? seed? none (← item.record? ["seed"]) "seed"

def actionSuffix? (item : Item) : Option String := do
  withDefault? Item.string? "Test.java" (← item.record? ["file_suffix"]) "file_suffix"

def indexLombok? (item : Item) : Option Bool := do
  withDefault? Item.boolean? true (← item.record? ["lombok"]) "lombok"

def ofToml? (root : Entries) : Option Settings := do
  let sections ← (Item.inlineTable root).record? ["logging", "generation", "action", "index"]
  let log ← withDefault? logSettings? {} sections "logging"
  let seed ← withDefault? generationSeed? none sections "generation"
  let fileSuffix ← withDefault? actionSuffix? "Test.java" sections "action"
  let lombok ← withDefault? indexLombok? true sections "index"
  some { log, seed, fileSuffix, lombok }

/-- Settings from a document; a file suffix has to be there. -/
def parse (text : String) : Except SettingsFault Settings :=
  match (Toml.parse? text).bind ofToml? with
  | none => .error .malformed
  | some settings =>
    if (Text.trim settings.fileSuffix.toList).isEmpty then .error .emptyFileSuffix
    else .ok settings

def load (content : Option String) : Except SettingsFault Settings :=
  match content with
  | none => .error .unreadable
  | some text => parse text

end Settings

end MockScaffold
