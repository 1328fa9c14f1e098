import MockScaffold.Model.Encoding
import MockScaffold.Scaffold.Behaviours
import MockScaffold.Scaffold.Imports
import MockScaffold.Scaffold.Synthesis

namespace MockScaffold.Scaffold

open Seeded (WordStream)

inductive Step where
  | runner
  | fields
  | nested
  | staticImports
  deriving DecidableEq, Repr

def Step.run (step : Step) (index : ClassIndex) (file : SourceFile) (stream : WordStream) :
    SourceFile × WordStream :=
  match step with
  | runner => (addRunner index file, stream)
  | fields => addSubjectFields index file stream
  | nested => addBehaviours index file stream
  | staticImports => (addStaticImports index file, stream)

def runSteps (index : ClassIndex) : List Step → SourceFile → WordStream → SourceFile × WordStream
  | [], file, stream => (file, stream)
  | step :: steps, file, stream =>
    let (file, stream) := step.run index file stream
    runSteps index steps file stream

def allSteps : List Step :=
  [.runner, .fields, .nested, .staticImports]

structure Summary where
  importsAdded : Nat
  annotationsAdded : Nat
  fieldsAdded : Nat
  nestedClassesAdded : Nat
  deriving DecidableEq, Repr

namespace Summary

def between (before after : Tally) : Summary where
  importsAdded := after.imports - before.imports
  annotationsAdded := after.annotations - before.annotations
  fieldsAdded := after.fields - before.fields
  nestedClassesAdded := after.classes - before.classes

def isEmpty (s : Summary) : Bool :=
  s == ⟨0, 0, 0, 0⟩

end Summary

/-- All steps over one stream of random words. -/
def generate (index : ClassIndex) (seed : UInt64) (file : SourceFile) : SourceFile × Summary :=
  let result := (runSteps index allSteps file (.ofSeed seed)).1
  (result, .between file.tally result.tally)

def isOffered (fileName ending : String) : Bool :=
  Text.endsWith fileName ending

def Summary.toJson (s : Summary) : Json :=
  .object
    [("imports_added", .ofNat s.importsAdded), ("annotations_added", .ofNat s.annotationsAdded),
      ("fields_added", .ofNat s.fieldsAdded),
      ("nested_classes_added", .ofNat s.nestedClassesAdded)]

def report (summary : Summary) (file : SourceFile) : Json :=
  .object [("summary", summary.toJson), ("file", file.toJson)]

end MockScaffold.Scaffold
