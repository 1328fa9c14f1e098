import MockScaffold.Name.Behaviour
import MockScaffold.Scaffold.Synthesis
import MockScaffold.SourceFile.Basic

namespace MockScaffold.Scaffold

open Seeded (WordStream)

def testEndings : List String :=
  ["Test", "IT", "Tests", "ITs", "E2E"]

def subjectName? (testClass : String) : Option String :=
  testEndings.findSome? (Text.withoutEnding? testClass)

/-- Methods whose names begin so are accessors or belong to every object. -/
def plumbingStarts : List String :=
  ["set", "toString", "equals", "canEqual", "hashCode"]

def isBehaviour (m : MethodDecl) : Bool :=
  m.modifiers.visibility != .privateAccess && !m.isConstructor && !m.origin.isGenerated &&
    !plumbingStarts.any (Text.startsWith m.name)

def setupMethod : MethodDecl where
  name := "setup"
  annotations := [{ name := Known.beforeEach }]
  returnType := some .void

def behaviourClass (owner : ClassDecl) (name : String) : ClassDecl :=
  { owner.nestedIn name with
    annotations := [{ name := Known.nested }]
    methods := [setupMethod] }

/-- The test class at work, with its header, the names of nested classes that are taken, the random
words still to come, and how many nested classes were added. -/
structure BehaviourDraft where
  header : FileHeader
  testClass : ClassDecl
  taken : List String
  stream : WordStream
  created : Nat := 0
  deriving Repr

def replaceNamed (name : String) (new : ClassDecl) : List ClassDecl → List ClassDecl
  | [] => []
  | c :: cs => if c.name == name then new :: cs else c :: replaceNamed name new cs

namespace BehaviourDraft

def addClass (index : ClassIndex) (draft : BehaviourDraft) (name : String) : BehaviourDraft :=
  if name ∈ draft.taken then draft
  else
    let c := draft.testClass
    { draft with
      header := importClass index draft.header Known.beforeEach
      testClass := { c with innerClasses := c.innerClasses ++ [behaviourClass c name] }
      taken := name :: draft.taken
      created := draft.created + 1 }

/-- Fields for the parameters, in the first nested class of the name. -/
def addParameters (index : ClassIndex) (draft : BehaviourDraft) (name : String)
    (params : List Parameter) : BehaviourDraft :=
  let c := draft.testClass
  match c.innerClass? name with
  | none => draft
  | some inner =>
    let start : Draft :=
      { header := draft.header, target := inner, taken := inner.fieldNames, stream := draft.stream }
    let filled := start.insertMissing index .nested (params.map .ofParameter)
    { draft with
      header := filled.header
      testClass := { c with innerClasses := replaceNamed name filled.target c.innerClasses }
      stream := filled.stream }

def addBehaviour (index : ClassIndex) (draft : BehaviourDraft) (m : MethodDecl) : BehaviourDraft :=
  let name := Name.behaviourClass m.name
  (draft.addClass index name).addParameters index name m.params

end BehaviourDraft

def addBehaviours (index : ClassIndex) (file : SourceFile) (stream : WordStream) :
    SourceFile × WordStream :=
  match file.testPlace? with
  | none => (file, stream)
  | some (place, c) =>
    match (subjectName? c.qualifiedName).bind (index.find? · .all) with
    | none => (file, stream)
    | some subject =>
      let start : BehaviourDraft :=
        { header := file.header, testClass := c, taken := c.innerClasses.map (·.name), stream }
      let draft := (subject.methods.filter isBehaviour).foldl (·.addBehaviour index) start
      let header :=
        if draft.created = 0 then draft.header else importClass index draft.header Known.nested
      (file.update place header draft.testClass, draft.stream)

end MockScaffold.Scaffold
