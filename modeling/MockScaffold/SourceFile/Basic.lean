import MockScaffold.Decl.Class
import MockScaffold.Name.Qualified
import MockScaffold.Text.Affix

namespace MockScaffold

/-- The path of a static import ends in the member. -/
structure ImportDecl where
  path : String
  isStatic : Bool := false
  deriving DecidableEq, Repr

namespace ImportDecl

def ofMember (className member : String) : ImportDecl :=
  ⟨className ++ "." ++ member, true⟩

def isOnDemand (i : ImportDecl) : Bool :=
  Text.endsWith i.path ".*"

def covers (i : ImportDecl) (qualified : String) : Bool :=
  !i.isStatic &&
    (i.path == qualified ||
      match Text.withoutEnding? i.path ".*", Name.qualifier? qualified with
      | some package, some owner => package == owner
      | _, _ => false)

end ImportDecl

structure FileHeader where
  package : Option String := none
  imports : List ImportDecl := []
  deriving DecidableEq, Repr

namespace FileHeader

def plainImports (h : FileHeader) : List ImportDecl :=
  h.imports.filter (!·.isStatic)

def staticImports (h : FileHeader) : List ImportDecl :=
  h.imports.filter (·.isStatic)

def hasStaticImport (h : FileHeader) (path : String) : Bool :=
  h.staticImports.any (·.path == path)

def importsClass (h : FileHeader) (qualified : String) : Bool :=
  h.plainImports.any (·.covers qualified)

def singleImportsNamed (h : FileHeader) (simple : String) : List ImportDecl :=
  h.plainImports.filter fun i => !i.isOnDemand && Name.simpleName i.path == simple

end FileHeader

structure SourceFile where
  name : String
  header : FileHeader := {}
  classes : List ClassDecl := []
  deriving Repr

structure Tally where
  imports : Nat
  annotations : Nat
  fields : Nat
  methods : Nat
  classes : Nat
  deriving DecidableEq, Repr

namespace SourceFile

def baseName (path : List Char) : List Char :=
  (path.reverse.takeWhile fun c => c != '/' && c != '\\').reverse

def stem (file : SourceFile) : String :=
  let base := String.ofList (baseName file.name.toList)
  (Text.withoutEnding? base ".java").getD base

/-- The place of the class named after the file, or else of the first class. -/
def testIndex? (file : SourceFile) : Option Nat :=
  (file.classes.findIdx? (·.name == file.stem)).or (if file.classes.isEmpty then none else some 0)

def testPlace? (file : SourceFile) : Option (Nat × ClassDecl) :=
  file.testIndex?.bind fun place => (file.classes[place]?).map (place, ·)

def testClass? (file : SourceFile) : Option ClassDecl :=
  file.testPlace?.map (·.2)

/-- Header and unit test class replaced, all else kept. -/
def update (file : SourceFile) (place : Nat) (header : FileHeader) (c : ClassDecl) : SourceFile :=
  { file with header, classes := file.classes.set place c }

def total (count : α → Nat) : List α → Nat
  | [] => 0
  | a :: rest => count a + total count rest

def annotationCount (c : ClassDecl) : Nat :=
  c.annotations.length + total (·.annotations.length) c.fields +
    total (·.annotations.length) c.methods

def tally (file : SourceFile) : Tally :=
  let all := ClassDecl.walkAll file.classes
  { imports := file.header.imports.length
    annotations := total annotationCount all
    fields := total (·.fields.length) all
    methods := total (·.methods.length) all
    classes := all.length }

end SourceFile

end MockScaffold
