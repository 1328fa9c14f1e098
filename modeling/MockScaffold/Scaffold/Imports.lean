import MockScaffold.Index.Basic
import MockScaffold.SourceFile.Basic

namespace MockScaffold.Scaffold.Known

def extendWith : String := "org.junit.jupiter.api.extension.ExtendWith"
def nested : String := "org.junit.jupiter.api.Nested"
def beforeEach : String := "org.junit.jupiter.api.BeforeEach"
def mockitoExtension : String := "org.mockito.junit.jupiter.MockitoExtension"
def mockito : String := "org.mockito.Mockito"
def mock : String := "org.mockito.Mock"
def injectMocks : String := "org.mockito.InjectMocks"
def assertions : String := "org.assertj.core.api.Assertions"

def uuid : String := "java.util.UUID"
def string : String := "java.lang.String"
def instant : String := "java.time.Instant"
def zonedDateTime : String := "java.time.ZonedDateTime"
def list : String := "java.util.List"
def set : String := "java.util.Set"

end MockScaffold.Scaffold.Known

namespace MockScaffold.Scaffold

/-- Classes of `java.lang` and of the file's own package need no import. -/
def isInScope (h : FileHeader) (qualified : String) : Bool :=
  match Name.qualifier? qualified with
  | some owner => owner == "java.lang" || h.package == some owner
  | none => false

/-- Whether an import of the class is both needed and possible, which it is not when its simple
name is taken by the import of another class. -/
def needsImport (index : ClassIndex) (h : FileHeader) (qualified : String) : Bool :=
  (index.find? qualified .all).isSome && !isInScope h qualified && !h.importsClass qualified &&
    (h.singleImportsNamed (Name.simpleName qualified)).isEmpty

def importClass (index : ClassIndex) (h : FileHeader) (qualified : String) : FileHeader :=
  if needsImport index h qualified then { h with imports := h.imports ++ [⟨qualified, false⟩] }
  else h

def importType (index : ClassIndex) (h : FileHeader) (type : TypeRef) : FileHeader :=
  type.classNames.foldl (importClass index) h

/-- Imports a member of a known class, or all of them for `*`, whether or not that is needed. -/
def importStatic (index : ClassIndex) (h : FileHeader) (className member : String) : FileHeader :=
  if (index.find? className .all).isSome then
    { h with imports := h.imports ++ [.ofMember className member] }
  else h

/-- Any `@ExtendWith`, whatever its argument, counts as a runner. -/
def addRunner (index : ClassIndex) (file : SourceFile) : SourceFile :=
  match file.testPlace? with
  | none => file
  | some (place, c) =>
    if c.isMarkedWith Known.extendWith then file
    else
      let runner : AnnotationUse := ⟨Known.extendWith, some "MockitoExtension.class"⟩
      let header := importClass index file.header Known.mockitoExtension
      file.update place (importClass index header Known.extendWith)
        { c with annotations := c.annotations ++ [runner] }

def importAssertThat (index : ClassIndex) (h : FileHeader) : FileHeader :=
  if h.hasStaticImport (Known.assertions ++ ".assertThat") ||
      h.hasStaticImport (Known.assertions ++ ".*") then h
  else importStatic index h Known.assertions "assertThat"

def importMockito (index : ClassIndex) (h : FileHeader) : FileHeader :=
  if h.hasStaticImport (Known.mockito ++ ".*") then h else importStatic index h Known.mockito "*"

/-- Added whether or not the file has a class. -/
def addStaticImports (index : ClassIndex) (file : SourceFile) : SourceFile :=
  { file with header := importMockito index (importAssertThat index file.header) }

end MockScaffold.Scaffold
