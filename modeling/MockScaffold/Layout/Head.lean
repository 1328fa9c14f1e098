import MockScaffold.JavaType.Spelling
import MockScaffold.SourceFile.Basic

namespace MockScaffold.Layout

structure Namer where
  header : FileHeader
  declared : List String
  deriving Repr

namespace Namer

def ofFile (file : SourceFile) : Namer :=
  ⟨file.header, (ClassDecl.walkAll file.classes).map (·.qualifiedName)⟩

/-- The import of another class hides what is in scope without an import of its own. -/
def isShadowed (namer : Namer) (qualified : String) : Bool :=
  (namer.header.singleImportsNamed (Name.simpleName qualified)).any (·.path != qualified)

def isInScope (namer : Namer) (qualified : String) : Bool :=
  match Name.qualifier? qualified with
  | none => true
  | some owner => owner == "java.lang" || namer.header.package == some owner

def isVisible (namer : Namer) (qualified : String) : Bool :=
  namer.declared.contains qualified ||
    (!namer.isShadowed qualified &&
      (namer.isInScope qualified || namer.header.importsClass qualified))

def className (namer : Namer) (qualified : String) : String :=
  if namer.isVisible qualified then Name.simpleName qualified else qualified

def typeText (namer : Namer) (type : TypeRef) : String :=
  type.spell namer.className

def annotationText (namer : Namer) (use : AnnotationUse) : String :=
  let name := "@" ++ namer.className use.name
  match use.argument with
  | some argument => name ++ "(" ++ argument ++ ")"
  | none => name

end Namer

def modifierText (m : Modifiers) : String :=
  String.join (m.keywords.map (· ++ " "))

/-- Super types that every class of their kind has. -/
def isImplicit (type : TypeRef) : Bool :=
  match type.className? with
  | some name => ["java.lang.Object", "java.lang.Enum", "java.lang.Record"].contains name
  | none => false

def commaList (texts : List String) : String :=
  ", ".intercalate texts

/-- An interface extends all its super types; a class extends the first and implements the others;
enumerations and records implement all. -/
def superClause (kind : ClassKind) (texts : List String) : String :=
  match texts with
  | [] => ""
  | first :: rest =>
    match kind with
    | .interface => " extends " ++ commaList texts
    | .plain =>
      " extends " ++ first ++ if rest.isEmpty then "" else " implements " ++ commaList rest
    | .enum | .record => " implements " ++ commaList texts
    | .annotationType => ""

def superTypeText (namer : Namer) (c : ClassDecl) : String :=
  -- What goes without saying is left out before the first type is told from the others.
  superClause c.kind ((c.superTypes.filter (!isImplicit ·)).map namer.typeText)

def component (namer : Namer) (type : TypeRef) (name : String) : String :=
  namer.typeText type ++ " " ++ name

def recordComponents (namer : Namer) (c : ClassDecl) : String :=
  if c.kind == .record then
    "(" ++ commaList (c.fields.map fun f => component namer f.type f.name) ++ ")"
  else ""

def classHead (namer : Namer) (c : ClassDecl) : String :=
  modifierText c.modifiers ++ c.kind.keyword ++ " " ++ c.name ++ recordComponents namer c ++
    superTypeText namer c ++ " \x7b"

def enumLine (c : ClassDecl) : String :=
  commaList c.enumConstants ++ ";"

def fieldLine (namer : Namer) (f : FieldDecl) : String :=
  let value := match f.initializer with
    | some text => " = " ++ text
    | none => ""
  modifierText f.modifiers ++ component namer f.type f.name ++ value ++ ";"

/-- A constructor is named after its class; a method without a return type returns nothing. -/
def methodHead (namer : Namer) (owner : ClassDecl) (m : MethodDecl) : String :=
  let name :=
    if m.isConstructor then owner.name
    else component namer (m.returnType.getD .void) m.name
  modifierText m.modifiers ++ name ++ "(" ++
    commaList (m.params.map fun p => component namer p.type p.name) ++ ")"

/-- Abstract methods and the instance methods of interfaces need no body. -/
def isBodiless (owner : ClassDecl) (m : MethodDecl) : Bool :=
  m.body.isEmpty &&
    (m.modifiers.isAbstract || (owner.kind == .interface && !m.modifiers.isStatic))

end MockScaffold.Layout
