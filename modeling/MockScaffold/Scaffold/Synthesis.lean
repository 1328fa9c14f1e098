import MockScaffold.JavaType.Basic
import MockScaffold.Name.Identifier
import MockScaffold.Scaffold.Category
import MockScaffold.Scaffold.Imports
import MockScaffold.Seeded.WordStream
import MockScaffold.SourceFile.Basic

namespace MockScaffold.Scaffold

/-- Primitive keywords are reserved, so that a letter stands for the type. -/
def abbreviation : Primitive → Char
  | .boolean | .byte => 'b'
  | .short => 's'
  | .int => 'i'
  | .long => 'l'
  | .char => 'c'
  | .float => 'f'
  | .double => 'd'

def plural : List (List Char) → List (List Char)
  | [] => []
  | [word] => [word ++ ['s']]
  | word :: rest => word :: plural rest

def typeWords : TypeRef → List (List Char)
  | .void => []
  | .primitive p => [[abbreviation p]]
  | .named name _ => Name.words (Name.simpleName name).toList
  | .array element => plural (typeWords element)

def fieldName (type : TypeRef) : String :=
  let words := typeWords type
  if words.isEmpty then "value" else String.ofList (Name.lowerCamel words)

def constantName (type : TypeRef) : String :=
  let words := typeWords type
  if words.isEmpty then "VALUE" else String.ofList (Name.upperSnake words)

open Seeded (WordStream)

/-- Constants are static in the test class itself, and instance fields in a nested one. -/
inductive Placement where
  | topLevel
  | nested
  deriving DecidableEq, Repr

structure Variable where
  name : String
  type : TypeRef
  isStatic : Bool := false
  deriving Repr

def Variable.ofField (f : FieldDecl) : Variable :=
  ⟨f.name, f.type, f.modifiers.isStatic⟩

def Variable.ofParameter (p : Parameter) : Variable :=
  ⟨p.name, p.type, false⟩

/-- The class that gets the fields, the header that gets their imports, the names that are taken
there, the random words still to come, and how many fields were added so far. -/
structure Draft where
  header : FileHeader
  target : ClassDecl
  taken : List String
  stream : WordStream
  mocks : Nat := 0
  constants : Nat := 0
  deriving Repr

def primitiveLiteral (p : Primitive) (stream : WordStream) : String × WordStream :=
  match p with
  | .boolean => ("true", stream)
  | .char => ("'a'", stream)
  | .byte | .short | .int | .long =>
    let (n, stream) := stream.smallInt
    (toString n, stream)
  | .double => stream.smallDecimal
  | .float =>
    let (text, stream) := stream.smallDecimal
    (text ++ "f", stream)

def enumLiteral (c : ClassDecl) : String :=
  match c.enumConstants with
  | constant :: _ => c.name ++ "." ++ constant
  | [] => "null"

def classLiteral (className : Option String) (fieldName : String) : String :=
  if className == some Known.uuid then "UUID.randomUUID()"
  else if className == some Known.instant then "Instant.now()"
  else if className == some Known.zonedDateTime then "ZonedDateTime.now()"
  else if className == some Known.string then "\"" ++ fieldName ++ "\""
  else "null"

def initializer (index : ClassIndex) (type : TypeRef) (fieldName : String) (stream : WordStream) :
    String × WordStream :=
  match type with
  | .primitive p => primitiveLiteral p stream
  | type =>
    match index.resolve? type .all with
    | some c =>
      if c.isEnum then (enumLiteral c, stream)
      else (classLiteral type.className? fieldName, stream)
    | none => (classLiteral type.className? fieldName, stream)

namespace Draft

def addMock (index : ClassIndex) (draft : Draft) (type : TypeRef) (name : String) : Draft :=
  let name := Name.decapitalized name
  if name ∈ draft.taken then draft
  else
    let field : FieldDecl :=
      { name, type
        modifiers := { visibility := .privateAccess }
        annotations := [{ name := Known.mock }] }
    { draft with
      header := importType index draft.header type
      target := { draft.target with fields := draft.target.fields ++ [field] }
      taken := name :: draft.taken
      mocks := draft.mocks + 1 }

/-- A private final constant, unless the name is taken, which then costs no random word. -/
def addConstant (index : ClassIndex) (placement : Placement) (draft : Draft) (type : TypeRef)
    (name : String) : Draft :=
  if name ∈ draft.taken then draft
  else
    let (value, stream) := initializer index type name draft.stream
    let field : FieldDecl :=
      { name, type
        modifiers :=
          { visibility := .privateAccess, isStatic := placement == .topLevel, isFinal := true }
        initializer := some value }
    { draft with
      header := importType index draft.header type
      target := { draft.target with fields := draft.target.fields ++ [field] }
      taken := name :: draft.taken
      stream
      constants := draft.constants + 1 }

def elementConstantName (type : TypeRef) : String :=
  if type.className? == some Known.uuid then "UUID_VALUE" else constantName type

def addVariable (index : ClassIndex) (placement : Placement) (draft : Draft) (v : Variable) :
    Draft :=
  if v.isStatic then draft
  else
    match classify index v.type with
    | .value => draft.addConstant index placement v.type (Name.constantName v.name)
    | .collection (some element) =>
      if isValueType index element then
        draft.addConstant index placement element (elementConstantName element)
      else if isOpen index element then draft.addMock index element (fieldName element)
      else draft
    | .mockable => draft.addMock index v.type v.name
    | .collection none | .unsupported => draft

/-- Fields for all variables, and the import of `@Mock` if there is a mock among them. -/
def insertMissing (index : ClassIndex) (placement : Placement) (draft : Draft)
    (vars : List Variable) : Draft :=
  let filled :=
    vars.foldl (addVariable index placement) { draft with mocks := 0, constants := 0 }
  if filled.mocks = 0 then filled
  else { filled with header := importClass index filled.header Known.mock }

end Draft

open Seeded (WordStream)

def subjectFieldName : String := "underTest"

def subjectField (subject : String) : FieldDecl where
  name := subjectFieldName
  type := .ofClass subject
  modifiers := { visibility := .privateAccess }
  annotations := [{ name := Known.injectMocks }]

def addStandIns (index : ClassIndex) (subject : String) (draft : Draft) : Draft :=
  match index.find? subject .all with
  | some c => draft.insertMissing index .topLevel ((index.allFields c).map .ofField)
  | none => draft

/-- The subject's field is added even when no such class is known; only a class of the project is
imported. -/
def addSubjectFields (index : ClassIndex) (file : SourceFile) (stream : WordStream) :
    SourceFile × WordStream :=
  match file.testPlace? with
  | none => (file, stream)
  | some (place, c) =>
    match Text.withoutEnding? c.qualifiedName "Test" with
    | none => (file, stream)
    | some subject =>
      let draft := addStandIns index subject
        { header := file.header, target := c, taken := c.fieldNames, stream }
      let target := draft.target
      let fields :=
        if target.hasField subjectFieldName then target.fields
        else target.fields ++ [subjectField subject]
      let header := importClass index draft.header Known.injectMocks
      let header :=
        if (index.find? subject .project).isSome then importClass index header subject else header
      (file.update place header { target with fields }, draft.stream)

end MockScaffold.Scaffold
