import MockScaffold.Index.Basic

namespace MockScaffold.ClassIndex

def stub (name : String) (kind : ClassKind) (isFinal : Bool) (superTypes : List TypeRef) :
    ClassDecl :=
  { ClassDecl.ofQualifiedName name with
    kind
    modifiers := { visibility := .publicAccess, isFinal }
    superTypes }

def openClass (name : String) (superTypes : List TypeRef := []) : ClassDecl :=
  stub name .plain false superTypes

def finalClass (name : String) : ClassDecl :=
  stub name .plain true []

def interfaceType (name : String) (superTypes : List TypeRef := []) : ClassDecl :=
  stub name .interface false superTypes

def annotationType (name : String) : ClassDecl :=
  stub name .annotationType false []

def ofElements (name : String) : List TypeRef :=
  [.named name [.ofClass "E"]]

def builtinClasses : List ClassDecl :=
  [openClass "java.lang.Object",
    finalClass "java.lang.String",
    finalClass "java.lang.Boolean",
    finalClass "java.lang.Byte",
    finalClass "java.lang.Character",
    finalClass "java.lang.Short",
    finalClass "java.lang.Integer",
    finalClass "java.lang.Long",
    finalClass "java.lang.Float",
    finalClass "java.lang.Double",
    openClass "java.lang.Enum" [.ofClass "java.lang.Object"],
    finalClass "java.util.UUID",
    finalClass "java.util.Optional",
    interfaceType "java.lang.Iterable",
    interfaceType "java.util.Collection" (ofElements "java.lang.Iterable"),
    interfaceType "java.util.List" (ofElements "java.util.Collection"),
    interfaceType "java.util.Set" (ofElements "java.util.Collection"),
    interfaceType "java.util.Map",
    openClass "java.util.ArrayList" (ofElements "java.util.List"),
    openClass "java.util.HashSet" (ofElements "java.util.Set"),
    finalClass "java.time.Instant",
    finalClass "java.time.ZonedDateTime",
    finalClass "java.time.LocalDate",
    finalClass "java.time.LocalDateTime",
    finalClass "java.time.Duration",
    openClass "java.math.BigDecimal",
    annotationType "org.junit.jupiter.api.Test",
    annotationType "org.junit.jupiter.api.Nested",
    annotationType "org.junit.jupiter.api.BeforeEach",
    annotationType "org.junit.jupiter.api.extension.ExtendWith",
    openClass "org.mockito.Mockito",
    annotationType "org.mockito.Mock",
    annotationType "org.mockito.InjectMocks",
    openClass "org.mockito.junit.jupiter.MockitoExtension",
    openClass "org.assertj.core.api.Assertions"]

def builtin : ClassIndex :=
  insertAll {} .library builtinClasses

end MockScaffold.ClassIndex
