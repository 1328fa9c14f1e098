import MockScaffold.Decl.Class
import MockScaffold.JavaType.Parser
import MockScaffold.Json.Basic
import MockScaffold.SourceFile.Basic

namespace MockScaffold

open Json (required? withDefault? optional? list?)

def TypeRef.ofJson? (j : Json) : Option TypeRef :=
  j.string?.bind fun text => (TypeRef.parse text).toOption

def Visibility.ofWord? : String → Option Visibility
  | "public" => some .publicAccess
  | "protected" => some .protectedAccess
  | "package" => some .packageAccess
  | "private" => some .privateAccess
  | _ => none

def Modifiers.ofJson? (j : Json) : Option Modifiers := do
  let members ← j.closedRecord? ["visibility", "static", "final", "abstract"]
  let visibility ←
    withDefault? (Json.constant? Visibility.ofWord?) .packageAccess members "visibility"
  let isStatic ← withDefault? Json.bool? false members "static"
  let isFinal ← withDefault? Json.bool? false members "final"
  let isAbstract ← withDefault? Json.bool? false members "abstract"
  some { visibility, isStatic, isFinal, isAbstract }

def AnnotationUse.ofJson? (j : Json) : Option AnnotationUse := do
  let members ← j.record? ["name", "argument"]
  let name ← required? Json.string? members "name"
  let argument ← optional? Json.string? members "argument"
  some { name, argument }

/-- The origin is told by its `kind`; an array holds the kind and then the processor. -/
def MemberOrigin.ofJson? (j : Json) : Option MemberOrigin := do
  guard j.isReadable
  match j with
  | .array [.string "source"] => some .source
  | .array [.string "generated", .string processor] => some (.generated processor)
  | .object members =>
    guard ((members.filter fun (key, _) => key == "kind").length == 1)
    match ← required? Json.string? members "kind" with
    | "source" => some .source
    | "generated" =>
      let known ← j.record? ["processor"]
      (required? Json.string? known "processor").map .generated
    | _ => none
  | _ => none

def Parameter.ofJson? (j : Json) : Option Parameter := do
  let members ← j.record? ["name", "type"]
  let name ← required? Json.string? members "name"
  let type ← required? TypeRef.ofJson? members "type"
  some { name, type }

def FieldDecl.ofJson? (j : Json) : Option FieldDecl := do
  let members ← j.record? ["name", "type", "modifiers", "annotations", "initializer"]
  let name ← required? Json.string? members "name"
  let type ← required? TypeRef.ofJson? members "type"
  let modifiers ← withDefault? Modifiers.ofJson? {} members "modifiers"
  let annotations ← withDefault? (list? AnnotationUse.ofJson?) [] members "annotations"
  let initializer ← optional? Json.string? members "initializer"
  some { name, type, modifiers, annotations, initializer }

def MethodDecl.ofJson? (j : Json) : Option MethodDecl := do
  let members ← j.record?
    ["name", "modifiers", "annotations", "params", "return_type", "constructor", "origin", "body"]
  let name ← required? Json.string? members "name"
  let modifiers ← withDefault? Modifiers.ofJson? {} members "modifiers"
  let annotations ← withDefault? (list? AnnotationUse.ofJson?) [] members "annotations"
  let params ← withDefault? (list? Parameter.ofJson?) [] members "params"
  let returnType ← optional? TypeRef.ofJson? members "return_type"
  let isConstructor ← withDefault? Json.bool? false members "constructor"
  let origin ← withDefault? MemberOrigin.ofJson? .source members "origin"
  let body ← withDefault? (list? Json.string?) [] members "body"
  some { name, modifiers, annotations, params, returnType, isConstructor, origin, body }

def ClassKind.ofWord? : String → Option ClassKind
  | "class" => some .plain
  | "interface" => some .interface
  | "enum" => some .enum
  | "record" => some .record
  | "annotation" => some .annotationType
  | _ => none

/-- A class whose tree has at most `levels` levels. -/
def ClassDecl.ofJsonWithin? : Nat → Json → Option ClassDecl
  | 0, _ => none
  | levels + 1, j => do
    let members ← j.record?
      ["name", "qualified_name", "kind", "modifiers", "annotations", "super_types",
        "enum_constants", "fields", "methods", "inner_classes"]
    let name ← required? Json.string? members "name"
    let qualifiedName ← required? Json.string? members "qualified_name"
    let kind ← withDefault? (Json.constant? ClassKind.ofWord?) .plain members "kind"
    let modifiers ← withDefault? Modifiers.ofJson? {} members "modifiers"
    let annotations ← withDefault? (list? AnnotationUse.ofJson?) [] members "annotations"
    let superTypes ← withDefault? (list? TypeRef.ofJson?) [] members "super_types"
    let enumConstants ← withDefault? (list? Json.string?) [] members "enum_constants"
    let fields ← withDefault? (list? FieldDecl.ofJson?) [] members "fields"
    let methods ← withDefault? (list? MethodDecl.ofJson?) [] members "methods"
    let innerClasses ←
      withDefault? (list? (ClassDecl.ofJsonWithin? levels)) [] members "inner_classes"
    some
      { name, qualifiedName, kind, modifiers, annotations, superTypes, enumConstants, fields,
        methods, innerClasses }

def ClassDecl.ofJson? (j : Json) : Option ClassDecl :=
  ClassDecl.ofJsonWithin? j.depth j

def ImportDecl.ofJson? (j : Json) : Option ImportDecl := do
  let members ← j.record? ["path", "static"]
  let path ← required? Json.string? members "path"
  let isStatic ← withDefault? Json.bool? false members "static"
  some { path, isStatic }

def FileHeader.ofJson? (j : Json) : Option FileHeader := do
  let members ← j.record? ["package", "imports"]
  let package ← optional? Json.string? members "package"
  let imports ← withDefault? (list? ImportDecl.ofJson?) [] members "imports"
  some { package, imports }

/-- Only an object is a file, and what is neither its name nor its classes has to be readable. -/
def SourceFile.ofJson? (j : Json) : Option SourceFile :=
  match j with
  | .object members => do
    guard <| members.all fun (key, value) =>
      key == "name" || key == "classes" || value.isReadable
    let known ← j.record? ["name", "package", "imports", "classes"]
    let name ← required? Json.string? known "name"
    let header ← FileHeader.ofJson? (.object known)
    let classes ← withDefault? (list? ClassDecl.ofJson?) [] known "classes"
    some { name, header, classes }
  | _ => none

def ProjectModel.ofJson? (j : Json) : Option ProjectModel := do
  let members ← j.closedRecord? ["classes", "libraries"]
  let classes ← withDefault? (list? ClassDecl.ofJson?) [] members "classes"
  let libraries ← withDefault? (list? ClassDecl.ofJson?) [] members "libraries"
  some { classes, libraries }

end MockScaffold
