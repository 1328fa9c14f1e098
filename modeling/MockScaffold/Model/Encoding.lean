import MockScaffold.Decl.Class
import MockScaffold.JavaType.Spelling
import MockScaffold.Json.Basic
import MockScaffold.SourceFile.Basic

namespace MockScaffold

def TypeRef.toJson (t : TypeRef) : Json :=
  .string t.canonical

def Visibility.word : Visibility → String
  | publicAccess => "public"
  | protectedAccess => "protected"
  | packageAccess => "package"
  | privateAccess => "private"

def Modifiers.toJson (m : Modifiers) : Json :=
  .object
    [("visibility", .string m.visibility.word), ("static", .bool m.isStatic),
      ("final", .bool m.isFinal), ("abstract", .bool m.isAbstract)]

def AnnotationUse.toJson (use : AnnotationUse) : Json :=
  .object (("name", .string use.name) :: Json.optionMember "argument" (use.argument.map .string))

def MemberOrigin.toJson : MemberOrigin → Json
  | source => .object [("kind", .string "source")]
  | generated processor =>
    .object [("kind", .string "generated"), ("processor", .string processor)]

def Parameter.toJson (p : Parameter) : Json :=
  .object [("name", .string p.name), ("type", p.type.toJson)]

def FieldDecl.toJson (f : FieldDecl) : Json :=
  .object <|
    [("name", .string f.name), ("type", f.type.toJson), ("modifiers", f.modifiers.toJson)] ++
      Json.listMember "annotations" (f.annotations.map (·.toJson)) ++
      Json.optionMember "initializer" (f.initializer.map .string)

def MethodDecl.toJson (m : MethodDecl) : Json :=
  .object <|
    [("name", .string m.name), ("modifiers", m.modifiers.toJson)] ++
      Json.listMember "annotations" (m.annotations.map (·.toJson)) ++
      Json.listMember "params" (m.params.map (·.toJson)) ++
      Json.optionMember "return_type" (m.returnType.map (·.toJson)) ++
      [("constructor", .bool m.isConstructor), ("origin", m.origin.toJson)] ++
      Json.listMember "body" (m.body.map .string)

def ClassKind.word : ClassKind → String
  | plain => "class"
  | interface => "interface"
  | enum => "enum"
  | record => "record"
  | annotationType => "annotation"

mutual

def ClassDecl.toJson (c : ClassDecl) : Json :=
  match c with
  | { innerClasses, .. } =>
    .object <|
      [("name", .string c.name), ("qualified_name", .string c.qualifiedName),
        ("kind", .string c.kind.word), ("modifiers", c.modifiers.toJson)] ++
        Json.listMember "annotations" (c.annotations.map (·.toJson)) ++
        Json.listMember "super_types" (c.superTypes.map (·.toJson)) ++
        Json.listMember "enum_constants" (c.enumConstants.map .string) ++
        Json.listMember "fields" (c.fields.map (·.toJson)) ++
        Json.listMember "methods" (c.methods.map (·.toJson)) ++
        Json.listMember "inner_classes" (ClassDecl.allToJson innerClasses)

def ClassDecl.allToJson : List ClassDecl → List Json
  | [] => []
  | c :: cs => ClassDecl.toJson c :: ClassDecl.allToJson cs

end

def ImportDecl.toJson (i : ImportDecl) : Json :=
  .object (("path", .string i.path) :: if i.isStatic then [("static", .bool true)] else [])

def FileHeader.members (h : FileHeader) : List (String × Json) :=
  Json.optionMember "package" (h.package.map .string) ++
    Json.listMember "imports" (h.imports.map (·.toJson))

def FileHeader.toJson (h : FileHeader) : Json :=
  .object h.members

def SourceFile.toJson (f : SourceFile) : Json :=
  .object <|
    ("name", .string f.name) :: f.header.members ++
      [("classes", .array (ClassDecl.allToJson f.classes))]

def ProjectModel.toJson (p : ProjectModel) : Json :=
  .object
    [("classes", .array (ClassDecl.allToJson p.classes)),
      ("libraries", .array (ClassDecl.allToJson p.libraries))]

end MockScaffold
