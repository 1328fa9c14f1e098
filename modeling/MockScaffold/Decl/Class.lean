import MockScaffold.Decl.Member

namespace MockScaffold

inductive ClassKind where
  | plain
  | interface
  | enum
  | record
  | annotationType
  deriving DecidableEq, Repr

def ClassKind.keyword : ClassKind → String
  | plain => "class"
  | interface => "interface"
  | enum => "enum"
  | record => "record"
  | annotationType => "@interface"

structure ClassDecl where
  name : String
  qualifiedName : String
  kind : ClassKind := .plain
  modifiers : Modifiers := {}
  annotations : List AnnotationUse := []
  superTypes : List TypeRef := []
  enumConstants : List String := []
  fields : List FieldDecl := []
  methods : List MethodDecl := []
  innerClasses : List ClassDecl := []
  deriving Repr

namespace ClassDecl

def ofQualifiedName (qualifiedName : String) : ClassDecl :=
  { name := Name.simpleName qualifiedName, qualifiedName }

def nestedIn (owner : ClassDecl) (name : String) : ClassDecl :=
  ofQualifiedName (owner.qualifiedName ++ "." ++ name)

def isMarkedWith (c : ClassDecl) (qualified : String) : Bool :=
  c.annotations.any (·.denotes qualified)

def field? (c : ClassDecl) (name : String) : Option FieldDecl :=
  c.fields.find? (·.name == name)

def hasField (c : ClassDecl) (name : String) : Bool :=
  c.fields.any (·.name == name)

def fieldNames (c : ClassDecl) : List String :=
  c.fields.map (·.name)

def methodsNamed (c : ClassDecl) (name : String) : List MethodDecl :=
  c.methods.filter (·.name == name)

def innerClass? (c : ClassDecl) (name : String) : Option ClassDecl :=
  c.innerClasses.find? (·.name == name)

/-- An enumeration is one by its kind or by extending `java.lang.Enum`. -/
def isEnum (c : ClassDecl) : Bool :=
  c.kind == .enum || c.superTypes.any (·.className? == some "java.lang.Enum")

mutual

def walk (c : ClassDecl) : List ClassDecl :=
  match c with
  | { innerClasses, .. } => c :: walkAll innerClasses

def walkAll : List ClassDecl → List ClassDecl
  | [] => []
  | c :: cs => walk c ++ walkAll cs

end

end ClassDecl

structure ProjectModel where
  classes : List ClassDecl := []
  libraries : List ClassDecl := []
  deriving Repr

end MockScaffold
