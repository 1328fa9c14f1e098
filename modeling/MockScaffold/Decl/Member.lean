import MockScaffold.JavaType.Basic

namespace MockScaffold

inductive Visibility where
  | publicAccess
  | protectedAccess
  | packageAccess
  | privateAccess
  deriving DecidableEq, Repr

/-- Package access is what a declaration without a keyword has. -/
def Visibility.keyword? : Visibility → Option String
  | publicAccess => some "public"
  | protectedAccess => some "protected"
  | packageAccess => none
  | privateAccess => some "private"

structure Modifiers where
  visibility : Visibility := .packageAccess
  isStatic : Bool := false
  isFinal : Bool := false
  isAbstract : Bool := false
  deriving DecidableEq, Repr

namespace Modifiers

def keywords (m : Modifiers) : List String :=
  m.visibility.keyword?.toList ++
    (if m.isAbstract then ["abstract"] else []) ++
    (if m.isStatic then ["static"] else []) ++
    (if m.isFinal then ["final"] else [])

end Modifiers

/-- The name is qualified where the sources were resolved, else as it was written. -/
structure AnnotationUse where
  name : String
  argument : Option String := none
  deriving DecidableEq, Repr

namespace AnnotationUse

def simpleName (use : AnnotationUse) : String :=
  Name.simpleName use.name

/-- An unqualified use can only be told by its simple name. -/
def denotes (use : AnnotationUse) (qualified : String) : Bool :=
  if '.' ∈ use.name.toList then use.name == qualified
  else use.name == Name.simpleName qualified

end AnnotationUse

inductive MemberOrigin where
  | source
  | generated (processor : String)
  deriving DecidableEq, Repr

def MemberOrigin.isGenerated : MemberOrigin → Bool
  | source => false
  | generated _ => true

structure Parameter where
  name : String
  type : TypeRef
  deriving Repr

structure FieldDecl where
  name : String
  type : TypeRef
  modifiers : Modifiers := {}
  annotations : List AnnotationUse := []
  initializer : Option String := none
  deriving Repr

def FieldDecl.isMarkedWith (field : FieldDecl) (qualified : String) : Bool :=
  field.annotations.any (·.denotes qualified)

/-- A constructor has no return type, and its body is the list of its statement lines. -/
structure MethodDecl where
  name : String
  modifiers : Modifiers := {}
  annotations : List AnnotationUse := []
  params : List Parameter := []
  returnType : Option TypeRef := none
  isConstructor : Bool := false
  origin : MemberOrigin := .source
  body : List String := []
  deriving Repr

namespace MethodDecl

def isMarkedWith (method : MethodDecl) (qualified : String) : Bool :=
  method.annotations.any (·.denotes qualified)

def signature (method : MethodDecl) : String × Nat :=
  (method.name, method.params.length)

end MethodDecl

end MockScaffold
