import MockScaffold.Name.Qualified

namespace MockScaffold

inductive Primitive where
  | boolean | byte | short | int | long | char | float | double
  deriving DecidableEq, Repr

namespace Primitive

def keyword : Primitive → String
  | boolean => "boolean"
  | byte => "byte"
  | short => "short"
  | int => "int"
  | long => "long"
  | char => "char"
  | float => "float"
  | double => "double"

def all : List Primitive :=
  [boolean, byte, short, int, long, char, float, double]

def ofKeyword? (word : String) : Option Primitive :=
  all.find? (·.keyword == word)

def isIntegral : Primitive → Bool
  | byte | short | int | long => true
  | _ => false

end Primitive

inductive TypeRef where
  | void
  | primitive (kind : Primitive)
  | named (name : String) (args : List TypeRef)
  | array (element : TypeRef)
  deriving Repr, Inhabited

namespace TypeRef

def ofClass (name : String) : TypeRef :=
  .named name []

def isPrimitive : TypeRef → Bool
  | .primitive _ => true
  | _ => false

def primitive? : TypeRef → Option Primitive
  | .primitive p => some p
  | _ => none

def className? : TypeRef → Option String
  | .named name _ => some name
  | _ => none

def args : TypeRef → List TypeRef
  | .named _ args => args
  | _ => []

/-- The first type argument, taken for the element type of a collection. -/
def firstArg? (t : TypeRef) : Option TypeRef :=
  t.args.head?

/-- The type's name without qualifier and arguments; array brackets are kept. -/
def simpleName : TypeRef → String
  | .void => "void"
  | .primitive p => p.keyword
  | .named name _ => Name.simpleName name
  | .array element => element.simpleName ++ "[]"

mutual

def classNames : TypeRef → List String
  | .named name args => name :: allClassNames args
  | .array element => classNames element
  | .void | .primitive _ => []

def allClassNames : List TypeRef → List String
  | [] => []
  | t :: ts => classNames t ++ allClassNames ts

end

end TypeRef

end MockScaffold
