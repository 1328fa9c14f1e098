import MockScaffold.JavaType.Basic

namespace MockScaffold.TypeRef

def argumentList (texts : List String) : String :=
  if texts.isEmpty then "" else "<" ++ ", ".intercalate texts ++ ">"

mutual

def spell (className : String → String) : TypeRef → String
  | .void => "void"
  | .primitive p => p.keyword
  | .named name args => className name ++ argumentList (spellAll className args)
  | .array element => spell className element ++ "[]"

def spellAll (className : String → String) : List TypeRef → List String
  | [] => []
  | t :: ts => spell className t :: spellAll className ts

end

def canonical (t : TypeRef) : String :=
  t.spell id

def presentable (t : TypeRef) : String :=
  t.spell Name.simpleName

end MockScaffold.TypeRef
