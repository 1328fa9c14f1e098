import MockScaffold.Index.Basic
import MockScaffold.JavaType.Spelling

namespace MockScaffold.ClassIndex

def freshNames (seen : List String) : List String → List String
  | [] => []
  | name :: names =>
    if name ∈ seen then freshNames seen names else name :: freshNames (name :: seen) names

def superNames (c : ClassDecl) : List String :=
  c.superTypes.filterMap (·.className?)

/-- The classes of `level`, then those that they mention first, and so on, where one unit of fuel
for each class is enough. -/
def levelsFrom (index : ClassIndex) : Nat → List String → List ClassDecl → List ClassDecl
  | 0, _, level => level
  | fuel + 1, seen, level =>
    let fresh := freshNames seen (level.flatMap superNames)
    level ++ levelsFrom index fuel (seen ++ fresh) (fresh.filterMap (index.find? · .all))

/-- The class and all its super types that can be found, each once. -/
def hierarchy (index : ClassIndex) (c : ClassDecl) : List ClassDecl :=
  levelsFrom index index.size [c.qualifiedName] [c]

def allFields (index : ClassIndex) (c : ClassDecl) : List FieldDecl :=
  (hierarchy index c).flatMap (·.fields)

def isEnumType (index : ClassIndex) (type : TypeRef) : Bool :=
  (index.resolve? type .all).any (·.isEnum)

def superTypeTexts (index : ClassIndex) (type : TypeRef) : List String :=
  match index.resolve? type .all with
  | some c => c.superTypes.map (·.canonical)
  | none => []

end MockScaffold.ClassIndex
