import MockScaffold.Decl.Class
import MockScaffold.Name.Identifier

namespace MockScaffold

inductive ClassFault where
  | notAnIdentifier (qualifiedName name : String)
  | otherSimpleName (qualifiedName name : String)
  | notNested (qualifiedName owner : String)
  deriving DecidableEq, Repr

namespace ClassFault

def qualifiedName : ClassFault → String
  | notAnIdentifier q _ | otherSimpleName q _ | notNested q _ => q

def reason : ClassFault → String
  | notAnIdentifier _ name => "`" ++ name ++ "` is not a valid simple name"
  | otherSimpleName _ name => "qualified name does not end with `" ++ name ++ "`"
  | notNested _ owner => "not nested in `" ++ owner ++ "`"

def message (fault : ClassFault) : String :=
  "invalid class `" ++ fault.qualifiedName ++ "`: " ++ fault.reason

end ClassFault

namespace ClassDecl

def nameFault? (c : ClassDecl) : Option ClassFault :=
  if !Name.isIdentifier c.name then some (.notAnIdentifier c.qualifiedName c.name)
  else if Name.simpleName c.qualifiedName != c.name then
    some (.otherSimpleName c.qualifiedName c.name)
  else none

def nestingFault? (owner c : ClassDecl) : Option ClassFault :=
  if Name.qualifier? c.qualifiedName == some owner.qualifiedName then none
  else some (.notNested c.qualifiedName owner.qualifiedName)

mutual

/-- The first fault, an owner before its nested classes, the place of a class before its names. -/
def fault? (c : ClassDecl) : Option ClassFault :=
  match c with
  | { innerClasses, .. } => c.nameFault?.or (nestedFault? c innerClasses)

def nestedFault? (owner : ClassDecl) : List ClassDecl → Option ClassFault
  | [] => none
  | c :: cs => (nestingFault? owner c).or ((fault? c).or (nestedFault? owner cs))

end

def firstFault? (cs : List ClassDecl) : Option ClassFault :=
  cs.findSome? fault?

end ClassDecl

end MockScaffold
