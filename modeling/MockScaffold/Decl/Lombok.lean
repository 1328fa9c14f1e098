import MockScaffold.Decl.Class
import MockScaffold.Name.Identifier
import MockScaffold.Text.Affix

namespace MockScaffold.Lombok

def processor : String := "lombok"

/-- The class and its instance fields become final, and these fields private, under `@Value`. -/
def settled (c : ClassDecl) : ClassDecl :=
  if c.isMarkedWith "lombok.Value" then
    { c with
      modifiers := { c.modifiers with isFinal := true }
      fields := c.fields.map fun f =>
        if f.modifiers.isStatic then f
        else { f with
          modifiers := { f.modifiers with visibility := .privateAccess, isFinal := true } } }
  else c

/-- A boolean field `isActive` has the getter `isActive` and is the property `active`. -/
def booleanProperty? (name : String) : Option String :=
  match Text.withoutStart? name "is" with
  | some rest =>
    if rest.toList.head?.any Text.isUpper then some (Name.decapitalized rest) else none
  | none => none

def isFlag (field : FieldDecl) : Bool :=
  field.type.primitive? == some .boolean

def getterName (field : FieldDecl) : String :=
  if isFlag field then
    if (booleanProperty? field.name).isSome then field.name
    else "is" ++ Name.capitalized field.name
  else "get" ++ Name.capitalized field.name

def setterName (field : FieldDecl) : String :=
  let property :=
    if isFlag field then (booleanProperty? field.name).getD field.name else field.name
  "set" ++ Name.capitalized property

def member (name : String) (returnType : TypeRef) (params : List Parameter) (isStatic : Bool) :
    MethodDecl where
  name := name
  modifiers := { visibility := .publicAccess, isStatic }
  params := params
  returnType := some returnType
  origin := .generated processor

def getter (field : FieldDecl) : MethodDecl :=
  member (getterName field) field.type [] field.modifiers.isStatic

def setter (field : FieldDecl) : MethodDecl :=
  member (setterName field) .void [⟨field.name, field.type⟩] field.modifiers.isStatic

/-- Whether the class asks for the members that `qualified` stands for, by itself or by one of the
annotations that include it. -/
def asksFor (c : ClassDecl) (qualified : String) (includedIn : List String) : Bool :=
  (qualified :: includedIn).any c.isMarkedWith

def wantsGetter (c : ClassDecl) (field : FieldDecl) : Bool :=
  field.isMarkedWith "lombok.Getter" ||
    (asksFor c "lombok.Getter" ["lombok.Data", "lombok.Value"] && !field.modifiers.isStatic)

def wantsSetter (c : ClassDecl) (field : FieldDecl) : Bool :=
  (field.isMarkedWith "lombok.Setter" ||
    (asksFor c "lombok.Setter" ["lombok.Data"] && !field.modifiers.isStatic)) &&
  !field.modifiers.isFinal

def accessors (c : ClassDecl) (field : FieldDecl) : List MethodDecl :=
  (if wantsGetter c field then [getter field] else []) ++
    (if wantsSetter c field then [setter field] else [])

def textMembers (c : ClassDecl) : List MethodDecl :=
  if asksFor c "lombok.ToString" ["lombok.Data", "lombok.Value"] then
    [member "toString" (.ofClass "java.lang.String") [] false]
  else []

def equalityMembers (c : ClassDecl) : List MethodDecl :=
  if asksFor c "lombok.EqualsAndHashCode" ["lombok.Data", "lombok.Value"] then
    [member "equals" (.primitive .boolean) [⟨"o", .ofClass "java.lang.Object"⟩] false,
      member "hashCode" (.primitive .int) [] false]
  else []

def wanted (c : ClassDecl) : List MethodDecl :=
  c.fields.flatMap (accessors c) ++ textMembers c ++ equalityMembers c

/-- The methods whose signature is neither in `taken` nor that of an earlier one. -/
def missing (taken : List (String × Nat)) : List MethodDecl → List MethodDecl
  | [] => []
  | m :: ms =>
    if m.signature ∈ taken then missing taken ms
    else m :: missing (m.signature :: taken) ms

def additions (c : ClassDecl) : List MethodDecl :=
  missing (c.methods.map (·.signature)) (wanted c)

mutual

def expand (c : ClassDecl) : ClassDecl :=
  match c with
  | { innerClasses, .. } =>
    let s := settled c
    { s with methods := s.methods ++ additions s, innerClasses := expandAll innerClasses }

def expandAll : List ClassDecl → List ClassDecl
  | [] => []
  | c :: cs => expand c :: expandAll cs

end

mutual

def addedCount (c : ClassDecl) : Nat :=
  match c with
  | { innerClasses, .. } => (additions (settled c)).length + addedCountAll innerClasses

def addedCountAll : List ClassDecl → Nat
  | [] => 0
  | c :: cs => addedCount c + addedCountAll cs

end

end MockScaffold.Lombok
