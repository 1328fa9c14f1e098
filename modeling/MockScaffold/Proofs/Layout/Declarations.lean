import MockScaffold.Layout.Printer
import MockScaffold.Proofs.Layout.Head

namespace MockScaffold.Layout

section Texts

variable (namer : Namer)

def annotationLines (uses : List AnnotationUse) : List String :=
  uses.map fun use =>
    "@" ++ namer.className use.name ++ use.argument.elim "" fun text => "(" ++ text ++ ")"

/-- The lines of a declaration that says all that a field holds. -/
def fieldDeclaration (f : FieldDecl) : List String :=
  annotationLines namer f.annotations ++
    [" ".intercalate (f.modifiers.keywords ++ [namer.typeText f.type, f.name]) ++
      f.initializer.elim "" (" = " ++ ·) ++ ";"]

/-- A method up to its body: `public void run(int times)`. -/
def methodSignature (owner : ClassDecl) (m : MethodDecl) : String :=
  " ".intercalate (m.modifiers.keywords ++
      if m.isConstructor then [owner.name] else [m.returnType.elim "void" namer.typeText, m.name]) ++
    "(" ++ ", ".intercalate (m.params.map fun p => namer.typeText p.type ++ " " ++ p.name) ++ ")"

/-- Only an interface extends more than one type, and neither an enumeration nor a record any. -/
def extendedTypes (c : ClassDecl) : List TypeRef :=
  match c.kind with
  | .plain => (c.superTypes.filter isShown).take 1
  | .interface => c.superTypes.filter isShown
  | .enum | .record | .annotationType => []

def implementedTypes (c : ClassDecl) : List TypeRef :=
  match c.kind with
  | .plain => (c.superTypes.filter isShown).drop 1
  | .enum | .record => c.superTypes.filter isShown
  | .interface | .annotationType => []

def typeClause (word : String) (types : List TypeRef) : List String :=
  if types.isEmpty then [] else [word, ", ".intercalate (types.map namer.typeText)]

def recordHeader (c : ClassDecl) : String :=
  if c.kind = .record then
    "(" ++ ", ".intercalate (c.fields.map fun f => namer.typeText f.type ++ " " ++ f.name) ++ ")"
  else ""

def classDeclaration (c : ClassDecl) : String :=
  " ".intercalate (c.modifiers.keywords ++ c.kind.keyword :: (c.name ++ recordHeader namer c) ::
    (typeClause namer "extends" (extendedTypes c) ++
      typeClause namer "implements" (implementedTypes c) ++ ["\x7b"]))

end Texts

section Spaces

theorem intercalate_append_eq_join (words : List String) {rest : List String} (h : rest ≠ []) :
    " ".intercalate (words ++ rest) = String.join (words.map (· ++ " ")) ++ " ".intercalate rest := by
  induction words with
  | nil => simp
  | cons word words ih =>
    have hne : words ++ rest ≠ [] := List.append_ne_nil_of_right_ne_nil words h
    rw [List.cons_append, String.intercalate_cons_of_ne_nil hne, ih, List.map_cons,
      String.join_cons, String.append_assoc, String.append_assoc, String.append_assoc]

theorem intercalate_cons_eq_join (word : String) (words : List String) :
    " ".intercalate (word :: words) = word ++ String.join (words.map (" " ++ ·)) := by
  induction words generalizing word with
  | nil => simp
  | cons next words ih =>
    rw [String.intercalate_cons_cons, ih, List.map_cons, String.join_cons, String.append_assoc,
      String.append_assoc]

end Spaces

section Printed

variable (namer : Namer)

theorem annotationText_eq (use : AnnotationUse) :
    namer.annotationText use =
      "@" ++ namer.className use.name ++ use.argument.elim "" fun text => "(" ++ text ++ ")" := by
  unfold Namer.annotationText
  cases use.argument with
  | none => simp
  | some text => simp [String.append_assoc]

theorem map_annotationText (uses : List AnnotationUse) :
    uses.map namer.annotationText = annotationLines namer uses :=
  List.map_congr_left fun use _ => annotationText_eq namer use

theorem fieldLine_eq (f : FieldDecl) :
    fieldLine namer f =
      " ".intercalate (f.modifiers.keywords ++ [namer.typeText f.type, f.name]) ++
        f.initializer.elim "" (" = " ++ ·) ++ ";" := by
  rw [intercalate_append_eq_join _ (by simp)]
  unfold fieldLine component modifierText
  cases f.initializer <;> simp [String.append_assoc, String.intercalate_cons_cons]

theorem annotationTexts_append_fieldLine (page : Page) (f : FieldDecl) :
    annotationTexts page f.annotations ++ [fieldLine page.namer f] =
      fieldDeclaration page.namer f := by
  rw [fieldDeclaration, fieldLine_eq, annotationTexts, map_annotationText]

theorem methodHead_eq (owner : ClassDecl) (m : MethodDecl) :
    methodHead namer owner m = methodSignature namer owner m := by
  unfold methodHead methodSignature modifierText component commaList
  rw [intercalate_append_eq_join _ (by split <;> simp)]
  cases m.isConstructor with
  | true => simp [String.append_assoc]
  | false =>
    cases m.returnType with
    | none => simp [String.append_assoc, String.intercalate_cons_cons, Namer.typeText, TypeRef.spell]
    | some type => simp [String.append_assoc, String.intercalate_cons_cons]

theorem join_typeClause (word : String) (types : List TypeRef) :
    String.join ((typeClause namer word types).map (" " ++ ·)) =
      if types.isEmpty then "" else " " ++ word ++ " " ++ commaList (types.map namer.typeText) := by
  unfold typeClause
  split
  · rfl
  · simp [commaList, String.append_assoc]

theorem superTypeText_eq (c : ClassDecl) :
    superTypeText namer c = String.join ((typeClause namer "extends" (extendedTypes c) ++
      typeClause namer "implements" (implementedTypes c)).map (" " ++ ·)) := by
  have hshown : c.superTypes.filter (!isImplicit ·) = c.superTypes.filter isShown := by
    simp only [isImplicit_eq, Bool.not_not]
  rw [List.map_append, String.join_append, join_typeClause, join_typeClause]
  unfold superTypeText extendedTypes implementedTypes
  rw [hshown]
  cases c.superTypes.filter isShown with
  | nil => cases c.kind <;> rfl
  | cons first rest =>
    -- Only a class tells the first of its types from the others.
    cases c.kind with
    | plain => cases rest <;> simp [superClause, commaList, String.append_assoc]
    | interface | enum | record | annotationType => simp [superClause]

theorem classHead_eq (c : ClassDecl) : classHead namer c = classDeclaration namer c := by
  have hcomponents : recordComponents namer c = recordHeader namer c := by
    simp [recordComponents, recordHeader, component, commaList]
  unfold classHead classDeclaration modifierText
  rw [intercalate_append_eq_join _ (by simp), intercalate_cons_eq_join, List.map_cons,
    List.map_append, String.join_cons, String.join_append, ← superTypeText_eq, hcomponents]
  simp [String.append_assoc]

end Printed

end MockScaffold.Layout
