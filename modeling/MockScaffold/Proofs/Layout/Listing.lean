import MockScaffold.Layout.Printer
import MockScaffold.Proofs.Layout.Declarations

namespace MockScaffold.Layout

/-- A line, whose text may run over several, and the depth at which it stands. -/
structure ListedLine where
  depth : Nat
  text : String
  deriving Repr

def ListedLine.indented (width : Nat) (line : ListedLine) : String :=
  indentBlock line.text (String.ofList (List.replicate (line.depth * width) ' '))

section Listing

variable (namer : Namer) (depth : Nat)

def listAll (texts : List String) : List ListedLine :=
  texts.map (⟨depth, ·⟩)

def listField (f : FieldDecl) : List ListedLine :=
  listAll depth (fieldDeclaration namer f)

/-- Abstract methods and the instance methods of interfaces may do without a body. -/
def EndsWithHead (owner : ClassDecl) (m : MethodDecl) : Prop :=
  m.body = [] ∧
    (m.modifiers.isAbstract = true ∨ owner.kind = .interface ∧ m.modifiers.isStatic = false)
  deriving Decidable

def listMethod (owner : ClassDecl) (m : MethodDecl) : List ListedLine :=
  let head := methodSignature namer owner m
  listAll depth (annotationLines namer m.annotations) ++
    if EndsWithHead owner m then [⟨depth, head ++ ";"⟩]
    else ⟨depth, head ++ " \x7b"⟩ :: listAll (depth + 1) m.body ++ [⟨depth, "\x7d"⟩]

def listConstants (c : ClassDecl) : List ListedLine :=
  if c.enumConstants = [] then [] else [⟨depth, ", ".intercalate c.enumConstants ++ ";"⟩]

def listFields (c : ClassDecl) : List ListedLine :=
  if c.kind = .record then [] else c.fields.flatMap (listField namer depth)

def listOpening (c : ClassDecl) : List ListedLine :=
  listAll depth (annotationLines namer c.annotations) ++ [⟨depth, classDeclaration namer c⟩] ++
    listConstants (depth + 1) c ++ listFields namer (depth + 1) c ++
    c.methods.flatMap (listMethod namer (depth + 1) c)

end Listing

mutual

def listClass (namer : Namer) (depth : Nat) (c : ClassDecl) : List ListedLine :=
  match c with
  | { innerClasses, .. } =>
    listOpening namer depth c ++ listClasses namer (depth + 1) innerClasses ++ [⟨depth, "\x7d"⟩]

def listClasses (namer : Namer) (depth : Nat) : List ClassDecl → List ListedLine
  | [] => []
  | c :: cs => listClass namer depth c ++ listClasses namer depth cs

end

/-- The lines before the first class. -/
def listHeader (h : FileHeader) : List ListedLine :=
  listAll 0 (h.package.toList.map fun name => "package " ++ name ++ ";") ++
    listAll 0 ((h.imports.filter (!·.isStatic)).map fun i => "import " ++ i.path ++ ";") ++
    listAll 0 ((h.imports.filter (·.isStatic)).map fun i => "import static " ++ i.path ++ ";")

def listFile (file : SourceFile) : List ListedLine :=
  listHeader file.header ++ listClasses (.ofFile file) 0 file.classes

/-- The lines that are not empty. -/
def solid (lines : List String) : List String :=
  lines.filter (!·.isEmpty)

theorem solid_append (lines lines' : List String) :
    solid (lines ++ lines') = solid lines ++ solid lines' :=
  List.filter_append ..

theorem solid_reverse (lines : List String) : solid lines.reverse = (solid lines).reverse :=
  List.filter_reverse ..

theorem solid_cons_empty (lines : List String) : solid ("" :: lines) = solid lines :=
  rfl

/-- Whatever the buffer holds, `f` puts the listed lines on top of it, but for empty ones. -/
def Emits (width : Nat) (f : Lines → Lines) (listed : List ListedLine) : Prop :=
  ∀ lines, solid (f lines) = (solid (listed.map (·.indented width))).reverse ++ solid lines

section Emits

variable {width : Nat} {f g : Lines → Lines} {listed listed' : List ListedLine}

theorem emits_id : Emits width id [] :=
  fun _ => rfl

theorem Emits.comp (hf : Emits width f listed) (hg : Emits width g listed') :
    Emits width (fun lines => g (f lines)) (listed ++ listed') := by
  intro lines
  rw [hg, hf, List.map_append, solid_append, List.reverse_append, List.append_assoc]

/-- Lines are only set apart or taken back where they are empty. -/
theorem Emits.then (hf : Emits width f listed) (hg : Emits width g []) :
    Emits width (fun lines => g (f lines)) listed := by
  have h := hf.comp hg
  rwa [List.append_nil] at h

theorem Emits.after (hf : Emits width f listed) (hg : Emits width g []) :
    Emits width (fun lines => f (g lines)) listed :=
  hg.comp hf

theorem emits_gap : Emits width gap [] := by
  intro lines
  cases lines with
  | nil => rfl
  | cons last before =>
    rw [gap]
    split
    · rfl
    · exact solid_cons_empty _

theorem emits_trimGaps : Emits width trimGaps [] := by
  intro lines
  induction lines with
  | nil => rfl
  | cons last before ih =>
    unfold trimGaps at ih ⊢
    rw [List.dropWhile_cons]
    split
    · rename_i hempty
      rw [ih, String.isEmpty_iff.mp hempty]
      rfl
    · rfl

theorem emits_foldl {α : Type} {step : Lines → α → Lines} {list : α → List ListedLine}
    (h : ∀ a, Emits width (step · a) (list a)) (as : List α) :
    Emits width (as.foldl step) (as.flatMap list) := by
  induction as with
  | nil => exact emits_id
  | cons a as ih => exact (h a).comp ih

end Emits

section Printer

variable (page : Page) (depth : Nat)

theorem indentBlock_empty (indent : String) : indentBlock "" indent = "" := by
  rw [indentBlock, String.toList_empty]
  rfl

theorem write_eq (lines : Lines) (text : String) :
    write page depth lines text =
      (ListedLine.mk depth text).indented page.style.indentWidth :: lines := by
  unfold write ListedLine.indented
  split
  · rename_i hempty
    rw [String.isEmpty_iff.mp hempty, indentBlock_empty]
  · rfl

theorem emits_write (text : String) :
    Emits page.style.indentWidth (write page depth · text) [⟨depth, text⟩] := by
  intro lines
  dsimp only
  rw [write_eq, ← solid_reverse, ← solid_append]
  rfl

theorem emits_writeAll (texts : List String) :
    Emits page.style.indentWidth (writeAll page depth · texts) (listAll depth texts) := by
  have h := emits_foldl (emits_write page depth) texts
  rwa [← List.map_eq_flatMap] at h

theorem emits_writeGroup (texts : List String) :
    Emits page.style.indentWidth (writeGroup page depth · texts) (listAll depth texts) := by
  unfold writeGroup
  cases texts with
  | nil => exact emits_id
  | cons text texts => exact (emits_writeAll page depth _).then emits_gap

theorem emits_annotations (uses : List AnnotationUse) :
    Emits page.style.indentWidth (writeAll page depth · (annotationTexts page uses))
      (listAll depth (annotationLines page.namer uses)) := by
  rw [← map_annotationText]
  exact emits_writeAll page depth (annotationTexts page uses)

theorem emits_writeField (f : FieldDecl) :
    Emits page.style.indentWidth (writeField page depth · f) (listField page.namer depth f) := by
  unfold writeField
  rw [annotationTexts_append_fieldLine]
  exact emits_writeAll page depth (fieldDeclaration page.namer f)

theorem emits_writeFields (c : ClassDecl) :
    Emits page.style.indentWidth (writeFields page depth c) (listFields page.namer depth c) := by
  unfold writeFields listFields
  by_cases hkind : c.kind = .record
  · rw [if_pos hkind, hkind]
    exact emits_id
  · rw [if_neg hkind, beq_false_of_ne hkind]
    cases hfields : c.fields with
    | nil => exact emits_id
    | cons f fs =>
      exact ((emits_foldl (emits_writeField page depth) (f :: fs)).after emits_gap).then emits_gap

theorem isBodiless_iff (owner : ClassDecl) (m : MethodDecl) :
    isBodiless owner m = true ↔ EndsWithHead owner m := by
  simp [isBodiless, EndsWithHead]

theorem emits_writeMethod (owner : ClassDecl) (m : MethodDecl) :
    Emits page.style.indentWidth (writeMethod page depth owner · m)
      (listMethod page.namer depth owner m) := by
  have hannotations := emits_annotations page depth m.annotations
  unfold writeMethod listMethod
  dsimp only
  rw [methodHead_eq]
  by_cases hends : EndsWithHead owner m
  · rw [if_pos hends, (isBodiless_iff owner m).mpr hends]
    exact hannotations.comp (emits_write page depth _)
  · rw [if_neg hends, Bool.eq_false_iff.mpr (mt (isBodiless_iff owner m).mp hends)]
    have hhead := emits_write page depth (methodSignature page.namer owner m ++ " \x7b")
    have hbody := emits_writeAll page (depth + 1) m.body
    have hblock := (hhead.comp hbody).comp (emits_write page depth "\x7d")
    have hwhole := hannotations.comp hblock
    rwa [List.singleton_append] at hwhole

theorem emits_writeMethods (c : ClassDecl) :
    Emits page.style.indentWidth (writeMethods page depth c)
      (c.methods.flatMap (listMethod page.namer depth c)) :=
  emits_foldl (fun m => ((emits_writeMethod page depth c m).after emits_gap).then emits_gap) _

theorem emits_writeOpening (c : ClassDecl) :
    Emits page.style.indentWidth (writeOpening page depth c)
      (listOpening page.namer depth c) := by
  have hannotations := emits_annotations page depth c.annotations
  have hhead := emits_write page depth (classHead page.namer c)
  rw [classHead_eq] at hhead
  have hconstants : Emits page.style.indentWidth
      (writeGroup page (depth + 1) · (if c.enumConstants.isEmpty then [] else [enumLine c]))
      (listConstants (depth + 1) c) := by
    unfold listConstants
    by_cases hnone : c.enumConstants = []
    · rw [if_pos hnone, hnone]
      exact emits_id
    · rw [if_neg hnone, if_neg (by simpa using hnone)]
      exact emits_writeGroup page (depth + 1) [enumLine c]
  unfold writeOpening
  dsimp only
  rw [classHead_eq]
  exact (((hannotations.comp hhead).comp hconstants).comp
    (emits_writeFields page (depth + 1) c)).comp (emits_writeMethods page (depth + 1) c)

end Printer

mutual

/-- Before the closing brace only blank lines are taken back. -/
theorem emits_writeClass (page : Page) : ∀ (depth : Nat) (c : ClassDecl),
    Emits page.style.indentWidth (writeClass page depth · c) (listClass page.namer depth c)
  | depth, { innerClasses, .. } => by
    simp only [writeClass, listClass]
    exact (((emits_writeOpening page depth _).comp
      (emits_writeNested page (depth + 1) innerClasses)).then emits_trimGaps).comp
        (emits_write page depth "\x7d")

theorem emits_writeNested (page : Page) : ∀ (depth : Nat) (cs : List ClassDecl),
    Emits page.style.indentWidth (writeNested page depth · cs) (listClasses page.namer depth cs)
  | _, [] => emits_id
  | depth, c :: cs => by
    simp only [writeNested, listClasses]
    exact (((emits_writeClass page depth c).after emits_gap).then emits_gap).comp
      (emits_writeNested page depth cs)

end

theorem emits_writeClasses (page : Page) (cs : List ClassDecl) :
    Emits page.style.indentWidth (writeClasses page · cs) (listClasses page.namer 0 cs) := by
  induction cs with
  | nil => exact emits_id
  | cons c cs ih =>
    cases cs with
    | nil =>
      simp only [writeClasses, listClasses, List.append_nil]
      exact emits_writeClass page 0 c
    | cons d ds =>
      simp only [writeClasses]
      rw [listClasses]
      exact ((emits_writeClass page 0 c).then emits_gap).comp ih

theorem solid_fileLines (style : Style) (file : SourceFile) :
    solid (fileLines style file) =
      solid ((listFile file).map (·.indented style.indentWidth)) := by
  let page : Page := ⟨style, .ofFile file⟩
  let groups := [packageLines file.header, importLines file.header, staticImportLines file.header]
  have hgroups := emits_foldl (emits_writeGroup page 0) groups
  have hfile := (hgroups.comp (emits_writeClasses page file.classes)).then emits_trimGaps
  have hpackage : packageLines file.header =
      file.header.package.toList.map fun name => "package " ++ name ++ ";" := by
    unfold packageLines
    cases file.header.package <;> rfl
  have hlisted :
      groups.flatMap (listAll 0) ++ listClasses page.namer 0 file.classes = listFile file := by
    simp [groups, hpackage, importLines, staticImportLines, FileHeader.plainImports,
      FileHeader.staticImports, listFile, listHeader, page]
  rw [hlisted] at hfile
  have hsolid := (hfile []).trans (List.append_nil _)
  rw [fileLines, solid_reverse, hsolid, List.reverse_reverse]

section Text

/-- The lines of a text that are not empty. -/
def solidLines (text : String) : List (List Char) :=
  (splitLines text.toList).filter (!·.isEmpty)

theorem splitLines_ne_nil (cs : List Char) : splitLines cs ≠ [] := by
  cases cs with
  | nil => exact List.cons_ne_nil _ _
  | cons c cs =>
    unfold splitLines
    split
    · exact List.cons_ne_nil _ _
    · split <;> exact List.cons_ne_nil _ _

theorem splitLines_append (cs ds : List Char) :
    splitLines (cs ++ '\n' :: ds) = splitLines cs ++ splitLines ds := by
  induction cs with
  | nil => rfl
  | cons c cs ih =>
    rw [List.cons_append, splitLines, splitLines, ih]
    split
    · rfl
    · cases h : splitLines cs with
      | nil => exact absurd h (splitLines_ne_nil cs)
      | cons line rest => rfl

theorem solidLines_append (text text' : String) :
    solidLines (text ++ "\n" ++ text') = solidLines text ++ solidLines text' := by
  have hlist : (text ++ "\n" ++ text').toList = text.toList ++ '\n' :: text'.toList := by simp
  rw [solidLines, hlist, splitLines_append, List.filter_append]
  rfl

theorem solidLines_intercalate (lines : List String) :
    solidLines ("\n".intercalate lines) = lines.flatMap solidLines := by
  induction lines with
  | nil => rfl
  | cons line lines ih =>
    cases lines with
    | nil => simp
    | cons next rest =>
      rw [String.intercalate_cons_cons, solidLines_append, ih]
      rfl

theorem flatMap_solidLines_solid (lines : List String) :
    (solid lines).flatMap solidLines = lines.flatMap solidLines := by
  induction lines with
  | nil => rfl
  | cons line lines ih =>
    rw [← List.singleton_append, solid_append, List.flatMap_append, ih, List.flatMap_append]
    congr 1
    cases hempty : line.isEmpty with
    | true =>
      rw [String.isEmpty_iff.mp hempty]
      rfl
    | false => simp [solid, hempty]

end Text

/-- Up to empty lines the printer shows exactly the listing of the file, in its order; and so does
the printed text, where every line feed ends a line. -/
theorem fileLines_listing (style : Style) (file : SourceFile) :
    solid (fileLines style file) = solid ((listFile file).map (·.indented style.indentWidth)) ∧
      solidLines (render { style with newline := "\n" } file) =
        (listFile file).flatMap fun line => solidLines (line.indented style.indentWidth) := by
  refine ⟨solid_fileLines style file, ?_⟩
  have hrender : render { style with newline := "\n" } file =
      "\n".intercalate (fileLines { style with newline := "\n" } file) ++ "\n" ++ "" :=
    String.append_empty.symm
  calc solidLines (render { style with newline := "\n" } file)
      = (fileLines { style with newline := "\n" } file).flatMap solidLines := by
        rw [hrender, solidLines_append, solidLines_intercalate]
        exact List.append_nil _
    _ = (solid ((listFile file).map (·.indented style.indentWidth))).flatMap solidLines := by
        rw [← flatMap_solidLines_solid, solid_fileLines]
    _ = _ := by rw [flatMap_solidLines_solid, List.flatMap_map]

end MockScaffold.Layout
