import MockScaffold.Proofs.Layout.Kept
import MockScaffold.Proofs.Layout.Shown

namespace MockScaffold

/-- A field with nothing but a name and a type. -/
def FieldDecl.bare (f : FieldDecl) : FieldDecl :=
  { name := f.name, type := f.type }

namespace ClassDecl

mutual

/-- The class with bare fields in the records of its tree. -/
def bareRecords (c : ClassDecl) : ClassDecl :=
  match c with
  | { innerClasses, .. } =>
    { c with
      fields := if c.kind = .record then c.fields.map (·.bare) else c.fields
      innerClasses := bareRecordsAll innerClasses }

def bareRecordsAll : List ClassDecl → List ClassDecl
  | [] => []
  | c :: cs => bareRecords c :: bareRecordsAll cs

end

theorem bareRecords_eq (c : ClassDecl) :
    c.bareRecords =
      { c with
        fields := if c.kind = .record then c.fields.map (·.bare) else c.fields
        innerClasses := bareRecordsAll c.innerClasses } := by
  cases c
  rfl

mutual

theorem qualifiedNames_walk_bareRecords : ∀ c : ClassDecl,
    c.bareRecords.walk.map (·.qualifiedName) = c.walk.map (·.qualifiedName)
  | { innerClasses, .. } => by
    simp only [bareRecords, walk, List.map_cons]
    rw [qualifiedNames_walkAll_bareRecordsAll innerClasses]

theorem qualifiedNames_walkAll_bareRecordsAll : ∀ cs : List ClassDecl,
    (walkAll (bareRecordsAll cs)).map (·.qualifiedName) = (walkAll cs).map (·.qualifiedName)
  | [] => rfl
  | c :: cs => by
    rw [bareRecordsAll, walkAll, walkAll, List.map_append, List.map_append,
      qualifiedNames_walk_bareRecords c, qualifiedNames_walkAll_bareRecordsAll cs]

end

end ClassDecl

def SourceFile.bareRecords (file : SourceFile) : SourceFile :=
  { file with classes := ClassDecl.bareRecordsAll file.classes }

namespace Layout

section Records

theorem ofFile_bareRecords (file : SourceFile) : Namer.ofFile file.bareRecords = .ofFile file := by
  unfold Namer.ofFile SourceFile.bareRecords
  dsimp only
  rw [ClassDecl.qualifiedNames_walkAll_bareRecordsAll]

theorem classHead_bare (namer : Namer) (c : ClassDecl) (inner : List ClassDecl) :
    classHead namer { c with fields := c.fields.map (·.bare), innerClasses := inner } =
      classHead namer c := by
  have hcomponents : (c.fields.map (·.bare)).map (fun f => component namer f.type f.name) =
      c.fields.map fun f => component namer f.type f.name := List.map_map
  unfold classHead recordComponents
  dsimp only
  rw [hcomponents]
  rfl

/-- What stands before the nested classes shows no more of a record's fields. -/
theorem writeOpening_bareRecords (page : Page) (depth : Nat) (c : ClassDecl) (lines : Lines) :
    writeOpening page depth c.bareRecords lines = writeOpening page depth c lines := by
  rw [ClassDecl.bareRecords_eq]
  by_cases hkind : c.kind = .record
  · have hfields (d : ClassDecl) (hd : d.kind = .record) : writeFields page (depth + 1) d = id := by
      funext lines
      rw [writeFields, hd]
      rfl
    rw [if_pos hkind]
    unfold writeOpening
    dsimp only
    rw [classHead_bare, hfields c hkind, hfields { c with fields := _, innerClasses := _ } hkind]
    rfl
  · rw [if_neg hkind]
    rfl

theorem writeClass_eq (page : Page) (depth : Nat) (lines : Lines) (c : ClassDecl) :
    writeClass page depth lines c =
      write page depth
        (trimGaps (writeNested page (depth + 1) (writeOpening page depth c lines) c.innerClasses))
        "\x7d" := by
  cases c
  rfl

mutual

theorem writeClass_bareRecords (page : Page) : ∀ (depth : Nat) (lines : Lines) (c : ClassDecl),
    writeClass page depth lines c.bareRecords = writeClass page depth lines c
  | depth, lines, { innerClasses, .. } => by
    rw [writeClass_eq, writeClass_eq, writeOpening_bareRecords, ClassDecl.bareRecords_eq]
    dsimp only
    rw [writeNested_bareRecords page (depth + 1) _ innerClasses]

theorem writeNested_bareRecords (page : Page) :
    ∀ (depth : Nat) (lines : Lines) (cs : List ClassDecl),
      writeNested page depth lines (ClassDecl.bareRecordsAll cs) = writeNested page depth lines cs
  | _, _, [] => rfl
  | depth, lines, c :: cs => by
    rw [ClassDecl.bareRecordsAll, writeNested, writeNested, writeClass_bareRecords page depth _ c,
      writeNested_bareRecords page depth _ cs]

end

theorem writeClasses_bareRecords (page : Page) (lines : Lines) (cs : List ClassDecl) :
    writeClasses page lines (ClassDecl.bareRecordsAll cs) = writeClasses page lines cs := by
  induction cs generalizing lines with
  | nil => rfl
  | cons c cs ih =>
    cases cs with
    | nil => exact writeClass_bareRecords page 0 lines c
    | cons d ds =>
      show writeClasses page (gap (writeClass page 0 lines c.bareRecords))
          (ClassDecl.bareRecordsAll (d :: ds)) =
        writeClasses page (gap (writeClass page 0 lines c)) (d :: ds)
      rw [writeClass_bareRecords, ih]

theorem render_bareRecords (style : Style) (file : SourceFile) :
    render style file.bareRecords = render style file := by
  unfold render fileLines
  rw [ofFile_bareRecords]
  dsimp only [SourceFile.bareRecords]
  rw [writeClasses_bareRecords]

theorem shows_components (namer : Namer) {c : ClassDecl} (hkind : c.kind = .record) :
    Shows (classHead namer c) ("(" ++ ", ".intercalate
      (c.fields.map fun f => namer.typeText f.type ++ " " ++ f.name) ++ ")") := by
  have hcomponents : recordComponents namer c =
      "(" ++ commaList (c.fields.map fun f => component namer f.type f.name) ++ ")" :=
    if_pos (by rw [hkind]; rfl)
  have hhead := shows_append (modifierText c.modifiers ++ c.kind.keyword ++ " " ++ c.name)
    (recordComponents namer c) (superTypeText namer c ++ " \x7b")
  rw [← String.append_assoc, hcomponents] at hhead
  rw [classHead, hcomponents]
  exact hhead

end Records

section Fields

variable (style : Style) {file : SourceFile} {c : ClassDecl}

/-- The lines of a field's declaration are printed one after the other. -/
theorem fieldDeclaration_infix {f : FieldDecl} (hc : c ∈ ClassDecl.walkAll file.classes)
    (hkind : c.kind ≠ .record) (hf : f ∈ c.fields) :
    ∃ depth, (listAll depth (fieldDeclaration (.ofFile file) f)).map
      (·.indented style.indentWidth) <:+: fileLines style file := by
  obtain ⟨depth, lines, hclass⟩ := ran_fileLines style hc
  obtain ⟨before, hfield⟩ := ran_writeField ⟨style, .ofFile file⟩ hkind hf depth lines
  have hran : Ran (writeField ⟨style, .ofFile file⟩ (depth + 1) · f)
      (fileLines style file).reverse := ⟨before, hfield.trans hclass⟩
  have hinfix := infix_of_ran hran (hasContent_fieldLine (.ofFile file) f).ne_empty
  rw [annotationTexts_append_fieldLine, List.reverse_reverse] at hinfix
  exact ⟨depth + 1, hinfix⟩

theorem classHead_infix (hc : c ∈ ClassDecl.walkAll file.classes) :
    ∃ depth, [(ListedLine.mk depth (classHead (.ofFile file) c)).indented style.indentWidth] <:+:
      fileLines style file := by
  obtain ⟨depth, lines, hclass⟩ := ran_fileLines style hc
  obtain ⟨before, hhead⟩ := ran_classHead ⟨style, .ofFile file⟩ depth c lines
  have hran : Ran (writeAll ⟨style, .ofFile file⟩ depth · ([] ++ [classHead (.ofFile file) c]))
      (fileLines style file).reverse := ⟨before, hhead.trans hclass⟩
  have hinfix := infix_of_ran hran (hasContent_classHead (.ofFile file) c).ne_empty
  rw [List.reverse_reverse] at hinfix
  exact ⟨depth, hinfix⟩

end Fields

/-- In the text of a file each field of a class that is no record is declared in full, in indented
lines that follow each other, and of the fields of a record only the types and names are shown,
all of them in the head. -/
theorem fields_printed (style : Style) (file : SourceFile) :
    let text := render style file
    let namer := Namer.ofFile file
    (∀ c ∈ ClassDecl.walkAll file.classes, c.kind ≠ .record → ∀ f ∈ c.fields,
      (∃ depth, Shows text (style.newline.intercalate
        ((listAll depth (fieldDeclaration namer f)).map (·.indented style.indentWidth)))) ∧
      ∀ line ∈ fieldDeclaration namer f, '\n' ∉ line.toList → Shows text line) ∧
    (∀ c ∈ ClassDecl.walkAll file.classes, c.kind = .record →
      (∃ depth, Shows text ((ListedLine.mk depth (classHead namer c)).indented style.indentWidth)) ∧
      Shows (classHead namer c) ("(" ++ ", ".intercalate
        (c.fields.map fun f => namer.typeText f.type ++ " " ++ f.name) ++ ")")) ∧
    text = render style file.bareRecords := by
  intro text namer
  refine ⟨fun c hc hkind f hf => ?_, fun c hc hkind => ⟨?_, shows_components namer hkind⟩,
    (render_bareRecords style file).symm⟩
  · obtain ⟨depth, hinfix⟩ := fieldDeclaration_infix style hc hkind hf
    have hblock := shows_render style file hinfix
    refine ⟨⟨depth, hblock⟩, fun line hline hfeed => hblock.trans ?_⟩
    exact shows_of_mem (List.mem_map_of_mem hline) hfeed
  · obtain ⟨depth, hinfix⟩ := classHead_infix style hc
    have hhead := shows_render style file hinfix
    rw [String.intercalate_singleton] at hhead
    exact ⟨depth, hhead⟩

/-- A record with an annotated field. -/
def cartRecord : SourceFile where
  name := "Cart.java"
  classes :=
    [{ name := "Cart"
       qualifiedName := "Cart"
       kind := .record
       fields :=
         [{ name := "total", type := .primitive .int, annotations := [{ name := "Positive" }] }] }]

/-- There is no annotation in its text. -/
theorem not_forall_fields_printed :
    ¬∀ (style : Style) (file : SourceFile), ∀ c ∈ ClassDecl.walkAll file.classes, ∀ f ∈ c.fields,
      ∀ line ∈ fieldDeclaration (.ofFile file) f, '\n' ∉ line.toList →
        Shows (render style file) line := by
  intro hall
  have hshows :=
    hall {} cartRecord _ (.head _) _ (.head _) "@Positive" (by decide) (by decide)
  have hmark : '@' ∈ (render {} cartRecord).toList := hshows.subset (by decide)
  exact absurd hmark (by decide)

end Layout

end MockScaffold
