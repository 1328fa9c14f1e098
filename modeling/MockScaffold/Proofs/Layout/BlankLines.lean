import Mathlib.Data.List.Chain
import MockScaffold.Proofs.Layout.Listing

namespace MockScaffold.Layout

/-- A closing brace alone in its line, as every class and every method with a body ends. -/
def IsClosing (width : Nat) (line : String) : Prop :=
  ∃ depth, line = (ListedLine.mk depth "\x7d").indented width

/-- What is asked of a line and the next one. -/
structure MayFollow (width : Nat) (line next : String) : Prop where
  blank : next = "" → line ≠ "" ∧ line.toList.getLast? ≠ some '\x7b'
  closing : IsClosing width next → line ≠ ""

structure WellSpaced (width : Nat) (lines : List String) : Prop where
  neighbours : lines.IsChain (MayFollow width)
  first : lines.head? ≠ some ""
  last : lines.getLast? ≠ some ""

section Indentation

theorem intercalate_splitLines (cs : List Char) : ['\n'].intercalate (splitLines cs) = cs := by
  induction cs with
  | nil => rfl
  | cons c cs ih =>
    rw [splitLines]
    cases hlines : splitLines cs with
    | nil => exact absurd hlines (splitLines_ne_nil cs)
    | cons line rest =>
      rw [hlines] at ih
      split
      · rename_i hfeed
        rw [List.intercalate_cons_cons, ih, hfeed]
        rfl
      · cases rest with
        | nil => simpa using ih
        | cons next rest =>
          rw [List.intercalate_cons_cons] at ih ⊢
          rw [← ih]
          rfl

theorem sublist_indentLine (indent line : List Char) : line.Sublist (indentLine indent line) := by
  unfold indentLine
  split
  · exact List.Sublist.refl line
  · exact List.sublist_append_right indent line

theorem intercalate_sublist_map {α : Type} {f : List α → List α} (hf : ∀ l, List.Sublist l (f l))
    (sep : List α) (ls : List (List α)) :
    (sep.intercalate ls).Sublist (sep.intercalate (ls.map f)) := by
  induction ls with
  | nil => exact List.Sublist.refl _
  | cons l ls ih =>
    cases ls with
    | nil => simpa using hf l
    | cons next rest =>
      rw [List.map_cons, List.map_cons, List.intercalate_cons_cons, List.intercalate_cons_cons]
      exact ((hf l).append (List.Sublist.refl sep)).append ih

variable {line : ListedLine} {text : String}

theorem sublist_indented (line : ListedLine) (width : Nat) :
    line.text.toList.Sublist (line.indented width).toList := by
  have h := intercalate_sublist_map (sublist_indentLine (List.replicate (line.depth * width) ' '))
    ['\n'] (splitLines line.text.toList)
  rw [intercalate_splitLines] at h
  simpa [ListedLine.indented, indentBlock] using h

theorem indented_ne_empty (h : line.text ≠ "") (width : Nat) : line.indented width ≠ "" := by
  intro hempty
  have hsub := sublist_indented line width
  rw [hempty, String.toList_empty, List.sublist_nil] at hsub
  exact h (String.toList_eq_nil_iff.mp hsub)

theorem toList_of_isClosing {width : Nat} {line : String} (h : IsClosing width line) :
    ∃ n, line.toList = List.replicate n ' ' ++ ['\x7d'] := by
  obtain ⟨depth, rfl⟩ := h
  have hbrace : Text.isBlank '\x7d' = false := by decide
  refine ⟨depth * width, ?_⟩
  simp [ListedLine.indented, indentBlock, splitLines, indentLine, hbrace]

theorem not_isClosing_empty (width : Nat) : ¬IsClosing width "" := by
  intro h
  obtain ⟨n, hn⟩ := toList_of_isClosing h
  simp at hn

/-- A text with more in it than blanks and closing braces. -/
def HasContent (text : String) : Prop :=
  ∃ c ∈ text.toList, c ≠ ' ' ∧ c ≠ '\x7d'

instance (text : String) : Decidable (HasContent text) :=
  List.decidableBEx _ text.toList

theorem HasContent.ne_empty (h : HasContent text) : text ≠ "" := by
  obtain ⟨c, hc, -⟩ := h
  rintro rfl
  cases hc

theorem HasContent.append_left (h : HasContent text) (before : String) :
    HasContent (before ++ text) := by
  obtain ⟨c, hc, hother⟩ := h
  exact ⟨c, by rw [String.toList_append]; exact List.mem_append_right _ hc, hother⟩

theorem HasContent.append_right (h : HasContent text) (after : String) :
    HasContent (text ++ after) := by
  obtain ⟨c, hc, hother⟩ := h
  exact ⟨c, by rw [String.toList_append]; exact List.mem_append_left _ hc, hother⟩

theorem HasContent.not_isClosing (h : HasContent line.text) (width : Nat) :
    ¬IsClosing width (line.indented width) := by
  intro hclosing
  obtain ⟨n, hn⟩ := toList_of_isClosing hclosing
  obtain ⟨c, hc, hblank, hbrace⟩ := h
  have hmem := (sublist_indented line width).subset hc
  rw [hn, List.mem_append] at hmem
  rcases hmem with hmem | hmem
  · exact hblank (List.eq_of_mem_replicate hmem)
  · exact hbrace (List.mem_singleton.mp hmem)

end Indentation

/-- A buffer, its last line first, in which each line may follow the one before. -/
structure Spaced (width : Nat) (lines : Lines) : Prop where
  neighbours : lines.IsChain fun next line => MayFollow width line next
  first : lines.getLast? ≠ some ""

/-- A buffer to which a closing brace may be added. -/
structure Closable (width : Nat) (lines : Lines) : Prop extends Spaced width lines where
  last : lines.head? ≠ some ""

section Buffer

variable {width : Nat} {lines : Lines} {line : String}

theorem closable_nil : Closable width [] where
  neighbours := .nil
  first := nofun
  last := nofun

theorem Spaced.tail (h : Spaced width (line :: lines)) : Spaced width lines := by
  refine ⟨h.neighbours.tail, ?_⟩
  cases lines with
  | nil => exact nofun
  | cons next lines =>
    have hfirst := h.first
    rwa [List.getLast?_cons_cons] at hfirst

/-- A line that is not empty may be added, if it closes nothing or may close what it follows. -/
theorem Spaced.cons (h : Spaced width lines) (hline : line ≠ "")
    (hclosing : IsClosing width line → lines.head? ≠ some "") : Closable width (line :: lines) := by
  refine ⟨⟨List.isChain_cons.mpr ⟨fun last hlast => ⟨fun hempty => absurd hempty hline, ?_⟩,
    h.neighbours⟩, ?_⟩, fun hhead => hline (Option.some.inj hhead)⟩
  · intro hclose hempty
    rw [hempty] at hlast
    exact hclosing hclose hlast
  · cases lines with
    | nil => exact fun hlast => hline (Option.some.inj hlast)
    | cons next lines =>
      rw [List.getLast?_cons_cons]
      exact h.first

theorem endsWith_brace_iff {text : String} :
    Text.endsWith text "\x7b" = true ↔ text.toList.getLast? = some '\x7b' := by
  rw [Text.endsWith, List.isSuffixOf_iff_suffix]
  exact List.singleton_suffix_iff_getLast?_eq_some

theorem Spaced.gap (h : Spaced width lines) : Spaced width (gap lines) := by
  cases lines with
  | nil => exact h
  | cons last before =>
    rw [Layout.gap]
    split
    · exact h
    · rename_i hlast
      rw [Bool.or_eq_true, not_or, String.isEmpty_iff, endsWith_brace_iff] at hlast
      refine ⟨List.isChain_cons_cons.mpr ⟨⟨fun _ => hlast, ?_⟩, h.neighbours⟩, ?_⟩
      · exact fun hclosing => absurd hclosing (not_isClosing_empty width)
      · rw [List.getLast?_cons_cons]
        exact h.first

/-- With the blank lines at its end gone a buffer may be closed. -/
theorem Spaced.trimGaps (h : Spaced width lines) : Closable width (trimGaps lines) := by
  induction lines with
  | nil => exact closable_nil
  | cons last before ih =>
    unfold Layout.trimGaps at ih ⊢
    rw [List.dropWhile_cons]
    split
    · exact ih h.tail
    · rename_i hlast
      refine ⟨h, fun hhead => hlast ?_⟩
      rw [Option.some.inj hhead]
      rfl

end Buffer

section Writing

variable {page : Page} {lines : Lines} {text : String} {texts : List String} (depth : Nat)

theorem Spaced.write (h : Spaced page.style.indentWidth lines) (htext : HasContent text) :
    Closable page.style.indentWidth (write page depth lines text) := by
  rw [write_eq]
  apply h.cons (indented_ne_empty htext.ne_empty _)
  exact fun hclosing => absurd hclosing (htext.not_isClosing _)

theorem Closable.write (h : Closable page.style.indentWidth lines) (htext : text ≠ "") :
    Closable page.style.indentWidth (write page depth lines text) := by
  rw [write_eq]
  exact h.cons (indented_ne_empty htext _) fun _ => h.last

theorem Spaced.writeAll (h : Spaced page.style.indentWidth lines)
    (htexts : ∀ text ∈ texts, HasContent text) :
    Spaced page.style.indentWidth (writeAll page depth lines texts) :=
  List.foldlRecOn texts _ h fun _ hbefore text hmem =>
    (hbefore.write depth (htexts text hmem)).toSpaced

theorem Closable.writeAll (h : Closable page.style.indentWidth lines)
    (htexts : ∀ text ∈ texts, text ≠ "") :
    Closable page.style.indentWidth (writeAll page depth lines texts) :=
  List.foldlRecOn texts _ h fun _ hbefore text hmem => hbefore.write depth (htexts text hmem)

theorem Spaced.writeGroup (h : Spaced page.style.indentWidth lines)
    (htexts : ∀ text ∈ texts, HasContent text) :
    Spaced page.style.indentWidth (writeGroup page depth lines texts) := by
  unfold Layout.writeGroup
  split
  · exact h
  · exact (h.writeAll depth htexts).gap

end Writing

section Texts

variable (namer : Namer)

theorem hasContent_annotationText (use : AnnotationUse) :
    HasContent (namer.annotationText use) := by
  have hname : HasContent ("@" ++ namer.className use.name) :=
    HasContent.append_right (by decide) _
  unfold Namer.annotationText
  split
  · exact ((hname.append_right _).append_right _).append_right _
  · exact hname

theorem forall_annotationTexts (page : Page) (uses : List AnnotationUse) :
    ∀ text ∈ annotationTexts page uses, HasContent text := by
  intro text htext
  obtain ⟨use, -, rfl⟩ := List.mem_map.mp htext
  exact hasContent_annotationText page.namer use

theorem hasContent_fieldLine (f : FieldDecl) : HasContent (fieldLine namer f) :=
  HasContent.append_left (by decide) _

theorem hasContent_classHead (c : ClassDecl) : HasContent (classHead namer c) :=
  HasContent.append_left (by decide) _

theorem hasContent_enumLine (c : ClassDecl) : HasContent (enumLine c) :=
  HasContent.append_left (by decide) _

end Texts

section Printer

variable {page : Page} {lines : Lines} (depth : Nat)

theorem Spaced.writeField (h : Spaced page.style.indentWidth lines) (f : FieldDecl) :
    Spaced page.style.indentWidth (writeField page depth lines f) := by
  apply h.writeAll
  intro text htext
  rcases List.mem_append.mp htext with hannotation | hfield
  · exact forall_annotationTexts page f.annotations text hannotation
  · rw [List.mem_singleton.mp hfield]
    exact hasContent_fieldLine page.namer f

theorem Spaced.writeFields (h : Spaced page.style.indentWidth lines) (c : ClassDecl) :
    Spaced page.style.indentWidth (writeFields page depth c lines) := by
  unfold Layout.writeFields
  split
  · exact h
  · apply Spaced.gap
    exact List.foldlRecOn c.fields _ h.gap fun _ hbefore f _ => hbefore.writeField depth f

/-- Between the head and the closing brace of a method there are only statements. -/
theorem Spaced.writeMethod (h : Spaced page.style.indentWidth lines) (owner : ClassDecl)
    {m : MethodDecl} (hbody : "" ∉ m.body) :
    Spaced page.style.indentWidth (writeMethod page depth owner lines m) := by
  have hannotations := h.writeAll depth (forall_annotationTexts page m.annotations)
  unfold Layout.writeMethod
  dsimp only
  split
  · exact (hannotations.write depth (HasContent.append_left (by decide) _)).toSpaced
  · have hhead : HasContent (methodHead page.namer owner m ++ " \x7b") :=
      HasContent.append_left (by decide) _
    have hbody' : ∀ text ∈ m.body, text ≠ "" := fun text hmem hempty => hbody (hempty ▸ hmem)
    have hstatements := (hannotations.write depth hhead).writeAll (depth + 1) hbody'
    exact (hstatements.write depth (by decide)).toSpaced

theorem Spaced.writeMethods (h : Spaced page.style.indentWidth lines) {c : ClassDecl}
    (hc : ∀ m ∈ c.methods, "" ∉ m.body) :
    Spaced page.style.indentWidth (writeMethods page depth c lines) :=
  List.foldlRecOn c.methods _ h fun _ hbefore m hm =>
    (hbefore.gap.writeMethod depth c (hc m hm)).gap

theorem Spaced.writeOpening (h : Spaced page.style.indentWidth lines) {c : ClassDecl}
    (hc : ∀ m ∈ c.methods, "" ∉ m.body) :
    Spaced page.style.indentWidth (writeOpening page depth c lines) := by
  have hannotations := h.writeAll depth (forall_annotationTexts page c.annotations)
  have hhead := hannotations.write depth (hasContent_classHead page.namer c)
  unfold Layout.writeOpening
  apply Spaced.writeMethods _ _ hc
  apply Spaced.writeFields
  apply hhead.toSpaced.writeGroup
  intro text htext
  split at htext
  · cases htext
  · rw [List.mem_singleton.mp htext]
    exact hasContent_enumLine c

end Printer

mutual

theorem Spaced.writeClass {page : Page} : ∀ {lines : Lines} (depth : Nat) {c : ClassDecl},
    Spaced page.style.indentWidth lines → (∀ d ∈ c.walk, ∀ m ∈ d.methods, "" ∉ m.body) →
      Closable page.style.indentWidth (writeClass page depth lines c)
  | lines, depth, { innerClasses, .. }, h, hbodies => by
    rw [ClassDecl.walk, List.forall_mem_cons] at hbodies
    rw [Layout.writeClass]
    have hopening := h.writeOpening depth hbodies.1
    have hnested := hopening.writeNested (depth + 1) hbodies.2
    exact hnested.trimGaps.write depth (by decide)

theorem Spaced.writeNested {page : Page} : ∀ {lines : Lines} (depth : Nat) {cs : List ClassDecl},
    Spaced page.style.indentWidth lines →
      (∀ d ∈ ClassDecl.walkAll cs, ∀ m ∈ d.methods, "" ∉ m.body) →
      Spaced page.style.indentWidth (writeNested page depth lines cs)
  | _, _, [], h, _ => h
  | lines, depth, c :: cs, h, hbodies => by
    rw [ClassDecl.walkAll, List.forall_mem_append] at hbodies
    rw [Layout.writeNested]
    have hclass := h.gap.writeClass depth hbodies.1
    exact hclass.toSpaced.gap.writeNested depth hbodies.2

end

theorem Spaced.writeClasses {page : Page} {lines : Lines} {cs : List ClassDecl}
    (h : Spaced page.style.indentWidth lines)
    (hbodies : ∀ d ∈ ClassDecl.walkAll cs, ∀ m ∈ d.methods, "" ∉ m.body) :
    Spaced page.style.indentWidth (writeClasses page lines cs) := by
  induction cs generalizing lines with
  | nil => exact h
  | cons c cs ih =>
    rw [ClassDecl.walkAll, List.forall_mem_append] at hbodies
    have hclass := h.writeClass 0 hbodies.1
    cases cs with
    | nil => exact hclass.toSpaced
    | cons d ds => exact ih hclass.toSpaced.gap hbodies.2

theorem hasContent_headerLines {h : FileHeader} {text : String}
    (htext : text ∈ packageLines h ∨ text ∈ importLines h ∨ text ∈ staticImportLines h) :
    HasContent text := by
  rcases htext with hpackage | himport | hstatic
  · unfold packageLines at hpackage
    split at hpackage
    · rw [List.mem_singleton.mp hpackage]
      exact HasContent.append_left (by decide) _
    · cases hpackage
  · obtain ⟨i, -, rfl⟩ := List.mem_map.mp himport
    exact HasContent.append_left (by decide) _
  · obtain ⟨i, -, rfl⟩ := List.mem_map.mp hstatic
    exact HasContent.append_left (by decide) _

/-- If no statement is an empty text, the lines of a file have no two empty ones in a row, no empty
one below a line that ends with an opening brace or above a closing one, and none at either end. -/
theorem fileLines_wellSpaced (style : Style) (file : SourceFile)
    (hbodies : ∀ c ∈ ClassDecl.walkAll file.classes, ∀ m ∈ c.methods, "" ∉ m.body) :
    WellSpaced style.indentWidth (fileLines style file) := by
  let page : Page := ⟨style, .ofFile file⟩
  let groups := [packageLines file.header, importLines file.header, staticImportLines file.header]
  have hgroups : Spaced page.style.indentWidth (groups.foldl (writeGroup page 0) []) := by
    refine List.foldlRecOn groups _ closable_nil.toSpaced fun _ hbefore texts htexts => ?_
    apply hbefore.writeGroup 0
    intro text htext
    simp only [groups, List.mem_cons, List.not_mem_nil, or_false] at htexts
    rcases htexts with rfl | rfl | rfl
    · exact hasContent_headerLines (.inl htext)
    · exact hasContent_headerLines (.inr (.inl htext))
    · exact hasContent_headerLines (.inr (.inr htext))
  have hfile := (hgroups.writeClasses hbodies).trimGaps
  refine ⟨?_, ?_, ?_⟩
  · exact List.isChain_reverse.mpr hfile.neighbours
  · rw [fileLines, List.head?_reverse]
    exact hfile.first
  · rw [fileLines, List.getLast?_reverse]
    exact hfile.last

/-- A test class with members of every kind, one of its methods abstract. -/
def suiteFile : SourceFile where
  name := "CartTest.java"
  header := { package := some "shop", imports := [{ path := "org.mockito.Mock" }] }
  classes :=
    [{ name := "CartTest"
       qualifiedName := "shop.CartTest"
       fields := [{ name := "TOTAL", type := .primitive .int, initializer := some "7" }]
       methods :=
         [{ name := "setup", body := ["cart = new Cart();", "\x7d"] },
          { name := "cart", modifiers := { isAbstract := true } }]
       innerClasses := [.ofQualifiedName "shop.CartTest.WhenAdding"] }]

theorem fileLines_wellSpaced_suiteFile :
    (∀ c ∈ ClassDecl.walkAll suiteFile.classes, ∀ m ∈ c.methods, "" ∉ m.body) ∧
      WellSpaced 4 (fileLines {} suiteFile) := by
  have hbodies : ∀ c ∈ ClassDecl.walkAll suiteFile.classes, ∀ m ∈ c.methods, "" ∉ m.body := by
    decide
  exact ⟨hbodies, fileLines_wellSpaced {} suiteFile hbodies⟩

end MockScaffold.Layout
