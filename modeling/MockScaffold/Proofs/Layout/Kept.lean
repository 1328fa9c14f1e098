import Mathlib.Data.List.DropRight
import MockScaffold.Proofs.Layout.BlankLines

namespace MockScaffold.Layout

/-- What stands in a buffer still stands in a later one, but for blank lines at its end. -/
def Continues (lines lines' : Lines) : Prop :=
  trimGaps lines <:+ lines'

section Continues

variable {lines lines' lines'' : Lines}

theorem trimGaps_suffix (lines : Lines) : trimGaps lines <:+ lines :=
  List.dropWhile_suffix _

theorem trimGaps_suffix_trimGaps (h : lines <:+ lines') : trimGaps lines <:+ trimGaps lines' := by
  obtain ⟨after, rfl⟩ := h
  induction after with
  | nil => exact List.suffix_refl _
  | cons last after ih =>
    unfold trimGaps at ih ⊢
    rw [List.cons_append, List.dropWhile_cons]
    split
    · exact ih
    · -- A line that is not blank stops the trimming, and keeps all lines before it.
      have hbefore := (List.suffix_append after lines).trans (List.suffix_cons last _)
      exact (List.dropWhile_suffix _).trans hbefore

theorem trimGaps_trimGaps (lines : Lines) : trimGaps (trimGaps lines) = trimGaps lines :=
  List.dropWhile_idempotent ..

theorem Continues.of_suffix (h : lines <:+ lines') : Continues lines lines' :=
  (trimGaps_suffix lines).trans h

theorem Continues.refl (lines : Lines) : Continues lines lines :=
  .of_suffix (List.suffix_refl lines)

theorem Continues.trans (h : Continues lines lines') (h' : Continues lines' lines'') :
    Continues lines lines'' := by
  have hboth := trimGaps_suffix_trimGaps h
  rw [trimGaps_trimGaps] at hboth
  exact hboth.trans h'

end Continues

/-- Whatever the buffer holds stays in it. -/
def Keeps (f : Lines → Lines) : Prop :=
  ∀ lines, Continues lines (f lines)

section Keeps

variable {f g : Lines → Lines}

theorem keeps_id : Keeps id :=
  Continues.refl

theorem Keeps.comp (hf : Keeps f) (hg : Keeps g) : Keeps fun lines => g (f lines) :=
  fun lines => (hf lines).trans (hg (f lines))

theorem keeps_gap : Keeps gap := by
  intro lines
  cases lines with
  | nil => exact .refl []
  | cons last before =>
    rw [gap]
    split
    · exact .refl _
    · exact .of_suffix (List.suffix_cons _ _)

theorem keeps_trimGaps : Keeps trimGaps :=
  fun _ => List.suffix_refl _

theorem keeps_foldl {α : Type} {step : Lines → α → Lines} (h : ∀ a, Keeps (step · a))
    (as : List α) : Keeps (as.foldl step) := by
  induction as with
  | nil => exact keeps_id
  | cons a as ih => exact (h a).comp ih

variable (page : Page) (depth : Nat)

theorem keeps_write (text : String) : Keeps (write page depth · text) :=
  fun _ => .of_suffix (List.suffix_cons _ _)

theorem keeps_writeAll (texts : List String) : Keeps (writeAll page depth · texts) :=
  keeps_foldl (keeps_write page depth) texts

theorem keeps_writeGroup (texts : List String) : Keeps (writeGroup page depth · texts) := by
  unfold writeGroup
  split
  · exact keeps_id
  · exact (keeps_writeAll page depth texts).comp keeps_gap

theorem keeps_writeField (f : FieldDecl) : Keeps (writeField page depth · f) :=
  keeps_writeAll page depth _

theorem keeps_writeFields (c : ClassDecl) : Keeps (writeFields page depth c) := by
  unfold writeFields
  split
  · exact keeps_id
  · exact (keeps_gap.comp (keeps_foldl (keeps_writeField page depth) c.fields)).comp keeps_gap

theorem keeps_writeMethod (owner : ClassDecl) (m : MethodDecl) :
    Keeps (writeMethod page depth owner · m) := by
  have hannotations := keeps_writeAll page depth (annotationTexts page m.annotations)
  unfold writeMethod
  cases isBodiless owner m with
  | true => exact hannotations.comp (keeps_write page depth _)
  | false =>
    have hhead := keeps_write page depth (methodHead page.namer owner m ++ " \x7b")
    have hbody := keeps_writeAll page (depth + 1) m.body
    exact ((hannotations.comp hhead).comp hbody).comp (keeps_write page depth "\x7d")

theorem keeps_writeMethods (c : ClassDecl) : Keeps (writeMethods page depth c) :=
  keeps_foldl (fun m => (keeps_gap.comp (keeps_writeMethod page depth c m)).comp keeps_gap) _

theorem keeps_writeOpening (c : ClassDecl) : Keeps (writeOpening page depth c) := by
  have hhead := (keeps_writeAll page depth (annotationTexts page c.annotations)).comp
    (keeps_write page depth (classHead page.namer c))
  exact ((hhead.comp (keeps_writeGroup page (depth + 1) _)).comp
    (keeps_writeFields page (depth + 1) c)).comp (keeps_writeMethods page (depth + 1) c)

end Keeps

mutual

theorem keeps_writeClass (page : Page) : ∀ (depth : Nat) (c : ClassDecl),
    Keeps (writeClass page depth · c)
  | depth, { innerClasses, .. } => by
    simp only [writeClass]
    exact (((keeps_writeOpening page depth _).comp
      (keeps_writeNested page (depth + 1) innerClasses)).comp keeps_trimGaps).comp
        (keeps_write page depth "\x7d")

theorem keeps_writeNested (page : Page) : ∀ (depth : Nat) (cs : List ClassDecl),
    Keeps (writeNested page depth · cs)
  | _, [] => keeps_id
  | depth, c :: cs => by
    simp only [writeNested]
    exact ((keeps_gap.comp (keeps_writeClass page depth c)).comp keeps_gap).comp
      (keeps_writeNested page depth cs)

end

theorem keeps_writeClasses (page : Page) (cs : List ClassDecl) :
    Keeps (writeClasses page · cs) := by
  induction cs with
  | nil => exact keeps_id
  | cons c cs ih =>
    cases cs with
    | nil => exact keeps_writeClass page 0 c
    | cons d ds => exact ((keeps_writeClass page 0 c).comp keeps_gap).comp ih

/-- At some point `f` was applied to the buffer, and what it left there was kept. -/
def Ran (f : Lines → Lines) (final : Lines) : Prop :=
  ∃ lines, Continues (f lines) final

section Ran

variable {f g : Lines → Lines} {final : Lines}

theorem Ran.of_keeps (h : Keeps g) (lines : Lines) : Ran f (g (f lines)) :=
  ⟨lines, h (f lines)⟩

theorem Ran.then (h : Ran f final) (hg : Keeps g) : Ran f (g final) := by
  obtain ⟨lines, hf⟩ := h
  exact ⟨lines, hf.trans (hg final)⟩

theorem ran_foldl {α : Type} {step : Lines → α → Lines} (h : ∀ a, Keeps (step · a)) {as : List α}
    {a : α} (ha : a ∈ as) (lines : Lines) : Ran (step · a) (as.foldl step lines) := by
  obtain ⟨before, after, rfl⟩ := List.append_of_mem ha
  rw [List.foldl_append, List.foldl_cons]
  exact .of_keeps (keeps_foldl h after) _

variable (page : Page) {c : ClassDecl}

theorem ran_classHead (depth : Nat) (c : ClassDecl) (lines : Lines) :
    Ran (write page depth · (classHead page.namer c)) (writeOpening page depth c lines) := by
  have hmembers := (keeps_writeGroup page (depth + 1)
    (if c.enumConstants.isEmpty then [] else [enumLine c])).comp
      ((keeps_writeFields page (depth + 1) c).comp (keeps_writeMethods page (depth + 1) c))
  exact .of_keeps hmembers _

theorem ran_writeField {f : FieldDecl} (hkind : c.kind ≠ .record) (hf : f ∈ c.fields)
    (depth : Nat) (lines : Lines) :
    Ran (writeField page (depth + 1) · f) (writeOpening page depth c lines) := by
  have hfields : Ran (writeField page (depth + 1) · f)
      (writeFields page (depth + 1) c (writeGroup page (depth + 1)
        (write page depth (writeAll page depth lines (annotationTexts page c.annotations))
          (classHead page.namer c)) (if c.enumConstants.isEmpty then [] else [enumLine c]))) := by
    unfold writeFields
    rw [if_neg (by simp [hkind, List.ne_nil_of_mem hf])]
    exact (ran_foldl (keeps_writeField page (depth + 1)) hf _).then keeps_gap
  exact hfields.then (keeps_writeMethods page (depth + 1) c)

end Ran

mutual

/-- Every class of a tree is opened at some depth. -/
theorem ran_writeOpening (page : Page) {d : ClassDecl} :
    ∀ (depth : Nat) (c : ClassDecl) (lines : Lines), d ∈ c.walk →
      ∃ depth', Ran (writeOpening page depth' d) (writeClass page depth lines c)
  | depth, { innerClasses, .. }, lines, hd => by
    rw [ClassDecl.walk, List.mem_cons] at hd
    rw [writeClass]
    have hclose := keeps_trimGaps.comp (keeps_write page depth "\x7d")
    rcases hd with rfl | hd
    · exact ⟨depth, .of_keeps ((keeps_writeNested page (depth + 1) innerClasses).comp hclose) lines⟩
    · obtain ⟨depth', hran⟩ := ran_writeNested page (depth + 1) innerClasses _ hd
      exact ⟨depth', hran.then hclose⟩

theorem ran_writeNested (page : Page) {d : ClassDecl} :
    ∀ (depth : Nat) (cs : List ClassDecl) (lines : Lines), d ∈ ClassDecl.walkAll cs →
      ∃ depth', Ran (writeOpening page depth' d) (writeNested page depth lines cs)
  | _, [], _, hd => nomatch hd
  | depth, c :: cs, lines, hd => by
    rw [ClassDecl.walkAll, List.mem_append] at hd
    rw [writeNested]
    rcases hd with hd | hd
    · obtain ⟨depth', hran⟩ := ran_writeOpening page depth c (gap lines) hd
      exact ⟨depth', hran.then (keeps_gap.comp (keeps_writeNested page depth cs))⟩
    · exact ran_writeNested page depth cs _ hd

end

theorem ran_writeClasses (page : Page) {d : ClassDecl} {cs : List ClassDecl} (lines : Lines)
    (hd : d ∈ ClassDecl.walkAll cs) :
    ∃ depth, Ran (writeOpening page depth d) (writeClasses page lines cs) := by
  induction cs generalizing lines with
  | nil => cases hd
  | cons c cs ih =>
    rw [ClassDecl.walkAll, List.mem_append] at hd
    cases cs with
    | nil =>
      rcases hd with hd | hd
      · exact ran_writeOpening page 0 c lines hd
      · cases hd
    | cons e es =>
      rcases hd with hd | hd
      · obtain ⟨depth, hran⟩ := ran_writeOpening page 0 c lines hd
        exact ⟨depth, hran.then (keeps_gap.comp (keeps_writeClasses page (e :: es)))⟩
      · exact ih _ hd

theorem ran_fileLines (style : Style) {file : SourceFile} {c : ClassDecl}
    (hc : c ∈ ClassDecl.walkAll file.classes) :
    ∃ depth, Ran (writeOpening ⟨style, .ofFile file⟩ depth c) (fileLines style file).reverse := by
  obtain ⟨depth, hran⟩ := ran_writeClasses ⟨style, .ofFile file⟩ _ hc
  refine ⟨depth, ?_⟩
  rw [fileLines, List.reverse_reverse]
  exact hran.then keeps_trimGaps

section Printed

variable {page : Page} {depth : Nat} {texts : List String} {final : Lines}

theorem writeAll_eq (page : Page) (depth : Nat) (lines : Lines) (texts : List String) :
    writeAll page depth lines texts =
      ((listAll depth texts).map (·.indented page.style.indentWidth)).reverse ++ lines := by
  induction texts generalizing lines with
  | nil => rfl
  | cons text texts ih =>
    calc writeAll page depth lines (text :: texts)
        = writeAll page depth (write page depth lines text) texts := rfl
      _ = _ := by
        rw [ih, write_eq, listAll, listAll, List.map_cons, List.map_cons, List.reverse_cons,
          List.append_assoc]
        rfl

theorem trimGaps_of_ne_empty {last : String} (h : last ≠ "") (before : Lines) :
    trimGaps (last :: before) = last :: before :=
  List.dropWhile_cons_of_neg (by rwa [String.isEmpty_iff])

/-- Lines that were written together are printed together, if the last of them is not blank. -/
theorem infix_of_ran {last : String} (h : Ran (writeAll page depth · (texts ++ [last])) final)
    (hlast : last ≠ "") :
    (listAll depth (texts ++ [last])).map (·.indented page.style.indentWidth) <:+:
      final.reverse := by
  obtain ⟨lines, hran⟩ := h
  have hsolid : (ListedLine.mk depth last).indented page.style.indentWidth ≠ "" :=
    indented_ne_empty hlast _
  have hblock : ((listAll depth (texts ++ [last])).map
      (·.indented page.style.indentWidth)).reverse ++ lines =
      (ListedLine.mk depth last).indented page.style.indentWidth ::
        (((listAll depth texts).map (·.indented page.style.indentWidth)).reverse ++ lines) := by
    simp [listAll]
  unfold Continues at hran
  dsimp only at hran
  rw [writeAll_eq, hblock, trimGaps_of_ne_empty hsolid, ← hblock] at hran
  rw [← List.reverse_infix, List.reverse_reverse]
  exact (List.prefix_append _ _).isInfix.trans hran.isInfix

end Printed

end MockScaffold.Layout
