import MockScaffold.Proofs.Layout.Indentation

namespace MockScaffold.Layout

section Breaks

/-- The characters of a text with `newline` in the place of every line feed. -/
def breakWith (newline cs : List Char) : List Char :=
  cs.flatMap fun c => if c = '\n' then newline else [c]

theorem breakWith_append (newline cs ds : List Char) :
    breakWith newline (cs ++ ds) = breakWith newline cs ++ breakWith newline ds :=
  List.flatMap_append

theorem breakWith_cons (newline : List Char) (c : Char) (cs : List Char) :
    breakWith newline (c :: cs) =
      (if c = '\n' then newline else [c]) ++ breakWith newline cs :=
  List.flatMap_cons

theorem breakWith_self (cs : List Char) : breakWith ['\n'] cs = cs := by
  induction cs with
  | nil => rfl
  | cons c cs ih =>
    rw [breakWith_cons, ih]
    split
    · rename_i hfeed
      rw [hfeed]
      rfl
    · rfl

theorem breakWith_of_no_feed (newline : List Char) {cs : List Char} (h : '\n' ∉ cs) :
    breakWith newline cs = cs := by
  induction cs with
  | nil => rfl
  | cons c cs ih =>
    rw [List.mem_cons, not_or] at h
    rw [breakWith_cons, if_neg (Ne.symm h.1), ih h.2]
    rfl

theorem breakWith_intercalate (newline : List Char) (lines : List (List Char)) :
    breakWith newline (['\n'].intercalate lines) =
      newline.intercalate (lines.map (breakWith newline)) := by
  induction lines with
  | nil => rfl
  | cons line lines ih =>
    cases lines with
    | nil => simp
    | cons next rest =>
      have hfeed : breakWith newline ['\n'] = newline := List.append_nil newline
      rw [List.map_cons, List.map_cons, List.intercalate_cons_cons, List.intercalate_cons_cons,
        breakWith_append, breakWith_append, ih, hfeed]
      rfl

/-- Each line feed is traded for a copy of the newline. -/
theorem count_breakWith (a : Char) (newline cs : List Char) :
    (breakWith newline cs).count a + cs.count '\n' * ['\n'].count a =
      cs.count a + cs.count '\n' * newline.count a := by
  induction cs with
  | nil => simp [breakWith]
  | cons c cs ih =>
    have hcount (b : Char) : (c :: cs).count b = [c].count b + cs.count b := by
      rw [← List.singleton_append, List.count_append]
    rw [breakWith_cons, List.count_append, hcount, hcount, Nat.add_mul, Nat.add_mul]
    split
    · rename_i hfeed
      rw [hfeed, List.count_singleton_self]
      omega
    · rename_i hother
      have hnone : [c].count '\n' = 0 := by simp [hother]
      rw [hnone]
      omega

theorem count_intercalate_map (a : Char) (newline : List Char) (lines : List (List Char)) :
    (newline.intercalate (lines.map (breakWith newline))).count a +
        lines.flatten.count '\n' * ['\n'].count a =
      (newline.intercalate lines).count a + lines.flatten.count '\n' * newline.count a := by
  induction lines with
  | nil => simp
  | cons line lines ih =>
    have hline := count_breakWith a newline line
    cases lines with
    | nil => simpa using hline
    | cons next rest =>
      rw [List.map_cons] at ih
      rw [List.map_cons, List.map_cons, List.intercalate_cons_cons, List.intercalate_cons_cons,
        List.flatten_cons]
      simp only [List.count_append, Nat.add_mul]
      omega

/-- A newline may take the place of the line feeds within lines only where there are none, or where
it is itself the line feed. -/
theorem intercalate_breakWith_iff (newline : List Char) (lines : List (List Char)) :
    newline.intercalate (lines.map (breakWith newline)) = newline.intercalate lines ↔
      newline = ['\n'] ∨ ∀ line ∈ lines, '\n' ∉ line := by
  constructor
  · intro h
    by_cases hfeeds : '\n' ∈ lines.flatten
    · left
      -- Each line feed gives way to the newline, so the two have the same number of each character.
      have hpos := List.count_pos_iff.mpr hfeeds
      refine List.perm_singleton.mp (List.perm_iff_count.mpr fun a => ?_)
      have hcount := count_intercalate_map a newline lines
      rw [h, Nat.add_left_cancel_iff] at hcount
      exact (Nat.eq_of_mul_eq_mul_left hpos hcount).symm
    · right
      intro line hline hfeed
      exact hfeeds (List.mem_flatten.mpr ⟨line, hline, hfeed⟩)
  · rintro (rfl | hnone)
    · rw [List.map_congr_left fun line _ => breakWith_self line, List.map_id']
    · rw [List.map_congr_left fun line hline => breakWith_of_no_feed newline (hnone line hline),
        List.map_id']

end Breaks

section Independence

variable (newline : String)

def Page.withNewline (page : Page) : Page :=
  { page with style := { page.style with newline } }

mutual

/-- Lines are written without regard to what will stand between them. -/
theorem writeClass_withNewline (page : Page) : ∀ (depth : Nat) (lines : Lines) (c : ClassDecl),
    writeClass (page.withNewline newline) depth lines c = writeClass page depth lines c
  | depth, lines, { innerClasses, .. } => by
    simp only [writeClass]
    rw [writeNested_withNewline page (depth + 1) _ innerClasses]
    rfl

theorem writeNested_withNewline (page : Page) :
    ∀ (depth : Nat) (lines : Lines) (cs : List ClassDecl),
      writeNested (page.withNewline newline) depth lines cs = writeNested page depth lines cs
  | _, _, [] => rfl
  | depth, lines, c :: cs => by
    simp only [writeNested]
    rw [writeClass_withNewline page depth _ c, writeNested_withNewline page depth _ cs]

end

theorem writeClasses_withNewline (page : Page) (lines : Lines) (cs : List ClassDecl) :
    writeClasses (page.withNewline newline) lines cs = writeClasses page lines cs := by
  induction cs generalizing lines with
  | nil => rfl
  | cons c cs ih =>
    cases cs with
    | nil => exact writeClass_withNewline newline page 0 lines c
    | cons d ds =>
      show writeClasses _ (gap (writeClass _ 0 lines c)) (d :: ds) =
        writeClasses _ (gap (writeClass _ 0 lines c)) (d :: ds)
      rw [writeClass_withNewline, ih]

theorem fileLines_withNewline (style : Style) (file : SourceFile) :
    fileLines { style with newline } file = fileLines style file := by
  unfold fileLines
  have h := writeClasses_withNewline newline ⟨style, .ofFile file⟩
  dsimp only [Page.withNewline] at h ⊢
  rw [h]
  rfl

end Independence

theorem feed_mem_fileLines_iff (style : Style) (file : SourceFile) :
    (∃ line ∈ fileLines style file, '\n' ∈ line.toList) ↔
      ∃ line ∈ listFile file, '\n' ∈ line.text.toList := by
  have hsolid (lines : List String) : (∃ line ∈ solid lines, '\n' ∈ line.toList) ↔
      ∃ line ∈ lines, '\n' ∈ line.toList := by
    constructor
    · rintro ⟨line, hline, hfeed⟩
      exact ⟨line, List.mem_of_mem_filter hline, hfeed⟩
    · rintro ⟨line, hline, hfeed⟩
      refine ⟨line, List.mem_filter.mpr ⟨hline, ?_⟩, hfeed⟩
      rw [Bool.not_eq_true', Bool.eq_false_iff, ne_eq, String.isEmpty_iff]
      rintro rfl
      cases hfeed
  rw [← hsolid, solid_fileLines, hsolid]
  simp only [List.mem_map, exists_exists_and_eq_and, ListedLine.feed_mem_indented_iff]

section Render

variable (style : Style) (file : SourceFile)

theorem toList_render :
    (render style file).toList =
      style.newline.toList.intercalate ((fileLines style file).map String.toList) ++
        style.newline.toList := by
  rw [render, String.toList_append, String.toList_intercalate]

/-- The text with `newline` in the place of every line feed. -/
def replaceFeeds (newline text : String) : String :=
  String.ofList (breakWith newline.toList text.toList)

theorem toList_replaceFeeds_render (newline : String) :
    (replaceFeeds newline (render { style with newline := "\n" } file)).toList =
      newline.toList.intercalate
          (((fileLines style file).map String.toList).map (breakWith newline.toList)) ++
        newline.toList := by
  have hfeed : "\n".toList = ['\n'] := rfl
  have hlast : breakWith newline.toList ['\n'] = newline.toList := List.append_nil _
  rw [replaceFeeds, String.toList_ofList, toList_render, fileLines_withNewline, breakWith_append,
    hfeed, breakWith_intercalate, hlast]

/-- What is printed with a newline is what is printed with line feeds, each of them replaced by the
newline, if and only if that is the line feed or no text of the listing has a line feed in it. -/
theorem render_eq_replaceFeeds_iff :
    render style file =
        replaceFeeds style.newline (render { style with newline := "\n" } file) ↔
      style.newline = "\n" ∨ ∀ line ∈ listFile file, '\n' ∉ line.text.toList := by
  have hnewline : style.newline.toList = ['\n'] ↔ style.newline = "\n" := by
    rw [← String.toList_inj]
    rfl
  have hfeeds := not_congr (feed_mem_fileLines_iff style file)
  simp only [not_exists, not_and] at hfeeds
  rw [← String.toList_inj, toList_replaceFeeds_render, toList_render, List.append_left_inj, eq_comm,
    intercalate_breakWith_iff, List.forall_mem_map, hnewline, hfeeds]

end Render

/-- A test class with a field whose initializer runs over two lines. -/
def sizesFile : SourceFile where
  name := "SizesTest.java"
  classes :=
    [{ name := "SizesTest"
       qualifiedName := "SizesTest"
       fields :=
         [{ name := "sizes"
            type := .array (.primitive .int)
            initializer := some "\x7b 1,\n2 \x7d" }] }]

/-- The two lines of the initializer are parted by a line feed in any style. -/
theorem not_forall_render_eq_replaceFeeds :
    ¬∀ (style : Style) (file : SourceFile), render style file =
      replaceFeeds style.newline (render { style with newline := "\n" } file) := by
  intro hall
  exact absurd (hall { newline := "\r\n" } sizesFile) (by decide)

end MockScaffold.Layout
