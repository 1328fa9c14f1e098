import MockScaffold.Proofs.Layout.Indentation

namespace MockScaffold.Layout

/-- The text has the part in it, all of a piece. -/
def Shows (text part : String) : Prop :=
  part.toList <:+: text.toList

section Shows

theorem intercalate_append_suffix (sep : List Char) (before lines : List (List Char)) :
    sep.intercalate lines <:+ sep.intercalate (before ++ lines) := by
  induction before with
  | nil => exact List.suffix_refl _
  | cons line before ih =>
    cases hrest : before ++ lines with
    | nil =>
      rw [(List.append_eq_nil_iff.mp hrest).2]
      exact List.nil_suffix
    | cons next rest =>
      rw [List.cons_append, hrest, List.intercalate_cons_cons, ← hrest]
      exact ih.trans (List.suffix_append _ _)

theorem intercalate_append_prefix (sep : List Char) (lines after : List (List Char)) :
    sep.intercalate lines <+: sep.intercalate (lines ++ after) := by
  induction lines with
  | nil => exact List.nil_prefix
  | cons line lines ih =>
    cases lines with
    | nil =>
      cases after with
      | nil => exact List.prefix_refl _
      | cons next rest =>
        rw [List.singleton_append, List.intercalate_cons_cons, List.intercalate_singleton,
          List.append_assoc]
        exact List.prefix_append _ _
    | cons next rest =>
      rw [List.cons_append, List.cons_append, List.intercalate_cons_cons,
        List.intercalate_cons_cons]
      exact (List.prefix_append_right_inj _).mpr ih

/-- Lines that follow each other stand together in the text of all lines. -/
theorem intercalate_infix (sep : List Char) {block lines : List (List Char)}
    (h : block <:+: lines) : sep.intercalate block <:+: sep.intercalate lines := by
  obtain ⟨before, after, rfl⟩ := h
  have hprefix := intercalate_append_prefix sep (before ++ block) after
  have hsuffix := intercalate_append_suffix sep before block
  exact hsuffix.isInfix.trans hprefix.isInfix

theorem shows_intercalate (newline : String) {block lines : List String} (h : block <:+: lines) :
    Shows (newline.intercalate lines) (newline.intercalate block) := by
  unfold Shows
  rw [String.toList_intercalate, String.toList_intercalate]
  exact intercalate_infix _ (h.map String.toList)

theorem Shows.trans {text part piece : String} (h : Shows text part) (h' : Shows part piece) :
    Shows text piece :=
  List.IsInfix.trans h' h

theorem shows_append (before part after : String) : Shows (before ++ part ++ after) part := by
  unfold Shows
  rw [String.toList_append, String.toList_append]
  exact ⟨before.toList, after.toList, rfl⟩

theorem shows_render (style : Style) (file : SourceFile) {block : List String}
    (h : block <:+: fileLines style file) :
    Shows (render style file) (style.newline.intercalate block) := by
  have hlines := shows_intercalate style.newline h
  unfold Shows at hlines ⊢
  rw [render, String.toList_append]
  exact hlines.trans (List.prefix_append _ _).isInfix

/-- A text of one line is shown wherever it stands as a line. -/
theorem shows_of_mem {newline : String} {width : Nat} {block : List ListedLine} {line : ListedLine}
    (hline : line ∈ block) (hfeed : '\n' ∉ line.text.toList) :
    Shows (newline.intercalate (block.map (·.indented width))) line.text := by
  obtain ⟨before, after, hblock⟩ := List.append_of_mem (List.mem_map_of_mem hline)
  have hinfix : [line.indented width] <:+: block.map (·.indented width) :=
    ⟨before, after, by rw [hblock, List.append_assoc]; rfl⟩
  refine (shows_intercalate newline hinfix).trans ?_
  rw [String.intercalate_singleton]
  unfold Shows
  rw [ListedLine.toList_indented hfeed, indentLine]
  split
  · exact List.infix_refl _
  · exact (List.suffix_append _ _).isInfix

end Shows

end MockScaffold.Layout
