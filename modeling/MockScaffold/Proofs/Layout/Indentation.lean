import MockScaffold.Proofs.Layout.BlankLines

namespace MockScaffold.Layout

theorem splitLines_of_no_feed {cs : List Char} (h : '\n' ∉ cs) : splitLines cs = [cs] := by
  induction cs with
  | nil => rfl
  | cons c cs ih =>
    rw [List.mem_cons, not_or] at h
    rw [splitLines, if_neg (Ne.symm h.1), ih h.2]

section Lines

variable {cs before after line indent inner : List Char} {lines : List (List Char)}

theorem mem_of_mem_splitLines (h : line ∈ splitLines cs) : ∀ c ∈ line, c ∈ cs ∧ c ≠ '\n' := by
  induction cs generalizing line with
  | nil =>
    rw [List.mem_singleton.mp h]
    simp
  | cons d cs ih =>
    have hrest {line : List Char} (h : line ∈ splitLines cs) : ∀ c ∈ line, c ∈ d :: cs ∧ c ≠ '\n' :=
      fun c hc => (ih h c hc).imp_left (List.mem_cons_of_mem d)
    rw [splitLines] at h
    split at h
    · rcases List.mem_cons.mp h with rfl | h
      · simp
      · exact hrest h
    · rename_i hd
      cases hlines : splitLines cs with
      | nil => exact absurd hlines (splitLines_ne_nil cs)
      | cons first rest =>
        rw [hlines] at h
        rcases List.mem_cons.mp h with rfl | h
        · refine List.forall_mem_cons.mpr ⟨⟨List.mem_cons_self, hd⟩, hrest ?_⟩
          exact hlines ▸ List.mem_cons_self
        · exact hrest (hlines ▸ List.mem_cons_of_mem first h)

theorem feed_not_mem_of_mem_splitLines (h : line ∈ splitLines cs) : '\n' ∉ line :=
  fun hfeed => (mem_of_mem_splitLines h _ hfeed).2 rfl

theorem splitLines_intercalate (hne : lines ≠ []) (h : ∀ line ∈ lines, '\n' ∉ line) :
    splitLines (['\n'].intercalate lines) = lines := by
  induction lines with
  | nil => exact absurd rfl hne
  | cons line lines ih =>
    rw [List.forall_mem_cons] at h
    cases lines with
    | nil => rw [List.intercalate_singleton, splitLines_of_no_feed h.1]
    | cons next rest =>
      rw [List.intercalate_cons_cons, List.append_assoc, List.singleton_append, splitLines_append,
        splitLines_of_no_feed h.1, ih (List.cons_ne_nil next rest) h.2]
      rfl

theorem length_splitLines (cs : List Char) : (splitLines cs).length = cs.count '\n' + 1 := by
  induction cs with
  | nil => rfl
  | cons c cs ih =>
    rw [splitLines]
    split
    · rename_i hfeed
      rw [List.length_cons, ih, hfeed, List.count_cons_self]
    · rename_i hother
      rw [List.count_cons_of_ne hother, ← ih]
      cases hlines : splitLines cs with
      | nil => exact absurd hlines (splitLines_ne_nil cs)
      | cons line rest => rfl

theorem intercalate_append {sep : List Char} {lines' : List (List Char)} (h : lines ≠ [])
    (h' : lines' ≠ []) :
    sep.intercalate (lines ++ lines') = sep.intercalate lines ++ sep ++ sep.intercalate lines' := by
  induction lines with
  | nil => exact absurd rfl h
  | cons line lines ih =>
    cases lines with
    | nil =>
      rw [List.singleton_append, List.intercalate_cons_of_ne_nil h', List.intercalate_singleton]
    | cons next rest =>
      rw [List.cons_append, List.cons_append, List.intercalate_cons_cons,
        List.intercalate_cons_cons, ← List.cons_append, ih (List.cons_ne_nil next rest)]
      simp only [List.append_assoc]

end Lines

section Blocks

variable {cs before after line indent inner outer : List Char}

/-- The characters of a block that is indented. -/
def indentChars (indent cs : List Char) : List Char :=
  ['\n'].intercalate ((splitLines cs).map (indentLine indent))

theorem toList_indentBlock (block indent : String) :
    (indentBlock block indent).toList = indentChars indent.toList block.toList :=
  String.toList_ofList

theorem indentLine_of_blank (h : line.all Text.isBlank = true) (indent : List Char) :
    indentLine indent line = line :=
  if_pos h

theorem feed_not_mem_indentLine (hindent : '\n' ∉ indent) (hline : '\n' ∉ line) :
    '\n' ∉ indentLine indent line := by
  unfold indentLine
  split
  · exact hline
  · exact List.not_mem_append hindent hline

theorem indentLine_indentLine (outer inner line : List Char) :
    indentLine outer (indentLine inner line) = indentLine (outer ++ inner) line := by
  cases hblank : line.all Text.isBlank with
  | true =>
    rw [indentLine_of_blank hblank, indentLine_of_blank hblank, indentLine_of_blank hblank]
  | false =>
    have hlonger : (inner ++ line).all Text.isBlank = false := by
      rw [List.all_append, hblank, Bool.and_false]
    unfold indentLine
    rw [hblank, if_neg Bool.false_ne_true, hlonger, if_neg Bool.false_ne_true,
      if_neg Bool.false_ne_true, List.append_assoc]

/-- The lines of a block stay apart where the indent has no line feed. -/
theorem splitLines_indentChars (h : '\n' ∉ indent) (cs : List Char) :
    splitLines (indentChars indent cs) = (splitLines cs).map (indentLine indent) := by
  refine splitLines_intercalate ?_ (List.forall_mem_map.mpr fun line hline => ?_)
  · exact mt List.map_eq_nil_iff.mp (splitLines_ne_nil cs)
  · exact feed_not_mem_indentLine h (feed_not_mem_of_mem_splitLines hline)

theorem indentChars_indentChars (h : '\n' ∉ inner) (outer cs : List Char) :
    indentChars outer (indentChars inner cs) = indentChars (outer ++ inner) cs := by
  rw [indentChars, splitLines_indentChars h, List.map_map, indentChars]
  refine congrArg _ (List.map_congr_left fun line _ => ?_)
  exact indentLine_indentLine outer inner line

theorem count_indentChars (h : '\n' ∉ indent) (cs : List Char) :
    (indentChars indent cs).count '\n' = cs.count '\n' := by
  have hlength := congrArg List.length (splitLines_indentChars h cs)
  rw [List.length_map, length_splitLines, length_splitLines] at hlength
  exact Nat.succ.inj hlength

theorem indentChars_append_feed (indent cs ds : List Char) :
    indentChars indent (cs ++ '\n' :: ds) =
      indentChars indent cs ++ '\n' :: indentChars indent ds := by
  have hne (cs : List Char) : (splitLines cs).map (indentLine indent) ≠ [] :=
    mt List.map_eq_nil_iff.mp (splitLines_ne_nil cs)
  rw [indentChars, splitLines_append, List.map_append, intercalate_append (hne cs) (hne ds),
    List.append_assoc]
  rfl

theorem indentChars_of_blank (h : cs.all Text.isBlank = true) (indent : List Char) :
    indentChars indent cs = cs := by
  rw [indentChars, List.map_congr_left (g := id), List.map_id, intercalate_splitLines]
  intro line hline
  refine indentLine_of_blank (List.all_eq_true.mpr fun c hc => ?_) indent
  exact List.all_eq_true.mp h c (mem_of_mem_splitLines hline c hc).1

/-- Nothing, or lines with their line feeds. -/
def EndsLine (cs : List Char) : Prop :=
  ∀ c ∈ cs.getLast?, c = '\n'

instance (cs : List Char) : Decidable (EndsLine cs) :=
  decidable_of_iff (cs.getLast?.all (· == '\n') = true) (by simp [EndsLine, Option.all_eq_true])

/-- Nothing, or a line feed and what comes after it. -/
def FollowsLine (cs : List Char) : Prop :=
  ∀ c ∈ cs.head?, c = '\n'

instance (cs : List Char) : Decidable (FollowsLine cs) :=
  decidable_of_iff (cs.head?.all (· == '\n') = true) (by simp [FollowsLine, Option.all_eq_true])

theorem indentChars_append_of_endsLine (h : EndsLine before) (indent cs : List Char) :
    indentChars indent (before ++ cs) = indentChars indent before ++ indentChars indent cs := by
  rcases List.eq_nil_or_concat before with rfl | ⟨start, c, rfl⟩
  · rfl
  · rw [List.concat_eq_append] at *
    obtain rfl : c = '\n' := h c (List.getLast?_concat ..)
    rw [List.append_assoc, List.singleton_append, indentChars_append_feed, indentChars_append_feed,
      List.append_assoc]
    rfl

theorem indentChars_append_of_followsLine (h : FollowsLine after) (indent cs : List Char) :
    indentChars indent (cs ++ after) = indentChars indent cs ++ indentChars indent after := by
  cases after with
  | nil => rw [List.append_nil]; exact (List.append_nil _).symm
  | cons c after =>
    obtain rfl : c = '\n' := h c rfl
    rw [indentChars_append_feed]
    exact congrArg _ (indentChars_append_feed indent [] after).symm

/-- Indenting what is indented is indenting by both, the count of line feeds stays if the indent has
none, and blank lines are kept as they are, with the lines before and after them indented as if they
stood alone. -/
theorem indentBlock_compose (block inner : String) (hinner : '\n' ∉ inner.toList)
    (outer : String) :
    indentBlock (indentBlock block inner) outer = indentBlock block (outer ++ inner) ∧
      (indentBlock block inner).toList.count '\n' = block.toList.count '\n' ∧
      ∀ before blank after : String, block = before ++ blank ++ after →
        EndsLine before.toList → FollowsLine after.toList →
        blank.toList.all Text.isBlank = true →
        indentBlock block outer = indentBlock before outer ++ blank ++ indentBlock after outer := by
  refine ⟨String.toList_injective ?_, ?_, ?_⟩
  · rw [toList_indentBlock, toList_indentBlock, toList_indentBlock, String.toList_append,
      indentChars_indentChars hinner]
  · rw [toList_indentBlock, count_indentChars hinner]
  · rintro before blank after rfl hbefore hafter hblank
    refine String.toList_injective ?_
    simp only [String.toList_append, toList_indentBlock]
    rw [indentChars_append_of_followsLine hafter, indentChars_append_of_endsLine hbefore,
      indentChars_of_blank hblank]

/-- A blank line of a space and a tab is kept, also where the outer indent is a line of its own. -/
theorem indentBlock_compose_comment :
    '\n' ∉ "  ".toList ∧
      indentBlock (indentBlock "a\n \t\nb" "  ") "//\n" = "//\n  a\n \t\n//\n  b" ∧
      (indentBlock "a\n \t\nb" "  ").toList.count '\n' = 2 ∧
      indentBlock "a\n \t\nb" "//\n" =
        indentBlock "a\n" "//\n" ++ " \t" ++ indentBlock "\nb" "//\n" := by
  have hinner : '\n' ∉ "  ".toList := by decide
  obtain ⟨htwice, hcount, hkept⟩ := indentBlock_compose "a\n \t\nb" "  " hinner "//\n"
  refine ⟨hinner, ?_, ?_, ?_⟩
  · rw [htwice]
    decide
  · rw [hcount]
    decide
  · exact hkept "a\n" " \t" "\nb" (by decide) (by decide) (by decide) (by decide)

end Blocks

namespace ListedLine

variable {line : ListedLine}

theorem toList_indented (h : '\n' ∉ line.text.toList) (width : Nat) :
    (line.indented width).toList =
      indentLine (List.replicate (line.depth * width) ' ') line.text.toList := by
  rw [indented, indentBlock, splitLines_of_no_feed h]
  simp

theorem feed_mem_indented_iff (line : ListedLine) (width : Nat) :
    '\n' ∈ (line.indented width).toList ↔ '\n' ∈ line.text.toList := by
  constructor
  · intro h
    by_contra hnone
    rw [toList_indented hnone, indentLine] at h
    split at h
    · exact hnone h
    · rcases List.mem_append.mp h with hindent | htext
      · exact absurd (List.eq_of_mem_replicate hindent) (by decide)
      · exact hnone htext
  · exact fun h => (sublist_indented line width).subset h

end ListedLine

end MockScaffold.Layout
