import MockScaffold.Proofs.Name.Identifier

namespace MockScaffold.Name

section Split

variable {word : List Char} {w : List Char}

theorem flatten_finished (word : List Char) : (finished word).flatten = word := by
  unfold finished
  split
  · rename_i hempty
    exact (List.isEmpty_iff.mp hempty).symm
  · exact List.append_nil word

theorem ne_nil_of_mem_finished (hw : w ∈ finished word) : w ≠ [] := by
  unfold finished at hw
  split at hw
  · cases hw
  · rename_i hempty
    rw [List.mem_singleton.mp hw]
    exact fun hnil => hempty (List.isEmpty_iff.mpr hnil)

theorem flatten_wordsAfter (word cs : List Char) :
    (wordsAfter word cs).flatten = word ++ cs.filter (!isSeparator ·) := by
  induction cs generalizing word with
  | nil => rw [wordsAfter, flatten_finished, List.filter_nil, List.append_nil]
  | cons c cs ih =>
    unfold wordsAfter
    split
    · rename_i hsep
      rw [List.flatten_append, flatten_finished, ih, List.filter_cons_of_neg (by simp [hsep])]
      rfl
    · rename_i hsep
      rw [List.filter_cons_of_pos (by simp [hsep])]
      split
      · rw [List.flatten_cons, ih]
        rfl
      · rw [ih, List.append_assoc]
        rfl

theorem ne_nil_of_mem_wordsAfter {cs : List Char} (hw : w ∈ wordsAfter word cs) : w ≠ [] := by
  induction cs generalizing word with
  | nil => exact ne_nil_of_mem_finished hw
  | cons c cs ih =>
    unfold wordsAfter at hw
    split at hw
    · exact (List.mem_append.mp hw).elim ne_nil_of_mem_finished ih
    · split at hw
      · rename_i hcut
        rcases List.mem_cons.mp hw with rfl | hw
        · rintro rfl
          cases hcut
        · exact ih hw
      · exact ih hw

theorem flatten_words (name : List Char) :
    (words name).flatten = name.filter (!isSeparator ·) :=
  flatten_wordsAfter [] name

theorem ne_nil_of_mem_words {name : List Char} (hw : w ∈ words name) : w ≠ [] :=
  ne_nil_of_mem_wordsAfter hw

end Split

section Join

variable {ws : List (List Char)} {c : Char}

theorem exists_cons_of_head?_flatten (hne : ∀ w ∈ ws, w ≠ []) (hc : ws.flatten.head? = some c) :
    ∃ w rest, ws = (c :: w) :: rest := by
  cases ws with
  | nil => cases hc
  | cons w rest =>
    cases w with
    | nil => exact absurd rfl (hne [] List.mem_cons_self)
    | cons d w =>
      cases hc
      exact ⟨w, rest, rfl⟩

theorem head?_lowerCamel (hne : ∀ w ∈ ws, w ≠ []) (hc : ws.flatten.head? = some c)
    (hascii : c.toNat < 0x80) : (lowerCamel ws).head? = some c.toLower := by
  obtain ⟨w, rest, rfl⟩ := exists_cons_of_head?_flatten hne hc
  rw [lowerCamel, Text.lower_cons_of_ascii hascii]
  rfl

theorem head?_upperSnake (hne : ∀ w ∈ ws, w ≠ []) (hc : ws.flatten.head? = some c)
    (hascii : c.toNat < 0x80) : (upperSnake ws).head? = some c.toUpper := by
  obtain ⟨w, rest, rfl⟩ := exists_cons_of_head?_flatten hne hc
  have hword : Text.upper (c :: w) = c.toUpper :: Text.upper w := by
    rw [Text.upper, List.flatMap_cons, Text.toUpper_of_ascii hascii]
    rfl
  rw [upperSnake, List.map_cons, hword]
  cases rest <;> rfl

theorem isPlainText_lowerCamel (h : IsPlainText ws.flatten) : IsPlainText (lowerCamel ws) := by
  cases ws with
  | nil => exact h
  | cons w rest =>
    rw [List.flatten_cons, IsPlainText, List.forall_mem_append] at h
    refine .append (.lower h.1) fun d hd => ?_
    obtain ⟨v, hv, hd⟩ := List.mem_flatMap.mp hd
    have hword : IsPlainText v := fun c hc => h.2 c (List.mem_flatten.mpr ⟨v, hv, hc⟩)
    exact hword.lower.capitalize d hd

theorem isPlainText_upperSnake (h : IsPlainText ws.flatten) : IsPlainText (upperSnake ws) := by
  induction ws with
  | nil => exact h
  | cons w rest ih =>
    rw [List.flatten_cons, IsPlainText, List.forall_mem_append] at h
    have hword : IsPlainText (Text.upper w) := IsPlainText.upper h.1
    cases rest with
    | nil =>
      rw [upperSnake, List.map_singleton, List.intercalate_singleton]
      exact hword
    | cons v rest =>
      rw [upperSnake, List.map_cons, List.map_cons, List.intercalate_cons_cons]
      have hmark : IsPlainText ['_'] := List.forall_mem_singleton.mpr isPlain_underscore
      exact .append (.append hword hmark) (ih h.2)

end Join

section Capitals

variable {c : Char}

theorem isLower_of_mem_upperSnake {ws : List (List Char)} (h : c ∈ upperSnake ws) :
    c.isLower = false := by
  induction ws with
  | nil => cases h
  | cons w rest ih =>
    cases rest with
    | nil =>
      rw [upperSnake, List.map_singleton, List.intercalate_singleton] at h
      exact Text.isLower_of_mem_upper h
    | cons v rest =>
      rw [upperSnake, List.map_cons, List.map_cons, List.intercalate_cons_cons,
        List.append_assoc] at h
      rcases List.mem_append.mp h with hword | h
      · exact Text.isLower_of_mem_upper hword
      · rcases List.mem_append.mp h with hmark | hrest
        · rw [List.mem_singleton.mp hmark]
          decide
        · exact ih hrest

theorem isLower_of_mem_snakeTail {cs : List Char} (h : c ∈ snakeTail cs) : c.isLower = false := by
  induction cs with
  | nil => cases h
  | cons d cs ih =>
    rw [snakeTail] at h
    rcases List.mem_append.mp h with h | hrest
    · rcases List.mem_append.mp h with hmark | hupper
      · split at hmark
        · rw [List.mem_singleton.mp hmark]
          decide
        · cases hmark
      · exact Text.isLower_of_mem_toUpper hupper
    · exact ih hrest

/-- A constant has no small letter of ASCII in its name. -/
theorem isLower_of_mem_constantName {name : String} (h : c ∈ (constantName name).toList) :
    c.isLower = false := by
  unfold constantName at h
  split at h
  · cases h
  · rw [String.toList_ofList] at h
    rcases List.mem_append.mp h with hfirst | hrest
    · exact Text.isLower_of_mem_toUpper hfirst
    · exact isLower_of_mem_snakeTail hrest

end Capitals

end MockScaffold.Name
