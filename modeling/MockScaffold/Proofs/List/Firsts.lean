namespace MockScaffold

variable {α β : Type} [BEq β] [LawfulBEq β]

/-- The elements whose key is neither in `taken` nor that of an earlier one. -/
def firstsBy (key : α → β) (taken : List β) : List α → List α
  | [] => []
  | a :: as =>
    if key a ∈ taken then firstsBy key taken as else a :: firstsBy key (key a :: taken) as

variable {key : α → β} {taken : List β} {as : List α} {a : α} {k : β}

theorem firstsBy_cons_of_mem (h : key a ∈ taken) (as : List α) :
    firstsBy key taken (a :: as) = firstsBy key taken as :=
  if_pos h

theorem firstsBy_cons_of_not_mem (h : key a ∉ taken) (as : List α) :
    firstsBy key taken (a :: as) = a :: firstsBy key (key a :: taken) as :=
  if_neg h

/-- An element at the end is taken up if its key is free and no earlier one has it. -/
theorem firstsBy_concat (key : α → β) (taken : List β) (as : List α) (a : α) :
    firstsBy key taken (as ++ [a]) = firstsBy key taken as ++
      if key a ∈ taken ∨ key a ∈ as.map key then [] else [a] := by
  have : DecidableEq β := instDecidableEqOfLawfulBEq
  induction as generalizing taken with
  | nil => by_cases htaken : key a ∈ taken <;> simp [firstsBy, htaken]
  | cons b as ih =>
    rw [List.cons_append]
    by_cases hb : key b ∈ taken
    · rw [firstsBy_cons_of_mem hb, firstsBy_cons_of_mem hb, ih]
      by_cases ha : key a = key b
      · simp [ha, hb]
      · simp [ha]
    · rw [firstsBy_cons_of_not_mem hb, firstsBy_cons_of_not_mem hb, ih, List.cons_append]
      simp only [List.mem_cons, List.map_cons, or_assoc, or_left_comm]

theorem firstsBy_subset (key : α → β) (taken : List β) (as : List α) :
    firstsBy key taken as ⊆ as := by
  induction as generalizing taken with
  | nil => exact List.Subset.refl _
  | cons a as ih =>
    unfold firstsBy
    split
    · exact List.subset_cons_of_subset _ (ih taken)
    · exact List.cons_subset_cons _ (ih _)

theorem mem_map_firstsBy :
    k ∈ (firstsBy key taken as).map key ↔ k ∈ as.map key ∧ k ∉ taken := by
  induction as generalizing taken with
  | nil => simp [firstsBy]
  | cons a as ih =>
    rw [List.map_cons, List.mem_cons]
    unfold firstsBy
    split
    · rename_i ha
      rw [ih, or_and_right, iff_or_self]
      rintro ⟨rfl, hk⟩
      exact absurd ha hk
    · rename_i ha
      rw [List.map_cons, List.mem_cons, ih, List.mem_cons, not_or]
      by_cases heq : k = key a
      · simp [heq, ha]
      · simp [heq]

theorem not_mem_taken_of_firstsBy (ha : a ∈ firstsBy key taken as) : key a ∉ taken :=
  (mem_map_firstsBy.mp (List.mem_map_of_mem ha)).2

theorem nodup_firstsBy (key : α → β) (taken : List β) (as : List α) :
    ((firstsBy key taken as).map key).Nodup := by
  induction as generalizing taken with
  | nil => exact List.nodup_nil
  | cons a as ih =>
    unfold firstsBy
    split
    · exact ih taken
    · rw [List.map_cons, List.nodup_cons]
      exact ⟨fun hmem => (mem_map_firstsBy.mp hmem).2 List.mem_cons_self, ih _⟩

theorem mem_taken_or_firstsBy (taken : List β) (ha : a ∈ as) :
    key a ∈ taken ∨ key a ∈ (firstsBy key taken as).map key := by
  rw [mem_map_firstsBy]
  by_cases htaken : key a ∈ taken
  · exact .inl htaken
  · exact .inr ⟨List.mem_map_of_mem ha, htaken⟩

theorem firstsBy_eq_nil (h : ∀ a ∈ as, key a ∈ taken) : firstsBy key taken as = [] := by
  rw [List.eq_nil_iff_forall_not_mem]
  intro a ha
  exact not_mem_taken_of_firstsBy ha (h a (firstsBy_subset key taken as ha))

/-- Of the elements with a free key the first is taken up, and no other. -/
theorem filter_firstsBy (hfree : k ∉ taken) (as : List α) :
    (firstsBy key taken as).filter (key · == k) = (as.find? (key · == k)).toList := by
  induction as generalizing taken with
  | nil => rfl
  | cons a as ih =>
    by_cases hkey : key a = k
    · subst hkey
      have hnone : (firstsBy key (key a :: taken) as).filter (key · == key a) = [] := by
        rw [List.filter_eq_nil_iff]
        intro b hb hsame
        exact not_mem_taken_of_firstsBy hb (eq_of_beq hsame ▸ List.mem_cons_self)
      rw [firstsBy_cons_of_not_mem hfree, List.filter_cons_of_pos (by simp),
        List.find?_cons_of_pos (by simp), hnone]
      rfl
    · rw [List.find?_cons_of_neg (by simpa using hkey), firstsBy]
      split
      · exact ih hfree
      · rw [List.filter_cons_of_neg (by simpa using hkey)]
        exact ih (by simp [Ne.symm hkey, hfree])

end MockScaffold
