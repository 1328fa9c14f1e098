namespace MockScaffold.Name

def splitAtLastDot? : List Char → Option (List Char × List Char)
  | [] => none
  | c :: rest =>
    match splitAtLastDot? rest with
    | some (before, after) => some (c :: before, after)
    | none => if c = '.' then some ([], rest) else none

def simpleName (name : String) : String :=
  match splitAtLastDot? name.toList with
  | some (_, after) => String.ofList after
  | none => name

/-- For a nested class this is the enclosing class and not the package. -/
def qualifier? (name : String) : Option String :=
  (splitAtLastDot? name.toList).map fun (before, _) => String.ofList before

/-- An empty package counts as none. -/
def qualify (package : Option String) (simple : String) : String :=
  match package with
  | some p => if p.isEmpty then simple else p ++ "." ++ simple
  | none => simple

theorem splitAtLastDot?_eq_none_iff {cs : List Char} : splitAtLastDot? cs = none ↔ '.' ∉ cs := by
  induction cs with
  | nil => simp [splitAtLastDot?]
  | cons c rest ih =>
    cases h : splitAtLastDot? rest with
    | some p =>
      have hdot : '.' ∈ rest := Decidable.byContradiction fun hn => by simp [ih.mpr hn] at h
      simp [splitAtLastDot?, h, hdot]
    | none => by_cases hc : c = '.' <;> simp [splitAtLastDot?, h, hc, ih.mp h, Ne.symm]

theorem eq_append_of_splitAtLastDot? {cs before after : List Char}
    (h : splitAtLastDot? cs = some (before, after)) :
    cs = before ++ '.' :: after ∧ '.' ∉ after := by
  induction cs generalizing before with
  | nil => simp [splitAtLastDot?] at h
  | cons c rest ih =>
    unfold splitAtLastDot? at h
    cases hr : splitAtLastDot? rest with
    | some p =>
      simp only [hr, Option.some.injEq, Prod.mk.injEq] at h
      obtain ⟨rfl, rfl⟩ := h
      have := ih hr
      exact ⟨by simp [← this.1], this.2⟩
    | none =>
      simp only [hr] at h
      split at h
      · rename_i hc
        simp only [Option.some.injEq, Prod.mk.injEq] at h
        obtain ⟨rfl, rfl⟩ := h
        exact ⟨by simp [hc], splitAtLastDot?_eq_none_iff.mp hr⟩
      · cases h

theorem splitAtLastDot?_append {before after : List Char} (h : '.' ∉ after) :
    splitAtLastDot? (before ++ '.' :: after) = some (before, after) := by
  induction before with
  | nil => simp [splitAtLastDot?, splitAtLastDot?_eq_none_iff.mpr h]
  | cons c rest ih => simp [splitAtLastDot?, ih]

end MockScaffold.Name
