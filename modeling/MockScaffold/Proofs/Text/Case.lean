import MockScaffold.Text.Case

namespace MockScaffold.Text

variable {c d : Char}

/-- What is said of all ASCII characters can be checked for each of their 128 numbers. -/
theorem exists_ofNat (hc : c.toNat < 0x80) : ∃ n < 0x80, Char.ofNat n = c :=
  ⟨c.toNat, hc, Char.ofNat_toNat c⟩

theorem isUpper_iff : c.isUpper = true ↔ 0x41 ≤ c.toNat ∧ c.toNat ≤ 0x5A := by
  have hupper : c.isUpper = decide (0x41 ≤ c.toNat ∧ c.toNat ≤ 0x5A) := rfl
  rw [hupper, decide_eq_true_eq]

theorem isLower_iff : c.isLower = true ↔ 0x61 ≤ c.toNat ∧ c.toNat ≤ 0x7A := by
  have hlower : c.isLower = (decide (0x61 ≤ c.toNat) && decide (c.toNat ≤ 0x7A)) := rfl
  rw [hlower, Bool.and_eq_true, decide_eq_true_eq, decide_eq_true_eq]

theorem isLower_of_not_ascii (h : 0x80 ≤ c.toNat) : c.isLower = false := by
  rw [Bool.eq_false_iff, ne_eq, isLower_iff]
  omega

/-- A capital of ASCII, or no character of ASCII. -/
def IsCapitalOrForeign (c : Char) : Prop :=
  c.isUpper = true ∨ 0x80 ≤ c.toNat
  deriving Decidable

theorem IsCapitalOrForeign.isLower (h : IsCapitalOrForeign c) : c.isLower = false := by
  rcases h with hupper | hforeign
  · rw [isUpper_iff] at hupper
    rw [Bool.eq_false_iff, ne_eq, isLower_iff]
    omega
  · exact isLower_of_not_ascii hforeign

theorem isCapitalOrForeign_ofNat {n : Nat}
    (h : 0x41 ≤ n ∧ n ≤ 0x5A ∨ 0x80 ≤ n ∧ n < 0xD800 ∨ 0xE000 ≤ n ∧ n < 0x110000) :
    IsCapitalOrForeign (Char.ofNat n) := by
  have hvalid : n.isValidChar := by
    unfold Nat.isValidChar
    omega
  have hn : (Char.ofNat n).toNat = n := by
    rw [Char.ofNat, dif_pos hvalid]
    rfl
  rw [IsCapitalOrForeign, isUpper_iff]
  omega

/-- No shift leads to a surrogate, nor to any character of ASCII but its capitals. -/
theorem isCapitalOrForeign_shifted {n m : Nat} (h : shifted? upperShifts n = some m) :
    IsCapitalOrForeign (Char.ofNat m) := by
  have htable : ∀ s ∈ upperShifts,
      let first := (s.span.first : Int) + s.distance
      let last := (s.span.last : Int) + s.distance
      0x41 ≤ first ∧ last ≤ 0x5A ∨ 0x80 ≤ first ∧ last < 0xD800 ∨
        0xE000 ≤ first ∧ last < 0x110000 := by
    decide +kernel
  unfold shifted? at h
  obtain ⟨s, hs, rfl⟩ := Option.map_eq_some_iff.mp h
  have himage := htable s (List.mem_of_find?_eq_some hs)
  have hcontains := List.find?_some hs
  simp only [Span.contains, Bool.and_eq_true, decide_eq_true_eq] at hcontains
  dsimp only at himage
  refine isCapitalOrForeign_ofNat ?_
  omega

theorem isCapitalOrForeign_expansion {n : Nat} {ns : List Nat}
    (h : upperExpansions.lookup n = some ns) : ∀ d ∈ ns.map Char.ofNat, IsCapitalOrForeign d := by
  have htable : ∀ entry ∈ upperExpansions, ∀ m ∈ entry.2,
      0x41 ≤ m ∧ m ≤ 0x5A ∨ 0x80 ≤ m ∧ m < 0xD800 := by
    decide +kernel
  obtain ⟨before, after, heq, -⟩ := List.lookup_eq_some_iff.mp h
  rw [List.forall_mem_map]
  intro m hm
  have himage := htable (n, ns) (heq ▸ List.mem_append_cons_self) m hm
  refine isCapitalOrForeign_ofNat ?_
  omega

theorem mem_toUpper_cases (h : d ∈ toUpper c) :
    d = c ∧ c.isLower = false ∨ IsCapitalOrForeign d := by
  by_cases hascii : c.toNat < 0x80
  · rw [toUpper_of_ascii hascii, List.mem_singleton] at h
    subst h
    obtain ⟨n, hn, rfl⟩ := exists_ofNat hascii
    clear hascii
    revert n
    decide +kernel
  · rw [toUpper, if_neg hascii, mapCase] at h
    cases hlong : upperExpansions.lookup c.toNat with
    | some ns =>
      rw [hlong] at h
      exact .inr (isCapitalOrForeign_expansion hlong d h)
    | none =>
      rw [hlong] at h
      cases hshift : shifted? upperShifts c.toNat with
      | some m =>
        rw [hshift] at h
        rw [List.mem_singleton.mp h]
        exact .inr (isCapitalOrForeign_shifted hshift)
      | none =>
        rw [hshift] at h
        exact .inl ⟨List.mem_singleton.mp h, isLower_of_not_ascii (Nat.le_of_not_lt hascii)⟩

theorem isLower_of_mem_toUpper (h : d ∈ toUpper c) : d.isLower = false := by
  rcases mem_toUpper_cases h with ⟨rfl, hlower⟩ | hforeign
  · exact hlower
  · exact hforeign.isLower

theorem isLower_of_mem_upper {cs : List Char} (h : d ∈ upper cs) : d.isLower = false := by
  obtain ⟨c, -, hd⟩ := List.mem_flatMap.mp h
  exact isLower_of_mem_toUpper hd

theorem dot_not_mem_toUpper (h : c ≠ '.') : '.' ∉ toUpper c := by
  intro hmem
  rcases mem_toUpper_cases hmem with ⟨heq, -⟩ | hforeign
  · exact h heq.symm
  · exact absurd hforeign (by decide)

theorem dot_not_mem_capitalize {cs : List Char} (h : '.' ∉ cs) : '.' ∉ capitalize cs := by
  cases cs with
  | nil => exact h
  | cons c rest =>
    rw [List.mem_cons, not_or] at h
    rw [capitalize, List.mem_append, not_or]
    exact ⟨dot_not_mem_toUpper (Ne.symm h.1), h.2⟩

end MockScaffold.Text
