import MockScaffold.Proofs.Name.Gerund
import MockScaffold.Proofs.Name.Identifier

namespace MockScaffold.Name

/-- Letters and digits of ASCII, the first one a small letter. -/
structure IsCamelCase (name : String) : Prop where
  isAlphanum : ∀ c ∈ name.toList, c.isAlphanum = true
  startsSmall : StartsSmall name.toList

instance (name : String) : Decidable (IsCamelCase name) :=
  decidable_of_iff (name.toList.all (·.isAlphanum) = true ∧ StartsSmall name.toList)
    ⟨fun h => ⟨List.all_eq_true.mp h.1, h.2⟩,
      fun h => ⟨List.all_eq_true.mpr h.isAlphanum, h.startsSmall⟩⟩

/-- Reads a constant back: what comes after a mark is a capital, and all else is small. -/
def camelCase : List Char → List Char
  | [] => []
  | [c] => [c.toLower]
  | c :: d :: rest =>
    if c = '_' then d :: camelCase rest else c.toLower :: camelCase (d :: rest)

section Reading

variable {c : Char} {cs : List Char}

theorem camelCase_mark (c : Char) (cs : List Char) :
    camelCase ('_' :: c :: cs) = c :: camelCase cs :=
  if_pos rfl

theorem camelCase_cons (h : c ≠ '_') (cs : List Char) :
    camelCase (c :: cs) = c.toLower :: camelCase cs := by
  cases cs with
  | nil => rfl
  | cons d cs => exact if_neg h

theorem toNat_lt_of_isAlphanum (h : c.isAlphanum = true) : c.toNat < 0x80 := by
  change (c.isUpper || c.isLower || c.isDigit) = true at h
  rw [Bool.or_eq_true, Bool.or_eq_true, Text.isUpper_iff, Text.isLower_iff] at h
  rcases h with h | hdigit
  · omega
  · exact Text.toNat_lt_of_isDigit hdigit

/-- Only capitals stay what they are in upper case, and the others are got back from it. -/
theorem alphanum_cases (h : c.isAlphanum = true) :
    Text.isUpper c = true ∧ Text.toUpper c = [c] ∨
      Text.isUpper c = false ∧
        ∃ d, Text.toUpper c = [d] ∧ d ≠ '_' ∧ d.toLower = c := by
  have hascii := toNat_lt_of_isAlphanum h
  rw [Text.toUpper_of_ascii hascii]
  have hcases : Text.isUpper c = true ∧ c.toUpper = c ∨
      Text.isUpper c = false ∧ c.toUpper ≠ '_' ∧ c.toUpper.toLower = c := by
    obtain ⟨n, hn, rfl⟩ := Text.exists_ofNat hascii
    clear hascii
    revert n
    decide +kernel
  rcases hcases with ⟨hupper, hsame⟩ | ⟨hsmall, hmark, hback⟩
  · exact .inl ⟨hupper, congrArg ([·]) hsame⟩
  · exact .inr ⟨hsmall, c.toUpper, rfl, hmark, hback⟩

theorem camelCase_snakeTail (h : ∀ c ∈ cs, c.isAlphanum = true) :
    camelCase (snakeTail cs) = cs := by
  induction cs with
  | nil => rfl
  | cons c cs ih =>
    rw [List.forall_mem_cons] at h
    have hrest := ih h.2
    rw [snakeTail]
    rcases alphanum_cases h.1 with ⟨hupper, htext⟩ | ⟨hsmall, d, htext, hmark, hback⟩
    · rw [hupper, if_pos rfl, htext, List.append_assoc, List.singleton_append,
        List.singleton_append, camelCase_mark, hrest]
    · rw [hsmall, if_neg Bool.false_ne_true, htext, List.nil_append, List.singleton_append,
        camelCase_cons hmark, hback, hrest]

/-- The name is got back from its constant. -/
theorem camelCase_constantName {name : String} (h : IsCamelCase name) :
    camelCase (constantName name).toList = name.toList := by
  obtain ⟨c, hhead, hlower⟩ := h.startsSmall
  obtain ⟨cs, hcs⟩ := List.head?_eq_some_iff.mp hhead
  have hname := h.isAlphanum
  rw [hcs, List.forall_mem_cons] at hname
  have hrest := camelCase_snakeTail hname.2
  rw [toList_constantName hcs, hcs]
  rcases alphanum_cases hname.1 with ⟨hupper, -⟩ | ⟨-, d, htext, hmark, hback⟩
  · rw [(lower_cases hlower).2.1] at hupper
    cases hupper
  · rw [htext, List.singleton_append, camelCase_cons hmark, hback, hrest]

theorem constantName_inj {name name' : String} (h : IsCamelCase name) (h' : IsCamelCase name') :
    constantName name = constantName name' ↔ name = name' := by
  refine ⟨fun heq => String.toList_injective ?_, congrArg constantName⟩
  rw [← camelCase_constantName h, heq, camelCase_constantName h']

end Reading

end MockScaffold.Name
