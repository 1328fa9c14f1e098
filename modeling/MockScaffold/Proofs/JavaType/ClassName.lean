import MockScaffold.Proofs.Decl.Validity
import MockScaffold.Proofs.JavaType.WellFormed
import MockScaffold.Proofs.Name.Identifier

namespace MockScaffold.TypeRef

open Name (IsPlain isIdentifier)
open Text (IsAscii)
open TypeToken (isNameChar)

theorem isNameLetter_iff_isPlain {c : Char} : IsNameLetter c ↔ IsPlain c ∨ c = '.' := by
  have hascii : c.toNat < 0x80 → (isNameChar c = true ↔ IsPlain c ∨ c = '.') := by
    intro hc
    rw [IsPlain, and_iff_right hc, Name.isIdentifierPart_of_ascii hc]
    simp [isNameChar]
  rw [← isNameChar_iff]
  constructor
  · intro h
    exact (hascii (toNat_lt_of_isNameLetter (isNameChar_iff.mp h))).mp h
  · rintro h
    refine (hascii ?_).mpr h
    rcases h with h | rfl
    · exact h.1
    · decide

section Segments

variable {ds : List Char} {owner simple name : String}

/-- A pair of dots does not reach beyond a dot that no other dot follows. -/
theorem dotPair_append_iff (h : '.' ∉ ds) (cs : List Char) :
    ['.', '.'] <:+: cs ++ '.' :: ds ↔ ['.', '.'] <:+: cs ∨ ['.'] <:+ cs := by
  have hback : ¬['.', '.'] <:+: ds := fun hpair => h (hpair.subset List.mem_cons_self)
  have hfront : ds.head? ≠ some '.' := fun hdot => h (List.mem_of_head? hdot)
  rw [singleton_suffix_iff]
  induction cs with
  | nil => simp [List.infix_cons_iff, List.cons_prefix_cons, hback, singleton_prefix_iff, hfront]
  | cons c cs ih =>
    have hpair (es : List Char) : ['.', '.'] <:+: c :: es ↔
        '.' = c ∧ es.head? = some '.' ∨ ['.', '.'] <:+: es := by
      rw [List.infix_cons_iff, List.cons_prefix_cons, singleton_prefix_iff]
    rw [List.cons_append, hpair, hpair, or_congr_right ih]
    cases cs with
    | nil => simp [eq_comm (a := '.')]
    | cons d cs => simp [or_assoc]

/-- The letters of an identifier are those of names if they are in ASCII. -/
theorem forall_isNameLetter_iff (h : isIdentifier simple = true) :
    (∀ c ∈ simple.toList, IsNameLetter c) ↔ IsAscii simple := by
  refine forall₂_congr fun c hc => ?_
  have hdot : c ≠ '.' := fun hdot => Name.dot_not_mem_of_isIdentifier h (hdot ▸ hc)
  rw [isNameLetter_iff_isPlain, or_iff_left hdot]
  exact and_iff_left (Name.isIdentifierPart_of_isIdentifier h c hc)

theorem isAscii_of_isQualified (h : IsQualified name) : IsAscii name :=
  fun c hc => toNat_lt_of_isNameLetter (h.letters c hc)

theorem isQualified_identifier_iff (h : isIdentifier simple = true) :
    IsQualified simple ↔ IsAscii simple := by
  have hdot := Name.dot_not_mem_of_isIdentifier h
  refine ⟨isAscii_of_isQualified, fun hascii => ⟨?_, ?_, ?_, ?_, ?_⟩⟩
  · rintro rfl
    cases h
  · exact (forall_isNameLetter_iff h).mpr hascii
  · exact fun hfirst => hdot (hfirst.subset List.mem_cons_self)
  · exact fun hlast => hdot (hlast.subset List.mem_cons_self)
  · exact fun hpair => hdot (hpair.subset List.mem_cons_self)

theorem isQualified_append_iff (owner : String) (h : isIdentifier simple = true) :
    IsQualified (owner ++ "." ++ simple) ↔ IsQualified owner ∧ IsAscii simple := by
  have hdot := Name.dot_not_mem_of_isIdentifier h
  constructor
  · rintro ⟨-, hletters, hfirst, -, hpair⟩
    rw [Name.toList_append_dot] at hletters hfirst hpair
    rw [List.forall_mem_append, List.forall_mem_cons] at hletters
    rw [dotPair_append_iff hdot, not_or] at hpair
    refine ⟨⟨?_, hletters.1, ?_, hpair.2, hpair.1⟩, ?_⟩
    · rintro rfl
      exact hfirst ⟨simple.toList, rfl⟩
    · exact fun hfront => hfirst (hfront.trans (List.prefix_append _ _))
    · exact (forall_isNameLetter_iff h).mp hletters.2.2
  · rintro ⟨howner, hascii⟩
    have hletters := (forall_isNameLetter_iff h).mpr hascii
    obtain ⟨c, cs, hcs⟩ := Name.exists_cons_of_isIdentifier h
    obtain ⟨b, bs, hbs⟩ :=
      List.exists_cons_of_ne_nil (mt String.toList_eq_nil_iff.mp howner.nonempty)
    refine ⟨by simp, ?_, ?_, ?_, ?_⟩ <;> rw [Name.toList_append_dot]
    · rw [List.forall_mem_append, List.forall_mem_cons]
      exact ⟨howner.letters, isNameLetter_iff_isPlain.mpr (.inr rfl), hletters⟩
    · have hfirst := howner.noFirstDot
      rwa [singleton_prefix_iff, hbs] at hfirst ⊢
    · -- The last character is one of the new segment, which is not empty.
      rw [hcs] at hdot
      rw [singleton_suffix_iff, hcs, List.getLast?_append, List.getLast?_cons_cons,
        List.getLast?_eq_some_getLast (List.cons_ne_nil c cs), Option.some_or, Option.some.injEq]
      exact fun hlast => hdot (hlast ▸ List.getLast_mem _)
    · rw [dotPair_append_iff hdot, not_or]
      exact ⟨howner.noDotPair, howner.noLastDot⟩

end Segments

/-- What a class needs to have its name for the text of its type. -/
theorem parse_eq_ofClass_iff {name : String} :
    parse name = .ok (.ofClass name) ↔ IsQualified name ∧ ¬IsReserved name := by
  have h := parse_canonical_iff (t := .ofClass name)
  rw [canonical_ofClass] at h
  rw [h, ← isClassName_iff]
  exact ⟨fun | .named hname _ => hname, isWritten_ofClass⟩

end MockScaffold.TypeRef
