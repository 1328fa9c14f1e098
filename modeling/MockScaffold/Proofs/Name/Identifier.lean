import MockScaffold.Name.Identifier
import MockScaffold.Proofs.Text.Case

namespace MockScaffold

namespace Text

def IsAscii (text : String) : Prop :=
  ∀ c ∈ text.toList, c.toNat < 0x80

instance (text : String) : Decidable (IsAscii text) :=
  List.decidableBAll (fun c : Char => c.toNat < 0x80) text.toList

theorem toNat_lt_of_isDigit {c : Char} (h : c.isDigit = true) : c.toNat < 0x80 := by
  rw [Char.isDigit, Bool.and_eq_true, decide_eq_true_eq, decide_eq_true_eq] at h
  exact Nat.lt_of_le_of_lt h.2 (by decide)

end Text

namespace Name

/-- An ASCII character that identifiers can have. -/
def IsPlain (c : Char) : Prop :=
  c.toNat < 0x80 ∧ isIdentifierPart c = true
  deriving Decidable

/-- `d` is in ASCII, and it is a digit or a character of identifiers just if `c` is one. -/
def SameKind (c d : Char) : Prop :=
  d.toNat < 0x80 ∧ d.isDigit = c.isDigit ∧ isIdentifierPart d = isIdentifierPart c
  deriving Decidable

section Characters

variable {c : Char}

theorem isIdentifierPart_of_ascii (hc : c.toNat < 0x80) :
    isIdentifierPart c = (c.isAlphanum || c == '_' || c == '$') := by
  rw [isIdentifierPart, Text.isAlphanumeric, Text.isAlphabetic_of_ascii hc,
    Text.isNumeric_of_ascii hc, Char.isAlphanum]

theorem isIdentifierStart_of_ascii (hc : c.toNat < 0x80) :
    isIdentifierStart c = (isIdentifierPart c && !c.isDigit) := by
  obtain ⟨n, hn, rfl⟩ := Text.exists_ofNat hc
  clear hc
  revert n
  decide +kernel

theorem sameKind_case (hc : c.toNat < 0x80) : SameKind c c.toUpper ∧ SameKind c c.toLower := by
  obtain ⟨n, hn, rfl⟩ := Text.exists_ofNat hc
  clear hc
  revert n
  decide +kernel

namespace IsPlain

theorem of_isDigit (h : c.isDigit = true) : IsPlain c := by
  have hascii := Text.toNat_lt_of_isDigit h
  refine ⟨hascii, ?_⟩
  rw [isIdentifierPart_of_ascii hascii, Char.isAlphanum, h, Bool.or_true, Bool.true_or,
    Bool.true_or]

variable (h : IsPlain c)
include h

theorem of_sameKind {d : Char} (hsame : SameKind c d) : IsPlain d :=
  ⟨hsame.1, hsame.2.2.trans h.2⟩

theorem isPlain_toUpper : IsPlain c.toUpper :=
  h.of_sameKind (sameKind_case h.1).1

theorem isPlain_toLower : IsPlain c.toLower :=
  h.of_sameKind (sameKind_case h.1).2

theorem toUpper : ∀ d ∈ Text.toUpper c, IsPlain d := by
  rw [Text.toUpper_of_ascii h.1]
  exact List.forall_mem_singleton.mpr h.isPlain_toUpper

theorem toLower : ∀ d ∈ Text.toLower c, IsPlain d := by
  rw [Text.toLower_of_ascii h.1]
  exact List.forall_mem_singleton.mpr h.isPlain_toLower

theorem isDigit_toUpper : c.toUpper.isDigit = c.isDigit :=
  (sameKind_case h.1).1.2.1

theorem isDigit_toLower : c.toLower.isDigit = c.isDigit :=
  (sameKind_case h.1).2.2.1

end IsPlain

theorem isPlain_underscore : IsPlain '_' := by
  decide

end Characters

def IsPlainText (cs : List Char) : Prop :=
  ∀ c ∈ cs, IsPlain c

namespace IsPlainText

variable {cs ds : List Char}

theorem append (h : IsPlainText cs) (h' : IsPlainText ds) : IsPlainText (cs ++ ds) :=
  List.forall_mem_append.mpr ⟨h, h'⟩

theorem flatMap {f : Char → List Char} (hf : ∀ c, IsPlain c → ∀ d ∈ f c, IsPlain d)
    (h : IsPlainText cs) : IsPlainText (cs.flatMap f) := by
  intro d hd
  obtain ⟨c, hc, hd⟩ := List.mem_flatMap.mp hd
  exact hf c (h c hc) d hd

theorem upper (h : IsPlainText cs) : IsPlainText (Text.upper cs) :=
  h.flatMap fun _ => IsPlain.toUpper

theorem lower (h : IsPlainText cs) : IsPlainText (Text.lower cs) := by
  rw [Text.lower_of_ascii fun c hc => (h c hc).1]
  exact h.flatMap fun _ => IsPlain.toLower

theorem capitalize (h : IsPlainText cs) : IsPlainText (Text.capitalize cs) := by
  cases cs with
  | nil => exact h
  | cons c cs =>
    rw [IsPlainText, List.forall_mem_cons] at h
    exact append h.1.toUpper h.2

theorem decapitalize (h : IsPlainText cs) : IsPlainText (Text.decapitalize cs) := by
  cases cs with
  | nil => exact h
  | cons c cs =>
    rw [IsPlainText, List.forall_mem_cons] at h
    exact append h.1.toLower h.2

theorem snakeTail (h : IsPlainText cs) : IsPlainText (Name.snakeTail cs) := by
  induction cs with
  | nil => exact h
  | cons c cs ih =>
    rw [IsPlainText, List.forall_mem_cons] at h
    have hmark : IsPlainText (if Text.isUpper c then ['_'] else []) := by
      split
      · exact List.forall_mem_singleton.mpr isPlain_underscore
      · exact fun _ hd => absurd hd List.not_mem_nil
    exact append (append hmark h.1.toUpper) (ih h.2)

end IsPlainText

section Identifiers

variable {name : String} {c : Char} {cs : List Char}

theorem isIdentifier_eq (h : name.toList = c :: cs) :
    isIdentifier name = (isIdentifierStart c && cs.all isIdentifierPart) := by
  simp only [isIdentifier, h]

theorem exists_cons_of_isIdentifier (h : isIdentifier name = true) :
    ∃ c cs, name.toList = c :: cs := by
  cases hcs : name.toList with
  | nil => simp [isIdentifier, hcs] at h
  | cons c cs => exact ⟨c, cs, rfl⟩

/-- A plain text is an identifier unless it is empty or starts with a digit. -/
theorem isIdentifier_iff_of_plain (h : IsPlainText name.toList) :
    isIdentifier name = true ↔ ∃ c, name.toList.head? = some c ∧ c.isDigit = false := by
  cases hcs : name.toList with
  | nil => simp [isIdentifier, hcs]
  | cons c cs =>
    rw [hcs, IsPlainText, List.forall_mem_cons] at h
    have hrest : cs.all isIdentifierPart = true :=
      List.all_eq_true.mpr fun d hd => (h.2 d hd).2
    simp [isIdentifier_eq hcs, isIdentifierStart_of_ascii h.1.1, h.1.2, hrest]

theorem isIdentifier_eq_false_of_isDigit (hhead : name.toList.head? = some c)
    (hdigit : c.isDigit = true) : isIdentifier name = false := by
  obtain ⟨cs, hcs⟩ := List.head?_eq_some_iff.mp hhead
  rw [isIdentifier_eq hcs, isIdentifierStart_of_ascii (Text.toNat_lt_of_isDigit hdigit), hdigit]
  simp

theorem isIdentifierPart_of_isIdentifierStart (h : isIdentifierStart c = true) :
    isIdentifierPart c = true := by
  simp only [isIdentifierStart, isIdentifierPart, Text.isAlphanumeric, Bool.or_eq_true] at h ⊢
  exact h.imp_left (Or.imp_left .inl)

theorem isIdentifierPart_of_isIdentifier (h : isIdentifier name = true) :
    ∀ c ∈ name.toList, isIdentifierPart c = true := by
  cases hcs : name.toList with
  | nil => exact fun _ hc => absurd hc List.not_mem_nil
  | cons c cs =>
    rw [isIdentifier_eq hcs, Bool.and_eq_true, List.all_eq_true] at h
    exact List.forall_mem_cons.mpr ⟨isIdentifierPart_of_isIdentifierStart h.1, h.2⟩

theorem dot_not_mem_of_isIdentifier (h : isIdentifier name = true) : '.' ∉ name.toList :=
  fun hdot => absurd (isIdentifierPart_of_isIdentifier h '.' hdot) (by decide)

/-- Identifiers in ASCII are taken apart and put together again by this. -/
theorem isIdentifier_and_isAscii_iff : isIdentifier name = true ∧ Text.IsAscii name ↔
    IsPlainText name.toList ∧ ∃ c, name.toList.head? = some c ∧ c.isDigit = false := by
  constructor
  · rintro ⟨h, hascii⟩
    have hplain : IsPlainText name.toList :=
      fun c hc => ⟨hascii c hc, isIdentifierPart_of_isIdentifier h c hc⟩
    exact ⟨hplain, (isIdentifier_iff_of_plain hplain).mp h⟩
  · rintro ⟨hplain, hhead⟩
    exact ⟨(isIdentifier_iff_of_plain hplain).mpr hhead, fun c hc => (hplain c hc).1⟩

theorem toList_constantName (h : name.toList = c :: cs) :
    (constantName name).toList = Text.toUpper c ++ snakeTail cs := by
  rw [constantName, h]
  exact String.toList_ofList

/-- The constant that stands for a variable has an identifier for its name. -/
theorem isIdentifier_constantName (h : isIdentifier name = true) (hascii : Text.IsAscii name) :
    isIdentifier (constantName name) = true := by
  obtain ⟨hplain, c, hhead, hdigit⟩ := isIdentifier_and_isAscii_iff.mp ⟨h, hascii⟩
  obtain ⟨cs, hcs⟩ := List.head?_eq_some_iff.mp hhead
  rw [hcs, IsPlainText, List.forall_mem_cons] at hplain
  have htext := toList_constantName hcs
  refine (isIdentifier_iff_of_plain ?_).mpr ⟨c.toUpper, ?_, ?_⟩
  · rw [htext]
    exact .append hplain.1.toUpper (.snakeTail hplain.2)
  · rw [htext, Text.toUpper_of_ascii hplain.1.1]
    rfl
  · rw [hplain.1.isDigit_toUpper, hdigit]

theorem isIdentifier_decapitalized (h : isIdentifier name = true) (hascii : Text.IsAscii name) :
    isIdentifier (decapitalized name) = true := by
  obtain ⟨hplain, c, hhead, hdigit⟩ := isIdentifier_and_isAscii_iff.mp ⟨h, hascii⟩
  obtain ⟨cs, hcs⟩ := List.head?_eq_some_iff.mp hhead
  have hlower := hplain.decapitalize
  rw [hcs, IsPlainText, List.forall_mem_cons] at hplain
  have htext : (decapitalized name).toList = Text.decapitalize name.toList :=
    String.toList_ofList
  refine (isIdentifier_iff_of_plain ?_).mpr ⟨c.toLower, ?_, ?_⟩
  · rw [htext]
    exact hlower
  · rw [htext, hcs, Text.decapitalize, Text.toLower_of_ascii hplain.1.1]
    rfl
  · rw [hplain.1.isDigit_toLower, hdigit]

end Identifiers

end Name

end MockScaffold
