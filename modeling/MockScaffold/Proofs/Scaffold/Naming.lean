import MockScaffold.Proofs.JavaType.ClassName
import MockScaffold.Proofs.Name.Words
import MockScaffold.Scaffold.Synthesis

namespace MockScaffold

namespace TypeRef

/-- The first character of the simple name that is no separator is a digit, where arrays count as
their elements. -/
def beginsWithDigit : TypeRef → Bool
  | .named name _ =>
    ((Name.simpleName name).toList.find? (!Name.isSeparator ·)).any Char.isDigit
  | .array element => element.beginsWithDigit
  | .void | .primitive _ => false

end TypeRef

namespace Name

theorem mem_of_mem_simpleName {name : String} {c : Char} (h : c ∈ (simpleName name).toList) :
    c ∈ name.toList ∧ c ≠ '.' := by
  unfold simpleName at h
  split at h
  · rename_i before after hsplit
    obtain ⟨heq, hdot⟩ := eq_append_of_splitAtLastDot? hsplit
    rw [String.toList_ofList] at h
    refine ⟨?_, fun hc => hdot (hc ▸ h)⟩
    rw [heq]
    exact List.mem_append_right _ (List.mem_cons_of_mem _ h)
  · rename_i hsplit
    exact ⟨h, fun hc => splitAtLastDot?_eq_none_iff.mp hsplit (hc ▸ h)⟩

/-- The words are put together with no other than plain characters, and the first character stays in
front up to its case. -/
structure IsJoin (join : List (List Char) → List Char) : Prop where
  plain {ws : List (List Char)} : IsPlainText ws.flatten → IsPlainText (join ws)
  head? {ws : List (List Char)} {c : Char} : (∀ w ∈ ws, w ≠ []) → ws.flatten.head? = some c →
    IsPlain c → ∃ d, (join ws).head? = some d ∧ IsPlain d ∧ d.isDigit = c.isDigit

section Join

variable {join : List (List Char) → List Char}

theorem isJoin_upperSnake : IsJoin upperSnake where
  plain := isPlainText_upperSnake
  head? hne hhead hc :=
    ⟨_, head?_upperSnake hne hhead hc.1, hc.isPlain_toUpper, hc.isDigit_toUpper⟩

theorem isJoin_lowerCamel : IsJoin lowerCamel where
  plain := isPlainText_lowerCamel
  head? hne hhead hc :=
    ⟨_, head?_lowerCamel hne hhead hc.1, hc.isPlain_toLower, hc.isDigit_toLower⟩

theorem IsJoin.decapitalize (h : IsJoin join) : IsJoin (Text.decapitalize ∘ join) where
  plain hws := (h.plain hws).decapitalize
  head? := by
    intro ws c hne hhead hc
    obtain ⟨d, hd, hplain, hdigit⟩ := h.head? hne hhead hc
    obtain ⟨ds, hds⟩ := List.head?_eq_some_iff.mp hd
    refine ⟨d.toLower, ?_, hplain.isPlain_toLower, ?_⟩
    · rw [Function.comp_apply, hds, Text.decapitalize, Text.toLower_of_ascii hplain.1]
      rfl
    · rw [hplain.isDigit_toLower, hdigit]

end Join

end Name

namespace Scaffold

open Name (IsJoin IsPlainText isIdentifier)

section Plural

variable {ws : List (List Char)} {w : List Char}

theorem ne_nil_of_mem_plural (hne : ∀ w ∈ ws, w ≠ []) (hw : w ∈ plural ws) : w ≠ [] := by
  induction ws using plural.induct with
  | case1 => cases hw
  | case2 v =>
    rw [List.mem_singleton.mp hw]
    exact List.append_ne_nil_of_right_ne_nil _ (List.cons_ne_nil _ _)
  | case3 v rest hrest ih =>
    rw [plural] at hw
    · rcases List.mem_cons.mp hw with rfl | hw
      · exact hne _ List.mem_cons_self
      · exact ih (fun u hu => hne u (List.mem_cons_of_mem _ hu)) hw
    · exact hrest

theorem head?_flatten_plural (hne : ∀ w ∈ ws, w ≠ []) :
    (plural ws).flatten.head? = ws.flatten.head? := by
  cases ws with
  | nil => rfl
  | cons v rest =>
    obtain ⟨c, cs, rfl⟩ := List.exists_cons_of_ne_nil (hne v List.mem_cons_self)
    cases rest <;> rfl

theorem isPlainText_plural (h : IsPlainText ws.flatten) : IsPlainText (plural ws).flatten := by
  induction ws using plural.induct with
  | case1 => exact h
  | case2 v =>
    rw [List.flatten_singleton] at h
    rw [plural, List.flatten_singleton]
    exact h.append (List.forall_mem_singleton.mpr (by decide))
  | case3 v rest hrest ih =>
    rw [List.flatten_cons, IsPlainText, List.forall_mem_append] at h
    rw [plural]
    · rw [List.flatten_cons]
      exact IsPlainText.append h.1 (ih h.2)
    · exact hrest

end Plural

section TypeWords

theorem ne_nil_of_mem_typeWords : ∀ (type : TypeRef), ∀ w ∈ typeWords type, w ≠ []
  | .void, _, hw => absurd hw List.not_mem_nil
  | .primitive _, w, hw => by
    rw [List.mem_singleton.mp hw]
    exact List.cons_ne_nil _ _
  | .named _ _, _, hw => Name.ne_nil_of_mem_words hw
  | .array element, _, hw => ne_nil_of_mem_plural (ne_nil_of_mem_typeWords element) hw

/-- Whether the words begin with a digit can be told by the type. -/
theorem any_isDigit_head?_typeWords : ∀ type : TypeRef,
    (typeWords type).flatten.head?.any Char.isDigit = type.beginsWithDigit
  | .void => rfl
  | .primitive p => by cases p <;> rfl
  | .named name args => by
    rw [typeWords, Name.flatten_words, List.head?_filter]
    rfl
  | .array element => by
    rw [typeWords, head?_flatten_plural (ne_nil_of_mem_typeWords element),
      any_isDigit_head?_typeWords element]
    rfl

theorem isPlainText_typeWords {type : TypeRef} (h : type.IsWritten) :
    IsPlainText (typeWords type).flatten := by
  induction h with
  | void => exact fun _ hc => absurd hc List.not_mem_nil
  | primitive p =>
    cases p <;> exact List.forall_mem_singleton.mpr (by decide)
  | named hname _ _ =>
    rw [typeWords, Name.flatten_words]
    intro c hc
    obtain ⟨hmem, hdot⟩ := Name.mem_of_mem_simpleName (List.mem_filter.mp hc).1
    have hletter := (TypeRef.isClassName_iff.mp hname).1.letters c hmem
    exact (TypeRef.isNameLetter_iff_isPlain.mp hletter).resolve_right hdot
  | array _ ih => exact isPlainText_plural ih

end TypeWords

def joinedName (join : List (List Char) → List Char) (fallback : String) (type : TypeRef) :
    String :=
  if (typeWords type).isEmpty then fallback else String.ofList (join (typeWords type))

section Joined

variable {join : List (List Char) → List Char} {fallback : String} {type : TypeRef}

theorem decapitalized_fieldName (type : TypeRef) : Name.decapitalized (fieldName type) =
    joinedName (Text.decapitalize ∘ Name.lowerCamel) "value" type := by
  have hvalue : Name.decapitalized "value" = "value" := by decide
  unfold fieldName joinedName
  dsimp only
  split
  · exact hvalue
  · rw [Name.decapitalized, String.toList_ofList]
    rfl

theorem isIdentifier_joinedName_eq_false (hjoin : IsJoin join)
    (hdigit : type.beginsWithDigit = true) :
    isIdentifier (joinedName join fallback type) = false := by
  rw [← any_isDigit_head?_typeWords, Option.any_eq_true] at hdigit
  obtain ⟨c, hc, hdigit⟩ := hdigit
  have hhead : (typeWords type).flatten.head? = some c := hc
  have hempty : (typeWords type).isEmpty = false := by
    cases hwords : typeWords type with
    | nil =>
      rw [hwords] at hhead
      cases hhead
    | cons => rfl
  obtain ⟨d, hd, -, heq⟩ :=
    hjoin.head? (ne_nil_of_mem_typeWords type) hhead (Name.IsPlain.of_isDigit hdigit)
  rw [joinedName, hempty]
  refine Name.isIdentifier_eq_false_of_isDigit (c := d) ?_ (heq.trans hdigit)
  rwa [if_neg Bool.false_ne_true, String.toList_ofList]

theorem isIdentifier_joinedName (hjoin : IsJoin join) (hfallback : isIdentifier fallback = true)
    (hwritten : type.IsWritten) (hdigit : type.beginsWithDigit = false) :
    isIdentifier (joinedName join fallback type) = true := by
  unfold joinedName
  split
  · exact hfallback
  rename_i hempty
  have hplain := isPlainText_typeWords hwritten
  have hne : (typeWords type).flatten ≠ [] := by
    intro hnil
    rw [List.flatten_eq_nil_iff] at hnil
    obtain ⟨w, ws, hws⟩ := List.exists_cons_of_ne_nil (mt List.isEmpty_iff.mpr hempty)
    have hw : w ∈ typeWords type := hws ▸ List.mem_cons_self
    exact ne_nil_of_mem_typeWords type w hw (hnil w hw)
  obtain ⟨c, cs, hcs⟩ := List.exists_cons_of_ne_nil hne
  have hhead : (typeWords type).flatten.head? = some c := by rw [hcs, List.head?_cons]
  obtain ⟨d, hd, -, heq⟩ :=
    hjoin.head? (ne_nil_of_mem_typeWords type) hhead (hplain c (List.mem_of_head? hhead))
  rw [← any_isDigit_head?_typeWords, hhead] at hdigit
  rw [Name.isIdentifier_iff_of_plain] <;> rw [String.toList_ofList]
  · exact ⟨d, hd, heq.trans hdigit⟩
  · exact hjoin.plain hplain

end Joined

/-- The name is made from the type alone, that of a constant or that of a mock. -/
def IsNamedAfter (type : TypeRef) (name : String) : Prop :=
  name = Draft.elementConstantName type ∨ name = Name.decapitalized (fieldName type)

section NamedAfter

variable {type : TypeRef} {name : String}

theorem elementConstantName_eq (type : TypeRef) : Draft.elementConstantName type =
    if type.className? = some Known.uuid then "UUID_VALUE"
    else joinedName Name.upperSnake "VALUE" type := by
  rw [Draft.elementConstantName]
  simp only [beq_iff_eq]
  rfl

theorem isLower_of_mem_elementConstantName {c : Char}
    (h : c ∈ (Draft.elementConstantName type).toList) : c.isLower = false := by
  have hvalue : "VALUE".toList.all (!·.isLower) = true := by decide
  have huuid : "UUID_VALUE".toList.all (!·.isLower) = true := by decide
  rw [elementConstantName_eq] at h
  split at h
  · simpa using List.all_eq_true.mp huuid c h
  · unfold joinedName at h
    split at h
    · simpa using List.all_eq_true.mp hvalue c h
    · rw [String.toList_ofList] at h
      exact Name.isLower_of_mem_upperSnake h

theorem beginsWithDigit_uuid (h : type.className? = some Known.uuid) :
    type.beginsWithDigit = false := by
  cases type with
  | named name args =>
    cases h
    rfl
  | _ => cases h

theorem IsNamedAfter.isIdentifier_eq_false (h : IsNamedAfter type name)
    (hdigit : type.beginsWithDigit = true) : isIdentifier name = false := by
  rcases h with rfl | rfl
  · rw [elementConstantName_eq, if_neg]
    · exact isIdentifier_joinedName_eq_false Name.isJoin_upperSnake hdigit
    · intro huuid
      rw [beginsWithDigit_uuid huuid] at hdigit
      cases hdigit
  · rw [decapitalized_fieldName]
    exact isIdentifier_joinedName_eq_false Name.isJoin_lowerCamel.decapitalize hdigit

theorem IsNamedAfter.isIdentifier (h : IsNamedAfter type name) (hwritten : type.IsWritten)
    (hdigit : type.beginsWithDigit = false) : isIdentifier name = true := by
  rcases h with rfl | rfl
  · rw [elementConstantName_eq]
    split
    · decide
    · exact isIdentifier_joinedName Name.isJoin_upperSnake (by decide) hwritten hdigit
  · rw [decapitalized_fieldName]
    exact isIdentifier_joinedName Name.isJoin_lowerCamel.decapitalize (by decide) hwritten hdigit

end NamedAfter

end Scaffold

end MockScaffold
