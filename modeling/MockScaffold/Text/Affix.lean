namespace MockScaffold.Text

def startsWith (text start : String) : Bool :=
  start.toList.isPrefixOf text.toList

def endsWith (text ending : String) : Bool :=
  ending.toList.isSuffixOf text.toList

def withoutStart? (text start : String) : Option String :=
  if startsWith text start then some (String.ofList (text.toList.drop start.length)) else none

def withoutEnding? (text ending : String) : Option String :=
  if endsWith text ending then
    some (String.ofList (text.toList.take (text.length - ending.length)))
  else
    none

theorem withoutEnding?_eq_some_iff {text ending body : String} :
    withoutEnding? text ending = some body ↔ text = body ++ ending := by
  unfold withoutEnding? endsWith
  constructor
  · intro h
    split at h
    · rename_i hs
      obtain ⟨front, hfront⟩ := List.isSuffixOf_iff_suffix.mp hs
      simp only [Option.some.injEq] at h
      subst h
      apply String.toList_inj.mp
      simp [← String.length_toList, ← hfront]
    · cases h
  · rintro rfl
    simp [← String.length_toList]

theorem withoutStart?_eq_some_iff {text start rest : String} :
    withoutStart? text start = some rest ↔ text = start ++ rest := by
  unfold withoutStart? startsWith
  constructor
  · intro h
    split at h
    · rename_i hs
      obtain ⟨back, hback⟩ := List.isPrefixOf_iff_prefix.mp hs
      simp only [Option.some.injEq] at h
      subst h
      apply String.toList_inj.mp
      simp [← String.length_toList, ← hback]
    · cases h
  · rintro rfl
    simp [← String.length_toList]

end MockScaffold.Text
