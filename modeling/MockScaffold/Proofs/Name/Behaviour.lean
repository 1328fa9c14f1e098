import MockScaffold.Proofs.Name.Dots
import MockScaffold.Proofs.Name.Gerund
import MockScaffold.Proofs.Name.Identifier

namespace MockScaffold.Name

/-- A name as methods have it: an identifier in ASCII that starts with a small letter. -/
structure IsMethodName (name : String) : Prop where
  isIdentifier : isIdentifier name = true
  isAscii : Text.IsAscii name
  startsSmall : StartsSmall name.toList

instance (name : String) : Decidable (IsMethodName name) :=
  decidable_of_iff
    (isIdentifier name = true ∧ Text.IsAscii name ∧ StartsSmall name.toList)
    ⟨fun h => ⟨h.1, h.2.1, h.2.2⟩, fun h => ⟨h.isIdentifier, h.isAscii, h.startsSmall⟩⟩

/-- Nothing, or something that starts with a capital. -/
def FollowsVerb (cs : List Char) : Prop :=
  ∀ c, cs.head? = some c → Text.isUpper c = true

instance (cs : List Char) : Decidable (FollowsVerb cs) :=
  decidable_of_iff (cs.head?.all Text.isUpper = true) (Option.all_eq_true _ _)

/-- The verbs that have the gerund `Checking`. -/
def checkers : List (List Char) :=
  ["check".toList, "checke".toList]

/-- Two names of one class: the verbs have one gerund and the same follows, or the second name
checks what the first one asks, as `checkIfIsOpen` does for `isOpen`. -/
inductive SharesClass : List Char → List Char → Prop
  | gerund {verb verb' rest : List Char} : SharesGerund verb verb' → IsSmall verb →
      FollowsVerb rest → SharesClass (verb ++ rest) (verb' ++ rest)
  | question {name verb : List Char} : Asks name → verb ∈ checkers →
      SharesClass name (verb ++ ("If".toList ++ Text.capitalize name))

section Split

variable {verb verb' rest rest' start : List Char}

theorem span_append (hverb : IsSmall verb) (hrest : FollowsVerb rest) :
    (verb ++ rest).takeWhile (!Text.isUpper ·) = verb ∧
      (verb ++ rest).dropWhile (!Text.isUpper ·) = rest := by
  have hsmall : ∀ c ∈ verb, (!Text.isUpper c) = true := fun c hc => by simp [hverb c hc]
  rw [List.takeWhile_append_of_pos hsmall, List.dropWhile_append_of_pos hsmall]
  cases rest with
  | nil => exact ⟨List.append_nil verb, rfl⟩
  | cons c cs =>
    have hc : ¬(!Text.isUpper c) = true := by simp [hrest c rfl]
    rw [List.takeWhile_cons_of_neg (p := (!Text.isUpper ·)) hc,
      List.dropWhile_cons_of_neg (p := (!Text.isUpper ·)) hc, List.append_nil]
    exact ⟨rfl, rfl⟩

theorem append_inj_of_isSmall (hverb : IsSmall verb) (hverb' : IsSmall verb')
    (hrest : FollowsVerb rest) (hrest' : FollowsVerb rest') (h : verb ++ rest = verb' ++ rest') :
    verb = verb' ∧ rest = rest' := by
  obtain ⟨htake, hdrop⟩ := span_append hverb hrest
  obtain ⟨htake', hdrop'⟩ := span_append hverb' hrest'
  rw [h] at htake hdrop
  exact ⟨htake.symm.trans htake', hdrop.symm.trans hdrop'⟩

theorem prefix_of_isSmall (hstart : IsSmall start) (hrest : FollowsVerb rest)
    (h : start <+: verb ++ rest) : start <+: verb := by
  obtain ⟨tail, htail⟩ := h
  rcases List.append_eq_append_iff.mp htail with ⟨more, rfl, -⟩ | ⟨more, hmore, heq⟩
  · exact List.prefix_append start more
  · cases more with
    | nil =>
      obtain rfl := hmore.trans (List.append_nil verb)
      exact List.prefix_refl start
    | cons c more =>
      -- This character would be small in the start and a capital in the rest.
      have hsmall := hstart c (hmore ▸ List.mem_append_right verb List.mem_cons_self)
      have hcapital := hrest c (heq ▸ rfl)
      rw [hsmall] at hcapital
      cases hcapital

theorem asks_append_iff (hrest : FollowsVerb rest) : Asks (verb ++ rest) ↔ Asks verb := by
  have hsmall : ∀ start ∈ ["is", "can", "has"], IsSmall start.toList := by decide
  constructor
  · rintro ⟨start, hstart, hprefix⟩
    exact ⟨start, hstart, prefix_of_isSmall (hsmall start hstart) hrest hprefix⟩
  · rintro ⟨start, hstart, hprefix⟩
    exact ⟨start, hstart, hprefix.trans (List.prefix_append verb rest)⟩

theorem toList_behaviourClass_append {name : String} (hname : name.toList = verb ++ rest)
    (hverb : IsSmall verb) (hrest : FollowsVerb rest) :
    (behaviourClass name).toList = "When".toList ++ gerund verb ++ rest := by
  obtain ⟨htake, hdrop⟩ := span_append hverb hrest
  rw [toList_behaviourClass, hname, htake, hdrop]

end Split

/-- The class of a method of this name is made of this stem and rest. -/
inductive SpelledBy : List Char → List Char → List Char → Prop
  | question {name : List Char} : Asks name →
      SpelledBy name "check".toList ("If".toList ++ Text.capitalize name)
  | gerund {verb stem rest : List Char} : HasStem verb stem → ¬Asks verb → IsSmall verb →
      FollowsVerb rest → SpelledBy (verb ++ rest) stem rest

def spelling (stem rest : List Char) : List Char :=
  "When".toList ++ Text.capitalize (stem ++ "ing".toList ++ rest)

section Spelling

variable {name name' : String} {verb cs ds stem stem' rest rest' : List Char}

theorem isVerb_check : IsVerb "check".toList :=
  .of_isLower (by decide) (by decide)

theorem followsVerb_if (cs : List Char) : FollowsVerb ("If".toList ++ cs) := by
  intro c hc
  cases hc
  decide

/-- The method names are the verbs with what can follow them. -/
theorem IsMethodName.exists_append (h : IsMethodName name) :
    ∃ verb rest, name.toList = verb ++ rest ∧ IsVerb verb ∧ FollowsVerb rest := by
  have hsplit : name.toList.takeWhile (!Text.isUpper ·) ++ name.toList.dropWhile (!Text.isUpper ·) =
      name.toList := List.takeWhile_append_dropWhile
  have hsmall : ∀ c ∈ name.toList.takeWhile (!Text.isUpper ·), (!Text.isUpper c) = true :=
    List.all_eq_true.mp List.all_takeWhile
  have hne : name.toList.takeWhile (!Text.isUpper ·) ≠ [] := by
    obtain ⟨c, hhead, hlower⟩ := h.startsSmall
    obtain ⟨cs, hcs⟩ := List.head?_eq_some_iff.mp hhead
    have hc : (!Text.isUpper c) = true := by simp [(lower_cases hlower).2.1]
    rw [hcs, List.takeWhile_cons_of_pos (p := (!Text.isUpper ·)) hc]
    exact List.cons_ne_nil c _
  refine ⟨_, _, hsplit.symm, ⟨fun c hc => ?_, fun c hc => ?_, ?_⟩, fun c hc => ?_⟩
  · simpa using hsmall c hc
  · exact h.isAscii c ((List.takeWhile_prefix _).subset hc)
  · exact StartsSmall.of_append (hsplit.symm ▸ h.startsSmall) hne
  · have hstop := List.head?_dropWhile_not (!Text.isUpper ·) name.toList
    rw [hc] at hstop
    simpa using hstop

theorem toList_behaviourClass_of_asks (hname : name.toList = verb ++ rest) (hverb : IsVerb verb)
    (hrest : FollowsVerb rest) (hasks : Asks verb) :
    (behaviourClass name).toList =
      spelling "check".toList ("If".toList ++ Text.capitalize name.toList) := by
  rw [toList_behaviourClass_append hname hverb.isSmall hrest, hverb.gerund_of_asks hasks, hname,
    capitalize_append hverb.ne_nil, List.append_assoc, List.append_assoc]
  rfl

theorem toList_behaviourClass_of_hasStem (hname : name.toList = verb ++ rest)
    (hverb : IsVerb verb) (hrest : FollowsVerb rest) (hasks : ¬Asks verb)
    (hstem : HasStem verb stem) : (behaviourClass name).toList = spelling stem rest := by
  have hne := (hstem.isVerb hverb).ne_nil
  rw [toList_behaviourClass_append hname hverb.isSmall hrest, hverb.gerund_of_hasStem hasks hstem,
    List.append_assoc, List.append_assoc, ← capitalize_append hne, ← List.append_assoc stem]
  rfl

theorem IsMethodName.exists_spelledBy (h : IsMethodName name) :
    ∃ stem rest, SpelledBy name.toList stem rest ∧ IsVerb stem ∧ FollowsVerb rest ∧
      (behaviourClass name).toList = spelling stem rest := by
  obtain ⟨verb, rest, hname, hverb, hrest⟩ := h.exists_append
  by_cases hasks : Asks verb
  · refine ⟨_, _, .question ?_, ?_, followsVerb_if _,
      toList_behaviourClass_of_asks hname hverb hrest hasks⟩
    · rw [hname]
      exact (asks_append_iff hrest).mpr hasks
    · exact isVerb_check
  · obtain ⟨stem, hstem⟩ := exists_hasStem verb
    refine ⟨stem, rest, ?_, hstem.isVerb hverb, hrest,
      toList_behaviourClass_of_hasStem hname hverb hrest hasks hstem⟩
    rw [hname]
    exact .gerund hstem hasks hverb.isSmall hrest

theorem spelling_inj (hstem : IsVerb stem) (hstem' : IsVerb stem') (hrest : FollowsVerb rest)
    (hrest' : FollowsVerb rest') (h : spelling stem rest = spelling stem' rest') :
    stem = stem' ∧ rest = rest' := by
  have hing : "ing".toList.all (·.isLower) = true := by decide
  have hverb := hstem.append hing
  have hverb' := hstem'.append hing
  -- Small as they were, the two texts are equal, and the rest starts at the first capital of both.
  have happend := capitalize_inj (hverb.startsSmall.append rest) (hverb'.startsSmall.append rest')
    (List.append_cancel_left h)
  obtain ⟨heq, rfl⟩ := append_inj_of_isSmall hverb.isSmall hverb'.isSmall hrest hrest' happend
  exact ⟨List.append_cancel_right heq, rfl⟩

theorem isSmall_of_mem_checkers (h : verb ∈ checkers) : IsSmall verb := by
  have hsmall : ∀ verb ∈ checkers, IsSmall verb := by decide
  exact hsmall verb h

theorem gerund_of_mem_checkers (h : verb ∈ checkers) : gerund verb = "Checking".toList := by
  have hgerund : ∀ verb ∈ checkers, gerund verb = "Checking".toList := by decide
  exact hgerund verb h

theorem mem_checkers_of_hasStem (h : HasStem verb "check".toList) : verb ∈ checkers := by
  generalize hstem : "check".toList = stem at h
  cases h with
  | doubled =>
    have hlast := congrArg List.getLast? hstem
    rw [List.getLast?_concat] at hlast
    cases hlast
  | dropped =>
    rw [← hstem]
    decide
  | plain =>
    rw [← hstem]
    decide

theorem sharesClass_of_spelledBy (hcs : StartsSmall cs) (hds : StartsSmall ds)
    (h : SpelledBy cs stem rest) (h' : SpelledBy ds stem rest) :
    cs = ds ∨ SharesClass cs ds ∨ SharesClass ds cs := by
  -- A name that asks has the stem `check`, so the other one asks too or has a verb of that stem.
  cases h with
  | question hasks =>
    generalize hstem : "check".toList = stem at h'
    generalize hrest : "If".toList ++ Text.capitalize cs = rest at h'
    cases h' with
    | question => exact .inl (capitalize_inj hcs hds (List.append_cancel_left hrest))
    | gerund hstem' =>
      subst hstem hrest
      exact .inr (.inl (.question hasks (mem_checkers_of_hasStem hstem')))
  | gerund hstem hasks hsmall hfollows =>
    cases h' with
    | question hasks' => exact .inr (.inr (.question hasks' (mem_checkers_of_hasStem hstem)))
    | gerund hstem' hasks' hsmall' =>
      rcases sharesGerund_of_hasStem hstem hstem' hasks hasks' with rfl | hshares | hshares
      · exact .inl rfl
      · exact .inr (.inl (.gerund hshares hsmall hfollows))
      · exact .inr (.inr (.gerund hshares hsmall' hfollows))

theorem IsMethodName.isVerb (h : IsMethodName name) (hname : name.toList = verb ++ rest)
    (hsmall : IsSmall verb) (hne : verb ≠ []) : IsVerb verb where
  isSmall := hsmall
  isAscii c hc := h.isAscii c (hname ▸ List.mem_append_left rest hc)
  startsSmall := (hname ▸ h.startsSmall).of_append hne

theorem behaviourClass_eq_of_sharesClass (h : IsMethodName name)
    (hshares : SharesClass name.toList name'.toList) :
    behaviourClass name = behaviourClass name' := by
  refine String.toList_injective ?_
  generalize hname : name.toList = cs at hshares
  generalize hname' : name'.toList = ds at hshares
  cases hshares with
  | @gerund verb verb' rest hgerund hsmall hrest =>
    have hverb := h.isVerb hname hsmall hgerund.ne_nil
    rw [toList_behaviourClass_append hname hsmall hrest, hgerund.gerund_eq hverb,
      toList_behaviourClass_append hname' (hgerund.isVerb hverb).isSmall hrest]
  | question hasks hverb =>
    obtain ⟨asking, rest, hsplit, hasking, hrest⟩ := h.exists_append
    rw [← hname, hsplit] at hasks
    rw [toList_behaviourClass_of_asks hsplit hasking hrest ((asks_append_iff hrest).mp hasks),
      toList_behaviourClass_append hname' (isSmall_of_mem_checkers hverb) (followsVerb_if _),
      gerund_of_mem_checkers hverb, hname]
    rfl

/-- Methods of different names have one class just if their names say so. -/
theorem behaviourClass_eq_iff (h : IsMethodName name) (h' : IsMethodName name') :
    behaviourClass name = behaviourClass name' ↔ name = name' ∨
      SharesClass name.toList name'.toList ∨ SharesClass name'.toList name.toList := by
  constructor
  · intro heq
    obtain ⟨stem, rest, hspelled, hstem, hrest, htext⟩ := h.exists_spelledBy
    obtain ⟨stem', rest', hspelled', hstem', hrest', htext'⟩ := h'.exists_spelledBy
    rw [heq] at htext
    obtain ⟨rfl, rfl⟩ := spelling_inj hstem hstem' hrest hrest' (htext.symm.trans htext')
    exact (sharesClass_of_spelledBy h.startsSmall h'.startsSmall hspelled hspelled').imp_left
      String.toList_injective
  · rintro (rfl | hshares | hshares)
    · rfl
    · exact behaviourClass_eq_of_sharesClass h hshares
    · exact (behaviourClass_eq_of_sharesClass h' hshares).symm

example : behaviourClass "isOpen" = behaviourClass "checkIfIsOpen" := by
  decide

end Spelling

end MockScaffold.Name
