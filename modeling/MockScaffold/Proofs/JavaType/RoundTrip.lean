import MockScaffold.JavaType.Parser
import MockScaffold.JavaType.Spelling
import MockScaffold.Proofs.JavaType.Token

namespace MockScaffold.TypeRef

open TypeToken (isNameChar EndsRun endsRun_cons scan)

/-- A name that is read as the name of a class. -/
structure IsClassName (name : String) : Prop where
  nonempty : name ≠ ""
  chars : name.toList.all isNameChar = true
  segments : isMalformed name = false
  noKeyword : ofKeyword? name = none

inductive IsWritten : TypeRef → Prop
  | void : IsWritten .void
  | primitive (p : Primitive) : IsWritten (.primitive p)
  | named {name : String} {args : List TypeRef} (hname : IsClassName name)
      (hargs : ∀ arg ∈ args, IsWritten arg) : IsWritten (.named name args)
  | array {element : TypeRef} (h : IsWritten element) : IsWritten (.array element)

theorem isWritten_ofClass {name : String} (h : IsClassName name) : (ofClass name).IsWritten :=
  .named h fun _ harg => absurd harg List.not_mem_nil

mutual

def tokens : TypeRef → List TypeToken
  | .void => [.name "void"]
  | .primitive p => [.name p.keyword]
  | .named name [] => [.name name]
  | .named name (arg :: args) => .name name :: .mark '<' :: (tokens arg ++ moreTokens args)
  | .array element => tokens element ++ [.mark '[', .mark ']']

/-- The tokens after the first type argument. -/
def moreTokens : List TypeRef → List TypeToken
  | [] => [.mark '>']
  | arg :: args => .mark ',' :: (tokens arg ++ moreTokens args)

end

/-- The characters after the first type argument. -/
def moreText : List TypeRef → List Char
  | [] => ['>']
  | arg :: args => ',' :: ' ' :: (arg.canonical.toList ++ moreText args)

theorem toList_argumentList (arg : TypeRef) (args : List TypeRef) :
    (argumentList (spellAll id (arg :: args))).toList =
      '<' :: (arg.canonical.toList ++ moreText args) := by
  have hjoined : ∀ arg : TypeRef,
      (", ".intercalate (spellAll id (arg :: args))).toList ++ ['>'] =
        arg.canonical.toList ++ moreText args := by
    induction args with
    | nil =>
      intro arg
      rw [spellAll, spellAll, String.intercalate_singleton]
      rfl
    | cons arg' args ih =>
      intro arg
      have h := ih arg'
      rw [spellAll] at h
      rw [spellAll, spellAll, String.intercalate_cons_cons, String.toList_append,
        String.toList_append, List.append_assoc, h]
      simp [moreText, canonical]
  rw [argumentList, if_neg (by simp [spellAll]), String.toList_append, String.toList_append,
    List.append_assoc]
  exact congrArg ('<' :: ·) (hjoined arg)

theorem toList_canonical_args (name : String) (arg : TypeRef) (args : List TypeRef) :
    (canonical (.named name (arg :: args))).toList =
      name.toList ++ '<' :: (arg.canonical.toList ++ moreText args) := by
  rw [canonical, spell, String.toList_append, toList_argumentList]
  rfl

theorem canonical_ofClass (name : String) : (ofClass name).canonical = name := by
  simp [ofClass, canonical, spell, spellAll, argumentList]

theorem toList_canonical_array (element : TypeRef) :
    (canonical (.array element)).toList = element.canonical.toList ++ ['[', ']'] := by
  simp [canonical, spell]

theorem isClassName_keyword (p : Primitive) :
    p.keyword ≠ "" ∧ p.keyword.toList.all isNameChar = true ∧
      isMalformed p.keyword = false ∧ ofKeyword? p.keyword = some (.primitive p) := by
  cases p <;> exact ⟨by decide, by decide, by decide, rfl⟩

section Scan

theorem endsRun_moreText (args : List TypeRef) (rest : List Char) :
    EndsRun (moreText args ++ rest) := by
  cases args <;> exact endsRun_cons (by decide) _

mutual

theorem scan_canonical : ∀ (t : TypeRef) (rest : List Char), t.IsWritten → EndsRun rest →
    scan (t.canonical.toList ++ rest) = tokens t ++ scan rest
  | .void => by
    intro rest _ hrest
    rw [tokens]
    have hchars : "void".toList.all isNameChar = true := by decide
    exact TypeToken.scan_name (by decide) hchars hrest
  | .primitive p => by
    intro rest _ hrest
    obtain ⟨hne, hchars, -⟩ := isClassName_keyword p
    rw [tokens]
    exact TypeToken.scan_name hne hchars hrest
  | .named name [] => by
    intro rest h hrest
    cases h with | named hname _ => _
    rw [tokens]
    have htext : (canonical (.named name [])).toList = name.toList := by
      rw [← ofClass, canonical_ofClass]
    rw [htext]
    exact TypeToken.scan_name hname.nonempty hname.chars hrest
  | .named name (arg :: args) => by
    intro rest h hrest
    cases h with | named hname hargs => _
    rw [List.forall_mem_cons] at hargs
    rw [toList_canonical_args, List.append_assoc, List.cons_append, List.append_assoc,
      TypeToken.scan_name hname.nonempty hname.chars (endsRun_cons (by decide) _),
      TypeToken.scan_mark (by decide) (by decide),
      scan_canonical arg _ hargs.1 (endsRun_moreText args rest), scan_moreText args rest hargs.2]
    simp [tokens]
  | .array element => by
    intro rest h hrest
    cases h with | array h => _
    rw [toList_canonical_array, List.append_assoc, List.cons_append,
      scan_canonical element _ h (endsRun_cons (by decide) _),
      TypeToken.scan_mark (by decide) (by decide), List.cons_append,
      TypeToken.scan_mark (by decide) (by decide)]
    simp [tokens]

theorem scan_moreText : ∀ (args : List TypeRef) (rest : List Char),
    (∀ arg ∈ args, arg.IsWritten) → scan (moreText args ++ rest) = moreTokens args ++ scan rest
  | [] => by
    intro rest _
    exact TypeToken.scan_mark (by decide) (by decide) rest
  | arg :: args => by
    intro rest h
    rw [List.forall_mem_cons] at h
    rw [moreText, List.cons_append, TypeToken.scan_mark (by decide) (by decide),
      List.cons_append, TypeToken.scan_blank, List.append_assoc,
      scan_canonical arg _ h.1 (endsRun_moreText args rest), scan_moreText args rest h.2]
    simp [moreTokens]

end

end Scan

section Read

theorem readDimensions_more (t : TypeRef) (args : List TypeRef) (rest : List TypeToken) :
    readDimensions t (moreTokens args ++ rest) = .ok (t, moreTokens args ++ rest) := by
  cases args <;> rfl

theorem head_tokens : ∀ t : TypeRef, ∃ word tail, tokens t = .name word :: tail
  | .void => ⟨_, _, rfl⟩
  | .primitive _ => ⟨_, _, rfl⟩
  | .named _ [] => ⟨_, _, rfl⟩
  | .named _ (_ :: _) => ⟨_, _, rfl⟩
  | .array element => by
    obtain ⟨word, tail, h⟩ := head_tokens element
    exact ⟨word, tail ++ [.mark '[', .mark ']'], by rw [tokens, h, List.cons_append]⟩

theorem wildcard?_tokens (t : TypeRef) (rest : List TypeToken) :
    wildcard? (tokens t ++ rest) = none := by
  obtain ⟨word, tail, h⟩ := head_tokens t
  rw [h]
  rfl

theorem succ_fuel {t : TypeRef} {fuel : Nat} (h : 2 * (tokens t).length ≤ fuel) :
    ∃ f, fuel = f + 1 := by
  obtain ⟨word, tail, htokens⟩ := head_tokens t
  rw [htokens, List.length_cons] at h
  exact ⟨fuel - 1, by omega⟩

theorem readType_keyword {word : String} {t : TypeRef} (hsegments : isMalformed word = false)
    (hkeyword : ofKeyword? word = some t) (fuel : Nat) (rest : List TypeToken) :
    readType (fuel + 1) (.name word :: rest) = readDimensions t rest := by
  unfold readType
  simp only [hsegments, hkeyword, Bool.false_eq_true, if_false]

/-- The tokens do not go on with type arguments. -/
def EndsName (rest : List TypeToken) : Prop :=
  ∀ inside, rest ≠ .mark '<' :: inside

theorem readType_class {name : String} (hname : IsClassName name) (fuel : Nat)
    {rest : List TypeToken} (hrest : EndsName rest) :
    readType (fuel + 1) (.name name :: rest) = readDimensions (ofClass name) rest := by
  unfold readType
  simp only [hname.segments, hname.noKeyword, Bool.false_eq_true, if_false]
  split
  · rename_i inside
    exact absurd rfl (hrest inside)
  · rfl

theorem readType_generic {name : String} (hname : IsClassName name) {fuel : Nat}
    {inside rest : List TypeToken} {args : List TypeRef}
    (h : readArguments fuel inside = .ok (args, rest)) :
    readType (fuel + 1) (.name name :: .mark '<' :: inside) =
      readDimensions (.named name args) rest := by
  unfold readType
  simp only [hname.segments, hname.noKeyword, Bool.false_eq_true, if_false, h]

theorem readArguments_last {fuel : Nat} {t : TypeRef} {rest after : List TypeToken}
    (h : readType fuel (tokens t ++ rest) = .ok (t, .mark '>' :: after)) :
    readArguments (fuel + 1) (tokens t ++ rest) = .ok ([t], after) := by
  unfold readArguments
  simp only [wildcard?_tokens, h]

theorem readArguments_more {fuel : Nat} {t : TypeRef} {args : List TypeRef}
    {rest more after : List TypeToken}
    (h : readType fuel (tokens t ++ rest) = .ok (t, .mark ',' :: more))
    (hmore : readArguments fuel more = .ok (args, after)) :
    readArguments (fuel + 1) (tokens t ++ rest) = .ok (t :: args, after) := by
  unfold readArguments
  simp only [wildcard?_tokens, h, hmore]

theorem endsName_moreTokens (args : List TypeRef) (rest : List TypeToken) :
    EndsName (moreTokens args ++ rest) := by
  intro inside h
  cases args <;> cases h

-- Twice as much fuel as there are tokens: one unit for a type and one for the list that it is in.
mutual

theorem readType_tokens : ∀ (t : TypeRef) (fuel : Nat) (rest : List TypeToken), t.IsWritten →
    2 * (tokens t).length ≤ fuel → EndsName rest →
      readType fuel (tokens t ++ rest) = readDimensions t rest
  | .void => by
    intro fuel rest _ hfuel _
    obtain ⟨fuel, rfl⟩ := succ_fuel hfuel
    exact readType_keyword (by decide) rfl fuel rest
  | .primitive p => by
    intro fuel rest _ hfuel _
    obtain ⟨fuel, rfl⟩ := succ_fuel hfuel
    obtain ⟨-, -, hsegments, hkeyword⟩ := isClassName_keyword p
    exact readType_keyword hsegments hkeyword fuel rest
  | .named name [] => by
    intro fuel rest h hfuel hrest
    obtain ⟨fuel, rfl⟩ := succ_fuel hfuel
    cases h with | named hname _ => _
    exact readType_class hname fuel hrest
  | .named name (arg :: args) => by
    intro fuel rest h hfuel _
    cases h with | named hname hargs => _
    rw [List.forall_mem_cons] at hargs
    rw [tokens] at hfuel
    simp only [List.length_cons, List.length_append] at hfuel
    obtain ⟨fuel, rfl⟩ : ∃ f, fuel = f + 2 := ⟨fuel - 2, by omega⟩
    have hfirst := readType_tokens arg fuel (moreTokens args ++ rest) hargs.1 (by omega)
      (endsName_moreTokens args rest)
    rw [readDimensions_more] at hfirst
    have hinside := readArguments_tokens args arg fuel rest hargs.2 hfirst (by omega)
    rw [tokens]
    simp only [List.cons_append, List.append_assoc]
    exact readType_generic hname hinside
  | .array element => by
    intro fuel rest h hfuel _
    cases h with | array h => _
    rw [tokens] at hfuel ⊢
    simp only [List.length_append] at hfuel
    have hends : EndsName ([.mark '[', .mark ']'] ++ rest) := fun _ hinside => by cases hinside
    rw [List.append_assoc, readType_tokens element fuel _ h (by omega) hends]
    rfl

theorem readArguments_tokens : ∀ (args : List TypeRef) (arg : TypeRef) (fuel : Nat)
    (rest : List TypeToken), (∀ t ∈ args, t.IsWritten) →
    readType fuel (tokens arg ++ (moreTokens args ++ rest)) = .ok (arg, moreTokens args ++ rest) →
    2 * (moreTokens args).length ≤ fuel + 1 →
      readArguments (fuel + 1) (tokens arg ++ (moreTokens args ++ rest)) = .ok (arg :: args, rest)
  | [] => by
    intro arg fuel rest _ h _
    exact readArguments_last h
  | next :: args => by
    intro arg fuel rest hargs h hfuel
    rw [List.forall_mem_cons] at hargs
    rw [moreTokens] at hfuel
    simp only [List.length_cons, List.length_append] at hfuel
    obtain ⟨fuel, rfl⟩ : ∃ f, fuel = f + 1 := ⟨fuel - 1, by omega⟩
    have hnext := readType_tokens next fuel (moreTokens args ++ rest) hargs.1 (by omega)
      (endsName_moreTokens args rest)
    rw [readDimensions_more] at hnext
    have hmore := readArguments_tokens args next fuel rest hargs.2 hnext (by omega)
    rw [← List.append_assoc] at hmore
    exact readArguments_more h hmore

end

end Read

theorem parse_canonical {t : TypeRef} (h : t.IsWritten) : parse t.canonical = .ok t := by
  have hscan := scan_canonical t [] h TypeToken.endsRun_nil
  rw [List.append_nil] at hscan
  have hempty : scan [] = [] := rfl
  have hread := readType_tokens t (2 * (tokens t).length + 2) [] h (by omega)
    (fun _ hinside => by cases hinside)
  rw [List.append_nil] at hread
  rw [parse, hscan, hempty, List.append_nil, hread]
  rfl

section Written

variable {fuel : Nat} {toks rest : List TypeToken} {t u : TypeRef}

def SoundTokens (toks : List TypeToken) : Prop :=
  ∀ token ∈ toks, token.IsSound

theorem SoundTokens.tail {token : TypeToken} (h : SoundTokens (token :: toks)) :
    SoundTokens toks :=
  fun token' htoken' => h token' (List.mem_cons_of_mem _ htoken')

theorem isWritten_readDimensions (hread : readDimensions t toks = .ok (u, rest))
    (ht : t.IsWritten) (hsound : SoundTokens toks) : u.IsWritten ∧ SoundTokens rest := by
  induction t, toks using readDimensions.induct with
  | case1 t toks ih =>
    rw [readDimensions] at hread
    exact ih hread (.array ht) hsound.tail.tail
  | case2 t toks hclosing =>
    rw [readDimensions] at hread
    · cases hread
    · exact hclosing
  | case3 t toks hpair hopening =>
    rw [readDimensions] at hread
    · cases hread
      exact ⟨ht, hsound⟩
    · exact hpair
    · exact hopening

theorem isWritten_ofKeyword? {word : String} (h : ofKeyword? word = some t) : t.IsWritten := by
  unfold ofKeyword? at h
  split at h
  · cases h
    exact .void
  · obtain ⟨p, -, rfl⟩ := Option.map_eq_some_iff.mp h
    exact .primitive p

theorem soundTokens_wildcard? {bounded : Bool} (h : wildcard? toks = some (bounded, rest))
    (hsound : SoundTokens toks) : SoundTokens rest := by
  unfold wildcard? at h
  split at h
  · split at h
    · cases h
      exact hsound.tail.tail
    · cases h
      exact hsound.tail
  · cases h
    exact hsound.tail
  · cases h

theorem isClassName_object : IsClassName "java.lang.Object" :=
  ⟨by decide, by decide, by decide, rfl⟩

/-- What a reader gives is written, and it leaves no unsound token behind. -/
def ReadsWritten (toks : List TypeToken) (types : List TypeRef) (rest : List TypeToken) : Prop :=
  SoundTokens toks → (∀ t ∈ types, t.IsWritten) ∧ SoundTokens rest

theorem readsWritten_type
    (ihargs : ∀ toks args rest, readArguments fuel toks = .ok (args, rest) →
      ReadsWritten toks args rest)
    (hread : readType (fuel + 1) toks = .ok (t, rest)) : ReadsWritten toks [t] rest := by
  intro hsound
  rw [List.forall_mem_singleton]
  rcases toks with _ | ⟨name | mark, after⟩
  · cases hread
  · have hname := hsound _ List.mem_cons_self
    unfold readType at hread
    split at hread
    · cases hread
    · rename_i hsegments
      rw [Bool.not_eq_true] at hsegments
      split at hread
      · rename_i hkeyword
        exact isWritten_readDimensions hread (isWritten_ofKeyword? hkeyword) hsound.tail
      · rename_i hkeyword
        have hclass : IsClassName name :=
          ⟨hname.1, List.all_eq_true.mpr hname.2, hsegments, hkeyword⟩
        split at hread
        · split at hread
          · rename_i hinside
            obtain ⟨hargs, hafter⟩ := ihargs _ _ _ hinside hsound.tail.tail
            exact isWritten_readDimensions hread (.named hclass hargs) hafter
          · cases hread
        · exact isWritten_readDimensions hread (isWritten_ofClass hclass) hsound.tail
  · cases hread

theorem readsWritten_argument
    (ihtype : ∀ toks t rest, readType fuel toks = .ok (t, rest) → ReadsWritten toks [t] rest)
    (hread : (match wildcard? toks with
      | some (false, after) => .ok (ofClass "java.lang.Object", after)
      | some (true, after) => readType fuel after
      | none => readType fuel toks) = Except.ok (t, rest)) : ReadsWritten toks [t] rest := by
  intro hsound
  split at hread
  · rename_i hwild
    cases hread
    rw [List.forall_mem_singleton]
    exact ⟨isWritten_ofClass isClassName_object, soundTokens_wildcard? hwild hsound⟩
  · rename_i hwild
    exact ihtype _ _ _ hread (soundTokens_wildcard? hwild hsound)
  · exact ihtype _ _ _ hread hsound

theorem readsWritten_arguments {args : List TypeRef}
    (ihtype : ∀ toks t rest, readType fuel toks = .ok (t, rest) → ReadsWritten toks [t] rest)
    (ihargs : ∀ toks args rest, readArguments fuel toks = .ok (args, rest) →
      ReadsWritten toks args rest)
    (hread : readArguments (fuel + 1) toks = .ok (args, rest)) : ReadsWritten toks args rest := by
  intro hsound
  unfold readArguments at hread
  dsimp only at hread
  split at hread
  · cases hread
  · rename_i hfirst
    obtain ⟨harg, hmore⟩ := readsWritten_argument ihtype hfirst hsound
    split at hread
    · rename_i hargs
      cases hread
      obtain ⟨hargs, hafter⟩ := ihargs _ _ _ hargs hmore.tail
      rw [List.forall_mem_singleton] at harg
      exact ⟨List.forall_mem_cons.mpr ⟨harg, hargs⟩, hafter⟩
    · cases hread
  · rename_i hfirst
    obtain ⟨harg, hafter⟩ := readsWritten_argument ihtype hfirst hsound
    cases hread
    exact ⟨harg, hafter.tail⟩
  · cases hread

theorem readsWritten (fuel : Nat) :
    (∀ toks t rest, readType fuel toks = .ok (t, rest) → ReadsWritten toks [t] rest) ∧
      ∀ toks args rest, readArguments fuel toks = .ok (args, rest) →
        ReadsWritten toks args rest := by
  -- Types and lists of arguments are read by each other, with less fuel.
  induction fuel with
  | zero =>
    refine ⟨fun toks t rest hread => ?_, fun toks args rest hread => ?_⟩
    · unfold readType at hread
      cases hread
    · cases hread
  | succ fuel ih =>
    exact ⟨fun _ _ _ hread => readsWritten_type ih.2 hread,
      fun _ _ _ hread => readsWritten_arguments ih.1 ih.2 hread⟩

end Written

theorem isWritten_of_parse {text : String} {t : TypeRef} (h : parse text = .ok t) :
    t.IsWritten := by
  unfold parse at h
  dsimp only at h
  split at h
  · rename_i hread
    cases h
    have hsound : SoundTokens (scan text.toList) :=
      fun _ htoken => TypeToken.isSound_of_mem_scan htoken
    exact ((readsWritten _).1 _ _ _ hread hsound).1 t List.mem_cons_self
  · cases h
  · cases h

/-- A type is read back from its canonical text if and only if it is written. -/
theorem parse_canonical_iff {t : TypeRef} : parse t.canonical = .ok t ↔ t.IsWritten :=
  ⟨isWritten_of_parse, parse_canonical⟩

end MockScaffold.TypeRef
