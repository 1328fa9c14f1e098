import MockScaffold.Proofs.JavaType.Grammar

namespace MockScaffold.TypeRef

open TypeToken (scan)

/-- The front of an argument list up to the next comma or the closing bracket. -/
def readArgument (fuel : Nat) (toks : List TypeToken) : Reading TypeRef :=
  match wildcard? toks with
  | some (false, behind) => .ok (ofClass "java.lang.Object", behind)
  | some (true, behind) => readType fuel behind
  | none => readType fuel toks

theorem readArguments_succ (fuel : Nat) (toks : List TypeToken) :
    readArguments (fuel + 1) toks =
      match readArgument fuel toks with
      | .error fault => .error fault
      | .ok (arg, .mark ',' :: next) =>
        match readArguments fuel next with
        | .ok (args, after) => .ok (arg :: args, after)
        | .error fault => .error fault
      | .ok (arg, .mark '>' :: after) => .ok ([arg], after)
      | .ok _ => .error .unterminatedArguments := by
  rw [readArguments]
  rfl

section Sound

variable {fuel : Nat} {text : List Char} {t u : TypeRef} {after : List TypeToken}

theorem derivesArrays_of_read (hread : readDimensions t (scan text) = .ok (u, after)) :
    ∃ rest, after = scan rest ∧ DerivesArrays t text u rest := by
  generalize htoks : scan text = toks at hread
  induction t, toks using readDimensions.induct generalizing text with
  | case1 t toks ih =>
    rw [readDimensions] at hread
    obtain ⟨opened, hopened, hopening⟩ := tokenAt_of_scan htoks
    obtain ⟨closed, hclosed, hclosing⟩ := tokenAt_of_scan hopened.symm
    obtain ⟨rest, hrest, harrays⟩ := ih hclosed.symm hread
    exact ⟨rest, hrest, .pair hopening hclosing harrays⟩
  | case2 t toks hclosing =>
    rw [readDimensions] at hread
    · cases hread
    · exact hclosing
  | case3 t toks hpair hopening =>
    rw [readDimensions] at hread
    · cases hread
      exact ⟨text, htoks.symm, .none⟩
    · exact hpair
    · exact hopening

/-- Whatever is read as a type is derived as one. -/
def TypesDerived (fuel : Nat) : Prop :=
  ∀ text t after, readType fuel (scan text) = .ok (t, after) →
    ∃ rest, after = scan rest ∧ DerivesType text t rest

def ArgumentsDerived (fuel : Nat) : Prop :=
  ∀ text args after, readArguments fuel (scan text) = .ok (args, after) →
    ∃ rest, after = scan rest ∧ DerivesArguments text args rest

theorem nameAt_of_wordAt {name : String} {rest : List Char} (hword : WordAt name text rest)
    (hsegments : isMalformed name = false) (hkeyword : ofKeyword? name = none) :
    NameAt name text rest := by
  obtain ⟨hfirst, hlast, hpair⟩ := isMalformed_eq_false_iff.mp hsegments
  exact ⟨hword, ⟨hword.nonempty, hword.letters, hfirst, hlast, hpair⟩,
    ofKeyword?_eq_none_iff.mp hkeyword⟩

/-- What can have been read behind a name. -/
theorem readType_cases {name : String} {toks : List TypeToken}
    (h : readType (fuel + 1) (.name name :: toks) = .ok (t, after)) :
    isMalformed name = false ∧
      ((∃ k, ofKeyword? name = some k ∧ readDimensions k toks = .ok (t, after)) ∨
        ofKeyword? name = none ∧
          ((∃ inside args closed, toks = .mark '<' :: inside ∧
              readArguments fuel inside = .ok (args, closed) ∧
              readDimensions (.named name args) closed = .ok (t, after)) ∨
            readDimensions (.named name []) toks = .ok (t, after))) := by
  unfold readType at h
  split at h
  · cases h
  · rename_i hsegments
    refine ⟨Bool.not_eq_true _ ▸ hsegments, ?_⟩
    split at h
    · rename_i hkeyword
      exact .inl ⟨_, hkeyword, h⟩
    · rename_i hkeyword
      refine .inr ⟨hkeyword, ?_⟩
      split at h
      · split at h
        · rename_i hinside
          exact .inl ⟨_, _, _, rfl, hinside, h⟩
        · cases h
      · exact .inr h

theorem typesDerived_succ (hargs : ArgumentsDerived fuel) : TypesDerived (fuel + 1) := by
  intro text t after hread
  -- Only a word can open a type.
  rcases scan_cases text with ⟨hscan, -⟩ | ⟨name, behind, hscan, hword⟩ | ⟨c, behind, hscan, -⟩
  · rw [hscan] at hread
    cases hread
  · rw [hscan] at hread
    obtain ⟨hsegments, ⟨k, hkeyword, hread⟩ | ⟨hkeyword, hread⟩⟩ := readType_cases hread
    · obtain ⟨rest, hrest, harrays⟩ := derivesArrays_of_read hread
      exact ⟨rest, hrest, .keyword (ofKeyword?_eq_some_iff.mp hkeyword) hword harrays⟩
    · have hname := nameAt_of_wordAt hword hsegments hkeyword
      obtain ⟨inside, args, closed, hopen, hinside, hread⟩ | hread := hread
      · obtain ⟨opened, rfl, hopening⟩ := tokenAt_of_scan hopen
        obtain ⟨closed, rfl, harguments⟩ := hargs _ _ _ hinside
        obtain ⟨rest, hrest, harrays⟩ := derivesArrays_of_read hread
        exact ⟨rest, hrest, .generic hname hopening harguments harrays⟩
      · obtain ⟨rest, hrest, harrays⟩ := derivesArrays_of_read hread
        exact ⟨rest, hrest, .plain hname harrays⟩
  · rw [hscan] at hread
    cases hread

theorem wildcard?_scan {bounded : Bool} (h : wildcard? (scan text) = some (bounded, after)) :
    ∃ behind, TokenAt ['?'] text behind ∧
      if bounded then
        ∃ word bound, after = scan bound ∧ WordAt word behind bound ∧
          (word = "extends" ∨ word = "super")
      else after = scan behind := by
  generalize htoks : scan text = toks at h
  unfold wildcard? at h
  split at h
  · obtain ⟨behind, hbehind, hmark⟩ := tokenAt_of_scan htoks
    obtain ⟨bound, hbound, hword⟩ := wordAt_of_scan hbehind.symm
    refine ⟨behind, hmark, ?_⟩
    split at h
    · rename_i hword'
      cases h
      rw [Bool.or_eq_true, beq_iff_eq, beq_iff_eq] at hword'
      exact ⟨_, bound, hbound, hword, hword'⟩
    · cases h
      exact hbehind
  · obtain ⟨behind, hbehind, hmark⟩ := tokenAt_of_scan htoks
    cases h
    exact ⟨behind, hmark, hbehind⟩
  · cases h

theorem derivesArgument_of_read (htypes : TypesDerived fuel)
    (hread : readArgument fuel (scan text) = .ok (t, after)) :
    ∃ rest, after = scan rest ∧ DerivesArgument text t rest := by
  unfold readArgument at hread
  split at hread
  · rename_i hwild
    obtain ⟨behind, hmark, rfl⟩ := wildcard?_scan hwild
    cases hread
    exact ⟨behind, rfl, .wildcard hmark⟩
  · rename_i hwild
    obtain ⟨behind, hmark, word, bound, rfl, hword, hbound⟩ := wildcard?_scan hwild
    obtain ⟨rest, hrest, ht⟩ := htypes _ _ _ hread
    exact ⟨rest, hrest, .bounded hmark hword hbound ht⟩
  · obtain ⟨rest, hrest, ht⟩ := htypes _ _ _ hread
    exact ⟨rest, hrest, .type ht⟩

/-- An argument is the last one, or a comma and more arguments follow it. -/
theorem readArguments_cases {args : List TypeRef} {toks : List TypeToken}
    (h : readArguments (fuel + 1) toks = .ok (args, after)) :
    ∃ arg behind, readArgument fuel toks = .ok (arg, behind) ∧
      ((∃ next more, behind = .mark ',' :: next ∧ readArguments fuel next = .ok (more, after) ∧
          args = arg :: more) ∨
        behind = .mark '>' :: after ∧ args = [arg]) := by
  rw [readArguments_succ] at h
  split at h
  · cases h
  · rename_i hfirst
    split at h
    · rename_i hmore
      cases h
      exact ⟨_, _, hfirst, .inl ⟨_, _, rfl, hmore, rfl⟩⟩
    · cases h
  · rename_i hfirst
    cases h
    exact ⟨_, _, hfirst, .inr ⟨rfl, rfl⟩⟩
  · cases h

theorem argumentsDerived_succ (htypes : TypesDerived fuel) (hargs : ArgumentsDerived fuel) :
    ArgumentsDerived (fuel + 1) := by
  intro text args after hread
  obtain ⟨arg, behind, hfirst, hbehind⟩ := readArguments_cases hread
  obtain ⟨left, rfl, harg⟩ := derivesArgument_of_read htypes hfirst
  obtain ⟨next, more, hscan, hmore, rfl⟩ | ⟨hscan, rfl⟩ := hbehind
  · obtain ⟨next, rfl, hcomma⟩ := tokenAt_of_scan hscan
    obtain ⟨rest, hrest, harguments⟩ := hargs _ _ _ hmore
    exact ⟨rest, hrest, .more harg hcomma harguments⟩
  · obtain ⟨rest, hrest, hclosing⟩ := tokenAt_of_scan hscan
    exact ⟨rest, hrest, .last harg hclosing⟩

theorem typesDerived_and_argumentsDerived (fuel : Nat) :
    TypesDerived fuel ∧ ArgumentsDerived fuel := by
  -- A type is read with the fuel that its arguments leave, and the other way round.
  induction fuel with
  | zero =>
    refine ⟨fun text t after hread => ?_, fun text args after hread => ?_⟩
    · unfold readType at hread
      cases hread
    · cases hread
  | succ fuel ih => exact ⟨typesDerived_succ ih.2, argumentsDerived_succ ih.1 ih.2⟩

theorem derives_of_parse {text : String} (h : parse text = .ok t) : Derives text t := by
  unfold parse at h
  dsimp only at h
  split at h
  · rename_i hread
    cases h
    obtain ⟨rest, hrest, ht⟩ := (typesDerived_and_argumentsDerived _).1 _ _ _ hread
    exact ⟨rest, ht, scan_eq_nil_iff.mp hrest.symm⟩
  · cases h
  · cases h

end Sound

section Complete

variable {text rest : List Char} {t u : TypeRef}

def StopsBefore (c : Char) (text : List Char) : Prop :=
  ∀ after, scan text ≠ .mark c :: after

theorem readDimensions_of_derivesArrays (h : DerivesArrays t text u rest)
    (hrest : StopsBefore '[' rest) : readDimensions t (scan text) = .ok (u, scan rest) := by
  induction h with
  | none =>
    rw [readDimensions]
    · exact fun after hafter => hrest _ hafter
    · exact fun after hafter => hrest _ hafter
  | pair hopening hclosing _ ih =>
    rw [scan_of_mark hopening (by decide), scan_of_mark hclosing (by decide), readDimensions]
    exact ih hrest

theorem stopsBefore_of_mark {c c' : Char} (h : TokenAt [c'] text rest) (hc' : c' ∈ marks)
    (hne : c' ≠ c) : StopsBefore c text := by
  intro after hafter
  rw [scan_of_mark h hc'] at hafter
  cases hafter
  exact hne rfl

theorem stopsBefore_of_derivesArrays (h : DerivesArrays t text u rest)
    (hrest : StopsBefore '<' rest) : StopsBefore '<' text := by
  cases h with
  | none => exact hrest
  | pair hopening _ _ =>
    exact stopsBefore_of_mark hopening (by decide) (by decide)

theorem isMalformed_of_isKeyword {word : String} (h : IsKeyword word t) :
    isMalformed word = false := by
  cases h with
  | void => decide
  | primitive p => exact (isClassName_keyword p).2.2.1

theorem NameAt.isClassName {name : String} (h : NameAt name text rest) : IsClassName name :=
  isClassName_iff.mpr ⟨h.qualified, h.notReserved⟩

theorem exists_wordAt_of_derivesType (h : DerivesType text t rest) :
    ∃ word behind, WordAt word text behind := by
  cases h with
  | keyword _ hword _ => exact ⟨_, _, hword⟩
  | plain hname _ => exact ⟨_, _, hname.word⟩
  | generic hname _ _ _ => exact ⟨_, _, hname.word⟩

variable {arg : TypeRef} {args : List TypeRef} {fuel : Nat} {toks next after : List TypeToken}

theorem readArguments_of_last (h : readArgument fuel toks = .ok (arg, .mark '>' :: after)) :
    readArguments (fuel + 1) toks = .ok ([arg], after) := by
  simp only [readArguments_succ, h]

theorem readArguments_of_more (h : readArgument fuel toks = .ok (arg, .mark ',' :: next))
    (hmore : readArguments fuel next = .ok (args, after)) :
    readArguments (fuel + 1) toks = .ok (arg :: args, after) := by
  simp only [readArguments_succ, h, hmore]

/-- A comma or the closing bracket comes next. -/
def EndsArgument (rest : List Char) : Prop :=
  ∃ c after, (c = ',' ∨ c = '>') ∧ scan rest = .mark c :: after

theorem endsArgument_of_mark {c : Char} (h : TokenAt [c] text rest) (hc : c = ',' ∨ c = '>') :
    EndsArgument text := by
  have hmark : c ∈ marks := by rcases hc with rfl | rfl <;> decide
  exact ⟨c, scan rest, hc, scan_of_mark h hmark⟩

theorem EndsArgument.stopsBefore {c : Char} (h : EndsArgument rest) (hc : c ≠ ',' ∧ c ≠ '>') :
    StopsBefore c rest := by
  obtain ⟨c', after, hc', hscan⟩ := h
  intro after' hafter'
  rw [hscan] at hafter'
  cases hafter'
  exact hc'.elim hc.1 hc.2

theorem wildcard?_of_word {word : String} (h : WordAt word text rest) :
    wildcard? (scan text) = none := by
  rw [scan_of_wordAt h]
  rfl

theorem wildcard?_of_bound {word : String} {behind : List Char} (hmark : TokenAt ['?'] text behind)
    (hword : WordAt word behind rest) (hbound : word = "extends" ∨ word = "super") :
    wildcard? (scan text) = some (true, scan rest) := by
  rw [scan_of_mark hmark (by decide), scan_of_wordAt hword]
  rcases hbound with rfl | rfl <;> rfl

theorem wildcard?_of_endsArgument (hmark : TokenAt ['?'] text rest) (h : EndsArgument rest) :
    wildcard? (scan text) = some (false, scan rest) := by
  obtain ⟨c, after, -, hscan⟩ := h
  rw [scan_of_mark hmark (by decide), hscan]
  rfl

-- The fuel that is enough is twice the number of tokens for a type, and one more for a list.
mutual

theorem readType_of_derivesType : ∀ {text : List Char} {t : TypeRef} {rest : List Char}
    {fuel : Nat}, DerivesType text t rest → StopsBefore '<' rest → StopsBefore '[' rest →
      2 * (scan text).length ≤ fuel → readType fuel (scan text) = .ok (t, scan rest)
  | _, _, _, fuel, .keyword hkeyword hword harrays => by
    intro _ hstop hfuel
    have hread := readDimensions_of_derivesArrays harrays hstop
    have hlookup := ofKeyword?_eq_some_iff.mpr hkeyword
    rw [scan_of_wordAt hword, List.length_cons] at hfuel
    obtain ⟨fuel, rfl⟩ := Nat.exists_eq_add_one.mpr (by omega : 0 < fuel)
    rw [scan_of_wordAt hword, readType_keyword (isMalformed_of_isKeyword hkeyword) hlookup]
    exact hread
  | _, _, _, fuel, .plain hname harrays => by
    intro hangle hstop hfuel
    have hread := readDimensions_of_derivesArrays harrays hstop
    rw [scan_of_wordAt hname.word, List.length_cons] at hfuel
    obtain ⟨fuel, rfl⟩ := Nat.exists_eq_add_one.mpr (by omega : 0 < fuel)
    rw [scan_of_wordAt hname.word,
      readType_class hname.isClassName fuel (stopsBefore_of_derivesArrays harrays hangle)]
    exact hread
  | _, _, _, fuel, .generic hname hopening hargs harrays => by
    intro _ hstop hfuel
    have hread := readDimensions_of_derivesArrays harrays hstop
    rw [scan_of_wordAt hname.word, scan_of_mark hopening (by decide), List.length_cons,
      List.length_cons] at hfuel
    obtain ⟨fuel, rfl⟩ := Nat.exists_eq_add_one.mpr (by omega : 0 < fuel)
    have hinside : readArguments fuel _ = _ := readArguments_of_derivesArguments hargs (by omega)
    rw [scan_of_wordAt hname.word, scan_of_mark hopening (by decide),
      readType_generic hname.isClassName hinside]
    exact hread

theorem readArgument_of_derivesArgument : ∀ {text : List Char} {t : TypeRef} {rest : List Char}
    {fuel : Nat}, DerivesArgument text t rest → EndsArgument rest →
      2 * (scan text).length ≤ fuel → readArgument fuel (scan text) = .ok (t, scan rest)
  | _, _, _, fuel, .type ht => by
    intro hends hfuel
    obtain ⟨word, behind, hword⟩ := exists_wordAt_of_derivesType ht
    rw [readArgument, wildcard?_of_word hword]
    exact readType_of_derivesType ht (hends.stopsBefore (by decide)) (hends.stopsBefore (by decide))
      hfuel
  | _, _, _, fuel, .wildcard hmark => by
    intro hends _
    rw [readArgument, wildcard?_of_endsArgument hmark hends]
  | _, _, _, fuel, .bounded hmark hword hbound ht => by
    intro hends hfuel
    rw [scan_of_mark hmark (by decide), scan_of_wordAt hword, List.length_cons,
      List.length_cons] at hfuel
    rw [readArgument, wildcard?_of_bound hmark hword hbound]
    exact readType_of_derivesType ht (hends.stopsBefore (by decide)) (hends.stopsBefore (by decide))
      (by omega)

theorem readArguments_of_derivesArguments : ∀ {text : List Char} {args : List TypeRef}
    {rest : List Char} {fuel : Nat}, DerivesArguments text args rest →
      2 * (scan text).length + 1 ≤ fuel → readArguments fuel (scan text) = .ok (args, scan rest)
  | _, _, _, fuel, .last harg hclosing => by
    intro hfuel
    obtain ⟨fuel, rfl⟩ := Nat.exists_eq_add_one.mpr (by omega : 0 < fuel)
    have hread : readArgument fuel _ = _ :=
      readArgument_of_derivesArgument harg (endsArgument_of_mark hclosing (.inr rfl)) (by omega)
    rw [scan_of_mark hclosing (by decide)] at hread
    exact readArguments_of_last hread
  | _, _, _, fuel, .more harg hcomma hargs => by
    intro hfuel
    obtain ⟨fuel, rfl⟩ := Nat.exists_eq_add_one.mpr (by omega : 0 < fuel)
    have hread : readArgument fuel _ = _ :=
      readArgument_of_derivesArgument harg (endsArgument_of_mark hcomma (.inl rfl)) (by omega)
    -- The comma is a token that neither the argument nor what follows has.
    have hshorter := (leads_of_derivesArgument harg).tokens
    rw [scan_of_mark hcomma (by decide)] at hread hshorter
    rw [List.length_cons] at hshorter
    have hmore : readArguments fuel _ = _ := readArguments_of_derivesArguments hargs (by omega)
    exact readArguments_of_more hread hmore

end

theorem parse_of_derives {text : String} (h : Derives text t) : parse text = .ok t := by
  obtain ⟨rest, ht, hwhite⟩ := h
  have hend : scan rest = [] := scan_eq_nil_iff.mpr hwhite
  have hstop (c : Char) : StopsBefore c rest := fun after hafter => by
    rw [hend] at hafter
    cases hafter
  have hread : readType (2 * (scan text.toList).length + 2) _ = _ :=
    readType_of_derivesType ht (hstop '<') (hstop '[') (Nat.le_add_right _ 2)
  rw [hend] at hread
  simp only [parse, hread]

end Complete

theorem parse_eq_ok_iff {text : String} {t : TypeRef} : parse text = .ok t ↔ Derives text t :=
  ⟨derives_of_parse, parse_of_derives⟩

/-- A text that the grammar does not derive gives a fault. -/
theorem exists_fault {text : String} (h : ∀ t, ¬Derives text t) :
    ∃ fault, parse text = .error fault := by
  cases hparse : parse text with
  | error fault => exact ⟨fault, rfl⟩
  | ok t => exact absurd (derives_of_parse hparse) (h t)

/-- Exactly the derivations of the grammar are read, and every other text gives a fault, such as one
with a character that is not ASCII. -/
theorem parse_iff_derives (text : String) :
    (∀ t, parse text = .ok t ↔ Derives text t) ∧
      ((∀ t, ¬Derives text t) → ∃ fault, parse text = .error fault) ∧
      ((∃ c ∈ text.toList, 128 ≤ c.toNat) → ∃ fault, parse text = .error fault) := by
  refine ⟨fun t => parse_eq_ok_iff, exists_fault, fun ⟨c, hc, hascii⟩ => ?_⟩
  apply exists_fault
  intro t ht
  exact Nat.not_lt.mpr hascii (ht.toNat_lt c hc)

/-- A bound has to be set apart from `extends`, and a letter outside ASCII ends a name. -/
theorem parse_iff_derives_entriesType :
    Derives " java.util.Map<? extends int[], void,a.B$C >[ ]" entriesType ∧
      (∀ t, ¬Derives "a.List<?extendsA>" t) ∧
      (∃ fault, parse "a.List<?extendsA>" = .error fault) ∧
      ∃ fault, parse "a.Größe" = .error fault := by
  obtain ⟨hentries, -, -⟩ := parse_iff_derives " java.util.Map<? extends int[], void,a.B$C >[ ]"
  obtain ⟨hlist, hfault, -⟩ := parse_iff_derives "a.List<?extendsA>"
  obtain ⟨-, -, hascii⟩ := parse_iff_derives "a.Größe"
  have hnone : (parse "a.List<?extendsA>").toOption.isNone = true := by decide +kernel
  have hunderived : ∀ t, ¬Derives "a.List<?extendsA>" t := by
    intro t ht
    rw [(hlist t).mpr ht] at hnone
    cases hnone
  refine ⟨(hentries _).mp ?_, hunderived, hfault hunderived, hascii ⟨'ö', by decide, by decide⟩⟩
  exact isWellFormed_entriesType.parse_eq_ok_iff.mpr (by decide +kernel)

end MockScaffold.TypeRef
