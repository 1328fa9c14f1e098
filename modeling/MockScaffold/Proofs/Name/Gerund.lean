import MockScaffold.Name.Behaviour
import MockScaffold.Proofs.Text.Case

namespace MockScaffold.Name

/-- No capital, so nothing that could come after a verb. -/
def IsSmall (cs : List Char) : Prop :=
  ∀ c ∈ cs, Text.isUpper c = false

instance (cs : List Char) : Decidable (IsSmall cs) :=
  List.decidableBAll (fun c => Text.isUpper c = false) cs

/-- The first character is a small letter of ASCII. -/
def StartsSmall (cs : List Char) : Prop :=
  ∃ c, cs.head? = some c ∧ c.isLower = true

instance (cs : List Char) : Decidable (StartsSmall cs) :=
  decidable_of_iff (cs.head?.any (·.isLower) = true) (Option.any_eq_true _ _)

/-- What comes before the first capital of a method's name in ASCII. -/
structure IsVerb (verb : List Char) : Prop where
  isSmall : IsSmall verb
  isAscii : ∀ c ∈ verb, c.toNat < 0x80
  startsSmall : StartsSmall verb

/-- Starts like a verb that asks. -/
def Asks (cs : List Char) : Prop :=
  ∃ start ∈ ["is", "can", "has"], start.toList <+: cs
  deriving Decidable

/-- The last letter is one after which an `e` at the end stays. -/
def KeepsE (cs : List Char) : Prop :=
  ∃ c, cs.getLast? = some c ∧ (c == 'e' || c == 'y' || c == 'o') = true

instance (cs : List Char) : Decidable (KeepsE cs) :=
  decidable_of_iff ((cs.getLast?.any fun c => c == 'e' || c == 'y' || c == 'o') = true)
    (Option.any_eq_true _ _)

/-- The verbs that double their last letter. -/
def doublers : List (List Char) :=
  ["get".toList, "commit".toList]

section Characters

variable {c : Char}

theorem lower_cases (h : c.isLower = true) :
    c.toNat < 0x80 ∧ Text.isUpper c = false ∧ c.toUpper.toLower = c := by
  have hascii : c.toNat < 0x80 := by
    rw [Text.isLower_iff] at h
    omega
  obtain ⟨n, hn, rfl⟩ := Text.exists_ofNat hascii
  clear hascii
  revert n
  decide +kernel

theorem toLower_of_not_upper (hascii : c.toNat < 0x80) (h : Text.isUpper c = false) :
    Text.toLower c = [c] := by
  obtain ⟨n, hn, rfl⟩ := Text.exists_ofNat hascii
  clear hascii
  revert n
  decide +kernel

end Characters

section Capitals

variable {cs ds : List Char}

namespace StartsSmall

theorem ne_nil (h : StartsSmall cs) : cs ≠ [] := by
  obtain ⟨c, hhead, -⟩ := h
  rintro rfl
  cases hhead

theorem append (h : StartsSmall cs) (ds : List Char) : StartsSmall (cs ++ ds) := by
  obtain ⟨c, hhead, hlower⟩ := h
  refine ⟨c, ?_, hlower⟩
  rw [List.head?_append, hhead, Option.some_or]

theorem of_append (h : StartsSmall (cs ++ ds)) (hne : cs ≠ []) : StartsSmall cs := by
  obtain ⟨c, hhead, hlower⟩ := h
  refine ⟨c, ?_, hlower⟩
  rw [← hhead, List.head?_append, List.head?_eq_some_head hne, Option.some_or]

end StartsSmall

theorem capitalize_append (h : cs ≠ []) (ds : List Char) :
    Text.capitalize (cs ++ ds) = Text.capitalize cs ++ ds := by
  cases cs with
  | nil => exact absurd rfl h
  | cons c cs => exact (List.append_assoc _ _ _).symm

/-- Texts that start with small letters are told apart with their capitals. -/
theorem capitalize_inj (h : StartsSmall cs) (h' : StartsSmall ds)
    (heq : Text.capitalize cs = Text.capitalize ds) : cs = ds := by
  obtain ⟨c, hc, hlower⟩ := h
  obtain ⟨d, hd, hlower'⟩ := h'
  obtain ⟨cs, rfl⟩ := List.head?_eq_some_iff.mp hc
  obtain ⟨ds, rfl⟩ := List.head?_eq_some_iff.mp hd
  obtain ⟨hascii, -, hback⟩ := lower_cases hlower
  obtain ⟨hascii', -, hback'⟩ := lower_cases hlower'
  rw [Text.capitalize, Text.capitalize, Text.toUpper_of_ascii hascii,
    Text.toUpper_of_ascii hascii'] at heq
  obtain ⟨hfirst, hrest⟩ := List.cons.inj heq
  rw [← hback, hfirst, hback']
  exact congrArg (d :: ·) hrest

theorem lower_of_isSmall (hsmall : IsSmall cs) (hascii : ∀ c ∈ cs, c.toNat < 0x80) :
    Text.lower cs = cs := by
  rw [Text.lower_of_ascii hascii]
  induction cs with
  | nil => rfl
  | cons c cs ih =>
    rw [IsSmall, List.forall_mem_cons] at hsmall
    rw [List.forall_mem_cons] at hascii
    have hrest := ih hsmall.2 hascii.2
    rw [List.flatMap_cons, toLower_of_not_upper hascii.1 hsmall.1, hrest]
    rfl

end Capitals

namespace IsVerb

variable {verb cs ds : List Char}

theorem ne_nil (h : IsVerb verb) : verb ≠ [] :=
  h.startsSmall.ne_nil

theorem of_append (h : IsVerb (cs ++ ds)) (hne : cs ≠ []) : IsVerb cs where
  isSmall c hc := h.isSmall c (List.mem_append_left ds hc)
  isAscii c hc := h.isAscii c (List.mem_append_left ds hc)
  startsSmall := h.startsSmall.of_append hne

theorem of_isLower (hne : cs ≠ []) (hcs : cs.all (·.isLower) = true) : IsVerb cs where
  isSmall c hc := (lower_cases (List.all_eq_true.mp hcs c hc)).2.1
  isAscii c hc := (lower_cases (List.all_eq_true.mp hcs c hc)).1
  startsSmall :=
    ⟨cs.head hne, List.head?_eq_some_head hne, List.all_eq_true.mp hcs _ (List.head_mem hne)⟩

theorem append (h : IsVerb cs) (hds : ds.all (·.isLower) = true) : IsVerb (cs ++ ds) where
  isSmall := List.forall_mem_append.mpr
    ⟨h.isSmall, fun c hc => (lower_cases (List.all_eq_true.mp hds c hc)).2.1⟩
  isAscii := List.forall_mem_append.mpr
    ⟨h.isAscii, fun c hc => (lower_cases (List.all_eq_true.mp hds c hc)).1⟩
  startsSmall := h.startsSmall.append ds

end IsVerb

section Rules

variable {verb stem : List Char}

theorem asks_iff : ["is", "can", "has"].any (·.toList.isPrefixOf verb) = true ↔ Asks verb := by
  simp [Asks, List.isPrefixOf_iff_prefix]

theorem Asks.length_ne_one (h : Asks verb) : verb.length ≠ 1 := by
  obtain ⟨start, hstart, hprefix⟩ := h
  have htwo : ∀ start ∈ ["is", "can", "has"], 2 ≤ start.toList.length := by decide
  have hlong := htwo start hstart
  have hle := hprefix.length_le
  omega

/-- No verb comes to ask by an `e` at its end. -/
theorem asks_of_asks_concat (h : Asks (verb ++ ['e'])) : Asks verb := by
  obtain ⟨start, hstart, hprefix⟩ := h
  refine ⟨start, hstart, (List.prefix_concat_iff.mp hprefix).resolve_left fun heq => ?_⟩
  have hlast : ∀ start ∈ ["is", "can", "has"], start.toList.getLast? ≠ some 'e' := by decide
  refine hlast start hstart ?_
  rw [heq, List.getLast?_concat]

theorem isSuffixOf_pair (c : Char) (stem : List Char) :
    [c, 'e'].isSuffixOf (stem ++ ['e']) = (stem.getLast? == some c) := by
  -- Read backwards, the pair starts with the `e` that both texts have.
  rw [List.isSuffixOf, List.reverse_append, List.getLast?_eq_head?_reverse]
  cases stem.reverse with
  | nil => rfl
  | cons d ds =>
    rw [Bool.eq_iff_iff]
    simp [List.isPrefixOf, eq_comm (a := d)]

theorem keepsE_iff :
    ["ee", "ye", "oe"].any (·.toList.isSuffixOf (stem ++ ['e'])) = true ↔ KeepsE stem := by
  have hany : ["ee", "ye", "oe"].any (·.toList.isSuffixOf (stem ++ ['e'])) =
      [['e', 'e'], ['y', 'e'], ['o', 'e']].any (·.isSuffixOf (stem ++ ['e'])) := rfl
  rw [hany]
  unfold KeepsE
  simp only [List.any_cons, isSuffixOf_pair]
  cases stem.getLast? <;> simp [or_assoc]

theorem doublers_iff (h : IsVerb verb) :
    ["get", "commit"].any (·.toList == Text.lower verb) = true ↔ verb ∈ doublers := by
  rw [lower_of_isSmall h.isSmall h.isAscii, List.any_eq_true]
  simp only [doublers, beq_iff_eq, List.mem_cons, List.not_mem_nil, or_false, exists_eq_or_imp,
    exists_eq_left, eq_comm (b := verb)]

end Rules

/-- What the gerund of a verb that does not ask has before its `ing`, but for the capital. -/
inductive HasStem : List Char → List Char → Prop
  | doubled {verb : List Char} : verb ∈ doublers → HasStem verb (verb ++ ['t'])
  | dropped {stem : List Char} : stem ≠ [] → ¬KeepsE stem → HasStem (stem ++ ['e']) stem
  | plain {verb : List Char} : verb ∉ doublers →
      (∀ stem, stem ≠ [] → verb = stem ++ ['e'] → KeepsE stem) → HasStem verb verb

/-- Two verbs of one gerund, as `bath` and `bathe`, `get` and `gett`, or `get` and `gette`. -/
inductive SharesGerund : List Char → List Char → Prop
  | dropped {verb : List Char} : verb ≠ [] → ¬KeepsE verb → ¬Asks verb → verb ∉ doublers →
      SharesGerund verb (verb ++ ['e'])
  | doubled {verb ending : List Char} : verb ∈ doublers → ending ∈ ["t".toList, "te".toList] →
      SharesGerund verb (verb ++ ending)

section Stems

variable {verb verb' stem : List Char}

theorem exists_hasStem (verb : List Char) : ∃ stem, HasStem verb stem := by
  by_cases hdouble : verb ∈ doublers
  · exact ⟨_, .doubled hdouble⟩
  · by_cases hdrop : ∃ stem, stem ≠ [] ∧ verb = stem ++ ['e'] ∧ ¬KeepsE stem
    · obtain ⟨stem, hne, rfl, hlast⟩ := hdrop
      exact ⟨_, .dropped hne hlast⟩
    · refine ⟨verb, .plain hdouble fun stem hne hverb => Classical.not_not.mp fun hlast => ?_⟩
      exact hdrop ⟨stem, hne, hverb, hlast⟩

theorem HasStem.isVerb (hstem : HasStem verb stem) (h : IsVerb verb) : IsVerb stem := by
  cases hstem with
  | doubled => exact h.append (by decide)
  | dropped hne => exact h.of_append hne
  | plain => exact h

theorem sharesGerund_of_hasStem (hstem : HasStem verb stem) (hstem' : HasStem verb' stem)
    (hasks : ¬Asks verb) (hasks' : ¬Asks verb') :
    verb = verb' ∨ SharesGerund verb verb' ∨ SharesGerund verb' verb := by
  -- Both verbs are got back from the stem, each by the rule that made it.
  cases hstem with
  | @doubled verb hdouble =>
    generalize hd : verb ++ ['t'] = stem at hstem'
    cases hstem' with
    | doubled => exact .inl (List.append_cancel_right hd)
    | dropped =>
      refine .inr (.inl ?_)
      rw [← hd, List.append_assoc]
      exact .doubled hdouble (by decide)
    | plain =>
      refine .inr (.inl ?_)
      rw [← hd]
      exact .doubled hdouble (by decide)
  | dropped hne hlast =>
    cases hstem' with
    | @doubled verb' hdouble =>
      refine .inr (.inr ?_)
      rw [List.append_assoc]
      exact .doubled hdouble (by decide)
    | dropped => exact .inl rfl
    | plain hdouble => exact .inr (.inr (.dropped hne hlast hasks' hdouble))
  | plain hdouble =>
    cases hstem' with
    | doubled hdouble' => exact .inr (.inr (.doubled hdouble' (by decide)))
    | dropped hne hlast => exact .inr (.inl (.dropped hne hlast hasks hdouble))
    | plain => exact .inl rfl

end Stems

namespace IsVerb

variable {verb verb' stem : List Char}

theorem gerund_of_asks (h : IsVerb verb) (hasks : Asks verb) :
    gerund verb = "CheckingIf".toList ++ Text.capitalize verb := by
  unfold gerund
  rw [if_neg (by simp [h.ne_nil]), if_neg hasks.length_ne_one, if_pos (asks_iff.mpr hasks)]

theorem gerund_of_dropped (hne : stem ≠ []) (hlast : ¬KeepsE stem) (hasks : ¬Asks (stem ++ ['e'])) :
    gerund (stem ++ ['e']) = Text.capitalize stem ++ "ing".toList := by
  have hlength : (stem ++ ['e']).length ≠ 1 := by
    simpa using hne
  unfold gerund
  rw [if_neg (by simp), if_neg hlength, if_neg (mt asks_iff.mp hasks),
    if_neg (mt keepsE_iff.mp hlast), capitalize_append hne, if_pos (List.getLast?_concat ..),
    List.dropLast_concat]

theorem exists_concat_of_getLast? (hlength : verb.length ≠ 1)
    (hlast : (Text.capitalize verb).getLast? = some 'e') :
    ∃ stem, stem ≠ [] ∧ verb = stem ++ ['e'] := by
  rcases List.eq_nil_or_concat verb with rfl | ⟨stem, c, rfl⟩
  · cases hlast
  · rw [List.concat_eq_append] at *
    have hne : stem ≠ [] := by
      rintro rfl
      exact hlength rfl
    rw [capitalize_append hne, List.getLast?_concat] at hlast
    cases hlast
    exact ⟨stem, hne, rfl⟩

theorem gerund_of_plain (h : IsVerb verb) (hasks : ¬Asks verb) (hdouble : verb ∉ doublers)
    (hkeeps : ∀ stem, stem ≠ [] → verb = stem ++ ['e'] → KeepsE stem) :
    gerund verb = Text.capitalize verb ++ "ing".toList := by
  unfold gerund
  rw [if_neg (by simp [h.ne_nil]), if_neg (mt asks_iff.mp hasks),
    if_neg (mt (doublers_iff h).mp hdouble)]
  by_cases hlength : verb.length = 1
  · rw [if_pos hlength]
  · rw [if_neg hlength]
    split
    · rfl
    · rename_i hpairs
      rw [if_neg]
      -- An `e` at the end that is not kept would be dropped, and this verb has none.
      intro hlast
      obtain ⟨stem, hne, rfl⟩ := exists_concat_of_getLast? hlength hlast
      exact hpairs (keepsE_iff.mpr (hkeeps stem hne rfl))

theorem gerund_of_hasStem (h : IsVerb verb) (hasks : ¬Asks verb) (hstem : HasStem verb stem) :
    gerund verb = Text.capitalize stem ++ "ing".toList := by
  cases hstem with
  | doubled hdouble =>
    simp only [doublers, List.mem_cons, List.not_mem_nil, or_false] at hdouble
    rcases hdouble with rfl | rfl <;> rfl
  | dropped hne hlast => exact gerund_of_dropped hne hlast hasks
  | plain hdouble hkeeps => exact h.gerund_of_plain hasks hdouble hkeeps

end IsVerb

namespace SharesGerund

variable {verb verb' : List Char}

theorem ne_nil (h : SharesGerund verb verb') : verb ≠ [] := by
  cases h with
  | dropped hne => exact hne
  | doubled hdouble =>
    rintro rfl
    revert hdouble
    decide

theorem isVerb (h : SharesGerund verb verb') (hverb : IsVerb verb) : IsVerb verb' := by
  cases h with
  | dropped => exact hverb.append (by decide)
  | doubled _ hending =>
    have hlower : ∀ ending ∈ ["t".toList, "te".toList], ending.all (·.isLower) = true := by decide
    exact hverb.append (hlower _ hending)

theorem gerund_eq (h : SharesGerund verb verb') (hverb : IsVerb verb) :
    gerund verb = gerund verb' := by
  cases h with
  | dropped hne hlast hasks hdouble =>
    have hplain : gerund verb = Text.capitalize verb ++ "ing".toList := by
      refine hverb.gerund_of_plain hasks hdouble fun stem _ heq => absurd ?_ hlast
      exact ⟨'e', heq ▸ List.getLast?_concat .., rfl⟩
    rw [hplain, IsVerb.gerund_of_dropped hne hlast (mt asks_of_asks_concat hasks)]
  | doubled hdouble hending =>
    simp only [doublers, List.mem_cons, List.not_mem_nil, or_false] at hdouble hending
    rcases hdouble with rfl | rfl <;> rcases hending with rfl | rfl <;> rfl

end SharesGerund

end MockScaffold.Name
