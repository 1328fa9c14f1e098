import MockScaffold.Proofs.JavaType.RoundTrip

namespace MockScaffold.TypeRef

open TypeToken (isNameChar)

/-- The letters of names, all of them ASCII. -/
def IsNameLetter (c : Char) : Prop :=
  'A' ≤ c ∧ c ≤ 'Z' ∨ 'a' ≤ c ∧ c ≤ 'z' ∨ '0' ≤ c ∧ c ≤ '9' ∨ c = '_' ∨ c = '$' ∨ c = '.'

/-- No segment of the name is empty. -/
structure IsQualified (name : String) : Prop where
  nonempty : name ≠ ""
  letters : ∀ c ∈ name.toList, IsNameLetter c
  noFirstDot : ¬['.'] <+: name.toList
  noLastDot : ¬['.'] <:+ name.toList
  noDotPair : ¬['.', '.'] <:+: name.toList

/-- The keywords that are types. -/
inductive IsKeyword : String → TypeRef → Prop
  | void : IsKeyword "void" .void
  | primitive (p : Primitive) : IsKeyword p.keyword (.primitive p)

def IsReserved (word : String) : Prop :=
  ∃ t, IsKeyword word t

def IsWellFormed (t : TypeRef) : Prop :=
  ∀ name ∈ t.classNames, IsQualified name ∧ ¬IsReserved name

section Names

variable {name word : String} {t : TypeRef}

theorem isNameChar_iff {c : Char} : isNameChar c = true ↔ IsNameLetter c := by
  have hranges : c.isAlphanum = ((decide ('A' ≤ c ∧ c ≤ 'Z') ||
      (decide ('a' ≤ c) && decide (c ≤ 'z'))) || (decide ('0' ≤ c) && decide (c ≤ '9'))) :=
    rfl
  simp only [isNameChar, hranges, IsNameLetter, Bool.or_eq_true, Bool.and_eq_true,
    decide_eq_true_eq, beq_iff_eq, or_assoc]

theorem toNat_lt_of_isNameLetter {c : Char} (h : IsNameLetter c) : c.toNat < 128 := by
  have hle {bound : Char} (hc : c ≤ bound) (hbound : bound.toNat < 128) : c.toNat < 128 :=
    Nat.lt_of_le_of_lt hc hbound
  rcases h with ⟨-, h⟩ | ⟨-, h⟩ | ⟨-, h⟩ | rfl | rfl | rfl
  · exact hle h (by decide)
  · exact hle h (by decide)
  · exact hle h (by decide)
  all_goals decide

theorem singleton_prefix_iff {c : Char} {cs : List Char} : [c] <+: cs ↔ cs.head? = some c := by
  cases cs with
  | nil => simp
  | cons c' cs => simp [List.cons_prefix_cons, eq_comm]

theorem singleton_suffix_iff {c : Char} {cs : List Char} :
    [c] <:+ cs ↔ cs.getLast? = some c := by
  rw [List.getLast?_eq_some_iff]
  exact exists_congr fun _ => eq_comm

theorem hasDotPair_iff (cs : List Char) : hasDotPair cs = true ↔ ['.', '.'] <:+: cs := by
  induction cs using hasDotPair.induct with
  | case1 cs => exact ⟨fun _ => ⟨[], cs, rfl⟩, fun _ => rfl⟩
  | case2 c cs hpair ih =>
    have hfront : ¬['.', '.'] <+: c :: cs := by
      rintro ⟨rest, hrest⟩
      cases hrest
      exact hpair rest rfl rfl
    rw [hasDotPair, ih, List.infix_cons_iff]
    · exact ⟨.inr, fun h => h.resolve_left hfront⟩
    · exact hpair
  | case3 => simp [hasDotPair]

theorem isMalformed_eq_false_iff : isMalformed name = false ↔
    ¬['.'] <+: name.toList ∧ ¬['.'] <:+ name.toList ∧ ¬['.', '.'] <:+: name.toList := by
  rw [singleton_prefix_iff, singleton_suffix_iff, ← hasDotPair_iff]
  simp [isMalformed, and_assoc]

theorem ofKeyword?_eq_some_iff : ofKeyword? word = some t ↔ IsKeyword word t := by
  constructor
  · intro h
    unfold ofKeyword? at h
    split at h
    · rename_i hvoid
      cases h
      rw [eq_of_beq hvoid]
      exact .void
    · obtain ⟨p, hp, rfl⟩ := Option.map_eq_some_iff.mp h
      have hword := List.find?_some hp
      rw [← eq_of_beq hword]
      exact .primitive p
  · rintro (_ | p)
    · rfl
    · exact (isClassName_keyword p).2.2.2

theorem ofKeyword?_eq_none_iff : ofKeyword? word = none ↔ ¬IsReserved word := by
  rw [Option.eq_none_iff_forall_ne_some, IsReserved, not_exists]
  exact forall_congr' fun t => not_congr ofKeyword?_eq_some_iff

theorem isClassName_iff : IsClassName name ↔ IsQualified name ∧ ¬IsReserved name := by
  constructor
  · intro h
    obtain ⟨hfirst, hlast, hpair⟩ := isMalformed_eq_false_iff.mp h.segments
    refine ⟨⟨h.nonempty, fun c hc => ?_, hfirst, hlast, hpair⟩, ?_⟩
    · exact isNameChar_iff.mp (List.all_eq_true.mp h.chars c hc)
    · exact ofKeyword?_eq_none_iff.mp h.noKeyword
  · rintro ⟨h, hreserved⟩
    refine ⟨h.nonempty, List.all_eq_true.mpr fun c hc => isNameChar_iff.mpr (h.letters c hc), ?_,
      ofKeyword?_eq_none_iff.mpr hreserved⟩
    exact isMalformed_eq_false_iff.mpr ⟨h.noFirstDot, h.noLastDot, h.noDotPair⟩

end Names

section WellFormed

mutual

theorem isWellFormed_iff : ∀ t : TypeRef, t.IsWellFormed ↔ t.IsWritten
  | .void => ⟨fun _ => .void, fun _ _ hname => absurd hname List.not_mem_nil⟩
  | .primitive p => ⟨fun _ => .primitive p, fun _ _ hname => absurd hname List.not_mem_nil⟩
  | .array element => by
    have helement : (TypeRef.array element).IsWellFormed ↔ element.IsWellFormed := .rfl
    rw [helement, isWellFormed_iff element]
    exact ⟨.array, fun | .array h => h⟩
  | .named name args => by
    have hargs : (TypeRef.named name args).IsWellFormed ↔
        (IsQualified name ∧ ¬IsReserved name) ∧
          ∀ n ∈ allClassNames args, IsQualified n ∧ ¬IsReserved n := by
      rw [IsWellFormed, classNames, List.forall_mem_cons]
    rw [hargs, ← isClassName_iff, forall_isWellFormed_iff args]
    exact ⟨fun h => .named h.1 h.2, fun | .named hname hargs => ⟨hname, hargs⟩⟩

theorem forall_isWellFormed_iff : ∀ ts : List TypeRef,
    (∀ name ∈ allClassNames ts, IsQualified name ∧ ¬IsReserved name) ↔ ∀ t ∈ ts, t.IsWritten
  | [] => ⟨fun _ _ h => absurd h List.not_mem_nil, fun _ _ h => absurd h List.not_mem_nil⟩
  | t :: ts => by
    have ht : (∀ name ∈ t.classNames, IsQualified name ∧ ¬IsReserved name) ↔ t.IsWritten :=
      isWellFormed_iff t
    rw [allClassNames, List.forall_mem_append, List.forall_mem_cons, ht,
      forall_isWellFormed_iff ts]

end

theorem isWellFormed_of_parse {text : String} {t : TypeRef} (h : parse text = .ok t) :
    t.IsWellFormed :=
  (isWellFormed_iff t).mpr (isWritten_of_parse h)

theorem IsWellFormed.parse_canonical {t : TypeRef} (h : t.IsWellFormed) :
    parse t.canonical = .ok t :=
  TypeRef.parse_canonical ((isWellFormed_iff t).mp h)

theorem IsWellFormed.eq_of_canonical {t u : TypeRef} (ht : t.IsWellFormed) (hu : u.IsWellFormed)
    (h : t.canonical = u.canonical) : t = u := by
  have hparse := ht.parse_canonical
  rw [h, hu.parse_canonical] at hparse
  exact (Except.ok.inj hparse).symm

/-- What a text is read as can be told by the canonical text. -/
theorem IsWellFormed.parse_eq_ok_iff {text : String} {t : TypeRef} (ht : t.IsWellFormed) :
    parse text = .ok t ↔ (parse text).toOption.map canonical = some t.canonical := by
  constructor
  · intro h
    rw [h]
    rfl
  · intro h
    cases hparse : parse text with
    | error fault =>
      rw [hparse] at h
      cases h
    | ok u =>
      rw [hparse] at h
      have hcanonical : u.canonical = t.canonical := Option.some.inj h
      rw [(isWellFormed_of_parse hparse).eq_of_canonical ht hcanonical]

/-- Texts are read as well-formed types only, and each well-formed type is read back from its
canonical text, which no other one has. -/
theorem canonical_roundTrip :
    (∀ text t, parse text = .ok t → t.IsWellFormed) ∧
      (∀ t : TypeRef, t.IsWellFormed → parse t.canonical = .ok t) ∧
      (∀ t u : TypeRef, t.IsWellFormed → u.IsWellFormed → t.canonical = u.canonical → t = u) ∧
      ∀ text t, parse text = .ok t → parse t.canonical = .ok t :=
  ⟨fun _ _ => isWellFormed_of_parse, fun _ => IsWellFormed.parse_canonical,
    fun _ _ => IsWellFormed.eq_of_canonical, fun _ _ h => (isWellFormed_of_parse h).parse_canonical⟩

/-- A generic array type, with an array, a keyword and a class with a dollar as arguments. -/
def entriesType : TypeRef :=
  .array (.named "java.util.Map" [.array (.primitive .int), .void, .ofClass "a.B$C"])

theorem isWellFormed_entriesType : entriesType.IsWellFormed := by
  have hmap : IsClassName "java.util.Map" := ⟨by decide, by decide, by decide, rfl⟩
  have hinner : IsClassName "a.B$C" := ⟨by decide, by decide, by decide, rfl⟩
  rw [isWellFormed_iff]
  refine .array (.named hmap ?_)
  simp only [List.forall_mem_cons]
  exact ⟨.array (.primitive .int), .void, isWritten_ofClass hinner,
    fun _ h => absurd h List.not_mem_nil⟩

/-- The same type from a text with other blanks and a wildcard, and from its canonical text. -/
theorem canonical_roundTrip_entriesType :
    parse " java.util.Map<? extends int[], void,a.B$C >[ ]" = .ok entriesType ∧
      entriesType.IsWellFormed ∧ parse entriesType.canonical = .ok entriesType ∧
      (∀ u : TypeRef, u.IsWellFormed → u.canonical = "java.util.Map<int[], void, a.B$C>[]" →
        u = entriesType) := by
  obtain ⟨hread, hback, hsame, -⟩ := canonical_roundTrip
  have hparse : parse " java.util.Map<? extends int[], void,a.B$C >[ ]" = .ok entriesType :=
    isWellFormed_entriesType.parse_eq_ok_iff.mpr (by decide +kernel)
  have htext : entriesType.canonical = "java.util.Map<int[], void, a.B$C>[]" := by
    decide +kernel
  refine ⟨hparse, hread _ _ hparse, hback _ isWellFormed_entriesType, fun u hu heq => ?_⟩
  exact hsame u entriesType hu isWellFormed_entriesType (heq.trans htext.symm)

end WellFormed

end MockScaffold.TypeRef
