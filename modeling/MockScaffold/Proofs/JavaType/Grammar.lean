import MockScaffold.Proofs.JavaType.WellFormed

namespace MockScaffold.TypeRef

open TypeToken (scan isNameChar isSpace EndsRun)

/-- The white space of ASCII. -/
def IsWhite (c : Char) : Prop :=
  c ∈ [' ', '\t', '\n', '\x0c', '\r']

/-- The text goes on, after white space, with `token`, and then with `rest`. -/
def TokenAt (token text rest : List Char) : Prop :=
  ∃ blanks, (∀ c ∈ blanks, IsWhite c) ∧ text = blanks ++ (token ++ rest)

/-- The token is a run of letters, and no letter follows it. -/
structure WordAt (word : String) (text rest : List Char) : Prop where
  token : TokenAt word.toList text rest
  nonempty : word ≠ ""
  letters : ∀ c ∈ word.toList, IsNameLetter c
  maximal : ∀ c ∈ rest.head?, ¬IsNameLetter c

/-- The name of a class. -/
structure NameAt (name : String) (text rest : List Char) : Prop where
  word : WordAt name text rest
  qualified : IsQualified name
  notReserved : ¬IsReserved name

/-- With the brackets that follow it, the type `t` becomes the type `u`. -/
inductive DerivesArrays : TypeRef → List Char → TypeRef → List Char → Prop
  | none {t : TypeRef} {text : List Char} : DerivesArrays t text t text
  | pair {t u : TypeRef} {text opened closed rest : List Char}
      (hopening : TokenAt ['['] text opened) (hclosing : TokenAt [']'] opened closed)
      (hmore : DerivesArrays (.array t) closed u rest) : DerivesArrays t text u rest

mutual

inductive DerivesType : List Char → TypeRef → List Char → Prop
  | keyword {word : String} {t u : TypeRef} {text after rest : List Char}
      (hkeyword : IsKeyword word t) (hword : WordAt word text after)
      (harrays : DerivesArrays t after u rest) : DerivesType text u rest
  | plain {name : String} {u : TypeRef} {text after rest : List Char}
      (hname : NameAt name text after) (harrays : DerivesArrays (.named name []) after u rest) :
      DerivesType text u rest
  | generic {name : String} {args : List TypeRef} {u : TypeRef}
      {text after inside closed rest : List Char} (hname : NameAt name text after)
      (hopening : TokenAt ['<'] after inside) (hargs : DerivesArguments inside args closed)
      (harrays : DerivesArrays (.named name args) closed u rest) : DerivesType text u rest

inductive DerivesArgument : List Char → TypeRef → List Char → Prop
  | type {t : TypeRef} {text rest : List Char} (ht : DerivesType text t rest) :
      DerivesArgument text t rest
  | wildcard {text rest : List Char} (hmark : TokenAt ['?'] text rest) :
      DerivesArgument text (.ofClass "java.lang.Object") rest
  | bounded {t : TypeRef} {word : String} {text after bound rest : List Char}
      (hmark : TokenAt ['?'] text after) (hword : WordAt word after bound)
      (hbound : word = "extends" ∨ word = "super") (ht : DerivesType bound t rest) :
      DerivesArgument text t rest

/-- One argument or more, and the closing bracket. -/
inductive DerivesArguments : List Char → List TypeRef → List Char → Prop
  | last {arg : TypeRef} {text after rest : List Char} (harg : DerivesArgument text arg after)
      (hclosing : TokenAt ['>'] after rest) : DerivesArguments text [arg] rest
  | more {arg : TypeRef} {args : List TypeRef} {text after next rest : List Char}
      (harg : DerivesArgument text arg after) (hcomma : TokenAt [','] after next)
      (hargs : DerivesArguments next args rest) : DerivesArguments text (arg :: args) rest

end

/-- The whole text is that of `t`. -/
def Derives (text : String) (t : TypeRef) : Prop :=
  ∃ rest, DerivesType text.toList t rest ∧ ∀ c ∈ rest, IsWhite c

section Scan

variable {text rest : List Char}

theorem isSpace_iff {c : Char} : isSpace c = true ↔ IsWhite c := by
  simp [isSpace, IsWhite, or_assoc]

theorem not_isNameChar_of_isWhite {c : Char} (h : IsWhite c) : isNameChar c = false := by
  simp only [IsWhite, List.mem_cons, List.not_mem_nil, or_false] at h
  rcases h with rfl | rfl | rfl | rfl | rfl <;> decide

theorem scan_white {c : Char} (h : IsWhite c) (rest : List Char) :
    scan (c :: rest) = scan rest := by
  rw [scan, TypeToken.scanAfter, not_isNameChar_of_isWhite h, isSpace_iff.mpr h]
  rfl

theorem scan_blanks {blanks : List Char} (h : ∀ c ∈ blanks, IsWhite c) (rest : List Char) :
    scan (blanks ++ rest) = scan rest := by
  induction blanks with
  | nil => rfl
  | cons c blanks ih =>
    rw [List.forall_mem_cons] at h
    rw [List.cons_append, scan_white h.1, ih h.2]

theorem endsRun_iff : EndsRun rest ↔ ∀ c ∈ rest.head?, ¬IsNameLetter c := by
  refine forall₂_congr fun c _ => ?_
  rw [← isNameChar_iff, Bool.not_eq_true]

theorem scan_of_wordAt {word : String} (h : WordAt word text rest) :
    scan text = .name word :: scan rest := by
  obtain ⟨⟨blanks, hblanks, rfl⟩, hne, hletters, hmaximal⟩ := h
  rw [scan_blanks hblanks]
  refine TypeToken.scan_name hne ?_ (endsRun_iff.mpr hmaximal)
  exact List.all_eq_true.mpr fun c hc => isNameChar_iff.mpr (hletters c hc)

theorem scan_of_tokenAt {c : Char} (h : TokenAt [c] text rest) (hname : isNameChar c = false)
    (hspace : isSpace c = false) : scan text = .mark c :: scan rest := by
  obtain ⟨blanks, hblanks, rfl⟩ := h
  rw [scan_blanks hblanks]
  exact TypeToken.scan_mark hname hspace rest

theorem TokenAt.white {c : Char} {token : List Char} (hc : IsWhite c)
    (h : TokenAt token text rest) : TokenAt token (c :: text) rest := by
  obtain ⟨blanks, hblanks, rfl⟩ := h
  exact ⟨c :: blanks, List.forall_mem_cons.mpr ⟨hc, hblanks⟩, rfl⟩

theorem wordAt_takeWhile {c : Char} (h : isNameChar c = true) (text : List Char) :
    WordAt (String.ofList ((c :: text).takeWhile isNameChar)) (c :: text)
      ((c :: text).dropWhile isNameChar) where
  token := ⟨[], by simp, by simp [List.takeWhile_append_dropWhile]⟩
  nonempty := by simp [h]
  letters := by
    intro c' hc'
    rw [String.toList_ofList] at hc'
    exact isNameChar_iff.mp (List.all_eq_true.mp List.all_takeWhile c' hc')
  maximal := by
    intro c' hc'
    have hstop := List.head?_dropWhile_not isNameChar (c :: text)
    rw [Option.mem_def.mp hc'] at hstop
    rw [← isNameChar_iff, hstop]
    exact Bool.false_ne_true

/-- The characters that are tokens of the grammar by themselves. -/
def marks : List Char :=
  ['<', '>', '[', ']', ',', '?']

theorem scan_of_mark {c : Char} (h : TokenAt [c] text rest) (hc : c ∈ marks) :
    scan text = .mark c :: scan rest := by
  simp only [marks, List.mem_cons, List.not_mem_nil, or_false] at hc
  rcases hc with rfl | rfl | rfl | rfl | rfl | rfl <;>
    exact scan_of_tokenAt h (by decide) (by decide)

/-- A text is white, or it goes on with a word, or with a mark. -/
theorem scan_cases (text : List Char) :
    (scan text = [] ∧ ∀ c ∈ text, IsWhite c) ∨
      (∃ word rest, scan text = .name word :: scan rest ∧ WordAt word text rest) ∨
      ∃ c rest, scan text = .mark c :: scan rest ∧ TokenAt [c] text rest := by
  induction text with
  | nil => exact .inl ⟨rfl, fun _ hc => absurd hc List.not_mem_nil⟩
  | cons c text ih =>
    by_cases hwhite : IsWhite c
    · rw [scan_white hwhite]
      rcases ih with ⟨hscan, hall⟩ | ⟨word, rest, hscan, hword⟩ | ⟨mark, rest, hscan, hmark⟩
      · exact .inl ⟨hscan, List.forall_mem_cons.mpr ⟨hwhite, hall⟩⟩
      · exact .inr (.inl ⟨word, rest, hscan, { hword with token := hword.token.white hwhite }⟩)
      · exact .inr (.inr ⟨mark, rest, hscan, hmark.white hwhite⟩)
    -- A letter opens the longest run of letters, and any other character is a mark.
    · by_cases hname : isNameChar c = true
      · have hword := wordAt_takeWhile hname text
        exact .inr (.inl ⟨_, _, scan_of_wordAt hword, hword⟩)
      · have hmark : TokenAt [c] (c :: text) text := ⟨[], by simp, rfl⟩
        rw [Bool.not_eq_true] at hname
        have hspace : isSpace c = false := by
          rw [← Bool.not_eq_true, isSpace_iff]
          exact hwhite
        exact .inr (.inr ⟨c, text, scan_of_tokenAt hmark hname hspace, hmark⟩)

theorem wordAt_of_scan {word : String} {toks : List TypeToken}
    (h : scan text = .name word :: toks) : ∃ rest, toks = scan rest ∧ WordAt word text rest := by
  rcases scan_cases text with ⟨hscan, -⟩ | ⟨word', rest, hscan, hword⟩ | ⟨mark, rest, hscan, -⟩
  · cases hscan.symm.trans h
  · cases hscan.symm.trans h
    exact ⟨rest, rfl, hword⟩
  · cases hscan.symm.trans h

theorem tokenAt_of_scan {c : Char} {toks : List TypeToken} (h : scan text = .mark c :: toks) :
    ∃ rest, toks = scan rest ∧ TokenAt [c] text rest := by
  rcases scan_cases text with ⟨hscan, -⟩ | ⟨word, rest, hscan, -⟩ | ⟨mark, rest, hscan, hmark⟩
  · cases hscan.symm.trans h
  · cases hscan.symm.trans h
  · cases hscan.symm.trans h
    exact ⟨rest, rfl, hmark⟩

theorem scan_eq_nil_iff : scan text = [] ↔ ∀ c ∈ text, IsWhite c := by
  constructor
  · intro h
    rcases scan_cases text with ⟨-, hall⟩ | ⟨word, rest, hscan, -⟩ | ⟨mark, rest, hscan, -⟩
    · exact hall
    · cases hscan.symm.trans h
    · cases hscan.symm.trans h
  · intro h
    rw [← List.append_nil text, scan_blanks h]
    rfl

end Scan

section Leads

/-- Going from a text to what is left of it takes ASCII characters away and adds no token. -/
structure Leads (text rest : List Char) : Prop where
  tokens : (scan rest).length ≤ (scan text).length
  ascii : ∃ front, text = front ++ rest ∧ ∀ c ∈ front, c.toNat < 128

variable {text rest : List Char} {t u : TypeRef}

theorem Leads.refl (text : List Char) : Leads text text :=
  ⟨Nat.le_refl _, [], rfl, fun _ hc => absurd hc List.not_mem_nil⟩

theorem Leads.trans {text' : List Char} (h : Leads text text') (h' : Leads text' rest) :
    Leads text rest := by
  obtain ⟨front, rfl, hfront⟩ := h.ascii
  obtain ⟨front', rfl, hfront'⟩ := h'.ascii
  refine ⟨Nat.le_trans h'.tokens h.tokens, front ++ front', (List.append_assoc _ _ _).symm, ?_⟩
  exact List.forall_mem_append.mpr ⟨hfront, hfront'⟩

theorem toNat_lt_of_isWhite {c : Char} (h : IsWhite c) : c.toNat < 128 := by
  simp only [IsWhite, List.mem_cons, List.not_mem_nil, or_false] at h
  rcases h with rfl | rfl | rfl | rfl | rfl <;> decide

theorem TokenAt.ascii {token : List Char} (h : TokenAt token text rest)
    (htoken : ∀ c ∈ token, c.toNat < 128) :
    ∃ front, text = front ++ rest ∧ ∀ c ∈ front, c.toNat < 128 := by
  obtain ⟨blanks, hblanks, rfl⟩ := h
  refine ⟨blanks ++ token, (List.append_assoc _ _ _).symm, List.forall_mem_append.mpr ⟨?_, htoken⟩⟩
  exact fun c hc => toNat_lt_of_isWhite (hblanks c hc)

theorem leads_of_wordAt {word : String} (h : WordAt word text rest) : Leads text rest := by
  refine ⟨?_, h.token.ascii fun c hc => toNat_lt_of_isNameLetter (h.letters c hc)⟩
  rw [scan_of_wordAt h]
  exact Nat.le_succ _

theorem leads_of_mark {c : Char} (h : TokenAt [c] text rest) (hc : c ∈ marks) :
    Leads text rest := by
  have hascii : c.toNat < 128 := by
    simp only [marks, List.mem_cons, List.not_mem_nil, or_false] at hc
    rcases hc with rfl | rfl | rfl | rfl | rfl | rfl <;> decide
  refine ⟨?_, h.ascii (List.forall_mem_singleton.mpr hascii)⟩
  rw [scan_of_mark h hc]
  exact Nat.le_succ _

theorem leads_of_derivesArrays (h : DerivesArrays t text u rest) : Leads text rest := by
  induction h with
  | none => exact .refl _
  | pair hopening hclosing _ ih =>
    have hpair := (leads_of_mark hopening (by decide)).trans (leads_of_mark hclosing (by decide))
    exact hpair.trans ih

mutual

theorem leads_of_derivesType : ∀ {text : List Char} {t : TypeRef} {rest : List Char},
    DerivesType text t rest → Leads text rest
  | _, _, _, .keyword _ hword harrays => by
    exact (leads_of_wordAt hword).trans (leads_of_derivesArrays harrays)
  | _, _, _, .plain hname harrays => by
    exact (leads_of_wordAt hname.word).trans (leads_of_derivesArrays harrays)
  | _, _, _, .generic hname hopening hargs harrays => by
    have hinside := (leads_of_wordAt hname.word).trans (leads_of_mark hopening (by decide))
    have hclosed := hinside.trans (leads_of_derivesArguments hargs)
    exact hclosed.trans (leads_of_derivesArrays harrays)

theorem leads_of_derivesArgument : ∀ {text : List Char} {t : TypeRef} {rest : List Char},
    DerivesArgument text t rest → Leads text rest
  | _, _, _, .type ht => by
    exact leads_of_derivesType ht
  | _, _, _, .wildcard hmark => by
    exact leads_of_mark hmark (by decide)
  | _, _, _, .bounded hmark hword _ ht => by
    have hbound := (leads_of_mark hmark (by decide)).trans (leads_of_wordAt hword)
    exact hbound.trans (leads_of_derivesType ht)

theorem leads_of_derivesArguments : ∀ {text : List Char} {args : List TypeRef} {rest : List Char},
    DerivesArguments text args rest → Leads text rest
  | _, _, _, .last harg hclosing => by
    exact (leads_of_derivesArgument harg).trans (leads_of_mark hclosing (by decide))
  | _, _, _, .more harg hcomma hargs => by
    have hnext := (leads_of_derivesArgument harg).trans (leads_of_mark hcomma (by decide))
    exact hnext.trans (leads_of_derivesArguments hargs)

end

end Leads

/-- Texts of types are ASCII. -/
theorem Derives.toNat_lt {text : String} {t : TypeRef} (h : Derives text t) :
    ∀ c ∈ text.toList, c.toNat < 128 := by
  obtain ⟨rest, ht, hwhite⟩ := h
  obtain ⟨front, hfront, hascii⟩ := (leads_of_derivesType ht).ascii
  rw [hfront, List.forall_mem_append]
  exact ⟨hascii, fun c hc => toNat_lt_of_isWhite (hwhite c hc)⟩

end MockScaffold.TypeRef
