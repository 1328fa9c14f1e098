import Mathlib.Data.List.SplitBy
import MockScaffold.Proofs.Name.Words

namespace MockScaffold.Name

/-- What lets a word begin at `c` within a run: a capital stands there, after a small letter, a
digit of ASCII, or a capital if a small letter comes next. -/
def IsCut (prev c : Char) (next : Option Char) : Prop :=
  Text.isUpper c = true ∧
    (Text.isLower prev = true ∨ prev.isDigit = true ∨
      Text.isUpper prev = true ∧ next.any Text.isLower = true)
  deriving Decidable

/-- Whether one word goes on from a character of the name to the next one, both given with their
places. -/
def goesOn (name : List Char) (prev here : Char × Nat) : Bool :=
  !decide (IsCut prev.1 here.1 name[here.2 + 1]?)

/-- The longest runs without separators, those before, between and after separators, cut where
words begin; a run without characters has no pieces. -/
def piecesOf (name : List Char) (part : List (Char × Nat)) : List (List (Char × Nat)) :=
  (part.splitOnP (isSeparator ·.1)).flatMap (·.splitBy (goesOn name))

def pieces (name : List Char) : List (List Char) :=
  (piecesOf name name.zipIdx).map (·.map (·.1))

/-- What comes before a place of the name, if it has such a place. -/
def charBefore? (name : List Char) : Nat → Option Char
  | 0 => none
  | i + 1 => name[i]?

/-- The words from place `i` on, if the name has all the characters that it is asked for. -/
def wordsFrom? (name : List Char) (i : Nat) (word : List Char) :
    List Char → Option (List (List Char))
  | [] => some (finished word)
  | c :: rest =>
    if isSeparator c then (wordsFrom? name (i + 1) [] rest).map (finished word ++ ·)
    else if Text.isUpper c && !word.isEmpty then
      (charBefore? name i).bind fun prev =>
        if beginsWord prev c name[i + 1]? then (wordsFrom? name (i + 1) [c] rest).map (word :: ·)
        else wordsFrom? name (i + 1) (word ++ [c]) rest
    else wordsFrom? name (i + 1) (word ++ [c]) rest

section Pieces

variable {name : List Char} {word part : List (Char × Nat)}

theorem beginsWord_iff {prev c : Char} {next : Option Char} :
    beginsWord prev c next = true ↔ IsCut prev c next := by
  simp [beginsWord, IsCut, or_assoc]

theorem goesOn_eq (name : List Char) (prev here : Char × Nat) :
    goesOn name prev here = !beginsWord prev.1 here.1 name[here.2 + 1]? := by
  rw [goesOn, Bool.eq_iff_iff, Bool.not_eq_true', Bool.not_eq_true', decide_eq_false_iff_not,
    ← beginsWord_iff, Bool.not_eq_true]

theorem splitOnP_append {α : Type} {p : α → Bool} {xs : List α} (h : ∀ x ∈ xs, p x = false)
    (ys : List α) : (xs ++ ys).splitOnP p = (ys.splitOnP p).modifyHead (xs ++ ·) := by
  induction xs with
  | nil => exact (congrFun List.modifyHead_id _).symm
  | cons x xs ih =>
    rw [List.forall_mem_cons] at h
    rw [List.cons_append, List.splitOnP_cons_eq_if_modifyHead, if_neg (by simp [h.1]), ih h.2,
      List.modifyHead_modifyHead]
    rfl

/-- A text that goes on all the way is one word. -/
structure IsPiece (name : List Char) (word : List (Char × Nat)) : Prop where
  noSeparator : ∀ p ∈ word, isSeparator p.1 = false
  goesOn : word.IsChain (goesOn name · ·)

theorem IsPiece.singleton {p : Char × Nat} (hp : isSeparator p.1 = false) : IsPiece name [p] :=
  ⟨List.forall_mem_singleton.mpr hp, List.isChain_singleton p⟩

theorem map_piecesOf (h : IsPiece name word) :
    (piecesOf name word).map (·.map (·.1)) = finished (word.map (·.1)) := by
  rw [piecesOf, List.splitOnP_eq_singleton h.noSeparator, List.flatMap_singleton]
  cases word with
  | nil => rfl
  | cons p word =>
    rw [List.splitBy_of_isChain (List.cons_ne_nil p word) h.goesOn]
    rfl

theorem piecesOf_separator {p : Char × Nat} (hp : isSeparator p.1 = true) :
    piecesOf name (word ++ p :: part) = piecesOf name word ++ piecesOf name part := by
  rw [piecesOf, List.splitOnP_append_cons word part hp, List.flatMap_append]
  rfl

theorem piecesOf_cut (h : IsPiece name word) (hne : word ≠ []) {p : Char × Nat}
    (hp : isSeparator p.1 = false) (hcut : ∀ q ∈ word.getLast?, goesOn name q p = false) :
    piecesOf name (word ++ p :: part) = word :: piecesOf name (p :: part) := by
  obtain ⟨run, runs, hruns⟩ := List.exists_cons_of_ne_nil
    (List.splitOnP_ne_nil (isSeparator ·.1) part)
  rw [piecesOf, piecesOf, splitOnP_append h.noSeparator, List.splitOnP_cons_eq_if_modifyHead,
    if_neg (by simp [hp]), hruns]
  simp only [List.modifyHead_cons, List.flatMap_cons]
  rw [List.splitBy_append_cons run hcut, List.splitBy_of_isChain hne h.goesOn]
  rfl

theorem IsPiece.concat (h : IsPiece name word) {p : Char × Nat} (hp : isSeparator p.1 = false)
    (hgoes : ∀ q ∈ word.getLast?, Name.goesOn name q p = true) : IsPiece name (word ++ [p]) where
  noSeparator := List.forall_mem_append.mpr ⟨h.noSeparator, List.forall_mem_singleton.mpr hp⟩
  goesOn := by
    rw [List.isChain_append]
    exact ⟨h.goesOn, List.isChain_singleton p, by simpa using hgoes⟩

end Pieces

section Reading

variable {name before rest : List Char} {c : Char}

theorem getElem?_next (h : name = before ++ c :: rest) : name[before.length + 1]? = rest.head? := by
  rw [h, List.getElem?_append_right (Nat.le_add_right _ 1), Nat.add_sub_cancel_left,
    List.getElem?_cons_succ, List.head?_eq_getElem?]

/-- Reading on leads to the pieces of what is still open and what is still to come. -/
theorem wordsAfter_eq (h : name = before ++ rest) {word : List (Char × Nat)}
    (hword : IsPiece name word) :
    wordsAfter (word.map (·.1)) rest =
      (piecesOf name (word ++ rest.zipIdx before.length)).map (·.map (·.1)) := by
  induction rest generalizing before word with
  | nil => rw [List.zipIdx_nil, List.append_nil, map_piecesOf hword, wordsAfter]
  | cons c rest ih =>
    have hrest : name = (before ++ [c]) ++ rest := by rw [h, List.append_assoc]; rfl
    have hlength : (before ++ [c]).length = before.length + 1 := List.length_append
    have hstep {part : List (Char × Nat)} (hpart : IsPiece name part) :=
      hlength ▸ ih hrest hpart
    rw [List.zipIdx_cons]
    generalize hp : (c, before.length) = p
    have hnext (q : Char × Nat) : beginsWord q.1 c rest.head? = !goesOn name q p := by
      rw [goesOn_eq, ← hp, getElem?_next h, Bool.not_not]
    obtain rfl : c = p.1 := by rw [← hp]
    unfold wordsAfter
    cases hsep : isSeparator p.1 with
    | true =>
      rw [if_pos rfl, piecesOf_separator hsep, List.map_append, map_piecesOf hword]
      exact congrArg _ (hstep ⟨by simp, List.isChain_nil⟩)
    | false =>
      rw [if_neg Bool.false_ne_true, List.getLast?_map, Option.any_map]
      simp only [hnext]
      cases hcut : word.getLast?.any fun q => !goesOn name q p with
      | true =>
        rw [if_pos rfl]
        obtain ⟨q, hq, hgoes⟩ := (Option.any_eq_true _ _).mp hcut
        have hne : word ≠ [] := by rintro rfl; cases hq
        have hstop : ∀ q ∈ word.getLast?, goesOn name q p = false := by simpa [hq] using hgoes
        rw [piecesOf_cut hword hne hsep hstop, List.map_cons]
        exact congrArg _ (hstep (.singleton hsep))
      | false =>
        have hgoes : ∀ q ∈ word.getLast?, goesOn name q p = true := fun q hq => by
          simpa using (Option.any_eq_false _ _).mp hcut q hq
        have hopen := hstep (hword.concat hsep hgoes)
        rwa [List.map_append, List.append_assoc] at hopen

/-- The open word is always the end of what was read, so that the character before is found. -/
theorem charBefore?_of_suffix (h : name = before ++ rest) {word : List Char}
    (hword : word <:+ before) {prev : Char} (hlast : word.getLast? = some prev) :
    charBefore? name before.length = some prev := by
  obtain ⟨start, rfl⟩ := List.getLast?_eq_some_iff.mp hlast
  obtain ⟨earlier, rfl⟩ := hword
  rw [← List.append_assoc] at h ⊢
  rw [h, List.append_assoc, List.length_append]
  simp [charBefore?]

theorem wordsFrom?_eq (h : name = before ++ rest) {word : List Char} (hword : word <:+ before) :
    wordsFrom? name before.length word rest = some (wordsAfter word rest) := by
  induction rest generalizing before word with
  | nil => rfl
  | cons c rest ih =>
    have hrest : name = (before ++ [c]) ++ rest := by rw [h, List.append_assoc]; rfl
    have hlength : (before ++ [c]).length = before.length + 1 := List.length_append
    have hstep {word : List Char} (hword : word <:+ before ++ [c]) := hlength ▸ ih hrest hword
    have hbegun := hstep (List.suffix_append before [c])
    have hlonger := hstep (List.suffix_append_self_iff.mpr hword)
    unfold wordsFrom? wordsAfter
    rw [hstep List.nil_suffix, hbegun, hlonger, getElem?_next h, apply_ite some]
    refine congrArg (ite _ _) ?_
    cases hlast : word.getLast? with
    | none =>
      obtain rfl := List.getLast?_eq_none_iff.mp hlast
      simp
    | some prev =>
      have hne : word.isEmpty = false := by
        rw [List.isEmpty_eq_false_iff]
        rintro rfl
        cases hlast
      rw [charBefore?_of_suffix h hword hlast, hne, Option.any_some, apply_ite some]
      cases hupper : Text.isUpper c with
      | true => rfl
      | false =>
        have hcut : beginsWord prev c rest.head? = false := by
          rw [beginsWord, hupper, Bool.false_and]
        rw [hcut]
        rfl

end Reading

section Words

variable (name : List Char)

theorem wordsFrom?_start : wordsFrom? name 0 [] name = some (words name) :=
  wordsFrom?_eq (List.nil_append name).symm (List.suffix_refl [])

theorem isSeparator_of_mem_words {w : List Char} (hw : w ∈ words name) :
    ∀ c ∈ w, isSeparator c = false := by
  intro c hc
  have hmem : c ∈ (words name).flatten := List.mem_flatten.mpr ⟨w, hw, hc⟩
  rw [flatten_words] at hmem
  simpa using (List.mem_filter.mp hmem).2

/-- Splitting loses separators and nothing else, cuts where words begin and nowhere else, and asks
for no character that the name does not have. -/
theorem words_eq_pieces :
    words name = pieces name ∧
      (∀ w ∈ words name, w ≠ [] ∧ ∀ c ∈ w, isSeparator c = false) ∧
      (words name).flatten = name.filter (!isSeparator ·) ∧
      wordsFrom? name 0 [] name = some (words name) := by
  refine ⟨?_, fun w hw => ⟨ne_nil_of_mem_words hw, isSeparator_of_mem_words name hw⟩,
    flatten_words name, wordsFrom?_start name⟩
  have hempty : IsPiece name [] := ⟨by simp, List.isChain_nil⟩
  exact wordsAfter_eq (List.nil_append name).symm hempty

example : pieces "HTTP2Client$oldIDs".toList =
    ["HTTP2".toList, "Client".toList, "old".toList, "I".toList, "Ds".toList] := by
  decide

end Words

end MockScaffold.Name
