import MockScaffold.Json.Printer
import MockScaffold.Json.Quoted
import MockScaffold.Proofs.Json.Depth

namespace MockScaffold.Json

theorem hexValue?_control : ∀ n < 0x20,
    hexValue? ['0', '0', hexChar (n / 16), hexChar (n % 16)] = some n := by
  decide

theorem unlessOpen_none (tail : Option (List Char) × List Char) : unlessOpen none tail = tail :=
  rfl

theorem unquoteAfter?_control {c : Char} (hc : c.toNat < 0x20) (tail : List Char) :
    unquoteAfter? none
        ('\\' :: 'u' :: '0' :: '0' :: hexChar (c.toNat / 16) :: hexChar (c.toNat % 16) :: tail) =
      (unquoteAfter? none tail).map (prepend c) := by
  have hhigh : isHighSurrogate c.toNat = false := by
    simp only [isHighSurrogate, Bool.and_eq_false_iff, decide_eq_false_iff_not]
    omega
  have hlow : isLowSurrogate c.toNat = false := by
    simp only [isLowSurrogate, Bool.and_eq_false_iff, decide_eq_false_iff_not]
    omega
  rw [unquoteAfter?]
  simp only [hexValue?_control c.toNat hc, hhigh, hlow, Bool.false_eq_true, if_false,
    unlessOpen_none, Char.ofNat_toNat]

theorem unquoteAfter?_plain {c : Char} (hquote : c ≠ '"') (hslash : c ≠ '\\')
    (hc : ¬c.toNat < 0x20) (tail : List Char) :
    unquoteAfter? none (c :: tail) = (unquoteAfter? none tail).map (prepend c) := by
  rw [unquoteAfter?]
  · simp only [hc, if_false, unlessOpen_none]
  all_goals grind

theorem unquoteAfter?_escape (c : Char) (tail : List Char) :
    unquoteAfter? none (escape c ++ tail) = (unquoteAfter? none tail).map (prepend c) := by
  unfold escape
  split
  case h_8 hquote hslash _ _ _ _ _ =>
    split
    · rename_i hc
      exact unquoteAfter?_control hc tail
    · rename_i hc
      exact unquoteAfter?_plain hquote hslash hc tail
  all_goals rfl

theorem unquote?_flatMap_escape (cs rest : List Char) :
    unquote? (cs.flatMap escape ++ '"' :: rest) = some (some cs, rest) := by
  unfold unquote?
  induction cs with
  | nil => rfl
  | cons c cs ih =>
    rw [List.flatMap_cons, List.append_assoc, unquoteAfter?_escape, ih]
    rfl

theorem toList_quote (text : String) :
    (quote text).toList = '"' :: (text.toList.flatMap escape ++ ['"']) :=
  String.toList_ofList

section Space

theorem skipSpace_append {space : List Char} (h : ∀ c ∈ space, isSpace c = true)
    (cs : List Char) : skipSpace (space ++ cs) = skipSpace cs :=
  List.dropWhile_append_of_pos h

theorem skipSpace_of_not_space {c : Char} (h : isSpace c = false) (cs : List Char) :
    skipSpace (c :: cs) = c :: cs := by
  rw [skipSpace, List.dropWhile_cons, h]
  rfl

theorem toList_newline (depth : Nat) :
    (newline depth).toList = '\n' :: List.replicate (2 * depth) ' ' := by
  simp [newline]

theorem skipSpace_newline (depth : Nat) (cs : List Char) :
    skipSpace ((newline depth).toList ++ cs) = skipSpace cs := by
  apply skipSpace_append
  intro c hc
  rw [toList_newline] at hc
  rcases List.mem_cons.mp hc with rfl | hc
  · rfl
  · rw [List.eq_of_mem_replicate hc]
    rfl

theorem readValue?_newline (fuel levels depth : Nat) (cs : List Char) :
    readValue? fuel levels ((newline depth).toList ++ cs) = readValue? fuel levels cs := by
  cases fuel with
  | zero => rfl
  | succ fuel => simp only [readValue?, skipSpace_newline]

end Space

/-- The characters that a printed value may begin with. -/
def openings : List Char :=
  ['"', '[', '\x7b', 'n', 't', 'f']

theorem toList_null (depth : Nat) : (prettyAt depth .null).toList = ['n', 'u', 'l', 'l'] := by
  simp [prettyAt]

theorem toList_true (depth : Nat) :
    (prettyAt depth (.bool true)).toList = ['t', 'r', 'u', 'e'] := by
  simp [prettyAt]

theorem toList_false (depth : Nat) :
    (prettyAt depth (.bool false)).toList = ['f', 'a', 'l', 's', 'e'] := by
  simp [prettyAt]

theorem toList_array_nil (depth : Nat) : (prettyAt depth (.array [])).toList = ['[', ']'] := by
  simp [prettyAt, prettyAll, block]

theorem toList_object_nil (depth : Nat) :
    (prettyAt depth (.object [])).toList = ['\x7b', '\x7d'] := by
  simp [prettyAt, prettyMembers, block]

/-- The entries of a container with the separators between them. -/
def joined (depth : Nat) (entries : List String) : List Char :=
  (("," ++ newline depth).intercalate entries).toList

theorem joined_singleton (depth : Nat) (entry : String) :
    joined depth [entry] = entry.toList := by
  rw [joined, String.intercalate_singleton]

theorem joined_cons_cons (depth : Nat) (entry entry' : String) (entries : List String) :
    joined depth (entry :: entry' :: entries) =
      entry.toList ++ ',' :: ((newline depth).toList ++ joined depth (entry' :: entries)) := by
  rw [joined, String.intercalate_cons_cons]
  simp [joined]

theorem toList_array_cons (depth : Nat) (j : Json) (js : List Json) :
    (prettyAt depth (.array (j :: js))).toList =
      '[' :: ((newline (depth + 1)).toList ++
        (joined (depth + 1) (prettyAll (depth + 1) (j :: js)) ++
          ((newline depth).toList ++ [']']))) := by
  simp [prettyAt, prettyAll, block, joined]

theorem toList_object_cons (depth : Nat) (member : String × Json)
    (members : List (String × Json)) :
    (prettyAt depth (.object (member :: members))).toList =
      '\x7b' :: ((newline (depth + 1)).toList ++
        (joined (depth + 1) (prettyMembers (depth + 1) (member :: members)) ++
          ((newline depth).toList ++ ['\x7d']))) := by
  simp [prettyAt, prettyMembers, block, joined]

theorem head_prettyAt (depth : Nat) {j : Json} (h : j.isTextual = true) :
    ∃ c ∈ openings, ∃ cs, (prettyAt depth j).toList = c :: cs := by
  match j, h with
  | .null, _ => exact ⟨'n', by decide, _, toList_null depth⟩
  | .bool true, _ => exact ⟨'t', by decide, _, toList_true depth⟩
  | .bool false, _ => exact ⟨'f', by decide, _, toList_false depth⟩
  | .string text, _ =>
    refine ⟨'"', by decide, text.toList.flatMap escape ++ ['"'], ?_⟩
    rw [prettyAt]
    exact toList_quote text
  | .array [], _ => exact ⟨'[', by decide, _, toList_array_nil depth⟩
  | .array (j :: js), _ => exact ⟨'[', by decide, _, toList_array_cons depth j js⟩
  | .object [], _ => exact ⟨'\x7b', by decide, _, toList_object_nil depth⟩
  | .object (member :: members), _ =>
    exact ⟨'\x7b', by decide, _, toList_object_cons depth member members⟩

theorem readValue?_string (fuel levels : Nat) (text : String) (rest : List Char) :
    readValue? (fuel + 1) levels ((quote text).toList ++ rest) = some (.string text, rest) := by
  rw [toList_quote, readValue?]
  simp only [List.cons_append, List.append_assoc, List.nil_append]
  rw [skipSpace_of_not_space (by decide)]
  simp only [unquote?_flatMap_escape, Option.map_some, String.ofList_toList, Option.getD_some]

theorem readValue?_array (fuel levels : Nat) {cs inside : List Char} {c : Char}
    (h : skipSpace cs = c :: inside) (hc : c ∈ openings) :
    readValue? (fuel + 1) levels ('[' :: cs) =
      (readItems? fuel (levels - 1) (c :: inside)).map fun (items, after) =>
        (held levels (.array items), after) := by
  rw [readValue?, skipSpace_of_not_space (by decide)]
  simp only [h]
  split
  · rename_i heq
    cases heq
    exact absurd hc (by decide)
  · rfl

theorem readValue?_object (fuel levels : Nat) {cs inside : List Char} {c : Char}
    (h : skipSpace cs = c :: inside) (hc : c ∈ openings) :
    readValue? (fuel + 1) levels ('\x7b' :: cs) =
      (readMembers? fuel (levels - 1) (c :: inside)).map fun (members, after) =>
        (held levels (ofMembers members), after) := by
  rw [readValue?, skipSpace_of_not_space (by decide)]
  simp only [h]
  split
  · rename_i heq
    cases heq
    exact absurd hc (by decide)
  · rfl

theorem skipSpace_of_opening {c : Char} (hc : c ∈ openings) (cs : List Char) :
    skipSpace (c :: cs) = c :: cs := by
  have hall : openings.all (!isSpace ·) = true := by decide
  have hspace := List.all_eq_true.mp hall c hc
  exact skipSpace_of_not_space ((Bool.not_eq_true' _).mp hspace) cs

theorem head_joined_all (depth : Nat) {j : Json} (js : List Json) (h : j.isTextual = true) :
    ∃ c ∈ openings, ∃ cs, joined depth (prettyAll depth (j :: js)) = c :: cs := by
  obtain ⟨c, hc, cs, hcs⟩ := head_prettyAt depth h
  rw [prettyAll]
  cases js with
  | nil => exact ⟨c, hc, cs, by rw [prettyAll, joined_singleton, hcs]⟩
  | cons j' js => exact ⟨c, hc, _, by rw [prettyAll, joined_cons_cons, hcs, List.cons_append]⟩

theorem ofMembers_of_known (members : List (String × Json)) :
    ofMembers (members.map fun member => (some member.1, member.2)) = .object members := by
  have hmap : (members.map fun member => (some member.1, member.2)).mapM
      (fun member => member.1.map (·, member.2)) = some members := by
    induction members with
    | nil => rfl
    | cons member members ih => simp [ih]
  unfold ofMembers
  split
  · rename_i known hknown
    have hsome : some known = some members := hknown.symm.trans hmap
    rw [Option.some.inj hsome]
  · rename_i hnone
    have hsome : none = some members := hnone.symm.trans hmap
    cases hsome

theorem toList_member (key : String) (depth : Nat) (j : Json) :
    (quote key ++ ": " ++ prettyAt depth j).toList =
      (quote key).toList ++ ':' :: ' ' :: (prettyAt depth j).toList := by
  simp

theorem head_joined_members (depth : Nat) (member : String × Json)
    (members : List (String × Json)) :
    ∃ cs, joined depth (prettyMembers depth (member :: members)) = '"' :: cs := by
  rw [prettyMembers]
  cases members with
  | nil =>
    rw [prettyMembers, joined_singleton, toList_member, toList_quote]
    exact ⟨_, rfl⟩
  | cons member' members =>
    rw [prettyMembers, joined_cons_cons, toList_member, toList_quote]
    exact ⟨_, rfl⟩

theorem readItems?_last {fuel levels : Nat} {cs rest : List Char} {j : Json} (outer : Nat)
    (h : readValue? fuel levels cs = some (j, (newline outer).toList ++ ']' :: rest)) :
    readItems? (fuel + 1) levels cs = some ([j], rest) := by
  rw [readItems?]
  simp only [h, skipSpace_newline, skipSpace_of_not_space (show isSpace ']' = false by decide)]

theorem readItems?_more {fuel levels : Nat} {cs more : List Char} {j : Json}
    (h : readValue? fuel levels cs = some (j, ',' :: more)) :
    readItems? (fuel + 1) levels cs =
      (readItems? fuel levels more).map fun (items, after) => (j :: items, after) := by
  rw [readItems?]
  simp only [h, skipSpace_of_not_space (show isSpace ',' = false by decide)]

theorem readItems?_newline (fuel levels depth : Nat) (cs : List Char) :
    readItems? fuel levels ((newline depth).toList ++ cs) = readItems? fuel levels cs := by
  cases fuel with
  | zero => rfl
  | succ fuel => simp only [readItems?, readValue?_newline]

section Scalars

variable (fuel levels : Nat) (rest : List Char)

theorem readValue?_null :
    readValue? (fuel + 1) levels ('n' :: 'u' :: 'l' :: 'l' :: rest) = some (.null, rest) :=
  rfl

theorem readValue?_true :
    readValue? (fuel + 1) levels ('t' :: 'r' :: 'u' :: 'e' :: rest) = some (.bool true, rest) :=
  rfl

theorem readValue?_false :
    readValue? (fuel + 1) levels ('f' :: 'a' :: 'l' :: 's' :: 'e' :: rest) =
      some (.bool false, rest) :=
  rfl

theorem readValue?_array_nil :
    readValue? (fuel + 1) levels ('[' :: ']' :: rest) = some (held levels (.array []), rest) :=
  rfl

theorem readValue?_object_nil :
    readValue? (fuel + 1) levels ('\x7b' :: '\x7d' :: rest) =
      some (held levels (.object []), rest) :=
  rfl

end Scalars

theorem readValue?_blank (fuel levels : Nat) (cs : List Char) :
    readValue? fuel levels (' ' :: cs) = readValue? fuel levels cs := by
  have hspace : skipSpace (' ' :: cs) = skipSpace cs := rfl
  cases fuel with
  | zero => rfl
  | succ fuel => simp only [readValue?, hspace]

theorem readMembers?_last {fuel levels : Nat} {cs rest : List Char} {j : Json} (outer : Nat)
    (key : String)
    (h : readValue? fuel levels cs = some (j, (newline outer).toList ++ '\x7d' :: rest)) :
    readMembers? (fuel + 1) levels ((quote key).toList ++ ':' :: ' ' :: cs) =
      some ([(some key, j)], rest) := by
  rw [toList_quote, readMembers?]
  simp only [List.cons_append, List.append_assoc, List.nil_append]
  rw [skipSpace_of_opening (by decide)]
  simp only [unquote?_flatMap_escape, skipSpace_of_not_space (show isSpace ':' = false by decide),
    readValue?_blank, h, skipSpace_newline,
    skipSpace_of_not_space (show isSpace '\x7d' = false by decide), Option.map_some,
    String.ofList_toList]

theorem readMembers?_more {fuel levels : Nat} {cs more : List Char} {j : Json} (key : String)
    (h : readValue? fuel levels cs = some (j, ',' :: more)) :
    readMembers? (fuel + 1) levels ((quote key).toList ++ ':' :: ' ' :: cs) =
      (readMembers? fuel levels more).map fun (members, after) =>
        ((some key, j) :: members, after) := by
  rw [toList_quote, readMembers?]
  simp only [List.cons_append, List.append_assoc, List.nil_append]
  rw [skipSpace_of_opening (by decide)]
  simp only [unquote?_flatMap_escape, skipSpace_of_not_space (show isSpace ':' = false by decide),
    readValue?_blank, h, skipSpace_of_not_space (show isSpace ',' = false by decide),
    Option.map_some, String.ofList_toList]

theorem readMembers?_newline (fuel levels depth : Nat) (cs : List Char) :
    readMembers? fuel levels ((newline depth).toList ++ cs) = readMembers? fuel levels cs := by
  cases fuel with
  | zero => rfl
  | succ fuel => simp only [readMembers?, skipSpace_newline]

theorem succ_fuel {j : Json} (depth fuel : Nat) (h : j.isTextual = true)
    (hfuel : 2 * (prettyAt depth j).toList.length ≤ fuel) : ∃ f, fuel = f + 1 := by
  obtain ⟨c, -, cs, hcs⟩ := head_prettyAt depth h
  rw [hcs, List.length_cons] at hfuel
  exact ⟨fuel - 1, by omega⟩

-- A value costs one unit of fuel and each entry of a container one more, so that two units for a
-- character are always enough. What follows the value is left as it is.
mutual

theorem readValue?_prettyAt : ∀ (j : Json) (depth fuel levels : Nat) (rest : List Char),
    j.isTextual = true → 2 * (prettyAt depth j).toList.length ≤ fuel + 1 →
      readValue? (fuel + 1) levels ((prettyAt depth j).toList ++ rest) = some (j.cut levels, rest)
  | .null => by
    intro depth fuel levels rest _ _
    rw [toList_null]
    exact readValue?_null fuel levels rest
  | .bool true => by
    intro depth fuel levels rest _ _
    rw [toList_true]
    exact readValue?_true fuel levels rest
  | .bool false => by
    intro depth fuel levels rest _ _
    rw [toList_false]
    exact readValue?_false fuel levels rest
  | .string text => by
    intro depth fuel levels rest _ _
    rw [prettyAt]
    exact readValue?_string fuel levels text rest
  | .array [] => by
    intro depth fuel levels rest _ _
    rw [toList_array_nil]
    exact readValue?_array_nil fuel levels rest
  | .array (j :: js) => by
    intro depth fuel levels rest h hfuel
    rw [isTextual] at h
    obtain ⟨c, hc, cs, hcs⟩ := head_joined_all (depth + 1) js (Bool.and_eq_true_iff.mp h).1
    rw [toList_array_cons] at hfuel
    simp only [List.length_cons, List.length_append] at hfuel
    obtain ⟨fuel, rfl⟩ : ∃ f, fuel = f + 1 := ⟨fuel - 1, by omega⟩
    have hitems := readItems?_prettyAll (j :: js) (depth + 1) fuel (levels - 1) depth rest
      (List.cons_ne_nil j js) h (by omega)
    have hopen : skipSpace ((newline (depth + 1)).toList ++
        (joined (depth + 1) (prettyAll (depth + 1) (j :: js)) ++
          ((newline depth).toList ++ ']' :: rest))) =
        c :: (cs ++ ((newline depth).toList ++ ']' :: rest)) := by
      rw [skipSpace_newline, hcs, List.cons_append, skipSpace_of_opening hc]
    rw [hcs, List.cons_append] at hitems
    rw [toList_array_cons]
    simp only [List.cons_append, List.append_assoc, List.nil_append]
    rw [readValue?_array _ _ hopen hc, hitems]
    rfl
  | .object [] => by
    intro depth fuel levels rest _ _
    rw [toList_object_nil]
    exact readValue?_object_nil fuel levels rest
  | .object (member :: members) => by
    intro depth fuel levels rest h hfuel
    rw [isTextual] at h
    obtain ⟨cs, hcs⟩ := head_joined_members (depth + 1) member members
    rw [toList_object_cons] at hfuel
    simp only [List.length_cons, List.length_append] at hfuel
    obtain ⟨fuel, rfl⟩ : ∃ f, fuel = f + 1 := ⟨fuel - 1, by omega⟩
    have hmembers := readMembers?_prettyMembers (member :: members) (depth + 1) fuel (levels - 1)
      depth rest (List.cons_ne_nil member members) h (by omega)
    have hopen : skipSpace ((newline (depth + 1)).toList ++
        (joined (depth + 1) (prettyMembers (depth + 1) (member :: members)) ++
          ((newline depth).toList ++ '\x7d' :: rest))) =
        '"' :: (cs ++ ((newline depth).toList ++ '\x7d' :: rest)) := by
      rw [skipSpace_newline, hcs, List.cons_append, skipSpace_of_opening (by decide)]
    rw [hcs, List.cons_append] at hmembers
    rw [toList_object_cons]
    simp only [List.cons_append, List.append_assoc, List.nil_append]
    rw [readValue?_object _ _ hopen (by decide), hmembers]
    simp only [Option.map_some, ofMembers_of_known, cut]
  | .number _ => by
    intro depth fuel levels rest h
    cases h
  | .unreadable => by
    intro depth fuel levels rest h
    cases h

theorem readItems?_prettyAll : ∀ (items : List Json) (depth fuel levels outer : Nat)
    (rest : List Char), items ≠ [] → allTextual items = true →
    2 * (joined depth (prettyAll depth items)).length ≤ fuel →
      readItems? (fuel + 1) levels
          (joined depth (prettyAll depth items) ++ ((newline outer).toList ++ (']' :: rest))) =
        some (cutAll levels items, rest)
  | [] => by
    intro depth fuel levels outer rest hne
    exact absurd rfl hne
  | [j] => by
    intro depth fuel levels outer rest _ h hfuel
    have hj : j.isTextual = true := (Bool.and_eq_true_iff.mp h).1
    rw [prettyAll, prettyAll, joined_singleton] at hfuel ⊢
    obtain ⟨fuel, rfl⟩ := succ_fuel depth fuel hj hfuel
    exact readItems?_last outer (readValue?_prettyAt j depth fuel levels _ hj hfuel)
  | j :: j' :: js => by
    intro depth fuel levels outer rest _ h hfuel
    obtain ⟨hj, hjs⟩ := Bool.and_eq_true_iff.mp h
    rw [prettyAll, prettyAll, joined_cons_cons, ← prettyAll] at hfuel ⊢
    simp only [List.length_cons, List.length_append] at hfuel
    obtain ⟨fuel, rfl⟩ := succ_fuel depth fuel hj (by omega)
    simp only [List.append_assoc, List.cons_append]
    rw [readItems?_more (readValue?_prettyAt j depth fuel levels _ hj (by omega)),
      readItems?_newline, readItems?_prettyAll (j' :: js) depth fuel levels outer rest
        (List.cons_ne_nil j' js) hjs (by omega)]
    rfl

theorem readMembers?_prettyMembers : ∀ (members : List (String × Json))
    (depth fuel levels outer : Nat) (rest : List Char), members ≠ [] →
    allMembersTextual members = true →
    2 * (joined depth (prettyMembers depth members)).length ≤ fuel →
      readMembers? (fuel + 1) levels
          (joined depth (prettyMembers depth members) ++
            ((newline outer).toList ++ ('\x7d' :: rest))) =
        some ((cutMembers levels members).map fun member => (some member.1, member.2), rest)
  | [] => by
    intro depth fuel levels outer rest hne
    exact absurd rfl hne
  | [(key, j)] => by
    intro depth fuel levels outer rest _ h hfuel
    have hj : j.isTextual = true := (Bool.and_eq_true_iff.mp h).1
    rw [prettyMembers, prettyMembers, joined_singleton, toList_member] at hfuel ⊢
    simp only [List.length_cons, List.length_append] at hfuel
    obtain ⟨fuel, rfl⟩ := succ_fuel depth fuel hj (by omega)
    simp only [List.append_assoc, List.cons_append]
    exact readMembers?_last outer key (readValue?_prettyAt j depth fuel levels _ hj (by omega))
  | (key, j) :: (key', j') :: members => by
    intro depth fuel levels outer rest _ h hfuel
    obtain ⟨hj, hmembers⟩ := Bool.and_eq_true_iff.mp h
    rw [prettyMembers, prettyMembers, joined_cons_cons, ← prettyMembers, toList_member]
      at hfuel ⊢
    simp only [List.length_cons, List.length_append] at hfuel
    obtain ⟨fuel, rfl⟩ := succ_fuel depth fuel hj (by omega)
    simp only [List.append_assoc, List.cons_append]
    rw [readMembers?_more key (readValue?_prettyAt j depth fuel levels _ hj (by omega)),
      readMembers?_newline,
      readMembers?_prettyMembers ((key', j') :: members) depth fuel levels outer rest
        (List.cons_ne_nil _ members) hmembers (by omega)]
    rfl

end

/-- Reading a printed value gives the value back, as far as its depth can be held. -/
theorem parse?_prettyAt (depth : Nat) {j : Json} (h : j.isTextual = true) :
    parse? (prettyAt depth j) = some (j.cut deepest) := by
  have hread := readValue?_prettyAt j depth (2 * (prettyAt depth j).toList.length) deepest [] h
    (by omega)
  rw [List.append_nil] at hread
  simp only [parse?, hread]
  rfl

end MockScaffold.Json
