import MockScaffold.Proofs.Decl.Validity

namespace MockScaffold.ClassDecl

/-- A class and the class that it is nested in directly. -/
structure Place where
  owner : Option ClassDecl
  decl : ClassDecl

mutual

/-- The class and every class nested in it, owners first. -/
def places (owner : Option ClassDecl) (c : ClassDecl) : List Place :=
  match c with
  | { innerClasses, .. } => ⟨owner, c⟩ :: placesIn (some c) innerClasses

def placesIn (owner : Option ClassDecl) : List ClassDecl → List Place
  | [] => []
  | c :: cs => places owner c ++ placesIn owner cs

end

/-- The names that lead from a class down to one that is nested in it. -/
inductive Reaches : ClassDecl → List String → ClassDecl → Prop
  | self (c : ClassDecl) : Reaches c [] c
  | inner {c d e : ClassDecl} {path : List String} (h : d ∈ c.innerClasses) :
      Reaches d path e → Reaches c (d.name :: path) e

/-- The qualified name is the owner's and one more segment. -/
def IsNestedIn (c owner : ClassDecl) : Prop :=
  c.qualifiedName = owner.qualifiedName ++ "." ++ Name.simpleName c.qualifiedName

namespace Place

structure IsSound (p : Place) : Prop where
  isIdentifier : Name.isIdentifier p.decl.name = true
  simpleName : Name.simpleName p.decl.qualifiedName = p.decl.name
  nested : ∀ owner ∈ p.owner,
    p.decl.qualifiedName = owner.qualifiedName ++ "." ++ p.decl.name

/-- What is wrong with a class where it stands. -/
inductive HasFault : Place → ClassFault → Prop
  | notNested {owner c : ClassDecl} (h : ¬c.IsNestedIn owner) :
      HasFault ⟨some owner, c⟩ (.notNested c.qualifiedName owner.qualifiedName)
  | notAnIdentifier {p : Place} (hnested : ∀ owner ∈ p.owner, p.decl.IsNestedIn owner)
      (h : Name.isIdentifier p.decl.name = false) :
      HasFault p (.notAnIdentifier p.decl.qualifiedName p.decl.name)
  | otherSimpleName {p : Place} (hnested : ∀ owner ∈ p.owner, p.decl.IsNestedIn owner)
      (hname : Name.isIdentifier p.decl.name = true)
      (h : Name.simpleName p.decl.qualifiedName ≠ p.decl.name) :
      HasFault p (.otherSimpleName p.decl.qualifiedName p.decl.name)

def fault? (p : Place) : Option ClassFault :=
  (p.owner.bind (nestingFault? · p.decl)).or p.decl.nameFault?

end Place

/-- The fault of the first class that is not sound. -/
def IsFirstFault (places : List Place) (fault : ClassFault) : Prop :=
  ∃ before p after, places = before ++ p :: after ∧ (∀ q ∈ before, q.IsSound) ∧ p.HasFault fault

theorem nestingFault?_eq_none_iff_isNestedIn {owner c : ClassDecl} :
    nestingFault? owner c = none ↔ c.IsNestedIn owner := by
  rw [nestingFault?_eq_none_iff, Name.qualifier?_eq_some_iff]
  exact .rfl

theorem nestingFault?_of_not_nested {owner c : ClassDecl} (h : ¬c.IsNestedIn owner) :
    nestingFault? owner c = some (.notNested c.qualifiedName owner.qualifiedName) := by
  rw [← nestingFault?_eq_none_iff_isNestedIn, nestingFault?_eq_none_iff] at h
  exact if_neg (fun heq => h (eq_of_beq heq))

namespace Place

variable {p : Place} {f : ClassFault}

theorem isSound_iff : p.IsSound ↔ p.fault? = none := by
  obtain ⟨owner, c⟩ := p
  rw [fault?, Option.or_eq_none_iff, nameFault?_eq_none_iff]
  constructor
  · rintro ⟨hidentifier, hsimple, hnested⟩
    refine ⟨?_, hidentifier, hsimple⟩
    cases owner with
    | none => rfl
    | some owner =>
      refine nestingFault?_eq_none_iff_isNestedIn.mpr ?_
      rw [IsNestedIn, hsimple]
      exact hnested owner rfl
  · rintro ⟨hnesting, hidentifier, hsimple⟩
    refine ⟨hidentifier, hsimple, ?_⟩
    rintro _ ⟨⟩
    have hnested := nestingFault?_eq_none_iff_isNestedIn.mp hnesting
    rwa [IsNestedIn, hsimple] at hnested

theorem fault?_of_nested (hnested : ∀ owner ∈ p.owner, p.decl.IsNestedIn owner) :
    p.fault? = p.decl.nameFault? := by
  obtain ⟨owner, c⟩ := p
  cases owner with
  | none => rfl
  | some owner =>
    have hnesting := nestingFault?_eq_none_iff_isNestedIn.mpr (hnested owner rfl)
    rw [fault?, Option.bind_some, hnesting, Option.none_or]

theorem hasFault_iff : p.HasFault f ↔ p.fault? = some f := by
  constructor
  · intro h
    cases h with
    | notNested h => rw [fault?, Option.bind_some, nestingFault?_of_not_nested h, Option.some_or]
    | notAnIdentifier hnested h =>
      rw [fault?_of_nested hnested]
      simp [nameFault?, h]
    | otherSimpleName hnested hname h =>
      rw [fault?_of_nested hnested]
      simp [nameFault?, hname, h]
  · intro h
    by_cases hnested : ∀ owner ∈ p.owner, p.decl.IsNestedIn owner
    · rw [fault?_of_nested hnested, nameFault?] at h
      split at h
      · rename_i hname
        cases h
        exact .notAnIdentifier hnested (by simpa using hname)
      · rename_i hname
        split at h
        · rename_i hsimple
          cases h
          exact .otherSimpleName hnested (by simpa using hname) (bne_iff_ne.mp hsimple)
        · cases h
    · obtain ⟨owner, c⟩ := p
      simp only [Classical.not_forall] at hnested
      obtain ⟨owner', ⟨⟩, hnested⟩ := hnested
      rw [fault?, Option.bind_some, nestingFault?_of_not_nested hnested] at h
      cases h
      exact .notNested hnested

end Place

theorem isFirstFault_iff {ps : List Place} {f : ClassFault} :
    IsFirstFault ps f ↔ ps.findSome? (·.fault?) = some f := by
  rw [List.findSome?_eq_some_iff]
  simp only [IsFirstFault, Place.isSound_iff, Place.hasFault_iff, and_comm]

theorem places_eq (owner : Option ClassDecl) (c : ClassDecl) :
    places owner c = ⟨owner, c⟩ :: placesIn (some c) c.innerClasses := by
  cases c
  rw [places]

theorem fault?_eq (c : ClassDecl) : c.fault? = c.nameFault?.or (nestedFault? c c.innerClasses) := by
  cases c
  rw [fault?]

theorem findSome?_cons_eq_or (p : Place) (ps : List Place) :
    (p :: ps).findSome? (·.fault?) = p.fault?.or (ps.findSome? (·.fault?)) := by
  rw [List.findSome?_cons]
  cases p.fault? <;> rfl

mutual

theorem findSome?_places (owner : Option ClassDecl) : ∀ c : ClassDecl,
    (places owner c).findSome? (·.fault?) = (owner.bind (nestingFault? · c)).or c.fault?
  | { innerClasses, .. } => by
    rw [places_eq, findSome?_cons_eq_or, findSome?_placesIn _ innerClasses, Place.fault?, fault?_eq,
      Option.or_assoc]

theorem findSome?_placesIn (owner : ClassDecl) : ∀ cs : List ClassDecl,
    (placesIn (some owner) cs).findSome? (·.fault?) = nestedFault? owner cs
  | [] => rfl
  | c :: cs => by
    rw [placesIn, List.findSome?_append, findSome?_places _ c, findSome?_placesIn owner cs,
      nestedFault?, Option.or_assoc]
    rfl

end

theorem firstFault?_eq_findSome? (cs : List ClassDecl) :
    firstFault? cs = (placesIn none cs).findSome? (·.fault?) := by
  induction cs with
  | nil => rfl
  | cons c cs ih =>
    rw [placesIn, List.findSome?_append, findSome?_places, ← ih, firstFault?, List.findSome?_cons]
    cases c.fault? <;> rfl

theorem placesIn_append (owner : Option ClassDecl) (cs ds : List ClassDecl) :
    placesIn owner (cs ++ ds) = placesIn owner cs ++ placesIn owner ds := by
  induction cs with
  | nil => rfl
  | cons c cs ih => rw [List.cons_append, placesIn, placesIn, ih, List.append_assoc]

theorem fault?_eq_none_iff_sound {c : ClassDecl} :
    c.fault? = none ↔ ∀ p ∈ places none c, p.IsSound := by
  have hsearch := findSome?_places none c
  rw [Option.bind_none, Option.none_or] at hsearch
  rw [← hsearch, List.findSome?_eq_none_iff]
  simp only [Place.isSound_iff]

theorem fault?_eq_some_iff {c : ClassDecl} {f : ClassFault} :
    c.fault? = some f ↔ IsFirstFault (places none c) f := by
  rw [isFirstFault_iff, findSome?_places]
  rfl

theorem firstFault?_eq_some_iff {cs : List ClassDecl} {f : ClassFault} :
    firstFault? cs = some f ↔ IsFirstFault (placesIn none cs) f := by
  rw [isFirstFault_iff, firstFault?_eq_findSome?]

/-- In a valid tree the path to a class can be read off its name. -/
theorem qualifiedName_of_reaches {c d : ClassDecl} {path : List String} (h : c.fault? = none)
    (hd : c.Reaches path d) :
    d.qualifiedName = path.foldl (fun owner name => owner ++ "." ++ name) c.qualifiedName := by
  induction hd with
  | self => rfl
  | inner hmem _ ih =>
    obtain ⟨hnesting, hvalid⟩ := (fault?_eq_none_iff.mp h).2 _ hmem
    rw [ih hvalid, List.foldl_cons,
      (eq_append_of_nestingFault? (fault?_eq_none_iff.mp hvalid).1 hnesting).2]

end MockScaffold.ClassDecl
