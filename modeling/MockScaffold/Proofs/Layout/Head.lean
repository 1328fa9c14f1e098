import Mathlib.Data.List.TakeWhile
import MockScaffold.Layout.Head

namespace MockScaffold.Layout

/-- All types but the superclasses that go without saying. -/
def isShown (type : TypeRef) : Bool :=
  type.className? ∉
    [some "java.lang.Object", some "java.lang.Enum", some "java.lang.Record"]

/-- `extends` before one type and `implements` before the others, each only where it has something
to stand before. -/
def inheritance (namer : Namer) (extended : Option TypeRef) (implemented : List TypeRef) : String :=
  (extended.elim "" fun type => " extends " ++ namer.typeText type) ++
    if implemented.isEmpty then "" else " implements " ++ commaList (implemented.map namer.typeText)

/-- The head of a class that extends and implements what is given. -/
def plainHead (namer : Namer) (c : ClassDecl) (extended : Option TypeRef)
    (implemented : List TypeRef) : String :=
  modifierText c.modifiers ++ "class " ++ c.name ++ inheritance namer extended implemented ++
    " \x7b"

/-- The super types from the first one on that is shown. -/
def fromShown (c : ClassDecl) : List TypeRef :=
  c.superTypes.dropWhile (!isShown ·)

/-- Only the first super type is extended, and all later ones that are shown are implemented. -/
def KeepsSuperclass (namer : Namer) (c : ClassDecl) : Prop :=
  ∃ extended : Option TypeRef, (∀ type ∈ extended, c.superTypes.head? = some type) ∧
    classHead namer c = plainHead namer c extended (c.superTypes.tail.filter isShown)

section Places

theorem isImplicit_eq (type : TypeRef) : isImplicit type = !isShown type := by
  unfold isImplicit isShown
  cases type.className? with
  | none => rfl
  | some name => simp

theorem filter_dropWhile_isShown (types : List TypeRef) :
    (types.dropWhile (!isShown ·)).filter isShown = types.filter isShown := by
  induction types with
  | nil => rfl
  | cons type types ih =>
    rw [List.dropWhile_cons]
    split
    · rename_i hhidden
      rw [ih, List.filter_cons_of_neg (by simpa using hhidden)]
    · rfl

theorem isShown_of_dropWhile {types rest : List TypeRef} {first : TypeRef}
    (h : types.dropWhile (!isShown ·) = first :: rest) : isShown first = true := by
  have hhead := List.head?_dropWhile_not (!isShown ·) types
  rw [h] at hhead
  simpa using hhead

end Places

section Texts

variable (namer : Namer) (c : ClassDecl)

theorem superClause_plain (types : List TypeRef) :
    superClause .plain (types.map namer.typeText) = inheritance namer types.head? types.tail := by
  cases types with
  | nil => rfl
  | cons first rest => simp [superClause, inheritance, String.append_assoc]

/-- The first super type that is shown is extended, and those after it are implemented. -/
theorem classHead_plain (hkind : c.kind = .plain) :
    classHead namer c =
      plainHead namer c (fromShown c).head? ((fromShown c).tail.filter isShown) := by
  have hshown : c.superTypes.filter (!isImplicit ·) = c.superTypes.filter isShown := by
    simp only [isImplicit_eq, Bool.not_not]
  have hclause : superTypeText namer c =
      inheritance namer (fromShown c).head? ((fromShown c).tail.filter isShown) := by
    rw [superTypeText, hkind, hshown, superClause_plain, ← filter_dropWhile_isShown, fromShown]
    cases hdrop : c.superTypes.dropWhile (!isShown ·) with
    | nil => rfl
    | cons first rest =>
      rw [List.filter_cons_of_pos (isShown_of_dropWhile hdrop)]
      rfl
  have hcomponents : recordComponents namer c = "" := by
    rw [recordComponents, hkind]
    rfl
  rw [classHead, plainHead, hclause, hcomponents, hkind, String.append_empty]
  simp only [String.append_assoc]
  rfl

theorem plainHead_inj {extended extended' : Option TypeRef} {types types' : List TypeRef} :
    plainHead namer c extended types = plainHead namer c extended' types' ↔
      inheritance namer extended types = inheritance namer extended' types' := by
  simp [plainHead, String.append_left_inj, String.append_right_inj]

theorem length_commaList_cons_cons (text next : String) (rest : List String) :
    (commaList (text :: next :: rest)).length =
      text.length + 2 + (commaList (next :: rest)).length := by
  rw [commaList, String.intercalate_cons_cons, String.length_append, String.length_append]
  rfl

/-- A type that is implemented behind another cannot be taken for the one that is extended. -/
theorem inheritance_ne (first : TypeRef) (rest : List TypeRef) (other : Option TypeRef) :
    inheritance namer (some first) rest ≠ inheritance namer other (first :: rest) := by
  intro h
  cases other with
  | none =>
    -- The texts differ from the first letter of their first word on.
    have htexts := congrArg String.toList h
    simp [inheritance] at htexts
  | some type =>
    -- The second text has everything that the first one has, and more.
    have hlengths := congrArg String.length h
    have hword : " implements ".length = 12 := rfl
    cases rest with
    | nil =>
      simp [inheritance, commaList] at hlengths
      omega
    | cons next rest =>
      simp [inheritance, length_commaList_cons_cons] at hlengths
      omega

/-- No super type loses its place, unless the first is not shown but another is. -/
theorem keepsSuperclass_iff (hkind : c.kind = .plain) :
    KeepsSuperclass namer c ↔
      (c.superTypes.head?.any (!isShown ·) → ¬c.superTypes.any isShown) := by
  unfold KeepsSuperclass
  rw [classHead_plain namer c hkind, fromShown]
  simp only [plainHead_inj]
  cases htypes : c.superTypes with
  | nil => exact iff_of_true ⟨none, nofun, rfl⟩ nofun
  | cons type types =>
    rw [List.head?_cons, Option.any_some, List.any_cons]
    cases hfirst : isShown type with
    | true =>
      rw [List.dropWhile_cons_of_neg (by simp [hfirst])]
      exact iff_of_true ⟨some type, fun _ h => h, rfl⟩ nofun
    | false =>
      rw [List.dropWhile_cons_of_pos (by simp [hfirst]), List.tail_cons,
        ← filter_dropWhile_isShown types, Bool.false_or]
      cases hdrop : types.dropWhile (!isShown ·) with
      | nil =>
        have hnone := List.dropWhile_eq_nil_iff.mp hdrop
        exact iff_of_true ⟨none, nofun, rfl⟩ fun _ => by simpa using hnone
      | cons next rest =>
        have hnext := isShown_of_dropWhile hdrop
        have hmem : next ∈ types := (List.dropWhile_sublist _).subset (hdrop ▸ List.mem_cons_self)
        rw [List.filter_cons_of_pos hnext]
        apply iff_of_false
        · rintro ⟨extended, -, h⟩
          exact inheritance_ne namer next _ extended h
        · exact fun h => h rfl (List.any_eq_true.mpr ⟨next, hmem, hnext⟩)

/-- A class extends the first of its super types that is shown and implements those after it, so
that a later one takes the place of the superclass if and only if the first super type is not
shown, but another is. -/
theorem classHead_keepsSuperclass_iff (hkind : c.kind = .plain) :
    classHead namer c =
        plainHead namer c (fromShown c).head? ((fromShown c).tail.filter isShown) ∧
      (KeepsSuperclass namer c ↔
        (c.superTypes.head?.any (!isShown ·) → ¬c.superTypes.any isShown)) :=
  ⟨classHead_plain namer c hkind, keepsSuperclass_iff namer c hkind⟩

end Texts

/-- A class whose superclass is given although it goes without saying. -/
def jobClass : ClassDecl where
  name := "Job"
  qualifiedName := "work.Job"
  superTypes := [.ofClass "java.lang.Object", .ofClass "java.lang.Runnable"]

def jobNamer : Namer :=
  .ofFile { name := "Job.java", header := { package := some "work" }, classes := [jobClass] }

/-- Its interface is extended. -/
theorem classHead_keepsSuperclass_iff_job :
    jobClass.kind = .plain ∧ classHead jobNamer jobClass = "class Job extends Runnable \x7b" ∧
      ¬KeepsSuperclass jobNamer jobClass := by
  obtain ⟨hhead, hkeeps⟩ := classHead_keepsSuperclass_iff jobNamer jobClass rfl
  refine ⟨rfl, hhead.trans (by decide), ?_⟩
  rw [hkeeps]
  decide

theorem not_forall_keepsSuperclass :
    ¬∀ (namer : Namer) (c : ClassDecl), c.kind = .plain → KeepsSuperclass namer c := by
  intro hall
  have hkeeps := (keepsSuperclass_iff jobNamer jobClass rfl).mp (hall jobNamer jobClass rfl)
  exact hkeeps (by decide) (by decide)

end MockScaffold.Layout
