import MockScaffold.Index.Basic
import MockScaffold.Proofs.Scaffold.Plan
import MockScaffold.Proofs.Scaffold.Visibility

namespace MockScaffold

theorem TypeRef.mem_classNames {type : TypeRef} {q : String} (h : type.className? = some q) :
    q ∈ type.classNames := by
  cases type with
  | named q' args =>
    cases h
    rw [classNames]
    exact List.mem_cons_self
  | _ => cases h

namespace Scaffold

open Layout (Namer)
open Seeded (WordStream)

/-- The class that an initializer for a library type names, and what is called of it. -/
def libraryCall? (q : String) : Option (String × String) :=
  if q = Known.uuid then some ("UUID", "randomUUID()")
  else if q = Known.instant then some ("Instant", "now()")
  else if q = Known.zonedDateTime then some ("ZonedDateTime", "now()")
  else none

/-- The class that an initializer for the type names, and the member of it, if it names one. -/
def classMember? (index : ClassIndex) (type : TypeRef) : Option (String × String) :=
  type.className?.bind fun q =>
    match index.find? q .all with
    | some c => if c.isEnum then c.enumConstants.head?.map (c.name, ·) else libraryCall? q
    | none => libraryCall? q

section Initializer

variable {index : ClassIndex} {type : TypeRef} {q name member : String}

theorem classLiteral_of_libraryCall? (h : libraryCall? q = some (name, member))
    (fieldName : String) :
    classLiteral (some q) fieldName = name ++ "." ++ member ∧ name = Name.simpleName q := by
  unfold libraryCall? at h
  split at h
  next hq =>
    cases h
    exact ⟨by rw [hq]; rfl, by rw [hq]; rfl⟩
  split at h
  next hq =>
    cases h
    exact ⟨by rw [hq]; rfl, by rw [hq]; rfl⟩
  split at h
  next hq =>
    cases h
    exact ⟨by rw [hq]; rfl, by rw [hq]; rfl⟩
  cases h

theorem enumLiteral_of_head? {c : ClassDecl} (h : c.enumConstants.head? = some member) :
    enumLiteral c = c.name ++ "." ++ member := by
  obtain ⟨rest, hconstants⟩ := List.head?_eq_some_iff.mp h
  rw [enumLiteral, hconstants]

/-- Either the index knows the class as an enumeration, or it is one of the library's. -/
theorem classMember?_cases (h : classMember? index type = some (name, member)) :
    ∃ q args, type = .named q args ∧
      ((∃ c, index.find? q .all = some c ∧ c.isEnum = true ∧ c.name = name ∧
          c.enumConstants.head? = some member) ∨
        (∀ c, index.find? q .all = some c → c.isEnum = false) ∧
          libraryCall? q = some (name, member)) := by
  obtain ⟨q, hq, hmember⟩ := Option.bind_eq_some_iff.mp h
  cases type with
  | named q' args =>
    cases hq
    refine ⟨q, args, rfl, ?_⟩
    cases hfound : index.find? q .all with
    | none =>
      rw [hfound] at hmember
      exact .inr ⟨fun d hd => absurd hd (by simp), hmember⟩
    | some c =>
      rw [hfound] at hmember
      dsimp only at hmember
      split at hmember
      · rename_i henum
        obtain ⟨constant, hconstant, heq⟩ := Option.map_eq_some_iff.mp hmember
        cases heq
        exact .inl ⟨c, rfl, henum, rfl, hconstant⟩
      · rename_i henum
        refine .inr ⟨fun d hd => ?_, hmember⟩
        cases hd
        exact Bool.eq_false_iff.mpr henum
  | _ => cases hq

theorem initializer_of_classMember? (h : classMember? index type = some (name, member))
    (fieldName : String) (stream : WordStream) :
    (initializer index type fieldName stream).1 = name ++ "." ++ member := by
  obtain ⟨q, args, rfl, ⟨c, hc, henum, rfl, hconstant⟩ | ⟨hother, hlibrary⟩⟩ := classMember?_cases h
  · simp [initializer, ClassIndex.resolve?, TypeRef.className?, hc, henum,
      enumLiteral_of_head? hconstant]
  · obtain ⟨hliteral, -⟩ := classLiteral_of_libraryCall? hlibrary fieldName
    cases hfound : index.find? q .all with
    | none => simp [initializer, ClassIndex.resolve?, TypeRef.className?, hfound, hliteral]
    | some c =>
      simp [initializer, ClassIndex.resolve?, TypeRef.className?, hfound, hother c hfound, hliteral]

theorem classLiteral_of_no_libraryCall (h : libraryCall? q = none) (fieldName : String) :
    classLiteral (some q) fieldName = "null" ∨
      classLiteral (some q) fieldName = "\"" ++ fieldName ++ "\"" := by
  unfold libraryCall? at h
  grind [classLiteral]

theorem initializer_of_no_classMember (h : classMember? index type = none)
    (hprimitive : type.isPrimitive = false) (fieldName : String) (stream : WordStream) :
    (initializer index type fieldName stream).1 = "null" ∨
      (initializer index type fieldName stream).1 = "\"" ++ fieldName ++ "\"" := by
  cases type with
  | primitive p => cases hprimitive
  | void => exact .inl rfl
  | array element => exact .inl rfl
  | named q args =>
    dsimp only [classMember?, TypeRef.className?, Option.bind_some] at h
    dsimp only [initializer, ClassIndex.resolve?, TypeRef.className?, Option.bind_some]
    cases hfound : index.find? q .all with
    | none =>
      rw [hfound] at h
      exact classLiteral_of_no_libraryCall h fieldName
    | some c =>
      rw [hfound] at h
      dsimp only at h ⊢
      cases henum : c.isEnum with
      | true =>
        rw [henum, if_pos rfl, Option.map_eq_none_iff, List.head?_eq_none_iff] at h
        exact .inl (by simp [enumLiteral, h])
      | false =>
        rw [henum, if_neg Bool.false_ne_true] at h
        exact classLiteral_of_no_libraryCall h fieldName

theorem className?_of_classMember?
    (hnames : ∀ q c, index.find? q .all = some c → c.name = Name.simpleName q)
    (h : classMember? index type = some (name, member)) :
    ∃ q, type.className? = some q ∧ name = Name.simpleName q := by
  obtain ⟨q, args, rfl, ⟨c, hc, -, rfl, -⟩ | ⟨-, hlibrary⟩⟩ := classMember?_cases h
  · exact ⟨q, rfl, hnames q c hc⟩
  · exact ⟨q, rfl, (classLiteral_of_libraryCall? hlibrary "").2⟩

end Initializer

section Added

variable {index : ClassIndex} {placement : Placement} {draft : Draft} {vars : List Variable}
  {f : FieldDecl}

/-- What is known of a field that was added: its type's classes were imported as far as that could
be done. -/
theorem exists_declare_of_added
    (hf : f ∈ (draft.insertMissing index placement vars).target.fields.drop
      draft.target.fields.length) :
    ∃ p s, f = (PlannedField.declare index placement s p).1 ∧
      ∀ q ∈ p.type.classNames,
        needsImport index (draft.insertMissing index placement vars).header q = false := by
  rw [Draft.drop_insertMissing] at hf
  rw [Draft.insertMissing_eq]
  obtain ⟨p, hp, s, rfl⟩ := PlannedField.mem_declareAll index placement hf
  refine ⟨p, s, rfl, fun q hq => needsImport_importAll ?_⟩
  exact List.mem_append_left _ (List.mem_flatMap.mpr ⟨p, hp, hq⟩)

theorem initializer_declare {p : PlannedField} {s : WordStream} {text : String}
    (h : (PlannedField.declare index placement s p).1.initializer = some text) :
    text = (initializer index p.type p.name s).1 := by
  unfold PlannedField.declare at h
  split at h
  · cases h
  · exact (Option.some.inj h).symm

end Added

/-- An added constant whose initializer is no literal names the class of its type by the simple
name, in whatever header, and the printer spells the type so if and only if the class can be seen. -/
theorem className_eq_iff_canBeSeen (index : ClassIndex) (placement : Placement) (draft : Draft)
    (vars : List Variable) (declared : List String)
    (hnames : ∀ q c, index.find? q .all = some c → c.name = Name.simpleName q) :
    let filled := draft.insertMissing index placement vars
    let namer : Namer := ⟨filled.header, declared⟩
    ∀ f ∈ filled.target.fields.drop draft.target.fields.length,
      ∀ text, f.initializer = some text →
        (classMember? index f.type = none →
          f.type.isPrimitive = true ∨ text = "null" ∨ text = "\"" ++ f.name ++ "\"") ∧
        ∀ name member, classMember? index f.type = some (name, member) →
          text = name ++ "." ++ member ∧
            ∃ q, f.type.className? = some q ∧
              (namer.className q = name ↔ CanBeSeen index namer q) := by
  intro filled namer f hf text htext
  obtain ⟨p, s, rfl, himports⟩ := exists_declare_of_added hf
  rw [initializer_declare htext, PlannedField.declare_type, PlannedField.declare_name]
  refine ⟨fun hnone => ?_, fun name member hmember => ?_⟩
  · cases hprimitive : p.type.isPrimitive with
    | true => exact .inl rfl
    | false => exact .inr (initializer_of_no_classMember hnone hprimitive p.name s)
  · obtain ⟨q, hq, rfl⟩ := className?_of_classMember? hnames hmember
    refine ⟨initializer_of_classMember? hmember p.name s, q, hq, ?_⟩
    have hneeded : needsImport index namer.header q = false :=
      himports q (TypeRef.mem_classNames hq)
    exact className_eq_simpleName_iff hneeded

def jobDraft : Draft where
  header := { package := some "work" }
  target := { name := "JobTest", qualifiedName := "work.JobTest" }
  taken := []
  stream := .ofSeed 1

def jobVariables : List Variable :=
  [{ name := "order", type := .ofClass "shop.Status" },
    { name := "account", type := .ofClass "bank.Status" }]

/-- The constant for the account, after the other enumeration has been imported. -/
def accountConstant : FieldDecl where
  name := "ACCOUNT"
  type := .ofClass "bank.Status"
  modifiers := { visibility := .privateAccess, isStatic := true, isFinal := true }
  initializer := some "Status.PAID"

theorem accountConstant_mem :
    accountConstant ∈
      (jobDraft.insertMissing statusIndex .topLevel jobVariables).target.fields.drop
        jobDraft.target.fields.length :=
  List.mem_of_getElem? (i := 1) rfl

theorem className_eq_iff_canBeSeen_account :
    let filled := jobDraft.insertMissing statusIndex .topLevel jobVariables
    let namer : Namer := ⟨filled.header, ["work.JobTest"]⟩
    (∀ q c, statusIndex.find? q .all = some c → c.name = Name.simpleName q) ∧
      classMember? statusIndex accountConstant.type = some ("Status", "PAID") ∧
      ∃ q, accountConstant.type.className? = some q ∧
        (namer.className q = "Status" ↔ CanBeSeen statusIndex namer q) := by
  intro filled namer
  have hnames : ∀ q c, statusIndex.find? q .all = some c → c.name = Name.simpleName q := by
    intro q c hc
    have hall : ∀ entry ∈ statusIndex.entries,
        entry.decl.name = Name.simpleName entry.decl.qualifiedName := by decide
    obtain ⟨entry, hentry, rfl⟩ := ClassIndex.mem_of_find? hc
    rw [← ClassIndex.qualifiedName_of_find? hc]
    exact hall entry hentry
  have hmember : classMember? statusIndex accountConstant.type = some ("Status", "PAID") := rfl
  obtain ⟨-, h⟩ := className_eq_iff_canBeSeen statusIndex .topLevel jobDraft jobVariables
    ["work.JobTest"] hnames accountConstant accountConstant_mem "Status.PAID" rfl
  exact ⟨hnames, hmember, (h "Status" "PAID" hmember).2⟩

/-- The type of the constant for the account is spelled `bank.Status`, and `Status` is the other
enumeration. -/
theorem not_forall_className_eq :
    ¬ ∀ (index : ClassIndex) (placement : Placement) (draft : Draft) (vars : List Variable)
        (declared : List String),
        let filled := draft.insertMissing index placement vars
        ∀ f ∈ filled.target.fields.drop draft.target.fields.length, ∀ name member,
          classMember? index f.type = some (name, member) →
            f.initializer = some (name ++ "." ++ member) →
              ∃ q, f.type.className? = some q ∧
                Namer.className ⟨filled.header, declared⟩ q = name := by
  intro hall
  obtain ⟨q, hq, hspelled⟩ := hall statusIndex .topLevel jobDraft jobVariables ["work.JobTest"]
    accountConstant accountConstant_mem "Status" "PAID" rfl rfl
  cases hq
  exact absurd hspelled (by decide)

end Scaffold

end MockScaffold
