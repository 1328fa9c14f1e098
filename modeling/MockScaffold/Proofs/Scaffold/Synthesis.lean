import Mathlib.Data.List.Induction
import MockScaffold.Proofs.Decl.Numbers
import MockScaffold.Proofs.Scaffold.Plan

namespace MockScaffold

namespace FieldDecl

def withoutInitializer (f : FieldDecl) : FieldDecl :=
  { f with initializer := none }

/-- What a field of a numeric type starts with. -/
def number? (f : FieldDecl) : Option String :=
  if f.type.primitive?.any (·.isNumeric) then f.initializer else none

end FieldDecl

namespace Scaffold

open Seeded (WordStream)
open PlannedField (declareAll)

/-- The entries whose name is not in `taken` and does not occur earlier in the plan. -/
def admitted (taken : List String) (ps : List PlannedField) : List PlannedField :=
  let admits (entry : PlannedField × Nat) : Bool :=
    entry.1.name ∉ taken ∧ entry.1.name ∉ (ps.take entry.2).map (·.name)
  (ps.zipIdx.filter admits).map (·.1)

section Admitted

variable (taken : List String) (ps : List PlannedField) (p : PlannedField)

theorem admitted_concat :
    admitted taken (ps ++ [p]) = admitted taken ps ++
      if p.name ∈ taken ∨ p.name ∈ ps.map (·.name) then [] else [p] := by
  dsimp only [admitted]
  rw [List.zipIdx_append, List.filter_append, List.map_append]
  congr 1
  · congr 1
    -- the entries before an old one are the same as in the shorter plan
    refine List.filter_congr fun entry hentry => ?_
    have hi : entry.2 < 0 + ps.length := (List.mem_zipIdx hentry).2.1
    rw [List.take_append_of_le_length (by omega)]
  · by_cases htaken : p.name ∈ taken
    · simp [htaken]
    · by_cases hearlier : p.name ∈ ps.map (·.name) <;> simp [htaken, hearlier]

theorem fresh_eq_admitted : fresh taken ps = admitted taken ps := by
  induction ps using List.reverseRecOn with
  | nil => rfl
  | append_singleton ps p ih =>
    rw [admitted_concat, ← ih]
    exact firstsBy_concat (·.name) taken ps p

end Admitted

namespace PlannedField

def bare (placement : Placement) (p : PlannedField) : FieldDecl :=
  match p.kind with
  | .mock =>
    { name := p.name, type := p.type
      modifiers := { visibility := .privateAccess }
      annotations := [{ name := Known.mock }] }
  | .constant =>
    { name := p.name, type := p.type
      modifiers :=
        { visibility := .privateAccess, isStatic := placement == .topLevel, isFinal := true } }

/-- The numeric type of which a constant needs a literal. -/
def numeric? (p : PlannedField) : Option Primitive :=
  if p.kind == .constant then p.type.primitive?.filter (·.isNumeric) else none

end PlannedField

/-- The literal of a numeric type that is the next draw. -/
def drawNumber (p : Primitive) (stream : WordStream) : String × WordStream :=
  match p with
  | .double => stream.smallDecimal
  | .float => (stream.smallDecimal.1 ++ "f", stream.smallDecimal.2)
  | _ => (toString stream.smallInt.1, stream.smallInt.2)

def drawNumbers (stream : WordStream) : List Primitive → List String × WordStream
  | [] => ([], stream)
  | p :: ps =>
    let (text, stream) := drawNumber p stream
    let (texts, stream) := drawNumbers stream ps
    (text :: texts, stream)

/-- What it means that these entries, and no others, have become the fields `added`. -/
structure CarriesOut (placement : Placement) (entries : List PlannedField) (draft after : Draft)
    (added : List FieldDecl) : Prop where
  target : after.target = draft.target.withFields added
  fields : added.map (·.withoutInitializer) = entries.map (·.bare placement)
  initialized : added.map (·.initializer.isSome) = entries.map (·.kind == .constant)
  numbers : (added.filterMap (·.number?), after.stream) =
    drawNumbers draft.stream (entries.filterMap (·.numeric?))
  mocks : after.mocks = entries.countP (·.kind == .mock)
  constants : after.constants = entries.countP (·.kind == .constant)

section Declared

variable (index : ClassIndex) (placement : Placement) (stream : WordStream)

theorem initializer_named_stream (name : String) (args : List TypeRef) (fieldName : String) :
    (initializer index (.named name args) fieldName stream).2 = stream := by
  unfold initializer
  dsimp only
  split
  · split <;> rfl
  · rfl

theorem withoutInitializer_declare (p : PlannedField) :
    (p.declare index placement stream).1.withoutInitializer = p.bare placement := by
  unfold PlannedField.declare PlannedField.bare
  cases p.kind <;> rfl

theorem isSome_initializer_declare (p : PlannedField) :
    (p.declare index placement stream).1.initializer.isSome = (p.kind == .constant) := by
  unfold PlannedField.declare
  cases p.kind <;> rfl

theorem number?_declare (p : PlannedField) :
    (p.declare index placement stream).1.number? =
      p.numeric?.map fun type => (drawNumber type stream).1 := by
  obtain ⟨kind, name, type⟩ := p
  cases kind with
  | mock => exact ite_self none
  | constant =>
    cases type with
    | primitive type => cases type <;> rfl
    | void | named | array => rfl

/-- A draw is made for a number only. -/
theorem declare_stream (p : PlannedField) :
    (p.declare index placement stream).2 =
      p.numeric?.elim stream fun type => (drawNumber type stream).2 := by
  obtain ⟨kind, name, type⟩ := p
  cases kind with
  | mock => rfl
  | constant =>
    cases type with
    | primitive type => cases type <;> rfl
    | void => rfl
    | array => rfl
    | named typeName args => exact initializer_named_stream index stream typeName args name

theorem map_withoutInitializer_declareAll (ps : List PlannedField) :
    (declareAll index placement stream ps).1.map (·.withoutInitializer) =
      ps.map (·.bare placement) := by
  induction ps generalizing stream with
  | nil => rfl
  | cons p ps ih =>
    rw [declareAll, List.map_cons, List.map_cons, withoutInitializer_declare, ih]

theorem map_isSome_initializer_declareAll (ps : List PlannedField) :
    (declareAll index placement stream ps).1.map (·.initializer.isSome) =
      ps.map (·.kind == .constant) := by
  induction ps generalizing stream with
  | nil => rfl
  | cons p ps ih =>
    rw [declareAll, List.map_cons, List.map_cons, isSome_initializer_declare, ih]

/-- The numbers that are declared are draws in order, and nothing else is drawn. -/
theorem drawNumbers_declareAll (ps : List PlannedField) :
    let declared := declareAll index placement stream ps
    (declared.1.filterMap (·.number?), declared.2) =
      drawNumbers stream (ps.filterMap (·.numeric?)) := by
  induction ps generalizing stream with
  | nil => rfl
  | cons p ps ih =>
    dsimp only [declareAll] at ih ⊢
    rw [List.filterMap_cons, List.filterMap_cons, number?_declare]
    have hrest := ih (p.declare index placement stream).2
    rw [declare_stream] at hrest ⊢
    cases hp : p.numeric? with
    | none =>
      rw [hp] at hrest
      exact hrest
    | some type =>
      rw [hp] at hrest
      dsimp only [Option.elim_some, Option.map_some, drawNumbers] at hrest ⊢
      rw [← hrest]

end Declared

/-- Fields are added by the plan alone: the class gets those of the entries that are admitted, each
number the next draw from the stream, and in the end all names of the plan are taken. -/
theorem insertMissing_carriesOut (index : ClassIndex) (placement : Placement) (draft : Draft)
    (vars : List Variable) :
    let entries := plan index vars
    let after := draft.insertMissing index placement vars
    (∃ added, CarriesOut placement (admitted draft.taken entries) draft after added) ∧
      ∀ name, name ∈ after.taken ↔ name ∈ draft.taken ∨ name ∈ entries.map (·.name) := by
  dsimp only
  rw [Draft.insertMissing_eq, ← fresh_eq_admitted]
  dsimp only
  refine ⟨⟨_, rfl, ?_, ?_, ?_, rfl, rfl⟩, fun name => ?_⟩
  · exact map_withoutInitializer_declareAll index placement _ _
  · exact map_isSome_initializer_declareAll index placement _ _
  · exact drawNumbers_declareAll index placement _ _
  · rw [List.mem_append, List.mem_reverse]
    constructor
    · rintro (hfresh | htaken)
      · exact .inr (List.map_subset _ (firstsBy_subset _ draft.taken _) hfresh)
      · exact .inl htaken
    · rintro (htaken | hplanned)
      · exact .inr htaken
      · obtain ⟨p, hp, rfl⟩ := List.mem_map.mp hplanned
        exact (mem_taken_or_firstsBy draft.taken hp).symm

end Scaffold

end MockScaffold
